import Verdict.Report.Renderer

namespace Verdict

def headingStart : String := "Assertion failed:"

def Context.heading (c : Context) : String :=
  headingStart ++ " " ++ c.expression ++ "  at " ++ c.file ++ ":" ++ toString c.line

namespace Result

-- A result that is no assertion is rendered alone.
def messageLines (h : Heap) (config : OutputConfig) : Result → List Line
  | .assertion context inner =>
    (context.message.map Line.top).toList ++ .top context.heading ::
      ((Renderer.new config).render h inner).1.map (·.deeper 1)
  | result => ((Renderer.new config).render h result).1

end Result

def red : String := "\x1b[31m"

def plainColor : String := "\x1b[0m"

-- A line as it is printed; headings are coloured if colours are on.
def Line.printed (config : OutputConfig) (l : Line) : String :=
  String.join (List.replicate l.indent config.indent) ++
    if config.colors && headingStart.toList.isPrefixOf l.text.toList then
      red ++ l.text ++ plainColor
    else l.text

def joinLines (config : OutputConfig) (lines : List Line) : String :=
  "\n".intercalate (lines.map (·.printed config))

def Result.message (h : Heap) (config : OutputConfig) (r : Result) : String :=
  joinLines config (r.messageLines h config)

end Verdict
