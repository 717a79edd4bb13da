import Verdict.Report.ComparisonLines
import Verdict.Value.Display
import Verdict.Config

namespace Verdict

structure OutputConfig where
  indent : String
  previewItems : Nat
  colors : Bool
  deriving DecidableEq, Repr, Inhabited

def OutputConfig.of (config : Config) : OutputConfig := ⟨config.indent, config.previewItems, false⟩

namespace Result

def truthText (b : Bool) : String := if b then "True" else "False"

def operandText : Option Bool → String
  | some b => truthText b
  | none => "null"

def shownValue (h : Heap) (config : OutputConfig) : Value → String
  | .bool b => truthText b
  | v => v.display h config.previewItems

-- Lines under a label: the first one beside it, the others at least one level below.
def labelled (label : String) : List Line → List Line
  | [] => [.top (label ++ ": ")]
  | first :: rest =>
    .top (label ++ ": " ++ first.text) :: rest.map fun l => ⟨max l.indent 1, l.text⟩

-- A node's own text above its lines.
def headed (bare : Bool) (text : String) (lines : List Line) : List Line :=
  if bare then lines else .top text :: lines.map (·.deeper 1)

-- Which operand decided, right operands that were not evaluated counting as not passed.
def explanation (op : LogicalOp) (leftPassed rightPassed : Bool) : String :=
  match op, leftPassed, rightPassed with
  | .and, true, true => "Both operands were true"
  | .and, true, false => "Right operand was false"
  | .and, false, _ => "Left operand was false"
  | .or, true, _ => "Left operand was true"
  | .or, false, true => "Right operand was true"
  | .or, false, false => "Both operands were false"

def junctionLabel : Junction → LogicalOp → String
  | .expressions, op => op.symbol
  | .expectations, op => op.keyword

def summary (q : Quantifier) (total relevant : Nat) (reportsPasses : Bool) : String :=
  "Expected " ++ q.phrase ++ " to satisfy expectation, but " ++ toString relevant ++ " of " ++
    toString total ++ " " ++ (if reportsPasses then "passed" else "failed") ++ ":"

def placeLabel (index : Nat) : String := "[" ++ toString index ++ "]"

-- Whether the node to be rendered goes without its own text. Asking takes it back, so that no other node does.
def takeBare : StateM Bool Bool := modifyGet fun bare => (bare, false)

mutual

-- The lines of a node. One that passed is a single line, unless it is forced open. An assertion leaves it to
-- what it asserts to go without its own text.
def rendered (h : Heap) (config : OutputConfig) (force : Bool) (r : Result) :
    StateM Bool (List Line) := do
  let bare ← takeBare
  if r.passed && !force then return [.top "True"]
  match r with
  | .assertion _ inner =>
    set bare
    inner.rendered h config force
  | .value _ v _ => return [.top (shownValue h config v)]
  | .logical junction text op left right _ shortCircuited =>
    let leftLines ← left.rendered h config false
    let rightLines ← if shortCircuited then pure [] else renderedRight h config right
    return headed bare text
      (labelled "Left" leftLines ++ rightLines ++
        [.top (junctionLabel junction op ++ ": " ++
          explanation op left.passed (right.any (·.passed)))])
  | .negation text operand operandValue _ =>
    let operandLines ← operand.rendered h config false
    return headed bare text
      (labelled "Operand" operandLines ++ [.top ("!: Operand was " ++ operandText operandValue)])
  | .comparison text _ report _ => return headed bare text report.reportLines
  | .detailed text _ detail => return headed bare text detail
  | .quantified text q total _ _ reportsPasses relevant _ =>
    let itemLines ← renderedItems h config relevant
    return headed bare text
      (.top (summary q total relevant.length reportsPasses) :: itemLines.map (·.deeper 1))

def renderedRight (h : Heap) (config : OutputConfig) : Option Result → StateM Bool (List Line)
  | none => return []
  | some right => do return labelled "Right" (← right.rendered h config false)

def renderedItems (h : Heap) (config : OutputConfig) : List (Nat × Result) → StateM Bool (List Line)
  | [] => return []
  | (index, result) :: rest => do
    let first ← result.rendered h config true
    return labelled (placeLabel index) first ++ (← renderedItems h config rest)

end

end Result

-- Renders results one after the other, and knows whether the next node goes without its own text.
structure Renderer where
  config : OutputConfig
  bare : Bool
  deriving DecidableEq, Repr

namespace Renderer

def new (config : OutputConfig) : Renderer := ⟨config, true⟩

def render (r : Renderer) (h : Heap) (result : Result) : List Line × Renderer :=
  let (lines, bare) := (result.rendered h r.config false).run r.bare
  (lines, { r with bare })

end Renderer

end Verdict
