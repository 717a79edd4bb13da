import Verdict.Comparison.Report
import Verdict.Result.Basic
import Verdict.Text.Quoted

namespace Verdict

def Line.top (text : String) : Line := ⟨0, text⟩

def Line.nested (text : String) : Line := ⟨1, text⟩

-- Both sides, one above the other.
def sideLines (left right : String) : List Line :=
  [.top ("Left:  " ++ left), .top ("Right: " ++ right)]

def quotedOrNull (s : Option String) : String := (s.map Quoted.text).getD "null"

def TextDiff.reportLines : TextDiff → List Line
  | .absent => []
  | .inline segments => [.top ("Diff: " ++ inlineText segments)]
  | .lines changes => .top "Diff:" :: changes.map fun c => .nested c.marked

def Mismatch.line (m : Mismatch) : Line :=
  .top ("First difference at index " ++ toString m.index ++ ": expected " ++ m.expected ++
    ", got " ++ m.actual)

def LengthDelta.line (d : LengthDelta) : Line :=
  .top ((match d.kind with | .extra => "Extra" | .missing => "Missing") ++ " elements: " ++ d.items)

def Difference.line (d : Difference) : Line :=
  .nested (d.path ++ ": expected " ++ d.left ++ ", got " ++ d.right)

-- The listed differences under a heading, and how many others there are. None listed, none said.
def differenceLines (differences : List Difference) (truncated : Nat) : List Line :=
  if differences = [] then []
  else
    .top "Differences:" :: differences.map (·.line) ++
      if truncated = 0 then [] else [.nested ("... and " ++ toString truncated ++ " more differences")]

def LengthMismatch.reportLines (m : LengthMismatch) : List Line :=
  [.top ("Expected length: " ++ toString m.expectedLength),
    .top ("Actual length: " ++ toString m.actualLength),
    .top ("Expected: " ++ m.expectedPreview), .top ("Actual: " ++ m.actualPreview)]

def sequenceHeading (hasLines custom : Bool) : String :=
  if !hasLines then "Sequences differ (diff unavailable)"
  else if custom then "Sequences differ (using custom comparer):"
  else "Sequences differ:"

def Comparison.reportLines : Comparison → List Line
  | .plain left right => sideLines left right
  | .nullable left right => sideLines left right
  | .text left right diff => sideLines (quotedOrNull left) (quotedOrNull right) ++ diff.reportLines
  | .collection left right mismatch delta =>
    sideLines left right ++ (mismatch.map (·.line)).toList ++ (delta.map (·.line)).toList
  | .object left right differences truncated =>
    sideLines left right ++ differenceLines differences truncated
  | .sequence (some lengths) _ _ _ => lengths.reportLines
  | .sequence none lines custom truncated =>
    .top (sequenceHeading lines.isSome custom) :: (lines.getD []).map .nested ++
      if truncated then [.nested "... (diff truncated)"] else []

end Verdict
