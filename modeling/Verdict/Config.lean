namespace Verdict

structure Config where
  -- put in front of a line once for every level it is nested
  indent : String
  -- longer texts are cut before they are compared
  maxTextLength : Nat
  -- slots in the preview of a sequence
  previewItems : Nat
  -- slots for items that one side of a comparison has too many, or that a call lists
  maxExtraItems : Nat
  -- differences listed between two objects
  maxDifferences : Nat
  -- unchanged lines in front of each changed block of a sequence diff
  contextLines : Nat
  -- lines of a sequence diff
  maxDiffLines : Nat
  deriving DecidableEq, Repr

namespace Config

def standard : Config where
  indent := "  "
  maxTextLength := 1000
  previewItems := 10
  maxExtraItems := 10
  maxDifferences := 20
  contextLines := 2
  maxDiffLines := 50

end Config

instance : Inhabited Config := ⟨.standard⟩

end Verdict
