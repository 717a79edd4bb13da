import Verdict.Result.Basic
import Verdict.Run

namespace Verdict

-- What is evaluated gets the text of its subject.
abbrev Expectation (σ : Type) := String → Run σ Result

-- The text of an item of the subject.
def itemSubject (subject : String) (index : Nat) : String := subject ++ "[" ++ toString index ++ "]"

namespace Result

-- An outcome with the lines that explain it. Without any it is a plain truth value.
def explained (text : String) (holds : Bool) (lines : List Line) : Result :=
  if lines.isEmpty then .value text (.bool holds) none else .detailed text (some holds) lines

-- An outcome that needs an explanation only when it is a failure.
def decided (text : String) (holds : Bool) (lines : List Line) : Result :=
  .explained text holds (if holds then [] else lines)

end Result

end Verdict
