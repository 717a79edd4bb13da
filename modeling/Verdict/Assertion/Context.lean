import Verdict.Text.Property

namespace Verdict

-- The text of the asserted expression, where it stands, and the message its author gave.
structure Context where
  expression : String
  file : String
  line : Nat
  message : Option String
  deriving DecidableEq, Repr, Inhabited

namespace Context

def of (expression file : String) (line : Nat) : Context := ⟨expression, file, line, none⟩

-- A message must show something.
def isBlankText (s : String) : Bool := s.toList.all isBlank

-- The context with the message, or nothing if the message is blank. No message leaves it alone.
def withMessage? (c : Context) : Option String → Option Context
  | none => some c
  | some message => if isBlankText message then none else some { c with message := some message }

end Context

end Verdict
