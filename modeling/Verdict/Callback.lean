namespace Verdict

structure Fault where
  message : String
  deriving DecidableEq, Repr, Inhabited

abbrev Callback (α : Type) := Except Fault α

-- A test that breaks off counts as not passed.
def Callback.holds (answer : Callback Bool) : Bool :=
  match answer with
  | .ok b => b
  | .error _ => false

end Verdict
