import Verdict.Assertion.Failure

namespace Verdict

-- One error of a chain, by the full name of its type and its text.
structure Cause where
  typeName : String
  text : String
  deriving DecidableEq, Repr

-- How an action failed: the full name of the type it declares for its errors, and the chain of errors
-- from the outermost inwards.
structure ActionFailure where
  typeName : String
  causes : List Cause
  deriving DecidableEq, Repr

def ActionFailure.detail (f : ActionFailure) : String :=
  ": ".intercalate (f.causes.map (·.text))

-- The error of the expected type, if the action failed.
structure Thrown where
  expected : String
  error : Option Cause
  deriving DecidableEq, Repr

namespace Thrown

def threw (t : Thrown) : Bool := t.error.isSome

-- The first error of the expected type in the chain is the one that was thrown. An action that failed
-- with other errors only is not what was expected.
def ofOutcome (expected : String) : Option ActionFailure → Except AssertionError Thrown
  | none => .ok ⟨expected, none⟩
  | some failure =>
    match failure.causes.find? (·.typeName == expected) with
    | some cause => .ok ⟨expected, some cause⟩
    | none =>
      .error (.unexpectedError (shortTypeName expected) (shortTypeName failure.typeName)
        failure.detail)

def missingText (expected : String) : String :=
  "Expected " ++ shortTypeName expected ++ " to be returned, but the action succeeded"

def expectation {σ : Type} (t : Thrown) : Expectation σ := fun subject =>
  return .decided subject t.threw [.top (missingText t.expected)]

end Thrown

end Verdict
