import Verdict.Expectation.Basic
import Verdict.Expr.Evaluation
import Verdict.Report.Message

namespace Verdict

inductive AssertionError where
  -- with the rendered message, and the result it was rendered from
  | failed (message : String) (result : Result)
  -- the author's message shows nothing
  | invalidMessage
  -- an action failed with an error of another type than the expected one
  | unexpectedError (expected actual detail : String)

namespace AssertionError

def message : AssertionError → String
  | .failed message _ => message
  | .invalidMessage => "assertion message must not be empty or whitespace"
  | .unexpectedError expected actual detail =>
    "expected error of type " ++ expected ++ ", but " ++ actual ++ " was returned: " ++ detail

def isFailure : AssertionError → Bool
  | .failed .. => true
  | _ => false

def result? : AssertionError → Option Result
  | .failed _ r => some r
  | _ => none

end AssertionError

abbrev Verified := Except AssertionError Unit

-- Nothing is rendered for a result that passed.
def Result.settle (h : Heap) (config : Config) (r : Result) : Verified :=
  if r.passed then .ok () else .error (.failed (r.message h (.of config)) r)

variable {σ : Type}

-- The result of an asserted expression.
def Expr.assess (h : Heap) (config : Config) (cache : ShapeCache) (e : Expr σ) (c : Context) :
    Run σ Result :=
  return .assertion c (← e.evaluate h config cache)

def Expr.verify (h : Heap) (config : Config) (cache : ShapeCache) (e : Expr σ) (c : Context) :
    Run σ Verified :=
  return (← e.assess h config cache c).settle h config

-- The subject of an asserted expectation is the expression of its context.
def Expectation.verify (h : Heap) (config : Config) (e : Expectation σ) (c : Context) :
    Run σ Verified :=
  return (Result.assertion c (← e c.expression)).settle h config

-- The message is looked at before the truth value.
def verifyBool (h : Heap) (config : Config) (holds : Bool) (c : Context)
    (message : Option String) : Verified :=
  match c.withMessage? message with
  | none => .error .invalidMessage
  | some c => (Result.assertion c (.value c.expression (.bool holds) none)).settle h config

-- Breaks off with the message of what was not verified.
def Verified.insist : Verified → Run σ Unit
  | .ok () => return ()
  | .error e => throw ⟨e.message⟩

end Verdict
