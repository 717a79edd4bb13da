import Verdict.Assertion.Context
import Verdict.CompareOp
import Verdict.Comparison.Report
import Verdict.Expectation.Quantifier
import Verdict.TypeName

namespace Verdict

-- A line of a report at a level of nesting.
structure Line where
  indent : Nat
  text : String
  deriving DecidableEq, Repr, Inhabited

-- The same line, so many levels deeper.
def Line.deeper (n : Nat) (l : Line) : Line := ⟨n + l.indent, l.text⟩

inductive LogicalOp where
  | and
  | or
  deriving DecidableEq, Repr, Inhabited

namespace LogicalOp

-- As written in an expression.
def symbol : LogicalOp → String
  | .and => "&&"
  | .or => "||"

-- As named between expectations.
def keyword : LogicalOp → String
  | .and => "AND"
  | .or => "OR"

-- Whether the left operand alone settles the outcome.
def settledBy (op : LogicalOp) (leftPassed : Bool) : Bool :=
  match op with
  | .and => !leftPassed
  | .or => leftPassed

end LogicalOp

-- What a logical node joins.
inductive Junction where
  | expressions
  | expectations
  deriving DecidableEq, Repr, Inhabited

inductive Result where
  | assertion (context : Context) (inner : Result)
  -- without a right operand when the left one settled the outcome
  | logical (junction : Junction) (text : String) (op : LogicalOp) (left : Result)
      (right : Option Result) (value : Bool) (shortCircuited : Bool)
  | negation (text : String) (operand : Result) (operandValue : Option Bool) (value : Option Bool)
  | comparison (text : String) (op : CompareOp) (report : Comparison) (value : Bool)
  | value (text : String) (value : Value) (declared : Option DeclaredType)
  -- with the lines that explain it ready made
  | detailed (text : String) (value : Option Bool) (lines : List Line)
  -- with the results of the items that explain a failure, by their places
  | quantified (text : String) (quantifier : Quantifier) (total passes fails : Nat)
      (reportsPasses : Bool) (relevant : List (Nat × Result)) (value : Bool)
  deriving Inhabited

namespace Result

def text : Result → String
  | .assertion context _ => context.expression
  | .logical _ text .. => text
  | .negation text .. => text
  | .comparison text .. => text
  | .value text .. => text
  | .detailed text .. => text
  | .quantified text .. => text

-- A value has an outcome only if it is a truth value.
def outcome : Result → Option Bool
  | .assertion _ inner => inner.outcome
  | .logical _ _ _ _ _ holds _ => some holds
  | .negation _ _ _ holds => holds
  | .comparison _ _ _ holds => some holds
  | .value _ v _ => v.bool?
  | .detailed _ holds _ => holds
  | .quantified _ _ _ _ _ _ _ holds => some holds

def passed (r : Result) : Bool := r.outcome == some true

end Result

end Verdict
