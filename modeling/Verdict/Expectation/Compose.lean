import Verdict.Expectation.Basic

namespace Verdict

namespace Expectation

variable {σ : Type}

def join (op : LogicalOp) (l r : Expectation σ) : Expectation σ := fun subject => do
  let left ← l subject
  if op.settledBy left.passed then
    return .logical .expectations subject op left none left.passed true
  let right ← r subject
  return .logical .expectations subject op left (some right) right.passed false

def and (l r : Expectation σ) : Expectation σ := join .and l r

def or (l r : Expectation σ) : Expectation σ := join .or l r

def not (e : Expectation σ) : Expectation σ := fun subject => do
  let operand ← e subject
  return .negation ("NOT " ++ operand.text) operand operand.outcome
    (operand.outcome.map fun b => !b)

end Expectation

end Verdict
