import Verdict.Expectation.Basic

namespace Verdict

inductive Check (σ ι : Type) where
  -- a named test, which may change the caller's state
  | predicate (text : String) (test : ι → Run σ Bool)
  -- an expectation of its own for each item
  | satisfying (expectation : ι → Expectation σ)

namespace Check

variable {σ ι : Type}

def predicateText (item verb text : String) : String := item ++ " " ++ verb ++ " `" ++ text ++ "`"

-- The result for one item. A check that breaks off is not passed.
def result (shown : ι → String) (c : Check σ ι) (item : ι) (subject : String) : Run σ Result :=
  match c with
  | .predicate text test => do
    let holds ← (test item).orElse false
    let verb := if holds then "satisfied" else "did not satisfy"
    return .detailed (predicateText (shown item) verb text) (some holds) []
  | .satisfying expectation =>
    (expectation item subject).orElse
      (.detailed (shown item ++ " panicked during evaluation") (some false) [])

-- How the check at a position is named.
def name (c : Check σ ι) (position : Nat) : String :=
  match c with
  | .predicate text _ => "`" ++ text ++ "`"
  | .satisfying _ => "expectation #" ++ toString (position + 1)

-- The results for all items, which start at the given index of the subject.
def results (shown : ι → String) (c : Check σ ι) (subject : String) :
    Nat → List ι → Run σ (List Result)
  | _, [] => return []
  | index, item :: rest => do
    let first ← c.result shown item (itemSubject subject index)
    return first :: (← results shown c subject (index + 1) rest)

end Check

-- The results that passed, or those that did not, with their indices.
def indexedWhere (passed : Bool) (results : List Result) : List (Nat × Result) :=
  (results.zipIdx.filter fun r => r.1.passed == passed).map fun r => (r.2, r.1)

-- The result of a quantifier over the results of all items.
def Quantifier.resultOf (q : Quantifier) (subject : String) (results : List Result) : Result :=
  let passes := results.countP (·.passed)
  let judgement := q.judge passes results.length
  .quantified subject q results.length passes (results.length - passes) judgement.reportsPasses
    (indexedWhere judgement.reportsPasses results) judgement.holds

def Expectation.quantified {σ ι : Type} (shown : ι → String) (q : Quantifier) (items : List ι)
    (c : Check σ ι) : Expectation σ := fun subject => do
  return q.resultOf subject (← c.results shown subject 0 items)

end Verdict
