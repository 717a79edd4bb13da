namespace Verdict

inductive Quantifier where
  | each
  | some
  | none
  | one
  | exactly (count : Nat)
  | atLeast (count : Nat)
  | atMost (count : Nat)
  deriving DecidableEq, Repr, Inhabited

namespace Quantifier

def name : Quantifier → String
  | .each => "each"
  | .some => "some"
  | .none => "none"
  | .one => "one"
  | .exactly _ => "exactly"
  | .atLeast _ => "at_least"
  | .atMost _ => "at_most"

-- Whether the quantifier holds, and whether the items that explain a failure are those that passed.
structure Judgement where
  holds : Bool
  reportsPasses : Bool
  deriving DecidableEq, Repr

def judge (q : Quantifier) (passes total : Nat) : Judgement :=
  match q with
  | .each => ⟨passes == total, false⟩
  | .some => ⟨0 < passes, false⟩
  | .none => ⟨passes == 0, true⟩
  | .one => ⟨passes == 1, 1 < passes⟩
  | .exactly count => ⟨passes == count, count < passes⟩
  | .atLeast count => ⟨count ≤ passes, false⟩
  | .atMost count => ⟨passes ≤ count, true⟩

def countedItems (count : Nat) : String :=
  toString count ++ (if count = 1 then " item" else " items")

-- The subject of a summary.
def phrase : Quantifier → String
  | .each => "each item"
  | .some => "some item"
  | .none => "no item"
  | .one => "exactly one item"
  | .exactly count => "exactly " ++ countedItems count
  | .atLeast count => "at least " ++ countedItems count
  | .atMost count => "at most " ++ countedItems count

end Quantifier

end Verdict
