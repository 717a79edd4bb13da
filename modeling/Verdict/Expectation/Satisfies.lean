import Verdict.Expectation.Matching
import Verdict.Expectation.Quantified
import Verdict.Report.ComparisonLines

namespace Verdict

namespace Satisfies

variable {σ ι : Type}

-- The indices of the items that pass a check.
def accepted (results : List Result) : List Nat := (indexedWhere true results).map (·.1)

-- The items that pass each check; every check meets every item, one check after the other.
def edges (shown : ι → String) (subject : String) (items : List ι) :
    List (Check σ ι) → Run σ (List (List Nat))
  | [] => return []
  | c :: rest => do
    let first ← c.results shown subject 0 items
    return accepted first :: (← edges shown subject items rest)

def indexList (indices : List Nat) : String := "[" ++ ", ".intercalate (indices.map toString) ++ "]"

-- Why a check has no item of its own.
def blame (accepted : List Nat) : String :=
  if accepted.isEmpty then "matched no item"
  else "only matched items already taken: " ++ indexList accepted

def summary (checks matched : Nat) : String :=
  "Expected " ++ toString checks ++ " checks to each match a distinct item, but only " ++
    toString matched ++ " could be matched:"

-- A line for each check without an item.
def unmatchedLines (checks : List (Check σ ι)) (edges : List (List Nat))
    (assignment : List (Option Nat)) : List Line :=
  ((checks.zip (edges.zip assignment)).zipIdx.filter fun c => c.1.2.2.isNone).map fun c =>
    .nested (c.1.1.name c.2 ++ " " ++ blame c.1.2.1)

end Satisfies

-- All edges lead to items, so that there always is a matching.
def Expectation.satisfies {σ ι : Type} (shown : ι → String) (items : List ι)
    (checks : List (Check σ ι)) : Expectation σ := fun subject => do
  let edges ← Satisfies.edges shown subject items checks
  let assignment := (maximumMatching? edges items.length).getD []
  let matched := assignment.countP (·.isSome)
  return .decided subject (matched == checks.length)
    (.top (Satisfies.summary checks.length matched) ::
      Satisfies.unmatchedLines checks edges assignment)

end Verdict
