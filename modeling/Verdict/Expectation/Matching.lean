import Verdict.Remaining

namespace Verdict

namespace Matching

-- Left vertices are matched one after the other, each by a path that frees a right vertex by moving the left
-- vertices that hold the others on it.
-- The left vertex that holds each right vertex.
abbrev Owners := Array (Option Nat)

-- Right vertices that a search has not visited.
def unvisited (size : Nat) (visited : List Nat) : Nat := remaining (List.range size) visited

-- A visit leaves one vertex less.
theorem unvisited_cons_lt {size r : Nat} {visited : List Nat} (hr : r < size)
    (hv : r ∉ visited) : unvisited size (r :: visited) < unvisited size visited :=
  remaining_cons_lt (List.mem_range.2 hr) hv

-- How a search ends: with new owners, with nothing free among all that it visited, or at a vertex that
-- there is not.
inductive Outcome (size bound : Nat) where
  | found (owners : Owners)
  | exhausted (visited : List Nat) (fewer : unvisited size visited ≤ bound)
  | outside

def Outcome.weaken {size a b : Nat} (h : a ≤ b) : Outcome size a → Outcome size b
  | .found owners => .found owners
  | .exhausted visited fewer => .exhausted visited (Nat.le_trans fewer h)
  | .outside => .outside

-- Looks for a right vertex for `left` along its edges, in their order. A vertex that another holds is
-- free if that one finds a new vertex among those not visited.
def search (graph : Array (List Nat)) (owners : Owners) (left : Nat) (edges visited : List Nat) :
    Outcome owners.size (unvisited owners.size visited) :=
  match edges with
  | [] => .exhausted visited (Nat.le_refl _)
  | r :: rest =>
    if hr : r < owners.size then
      if hv : r ∈ visited then search graph owners left rest visited
      else
        match owners[r] with
        | none => .found (owners.set r (some left))
        | some holder =>
          match graph[holder]? with
          | none => .outside
          | some next =>
            match search graph owners holder next (r :: visited) with
            | .found moved => .found (moved.setIfInBounds r (some left))
            | .exhausted visited' fewer =>
              (search graph owners left rest visited').weaken
                (Nat.le_trans fewer (Nat.le_of_lt (unvisited_cons_lt hr hv)))
            | .outside => .outside
    else .outside
termination_by (unvisited owners.size visited, edges.length)
decreasing_by
  · exact Prod.Lex.right _ (by simp)
  · exact Prod.Lex.left _ _ (unvisited_cons_lt hr hv)
  · exact Prod.Lex.left _ _ (Nat.lt_of_le_of_lt fewer (unvisited_cons_lt hr hv))

-- The owners after every left vertex from a given one on had its search.
def matchAll (graph : Array (List Nat)) : List (List Nat) → Nat → Owners → Option Owners
  | [], _, owners => some owners
  | edges :: rest, left, owners =>
    match search graph owners left edges [] with
    | .found moved => matchAll graph rest (left + 1) moved
    | .exhausted _ _ => matchAll graph rest (left + 1) owners
    | .outside => none

-- Gives every left vertex the right vertex it holds, from the owners of the right vertices from a given
-- one on.
def assign : List (Option Nat) → Nat → List (Option Nat) → Option (List (Option Nat))
  | [], _, assignment => some assignment
  | none :: owners, right, assignment => assign owners (right + 1) assignment
  | some left :: owners, right, assignment =>
    if left < assignment.length then assign owners (right + 1) (assignment.set left (some right))
    else none

end Matching

-- The right vertex matched to each left vertex, given by its edges, if it has one. There is no answer
-- when an edge leads outside the right vertices.
def maximumMatching? (edges : List (List Nat)) (rightCount : Nat) :
    Option (List (Option Nat)) := do
  let owners ← Matching.matchAll edges.toArray edges 0 (Array.replicate rightCount none)
  Matching.assign owners.toList 0 (List.replicate edges.length none)

end Verdict
