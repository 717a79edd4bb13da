import Verdict.Expr.Basic

namespace Verdict

-- The texts of the nodes in pre-order, each with the size of its subtree. A node is known by its index.
structure Shape where
  nodes : Array (String × Nat)

namespace Shape

-- A node above the nodes of its subtrees.
def above (text : String) (below : List (String × Nat)) : List (String × Nat) :=
  (text, below.length + 1) :: below

def entries {σ : Type} (h : Heap) (limit : Nat) (e : Expr σ) : List (String × Nat) :=
  above (e.text h limit) <| match e with
    | .compare _ l r | .logical _ l r => entries h limit l ++ entries h limit r
    | .not e => entries h limit e
    | .member .. | .leaf .. | .literal .. => []
    | .contains e item => entries h limit e ++ entries h limit item
    | .any e _ | .all e _ => entries h limit e
    | .sequenceEqual e other _ => entries h limit e ++ entries h limit other

def of {σ : Type} (h : Heap) (limit : Nat) (e : Expr σ) : Shape := ⟨(entries h limit e).toArray⟩

def text (s : Shape) (index : Nat) : String := ((s.nodes[index]?).map (·.1)).getD ""

-- An index behind the last node counts as a single node.
def size (s : Shape) (index : Nat) : Nat := ((s.nodes[index]?).map (·.2)).getD 1

-- The index of a child, by its place among the children.
def childIndex (s : Shape) (index : Nat) : Nat → Nat
  | 0 => index + 1
  | place + 1 => s.childIndex index place + s.size (s.childIndex index place)

def childIndices (s : Shape) (index count : Nat) : List Nat :=
  (List.range count).map (s.childIndex index)

end Shape

end Verdict
