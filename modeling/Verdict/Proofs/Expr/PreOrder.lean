import Verdict.Proofs.Expr.Recall
import Mathlib.Data.List.Nodup

namespace Verdict

variable {σ : Type} {h : Heap} {limit : Nat}

namespace Expr

-- The part of an expression at a position.
def at? (e : Expr σ) : Position → Option (Expr σ)
  | [] => some e
  | i :: position => (e.at? position).bind fun part => part.children[i]?

-- All parts of an expression with their positions: the expression itself, then the parts of its operands, one operand
-- after the other.
def nodes (position : Position) (e : Expr σ) : List (Position × Expr σ) :=
  (position, e) :: match e with
    | .compare _ l r | .logical _ l r => l.nodes (0 :: position) ++ r.nodes (1 :: position)
    | .not e => e.nodes (0 :: position)
    | .member .. | .leaf .. | .literal .. => []
    | .contains e item => e.nodes (0 :: position) ++ item.nodes (1 :: position)
    | .any e _ | .all e _ => e.nodes (0 :: position)
    | .sequenceEqual e other _ => e.nodes (0 :: position) ++ other.nodes (1 :: position)

-- The parts of the operands, a list for each operand.
def operandNodes (position : Position) (e : Expr σ) : List (List (Position × Expr σ)) :=
  e.children.mapIdx fun i child => child.nodes (i :: position)

theorem nodes_eq (e : Expr σ) (position : Position) :
    e.nodes position = (position, e) :: (e.operandNodes position).flatten := by
  cases e <;> simp [nodes, operandNodes, children]

-- What holds of an expression whenever it holds of the operands holds of every expression.
theorem induction_on_operands {motive : Expr σ → Prop}
    (hstep : ∀ e, (∀ child ∈ e.children, motive child) → motive e) (e : Expr σ) : motive e := by
  induction e with
  | member | leaf | literal => exact hstep _ nofun
  | not e ih | any e p ih | all e p ih => exact hstep _ (List.forall_mem_singleton.2 ih)
  | compare op l r ihl ihr | logical op l r ihl ihr | contains l r ihl ihr
  | sequenceEqual l r c ihl ihr => exact hstep _ (List.forall_mem_cons.2 ⟨ihl, List.forall_mem_singleton.2 ihr⟩)

-- The parts of a part, in pre-order, stand in a row from its index on.
def Stands (all : List (Position × Expr σ)) (index : Nat) (position : Position) (e : Expr σ) : Prop :=
  e.nodes position <+: all.drop index

variable {root e child : Expr σ} {all : List (Position × Expr σ)} {position : Position} {index i : Nat}

theorem drop_operandNodes (hchild : e.children[i]? = some child) :
    (e.operandNodes position).drop i = child.nodes (i :: position) :: (e.operandNodes position).drop (i + 1) := by
  obtain ⟨hi, rfl⟩ := List.getElem?_eq_some_iff.1 hchild
  have hlt : i < (e.operandNodes position).length := by rwa [operandNodes, List.length_mapIdx]
  rw [List.drop_eq_getElem_cons hlt]
  congr 1
  exact List.getElem_mapIdx ..

theorem exists_operand_of_mem {nodes : List (Position × Expr σ)} (hnodes : nodes ∈ e.operandNodes position) :
    ∃ (i : Nat) (child : Expr σ), e.children[i]? = some child ∧ nodes = child.nodes (i :: position) := by
  obtain ⟨i, hi, rfl⟩ := List.mem_mapIdx.1 hnodes
  exact ⟨i, _, List.getElem?_eq_getElem hi, rfl⟩

theorem eq_or_exists_operand_of_mem {part : Position × Expr σ} (hpart : part ∈ e.nodes position) :
    part = (position, e) ∨
      ∃ (i : Nat) (child : Expr σ), e.children[i]? = some child ∧ part ∈ child.nodes (i :: position) := by
  rw [nodes_eq, List.mem_cons] at hpart
  refine hpart.imp_right fun hbelow => ?_
  obtain ⟨nodes, hnodes, hpart⟩ := List.mem_flatten.1 hbelow
  obtain ⟨i, child, hchild, rfl⟩ := exists_operand_of_mem hnodes
  exact ⟨i, child, hchild, hpart⟩

theorem Stands.getElem? (hstands : Stands all index position e) : all[index]? = some (position, e) := by
  obtain ⟨rest, hrest⟩ := hstands
  rw [nodes_eq, List.cons_append] at hrest
  rw [← List.head?_drop, ← hrest, List.head?_cons]

def Contiguous (all : List (Position × Expr σ)) : Prop :=
  ∀ index position e, all[index]? = some (position, e) → Stands all index position e

theorem Contiguous.append {all all' : List (Position × Expr σ)} (hall : Contiguous all)
    (hall' : Contiguous all') : Contiguous (all ++ all') := by
  intro index position e hnode
  by_cases hleft : index < all.length
  · rw [List.getElem?_append_left hleft] at hnode
    rw [Stands, List.drop_append_of_le_length (Nat.le_of_lt hleft)]
    exact (hall index position e hnode).trans (List.prefix_append _ _)
  · have hright : all.length ≤ index := Nat.le_of_not_lt hleft
    rw [List.getElem?_append_right hright] at hnode
    rw [Stands, List.drop_append, List.drop_of_length_le hright, List.nil_append]
    exact hall' _ position e hnode

theorem contiguous_flatten {lists : List (List (Position × Expr σ))}
    (hall : ∀ nodes ∈ lists, Contiguous nodes) : Contiguous lists.flatten := by
  induction lists with
  | nil => exact nofun
  | cons nodes rest ih =>
    obtain ⟨hnodes, hrest⟩ := List.forall_mem_cons.1 hall
    exact hnodes.append (ih hrest)

theorem contiguous_nodes (e : Expr σ) (position : Position) : Contiguous (e.nodes position) := by
  induction e using induction_on_operands generalizing position with
  | hstep e ih =>
    have hbelow : Contiguous (e.operandNodes position).flatten := by
      refine contiguous_flatten fun nodes hnodes => ?_
      obtain ⟨i, child, hchild, rfl⟩ := exists_operand_of_mem hnodes
      exact ih child (List.mem_of_getElem? hchild) (i :: position)
    intro index p part hnode
    rw [nodes_eq e position] at hnode
    rw [Stands, nodes_eq e position]
    cases index with
    | zero =>
      rw [List.getElem?_cons_zero, Option.some.injEq, Prod.mk.injEq] at hnode
      obtain ⟨rfl, rfl⟩ := hnode
      rw [nodes_eq]
      exact List.prefix_rfl
    | succ index =>
      rw [List.getElem?_cons_succ] at hnode
      rw [List.drop_succ_cons]
      exact hbelow index p part hnode

-- The positions of the parts begin at the position of the whole, so that those of two operands are different.
theorem suffix_of_mem_nodes {part : Position × Expr σ} (hpart : part ∈ e.nodes position) :
    position <:+ part.1 := by
  induction e using induction_on_operands generalizing position with
  | hstep e ih =>
    obtain rfl | ⟨i, child, hchild, hpart⟩ := eq_or_exists_operand_of_mem hpart
    · exact List.suffix_rfl
    · exact (List.suffix_cons i position).trans (ih child (List.mem_of_getElem? hchild) hpart)

theorem notMem_positions_operand (e : Expr σ) (i : Nat) (position : Position) :
    position ∉ (e.nodes (i :: position)).map (·.1) := by
  intro hmem
  obtain ⟨part, hpart, hposition⟩ := List.mem_map.1 hmem
  have hlength := (suffix_of_mem_nodes hpart).length_le
  rw [hposition, List.length_cons] at hlength
  omega

theorem disjoint_positions_operands (l r : Expr σ) {i j : Nat} (hij : i ≠ j) (position : Position) :
    ((l.nodes (i :: position)).map (·.1)).Disjoint ((r.nodes (j :: position)).map (·.1)) := by
  intro p hl hr
  obtain ⟨part, hpart, rfl⟩ := List.mem_map.1 hl
  obtain ⟨part', hpart', hsame⟩ := List.mem_map.1 hr
  exact not_mem_subtree_cons hij position part.1 (suffix_of_mem_nodes hpart)
    (hsame ▸ suffix_of_mem_nodes hpart')

theorem nodup_positions (e : Expr σ) (position : Position) : ((e.nodes position).map (·.1)).Nodup := by
  induction e using induction_on_operands generalizing position with
  | hstep e ih =>
    rw [nodes_eq, List.map_cons, List.map_flatten, List.nodup_cons, List.nodup_flatten]
    refine ⟨fun hmem => ?_, fun positions hpositions => ?_, ?_⟩
    · obtain ⟨positions, hpositions, hmem⟩ := List.mem_flatten.1 hmem
      obtain ⟨nodes, hnodes, rfl⟩ := List.mem_map.1 hpositions
      obtain ⟨i, child, -, rfl⟩ := exists_operand_of_mem hnodes
      exact notMem_positions_operand child i position hmem
    · obtain ⟨nodes, hnodes, rfl⟩ := List.mem_map.1 hpositions
      obtain ⟨i, child, hchild, rfl⟩ := exists_operand_of_mem hnodes
      exact ih child (List.mem_of_getElem? hchild) (i :: position)
    · rw [List.pairwise_map, operandNodes, List.pairwise_iff_getElem]
      intro i j hi hj hij
      rw [List.getElem_mapIdx, List.getElem_mapIdx]
      exact disjoint_positions_operands _ _ (Nat.ne_of_lt hij) position

theorem at?_of_mem_nodes {part : Position × Expr σ} (hat : root.at? position = some e)
    (hpart : part ∈ e.nodes position) : root.at? part.1 = some part.2 := by
  induction e using induction_on_operands generalizing position with
  | hstep e ih =>
    obtain rfl | ⟨i, child, hchild, hpart⟩ := eq_or_exists_operand_of_mem hpart
    · exact hat
    · have hatChild : root.at? (i :: position) = some child := by rw [at?, hat, Option.bind_some, hchild]
      exact ih child (List.mem_of_getElem? hchild) hatChild hpart

end Expr

namespace Shape

open Verdict.Expr

variable {root e child : Expr σ} {position : Position} {index i : Nat}

theorem entries_eq (e : Expr σ) :
    entries h limit e = above (e.text h limit) (e.children.map (entries h limit)).flatten := by
  cases e <;> simp [entries, children]

-- What the shape has for a part: its text, and how many nodes it has.
theorem entries_eq_map (e : Expr σ) (position : Position) :
    entries h limit e = (e.nodes position).map fun part => (part.2.text h limit, (part.2.nodes part.1).length) := by
  induction e using induction_on_operands generalizing position with
  | hstep e ih =>
    have hoperands : e.children.map (entries h limit) = (e.operandNodes position).map
        (List.map fun part => (part.2.text h limit, (part.2.nodes part.1).length)) := by
      refine List.ext_getElem (by simp only [operandNodes, List.length_map, List.length_mapIdx]) fun i hi hi' => ?_
      simp only [operandNodes, List.getElem_map, List.getElem_mapIdx]
      exact ih _ (List.getElem_mem _) (i :: position)
    rw [entries_eq, hoperands, ← List.map_flatten, above, List.length_map, nodes_eq, List.map_cons, nodes_eq,
      List.length_cons]

theorem getElem?_nodes_of (hnode : (root.nodes [])[index]? = some (position, e)) :
    (of h limit root).nodes[index]? = some (e.text h limit, (e.nodes position).length) := by
  rw [of, entries_eq_map root [], List.getElem?_toArray, List.getElem?_map, hnode, Option.map_some]

theorem text_of (hnode : (root.nodes [])[index]? = some (position, e)) :
    (of h limit root).text index = e.text h limit := by
  rw [text, getElem?_nodes_of hnode, Option.map_some, Option.getD_some]

theorem size_of (hnode : (root.nodes [])[index]? = some (position, e)) :
    (of h limit root).size index = (e.nodes position).length := by
  rw [size, getElem?_nodes_of hnode, Option.map_some, Option.getD_some]

-- From the index of an operand on, there are the parts of this operand and of those behind it, as the sizes of the
-- operands in front have been passed.
theorem operands_stand (h : Heap) (limit : Nat) (hstands : Stands (root.nodes []) index position e)
    (i : Nat) : ((e.operandNodes position).drop i).flatten <+:
      (root.nodes []).drop ((of h limit root).childIndex index i) := by
  induction i with
  | zero =>
    obtain ⟨rest, hrest⟩ := hstands
    rw [nodes_eq, List.cons_append] at hrest
    refine ⟨rest, ?_⟩
    rw [List.drop_zero, childIndex, ← List.drop_drop, ← hrest, List.drop_succ_cons, List.drop_zero]
  | succ i ih =>
    cases hchild : e.children[i]? with
    | none =>
      have hdone : (e.operandNodes position).drop (i + 1) = [] := by
        rw [operandNodes, List.drop_eq_nil_iff, List.length_mapIdx]
        exact (List.getElem?_eq_none_iff.1 hchild).trans (Nat.le_succ i)
      rw [hdone]
      exact List.nil_prefix
    | some child =>
      rw [drop_operandNodes hchild, List.flatten_cons] at ih
      have hoperand : Stands (root.nodes []) ((of h limit root).childIndex index i) (i :: position) child :=
        (List.prefix_append _ _).trans ih
      obtain ⟨rest, hrest⟩ := ih
      have hbehind := congrArg (List.drop (child.nodes (i :: position)).length) hrest
      rw [List.append_assoc, List.drop_left, List.drop_drop] at hbehind
      exact ⟨rest, by rw [childIndex, size_of hoperand.getElem?, hbehind]⟩

theorem stands_childIndex (h : Heap) (limit : Nat) (hstands : Stands (root.nodes []) index position e)
    (hchild : e.children[i]? = some child) :
    Stands (root.nodes []) ((of h limit root).childIndex index i) (i :: position) child := by
  have hoperands := operands_stand h limit hstands i
  rw [drop_operandNodes hchild, List.flatten_cons] at hoperands
  exact (List.prefix_append _ _).trans hoperands

end Shape

namespace Expr

-- What the shape says of the part at an index: its text, and the indices of its operands, of which there may be fewer
-- than are asked for.
structure Locates (shape : Shape) (h : Heap) (limit : Nat) (all : List (Position × Expr σ)) (index : Nat)
    (position : Position) (e : Expr σ) : Prop where
  text_eq : shape.text index = e.text h limit
  operands : ∀ count i child, i < count → e.children[i]? = some child →
    ∃ c, (shape.childIndices index count)[i]? = some c ∧ all[c]? = some (i :: position, child)
  negated : ∀ operand, e = .not operand → all[index + 1]? = some (0 :: position, operand)

theorem Stands.locates {root e : Expr σ} {index : Nat} {position : Position}
    (hstands : Stands (root.nodes []) index position e) :
    Locates (.of h limit root) h limit (root.nodes []) index position e where
  text_eq := Shape.text_of hstands.getElem?
  operands count i child hi hchild := by
    have hoperand := Shape.stands_childIndex h limit hstands hchild
    refine ⟨(Shape.of h limit root).childIndex index i, ?_, hoperand.getElem?⟩
    rw [Shape.childIndices, List.getElem?_map, List.getElem?_range hi, Option.map_some]
  negated operand he := by
    subst he
    exact (Shape.stands_childIndex (i := 0) h limit hstands rfl).getElem?

theorem exists_stands {root e : Expr σ} {position : Position} (hat : root.at? position = some e) :
    ∃ index, Stands (root.nodes []) index position e := by
  induction position generalizing e with
  | nil =>
    cases hat
    exact ⟨0, List.prefix_rfl⟩
  | cons i position ih =>
    obtain ⟨parent, hparent, hchild⟩ := Option.bind_eq_some_iff.1 hat
    obtain ⟨index, hstands⟩ := ih hparent
    exact ⟨_, Shape.stands_childIndex .empty 0 hstands hchild⟩

theorem index_unique {root e e' : Expr σ} {position : Position} {index index' : Nat}
    (hindex : (root.nodes [])[index]? = some (position, e))
    (hindex' : (root.nodes [])[index']? = some (position, e')) : index = index' := by
  have hposition : ((root.nodes []).map (·.1))[index]? = some position := by
    rw [List.getElem?_map, hindex, Option.map_some]
  have hposition' : ((root.nodes []).map (·.1))[index']? = some position := by
    rw [List.getElem?_map, hindex', Option.map_some]
  obtain ⟨hlt, -⟩ := List.getElem?_eq_some_iff.1 hposition
  exact (List.getElem?_inj hlt (nodup_positions root [])).1 (hposition.trans hposition'.symm)

end Expr

end Verdict
