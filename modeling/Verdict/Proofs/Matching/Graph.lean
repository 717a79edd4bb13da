import Mathlib.Data.Finset.Card
import Mathlib.Order.Bounds.Basic

namespace Verdict

def HasEdge (edges : List (List Nat)) (l r : Nat) : Prop := ∃ es, edges[l]? = some es ∧ r ∈ es

-- Edges of which no two meet.
structure IsMatching (edges : List (List Nat)) (M : Finset (Nat × Nat)) : Prop where
  edge : ∀ {l r : Nat}, (l, r) ∈ M → HasEdge edges l r
  left : ∀ {l r r' : Nat}, (l, r) ∈ M → (l, r') ∈ M → r = r'
  right : ∀ {l l' r : Nat}, (l, r) ∈ M → (l', r) ∈ M → l = l'

def matchingSizes (edges : List (List Nat)) : Set Nat :=
  {n | ∃ M, IsMatching edges M ∧ M.card = n}

variable {edges : List (List Nat)} {M H : Finset (Nat × Nat)} {V : Finset Nat} {k n : Nat}

theorem hasEdge_take_iff {l r : Nat} : HasEdge (edges.take k) l r ↔ l < k ∧ HasEdge edges l r := by
  rw [HasEdge, HasEdge, List.getElem?_take]
  by_cases hl : l < k
  · rw [if_pos hl, and_iff_right hl]
  · rw [if_neg hl]
    exact iff_of_false (fun ⟨_, hnone, _⟩ => nomatch hnone) fun h => hl h.1

theorem HasEdge.take_succ {l r : Nat} (h : HasEdge (edges.take k) l r) :
    HasEdge (edges.take (k + 1)) l r := by
  obtain ⟨hl, hedge⟩ := hasEdge_take_iff.1 h
  exact hasEdge_take_iff.2 ⟨Nat.lt_succ_of_lt hl, hedge⟩

namespace IsMatching

theorem empty (edges : List (List Nat)) : IsMatching edges ∅ :=
  ⟨fun hp => absurd hp (Finset.notMem_empty _), fun hp => absurd hp (Finset.notMem_empty _),
    fun hp => absurd hp (Finset.notMem_empty _)⟩

theorem subset (h : IsMatching edges M) (hsub : H ⊆ M) : IsMatching edges H :=
  ⟨fun hp => h.edge (hsub hp), fun hp hq => h.left (hsub hp) (hsub hq),
    fun hp hq => h.right (hsub hp) (hsub hq)⟩

theorem of_unused (h : IsMatching (edges.take (k + 1)) M) (hunused : ∀ r, (k, r) ∉ M) :
    IsMatching (edges.take k) M := by
  refine ⟨fun {l r} hp => ?_, h.left, h.right⟩
  obtain ⟨hl, hedge⟩ := hasEdge_take_iff.1 (h.edge hp)
  have hne : l ≠ k := fun heq => hunused r (heq ▸ hp)
  exact hasEdge_take_iff.2 ⟨by omega, hedge⟩

-- One more left vertex adds at most one edge to a matching.
theorem card_le_succ (h : IsMatching (edges.take (k + 1)) M)
    (hmax : n ∈ upperBounds (matchingSizes (edges.take k))) : M.card ≤ n + 1 := by
  have hlast : (M.filter fun p => p.1 = k).card ≤ 1 := by
    rw [Finset.card_le_one]
    intro p hp q hq
    obtain ⟨hp, hpk⟩ := Finset.mem_filter.1 hp
    obtain ⟨hq, hqk⟩ := Finset.mem_filter.1 hq
    have hleft : p.1 = q.1 := hpk.trans hqk.symm
    exact Prod.ext hleft (h.left (l := p.1) hp (hleft ▸ hq))
  have hinit : (M.filter fun p => ¬p.1 = k).card ≤ n := by
    refine hmax ⟨_, (h.subset (Finset.filter_subset _ M)).of_unused fun r hr => ?_, rfl⟩
    exact (Finset.mem_filter.1 hr).2 rfl
  have hsplit := Finset.card_filter_add_card_filter_not (s := M) (p := fun p => p.1 = k)
  omega

-- The edges of one matching outside `V` go together with the edges of another inside it, if the left
-- vertices that hold `V` in the other lead nowhere else.
theorem exchange (hM : IsMatching edges M) (hH : IsMatching edges H)
    (hV : ∀ r ∈ V, ∃ l, (l, r) ∈ H ∧ ∀ r', HasEdge edges l r' → r' ∈ V) :
    IsMatching edges ((M.filter fun p => p.2 ∉ V) ∪ H.filter fun p => p.2 ∈ V) := by
  have disjoint {l r r' : Nat} (hr : r ∉ V) (hr' : r' ∈ V) (hp : (l, r) ∈ M) (hq : (l, r') ∈ H) :
      False := by
    obtain ⟨l', hl', honly⟩ := hV r' hr'
    obtain rfl := hH.right hl' hq
    exact hr (honly r (hM.edge hp))
  constructor
  · intro l r hp
    rcases Finset.mem_union.1 hp with hp | hp
    · exact hM.edge (Finset.mem_filter.1 hp).1
    · exact hH.edge (Finset.mem_filter.1 hp).1
  · intro l r r' hp hq
    rcases Finset.mem_union.1 hp with hp | hp <;> rcases Finset.mem_union.1 hq with hq | hq <;>
      obtain ⟨hp, hr⟩ := Finset.mem_filter.1 hp <;> obtain ⟨hq, hr'⟩ := Finset.mem_filter.1 hq
    · exact hM.left hp hq
    · exact (disjoint hr hr' hp hq).elim
    · exact (disjoint hr' hr hq hp).elim
    · exact hH.left hp hq
  · intro l l' r hp hq
    rcases Finset.mem_union.1 hp with hp | hp <;> rcases Finset.mem_union.1 hq with hq | hq <;>
      obtain ⟨hp, hr⟩ := Finset.mem_filter.1 hp <;> obtain ⟨hq, hr'⟩ := Finset.mem_filter.1 hq
    · exact hM.right hp hq
    · exact absurd hr' hr
    · exact absurd hr hr'
    · exact hH.right hp hq

theorem take_succ (h : IsMatching (edges.take k) M) : IsMatching (edges.take (k + 1)) M :=
  ⟨fun hp => (h.edge hp).take_succ, h.left, h.right⟩

-- One more left vertex that leads only into such a `V` makes no matching larger: the exchanged one would
-- do without it.
theorem card_le_of_taken (hM : IsMatching (edges.take (k + 1)) M)
    (hH : IsMatching (edges.take k) H)
    (hmax : H.card ∈ upperBounds (matchingSizes (edges.take k)))
    (hV : ∀ r ∈ V, ∃ l, (l, r) ∈ H ∧ ∀ r', HasEdge edges l r' → r' ∈ V)
    (hk : ∀ r, HasEdge edges k r → r ∈ V) : M.card ≤ H.card := by
  have hfew : (M.filter fun p => p.2 ∈ V).card ≤ V.card := by
    refine Finset.card_le_card_of_injOn Prod.snd (fun p hp => (Finset.mem_filter.1 hp).2) ?_
    rintro ⟨l, r⟩ hp ⟨l', r'⟩ hq (rfl : r = r')
    obtain rfl := hM.right (Finset.mem_filter.1 hp).1 (Finset.mem_filter.1 hq).1
    rfl
  have hheld : V.card ≤ (H.filter fun p => p.2 ∈ V).card := by
    refine (Finset.card_le_card (t := (H.filter fun p => p.2 ∈ V).image Prod.snd) ?_).trans
      Finset.card_image_le
    intro r hr
    obtain ⟨l, hl, -⟩ := hV r hr
    exact Finset.mem_image.2 ⟨(l, r), Finset.mem_filter.2 ⟨hl, hr⟩, rfl⟩
  have hexchanged := hM.exchange hH.take_succ fun r hr => by
    obtain ⟨l, hl, honly⟩ := hV r hr
    exact ⟨l, hl, fun r' hr' => honly r' (hasEdge_take_iff.1 hr').2⟩
  have hunused : ∀ r, (k, r) ∉ (M.filter fun p => p.2 ∉ V) ∪ H.filter fun p => p.2 ∈ V := by
    intro r hr
    rcases Finset.mem_union.1 hr with hr | hr
    · obtain ⟨hp, hout⟩ := Finset.mem_filter.1 hr
      exact hout (hk r (hasEdge_take_iff.1 (hM.edge hp)).2)
    · have hlt := (hasEdge_take_iff.1 (hH.edge (Finset.mem_filter.1 hr).1)).1
      exact Nat.lt_irrefl k hlt
  have hle := hmax ⟨_, hexchanged.of_unused hunused, rfl⟩
  have hdisjoint : Disjoint (M.filter fun p => p.2 ∉ V) (H.filter fun p => p.2 ∈ V) := by
    rw [Finset.disjoint_left]
    intro p hp hq
    exact (Finset.mem_filter.1 hp).2 (Finset.mem_filter.1 hq).2
  rw [Finset.card_union_of_disjoint hdisjoint] at hle
  have hsplit := Finset.card_filter_add_card_filter_not (s := M) (p := fun p => p.2 ∈ V)
  omega

end IsMatching

end Verdict
