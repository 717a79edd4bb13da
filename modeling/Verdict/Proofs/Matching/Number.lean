import Verdict.Proofs.Matching.Maximum
import Mathlib.Data.Finset.Image
import Mathlib.Order.Lattice.Nat

namespace Verdict

variable {edges : List (List Nat)} {M : Finset (Nat × Nat)} {n l r : Nat}

noncomputable def matchingNumber (edges : List (List Nat)) : Nat := sSup (matchingSizes edges)

namespace IsMatching

theorem injOn_fst (h : IsMatching edges M) : Set.InjOn Prod.fst (M : Set (Nat × Nat)) := by
  rintro ⟨l, r⟩ hp ⟨l', r'⟩ hq (rfl : l = l')
  have hr : r = r' := h.left hp hq
  rw [hr]

theorem fst_mem_range (h : IsMatching edges M) (hp : (l, r) ∈ M) : l < edges.length := by
  obtain ⟨es, hes, -⟩ := h.edge hp
  exact (List.getElem?_eq_some_iff.1 hes).1

theorem image_fst_subset (h : IsMatching edges M) :
    M.image Prod.fst ⊆ Finset.range edges.length := by
  intro l hl
  obtain ⟨⟨l', r⟩, hp, rfl⟩ := Finset.mem_image.1 hl
  exact Finset.mem_range.2 (h.fst_mem_range hp)

theorem card_le_length (h : IsMatching edges M) : M.card ≤ edges.length := by
  rw [← Finset.card_image_of_injOn h.injOn_fst]
  simpa using Finset.card_le_card h.image_fst_subset

-- An edge between two vertices that no other edge meets.
theorem insert (h : IsMatching edges M) (hedge : HasEdge edges l r) (hl : ∀ r', (l, r') ∉ M)
    (hr : ∀ l', (l', r) ∉ M) : IsMatching edges (insert (l, r) M) := by
  constructor
  · intro l' r' hp
    rcases Finset.mem_insert.1 hp with hp | hp
    · cases hp
      exact hedge
    · exact h.edge hp
  · intro l' r₁ r₂ hp hq
    rcases Finset.mem_insert.1 hp with hp | hp <;> rcases Finset.mem_insert.1 hq with hq | hq
    · cases hp
      cases hq
      rfl
    · cases hp
      exact absurd hq (hl r₂)
    · cases hq
      exact absurd hp (hl r₁)
    · exact h.left hp hq
  · intro l₁ l₂ r' hp hq
    rcases Finset.mem_insert.1 hp with hp | hp <;> rcases Finset.mem_insert.1 hq with hq | hq
    · cases hp
      cases hq
      rfl
    · cases hp
      exact absurd hq (hr l₂)
    · cases hq
      exact absurd hp (hr l₁)
    · exact h.right hp hq

end IsMatching

theorem isGreatest_matchingNumber (edges : List (List Nat)) :
    IsGreatest (matchingSizes edges) (matchingNumber edges) := by
  have hbound : BddAbove (matchingSizes edges) := by
    refine ⟨edges.length, ?_⟩
    rintro n ⟨M, hM, rfl⟩
    exact hM.card_le_length
  exact ⟨Nat.sSup_mem ⟨0, ∅, .empty edges, Finset.card_empty⟩ hbound, fun n hn => le_csSup hbound hn⟩

theorem matchingNumber_eq (h : IsGreatest (matchingSizes edges) n) : matchingNumber edges = n :=
  (isGreatest_matchingNumber edges).unique h

theorem IsMatching.card_le_number (h : IsMatching edges M) : M.card ≤ matchingNumber edges :=
  (isGreatest_matchingNumber edges).2 ⟨M, h, rfl⟩

-- An edge of a vertex that a largest matching leaves out leads to a vertex that is taken.
theorem IsMatching.exists_taken (h : IsMatching edges M) (hcard : M.card = matchingNumber edges)
    (hedge : HasEdge edges l r) (hl : ∀ r', (l, r') ∉ M) : ∃ l', (l', r) ∈ M := by
  by_contra hfree
  have hlarger := (h.insert hedge hl fun l' hl' => hfree ⟨l', hl'⟩).card_le_number
  rw [Finset.card_insert_of_notMem (hl r)] at hlarger
  omega

theorem matchingNumber_le_length (edges : List (List Nat)) : matchingNumber edges ≤ edges.length := by
  obtain ⟨M, hM, hcard⟩ := (isGreatest_matchingNumber edges).1
  rw [← hcard]
  exact hM.card_le_length

theorem IsMatching.exists_injective (hM : IsMatching edges M) (hcard : M.card = edges.length) :
    ∃ f : Fin edges.length → Nat, Function.Injective f ∧ ∀ l : Fin edges.length, HasEdge edges l (f l) := by
  have himage : M.image Prod.fst = Finset.range edges.length := by
    apply Finset.eq_of_subset_of_card_le hM.image_fst_subset
    rw [Finset.card_image_of_injOn hM.injOn_fst, Finset.card_range, hcard]
  have hheld : ∀ l : Fin edges.length, ∃ r, (l.val, r) ∈ M := by
    intro l
    have hl : l.val ∈ M.image Prod.fst := by
      rw [himage]
      exact Finset.mem_range.2 l.isLt
    obtain ⟨⟨l', r⟩, hp, heq⟩ := Finset.mem_image.1 hl
    have heq : l' = l.val := heq
    exact ⟨r, heq ▸ hp⟩
  choose f hf using hheld
  refine ⟨f, fun l l' heq => ?_, fun l => hM.edge (hf l)⟩
  have hl' := hf l'
  rw [← heq] at hl'
  exact Fin.ext (hM.right (hf l) hl')

theorem isMatching_of_injective {f : Fin edges.length → Nat} (hinj : Function.Injective f)
    (hedge : ∀ l : Fin edges.length, HasEdge edges l (f l)) :
    IsMatching edges (Finset.univ.image fun l => (l.val, f l)) := by
  have hmem {l r : Nat} (hp : (l, r) ∈ Finset.univ.image fun l => (l.val, f l)) :
      ∃ k, k.val = l ∧ f k = r := by
    obtain ⟨k, -, heq⟩ := Finset.mem_image.1 hp
    exact ⟨k, congrArg Prod.fst heq, congrArg Prod.snd heq⟩
  constructor
  · intro l r hp
    obtain ⟨k, rfl, rfl⟩ := hmem hp
    exact hedge k
  · intro l r r' hp hq
    obtain ⟨k, rfl, rfl⟩ := hmem hp
    obtain ⟨k', hk, rfl⟩ := hmem hq
    rw [Fin.ext hk]
  · intro l l' r hp hq
    obtain ⟨k, rfl, rfl⟩ := hmem hp
    obtain ⟨k', rfl, hk⟩ := hmem hq
    rw [hinj hk]

-- Every left vertex can be given a right vertex of its own just if a largest matching leaves none out.
theorem matchingNumber_eq_length_iff :
    matchingNumber edges = edges.length ↔
      ∃ f : Fin edges.length → Nat, Function.Injective f ∧ ∀ l : Fin edges.length, HasEdge edges l (f l) := by
  constructor
  · intro hall
    obtain ⟨M, hM, hcard⟩ := (isGreatest_matchingNumber edges).1
    exact hM.exists_injective (hcard.trans hall)
  · rintro ⟨f, hinj, hedge⟩
    have hplaces : Function.Injective fun l : Fin edges.length => (l.val, f l) :=
      fun l l' heq => Fin.ext (congrArg Prod.fst heq)
    have hcard := (isMatching_of_injective hinj hedge).card_le_number
    rw [Finset.card_image_of_injective _ hplaces, Finset.card_univ, Fintype.card_fin] at hcard
    exact Nat.le_antisymm (matchingNumber_le_length edges) hcard

-- The left vertex makes a largest matching of those up to it larger.
def Raises (edges : List (List Nat)) (l : Nat) : Prop :=
  matchingNumber (edges.take l) < matchingNumber (edges.take (l + 1))

theorem not_raises_iff : ¬Raises edges l ↔
    matchingNumber (edges.take (l + 1)) = matchingNumber (edges.take l) := by
  have hle : matchingNumber (edges.take l) ≤ matchingNumber (edges.take (l + 1)) := by
    obtain ⟨M, hM, hcard⟩ := (isGreatest_matchingNumber (edges.take l)).1
    rw [← hcard]
    exact hM.take_succ.card_le_number
  unfold Raises
  omega

namespace Matching

variable {owners moved : Owners} {count k : Nat}

-- The left vertices that hold a right vertex are those that raised the size.
structure Accounted (edges : List (List Nat)) (count k : Nat) (owners : Owners) : Prop
    extends Maximum edges count k owners where
  held : ∀ l, l ∈ owners.toList.reduceOption ↔ l < k ∧ Raises edges l

theorem accounted_start (edges : List (List Nat)) (count : Nat) :
    Accounted edges count 0 (Array.replicate count none) := by
  refine ⟨maximum_start edges count, fun l => ?_⟩
  simp [Array.toList_replicate, List.reduceOption_replicate_none]

namespace Accounted

theorem of_augmented (h : Accounted edges count k owners)
    (hmoved : Augmented edges owners k [] moved) : Accounted edges count (k + 1) moved := by
  have hmax := h.toMaximum.of_augmented hmoved
  have hperm : moved.toList.reduceOption.Perm (k :: owners.toList.reduceOption) :=
    hmoved.perm.filterMap id
  have hraises : Raises edges k := by
    have hlength := hperm.length_eq
    rw [List.length_cons] at hlength
    rw [Raises, matchingNumber_eq h.greatest, matchingNumber_eq hmax.greatest]
    omega
  refine ⟨hmax, fun l => ?_⟩
  rw [hperm.mem_iff, List.mem_cons, h.held]
  constructor
  · rintro (rfl | ⟨hl, hl'⟩)
    · exact ⟨Nat.lt_succ_self l, hraises⟩
    · exact ⟨Nat.lt_succ_of_lt hl, hl'⟩
  · rintro ⟨hl, hl'⟩
    by_cases heq : l = k
    · exact .inl heq
    · exact .inr ⟨by omega, hl'⟩

theorem of_exhausted {es visited : List Nat} (h : Accounted edges count k owners)
    (hes : edges[k]? = some es) (hvisited : Exhausted edges owners es [] visited) :
    Accounted edges count (k + 1) owners := by
  have hmax := h.toMaximum.of_exhausted hes hvisited
  have hraises : ¬Raises edges k := by
    rw [not_raises_iff, matchingNumber_eq h.greatest, matchingNumber_eq hmax.greatest]
  refine ⟨hmax, fun l => ?_⟩
  rw [h.held]
  constructor
  · rintro ⟨hl, hl'⟩
    exact ⟨Nat.lt_succ_of_lt hl, hl'⟩
  · rintro ⟨hl, hl'⟩
    have hne : l ≠ k := fun heq => hraises (heq ▸ hl')
    exact ⟨by omega, hl'⟩

end Accounted

end Matching

-- What is assigned to the left vertices is a largest matching, and it leaves out those that did not raise
-- the size.
structure Assigned (edges : List (List Nat)) (assignment : List (Option Nat)) : Prop where
  length : assignment.length = edges.length
  edge : ∀ {l r : Nat}, assignment[l]? = some (some r) → HasEdge edges l r
  count : assignment.countP (·.isSome) = matchingNumber edges
  unmatched : ∀ l : Nat, assignment[l]? = some none ↔ l < edges.length ∧ ¬Raises edges l
  taken : ∀ {l r : Nat}, assignment[l]? = some none → HasEdge edges l r →
    ∃ l', l' ≠ l ∧ assignment[l']? = some (some r)

theorem assigned_of_places {owners : Matching.Owners} {count : Nat} {assignment : List (Option Nat)}
    (hall : Matching.Accounted edges count edges.length owners) (hlength : assignment.length = edges.length)
    (hgiven : ∀ l r : Nat, assignment[l]? = some (some r) ↔ (l, r) ∈ places owners.toList) :
    Assigned edges assignment := by
  have hmatching : IsMatching edges (places owners.toList) := by
    have h := hall.isMatching
    rwa [List.take_length] at h
  have hnumber : (places owners.toList).card = matchingNumber edges := by
    have h := matchingNumber_eq hall.greatest
    rwa [List.take_length, ← card_places, eq_comm] at h
  refine ⟨hlength, fun hl => hmatching.edge ((hgiven _ _).1 hl), ?_, fun l => ?_, ?_⟩
  · rw [List.countP_eq_length_filter, ← List.reduceOption_length_eq, ← hnumber, card_places]
    exact length_reduceOption_of_inverse fun l r => (hgiven l r).trans mem_places
  · have hheld : (∃ r, assignment[l]? = some (some r)) ↔ l < edges.length ∧ Raises edges l := by
      rw [← hall.held, List.reduceOption_mem_iff, List.mem_iff_getElem?]
      exact exists_congr fun r => (hgiven l r).trans mem_places
    by_cases hl : l < edges.length
    · have hl' : l < assignment.length := hlength ▸ hl
      rw [List.getElem?_eq_getElem hl'] at hheld ⊢
      cases hvalue : assignment[l] with
      | none => simpa [hvalue, hl] using hheld
      | some r => simpa [hvalue, hl] using hheld
    · rw [List.getElem?_eq_none (by omega)]
      simp [hl]
  · intro l r hl hedge
    have hnone : ∀ r', (l, r') ∉ places owners.toList := by
      intro r' hr'
      have hr' := (hgiven l r').2 hr'
      rw [hl] at hr'
      cases hr'
    obtain ⟨l', hl'⟩ := hmatching.exists_taken hnumber hedge hnone
    refine ⟨l', ?_, (hgiven l' r).2 hl'⟩
    rintro rfl
    exact hnone r hl'

theorem exists_assigned (edges : List (List Nat)) (count : Nat)
    (hright : ∀ l r : Nat, HasEdge edges l r → r < count) :
    ∃ assignment, maximumMatching? edges count = some assignment ∧ Assigned edges assignment := by
  obtain ⟨owners, howners, hall⟩ := Matching.exists_matchAll_of_kept hright
    (·.toHolding) (·.of_augmented) (·.of_exhausted) (Matching.accounted_start edges count)
    List.drop_zero (Nat.zero_le _)
  obtain ⟨assignment, hassign, hlen, hiff⟩ :=
    Matching.exists_assign 0 (List.replicate edges.length none) hall.once fun l hl => by
      rw [List.length_replicate]
      exact hall.lt_of_mem hl
  refine ⟨assignment, by rw [maximumMatching?, howners]; exact hassign, ?_⟩
  refine assigned_of_places hall (hlen.trans List.length_replicate) fun l r => ?_
  simp [hiff, mem_places, List.mem_zipIdx_iff_getElem?, List.getElem?_replicate]

end Verdict
