import Verdict.Expectation.Matching
import Verdict.Proofs.Matching.Graph
import Mathlib.Data.List.Perm.Basic

namespace Verdict.Matching

variable {edges : List (List Nat)} {owners moved : Owners} {left : Nat} {ends visited visited' : List Nat}

-- New owners, in which `left` holds one right vertex more and all others hold as many as before.
structure Augmented (edges : List (List Nat)) (owners : Owners) (left : Nat) (visited : List Nat)
    (moved : Owners) : Prop where
  kept : ∀ r ∈ visited, moved[r]? = owners[r]?
  edge : ∀ r l : Nat, moved[r]? = some (some l) → owners[r]? = some (some l) ∨ HasEdge edges l r
  perm : (none :: moved.toList).Perm (some left :: owners.toList)

-- All that was visited is held by left vertices that lead nowhere else.
structure Exhausted (edges : List (List Nat)) (owners : Owners) (ends visited visited' : List Nat) :
    Prop where
  before : visited ⊆ visited'
  reached : ends ⊆ visited'
  taken : ∀ r ∈ visited', r ∈ visited ∨
    ∃ l, owners[r]? = some (some l) ∧ ∀ r', HasEdge edges l r' → r' ∈ visited'

-- An owner that is written over changes places with the new one.
theorem set_perm {r : Nat} {a : Option Nat} (hr : owners[r]? = some a) (b : Option Nat) :
    (a :: (owners.setIfInBounds r b).toList).Perm (b :: owners.toList) := by
  rw [← Array.getElem?_toList] at hr
  obtain ⟨hlt, rfl⟩ := List.getElem?_eq_some_iff.1 hr
  rw [Array.toList_setIfInBounds]
  have hset := List.set_perm_cons_eraseIdx hlt b
  have herase := List.getElem_cons_eraseIdx_perm hlt
  exact (hset.cons _).trans ((List.Perm.swap _ _ _).trans (herase.cons b))

theorem held_of_set {r r' l : Nat}
    (hl : (owners.setIfInBounds r (some left))[r']? = some (some l)) :
    r' = r ∧ l = left ∨ owners[r']? = some (some l) := by
  rw [Array.getElem?_setIfInBounds] at hl
  split at hl
  · rename_i heq
    split at hl
    · exact .inl ⟨heq.symm, Option.some_inj.1 (Option.some_inj.1 hl.symm)⟩
    · cases hl
  · exact .inr hl

namespace Augmented

variable {r holder : Nat}

theorem of_free (hfree : owners[r]? = some none) (hnew : r ∉ visited) (hedge : HasEdge edges left r) :
    Augmented edges owners left visited (owners.setIfInBounds r (some left)) := by
  refine ⟨fun r' hr' => ?_, fun r' l hl => ?_, set_perm hfree (some left)⟩
  · exact Array.getElem?_setIfInBounds_ne (ne_of_mem_of_not_mem hr' hnew).symm
  · rcases held_of_set hl with ⟨rfl, rfl⟩ | hl
    · exact .inr hedge
    · exact .inl hl

-- A vertex is free if its holder finds another one.
theorem of_moved (h : Augmented edges owners holder (r :: visited) moved)
    (hheld : owners[r]? = some (some holder)) (hnew : r ∉ visited) (hedge : HasEdge edges left r) :
    Augmented edges owners left visited (moved.setIfInBounds r (some left)) := by
  refine ⟨fun r' hr' => ?_, fun r' l hl => ?_, ?_⟩
  · rw [Array.getElem?_setIfInBounds_ne (ne_of_mem_of_not_mem hr' hnew).symm]
    exact h.kept r' (List.mem_cons_of_mem r hr')
  · rcases held_of_set hl with ⟨rfl, rfl⟩ | hl
    · exact .inr hedge
    · exact h.edge r' l hl
  · -- The vertex is still the holder's in `moved`, which then holds two of them.
    have hstill : moved[r]? = some (some holder) := (h.kept r List.mem_cons_self).trans hheld
    have hset := set_perm hstill (some left)
    rw [← List.perm_cons (some holder)]
    calc List.Perm (some holder :: none :: (moved.setIfInBounds r (some left)).toList)
          (none :: some holder :: (moved.setIfInBounds r (some left)).toList) := .swap _ _ _
      List.Perm _ (none :: some left :: moved.toList) := hset.cons none
      List.Perm _ (some left :: none :: moved.toList) := .swap _ _ _
      List.Perm _ (some left :: some holder :: owners.toList) := h.perm.cons _
      List.Perm _ (some holder :: some left :: owners.toList) := .swap _ _ _

theorem of_subset (h : Augmented edges owners left visited' moved) (hsub : visited ⊆ visited') :
    Augmented edges owners left visited moved :=
  ⟨fun r hr => h.kept r (hsub hr), h.edge, h.perm⟩

end Augmented

namespace Exhausted

variable {rest visited'' : List Nat} {r holder : Nat}

theorem append (h : Exhausted edges owners ends visited visited')
    (hrest : Exhausted edges owners rest visited' visited'') :
    Exhausted edges owners (ends ++ rest) visited visited'' := by
  refine ⟨fun _ hr => hrest.before (h.before hr), ?_, fun r hr => ?_⟩
  · exact List.append_subset.2 ⟨fun _ hr => hrest.before (h.reached hr), hrest.reached⟩
  · rcases hrest.taken r hr with hr | htaken
    · rcases h.taken r hr with hr | ⟨l, hl, honly⟩
      · exact .inl hr
      · exact .inr ⟨l, hl, fun r' hr' => hrest.before (honly r' hr')⟩
    · exact .inr htaken

theorem of_mem (hr : r ∈ visited) : Exhausted edges owners [r] visited visited :=
  ⟨List.Subset.refl _, List.cons_subset.2 ⟨hr, List.nil_subset _⟩, fun _ hr' => .inl hr'⟩

-- A vertex is taken if its holder finds no other.
theorem of_holder (hheld : owners[r]? = some (some holder)) (hends : edges[holder]? = some ends)
    (h : Exhausted edges owners ends (r :: visited) visited') :
    Exhausted edges owners [r] visited visited' := by
  obtain ⟨hr, hbefore⟩ := List.cons_subset.1 h.before
  refine ⟨hbefore, List.cons_subset.2 ⟨hr, List.nil_subset _⟩, fun r' hr' => ?_⟩
  rcases h.taken r' hr' with hr' | htaken
  · rcases List.mem_cons.1 hr' with rfl | hr'
    · refine .inr ⟨holder, hheld, ?_⟩
      rintro r'' ⟨es, hes, hr''⟩
      obtain rfl : ends = es := Option.some_inj.1 (hends.symm.trans hes)
      exact h.reached hr''
    · exact .inl hr'
  · exact .inr htaken

end Exhausted

namespace Outcome

def Sound (edges : List (List Nat)) (owners : Owners) (left : Nat) (ends visited : List Nat)
    {size bound : Nat} : Outcome size bound → Prop
  | .found moved => Augmented edges owners left visited moved
  | .exhausted visited' _ => Exhausted edges owners ends visited visited'
  | .outside => False

variable {size bound bound' r : Nat} {outcome : Outcome size bound}

theorem Sound.weaken (hle : bound ≤ bound') (h : outcome.Sound edges owners left ends visited) :
    (outcome.weaken hle).Sound edges owners left ends visited := by
  cases outcome <;> exact h

-- A search that goes on after an edge that led to nothing.
theorem Sound.after (hfirst : Exhausted edges owners [r] visited visited')
    (h : outcome.Sound edges owners left ends visited') :
    outcome.Sound edges owners left (r :: ends) visited := by
  cases outcome with
  | found moved => exact Augmented.of_subset h hfirst.before
  | exhausted visited'' fewer => exact hfirst.append h
  | outside => exact h

end Outcome

-- A search ends as it should if edges lead to right vertices and all of these are held by left vertices
-- that there are.
theorem search_sound (hright : ∀ l r : Nat, HasEdge edges l r → r < owners.size)
    (hleft : ∀ r l : Nat, owners[r]? = some (some l) → l < edges.length)
    (hends : ∀ r ∈ ends, HasEdge edges left r) :
    (search edges.toArray owners left ends visited).Sound edges owners left ends visited := by
  fun_induction search edges.toArray owners left ends visited with
  | case1 left visited => exact ⟨List.Subset.refl _, List.nil_subset _, fun _ hr => .inl hr⟩
  | case2 left visited r rest hr hv ih =>
    exact (ih (List.forall_mem_cons.1 hends).2).after (.of_mem hv)
  | case3 left visited r rest hr hv hfree =>
    have hset : owners.set r (some left) hr = owners.setIfInBounds r (some left) := (dif_pos hr).symm
    rw [hset]
    exact Augmented.of_free (Array.getElem?_eq_some_iff.2 ⟨hr, hfree⟩) hv
      (hends r List.mem_cons_self)
  | case4 left visited r rest hr hv holder hheld hnext =>
    have hlt := hleft r holder (Array.getElem?_eq_some_iff.2 ⟨hr, hheld⟩)
    rw [List.getElem?_toArray, List.getElem?_eq_getElem hlt] at hnext
    cases hnext
  | case5 left visited r rest hr hv holder hheld next hnext moved hfound ih =>
    rw [List.getElem?_toArray] at hnext
    have hmoved := ih fun r' hr' => ⟨next, hnext, hr'⟩
    rw [hfound] at hmoved
    exact Augmented.of_moved hmoved (Array.getElem?_eq_some_iff.2 ⟨hr, hheld⟩) hv
      (hends r List.mem_cons_self)
  | case6 left visited r rest hr hv holder hheld next hnext visited' fewer hexhausted ihholder ih =>
    rw [List.getElem?_toArray] at hnext
    have hholder := ihholder fun r' hr' => ⟨next, hnext, hr'⟩
    rw [hexhausted] at hholder
    have htaken := Exhausted.of_holder (Array.getElem?_eq_some_iff.2 ⟨hr, hheld⟩) hnext hholder
    exact ((ih (List.forall_mem_cons.1 hends).2).after htaken).weaken _
  | case7 left visited r rest hr hv holder hheld next hnext houtside ih =>
    rw [List.getElem?_toArray] at hnext
    have hholder := ih fun r' hr' => ⟨next, hnext, hr'⟩
    rw [houtside] at hholder
    exact hholder
  | case8 left visited r rest hr =>
    exact hr (hright left r (hends r List.mem_cons_self))

end Verdict.Matching
