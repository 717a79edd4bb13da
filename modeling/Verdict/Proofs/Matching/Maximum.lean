import Verdict.Proofs.Matching.Search
import Mathlib.Data.List.ReduceOption
import Mathlib.Data.List.Sigma

namespace Verdict

-- What stands at each place of a list, with the place.
def places (xs : List (Option Nat)) : Finset (Nat × Nat) :=
  (xs.zipIdx.filterMap fun p => p.1.map fun v => (v, p.2)).toFinset

section

variable {xs : List (Option Nat)} {i j v : Nat}

theorem mem_places : (v, i) ∈ places xs ↔ xs[i]? = some (some v) := by
  rw [places, List.mem_toFinset, List.mem_filterMap]
  constructor
  · rintro ⟨⟨x, i'⟩, hx, heq⟩
    obtain ⟨v', rfl, heq⟩ := Option.map_eq_some_iff.1 heq
    cases heq
    exact List.mem_zipIdx_iff_getElem?.1 hx
  · intro hv
    exact ⟨(some v, i), List.mem_zipIdx_iff_getElem?.2 hv, rfl⟩

theorem card_places (xs : List (Option Nat)) : (places xs).card = xs.reduceOption.length := by
  have hnodup : (xs.zipIdx.filterMap fun p => p.1.map fun v => (v, p.2)).Nodup := by
    refine List.Nodup.filterMap ?_ ((List.nodup_zipIdx_map_snd xs).of_map Prod.snd)
    rintro ⟨x, i⟩ ⟨x', i'⟩ p hp hp'
    obtain ⟨v, rfl, rfl⟩ := Option.map_eq_some_iff.1 hp
    obtain ⟨v', rfl, heq⟩ := Option.map_eq_some_iff.1 hp'
    cases heq
    rfl
  have hvalues : (xs.zipIdx.filterMap fun p => p.1.map fun v => (v, p.2)).map Prod.fst =
      xs.reduceOption := by
    have hvalue : ∀ p : Option Nat × Nat, (p.1.map fun v => (v, p.2)).map Prod.fst = p.1 := by
      rintro ⟨_ | v, i⟩ <;> rfl
    rw [List.map_filterMap, List.reduceOption]
    conv_rhs => rw [← List.zipIdx_map_fst 0 xs, List.filterMap_map]
    exact List.filterMap_congr fun p _ => hvalue p
  rw [places, List.toFinset_card_of_nodup hnodup, ← hvalues, List.length_map]

theorem place_unique (hnodup : xs.reduceOption.Nodup) (hi : xs[i]? = some (some v))
    (hj : xs[j]? = some (some v)) : i = j := by
  induction xs generalizing i j with
  | nil => cases hi
  | cons x xs ih =>
    have hrest : xs.reduceOption.Nodup := hnodup.sublist ((List.sublist_cons_self x xs).filterMap id)
    have hfirst {m : Nat} (hx : x = some v) (hm : xs[m]? = some (some v)) : False := by
      subst hx
      rw [List.reduceOption_cons_of_some] at hnodup
      exact (List.nodup_cons.1 hnodup).1 (List.reduceOption_mem_iff.2 (List.mem_of_getElem? hm))
    match i, j with
    | 0, 0 => rfl
    | 0, j + 1 => exact (hfirst (Option.some_inj.1 hi) hj).elim
    | i + 1, 0 => exact (hfirst (Option.some_inj.1 hj) hi).elim
    | i + 1, j + 1 => exact congrArg (· + 1) (ih hrest hi hj)

theorem length_reduceOption_of_inverse {ys : List (Option Nat)}
    (hinverse : ∀ i j : Nat, ys[i]? = some (some j) ↔ xs[j]? = some (some i)) :
    ys.reduceOption.length = xs.reduceOption.length := by
  have hswap : places ys = (places xs).image Prod.swap := by
    ext ⟨j, i⟩
    rw [mem_places, hinverse, Finset.mem_image]
    constructor
    · intro hi
      exact ⟨(i, j), mem_places.2 hi, rfl⟩
    · rintro ⟨⟨i', j'⟩, hi, heq⟩
      cases heq
      exact mem_places.1 hi
  rw [← card_places, ← card_places, hswap, Finset.card_image_of_injective _ Prod.swap_injective]

end

namespace Matching

variable {edges : List (List Nat)} {owners moved : Owners} {count k : Nat}

-- The owners hold a matching of the first `k` left vertices.
structure Holding (edges : List (List Nat)) (count k : Nat) (owners : Owners) : Prop where
  size : owners.size = count
  edge : ∀ r l : Nat, owners[r]? = some (some l) → HasEdge (edges.take k) l r
  once : owners.toList.reduceOption.Nodup

-- The matching is as large as any of them.
structure Maximum (edges : List (List Nat)) (count k : Nat) (owners : Owners) : Prop
    extends Holding edges count k owners where
  greatest : IsGreatest (matchingSizes (edges.take k)) owners.toList.reduceOption.length

namespace Holding

theorem lt_of_mem (h : Holding edges count k owners) {l : Nat}
    (hl : l ∈ owners.toList.reduceOption) : l < k := by
  obtain ⟨r, hr⟩ := List.mem_iff_getElem?.1 (List.reduceOption_mem_iff.1 hl)
  rw [Array.getElem?_toList] at hr
  exact (hasEdge_take_iff.1 (h.edge r l hr)).1

theorem isMatching (h : Holding edges count k owners) :
    IsMatching (edges.take k) (places owners.toList) := by
  refine ⟨fun hp => ?_, fun hp hq => ?_, fun hp hq => ?_⟩
  · rw [mem_places, Array.getElem?_toList] at hp
    exact h.edge _ _ hp
  · exact place_unique h.once (mem_places.1 hp) (mem_places.1 hq)
  · exact Option.some_inj.1 (Option.some_inj.1 ((mem_places.1 hp).symm.trans (mem_places.1 hq)))

end Holding

theorem maximum_start (edges : List (List Nat)) (count : Nat) :
    Maximum edges count 0 (Array.replicate count none) := by
  have hnone : (Array.replicate count (none : Option Nat)).toList.reduceOption = [] := by
    rw [Array.toList_replicate, List.reduceOption_replicate_none]
  refine ⟨⟨Array.size_replicate, fun r l hl => ?_, ?_⟩, ?_⟩
  · rw [← Array.getElem?_toList] at hl
    have hmem := List.reduceOption_mem_iff.2 (List.mem_of_getElem? hl)
    rw [hnone] at hmem
    cases hmem
  · rw [hnone]
    exact List.nodup_nil
  · rw [hnone]
    refine ⟨⟨∅, .empty _, rfl⟩, ?_⟩
    rintro n ⟨M, hM, rfl⟩
    refine (Finset.card_eq_zero.2 (Finset.eq_empty_of_forall_notMem fun p hp => ?_)).le
    exact Nat.not_lt_zero _ (hasEdge_take_iff.1 (hM.edge hp)).1

namespace Maximum

-- A search that finds a vertex makes the matching larger by one edge, and no matching is larger still.
theorem of_augmented (h : Maximum edges count k owners)
    (hmoved : Augmented edges owners k [] moved) : Maximum edges count (k + 1) moved := by
  have hperm : moved.toList.reduceOption.Perm (k :: owners.toList.reduceOption) :=
    hmoved.perm.filterMap id
  have hholding : Holding edges count (k + 1) moved := by
    refine ⟨?_, fun r l hl => ?_, ?_⟩
    · have hlen := hmoved.perm.length_eq
      rw [List.length_cons, List.length_cons, Array.length_toList, Array.length_toList] at hlen
      exact (Nat.succ.inj hlen).trans h.size
    · have hlt : l < k + 1 := by
        rw [← Array.getElem?_toList] at hl
        have hmem := List.reduceOption_mem_iff.2 (List.mem_of_getElem? hl)
        rcases List.mem_cons.1 (hperm.mem_iff.1 hmem) with rfl | hmem
        · exact Nat.lt_succ_self l
        · exact Nat.lt_succ_of_lt (h.lt_of_mem hmem)
      rcases hmoved.edge r l hl with hl | hedge
      · exact hasEdge_take_iff.2 ⟨hlt, (hasEdge_take_iff.1 (h.edge r l hl)).2⟩
      · exact hasEdge_take_iff.2 ⟨hlt, hedge⟩
    · rw [hperm.nodup_iff, List.nodup_cons]
      exact ⟨fun hk => Nat.lt_irrefl k (h.lt_of_mem hk), h.once⟩
  have hlength : moved.toList.reduceOption.length = owners.toList.reduceOption.length + 1 :=
    hperm.length_eq
  refine ⟨hholding, ⟨_, hholding.isMatching, card_places _⟩, ?_⟩
  rintro n ⟨M, hM, rfl⟩
  rw [hlength]
  exact hM.card_le_succ h.greatest.2

-- A search that finds none shows that the new left vertex makes no matching larger.
theorem of_exhausted {es visited : List Nat} (h : Maximum edges count k owners)
    (hes : edges[k]? = some es) (hvisited : Exhausted edges owners es [] visited) :
    Maximum edges count (k + 1) owners := by
  have hmatching := h.isMatching
  have hcard := card_places owners.toList
  refine ⟨⟨h.size, fun r l hl => ?_, h.once⟩, ⟨_, hmatching.take_succ, hcard⟩, ?_⟩
  · exact (h.edge r l hl).take_succ
  · rintro n ⟨M, hM, rfl⟩
    rw [← hcard]
    refine hM.card_le_of_taken (V := visited.toFinset) hmatching ?_ (fun r hr => ?_) fun r hr => ?_
    · rw [hcard]
      exact h.greatest.2
    · rcases hvisited.taken r (List.mem_toFinset.1 hr) with hnone | ⟨l, hl, honly⟩
      · cases hnone
      · rw [← Array.getElem?_toList] at hl
        exact ⟨l, mem_places.2 hl, fun r' hr' => List.mem_toFinset.2 (honly r' hr')⟩
    · obtain ⟨es', hes', hr⟩ := hr
      obtain rfl : es = es' := Option.some_inj.1 (hes.symm.trans hes')
      exact List.mem_toFinset.2 (hvisited.reached hr)

end Maximum

-- What every search keeps, whether it finds a vertex or not, holds after the last one.
theorem exists_matchAll_of_kept {P : Nat → Owners → Prop} {rest : List (List Nat)}
    (hright : ∀ l r : Nat, HasEdge edges l r → r < count)
    (hholding : ∀ {k owners}, P k owners → Holding edges count k owners)
    (hfound : ∀ {k owners moved}, P k owners → Augmented edges owners k [] moved → P (k + 1) moved)
    (hexhausted : ∀ {k owners es visited}, P k owners → edges[k]? = some es →
      Exhausted edges owners es [] visited → P (k + 1) owners)
    (h : P k owners) (hrest : edges.drop k = rest) (hk : k ≤ edges.length) :
    ∃ owners', matchAll edges.toArray rest k owners = some owners' ∧ P edges.length owners' := by
  induction rest generalizing k owners with
  | nil =>
    obtain rfl : k = edges.length := Nat.le_antisymm hk (List.drop_eq_nil_iff.1 hrest)
    exact ⟨owners, rfl, h⟩
  | cons es rest ih =>
    have hes : edges[k]? = some es := by
      rw [← List.head?_drop, hrest, List.head?_cons]
    have hnext : edges.drop (k + 1) = rest := by rw [← List.tail_drop, hrest, List.tail_cons]
    have hlt := (List.getElem?_eq_some_iff.1 hes).1
    have hheld := hholding h
    have hleft (r l : Nat) (hl : owners[r]? = some (some l)) : l < edges.length :=
      (hasEdge_take_iff.1 (hheld.edge r l hl)).1.trans_le hk
    have hsound : (search edges.toArray owners k es []).Sound edges owners k es [] :=
      search_sound (fun l r he => hheld.size ▸ hright l r he) hleft fun r hr => ⟨es, hes, hr⟩
    rw [matchAll]
    cases hsearch : search edges.toArray owners k es [] with
    | found moved =>
      rw [hsearch] at hsound
      exact ih (hfound h hsound) hnext hlt
    | exhausted visited fewer =>
      rw [hsearch] at hsound
      exact ih (hexhausted h hes hsound) hnext hlt
    | outside =>
      rw [hsearch] at hsound
      exact hsound.elim

theorem exists_matchAll {rest : List (List Nat)} (hright : ∀ l r : Nat, HasEdge edges l r → r < count)
    (h : Maximum edges count k owners) (hrest : edges.drop k = rest) (hk : k ≤ edges.length) :
    ∃ owners', matchAll edges.toArray rest k owners = some owners' ∧
      Maximum edges count edges.length owners' :=
  exists_matchAll_of_kept hright (·.toHolding) (·.of_augmented) (·.of_exhausted) h hrest hk

-- A left vertex is given the vertex it holds; one that holds none keeps what it had.
theorem exists_assign {xs : List (Option Nat)} (start : Nat) (before : List (Option Nat))
    (hnodup : xs.reduceOption.Nodup) (hlt : ∀ l ∈ xs.reduceOption, l < before.length) :
    ∃ assignment, assign xs start before = some assignment ∧ assignment.length = before.length ∧
      ∀ l r : Nat, assignment[l]? = some (some r) ↔
        (some l, r) ∈ xs.zipIdx start ∨ l ∉ xs.reduceOption ∧ before[l]? = some (some r) := by
  induction xs generalizing start before with
  | nil => exact ⟨before, rfl, rfl, fun l r => by simp⟩
  | cons x xs ih =>
    cases x with
    | none =>
      obtain ⟨assignment, hsome, hlen, hiff⟩ := ih (start + 1) before hnodup hlt
      refine ⟨assignment, hsome, hlen, fun l r => ?_⟩
      rw [hiff, List.zipIdx_cons, List.mem_cons, List.reduceOption_cons_of_none]
      simp
    | some left =>
      rw [List.reduceOption_cons_of_some] at hnodup hlt
      obtain ⟨hnew, hnodup⟩ := List.nodup_cons.1 hnodup
      obtain ⟨hleft, hlt⟩ := List.forall_mem_cons.1 hlt
      obtain ⟨assignment, hsome, hlen, hiff⟩ := ih (start + 1) (before.set left (some start)) hnodup
        fun l hl => by rw [List.length_set]; exact hlt l hl
      refine ⟨assignment, ?_, hlen.trans List.length_set, fun l r => ?_⟩
      · rw [assign, if_pos hleft, hsome]
      · rw [hiff, List.zipIdx_cons, List.mem_cons, List.reduceOption_cons_of_some, List.mem_cons]
        by_cases heq : l = left
        · subst heq
          rw [List.getElem?_set_self hleft]
          simp [hnew, eq_comm, or_comm]
        · rw [List.getElem?_set_ne (Ne.symm heq)]
          simp [heq]

end Matching

-- If all edges lead to right vertices there is an answer, and it is a matching as large as any: a left
-- vertex is given one of its edges, and no two are given the same right vertex.
theorem exists_maximum_matching (edges : List (List Nat)) (count : Nat)
    (hright : ∀ es ∈ edges, ∀ r ∈ es, r < count) :
    ∃ assignment, maximumMatching? edges count = some assignment ∧
      assignment.length = edges.length ∧
      (∀ l r : Nat, assignment[l]? = some (some r) → ∃ es, edges[l]? = some es ∧ r ∈ es) ∧
      (∀ l l' r : Nat,
        assignment[l]? = some (some r) → assignment[l']? = some (some r) → l = l') ∧
      IsGreatest (matchingSizes edges) (assignment.countP fun r => r.isSome) := by
  have hedges : ∀ l r : Nat, HasEdge edges l r → r < count := by
    rintro l r ⟨es, hes, hr⟩
    exact hright es (List.mem_of_getElem? hes) r hr
  obtain ⟨owners, howners, hmax⟩ := Matching.exists_matchAll hedges
    (Matching.maximum_start edges count) List.drop_zero (Nat.zero_le _)
  obtain ⟨assignment, hassign, hlen, hiff⟩ :=
    Matching.exists_assign 0 (List.replicate edges.length none) hmax.once fun l hl => by
      rw [List.length_replicate]
      exact hmax.lt_of_mem hl
  -- Nobody had a vertex before, so what is given is what is held.
  have hheld : ∀ l r : Nat, assignment[l]? = some (some r) ↔ owners.toList[r]? = some (some l) := by
    intro l r
    rw [hiff, List.mem_zipIdx_iff_getElem?, or_iff_left]
    rintro ⟨-, hbefore⟩
    rw [List.getElem?_replicate] at hbefore
    split at hbefore <;> cases hbefore
  have hmatching := hmax.isMatching
  have hgreatest := hmax.greatest
  rw [List.take_length] at hmatching hgreatest
  refine ⟨assignment, ?_, hlen.trans List.length_replicate, fun l r hl => ?_, fun l l' r hl hl' => ?_, ?_⟩
  · rw [maximumMatching?, howners]
    exact hassign
  · exact hmatching.edge (mem_places.2 ((hheld l r).1 hl))
  · exact hmatching.right (mem_places.2 ((hheld l r).1 hl)) (mem_places.2 ((hheld l' r).1 hl'))
  · rw [List.countP_eq_length_filter, ← List.reduceOption_length_eq,
      length_reduceOption_of_inverse hheld]
    exact hgreatest

-- The first vertex gives way to the second, which has no other edge.
theorem crossed_matching_is_maximum :
    maximumMatching? [[0, 1], [0]] 2 = some [some 1, some 0] ∧
      IsGreatest (matchingSizes [[0, 1], [0]]) 2 := by
  obtain ⟨assignment, hsome, -, -, -, hgreatest⟩ :=
    exists_maximum_matching [[0, 1], [0]] 2 (by decide)
  have hvalue : maximumMatching? [[0, 1], [0]] 2 = some [some 1, some 0] := by cbv
  obtain rfl := Option.some_inj.1 (hvalue.symm.trans hsome)
  exact ⟨hvalue, hgreatest⟩

end Verdict
