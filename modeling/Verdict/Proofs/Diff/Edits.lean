import Verdict.Proofs.Diff.Script
import Mathlib.Data.List.Infix
import Mathlib.Data.List.TakeDrop

namespace Verdict

variable {α β : Type} {eq : α → β → Bool}

def lengthRow (eq : α → β → Bool) (right : List β) (xs : List α) : List Nat :=
  right.tails.map (longestCommon eq xs)

theorem head?_lengthRow (eq : α → β → Bool) (right : List β) (xs : List α) :
    (lengthRow eq right xs).head? = some (longestCommon eq xs right) := by
  cases right <;> rfl

theorem lengthRow_ne_nil (right : List β) (xs : List α) : lengthRow eq right xs ≠ [] := by
  rw [← List.isSome_head?, head?_lengthRow, Option.isSome_some]

theorem head_lengthRow (right : List β) (xs : List α) :
    (lengthRow eq right xs).head (lengthRow_ne_nil right xs) = longestCommon eq xs right :=
  (List.head_eq_iff_head?_eq_some _).2 (head?_lengthRow eq right xs)

theorem commonRow_ne_nil (x : α) (right : List β) (below : List Nat) : commonRow eq x right below ≠ [] := by
  cases right <;> simp [commonRow]

-- With a row below that goes on behind the right list, no default is read.
theorem commonRow_cons (x : α) (y : β) (ys : List β) (m n : Nat) (below : List Nat) :
    commonRow eq x (y :: ys) (m :: n :: below) =
      (if eq x y then n + 1
        else max m ((commonRow eq x ys (n :: below)).head (commonRow_ne_nil x ys (n :: below)))) ::
        commonRow eq x ys (n :: below) := by
  rw [commonRow, List.tail_cons, List.headD_cons, List.headD_cons, List.headD_eq_head?_getD,
    List.head?_eq_some_head (commonRow_ne_nil x ys _), Option.getD_some]

theorem commonRow_lengthRow (x : α) (xs : List α) (right : List β) :
    commonRow eq x right (lengthRow eq right xs) = lengthRow eq right (x :: xs) := by
  induction right with
  | nil => simp [commonRow, lengthRow]
  | cons y ys ih =>
    have hcons (zs : List α) :
        lengthRow eq (y :: ys) zs = longestCommon eq zs (y :: ys) :: lengthRow eq ys zs := rfl
    obtain ⟨rest, hrest⟩ := List.head?_eq_some_iff.1 (head?_lengthRow eq ys xs)
    rw [hcons, hcons, hrest, commonRow_cons, ← hrest]
    simp only [ih, head_lengthRow]
    by_cases heq : eq x y = true
    · rw [if_pos heq, longestCommon_cons_of_eq heq]
    · rw [if_neg heq, longestCommon_cons_of_ne heq]

theorem lengthRow_nil (eq : α → β → Bool) (right : List β) :
    lengthRow eq right [] = List.replicate (right.length + 1) 0 := by
  have hzero : ∀ n ∈ lengthRow eq right [], n = 0 := by
    intro n hn
    obtain ⟨ys, -, rfl⟩ := List.mem_map.1 hn
    exact longestCommon_nil_left ys
  have hlen : (lengthRow eq right []).length = right.length + 1 := by
    rw [lengthRow, List.length_map, List.length_tails]
  rw [← hlen]
  exact List.eq_replicate_length.2 hzero

-- The table starts with the row for the whole left list; the rows behind it are the table for the tail.
theorem head?_commonTable (eq : α → β → Bool) (right : List β) (left : List α) :
    (commonTable eq right left).head? = some (lengthRow eq right left).toArray := by
  induction left with
  | nil => rw [commonTable, ← List.toArray_replicate, ← lengthRow_nil eq right]; rfl
  | cons x xs ih =>
    rw [commonTable, List.headD_eq_head?_getD, ih, Option.getD_some, commonRow_lengthRow]
    rfl

-- Every place of the right list, the one behind its end included, has an entry in a row.
theorem getElem?_lengthRow (right : List β) (xs : List α) {j : Nat} (hj : j ≤ right.length) :
    (lengthRow eq right xs).toArray[j]? = some (longestCommon eq xs (right.drop j)) := by
  rw [List.getElem?_toArray, lengthRow, List.getElem?_map,
    List.getElem?_eq_getElem (by rw [List.length_tails]; omega), List.getElem_tails, Option.map_some]

theorem drop_succ_of_cons {right ys : List β} {y : β} {j : Nat} (h : y :: ys = right.drop j) :
    j < right.length ∧ ys = right.drop (j + 1) := by
  constructor
  · by_contra hout
    rw [List.drop_of_length_le (by omega)] at h
    cases h
  · rw [← List.tail_drop, ← h, List.tail_cons]

theorem tail_of_commonTable {right : List β} {x : α} {xs : List α} {rows : List (Array Nat)}
    (hrows : rows = commonTable eq right (x :: xs)) : rows.tail = commonTable eq right xs := by
  rw [hrows]
  rfl

-- Both rows that are compared are there, and so are the two entries that are read in them: the row below
-- and the place to the right say what can still be kept without the item on the left, or that on the right.
theorem entries_of_commonTable {right ys : List β} {x : α} {xs : List α} {y : β} {j : Nat}
    {rows : List (Array Nat)} (hrows : rows = commonTable eq right (x :: xs))
    (hys : y :: ys = right.drop j) :
    ∃ row below, rows.head? = some row ∧ rows.tail.head? = some below ∧
      row[j + 1]? = some (longestCommon eq (x :: xs) ys) ∧
      below[j]? = some (longestCommon eq xs (y :: ys)) := by
  obtain ⟨hj, hrest⟩ := drop_succ_of_cons hys
  refine ⟨_, _, hrows ▸ head?_commonTable eq right (x :: xs),
    tail_of_commonTable hrows ▸ head?_commonTable eq right xs, ?_, ?_⟩
  · rw [getElem?_lengthRow right (x :: xs) hj, ← hrest]
  · rw [getElem?_lengthRow right xs hj.le, ← hys]

theorem entry_le_entry_iff {right ys : List β} {x : α} {xs : List α} {y : β} {j : Nat}
    {rows : List (Array Nat)} (hrows : rows = commonTable eq right (x :: xs))
    (hys : y :: ys = right.drop j) :
    (rows.headD #[]).getD (j + 1) 0 ≤ (rows.tail.headD #[]).getD j 0 ↔
      longestCommon eq (x :: xs) ys ≤ longestCommon eq xs (y :: ys) := by
  obtain ⟨row, below, hrow, hbelow, hright, hdown⟩ := entries_of_commonTable hrows hys
  rw [List.headD_eq_head?_getD, List.headD_eq_head?_getD, hrow, hbelow, Option.getD_some, Option.getD_some,
    Array.getD_eq_getD_getElem?, Array.getD_eq_getD_getElem?, hright, hdown, Option.getD_some,
    Option.getD_some]

-- Following the table keeps as much as a longest common subsequence of what is left.
theorem script_followTable (eq : α → β → Bool) (right : List β) (i j : Nat) (xs : List α) (ys : List β)
    (rows : List (Array Nat)) (hrows : rows = commonTable eq right xs) (hys : ys = right.drop j) :
    Script eq i j xs ys (followTable eq rows i j xs ys) ∧
      equalSteps (followTable eq rows i j xs ys) = longestCommon eq xs ys := by
  fun_induction followTable eq rows i j xs ys with
  | case1 rows i j => exact ⟨.done, (longestCommon_nil_left []).symm⟩
  | case2 rows i j x xs ih =>
    obtain ⟨hscript, hsteps⟩ := ih (tail_of_commonTable hrows) hys
    refine ⟨.delete hscript, ?_⟩
    rw [equalSteps_delete, hsteps, longestCommon_nil_right, longestCommon_nil_right]
  | case3 rows i j y ys ih =>
    obtain ⟨hscript, hsteps⟩ := ih hrows (drop_succ_of_cons hys).2
    refine ⟨.insert hscript, ?_⟩
    rw [equalSteps_insert, hsteps, longestCommon_nil_left, longestCommon_nil_left]
  | case4 rows i j x xs y ys heq ih =>
    obtain ⟨hscript, hsteps⟩ := ih (tail_of_commonTable hrows) (drop_succ_of_cons hys).2
    refine ⟨.equal heq hscript, ?_⟩
    rw [equalSteps_equal, hsteps, longestCommon_cons_of_eq heq]
  | case5 rows i j x xs y ys hne hle ih =>
    obtain ⟨hscript, hsteps⟩ := ih (tail_of_commonTable hrows) hys
    refine ⟨.delete hscript, ?_⟩
    rw [ge_iff_le, entry_le_entry_iff hrows hys] at hle
    rw [equalSteps_delete, hsteps, longestCommon_cons_of_ne hne, Nat.max_eq_left hle]
  | case6 rows i j x xs y ys hne hlt ih =>
    obtain ⟨hscript, hsteps⟩ := ih hrows (drop_succ_of_cons hys).2
    refine ⟨.insert hscript, ?_⟩
    rw [ge_iff_le, entry_le_entry_iff hrows hys] at hlt
    rw [equalSteps_insert, hsteps, longestCommon_cons_of_ne hne, Nat.max_eq_right (by omega)]

theorem commonPrefix_le (eq : α → β → Bool) (left : List α) (right : List β) :
    commonPrefix eq left right ≤ left.length ∧ commonPrefix eq left right ≤ right.length := by
  have htake := ((left.zip right).takeWhile_sublist fun p => eq p.1 p.2).length_le
  rw [List.length_zip] at htake
  exact Nat.le_min.1 htake

theorem related_commonPrefix (eq : α → β → Bool) (left : List α) (right : List β) :
    List.Forall₂ (fun x y => eq x y = true) (left.take (commonPrefix eq left right))
      (right.take (commonPrefix eq left right)) := by
  induction left generalizing right with
  | nil => simp
  | cons x left ih =>
    cases right with
    | nil => simp
    | cons y right =>
      by_cases heq : eq x y = true
      · rw [commonPrefix_cons_of_eq heq]
        exact .cons heq (ih right)
      · rw [commonPrefix_cons_of_ne heq]
        exact .nil

theorem commonSuffix_le (eq : α → β → Bool) (left : List α) (right : List β) :
    commonSuffix eq left right ≤ left.length ∧ commonSuffix eq left right ≤ right.length := by
  have hprefix := commonPrefix_le eq left.reverse right.reverse
  rw [List.length_reverse, List.length_reverse] at hprefix
  exact hprefix

theorem related_commonSuffix (eq : α → β → Bool) (left : List α) (right : List β) :
    List.Forall₂ (fun x y => eq x y = true)
      (left.drop (left.length - commonSuffix eq left right))
      (right.drop (right.length - commonSuffix eq left right)) := by
  have hreverse := List.rel_reverse (related_commonPrefix eq left.reverse right.reverse)
  rw [List.take_reverse, List.take_reverse, List.reverse_reverse, List.reverse_reverse] at hreverse
  exact hreverse

-- The steps between the common beginning and the common end, by places in the whole lists.
theorem script_changedPart (eq : α → β → Bool) (left : List α) (right : List β) :
    let part := changedPart eq left right
    Script eq part.before part.before part.left part.right
      ((followTable eq (commonTable eq part.right part.left) 0 0 part.left part.right).map
        (·.shift part.before)) := by
  intro part
  exact (script_followTable eq part.right 0 0 part.left part.right _ rfl rfl).1.shift part.before

theorem script_edits (eq : α → β → Bool) (left : List α) (right : List β) :
    Script eq 0 0 left right (edits eq left right) := by
  have hmiddle := script_changedPart eq left right
  have hbefore := related_commonPrefix eq left right
  obtain ⟨hleft, hright⟩ := commonPrefix_le eq left right
  rw [edits]
  simp only [changedPart] at hmiddle ⊢
  generalize commonPrefix eq left right = before at *
  have hafter := related_commonSuffix eq (left.drop before) (right.drop before)
  obtain ⟨hleft', hright'⟩ := commonSuffix_le eq (left.drop before) (right.drop before)
  generalize commonSuffix eq (left.drop before) (right.drop before) = after at *
  rw [List.length_drop] at hleft' hright'
  have hstart := Script.of_related 0 0 hbefore (List.length_take_of_le hleft)
  have hend := Script.of_related (n := after) (left.length - after) (right.length - after) hafter
    (by rw [List.length_drop, List.length_drop]; omega)
  have hrest := hmiddle.append hend
    (by rw [List.length_take, List.length_drop]; omega)
    (by rw [List.length_take, List.length_drop]; omega)
  have hall := hstart.append hrest
    (by rw [List.length_take]; omega)
    (by rw [List.length_take]; omega)
  simp only [List.take_append_drop, Nat.zero_add] at hall
  rw [List.append_assoc]
  exact hall

theorem equalSteps_edits (eq : α → β → Bool) (left : List α) (right : List β) :
    equalSteps (edits eq left right) = longestCommon eq left right := by
  let part := changedPart eq left right
  have hmiddle := (script_followTable eq part.right 0 0 part.left part.right _ rfl rfl).2
  calc equalSteps (edits eq left right)
      = part.before + longestCommon eq part.left part.right + part.after := by
        rw [edits, equalSteps_append, equalSteps_append, equalSteps_map_equal, equalSteps_map_equal,
          equalSteps_shift, hmiddle, List.length_range, List.length_range]
    _ = part.before + longestCommon eq (left.drop part.before) (right.drop part.before) := by
        rw [longestCommon_eq_commonSuffix_add eq (left.drop _), Nat.add_assoc,
          Nat.add_comm (longestCommon eq part.left part.right)]
        rfl
    _ = longestCommon eq left right := (longestCommon_eq_commonPrefix_add eq left right).symm

-- The steps of the script take each place of the two lists once and in order, keep only related items, and
-- keep as many of them as any common subsequence has.
theorem edits_minimal (eq : α → β → Bool) (left : List α) (right : List β) :
    (∀ step ∈ edits eq left right, (∀ i, step.left? = some i → i < left.length) ∧
      ∀ j, step.right? = some j → j < right.length) ∧
    (edits eq left right).filterMap Edit.left? = List.range left.length ∧
    (edits eq left right).filterMap Edit.right? = List.range right.length ∧
    (∀ i j, .equal i j ∈ edits eq left right →
      ∃ x y, left[i]? = some x ∧ right[j]? = some y ∧ eq x y = true) ∧
    IsGreatest (commonLengths eq left right) (equalSteps (edits eq left right)) := by
  have hscript := script_edits eq left right
  have hleft := hscript.left_places
  have hright := hscript.right_places
  rw [← List.range_eq_range'] at hleft hright
  refine ⟨fun step hstep => ⟨fun i hi => ?_, fun j hj => ?_⟩, hleft, hright, fun i j hmem => ?_, ?_⟩
  · have hplace : i ∈ List.range left.length := hleft ▸ List.mem_filterMap.2 ⟨step, hstep, hi⟩
    exact List.mem_range.1 hplace
  · have hplace : j ∈ List.range right.length := hright ▸ List.mem_filterMap.2 ⟨step, hstep, hj⟩
    exact List.mem_range.1 hplace
  · obtain ⟨m, n, x, y, rfl, rfl, hx, hy, heq⟩ := hscript.related_of_mem hmem
    rw [Nat.zero_add, Nat.zero_add]
    exact ⟨x, y, hx, hy, heq⟩
  · rw [equalSteps_edits]
    exact isGreatest_longestCommon eq left right

-- The last items are related and set aside first, so `0` is kept for `3` and not for a `1`.
example : edits (fun x y : Nat => decide (x ≤ y)) [2, 0] [1, 1, 3] =
    [.delete 0, .insert 0, .insert 1, .equal 1 2] := by cbv

end Verdict
