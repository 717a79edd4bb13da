import Verdict.Diff.Edit
import Mathlib.Data.List.Forall2
import Mathlib.Order.Bounds.Basic

namespace Verdict

variable {α β : Type} {eq : α → β → Bool}

-- Subsequences of the two lists that are related item by item. Nothing is asked of the relation: it may relate
-- an item to several others, or to none.
structure CommonSubsequence (eq : α → β → Bool) (left : List α) (right : List β) (xs : List α)
    (ys : List β) : Prop where
  left : xs.Sublist left
  right : ys.Sublist right
  related : List.Forall₂ (fun x y => eq x y = true) xs ys

def commonLengths (eq : α → β → Bool) (left : List α) (right : List β) : Set Nat :=
  {n | ∃ xs ys, CommonSubsequence eq left right xs ys ∧ xs.length = n}

-- The length of a longest common subsequence: related first items are taken at once, and of two that
-- are not related one is left out.
def longestCommon (eq : α → β → Bool) : List α → List β → Nat
  | [], _ => 0
  | _ :: _, [] => 0
  | x :: xs, y :: ys =>
    if eq x y then longestCommon eq xs ys + 1
    else max (longestCommon eq xs (y :: ys)) (longestCommon eq (x :: xs) ys)
termination_by left right => left.length + right.length

@[simp] theorem longestCommon_nil_left (right : List β) : longestCommon eq [] right = 0 := by
  rw [longestCommon]

@[simp] theorem longestCommon_nil_right (left : List α) : longestCommon eq left [] = 0 := by
  cases left <;> rw [longestCommon]

theorem longestCommon_cons_of_eq {x : α} {y : β} (h : eq x y = true) (xs : List α) (ys : List β) :
    longestCommon eq (x :: xs) (y :: ys) = longestCommon eq xs ys + 1 := by
  rw [longestCommon, if_pos h]

theorem longestCommon_cons_of_ne {x : α} {y : β} (h : ¬eq x y = true) (xs : List α)
    (ys : List β) :
    longestCommon eq (x :: xs) (y :: ys) =
      max (longestCommon eq xs (y :: ys)) (longestCommon eq (x :: xs) ys) := by
  rw [longestCommon, if_neg h]

namespace CommonSubsequence

variable {left xs : List α} {right ys : List β} {x : α} {y : β}

theorem length_eq (h : CommonSubsequence eq left right xs ys) : xs.length = ys.length :=
  h.related.length_eq

theorem reverse (h : CommonSubsequence eq left right xs ys) :
    CommonSubsequence eq left.reverse right.reverse xs.reverse ys.reverse :=
  ⟨List.reverse_sublist.2 h.left, List.reverse_sublist.2 h.right,
    List.rel_reverse h.related⟩

-- Leaving out the first item of both lists costs a common subsequence at most its first pair.
theorem tail (h : CommonSubsequence eq (x :: left) (y :: right) xs ys) :
    CommonSubsequence eq left right xs.tail ys.tail := by
  refine ⟨h.left.tail, h.right.tail, ?_⟩
  cases h.related with
  | nil => exact .nil
  | cons _ hrest => exact hrest

-- Items that are not related cannot both start a common subsequence.
theorem drop_first (hne : ¬eq x y = true) (h : CommonSubsequence eq (x :: left) (y :: right) xs ys) :
    CommonSubsequence eq left (y :: right) xs ys ∨ CommonSubsequence eq (x :: left) right xs ys := by
  rcases List.sublist_cons_iff.1 h.left with hl | ⟨xs', rfl, hl⟩
  · exact .inl ⟨hl, h.right, h.related⟩
  rcases List.sublist_cons_iff.1 h.right with hr | ⟨ys', rfl, hr⟩
  · exact .inr ⟨h.left, hr, h.related⟩
  · exact absurd (List.forall₂_cons.1 h.related).1 hne

end CommonSubsequence

theorem longestCommon_mem (eq : α → β → Bool) (left : List α) (right : List β) :
    longestCommon eq left right ∈ commonLengths eq left right := by
  fun_induction longestCommon eq left right with
  | case1 right => exact ⟨[], [], ⟨List.nil_sublist _, List.nil_sublist _, .nil⟩, rfl⟩
  | case2 x left => exact ⟨[], [], ⟨List.nil_sublist _, List.nil_sublist _, .nil⟩, rfl⟩
  | case3 x left y right heq ih =>
    obtain ⟨xs, ys, h, hlen⟩ := ih
    exact ⟨x :: xs, y :: ys, ⟨h.left.cons_cons x, h.right.cons_cons y, .cons heq h.related⟩,
      congrArg (· + 1) hlen⟩
  | case4 x left y right hne ihl ihr =>
    rcases Nat.le_total (longestCommon eq (x :: left) right) (longestCommon eq left (y :: right))
      with hle | hle
    · obtain ⟨xs, ys, h, hlen⟩ := ihl
      exact ⟨xs, ys, ⟨h.left.cons x, h.right, h.related⟩, by rw [Nat.max_eq_left hle, hlen]⟩
    · obtain ⟨xs, ys, h, hlen⟩ := ihr
      exact ⟨xs, ys, ⟨h.left, h.right.cons y, h.related⟩, by rw [Nat.max_eq_right hle, hlen]⟩

theorem length_le_longestCommon {left xs : List α} {right ys : List β}
    (h : CommonSubsequence eq left right xs ys) : xs.length ≤ longestCommon eq left right := by
  fun_induction longestCommon eq left right generalizing xs ys with
  | case1 right => exact (h.left.length_le)
  | case2 x left => exact h.length_eq.le.trans h.right.length_le
  | case3 x left y right heq ih =>
    have hrest := ih h.tail
    rw [List.length_tail] at hrest
    omega
  | case4 x left y right hne ihl ihr =>
    rcases h.drop_first hne with h | h
    · exact (ihl h).trans (Nat.le_max_left _ _)
    · exact (ihr h).trans (Nat.le_max_right _ _)

theorem isGreatest_longestCommon (eq : α → β → Bool) (left : List α) (right : List β) :
    IsGreatest (commonLengths eq left right) (longestCommon eq left right) := by
  refine ⟨longestCommon_mem eq left right, ?_⟩
  rintro n ⟨xs, ys, h, rfl⟩
  exact length_le_longestCommon h

theorem commonLengths_reverse (eq : α → β → Bool) (left : List α) (right : List β) :
    commonLengths eq left.reverse right.reverse = commonLengths eq left right := by
  ext n
  constructor
  · rintro ⟨xs, ys, h, rfl⟩
    have hback := h.reverse
    rw [List.reverse_reverse, List.reverse_reverse] at hback
    exact ⟨_, _, hback, List.length_reverse⟩
  · rintro ⟨xs, ys, h, rfl⟩
    exact ⟨_, _, h.reverse, List.length_reverse⟩

theorem longestCommon_reverse (eq : α → β → Bool) (left : List α) (right : List β) :
    longestCommon eq left.reverse right.reverse = longestCommon eq left right := by
  have h := isGreatest_longestCommon eq left.reverse right.reverse
  rw [commonLengths_reverse] at h
  exact h.unique (isGreatest_longestCommon eq left right)

-- A common beginning is part of a longest common subsequence.
theorem longestCommon_eq_commonPrefix_add (eq : α → β → Bool) (left : List α) (right : List β) :
    longestCommon eq left right = commonPrefix eq left right +
      longestCommon eq (left.drop (commonPrefix eq left right))
        (right.drop (commonPrefix eq left right)) := by
  induction left generalizing right with
  | nil => simp
  | cons x left ih =>
    cases right with
    | nil => simp
    | cons y right =>
      by_cases heq : eq x y = true
      · have hrest := ih right
        rw [longestCommon_cons_of_eq heq, commonPrefix_cons_of_eq heq, List.drop_succ_cons,
          List.drop_succ_cons]
        omega
      · rw [commonPrefix_cons_of_ne heq, List.drop_zero, List.drop_zero, Nat.zero_add]

-- So is a common end: it is the common beginning of the two lists read backwards.
theorem longestCommon_eq_commonSuffix_add (eq : α → β → Bool) (left : List α) (right : List β) :
    longestCommon eq left right = commonSuffix eq left right +
      longestCommon eq (left.take (left.length - commonSuffix eq left right))
        (right.take (right.length - commonSuffix eq left right)) := by
  have hprefix := longestCommon_eq_commonPrefix_add eq left.reverse right.reverse
  rw [longestCommon_reverse, List.drop_reverse, List.drop_reverse, longestCommon_reverse] at hprefix
  exact hprefix

end Verdict
