import Verdict.Proofs.Comparison.SequenceWindow

namespace Verdict

section

variable {α : Type} {eq : α → α → Bool} {left right xs ys : List α} {script : List Edit} {i j : Nat}

-- The items with any mark but one.
def without (change : Change) (items : List (Change × α)) : List α :=
  items.filterMap fun m => if m.1 = change then none else some m.2

theorem without_cons_self (change : Change) (x : α) (items : List (Change × α)) :
    without change ((change, x) :: items) = without change items :=
  List.filterMap_cons_none (if_pos rfl)

theorem without_cons_of_ne {change other : Change} (hne : other ≠ change) (x : α)
    (items : List (Change × α)) :
    without change ((other, x) :: items) = x :: without change items :=
  List.filterMap_cons_some (if_neg hne)

theorem without_eq_map {change : Change} {items : List (Change × α)}
    (hnone : ∀ m ∈ items, m.1 ≠ change) : without change items = items.map (·.2) := by
  rw [without, ← List.filterMap_eq_map]
  exact List.filterMap_congr fun m hm => if_neg (hnone m hm)

theorem getElem?_of_drop_eq_cons {items rest : List α} {n : Nat} {x : α}
    (hdrop : items.drop n = x :: rest) : items[n]? = some x ∧ items.drop (n + 1) = rest := by
  refine ⟨?_, by rw [← List.tail_drop, hdrop, List.tail_cons]⟩
  rw [← Nat.add_zero n, ← List.getElem?_drop, hdrop, List.getElem?_cons_zero]

theorem scriptItems_cons {step : Edit} {m : Change × α}
    (hstep : step.item? left.toArray right.toArray = some m) (script : List Edit) :
    scriptItems left right (step :: script) = m :: scriptItems left right script :=
  List.filterMap_cons_some hstep

-- Both lists can be read off the items of a script that keeps equal items only: the marks say which steps
-- took an item off the left list and which off the right one.
theorem Script.restores (h : Script eq i j xs ys script) (heq : ∀ x y, eq x y = true → x = y)
    (hleft : left.drop i = xs) (hright : right.drop j = ys) :
    without .added (scriptItems left right script) = xs ∧
      without .removed (scriptItems left right script) = ys := by
  induction h with
  | done => exact ⟨rfl, rfl⟩
  | @equal i j x y xs ys script hxy _ ih =>
    obtain ⟨hx, hleft'⟩ := getElem?_of_drop_eq_cons hleft
    obtain ⟨-, hright'⟩ := getElem?_of_drop_eq_cons hright
    obtain rfl := heq x y hxy
    obtain ⟨hxs, hys⟩ := ih hleft' hright'
    have hitem : (Edit.equal i j).item? left.toArray right.toArray = some (.kept, x) := by
      rw [Edit.item?, List.getElem?_toArray, hx, Option.map_some]
    rw [scriptItems_cons hitem, without_cons_of_ne (by decide), without_cons_of_ne (by decide), hxs, hys]
    exact ⟨rfl, rfl⟩
  | @delete i j x xs ys script _ ih =>
    obtain ⟨hx, hleft'⟩ := getElem?_of_drop_eq_cons hleft
    obtain ⟨hxs, hys⟩ := ih hleft' hright
    have hitem : (Edit.delete i).item? left.toArray right.toArray = some (.removed, x) := by
      rw [Edit.item?, List.getElem?_toArray, hx, Option.map_some]
    rw [scriptItems_cons hitem, without_cons_of_ne (by decide), without_cons_self, hxs, hys]
    exact ⟨rfl, rfl⟩
  | @insert i j y xs ys script _ ih =>
    obtain ⟨hy, hright'⟩ := getElem?_of_drop_eq_cons hright
    obtain ⟨hxs, hys⟩ := ih hleft hright'
    have hitem : (Edit.insert j).item? left.toArray right.toArray = some (.added, y) := by
      rw [Edit.item?, List.getElem?_toArray, hy, Option.map_some]
    rw [scriptItems_cons hitem, without_cons_self, without_cons_of_ne (by decide), hxs, hys]
    exact ⟨rfl, rfl⟩

theorem scriptItems_edits_self (hrefl : ∀ x, eq x x = true) (items : List α) :
    scriptItems items items (edits eq items items) = keptItems items := by
  have hrelated : List.Forall₂ (fun x y => eq x y = true) items items :=
    List.forall₂_same.2 fun x _ => hrefl x
  have hpart : changedPart eq (items ++ []) (items ++ []) = ⟨items.length, 0, [], []⟩ :=
    changedPart_append_of_related hrelated rfl rfl
  rw [List.append_nil] at hpart
  have hitems := scriptItems_edits eq items items
  rw [hpart] at hitems
  simpa [changedItems, scriptItems, followTable, keptItems] using hitems

end

variable {α : Type} [BEq α] [LawfulBEq α]

theorem markedItems_restore (left right : List α) :
    without .added (markedItems left right) = left ∧
      without .removed (markedItems left right) = right :=
  (script_edits (· == ·) left right).restores (fun _ _ => eq_of_beq) rfl rfl

theorem markedItems_self (items : List α) : markedItems items items = keptItems items :=
  scriptItems_edits_self beq_self_eq_true items

-- A diff shows a change exactly when the two lists differ.
theorem exists_change_markedItems_iff {left right : List α} :
    (∃ m ∈ markedItems left right, m.1 ≠ .kept) ↔ left ≠ right := by
  constructor
  · rintro ⟨m, hm, hchange⟩ rfl
    rw [markedItems_self, keptItems, List.mem_map] at hm
    obtain ⟨x, -, rfl⟩ := hm
    exact hchange rfl
  · intro hne
    by_contra hnone
    have hkept : ∀ m ∈ markedItems left right, m.1 = .kept := by
      intro m hm
      by_contra hchange
      exact hnone ⟨m, hm, hchange⟩
    have hunmarked (change : Change) (hne : .kept ≠ change) :
        without change (markedItems left right) = (markedItems left right).map (·.2) :=
      without_eq_map fun m hm => hkept m hm ▸ hne
    obtain ⟨hleft, hright⟩ := markedItems_restore left right
    rw [hunmarked _ (by decide)] at hleft hright
    exact hne (hleft.symm.trans hright)

-- Runs have the fates of their characters.
theorem exists_mem_joinRuns_iff {p : Change → Prop} {items : List (Change × Char)} :
    (∃ r ∈ joinRuns items, p r.1) ↔ ∃ m ∈ items, p m.1 := by
  fun_induction joinRuns items with
  | case1 => simp
  | case2 c rest next cs runs hruns ih =>
    rw [List.exists_mem_cons_iff _ (next, c), ← ih, hruns, List.exists_mem_cons_iff,
      List.exists_mem_cons_iff, or_self_left]
  | case3 change c rest next cs runs hruns hne ih | case4 change c rest hruns ih =>
    rw [List.exists_mem_cons_iff, List.exists_mem_cons_iff _ (change, c), ← ih, hruns]

theorem exists_change_charDiff_iff {left right : String} :
    (∃ s ∈ charDiff left right, s.change ≠ .kept) ↔ left ≠ right := by
  simp only [charDiff, List.mem_map, exists_exists_and_eq_and]
  rw [exists_mem_joinRuns_iff (p := (· ≠ .kept)), exists_change_markedItems_iff, ne_eq,
    String.toList_inj]

theorem exists_change_lineDiff_iff {left right : String} :
    (∃ l ∈ lineDiff left right, l.change ≠ .kept) ↔ linesOf left ≠ linesOf right := by
  simp only [lineDiff, List.mem_map, exists_exists_and_eq_and]
  exact exists_change_markedItems_iff

end Verdict
