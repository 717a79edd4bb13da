import Verdict.Proofs.Diff.Marked

namespace Verdict

section

variable {α : Type} {eq : α → α → Bool} {left right : List α} {script : List Edit}

theorem map_fst_scriptItems (h : Script eq 0 0 left right script) :
    (scriptItems left right script).map Prod.fst = script.map Edit.change := by
  rw [scriptItems, List.map_filterMap, ← List.filterMap_eq_map]
  refine List.filterMap_congr fun step hstep => ?_
  obtain ⟨x, hx⟩ := h.exists_item hstep
  rw [hx]
  rfl

theorem isChain_markedItems [BEq α] (left right : List α) :
    ((markedItems left right).map Prod.fst).IsChain Change.InOrder := by
  rw [markedItems, ← scriptItems, map_fst_scriptItems (script_edits (· == ·) left right)]
  exact isChain_edits (· == ·) left right

theorem without_eq_filter (change : Change) (items : List (Change × α)) :
    without change items = (items.filter (·.1 != change)).map (·.2) := by
  induction items with
  | nil => rfl
  | cons m items ih =>
    obtain ⟨mark, x⟩ := m
    by_cases hmark : mark = change
    · subst hmark
      rw [without_cons_self, ih, List.filter_cons_of_neg (by simp)]
    · rw [without_cons_of_ne hmark, ih, List.filter_cons_of_pos (by simpa using hmark), List.map_cons]

end

section

variable {items : List (Change × Char)}

theorem head?_joinRuns (items : List (Change × Char)) :
    ((joinRuns items).map Prod.fst).head? = (items.map Prod.fst).head? := by
  fun_cases joinRuns items <;> rfl

theorem isChain_joinRuns (hitems : (items.map Prod.fst).IsChain Change.InOrder) :
    ((joinRuns items).map Prod.fst).IsChain fun change next => change ≠ next ∧ change.InOrder next := by
  fun_induction joinRuns items with
  | case1 => exact .nil
  | case2 c rest next cs runs hruns ih =>
    have hrest := ih hitems.tail
    rw [hruns] at hrest
    exact hrest
  | case3 change c rest next cs runs hruns hne ih =>
    have hrest := ih hitems.tail
    have hhead := head?_joinRuns rest
    rw [hruns] at hrest hhead
    exact List.isChain_cons_cons.2 ⟨⟨hne, hitems.rel_head? hhead.symm⟩, hrest⟩
  | case4 change c rest hruns ih => exact List.isChain_singleton change

theorem ne_nil_of_mem_joinRuns {run : Change × List Char} (hrun : run ∈ joinRuns items) :
    run.2 ≠ [] := by
  fun_induction joinRuns items with
  | case1 => cases hrun
  | case2 c rest next cs runs hruns ih =>
    rw [hruns] at ih
    rcases List.mem_cons.1 hrun with rfl | hmem
    · exact List.cons_ne_nil c cs
    · exact ih (List.mem_cons_of_mem _ hmem)
  | case3 change c rest next cs runs hruns hne ih =>
    rw [hruns] at ih
    rcases List.mem_cons.1 hrun with rfl | hmem
    · exact List.cons_ne_nil c []
    · exact ih hmem
  | case4 change c rest hruns ih =>
    rw [List.mem_singleton.1 hrun]
    exact List.cons_ne_nil c []

-- Joining neighbours keeps the characters under each mark.
theorem flatten_without_joinRuns (change : Change) (items : List (Change × Char)) :
    (without change (joinRuns items)).flatten = without change items := by
  fun_induction joinRuns items with
  | case1 => rfl
  | case2 c rest next cs runs hruns ih =>
    rw [hruns] at ih
    by_cases hnext : next = change
    · subst hnext
      rw [without_cons_self] at ih ⊢
      rw [ih, without_cons_self]
    · rw [without_cons_of_ne hnext, List.flatten_cons] at ih ⊢
      rw [without_cons_of_ne hnext, ← ih, List.cons_append]
  | case3 mark c rest next cs runs hruns hne ih =>
    rw [hruns] at ih
    by_cases hmark : mark = change
    · subst hmark
      rw [without_cons_self, ih, without_cons_self]
    · rw [without_cons_of_ne hmark, List.flatten_cons, ih, without_cons_of_ne hmark]
      rfl
  | case4 mark c rest hruns ih =>
    rw [hruns] at ih
    by_cases hmark : mark = change
    · subst hmark
      rw [without_cons_self, without_cons_self, ← ih]
    · rw [without_cons_of_ne hmark, without_cons_of_ne hmark, ← ih]
      rfl

end

-- The texts of all segments but those with one fate, put together.
def Segment.textWithout (change : Change) (segments : List Segment) : String :=
  String.join ((segments.filter (·.change != change)).map (·.text))

theorem toList_textWithout_charDiff (change : Change) (left right : String) :
    (Segment.textWithout change (charDiff left right)).toList =
      without change (markedItems left.toList right.toList) := by
  have hruns := without_eq_filter change (joinRuns (markedItems left.toList right.toList))
  rw [Segment.textWithout, String.toList_join, List.flatMap_map, charDiff, List.filter_map, List.flatMap_map,
    ← flatten_without_joinRuns, hruns, ← List.flatMap_id', List.flatMap_map]
  refine List.flatMap_congr fun run _ => ?_
  exact String.toList_ofList

theorem textWithout_charDiff (left right : String) :
    Segment.textWithout .added (charDiff left right) = left ∧
      Segment.textWithout .removed (charDiff left right) = right := by
  obtain ⟨hleft, hright⟩ := markedItems_restore left.toList right.toList
  constructor
  · rw [← String.toList_inj, toList_textWithout_charDiff, hleft]
  · rw [← String.toList_inj, toList_textWithout_charDiff, hright]

theorem text_ne_empty_of_mem_charDiff {left right : String} {s : Segment} (hs : s ∈ charDiff left right) :
    s.text ≠ "" := by
  obtain ⟨run, hrun, rfl⟩ := List.mem_map.1 hs
  intro hempty
  refine ne_nil_of_mem_joinRuns hrun ?_
  rw [← String.toList_ofList (l := run.2)]
  exact congrArg String.toList hempty

theorem isChain_charDiff (left right : String) :
    (charDiff left right).IsChain fun s next => s.change ≠ next.change ∧ s.change.InOrder next.change := by
  have hruns := isChain_joinRuns (isChain_markedItems left.toList right.toList)
  rw [charDiff]
  exact (List.isChain_map _).2 ((List.isChain_map _).1 hruns)

theorem linesWithout_lineDiff (change : Change) (left right : String) :
    ((lineDiff left right).filter (·.change != change)).map (·.text) =
      without change (markedItems (linesOf left) (linesOf right)) := by
  rw [lineDiff, List.filter_map, List.map_map, without_eq_filter]
  rfl

-- Both texts can be read off their diff, by characters or by lines, and segments are neither empty nor could
-- two neighbours be one.
theorem text_diffs_restore (left right : String) :
    (Segment.textWithout .added (charDiff left right) = left ∧
      Segment.textWithout .removed (charDiff left right) = right ∧
      (∀ s ∈ charDiff left right, s.text ≠ "") ∧
      (charDiff left right).IsChain (fun s next => s.change ≠ next.change ∧
        ¬(s.change = .added ∧ next.change = .removed)) ∧
      ((∀ s ∈ charDiff left right, s.change = .kept) ↔ left = right)) ∧
    ((lineDiff left right).filter (·.change != .added)).map (·.text) = linesOf left ∧
      ((lineDiff left right).filter (·.change != .removed)).map (·.text) = linesOf right := by
  obtain ⟨hleft, hright⟩ := textWithout_charDiff left right
  obtain ⟨hlinesLeft, hlinesRight⟩ := markedItems_restore (linesOf left) (linesOf right)
  refine ⟨⟨hleft, hright, fun s hs => text_ne_empty_of_mem_charDiff hs, isChain_charDiff left right, ?_⟩,
    ?_, ?_⟩
  · rw [← not_iff_not, ← ne_eq left right, ← exists_change_charDiff_iff]
    simp only [not_forall, exists_prop, ne_eq]
  · rw [linesWithout_lineDiff, hlinesLeft]
  · rw [linesWithout_lineDiff, hlinesRight]

end Verdict
