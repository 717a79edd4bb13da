import Verdict.Proofs.Comparison.SequenceWindow

namespace Verdict

section

variable {α : Type} {changed : α → Bool} {limit n : Nat} {x : α} {xs held : List α}

theorem mem_shownEntries_of_changed (hx : x ∈ xs) (hchanged : changed x = true) :
    x ∈ shownEntries changed limit xs := by
  induction xs with
  | nil => cases hx
  | cons y xs ih =>
    rw [shownEntries]
    rcases List.mem_cons.1 hx with rfl | hmem
    · rw [hchanged, Bool.true_or, if_pos rfl]
      exact List.mem_cons_self
    · split
      · exact List.mem_cons_of_mem y (ih hmem)
      · exact ih hmem

-- Unchanged entries that come first of all that are shown lie in front of the first change.
theorem length_lt_of_prefix_shown (hnear : (xs.take n).any changed = true)
    (hfront : held <+: shownEntries changed limit xs) (hheld : ∀ k ∈ held, changed k ≠ true) :
    held.length < n := by
  induction xs generalizing held n with
  | nil =>
    rw [List.take_nil] at hnear
    cases hnear
  | cons x xs ih =>
    cases n with
    | zero => cases hnear
    | succ n =>
      cases held with
      | nil => exact Nat.succ_pos n
      | cons k held =>
        obtain ⟨hk, hrest⟩ := List.forall_mem_cons.1 hheld
        rw [shownEntries] at hfront
        by_cases hx : changed x = true
        · rw [hx, Bool.true_or, if_pos rfl] at hfront
          obtain ⟨rfl, -⟩ := List.cons_prefix_cons.1 hfront
          exact absurd hx hk
        · rw [List.take_succ_cons, List.any_cons, Bool.eq_false_iff.2 hx, Bool.false_or] at hnear
          split at hfront
          · exact Nat.succ_lt_succ (ih hnear (List.cons_prefix_cons.1 hfront).2 hrest)
          · exact (ih hnear hfront hheld).trans (Nat.lt_succ_self n)

-- An unchanged entry is shown for the next change, so no more of them follow one another than may stand in
-- front of it.
theorem length_le_of_infix_shown (hwithin : held <:+: shownEntries changed limit xs)
    (hheld : ∀ k ∈ held, changed k ≠ true) : held.length ≤ limit := by
  induction xs generalizing held with
  | nil =>
    rw [List.infix_nil.1 hwithin]
    exact Nat.zero_le limit
  | cons x xs ih =>
    rw [shownEntries] at hwithin
    split at hwithin
    case isFalse => exact ih hwithin hheld
    case isTrue hshown =>
      rcases List.infix_cons_iff.1 hwithin with hfront | hrest
      · cases held with
        | nil => exact Nat.zero_le limit
        | cons k held =>
          obtain ⟨rfl, hrest⟩ := List.cons_prefix_cons.1 hfront
          obtain ⟨hk, hheld⟩ := List.forall_mem_cons.1 hheld
          rw [Bool.eq_false_iff.2 hk, Bool.false_or] at hshown
          exact length_lt_of_prefix_shown hshown hrest hheld
      · exact ih hrest hheld

theorem exists_changed_take (hchanged : ∃ x ∈ xs, changed x = true) (hlimit : limit < n) :
    ∃ x ∈ (shownEntries changed limit xs).take n, changed x = true := by
  by_contra! hnone
  have hlen := length_le_of_infix_shown (List.take_prefix n _).isInfix hnone
  rw [List.length_take] at hlen
  have hall : (shownEntries changed limit xs).take n = shownEntries changed limit xs :=
    List.take_of_length_le (by omega)
  obtain ⟨x, hx, hchange⟩ := hchanged
  rw [hall] at hnone
  exact hnone x (mem_shownEntries_of_changed hx hchange) hchange

end

section

variable {α : Type} {eq : α → α → Bool} {left right : List α} {x y : α}

theorem Script.related_of_unchanged {i j : Nat} {script : List Edit} (h : Script eq i j left right script)
    (hnone : ∀ step ∈ script, step.isChange ≠ true) :
    List.Forall₂ (fun x y => eq x y = true) left right := by
  induction h with
  | done => exact .nil
  | equal heq _ ih => exact .cons heq (ih (List.forall_mem_cons.1 hnone).2)
  | delete | insert => exact absurd rfl (List.forall_mem_cons.1 hnone).1

-- The common beginning ends where the sequences differ for the first time.
theorem exists_first_difference {i : Nat} (hx : left[i]? = some x) (hy : right[i]? = some y)
    (hne : eq x y = false) :
    ∃ x y, left[commonPrefix eq left right]? = some x ∧ right[commonPrefix eq left right]? = some y ∧
      eq x y = false := by
  induction left generalizing right i with
  | nil => cases hx
  | cons a left ih =>
    cases right with
    | nil => cases hy
    | cons b right =>
      by_cases heq : eq a b = true
      · rw [commonPrefix_cons_of_eq heq]
        cases i with
        | zero =>
          cases hx
          cases hy
          exact absurd heq (Bool.eq_false_iff.1 hne)
        | succ i => exact ih hx hy
      · rw [commonPrefix_cons_of_ne heq]
        exact ⟨a, b, rfl, rfl, Bool.eq_false_iff.2 heq⟩

-- What follows the common beginning is not all of it a common end.
theorem commonSuffix_lt (hlen : left.length = right.length)
    (hbefore : commonPrefix eq left right < left.length) :
    commonSuffix eq (left.drop (commonPrefix eq left right)) (right.drop (commonPrefix eq left right)) <
      left.length - commonPrefix eq left right := by
  have hnone := commonPrefix_drop eq left right
  generalize commonPrefix eq left right = before at *
  have hlen' : (left.drop before).length = left.length - before := List.length_drop
  have hdrop : (right.drop before).length = (left.drop before).length := by
    rw [List.length_drop, List.length_drop, hlen]
  by_contra hall
  have hrelated := related_commonSuffix eq (left.drop before) (right.drop before)
  rw [hdrop, Nat.sub_eq_zero_of_le (by omega), List.drop_zero, List.drop_zero] at hrelated
  have hsame := commonPrefix_append_of_related hrelated [] []
  rw [List.append_nil, List.append_nil, hnone, commonPrefix_nil_left] at hsame
  omega

theorem DiffWindow.getElem?_part {w : DiffWindow} {n : Nat} (hfirst : w.first ≤ n) (hlast : n < w.last)
    (items : List α) : (w.part items)[n - w.first]? = items[n]? := by
  rw [DiffWindow.part, List.getElem?_drop, Nat.add_sub_cancel' hfirst, List.getElem?_take_of_lt hlast]

-- A window that holds a place at which the sequences differ has a change in its script.
theorem exists_change_of_window {w : DiffWindow} {n : Nat} (hfirst : w.first ≤ n) (hlast : n < w.last)
    (hx : left[n]? = some x) (hy : right[n]? = some y) (hne : eq x y = false) :
    ∃ step ∈ edits eq (w.part left) (w.part right), step.isChange = true := by
  by_contra! hnone
  have hrelated := (script_edits eq _ _).related_of_unchanged hnone
  rw [← DiffWindow.getElem?_part hfirst hlast] at hx hy
  obtain ⟨hi, rfl⟩ := List.getElem?_eq_some_iff.1 hx
  obtain ⟨hj, rfl⟩ := List.getElem?_eq_some_iff.1 hy
  have heq : eq (w.part left)[n - w.first] (w.part right)[n - w.first] = true := hrelated.get hi hj
  rw [hne] at heq
  cases heq

end

-- A line that was removed or added.
def ShowsChange (line : String) : Prop := ∃ text, line = "- " ++ text ∨ line = "+ " ++ text

theorem showsChange_markedLine {entry : Change × String} :
    ShowsChange (markedLine entry) ↔ changedEntry entry = true := by
  obtain ⟨change, text⟩ := entry
  cases change with
  | kept =>
    refine iff_of_false ?_ Bool.false_ne_true
    rintro ⟨text', hline | hline⟩
    · have hfirst := congrArg (·.toList.head?) hline
      simp [markedLine, Change.mark] at hfirst
    · have hfirst := congrArg (·.toList.head?) hline
      simp [markedLine, Change.mark] at hfirst
  | removed => exact iff_of_true ⟨text, .inl rfl⟩ rfl
  | added => exact iff_of_true ⟨text, .inr rfl⟩ rfl

section

variable {h : Heap} {config : Config} {left right : List Value} {script : List Edit}

theorem exists_showsChange_take {eq : Value → Value → Bool} {n : Nat}
    (hscript : Script eq 0 0 left right script) (hchange : ∃ step ∈ script, step.isChange = true)
    (hlimit : config.contextLines < n) :
    ∃ line ∈ (scriptLines h config left right script).take n, ShowsChange line := by
  obtain ⟨step, hstep, hchange⟩ := hchange
  obtain ⟨m, hm, hmark⟩ := exists_item_of_script hscript hstep
  have hentry : ∃ entry ∈ (scriptItems left right script).map (shownItem h config),
      changedEntry entry = true :=
    ⟨_, List.mem_map_of_mem (List.mem_filterMap.2 ⟨step, hstep, hm⟩), hmark.trans hchange⟩
  obtain ⟨entry, hentry, hchanged⟩ := exists_changed_take hentry hlimit
  rw [scriptLines_eq, ← List.map_take]
  exact ⟨_, List.mem_map_of_mem hentry, showsChange_markedLine.2 hchanged⟩

theorem length_le_of_infix_lines {held : List String}
    (hwithin : held <:+: scriptLines h config left right script) (hheld : ∀ line ∈ held, ¬ShowsChange line) :
    held.length ≤ config.contextLines := by
  rw [scriptLines_eq] at hwithin
  obtain ⟨entries, hentries, rfl⟩ := List.infix_map_iff.1 hwithin
  rw [List.length_map]
  refine length_le_of_infix_shown hentries fun entry hentry => ?_
  rw [ne_eq, ← showsChange_markedLine]
  exact hheld _ (List.mem_map_of_mem hentry)

-- Two sequences of equal length that differ at some place, under an equality of items that always answers. Unless
-- the context cannot be held, their diff shows a change.
theorem sequence_diff_shows_change (h : Heap) (config : Config) (comparer : Option ItemEquality)
    (eq : Value → Value → Bool) (left right : List Value) (hlen : left.length = right.length)
    (hanswers : ∀ x y, comparer.getD (fun a b => .ok (a.equals h b)) x y = .ok (eq x y))
    (hdiffer : ∃ (i : Nat) (x y : Value), left[i]? = some x ∧ right[i]? = some y ∧ eq x y = false)
    (hcontext : config.contextLines < config.maxDiffLines) :
    (config.HoldsContext → ∃ lines truncated,
      compareSequences h config comparer left right =
        .ok (.sequence none (some lines) comparer.isSome truncated) ∧
      (∃ line ∈ lines, ShowsChange line) ∧
      lines.length ≤ config.maxDiffLines ∧
      (∀ held, held <:+: lines → (∀ line ∈ held, ¬ShowsChange line) →
        held.length ≤ config.contextLines) ∧
      (truncated = false → lines = plainDiff h config eq left right)) ∧
    (¬config.HoldsContext → config.contextLines + 1 < 0x10000000000000000 →
      compareSequences h config comparer left right = .error ⟨"capacity overflow"⟩) := by
  refine ⟨fun hholds => ?_, fun hlarge _ => compareSequences_of_not_holdsContext hlarge hlen hanswers⟩
  obtain ⟨window, hfirst, hlast, hcut, hreport⟩ := exists_window hholds hlen hanswers
  obtain ⟨i, x, y, hx, hy, hne⟩ := hdiffer
  obtain ⟨x, y, hx, hy, hne⟩ := exists_first_difference hx hy hne
  have hbefore : commonPrefix eq left right < left.length := (List.getElem?_eq_some_iff.1 hx).1
  have hafter := commonSuffix_lt hlen hbefore
  have hpart : (changedPart eq left right).before = commonPrefix eq left right := rfl
  have hpart' : (changedPart eq left right).after = commonSuffix eq
    (left.drop (commonPrefix eq left right)) (right.drop (commonPrefix eq left right)) := rfl
  have hchange : ∃ step ∈ edits eq (window.part left) (window.part right), step.isChange = true :=
    exists_change_of_window (by omega) (by omega) hx hy hne
  refine ⟨_, _, hreport, exists_showsChange_take (script_edits eq _ _) hchange hcontext,
    List.length_take_le _ _, fun held hwithin hheld => ?_, fun hwhole => ?_⟩
  · exact length_le_of_infix_lines (hwithin.trans (List.take_prefix _ _).isInfix) hheld
  · obtain ⟨hcut', hfits⟩ := Bool.or_eq_false_iff.1 hwhole
    rw [hcut', eq_comm, decide_eq_false_iff_not] at hcut
    rw [decide_eq_false_iff_not, Nat.not_lt] at hfits
    rw [List.take_of_length_le hfits, plainDiff_eq]
    exact scriptLines_window hlen hfirst (by omega)

-- Three differing items, in a diff of at most two lines.
theorem cut_region_shows_change :
    let config := { Config.standard with contextLines := 1, maxDiffLines := 2 }
    let comparer : ItemEquality := fun x y => .ok (x.agrees y)
    let left : List Value := [.int 1, .int 2, .int 3, .int 4]
    let right : List Value := [.int 1, .int 7, .int 8, .int 9]
    left.length = right.length ∧ config.contextLines < config.maxDiffLines ∧ config.HoldsContext ∧
      (windowOf config Value.agrees left right).cut = true ∧
      ∃ lines truncated,
        compareSequences .empty config (some comparer) left right =
          .ok (.sequence none (some lines) true truncated) ∧
        (∃ line ∈ lines, ShowsChange line) ∧ lines.length ≤ 2 := by
  intro config comparer left right
  have hdiff := sequence_diff_shows_change .empty config (some comparer) Value.agrees left right rfl
    (fun _ _ => rfl) ⟨1, .int 2, .int 7, rfl, rfl, by decide +kernel⟩ (by decide)
  obtain ⟨lines, truncated, hreport, hchange, hlength, -⟩ := hdiff.1 (by decide)
  exact ⟨rfl, by decide, by decide, by decide +kernel, lines, truncated, hreport, hchange, hlength⟩

-- A diff may be as long as it likes, if so many unchanged lines may stand in it that they cannot be held.
theorem change_is_not_shown_in_large_context :
    let config := { Config.standard with
      contextLines := 0x1000000000000000, maxDiffLines := 0x1000000000000001 }
    let comparer : ItemEquality := fun x y => .ok (x.agrees y)
    config.contextLines < config.maxDiffLines ∧ (Value.int 1).agrees (.int 2) = false ∧
      ¬∃ lines truncated, compareSequences .empty config (some comparer) [.int 1] [.int 2] =
        .ok (.sequence none (some lines) true truncated) := by
  intro config comparer
  have hreport : compareSequences .empty config (some comparer) [.int 1] [.int 2] = .error capacityOverflow :=
    compareSequences_of_not_holdsContext (by decide) rfl fun x y => rfl
  refine ⟨by decide, by decide +kernel, ?_⟩
  rintro ⟨lines, truncated, hshown⟩
  rw [hreport] at hshown
  cases hshown

end

end Verdict
