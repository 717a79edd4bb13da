import Verdict.Comparison.Sequences

namespace Verdict

section

variable {α β : Type} {changed : α → Bool} {limit : Nat} {c : α} {ks xs : List α}

-- Every change is shown, and an unchanged entry if a change is among the next `limit` entries.
def shownEntries (changed : α → Bool) (limit : Nat) : List α → List α
  | [] => []
  | x :: rest =>
    if changed x || (rest.take limit).any changed then x :: shownEntries changed limit rest
    else shownEntries changed limit rest

theorem any_take_of_unchanged (hks : ∀ k ∈ ks, changed k = false) (n : Nat) :
    (ks.take n).any changed = false := by
  rw [List.any_eq_false]
  intro k hk
  rw [hks k (List.mem_of_mem_take hk)]
  exact Bool.false_ne_true

theorem any_take_append_unchanged (hks : ∀ k ∈ ks, changed k = false) (xs : List α) (n : Nat) :
    ((xs ++ ks).take n).any changed = (xs.take n).any changed := by
  rw [List.take_append, List.any_append, any_take_of_unchanged hks, Bool.or_false]

-- Nothing behind the last change is shown.
theorem shownEntries_append_unchanged (hks : ∀ k ∈ ks, changed k = false) (xs : List α) :
    shownEntries changed limit (xs ++ ks) = shownEntries changed limit xs := by
  induction xs with
  | nil =>
    induction ks with
    | nil => rfl
    | cons k ks ih =>
      obtain ⟨hk, hks⟩ := List.forall_mem_cons.1 hks
      rw [List.nil_append, shownEntries, shownEntries, hk, any_take_of_unchanged hks]
      exact ih hks
  | cons x rest ih => rw [List.cons_append, shownEntries, shownEntries, ih, any_take_append_unchanged hks]

-- Of unchanged entries in front only the last `limit` can be shown.
theorem shownEntries_unchanged_append (hks : ∀ k ∈ ks, changed k = false) (xs : List α) :
    shownEntries changed limit (ks ++ xs) =
      shownEntries changed limit (ks.drop (ks.length - limit) ++ xs) := by
  induction ks with
  | nil => rw [List.drop_nil]
  | cons k ks ih =>
    obtain ⟨hk, hks⟩ := List.forall_mem_cons.1 hks
    by_cases hfar : limit ≤ ks.length
    · have hnear : (ks ++ xs).take limit = ks.take limit := List.take_append_of_le_length hfar
      rw [List.cons_append, shownEntries, hk, hnear, any_take_of_unchanged hks, List.length_cons,
        Nat.sub_add_comm hfar, List.drop_succ_cons, ← ih hks]
      rfl
    · rw [List.length_cons, Nat.sub_eq_zero_of_le (by omega), List.drop_zero]

-- Entries just in front of a change are shown, whatever they are.
theorem shownEntries_near_changed (hc : changed c = true) (xs : List α) (hlen : ks.length ≤ limit) :
    shownEntries changed limit (ks ++ c :: xs) = ks ++ c :: shownEntries changed limit xs := by
  induction ks with
  | nil => rw [List.nil_append, List.nil_append, shownEntries, hc, Bool.true_or, if_pos rfl]
  | cons k ks ih =>
    rw [List.length_cons] at hlen
    have hany : ((ks ++ c :: xs).take limit).any changed = true := by
      refine List.any_eq_true.2 ⟨c, List.mem_take_iff_getElem.2 ⟨ks.length, ?_, ?_⟩, hc⟩
      · rw [List.length_append, List.length_cons]
        omega
      · rw [List.getElem_append_right (Nat.le_refl _)]
        simp only [Nat.sub_self, List.getElem_cons_zero]
    rw [List.cons_append, List.cons_append, shownEntries, hany, Bool.or_true, if_pos rfl, ih (by omega)]

theorem shownEntries_append_changed (hks : ∀ k ∈ ks, changed k = false) (hc : changed c = true)
    (xs : List α) :
    shownEntries changed limit (ks ++ c :: xs) =
      ks.drop (ks.length - limit) ++ c :: shownEntries changed limit xs := by
  have hlen : (ks.drop (ks.length - limit)).length ≤ limit := by
    rw [List.length_drop]
    omega
  rw [shownEntries_unchanged_append hks, shownEntries_near_changed hc xs hlen]

variable {f : α → Option β} {changed' : β → Bool}

theorem any_take_filterMap (hf : ∀ x ∈ xs, ∃ y, f x = some y ∧ changed' y = changed x) (n : Nat) :
    ((xs.filterMap f).take n).any changed' = (xs.take n).any changed := by
  induction xs generalizing n with
  | nil => simp
  | cons x xs ih =>
    obtain ⟨⟨y, hy, hchanged⟩, hxs⟩ := List.forall_mem_cons.1 hf
    cases n with
    | zero => rfl
    | succ n =>
      rw [List.filterMap_cons_some hy, List.take_succ_cons, List.take_succ_cons, List.any_cons,
        List.any_cons, hchanged, ih hxs]

-- What is shown stays the same when entries are put in another form, each one in some form.
theorem shownEntries_filterMap (hf : ∀ x ∈ xs, ∃ y, f x = some y ∧ changed' y = changed x) :
    shownEntries changed' limit (xs.filterMap f) = (shownEntries changed limit xs).filterMap f := by
  induction xs with
  | nil => rfl
  | cons x xs ih =>
    obtain ⟨⟨y, hy, hchanged⟩, hxs⟩ := List.forall_mem_cons.1 hf
    rw [List.filterMap_cons_some hy, shownEntries, shownEntries, hchanged, any_take_filterMap hxs, ih hxs]
    split
    · rw [List.filterMap_cons_some hy]
    · rfl

end

-- The line for an entry.
def markedLine (entry : Change × String) : String := entry.1.mark ++ entry.2

def changedEntry (entry : Change × String) : Bool := entry.1 != .kept

-- The lines that wait for a change are those of the last unchanged entries.
theorem changedLines_eq (limit : Nat) (xs : List (Change × String)) {ks : List (Change × String)}
    (hks : ∀ k ∈ ks, changedEntry k = false) :
    changedLines limit ((ks.map markedLine).drop (ks.length - limit)) xs =
      (shownEntries changedEntry limit (ks ++ xs)).map markedLine := by
  induction xs generalizing ks with
  | nil =>
    rw [changedLines, List.append_nil, ← List.nil_append ks, shownEntries_append_unchanged hks]
    rfl
  | cons x xs ih =>
    obtain ⟨change, line⟩ := x
    by_cases hchange : change = .kept
    · subst hchange
      have hheld : ∀ k ∈ ks ++ [(Change.kept, line)], changedEntry k = false :=
        List.forall_mem_append.2 ⟨hks, List.forall_mem_singleton.2 rfl⟩
      have hwait : (ks.map markedLine).drop (ks.length - limit) ++ [Change.kept.mark ++ line] =
          ((ks ++ [(Change.kept, line)]).map markedLine).drop (ks.length - limit) := by
        rw [List.map_append, List.drop_append_of_le_length (by rw [List.length_map]; omega)]
        rfl
      have hlast := ih hheld
      rw [List.append_assoc] at hlast
      rw [← List.singleton_append, ← hlast, List.singleton_append, changedLines, hwait, List.drop_drop]
      congr 1
      simp only [List.length_drop, List.length_map, List.length_append, List.length_singleton]
      congr 1
      omega
    · have hmark : changedEntry (change, line) = true := bne_iff_ne.2 hchange
      have hrest := ih (List.forall_mem_nil _)
      rw [List.map_nil, List.drop_nil, List.nil_append] at hrest
      rw [changedLines, hrest, shownEntries_append_changed hks hmark, List.map_append, List.map_drop]
      · rfl
      · exact hchange

theorem changedLines_nil (limit : Nat) (entries : List (Change × String)) :
    changedLines limit [] entries = (shownEntries changedEntry limit entries).map markedLine := by
  have hlines := changedLines_eq limit entries (List.forall_mem_nil _)
  rw [List.map_nil, List.drop_nil, List.nil_append] at hlines
  exact hlines

end Verdict
