import Verdict.Proofs.Comparison.ContextLines
import Verdict.Proofs.Comparison.SequenceAsking
import Verdict.Proofs.Diff.ChangePoints

namespace Verdict

variable {α : Type} {eq : α → α → Bool} {left right xs ys : List α} {script : List Edit} {i j : Nat}

theorem commonPrefix_append_of_related (h : List.Forall₂ (fun x y => eq x y = true) xs ys)
    (left right : List α) :
    commonPrefix eq (xs ++ left) (ys ++ right) = xs.length + commonPrefix eq left right := by
  induction h with
  | nil => rw [List.nil_append, List.nil_append, List.length_nil, Nat.zero_add]
  | cons heq _ ih =>
    rw [List.cons_append, List.cons_append, commonPrefix_cons_of_eq heq, ih, List.length_cons]
    omega

-- The common beginning cannot be continued.
theorem commonPrefix_drop (eq : α → α → Bool) (left right : List α) :
    commonPrefix eq (left.drop (commonPrefix eq left right))
      (right.drop (commonPrefix eq left right)) = 0 := by
  have happend := commonPrefix_append_of_related (related_commonPrefix eq left right)
    (left.drop (commonPrefix eq left right)) (right.drop (commonPrefix eq left right))
  have hlen := List.length_take_of_le (commonPrefix_le eq left right).1
  rw [List.take_append_drop, List.take_append_drop, hlen] at happend
  omega

-- Neither can the common end.
theorem commonSuffix_take (eq : α → α → Bool) (left right : List α) :
    commonSuffix eq (left.take (left.length - commonSuffix eq left right))
      (right.take (right.length - commonSuffix eq left right)) = 0 := by
  have hdrop := commonPrefix_drop eq left.reverse right.reverse
  rw [List.drop_reverse, List.drop_reverse] at hdrop
  exact hdrop

theorem commonPrefix_take_eq_zero (hzero : commonPrefix eq left right = 0) (m n : Nat) :
    commonPrefix eq (left.take m) (right.take n) = 0 := by
  cases left with
  | nil => rw [List.take_nil, commonPrefix_nil_left]
  | cons x left =>
    cases right with
    | nil => rw [List.take_nil, commonPrefix_nil_right]
    | cons y right =>
      cases m with
      | zero => rw [List.take_zero, commonPrefix_nil_left]
      | succ m =>
        cases n with
        | zero => rw [List.take_zero, commonPrefix_nil_right]
        | succ n =>
          by_cases heq : eq x y = true
          · rw [commonPrefix_cons_of_eq heq] at hzero
            cases hzero
          · rw [List.take_succ_cons, List.take_succ_cons, commonPrefix_cons_of_ne heq]

theorem Script.left_lt (h : Script eq i j xs ys script) {step : Edit} (hstep : step ∈ script) {a : Nat}
    (ha : step.left? = some a) : a < i + xs.length := by
  have hplace : a ∈ List.range' i xs.length := h.left_places ▸ List.mem_filterMap.2 ⟨step, hstep, ha⟩
  exact (List.mem_range'_1.1 hplace).2

theorem Script.right_lt (h : Script eq i j xs ys script) {step : Edit} (hstep : step ∈ script) {b : Nat}
    (hb : step.right? = some b) : b < j + ys.length := by
  have hplace : b ∈ List.range' j ys.length := h.right_places ▸ List.mem_filterMap.2 ⟨step, hstep, hb⟩
  exact (List.mem_range'_1.1 hplace).2

-- Every step has its item.
theorem Script.exists_item (h : Script eq 0 0 left right script) {step : Edit} (hstep : step ∈ script) :
    ∃ x, step.item? left.toArray right.toArray = some (step.change, x) := by
  cases step with
  | equal i j | delete i =>
    have hi : i < left.length := by
      rw [← Nat.zero_add left.length]
      exact h.left_lt hstep rfl
    simp [Edit.item?, hi, Edit.change]
  | insert j =>
    have hj : j < right.length := by
      rw [← Nat.zero_add right.length]
      exact h.right_lt hstep rfl
    simp [Edit.item?, hj, Edit.change]

-- The items of two lists in the order of a script.
def scriptItems (left right : List α) (script : List Edit) : List (Change × α) :=
  script.filterMap (·.item? left.toArray right.toArray)

def keptItems (items : List α) : List (Change × α) := items.map (Change.kept, ·)

theorem filterMap_getElem?_range (items : List α) (n : Nat) :
    (List.range n).filterMap (items[·]?) = items.take n := by
  induction n with
  | zero => rfl
  | succ n ih =>
    rw [List.range_succ, List.filterMap_append, ih, List.take_add_one, List.filterMap_cons]
    cases items[n]? <;> rfl

theorem scriptItems_equal (left right : List α) (a b n : Nat) :
    scriptItems left right ((List.range n).map fun k => .equal (a + k) (b + k)) =
      keptItems ((left.drop a).take n) := by
  rw [keptItems, ← filterMap_getElem?_range, List.map_filterMap, scriptItems, List.filterMap_map]
  refine List.filterMap_congr fun k _ => ?_
  simp only [Function.comp_apply, Edit.item?, List.getElem?_toArray, List.getElem?_drop]

-- What a script does to a part of two lists it does, shifted, to that part of the whole lists.
theorem scriptItems_shift {m m' : Nat} (n : Nat)
    (h : Script eq 0 0 ((left.drop n).take m) ((right.drop n).take m') script) :
    scriptItems left right (script.map (·.shift n)) =
      scriptItems ((left.drop n).take m) ((right.drop n).take m') script := by
  rw [scriptItems, List.filterMap_map, scriptItems]
  refine List.filterMap_congr fun step hstep => ?_
  have hleft (a : Nat) (ha : step.left? = some a) : left[n + a]? = ((left.drop n).take m)[a]? := by
    have hlt := h.left_lt hstep ha
    rw [Nat.zero_add, List.length_take] at hlt
    rw [List.getElem?_take_of_lt (by omega), List.getElem?_drop]
  have hright (b : Nat) (hb : step.right? = some b) :
      right[n + b]? = ((right.drop n).take m')[b]? := by
    have hlt := h.right_lt hstep hb
    rw [Nat.zero_add, List.length_take] at hlt
    rw [List.getElem?_take_of_lt (by omega), List.getElem?_drop]
  cases step with
  | equal a b | delete a =>
    simp only [Function.comp_apply, Edit.shift, Edit.item?, List.getElem?_toArray, hleft a rfl]
  | insert b =>
    simp only [Function.comp_apply, Edit.shift, Edit.item?, List.getElem?_toArray, hright b rfl]

-- The items between the common beginning and the common end, in the order of the script.
def changedItems (eq : α → α → Bool) (left right : List α) : List (Change × α) :=
  scriptItems left right (followTable eq (commonTable eq right left) 0 0 left right)

theorem scriptItems_edits (eq : α → α → Bool) (left right : List α) :
    let part := changedPart eq left right
    scriptItems left right (edits eq left right) =
      keptItems (left.take part.before) ++ changedItems eq part.left part.right ++
        keptItems (left.drop (left.length - part.after)) := by
  intro part
  have hstart := scriptItems_equal left right 0 0 part.before
  have hend := scriptItems_equal left right (left.length - part.after) (right.length - part.after)
    part.after
  have hmiddle : scriptItems left right
      ((followTable eq (commonTable eq part.right part.left) 0 0 part.left part.right).map
        (·.shift part.before)) = changedItems eq part.left part.right :=
    scriptItems_shift part.before (script_followTable eq part.right 0 0 part.left part.right _ rfl rfl).1
  simp only [Nat.zero_add, List.drop_zero] at hstart
  have hlen : (left.drop (left.length - part.after)).length ≤ part.after := by
    rw [List.length_drop]
    omega
  rw [List.take_of_length_le hlen] at hend
  rw [← hmiddle, ← hstart, ← hend]
  simp only [scriptItems, ← List.filterMap_append]
  rfl

theorem changedPart_append_of_related (hrelated : List.Forall₂ (fun x y => eq x y = true) xs ys)
    (hbegin : commonPrefix eq left right = 0) (hback : commonSuffix eq left right = 0) :
    changedPart eq (xs ++ left) (ys ++ right) = ⟨xs.length, 0, left, right⟩ := by
  have hbefore : commonPrefix eq (xs ++ left) (ys ++ right) = xs.length := by
    rw [commonPrefix_append_of_related hrelated, hbegin, Nat.add_zero]
  simp only [changedPart, hbefore, List.drop_left, List.drop_left' hrelated.length_eq.symm, hback,
    Nat.sub_zero, List.take_length]

-- The changed part of the window is that of the whole lists, at a shorter distance from the start and with
-- nothing behind it.
theorem changedPart_window (eq : α → α → Bool) {left right : List α} {first : Nat}
    (hlen : left.length = right.length) (hfirst : first ≤ (changedPart eq left right).before) :
    let part := changedPart eq left right
    changedPart eq ((left.take (left.length - part.after)).drop first)
      ((right.take (left.length - part.after)).drop first) =
        ⟨part.before - first, 0, part.left, part.right⟩ := by
  intro part
  change first ≤ part.before at hfirst
  have hrelated : List.Forall₂ (fun x y => eq x y = true) ((left.take part.before).drop first)
      ((right.take part.before).drop first) :=
    List.forall₂_drop first (related_commonPrefix eq left right)
  have hbegin : commonPrefix eq part.left part.right = 0 :=
    commonPrefix_take_eq_zero (commonPrefix_drop eq left right) _ _
  have hback : commonSuffix eq part.left part.right = 0 := commonSuffix_take eq _ _
  have hbefore : part.before ≤ left.length := (commonPrefix_le eq left right).1
  have hafter : part.after ≤ (left.drop part.before).length := (commonSuffix_le eq _ _).1
  rw [List.length_drop] at hafter
  -- What is cut off behind is all of the common end, so that the part of either list is a part of its
  -- beginning and its changed part.
  have hcut (items : List α) (hitems : items.length = left.length) :
      (items.take (left.length - part.after)).drop first = (items.take part.before).drop first ++
        (items.drop part.before).take ((items.drop part.before).length - part.after) := by
    have hsum : left.length - part.after =
        part.before + ((items.drop part.before).length - part.after) := by
      rw [List.length_drop]
      omega
    rw [hsum, List.take_add, List.drop_append_of_le_length (by rw [List.length_take]; omega)]
  have hshared : ((left.take part.before).drop first).length = part.before - first := by
    rw [List.length_drop, List.length_take]
    omega
  rw [hcut left rfl, hcut right hlen.symm, ← hshared]
  exact changedPart_append_of_related hrelated hbegin hback

section

variable {h : Heap} {config : Config} {eq : Value → Value → Bool} {left right : List Value}

def shownItem (h : Heap) (config : Config) (m : Change × Value) : Change × String :=
  (m.1, m.2.display h config.previewItems)

-- The diff of two whole lists: all the steps of the script between them that are shown, a line for each.
def plainDiff (h : Heap) (config : Config) (eq : Value → Value → Bool) (left right : List Value) :
    List String :=
  ((shownEntries Edit.isChange config.contextLines (edits eq left right)).filterMap fun step =>
    (step.item? left.toArray right.toArray).map (shownItem h config)).map markedLine

theorem scriptLines_eq (left right : List Value) (script : List Edit) :
    scriptLines h config left right script =
      (shownEntries changedEntry config.contextLines
        ((scriptItems left right script).map (shownItem h config))).map markedLine :=
  changedLines_nil config.contextLines _

theorem exists_item_of_script {script : List Edit} {step : Edit}
    (hscript : Script eq 0 0 left right script) (hstep : step ∈ script) :
    ∃ m, step.item? left.toArray right.toArray = some m ∧ (m.1 != .kept) = step.isChange := by
  obtain ⟨x, hx⟩ := hscript.exists_item hstep
  exact ⟨_, hx, by cases step <;> rfl⟩

theorem plainDiff_eq (h : Heap) (config : Config) (eq : Value → Value → Bool) (left right : List Value) :
    plainDiff h config eq left right = scriptLines h config left right (edits eq left right) := by
  rw [scriptLines_eq, scriptItems, List.map_filterMap, shownEntries_filterMap]
  · rfl
  · intro step hstep
    obtain ⟨m, hm, hchange⟩ := exists_item_of_script (script_edits eq left right) hstep
    exact ⟨shownItem h config m, by rw [hm]; rfl, hchange⟩

-- Of unchanged items around a changed part only the last ones in front can be shown.
theorem shownEntries_around (front back : List Value) (changes : List (Change × Value)) (limit : Nat) :
    shownEntries changedEntry limit
        ((keptItems front ++ changes ++ keptItems back).map (shownItem h config)) =
      shownEntries changedEntry limit
        ((keptItems (front.drop (front.length - limit)) ++ changes).map (shownItem h config)) := by
  have hkept (items : List Value) :
      ∀ k ∈ (keptItems items).map (shownItem h config), changedEntry k = false := by
    intro k hk
    rw [keptItems, List.map_map] at hk
    obtain ⟨x, -, rfl⟩ := List.mem_map.1 hk
    rfl
  rw [List.map_append, shownEntries_append_unchanged (hkept back), List.map_append,
    shownEntries_unchanged_append (hkept front), List.map_append]
  simp only [keptItems, List.length_map, List.map_drop]

-- Neither what the window leaves out in front nor what it leaves out behind would be shown.
theorem scriptLines_window (hlen : left.length = right.length) {window : DiffWindow}
    (hfirst : window.first = (changedPart eq left right).before - config.contextLines)
    (hlast : window.last = left.length - (changedPart eq left right).after) :
    scriptLines h config (window.part left) (window.part right)
        (edits eq (window.part left) (window.part right)) =
      scriptLines h config left right (edits eq left right) := by
  let part := changedPart eq left right
  change window.first = part.before - config.contextLines at hfirst
  change window.last = left.length - part.after at hlast
  have hwindow : changedPart eq (window.part left) (window.part right) =
      ⟨part.before - window.first, 0, part.left, part.right⟩ := by
    rw [DiffWindow.part, DiffWindow.part, hlast]
    exact changedPart_window eq hlen (hfirst ▸ Nat.sub_le _ _)
  have hbefore : part.before ≤ left.length := (commonPrefix_le eq left right).1
  have hafter : part.after ≤ (left.drop part.before).length := (commonSuffix_le eq _ _).1
  rw [List.length_drop] at hafter
  have hfront : (window.part left).take (part.before - window.first) =
      (left.take part.before).drop window.first := by
    rw [DiffWindow.part, hlast, List.drop_take, List.take_take, List.drop_take]
    congr 1
    omega
  have hsliced := scriptItems_edits eq (window.part left) (window.part right)
  simp only [hwindow, hfront] at hsliced
  have hnear : window.first + (part.before - window.first - config.contextLines) =
      part.before - config.contextLines := by omega
  rw [scriptLines_eq, scriptLines_eq, hsliced, scriptItems_edits eq left right, shownEntries_around,
    shownEntries_around, List.drop_drop, List.length_drop, List.length_take_of_le hbefore, hnear]

theorem answersYes_of_answers {comparer : Option ItemEquality}
    (hanswers : ∀ x y, comparer.getD (fun a b => .ok (a.equals h b)) x y = .ok (eq x y)) :
    answersYes (equalityOf h comparer) = eq := by
  rw [show equalityOf h comparer = fun x y => .ok (eq x y) from funext₂ hanswers]
  rfl

-- The window starts so many items before the first change as may be shown there, and holds at most as many
-- items between the common beginning and the common end as the diff may have lines.
theorem exists_window {comparer : Option ItemEquality} (hholds : config.HoldsContext)
    (hlen : left.length = right.length)
    (hanswers : ∀ x y, comparer.getD (fun a b => .ok (a.equals h b)) x y = .ok (eq x y)) :
    let part := changedPart eq left right
    let c := left.length - part.before - part.after
    let kept := min c (max 1 config.maxDiffLines)
    ∃ window : DiffWindow, window.first = part.before - config.contextLines ∧
      window.last = part.before + kept ∧ window.cut = decide (kept < c) ∧
      let lines := scriptLines h config (window.part left) (window.part right)
        (edits eq (window.part left) (window.part right))
      compareSequences h config comparer left right =
        .ok (.sequence none (some (lines.take config.maxDiffLines)) comparer.isSome
          (window.cut || decide (config.maxDiffLines < lines.length))) := by
  intro part c kept
  have hreport := compareSequences_of_answers config hlen (not_breaksOn_of_answers hanswers)
  rw [answersYes_of_answers hanswers] at hreport
  exact ⟨windowOf config eq left right, rfl, rfl, rfl, hreport.trans (if_pos hholds)⟩

theorem compareSequences_of_not_holdsContext {comparer : Option ItemEquality}
    (hlarge : ¬config.HoldsContext) (hlen : left.length = right.length)
    (hanswers : ∀ x y, comparer.getD (fun a b => .ok (a.equals h b)) x y = .ok (eq x y)) :
    compareSequences h config comparer left right = .error capacityOverflow := by
  rw [compareSequences_of_answers config hlen (not_breaksOn_of_answers hanswers), if_neg hlarge]

-- The diff of two sequences of equal length under an equality of items that always answers. Let `c` be the
-- number of items between the longest common beginning and the longest common end of what follows it. A context that
-- cannot be held breaks the report off, however little there is to show, if the room for it can be counted at all in
-- a word of 64 bits.
theorem compareSequences_eq_plainDiff (h : Heap) (config : Config) (comparer : Option ItemEquality)
    (eq : Value → Value → Bool) (left right : List Value) (hlen : left.length = right.length)
    (hanswers : ∀ x y, comparer.getD (fun a b => .ok (a.equals h b)) x y = .ok (eq x y)) :
    let before := commonPrefix eq left right
    let after := commonSuffix eq (left.drop before) (right.drop before)
    let c := left.length - before - after
    let lines := plainDiff h config eq left right
    let report := compareSequences h config comparer left right
    (config.HoldsContext → c ≤ max 1 config.maxDiffLines → report =
      .ok (.sequence none (some (lines.take config.maxDiffLines)) comparer.isSome
        (decide (config.maxDiffLines < lines.length)))) ∧
    (config.HoldsContext → max 1 config.maxDiffLines < c →
      ∃ shown, report = .ok (.sequence none (some shown) comparer.isSome true)) ∧
    (¬config.HoldsContext → config.contextLines + 1 < 0x10000000000000000 →
      report = .error ⟨"capacity overflow"⟩) := by
  intro before after c lines report
  refine ⟨fun hholds hsmall => ?_, fun hholds hlarge => ?_, fun hlarge _ =>
    compareSequences_of_not_holdsContext hlarge hlen hanswers⟩
  · obtain ⟨window, hfirst, hlast, hcut, hreport⟩ := exists_window hholds hlen hanswers
    change window.last = before + min c (max 1 config.maxDiffLines) at hlast
    change window.cut = decide (min c (max 1 config.maxDiffLines) < c) at hcut
    rw [Nat.min_eq_left hsmall] at hlast hcut
    rw [decide_eq_false (Nat.lt_irrefl c)] at hcut
    have hend : window.last = left.length - after := by
      have hbefore : before ≤ left.length := (commonPrefix_le eq left right).1
      have hafter : after ≤ (left.drop before).length := (commonSuffix_le eq _ _).1
      rw [List.length_drop] at hafter
      omega
    change compareSequences h config comparer left right = _
    rw [hreport, scriptLines_window hlen hfirst hend, ← plainDiff_eq, hcut, Bool.false_or]
  · obtain ⟨window, -, -, hcut, hreport⟩ := exists_window hholds hlen hanswers
    change window.cut = decide (min c (max 1 config.maxDiffLines) < c) at hcut
    rw [Nat.min_eq_right (Nat.le_of_lt hlarge), decide_eq_true hlarge] at hcut
    change ∃ shown, compareSequences h config comparer left right = _
    rw [hreport, hcut, Bool.true_or]
    exact ⟨_, rfl⟩

-- A single change among five items, in a diff of at most two lines.
theorem one_change_is_shown_in_context :
    let config := { Config.standard with contextLines := 1, maxDiffLines := 2 }
    let comparer : ItemEquality := fun x y => .ok (x.agrees y)
    let left : List Value := [.int 1, .int 2, .int 3, .int 4, .int 5]
    let right : List Value := [.int 1, .int 2, .int 9, .int 4, .int 5]
    plainDiff .empty config Value.agrees left right = ["  2", "- 3", "+ 9"] ∧
      compareSequences .empty config (some comparer) left right =
        .ok (.sequence none (some ["  2", "- 3"]) true true) := by
  intro config comparer left right
  have hedits : edits Value.agrees left right =
      [.equal 0 0, .equal 1 1, .delete 2, .insert 2, .equal 3 3, .equal 4 4] := by decide +kernel
  have hdisplay (n : Int) : (Value.int n).display .empty config.previewItems = toString n := by
    rw [Value.display, Value.shown]
  have hlines : plainDiff .empty config Value.agrees left right = ["  2", "- 3", "+ 9"] := by
    have hshown : shownEntries Edit.isChange config.contextLines (edits Value.agrees left right) =
        [.equal 1 1, .delete 2, .insert 2] := by
      rw [hedits]
      decide
    have hmarked : [Change.kept.mark ++ toString (2 : Int), Change.removed.mark ++ toString (3 : Int),
        Change.added.mark ++ toString (9 : Int)] = ["  2", "- 3", "+ 9"] := by decide
    rw [plainDiff, hshown, ← hmarked]
    simp [left, right, Edit.item?, shownItem, hdisplay, markedLine]
  have hreport := (compareSequences_eq_plainDiff .empty config (some comparer) Value.agrees left right rfl
    fun x y => rfl).1 (by decide) (by decide +kernel)
  rw [hlines] at hreport
  exact ⟨hlines, hreport⟩

-- Two items that differ are one change, with nothing in front of it to show.
theorem large_context_breaks_off :
    let config := { Config.standard with contextLines := 0x1000000000000000 }
    let comparer : ItemEquality := fun x y => .ok (x.agrees y)
    let left : List Value := [.int 1]
    let right : List Value := [.int 2]
    let before := commonPrefix Value.agrees left right
    let after := commonSuffix Value.agrees (left.drop before) (right.drop before)
    left.length - before - after ≤ max 1 config.maxDiffLines ∧
      plainDiff .empty config Value.agrees left right = ["- 1", "+ 2"] ∧
      compareSequences .empty config (some comparer) left right = .error ⟨"capacity overflow"⟩ := by
  intro config comparer left right before after
  have hedits : edits Value.agrees left right = [.delete 0, .insert 0] := by decide +kernel
  refine ⟨by decide +kernel, ?_, compareSequences_of_not_holdsContext (by decide) rfl fun x y => rfl⟩
  have hdisplay (n : Int) : (Value.int n).display .empty config.previewItems = toString n := by
    rw [Value.display, Value.shown]
  have hshown : shownEntries Edit.isChange config.contextLines [.delete 0, .insert 0] =
      [.delete 0, .insert 0] := rfl
  have hmarked : [Change.removed.mark ++ toString (1 : Int), Change.added.mark ++ toString (2 : Int)] =
      ["- 1", "+ 2"] := by decide
  rw [plainDiff, hedits, hshown, ← hmarked]
  simp [left, right, Edit.item?, shownItem, hdisplay, markedLine]

end

end Verdict
