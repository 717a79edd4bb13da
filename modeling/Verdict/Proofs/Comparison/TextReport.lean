import Verdict.Comparison.Dispatch
import Verdict.Proofs.Diff.Marked
import Verdict.Proofs.Text.Truncation
import Mathlib.Data.List.TakeWhile

namespace Verdict

-- The text with a lone line feed at the end of every line, the last one included.
def plainEnds : List Char → List Char
  | [] => []
  | c :: rest =>
    if c = '\r' ∧ rest.head? = some '\n' then plainEnds rest
    else if c ≠ '\n' ∧ rest = [] then [c, '\n']
    else c :: plainEnds rest

theorem plainEnds_newline (rest : List Char) : plainEnds ('\n' :: rest) = '\n' :: plainEnds rest := by
  rw [plainEnds, if_neg (by simp), if_neg (by simp)]

theorem plainEnds_cons_cons {d : Char} (hd : d ≠ '\n') (c : Char) (rest : List Char) :
    plainEnds (c :: d :: rest) = c :: plainEnds (d :: rest) := by
  rw [plainEnds, if_neg (by simp [hd]), if_neg (by simp)]

theorem dropReturn_cons_cons (c d : Char) (rest : List Char) :
    dropReturn (c :: d :: rest) = c :: dropReturn (d :: rest) := by
  rw [dropReturn, dropReturn, List.getLast?_cons_cons, List.dropLast_cons_cons]
  split <;> rfl

theorem dropReturn_subset (line : List Char) : dropReturn line ⊆ line := by
  unfold dropReturn
  split
  · exact List.dropLast_subset line
  · exact List.Subset.refl line

-- A last line that no line feed ends.
theorem plainEnds_of_notMem {line : List Char} (hline : '\n' ∉ line) (hne : line ≠ []) :
    plainEnds line = line ++ ['\n'] := by
  induction line with
  | nil => exact absurd rfl hne
  | cons c line ih =>
    obtain ⟨hc, hline⟩ := not_or.1 (List.mem_cons.not.1 hline)
    cases line with
    | nil => rw [plainEnds, if_neg (by simp), if_pos ⟨Ne.symm hc, rfl⟩, List.singleton_append]
    | cons d line =>
      have hd : d ≠ '\n' := fun hd => hline (hd ▸ List.mem_cons_self)
      exact (plainEnds_cons_cons hd c line).trans (congrArg (c :: ·) (ih hline (List.cons_ne_nil d line)))

-- A line that a line feed ends, in front of the others.
theorem plainEnds_append {line : List Char} (hline : '\n' ∉ line) (rest : List Char) :
    plainEnds (line ++ '\n' :: rest) = dropReturn line ++ '\n' :: plainEnds rest := by
  induction line with
  | nil => exact plainEnds_newline rest
  | cons c line ih =>
    obtain ⟨hc, hline⟩ := not_or.1 (List.mem_cons.not.1 hline)
    cases line with
    | nil =>
      by_cases hreturn : c = '\r'
      · subst hreturn
        rw [List.singleton_append, plainEnds, if_pos ⟨rfl, rfl⟩, plainEnds_newline]
        rfl
      · rw [List.singleton_append, plainEnds, if_neg (by simp [hreturn]), if_neg (by simp),
          plainEnds_newline, dropReturn, if_neg (by simp [hreturn]), List.singleton_append]
    | cons d line =>
      have hd : d ≠ '\n' := fun hd => hline (hd ▸ List.mem_cons_self)
      rw [List.cons_append, List.cons_append, plainEnds_cons_cons hd, ← List.cons_append, ih hline,
        dropReturn_cons_cons, List.cons_append]

theorem newline_notMem_takeWhile (cs : List Char) : '\n' ∉ cs.takeWhile (· ≠ '\n') := by
  intro hmem
  simpa using List.mem_takeWhile_imp hmem

theorem newline_notMem_of_dropWhile {cs : List Char} (hdrop : cs.dropWhile (· ≠ '\n') = []) :
    '\n' ∉ cs := by
  intro hmem
  simpa using List.dropWhile_eq_nil_iff.1 hdrop _ hmem

theorem eq_takeWhile_append {cs rest : List Char} {c : Char}
    (hdrop : cs.dropWhile (· ≠ '\n') = c :: rest) :
    cs = cs.takeWhile (· ≠ '\n') ++ '\n' :: rest := by
  have hc : c = '\n' := by
    have := List.head?_dropWhile_not (· ≠ '\n') cs
    rw [hdrop] at this
    simpa using this
  conv_lhs => rw [← List.takeWhile_append_dropWhile (p := (· ≠ '\n')) (l := cs), hdrop, hc]

-- Putting a line feed behind each line gives the text back, with plain ends of lines.
theorem flatMap_splitLines (cs : List Char) :
    (splitLines cs).flatMap (· ++ ['\n']) = plainEnds cs := by
  fun_induction splitLines cs with
  | case1 => rfl
  | case2 cs hdrop hne =>
    rw [List.flatMap_singleton, plainEnds_of_notMem (newline_notMem_of_dropWhile hdrop) hne]
  | case3 cs c rest hdrop ih =>
    rw [List.flatMap_cons, ih, List.append_assoc, List.singleton_append,
      ← plainEnds_append (newline_notMem_takeWhile cs), ← eq_takeWhile_append hdrop]

theorem newline_notMem_splitLines (cs : List Char) : ∀ line ∈ splitLines cs, '\n' ∉ line := by
  fun_induction splitLines cs with
  | case1 => exact fun line hline => nomatch hline
  | case2 cs hdrop hne =>
    exact List.forall_mem_singleton.2 (newline_notMem_of_dropWhile hdrop)
  | case3 cs c rest hdrop ih =>
    refine List.forall_mem_cons.2 ⟨fun hmem => ?_, ih⟩
    exact newline_notMem_takeWhile cs (dropReturn_subset _ hmem)

theorem append_newline_inj {a b xs ys : List Char} (ha : '\n' ∉ a) (hb : '\n' ∉ b)
    (heq : a ++ '\n' :: xs = b ++ '\n' :: ys) : a = b ∧ xs = ys := by
  induction a generalizing b with
  | nil =>
    cases b with
    | nil => exact ⟨rfl, (List.cons.inj heq).2⟩
    | cons d b => exact absurd ((List.cons.inj heq).1 ▸ List.mem_cons_self) hb
  | cons c a ih =>
    cases b with
    | nil => exact absurd ((List.cons.inj heq).1 ▸ List.mem_cons_self) ha
    | cons d b =>
      obtain ⟨rfl, htail⟩ := List.cons.inj heq
      obtain ⟨rfl, rfl⟩ := ih (List.not_mem_of_not_mem_cons ha) (List.not_mem_of_not_mem_cons hb) htail
      exact ⟨rfl, rfl⟩

-- Lines that hold no line feed can be told from the text in which one stands behind each of them.
theorem flatMap_newline_inj {left right : List (List Char)} (hleft : ∀ line ∈ left, '\n' ∉ line)
    (hright : ∀ line ∈ right, '\n' ∉ line)
    (heq : left.flatMap (· ++ ['\n']) = right.flatMap (· ++ ['\n'])) : left = right := by
  induction left generalizing right with
  | nil =>
    cases right with
    | nil => rfl
    | cons b right => simp at heq
  | cons a left ih =>
    cases right with
    | nil => simp at heq
    | cons b right =>
      obtain ⟨ha, hleft'⟩ := List.forall_mem_cons.1 hleft
      obtain ⟨hb, hright'⟩ := List.forall_mem_cons.1 hright
      simp only [List.flatMap_cons, List.append_assoc, List.singleton_append] at heq
      obtain ⟨rfl, hrest⟩ := append_newline_inj ha hb heq
      rw [ih hleft' hright' hrest]

theorem splitLines_eq_iff {left right : List Char} :
    splitLines left = splitLines right ↔ plainEnds left = plainEnds right := by
  constructor
  · intro heq
    rw [← flatMap_splitLines, heq, flatMap_splitLines]
  · intro heq
    refine flatMap_newline_inj (newline_notMem_splitLines left) (newline_notMem_splitLines right) ?_
    rw [flatMap_splitLines, heq, flatMap_splitLines]

theorem linesOf_eq_iff {left right : String} :
    linesOf left = linesOf right ↔ plainEnds left.toList = plainEnds right.toList := by
  have hinj : Function.Injective (List.map String.ofList) :=
    List.map_injective_iff.2 fun _ _ => String.ofList_inj.1
  rw [linesOf, linesOf, hinj.eq_iff, splitLines_eq_iff]

-- The diff has an entry for something that went or came.
def TextDiff.ShowsChange : TextDiff → Prop
  | .absent => False
  | .inline segments => ∃ s ∈ segments, s.change ≠ .kept
  | .lines changes => ∃ l ∈ changes, l.change ≠ .kept

section

variable {left right : Operand} {l r : String}

theorem compareOperands_of_fit (h : Heap) (config : Config)
    (hstrategy : Strategy.select left right = .text) (hleft : left.value = .text l)
    (hright : right.value = .text r) (hfitl : l.length ≤ config.maxTextLength)
    (hfitr : r.length ≤ config.maxTextLength) :
    compareOperands h config left right = .text (some l) (some r)
      (if l.contains '\n' || r.contains '\n' then .lines (lineDiff l r)
        else .inline (charDiff l r)) := by
  rw [compareOperands, hstrategy, hleft, hright]
  simp only [Value.text?, compareTexts, Option.map_some, truncate_of_length_le hfitl,
    truncate_of_length_le hfitr]

-- A report on texts that are not cut shows a change if they differ, except by the ends of lines when they
-- are compared by lines.
theorem text_report_shows_change (h : Heap) (config : Config)
    (hstrategy : Strategy.select left right = .text) (hleft : left.value = .text l)
    (hright : right.value = .text r) (hfitl : l.length ≤ config.maxTextLength)
    (hfitr : r.length ≤ config.maxTextLength) :
    ∃ diff, compareOperands h config left right = .text (some l) (some r) diff ∧
      (diff.ShowsChange ↔ l ≠ r ∧ ¬(('\n' ∈ l.toList ∨ '\n' ∈ r.toList) ∧
        plainEnds l.toList = plainEnds r.toList)) := by
  have hlines : (l.contains '\n' || r.contains '\n') = true ↔ '\n' ∈ l.toList ∨ '\n' ∈ r.toList := by
    simp
  refine ⟨_, compareOperands_of_fit h config hstrategy hleft hright hfitl hfitr, ?_⟩
  rw [← hlines, ← linesOf_eq_iff]
  split
  · rename_i hline
    rw [TextDiff.ShowsChange, exists_change_lineDiff_iff]
    constructor
    · intro hne
      exact ⟨fun heq => hne (congrArg linesOf heq), fun hends => hne hends.2⟩
    · rintro ⟨-, hends⟩ heq
      exact hends ⟨hline, heq⟩
  · rename_i hline
    rw [TextDiff.ShowsChange, exists_change_charDiff_iff]
    exact (and_iff_left fun hends => hline hends.1).symm

end

theorem empty_last_line_is_shown :
    let left := Operand.untyped (.text "a\n")
    let right := Operand.untyped (.text "a\n\n")
    Strategy.select left right = .text ∧
    "a\n".length ≤ Config.standard.maxTextLength ∧ "a\n\n".length ≤ Config.standard.maxTextLength ∧
    ∃ diff, compareOperands .empty .standard left right = .text (some "a\n") (some "a\n\n") diff ∧
      diff.ShowsChange := by
  intro left right
  have hstrategy : Strategy.select left right = .text := rfl
  obtain ⟨diff, hreport, hshows⟩ :=
    text_report_shows_change .empty .standard hstrategy rfl rfl (by decide) (by decide)
  exact ⟨hstrategy, by decide, by decide, diff, hreport, hshows.2 (by decide)⟩

-- Of two texts, one ends its only line and the other does not.
theorem last_line_end_is_not_shown :
    "a\n" ≠ "a" ∧ "a\n".length ≤ Config.standard.maxTextLength ∧
    "a".length ≤ Config.standard.maxTextLength ∧
    ∃ diff, compareOperands .empty .standard (.untyped (.text "a\n")) (.untyped (.text "a")) =
        .text (some "a\n") (some "a") diff ∧ ¬diff.ShowsChange := by
  have hlines : linesOf "a\n" = linesOf "a" := linesOf_eq_iff.2 (by decide)
  refine ⟨by decide, by decide, by decide, _, compareOperands_of_fit .empty .standard rfl rfl
    rfl (by decide) (by decide), fun hshows => ?_⟩
  rw [if_pos (by simp), TextDiff.ShowsChange, exists_change_lineDiff_iff] at hshows
  exact hshows hlines

end Verdict
