import Verdict.Comparison.Dispatch
import Verdict.Proofs.Value.Printing
import Verdict.Report.ComparisonLines
import Mathlib.Algebra.Order.Ring.Nat

namespace Verdict

variable {limit n : Nat}

-- What is kept of the differences that came one after the other.
structure Tally where
  kept : List Difference
  total : Nat

namespace Tally

def empty : Tally := ⟨[], 0⟩

-- One more difference, which is kept if there is room for it.
def record (limit : Nat) (t : Tally) (d : Difference) : Tally :=
  ⟨if t.kept.length < limit then t.kept ++ [d] else t.kept, t.total + 1⟩

structure Covers (limit : Nat) (met : List Difference) (t : Tally) : Prop where
  kept_eq : t.kept = met.take limit
  total_eq : t.total = met.length

variable {t : Tally} {met : List Difference}

theorem Covers.record (hcovers : t.Covers limit met) (d : Difference) :
    (t.record limit d).Covers limit (met ++ [d]) := by
  obtain ⟨hkept, htotal⟩ := hcovers
  constructor
  · rw [Tally.record, hkept, List.length_take]
    by_cases hroom : met.length < limit
    · rw [if_pos (by omega), List.take_of_length_le (by omega), List.take_of_length_le (by simp; omega)]
    · rw [if_neg (by omega), List.take_append_of_le_length (by omega)]
  · rw [Tally.record, htotal, List.length_append, List.length_singleton]

theorem Covers.foldl (hcovers : t.Covers limit met) (found : List Difference) :
    (found.foldl (Tally.record limit) t).Covers limit (met ++ found) := by
  induction found generalizing t met with
  | nil => rwa [List.append_nil]
  | cons d found ih =>
    have hrest := ih (hcovers.record d)
    rwa [List.append_assoc, List.singleton_append] at hrest

theorem covers_empty : empty.Covers limit [] := ⟨List.take_nil.symm, rfl⟩

end Tally

-- The number in a text that announces so many more differences.
def announced? (cs : List Char) : Option Nat :=
  (stripStart? "... and ".toList cs).bind fun rest =>
    let digits := rest.takeWhile Char.isDigit
    if rest = digits ++ " more differences".toList then some (Nat.ofDigitChars 10 digits 0) else none

theorem announced?_number (n : Nat) :
    announced? ("... and " ++ toString n ++ " more differences").toList = some n := by
  have hdigits : ∀ c ∈ Nat.toDigits 10 n, c.isDigit = true :=
    fun c hc => Nat.isDigit_of_mem_toDigits (by decide) (by decide) hc
  have hstop : " more differences".toList.takeWhile Char.isDigit = [] := by decide
  rw [String.toList_append, String.toList_append, List.append_assoc, announced?, stripStart?_eq_some_iff.2 rfl,
    Option.bind_some, Nat.toString_eq_ofList_toDigits, String.toList_ofList,
    List.takeWhile_append_of_pos hdigits, hstop, List.append_nil, if_pos rfl, Nat.ofDigitChars_ten_toDigits]

theorem colon_notMem_of_announced {cs : List Char} (hannounced : announced? cs = some n) : ':' ∉ cs := by
  obtain ⟨rest, hstart, hrest⟩ := Option.bind_eq_some_iff.1 hannounced
  rw [stripStart?_eq_some_iff] at hstart
  dsimp only at hrest
  split at hrest
  case isFalse => cases hrest
  case isTrue htail =>
    have hdigits : ':' ∉ rest.takeWhile Char.isDigit := fun hc => by
      cases List.all_eq_true.1 List.all_takeWhile ':' hc
    rw [hstart, htail, List.mem_append, List.mem_append]
    exact not_or.2 ⟨by decide, not_or.2 ⟨hdigits, by decide⟩⟩

namespace Line

-- A line below a heading that tells of one difference.
def listsDifference (l : Line) : Bool := l.indent == 1 && occursIn ": expected ".toList l.text.toList

-- The number of differences that a line below a heading announces without listing them.
def others? (l : Line) : Option Nat := if l.indent = 1 then announced? l.text.toList else none

theorem listsDifference_top (text : String) : (top text).listsDifference = false := rfl

theorem others?_top (text : String) : (top text).others? = none := rfl

theorem listsDifference_line (d : Difference) : d.line.listsDifference = true := by
  have htext : ": expected ".toList <:+: d.line.text.toList := by
    simp only [Difference.line, nested, String.toList_append]
    exact ⟨d.path.toList, d.left.toList ++ (", got ".toList ++ d.right.toList), by simp only [List.append_assoc]⟩
  rw [listsDifference, occursIn_iff.2 htext]
  rfl

theorem others?_line (d : Difference) : d.line.others? = none := by
  have hindent : d.line.indent = 1 := rfl
  have hcolon : ':' ∈ d.line.text.toList := by simp [Difference.line, nested]
  rw [others?, if_pos hindent, Option.eq_none_iff_forall_not_mem]
  exact fun n hn => colon_notMem_of_announced hn hcolon

theorem others?_announcement (n : Nat) :
    (nested ("... and " ++ toString n ++ " more differences")).others? = some n :=
  announced?_number n

theorem listsDifference_announcement (n : Nat) :
    (nested ("... and " ++ toString n ++ " more differences")).listsDifference = false := by
  rw [listsDifference, Bool.and_eq_false_iff]
  refine .inr (Bool.eq_false_iff.2 fun hoccurs => ?_)
  have hcolon : ':' ∈ ": expected ".toList := by decide
  exact colon_notMem_of_announced (announced?_number n) ((occursIn_iff.1 hoccurs).mem hcolon)

end Line

-- How many differences the lines list, and how many they announce.
def listedIn (lines : List Line) : Nat := lines.countP (·.listsDifference)

def announcedIn (lines : List Line) : Nat := (lines.filterMap (·.others?)).sum

theorem listedIn_sideLines_append (left right : String) (lines : List Line) :
    listedIn (sideLines left right ++ lines) = listedIn lines := List.countP_append.trans (Nat.zero_add _)

theorem announcedIn_sideLines_append (left right : String) (lines : List Line) :
    announcedIn (sideLines left right ++ lines) = announcedIn lines := rfl

theorem countP_map_line (differences : List Difference) :
    (differences.map (·.line)).countP (·.listsDifference) = differences.length := by
  rw [List.countP_map]
  exact List.countP_eq_length.2 fun d _ => Line.listsDifference_line d

theorem filterMap_map_line (differences : List Difference) :
    (differences.map (·.line)).filterMap (·.others?) = [] := by
  rw [List.filterMap_map, List.filterMap_eq_nil_iff]
  exact fun d _ => Line.others?_line d

theorem listedIn_differenceLines (differences : List Difference) (truncated : Nat) :
    listedIn (differenceLines differences truncated) = differences.length := by
  rw [differenceLines, listedIn]
  split
  case isTrue hnone => rw [hnone, List.countP_nil, List.length_nil]
  case isFalse =>
    rw [List.cons_append, List.countP_cons, List.countP_append, countP_map_line, Line.listsDifference_top]
    split
    case isTrue => rfl
    case isFalse =>
      rw [List.countP_singleton, Line.listsDifference_announcement]
      rfl

-- An announcement stands below the listed differences only.
theorem announcedIn_differenceLines (differences : List Difference) (truncated : Nat) :
    announcedIn (differenceLines differences truncated) = if differences = [] then 0 else truncated := by
  rw [differenceLines, announcedIn]
  split
  case isTrue => rfl
  case isFalse =>
    rw [List.cons_append, List.filterMap_cons_none (Line.others?_top _), List.filterMap_append,
      filterMap_map_line, List.nil_append]
    split
    case isTrue hnone => exact hnone.symm
    case isFalse =>
      rw [List.filterMap_cons_some (Line.others?_announcement truncated), List.filterMap_nil, List.sum_singleton]

-- The report on two objects has what was kept and how many others there were, and its lines tell of as many
-- differences as the walk came across, listed or announced, unless none may be listed. Then its lines tell of none.
theorem object_report_accounts_for_differences (h : Heap) (config : Config) (left right : Value) :
    let found := h.differences config.previewItems [] [.both "" left right]
    let tally := found.foldl (Tally.record config.maxDifferences) .empty
    let report := compareObjects h config left right
    tally.total = found.length ∧
      report = .object (left.display h config.previewItems) (right.display h config.previewItems) tally.kept
        (tally.total - tally.kept.length) ∧
      listedIn report.reportLines + announcedIn report.reportLines =
        if config.maxDifferences = 0 then 0 else tally.total := by
  intro found tally report
  obtain ⟨hkept, htotal⟩ : tally.Covers config.maxDifferences found := Tally.covers_empty.foldl found
  have hreport : report = .object (left.display h config.previewItems) (right.display h config.previewItems)
      tally.kept (tally.total - tally.kept.length) := by
    rw [hkept, htotal]
    rfl
  refine ⟨htotal, hreport, ?_⟩
  rw [hreport, Comparison.reportLines, listedIn_sideLines_append, announcedIn_sideLines_append,
    listedIn_differenceLines, announcedIn_differenceLines]
  by_cases hroom : config.maxDifferences = 0
  · rw [if_pos hroom, hkept, hroom]
    rfl
  · rw [if_neg hroom]
    by_cases hnone : tally.kept = []
    · have hempty : found = [] := by
        rw [hkept, List.take_eq_nil_iff] at hnone
        exact hnone.resolve_left hroom
      rw [if_pos hnone, hnone, htotal, hempty]
      rfl
    · have hle : tally.kept.length ≤ tally.total := by
        rw [hkept, htotal, List.length_take]
        exact Nat.min_le_right _ _
      rw [if_neg hnone, Nat.add_sub_cancel' hle]

-- Two objects with different values in one field.
def unequalPair : Heap := ⟨#[⟨"P", [("x", .int 1)]⟩, ⟨"P", [("x", .int 2)]⟩]⟩

def noneListed : Config := { Config.standard with maxDifferences := 0 }

-- If none may be listed, the one difference is neither listed nor announced.
theorem unlisted_difference_is_not_announced :
    Strategy.select (.untyped (.object 0)) (.untyped (.object 1)) = .object ∧
      (unequalPair.differences noneListed.previewItems [] [.both "" (.object 0) (.object 1)]).length = 1 ∧
      let lines := (compareOperands unequalPair noneListed (.untyped (.object 0)) (.untyped (.object 1))).reportLines
      lines = sideLines "P \x7b x: 1 \x7d" "P \x7b x: 2 \x7d" ∧ listedIn lines + announcedIn lines = 0 := by
  have hunequal : (Value.int 1).equals unequalPair (.int 2) = false := by
    rw [Value.equals, Heap.allEqual]
    · rfl
    · simp
    · simp
  have hplaces : fieldPlaces "" (unequalPair.fields 0) (unequalPair.fields 1) = [.both "x" (.int 1) (.int 2)] := rfl
  have hfound : unequalPair.differences noneListed.previewItems [] [.both "" (.object 0) (.object 1)] =
      [.atPath "x" ((Value.int 1).display unequalPair noneListed.previewItems)
        ((Value.int 2).display unequalPair noneListed.previewItems)] := by
    rw [Heap.differences, if_neg (by simp), hplaces, List.singleton_append, Heap.differences, hunequal,
      if_neg Bool.false_ne_true, Heap.differences]
    · simp
    · simp
  have hshown (r : Ref) (n : Int) (hname : unequalPair.typeName r = "P")
      (hfields : unequalPair.fields r = [("x", .int n)]) :
      (Value.object r).display unequalPair noneListed.previewItems = recordText "P" ["x: " ++ toString n] := by
    rw [Value.display, shown_object List.not_mem_nil, hname, hfields, List.map_singleton, Value.shown]
    rfl
  have hreport : compareOperands unequalPair noneListed (.untyped (.object 0)) (.untyped (.object 1)) =
      .object "P \x7b x: 1 \x7d" "P \x7b x: 2 \x7d" [] 1 := by
    change compareObjects unequalPair noneListed (.object 0) (.object 1) = _
    rw [compareObjects, hfound, hshown 0 1 rfl rfl, hshown 1 2 rfl rfl]
    rfl
  refine ⟨rfl, ?_, ?_⟩
  · rw [hfound, List.length_singleton]
  · rw [hreport]
    exact ⟨rfl, by decide⟩

end Verdict
