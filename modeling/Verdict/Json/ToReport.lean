import Verdict.Json.Basic
import Verdict.Report.Renderer

namespace Verdict

def DeclaredType.ofJson? (j : Json) : Option DeclaredType := do
  return ⟨← j.textAt? "name", j.holdsAt "nullable"⟩

def Change.ofName? : String → Option Change
  | "equal" | "same" => some .kept
  | "deleted" | "removed" => some .removed
  | "inserted" | "added" => some .added
  | _ => none

def Segment.ofJson? (j : Json) : Option Segment := do
  return ⟨← (j.textAt? "op").bind Change.ofName?, ← j.textAt? "text"⟩

def LineChange.ofJson? (j : Json) : Option LineChange :=
  (Segment.ofJson? j).map fun s => ⟨s.change, s.text⟩

def TextDiff.ofJson? (j : Json) : Option TextDiff := do
  match ← j.textAt? "mode" with
  | "inline" => return .inline (← (← j.itemsAt? "changes").mapM Segment.ofJson?)
  | "lines" => return .lines (← (← j.itemsAt? "changes").mapM LineChange.ofJson?)
  | _ => return .absent

def Mismatch.ofJson? (j : Json) : Option Mismatch := do
  return ⟨← j.natAt? "index", ← j.textAt? "expected", ← j.textAt? "actual"⟩

def LengthDelta.ofJson? (j : Json) : Option LengthDelta := do
  match ← j.textAt? "kind" with
  | "extra" => return ⟨.extra, ← j.textAt? "items"⟩
  | "missing" => return ⟨.missing, ← j.textAt? "items"⟩
  | _ => none

def Difference.ofJson? (j : Json) : Option Difference := do
  return ⟨← j.textAt? "path", ← j.textAt? "left", ← j.textAt? "right"⟩

def LengthMismatch.ofJson? (j : Json) : Option LengthMismatch := do
  return ⟨← j.natAt? "expected_len", ← j.natAt? "actual_len", ← j.textAt? "expected_preview",
    ← j.textAt? "actual_preview"⟩

-- A member that may be missing or null, but not of another form.
def Json.optionalAt? {α : Type} (j : Json) (name : String) (f : Json → Option α) :
    Option (Option α) :=
  match j.given? name with
  | none => some none
  | some v => (f v).map some

def Comparison.ofJson? (j : Json) : Option Comparison := do
  match ← j.textAt? "kind" with
  | "default" => return .plain (← j.textAt? "left") (← j.textAt? "right")
  | "nullable" => return .nullable (← j.textAt? "left_display") (← j.textAt? "right_display")
  | "string" =>
    return .text (← j.optionalAt? "left" Json.text?) (← j.optionalAt? "right" Json.text?)
      (← (j.member? "diff").bind TextDiff.ofJson?)
  | "collection" =>
    return .collection (← j.textAt? "preview_left") (← j.textAt? "preview_right")
      (← j.optionalAt? "first_mismatch" Mismatch.ofJson?)
      (← j.optionalAt? "length_delta" LengthDelta.ofJson?)
  | "object" =>
    return .object (← j.textAt? "left") (← j.textAt? "right")
      (← (← j.itemsAt? "differences").mapM Difference.ofJson?) (← j.natAt? "truncated_count")
  | "sequence" =>
    return .sequence (← j.optionalAt? "length_mismatch" LengthMismatch.ofJson?)
      (← j.optionalAt? "diff_lines" fun ls => do (← ls.items?).mapM Json.text?)
      (j.holdsAt "has_comparer") (j.holdsAt "truncated")
  | _ => none

def Line.ofJson? (j : Json) : Option Line := do
  match j with
  | .array [indent, text] => return ⟨← indent.nat?, ← text.text?⟩
  | j => return ⟨← j.natAt? "indent", ← j.textAt? "text"⟩

def Quantifier.ofName? (name : String) (count : Nat) : Option Quantifier :=
  [.each, .some, .none, .one, .exactly count, .atLeast count, .atMost count].find? fun q =>
    q.name == name

def Context.ofJson? (j : Json) : Option Context := do
  return ⟨← j.textAt? "expression", ← j.textAt? "file", ← j.natAt? "line",
    ← j.optionalAt? "message" Json.text?⟩

-- The settings with those replaced that the data gives.
def Config.override (base : Config) (j : Json) : Config where
  indent := (j.textAt? "indent").getD base.indent
  maxTextLength := (j.natAt? "max_string_length").getD base.maxTextLength
  previewItems := (j.natAt? "preview_items").getD base.previewItems
  maxExtraItems := (j.natAt? "max_extra_elements").getD base.maxExtraItems
  maxDifferences := (j.natAt? "max_object_differences").getD base.maxDifferences
  contextLines := (j.natAt? "sequence_context_lines").getD base.contextLines
  maxDiffLines := (j.natAt? "max_sequence_diff_lines").getD base.maxDiffLines

def OutputConfig.override (base : OutputConfig) (j : Json) : OutputConfig where
  indent := (j.textAt? "indent").getD base.indent
  previewItems := (j.natAt? "preview_items").getD base.previewItems
  colors := (j.member? "colors").bind (·.bool?) |>.getD base.colors

end Verdict
