import Verdict.Json.Basic
import Verdict.Report.Message

namespace Verdict

mutual

-- Objects and raw values give their text, so that a cycle has an end.
def Value.toJson (h : Heap) (limit : Nat) : Value → Json
  | .null => .null
  | .bool b => .bool b
  | .int n => .int n
  | .uint n => .int n
  | .float x => .ofFloat x
  | .char c => .text (String.ofList [c])
  | .text s => .text s
  | .moment m => .text m.text
  | .seq items => .array (itemsToJson h limit items)
  | .object r => .text ((Value.object r).display h limit)
  | .raw shape => .text shape

def itemsToJson (h : Heap) (limit : Nat) : List Value → List Json
  | [] => []
  | v :: rest => v.toJson h limit :: itemsToJson h limit rest

end

def DeclaredType.toJson (d : DeclaredType) : Json :=
  .ofMembers [("name", .text d.name), ("nullable", .bool d.nullable)]

def Change.segmentName : Change → String
  | .kept => "equal"
  | .removed => "deleted"
  | .added => "inserted"

def Change.lineName : Change → String
  | .kept => "same"
  | .removed => "removed"
  | .added => "added"

def Segment.toJson (s : Segment) : Json :=
  .ofMembers [("op", .text s.change.segmentName), ("text", .text s.text)]

def LineChange.toJson (l : LineChange) : Json :=
  .ofMembers [("op", .text l.change.lineName), ("text", .text l.text)]

def CompareOp.name : CompareOp → String
  | .equal => "equal"
  | .notEqual => "not_equal"
  | .less => "less"
  | .lessOrEqual => "less_or_equal"
  | .greater => "greater"
  | .greaterOrEqual => "greater_or_equal"

def LogicalOp.name : LogicalOp → String
  | .and => "and"
  | .or => "or"

def Strategy.name : Strategy → String
  | .nullable => "nullable"
  | .text => "string"
  | .collection => "collection"
  | .object => "object"
  | .plain => "default"

def TextDiff.toJson : TextDiff → Json
  | .absent => .ofMembers [("mode", .text "null")]
  | .inline segments =>
    .ofMembers [("mode", .text "inline"), ("changes", .array (segments.map (·.toJson)))]
  | .lines changes =>
    .ofMembers [("mode", .text "lines"), ("changes", .array (changes.map (·.toJson)))]

def Mismatch.toJson (m : Mismatch) : Json :=
  .ofMembers [("index", .ofNat m.index), ("expected", .text m.expected), ("actual", .text m.actual)]

def DeltaKind.name : DeltaKind → String
  | .extra => "extra"
  | .missing => "missing"

def LengthDelta.toJson (d : LengthDelta) : Json :=
  .ofMembers [("kind", .text d.kind.name), ("items", .text d.items)]

def Difference.toJson (d : Difference) : Json :=
  .ofMembers [("path", .text d.path), ("left", .text d.left), ("right", .text d.right)]

def LengthMismatch.toJson (m : LengthMismatch) : Json :=
  .ofMembers [("expected_len", .ofNat m.expectedLength), ("actual_len", .ofNat m.actualLength),
    ("expected_preview", .text m.expectedPreview), ("actual_preview", .text m.actualPreview)]

-- The members of one kind.
def Json.ofKind (kind : String) (members : List (String × Json)) : Json :=
  .ofMembers (("kind", .text kind) :: members)

def Comparison.toJson : Comparison → Json
  | .plain left right => .ofKind "default" [("left", .text left), ("right", .text right)]
  | .nullable left right =>
    .ofKind "nullable" [("left_display", .text left), ("right_display", .text right)]
  | .text left right diff =>
    .ofKind "string" [("left", .ofOption .text left), ("right", .ofOption .text right),
      ("diff", diff.toJson)]
  | .collection left right mismatch delta =>
    .ofKind "collection" [("preview_left", .text left), ("preview_right", .text right),
      ("first_mismatch", .ofOption (·.toJson) mismatch), ("length_delta", .ofOption (·.toJson) delta)]
  | .object left right differences truncated =>
    .ofKind "object" [("left", .text left), ("right", .text right),
      ("differences", .array (differences.map (·.toJson))), ("truncated_count", .ofNat truncated)]
  | .sequence lengths lines custom truncated =>
    .ofKind "sequence" [("length_mismatch", .ofOption (·.toJson) lengths),
      ("diff_lines", .ofOption (fun ls => .array (ls.map .text)) lines),
      ("has_comparer", .bool custom), ("truncated", .bool truncated)]

def Context.toJson (c : Context) : Json :=
  .ofMembers [("expression", .text c.expression), ("file", .text c.file), ("line", .ofNat c.line),
    ("message", .ofOption .text c.message)]

def Line.toJson (l : Line) : Json :=
  .ofMembers [("indent", .ofNat l.indent), ("text", .text l.text)]

-- Lines as pairs of a level and a text.
def linesToJson (ls : List Line) : Json :=
  .ofList (fun l => .array [.ofNat l.indent, .text l.text]) ls

def Quantifier.count? : Quantifier → Option Nat
  | .exactly count | .atLeast count | .atMost count => Option.some count
  | _ => Option.none

def Quantifier.toJson (q : Quantifier) : Json :=
  .ofMembers (("name", .text q.name) :: (q.count?.map fun n => ("count", Json.ofNat n)).toList)

mutual

def Result.toJson (h : Heap) (limit : Nat) : Result → Json
  | .assertion context inner =>
    .ofKind "assertion" [("context", context.toJson), ("inner", inner.toJson h limit)]
  | .logical junction text op left right holds shortCircuited =>
    let (kind, opName) := match junction with
      | .expressions => ("logical", "op")
      | .expectations => ("composed_expectation", "combinator")
    .ofKind kind [("text", .text text), (opName, .text op.name), ("left", left.toJson h limit),
      ("right", rightToJson h limit right), ("value", .bool holds),
      ("short_circuited", .bool shortCircuited)]
  | .negation text operand operandValue holds =>
    .ofKind "unary" [("text", .text text), ("op", .text "not"),
      ("operand", operand.toJson h limit), ("operand_value", .ofOption .bool operandValue),
      ("value", .ofOption .bool holds)]
  | .comparison text op report holds =>
    .ofKind "binary_comparison" [("text", .text text), ("op", .text op.name),
      ("comparison", report.toJson), ("value", .bool holds)]
  | .value text v declared =>
    .ofKind "value" [("text", .text text), ("value", v.toJson h limit),
      ("declared", .ofOption (·.toJson) declared)]
  | .detailed text holds detail =>
    .ofKind "formatted" [("text", .text text), ("value", .ofOption .bool holds),
      ("lines", .array (detail.map (·.toJson)))]
  | .quantified text q total passes fails reportsPasses relevant holds =>
    .ofKind "collection_quantifier" [("text", .text text), ("quantifier", q.toJson),
      ("total_count", .ofNat total), ("pass_count", .ofNat passes), ("fail_count", .ofNat fails),
      ("reports_passes", .bool reportsPasses), ("relevant", .array (relevantToJson h limit relevant)),
      ("value", .bool holds)]

def rightToJson (h : Heap) (limit : Nat) : Option Result → Json
  | none => .null
  | some right => right.toJson h limit

def relevantToJson (h : Heap) (limit : Nat) : List (Nat × Result) → List Json
  | [] => []
  | (index, result) :: rest =>
    .ofMembers [("index", .ofNat index), ("result", result.toJson h limit)] ::
      relevantToJson h limit rest

end

-- Everything a report says of a result.
def Result.summaryJson (h : Heap) (config : Config) (output : OutputConfig) (r : Result) : Json :=
  .ofMembers [("outcome", .ofOption .bool r.outcome), ("passed", .bool r.passed),
    ("text", .text r.text), ("tree", r.toJson h config.previewItems),
    ("lines", linesToJson (r.messageLines h output)),
    ("body", linesToJson ((Renderer.new output).render h r).1),
    ("message", .text (r.message h output))]

def Config.toJson (c : Config) : Json :=
  .ofMembers [("indent", .text c.indent), ("max_string_length", .ofNat c.maxTextLength),
    ("preview_items", .ofNat c.previewItems), ("max_extra_elements", .ofNat c.maxExtraItems),
    ("max_object_differences", .ofNat c.maxDifferences),
    ("sequence_context_lines", .ofNat c.contextLines),
    ("max_sequence_diff_lines", .ofNat c.maxDiffLines)]

end Verdict
