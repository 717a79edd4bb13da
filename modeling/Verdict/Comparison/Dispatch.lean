import Verdict.Comparison.Objects
import Verdict.TypeName

namespace Verdict

inductive OperandKind where
  | null
  | text
  | sequence
  | object
  | scalar
  deriving DecidableEq, Repr, Inhabited

def OperandKind.of : Value → OperandKind
  | .null => .null
  | .text _ => .text
  | .seq _ => .sequence
  | .object _ => .object
  | _ => .scalar

-- The first strategy that fits the pair: nullable operands come first, then texts, then sequences, then objects.
def Strategy.select (left right : Operand) : Strategy :=
  if left.isNullable || right.isNullable then .nullable
  else
    match OperandKind.of left.value, OperandKind.of right.value with
    | .text, .text | .text, .null | .null, .text => .text
    | .null, .null => if left.isTextLike && right.isTextLike then .text else .plain
    | .sequence, .sequence => .collection
    | .object, _ | _, .object => .object
    | _, _ => .plain

def comparePlain (h : Heap) (config : Config) (left right : Value) : Comparison :=
  .plain (left.display h config.previewItems) (right.display h config.previewItems)

-- A nullable operand is shown with whether it has a value.
def describeNullable (h : Heap) (config : Config) (o : Operand) : String :=
  if !o.isNullable then o.value.display h config.previewItems
  else if o.value.isNull then "HasValue: false"
  else "HasValue: true, Value: " ++ o.value.display h config.previewItems

-- Texts are cut to the limit and then diffed, by lines if either has a line feed.
def compareTexts (config : Config) (left right : Option String) : Comparison :=
  let left := left.map (truncate · config.maxTextLength)
  let right := right.map (truncate · config.maxTextLength)
  .text left right <| match left, right with
    | some l, some r =>
      if l.contains '\n' || r.contains '\n' then .lines (lineDiff l r) else .inline (charDiff l r)
    | _, _ => .absent

-- The first place at which both sequences have an item and the items differ.
def firstMismatch (h : Heap) (config : Config) (left right : List Value) : Option Mismatch :=
  ((left.zip right).zipIdx.find? fun p => !p.1.1.equals h p.1.2).map fun p =>
    ⟨p.2, p.1.1.display h config.previewItems, p.1.2.display h config.previewItems⟩

-- The items that the longer sequence has behind the end of the shorter one.
def lengthDelta (h : Heap) (config : Config) (left right : List Value) : Option LengthDelta :=
  if right.length < left.length then
    some ⟨.extra, previewList h config.maxExtraItems (left.drop right.length)⟩
  else if left.length < right.length then
    some ⟨.missing, previewList h config.maxExtraItems (right.drop left.length)⟩
  else none

def compareCollections (h : Heap) (config : Config) (left right : List Value) : Comparison :=
  .collection (previewList h config.previewItems left) (previewList h config.previewItems right)
    (firstMismatch h config left right) (lengthDelta h config left right)

def compareOperands (h : Heap) (config : Config) (left right : Operand) : Comparison :=
  match Strategy.select left right with
  | .nullable => .nullable (describeNullable h config left) (describeNullable h config right)
  | .text => compareTexts config left.value.text? right.value.text?
  | .collection =>
    match left.value.items?, right.value.items? with
    | some xs, some ys => compareCollections h config xs ys
    | _, _ => comparePlain h config left.value right.value
  | .object => compareObjects h config left.value right.value
  | .plain => comparePlain h config left.value right.value

end Verdict
