import Verdict.Expr.Basic
import Verdict.Report.ComparisonLines

namespace Verdict

namespace Call

def passing (text : String) : Result := .detailed text (some true) []

def failing (text : String) (lines : List Line) : Result := .detailed text (some false) lines

def notASequence (h : Heap) (config : Config) (text call : String) (v : Value) : Result :=
  failing text [.top (call ++ " failed: " ++ v.display h config.previewItems ++
    " is not a sequence")]

-- Whether a text has a part, or a sequence an item; nothing for other receivers.
def found? (h : Heap) (receiver item : Value) : Option Bool :=
  match receiver, item with
  | .text s, .text part => some (occursIn part.toList s.toList)
  | .text s, .char c => some (s.toList.contains c)
  | .seq items, v => some (items.any (·.equals h v))
  | _, _ => none

def contains (h : Heap) (config : Config) (text : String) (receiver item : Value) : Result :=
  match found? h receiver item with
  | none => notASequence h config text "Contains" receiver
  | some true => passing text
  | some false =>
    failing text [.top ("Contains failed: searched for " ++ item.display h config.previewItems ++
      " in " ++ receiver.display h config.previewItems)]

def any (h : Heap) (config : Config) (text : String) (receiver : Value)
    (predicate : Option Predicate) : Result :=
  match receiver.items?, predicate with
  | none, _ => notASequence h config text "Any" receiver
  | some items, none =>
    if items.isEmpty then failing text [.top "Any failed: sequence is empty"] else passing text
  | some items, some p =>
    if items.any p.accepts then passing text
    else
      failing text [.top ("Any failed: no item in " ++ receiver.display h config.previewItems ++
        " satisfied `" ++ p.text ++ "`")]

-- The items that a predicate does not accept, with their places.
def offenders (p : Predicate) (items : List Value) : List (Nat × Value) :=
  (items.zipIdx.filter fun i => !p.accepts i.1).map fun i => (i.2, i.1)

-- Every item is tested, so that the first of all offenders can be listed and the others counted.
def all (h : Heap) (config : Config) (text : String) (receiver : Value) (p : Predicate) : Result :=
  match receiver.items? with
  | none => notASequence h config text "All" receiver
  | some items =>
    let failed := offenders p items
    if failed.isEmpty then passing text
    else
      failing text <|
        .top ("All failed: " ++ toString failed.length ++ " of " ++ toString items.length ++
            " items did not satisfy `" ++ p.text ++ "`") ::
          (failed.take config.maxExtraItems).map (fun i =>
            .nested ("[" ++ toString i.1 ++ "]: " ++ i.2.display h config.previewItems)) ++
          if failed.length ≤ config.maxExtraItems then []
          else [.nested ("... and " ++ toString (failed.length - config.maxExtraItems) ++ " more")]

-- Equal lengths, and equal items asked from left to right. An equality that breaks off is none.
def itemsEqual (eq : ItemEquality) (left right : List Value) : Bool :=
  left.length == right.length &&
    match askPrefix eq left right with
    | .ok count => count == left.length
    | .error _ => false

-- Only the report on sequences that are not equal can break off.
def sequenceEqual (h : Heap) (config : Config) (text : String) (receiver other : Value)
    (comparer : Option Comparer) : Callback Result :=
  match receiver.items?, other.items? with
  | some left, some right =>
    if itemsEqual ((comparer.map (·.equality)).getD fun a b => .ok (a.equals h b)) left right then
      .ok (passing text)
    else
      (compareSequences h config (comparer.map (·.equality)) left right).map fun report =>
        failing text report.reportLines
  | some _, none => .ok (notASequence h config text "SequenceEqual" other)
  | none, _ => .ok (notASequence h config text "SequenceEqual" receiver)

end Call

end Verdict
