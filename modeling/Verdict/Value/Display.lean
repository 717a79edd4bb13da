import Verdict.Value.Basic
import Verdict.Number.Shortest
import Verdict.Remaining
import Verdict.Text.Quoted
import Verdict.Text.Cut

namespace Verdict

def ellipsisText : String := "..."

def commaSeparated (parts : List String) : String := ", ".intercalate parts

-- Objects of the heap that do not enclose the place being shown.
def Heap.unopened (h : Heap) (enclosing : List Ref) : Nat :=
  remaining (List.range h.size) enclosing

theorem Heap.unopened_cons_lt {h : Heap} {enclosing : List Ref} {r : Ref} (hr : r < h.size)
    (hs : r ∉ enclosing) : h.unopened (r :: enclosing) < h.unopened enclosing :=
  remaining_cons_lt (List.mem_range.2 hr) hs

-- The slots of a preview: every item if the limit allows, else the first ones and an ellipsis.
def previewSlots {α : Type} (limit : Nat) (items : List α) (shown : α → String) : List String :=
  if items.length ≤ limit then items.map shown
  else (items.take (limit - 1)).map shown ++ [ellipsisText]

-- An object's name and its fields in braces; a nameless object has the braces alone.
def recordText (name : String) (fields : List String) : String :=
  let braces := if fields = [] then "\x7b\x7d" else "\x7b " ++ commaSeparated fields ++ " \x7d"
  if name = "" then braces else name ++ " " ++ braces

def cycleText (name : String) : String :=
  "<cycle: " ++ (if name = "" then "object" else name) ++ ">"

-- The text of a value inside the given objects.
def Value.shown (h : Heap) (limit : Nat) (enclosing : List Ref) (v : Value) : String :=
  match v with
  | .null => "null"
  | .bool b => if b then "true" else "false"
  | .int n => toString n
  | .uint n => toString n
  | .float x => x.text
  | .char c => Quoted.char c
  | .text s => Quoted.text s
  | .moment m => m.text
  | .seq items =>
    "[" ++ commaSeparated (previewSlots limit items.attach fun ⟨item, _⟩ =>
      item.shown h limit enclosing) ++ "]"
  | .object r =>
    if _hr : r ∈ enclosing then cycleText (h.typeName r)
    else
      recordText (h.typeName r) ((h.fields r).attach.map fun ⟨(name, w), _⟩ =>
        name ++ ": " ++ w.shown h limit (r :: enclosing))
  | .raw shape => shape
termination_by (h.unopened enclosing, sizeOf v)
decreasing_by
  · rename_i hmem
    apply Prod.Lex.right
    have := List.sizeOf_lt_of_mem hmem
    simp only [Value.seq.sizeOf_spec]
    omega
  · rename_i hmem
    exact Prod.Lex.left _ _ (Heap.unopened_cons_lt (Heap.lt_size_of_mem_fields hmem) _hr)

def Value.display (h : Heap) (limit : Nat) (v : Value) : String := v.shown h limit []

-- A preview of a list of values, of at most `limit` slots.
def previewList (h : Heap) (limit : Nat) (items : List Value) : String :=
  "[" ++ commaSeparated (previewSlots limit items (Value.display h limit)) ++ "]"

end Verdict
