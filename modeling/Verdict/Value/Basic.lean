import Verdict.Number.Binary64
import Verdict.Moment

namespace Verdict

abbrev Ref := Nat

inductive Value where
  | null
  | bool (b : Bool)
  | int (n : Int)
  | uint (n : Nat)
  | float (x : Binary64)
  | char (c : Char)
  | text (s : String)
  | moment (m : Moment)
  | seq (items : List Value)
  | object (ref : Ref)
  -- the text of a value with no structure to look into
  | raw (shape : String)
  deriving Inhabited

theorem Value.sizeOf_pos (v : Value) : 0 < sizeOf v := by
  cases v
  case null => exact Nat.one_pos
  all_goals exact Nat.lt_of_lt_of_le Nat.one_pos (Nat.le_add_right 1 _)

-- An object: the name of its type, and its fields in order. Two fields may have the same name, and
-- a look-up then finds the first.
structure Record where
  typeName : String
  fields : List (String × Value)
  deriving Inhabited

structure Heap where
  records : Array Record
  deriving Inhabited

namespace Heap

def empty : Heap := ⟨#[]⟩

def size (h : Heap) : Nat := h.records.size

-- A reference that leads nowhere counts as a nameless object without fields.
def record (h : Heap) (r : Ref) : Record := (h.records[r]?).getD ⟨"", []⟩

def typeName (h : Heap) (r : Ref) : String := (h.record r).typeName

def fields (h : Heap) (r : Ref) : List (String × Value) := (h.record r).fields

-- Only objects of the heap have fields.
theorem lt_size_of_mem_fields {h : Heap} {r : Ref} {f : String × Value} (hf : f ∈ h.fields r) :
    r < h.size := by
  by_cases hr : r < h.size
  · exact hr
  · have hnone : h.records[r]? = none := Array.getElem?_eq_none (Nat.le_of_not_lt hr)
    simp [fields, record, hnone] at hf

-- A new object, and the reference to it.
def add (h : Heap) (typeName : String) (fields : List (String × Value)) : Ref × Heap :=
  (h.size, ⟨h.records.push ⟨typeName, fields⟩⟩)

-- The fields with one of them set: the first of that name is replaced, else a new one comes last.
def setIn (name : String) (v : Value) : List (String × Value) → List (String × Value)
  | [] => [(name, v)]
  | (k, w) :: rest => if k = name then (k, v) :: rest else (k, w) :: setIn name v rest

def setField (h : Heap) (r : Ref) (name : String) (v : Value) : Heap :=
  ⟨h.records.modify r fun o => { o with fields := setIn name v o.fields }⟩

def field? (h : Heap) (r : Ref) (name : String) : Option Value := (h.fields r).lookup name

end Heap

namespace Value

def isNull (v : Value) : Bool := v matches .null

def bool? : Value → Option Bool
  | .bool b => some b
  | _ => none

def text? : Value → Option String
  | .text s => some s
  | _ => none

def items? : Value → Option (List Value)
  | .seq items => some items
  | _ => none

-- Short name of the value's kind; an object's is its type name if it has one.
def kindName (h : Heap) : Value → String
  | .null => "null"
  | .bool _ => "bool"
  | .int _ | .uint _ => "integer"
  | .float _ => "float"
  | .char _ => "char"
  | .text _ => "string"
  | .moment _ => "datetime"
  | .seq _ => "sequence"
  | .object r => if h.typeName r = "" then "object" else h.typeName r
  | .raw _ => "opaque value"

end Value

end Verdict
