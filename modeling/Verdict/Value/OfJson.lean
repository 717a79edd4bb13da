import Verdict.Json.Basic
import Verdict.Value.Basic

namespace Verdict

mutual

-- Objects inside have no type name.
def Value.ofJson : Json → StateM Heap Value
  | .null => return .null
  | .bool b => return .bool b
  | .int n => return if n.toNat < 1 <<< 63 then .int n else .uint n.toNat
  | .float x => return .float x
  | .text s => return .text s
  | .array items => return .seq (← itemsOfJson items)
  | .object members => do
    let fields ← fieldsOfJson members
    modifyGet fun h =>
      let (r, h) := h.add "" fields
      (.object r, h)

def itemsOfJson : List Json → StateM Heap (List Value)
  | [] => return []
  | j :: rest => do
    let v ← Value.ofJson j
    return v :: (← itemsOfJson rest)

def fieldsOfJson : List (String × Json) → StateM Heap (List (String × Value))
  | [] => return []
  | (name, j) :: rest => do
    let v ← Value.ofJson j
    return (name, v) :: (← fieldsOfJson rest)

end

-- The value of a thing of a named type, by the data it gives. An object gets the name; a thing that
-- gives none is shown by the name alone.
def Value.capture (typeName : String) : Option Json → StateM Heap Value
  | none => return .raw ("<" ++ typeName ++ ">")
  | some (.object members) => do
    let fields ← fieldsOfJson members
    modifyGet fun h =>
      let (r, h) := h.add typeName fields
      (.object r, h)
  | some j => Value.ofJson j

end Verdict
