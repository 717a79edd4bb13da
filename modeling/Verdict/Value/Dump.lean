import Verdict.Value.Basic
import Verdict.Number.Shortest
import Verdict.Text.Quoted

namespace Verdict

def listText (parts : List String) : String := "[" ++ ", ".intercalate parts ++ "]"

def Heap.dump (h : Heap) (r : Ref) : String :=
  "Object \x7b type_name: " ++ Quoted.text (h.typeName r) ++ ", fields: " ++
    listText ((h.fields r).map fun f => Quoted.text f.1) ++ " \x7d"

mutual

def Value.dump (h : Heap) : Value → String
  | .null => "Null"
  | .bool b => "Bool(" ++ (if b then "true" else "false") ++ ")"
  | .int n => "Int(" ++ toString n ++ ")"
  | .uint n => "UInt(" ++ toString n ++ ")"
  | .float x => "Float(" ++ x.text ++ ")"
  | .char c => "Char(" ++ Quoted.char c ++ ")"
  | .text s => "Str(" ++ Quoted.text s ++ ")"
  | .moment m => "DateTime(" ++ m.exactText ++ ")"
  | .seq items => "Seq(" ++ listText (dumpItems h items) ++ ")"
  | .object r => "Object(" ++ h.dump r ++ ")"
  | .raw shape => "Opaque(" ++ Quoted.text shape ++ ")"

def dumpItems (h : Heap) : List Value → List String
  | [] => []
  | v :: rest => v.dump h :: dumpItems h rest

end

end Verdict
