import Verdict.Config
import Verdict.Text.Ranges
import Verdict.Yaml.Node

namespace Verdict

open Yaml

-- A digit in a base up to sixteen.
def digitIn? (base : Nat) (c : Char) : Option Nat := (hexDigit? c).filter (· < base)

def wholeIn? (base : Nat) (cs : List Char) : Option Nat := do
  if cs.isEmpty then none
  let n ← cs.foldlM (fun n c => (digitIn? base c).map fun d => n * base + d) 0
  if n < 1 <<< 64 then n else none

-- The digits behind a mark of a base, which stands in front of them.
def marked? (cs : List Char) : Option Nat :=
  match cs with
  | '0' :: 'x' :: rest => wholeIn? 16 rest
  | '0' :: 'o' :: rest => wholeIn? 8 rest
  | '0' :: 'b' :: rest => wholeIn? 2 rest
  | _ => none

-- A natural number of 64 bits as YAML writes it. A plus sign may stand in front. Decimal digits do not
-- start with a zero that could be left out.
def Yaml.natural? (s : String) : Option Nat :=
  let cs := match s.toList with
    | '+' :: rest => rest
    | cs => cs
  match marked? cs with
  | some n => some n
  | none => if cs.head? = some '0' ∧ 1 < cs.length then none else wholeIn? 10 cs

namespace Yaml.Node

-- The text of a scalar, however it is written.
def text? : Node → Option String
  | .scalar _ _ text => some text
  | _ => none

-- A quoted number is a text. Lines of text are a number if a tag says so.
def natural? : Node → Option Nat
  | .scalar .plain _ text => Yaml.natural? text
  | .scalar .literal (some "tag:yaml.org,2002:int") text => Yaml.natural? text
  | _ => none

end Yaml.Node

namespace Config

-- Settings that are numbers.
def numbers : List (String × (Config → Nat → Config)) :=
  [("max_string_length", fun c n => { c with maxTextLength := n }),
    ("preview_items", fun c n => { c with previewItems := n }),
    ("max_extra_elements", fun c n => { c with maxExtraItems := n }),
    ("max_object_differences", fun c n => { c with maxDifferences := n }),
    ("sequence_context_lines", fun c n => { c with contextLines := n }),
    ("max_sequence_diff_lines", fun c n => { c with maxDiffLines := n })]

def isSetting (name : String) : Bool := name == "indent" || numbers.any (·.1 == name)

-- The configuration with one setting replaced; the name is that of a setting.
def put? (c : Config) (name : String) (value : Node) : Option Config :=
  if name = "indent" then value.text?.map fun s => { c with indent := s }
  else do
    let (_, put) ← numbers.find? (·.1 = name)
    return put c (← value.natural?)

-- The configuration with the settings of a mapping. No setting may come twice.
def withEntries? (c : Config) (seen : List String) : List (Node × Node) → Option Config
  | [] => some c
  | (key, value) :: rest => do
    let name ← key.text?
    if isSetting name then
      if seen.contains name then none
      else (← c.put? name value).withEntries? (name :: seen) rest
    else c.withEntries? seen rest

-- A text without content changes nothing.
def ofYaml? (s : String) : Option Config := do
  match ← Node.ofText? s with
  | none | some (.scalar .plain _ "") => return standard
  | some (.mapping entries) => standard.withEntries? [] entries
  | some _ => none

end Config

end Verdict
