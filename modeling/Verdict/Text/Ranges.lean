namespace Verdict

-- The words of a text between single blanks and line ends.
def tableWords (s : String) : List (List Char) :=
  (s.toList.splitBy fun a b => (a = ' ' ∨ a = '\n') = (b = ' ' ∨ b = '\n')).filter
    fun w => w ≠ [] ∧ w.head? ≠ some ' ' ∧ w.head? ≠ some '\n'

def hexDigit? (c : Char) : Option Nat :=
  if '0' ≤ c ∧ c ≤ '9' then some (c.toNat - '0'.toNat)
  else if 'a' ≤ c ∧ c ≤ 'f' then some (c.toNat - 'a'.toNat + 10)
  else if 'A' ≤ c ∧ c ≤ 'F' then some (c.toNat - 'A'.toNat + 10)
  else none

-- The number a run of hexadecimal digits writes; other characters count for nothing.
def ofHex (cs : List Char) : Nat :=
  cs.foldl (fun n c => n * 16 + (hexDigit? c).getD 0) 0

-- The last entry whose key is at most `key` among those from `low` up to but not including `high`,
-- the entries being sorted by key.
def lastAtMost {α : Type} (entries : Array (Nat × α)) (key low high : Nat) : Option (Nat × α) :=
  if low + 1 < high then
    let middle := (low + high) / 2
    match entries[middle]? with
    | some (k, _) =>
      if k ≤ key then lastAtMost entries key middle high else lastAtMost entries key low middle
    | none => lastAtMost entries key low middle
  else (entries[low]?).filter fun e => e.1 ≤ key
termination_by high - low
decreasing_by all_goals omega

-- Sorted closed ranges of code points.
structure CodeRanges where
  entries : Array (Nat × Nat)

namespace CodeRanges

-- One range a word, `41-5A`, or one code point, `5F`.
def ofText (s : String) : CodeRanges :=
  ⟨(tableWords s).toArray.map fun w =>
    let first := ofHex (w.takeWhile (· ≠ '-'))
    match w.dropWhile (· ≠ '-') with
    | [] => (first, first)
    | _ :: last => (first, ofHex last)⟩

def contains (r : CodeRanges) (c : Char) : Bool :=
  match lastAtMost r.entries c.toNat 0 r.entries.size with
  | some (_, last) => c.toNat ≤ last
  | none => false

end CodeRanges

end Verdict
