import Verdict.Json.Basic
import Verdict.Number.Reading
import Verdict.Text.Ranges

namespace Verdict

namespace Binary64

-- The number of spacings of a double that is neither negative nor infinite.
def magnitude : Binary64 → Nat
  | .finite _ mantissa exponent _ => mantissa <<< exponent
  | _ => 0

-- Product and quotient of doubles that are not negative, rounded once.
def mulMagnitude (x y : Binary64) : Binary64 :=
  ofSpacings false (x.magnitude * y.magnitude) (1 <<< 1074)

def divMagnitude (x y : Binary64) : Binary64 :=
  ofSpacings false (x.magnitude <<< 1074) y.magnitude

def withSign (negative : Bool) : Binary64 → Binary64
  | .nan => .nan
  | .infinite _ => .infinite negative
  | .finite _ mantissa exponent canonical => .finite negative mantissa exponent canonical

end Binary64

namespace Json

namespace Reading

def isBlankChar (c : Char) : Bool := c == ' ' || c == '\t' || c == '\n' || c == '\r'

def skipBlanks (cs : List Char) : List Char := cs.dropWhile isBlankChar

def maxWord : Nat := 1 <<< 64 - 1

-- Takes digits into a number for as long as it fits 64 bits: the number, how many digits it took, and
-- how many it left.
def absorb (n : Nat) : List Char → Nat × Nat × Nat
  | [] => (n, 0, 0)
  | c :: rest =>
    let next := n * 10 + (c.toNat - '0'.toNat)
    if next ≤ maxWord then
      let (m, taken, left) := absorb next rest
      (m, taken + 1, left)
    else (n, 0, rest.length + 1)

def powerOfTen (exponent : Nat) : Binary64 := .ofInt (Nat.pow 10 exponent)

-- The largest power of ten that is a double.
def maxPower : Nat := 308

-- Digits times a power of ten. The digits are rounded before they are scaled, so there are two roundings, and
-- there is no number beyond the largest double.
def scale? (digits : Nat) (exponent : Int) : Option Binary64 :=
  let x := Binary64.ofInt digits
  let steps := exponent.natAbs
  if digits = 0 then some x
  else if 0 ≤ exponent then
    if steps ≤ maxPower then
      match x.mulMagnitude (powerOfTen steps) with
      | .infinite _ => none
      | y => some y
    else none
  else if steps ≤ maxPower then some (x.divMagnitude (powerOfTen steps))
  else
    some ((x.divMagnitude (powerOfTen maxPower)).divMagnitude
      (powerOfTen (min (steps - maxPower) maxPower)))

-- A number that is written with a point or an exponent, or is too long for a whole one.
def float? (negative : Bool) (whole fraction : List Char) (exponent : Int) : Option Json := do
  let (n, _, left) := absorb 0 whole
  let (n, taken, _) := absorb n fraction
  let x ← scale? n (left - taken + exponent)
  return .float (x.withSign negative)

def whole? (negative : Bool) (digits : List Char) : Option Json :=
  let n := Decimal.ofDigits digits
  if !negative && n ≤ maxWord then some (.int n)
  else if negative && n ≠ 0 && n ≤ 1 <<< 63 then some (.int (-n))
  else float? negative digits [] 0

-- The exponent in front of a text, if it has one.
def exponent? (cs : List Char) : Option (Option Int × List Char) :=
  match cs with
  | mark :: rest =>
    if mark = 'e' ∨ mark = 'E' then
      let (negative, rest) := Decimal.splitSign rest
      let digits := rest.takeWhile Char.isDigit
      if digits.isEmpty then none
      else
        let n : Int := Decimal.ofDigits digits
        some (some (if negative then -n else n), rest.dropWhile Char.isDigit)
    else some (none, cs)
  | [] => some (none, [])

-- The number in front of a text that starts with a digit or a minus sign.
def number? (cs : List Char) : Option (Json × List Char) := do
  let negative := cs.head? == some '-'
  let cs := if negative then cs.tail else cs
  let whole := cs.takeWhile Char.isDigit
  let rest := cs.dropWhile Char.isDigit
  if whole.isEmpty ∨ (1 < whole.length ∧ whole.head? = some '0') then none
  let (fraction, rest) := match rest with
    | '.' :: tail => (some (tail.takeWhile Char.isDigit), tail.dropWhile Char.isDigit)
    | _ => (none, rest)
  if fraction = some [] then none
  let (exponent, rest) ← exponent? rest
  let value ←
    if fraction.isNone ∧ exponent.isNone then whole? negative whole
    else float? negative whole (fraction.getD []) (exponent.getD 0)
  return (value, rest)

def codeUnit? (a b c d : Char) : Option Nat := do
  let a ← hexDigit? a
  let b ← hexDigit? b
  let c ← hexDigit? c
  let d ← hexDigit? d
  return ((a * 16 + b) * 16 + c) * 16 + d

def isHighSurrogate (n : Nat) : Bool := 0xD800 ≤ n && n ≤ 0xDBFF

def isLowSurrogate (n : Nat) : Bool := 0xDC00 ≤ n && n ≤ 0xDFFF

def plainEscape? : Char → Option Char
  | '"' => some '"'
  | '\\' => some '\\'
  | '/' => some '/'
  | 'b' => some '\x08'
  | 'f' => some '\x0c'
  | 'n' => some '\n'
  | 'r' => some '\r'
  | 't' => some '\t'
  | _ => none

-- The rest of a quoted text behind its opening quote. A character beyond 16 bits is escaped by two
-- units, and half of such a pair is an error.
def quoted? : List Char → Option (List Char × List Char)
  | [] => none
  | '"' :: rest => some ([], rest)
  | '\\' :: 'u' :: a :: b :: c :: d :: '\\' :: 'u' :: e :: f :: g :: h :: rest => do
    let high ← codeUnit? a b c d
    let low ← codeUnit? e f g h
    if isHighSurrogate high then
      if isLowSurrogate low then
        let (cs, rest) ← quoted? rest
        return (Char.ofNat (0x10000 + (high - 0xD800) * 1024 + (low - 0xDC00)) :: cs, rest)
      else none
    else if isLowSurrogate high then none
    else
      let (cs, rest) ← quoted? ('\\' :: 'u' :: e :: f :: g :: h :: rest)
      return (Char.ofNat high :: cs, rest)
  | '\\' :: 'u' :: a :: b :: c :: d :: rest => do
    let unit ← codeUnit? a b c d
    if isHighSurrogate unit ∨ isLowSurrogate unit then none
    let (cs, rest) ← quoted? rest
    return (Char.ofNat unit :: cs, rest)
  | '\\' :: c :: rest => do
    let c ← plainEscape? c
    let (cs, rest) ← quoted? rest
    return (c :: cs, rest)
  | c :: rest => do
    if c.toNat < 0x20 ∨ c = '\\' then none
    let (cs, rest) ← quoted? rest
    return (c :: cs, rest)

def word? (word : List Char) (value : Json) (cs : List Char) : Option (Json × List Char) :=
  if word.isPrefixOf cs then some (value, cs.drop word.length) else none

mutual

-- The value in front of a text. Every step goes deeper into the text, so its length bounds them.
def value? : Nat → List Char → Option (Json × List Char)
  | 0, _ => none
  | fuel + 1, cs =>
    match skipBlanks cs with
    | '[' :: rest =>
      match skipBlanks rest with
      | ']' :: rest => some (.array [], rest)
      | rest => (items? fuel rest).map fun r => (.array r.1, r.2)
    | '\x7b' :: rest =>
      match skipBlanks rest with
      | '\x7d' :: rest => some (.object [], rest)
      | rest => (members? fuel rest).map fun r => (ofMembers r.1, r.2)
    | '"' :: rest => (quoted? rest).map fun r => (.text (String.ofList r.1), r.2)
    | 'n' :: rest => word? ['u', 'l', 'l'] .null rest
    | 't' :: rest => word? ['r', 'u', 'e'] (.bool true) rest
    | 'f' :: rest => word? ['a', 'l', 's', 'e'] (.bool false) rest
    | rest => number? rest

-- Values up to the closing bracket.
def items? : Nat → List Char → Option (List Json × List Char)
  | 0, _ => none
  | fuel + 1, cs => do
    let (first, rest) ← value? fuel cs
    match skipBlanks rest with
    | ',' :: rest =>
      let (others, rest) ← items? fuel rest
      return (first :: others, rest)
    | ']' :: rest => return ([first], rest)
    | _ => none

-- Named values up to the closing brace.
def members? : Nat → List Char → Option (List (String × Json) × List Char)
  | 0, _ => none
  | fuel + 1, cs => do
    let '"' :: rest := skipBlanks cs | none
    let (name, rest) ← quoted? rest
    let ':' :: rest := skipBlanks rest | none
    let (value, rest) ← value? fuel rest
    match skipBlanks rest with
    | ',' :: rest =>
      let (others, rest) ← members? fuel rest
      return ((String.ofList name, value) :: others, rest)
    | '\x7d' :: rest => return ([(String.ofList name, value)], rest)
    | _ => none

end

end Reading

-- The value that a text writes, with nothing else around it but blanks.
def ofText? (s : String) : Option Json := do
  let cs := s.toList
  let (value, rest) ← Reading.value? (cs.length + 1) cs
  if (Reading.skipBlanks rest).isEmpty then some value else none

end Json

end Verdict
