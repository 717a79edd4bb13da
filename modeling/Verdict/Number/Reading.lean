import Verdict.Number.Binary64

namespace Verdict

-- ±digits · 10^exponent.
structure Decimal where
  negative : Bool
  digits : Nat
  exponent : Int
  deriving DecidableEq, Repr

namespace Decimal

-- The number that a run of decimal digits writes.
def ofDigits (cs : List Char) : Nat :=
  cs.foldl (fun n c => n * 10 + (c.toNat - '0'.toNat)) 0

-- A sign, if there is one, and what follows it.
def splitSign : List Char → Bool × List Char
  | '-' :: rest => (true, rest)
  | '+' :: rest => (false, rest)
  | rest => (false, rest)

-- The exponent that ends a number: nothing at all, or a mark, a sign and at least one digit.
def exponent? : List Char → Option Int
  | [] => some 0
  | mark :: rest =>
    if mark = 'e' ∨ mark = 'E' then
      let (negative, ds) := splitSign rest
      if ds ≠ [] ∧ ds.all Char.isDigit then
        some (if negative then -(ofDigits ds : Int) else ofDigits ds)
      else none
    else none

-- Digits with an optional point, at least one digit on either side of it, then the exponent.
def unsigned? (negative : Bool) (cs : List Char) : Option Decimal :=
  let whole := cs.takeWhile Char.isDigit
  let rest := cs.dropWhile Char.isDigit
  let (fraction, rest) := match rest with
    | '.' :: tail => (tail.takeWhile Char.isDigit, tail.dropWhile Char.isDigit)
    | _ => ([], rest)
  if whole = [] ∧ fraction = [] then none
  else (exponent? rest).map fun e => ⟨negative, ofDigits (whole ++ fraction), e - fraction.length⟩

def ofText? (s : String) : Option Decimal :=
  let (negative, cs) := splitSign s.toList
  unsigned? negative cs

-- A power of ten beyond this one makes any number of this many digits infinite or zero, so the
-- exact power need not be formed.
def reach : Int := 400

-- The number rounded to a format, as a double.
def round (format : Binary64.Format) (d : Decimal) : Binary64 :=
  let magnitude := d.exponent + (Nat.toDigits 10 d.digits).length
  if d.digits = 0 ∨ magnitude < -reach then .ofParts d.negative 0 0
  else if magnitude > reach then .infinite d.negative
  else
    let scaled := d.digits <<< 1074
    let parts :=
      if d.exponent < 0 then format.round scaled (Nat.pow 10 d.exponent.natAbs)
      else format.round (scaled * Nat.pow 10 d.exponent.natAbs) 1
    match parts with
    | some (mantissa, exponent) => .ofSpacings d.negative (mantissa <<< exponent) 1
    | none => .infinite d.negative

end Decimal

-- A number as text: a decimal, or a signed word for infinity or for no number, in any case.
def Binary64.ofText? (format : Format) (s : String) : Option Binary64 :=
  let (negative, cs) := Decimal.splitSign s.toList
  let word := cs.map Char.toLower
  if word = ['n', 'a', 'n'] then some .nan
  else if word = ['i', 'n', 'f'] ∨ word = ['i', 'n', 'f', 'i', 'n', 'i', 't', 'y'] then
    some (.infinite negative)
  else (Decimal.unsigned? negative cs).map (Decimal.round format)

end Verdict
