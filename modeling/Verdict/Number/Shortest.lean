import Verdict.Number.Binary64

namespace Verdict

namespace Binary64

-- An open or closed interval of reals in units of 2^-1076, and the point it is drawn around.
structure Neighbourhood where
  low : Nat
  value : Nat
  high : Nat
  closed : Bool
  deriving DecidableEq, Repr

-- The reals that round to the double: halfway to each neighbour, ends included iff the mantissa is
-- even. Below a power of two the doubles lie twice as dense.
def neighbourhood (mantissa exponent : Nat) : Neighbourhood :=
  let below := if mantissa = 1 <<< 52 ∧ exponent ≠ 0 then 1 else 2
  ⟨(4 * mantissa - below) <<< exponent, (4 * mantissa) <<< exponent, (4 * mantissa + 2) <<< exponent,
    mantissa % 2 = 0⟩

-- A point of the decimal grid: digits · 10^exponent.
structure GridPoint where
  digits : Nat
  exponent : Int
  deriving DecidableEq, Repr

-- The two sides of `digits · 10^exponent` against a number of units of 2^-1076, over one denominator.
def GridPoint.scaled (p : GridPoint) (units : Nat) : Nat × Nat :=
  let power := Nat.pow 10 p.exponent.natAbs
  if p.exponent < 0 then (p.digits <<< 1076, units * power)
  else ((p.digits * power) <<< 1076, units)

def Neighbourhood.contains (n : Neighbourhood) (p : GridPoint) : Bool :=
  let (point, low) := p.scaled n.low
  let (_, high) := p.scaled n.high
  if n.closed then low ≤ point && point ≤ high else low < point && point < high

-- The grid points next below and next above the value on the grid of the given exponent.
def Neighbourhood.onGrid (n : Neighbourhood) (exponent : Int) : GridPoint × GridPoint :=
  let power := Nat.pow 10 exponent.natAbs
  let digits :=
    if exponent < 0 then (n.value * power) >>> 1076 else (n.value / power) >>> 1076
  (⟨digits, exponent⟩, ⟨digits + 1, exponent⟩)

-- The nearer of the two grid points that reads back, on this grid.
def Neighbourhood.pick? (n : Neighbourhood) (exponent : Int) : Option GridPoint :=
  let (below, above) := n.onGrid exponent
  match n.contains below, n.contains above with
  | true, true =>
    let (point, value) := below.scaled n.value
    let (next, _) := above.scaled n.value
    if value - point < next - value then some below else some above
  | true, false => some below
  | false, true => some above
  | false, false => none

-- Seventeen digits always suffice, so some grid of the first seventeen has a point.
def Neighbourhood.shortest (n : Neighbourhood) (leading : Int) : GridPoint :=
  match (List.range 17).findSome? fun (k : Nat) => n.pick? (leading - k) with
  | some p => p
  | none => (n.onGrid (leading - 16)).1

-- The place of the first digit of a number of units of 2^-1076, counted down from a place at or
-- above it.
def leadingPlace (units : Nat) : Nat → Int → Int
  | 0, place => place
  | steps + 1, place =>
    if units * Nat.pow 10 (-place).toNat ≥ Nat.pow 10 place.toNat <<< 1076 then place
    else leadingPlace units steps (place - 1)

-- Digits without trailing zeros, and the place of the decimal point behind the first digit.
def shortestDigits (mantissa exponent : Nat) : List Char × Int :=
  let n := neighbourhood mantissa exponent
  -- log10 2 < 0.30103, so this place is at or just above the first digit's
  let bits : Int := (n.value.log2 : Int) - 1076
  let estimate : Int := bits * 30103 / 100000 + 1
  let p := n.shortest (leadingPlace n.value 4 estimate)
  let text := Nat.toDigits 10 p.digits
  let significant := (text.reverse.dropWhile (· = '0')).reverse
  (significant, p.exponent + text.length - 1)

-- Digits with their first one at the given power of ten, written positionally.
def positional (digits : List Char) (place : Int) : List Char :=
  if place < 0 then '0' :: '.' :: (List.replicate (place.natAbs - 1) '0' ++ digits)
  else
    let whole := digits.take (place.toNat + 1)
    let fraction := digits.drop (place.toNat + 1)
    whole ++ List.replicate (place.toNat + 1 - whole.length) '0' ++
      '.' :: (if fraction = [] then ['0'] else fraction)

-- Digits with one of them before the point and the power of ten behind.
def scientific (digits : List Char) (place : Int) : List Char :=
  let fraction := digits.drop 1
  digits.take 1 ++ (if fraction = [] then [] else '.' :: fraction) ++ 'e' :: (toString place).toList

-- The fewest decimal digits that read back as the same double, positional from 10^-4 up to but not including
-- 10^16, and with an exponent outside.
def text : Binary64 → String
  | .nan => "NaN"
  | .infinite negative => if negative then "-inf" else "inf"
  | .finite negative mantissa exponent _ =>
    let magnitude :=
      if mantissa = 0 then ['0', '.', '0']
      else
        let (digits, place) := shortestDigits mantissa exponent
        if -4 ≤ place ∧ place < 16 then positional digits place else scientific digits place
    String.ofList (if negative then '-' :: magnitude else magnitude)

end Binary64

end Verdict
