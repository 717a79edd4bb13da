namespace Verdict

namespace Binary64

-- A mantissa and exponent in normal form: below 2^53, and with its top bit set unless the
-- exponent is already the smallest. Each size then has one representation.
def Canonical (mantissa exponent : Nat) : Prop :=
  mantissa < 1 <<< 53 ∧ (exponent = 0 ∨ 1 <<< 52 ≤ mantissa) ∧ exponent ≤ 2045

instance (mantissa exponent : Nat) : Decidable (Canonical mantissa exponent) :=
  inferInstanceAs (Decidable (_ ∧ _ ∧ _))

end Binary64

-- Stands for ±mantissa · 2^exponent · 2^-1074 when finite, so that its size is a natural number of the smallest
-- spacings and every comparison is one between integers. One value stands for every NaN.
inductive Binary64 where
  | nan
  | infinite (negative : Bool)
  | finite (negative : Bool) (mantissa exponent : Nat)
      (canonical : Binary64.Canonical mantissa exponent)
  deriving DecidableEq

namespace Binary64

instance : Inhabited Binary64 := ⟨.nan⟩

-- Parts beyond the largest exponent are infinite.
def ofParts (negative : Bool) (mantissa exponent : Nat) : Binary64 :=
  if h : Canonical mantissa exponent then .finite negative mantissa exponent h
  else .infinite negative

-- The quotient to the nearest whole number, a half going to the even neighbour.
def nearestEven (numerator denominator : Nat) : Nat :=
  let quotient := numerator / denominator
  let twice := 2 * (numerator % denominator)
  if twice < denominator then quotient
  else if twice > denominator then quotient + 1
  else if quotient % 2 = 0 then quotient
  else quotient + 1

-- A binary floating point format: bits of the mantissa, and the least and greatest exponents,
-- counted from 2^-1074.
structure Format where
  precision : Nat
  minExponent : Nat
  maxExponent : Nat
  deriving DecidableEq, Repr

def Format.double : Format := ⟨53, 0, 2045⟩

def Format.single : Format := ⟨24, 925, 1178⟩

-- The mantissa and exponent of the format nearest to `numerator / denominator` spacings, or
-- nothing when that is beyond its largest value.
def Format.round (format : Format) (numerator denominator : Nat) : Option (Nat × Nat) :=
  let whole := numerator / denominator
  let bits := if whole = 0 then 0 else whole.log2 + 1
  let exponent := max format.minExponent (bits - format.precision)
  let mantissa := nearestEven numerator (denominator <<< exponent)
  -- rounding up may need one more bit
  let (mantissa, exponent) :=
    if mantissa = 1 <<< format.precision then (mantissa / 2, exponent + 1) else (mantissa, exponent)
  if exponent ≤ format.maxExponent then some (mantissa, exponent) else none

-- The double nearest to `numerator / denominator` spacings of 2^-1074.
def ofSpacings (negative : Bool) (numerator denominator : Nat) : Binary64 :=
  match Format.double.round numerator denominator with
  | some (mantissa, exponent) => ofParts negative mantissa exponent
  | none => .infinite negative

-- The double nearest to a whole number.
def ofInt (n : Int) : Binary64 :=
  ofSpacings (n < 0) (n.natAbs <<< 1074) 1

-- A finite double as a signed number of spacings; both zeros are 0.
def spacings (negative : Bool) (mantissa exponent : Nat) : Int :=
  let size : Nat := mantissa <<< exponent
  if negative then -size else size

-- The place of a double in the order: a class, then a number of spacings within it. A NaN has none.
def rank : Binary64 → Option (Int × Int)
  | .nan => none
  | .infinite negative => some (if negative then -1 else 1, 0)
  | .finite negative mantissa exponent _ => some (0, spacings negative mantissa exponent)

-- Numeric comparison: a NaN is ordered against nothing, and the two zeros are equal.
def compare (a b : Binary64) : Option Ordering :=
  match a.rank, b.rank with
  | some (p, m), some (q, n) => some ((Ord.compare p q).then (Ord.compare m n))
  | _, _ => none

end Binary64

end Verdict
