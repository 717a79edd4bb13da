import Verdict.Number.Binary64
import Mathlib.Algebra.Order.Ring.Nat
import Mathlib.Data.Int.Order.Basic

namespace Verdict

namespace Binary64

section

variable {a b d : Nat}

theorem div_le_nearestEven (a d : Nat) : a / d ≤ nearestEven a d := by
  simp only [nearestEven]
  split_ifs <;> omega

theorem nearestEven_le_div_add_one (a d : Nat) : nearestEven a d ≤ a / d + 1 := by
  simp only [nearestEven]
  split_ifs <;> omega

theorem nearestEven_mono (d : Nat) (hab : a ≤ b) : nearestEven a d ≤ nearestEven b d := by
  have hdiv : a / d ≤ b / d := Nat.div_le_div_right hab
  by_cases heq : a / d = b / d
  · -- within one unit the remainder decides
    have hmod : a % d ≤ b % d := by
      have ha := Nat.div_add_mod a d
      have hb := Nat.div_add_mod b d
      rw [heq] at ha
      omega
    simp only [nearestEven, heq]
    split_ifs <;> omega
  · have ha := nearestEven_le_div_add_one a d
    have hb := div_le_nearestEven b d
    omega

theorem nearestEven_mul (q : Nat) (hd : 0 < d) : nearestEven (q * d) d = q := by
  simp [nearestEven, Nat.mul_div_cancel q hd, hd]

end

-- How many of the bits of a number of spacings have no room in a mantissa.
def excess (n : Nat) : Nat := (if n = 0 then 0 else n.log2 + 1) - 53

-- The mantissa for them, before a carry into one more bit.
def rounded (n : Nat) : Nat := nearestEven n (2 ^ excess n)

-- The number of spacings that comes out.
def roundedSize (n : Nat) : Nat := rounded n * 2 ^ excess n

theorem lt_two_pow_excess (n : Nat) : n < 2 ^ 53 * 2 ^ excess n := by
  rw [← Nat.pow_add]
  by_cases hn : n = 0
  · subst hn
    exact Nat.two_pow_pos _
  · refine (Nat.lt_log2_self (n := n)).trans_le (Nat.pow_le_pow_right Nat.two_pos ?_)
    rw [excess, if_neg hn]
    omega

theorem two_pow_le_of_excess {n : Nat} (hn : excess n ≠ 0) : 2 ^ 52 * 2 ^ excess n ≤ n := by
  have hpos : n ≠ 0 := by
    rintro rfl
    exact hn rfl
  rw [← Nat.pow_add]
  refine (Nat.pow_le_pow_right Nat.two_pos ?_).trans (Nat.log2_self_le hpos)
  rw [excess, if_neg hpos] at hn ⊢
  omega

theorem excess_mono {m n : Nat} (hmn : m ≤ n) : excess m ≤ excess n := by
  by_contra hlt
  have hm := two_pow_le_of_excess (n := m) (by omega)
  have hn := lt_two_pow_excess n
  have hpow : 2 ^ 53 * 2 ^ excess n ≤ 2 ^ 52 * 2 ^ excess m := by
    rw [← Nat.pow_add, ← Nat.pow_add]
    exact Nat.pow_le_pow_right Nat.two_pos (by omega)
  omega

theorem rounded_le (n : Nat) : rounded n ≤ 2 ^ 53 := by
  have hle := nearestEven_mono (2 ^ excess n) (lt_two_pow_excess n).le
  rwa [nearestEven_mul _ (Nat.two_pow_pos _)] at hle

theorem le_rounded {n : Nat} (hn : excess n ≠ 0) : 2 ^ 52 ≤ rounded n := by
  have hle := nearestEven_mono (2 ^ excess n) (two_pow_le_of_excess hn)
  rwa [nearestEven_mul _ (Nat.two_pow_pos _)] at hle

theorem roundedSize_mono {m n : Nat} (hmn : m ≤ n) : roundedSize m ≤ roundedSize n := by
  rcases Nat.eq_or_lt_of_le (excess_mono hmn) with heq | hlt
  · rw [roundedSize, roundedSize, rounded, rounded, heq]
    exact Nat.mul_le_mul_right _ (nearestEven_mono _ hmn)
  · -- a power of two lies between numbers of different lengths
    calc roundedSize m ≤ 2 ^ 53 * 2 ^ excess m := Nat.mul_le_mul_right _ (rounded_le m)
      _ ≤ 2 ^ 52 * 2 ^ excess n := by
        rw [← Nat.pow_add, ← Nat.pow_add]
        exact Nat.pow_le_pow_right Nat.two_pos (by omega)
      _ ≤ roundedSize n := Nat.mul_le_mul_right _ (le_rounded (by omega))

-- The exponent that comes out, after a carry.
def roundedExponent (n : Nat) : Nat := if rounded n = 2 ^ 53 then excess n + 1 else excess n

theorem roundedExponent_mono {m n : Nat} (hmn : m ≤ n) : roundedExponent m ≤ roundedExponent n := by
  have hn := rounded_le n
  rcases Nat.eq_or_lt_of_le (excess_mono hmn) with heq | hlt
  · have hle : rounded m ≤ rounded n := by
      rw [rounded, rounded, heq]
      exact nearestEven_mono _ hmn
    rw [roundedExponent, roundedExponent, heq]
    split_ifs <;> omega
  · rw [roundedExponent, roundedExponent]
    split_ifs <;> omega

-- The mantissa and exponent that come out stand for the rounded number, unless it has no double.
theorem exists_parts (n : Nat) : ∃ mantissa, mantissa * 2 ^ roundedExponent n = roundedSize n ∧
    mantissa < 2 ^ 53 ∧ (roundedExponent n = 0 ∨ 2 ^ 52 ≤ mantissa) ∧
    Format.double.round n 1 =
      if roundedExponent n ≤ 2045 then some (mantissa, roundedExponent n) else none := by
  have hexponent : max 0 ((if n = 0 then 0 else n.log2 + 1) - 53) = excess n := Nat.zero_max _
  have hle := rounded_le n
  by_cases hcarry : rounded n = 2 ^ 53
  · have hcarried : roundedExponent n = excess n + 1 := if_pos hcarry
    refine ⟨2 ^ 52, ?_, by omega, by omega, ?_⟩
    · rw [roundedSize, hcarry, hcarried, ← Nat.pow_add, ← Nat.pow_add, ← Nat.add_assoc,
        Nat.add_right_comm]
    · simp only [Format.round, Format.double, Nat.div_one, hexponent, Nat.shiftLeft_eq, Nat.one_mul]
      rw [← rounded, if_pos hcarry, hcarry, hcarried]
      rfl
  · have hkept : roundedExponent n = excess n := if_neg hcarry
    refine ⟨rounded n, by rw [hkept, roundedSize], by omega, ?_, ?_⟩
    · rw [hkept]
      by_cases hexcess : excess n = 0
      · exact .inl hexcess
      · exact .inr (le_rounded hexcess)
    · simp only [Format.round, Format.double, Nat.div_one, hexponent, Nat.shiftLeft_eq, Nat.one_mul]
      rw [← rounded, if_neg hcarry, hkept]

-- The place in the order of doubles of a number of spacings below zero or above. The largest sizes
-- have no double and go beyond all others.
def roundedPlace (negative : Bool) (n : Nat) : Int × Int :=
  if roundedExponent n ≤ 2045 then (0, if negative then -(roundedSize n : Int) else roundedSize n)
  else (if negative then -1 else 1, 0)

theorem rank_ofSpacings (negative : Bool) (n : Nat) :
    (ofSpacings negative n 1).rank = some (roundedPlace negative n) := by
  obtain ⟨mantissa, hsize, hm, hnormal, hround⟩ := exists_parts n
  unfold ofSpacings
  rw [hround, roundedPlace]
  by_cases hexponent : roundedExponent n ≤ 2045
  · have hcanonical : Canonical mantissa (roundedExponent n) := by
      rw [Canonical, Nat.one_shiftLeft, Nat.one_shiftLeft]
      exact ⟨hm, hnormal, hexponent⟩
    rw [if_pos hexponent, if_pos hexponent]
    simp only [ofParts, dif_pos hcanonical, rank, spacings, Nat.shiftLeft_eq, hsize]
  · rw [if_neg hexponent, if_neg hexponent]
    rfl

-- The place of a whole number after rounding.
def wholePlace (n : Int) : Int × Int := roundedPlace (n < 0) (n.natAbs <<< 1074)

theorem rank_ofInt (n : Int) : (ofInt n).rank = some (wholePlace n) := rank_ofSpacings _ _

theorem shiftLeft_mono {a b : Nat} (k : Nat) (hab : a ≤ b) : a <<< k ≤ b <<< k := by
  rw [Nat.shiftLeft_eq, Nat.shiftLeft_eq]
  exact Nat.mul_le_mul_right _ hab

-- By cases on the signs; below zero the larger size comes first.
theorem wholePlace_mono {m n : Int} (hmn : m ≤ n) :
    (wholePlace m).1 < (wholePlace n).1 ∨
      (wholePlace m).1 = (wholePlace n).1 ∧ (wholePlace m).2 ≤ (wholePlace n).2 := by
  unfold wholePlace roundedPlace
  by_cases hm : m < 0
  · by_cases hn : n < 0
    · have hsize := shiftLeft_mono 1074 (show n.natAbs ≤ m.natAbs by omega)
      have hexponent := roundedExponent_mono hsize
      have hrounded := roundedSize_mono hsize
      simp only [hm, hn, decide_true, if_true]
      split_ifs <;> dsimp only <;> omega
    · simp only [hm, hn, decide_true, decide_false, if_true, Bool.false_eq_true, if_false]
      split_ifs <;> dsimp only <;> omega
  · have hn : ¬n < 0 := by omega
    have hsize := shiftLeft_mono 1074 (show m.natAbs ≤ n.natAbs by omega)
    have hexponent := roundedExponent_mono hsize
    have hrounded := roundedSize_mono hsize
    simp only [hm, hn, decide_false, Bool.false_eq_true, if_false]
    split_ifs <;> dsimp only <;> omega

end Binary64

end Verdict
