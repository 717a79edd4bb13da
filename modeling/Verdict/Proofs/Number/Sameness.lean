import Verdict.Value.Order
import Mathlib.Algebra.Order.Ring.Nat
import Mathlib.Data.Int.Order.Basic

namespace Verdict

namespace Binary64

theorem canonical_unique_of_le {m e m' e' : Nat} (hm : Canonical m e) (hm' : Canonical m' e')
    (hsize : m <<< e = m' <<< e') (hle : e ≤ e') : m = m' ∧ e = e' := by
  obtain ⟨k, rfl⟩ := Nat.exists_eq_add_of_le hle
  rw [Nat.shiftLeft_add, Nat.shiftLeft_eq, Nat.shiftLeft_eq _ k, Nat.shiftLeft_eq, Nat.mul_right_comm] at hsize
  have hmantissa : m = m' * 2 ^ k := Nat.eq_of_mul_eq_mul_right (Nat.two_pow_pos e) hsize
  cases k with
  | zero => exact ⟨by rw [hmantissa, Nat.pow_zero, Nat.mul_one], rfl⟩
  | succ k =>
    -- A mantissa with its top bit set has no room for one bit more.
    have hroom : m < 1 <<< 53 := hm.1
    have htop : 1 <<< 52 ≤ m' := hm'.2.1.resolve_left (Nat.succ_ne_zero _)
    have hbits : m' * 2 ≤ m := by
      rw [hmantissa, Nat.pow_succ, ← Nat.mul_assoc, Nat.mul_right_comm]
      exact Nat.le_mul_of_pos_right _ (Nat.two_pow_pos k)
    omega

-- Every size is written in one way.
theorem canonical_unique {m e m' e' : Nat} (hm : Canonical m e) (hm' : Canonical m' e')
    (hsize : m <<< e = m' <<< e') : m = m' ∧ e = e' := by
  rcases Nat.le_total e e' with hle | hle
  · exact canonical_unique_of_le hm hm' hsize hle
  · obtain ⟨hmantissa, hexponent⟩ := canonical_unique_of_le hm' hm hsize.symm hle
    exact ⟨hmantissa.symm, hexponent.symm⟩

theorem natAbs_spacings (negative : Bool) (m e : Nat) : (spacings negative m e).natAbs = m <<< e := by
  cases negative with
  | true => exact Int.natAbs_neg _
  | false => rfl

-- There are two of them, as zero has a sign.
def IsZero : Binary64 → Prop
  | .finite _ mantissa _ _ => mantissa = 0
  | _ => False

variable {x y : Binary64}

theorem compare_eq_eq_iff : x.compare y = some .eq ↔ ∃ place, x.rank = some place ∧ y.rank = some place := by
  rw [compare]
  cases x.rank with
  | none => simp
  | some p =>
    cases y.rank with
    | none => simp
    | some q =>
      simp only [Option.some_inj, Ordering.then_eq_eq, compare_eq_iff_eq]
      rw [← Prod.ext_iff]
      exact ⟨fun heq => ⟨p, rfl, heq.symm⟩, fun ⟨_, hp, hq⟩ => hp.trans hq.symm⟩

theorem rank_eq_zero_iff : x.rank = some (0, 0) ↔ x.IsZero := by
  cases x with
  | nan => exact iff_of_false nofun id
  | infinite negative => cases negative <;> exact iff_of_false nofun id
  | finite negative m e hm =>
    have hsize : m <<< e = 0 ↔ m = 0 := by
      rw [Nat.shiftLeft_eq, Nat.mul_eq_zero, or_iff_left (Nat.two_pow_pos e).ne']
    simp only [rank, spacings, Option.some_inj, Prod.mk.injEq, true_and, IsZero, ← hsize]
    cases negative <;> simp

-- Only the two zeros share their place with each other.
theorem eq_of_rank_eq {place : Int × Int} (hx : x.rank = some place) (hy : y.rank = some place)
    (hplace : place ≠ (0, 0)) : x = y := by
  cases x with
  | nan => cases hx
  | infinite b =>
    cases y with
    | nan => cases hy
    | infinite c => cases b <;> cases c <;> first | rfl | cases hx.trans hy.symm
    | finite => cases b <;> cases hx.trans hy.symm
  | finite b m e hm =>
    cases y with
    | nan => cases hy
    | infinite c => cases c <;> cases hx.trans hy.symm
    | finite c m' e' hm' =>
      cases hx
      have hspacings : spacings c m' e' = spacings b m e := (Prod.mk.inj (Option.some_inj.1 hy)).2
      have hsize : m <<< e = m' <<< e' := by
        rw [← natAbs_spacings b, ← natAbs_spacings c, hspacings]
      obtain ⟨rfl, rfl⟩ := canonical_unique hm hm' hsize
      have hpositive : m <<< e ≠ 0 := by
        intro hzero
        refine hplace (Prod.ext rfl ?_)
        cases b <;> simp [spacings, hzero]
      have hsign : b = c := by
        by_contra hne
        obtain rfl := Bool.eq_not.2 (Ne.symm hne)
        cases b <;> simp only [spacings, Bool.not_true, Bool.not_false, if_true, if_false,
          Bool.false_eq_true] at hspacings <;> omega
      rw [hsign]

theorem compare_eq_eq_iff_same : x.compare y = some .eq ↔ x ≠ .nan ∧ x = y ∨ x.IsZero ∧ y.IsZero := by
  rw [compare_eq_eq_iff]
  constructor
  · rintro ⟨place, hx, hy⟩
    by_cases hplace : place = (0, 0)
    · rw [hplace] at hx hy
      exact .inr ⟨rank_eq_zero_iff.1 hx, rank_eq_zero_iff.1 hy⟩
    · refine .inl ⟨?_, eq_of_rank_eq hx hy hplace⟩
      rintro rfl
      cases hx
  · rintro (⟨hx, rfl⟩ | ⟨hx, hy⟩)
    · cases x with
      | nan => exact absurd rfl hx
      | infinite | finite => exact ⟨_, rfl, rfl⟩
    · exact ⟨(0, 0), rank_eq_zero_iff.2 hx, rank_eq_zero_iff.2 hy⟩

end Binary64

namespace Number

-- Numeric equality. A whole number stands for the double nearest to it beside a double.
inductive Same : Number → Number → Prop where
  | whole {n : Int} : Same (.whole n) (.whole n)
  | real {x : Binary64} (hx : x ≠ .nan) : Same (.real x) (.real x)
  | zeros {x y : Binary64} (hx : x.IsZero) (hy : y.IsZero) : Same (.real x) (.real y)
  | wholeReal {n : Int} {x : Binary64} (hsame : Same (.real (.ofInt n)) (.real x)) :
    Same (.whole n) (.real x)
  | realWhole {x : Binary64} {n : Int} (hsame : Same (.real x) (.real (.ofInt n))) :
    Same (.real x) (.whole n)

theorem Same.symm {x y : Number} (hsame : x.Same y) : y.Same x := by
  induction hsame with
  | whole => exact .whole
  | real hx => exact .real hx
  | zeros hx hy => exact .zeros hy hx
  | wholeReal _ ih => exact .realWhole ih
  | realWhole _ ih => exact .wholeReal ih

theorem same_real_iff {x y : Binary64} :
    Same (.real x) (.real y) ↔ x ≠ .nan ∧ x = y ∨ x.IsZero ∧ y.IsZero := by
  constructor
  · intro hsame
    cases hsame with
    | real hx => exact .inl ⟨hx, rfl⟩
    | zeros hx hy => exact .inr ⟨hx, hy⟩
  · rintro (⟨hx, rfl⟩ | ⟨hx, hy⟩)
    · exact .real hx
    · exact .zeros hx hy

theorem compare_eq_eq_iff_same {x y : Number} : x.compare y = some .eq ↔ x.Same y := by
  have hreal (u v : Binary64) : u.compare v = some .eq ↔ Same (.real u) (.real v) :=
    Binary64.compare_eq_eq_iff_same.trans same_real_iff.symm
  cases x with
  | whole m =>
    cases y with
    | whole n =>
      rw [compare, Option.some_inj, compare_eq_iff_eq]
      exact ⟨fun heq => heq ▸ .whole, fun hsame => by cases hsame; rfl⟩
    | real y => exact (hreal _ y).trans ⟨.wholeReal, fun hsame => by cases hsame; assumption⟩
  | real x =>
    cases y with
    | whole n => exact (hreal x _).trans ⟨.realWhole, fun hsame => by cases hsame; assumption⟩
    | real y => exact hreal x y

end Number

end Verdict
