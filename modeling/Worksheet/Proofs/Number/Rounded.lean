/-
  How far rounding can go. A result is rounded by shifting its mantissa to 53 bits, and once more
  if it was rounded up to 54. So the exponent of the result is at most one higher than the one at
  which the exact result has 53 bits, and what stays below 2^1023 is finite
  (`isFinite_pack_round`).
-/
import Worksheet.Proofs.Number.Canonical

namespace Worksheet.Number

open Float.Model UnpackedFloat

/-! ## Shifts -/

theorem targetExponent_eq (t : Int) :
    Format.binary64.targetExponent t = max (t - 53) (-1074) := rfl

theorem mantissa_shiftRight (em : ExtendedMantissa) (n : Nat) :
    (em >>> n).mantissa = em.mantissa / 2 ^ n := by
  show (n.repeat ExtendedMantissa.shiftRightOne em).mantissa = _
  induction n with
  | zero => exact (Nat.div_one _).symm
  | succ n ih =>
    rw [Nat.pow_succ, ← Nat.div_div_eq_div_mul, ← ih]
    rfl

theorem mantissa_ofMantissaAndAccuracy (m : Nat) (acc : Accuracy) :
    (ExtendedMantissa.ofMantissaAndAccuracy m acc).mantissa = m := by
  cases acc with
  | exact => rfl
  | inexact o => cases o <;> rfl

theorem roundedMantissa_le (em : ExtendedMantissa) : em.roundedMantissa ≤ em.mantissa + 1 := by
  unfold ExtendedMantissa.roundedMantissa Accuracy.roundToNearestEven
  split <;> omega

theorem log2_le_of_le_div {m r k : Nat} (h : r ≤ m / 2 ^ k + 1) : r.log2 ≤ m.log2 + 1 - k := by
  have below : m < 2 ^ (m.log2 + 1) := Nat.lt_log2_self
  have bound : r ≤ 2 ^ (m.log2 + 1 - k) := by
    by_cases hk : k ≤ m.log2 + 1
    · have split : 2 ^ (m.log2 + 1) = 2 ^ (m.log2 + 1 - k) * 2 ^ k := by
        rw [← Nat.pow_add, Nat.sub_add_cancel hk]
      have quotient : m / 2 ^ k < 2 ^ (m.log2 + 1 - k) := by
        rw [Nat.div_lt_iff_lt_mul (Nat.two_pow_pos k), ← split]
        exact below
      omega
    · have small : m < 2 ^ k := Nat.lt_trans below (Nat.pow_lt_pow_right (by decide) (by omega))
      rw [Nat.div_eq_of_lt small] at h
      exact Nat.le_trans h (Nat.two_pow_pos _)
  by_cases zero : r = 0
  · subst zero
    exact Nat.zero_le _
  · exact (Nat.pow_le_pow_iff_right (by decide)).1 (Nat.le_trans (Nat.log2_self_le zero) bound)

theorem log2_shiftLeft {m : Nat} (h : m ≠ 0) (k : Nat) : (m <<< k).log2 = m.log2 + k := by
  induction k with
  | zero => rfl
  | succ k ih =>
    have nonzero : m <<< k ≠ 0 := by
      rw [Nat.shiftLeft_eq]
      exact Nat.mul_ne_zero h (Nat.ne_of_gt (Nat.two_pow_pos k))
    rw [Nat.shiftLeft_succ, Nat.log2_two_mul nonzero, ih]
    rfl

/-! ## Rounding -/

/-- The mantissa and the exponent that rounding gives. A mantissa that is rounded up may get one bit
    too many, so the shift is made a second time. -/
def rounding (m : Nat) (e : Int) (acc : Accuracy) : Nat × Int :=
  let first := shiftToTargetExponent Format.binary64 m e acc
  let second := shiftToTargetExponent Format.binary64 first.1.roundedMantissa first.2 .exact
  (second.1.mantissa, second.2)

theorem roundWithAccuracy_of_zero {sign : Sign} {m : Nat} {e : Int} {acc : Accuracy}
    (zero : (rounding m e acc).1 = 0) :
    roundWithAccuracy Format.binary64 sign m e acc = .zero sign :=
  dif_pos zero

theorem roundWithAccuracy_of_pos {sign : Sign} {m : Nat} {e : Int} {acc : Accuracy}
    (pos : 0 < (rounding m e acc).1) : roundWithAccuracy Format.binary64 sign m e acc =
      .finite sign (rounding m e acc).1 (rounding m e acc).2 pos :=
  dif_neg (Nat.ne_of_gt pos)

/-- The exponent after rounding, from the position of the first digit. -/
theorem exponent_rounding_le {m : Nat} {e t : Int} {acc : Accuracy}
    (first : totalExponent m e ≤ t) (exponent : e ≤ t - 53) (notLow : -1021 ≤ t) :
    (rounding m e acc).2 ≤ t - 52 := by
  unfold rounding shiftToTargetExponent shiftToExponent
  simp only [targetExponent_eq]
  -- The first shift brings the mantissa to 53 bits, and rounding may add one bit again.
  generalize hk : (max (totalExponent m e - 53) (-1074) - e).toNat = k
  generalize hr : (ExtendedMantissa.ofMantissaAndAccuracy m acc >>> k).roundedMantissa = r
  have bits : r.log2 ≤ m.log2 + 1 - k := by
    refine log2_le_of_le_div ?_
    rw [← hr, ← mantissa_ofMantissaAndAccuracy m acc, ← mantissa_shiftRight,
      mantissa_ofMantissaAndAccuracy]
    exact roundedMantissa_le _
  unfold totalExponent at *
  omega

/-- Below 2^1023 a rounded result is finite. -/
theorem isFinite_pack_roundWithAccuracy {sign : Sign} {m : Nat} {e : Int} {acc : Accuracy}
    (first : totalExponent m e ≤ 1023) (exponent : e ≤ 970) :
    (pack (roundWithAccuracy Format.binary64 sign m e acc)).unpack.isFinite = true := by
  rcases Nat.eq_zero_or_pos (rounding m e acc).1 with zero | pos
  · rw [roundWithAccuracy_of_zero zero, unpack_pack (u := .zero sign) trivial]
    rfl
  · rw [roundWithAccuracy_of_pos pos]
    exact isFinite_pack_finite pos (exponent_rounding_le first exponent (by decide))

theorem isFinite_pack_round {sign : Sign} {m : Nat} {e : Int} (pos : 0 < m)
    (first : totalExponent m e ≤ 1023) :
    (pack (UnpackedFloat.round Format.binary64 sign m e)).unpack.isFinite = true := by
  unfold UnpackedFloat.round decreaseExponent
  simp only [targetExponent_eq]
  refine isFinite_pack_roundWithAccuracy ?_ (by omega)
  unfold totalExponent at *
  rw [log2_shiftLeft (Nat.ne_of_gt pos)]
  omega

theorem isFinite_pack_normalize {m e : Int} {sign : Sign}
    (first : totalExponent m.natAbs e ≤ 1023) :
    (pack (UnpackedFloat.normalize Format.binary64 m e sign)).unpack.isFinite = true := by
  unfold UnpackedFloat.normalize
  split
  · next negative =>
    rw [Int.compare_eq_lt] at negative
    have size : (-m).toNat = m.natAbs := by omega
    rw [size]
    exact isFinite_pack_round (by omega) first
  · rw [unpack_pack (u := .zero sign) trivial]
    rfl
  · next positive =>
    rw [Int.compare_eq_gt] at positive
    have size : m.toNat = m.natAbs := by omega
    rw [size]
    exact isFinite_pack_round (by omega) first

end Worksheet.Number
