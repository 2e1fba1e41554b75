/-
  Truncation takes from the size of a number what its division by the size of 1 leaves over
  (`size_truncate`). The detour over an integer of 64 bits is exact, because only numbers of less
  than 53 bits take it, and all others are whole. The sign is put back from the sign bit, which is
  the sign of the size (`size_eq`).
-/
import Worksheet.Proofs.Decimal.Unsigned
import Worksheet.Proofs.Number.Size

namespace Worksheet.Number

open Float.Model UnpackedFloat

/-! ## The sign bit -/

theorem exists_extent_ofFields (sign : Sign) (e : BitVec 11) (m : BitVec 52) :
    ∃ n : Nat, extent (ofFields sign e m) = sign.apply n := by
  have zero : ∃ n : Nat, (0 : Int) = sign.apply n := ⟨0, by cases sign <;> rfl⟩
  refine ofFields_cases sign e m (fun _ => ⟨beyond, rfl⟩) (fun _ => zero) zero ?_
  intros
  exact ⟨_, rfl⟩

theorem ofBitVec_unpackSign (b : BitVec Format.binary64.numBits) :
    Sign.ofBitVec (unpackSign b) = if b.toNat < Nat.pow 2 63 then .positive else .negative := by
  have bound : b.toNat < 18446744073709551616 := b.isLt
  have bit : (unpackSign b).toNat = b.toNat / 9223372036854775808 := by
    unfold unpackSign
    rw [BitVec.toNat_cast, BitVec.extractLsb_toNat]
    show b.toNat >>> 63 % 2 = _
    rw [Nat.shiftRight_eq_div_pow]
    omega
  show (if unpackSign b = 0#1 then Sign.positive else .negative) =
    if b.toNat < 9223372036854775808 then .positive else .negative
  have positive : unpackSign b = 0#1 ↔ b.toNat < 9223372036854775808 := by
    rw [← BitVec.toNat_inj, bit]
    show _ = 0 ↔ _
    omega
  simp only [positive]

/-- The sign bit is the sign of the size. -/
theorem size_eq (x : Float) :
    size x =
      if x.toBits.toNat < Nat.pow 2 63 then ((size x).natAbs : Int) else -(size x).natAbs := by
  have signed (b : BitVec Format.binary64.numBits) :
      ∃ n : Nat, extent (unpack Format.binary64 b) = (Sign.ofBitVec (unpackSign b)).apply n :=
    exists_extent_ofFields _ _ _
  obtain ⟨n, hn⟩ := signed x.toModel.toBits.toBitVec
  rw [ofBitVec_unpackSign] at hn
  change size x =
    Sign.apply (if x.toBits.toNat < Nat.pow 2 63 then .positive else .negative) n at hn
  split at hn
  · next positive =>
    change size x = n at hn
    rw [if_pos positive, hn, Int.natAbs_natCast]
  · next negative =>
    change size x = -n at hn
    rw [if_neg negative, hn, Int.natAbs_neg, Int.natAbs_natCast]

theorem size_withSignOf (m x : Float) :
    size (withSignOf m x) =
      if x.toBits.toNat < Nat.pow 2 63 then ((size m).natAbs : Int) else -(size m).natAbs := by
  unfold withSignOf
  split
  · exact size_abs m
  · rw [size_neg, size_abs]

/-! ## Truncation -/

theorem size_wholeFrom : size wholeFrom = (2 * normalFrom * unit : Nat) := by decide +kernel

theorem unit_dvd_scaled {e : Int} (m : Nat) (h : 0 ≤ e) : unit ∣ scaled m e := by
  have exponents : (e + 1074).toNat = (0 + 1074 : Int).toNat + e.toNat := by omega
  rw [unit, scaled_eq, scaled_eq, exponents, Nat.pow_add, Nat.one_mul]
  exact Nat.dvd_mul_left_of_dvd (Nat.dvd_mul_right _ _) m

/-- From 2^53 on a number is whole. -/
theorem unit_dvd_size {x : Float} (h : ¬ (size x).natAbs < 2 * normalFrom * unit) :
    unit ∣ (size x).natAbs := by
  have canonical := canonical_unpack x
  unfold size at *
  cases hu : x.toModel.unpack with
  | finite s m e pos =>
    rw [hu] at h canonical
    rw [extent_finite, natAbs_apply] at h ⊢
    refine unit_dvd_scaled m (Int.not_lt.1 fun negative => h ?_)
    rw [unit, scaled_eq, scaled_eq, Nat.one_mul]
    exact Nat.mul_lt_mul_of_lt_of_le canonical.below
      (Nat.pow_le_pow_right (by decide) (by omega)) (Nat.two_pow_pos _)
  | infinity s =>
    rw [extent_infinity, natAbs_apply]
    exact unit_dvd_scaled 1 (by decide)
  | zero s => exact Nat.dvd_zero _
  | notANumber => exact Nat.dvd_zero _

/-- Truncation takes the fraction away and leaves the rest. -/
theorem size_truncate {x : Float} (h : x.isNaN = false) : size (truncate x) = whole x * unit := by
  have below : x.abs < wholeFrom ↔ (size x).natAbs < 2 * normalFrom * unit := by
    rw [lt_iff_size_lt ((isNaN_abs x).trans h) (by decide), size_abs, size_wholeFrom]
    omega
  have dvd := @unit_dvd_size x
  have signed := size_eq x
  have abs := size_abs x
  unfold truncate whole
  generalize (size x).natAbs = n at below dvd signed abs
  split
  · next small =>
    rw [below] at small
    have quotient : n / unit < 2 * normalFrom := (Nat.div_lt_iff_lt_mul unit_pos).2 small
    have bound : 2 * normalFrom ≤ Nat.pow 2 64 - 1 := by decide
    have integer : x.abs.toUInt64.toNat = n / unit := by
      rw [toNat_toUInt64, whole, abs, Int.natCast_tdiv_eq_ediv, ← Int.natCast_ediv,
        Int.toNat_natCast]
      omega
    rw [size_withSignOf, size_toFloat (integer ▸ quotient), integer, ← Int.natCast_mul,
      Int.natAbs_natCast, signed]
    split
    · rw [Int.natCast_tdiv_eq_ediv, Int.natCast_mul, Int.natCast_ediv]
    · rw [Int.neg_tdiv, Int.natCast_tdiv_eq_ediv, Int.natCast_mul, Int.natCast_ediv, Int.neg_mul]
  · next large =>
    rw [below] at large
    have exact : n / unit * unit = n := Nat.div_mul_cancel (dvd large)
    rw [signed]
    split
    · rw [Int.natCast_tdiv_eq_ediv, ← Int.natCast_ediv, ← Int.natCast_mul, exact]
    · rw [Int.neg_tdiv, Int.natCast_tdiv_eq_ediv, ← Int.natCast_ediv, Int.neg_mul,
        ← Int.natCast_mul, exact]

/-! ## Positions -/

theorem size_one : size 1.0 = (unit : Int) := by decide +kernel

/-- A position that is not below 1 is at least 1. -/
theorem one_le_whole {x : Float} (h : x.isNaN = false) (notBelow : ¬ x < 1.0) : 1 ≤ whole x := by
  rw [lt_iff_size_lt h (by decide), size_one, Int.not_lt] at notBelow
  have pos : (0 : Int) < unit := Int.natCast_pos.2 unit_pos
  unfold whole
  rw [Int.tdiv_eq_ediv_of_nonneg (by omega), Int.le_ediv_iff_mul_le pos]
  omega

theorem one_le_toNatClamped {x : Float} (h : x.isNaN = false) (notBelow : ¬ x < 1.0) :
    1 ≤ toNatClamped x := by
  have positive := one_le_whole h notBelow
  have large : 1 ≤ Nat.pow 2 64 - 1 := by decide
  unfold toNatClamped
  rw [toNat_toUInt64]
  omega

theorem isNaN_ofCount (n : Nat) : (ofCount n).isNaN = false :=
  Decimal.isNaN_of_isFinite (isFinite_toFloat _)

theorem size_ofCount {n : Nat} (h : n < 2 * normalFrom) : size (ofCount n) = n * unit := by
  have bound : 2 * normalFrom < Nat.pow 2 64 := by decide
  have exact : n.toUInt64.toNat = n := UInt64.toNat_ofNat_of_lt' (Nat.lt_trans h bound)
  unfold ofCount
  rw [size_toFloat (exact.symm ▸ h), exact]

/-- A position that is not above a count is at most that count. -/
theorem whole_le {x : Float} {n : Nat} (h : x.isNaN = false) (bound : n < 2 * normalFrom)
    (notAbove : ¬ ofCount n < x) : whole x ≤ n := by
  rw [lt_iff_size_lt (isNaN_ofCount n) h, size_ofCount bound, Int.not_lt] at notAbove
  have pos : (0 : Int) < unit := Int.natCast_pos.2 unit_pos
  unfold whole
  by_cases negative : size x < 0
  · obtain ⟨k, hk⟩ := Int.eq_ofNat_of_zero_le (Int.neg_nonneg.2 (Int.le_of_lt negative))
    have quotient : 0 ≤ (k : Int) / unit := Int.ediv_nonneg (by omega) (by omega)
    rw [← Int.neg_neg (size x), hk, Int.neg_tdiv, Int.natCast_tdiv_eq_ediv]
    omega
  · rw [Int.tdiv_eq_ediv_of_nonneg (by omega)]
    exact Int.ediv_le_of_le_mul pos notAbove

/-- A position that is in the range of an index is that index. -/
theorem toNatClamped_eq {x : Float} {n : Nat} (bound : n < 2 * normalFrom) (h : whole x ≤ n) :
    toNatClamped x = (whole x).toNat := by
  have large : 2 * normalFrom ≤ Nat.pow 2 64 - 1 := by decide
  unfold toNatClamped
  rw [toNat_toUInt64]
  omega

end Worksheet.Number
