/-
  What a literal denotes. The number is worked out in one of two ways: from exact numbers, if
  digits and power of ten are small enough to be exact, and else from integers of any size. Either
  way there is one rounding, so a literal in the interval of a number denotes this number
  (`unpack_ofScientific`).
-/
import Mathlib.Algebra.Order.Field.Power
import Worksheet.Proofs.Number.Nearest
import Worksheet.Proofs.Number.Size

namespace Worksheet.Decimal

open Float.Model UnpackedFloat Number

variable {m d : Nat} {e k : Int}

/-! ## Bounds -/

/-- A literal in the interval of a number is not zero. -/
theorem digits_pos_of_roundsTo (h : RoundsTo m e (d * 10 ^ k)) (fits : Fits m e) (pos : 0 < m) :
    0 < d := by
  refine Nat.pos_of_ne_zero ?_
  rintro rfl
  rw [Nat.cast_zero, zero_mul] at h
  exact absurd (h.half_le fits pos) (not_le.2 (two_zpow_pos _))

/-- A literal below 2^2048 has no exponent that is too high to work with. -/
theorem exponent_le_of_lt (digits : 0 < d) (below : (d * 10 ^ k : ℚ) < 2 ^ (2048 : Int)) :
    ¬ k > 2 ^ 11 := by
  intro high
  have one : (1 : ℚ) ≤ d := by exact_mod_cast digits
  have power : (2 : ℚ) ^ (2048 : Int) ≤ 10 ^ k := by
    calc (2 : ℚ) ^ (2048 : Int) ≤ 2 ^ k := zpow_le_zpow_right₀ (by norm_num) (by omega)
      _ ≤ 10 ^ k := zpow_le_zpow_left₀ (by omega) (by norm_num) (by norm_num)
  have beyond : (2 : ℚ) ^ (2048 : Int) ≤ d * 10 ^ k := by
    refine power.trans ?_
    exact le_mul_of_one_le_left (zpow_pos (by norm_num) k).le one
  exact absurd below (not_lt.2 beyond)

/-- A literal in the interval of a number lies below 2^2048. -/
theorem lt_of_roundsTo (h : RoundsTo m e (d * 10 ^ k)) (fits : Fits m e) :
    (d * 10 ^ k : ℚ) < 2 ^ (2048 : Int) := by
  refine (h.lt fits).trans_le (zpow_le_zpow_right₀ (by norm_num) ?_)
  have := fits.highest
  omega

/-- Nor has a literal in the interval of a number one that is too low. -/
theorem le_exponent_of_roundsTo (h : RoundsTo m e (d * 10 ^ k)) (fits : Fits m e) (pos : 0 < m) :
    ¬ k < -((2 ^ 11 : Int) + d.log2) := by
  intro low
  have digits : (d : ℚ) ≤ 2 ^ (d.log2 + 1) := by exact_mod_cast Nat.lt_log2_self.le
  have power : (10 : ℚ) ^ k ≤ 2 ^ k := by
    rw [← neg_neg k, zpow_neg, zpow_neg (2 : ℚ)]
    refine inv_anti₀ (two_zpow_pos _) ?_
    exact zpow_le_zpow_left₀ (by omega) (by norm_num) (by norm_num)
  have below : (d * 10 ^ k : ℚ) ≤ 2 ^ (-2048 : Int) := by
    calc (d * 10 ^ k : ℚ) ≤ 2 ^ (d.log2 + 1) * 2 ^ k := by
          have := zpow_pos (a := (10 : ℚ)) (by norm_num) k
          gcongr
      _ = 2 ^ ((d.log2 + 1 : Nat) + k) := by rw [zpow_add₀ (by decide), zpow_natCast]
      _ ≤ 2 ^ (-2048 : Int) := zpow_le_zpow_right₀ (by norm_num) (by omega)
  have less : (2 : ℚ) ^ (-2048 : Int) < 2 ^ (-1075 : Int) :=
    zpow_lt_zpow_right₀ (by norm_num) (by decide)
  exact absurd (h.half_le fits pos) (not_le.2 (below.trans_lt less))

/-! ## Rounding from integers -/

theorem natCast_ten_pow (nonneg : 0 ≤ k) : ((Nat.pow 10 k.toNat : Nat) : ℚ) = 10 ^ k := by
  have power := natCast_pow_of_nonneg (b := 10) (by decide) nonneg
  rwa [Nat.cast_ofNat] at power

/-- From integers a literal is rounded once, if its exponent is one to work with. -/
theorem roundedFrom_ofScientific (digits : 0 < d) (notHigh : ¬ k > 2 ^ 11)
    (notLow : ¬ k < -((2 ^ 11 : Int) + d.log2)) :
    RoundedFrom .positive (d * 10 ^ k) (UnpackedFloat.ofScientific Format.binary64 d k) := by
  unfold UnpackedFloat.ofScientific
  rw [dif_neg (Nat.ne_of_gt digits), if_neg notHigh, if_neg notLow]
  by_cases nonneg : 0 ≤ k
  · rw [if_pos nonneg]
    have aligned : ((d <<< 53 : Nat) : ℚ) * 2 ^ (-53 : Int) = d := by
      rw [Nat.shiftLeft_eq, Nat.cast_mul, mul_assoc]
      norm_num
    have power : ((10 ^ k.toNat : Nat) : ℚ) * 2 ^ (0 : Int) = 10 ^ k := by
      rw [zpow_zero, mul_one]
      exact natCast_ten_pow nonneg
    have wide : normalFrom ≤ d <<< 53 * 10 ^ k.toNat := by
      rw [Nat.shiftLeft_eq]
      have one : 0 < 10 ^ k.toNat := Nat.pow_pos (by decide)
      calc normalFrom ≤ 1 * 2 ^ 53 * 1 := by decide
        _ ≤ d * 2 ^ 53 * 10 ^ k.toNat :=
          Nat.mul_le_mul (Nat.mul_le_mul_right _ digits) one
    rw [← power, ← aligned]
    show RoundedFrom (.positive * .positive) _ _
    exact roundedFrom_mul wide
  · rw [if_neg nonneg]
    have power : ((10 ^ (-k).toNat : Nat) : ℚ) * 2 ^ (0 : Int) = (10 ^ k)⁻¹ := by
      rw [zpow_zero, mul_one, ← zpow_neg]
      exact natCast_ten_pow (by omega)
    have value : (d * 10 ^ k : ℚ) =
        d * 2 ^ (0 : Int) / ((10 ^ (-k).toNat : Nat) * 2 ^ (0 : Int)) := by
      rw [power, zpow_zero, mul_one, div_inv_eq_mul]
    rw [value]
    show RoundedFrom (.positive / .positive) _ _
    exact roundedFrom_div

/-! ## Rounding from exact numbers -/

theorem scaled_eq_mul_zpow {m : Nat} {e : Int} (lowest : -1074 ≤ e) :
    (scaled m e : ℚ) = m * 2 ^ e * 2 ^ (1074 : Int) := by
  have exponent : ((e + 1074).toNat : Int) = e + 1074 := Int.toNat_of_nonneg (by omega)
  rw [scaled_eq, mul_assoc, ← zpow_add₀ (by decide), ← exponent, zpow_natCast]
  push_cast
  rfl

/-- A whole number has all the bits of a mantissa. -/
theorem wide_of_whole (fits : Fits m e) {n : Nat} (whole : 0 < n)
    (same : scaled m e = n * unit) : normalFrom ≤ m := by
  refine fits.normal.resolve_right ?_
  rintro rfl
  have small : scaled m (-1074) = m := Nat.shiftLeft_zero
  have large : 2 * normalFrom < unit := by decide +kernel
  have least : unit ≤ n * unit := Nat.le_mul_of_pos_left _ whole
  have below := fits.below
  omega

theorem value_of_whole (fits : Fits m e) {n : Nat} (same : scaled m e = n * unit) :
    (m * 2 ^ e : ℚ) = n := by
  have value : (scaled m e : ℚ) = n * unit := by exact_mod_cast same
  have one : (unit : ℚ) = 2 ^ (1074 : Int) := by
    rw [unit, scaled_eq_mul_zpow (by decide), Nat.cast_one, one_mul, zpow_zero, one_mul]
  rw [scaled_eq_mul_zpow fits.lowest, one] at value
  exact mul_right_cancel₀ (two_zpow_pos 1074).ne' value

/-- The numbers that a literal is worked out from, if its digits and its power of ten are exact. -/
structure Exactly (x : Float) (n : Nat) : Prop where
  finite : x.isFinite = true
  size : size x = n * unit

theorem Exactly.exists_finite {x : Float} {n : Nat} (h : Exactly x n) (whole : 0 < n) :
    ∃ m e pos, x.toModel.unpack = .finite .positive m e pos ∧ normalFrom ≤ m ∧
      (m * 2 ^ e : ℚ) = n := by
  have canonical := canonical_unpack x
  have finite : x.toModel.unpack.isFinite = true := h.finite
  have same : extent x.toModel.unpack = n * unit := h.size
  have positive : (0 : Int) < n * unit :=
    Int.mul_pos (Int.natCast_pos.2 whole) (Int.natCast_pos.2 unit_pos)
  cases u : x.toModel.unpack with
  | infinity sign =>
    rw [u] at finite
    cases finite
  | notANumber | zero sign =>
    rw [u] at same
    exact absurd same positive.ne
  | finite sign m e pos =>
    rw [u] at same canonical
    rw [extent_finite] at same
    have fits : Fits m e := canonical
    cases sign with
    | negative =>
      change -(scaled m e : Int) = n * unit at same
      omega
    | positive =>
      change ((scaled m e : Nat) : Int) = n * unit at same
      have same : scaled m e = n * unit := by exact_mod_cast same
      exact ⟨m, e, pos, rfl, wide_of_whole fits whole same, value_of_whole fits same⟩

theorem exactly_powersOfTen (i : Fin Float.exactlyRepresentablePowersOfTen.size) :
    Exactly Float.exactlyRepresentablePowersOfTen[i.val] (Nat.pow 10 i.val) := by
  have table : ∀ i : Fin Float.exactlyRepresentablePowersOfTen.size,
      Float.exactlyRepresentablePowersOfTen[i.val].isFinite = true ∧
        size Float.exactlyRepresentablePowersOfTen[i.val] =
          ((Nat.pow 10 i.val : Nat) : Int) * unit := by
    decide +kernel
  exact ⟨(table i).1, (table i).2⟩

theorem exactly_toFloat (bits : d < 2 ^ 53) : Exactly d.toUInt64.toFloat d := by
  have word : d.toUInt64.toNat = d := Nat.mod_eq_of_lt (by omega)
  have whole := size_toFloat (n := d.toUInt64) (by rw [word]; exact bits)
  rw [word] at whole
  exact ⟨isFinite_toFloat _, whole⟩

section Exact

variable {x y : Float} {n p : Nat} (exact₁ : Exactly x n) (exact₂ : Exactly y p) (whole₁ : 0 < n)
  (whole₂ : 0 < p)

include exact₁ exact₂ whole₁ whole₂

theorem roundedFrom_div_of_exactly :
    RoundedFrom .positive (n / p)
      (UnpackedFloat.div Format.binary64 x.toModel.unpack y.toModel.unpack) := by
  obtain ⟨m₁, e₁, pos₁, u₁, -, value₁⟩ := exact₁.exists_finite whole₁
  obtain ⟨m₂, e₂, pos₂, u₂, -, value₂⟩ := exact₂.exists_finite whole₂
  rw [u₁, u₂, ← value₁, ← value₂]
  show RoundedFrom (.positive / .positive) _ _
  exact roundedFrom_div

theorem roundedFrom_mul_of_exactly :
    RoundedFrom .positive (n * p)
      (UnpackedFloat.mul Format.binary64 x.toModel.unpack y.toModel.unpack) := by
  obtain ⟨m₁, e₁, pos₁, u₁, wide₁, value₁⟩ := exact₁.exists_finite whole₁
  obtain ⟨m₂, e₂, pos₂, u₂, -, value₂⟩ := exact₂.exists_finite whole₂
  rw [u₁, u₂, ← value₁, ← value₂]
  show RoundedFrom (.positive * .positive) _ _
  exact roundedFrom_mul (wide₁.trans (Nat.le_mul_of_pos_right _ pos₂))

end Exact

theorem value_of_neg (d : Nat) (negative : k < 0) :
    (d * 10 ^ k : ℚ) = d / (Nat.pow 10 k.natAbs : Nat) := by
  have amount : k.natAbs = (-k).toNat := by omega
  rw [amount, natCast_ten_pow (by omega), zpow_neg, div_inv_eq_mul]

theorem value_of_nonneg (d : Nat) (nonneg : 0 ≤ k) :
    (d * 10 ^ k : ℚ) = d * (Nat.pow 10 k.natAbs : Nat) := by
  have amount : k.natAbs = k.toNat := by omega
  rw [amount, natCast_ten_pow nonneg]

theorem signed_natAbs (k : Int) :
    (if decide (k < 0) = true then Int.negOfNat k.natAbs else Int.ofNat k.natAbs) = k := by
  by_cases negative : k < 0
  · rw [if_pos (decide_eq_true negative), Int.negOfNat_eq]
    show -(k.natAbs : Int) = k
    omega
  · rw [if_neg (by rw [decide_eq_true_iff]; exact negative)]
    show (k.natAbs : Int) = k
    omega

/-- Large literals are worked out from integers. -/
theorem toModel_ofScientific (large : ¬ (d < 2 ^ 53 ∧ k.natAbs ≤ 22)) :
    (Float.ofScientific d (decide (k < 0)) k.natAbs).toModel =
      pack (UnpackedFloat.ofScientific Format.binary64 d k) := by
  unfold Float.ofScientific
  rw [dif_neg large]
  dsimp only
  rw [signed_natAbs]
  rfl

/-- Either way a literal is rounded once. -/
theorem exists_roundedFrom (digits : 0 < d) (notHigh : ¬ k > 2 ^ 11)
    (notLow : ¬ k < -((2 ^ 11 : Int) + d.log2)) :
    ∃ u, RoundedFrom .positive (d * 10 ^ k) u ∧
      (Float.ofScientific d (decide (k < 0)) k.natAbs).toModel = pack u := by
  by_cases small : d < 2 ^ 53 ∧ k.natAbs ≤ 22
  · unfold Float.ofScientific
    rw [dif_pos small]
    obtain ⟨bits, power⟩ := small
    have exact₁ := exactly_toFloat bits
    have exact₂ := exactly_powersOfTen ⟨k.natAbs, Nat.lt_succ_of_le power⟩
    have whole₂ : 0 < Nat.pow 10 k.natAbs := Nat.pow_pos (by decide)
    dsimp only
    by_cases negative : k < 0
    · rw [value_of_neg d negative, if_pos (decide_eq_true negative)]
      exact ⟨_, roundedFrom_div_of_exactly exact₁ exact₂ digits whole₂, rfl⟩
    · rw [value_of_nonneg d (by omega), if_neg (by rw [decide_eq_true_iff]; exact negative)]
      exact ⟨_, roundedFrom_mul_of_exactly exact₁ exact₂ digits whole₂, rfl⟩
  · exact ⟨_, roundedFrom_ofScientific digits notHigh notLow, toModel_ofScientific small⟩

/-- A literal in the interval of a number denotes the number. -/
theorem unpack_ofScientific (h : RoundsTo m e (d * 10 ^ k)) (fits : Fits m e) (pos : 0 < m) :
    (Float.ofScientific d (decide (k < 0)) k.natAbs).toModel.unpack =
      .finite .positive m e pos := by
  have digits := digits_pos_of_roundsTo h fits pos
  have notHigh := exponent_le_of_lt digits (lt_of_roundsTo h fits)
  have notLow := le_exponent_of_roundsTo h fits pos
  obtain ⟨u, rounded, packed⟩ := exists_roundedFrom digits notHigh notLow
  rw [packed, rounded.eq h fits pos]
  exact unpack_pack fits

end Worksheet.Decimal
