/-
  Classes of numbers that no function leads out of (`Closed`). Most results are checked for being
  finite; these are the operations whose results are not. They never lead from finite numbers to
  others, nor to what is not a number from anything else (`closed_isFinite`, `closed_not_isNaN`).
-/
import Worksheet.Proofs.Decimal.Unsigned
import Worksheet.Proofs.Number.Truncation

namespace Worksheet.Number

open Float.Model UnpackedFloat

variable {x y : Float}

/-! ## Differences -/

theorem scaled_split {m : Nat} {e e' : Int} (lowest : -1074 ≤ e') (h : e' ≤ e) :
    scaled m e = m <<< (e - e').toNat * 2 ^ (e' + 1074).toNat := by
  have exponents : (e + 1074).toNat = (e - e').toNat + (e' + 1074).toNat := by omega
  rw [scaled_eq, Nat.shiftLeft_eq, exponents, Nat.pow_add, Nat.mul_assoc]

theorem apply_mul (sign : Sign) (m n : Nat) : sign.apply (m * n : Nat) = sign.apply m * n := by
  cases sign with
  | negative => exact (congrArg Neg.neg (Int.natCast_mul m n)).trans (Int.neg_mul _ _).symm
  | positive => exact Int.natCast_mul m n

/-- Where the first digit of an integer is, from its size. -/
theorem totalExponent_le {n : Nat} {e t : Int} (lowest : -1074 ≤ e) (h : n * 2 ^ (e + 1074).toNat <
    scaled 1 t) (exponent : e < t) : totalExponent n e ≤ t := by
  unfold totalExponent
  by_cases zero : n = 0
  · rw [zero, Nat.log2_zero]
    omega
  · have split : (t + 1074).toNat = (t - e).toNat + (e + 1074).toNat := by omega
    rw [scaled_eq, Nat.one_mul, split, Nat.pow_add] at h
    have below : n < 2 ^ (t - e).toNat := Nat.lt_of_mul_lt_mul_right h
    have bits : n.log2 < (t - e).toNat := (Nat.log2_lt zero).2 below
    omega

theorem isFinite_pack_sub {u v : UnpackedFloat} (cu : Canonical u) (cv : Canonical v)
    (hu : u.isFinite = true) (hv : v.isFinite = true)
    (h : (extent u - extent v).natAbs < scaled 1 1023) :
    (pack (UnpackedFloat.sub Format.binary64 u v)).unpack.isFinite = true := by
  cases u with
  | infinity s => cases hu
  | notANumber => cases hu
  | zero s =>
    have canonical : Canonical (UnpackedFloat.sub Format.binary64 (.zero s) v) ∧
        (UnpackedFloat.sub Format.binary64 (.zero s) v).isFinite = true := by
      cases v with
      | infinity s' => cases hv
      | notANumber => cases hv
      | zero s' =>
        unfold UnpackedFloat.sub
        dsimp only
        split <;> exact ⟨trivial, rfl⟩
      | finite s' m' e' pos' => exact ⟨cv, rfl⟩
    rw [unpack_pack canonical.1]
    exact canonical.2
  | finite s m e pos =>
    cases v with
    | infinity s' => cases hv
    | notANumber => cases hv
    | zero s' =>
      show (pack (.finite s m e pos)).unpack.isFinite = true
      rw [unpack_pack (u := .finite s m e pos) cu]
      rfl
    | finite s' m' e' pos' =>
      have lowest : -1074 ≤ min e e' := by
        have := cu.lowest
        have := cv.lowest
        omega
      refine isFinite_pack_normalize (totalExponent_le lowest ?_ ?_)
      · refine Nat.lt_of_le_of_lt (Nat.le_of_eq ?_) h
        rw [extent_finite, extent_finite, scaled_split lowest (Int.min_le_left e e'),
          scaled_split lowest (Int.min_le_right e e'), apply_mul, apply_mul, ← Int.sub_mul,
          Int.natAbs_mul, Int.natAbs_natCast]
      · have := cu.highest
        omega

/-- A difference of finite numbers is finite if it is not as large as 2^1023. -/
theorem isFinite_sub (hx : x.isFinite = true) (hy : y.isFinite = true)
    (h : (size x - size y).natAbs < scaled 1 1023) : (x - y).isFinite = true :=
  isFinite_pack_sub (canonical_unpack x) (canonical_unpack y) hx hy h

/-! ## Rounding to whole numbers -/

theorem isFinite_withSignOf {m : Float} (h : m.isFinite = true) (x : Float) :
    (withSignOf m x).isFinite = true := by
  unfold withSignOf
  split
  · rw [isFinite_abs, h]
  · rw [isFinite_neg, isFinite_abs, h]

/-- A truncated number is finite, or it is the number itself. -/
theorem isFinite_truncate_or (x : Float) :
    (truncate x).isFinite = true ∧ x.abs < wholeFrom ∨ truncate x = x := by
  unfold truncate
  split
  · next small => exact .inl ⟨isFinite_withSignOf (isFinite_toFloat _) x, small⟩
  · exact .inr rfl

/-- Truncation makes no number larger. -/
theorem natAbs_size_truncate_lt (h : x.isNaN = false) (small : x.abs < wholeFrom) :
    (size (truncate x)).natAbs < 2 * normalFrom * unit := by
  have part : (whole x * unit).natAbs ≤ (size x).natAbs := by
    rw [Int.natAbs_mul, whole, Int.natAbs_tdiv, Int.natAbs_natCast]
    exact Nat.div_mul_le_self _ _
  rw [lt_iff_size_lt ((isNaN_abs x).trans h) (by decide), size_abs, size_wholeFrom] at small
  rw [size_truncate h]
  omega

/-- Up to 2^53 there is room for a correction by one. -/
theorem two_pow_add_one_lt : 2 * normalFrom * unit + unit < scaled 1 1023 := by decide +kernel

/-- Where truncation is not yet the floor, the floor is finite. -/
theorem isFinite_sub_one (h : x.isNaN = false) (above : x < truncate x) :
    (truncate x - 1.0).isFinite = true := by
  rcases isFinite_truncate_or x with ⟨finite, small⟩ | same
  · refine isFinite_sub finite (by decide) ?_
    have part := natAbs_size_truncate_lt h small
    have large := two_pow_add_one_lt
    rw [size_one]
    omega
  · rw [same, lt_iff_size_lt h h] at above
    omega

/-! ## Square roots -/

theorem log2_sqrt_le {n : Nat} : 2 * n.sqrt.log2 ≤ n.log2 := by
  by_cases zero : n.sqrt = 0
  · rw [zero]
    exact Nat.zero_le _
  · have root : 2 ^ n.sqrt.log2 ≤ n.sqrt := Nat.log2_self_le zero
    have square : 2 ^ (2 * n.sqrt.log2) ≤ n := by
      rw [Nat.two_mul, Nat.pow_add]
      exact Nat.le_trans (Nat.mul_le_mul root root) (Nat.sqrt_le n)
    have nonzero : n ≠ 0 := by
      have := Nat.two_pow_pos (2 * n.sqrt.log2)
      omega
    exact (Nat.le_log2 nonzero).2 square

/-- The square root of a finite number is far from the largest ones. -/
theorem isFinite_pack_sqrtCore {m : Nat} {e : Int} (pos : 0 < m) (h : Fits m e) :
    (pack (roundWithAccuracy Format.binary64 .positive (sqrtCore Format.binary64 m e).1
      (sqrtCore Format.binary64 m e).2.1 (sqrtCore Format.binary64 m e).2.2)).unpack.isFinite =
        true := by
  have highest := h.highest
  have bits : m.log2 < 53 := (Nat.log2_lt (Nat.ne_of_gt pos)).2 h.below
  unfold sqrtCore
  dsimp only
  generalize ht : min (e.ediv 2) _ = t
  have half : t ≤ e / 2 := by
    rw [← ht]
    exact Int.min_le_left _ _
  have root := @log2_sqrt_le (m <<< (e - 2 * t).toNat)
  rw [log2_shiftLeft (Nat.ne_of_gt pos)] at root
  refine isFinite_pack_roundWithAccuracy ?_ ?_
  · unfold totalExponent
    omega
  · omega

theorem isFinite_pack_sqrt {u : UnpackedFloat} (canonical : Canonical u) (h : u.isFinite = true)
    (nonneg : 0 ≤ extent u) :
    (pack (UnpackedFloat.sqrt Format.binary64 u)).unpack.isFinite = true := by
  cases u with
  | infinity s => cases h
  | notANumber => cases h
  | zero s =>
    show (pack (.zero s)).unpack.isFinite = true
    rw [unpack_pack (u := .zero s) trivial]
    rfl
  | finite s m e pos =>
    cases s with
    | positive => exact isFinite_pack_sqrtCore pos canonical
    | negative =>
      have above := scaled_pos pos e
      change (0 : Int) ≤ -(scaled m e : Int) at nonneg
      omega

theorem size_zero : size 0.0 = 0 := by decide +kernel

theorem not_lt_zero_iff (h : x.isNaN = false) : ¬ x < 0.0 ↔ 0 ≤ size x := by
  rw [lt_iff_size_lt h (by decide), size_zero, Int.not_lt]

theorem isFinite_sqrt (hx : x.isFinite = true) (nonneg : ¬ x < 0.0) : x.sqrt.isFinite = true :=
  isFinite_pack_sqrt (canonical_unpack x) hx
    ((not_lt_zero_iff (Decimal.isNaN_of_isFinite hx)).1 nonneg)

theorem isNaN_sqrt (hx : x.isNaN = false) (nonneg : ¬ x < 0.0) : x.sqrt.isNaN = false := by
  by_cases finite : x.isFinite = true
  · exact Decimal.isNaN_of_isFinite (isFinite_sqrt finite nonneg)
  · rw [not_lt_zero_iff hx] at nonneg
    unfold size at nonneg
    change ¬ x.toModel.unpack.isFinite = true at finite
    change x.toModel.unpack.isNaN = false at hx
    show (pack (UnpackedFloat.sqrt _ x.toModel.unpack)).unpack.isNaN = false
    cases hu : x.toModel.unpack with
    | infinity s =>
      rw [hu] at nonneg
      cases s with
      | positive =>
        show (pack (.infinity .positive)).unpack.isNaN = false
        rw [unpack_pack (u := .infinity .positive) trivial]
        rfl
      | negative =>
        have far := beyond_pos
        change (0 : Int) ≤ -(beyond : Int) at nonneg
        omega
    | notANumber =>
      rw [hu] at hx
      cases hx
    | zero s =>
      rw [hu] at finite
      exact absurd rfl finite
    | finite s m e pos =>
      rw [hu] at finite
      exact absurd rfl finite

/-! ## Classes -/

/-- The class has all finite numbers, and the operations whose results are not checked do not lead
    out of it. -/
structure Closed (P : Float → Prop) : Prop where
  finite : ∀ x, x.isFinite = true → P x
  abs : ∀ x, P x → P x.abs
  truncate : ∀ x, P x → P (truncate x)
  floor : ∀ x, P x → P (floor x)
  sqrt : ∀ x, P x → ¬ x < 0.0 → P x.sqrt

theorem closed_true : Closed fun _ => True :=
  ⟨fun _ _ => trivial, fun _ _ => trivial, fun _ _ => trivial, fun _ _ => trivial,
    fun _ _ _ => trivial⟩

theorem floor_of_truncate {P : Float → Prop} (finite : ∀ x, x.isFinite = true → P x)
    (hx : x.isNaN = false) (ht : P (truncate x)) : P (floor x) := by
  unfold floor
  dsimp only
  split
  · next above => exact finite _ (isFinite_sub_one hx above)
  · exact ht

theorem isFinite_truncate (h : x.isFinite = true) : (truncate x).isFinite = true := by
  rcases isFinite_truncate_or x with ⟨finite, -⟩ | same
  · exact finite
  · rw [same, h]

theorem isNaN_truncate (h : x.isNaN = false) : (truncate x).isNaN = false := by
  rcases isFinite_truncate_or x with ⟨finite, -⟩ | same
  · exact Decimal.isNaN_of_isFinite finite
  · rw [same, h]

theorem closed_isFinite : Closed fun x => x.isFinite = true where
  finite _ h := h
  abs x h := (isFinite_abs x).trans h
  truncate _ h := isFinite_truncate h
  floor _ h := floor_of_truncate (fun _ h => h) (Decimal.isNaN_of_isFinite h) (isFinite_truncate h)
  sqrt _ h nonneg := isFinite_sqrt h nonneg

theorem closed_not_isNaN : Closed fun x => x.isNaN = false where
  finite _ h := Decimal.isNaN_of_isFinite h
  abs x h := (isNaN_abs x).trans h
  truncate _ h := isNaN_truncate h
  floor _ h := floor_of_truncate (fun _ h => Decimal.isNaN_of_isFinite h) h (isNaN_truncate h)
  sqrt _ h nonneg := isNaN_sqrt h nonneg

/-! ## Truncated positions -/

theorem whole_truncate (h : x.isNaN = false) : whole (truncate x) = whole x := by
  have pos : (unit : Int) ≠ 0 := Int.natCast_ne_zero.2 (Nat.ne_of_gt unit_pos)
  rw [whole, size_truncate h, Int.mul_tdiv_cancel _ pos]

theorem truncate_lt_one_iff (h : x.isNaN = false) : truncate x < 1.0 ↔ whole x < 1 := by
  have pos : (0 : Int) < unit := Int.natCast_pos.2 unit_pos
  rw [lt_iff_size_lt (isNaN_truncate h) (by decide), size_truncate h, size_one]
  constructor
  · intro below
    exact Int.lt_of_mul_lt_mul_right (by rwa [Int.one_mul]) (Int.le_of_lt pos)
  · intro below
    calc whole x * unit ≤ 0 * unit := Int.mul_le_mul_of_nonneg_right (by omega) (Int.le_of_lt pos)
      _ < unit := by omega

theorem count_lt_truncate_iff {n : Nat} (h : x.isNaN = false) (few : n < 2 * normalFrom) :
    ofCount n < truncate x ↔ n < whole x := by
  have pos : (0 : Int) < unit := Int.natCast_pos.2 unit_pos
  rw [lt_iff_size_lt (isNaN_ofCount n) (isNaN_truncate h), size_truncate h, size_ofCount few]
  exact ⟨fun above => Int.lt_of_mul_lt_mul_right above (Int.le_of_lt pos),
    fun above => Int.mul_lt_mul_of_pos_right above pos⟩

end Worksheet.Number
