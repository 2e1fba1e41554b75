/-
  Numbers by size. The size of a number counts in units of the smallest positive one, 2^-1074, so
  it is an integer; an infinite number has a size beyond those of all others. Comparing numbers is
  comparing their sizes (`lt_iff_size_lt`), converting a number to an integer is dividing its size
  (`toNat_toUInt64`), and truncation takes from the size what is left over by the division
  (`size_truncate`).
-/
import Worksheet.Proofs.Number.Rounded

namespace Worksheet.Number

open Float.Model UnpackedFloat

/-! ## Sizes -/

/-- The size of a mantissa at an exponent. -/
def scaled (m : Nat) (e : Int) : Nat := m <<< (e + 1074).toNat

/-- The size of the number 1. -/
def unit : Nat := scaled 1 0

/-- The size of an infinite number. -/
def beyond : Nat := scaled 1 1024

/-- The size of an unpacked number, with its sign. What is not a number has none; 0 stands in for
    it. -/
def extent : UnpackedFloat → Int
  | .finite sign m e _ => sign.apply (scaled m e)
  | .infinity sign => sign.apply beyond
  | .zero _ | .notANumber => 0

theorem extent_finite (sign : Sign) {m : Nat} (e : Int) (pos : 0 < m) :
    extent (.finite sign m e pos) = sign.apply (scaled m e) := rfl

theorem extent_infinity (sign : Sign) : extent (.infinity sign) = sign.apply beyond := rfl

/-- The size of a number. -/
def size (x : Float) : Int := extent x.toModel.unpack

/-- The integer that is left of a number without its fraction. -/
def whole (x : Float) : Int := (size x).tdiv unit

section

variable {m m' : Nat} {e e' : Int}

theorem scaled_eq (m : Nat) (e : Int) : scaled m e = m * 2 ^ (e + 1074).toNat :=
  Nat.shiftLeft_eq _ _

theorem scaled_pos (pos : 0 < m) (e : Int) : 0 < scaled m e := by
  rw [scaled_eq]
  exact Nat.mul_pos pos (Nat.two_pow_pos _)

theorem unit_pos : 0 < unit := scaled_pos Nat.one_pos 0

theorem beyond_pos : 0 < beyond := scaled_pos Nat.one_pos 1024

/-- A higher exponent has a mantissa of all 53 bits, so the number is larger. -/
theorem Fits.scaled_lt_of_lt (h : Fits m e) (h' : Fits m' e') (less : e < e') :
    scaled m e < scaled m' e' := by
  have lowest := h.lowest
  have normal : normalFrom ≤ m' := h'.normal.resolve_right (by omega)
  have exponents : (e + 1074).toNat + 1 ≤ (e' + 1074).toNat := by omega
  rw [scaled_eq, scaled_eq]
  calc m * 2 ^ (e + 1074).toNat
      < 2 * normalFrom * 2 ^ (e + 1074).toNat :=
        Nat.mul_lt_mul_of_pos_right h.below (Nat.two_pow_pos _)
    _ = normalFrom * 2 ^ ((e + 1074).toNat + 1) := by
        rw [Nat.pow_succ, Nat.mul_comm 2, Nat.mul_assoc, Nat.mul_comm 2]
    _ ≤ m' * 2 ^ (e' + 1074).toNat :=
        Nat.mul_le_mul normal (Nat.pow_le_pow_right (by decide) exponents)

theorem Fits.scaled_lt_iff (h : Fits m e) (h' : Fits m' e') :
    scaled m e < scaled m' e' ↔ e < e' ∨ e = e' ∧ m < m' := by
  rcases Int.lt_trichotomy e e' with less | rfl | more
  · simp [h.scaled_lt_of_lt h' less, less]
  · rw [scaled_eq, scaled_eq, Nat.mul_lt_mul_right (Nat.two_pow_pos _)]
    simp
  · have above := h'.scaled_lt_of_lt h more
    omega

theorem Fits.scaled_lt_beyond (h : Fits m e) : scaled m e < beyond := by
  have highest := h.highest
  rw [scaled_eq]
  calc m * 2 ^ (e + 1074).toNat
      < 2 * normalFrom * 2 ^ (e + 1074).toNat :=
        Nat.mul_lt_mul_of_pos_right h.below (Nat.two_pow_pos _)
    _ ≤ 2 * normalFrom * 2 ^ 2045 :=
        Nat.mul_le_mul_left _ (Nat.pow_le_pow_right (by decide) (by omega))
    _ = beyond := by decide +kernel

/-! ## Comparisons -/

theorem then_compare_eq_lt :
    (compare e e').then (compare m m') = .lt ↔ e < e' ∨ e = e' ∧ m < m' := by
  rw [Ordering.then_eq_lt, Int.compare_eq_lt, Int.compare_eq_eq, Nat.compare_eq_lt]

theorem then_compare_eq_gt :
    (compare e e').then (compare m m') = .gt ↔ e' < e ∨ e' = e ∧ m' < m := by
  rw [Ordering.then_eq_gt, Int.compare_eq_gt, Int.compare_eq_eq, Nat.compare_eq_gt, @eq_comm _ e]

end

theorem compare_negative_positive : compare Sign.negative Sign.positive = .lt := rfl

/-- Numbers in canonical form are ordered as their sizes are. -/
theorem lt_iff_extent_lt {u v : UnpackedFloat} (hu : Canonical u) (hv : Canonical v)
    (nu : u.isNaN = false) (nv : v.isNaN = false) :
    u.lt v = true ↔ extent u < extent v := by
  have far : 0 < beyond := beyond_pos
  unfold UnpackedFloat.lt UnpackedFloat.compare extent
  rw [beq_iff_eq]
  cases u with
  | notANumber => cases nu
  | infinity s =>
    cases v with
    | notANumber => cases nv
    | infinity s' =>
      cases s <;> cases s' <;> simp [Sign.apply, compare_negative_positive]
      omega
    | zero s' => cases s <;> simp [Sign.apply, far]
    | finite s' m' e' pos' =>
      have near := hv.scaled_lt_beyond
      cases s <;> cases s' <;> simp [Sign.apply] <;> omega
  | zero s =>
    cases v with
    | notANumber => cases nv
    | infinity s' => cases s' <;> simp [Sign.apply, far]
    | zero s' => simp
    | finite s' m' e' pos' =>
      have above := scaled_pos pos' e'
      cases s' <;> simp [Sign.apply, above]
  | finite s m e pos =>
    have above := scaled_pos pos e
    have near := hu.scaled_lt_beyond
    cases v with
    | notANumber => cases nv
    | infinity s' => cases s <;> cases s' <;> simp [Sign.apply] <;> omega
    | zero s' => cases s <;> simp [Sign.apply, above]
    | finite s' m' e' pos' =>
      have above' := scaled_pos pos' e'
      have order := hu.scaled_lt_iff hv
      have order' := hv.scaled_lt_iff hu
      cases s <;> cases s' <;>
        simp [Sign.apply, then_compare_eq_lt, then_compare_eq_gt, order, order']
      omega

/-- Numbers are ordered as their sizes are. -/
theorem lt_iff_size_lt {x y : Float} (hx : x.isNaN = false) (hy : y.isNaN = false) :
    x < y ↔ size x < size y :=
  decide_eq_true_iff.trans (lt_iff_extent_lt (canonical_unpack x) (canonical_unpack y) hx hy)

theorem unpack_of_isNaN {x : Float} (h : x.isNaN = true) : x.toModel.unpack = .notANumber := by
  change x.toModel.unpack.isNaN = true at h
  cases hu : x.toModel.unpack with
  | notANumber => rfl
  | _ => rw [hu] at h; cases h

/-- What is not a number has no size. -/
theorem size_of_isNaN {x : Float} (h : x.isNaN = true) : size x = 0 := by
  rw [size, unpack_of_isNaN h]
  rfl

/-- What is not a number is not below anything. -/
theorem not_lt_of_isNaN_left {x y : Float} (h : x.isNaN = true) : ¬ x < y := by
  have unordered : x.toModel.unpack.lt y.toModel.unpack = false := by
    rw [unpack_of_isNaN h]
    rfl
  exact fun below => absurd (unordered.symm.trans (of_decide_eq_true below)) Bool.false_ne_true

/-- What is not a number is not above anything. -/
theorem not_lt_of_isNaN_right {x y : Float} (h : y.isNaN = true) : ¬ x < y := by
  have unordered : x.toModel.unpack.lt y.toModel.unpack = false := by
    rw [unpack_of_isNaN h]
    cases x.toModel.unpack <;> rfl
  exact fun below => absurd (unordered.symm.trans (of_decide_eq_true below)) Bool.false_ne_true

/-! ## Signs -/

theorem unpack_abs (x : Float) : x.abs.toModel.unpack = x.toModel.unpack.abs := by
  have canonical := canonical_unpack x
  refine unpack_pack ?_
  cases hu : x.toModel.unpack with
  | finite s m e pos =>
    rw [hu] at canonical
    exact canonical
  | infinity s => trivial
  | zero s => trivial
  | notANumber => trivial

theorem unpack_neg (x : Float) : (-x).toModel.unpack = x.toModel.unpack.neg := by
  have canonical := canonical_unpack x
  refine unpack_pack ?_
  cases hu : x.toModel.unpack with
  | finite s m e pos =>
    rw [hu] at canonical
    exact canonical
  | infinity s => trivial
  | zero s => trivial
  | notANumber => trivial

theorem isNaN_abs (x : Float) : x.abs.isNaN = x.isNaN := by
  show x.abs.toModel.unpack.isNaN = x.toModel.unpack.isNaN
  rw [unpack_abs]
  cases x.toModel.unpack <;> rfl

theorem isFinite_abs (x : Float) : x.abs.isFinite = x.isFinite := by
  show x.abs.toModel.unpack.isFinite = x.toModel.unpack.isFinite
  rw [unpack_abs]
  cases x.toModel.unpack <;> rfl

theorem isFinite_neg (x : Float) : (-x).isFinite = x.isFinite := by
  show (-x).toModel.unpack.isFinite = x.toModel.unpack.isFinite
  rw [unpack_neg]
  cases x.toModel.unpack <;> rfl

theorem natAbs_apply (sign : Sign) (n : Nat) : (sign.apply n).natAbs = n := by
  cases sign with
  | negative => exact (Int.natAbs_neg _).trans (Int.natAbs_natCast _)
  | positive => exact Int.natAbs_natCast _

theorem extent_ne_zero (sign : Sign) {m : Nat} (e : Int) (pos : 0 < m) :
    extent (.finite sign m e pos) ≠ 0 := by
  rw [extent_finite, ← Int.natAbs_ne_zero, natAbs_apply]
  exact Nat.ne_of_gt (scaled_pos pos e)

/-- The numbers that equal zero are those without a size. -/
theorem beq_zero_iff {x : Float} (finite : x.isFinite = true) : (x == 0) = true ↔ size x = 0 := by
  change x.toModel.unpack.isFinite = true at finite
  show (x.toModel.unpack.compare (.zero .positive) == some .eq) = true ↔
    extent x.toModel.unpack = 0
  cases u : x.toModel.unpack with
  | notANumber | infinity sign =>
    rw [u] at finite
    cases finite
  | zero sign => exact ⟨fun _ => rfl, fun _ => rfl⟩
  | finite sign m e pos =>
    refine iff_of_false ?_ (extent_ne_zero sign e pos)
    cases sign <;> exact Bool.false_ne_true

theorem neg_apply (sign : Sign) (n : Int) : (-sign).apply n = -sign.apply n := by
  cases sign with
  | negative => exact (Int.neg_neg n).symm
  | positive => rfl

theorem size_abs (x : Float) : size x.abs = (size x).natAbs := by
  unfold size
  rw [unpack_abs]
  cases x.toModel.unpack with
  | finite s m e pos => exact (congrArg Int.ofNat (natAbs_apply s _)).symm
  | infinity s => exact (congrArg Int.ofNat (natAbs_apply s _)).symm
  | zero s => rfl
  | notANumber => rfl

theorem size_neg (x : Float) : size (-x) = -size x := by
  unfold size
  rw [unpack_neg]
  cases x.toModel.unpack with
  | finite s m e pos => exact neg_apply s _
  | infinity s => exact neg_apply s _
  | zero s => rfl
  | notANumber => rfl

/-! ## Integers -/

theorem toNat_ofNatClamp (n : Nat) : (UInt64.ofNatClamp n).toNat = min n (Nat.pow 2 64 - 1) := by
  have size : UInt64.size = 18446744073709551616 := rfl
  show _ = min n (18446744073709551616 - 1)
  unfold UInt64.ofNatClamp
  split
  · rw [UInt64.toNat_ofNatLT]
    omega
  · rw [UInt64.toNat_ofNatLT]
    omega

/-- The part of a size above the point. -/
theorem Fits.scaled_div_unit {m : Nat} {e : Int} (h : Fits m e) :
    scaled m e / unit = m <<< e.toNat / 2 ^ (-e).toNat := by
  have lowest := h.lowest
  rw [unit, scaled_eq, scaled_eq, Nat.shiftLeft_eq, Nat.one_mul]
  by_cases negative : e < 0
  · have none : e.toNat = 0 := by omega
    have split : (0 + 1074 : Int).toNat = (-e).toNat + (e + 1074).toNat := by omega
    rw [none, split, Nat.pow_add, Nat.pow_zero, Nat.mul_one,
      Nat.mul_div_mul_right _ _ (Nat.two_pow_pos _)]
  · have none : (-e).toNat = 0 := by omega
    have split : (e + 1074).toNat = e.toNat + (0 + 1074 : Int).toNat := by omega
    rw [none, split, Nat.pow_add, Nat.pow_zero, Nat.div_one, ← Nat.mul_assoc,
      Nat.mul_div_cancel _ (Nat.two_pow_pos _)]

theorem roundToInt_eq (sign : Sign) (m : Nat) (e : Int) :
    roundToInt sign m e = sign.apply (m <<< e.toNat / 2 ^ (-e).toNat : Nat) := by
  unfold roundToInt decreaseExponent shiftToExponent
  dsimp only
  rw [mantissa_shiftRight, mantissa_ofMantissaAndAccuracy]
  have left : (e - 0).toNat = e.toNat := by omega
  have right : (0 - (e - ((e - 0).toNat : Int))).toNat = (-e).toNat := by omega
  rw [right, left]

theorem tdiv_apply (sign : Sign) (m n : Nat) :
    (sign.apply m).tdiv n = sign.apply (m / n : Nat) := by
  cases sign with
  | positive => exact (Int.ofNat_tdiv m n).symm
  | negative => exact (Int.neg_tdiv _ _).trans (congrArg Neg.neg (Int.ofNat_tdiv m n).symm)

/-- Converted to an integer a number loses its fraction, and all that 64 bits cannot hold. -/
theorem toNat_toUInt64 (x : Float) :
    x.toUInt64.toNat = min (whole x).toNat (Nat.pow 2 64 - 1) := by
  have canonical := canonical_unpack x
  show (UInt64.ofNatClamp (x.toModel.unpack.toInt 0 _).toNat).toNat = _
  rw [toNat_ofNatClamp]
  unfold whole size
  cases hu : x.toModel.unpack with
  | finite s m e pos =>
    rw [hu] at canonical
    show min (roundToInt s m e).toNat _ = min ((s.apply (scaled m e)).tdiv unit).toNat _
    rw [roundToInt_eq, ← Fits.scaled_div_unit canonical, tdiv_apply]
  | infinity s => cases s <;> decide +kernel
  | zero s => rfl
  | notANumber => rfl

/-! ## Integers as numbers -/

/-- What is exact and has the right number of bits is not changed by rounding. -/
theorem roundWithAccuracy_exact {sign : Sign} {m : Nat} {e : Int} (pos : 0 < m)
    (h : max (totalExponent m e - 53) (-1074) = e) :
    roundWithAccuracy Format.binary64 sign m e .exact = .finite sign m e pos := by
  have none : (max (totalExponent m e - 53) (-1074) - e).toNat = 0 := by omega
  have unshifted (em : ExtendedMantissa) : em >>> 0 = em := rfl
  have exact : (ExtendedMantissa.ofMantissaAndAccuracy m .exact).roundedMantissa = m := rfl
  have same : rounding m e .exact = (m, e) := by
    unfold rounding shiftToTargetExponent shiftToExponent
    simp [targetExponent_eq, none, unshifted, exact, mantissa_ofMantissaAndAccuracy]
  have positive : 0 < (rounding m e .exact).1 := by rwa [same]
  rw [roundWithAccuracy_of_pos positive]
  exact finite_congr _ _ (congrArg Prod.fst same) (congrArg Prod.snd same)

/-- Whole numbers of at most 53 bits are exact. -/
theorem round_of_lt {sign : Sign} {m : Nat} (pos : 0 < m) (h : m < 2 * normalFrom) :
    ∃ pos', UnpackedFloat.round Format.binary64 sign m 0 =
      .finite sign (m <<< (52 - m.log2)) (m.log2 - 52) pos' := by
  have bits : m.log2 < 53 := (Nat.log2_lt (Nat.ne_of_gt pos)).2 h
  have shifted := log2_shiftLeft (Nat.ne_of_gt pos) (52 - m.log2)
  have pos' : 0 < m <<< (52 - m.log2) := by
    rw [Nat.shiftLeft_eq]
    exact Nat.mul_pos pos (Nat.two_pow_pos _)
  have amount : (0 - max (totalExponent m 0 - 53) (-1074)).toNat = 52 - m.log2 := by
    unfold totalExponent
    omega
  have exponent : (0 : Int) - ((52 - m.log2 : Nat) : Int) = m.log2 - 52 := by omega
  have aligned : decreaseExponent m 0 (Format.binary64.targetExponent (totalExponent m 0)) =
      (m <<< (52 - m.log2), (m.log2 : Int) - 52) := by
    unfold decreaseExponent
    simp only [targetExponent_eq, amount, exponent]
  refine ⟨pos', ?_⟩
  unfold UnpackedFloat.round
  dsimp only
  rw [aligned]
  refine roundWithAccuracy_exact pos' ?_
  unfold totalExponent
  omega

theorem fits_of_lt {m : Nat} (pos : 0 < m) (h : m < 2 * normalFrom) :
    Fits (m <<< (52 - m.log2)) (m.log2 - 52) := by
  have bits : m.log2 < 53 := (Nat.log2_lt (Nat.ne_of_gt pos)).2 h
  have shifted : (m <<< (52 - m.log2)).log2 = 52 := by
    rw [log2_shiftLeft (Nat.ne_of_gt pos)]
    omega
  have nonzero : m <<< (52 - m.log2) ≠ 0 := by
    rw [Nat.shiftLeft_eq]
    exact Nat.mul_ne_zero (Nat.ne_of_gt pos) (Nat.ne_of_gt (Nat.two_pow_pos _))
  obtain ⟨above, below⟩ := (Nat.log2_eq_iff nonzero).1 shifted
  exact ⟨below, by omega, by omega, .inl above⟩

theorem scaled_of_lt {m : Nat} (bits : m.log2 < 53) :
    scaled (m <<< (52 - m.log2)) (m.log2 - 52) = m * unit := by
  have exponents : 52 - m.log2 + (m.log2 - 52 + 1074 : Int).toNat = (0 + 1074 : Int).toNat := by
    omega
  rw [unit, scaled_eq, scaled_eq, Nat.shiftLeft_eq, Nat.one_mul, Nat.mul_assoc, ← Nat.pow_add,
    exponents]

theorem size_toFloat {n : UInt64} (h : n.toNat < 2 * normalFrom) :
    size n.toFloat = n.toNat * unit := by
  show extent
    (pack (UnpackedFloat.normalize Format.binary64 (n.toNat : Int) 0 .positive)).unpack = _
  unfold UnpackedFloat.normalize
  split
  · next negative =>
    rw [Int.compare_eq_lt] at negative
    omega
  · next zero =>
    rw [Int.compare_eq_eq] at zero
    rw [zero, unpack_pack (u := .zero .positive) trivial, Int.zero_mul]
    rfl
  · next positive =>
    rw [Int.compare_eq_gt] at positive
    have pos : 0 < n.toNat := by omega
    obtain ⟨pos', rounded⟩ := @round_of_lt .positive _ pos h
    rw [Int.toNat_natCast, rounded, unpack_pack (u := .finite _ _ _ pos') (fits_of_lt pos h)]
    show ((scaled _ _ : Nat) : Int) = _
    rw [scaled_of_lt ((Nat.log2_lt (Nat.ne_of_gt pos)).2 h), Int.natCast_mul]

theorem isFinite_toFloat (n : UInt64) : n.toFloat.isFinite = true := by
  show (pack (UnpackedFloat.normalize Format.binary64 (n.toNat : Int) 0
    .positive)).unpack.isFinite = true
  refine isFinite_pack_normalize ?_
  have bound := n.toNat_lt
  unfold totalExponent
  rw [Int.natAbs_natCast]
  by_cases zero : n.toNat = 0
  · simp [zero]
  · have bits : n.toNat.log2 < 64 := (Nat.log2_lt zero).2 bound
    omega

end Worksheet.Number
