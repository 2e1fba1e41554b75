/-
  Scaling by a power of ten and back. Rounding to a whole number keeps a finite number finite, and
  any other as it is (`isFinite_roundHalfAway`); dividing by 1 or by a power of ten keeps it finite
  too (`isFinite_div`). So the scaled number is the only place where a finite number can be lost
  (`isFinite_unscaled`).
-/
import Worksheet.Number.Power
import Worksheet.Proofs.Decimal.ReadBack
import Worksheet.Proofs.Number.Closure

namespace Worksheet.Number

open Float.Model UnpackedFloat

variable {x y : Float} {u : UnpackedFloat}

/-! ## Comparisons -/

theorem compare_swap (u v : UnpackedFloat) :
    UnpackedFloat.compare v u = (UnpackedFloat.compare u v).map Ordering.swap := by
  have signs (s s' : Sign) : compare s' s = (compare s s').swap := by cases s <;> cases s' <;> rfl
  have parts (m m' : Nat) (e e' : Int) :
      (compare e' e).then (compare m' m) = ((compare e e').then (compare m m')).swap := by
    rw [Ordering.swap_then, ← Std.OrientedCmp.eq_swap, ← Std.OrientedCmp.eq_swap]
  cases u with
  | notANumber => cases v <;> rfl
  | infinity s =>
    cases v with
    | infinity s' => exact congrArg some (signs s s')
    | _ => cases s <;> rfl
  | zero s =>
    cases v with
    | infinity s' | finite s' => cases s' <;> rfl
    | _ => rfl
  | finite s m e pos =>
    cases v with
    | notANumber => rfl
    | infinity s' => cases s' <;> rfl
    | zero s' => cases s <;> rfl
    | finite s' m' e' pos' =>
      cases s <;> cases s'
      · exact congrArg some (congrArg Ordering.swap (parts m m' e e'))
      · rfl
      · rfl
      · exact congrArg some (parts m m' e e')

/-- Any two numbers can be compared. -/
theorem exists_compare {u v : UnpackedFloat} (hu : u.isNaN = false) (hv : v.isNaN = false) :
    ∃ o, UnpackedFloat.compare u v = some o := by
  cases u with
  | notANumber => cases hu
  | infinity s =>
    cases v with
    | notANumber => cases hv
    | infinity s' => exact ⟨_, rfl⟩
    | _ => cases s <;> exact ⟨_, rfl⟩
  | zero s =>
    cases v with
    | notANumber => cases hv
    | zero s' => exact ⟨_, rfl⟩
    | infinity s' | finite s' => cases s' <;> exact ⟨_, rfl⟩
  | finite s m e pos =>
    cases v with
    | notANumber => cases hv
    | zero s' => cases s <;> exact ⟨_, rfl⟩
    | infinity s' => cases s' <;> exact ⟨_, rfl⟩
    | finite s' m' e' pos' => cases s <;> cases s' <;> exact ⟨_, rfl⟩

/-- Numbers are ordered as their sizes are. -/
theorem le_iff_size_le (hx : x.isNaN = false) (hy : y.isNaN = false) :
    x ≤ y ↔ size x ≤ size y := by
  obtain ⟨o, compared⟩ := exists_compare (u := x.toModel.unpack) (v := y.toModel.unpack) hx hy
  have above : x ≤ y ↔ o.isLE = true := by
    refine decide_eq_true_iff.trans (Iff.of_eq (congrArg (· = true) ?_))
    show UnpackedFloat.le _ _ = _
    rw [UnpackedFloat.le, compared]
    rfl
  have below : y < x ↔ o.swap = .lt := by
    refine decide_eq_true_iff.trans (Iff.trans (Iff.of_eq (congrArg (· = true) ?_)) beq_iff_eq)
    show UnpackedFloat.lt _ _ = _
    rw [UnpackedFloat.lt, compare_swap, compared]
    rfl
  rw [above, ← Int.not_lt, ← lt_iff_size_lt hy hx, below]
  cases o <;> decide

/-! ## Sums -/

theorem add_eq_sub_neg (spec : Format) (u v : UnpackedFloat) :
    UnpackedFloat.add spec u v = UnpackedFloat.sub spec u v.neg := by
  have twice (s : Sign) : - -s = s := by cases s <;> rfl
  cases u with
  | notANumber => rfl
  | infinity s =>
    cases v with
    | infinity s' =>
      show (if s == s' then _ else _) = (if s == - -s' then _ else _)
      rw [twice]
    | _ => rfl
  | zero s =>
    cases v with
    | notANumber => rfl
    | zero s' =>
      show (if s == s' then _ else _) = (if s == - -s' then _ else _)
      rw [twice]
    | infinity s' =>
      show UnpackedFloat.infinity s' = .infinity (- -s')
      rw [twice]
    | finite s' m' e' pos' =>
      show UnpackedFloat.finite s' m' e' pos' = .finite (- -s') m' e' pos'
      rw [twice]
  | finite s m e pos =>
    cases v with
    | notANumber | zero s' => rfl
    | infinity s' =>
      show UnpackedFloat.infinity s' = .infinity (- -s')
      rw [twice]
    | finite s' m' e' pos' =>
      show UnpackedFloat.normalize spec (s.apply _ + s'.apply _) _ _ =
        UnpackedFloat.normalize spec (s.apply _ - (-s').apply _) _ _
      rw [neg_apply, Int.sub_neg]

/-- A sum of finite numbers is finite if it is not as large as 2^1023. -/
theorem isFinite_add (hx : x.isFinite = true) (hy : y.isFinite = true)
    (h : (size x + size y).natAbs < scaled 1 1023) : (x + y).isFinite = true := by
  have difference : (x + y).toModel.unpack = (x - -y).toModel.unpack := by
    show (pack (UnpackedFloat.add Format.binary64 x.toModel.unpack y.toModel.unpack)).unpack =
      (pack (UnpackedFloat.sub Format.binary64 x.toModel.unpack (-y).toModel.unpack)).unpack
    rw [unpack_neg, add_eq_sub_neg]
  show (x + y).toModel.unpack.isFinite = true
  rw [difference]
  refine isFinite_sub hx ((isFinite_neg y).trans hy) ?_
  rwa [size_neg, Int.sub_neg]

/-! ## Rounding to whole numbers -/

theorem sub_self_cases (spec : Format) (u : UnpackedFloat) :
    UnpackedFloat.sub spec u u = .zero .positive ∨ UnpackedFloat.sub spec u u = .notANumber := by
  cases u with
  | notANumber => exact .inr rfl
  | infinity s => cases s <;> exact .inr rfl
  | zero s => cases s <;> exact .inl rfl
  | finite s m e pos =>
    refine .inl ?_
    show UnpackedFloat.normalize spec (s.apply _ - s.apply _) _ .positive = .zero .positive
    rw [Int.sub_self]
    rfl

/-- What is whole already is not rounded. -/
theorem not_half_le_abs_sub_self (x : Float) : ¬ 0.5 ≤ (x - x).abs := by
  have difference : (x - x).toModel.unpack = .zero .positive ∨
      (x - x).toModel.unpack = .notANumber := by
    show (pack (UnpackedFloat.sub Format.binary64 _ _)).unpack = _ ∨
      (pack (UnpackedFloat.sub Format.binary64 _ _)).unpack = _
    rcases sub_self_cases Format.binary64 x.toModel.unpack with zero | nothing
    · exact .inl (by rw [zero]; exact unpack_pack trivial)
    · exact .inr (by rw [nothing]; exact unpack_pack trivial)
  have below :
      UnpackedFloat.le (0.5 : Float).toModel.unpack (x - x).abs.toModel.unpack = false := by
    rw [unpack_abs]
    rcases difference with zero | nothing
    · rw [zero]
      decide +kernel
    · rw [nothing]
      decide +kernel
  exact fun h => absurd (below.symm.trans (of_decide_eq_true h)) Bool.false_ne_true

theorem roundHalfAway_of_truncate (h : truncate x = x) : roundHalfAway x = x := by
  unfold roundHalfAway
  dsimp only
  rw [h, if_neg (not_half_le_abs_sub_self x)]

theorem isFinite_of_abs_lt (small : x.abs < wholeFrom) : x.isFinite = true := by
  have below : UnpackedFloat.lt x.toModel.unpack.abs wholeFrom.toModel.unpack = true := by
    rw [← unpack_abs]
    exact of_decide_eq_true small
  show x.toModel.unpack.isFinite = true
  cases unpacked : x.toModel.unpack with
  | notANumber =>
    rw [unpacked] at below
    exact absurd below (by decide +kernel)
  | infinity s =>
    rw [unpacked] at below
    cases s <;> exact absurd below (by decide +kernel)
  | zero s => rfl
  | finite s m e pos => rfl

/-- Rounding to a whole number leads neither out of the finite numbers nor into them. -/
theorem isFinite_roundHalfAway (x : Float) : (roundHalfAway x).isFinite = x.isFinite := by
  rcases isFinite_truncate_or x with ⟨finite, small⟩ | same
  · have given := isFinite_of_abs_lt small
    have part := natAbs_size_truncate_lt (Decimal.isNaN_of_isFinite given) small
    rw [given]
    unfold roundHalfAway
    dsimp only
    split
    · refine isFinite_add finite (isFinite_withSignOf (by decide) x) ?_
      have large := two_pow_add_one_lt
      rw [size_withSignOf, size_one, Int.natAbs_natCast]
      split <;> omega
    · exact finite
  · rw [roundHalfAway_of_truncate same]

/-! ## Quotients -/

theorem log2_div_le (m : Nat) {n : Nat} (pos : 0 < n) : (m / n).log2 ≤ m.log2 + 1 - n.log2 := by
  refine log2_le_of_le_div ?_
  have power : 2 ^ n.log2 ≤ n := Nat.log2_self_le (Nat.ne_of_gt pos)
  exact Nat.le_succ_of_le (Nat.div_le_div_left power (Nat.two_pow_pos _))

/-- Dividing by at least 4 brings a number away from the largest ones. -/
theorem isFinite_pack_div {s₁ s₂ : Sign} {m₁ m₂ : Nat} {e₁ e₂ : Int} (pos₁ : 0 < m₁)
    (pos₂ : 0 < m₂) (fits : Fits m₁ e₁) (notSmall : 3 ≤ totalExponent m₂ e₂) :
    (pack (UnpackedFloat.div Format.binary64 (.finite s₁ m₁ e₁ pos₁)
      (.finite s₂ m₂ e₂ pos₂))).unpack.isFinite = true := by
  have bits : m₁.log2 < 53 := (Nat.log2_lt (Nat.ne_of_gt pos₁)).2 fits.below
  have highest := fits.highest
  have digits := log2_div_le (dividend m₁ e₁ m₂ e₂) pos₂
  rw [dividend, log2_shiftLeft (Nat.ne_of_gt pos₁)] at digits
  have position : quotientExponent m₁ e₁ m₂ e₂ ≤ 970 ∧
      quotientExponent m₁ e₁ m₂ e₂ ≤ e₁ - e₂ := by
    unfold quotientExponent totalExponent at *
    omega
  refine isFinite_pack_roundWithAccuracy (m := dividend m₁ e₁ m₂ e₂ / m₂)
    (e := quotientExponent m₁ e₁ m₂ e₂) ?_ position.1
  unfold totalExponent dividend at *
  omega

/-- Dividing by 1 changes nothing. -/
theorem div_one (h : Canonical u) (finite : u.isFinite = true) :
    UnpackedFloat.div Format.binary64 u (1.0 : Float).toModel.unpack = u := by
  have exact : Decimal.Exactly 1.0 1 := ⟨by decide, size_one⟩
  obtain ⟨m₁, e₁, pos₁, one, -, value⟩ := exact.exists_finite (by decide)
  rw [one]
  cases u with
  | notANumber => cases finite
  | infinity s => cases finite
  | zero s => cases s <;> rfl
  | finite s m e pos =>
    have same : RoundsTo m e (m * 2 ^ e / (m₁ * 2 ^ e₁)) := by
      rw [value, Nat.cast_one, div_one]
      exact roundsTo_self m e
    rw [roundedFrom_div.eq same h pos]
    cases s <;> rfl

/-- A positive number, unpacked. -/
theorem exists_finite_of_pos (finite : x.isFinite = true) (h : 0 < size x) :
    ∃ m e pos, x.toModel.unpack = .finite .positive m e pos ∧ Fits m e ∧ size x = scaled m e := by
  have canonical := canonical_unpack x
  change x.toModel.unpack.isFinite = true at finite
  unfold size at h ⊢
  cases unpacked : x.toModel.unpack with
  | notANumber =>
    rw [unpacked] at finite
    cases finite
  | infinity s =>
    rw [unpacked] at finite
    cases finite
  | zero s =>
    rw [unpacked] at h
    exact absurd h (Int.lt_irrefl 0)
  | finite s m e pos =>
    rw [unpacked] at h canonical
    cases s with
    | positive => exact ⟨m, e, pos, rfl, canonical, rfl⟩
    | negative =>
      have above := scaled_pos pos e
      change (0 : Int) < -(scaled m e : Nat) at h
      omega

/-- From 4 on the first digit of a number is the third one before the point or a higher one. -/
theorem three_le_totalExponent {m : Nat} {e : Int} (pos : 0 < m) (fits : Fits m e)
    (h : 4 * unit ≤ scaled m e) : 3 ≤ totalExponent m e := by
  have four : 2 ^ 1076 = 4 * unit := by decide +kernel
  have lowest := fits.lowest
  have bits := (Nat.le_log2 (Nat.ne_of_gt (scaled_pos pos e))).2 (four ▸ h)
  rw [scaled, log2_shiftLeft (Nat.ne_of_gt pos)] at bits
  unfold totalExponent
  omega

/-- No finite number is made of one that is not by dividing it. -/
theorem not_isFinite_pack_div {u v : UnpackedFloat} (hu : u.isFinite = false)
    (hv : v.isFinite = true) :
    (pack (UnpackedFloat.div Format.binary64 u v)).unpack.isFinite = false := by
  cases u with
  | zero s => cases hu
  | finite s m e pos => cases hu
  | notANumber =>
    show (pack .notANumber).unpack.isFinite = false
    rw [unpack_pack (u := .notANumber) trivial]
    rfl
  | infinity s =>
    cases v with
    | notANumber => cases hv
    | infinity s' => cases hv
    | zero s' | finite s' m' e' pos' =>
      show (pack (.infinity (s / s'))).unpack.isFinite = false
      rw [unpack_pack (u := .infinity (s / s')) trivial]
      rfl

/-- A factor that numbers are scaled by. Dividing by it leads no finite number beyond the others. -/
structure IsScale (s : Float) : Prop where
  finite : s.isFinite = true
  size : s = 1.0 ∨ (4 * unit : Nat) ≤ size s

/-- A finite number stays finite when it is divided by a scale, and no other becomes finite. -/
theorem isFinite_div {s : Float} (h : IsScale s) (x : Float) :
    (x / s).isFinite = x.isFinite := by
  have canonical := canonical_unpack x
  cases finite : x.isFinite with
  | false => exact not_isFinite_pack_div finite h.finite
  | true =>
    show (pack (UnpackedFloat.div Format.binary64 x.toModel.unpack
      s.toModel.unpack)).unpack.isFinite = true
    rcases h.size with rfl | large
    · rw [div_one canonical finite, unpack_pack canonical]
      exact finite
    · have positive : 0 < size s := by
        have := unit_pos
        omega
      obtain ⟨m₂, e₂, pos₂, scale, fits, same⟩ := exists_finite_of_pos h.finite positive
      have notSmall := three_le_totalExponent pos₂ fits (by omega)
      change x.toModel.unpack.isFinite = true at finite
      rw [scale]
      cases unpacked : x.toModel.unpack with
      | notANumber =>
        rw [unpacked] at finite
        cases finite
      | infinity s₁ =>
        rw [unpacked] at finite
        cases finite
      | zero s₁ =>
        show (pack (.zero (s₁ / .positive))).unpack.isFinite = true
        rw [unpack_pack (u := .zero (s₁ / .positive)) trivial]
        rfl
      | finite s₁ m₁ e₁ pos₁ =>
        rw [unpacked] at canonical
        exact isFinite_pack_div pos₁ pos₂ canonical notSmall

/-- What is scaled, rounded and scaled back is finite exactly if the scaled number is. -/
theorem isFinite_unscaled {s : Float} (h : IsScale s) (x : Float) :
    (roundHalfAway (x * s) / s).isFinite = (x * s).isFinite :=
  (isFinite_div h _).trans (isFinite_roundHalfAway _)

/-! ## Powers of ten -/

theorem le_size_of_ten_le {s : Float} (finite : s.isFinite = true) (h : 10.0 ≤ s) :
    (4 * unit : Nat) ≤ size s := by
  have ten : size 10.0 = (10 * unit : Nat) := by decide +kernel
  rw [le_iff_size_le (by decide) (Decimal.isNaN_of_isFinite finite), ten] at h
  omega

/-- The powers of ten that are worked out from integers. -/
theorem isScale_power {n : Nat} (h : n < 16) : IsScale (power 10.0 n.toUInt64.toFloat) := by
  have table : ∀ n < 16, (power 10.0 n.toUInt64.toFloat).isFinite = true ∧
      (power 10.0 n.toUInt64.toFloat = 1.0 ∨ 10.0 ≤ power 10.0 n.toUInt64.toFloat) := by
    decide +kernel
  obtain ⟨finite, size⟩ := table n h
  exact ⟨finite, size.imp_right (le_size_of_ten_le finite)⟩

section

variable {d : Float} (finite : d.isFinite = true)

include finite

theorem lt_truncate_iff : 15.0 < truncate d ↔ 15 < whole d := by
  have fifteen : (15.0 : Float) = ofCount 15 := by decide +kernel
  rw [fifteen]
  exact count_lt_truncate_iff (Decimal.isNaN_of_isFinite finite) (by decide)

theorem zero_le_truncate (nonneg : 0.0 ≤ d) : 0.0 ≤ truncate d := by
  have number := Decimal.isNaN_of_isFinite finite
  rw [le_iff_size_le (by decide) number, size_zero] at nonneg
  rw [le_iff_size_le (by decide) (isNaN_truncate number), size_zero, size_truncate number]
  refine Int.mul_nonneg ?_ (Int.natCast_nonneg unit)
  rw [whole, Int.tdiv_eq_ediv_of_nonneg nonneg]
  exact Int.ediv_nonneg nonneg (Int.natCast_nonneg unit)

/-- The other powers of ten are the library's. -/
theorem wholePower?_of_large (large : 15.0 < truncate d) :
    wholePower? 10.0 (truncate d) = none := by
  rw [lt_truncate_iff finite] at large
  have base : toNatClamped (10.0 : Float).abs = 10 := by decide +kernel
  have exponent : 16 ≤ toNatClamped (truncate d) := by
    have room : 16 ≤ Nat.pow 2 64 - 1 := by decide
    unfold toNatClamped
    rw [toNat_toUInt64, whole_truncate (Decimal.isNaN_of_isFinite finite)]
    omega
  have notExact : ¬ Nat.pow 10 (toNatClamped (truncate d)) < Nat.pow 2 53 := by
    refine Nat.not_lt.2 ?_
    calc Nat.pow 2 53 ≤ Nat.pow 10 16 := by decide
      _ ≤ Nat.pow 10 (toNatClamped (truncate d)) := Nat.pow_le_pow_right (by decide) exponent
  unfold wholePower?
  split
  · dsimp only
    rw [base, if_neg notExact]
  · rfl

theorem abs_of_pos (h : 0 < size d) : d.abs = d := by
  obtain ⟨m, e, pos, unpacked, -⟩ := exists_finite_of_pos finite h
  refine Decimal.eq_of_unpack_eq ?_
  rw [unpack_abs, unpacked]
  rfl

/-- A count of digits that is no more than 15. -/
theorem exists_digits (nonneg : 0.0 ≤ d) (small : ¬ 15.0 < truncate d) :
    ∃ n < 16, (truncate d).abs = n.toUInt64.toFloat := by
  rw [lt_truncate_iff finite, Int.not_lt] at small
  have number := Decimal.isNaN_of_isFinite finite
  rw [le_iff_size_le (by decide) number, size_zero] at nonneg
  have table : ∀ n < 16, n.toUInt64.toFloat.abs.abs = n.toUInt64.toFloat ∧
      (-n.toUInt64.toFloat.abs).abs = n.toUInt64.toFloat := by decide +kernel
  have integer : d.abs.toUInt64.toNat < 16 := by
    have same : whole d.abs = whole d := by
      rw [whole, size_abs, Int.natAbs_of_nonneg nonneg]
      rfl
    rw [toNat_toUInt64, same]
    omega
  refine ⟨_, integer, ?_⟩
  have count : d.abs.toUInt64.toNat.toUInt64 = d.abs.toUInt64 := UInt64.ofNat_toNat
  have corrected := table _ integer
  rw [count] at corrected ⊢
  unfold truncate
  split
  · unfold withSignOf
    split
    · exact corrected.1
    · exact corrected.2
  · next large =>
    have pos : (0 : Int) < unit := Int.natCast_pos.2 unit_pos
    have below : size d < (whole d + 1) * unit := by
      rw [whole, Int.tdiv_eq_ediv_of_nonneg nonneg]
      exact Int.lt_ediv_add_one_mul_self _ pos
    have bound : (whole d + 1) * unit ≤ 16 * unit :=
      Int.mul_le_mul_of_nonneg_right (by omega) pos.le
    have wide : 16 * unit ≤ 2 * normalFrom * unit := Nat.mul_le_mul_right _ (by decide)
    rw [lt_iff_size_lt ((isNaN_abs d).trans number) (by decide), size_abs, size_wholeFrom] at large
    omega

/-- The power of ten for a count of digits is a scale, if it is finite at all. For more than 15
    digits it is the library's, which must not be below ten. -/
theorem isScale_of_isFinite (nonneg : 0.0 ≤ d)
    (library : 15.0 < truncate d → 10.0 ≤ Float.pow 10.0 (truncate d))
    (scale : (power 10.0 (truncate d).abs).isFinite = true) :
    IsScale (power 10.0 (truncate d).abs) := by
  by_cases large : 15.0 < truncate d
  · have number := Decimal.isNaN_of_isFinite finite
    have positive : 0 < size (truncate d) := by
      have pos : (0 : Int) < unit := Int.natCast_pos.2 unit_pos
      have above := (lt_truncate_iff finite).1 large
      rw [size_truncate number]
      exact Int.mul_pos (by omega) pos
    have same : power 10.0 (truncate d).abs = Float.pow 10.0 (truncate d) := by
      rw [abs_of_pos (isFinite_truncate finite) positive, power, wholePower?_of_large finite large]
      rfl
    rw [same] at scale ⊢
    exact ⟨scale, .inr (le_size_of_ten_le scale (library large))⟩
  · obtain ⟨n, small, digits⟩ := exists_digits finite nonneg large
    rw [digits]
    exact isScale_power small

end

end Worksheet.Number
