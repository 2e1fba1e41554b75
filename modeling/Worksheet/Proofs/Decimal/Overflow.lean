/-
  When a literal overflows. What is rounded once is finite up to halfway between the largest number
  and the power of two above it (`RoundedFrom.isFinite_pack`): below 2^1023 there is room for a
  carry, and from there on the value lies in the interval of a number with the highest exponent
  (`exists_roundsTo`). What is rounded is never not a number. So a literal that denotes no finite
  number is too large for one, and denotes an infinity (`Literal.overflows`).
-/
import Mathlib.Data.Rat.Floor
import Worksheet.Proofs.Decimal.Reading
import Worksheet.Proofs.Decimal.Unsigned

namespace Worksheet

open Float.Model UnpackedFloat

namespace Number

variable {n k : Nat} {q e : Int} {acc : Accuracy} {v : ℚ} {sign : Sign}

/-! ## The highest exponent -/

/-- Halfway between the largest number and 2^1024. -/
def overflowFrom : ℚ := 2 ^ (1024 : Int) - 2 ^ (970 : Int)

theorem overflowFrom_eq : overflowFrom = (2 * normalFrom - 1 / 2) * 2 ^ (971 : Int) := by
  have whole : (normalFrom : ℚ) * 2 ^ (971 : Int) = 2 ^ (1023 : Int) := normalFrom_mul_zpow 971
  have above : (2 : ℚ) ^ (1024 : Int) = 2 ^ (1023 : Int) * 2 := zpow_add_one₀ (by decide) 1023
  have step : (2 : ℚ) ^ (971 : Int) = 2 ^ (970 : Int) * 2 := zpow_add_one₀ (by decide) 970
  rw [overflowFrom, above, sub_mul, mul_assoc, whole, step]
  generalize (2 : ℚ) ^ (1023 : Int) = a, (2 : ℚ) ^ (970 : Int) = b
  ring

/-- A value is rounded down if it is less than half a step above a number, or half a step above an
    even one. -/
theorem roundsTo_of_floor (low : n * 2 ^ e ≤ v)
    (high : v < upperEnd n e ∨ v = upperEnd n e ∧ n % 2 = 0) : RoundsTo n e v := by
  have above : lowerEnd n e < v := (lowerEnd_lt n e).trans_le low
  refine ⟨above.le, high.elim le_of_lt fun tie => tie.1.le, ?_⟩
  rintro (lower | upper)
  · exact absurd lower above.ne'
  · exact high.elim (fun less => absurd upper less.ne) And.right

/-- A value is rounded up if it is more than half a step above a number, or half a step above an odd
    one. -/
theorem roundsTo_of_ceil (wide : normalFrom ≤ n)
    (low : upperEnd n e < v ∨ v = upperEnd n e ∧ n % 2 = 1) (high : v < (n + 1) * 2 ^ e) :
    RoundsTo (n + 1) e v := by
  have next : lowerEnd (n + 1) e = upperEnd n e := by
    rw [lowerEnd, if_neg (by omega), upperEnd]
    push_cast
    ring
  have below : v < upperEnd (n + 1) e := by
    have less := lt_upperEnd (n + 1) e
    push_cast at less
    exact high.trans less
  refine ⟨next ▸ low.elim le_of_lt fun tie => tie.1.ge, below.le, ?_⟩
  rintro (lower | upper)
  · rw [next] at lower
    have odd := low.elim (fun less => absurd lower less.ne') And.right
    omega
  · exact absurd upper below.ne

/-- The values from 2^1023 on that do not overflow lie in the interval of a number. -/
theorem exists_roundsTo (large : 2 ^ (1023 : Int) ≤ v) (below : v < overflowFrom) :
    ∃ m, 0 < m ∧ Fits m 971 ∧ RoundsTo m 971 v := by
  have step := two_zpow_pos 971
  have positive : (0 : ℚ) ≤ v / 2 ^ (971 : Int) :=
    div_nonneg ((two_zpow_pos 1023).le.trans large) step.le
  obtain ⟨n, floor⟩ : ∃ n, n = ⌊v / 2 ^ (971 : Int)⌋₊ := ⟨_, rfl⟩
  have low : n * 2 ^ (971 : Int) ≤ v := by
    rw [← le_div_iff₀ step, floor]
    exact Nat.floor_le positive
  have high : v < (n + 1) * 2 ^ (971 : Int) := by
    rw [← div_lt_iff₀ step, floor]
    exact Nat.lt_floor_add_one _
  have wide : normalFrom ≤ n := by
    rw [floor, Nat.le_floor_iff positive, le_div_iff₀ step, normalFrom_mul_zpow]
    exact large
  rw [overflowFrom_eq] at below
  -- Halfway above the number is still below the overflow if the value is rounded up.
  have fits {w : ℚ} (least : w * 2 ^ (971 : Int) ≤ v) : w < 2 * normalFrom - 1 / 2 :=
    lt_of_mul_lt_mul_right (least.trans_lt below) step.le
  by_cases down : v < upperEnd n 971 ∨ v = upperEnd n 971 ∧ n % 2 = 0
  · have few : (n : ℚ) < (2 * normalFrom : Nat) := by
      have less := fits low
      push_cast
      linarith only [less]
    exact ⟨n, by unfold normalFrom at wide; omega,
      ⟨by exact_mod_cast few, by decide, le_refl _, .inl wide⟩, roundsTo_of_floor low down⟩
  · obtain ⟨notLess, notEven⟩ := not_or.1 down
    have half : upperEnd n 971 ≤ v := not_lt.1 notLess
    have up : upperEnd n 971 < v ∨ v = upperEnd n 971 ∧ n % 2 = 1 := by
      rcases half.lt_or_eq with less | tie
      · exact .inl less
      · exact .inr ⟨tie.symm, by have := mt (And.intro tie.symm) notEven; omega⟩
    have few : ((n + 1 : Nat) : ℚ) < (2 * normalFrom : Nat) := by
      have less := fits half
      push_cast
      linarith only [less]
    exact ⟨n + 1, Nat.succ_pos n,
      ⟨by exact_mod_cast few, by decide, le_refl _, .inl (by omega)⟩, roundsTo_of_ceil wide up high⟩

/-! ## Rounding -/

/-- What is rounded to a number that is not too large is finite. -/
theorem RoundedFrom.isFinite_pack {u : UnpackedFloat} (h : RoundedFrom sign v u)
    (below : v < overflowFrom) : (pack u).unpack.isFinite = true := by
  by_cases large : (2 : ℚ) ^ (1023 : Int) ≤ v
  · obtain ⟨m, pos, fits, rounds⟩ := exists_roundsTo large below
    rw [h.eq rounds fits pos]
    exact isFinite_pack_finite pos fits.highest
  · cases h with
    | @once k q acc stands fine =>
      have first : totalExponent k q ≤ 1023 := by
        by_cases zero : k = 0
        · subst zero
          have position : totalExponent 0 q = q + 1 := by
            unfold totalExponent
            rw [Nat.log2_zero]
            omega
          omega
        · have power : (2 : ℚ) ^ (totalExponent k q - 1) < 2 ^ (1023 : Int) :=
            (stands.ge zero).trans_lt (not_le.1 large)
          have exponent := (zpow_lt_zpow_iff_right₀ (by norm_num)).1 power
          omega
      exact isFinite_pack_roundWithAccuracy first (by omega)

/-- A number that is packed is a number. -/
theorem isNaN_pack {u : UnpackedFloat} (h : u.isNaN = false) : (pack u).unpack.isNaN = false := by
  cases u with
  | notANumber => cases h
  | infinity sign =>
    rw [unpack_pack (u := .infinity sign) trivial]
    rfl
  | zero sign =>
    rw [unpack_pack (u := .zero sign) trivial]
    rfl
  | finite sign m e pos =>
    by_cases high : e ≤ 971
    · exact Decimal.isNaN_of_isFinite (x := .ofModel (pack (.finite sign m e pos)))
        (isFinite_pack_finite pos high)
    · have biased : 2 ^ 11 ≤ (e + Format.binary64.exponentBias + (52 : Nat)).toNat + 1 := by
        have bias : (Format.binary64.exponentBias : Int) = 1023 := rfl
        omega
      have special : (pack (.finite sign m e pos)).unpack = ofFields sign (-1#11) 0#52 := by
        show UnpackedFloat.unpack Format.binary64 (UnpackedFloat.pack Format.binary64 _) = _
        unfold UnpackedFloat.pack
        dsimp only
        rw [if_pos biased]
        exact unpack_packComponents _ _ _
      rw [special]
      rfl

theorem RoundedFrom.isNaN_eq_false {u : UnpackedFloat} (h : RoundedFrom sign v u) :
    u.isNaN = false := by
  cases h with
  | @once k q acc stands fine =>
    rcases Nat.eq_zero_or_pos (rounding k q acc).1 with zero | pos
    · rw [roundWithAccuracy_of_zero zero]
      rfl
    · rw [roundWithAccuracy_of_pos pos]
      rfl

/-- What is neither finite nor not a number is infinite. -/
theorem isInf_of_not_isFinite {x : Float} (number : x.isNaN = false) (h : x.isFinite = false) :
    x.isInf = true := by
  change x.toModel.unpack.isNaN = false at number
  change x.toModel.unpack.isFinite = false at h
  show x.toModel.unpack.isInf = true
  cases unpacked : x.toModel.unpack with
  | infinity s => rfl
  | notANumber =>
    rw [unpacked] at number
    cases number
  | zero s | finite s m e pos =>
    rw [unpacked] at h
    cases h

theorem isInf_neg (x : Float) : (-x).isInf = x.isInf := by
  show (-x).toModel.unpack.isInf = x.toModel.unpack.isInf
  rw [unpack_neg]
  cases x.toModel.unpack <;> rfl

end Number

namespace Decimal

open Number

variable {d : Nat} {k : Int}

/-! ## Literals -/

theorem isFinite_zero_scaled : ∀ x ∈ Float.exactlyRepresentablePowersOfTen,
    ((0 : Nat).toUInt64.toFloat / x).isFinite = true ∧
      ((0 : Nat).toUInt64.toFloat * x).isFinite = true := by decide +kernel

/-- Without digits there is nothing to overflow. -/
theorem isFinite_ofScientific_zero (k : Int) :
    (Float.ofScientific 0 (decide (k < 0)) k.natAbs).isFinite = true := by
  by_cases small : 0 < 2 ^ 53 ∧ k.natAbs ≤ 22
  · obtain ⟨divided, multiplied⟩ :=
      isFinite_zero_scaled _ (Array.getElem_mem (Nat.lt_succ_of_le small.2))
    unfold Float.ofScientific
    rw [dif_pos small]
    dsimp only
    split
    · exact divided
    · exact multiplied
  · show (Float.ofScientific 0 (decide (k < 0)) k.natAbs).toModel.unpack.isFinite = true
    rw [toModel_ofScientific small]
    show (pack (.zero .positive)).unpack.isFinite = true
    rw [unpack_pack (u := .zero .positive) trivial]
    rfl

/-- So far behind the point digits are rounded to zero. -/
theorem isFinite_ofScientific_of_low (digits : 0 < d) (low : k < -((2 ^ 11 : Int) + d.log2)) :
    (Float.ofScientific d (decide (k < 0)) k.natAbs).isFinite = true := by
  have zero : UnpackedFloat.ofScientific Format.binary64 d k = .zero .positive := by
    have notHigh : ¬ k > 2 ^ 11 := by omega
    unfold UnpackedFloat.ofScientific
    rw [dif_neg (Nat.ne_of_gt digits), if_neg notHigh, if_pos low]
  show (Float.ofScientific d (decide (k < 0)) k.natAbs).toModel.unpack.isFinite = true
  rw [toModel_ofScientific (by omega), zero, unpack_pack (u := .zero .positive) trivial]
  rfl

/-- So far before the point digits denote an infinity. -/
theorem isInf_ofScientific_of_high (digits : 0 < d) (high : k > 2 ^ 11) :
    (Float.ofScientific d (decide (k < 0)) k.natAbs).isInf = true := by
  have infinity : UnpackedFloat.ofScientific Format.binary64 d k = .infinity .positive := by
    unfold UnpackedFloat.ofScientific
    rw [dif_neg (Nat.ne_of_gt digits), if_pos high]
  show (Float.ofScientific d (decide (k < 0)) k.natAbs).toModel.unpack.isInf = true
  rw [toModel_ofScientific (by omega), infinity, unpack_pack (u := .infinity .positive) trivial]
  rfl

theorem overflowFrom_lt : overflowFrom < 2 ^ (2048 : Int) := by
  have power : (2 : ℚ) ^ (1024 : Int) ≤ 2 ^ (2048 : Int) :=
    zpow_le_zpow_right₀ (by norm_num) (by decide)
  exact (sub_lt_self _ (two_zpow_pos 970)).trans_le power

/-- Digits that denote no finite number overflow, and denote an infinity. -/
theorem overflows_of_not_isFinite
    (h : (Float.ofScientific d (decide (k < 0)) k.natAbs).isFinite = false) :
    (Float.ofScientific d (decide (k < 0)) k.natAbs).isInf = true ∧
      overflowFrom ≤ d * 10 ^ k := by
  have digits : 0 < d := by
    refine Nat.pos_of_ne_zero ?_
    rintro rfl
    exact Bool.false_ne_true (h.symm.trans (isFinite_ofScientific_zero k))
  by_cases high : k > 2 ^ 11
  · refine ⟨isInf_ofScientific_of_high digits high, not_lt.1 fun below => ?_⟩
    exact exponent_le_of_lt digits (below.trans overflowFrom_lt) high
  have notLow : ¬ k < -((2 ^ 11 : Int) + d.log2) := fun low =>
    Bool.false_ne_true (h.symm.trans (isFinite_ofScientific_of_low digits low))
  obtain ⟨u, rounded, packed⟩ := exists_roundedFrom digits high notLow
  have number : (Float.ofScientific d (decide (k < 0)) k.natAbs).isNaN = false := by
    show (Float.ofScientific d (decide (k < 0)) k.natAbs).toModel.unpack.isNaN = false
    rw [packed]
    exact isNaN_pack rounded.isNaN_eq_false
  refine ⟨isInf_of_not_isFinite number h, not_lt.1 fun below => ?_⟩
  have finite := rounded.isFinite_pack below
  rw [← packed] at finite
  exact Bool.false_ne_true (h.symm.trans finite)

/-- The literal is too large for a finite number. -/
structure Literal.Overflows (l : Literal) : Prop where
  large : overflowFrom ≤ l.digits * 10 ^ l.exponent
  infinite : l.toFloat.isInf = true

/-- A literal that denotes no finite number overflows. -/
theorem Literal.overflows {l : Literal} (h : l.toFloat.isFinite = false) : l.Overflows := by
  obtain ⟨negative, d, k⟩ := l
  cases negative with
  | false =>
    obtain ⟨infinite, large⟩ := overflows_of_not_isFinite h
    exact ⟨large, infinite⟩
  | true =>
    obtain ⟨infinite, large⟩ := overflows_of_not_isFinite ((isFinite_neg _).symm.trans h)
    exact ⟨large, (isInf_neg _).trans infinite⟩

/-- A literal is not read only if it overflows. -/
theorem overflows_of_unread {cs : List Char} {l : Literal} (literal : Literal.parse? cs = some l)
    (unread : read? cs = none) : l.Overflows := by
  refine l.overflows ?_
  rw [read?, literal, Option.map_some, Option.filter_some] at unread
  cases finite : l.toFloat.isFinite with
  | false => rfl
  | true =>
    rw [finite] at unread
    cases unread

end Decimal

end Worksheet
