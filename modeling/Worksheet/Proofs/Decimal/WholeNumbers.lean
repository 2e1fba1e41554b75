/-
  Whole numbers below 10^15 are shown as the integers they are (`gridNumber_render_of_isWhole`).

  The mantissa of such a number has bits to spare for a fraction, so that its interval is narrower
  than 1 and holds no other integer (`eq_of_roundsTo`). The search for digits comes to the grid of
  the integers, where the number itself is found, if nothing was found on a coarser one
  (`exists_onGrid`); either way it finds an integer, which then is the number. Its digits, with the
  zeros that were moved into the exponent, are those of the integer (`positional_of_nonneg`).
-/
import Worksheet.Proofs.Decimal.ReadBack
import Worksheet.Proofs.Number.Truncation
import Worksheet.Value.Coercion

namespace Worksheet.Decimal

open Number

/-! ## Digits -/

/-- A zero behind the digits of a number multiplies it by ten. -/
theorem digitChars_append_zeros {n : Nat} (pos : 0 < n) (k : Nat) :
    digitChars n ++ List.replicate k '0' = digitChars (n * 10 ^ k) := by
  induction k with
  | zero => rw [List.replicate_zero, List.append_nil, Nat.pow_zero, Nat.mul_one]
  | succ k ih =>
    have last : digitChars (n * 10 ^ k) ++ ['0'] = digitChars (10 * (n * 10 ^ k)) :=
      Nat.toDigits_append_toDigits (d := 0) (by decide) (Nat.mul_pos pos (Nat.pow_pos (by decide)))
        (by decide)
    rw [List.replicate_succ', ← List.append_assoc, ih, last, Nat.pow_succ, Nat.mul_comm 10,
      Nat.mul_assoc]

theorem positional_of_nonneg {s : Scaled} (pos : 0 < s.digits) (nonneg : 0 ≤ s.exponent) :
    positional s false = digitChars (s.digits * 10 ^ s.exponent.toNat) := by
  unfold positional
  dsimp only
  rw [if_pos nonneg, digitChars_append_zeros pos]
  exact List.append_nil _

theorem Scaled.value_of_nonneg {s : Scaled} (nonneg : 0 ≤ s.exponent) :
    s.value = (s.digits * 10 ^ s.exponent.toNat : Nat) := by
  have power := natCast_ten_pow nonneg
  rw [Scaled.value, Nat.cast_mul, ← power]
  rfl

/-! ## The interval of a whole number -/

namespace Dyadic

/-- A whole number of at most fifteen digits, with all bits of the mantissa in use. -/
structure IsWhole (v : Dyadic) (n : Nat) : Prop where
  sound : v.Sound
  wide : normalFrom ≤ v.mantissa
  value : (v.mantissa * 2 ^ v.exponent : ℚ) = n
  pos : 0 < n
  small : n < 10 ^ 15

namespace IsWhole

variable {v : Dyadic} {n : Nat}

/-- There are bits for a fraction. -/
theorem exponent_neg (h : v.IsWhole n) : v.exponent < 0 := by
  have wide := h.wide
  have small := h.small
  rw [← Int.not_le]
  intro nonneg
  have one : (1 : ℚ) ≤ 2 ^ v.exponent := one_le_zpow₀ (by decide) nonneg
  have above : (v.mantissa : ℚ) ≤ n := by
    rw [← h.value]
    exact le_mul_of_one_le_right (Nat.cast_nonneg _) one
  have above : v.mantissa ≤ n := by exact_mod_cast above
  unfold normalFrom at wide
  omega

theorem mantissa_eq (h : v.IsWhole n) : v.mantissa = n * 2 ^ (-v.exponent).toNat := by
  have negative := h.exponent_neg
  have amount : ((-v.exponent).toNat : Int) = -v.exponent := by omega
  have value : (v.mantissa : ℚ) = n * 2 ^ (-v.exponent).toNat := by
    rw [← h.value, mul_assoc, ← zpow_natCast, amount, ← zpow_add₀ (by decide), Int.add_right_neg,
      zpow_zero, mul_one]
  exact_mod_cast value

theorem log2_eq (h : v.IsWhole n) : (v.mantissa.log2 : Int) + v.exponent = n.log2 := by
  have negative := h.exponent_neg
  rw [h.mantissa_eq, ← Nat.shiftLeft_eq, log2_shiftLeft h.pos.ne']
  omega

/-- No other integer lies in the interval. -/
theorem eq_of_roundsTo {d : Nat} (h : v.IsWhole n)
    (rounds : RoundsTo v.mantissa v.exponent (d : ℚ)) : d = n := by
  have negative := h.exponent_neg
  have half : (2 : ℚ) ^ v.exponent ≤ 2 ^ (-1 : Int) :=
    zpow_le_zpow_right₀ (by norm_num) (by omega)
  have half : (2 : ℚ) ^ v.exponent ≤ 1 / 2 := by
    rwa [zpow_neg_one, ← one_div] at half
  have lower := (lowerEnd_ge _ _).trans rounds.lower
  have upper := rounds.upper
  rw [upperEnd, add_mul, h.value] at upper
  rw [sub_mul, h.value] at lower
  have above : (n : ℚ) < d + 1 := by linarith
  have below : (d : ℚ) < n + 1 := by linarith
  have above : n < d + 1 := by exact_mod_cast above
  have below : d < n + 1 := by exact_mod_cast below
  omega

/-! ## The search -/

theorem pos_of_compareScaled (h : v.IsWhole n) {k : Int}
    (above : compareScaled 1 k v.mantissa v.exponent = .gt) : 0 < k := by
  rw [compareScaled_eq_gt, h.value, Nat.cast_one, one_mul] at above
  rw [← Int.not_le]
  intro nonpos
  have one : (10 : ℚ) ^ k ≤ 1 := zpow_le_one_of_nonpos₀ (by norm_num) nonpos
  have positive : (1 : ℚ) ≤ n := by exact_mod_cast h.pos
  linarith

/-- The first grid that is tried is coarser than that of the integers, but not by too much. -/
theorem magnitude_bounds (h : v.IsWhole n) : 0 < v.magnitude ∧ v.magnitude ≤ 17 := by
  have bits : n.log2 < 50 := (Nat.log2_lt h.pos.ne').2 (Nat.lt_trans h.small (by decide))
  unfold magnitude
  dsimp only
  rw [h.log2_eq]
  have estimate : 0 ≤ (n.log2 : Int) * 30103 / 100000 ∧ (n.log2 : Int) * 30103 / 100000 ≤ 14 := by
    omega
  generalize (n.log2 : Int) * 30103 / 100000 = k at estimate
  cases found : [k, k + 1, k + 2].find? fun k =>
      compareScaled 1 k v.mantissa v.exponent == .gt with
  | none =>
    rw [Option.getD_none]
    omega
  | some top =>
    have passed := List.find?_some found
    have above := h.pos_of_compareScaled (beq_iff_eq.1 passed)
    have mem := List.mem_of_find?_eq_some found
    simp only [List.mem_cons, List.not_mem_nil, or_false] at mem
    rw [Option.getD_some]
    omega

theorem floorAt_zero (h : v.IsWhole n) : v.floorAt 0 = n := by
  have negative := h.exponent_neg
  have none : v.exponent.toNat = 0 := by omega
  unfold floorAt
  rw [none, h.mantissa_eq]
  show n * 2 ^ (-v.exponent).toNat * 1 * 1 / (2 ^ (-v.exponent).toNat * 1) = n
  rw [Nat.mul_one, Nat.mul_one, Nat.mul_one, Nat.mul_div_cancel _ (Nat.two_pow_pos _)]

/-- The number itself is on the grid of the integers. -/
theorem isSome_onGrid? (h : v.IsWhole n) (tie : Tie) : (v.onGrid? tie 0).isSome := by
  have value : (Scaled.mk n 0).value = v.mantissa * 2 ^ v.exponent := by
    rw [h.value, Scaled.value, zpow_zero, mul_one]
  refine Dyadic.isSome_onGrid? tie ?_
  rw [h.floorAt_zero]
  refine h.sound.identifiedBy_of_lt ?_ ?_
  · rw [value]
    exact lowerEnd_lt _ _
  · rw [value]
    exact lt_upperEnd _ _

/-- What the search finds is an integer. -/
theorem exists_onGrid (h : v.IsWhole n) (tie : Tie) :
    ∃ s, (List.range 17).findSome? (fun i => v.onGrid? tie (v.magnitude - (i + 1 : Nat))) = some s ∧
      v.identifiedBy s = true ∧ 0 ≤ s.exponent := by
  obtain ⟨positive, few⟩ := h.magnitude_bounds
  obtain ⟨i, top⟩ : ∃ i : Nat, v.magnitude = (i + 1 : Nat) :=
    ⟨v.magnitude.toNat - 1, by omega⟩
  have tries : List.range 17 = List.range (i + 1) ++ (List.range (16 - i)).map (i + 1 + ·) := by
    rw [← List.range_add]
    congr 1
    omega
  have last : ((List.range (i + 1)).findSome? fun j =>
      v.onGrid? tie (v.magnitude - (j + 1 : Nat))).isSome := by
    rw [List.findSome?_isSome_iff]
    refine ⟨i, List.mem_range.2 (Nat.lt_succ_self i), ?_⟩
    rw [top, Int.sub_self]
    exact h.isSome_onGrid? tie
  obtain ⟨s, found⟩ := Option.isSome_iff_exists.1 last
  refine ⟨s, ?_, ?_⟩
  · rw [tries, List.findSome?_append, found, Option.some_or]
  · obtain ⟨j, mem, onGrid⟩ := List.exists_of_findSome?_eq_some found
    rw [List.mem_range] at mem
    have exponent := exponent_of_onGrid? onGrid
    exact ⟨identifiedBy_of_onGrid? onGrid, by omega⟩

/-- The digits that are written are those of the integer. -/
theorem positional_shortest (h : v.IsWhole n) (tie : Tie) :
    positional (v.shortest tie) false = digitChars n := by
  obtain ⟨s, found, identified, nonneg⟩ := h.exists_onGrid tie
  have stripped : v.shortest tie = s.stripZeros := by
    unfold shortest
    dsimp only
    rw [found, Option.getD_some]
  have nonneg' : 0 ≤ s.stripZeros.exponent := Int.le_trans nonneg s.exponent_le_stripZeros
  have rounds := h.sound.roundsTo identified
  rw [← Scaled.value_stripZeros, Scaled.value_of_nonneg nonneg'] at rounds
  have same := h.eq_of_roundsTo rounds
  have pos : 0 < s.stripZeros.digits :=
    Nat.pos_of_ne_zero fun none => h.pos.ne' (by rw [← same, none, Nat.zero_mul])
  rw [stripped, positional_of_nonneg pos nonneg', same]

end IsWhole

end Dyadic

/-! ## Numbers without a fraction -/

section

open Float.Model UnpackedFloat

theorem size_limit : size 1e15 = (10 ^ 15 * unit : Nat) := by decide +kernel

variable {x : Float} (small : x.abs < 1e15)

include small

theorem isNaN_of_small : x.isNaN = false := by
  rw [← isNaN_abs, Bool.eq_false_iff]
  exact fun isNaN => not_lt_of_isNaN_left isNaN small

theorem natAbs_size_lt : (size x).natAbs < 10 ^ 15 * unit := by
  have below := (lt_iff_size_lt ((isNaN_abs x).trans (isNaN_of_small small)) (by decide)).1 small
  rw [size_abs, size_limit] at below
  exact_mod_cast below

theorem isFinite_of_small : x.isFinite = true := by
  have below := natAbs_size_lt small
  have notNaN : x.toModel.unpack.isNaN = false := isNaN_of_small small
  show x.toModel.unpack.isFinite = true
  unfold size at below
  cases u : x.toModel.unpack with
  | notANumber =>
    rw [u] at notNaN
    cases notNaN
  | infinity sign =>
    rw [u, extent_infinity, natAbs_apply] at below
    exact absurd below (by decide +kernel)
  | zero sign => rfl
  | finite sign m e pos => rfl

variable (noFraction : isWhole x = true)

include noFraction

/-- Without a fraction the size counts in the size of 1. -/
theorem size_of_isWhole : size x = whole x * unit := by
  rw [← size_truncate (isNaN_of_small small)]
  have same : (truncate x == x) = true := noFraction
  rw [Float.beq_iff_ne_nan_and_eq] at same
  obtain ⟨-, -, same | ⟨left, right⟩ | ⟨left, right⟩⟩ := same
  · rw [same]
  · rw [left, right]
    decide
  · rw [left, right]
    decide

theorem natAbs_whole_lt : (whole x).natAbs < 10 ^ 15 := by
  have below := natAbs_size_lt small
  rw [size_of_isWhole small noFraction, Int.natAbs_mul, Int.natAbs_natCast] at below
  exact Nat.lt_of_mul_lt_mul_right below

/-- A number other than zero has a whole number for its binary form. -/
theorem isWhole_ofFloat {sign : Sign} {m : Nat} {e : Int} {pos : 0 < m}
    (u : x.toModel.unpack = .finite sign m e pos) :
    (Dyadic.ofFloat x).IsWhole (whole x).natAbs := by
  obtain ⟨mantissa, exponent, sound⟩ := ofFloat_of_finite u
  have fits := sound.fits
  rw [mantissa, exponent] at fits
  have same : scaled m e = (whole x).natAbs * unit := by
    have counted := congrArg Int.natAbs (size_of_isWhole small noFraction)
    rwa [size, u, extent_finite, natAbs_apply, Int.natAbs_mul, Int.natAbs_natCast] at counted
  have positive : 0 < (whole x).natAbs :=
    Nat.pos_of_mul_pos_right (same ▸ scaled_pos pos e)
  refine ⟨sound, ?_, ?_, positive, natAbs_whole_lt small noFraction⟩
  · rw [mantissa]
    exact wide_of_whole fits positive same
  · rw [mantissa, exponent]
    exact value_of_whole fits same

theorem magnitude_of_isWhole {format : Notation} (positions : format.plain = none)
    (noPoint : format.pointZero = false) :
    format.magnitude x = digitChars (whole x).natAbs := by
  rw [magnitude_of_isFinite positions noPoint (isFinite_of_small small)]
  have finite : x.toModel.unpack.isFinite = true := isFinite_of_small small
  by_cases zero : size x = 0
  · rw [if_pos ((beq_zero_iff (isFinite_of_small small)).2 zero), whole, zero, Int.zero_tdiv]
    rfl
  · rw [if_neg fun none => zero ((beq_zero_iff (isFinite_of_small small)).1 none)]
    cases u : x.toModel.unpack with
    | infinity sign | notANumber =>
      rw [u] at finite
      cases finite
    | zero sign => exact absurd (congrArg extent u) zero
    | finite sign m e pos =>
      exact (isWhole_ofFloat small noFraction u).positional_shortest format.tie

end

end Worksheet.Decimal

namespace Worksheet

open Decimal Number

theorem toList_toString_natCast (n : Nat) : (toString (n : Int)).toList = digitChars n :=
  String.toList_ofList

theorem toList_toString_neg {n : Nat} (pos : 0 < n) :
    (toString (-(n : Int))).toList = '-' :: digitChars n := by
  obtain ⟨k, rfl⟩ := Nat.exists_eq_add_one.2 pos
  show ("-" ++ String.ofList (digitChars (k + 1))).toList = _
  rw [String.toList_append]
  exact congrArg (List.cons '-') String.toList_ofList

/-- A grid shows a number without a fraction as the integer it is, if that has no more than fifteen
    digits. A zero has no sign. -/
theorem gridNumber_render_of_isWhole {x : Float} (noFraction : isWhole x = true)
    (small : x.abs < 1e15) : gridNumber.render x = (toString (whole x)).toList := by
  have finite := isFinite_of_small small
  have magnitude : gridNumber.magnitude x = digitChars (whole x).natAbs :=
    magnitude_of_isWhole small noFraction rfl rfl
  have signed := size_eq x
  unfold Notation.render
  rw [magnitude, isNaN_of_isFinite finite]
  cases negative : signBit x with
  | false =>
    rw [if_pos (signBit_eq_false_iff.1 negative)] at signed
    have nonneg : 0 ≤ whole x :=
      Int.tdiv_nonneg (signed ▸ Int.natCast_nonneg _) (Int.natCast_nonneg _)
    rw [← Int.natAbs_of_nonneg nonneg, toList_toString_natCast]
    rfl
  | true =>
    have set : ¬ x.toBits.toNat < Nat.pow 2 63 := fun below => by
      rw [signBit_eq_false_iff.2 below] at negative
      cases negative
    rw [if_neg set] at signed
    by_cases zero : (x == 0) = true
    · have none : whole x = 0 := by rw [whole, (beq_zero_iff finite).1 zero, Int.zero_tdiv]
      rw [bne, zero, none]
      exact (toList_toString_natCast 0).symm
    · have count := size_of_isWhole small noFraction
      have nonzero : whole x ≠ 0 := fun none =>
        zero ((beq_zero_iff finite).2 (by rw [count, none, Int.zero_mul]))
      have nonpos : whole x ≤ 0 := by
        rw [whole, signed, Int.neg_tdiv]
        exact Int.neg_nonpos_of_nonneg
          (Int.tdiv_nonneg (Int.natCast_nonneg _) (Int.natCast_nonneg _))
      have opposite : whole x = -((whole x).natAbs : Int) := by
        rw [Int.ofNat_natAbs_of_nonpos nonpos, Int.neg_neg]
      rw [bne, Bool.eq_false_iff.2 zero, opposite, toList_toString_neg (Int.natAbs_pos.2 nonzero),
        Int.natAbs_neg, Int.natAbs_natCast]
      rfl

example : gridNumber.render (-12000.0) = "-12000".toList := by decide +kernel

end Worksheet
