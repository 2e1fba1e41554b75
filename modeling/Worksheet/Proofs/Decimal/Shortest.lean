/-
  The fewest digits identify the number. The comparisons on natural numbers are those of the exact
  values (`compareScaled_eq_lt`, `compareScaled_eq_gt`), so a decimal that passes the test lies in
  the interval of the number (`Dyadic.Sound.roundsTo`). Whatever the search finds has passed it, and
  the number itself, which is taken if the search finds nothing, lies in its interval
  (`Dyadic.Sound.roundsTo_shortest`).

  That no other decimal has fewer digits is not shown here.
-/
import Mathlib.Algebra.Order.Field.Power
import Mathlib.Tactic.Linarith
import Mathlib.Tactic.Ring
import Worksheet.Decimal.Shortest
import Worksheet.Proofs.Number.Nearest

namespace Worksheet.Decimal

open Number

/-! ## Exact values -/

def Scaled.value (s : Scaled) : ℚ := s.digits * 10 ^ s.exponent

section Comparison

variable (d : Nat) (k : Int) (m : Nat) (q : Int)

/-- What is compared are the exact values, at a common scale. -/
theorem exists_scale :
    ∃ c : ℚ, 0 < c ∧
      ((d * Nat.pow 10 k.toNat * Nat.pow 2 (-q).toNat : Nat) : ℚ) = d * 10 ^ k * c ∧
      ((m * Nat.pow 2 q.toNat * Nat.pow 10 (-k).toNat : Nat) : ℚ) = m * 2 ^ q * c := by
  have tens := natCast_pow_toNat (b := 10) (by decide) k
  have twos := natCast_pow_toNat (b := 2) (by decide) q
  refine ⟨(Nat.pow 10 (-k).toNat : Nat) * (Nat.pow 2 (-q).toNat : Nat), ?_, ?_, ?_⟩
  · have ten : 0 < Nat.pow 10 (-k).toNat := Nat.pow_pos (by decide)
    have two : 0 < Nat.pow 2 (-q).toNat := Nat.pow_pos (by decide)
    exact_mod_cast Nat.mul_pos ten two
  · rw [Nat.cast_mul, Nat.cast_mul, tens]
    push_cast
    ring
  · rw [Nat.cast_mul, Nat.cast_mul, twos]
    push_cast
    ring

theorem compareScaled_eq_lt : compareScaled d k m q = .lt ↔ (d * 10 ^ k : ℚ) < m * 2 ^ q := by
  obtain ⟨c, pos, left, right⟩ := exists_scale d k m q
  rw [compareScaled, Nat.compare_eq_lt, ← Nat.cast_lt (α := ℚ), left, right,
    mul_lt_mul_iff_of_pos_right pos]

theorem compareScaled_eq_gt : compareScaled d k m q = .gt ↔ (m * 2 ^ q : ℚ) < d * 10 ^ k := by
  obtain ⟨c, pos, left, right⟩ := exists_scale d k m q
  rw [compareScaled, Nat.compare_eq_gt, ← Nat.cast_lt (α := ℚ), left, right,
    mul_lt_mul_iff_of_pos_right pos]

end Comparison

/-! ## The test for identification -/

/-- A positive number in binary form, and where the gap below it is the narrow one. -/
structure Dyadic.Sound (v : Dyadic) : Prop where
  fits : Fits v.mantissa v.exponent
  pos : 0 < v.mantissa
  narrow : v.narrow = true ↔ v.mantissa = normalFrom ∧ -1074 < v.exponent

theorem quarter (e : Int) : (2 : ℚ) ^ (e - 2) = 2 ^ e / 4 := by
  rw [zpow_sub₀ (by decide)]
  norm_num

namespace Dyadic.Sound

variable {v : Dyadic} {s : Scaled}

theorem lowerEnd_eq (h : v.Sound) :
    ((4 * v.mantissa - if v.narrow then 1 else 2 : Nat) * 2 ^ (v.exponent - 2) : ℚ) =
      lowerEnd v.mantissa v.exponent := by
  have pos := h.pos
  rw [quarter, lowerEnd, if_congr h.narrow.symm rfl rfl]
  cases v.narrow with
  | true =>
    rw [if_pos rfl, if_pos rfl, Nat.cast_sub (by omega)]
    push_cast
    ring
  | false =>
    rw [if_neg Bool.false_ne_true, if_neg Bool.false_ne_true, Nat.cast_sub (by omega)]
    push_cast
    ring

theorem upperEnd_eq (v : Dyadic) :
    ((4 * v.mantissa + 2 : Nat) * 2 ^ (v.exponent - 2) : ℚ) = upperEnd v.mantissa v.exponent := by
  rw [quarter, upperEnd]
  push_cast
  ring

/-- A decimal that passes the test lies in the interval of the number. -/
theorem roundsTo (h : v.Sound) (identified : v.identifiedBy s = true) :
    RoundsTo v.mantissa v.exponent s.value := by
  unfold Dyadic.identifiedBy at identified
  dsimp only at identified
  by_cases even : v.mantissa % 2 = 0
  · rw [if_pos even, Bool.and_eq_true, bne_iff_ne, bne_iff_ne, ne_eq, ne_eq, compareScaled_eq_lt,
      compareScaled_eq_gt, h.lowerEnd_eq, upperEnd_eq, not_lt, not_lt] at identified
    exact ⟨identified.1, identified.2, fun _ => even⟩
  · rw [if_neg even, Bool.and_eq_true, beq_iff_eq, beq_iff_eq, compareScaled_eq_gt,
      compareScaled_eq_lt, h.lowerEnd_eq, upperEnd_eq] at identified
    obtain ⟨below, above⟩ := identified
    refine ⟨below.le, above.le, ?_⟩
    rintro (lower | upper)
    · exact absurd lower below.ne'
    · exact absurd upper above.ne

/-- What lies strictly between the ends of the interval passes the test. -/
theorem identifiedBy_of_lt (h : v.Sound)
    (lower : lowerEnd v.mantissa v.exponent < s.value)
    (upper : s.value < upperEnd v.mantissa v.exponent) : v.identifiedBy s = true := by
  rw [← h.lowerEnd_eq] at lower
  rw [← upperEnd_eq] at upper
  have below := (compareScaled_eq_gt _ _ _ _).2 lower
  have above := (compareScaled_eq_lt _ _ _ _).2 upper
  unfold Dyadic.identifiedBy
  dsimp only
  rw [below, above]
  split <;> rfl

end Dyadic.Sound

/-! ## The search -/

theorem Dyadic.identifiedBy_of_onGrid? {v : Dyadic} {s : Scaled} {tie : Tie} {k : Int}
    (found : v.onGrid? tie k = some s) : v.identifiedBy s = true := by
  have neighbour : ∀ n, v.nearer tie n k = n ∨ v.nearer tie n k = n + 1 := by
    intro n
    unfold Dyadic.nearer
    split
    · exact .inl rfl
    · exact .inr rfl
    · exact .inr rfl
    · split
      · exact .inl rfl
      · exact .inr rfl
  unfold Dyadic.onGrid? at found
  dsimp only at found
  split at found
  next below above =>
    cases found
    rcases neighbour (v.floorAt k) with same | next
    · rw [same]
      exact below
    · rw [next]
      exact above
  next below above =>
    cases found
    exact below
  next below above =>
    cases found
    exact above
  next => cases found

theorem Dyadic.isSome_onGrid? {v : Dyadic} {k : Int} (tie : Tie)
    (identified : v.identifiedBy ⟨v.floorAt k, k⟩ = true) : (v.onGrid? tie k).isSome := by
  unfold Dyadic.onGrid?
  dsimp only
  rw [identified]
  split <;> first | rfl | contradiction

theorem Dyadic.exponent_of_onGrid? {v : Dyadic} {tie : Tie} {k : Int} {s : Scaled}
    (found : v.onGrid? tie k = some s) : s.exponent = k := by
  unfold Dyadic.onGrid? at found
  dsimp only at found
  split at found <;> cases found <;> rfl

theorem Dyadic.value_exact (v : Dyadic) : v.exact.value = v.mantissa * 2 ^ v.exponent := by
  unfold Dyadic.exact
  by_cases nonneg : 0 ≤ v.exponent
  · rw [if_pos nonneg]
    have power := natCast_pow_toNat (b := 2) (by decide) v.exponent
    have none : (-v.exponent).toNat = 0 := by omega
    rw [none] at power
    rw [Scaled.value, Nat.cast_mul, power]
    simp
  · rw [if_neg nonneg]
    have amount : v.exponent = -((-v.exponent).toNat : Int) := by omega
    have fives : ((Nat.pow 5 (-v.exponent).toNat : Nat) : ℚ) = 5 ^ (-v.exponent).toNat :=
      Nat.cast_pow 5 _
    have tens : (10 : ℚ) ^ (-v.exponent).toNat =
        5 ^ (-v.exponent).toNat * 2 ^ (-v.exponent).toNat := by
      rw [← mul_pow]
      norm_num
    rw [Scaled.value, Nat.cast_mul, fives]
    dsimp only
    rw [amount, zpow_neg, zpow_neg, zpow_natCast, zpow_natCast, ← amount, tens]
    field_simp

theorem Scaled.value_stripZeros (s : Scaled) : s.stripZeros.value = s.value := by
  induction s using Scaled.stripZeros.induct with
  | case1 s zeros ih =>
    rw [Scaled.stripZeros, dif_pos zeros, ih]
    have whole : 10 * (s.digits / 10) = s.digits := by omega
    have digits : (s.digits : ℚ) = 10 * (s.digits / 10 : Nat) := by exact_mod_cast whole.symm
    rw [Scaled.value, Scaled.value, digits, zpow_add_one₀ (by decide)]
    ring
  | case2 s done =>
    rw [Scaled.stripZeros, dif_neg done]

theorem Scaled.exponent_le_stripZeros (s : Scaled) : s.exponent ≤ s.stripZeros.exponent := by
  induction s using Scaled.stripZeros.induct with
  | case1 s zeros ih =>
    rw [Scaled.stripZeros, dif_pos zeros]
    dsimp only at ih
    omega
  | case2 s done => rw [Scaled.stripZeros, dif_neg done]

/-- The decimal with the fewest digits lies in the interval of the number. -/
theorem Dyadic.Sound.roundsTo_shortest {v : Dyadic} (h : v.Sound) (tie : Tie) :
    RoundsTo v.mantissa v.exponent (v.shortest tie).value := by
  unfold Dyadic.shortest
  rw [Scaled.value_stripZeros]
  cases found : (List.range 17).findSome? fun i => v.onGrid? tie (v.magnitude - (i + 1 : Nat)) with
  | none =>
    show RoundsTo v.mantissa v.exponent v.exact.value
    rw [Dyadic.value_exact]
    exact roundsTo_self _ _
  | some s =>
    obtain ⟨i, -, onGrid⟩ := List.exists_of_findSome?_eq_some found
    exact h.roundsTo (identifiedBy_of_onGrid? onGrid)

/-! ## Binary forms -/

section Fields

open Float.Model UnpackedFloat

variable {x : Float} {sign : Sign} {m : Nat} {q : Int} {pos : 0 < m}

theorem toNat_unpackExponent (b : BitVec 64) :
    (@unpackExponent Format.binary64 b).toNat = b.toNat / Nat.pow 2 52 % Nat.pow 2 11 := by
  unfold unpackExponent
  rw [BitVec.toNat_cast, BitVec.extractLsb_toNat]
  show b.toNat >>> 52 % _ = _
  rw [Nat.shiftRight_eq_div_pow]
  rfl

theorem toNat_unpackMantissa (b : BitVec 64) :
    (@unpackMantissa Format.binary64 b).toNat = b.toNat % Nat.pow 2 52 := by
  unfold unpackMantissa
  rw [BitVec.toNat_cast, BitVec.extractLsb_toNat]
  rfl

/-- The fields of a finite number that is not zero are not those of the other kinds. -/
theorem fields_of_finite {s s' : Sign} {e : BitVec 11} {f : BitVec 52}
    (h : ofFields s e f = .finite s' m q pos) :
    e.toNat = 0 ∧ m = f.toNat ∧ q = -1074 ∨
      e.toNat ≠ 0 ∧ m = normalFrom + f.toNat ∧ q = e.toNat - 1075 := by
  by_cases special : e.toNat = 2047
  · rw [ofFields, if_pos (BitVec.eq_of_toNat_eq special)] at h
    by_cases none : f = 0#52
    · rw [if_pos none] at h
      cases h
    · rw [if_neg none] at h
      cases h
  by_cases lowest : e.toNat = 0
  · obtain rfl : e = 0#11 := BitVec.eq_of_toNat_eq lowest
    refine .inl ⟨lowest, ?_⟩
    by_cases none : f = 0#52
    · subst none
      cases h
    · have positive : 0 < f.toNat := Nat.pos_of_ne_zero fun h => none (BitVec.eq_of_toNat_eq h)
      rw [ofFields_of_subnormal positive] at h
      injection h with _ mantissa exponent
      exact ⟨mantissa.symm, exponent.symm⟩
  · rw [ofFields_of_normal lowest special] at h
    injection h with _ mantissa exponent
    exact .inr ⟨lowest, mantissa.symm, exponent.symm⟩

/-- The binary form has the mantissa and the exponent of the number. -/
theorem ofFloat_of_finite (u : x.toModel.unpack = .finite sign m q pos) :
    (Dyadic.ofFloat x).mantissa = m ∧ (Dyadic.ofFloat x).exponent = q ∧
      (Dyadic.ofFloat x).Sound := by
  have fits : Fits m q := by
    have canonical := canonical_unpack x
    rwa [u] at canonical
  have fields := fields_of_finite ((unpack_eq_ofFields _).symm.trans u)
  rw [toNat_unpackExponent, toNat_unpackMantissa] at fields
  have bits : x.toModel.toBits.toBitVec.toNat = x.toBits.toNat := rfl
  rw [bits] at fields
  unfold Dyadic.ofFloat
  dsimp only
  generalize x.toBits.toNat / Nat.pow 2 52 % Nat.pow 2 11 = field at *
  generalize x.toBits.toNat % Nat.pow 2 52 = fraction at *
  obtain ⟨lowest, rfl, rfl⟩ | ⟨normal, rfl, rfl⟩ := fields
  · rw [if_pos lowest]
    refine ⟨rfl, rfl, fits, pos, ?_⟩
    simp
  · rw [if_neg normal]
    refine ⟨rfl, rfl, fits, pos, ?_⟩
    rw [Bool.and_eq_true, beq_iff_eq, decide_eq_true_iff]
    show fraction = 0 ∧ 1 < field ↔
      normalFrom + fraction = normalFrom ∧ -1074 < (field : Int) - 1075
    omega

end Fields

end Worksheet.Decimal
