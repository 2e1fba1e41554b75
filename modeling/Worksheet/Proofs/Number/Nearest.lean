/-
  Rounding to the nearest number. A product or a quotient is worked out as a mantissa, an exponent
  and an accuracy, which together tell its exact value up to where it lies between two mantissas
  (`Tells`). Shifting the mantissa keeps this up, so the rounded mantissa is the nearest one, the
  even one of two (`Tells.roundedMantissa`).

  Every number is the result for an interval of exact values, which reaches halfway to its
  neighbours (`RoundsTo`). Below a power of two the neighbour is nearer by half, and there the value
  can be rounded at the exponent of the smaller numbers; it is then rounded up to one bit too many
  and shifted once more (`rounding_of_lower`).
-/
import Mathlib.Algebra.Order.Field.Power
import Mathlib.Algebra.Order.Field.Rat
import Mathlib.Tactic.FieldSimp
import Mathlib.Tactic.Linarith
import Mathlib.Tactic.Positivity
import Mathlib.Tactic.Ring
import Worksheet.Proofs.Number.Rounded

namespace Worksheet.Number

open Float.Model UnpackedFloat

/-! ## Powers -/

theorem two_zpow_pos (e : Int) : (0 : ℚ) < 2 ^ e := zpow_pos (by decide) e

/-- A power is the quotient of two whole powers. -/
theorem natCast_pow_toNat {b : Nat} (pos : 0 < b) (k : Int) :
    ((Nat.pow b k.toNat : Nat) : ℚ) = b ^ k * (Nat.pow b (-k).toNat : Nat) := by
  have nonzero : (b : ℚ) ≠ 0 := by exact_mod_cast pos.ne'
  have exponent : (k.toNat : Int) = k + (-k).toNat := by omega
  have powers (n : Nat) : ((Nat.pow b n : Nat) : ℚ) = b ^ (n : Int) := by
    rw [zpow_natCast]
    exact Nat.cast_pow b n
  rw [powers, powers, exponent, zpow_add₀ nonzero]

theorem natCast_pow_of_nonneg {b : Nat} (pos : 0 < b) {k : Int} (nonneg : 0 ≤ k) :
    ((Nat.pow b k.toNat : Nat) : ℚ) = b ^ k := by
  have none : (-k).toNat = 0 := by omega
  rw [natCast_pow_toNat pos, none]
  show (b ^ k * ((1 : Nat) : ℚ) : ℚ) = b ^ k
  rw [Nat.cast_one, mul_one]

/-! ## Mantissas -/

/-- A mantissa and its first further bit, in halves. -/
def halves (em : ExtendedMantissa) : Nat := 2 * em.mantissa + em.roundBit.toNat

theorem halves_of_false {em : ExtendedMantissa} (round : em.roundBit = false) :
    (halves em : ℚ) = 2 * em.mantissa := by
  rw [halves, round]
  exact Nat.cast_mul 2 em.mantissa

theorem halves_of_true {em : ExtendedMantissa} (round : em.roundBit = true) :
    (halves em : ℚ) = 2 * em.mantissa + 1 := by
  rw [halves, round]
  push_cast
  rfl

/-- What an extended mantissa tells of an exact value: the number of halves in it, and whether there
    is more. -/
structure Tells (em : ExtendedMantissa) (w : ℚ) : Prop where
  low : halves em ≤ 2 * w
  high : 2 * w < halves em + 1
  exact : em.stickyBit = false ↔ 2 * w = halves em

/-- The whole number is the nearest one to the value, and the even one halfway between two. -/
structure Nearest (m : Nat) (w : ℚ) : Prop where
  below : m - 1 / 2 ≤ w
  above : w ≤ m + 1 / 2
  even : w = m - 1 / 2 ∨ w = m + 1 / 2 → m % 2 = 0

namespace Nearest

variable {m : Nat} {w : ℚ}

theorem eq_of_close (h : Nearest m w) {n : Nat} (low : n - 1 / 2 < w) (high : w < n + 1 / 2) :
    m = n := by
  have below := h.below
  have above := h.above
  have lower : (n : ℚ) < m + 1 := by linarith
  have upper : (m : ℚ) < n + 1 := by linarith
  have lower : n < m + 1 := by exact_mod_cast lower
  have upper : m < n + 1 := by exact_mod_cast upper
  omega

/-- Halfway between two whole numbers the even one of them is the nearest. -/
theorem eq_of_half (h : Nearest m w) {k : Nat} (half : w = k + 1 / 2) : m = k + k % 2 := by
  have below := h.below
  have above := h.above
  have lower : (k : ℚ) ≤ m := by linarith
  have upper : (m : ℚ) ≤ k + 1 := by linarith
  have lower : k ≤ m := by exact_mod_cast lower
  have upper : m ≤ k + 1 := by exact_mod_cast upper
  have even : m % 2 = 0 := by
    refine h.even ?_
    rcases Nat.lt_or_eq_of_le lower with less | rfl
    · obtain rfl : m = k + 1 := by omega
      left
      rw [half]
      push_cast
      ring
    · exact .inr half
  omega

end Nearest

namespace Tells

variable {em : ExtendedMantissa} {w : ℚ}

theorem le (h : Tells em w) : em.mantissa ≤ w := by
  have low := h.low
  cases round : em.roundBit with
  | false =>
    rw [halves_of_false round] at low
    linarith
  | true =>
    rw [halves_of_true round] at low
    linarith

theorem lt_succ (h : Tells em w) : w < em.mantissa + 1 := by
  have high := h.high
  cases round : em.roundBit with
  | false =>
    rw [halves_of_false round] at high
    linarith
  | true =>
    rw [halves_of_true round] at high
    linarith

theorem halves_shiftRightOne (em : ExtendedMantissa) :
    halves em.shiftRightOne = em.mantissa := by
  have bit : (em.mantissa % 2 != 0).toNat = em.mantissa % 2 := by
    rcases Nat.mod_two_eq_zero_or_one em.mantissa with parity | parity <;> rw [parity] <;> rfl
  show 2 * (em.mantissa / 2) + (em.mantissa % 2 != 0).toNat = em.mantissa
  rw [bit, Nat.div_add_mod]

theorem shiftRightOne (h : Tells em w) : Tells em.shiftRightOne (w / 2) := by
  have same : 2 * (w / 2) = w := by ring
  have whole : (em.roundBit || em.stickyBit) = false ↔ w = em.mantissa := by
    rw [Bool.or_eq_false_iff, h.exact]
    cases round : em.roundBit with
    | false =>
      rw [halves_of_false round]
      constructor
      · rintro ⟨-, whole⟩
        linarith
      · intro whole
        exact ⟨rfl, by rw [whole]⟩
    | true =>
      have low := h.low
      rw [halves_of_true round] at low
      constructor
      · rintro ⟨⟨⟩, -⟩
      · intro whole
        exfalso
        linarith
  constructor
  · rw [halves_shiftRightOne, same]
    exact h.le
  · rw [halves_shiftRightOne, same]
    exact h.lt_succ
  · rw [halves_shiftRightOne, same]
    exact whole

theorem shiftRight (h : Tells em w) (n : Nat) : Tells (em >>> n) (w / 2 ^ n) := by
  show Tells (n.repeat ExtendedMantissa.shiftRightOne em) _
  induction n with
  | zero =>
    rw [pow_zero, div_one]
    exact h
  | succ n ih =>
    rw [pow_succ, ← div_div]
    exact ih.shiftRightOne

/-- What an extended mantissa is rounded to is the nearest whole number. -/
theorem roundedMantissa (h : Tells em w) {m : Nat} (nearest : Nearest m w) :
    em.roundedMantissa = m := by
  obtain ⟨k, round, sticky⟩ := em
  obtain ⟨low, high, exact⟩ := h
  cases round with
  | false =>
    rw [halves_of_false rfl] at low high
    dsimp only at low high
    have rounded : (⟨k, false, sticky⟩ : ExtendedMantissa).roundedMantissa = k := by
      cases sticky <;> rfl
    rw [rounded]
    exact (nearest.eq_of_close (by linarith) (by linarith)).symm
  | true =>
    rw [halves_of_true rfl] at low high exact
    dsimp only at low high exact
    cases sticky with
    | false =>
      have half : w = k + 1 / 2 := by linarith [exact.1 rfl]
      exact (nearest.eq_of_half half).symm
    | true =>
      have more : 2 * w ≠ 2 * k + 1 := fun same => nomatch exact.2 same
      have above : 2 * k + 1 < 2 * w := lt_of_le_of_ne low (Ne.symm more)
      have rounded : (⟨k, true, true⟩ : ExtendedMantissa).roundedMantissa = k + 1 := rfl
      rw [rounded]
      refine (nearest.eq_of_close ?_ ?_).symm
      · push_cast
        linarith
      · push_cast
        linarith

end Tells

/-! ## Accuracies -/

/-- The mantissa, the exponent and the accuracy tell of an exact value. -/
def Stands (m : Nat) (e : Int) (acc : Accuracy) (v : ℚ) : Prop :=
  Tells (ExtendedMantissa.ofMantissaAndAccuracy m acc) (v / 2 ^ e)

theorem stands_exact (m : Nat) (e : Int) : Stands m e .exact (m * 2 ^ e) := by
  have cancel : (m * 2 ^ e / 2 ^ e : ℚ) = m := mul_div_cancel_right₀ _ (two_zpow_pos e).ne'
  have whole : (halves (ExtendedMantissa.ofMantissaAndAccuracy m .exact) : ℚ) = 2 * m :=
    halves_of_false rfl
  unfold Stands
  rw [cancel]
  exact ⟨whole.le, by rw [whole]; linarith, fun _ => whole.symm, fun _ => rfl⟩

theorem ofMantissaAndAccuracy_fraction (k r n : Nat) :
    ExtendedMantissa.ofMantissaAndAccuracy k (accuracyOfFraction r n) =
      ⟨k, decide (n ≤ 2 * r ∧ r ≠ 0), decide (r ≠ 0 ∧ 2 * r ≠ n)⟩ := by
  unfold accuracyOfFraction
  by_cases zero : r = 0
  · simp [zero, ExtendedMantissa.ofMantissaAndAccuracy]
  · rw [if_neg zero]
    rcases Nat.lt_trichotomy (2 * r) n with less | same | greater
    · rw [Nat.compare_eq_lt.2 less]
      simp [ExtendedMantissa.ofMantissaAndAccuracy, zero, less, less.ne]
    · rw [Nat.compare_eq_eq.2 same]
      simp [ExtendedMantissa.ofMantissaAndAccuracy, zero, same]
    · rw [Nat.compare_eq_gt.2 greater]
      simp [ExtendedMantissa.ofMantissaAndAccuracy, zero, greater.le, greater.ne']

/-- The halves of a quotient are the quotient of twice the number, and the rest of that is what more
    there is. -/
theorem halves_quotient (m : Nat) {n : Nat} (pos : 0 < n) :
    halves (ExtendedMantissa.ofMantissaAndAccuracy (m / n) (accuracyOfFraction (m % n) n)) =
        2 * m / n ∧
      ((ExtendedMantissa.ofMantissaAndAccuracy (m / n)
        (accuracyOfFraction (m % n) n)).stickyBit = false ↔ 2 * m % n = 0) := by
  rw [ofMantissaAndAccuracy_fraction]
  have rest : m % n < n := Nat.mod_lt m pos
  have doubled : 2 * m = 2 * (m % n) + n * (2 * (m / n)) := by
    calc 2 * m = 2 * (n * (m / n) + m % n) := by rw [Nat.div_add_mod]
      _ = 2 * (m % n) + n * (2 * (m / n)) := by ring
  rw [doubled, Nat.add_mul_div_left _ _ pos, Nat.add_mul_mod_self_left]
  unfold halves
  dsimp only
  rw [decide_eq_false_iff_not]
  by_cases half : n ≤ 2 * (m % n)
  · have one : 2 * (m % n) / n = 1 := Nat.div_eq_of_lt_le (by omega) (by omega)
    have left : 2 * (m % n) % n = 2 * (m % n) - n := by
      rw [Nat.mod_eq_sub_mod half, Nat.mod_eq_of_lt (by omega)]
    have bit : decide (n ≤ 2 * (m % n) ∧ m % n ≠ 0) = true := decide_eq_true ⟨half, by omega⟩
    rw [one, left, bit]
    exact ⟨Nat.add_comm _ _, by omega⟩
  · have none : 2 * (m % n) / n = 0 := Nat.div_eq_of_lt (by omega)
    have left : 2 * (m % n) % n = 2 * (m % n) := Nat.mod_eq_of_lt (by omega)
    have bit : decide (n ≤ 2 * (m % n) ∧ m % n ≠ 0) = false := decide_eq_false fun h => half h.1
    rw [none, left, bit]
    exact ⟨Nat.add_comm _ _, by omega⟩

/-- A quotient and its rest tell of the exact quotient. -/
theorem tells_quotient (m : Nat) {n : Nat} (pos : 0 < n) :
    Tells (ExtendedMantissa.ofMantissaAndAccuracy (m / n) (accuracyOfFraction (m % n) n))
      (m / n : ℚ) := by
  obtain ⟨halves_eq, sticky⟩ := halves_quotient m pos
  have pos' : (0 : ℚ) < n := by exact_mod_cast pos
  have twice : 2 * (m / n : ℚ) = (2 * m : Nat) / n := by
    push_cast
    ring
  have divided : ((2 * m : Nat) : ℚ) = n * (2 * m / n : Nat) + (2 * m % n : Nat) := by
    exact_mod_cast (Nat.div_add_mod (2 * m) n).symm
  have rest : ((2 * m % n : Nat) : ℚ) < n := by exact_mod_cast Nat.mod_lt _ pos
  have nonneg : (0 : ℚ) ≤ (2 * m % n : Nat) := Nat.cast_nonneg _
  constructor
  · rw [halves_eq, twice, le_div_iff₀ pos']
    linarith
  · rw [halves_eq, twice, div_lt_iff₀ pos']
    linarith
  · rw [sticky, halves_eq, twice, div_eq_iff pos'.ne', ← Nat.cast_eq_zero (R := ℚ)]
    constructor
    · intro none
      linarith
    · intro whole
      linarith

namespace Stands

variable {m : Nat} {e : Int} {acc : Accuracy} {v : ℚ}

theorem shifted (h : Stands m e acc v) (n : Nat) :
    Tells (ExtendedMantissa.ofMantissaAndAccuracy m acc >>> n) (v / 2 ^ (e + n)) := by
  rw [zpow_add₀ (by decide), zpow_natCast, ← div_div]
  exact h.shiftRight n

/-- The exact value lies below the next power of two. -/
theorem lt (h : Stands m e acc v) : v < 2 ^ totalExponent m e := by
  have digits : (m : ℚ) + 1 ≤ 2 ^ (m.log2 + 1) := by
    exact_mod_cast Nat.succ_le_of_lt Nat.lt_log2_self
  have below := h.lt_succ
  rw [mantissa_ofMantissaAndAccuracy, div_lt_iff₀ (two_zpow_pos e)] at below
  calc v < (m + 1) * 2 ^ e := below
    _ ≤ 2 ^ (m.log2 + 1) * 2 ^ e := by gcongr
    _ = 2 ^ totalExponent m e := by
      rw [totalExponent, zpow_add₀ (by decide)]
      rfl

theorem ge (h : Stands m e acc v) (nonzero : m ≠ 0) : 2 ^ (totalExponent m e - 1) ≤ v := by
  have digits : (2 : ℚ) ^ m.log2 ≤ m := by exact_mod_cast Nat.log2_self_le nonzero
  have above := h.le
  rw [mantissa_ofMantissaAndAccuracy, le_div_iff₀ (two_zpow_pos e)] at above
  have position : totalExponent m e - 1 = m.log2 + e := by
    unfold totalExponent
    omega
  calc (2 : ℚ) ^ (totalExponent m e - 1) = 2 ^ m.log2 * 2 ^ e := by
        rw [position, zpow_add₀ (by decide), zpow_natCast]
    _ ≤ m * 2 ^ e := by gcongr
    _ ≤ v := above

end Stands

/-! ## The interval of a number -/

/-- Halfway to the number below, which is nearer by half if it has a lower exponent. -/
def lowerEnd (m : Nat) (e : Int) : ℚ :=
  (m - if m = normalFrom ∧ -1074 < e then 1 / 4 else 1 / 2) * 2 ^ e

/-- Halfway to the number above. -/
def upperEnd (m : Nat) (e : Int) : ℚ := (m + 1 / 2) * 2 ^ e

/-- The exact value lies in the interval of those that round to the number. The ends belong to it if
    the mantissa is even. -/
structure RoundsTo (m : Nat) (e : Int) (v : ℚ) : Prop where
  lower : lowerEnd m e ≤ v
  upper : v ≤ upperEnd m e
  even : v = lowerEnd m e ∨ v = upperEnd m e → m % 2 = 0

theorem lowerEnd_ge (m : Nat) (e : Int) : (m - 1 / 2) * 2 ^ e ≤ lowerEnd m e := by
  unfold lowerEnd
  have narrow : (if m = normalFrom ∧ -1074 < e then 1 / 4 else 1 / 2 : ℚ) ≤ 1 / 2 := by
    split <;> norm_num
  have pos := two_zpow_pos e
  gcongr

theorem lowerEnd_lt (m : Nat) (e : Int) : lowerEnd m e < m * 2 ^ e := by
  unfold lowerEnd
  refine mul_lt_mul_of_pos_right ?_ (two_zpow_pos e)
  split <;> linarith

theorem lt_upperEnd (m : Nat) (e : Int) : m * 2 ^ e < upperEnd m e := by
  unfold upperEnd
  refine mul_lt_mul_of_pos_right ?_ (two_zpow_pos e)
  linarith

/-- The number itself lies in its interval. -/
theorem roundsTo_self (m : Nat) (e : Int) : RoundsTo m e (m * 2 ^ e) := by
  refine ⟨(lowerEnd_lt m e).le, (lt_upperEnd m e).le, ?_⟩
  rintro (lower | upper)
  · exact absurd lower (lowerEnd_lt m e).ne'
  · exact absurd upper (lt_upperEnd m e).ne

theorem RoundsTo.nearest {m : Nat} {e : Int} {v : ℚ} (h : RoundsTo m e v) :
    Nearest m (v / 2 ^ e) := by
  have pos := two_zpow_pos e
  constructor
  · rw [le_div_iff₀ pos]
    exact (lowerEnd_ge m e).trans h.lower
  · rw [div_le_iff₀ pos]
    exact h.upper
  · rw [div_eq_iff pos.ne', div_eq_iff pos.ne']
    intro ends
    by_cases narrow : m = normalFrom ∧ -1074 < e
    · rw [narrow.1]
      rfl
    · refine h.even (ends.imp_left fun below => ?_)
      rw [below, lowerEnd, if_neg narrow]

/-! ## Shifts while rounding -/

/-- A mantissa that is brought to 53 bits, without rounding. -/
def shifted (m : Nat) (e : Int) : Nat × Int :=
  let s := shiftToTargetExponent Format.binary64 m e .exact
  (s.1.mantissa, s.2)

theorem shifted_eq (m : Nat) (e : Int) :
    shifted m e =
      (m / 2 ^ (max (totalExponent m e - 53) (-1074) - e).toNat,
        e + (max (totalExponent m e - 53) (-1074) - e).toNat) := by
  unfold shifted shiftToTargetExponent shiftToExponent
  simp only [targetExponent_eq, mantissa_shiftRight, mantissa_ofMantissaAndAccuracy]

theorem shifted_of_fits {m : Nat} {e : Int} (pos : 0 < m) (fits : Fits m e) :
    shifted m e = (m, e) := by
  obtain ⟨below, lowest, -, normal⟩ := fits
  unfold normalFrom at below normal
  have bits : m.log2 < 53 := (Nat.log2_lt (Nat.ne_of_gt pos)).2 below
  have target : max (totalExponent m e - 53) (-1074) = e := by
    unfold totalExponent
    rcases normal with normal | rfl
    · have same : m.log2 = 52 := (Nat.log2_eq_iff (Nat.ne_of_gt pos)).2 ⟨normal, below⟩
      omega
    · omega
  rw [shifted_eq, target, Int.sub_self]
  simp

/-- A mantissa of 54 bits is one of 53 bits with the next exponent. -/
theorem shifted_of_carry {e : Int} (notLow : -1074 < e) :
    shifted (2 * normalFrom) (e - 1) = (normalFrom, e) := by
  have bits : (2 * normalFrom).log2 = 53 := by decide
  have amount :
      (max (totalExponent (2 * normalFrom) (e - 1) - 53) (-1074) - (e - 1)).toNat = 1 := by
    unfold totalExponent
    omega
  rw [shifted_eq, amount]
  refine Prod.ext ?_ (by simp)
  exact Nat.mul_div_cancel_left normalFrom (by decide)

theorem rounding_eq {k : Nat} {q : Int} {acc : Accuracy} {v : ℚ} (h : Stands k q acc v)
    (fine : q ≤ max (totalExponent k q - 53) (-1074)) {m : Nat}
    (nearest : Nearest m (v / 2 ^ max (totalExponent k q - 53) (-1074))) :
    rounding k q acc = shifted m (max (totalExponent k q - 53) (-1074)) := by
  have position : q + (max (totalExponent k q - 53) (-1074) - q).toNat =
      max (totalExponent k q - 53) (-1074) := by omega
  have tells := h.shifted (max (totalExponent k q - 53) (-1074) - q).toNat
  rw [position] at tells
  have rounded := tells.roundedMantissa nearest
  unfold rounding shiftToTargetExponent shiftToExponent
  simp only [targetExponent_eq, position, rounded]
  rfl

/-! ## Rounding within the interval -/

variable {k m : Nat} {q e : Int} {acc : Accuracy} {v : ℚ}

/-- A value below the numbers with exponent `e` that rounds to one of them rounds to the lowest, and
    lies just below it. -/
theorem RoundsTo.of_lt (h : RoundsTo m e v) (fits : Fits m e) (notLow : -1074 < e)
    (below : v < normalFrom * 2 ^ e) :
    m = normalFrom ∧ (normalFrom - 1 / 4) * 2 ^ e ≤ v := by
  have pos := two_zpow_pos e
  have normal : normalFrom ≤ m := fits.normal.resolve_right (by omega)
  have above : (m - 1 / 2 : ℚ) * 2 ^ e < normalFrom * 2 ^ e :=
    ((lowerEnd_ge m e).trans h.lower).trans_lt below
  have close : (m : ℚ) - 1 / 2 < normalFrom := lt_of_mul_lt_mul_right above pos.le
  have close : (m : ℚ) < normalFrom + 1 := by linarith
  have close : m < normalFrom + 1 := by exact_mod_cast close
  obtain rfl : m = normalFrom := by omega
  refine ⟨rfl, ?_⟩
  have lower := h.lower
  rwa [lowerEnd, if_pos ⟨rfl, notLow⟩] at lower

theorem RoundsTo.lt (h : RoundsTo m e v) (fits : Fits m e) : v < 2 ^ (e + 53) := by
  have pos := two_zpow_pos e
  have below : (m : ℚ) + 1 ≤ 2 * normalFrom := by exact_mod_cast fits.below
  have bits : (2 * normalFrom : ℚ) = (2 : ℚ) ^ (53 : Int) := by norm_num [normalFrom]
  calc v ≤ (m + 1 / 2) * 2 ^ e := h.upper
    _ < (2 * normalFrom : ℚ) * 2 ^ e := by
      refine mul_lt_mul_of_pos_right ?_ pos
      linarith
    _ = 2 ^ (e + 53) := by rw [bits, Int.add_comm, zpow_add₀ (by decide)]

/-- Nothing below half of the least number is rounded up to a number. -/
theorem RoundsTo.half_le (h : RoundsTo m e v) (fits : Fits m e) (pos : 0 < m) :
    2 ^ (-1075 : Int) ≤ v := by
  have one : (1 : ℚ) ≤ m := by exact_mod_cast pos
  have unit : (2 : ℚ) ^ (-1074 : Int) ≤ 2 ^ e := zpow_le_zpow_right₀ (by norm_num) fits.lowest
  have half : (2 : ℚ) ^ (-1074 : Int) = 2 ^ (-1075 : Int) * 2 := by
    rw [← zpow_add_one₀ (by decide)]
    rfl
  have lower : (m - 1 / 2 : ℚ) * 2 ^ e ≤ v := (lowerEnd_ge m e).trans h.lower
  have least : (1 / 2 : ℚ) * 2 ^ e ≤ (m - 1 / 2) * 2 ^ e := by
    have := two_zpow_pos e
    gcongr
    linarith
  linarith

theorem normalFrom_mul_zpow (e : Int) : (normalFrom : ℚ) * 2 ^ e = 2 ^ (e + 52) := by
  have bits : (normalFrom : ℚ) = (2 : ℚ) ^ (52 : Int) := by norm_num [normalFrom]
  rw [bits, Int.add_comm, zpow_add₀ (by decide)]

/-- Just below a power of two the value is rounded at the lower exponent, and carries. -/
theorem rounding_of_lower (stands : Stands k q acc v)
    (fine : q ≤ max (totalExponent k q - 53) (-1074)) (notLow : -1074 < e)
    (target : max (totalExponent k q - 53) (-1074) = e - 1) (below : v < normalFrom * 2 ^ e)
    (close : (normalFrom - 1 / 4) * 2 ^ e ≤ v) : rounding k q acc = (normalFrom, e) := by
  have half : (2 : ℚ) ^ (e - 1) = 2 ^ e / 2 := zpow_sub_one₀ (by decide) e
  have pos := two_zpow_pos (e - 1)
  have nearest : Nearest (2 * normalFrom) (v / 2 ^ (e - 1)) := by
    constructor
    · rw [le_div_iff₀ pos, half]
      push_cast
      linarith
    · rw [div_le_iff₀ pos, half]
      push_cast
      linarith [two_zpow_pos e]
    · exact fun _ => rfl
  rw [← target] at nearest
  rw [rounding_eq stands fine nearest, target]
  exact shifted_of_carry notLow

/-- An exact value in the interval of a number is rounded to it. -/
theorem rounding_of_roundsTo (h : RoundsTo m e v) (fits : Fits m e) (pos : 0 < m)
    (stands : Stands k q acc v) (fine : q ≤ max (totalExponent k q - 53) (-1074)) :
    rounding k q acc = (m, e) := by
  have lowest := fits.lowest
  have digits : v < 2 ^ totalExponent k q := stands.lt
  rcases lt_trichotomy (max (totalExponent k q - 53) (-1074)) e with less | same | greater
  · have notLow : -1074 < e := by omega
    have below : v < normalFrom * 2 ^ e := by
      rw [normalFrom_mul_zpow]
      exact digits.trans_le (zpow_le_zpow_right₀ (by norm_num) (by omega))
    obtain ⟨rfl, close⟩ := h.of_lt fits notLow below
    refine rounding_of_lower stands fine notLow ?_ below close
    -- A lower exponent yet would be that of values below half of the number.
    by_contra other
    have half : v < 2 ^ (e + 51) :=
      digits.trans_le (zpow_le_zpow_right₀ (by norm_num) (by omega))
    have whole : (2 : ℚ) ^ (e + 52) = 2 ^ (e + 51) * 2 := by
      rw [← zpow_add_one₀ (by decide), Int.add_assoc]
      rfl
    have unit : (2 : ℚ) ^ e ≤ 2 ^ (e + 51) := zpow_le_zpow_right₀ (by norm_num) (by omega)
    have wide := normalFrom_mul_zpow e
    linarith [two_zpow_pos e]
  · have nearest := h.nearest
    rw [← same] at nearest
    rw [rounding_eq stands fine nearest, same]
    exact shifted_of_fits pos fits
  · -- The value would have more than 53 bits above the exponent.
    exfalso
    have nonzero : k ≠ 0 := by
      rintro rfl
      have position : totalExponent 0 q = q + 1 := by
        unfold totalExponent
        simp
        omega
      omega
    have above : (2 : ℚ) ^ (e + 53) ≤ v := by
      refine le_trans ?_ (stands.ge nonzero)
      exact zpow_le_zpow_right₀ (by norm_num) (by omega)
    exact absurd (h.lt fits) (not_lt.2 above)

theorem roundWithAccuracy_of_roundsTo (sign : Sign) (h : RoundsTo m e v) (fits : Fits m e)
    (pos : 0 < m) (stands : Stands k q acc v)
    (fine : q ≤ max (totalExponent k q - 53) (-1074)) :
    roundWithAccuracy Format.binary64 sign k q acc = .finite sign m e pos := by
  have rounded := rounding_of_roundsTo h fits pos stands fine
  have positive : 0 < (rounding k q acc).1 := by rwa [rounded]
  rw [roundWithAccuracy_of_pos positive]
  exact finite_congr _ _ (congrArg Prod.fst rounded) (congrArg Prod.snd rounded)

/-! ## Products and quotients -/

variable {s₁ s₂ : Sign} {m₁ m₂ : Nat} {e₁ e₂ : Int} {pos₁ : 0 < m₁} {pos₂ : 0 < m₂}

theorem fine_of_wide (wide : normalFrom ≤ k) (q : Int) :
    q ≤ max (totalExponent k q - 53) (-1074) := by
  have nonzero : k ≠ 0 := by
    rintro rfl
    exact absurd wide (by decide)
  have bits : 52 ≤ k.log2 := (Nat.le_log2 nonzero).2 wide
  unfold totalExponent
  omega

/-- The exact value is rounded once, at an exponent that leaves all bits or is the lowest one. -/
inductive RoundedFrom (sign : Sign) (v : ℚ) : UnpackedFloat → Prop where
  | once {k : Nat} {q : Int} {acc : Accuracy} (stands : Stands k q acc v)
      (fine : q ≤ max (totalExponent k q - 53) (-1074)) :
      RoundedFrom sign v (roundWithAccuracy Format.binary64 sign k q acc)

/-- A value in the interval of a number is rounded to the number. -/
theorem RoundedFrom.eq {sign : Sign} {u : UnpackedFloat} (h : RoundedFrom sign v u)
    (rounds : RoundsTo m e v) (fits : Fits m e) (pos : 0 < m) : u = .finite sign m e pos := by
  cases h with
  | once stands fine => exact roundWithAccuracy_of_roundsTo sign rounds fits pos stands fine

theorem roundedFrom_mul (wide : normalFrom ≤ m₁ * m₂) :
    RoundedFrom (s₁ * s₂) (m₁ * 2 ^ e₁ * (m₂ * 2 ^ e₂))
      (UnpackedFloat.mul Format.binary64 (.finite s₁ m₁ e₁ pos₁) (.finite s₂ m₂ e₂ pos₂)) := by
  have product : (m₁ * 2 ^ e₁ * (m₂ * 2 ^ e₂) : ℚ) = (m₁ * m₂ : Nat) * 2 ^ (e₁ + e₂) := by
    rw [zpow_add₀ (by decide)]
    push_cast
    ring
  rw [product]
  exact .once (stands_exact _ _) (fine_of_wide wide _)

/-- The exponent at which a quotient is taken. -/
def quotientExponent (m₁ : Nat) (e₁ : Int) (m₂ : Nat) (e₂ : Int) : Int :=
  min (e₁ - e₂) (max (totalExponent m₁ e₁ - totalExponent m₂ e₂ - 53) (-1074))

/-- The dividend at that exponent. -/
def dividend (m₁ : Nat) (e₁ : Int) (m₂ : Nat) (e₂ : Int) : Nat :=
  m₁ <<< (e₁ - e₂ - quotientExponent m₁ e₁ m₂ e₂).toNat

theorem stands_quotient (pos₂ : 0 < m₂) :
    Stands (dividend m₁ e₁ m₂ e₂ / m₂) (quotientExponent m₁ e₁ m₂ e₂)
      (accuracyOfFraction (dividend m₁ e₁ m₂ e₂ % m₂) m₂) (m₁ * 2 ^ e₁ / (m₂ * 2 ^ e₂)) := by
  have amount : ((e₁ - e₂ - quotientExponent m₁ e₁ m₂ e₂).toNat : Int) =
      e₁ - e₂ - quotientExponent m₁ e₁ m₂ e₂ := by
    unfold quotientExponent
    omega
  have shifted : (dividend m₁ e₁ m₂ e₂ : ℚ) =
      m₁ * (2 ^ e₁ / 2 ^ e₂ / 2 ^ quotientExponent m₁ e₁ m₂ e₂) := by
    rw [← zpow_sub₀ (by decide), ← zpow_sub₀ (by decide), ← amount, zpow_natCast, dividend,
      Nat.shiftLeft_eq]
    push_cast
    rfl
  have value : (m₁ * 2 ^ e₁ / (m₂ * 2 ^ e₂) / 2 ^ quotientExponent m₁ e₁ m₂ e₂ : ℚ) =
      dividend m₁ e₁ m₂ e₂ / m₂ := by
    rw [shifted]
    field_simp
  unfold Stands
  rw [value]
  exact tells_quotient _ pos₂

/-- A quotient has all its bits, or the lowest exponent. -/
theorem fine_quotient (pos₁ : 0 < m₁) (pos₂ : 0 < m₂) :
    quotientExponent m₁ e₁ m₂ e₂ ≤
      max (totalExponent (dividend m₁ e₁ m₂ e₂ / m₂) (quotientExponent m₁ e₁ m₂ e₂) - 53)
        (-1074) := by
  by_cases low : quotientExponent m₁ e₁ m₂ e₂ ≤ -1074
  · omega
  have amount : 53 + m₂.log2 ≤ m₁.log2 + (e₁ - e₂ - quotientExponent m₁ e₁ m₂ e₂).toNat := by
    unfold quotientExponent totalExponent at *
    omega
  refine fine_of_wide ?_ _
  rw [Nat.le_div_iff_mul_le pos₂, dividend, Nat.shiftLeft_eq]
  calc normalFrom * m₂ ≤ 2 ^ 52 * 2 ^ (m₂.log2 + 1) :=
        Nat.mul_le_mul (Nat.le_refl _) Nat.lt_log2_self.le
    _ = 2 ^ (53 + m₂.log2) := by rw [← Nat.pow_add]; congr 1; omega
    _ ≤ 2 ^ (m₁.log2 + (e₁ - e₂ - quotientExponent m₁ e₁ m₂ e₂).toNat) :=
        Nat.pow_le_pow_right (by decide) amount
    _ ≤ m₁ * 2 ^ (e₁ - e₂ - quotientExponent m₁ e₁ m₂ e₂).toNat := by
        rw [Nat.pow_add]
        exact Nat.mul_le_mul_right _ (Nat.log2_self_le (Nat.ne_of_gt pos₁))

theorem roundedFrom_div :
    RoundedFrom (s₁ / s₂) (m₁ * 2 ^ e₁ / (m₂ * 2 ^ e₂))
      (UnpackedFloat.div Format.binary64 (.finite s₁ m₁ e₁ pos₁) (.finite s₂ m₂ e₂ pos₂)) :=
  .once (stands_quotient pos₂) (fine_quotient pos₁ pos₂)

end Worksheet.Number
