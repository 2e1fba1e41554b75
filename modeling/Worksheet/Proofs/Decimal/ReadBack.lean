/-
  Numbers are read back from their text (`read?_render`). What is written are the fewest digits, in
  the interval of the number; what is read is the literal of these digits; and the literal denotes
  the number, because it lies in the interval. The sign is written apart from that, and only a zero
  may lose it.
-/
import Mathlib
import Worksheet.Proofs.Decimal.Reading
import Worksheet.Proofs.Decimal.Shortest
import Worksheet.Proofs.Decimal.Unsigned
import Worksheet.Proofs.Number.Truncation

namespace Worksheet.Decimal

open Float.Model UnpackedFloat Number

/-! ## Literals from texts -/

theorem splitSign_of_isDigit {c : Char} (digit : c.isDigit = true) (cs : List Char) :
    splitSign (c :: cs) = (false, c :: cs) := by
  unfold splitSign
  split
  · next same =>
    obtain ⟨rfl, -⟩ := List.cons.inj same
    exact absurd digit (by decide)
  · next same =>
    obtain ⟨rfl, -⟩ := List.cons.inj same
    exact absurd digit (by decide)
  · rfl

/-- Digits are read up to what does not go on with them. -/
theorem parse?_of_stops {whole fraction rest : List Char} (nonempty : whole ≠ [])
    (digits : ∀ c ∈ whole, c.isDigit = true) (stops : ∀ c ∈ rest.head?, c.isDigit = false)
    (split : splitFraction rest = (fraction, [])) :
    Literal.parse? (whole ++ rest) =
      some ⟨false, digitsValue (whole ++ fraction), -fraction.length⟩ := by
  have leading : leadingDigits (whole ++ rest) = whole :=
    Text.takeWhile_append_of_stops digits stops
  have after : afterDigits (whole ++ rest) = rest := Text.dropWhile_append_of_stops digits stops
  have unsigned : splitSign (whole ++ rest) = (false, whole ++ rest) := by
    obtain ⟨c, tail, rfl⟩ := List.exists_cons_of_ne_nil nonempty
    exact splitSign_of_isDigit (digits c List.mem_cons_self) _
  have some : (whole.isEmpty && fraction.isEmpty) = false := by
    rw [List.isEmpty_eq_false_iff.2 nonempty, Bool.false_and]
  unfold Literal.parse?
  rw [unsigned]
  dsimp only
  rw [leading, after, split]
  dsimp only
  rw [some]
  show Option.some (Literal.mk false _ (0 - _)) = _
  rw [Int.zero_sub]

theorem parse?_positional {s : Scaled} {whole fraction : List Char}
    (parts : Parts s whole fraction) :
    Literal.parse? (positional s false) =
      some ⟨false, digitsValue (whole ++ fraction), -fraction.length⟩ := by
  have digits : ∀ c ∈ whole, c.isDigit = true := fun c hc =>
    parts.digits c (List.mem_append_left _ hc)
  have digits' : ∀ c ∈ fraction, c.isDigit = true := fun c hc =>
    parts.digits c (List.mem_append_right _ hc)
  rcases parts.text with ⟨rfl, text⟩ | ⟨-, text⟩
  · rw [text]
    have read := parse?_of_stops parts.nonempty digits (by simp) (rfl : splitFraction [] = _)
    exact (congrArg Literal.parse? (List.append_nil whole)).symm.trans read
  · rw [text]
    refine parse?_of_stops parts.nonempty digits ?_ ?_
    · rintro c ⟨⟩
      rfl
    · show (fraction.takeWhile Char.isDigit, fraction.dropWhile Char.isDigit) = _
      rw [List.takeWhile_eq_self_iff.2 digits', List.dropWhile_eq_nil_iff.2 digits']

/-- The literal that is read has the value of the decimal that was written. -/
theorem value_parts {s : Scaled} {whole fraction : List Char} (parts : Parts s whole fraction) :
    (digitsValue (whole ++ fraction) * 10 ^ (-fraction.length : Int) : ℚ) = s.value := by
  rw [parts.value, Nat.cast_mul, natCast_ten_pow parts.places, Scaled.value, mul_assoc,
    ← zpow_add₀ (by decide), Int.add_neg_cancel_right]

theorem parse?_minus {c : Char} (digit : c.isDigit = true) {cs : List Char} {d : Nat} {k : Int}
    (parsed : Literal.parse? (c :: cs) = some ⟨false, d, k⟩) :
    Literal.parse? ('-' :: c :: cs) = some ⟨true, d, k⟩ := by
  unfold Literal.parse? at parsed ⊢
  rw [splitSign_of_isDigit digit] at parsed
  have minus : splitSign ('-' :: c :: cs) = (true, c :: cs) := rfl
  rw [minus]
  dsimp only at parsed ⊢
  split at parsed
  · cases parsed
  next some =>
    rw [if_neg some]
    obtain ⟨e, exponent, same⟩ := Option.map_eq_some_iff.1 parsed
    injection same with _ value scale
    rw [exponent, Option.map_some, value, scale]

/-! ## Signs -/

theorem abs_ofFields (sign : Sign) (e : BitVec 11) (m : BitVec 52) :
    (ofFields sign e m).abs = ofFields .positive e m := by
  unfold ofFields
  split
  · split <;> rfl
  · split
    · split <;> rfl
    · rfl

theorem neg_ofFields (sign : Sign) (e : BitVec 11) (m : BitVec 52) :
    (ofFields sign e m).neg = ofFields (-sign) e m := by
  unfold ofFields
  split
  · split <;> rfl
  · split
    · split <;> rfl
    · rfl

/-- A number is its magnitude, with its sign bit for a sign. -/
theorem unpack_eq_ite_signBit (x : Float) :
    x.toModel.unpack =
      if signBit x = true then x.toModel.unpack.abs.neg else x.toModel.unpack.abs := by
  have fields := unpack_eq_ofFields x.toModel.toBits.toBitVec
  rw [ofBitVec_unpackSign] at fields
  have unpacked : x.toModel.unpack =
      ofFields (if x.toBits.toNat < Nat.pow 2 63 then .positive else .negative) _ _ := fields
  rw [unpacked, abs_ofFields, neg_ofFields]
  cases negative : signBit x with
  | false =>
    rw [if_pos (signBit_eq_false_iff.1 negative), if_neg Bool.false_ne_true]
  | true =>
    rw [if_neg (fun below => ?_), if_pos rfl]
    · rfl
    · rw [signBit_eq_false_iff.2 below] at negative
      cases negative

/-- A number is determined by what it is unpacked to. -/
theorem eq_of_unpack_eq {x y : Float} (h : x.toModel.unpack = y.toModel.unpack) : x = y :=
  Float.toBits_inj.1 <| UInt64.toBitVec_inj.1 <|
    (unpack_inj_of_valid x.toModel.valid y.toModel.valid).1 h

/-- The only number with a sign bit that equals zero is the negative zero. -/
theorem bne_zero_of_signBit {x : Float} (negative : signBit x = true) (h : x ≠ -0.0) :
    (x != 0) = true := by
  rw [bne, Bool.not_eq_true', Bool.eq_false_iff, Ne, Float.beq_iff_ne_nan_and_eq]
  rintro ⟨-, -, rfl | ⟨rfl, -⟩ | ⟨rfl, -⟩⟩
  · exact absurd negative (by decide)
  · exact absurd negative (by decide)
  · exact h rfl

/-! ## Reading back -/

section

variable {format : Notation} (positions : format.plain = none) (noPoint : format.pointZero = false)
  {x : Float} (finite : x.isFinite = true)

include positions noPoint finite

/-- Without its sign, a number is read back. -/
theorem exists_literal :
    ∃ d k, Literal.parse? (format.magnitude x) = some ⟨false, d, k⟩ ∧
      (Literal.mk false d k).toFloat.toModel.unpack = x.toModel.unpack.abs := by
  rw [magnitude_of_isFinite positions noPoint finite]
  have zero := beq_zero_iff finite
  change x.toModel.unpack.isFinite = true at finite
  unfold size at zero
  cases u : x.toModel.unpack with
  | infinity sign | notANumber =>
    rw [u] at finite
    cases finite
  | zero sign =>
    rw [u] at zero
    rw [if_pos (zero.2 rfl)]
    exact ⟨0, 0, by decide, rfl⟩
  | finite sign m e pos =>
    obtain ⟨mantissa, exponent, sound⟩ := ofFloat_of_finite u
    obtain ⟨whole, fraction, parts⟩ := exists_parts ((Dyadic.ofFloat x).shortest format.tie)
    have rounds := sound.roundsTo_shortest format.tie
    rw [mantissa, exponent, ← value_parts parts] at rounds
    have fits := sound.fits
    rw [mantissa, exponent] at fits
    rw [u] at zero
    rw [if_neg fun equal => extent_ne_zero sign e pos (zero.1 equal)]
    refine ⟨_, _, parse?_positional parts, ?_⟩
    exact unpack_ofScientific rounds fits pos

/-- A finite number is read back from its text, but for the sign of a zero where the format does
    not show it. -/
theorem read?_render (zero : format.signedZero = true ∨ x ≠ -0.0) :
    read? (format.render x) = some x := by
  obtain ⟨d, k, parsed, value⟩ := exists_literal positions noPoint finite
  obtain ⟨c, tail, text, digit⟩ := (isPlain_magnitude positions noPoint finite).exists_cons
  have unpacked := unpack_eq_ite_signBit x
  suffices h : ∃ l, Literal.parse? (format.render x) = some l ∧ l.toFloat = x by
    obtain ⟨l, literal, rfl⟩ := h
    unfold read?
    rw [literal, Option.map_some, Option.filter_some, if_pos finite]
  unfold Notation.render
  cases negative : signBit x with
  | false =>
    rw [negative, if_neg Bool.false_ne_true] at unpacked
    rw [Bool.false_and, Bool.false_and, if_neg Bool.false_ne_true]
    exact ⟨_, parsed, eq_of_unpack_eq (value.trans unpacked.symm)⟩
  | true =>
    rw [negative, if_pos rfl] at unpacked
    have shown : (format.signedZero || x != 0) = true :=
      Bool.or_eq_true_iff.2 (zero.imp_right (bne_zero_of_signBit negative))
    rw [isNaN_of_isFinite finite, shown]
    rw [text] at parsed ⊢
    refine ⟨_, parse?_minus digit parsed, eq_of_unpack_eq ?_⟩
    show (-(Literal.mk false d k).toFloat).toModel.unpack = _
    rw [unpack_neg, value, ← unpacked]

end

end Worksheet.Decimal
