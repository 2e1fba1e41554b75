/-
  Numbers without a sign, and their text. A literal that is written without a sign denotes a
  number whose sign bit is not set (`signBit_toFloat`): the sign of a product or a quotient is
  decided by the signs of the operands alone. Such a number is written as digits with at most one
  point among them (`isPlain_render`).
-/
import Worksheet.Decimal.Literal
import Worksheet.Decimal.Notation
import Worksheet.Proofs.Text.Ascii

namespace Worksheet.Decimal

open Float.Model

/-! ## Signs -/

/-- The number has no negative sign, if it has one at all. -/
def Unsigned : UnpackedFloat → Prop
  | .infinity sign | .zero sign | .finite sign _ _ _ => sign = .positive
  | .notANumber => True

theorem unsigned_dite {c : Prop} [Decidable c] {u : c → UnpackedFloat} {v : ¬ c → UnpackedFloat}
    (hu : ∀ h, Unsigned (u h)) (hv : ∀ h, Unsigned (v h)) : Unsigned (dite c u v) := by
  by_cases h : c
  · rw [dif_pos h]
    exact hu h
  · rw [dif_neg h]
    exact hv h

theorem unsigned_roundWithAccuracy (spec : Format) (m : Nat) (e : Int)
    (acc : UnpackedFloat.Accuracy) :
    Unsigned (UnpackedFloat.roundWithAccuracy spec .positive m e acc) :=
  unsigned_dite (fun _ => rfl) (fun _ => rfl)

theorem Unsigned.mul {u v : UnpackedFloat} (spec : Format) (hu : Unsigned u)
    (hv : Unsigned v) : Unsigned (UnpackedFloat.mul spec u v) := by
  cases u <;> cases v <;> cases hu <;> cases hv <;>
    first | rfl | trivial | exact unsigned_roundWithAccuracy _ _ _ _

theorem Unsigned.div {u v : UnpackedFloat} (spec : Format) (hu : Unsigned u)
    (hv : Unsigned v) : Unsigned (UnpackedFloat.div spec u v) := by
  cases u <;> cases v <;> cases hu <;> cases hv <;>
    first | rfl | trivial | exact unsigned_roundWithAccuracy _ _ _ _

theorem unsigned_ofScientific (spec : Format) (m : Nat) (e : Int) :
    Unsigned (UnpackedFloat.ofScientific spec m e) := by
  unfold UnpackedFloat.ofScientific
  refine unsigned_dite (fun _ => rfl) fun _ => ?_
  refine iteInduction (fun _ => rfl) fun _ => ?_
  refine iteInduction (fun _ => rfl) fun _ => ?_
  exact iteInduction (fun _ => Unsigned.mul spec rfl rfl) (fun _ => Unsigned.div spec rfl rfl)

theorem signBit_eq_false_iff {x : Float} : signBit x = false ↔ x.toBits.toNat < Nat.pow 2 63 := by
  unfold signBit
  rw [decide_eq_false_iff_not]
  exact Nat.not_le

theorem toNat_packComponents_lt (e : BitVec Format.binary64.exponentBits)
    (m : BitVec Format.binary64.mantissaBitsWithoutImplicit) :
    (UnpackedFloat.packComponents Format.binary64 .positive e m).toNat < Nat.pow 2 63 := by
  have he : e.toNat < 2 ^ 11 := e.isLt
  have hm : m.toNat < 2 ^ 52 := m.isLt
  have sign : UnpackedFloat.Sign.positive.toBitVec.toNat = 0 := rfl
  have shifted : e.toNat <<< 52 < 2 ^ 63 := by
    rw [Nat.shiftLeft_eq]
    omega
  unfold UnpackedFloat.packComponents
  rw [BitVec.toNat_append, BitVec.toNat_append, sign, Nat.zero_shiftLeft, Nat.zero_or]
  exact Nat.or_lt_two_pow shifted (by omega)

/-- A packed number without a sign does not have the sign bit. -/
theorem Unsigned.signBit_pack {u : UnpackedFloat} (h : Unsigned u) :
    signBit (.ofModel (pack u)) = false := by
  have below : (UnpackedFloat.pack Format.binary64 u).toNat < Nat.pow 2 63 := by
    cases u with
    | notANumber => exact toNat_packComponents_lt _ _
    | infinity sign =>
      cases h
      exact toNat_packComponents_lt _ _
    | zero sign =>
      cases h
      exact toNat_packComponents_lt _ _
    | finite sign m e pos =>
      cases h
      unfold UnpackedFloat.pack
      dsimp only
      split
      · exact toNat_packComponents_lt _ _
      split
      · exact toNat_packComponents_lt _ _
      · exact toNat_packComponents_lt _ _
  exact signBit_eq_false_iff.2 below

theorem unpackSign_of_lt {b : BitVec Format.binary64.numBits} (h : b.toNat < Nat.pow 2 63) :
    UnpackedFloat.unpackSign b = 0#1 := by
  apply BitVec.eq_of_toNat_eq
  unfold UnpackedFloat.unpackSign
  rw [BitVec.toNat_cast, BitVec.extractLsb_toNat]
  show b.toNat >>> 63 % 2 ^ (63 - 63 + 1) = 0
  rw [Nat.shiftRight_eq_div_pow, Nat.div_eq_of_lt h, Nat.zero_mod]

theorem unsigned_unpack {x : Float} (h : signBit x = false) : Unsigned x.toModel.unpack := by
  have below : x.toModel.toBits.toBitVec.toNat < Nat.pow 2 63 := signBit_eq_false_iff.1 h
  have sign : UnpackedFloat.Sign.ofBitVec
      (@UnpackedFloat.unpackSign Format.binary64 x.toModel.toBits.toBitVec) =
        .positive := by
    rw [unpackSign_of_lt below]
    rfl
  show Unsigned (UnpackedFloat.unpack Format.binary64 x.toModel.toBits.toBitVec)
  unfold UnpackedFloat.unpack
  dsimp only
  rw [sign]
  refine iteInduction (fun _ => iteInduction (fun _ => rfl) fun _ => trivial) fun _ => ?_
  exact iteInduction (fun _ => unsigned_dite (fun _ => rfl) fun _ => rfl) fun _ => rfl

theorem signBit_mul {x y : Float} (hx : signBit x = false) (hy : signBit y = false) :
    signBit (x * y) = false :=
  ((unsigned_unpack hx).mul Format.binary64 (unsigned_unpack hy)).signBit_pack

theorem signBit_div {x y : Float} (hx : signBit x = false) (hy : signBit y = false) :
    signBit (x / y) = false :=
  ((unsigned_unpack hx).div Format.binary64 (unsigned_unpack hy)).signBit_pack

theorem signBit_toFloat (n : UInt64) : signBit n.toFloat = false := by
  refine Unsigned.signBit_pack (u := UnpackedFloat.ofUInt64 Format.binary64 n) ?_
  show Unsigned (UnpackedFloat.normalize _ (n.toNat : Int) _ .positive)
  unfold UnpackedFloat.normalize
  split
  · next negative =>
    rw [Int.compare_eq_lt] at negative
    omega
  · rfl
  · exact unsigned_roundWithAccuracy _ _ _ _

theorem signBit_powersOfTen :
    ∀ x ∈ Float.exactlyRepresentablePowersOfTen.toList, signBit x = false := by decide

/-- No sign comes into a number that is scaled by a power of ten. -/
theorem signBit_ofScientific (m : Nat) (s : Bool) (e : Nat) :
    signBit (Float.ofScientific m s e) = false := by
  unfold Float.ofScientific
  split
  · split
    · exact signBit_div (signBit_toFloat _) (signBit_powersOfTen _ (Array.getElem_mem_toList _))
    · exact signBit_mul (signBit_toFloat _) (signBit_powersOfTen _ (Array.getElem_mem_toList _))
  · exact (unsigned_ofScientific _ _ _).signBit_pack

/-- A literal without a sign denotes a number without one. -/
theorem Literal.signBit_toFloat {l : Literal} (h : l.negative = false) :
    signBit l.toFloat = false := by
  unfold Literal.toFloat
  rw [h]
  exact signBit_ofScientific _ _ _

/-! ## Finite numbers -/

theorem isNaN_of_isFinite {x : Float} (h : x.isFinite = true) : x.isNaN = false := by
  change x.toModel.unpack.isFinite = true at h
  show x.toModel.unpack.isNaN = false
  cases u : x.toModel.unpack <;> rw [u] at h <;> first | rfl | cases h

theorem isInf_of_isFinite {x : Float} (h : x.isFinite = true) : x.isInf = false := by
  change x.toModel.unpack.isFinite = true at h
  show x.toModel.unpack.isInf = false
  cases u : x.toModel.unpack <;> rw [u] at h <;> first | rfl | cases h

/-- A finite number equals itself. -/
theorem beq_self_of_isFinite {x : Float} (h : x.isFinite = true) : (x == x) = true := by
  change x.toModel.unpack.isFinite = true at h
  show (x.toModel.unpack.compare x.toModel.unpack == some .eq) = true
  cases u : x.toModel.unpack with
  | notANumber =>
    rw [u] at h
    cases h
  | infinity sign =>
    rw [u] at h
    cases h
  | zero sign => rfl
  | finite sign m e pos =>
    have same : (compare e e).then (compare m m) = .eq := by
      rw [Int.compare_eq_eq.2 rfl, Nat.compare_eq_eq.2 rfl]
      rfl
    cases sign with
    | negative =>
      show (some ((compare e e).then (compare m m)).swap == some Ordering.eq) = true
      rw [same]
      rfl
    | positive =>
      show (some ((compare e e).then (compare m m)) == some Ordering.eq) = true
      rw [same]
      rfl

/-! ## Text -/

/-- The text is digits, with at most one point among them. -/
def IsPlain (cs : List Char) : Prop :=
  ∃ whole fraction : List Char, whole ≠ [] ∧ (∀ c ∈ whole, c.isDigit = true) ∧
    (∀ c ∈ fraction, c.isDigit = true) ∧
    (cs = whole ∨ fraction ≠ [] ∧ cs = whole ++ '.' :: fraction)

/-- A plain text begins with a digit. -/
theorem IsPlain.exists_cons {cs : List Char} (h : IsPlain cs) :
    ∃ c tail, cs = c :: tail ∧ c.isDigit = true := by
  obtain ⟨whole, fraction, nonempty, digits, -, shape⟩ := h
  obtain ⟨c, tail, rfl⟩ := List.exists_cons_of_ne_nil nonempty
  have digit : c.isDigit = true := digits c List.mem_cons_self
  rcases shape with rfl | ⟨-, rfl⟩
  · exact ⟨c, tail, rfl, digit⟩
  · exact ⟨c, tail ++ '.' :: fraction, rfl, digit⟩

theorem isDigit_of_mem_digitChars {n : Nat} {c : Char} (h : c ∈ digitChars n) :
    c.isDigit = true := Text.isDigit_of_mem_toDigits h

theorem isDigit_of_mem_replicate {n : Nat} {c : Char} (h : c ∈ List.replicate n '0') :
    c.isDigit = true := by
  rw [(List.mem_replicate.1 h).2]
  rfl

/-- The digits before and after the point of a decimal that is written positionally. Together they
    are those of the decimal, with zeros before or after them. -/
structure Parts (s : Scaled) (whole fraction : List Char) : Prop where
  nonempty : whole ≠ []
  digits : ∀ c ∈ whole ++ fraction, c.isDigit = true
  text : fraction = [] ∧ positional s false = whole ∨
    fraction ≠ [] ∧ positional s false = whole ++ '.' :: fraction
  places : 0 ≤ s.exponent + fraction.length
  value : digitsValue (whole ++ fraction) =
    s.digits * Nat.pow 10 (s.exponent + fraction.length).toNat

theorem digitsValue_digitChars (n : Nat) : digitsValue (digitChars n) = n :=
  Nat.ofDigitChars_ten_toDigits

theorem digitsValue_append_zeros (cs : List Char) (n : Nat) :
    digitsValue (cs ++ List.replicate n '0') = digitsValue cs * Nat.pow 10 n := by
  show Nat.ofDigitChars 10 (cs ++ List.replicate n '0') 0 = _
  rw [Nat.ofDigitChars_append, Nat.ofDigitChars_replicate_zero, Nat.mul_comm]
  rfl

theorem digitsValue_zeros_append (n : Nat) (cs : List Char) :
    digitsValue (List.replicate n '0' ++ cs) = digitsValue cs := by
  show Nat.ofDigitChars 10 (List.replicate n '0' ++ cs) 0 = _
  rw [Nat.ofDigitChars_append, Nat.ofDigitChars_replicate_zero]
  rfl

/-- All digits of a whole number stand before the point, with its zeros. -/
theorem parts_of_nonneg {s : Scaled} (nonneg : 0 ≤ s.exponent) :
    Parts s (digitChars s.digits ++ List.replicate s.exponent.toNat '0') [] where
  nonempty := List.append_ne_nil_of_left_ne_nil Nat.toDigits_ne_nil _
  digits := by
    intro c hc
    rw [List.append_nil, List.mem_append] at hc
    exact hc.elim isDigit_of_mem_digitChars isDigit_of_mem_replicate
  text := by
    refine .inl ⟨rfl, ?_⟩
    unfold positional
    dsimp only
    rw [if_pos nonneg]
    exact List.append_nil _
  places := by
    rw [List.length_nil]
    omega
  value := by
    rw [List.append_nil, digitsValue_append_zeros, digitsValue_digitChars, List.length_nil,
      Int.natCast_zero, Int.add_zero]

/-- With a negative exponent the number of digits after the point is the exponent. -/
theorem parts_of_neg {s : Scaled} {whole fraction : List Char} (neg : ¬ 0 ≤ s.exponent)
    (length : fraction.length = (-s.exponent).toNat) (nonempty : whole ≠ [])
    (digits : ∀ c ∈ whole ++ fraction, c.isDigit = true)
    (text : positional s false = whole ++ '.' :: fraction)
    (value : digitsValue (whole ++ fraction) = s.digits) : Parts s whole fraction where
  nonempty := nonempty
  digits := digits
  text := by
    refine .inr ⟨?_, text⟩
    rintro rfl
    rw [List.length_nil] at length
    omega
  places := by omega
  value := by
    have none : (s.exponent + fraction.length).toNat = 0 := by omega
    rw [value, none]
    exact (Nat.mul_one _).symm

/-- With a negative exponent the point stands among the digits, or there are zeros between. -/
theorem positional_of_neg {s : Scaled} (neg : ¬ 0 ≤ s.exponent) :
    positional s false =
      if (-s.exponent).toNat < (digitChars s.digits).length then
        (digitChars s.digits).take ((digitChars s.digits).length - (-s.exponent).toNat) ++
          '.' :: (digitChars s.digits).drop
            ((digitChars s.digits).length - (-s.exponent).toNat)
      else
        '0' :: '.' :: List.replicate ((-s.exponent).toNat - (digitChars s.digits).length) '0' ++
          digitChars s.digits := by
  unfold positional
  dsimp only
  rw [if_neg neg]

theorem exists_parts (s : Scaled) : ∃ whole fraction, Parts s whole fraction := by
  by_cases nonneg : 0 ≤ s.exponent
  · exact ⟨_, _, parts_of_nonneg nonneg⟩
  have layout := positional_of_neg nonneg
  by_cases inside : (-s.exponent).toNat < (digitChars s.digits).length
  · rw [if_pos inside] at layout
    refine ⟨_, _, parts_of_neg nonneg ?_ ?_ ?_ layout ?_⟩
    · rw [List.length_drop]
      omega
    · rw [Ne, List.take_eq_nil_iff]
      rintro (none | none)
      · omega
      · exact Nat.toDigits_ne_nil none
    · rw [List.take_append_drop]
      exact fun c hc => isDigit_of_mem_digitChars hc
    · rw [List.take_append_drop, digitsValue_digitChars]
  · rw [if_neg inside] at layout
    refine ⟨['0'], List.replicate ((-s.exponent).toNat - (digitChars s.digits).length) '0' ++
      digitChars s.digits, parts_of_neg nonneg ?_ (List.cons_ne_nil _ _) ?_ layout ?_⟩
    · rw [List.length_append, List.length_replicate]
      omega
    · intro c hc
      rw [List.mem_append, List.mem_append, List.mem_singleton] at hc
      rcases hc with rfl | hc | hc
      · rfl
      · exact isDigit_of_mem_replicate hc
      · exact isDigit_of_mem_digitChars hc
    · have zero : ['0'] = List.replicate 1 '0' := rfl
      rw [zero, digitsValue_zeros_append, digitsValue_zeros_append, digitsValue_digitChars]

/-- Written positionally, a decimal is plain. -/
theorem isPlain_positional (s : Scaled) : IsPlain (positional s false) := by
  obtain ⟨whole, fraction, parts⟩ := exists_parts s
  exact ⟨whole, fraction, parts.nonempty, fun c hc => parts.digits c (List.mem_append_left _ hc),
    fun c hc => parts.digits c (List.mem_append_right _ hc), parts.text.imp_left And.right⟩

/-- Where the format knows no exponents, a finite number is written positionally. -/
theorem magnitude_of_isFinite {format : Notation} (positions : format.plain = none)
    (noPoint : format.pointZero = false) {x : Float} (finite : x.isFinite = true) :
    format.magnitude x =
      positional (if x == 0 then ⟨0, 0⟩ else (Dyadic.ofFloat x).shortest format.tie) false := by
  unfold Notation.magnitude Notation.layout
  rw [isNaN_of_isFinite finite, isInf_of_isFinite finite, positions, noPoint]
  show (if x == 0 then _ else _) = _
  split <;> rfl

/-- Without its sign a finite number is written plainly where the format knows no exponents. -/
theorem isPlain_magnitude {format : Notation} (positions : format.plain = none)
    (noPoint : format.pointZero = false) {x : Float} (finite : x.isFinite = true) :
    IsPlain (format.magnitude x) := by
  rw [magnitude_of_isFinite positions noPoint finite]
  exact isPlain_positional _

theorem isPlain_render {format : Notation} (positions : format.plain = none)
    (noPoint : format.pointZero = false) {x : Float} (finite : x.isFinite = true)
    (unsigned : signBit x = false) : IsPlain (format.render x) := by
  unfold Notation.render
  rw [unsigned]
  exact isPlain_magnitude positions noPoint finite

end Worksheet.Decimal
