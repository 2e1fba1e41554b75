/-
  The numbers of 64 bits, unpacked. Each has one form (`canonical_unpack`): a mantissa of 53 bits,
  or of fewer at the lowest exponent. Packing such a form and unpacking it again gives it back
  (`unpack_pack`), so what an operation gives can be read off the unpacked forms.
-/
import Mathlib.Algebra.Group.Nat.Defs
import Worksheet.Number.Rounding

namespace Worksheet.Number

open Float.Model

/-- The smallest mantissa of 53 bits, 2^52. -/
def normalFrom : Nat := 4503599627370496

/-- A mantissa and an exponent that fit 64 bits: the mantissa has 53 bits, or fewer at the lowest
    exponent. -/
structure Fits (m : Nat) (e : Int) : Prop where
  below : m < 2 * normalFrom
  lowest : -1074 ≤ e
  highest : e ≤ 971
  normal : normalFrom ≤ m ∨ e = -1074

/-- The form that unpacking gives. -/
def Canonical : UnpackedFloat → Prop
  | .finite _ m e _ => Fits m e
  | .infinity _ | .zero _ | .notANumber => True

/-! ## Fields -/

/-- The leading bit of a mantissa that has all 53 bits is not stored. -/
theorem toNat_implicit (m : BitVec 52) : (1#1 ++ m).toNat = normalFrom + m.toNat := by
  rw [BitVec.toNat_append, ← Nat.shiftLeft_add_eq_or_of_lt m.isLt]
  rfl

/-- The number with the given fields. -/
def ofFields (sign : UnpackedFloat.Sign) (e : BitVec 11) (m : BitVec 52) : UnpackedFloat :=
  if e = -1#11 then
    if m = 0#52 then .infinity sign else .notANumber
  else if e = 0#11 then
    if h : m = 0#52 then .zero sign
    else .finite sign m.toNat (e.toNat - 1075 + 1) (by
      simpa [BitVec.toNat_pos, BitVec.pos_iff_ne_zero] using h)
  else .finite sign (1#1 ++ m).toNat (e.toNat - 1075) (by
    rw [toNat_implicit]
    exact Nat.add_pos_left (by decide) _)

theorem unpack_eq_ofFields (b : BitVec Format.binary64.numBits) :
    UnpackedFloat.unpack Format.binary64 b =
      ofFields (.ofBitVec (UnpackedFloat.unpackSign b)) (UnpackedFloat.unpackExponent b)
        (UnpackedFloat.unpackMantissa b) := rfl

theorem finite_congr {sign : UnpackedFloat.Sign} {m m' : Nat} {e e' : Int} (pos : 0 < m)
    (pos' : 0 < m') (mantissa : m = m') (exponent : e = e') :
    UnpackedFloat.finite sign m e pos = .finite sign m' e' pos' := by
  subst mantissa exponent
  rfl

theorem ofFields_of_normal {sign : UnpackedFloat.Sign} {e : BitVec 11} {m : BitVec 52}
    (above : e.toNat ≠ 0) (below : e.toNat ≠ 2047) :
    ofFields sign e m = .finite sign (normalFrom + m.toNat) (e.toNat - 1075)
      (Nat.add_pos_left (by decide) _) := by
  have notSpecial : e ≠ -1#11 := fun h => below (congrArg BitVec.toNat h)
  have normal : e ≠ 0#11 := fun h => above (congrArg BitVec.toNat h)
  rw [ofFields, if_neg notSpecial, if_neg normal]
  exact finite_congr _ _ (toNat_implicit m) rfl

theorem ofFields_of_subnormal {sign : UnpackedFloat.Sign} {m : BitVec 52} (pos : 0 < m.toNat) :
    ofFields sign 0#11 m = .finite sign m.toNat (-1074) pos := by
  have nonzero : m ≠ 0#52 := fun h => Nat.ne_of_gt pos (congrArg BitVec.toNat h)
  rw [ofFields, if_neg (by decide), if_pos rfl, dif_neg nonzero]
  rfl

/-- The forms that fields describe. Only the highest exponent field is not that of a finite
    number. -/
@[elab_as_elim]
theorem ofFields_cases {motive : UnpackedFloat → Prop} (sign : UnpackedFloat.Sign)
    (e : BitVec 11) (m : BitVec 52)
    (infinity : e.toNat = 2047 → motive (.infinity sign))
    (notANumber : e.toNat = 2047 → motive .notANumber) (zero : motive (.zero sign))
    (finite : ∀ m e pos, Fits m e → motive (.finite sign m e pos)) :
    motive (ofFields sign e m) := by
  have mantissa : m.toNat < normalFrom := m.isLt
  have exponent : e.toNat < 2048 := e.isLt
  by_cases special : e.toNat = 2047
  · rw [ofFields, if_pos (BitVec.eq_of_toNat_eq special)]
    by_cases whole : m = 0#52
    · rw [if_pos whole]
      exact infinity special
    · rw [if_neg whole]
      exact notANumber special
  by_cases lowest : e = 0#11
  · subst lowest
    by_cases none : m = 0#52
    · subst none
      exact zero
    · have pos : 0 < m.toNat := Nat.pos_of_ne_zero fun h => none (BitVec.eq_of_toNat_eq h)
      rw [ofFields_of_subnormal pos]
      refine finite _ _ _ ⟨?_, ?_, ?_, .inr rfl⟩ <;> omega
  · have above : e.toNat ≠ 0 := fun h => lowest (BitVec.eq_of_toNat_eq h)
    rw [ofFields_of_normal above special]
    refine finite _ _ _ ⟨?_, ?_, ?_, .inl ?_⟩ <;> omega

theorem canonical_ofFields (sign : UnpackedFloat.Sign) (e : BitVec 11) (m : BitVec 52) :
    Canonical (ofFields sign e m) := by
  refine ofFields_cases sign e m (fun _ => trivial) (fun _ => trivial) trivial ?_
  intro m e pos fits
  exact fits

theorem canonical_unpack (x : Float) : Canonical x.toModel.unpack :=
  canonical_ofFields _ _ _

/-! ## Packing -/

theorem unpackSign_packComponents (spec : Format) (sign : UnpackedFloat.Sign)
    (e : BitVec spec.exponentBits) (m : BitVec spec.mantissaBitsWithoutImplicit) :
    UnpackedFloat.unpackSign (UnpackedFloat.packComponents spec sign e m) = sign.toBitVec := by
  refine BitVec.eq_of_getLsbD_eq fun i hi => ?_
  have first : i = 0 := by omega
  subst first
  unfold UnpackedFloat.unpackSign UnpackedFloat.packComponents
  simp [BitVec.getLsbD_append, BitVec.getElem_append]

theorem unpack_packComponents (sign : UnpackedFloat.Sign) (e : BitVec 11) (m : BitVec 52) :
    UnpackedFloat.unpack Format.binary64 (UnpackedFloat.packComponents Format.binary64 sign e m) =
      ofFields sign e m := by
  have signs : UnpackedFloat.Sign.ofBitVec sign.toBitVec = sign := by cases sign <;> rfl
  rw [unpack_eq_ofFields, unpackSign_packComponents, UnpackedFloat.unpackExponent_packComponents,
    UnpackedFloat.unpackMantissa_packComponents, signs]

/-- A finite number is packed into fields, as long as its exponent is not too high for them. -/
theorem unpack_pack_finite {sign : UnpackedFloat.Sign} {m : Nat} {e : Int} (pos : 0 < m)
    (highest : e ≤ 971) :
    (pack (.finite sign m e pos)).unpack =
      ofFields sign (if m.log2 + 1 = 53 then .ofNat 11 (e + 1075).toNat else 0#11)
        (.ofNat 52 m) := by
  have biased : (e + Format.binary64.exponentBias + (52 : Nat)).toNat = (e + 1075).toNat := by
    have bias : (Format.binary64.exponentBias : Int) = 1023 := rfl
    omega
  have fits : ¬ 2 ^ 11 ≤ (e + 1075).toNat + 1 := by omega
  show UnpackedFloat.unpack Format.binary64 (UnpackedFloat.pack Format.binary64 _) = _
  unfold UnpackedFloat.pack
  dsimp only
  rw [biased, if_neg fits]
  show UnpackedFloat.unpack Format.binary64 (if m.log2 + 1 = 53 then _ else _) = _
  split
  · exact unpack_packComponents _ _ _
  · exact unpack_packComponents _ _ _

theorem unpack_pack {u : UnpackedFloat} (h : Canonical u) : (pack u).unpack = u := by
  cases u with
  | notANumber => exact unpack_packComponents _ _ _
  | infinity sign => exact unpack_packComponents _ _ _
  | zero sign => exact unpack_packComponents _ _ _
  | finite sign m e pos =>
    obtain ⟨below, lowest, highest, normal⟩ := h
    unfold normalFrom at below normal
    have bits : m.log2 = 52 ↔ 4503599627370496 ≤ m := by
      rw [Nat.log2_eq_iff (Nat.ne_of_gt pos)]
      omega
    rw [unpack_pack_finite pos highest]
    by_cases whole : 4503599627370496 ≤ m
    · rw [if_pos (by omega)]
      have exponent : (BitVec.ofNat 11 (e + 1075).toNat).toNat = (e + 1075).toNat := by
        rw [BitVec.toNat_ofNat]
        omega
      have fraction : (BitVec.ofNat 52 m).toNat = m - 4503599627370496 := by
        rw [BitVec.toNat_ofNat]
        omega
      rw [ofFields_of_normal (by omega) (by omega)]
      refine finite_congr _ _ ?_ (by omega)
      unfold normalFrom
      omega
    · rw [if_neg (by omega)]
      have fraction : (BitVec.ofNat 52 m).toNat = m := by
        rw [BitVec.toNat_ofNat]
        omega
      rw [ofFields_of_subnormal (by omega)]
      exact finite_congr _ _ (by omega) (by omega)

theorem isFinite_ofFields {sign : UnpackedFloat.Sign} {e : BitVec 11} (h : e.toNat ≠ 2047)
    (m : BitVec 52) : (ofFields sign e m).isFinite = true := by
  refine ofFields_cases sign e m (fun special => absurd special h)
    (fun special => absurd special h) rfl ?_
  intros
  rfl

/-- What is packed is finite if its exponent is not too high. -/
theorem isFinite_pack_finite {sign : UnpackedFloat.Sign} {m : Nat} {e : Int} (pos : 0 < m)
    (highest : e ≤ 971) : (pack (.finite sign m e pos)).unpack.isFinite = true := by
  rw [unpack_pack_finite pos highest]
  refine isFinite_ofFields ?_ _
  split
  · rw [BitVec.toNat_ofNat]
    omega
  · decide

end Worksheet.Number
