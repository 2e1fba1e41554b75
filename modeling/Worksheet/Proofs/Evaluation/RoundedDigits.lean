/-
  Rounding to digits after the point. The number is multiplied by a power of ten, rounded to a whole
  number and divided by the power again. A power beyond all numbers is provided for: the number
  stays as it is. The product is not provided for, and that is the one way in which a finite number
  becomes an error (`round_faults_iff_scaling_overflows`).
-/
import Worksheet.Evaluation.Evaluate
import Worksheet.Proofs.Evaluation.Demands
import Worksheet.Proofs.Number.Scaling

namespace Worksheet

open Number

/-- The power of ten for a count of digits is a number, but the product with it is none. -/
def ScalingOverflows (x digits : Float) : Prop :=
  (Number.power 10.0 digits.abs).isFinite = true ∧ (x * Number.power 10.0 digits.abs).isFinite = false

instance (x digits : Float) : Decidable (ScalingOverflows x digits) :=
  inferInstanceAs (Decidable (_ ∧ _))

namespace Function

variable {x d : Float} {host : Host}

theorem roundTo_of_scalingOverflows (nonneg : d ≥ 0.0)
    (scale : (Number.power 10.0 d.abs).isFinite = true → IsScale (Number.power 10.0 d.abs))
    (h : ScalingOverflows x d) : roundTo x d = .fault .number := by
  obtain ⟨finite, overflows⟩ := h
  have lost := isFinite_unscaled (scale finite) x
  rw [overflows] at lost
  unfold roundTo
  simp only [finite, if_pos nonneg, Value.finite, lost, Bool.not_true, Bool.false_eq_true, if_false]

theorem exists_roundTo (hx : x.isFinite = true) (nonneg : d ≥ 0.0)
    (scale : (Number.power 10.0 d.abs).isFinite = true → IsScale (Number.power 10.0 d.abs))
    (h : ¬ ScalingOverflows x d) : ∃ y : Float, y.isFinite = true ∧ roundTo x d = .number y := by
  unfold roundTo
  cases finite : (Number.power 10.0 d.abs).isFinite with
  | false =>
    refine ⟨if d > 0.0 then x else 0.0, ?_, by simp only [finite, Bool.not_false, if_true]⟩
    split
    · exact hx
    · decide
  | true =>
    have product : (x * Number.power 10.0 d.abs).isFinite = true := by
      rw [← Bool.not_eq_false]
      exact fun overflows => h ⟨finite, overflows⟩
    have kept := (isFinite_unscaled (scale finite) x).trans product
    refine ⟨_, kept, ?_⟩
    simp only [finite, if_pos nonneg, Value.finite, kept, Bool.not_true, Bool.false_eq_true,
      if_false, if_true]

/-- A number and a count of digits, once they are read. -/
theorem value_round {o o' : Operand} (first : (o.number host).run.value = .ok x)
    (second : (o'.number host).run.value = .ok d) :
    (round host [o, o']).value = roundTo x (truncate d) := by
  unfold round
  rw [show operandAt [o, o'] 0 = pure o from rfl, pure_bind, Reading.toValue, Traced.value_map,
    Reading.run_bind_of_ok first, Traced.value_bind]
  show Value.ofExcept ((truncate <$> o'.number host) >>= _).run.value = _
  rw [bind_map_left, Reading.run_bind_of_ok second, Traced.value_bind]
  rfl

end Function

theorem value_call_round (host : Host) (a b : Expr) :
    (Expr.call "ROUND" [a, b]).value host =
      (Function.round host [a.operand .standard host, b.operand .standard host]).value := by
  have found : Registry.standard.find? "ROUND" = some ⟨"ROUND", 1, some 2, .round⟩ := by
    decide +kernel
  show (Registry.standard.call host "ROUND" _).value = _
  rw [Registry.call, found]
  rfl

/-- A finite number rounded to a finite count of digits after the point is a number, unless the
    power of ten is finite and its product with the number is not; then it is an error. Up to 15
    digits the powers are exact. From there on they are the library's, of which it is assumed that
    they are not below ten. -/
theorem round_faults_iff_scaling_overflows {host : Host} {a b : Expr} {x d : Float}
    (hx : x.isFinite = true) (hd : d.isFinite = true) (nonneg : 0.0 ≤ d)
    (first : ((a.operand .standard host).number host).run.value = .ok x)
    (second : ((b.operand .standard host).number host).run.value = .ok d)
    (library : 15.0 < truncate d → 10.0 ≤ Float.pow 10.0 (truncate d)) :
    ((Expr.call "ROUND" [a, b]).value host = .fault .number ↔ ScalingOverflows x (truncate d)) ∧
      (¬ ScalingOverflows x (truncate d) →
        ∃ y : Float, y.isFinite = true ∧ (Expr.call "ROUND" [a, b]).value host = .number y) := by
  have scale := isScale_of_isFinite hd nonneg library
  have digits : truncate d ≥ 0.0 := zero_le_truncate hd nonneg
  rw [value_call_round, Function.value_round first second]
  have number := Function.exists_roundTo hx digits scale
  refine ⟨⟨fun fault => ?_, Function.roundTo_of_scalingOverflows digits scale⟩, number⟩
  by_contra fits
  obtain ⟨y, -, rounded⟩ := number fits
  rw [rounded] at fault
  cases fault

/-- `ROUND(2.675,2)`. -/
theorem round_faults_iff_scaling_overflows_two_digits :
    ¬ ScalingOverflows 2.675 (truncate 2.0) ∧ ∃ y : Float, y.isFinite = true ∧
      (Expr.call "ROUND" [.number 2.675, .number 2.0]).value (Host.ofLook fun _ => .empty) =
        .number y := by
  have fits : ¬ ScalingOverflows 2.675 (truncate 2.0) := by decide +kernel
  have few : ¬ (15.0 : Float) < truncate 2.0 := by decide +kernel
  exact ⟨fits, (round_faults_iff_scaling_overflows (x := 2.675) (d := 2.0) (by decide) (by decide)
    (by decide) rfl rfl fun many => absurd many few).2 fits⟩

/-- `ROUND(1E308,1)`: the number and the count of digits are finite, and so is ten, but ten times
    the number is not. -/
theorem round_loses_finite_number :
    (1e308 : Float).isFinite = true ∧ (1.0 : Float).isFinite = true ∧ (0.0 : Float) ≤ 1.0 ∧
      (Expr.call "ROUND" [.number 1e308, .number 1.0]).value (Host.ofLook fun _ => .empty) =
        .fault .number := by
  decide +kernel

end Worksheet
