/-
  Positions stay within their bounds, as long as they are numbers. A position is truncated,
  compared with the bounds and turned into an index. A number that is not below 1 and not above
  the count of the choices truncates to one of 1, …, n (`chosen_truncate`), so evaluation does not
  break down (`positions_stay_in_bounds`). NaN is neither below nor above, and gets past the
  comparison (`place_breaks`); no expression makes NaN out of numbers, so it has to come from a
  host (`placed_of_numbers`).
-/
import Worksheet.Proofs.Evaluation.Demands
import Worksheet.Proofs.Evaluation.LikeEvaluation

namespace Worksheet

open Number

variable {α : Type} {x : Float} {host : Host}

/-! ## Choices -/

namespace Function

/-- The choice at the truncated position, if that is one of 1, …, n. -/
def choiceAt? (choices : List Operand) (x : Float) : Option Operand :=
  if 1 ≤ whole x ∧ whole x ≤ choices.length then choices[(whole x).toNat - 1]? else none

theorem chosen_truncate {choices : List Operand} (h : x.isNaN = false)
    (few : choices.length < 2 * normalFrom) :
    chosen (truncate x) choices = pure (choiceAt? choices x) := by
  have below := truncate_lt_one_iff h
  have above := count_lt_truncate_iff h few
  unfold chosen choiceAt?
  split
  · next outside =>
    rw [below, above] at outside
    rw [if_neg (by omega)]
  · next inside =>
    rw [below, above] at inside
    have bound : whole (truncate x) ≤ choices.length := by
      rw [whole_truncate h]
      omega
    have place : toNatClamped (truncate x) = (whole x).toNat := by
      rw [toNatClamped_eq few bound, whole_truncate h]
    have index : (whole x).toNat - 1 < choices.length := by omega
    rw [if_pos (by omega), place_eq (by omega), place, pure_bind]
    unfold Traced.item
    rw [List.getElem?_eq_getElem index]
    rfl

/-- NaN has no index. -/
theorem place_breaks (h : x.isNaN = true) : (Traced.place x).broken = true := by
  have zero : toNatClamped x = 0 := by
    unfold toNatClamped
    rw [toNat_toUInt64, whole, size_of_isNaN h]
    decide
  unfold Traced.place
  rw [zero]

theorem truncate_of_isNaN (h : x.isNaN = true) : truncate x = x :=
  if_neg (not_lt_of_isNaN_left ((isNaN_abs x).trans h))

/-- The value of a position outside of the choices. -/
def outOfRange (x : Float) (n : Nat) : Value :=
  let shown := String.ofList (literalNumber.render (truncate x))
  .faultWith .value s!"CHOOSE index {shown} is out of range 1..={n}"

theorem choose_of_read {o : Operand} {choices : List Operand}
    (read : (o.number host).run.value = .ok x) :
    choose host (o :: choices) = (o.number host).run >>= fun _ => Reading.toValue do
      match ← Reading.ofTraced (chosen (truncate x) choices) with
      | some c => Reading.ofTraced (c.evaluate host)
      | none => return outOfRange x choices.length := by
  unfold choose
  rw [show operandAt (o :: choices) 0 = pure o from rfl, pure_bind, bind_map_left, Reading.toValue,
    Reading.run_bind_of_ok read, map_bind]
  rfl

/-- Once the position is read, the choice at that position is evaluated, or there is none. -/
theorem choose_eq {o : Operand} {choices : List Operand} (few : choices.length < 2 * normalFrom)
    (read : (o.number host).run.value = .ok x) (h : x.isNaN = false) :
    choose host (o :: choices) = (o.number host).run >>= fun _ =>
      match choiceAt? choices x with
      | some c => c.evaluate host
      | none => pure (outOfRange x choices.length) := by
  rw [choose_of_read read, chosen_truncate h few]
  congr 1
  funext _
  cases choiceAt? choices x with
  | some c => exact Reading.toValue_ofTraced (c.evaluate host)
  | none => rfl

/-- NaN is not ruled out as a choice, and breaks down. -/
theorem choose_breaks {o : Operand} {choices : List Operand}
    (read : (o.number host).run.value = .ok x) (h : x.isNaN = true) :
    (choose host (o :: choices)).broken = true := by
  have breaks : (chosen x choices).broken = true := by
    unfold chosen
    rw [if_neg (not_or.2 ⟨not_lt_of_isNaN_left h, not_lt_of_isNaN_right h⟩), Traced.broken_bind,
      place_breaks h, Bool.true_or]
  rw [choose_of_read read, truncate_of_isNaN h, Traced.broken_bind, Reading.toValue,
    Traced.broken_map, Reading.run_ofTraced_bind, Traced.broken_bind, breaks, Bool.true_or,
    Bool.or_true]

/-- Neither is NaN ruled out as the start of a part of a text. -/
theorem middle_breaks {t o c : Operand} {os : List Operand} {s : String} {n : Nat}
    (text : (t.text host).run.value = .ok s) (read : (o.number host).run.value = .ok x)
    (count : (characterCount host c).run.value = .ok n) (h : x.isNaN = true) :
    (middle host (t :: o :: c :: os)).broken = true := by
  unfold middle
  rw [show operandAt (t :: o :: c :: os) 0 = pure t from rfl,
    show operandAt (t :: o :: c :: os) 1 = pure o from rfl,
    show operandAt (t :: o :: c :: os) 2 = pure c from rfl, Reading.toValue, Traced.broken_map,
    pure_bind, Reading.run_bind_of_ok text, Traced.broken_bind, pure_bind, bind_map_left,
    Reading.run_bind_of_ok read, Traced.broken_bind, pure_bind, Reading.run_bind_of_ok count,
    Traced.broken_bind, truncate_of_isNaN h, if_neg (not_lt_of_isNaN_left h),
    Reading.run_ofTraced_bind, Traced.broken_bind, place_breaks h]
  simp only [Bool.true_or, Bool.or_true]

/-! ## Second arguments -/

/-- The second argument of a condition that holds is asked for. -/
theorem conditional_without_second {o : Operand} (h : (o.boolean host).run.value = .ok true) :
    (conditional host [o]).value = .faultWith .value "missing argument 2" := by
  unfold conditional
  rw [show operandAt [o] 0 = pure o from rfl, pure_bind, Reading.toValue,
    Reading.run_bind_of_ok h]
  rfl

/-- So is the one that stands in for an error. -/
theorem rescue_without_second {o : Operand} (h : (o.evaluate host).value.isError = true) :
    (rescue host [o]).value = .faultWith .value "missing argument 2" := by
  unfold rescue
  rw [show operandAt [o] 0 = pure o from rfl, pure_bind, Reading.toValue,
    Reading.run_ofTraced_bind, map_bind, Traced.value_bind, h, if_pos rfl]
  rfl

end Function

/-! ## Expressions -/

namespace Expr

/-- On no host does evaluation break down, unless a position is NaN. -/
theorem evaluate_sound (functions : Registry) {e : Expr} (placed : e.Placed functions host)
    (width : e.width ≤ 2 ^ 53) : (e.evaluate functions host).broken = false := by
  have lawful : (Likeness.identical (fun _ => True) (fun _ => True) True).Lawful :=
    Likeness.identical_lawful closed_true _ True
  have same : ∀ r ∈ e.references, r.values host = r.values host := fun _ _ => rfl
  have alike := evaluate_identical lawful functions (fun _ _ _ _ => trivial) same
    (fun _ _ _ _ => trivial) (fun _ _ => trivial) (fun _ => width) fun _ => placed
  exact alike.sound trivial

/-- A number that an operand is read as is not NaN if no number in it or in the answers to it
    is. -/
theorem number_operands (functions : Registry) {es : List Expr}
    (answers : ∀ r ∈ argReferences es, ∀ y, .number y ∈ r.values host → y.isNaN = false)
    (numbers : ∀ y ∈ argsNumbers es, y.isNaN = false) {i : Nat} {o : Operand}
    (found : (operands functions host es)[i]? = some o) (read : (o.number host).run.value = .ok x) :
    x.isNaN = false := by
  have lawful : (Likeness.identical (fun y => y.isNaN = false) (fun _ => True) False).Lawful :=
    Likeness.identical_lawful closed_not_isNaN _ False
  have refs (r : Reference) (hr : r ∈ argReferences es) : Reference.Alike
      (.identical (fun y => y.isNaN = false) (fun _ => True) False) host host r :=
    reference_identical lawful (fun _ _ => trivial) rfl (answers r hr)
  have alike := operands_alike lawful functions es ⟨refs, numbers, False.elim, False.elim⟩
  rcases alike.getElem? i with ⟨o', _, found', -, ho⟩ | ⟨none, -⟩
  · obtain rfl := Option.some.inj (found.symm.trans found')
    obtain ⟨y, -, -, number⟩ := (ho.number lawful).value.exists_of_eq_ok read
    exact number
  · rw [none] at found
    cases found

mutual

/-- Without NaN in an expression and in the answers to it, no position is NaN. -/
theorem placed_of_numbers (functions : Registry) : (e : Expr) →
    (∀ r ∈ e.references, ∀ y, .number y ∈ r.values host → y.isNaN = false) →
    (∀ y ∈ e.numbers, y.isNaN = false) → e.Placed functions host
  | .binary _ left right, answers, numbers =>
    ⟨placed_of_numbers functions left (fun r hr => answers r (List.mem_append_left _ hr))
        fun y hy => numbers y (List.mem_append_left _ hy),
      placed_of_numbers functions right (fun r hr => answers r (List.mem_append_right _ hr))
        fun y hy => numbers y (List.mem_append_right _ hy)⟩
  | .prefixed _ operand, answers, numbers => placed_of_numbers functions operand answers numbers
  | .group inner, answers, numbers => placed_of_numbers functions inner answers numbers
  | .call _ args, answers, numbers =>
    ⟨fun _ _ _ _ _ _ found read => number_operands functions answers numbers found read,
      argsPlaced_of_numbers functions args answers numbers⟩
  | .cell _, _, _ | .range _ _, _, _ | .number _, _, _ | .text _, _, _ | .boolean _, _, _
  | .name _, _, _ => trivial

theorem argsPlaced_of_numbers (functions : Registry) : (es : List Expr) →
    (∀ r ∈ argReferences es, ∀ y, .number y ∈ r.values host → y.isNaN = false) →
    (∀ y ∈ argsNumbers es, y.isNaN = false) → ArgsPlaced functions host es
  | [], _, _ => trivial
  | e :: es, answers, numbers =>
    ⟨placed_of_numbers functions e (fun r hr => answers r (List.mem_append_left _ hr))
        fun y hy => numbers y (List.mem_append_left _ hy),
      argsPlaced_of_numbers functions es (fun r hr => answers r (List.mem_append_right _ hr))
        fun y hy => numbers y (List.mem_append_right _ hy)⟩

end

end Expr

/-- No matter what a host answers and which functions are registered for which numbers of
    arguments, evaluation does not break down unless a position is NaN, and none is NaN where no
    literal and no answer is. A required argument that is missing is an error. A choice is made at
    a truncated position of 1, …, n and at no other; and a position that is NaN does break
    evaluation down. -/
theorem positions_stay_in_bounds (functions : Registry) (host : Host) :
    (∀ e : Expr, e.width ≤ 2 ^ 53 → e.Placed functions host →
      (e.evaluate functions host).broken = false) ∧
    (∀ e : Expr, (∀ r ∈ e.references, ∀ x, .number x ∈ r.values host → x.isNaN = false) →
      (∀ x ∈ e.numbers, x.isNaN = false) → e.Placed functions host) ∧
    (∀ (b : Builtin) (os : List Operand) (e : ErrorValue), unmet? host os 0 b.demands = some e →
      (b.call host os).value = .error e) ∧
    (∀ o : Operand, (o.boolean host).run.value = .ok true →
      (Builtin.conditional.call host [o]).value = .faultWith .value "missing argument 2") ∧
    (∀ o : Operand, (o.evaluate host).value.isError = true →
      (Builtin.rescue.call host [o]).value = .faultWith .value "missing argument 2") ∧
    (∀ (t o c : Operand) (os : List Operand) (s : String) (x : Float) (n : Nat),
      (t.text host).run.value = .ok s → (o.number host).run.value = .ok x →
        (Function.characterCount host c).run.value = .ok n → x.isNaN = true →
          (Builtin.middle.call host (t :: o :: c :: os)).broken = true) ∧
    ∀ (o : Operand) (choices : List Operand) (x : Float), choices.length < 2 ^ 53 →
      (o.number host).run.value = .ok x →
        let read := (o.number host).run
        let result := Builtin.choose.call host (o :: choices)
        (x.isNaN = true → result.broken = true) ∧
        (x.isNaN = false → ∀ c, 1 ≤ whole x → choices[(whole x).toNat - 1]? = some c →
          result = read >>= fun _ => c.evaluate host) ∧
        (x.isNaN = false → ¬ (1 ≤ whole x ∧ whole x ≤ choices.length) →
          result = read >>= fun _ => pure (Function.outOfRange x choices.length)) := by
  refine ⟨fun e width placed => e.evaluate_sound functions placed width,
    fun e answers numbers => e.placed_of_numbers functions answers numbers,
    fun b os e h => Function.call_of_unmet h, fun o h => Function.conditional_without_second h,
    fun o h => Function.rescue_without_second h,
    fun t o c os s x n text read count h => Function.middle_breaks text read count h,
    fun o choices x few read => ?_⟩
  refine ⟨Function.choose_breaks read, fun h c first hc => ?_, fun h outside => ?_⟩
  · have inside : (whole x).toNat - 1 < choices.length := (List.getElem?_eq_some_iff.1 hc).1
    have picked : Function.choiceAt? choices x = some c := by
      unfold Function.choiceAt?
      rw [if_pos (by omega), hc]
    exact (Function.choose_eq few read h).trans (by rw [picked])
  · have unpicked : Function.choiceAt? choices x = none := if_neg outside
    exact (Function.choose_eq few read h).trans (by rw [unpicked])

/-- `CHOOSE(A1,10)`. -/
def pickingFromA1 : Expr := .call "CHOOSE" [.cell (Cell.address ⟨0, 0⟩), .number 10.0]

/-- A grid with the same number everywhere. -/
def uniform (x : Float) : Host := .ofLook fun _ => .number x

/-- An infinite position is outside, 1.9 is the first position, and an argument is missing. -/
theorem positions_stay_in_bounds_picking :
    (pickingFromA1.evaluate .standard (uniform (1.0 / 0.0))).broken = false ∧
      (Builtin.modulo.call (uniform 1.9) [.cell (Cell.address ⟨0, 0⟩)]).value =
        .faultWith .value "missing argument 2" ∧
      (Builtin.conditional.call (uniform 1.9) [.cell (Cell.address ⟨0, 0⟩)]).value =
        .faultWith .value "missing argument 2" ∧
      (Builtin.rescue.call (uniform 1.9)
        [.range (Cell.address ⟨0, 0⟩) (Cell.address ⟨1, 0⟩)]).value =
        .faultWith .value "missing argument 2" ∧
      (Builtin.choose.call (uniform 1.9)
        [.cell (Cell.address ⟨0, 0⟩), .range (Cell.address ⟨0, 0⟩) (Cell.address ⟨1, 0⟩)]).value =
          misplacedRange (Cell.address ⟨0, 0⟩) (Cell.address ⟨1, 0⟩) ∧
      (Builtin.middle.call (uniform (0.0 / 0.0)) [.cell (Cell.address ⟨0, 0⟩),
        .cell (Cell.address ⟨0, 0⟩), .cell (Cell.address ⟨0, 0⟩)]).broken = true := by
  obtain ⟨sound, placed, -⟩ := positions_stay_in_bounds .standard (uniform (1.0 / 0.0))
  obtain ⟨-, -, -, -, -, middle, -⟩ := positions_stay_in_bounds .standard (uniform (0.0 / 0.0))
  obtain ⟨-, -, unmet, condition, rescue, -, choose⟩ :=
    positions_stay_in_bounds .standard (uniform 1.9)
  have answers (r : Reference) (hr : r ∈ pickingFromA1.references) (x : Float)
      (hx : .number x ∈ r.values (uniform (1.0 / 0.0))) : x.isNaN = false := by
    obtain rfl := List.mem_singleton.1 hr
    obtain rfl : x = 1.0 / 0.0 := Value.number.inj (List.mem_singleton.1 hx)
    decide
  have one : whole 1.9 = 1 := by decide +kernel
  have first := (choose (.cell (Cell.address ⟨0, 0⟩))
    [.range (Cell.address ⟨0, 0⟩) (Cell.address ⟨1, 0⟩)] 1.9 (by decide) rfl).2.1 (by decide)
      (.range (Cell.address ⟨0, 0⟩) (Cell.address ⟨1, 0⟩)) (Int.le_of_eq one.symm)
        (by rw [one]; rfl)
  have infinite := sound pickingFromA1 (by decide) (placed pickingFromA1 answers (by decide))
  exact ⟨infinite, unmet _ _ _ rfl,
    condition _ (by decide), rescue _ rfl, congrArg Traced.value first,
    middle _ _ _ [] _ _ _ rfl rfl rfl (by decide)⟩

/-- What is not a number gets past the comparisons with the bounds. -/
theorem pickingFromA1_breaks_down :
    (pickingFromA1.evaluate .standard (uniform (0.0 / 0.0))).broken = true := by
  decide +kernel

end Worksheet
