/-
  Where the error of a formula comes from. An operator hands on the error of its first operand that
  has one, unchanged, and only operands without errors are coerced, from the left
  (`BinaryOp.apply_of_ok`). So an expression built with operators comes to an error if something in
  it fails, and the error is that of what fails first when parts are taken before the operators
  that join them, from left to right (`error?_value`): an error that is read from a cell and one
  that an operator makes compete by their places alone.
-/
import Worksheet.Evaluation.Evaluate

namespace Worksheet

/-! ## Operators -/

namespace Value

variable {v : Value} {e : ErrorValue}

theorem error?_eq_some : v.error? = some e ↔ v = .error e := by
  cases v <;> simp [error?]

theorem error?_eq_none : v.error? = none ↔ v.isError = false := by
  cases v <;> simp [error?, isError]

end Value

/-- The error of a result that may have failed. -/
def errorOf? {α : Type} : Except ErrorValue α → Option ErrorValue
  | .ok _ => none
  | .error e => some e

namespace BinaryOp

variable {op : BinaryOp} {v w : Value} {e : ErrorValue}

/-- What keeps an operator from taking a value as an operand: arithmetic wants numbers, joining
    wants texts, and a comparison takes anything. -/
def coercionFault? (op : BinaryOp) (v : Value) : Option ErrorValue :=
  if op.isComparison then none
  else if op = .join then errorOf? v.toText
  else errorOf? v.toNumber

theorem apply_of_left (w : Value) : op.apply (.error e) w = .error e := rfl

theorem apply_of_right (hv : v.isError = false) : op.apply v (.error e) = .error e := by
  rw [apply, hv]
  rfl

/-- Values that are texts, or that texts are made of, are joined without a fault. -/
theorem toText_of_ok (hv : v.isError = false) : v.toText = .ok v.display := by
  cases v with
  | error e => cases hv
  | _ => rfl

/-- The only errors of arithmetic with numbers. -/
theorem error_of_compute {x y : Float} (h : op.compute x y = .error e) :
    e = ⟨.divisionByZero, none⟩ ∨ e = ⟨.number, none⟩ := by
  have finite {z : Float} (h : Value.finite z = .error e) : e = ⟨.number, none⟩ := by
    unfold Value.finite at h
    split at h
    · cases h
    · exact (Value.error.inj h).symm
  cases op with
  | divide =>
    unfold compute at h
    dsimp only at h
    split at h
    · exact .inl (Value.error.inj h).symm
    · exact .inr (finite h)
  | _ => exact .inr (finite h)

/-- Operands without errors are coerced from the left, and only what is left to an operator then
    can fail otherwise. -/
theorem apply_of_ok (hv : v.isError = false) (hw : w.isError = false) :
    (∀ e, op.coercionFault? v = some e → op.apply v w = .error e) ∧
      (∀ e, op.coercionFault? v = none → op.coercionFault? w = some e → op.apply v w = .error e) ∧
      ∀ e, op.coercionFault? v = none → op.coercionFault? w = none → op.apply v w = .error e →
        e = ⟨.divisionByZero, none⟩ ∨ e = ⟨.number, none⟩ := by
  have applied : op.apply v w = op.applyOk v w := by
    rw [apply, hv, hw]
    rfl
  rw [applied]
  unfold coercionFault? applyOk
  by_cases comparison : op.isComparison = true
  · simp [comparison]
  rw [Bool.not_eq_true] at comparison
  rw [comparison]
  by_cases join : op = .join
  · subst join
    simp [toText_of_ok hv, toText_of_ok hw, errorOf?, Value.ofExcept, bind, Except.bind, pure,
      Except.pure]
  simp only [Bool.false_eq_true, if_false, if_neg join]
  cases left : v.toNumber with
  | error e₁ =>
    refine ⟨fun e h => ?_, nofun, nofun⟩
    cases h
    rfl
  | ok x =>
    cases right : w.toNumber with
    | error e₂ =>
      refine ⟨nofun, fun e _ h => ?_, nofun⟩
      cases h
      rfl
    | ok y => exact ⟨nofun, nofun, fun e _ _ h => error_of_compute h⟩

end BinaryOp

/-! ## Expressions as operators over parts -/

/-- An expression seen as operators over parts that are not looked into. -/
inductive Outline where
  | part (e : Expr)
  | binary (op : BinaryOp) (left right : Outline)
  | prefixed (op : PrefixOp) (operand : Outline)
  | group (inner : Outline)

namespace Outline

/-- The expression. -/
def expr : Outline → Expr
  | .part e => e
  | .binary op left right => .binary op left.expr right.expr
  | .prefixed op operand => .prefixed op operand.expr
  | .group inner => .group inner.expr

/-- What an operator is applied to. A part is taken as it is. -/
def operands : Outline → List Outline
  | .part _ => []
  | .binary _ left right => [left, right]
  | .prefixed _ operand => [operand]
  | .group inner => [inner]

/-- Parts and operators in post-order: operands from left to right, then what they belong to. -/
def nodes : Outline → List Outline
  | .part e => [.part e]
  | .binary op left right => left.nodes ++ right.nodes ++ [.binary op left right]
  | .prefixed op operand => operand.nodes ++ [.prefixed op operand]
  | .group inner => inner.nodes ++ [.group inner]

variable (functions : Registry) (host : Host)

/-- The value of the expression. -/
def value (t : Outline) : Value := (t.expr.evaluate functions host).value

/-- The error that begins at a node: the node comes to an error, but none of its operands does. -/
def failure? (t : Outline) : Option ErrorValue :=
  if t.operands.any fun u => (u.value functions host).isError then none
  else (t.value functions host).error?

/-- An operator hands on the error of its first operand that has one. -/
theorem value_of_operand_error {t : Outline} {e : ErrorValue}
    (h : t.operands.findSome? (fun u => (u.value functions host).error?) = some e) :
    t.value functions host = .error e := by
  cases t with
  | part e => cases h
  | binary op left right =>
    show op.apply (left.value functions host) (right.value functions host) = _
    cases hl : (left.value functions host).error? with
    | some e₁ =>
      simp only [operands, List.findSome?_cons, hl] at h
      rw [Value.error?_eq_some.1 hl, BinaryOp.apply_of_left, Option.some.inj h]
    | none =>
      cases hr : (right.value functions host).error? with
      | none => simp [operands, hl, hr] at h
      | some e₂ =>
        simp only [operands, List.findSome?_cons, hl, hr] at h
        rw [Value.error?_eq_some.1 hr, BinaryOp.apply_of_right (Value.error?_eq_none.1 hl),
          Option.some.inj h]
  | prefixed op operand =>
    have error : operand.value functions host = .error e := by
      simpa [operands, Value.error?_eq_some] using h
    show op.apply (operand.value functions host) = _
    rw [error]
    cases op <;> rfl
  | group inner =>
    have error : inner.value functions host = .error e := by
      simpa [operands, Value.error?_eq_some] using h
    exact error

/-- One node: its error is that of its first operand with an error, or its own. -/
theorem error?_step (t : Outline) :
    (t.value functions host).error? =
      (t.operands.findSome? fun u => (u.value functions host).error?).or
        (t.failure? functions host) := by
  cases first : t.operands.findSome? fun u => (u.value functions host).error? with
  | some e => exact Value.error?_eq_some.2 (value_of_operand_error functions host first)
  | none =>
    have fine : (t.operands.any fun u => (u.value functions host).isError) = false := by
      rw [List.any_eq_false]
      intro u hu
      rw [Bool.not_eq_true, ← Value.error?_eq_none]
      exact List.findSome?_eq_none_iff.1 first u hu
    rw [failure?, fine]
    rfl

/-- The error of a whole expression is the first one in post-order that begins at a node. -/
theorem error?_value (t : Outline) :
    (t.value functions host).error? = t.nodes.findSome? (failure? functions host) := by
  have step := error?_step functions host
  induction t with
  | part e => simp [step (.part e), operands, nodes]
  | binary op left right ihl ihr =>
    have operands_eq : (Outline.binary op left right).operands = [left, right] := rfl
    rw [step, operands_eq, List.findSome?_cons, List.findSome?_singleton, ihl, ihr, nodes,
      List.findSome?_append, List.findSome?_append, List.findSome?_singleton]
    cases left.nodes.findSome? (failure? functions host) <;> rfl
  | prefixed op operand ih =>
    have operands_eq : (Outline.prefixed op operand).operands = [operand] := rfl
    rw [step, operands_eq, List.findSome?_singleton, ih, nodes, List.findSome?_append,
      List.findSome?_singleton]
  | group inner ih =>
    have operands_eq : (Outline.group inner).operands = [inner] := rfl
    rw [step, operands_eq, List.findSome?_singleton, ih, nodes, List.findSome?_append,
      List.findSome?_singleton]

/-- Errors come first, the left one before the right one, and only then coercions fail, the left one
    before the right one. So an expression comes to an error if some part is one or some operator
    makes one, and it is the error of the first of them in post-order. -/
theorem first_failure_prevails :
    (∀ (op : BinaryOp) (left right : Expr),
      let v := (left.evaluate functions host).value
      let w := (right.evaluate functions host).value
      let result := ((Expr.binary op left right).evaluate functions host).value
      (∀ e, v = .error e → result = .error e) ∧
        (∀ e, v.isError = false → w = .error e → result = .error e) ∧
        (v.isError = false → w.isError = false →
          (∀ e, op.coercionFault? v = some e → result = .error e) ∧
            (∀ e, op.coercionFault? v = none → op.coercionFault? w = some e →
              result = .error e) ∧
            ∀ e, op.coercionFault? v = none → op.coercionFault? w = none → result = .error e →
              e = ⟨.divisionByZero, none⟩ ∨ e = ⟨.number, none⟩)) ∧
      ∀ t : Outline,
        ((t.value functions host).isError = true ↔
            ∃ n ∈ t.nodes, (n.failure? functions host).isSome = true) ∧
          ∀ e, t.value functions host = .error e ↔
            ∃ before n after, t.nodes = before ++ n :: after ∧
              n.failure? functions host = some e ∧
              ∀ m ∈ before, m.failure? functions host = none := by
  constructor
  · intro op left right v w result
    refine ⟨fun e hv => ?_, fun e hv hw => ?_, fun hv hw => BinaryOp.apply_of_ok hv hw⟩
    · show op.apply v w = _
      rw [hv, BinaryOp.apply_of_left]
    · show op.apply v w = _
      rw [hw, BinaryOp.apply_of_right hv]
  · intro t
    constructor
    · rw [← List.findSome?_isSome_iff, ← error?_value]
      cases t.value functions host <;> simp [Value.isError, Value.error?]
    · intro e
      rw [← Value.error?_eq_some, error?_value, List.findSome?_eq_some_iff]

/-- In `-"x"+1/0` the text fails before the division does. -/
example : (Outline.binary .add (.prefixed .negate (.part (.text "x")))
      (.binary .divide (.part (.number 1.0)) (.part (.number 0.0)))).value .empty
        (fun _ : Cell => Value.empty) = .faultWith .value "'x' is not a number" := by
  decide +kernel

end Outline

end Worksheet
