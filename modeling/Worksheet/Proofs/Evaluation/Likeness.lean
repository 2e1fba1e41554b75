/-
  Evaluations that are alike. Two evaluations may look at different cells and report errors in
  other words, and still run the same course: they come to the same values but for errors that
  stand for each other, look where the other one looks after a move, and break down in the same
  places. How far they may differ, which numbers occur and which cells are looked at is a
  parameter (`Likeness`), so that one pass over the language serves for all properties that every
  step keeps. Here are the values and what the operators make of them.
-/
import Worksheet.Evaluation.Operand
import Worksheet.Evaluation.Operation
import Worksheet.Proofs.Number.Closure

namespace Worksheet

variable {α β γ δ : Type}

/-- How two evaluations compare. -/
structure Likeness where
  /-- The numbers that may occur. -/
  admits : Float → Prop
  /-- The cells that the first one may look at. -/
  sees : Cell → Prop
  /-- Where the second one looks when the first one looks at an address. -/
  move : Address → Address
  /-- The errors that may stand for each other. -/
  excuses : ErrorValue → ErrorValue → Prop
  /-- Whether they must not break down. -/
  sound : Prop

variable {L : Likeness}

/-- Two values are the same, or errors that may stand for each other; a number is admitted. -/
inductive Value.Alike (L : Likeness) : Value → Value → Prop where
  | empty : Alike L .empty .empty
  | number {x : Float} (h : L.admits x) : Alike L (.number x) (.number x)
  | text (s : String) : Alike L (.text s) (.text s)
  | boolean (b : Bool) : Alike L (.boolean b) (.boolean b)
  | error {e e' : ErrorValue} (h : L.excuses e e') : Alike L (.error e) (.error e')

/-- What the functions need so that their results are alike when their operands are. -/
structure Likeness.Lawful (L : Likeness) : Prop where
  closed : Number.Closed L.admits
  same : ∀ e, L.excuses e e
  /-- The one error that names addresses. -/
  misplaced : ∀ a b, Value.Alike L (misplacedRange a b) (misplacedRange (L.move a) (L.move b))

/-! ## Results that may be errors -/

/-- Two results compare as `R` says, or they are errors that may stand for each other. -/
inductive Attempt (L : Likeness) (R : α → β → Prop) :
    Except ErrorValue α → Except ErrorValue β → Prop where
  | ok {x : α} {y : β} (h : R x y) : Attempt L R (.ok x) (.ok y)
  | error {e e' : ErrorValue} (h : L.excuses e e') : Attempt L R (.error e) (.error e')

/-- Both are the same and have a property. -/
def Same (P : α → Prop) (x y : α) : Prop := x = y ∧ P x

namespace Attempt

variable {R : α → β → Prop} {S : γ → δ → Prop} {r : Except ErrorValue α} {s : Except ErrorValue β}

theorem bind {f : α → Except ErrorValue γ} {g : β → Except ErrorValue δ} (h : Attempt L R r s)
    (hfg : ∀ x y, R x y → Attempt L S (f x) (g y)) : Attempt L S (r >>= f) (s >>= g) := by
  cases h with
  | ok h => exact hfg _ _ h
  | error h => exact .error h

theorem mono {S : α → β → Prop} (h : Attempt L R r s) (hRS : ∀ x y, R x y → S x y) :
    Attempt L S r s := by
  cases h with
  | ok h => exact .ok (hRS _ _ h)
  | error h => exact .error h

theorem exists_of_eq_ok {x : α} (h : Attempt L R r s) (hr : r = .ok x) :
    ∃ y, s = .ok y ∧ R x y := by
  subst hr
  cases h with
  | ok h => exact ⟨_, rfl, h⟩

theorem isOk (h : Attempt L R r s) : r.isOk = s.isOk := by
  cases h <;> rfl

theorem ofExcept {r s : Except ErrorValue Value} (h : Attempt L (Value.Alike L) r s) :
    Value.Alike L (.ofExcept r) (.ofExcept s) := by
  cases h with
  | ok h => exact h
  | error h => exact .error h

end Attempt

/-! ## Values -/

namespace Value.Alike

variable {v w : Value}

theorem isEmpty (h : Alike L v w) : v.isEmpty = w.isEmpty := by cases h <;> rfl

theorem isNumber (h : Alike L v w) : v.isNumber = w.isNumber := by cases h <;> rfl

theorem isText (h : Alike L v w) : v.isText = w.isText := by cases h <;> rfl

theorem isError (h : Alike L v w) : v.isError = w.isError := by cases h <;> rfl

/-- Only errors can differ. -/
theorem eq_of_not_isError (h : Alike L v w) (notError : v.isError = false) : v = w := by
  cases h with
  | error h => cases notError
  | _ => rfl

theorem toText (h : Alike L v w) : Attempt L Eq v.toText w.toText := by
  cases h with
  | error h => exact .error h
  | _ => exact .ok rfl

section

variable (hL : L.Lawful)
include hL

theorem fault (e : ErrorValue) : Alike L (.error e) (.error e) := .error (hL.same e)

/-- A value whose number is admitted is like itself. -/
theorem of_admits (h : ∀ x, v = .number x → L.admits x) : Alike L v v := by
  cases v with
  | empty => exact .empty
  | number x => exact .number (h x rfl)
  | text s => exact .text s
  | boolean b => exact .boolean b
  | error e => exact fault hL e

theorem toBoolean (h : Alike L v w) : Attempt L Eq v.toBoolean w.toBoolean := by
  cases h with
  | empty => exact .ok rfl
  | number h => exact .ok rfl
  | text s =>
    unfold Value.toBoolean
    dsimp only
    split
    · exact .ok rfl
    · exact .error (hL.same _)
  | boolean b => exact .ok rfl
  | error h => exact .error h

theorem of_isFinite {x : Float} (h : x.isFinite = true) : Alike L (.number x) (.number x) :=
  .number (hL.closed.finite x h)

theorem finite (x : Float) : Alike L (.finite x) (.finite x) := by
  unfold Value.finite
  split
  · next h => exact of_isFinite hL h
  · exact fault hL _

theorem toNumber (h : Alike L v w) : Attempt L (Same L.admits) v.toNumber w.toNumber := by
  cases h with
  | empty => exact .ok ⟨rfl, hL.closed.finite _ (by decide)⟩
  | number h => exact .ok ⟨rfl, h⟩
  | text s =>
    unfold Value.toNumber
    dsimp only
    split
    · next x hx => exact .ok ⟨rfl, hL.closed.finite x (Option.filter_eq_some_iff.1 hx).2⟩
    · exact .error (hL.same _)
  | boolean b =>
    refine .ok ⟨rfl, hL.closed.finite _ ?_⟩
    cases b <;> decide
  | error h => exact .error h

end

end Value.Alike

/-! ## Identical evaluations -/

/-- Evaluations that are the same, with admitted numbers and look-ups of seen cells only. -/
def Likeness.identical (admits : Float → Prop) (sees : Cell → Prop) (sound : Prop) : Likeness :=
  { admits, sees, move := id, excuses := Eq, sound }

theorem Likeness.identical_lawful {admits : Float → Prop} (closed : Number.Closed admits)
    (sees : Cell → Prop) (sound : Prop) : (identical admits sees sound).Lawful where
  closed := closed
  same _ := rfl
  misplaced _ _ := .error rfl

theorem Value.Alike.eq {admits : Float → Prop} {sees : Cell → Prop} {sound : Prop} {v w : Value}
    (h : Alike (.identical admits sees sound) v w) : v = w := by
  cases h with
  | error h => exact congrArg Value.error h
  | _ => rfl

/-! ## Operators -/

section

variable (hL : L.Lawful) {v w v' w' : Value}
include hL

theorem BinaryOp.compute_alike (op : BinaryOp) (x y : Float) :
    Value.Alike L (op.compute x y) (op.compute x y) := by
  cases op with
  | divide =>
    unfold compute
    dsimp only
    split
    · exact .fault hL _
    · exact .finite hL _
  | _ => exact .finite hL _

theorem BinaryOp.applyOk_alike (op : BinaryOp) (hv : Value.Alike L v v) (hw : Value.Alike L w w) :
    Value.Alike L (op.applyOk v w) (op.applyOk v w) := by
  unfold applyOk
  split
  · exact .boolean _
  split
  · refine Attempt.ofExcept (hv.toText.bind fun s _ hs => hw.toText.bind fun t _ ht => ?_)
    cases hs
    cases ht
    exact .ok (.text _)
  · refine Attempt.ofExcept ((hv.toNumber hL).bind fun x _ hx =>
      (hw.toNumber hL).bind fun y _ hy => ?_)
    obtain ⟨rfl, -⟩ := hx
    obtain ⟨rfl, -⟩ := hy
    exact .ok (op.compute_alike hL x y)

theorem BinaryOp.apply_alike (op : BinaryOp) (hv : Value.Alike L v v')
    (hw : Value.Alike L w w') : Value.Alike L (op.apply v w) (op.apply v' w') := by
  unfold apply
  rw [← hv.isError, ← hw.isError]
  split
  · exact hv
  split
  · exact hw
  · next notError notError' =>
    obtain rfl := hv.eq_of_not_isError (Bool.eq_false_iff.2 notError)
    obtain rfl := hw.eq_of_not_isError (Bool.eq_false_iff.2 notError')
    exact op.applyOk_alike hL hv hw

theorem PrefixOp.apply_alike (op : PrefixOp) (h : Value.Alike L v v') :
    Value.Alike L (op.apply v) (op.apply v') := by
  cases op with
  | negate =>
    refine Attempt.ofExcept ((h.toNumber hL).bind fun x _ hx => ?_)
    obtain ⟨rfl, -⟩ := hx
    exact .ok (.finite hL _)
  | plus => exact h

end

end Worksheet
