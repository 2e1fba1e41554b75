/-
  Operands: the arguments of a call before they are evaluated. A function looks at the
  operands it needs and in the way it needs them, so an operand that is not looked at
  costs no look-up.
-/
import Worksheet.Evaluation.Traced
import Worksheet.Grid.Range
import Worksheet.Value.Coercion

namespace Worksheet

/-- An argument that is not evaluated yet: a cell, a range between two corners, or any
    other expression. -/
inductive Operand where
  | cell (a : Address)
  | range (a b : Address)
  | computed (result : Unit → Traced Value)

/-- An argument once it is evaluated. -/
inductive Argument where
  | single (v : Value)
  | many (vs : List Value)
deriving Repr, DecidableEq

/-! ## Look-ups -/

/-- Where the values of cells come from: a host answers for single cells, as they are written, and
    for the cells of a range, column by column. -/
structure Host where
  cell : Address → Value
  block : Range → List Value

/-- The host that looks at cells one by one and does not mind their anchors. -/
def Host.ofLook (look : Cell → Value) : Host where
  cell a := look a.toCell
  block r := r.cells.map look

instance : Coe (Cell → Value) Host := ⟨Host.ofLook⟩

/-- The value of a cell; the address is logged as it is written. -/
def lookUp (host : Host) (a : Address) : Traced Value :=
  { value := host.cell a, reads := [a] }

/-- The values of the cells between two corners; the cells are logged without anchors. -/
def lookUpAll (host : Host) (a b : Address) : Traced (List Value) :=
  let r := Range.between a b
  { value := host.block r, reads := r.cells.map Cell.address }

/-- The value of a range that stands where one value is wanted. -/
def misplacedRange (a b : Address) : Value :=
  .faultWith .reference s!"range {a.text}:{b.text} used where a single value is expected"

namespace Operand

variable (host : Host)

/-- The operand as a single value. -/
def evaluate : Operand → Traced Value
  | .cell a => lookUp host a
  | .range a b => pure (misplacedRange a b)
  | .computed result => result ()

/-- The operand, with a range taken cell by cell. -/
def argument : Operand → Traced Argument
  | .range a b => .many <$> lookUpAll host a b
  | o => .single <$> o.evaluate host

/-- The values of the cells an operand refers to; `none` if it is no reference. -/
def referenced? : Operand → Option (Traced (List Value))
  | .cell a => some ((fun v => [v]) <$> lookUp host a)
  | .range a b => some (lookUpAll host a b)
  | .computed _ => none

/-! ## Single values -/

/-- The operand as a single value that is no error. -/
def scalar (o : Operand) : Reading Value := do
  match ← Reading.ofTraced (o.argument host) with
  | .many _ => throw ⟨.value, some "expected a single value, got a range"⟩
  | .single (.error e) => throw e
  | .single v => return v

/-- The operand as a number. -/
def number (o : Operand) : Reading Float := do
  let v ← o.scalar host
  Reading.ofExcept v.toNumber

/-- The operand as a text. -/
def text (o : Operand) : Reading String := do
  let v ← o.scalar host
  Reading.ofExcept v.toText

/-- The operand as a truth value. -/
def boolean (o : Operand) : Reading Bool := do
  let v ← o.scalar host
  Reading.ofExcept v.toBoolean

end Operand

/-- The operand at an index counted from zero. -/
def operandAt (args : List Operand) (i : Nat) : Reading Operand :=
  match args[i]? with
  | some o => pure o
  | none => throw ⟨.value, some s!"missing argument {i + 1}"⟩

end Worksheet
