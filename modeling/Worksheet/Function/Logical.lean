/-
  Functions that choose, and the logical connectives. The functions that choose evaluate
  the argument they return and no other branch.
-/
import Worksheet.Formula.Expr
import Worksheet.Function.Aggregate

namespace Worksheet.Function

variable (host : Host)

/-! ## Choices -/

/-- The second argument if the first one is true, and else the third one, which is false
    by default. -/
def conditional (args : List Operand) : Traced Value :=
  Reading.toValue do
    if ← (← operandAt args 0).boolean host then
      Reading.ofTraced ((← operandAt args 1).evaluate host)
    else
      match args[2]? with
      | some o => Reading.ofTraced (o.evaluate host)
      | none => return .boolean false

/-- The first argument, or the second one in place of an error. -/
def rescue (args : List Operand) : Traced Value :=
  Reading.toValue do
    let v ← Reading.ofTraced ((← operandAt args 0).evaluate host)
    if v.isError then Reading.ofTraced ((← operandAt args 1).evaluate host) else return v

/-- The choice at an index counted from 1; none when the index is outside of them. -/
def chosen (index : Float) (choices : List Operand) : Traced (Option Operand) :=
  if index < 1.0 ∨ Number.ofCount choices.length < index then return none
  else do Traced.item choices (← Traced.place index)

/-- The argument that the first argument selects among the others. Its fraction is
    dropped. -/
def choose (args : List Operand) : Traced Value :=
  Reading.toValue do
    let index ← Number.truncate <$> (← operandAt args 0).number host
    let choices := args.drop 1
    match ← Reading.ofTraced (chosen index choices) with
    | some o => Reading.ofTraced (o.evaluate host)
    | none =>
      let shown := String.ofList (literalNumber.render index)
      return .faultWith .value s!"CHOOSE index {shown} is out of range 1..={choices.length}"

/-! ## Connectives -/

/-- Whether all truth values are true. -/
def conjunction (args : List Operand) : Traced Value :=
  Reading.toValue do return .boolean ((← booleans host args).all id)

/-- Whether a truth value is true. -/
def disjunction (args : List Operand) : Traced Value :=
  Reading.toValue do return .boolean ((← booleans host args).any id)

/-- The opposite truth value. -/
def negation (args : List Operand) : Traced Value :=
  Reading.toValue do return .boolean (!(← (← operandAt args 0).boolean host))

end Worksheet.Function
