/-
  Functions of one or two numbers.
-/
import Worksheet.Evaluation.Operand
import Worksheet.Evaluation.Operation

namespace Worksheet.Function

variable (host : Host)

/-- A function of one number. -/
def ofNumber (f : Float → Value) (args : List Operand) : Traced Value :=
  Reading.toValue do
    let o ← operandAt args 0
    return f (← o.number host)

/-- A function of two numbers. -/
def ofNumbers (f : Float → Float → Value) (args : List Operand) : Traced Value :=
  Reading.toValue do
    let x ← (← operandAt args 0).number host
    let y ← (← operandAt args 1).number host
    return f x y

/-- The size of a number. -/
def absolute : List Operand → Traced Value := ofNumber host fun x => .number x.abs

/-- The largest whole number that is not above the number. -/
def integer : List Operand → Traced Value := ofNumber host fun x => .number (Number.floor x)

/-- The sign of a number: 1, -1 or 0. -/
def sign : List Operand → Traced Value :=
  ofNumber host fun x => .number (if x > 0.0 then 1.0 else if x < 0.0 then -1.0 else 0.0)

/-- The square root of a number that is not negative. -/
def squareRoot : List Operand → Traced Value :=
  ofNumber host fun x =>
    if x < 0.0 then .faultWith .number "square root of a negative number"
    else .number x.sqrt

/-- A number to the power of another one. -/
def power : List Operand → Traced Value :=
  ofNumbers host fun x y => Value.finite (Number.power x y)

/-- The remainder that has the sign of the divisor. -/
def modulo : List Operand → Traced Value :=
  ofNumbers host fun x y =>
    if y == 0.0 then .fault .divisionByZero
    else Value.finite (x - y * Number.floor (x / y))

/-- A number rounded to so many digits after the point, or before it when they are
    negative; a half goes away from zero. Beyond the range of powers of ten, rounding to
    digits after the point changes nothing and rounding before it leaves 0. -/
def roundTo (x digits : Float) : Value :=
  let scale := Number.power 10.0 digits.abs
  if !scale.isFinite then .number (if digits > 0.0 then x else 0.0)
  else if digits ≥ 0.0 then Value.finite (Number.roundHalfAway (x * scale) / scale)
  else Value.finite (Number.roundHalfAway (x / scale) * scale)

/-- A number rounded to a number of digits, by default to a whole number. -/
def round (args : List Operand) : Traced Value :=
  Reading.toValue do
    let x ← (← operandAt args 0).number host
    let digits ← match args[1]? with
      | some o => Number.truncate <$> o.number host
      | none => pure 0.0
    return roundTo x digits

end Worksheet.Function
