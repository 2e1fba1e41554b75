/-
  What the operators do to values. Errors come first, the left one before the right one;
  then the operands are coerced, again from the left; and a result that is no finite
  number is an error.
-/
import Worksheet.Formula.Operator
import Worksheet.Number.Power
import Worksheet.Value.Coercion
import Worksheet.Value.Order

namespace Worksheet

/-- A number as a value, if it is finite. -/
def Value.finite (x : Float) : Value := if x.isFinite then .number x else .fault .number

namespace BinaryOp

/-- Arithmetic on two numbers. Operators that are no arithmetic have no such meaning. -/
def compute (op : BinaryOp) (x y : Float) : Value :=
  match op with
  | .add => Value.finite (x + y)
  | .subtract => Value.finite (x - y)
  | .multiply => Value.finite (x * y)
  | .divide => if y == 0.0 then .fault .divisionByZero else Value.finite (x / y)
  | _ => Value.finite (Number.power x y)

/-- Whether two values in the given order satisfy a comparison. -/
def admits (op : BinaryOp) (o : Ordering) : Bool :=
  match op with
  | .equal => o == .eq
  | .notEqual => o != .eq
  | .less => o == .lt
  | .lessEqual => o != .gt
  | .greater => o == .gt
  | _ => o != .lt

/-- The result for two operands that are no errors. -/
def applyOk (op : BinaryOp) (v w : Value) : Value :=
  if op.isComparison then .boolean (op.admits (v.order w))
  else if op = .join then
    Value.ofExcept do return .text ((← v.toText) ++ (← w.toText))
  else Value.ofExcept do return op.compute (← v.toNumber) (← w.toNumber)

/-- The result of a binary operator. -/
def apply (op : BinaryOp) (v w : Value) : Value :=
  if v.isError then v else if w.isError then w else op.applyOk v w

end BinaryOp

/-- The result of a prefix operator. A plus changes nothing, not even the type. -/
def PrefixOp.apply (op : PrefixOp) (v : Value) : Value :=
  match op with
  | .negate => Value.ofExcept do return Value.finite (-(← v.toNumber))
  | .plus => v

end Worksheet
