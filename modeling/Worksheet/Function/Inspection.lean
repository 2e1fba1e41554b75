/-
  Functions that inspect a value without propagating its error.
-/
import Worksheet.Evaluation.Operand

namespace Worksheet.Function

variable (host : Host)

/-- The value that is inspected; a range counts as an error. -/
def inspected : Argument → Value
  | .single v => v
  | .many _ => .fault .value

/-- Whether the first argument passes a test. -/
def inspect (test : Value → Bool) (args : List Operand) : Traced Value :=
  Reading.toValue do
    let a ← Reading.ofTraced ((← operandAt args 0).argument host)
    return .boolean (test (inspected a))

end Worksheet.Function
