/-
  The built-in functions, and what each does with its operands.
-/
import Worksheet.Function.Inspection
import Worksheet.Function.Logical
import Worksheet.Function.Numeric
import Worksheet.Function.Textual

namespace Worksheet

/-- The built-in functions. -/
inductive Builtin where
  | sum | product | average | minimum | maximum
  | count | countValues | countVacant
  | absolute | round | integer | modulo | squareRoot | power | sign
  | conditional | rescue | choose
  | conjunction | disjunction | negation | truth | falsity
  | concat | length | left | right | middle | upper | lower | squeeze
  | isBlank | isNumber | isText | isError | notAvailable
deriving Repr, DecidableEq, Inhabited

/-- The result of a built-in function. -/
def Builtin.call (host : Host) : Builtin → List Operand → Traced Value
  | .sum => Function.sum host
  | .product => Function.product host
  | .average => Function.average host
  | .minimum => Function.minimum host
  | .maximum => Function.maximum host
  | .count => Function.count host
  | .countValues => Function.countValues host
  | .countVacant => Function.countVacant host
  | .absolute => Function.absolute host
  | .round => Function.round host
  | .integer => Function.integer host
  | .modulo => Function.modulo host
  | .squareRoot => Function.squareRoot host
  | .power => Function.power host
  | .sign => Function.sign host
  | .conditional => Function.conditional host
  | .rescue => Function.rescue host
  | .choose => Function.choose host
  | .conjunction => Function.conjunction host
  | .disjunction => Function.disjunction host
  | .negation => Function.negation host
  | .truth => fun _ => pure (.boolean true)
  | .falsity => fun _ => pure (.boolean false)
  | .concat => Function.concat host
  | .length => Function.length host
  | .left => Function.left host
  | .right => Function.right host
  | .middle => Function.middle host
  | .upper => Function.upper host
  | .lower => Function.lower host
  | .squeeze => Function.squeeze host
  | .isBlank => Function.inspect host Value.isEmpty
  | .isNumber => Function.inspect host Value.isNumber
  | .isText => Function.inspect host Value.isText
  | .isError => Function.inspect host Value.isError
  | .notAvailable => fun _ => pure (.fault .notAvailable)

end Worksheet
