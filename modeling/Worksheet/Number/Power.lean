/-
  Powers. A whole base to a small whole exponent is computed exactly when the result fits
  53 bits; every other power is the mathematical library's.
-/
import Worksheet.Number.Rounding

namespace Worksheet.Number

/-- The power of two whole numbers, when the base is not zero and the result is below
    2^53 in size. -/
def wholePower? (base exponent : Float) : Option Float :=
  if isWhole base && isWhole exponent && 1.0 ≤ base.abs && base.abs < wholeFrom
      && 0.0 ≤ exponent && exponent ≤ 53.0 then
    let k := toNatClamped exponent
    let size := Nat.pow (toNatClamped base.abs) k
    if size < Nat.pow 2 53 then
      let magnitude := size.toUInt64.toFloat
      some (if base < 0.0 && k % 2 == 1 then -magnitude else magnitude)
    else none
  else none

/-- `base` to the power of `exponent`. -/
def power (base exponent : Float) : Float :=
  (wholePower? base exponent).getD (Float.pow base exponent)

end Worksheet.Number
