/-
  The order of values. Numbers come before texts and texts before truth values; numbers go
  by size, texts by their lower case, and an unset cell counts as the zero of the type it is
  compared with.
-/
import Worksheet.Value.Basic

namespace Worksheet.Value

/-- Orders two numbers; one that is not a number is equal to all. -/
def compareNumbers (x y : Float) : Ordering :=
  if x < y then .lt else if y < x then .gt else .eq

/-- Orders two texts by their lower case, character by character. -/
def compareTexts (s t : String) : Ordering :=
  compare (Text.lowerList s.toList) (Text.lowerList t.toList)

/-- The place of a value's type in the order. -/
def rank : Value → Nat
  | .empty | .number _ => 0
  | .text _ => 1
  | .boolean _ => 2
  | .error _ => 3

/-- An unset cell replaced by the zero of the other value's type. -/
def zeroLike : Value → Value → Value
  | .empty, .text _ => .text ""
  | .empty, .boolean _ => .boolean false
  | .empty, _ => .number 0.0
  | v, _ => v

/-- Orders two values that are set. -/
def compareSet : Value → Value → Ordering
  | .number x, .number y => compareNumbers x y
  | .text s, .text t => compareTexts s t
  | .boolean a, .boolean b => compare a b
  | v, w => compare v.rank w.rank

/-- Orders two values. -/
def order (v w : Value) : Ordering := compareSet (v.zeroLike w) (w.zeroLike v)

end Worksheet.Value
