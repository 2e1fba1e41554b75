/-
  Rounding numbers to whole numbers. A number of at least 2^53 in size is whole already;
  below that the truncation passes through an unsigned 64-bit integer, and floor and
  rounding are corrections of it by one.
-/
namespace Worksheet.Number

/-- The size from which every number is whole. -/
def wholeFrom : Float := 9007199254740992.0

/-- A number of the first one's size with the sign of the second one. -/
def withSignOf (magnitude sign : Float) : Float :=
  if sign.toBits.toNat < Nat.pow 2 63 then magnitude.abs else -magnitude.abs

/-- The number without its fraction; the sign is kept, also of a zero. -/
def truncate (x : Float) : Float :=
  if x.abs < wholeFrom then withSignOf x.abs.toUInt64.toFloat x else x

/-- The largest whole number that is not above the number. -/
def floor (x : Float) : Float :=
  let t := truncate x
  if x < t then t - 1.0 else t

/-- The nearest whole number, a half going away from zero. -/
def roundHalfAway (x : Float) : Float :=
  let t := truncate x
  if 0.5 ≤ (x - t).abs then t + withSignOf 1.0 x else t

/-- Whether the number has no fraction. -/
def isWhole (x : Float) : Bool := truncate x == x

/-- The number as a natural number, clamped to 64 bits; zero when it is negative or not a
    number. -/
def toNatClamped (x : Float) : Nat := x.toUInt64.toNat

/-- A count as a number. Counts have 64 bits. -/
def ofCount (n : Nat) : Float := n.toUInt64.toFloat

/-! ## Extremes -/

/-- The smaller of two numbers. A missing number gives way to the other, and of two equal
    ones the first is kept. -/
def least (x y : Float) : Float := if x.isNaN then y else if y < x then y else x

/-- The larger of two numbers, with the same rules. -/
def greatest (x y : Float) : Float := if x.isNaN then y else if x < y then y else x

end Worksheet.Number
