/-
  How a number is written once its digits are chosen: positionally, or with an exponent
  where the format asks for one. A `Notation` holds the decisions of one format.
-/
import Worksheet.Decimal.Shortest

namespace Worksheet.Decimal

/-- The decisions of a number format. The range `plain` holds the exponents of the leading
    digit that are written positionally; without it every number is. -/
structure Notation where
  tie : Tie
  plain : Option (Int × Int)
  /-- Whole numbers end in `.0`. -/
  pointZero : Bool
  /-- Negative zero shows its sign. -/
  signedZero : Bool
deriving Repr, DecidableEq

/-- The decimal digits of a natural number, most significant first. -/
def digitChars (n : Nat) : List Char := Nat.toDigits 10 n

/-! ## Layouts -/

/-- Positional layout: the point stands after, inside or before the digits. -/
def positional (s : Scaled) (pointZero : Bool) : List Char :=
  let ds := digitChars s.digits
  if 0 ≤ s.exponent then
    ds ++ List.replicate s.exponent.toNat '0' ++ if pointZero then ['.', '0'] else []
  else
    let places := (-s.exponent).toNat
    if places < ds.length then
      ds.take (ds.length - places) ++ '.' :: ds.drop (ds.length - places)
    else
      '0' :: '.' :: List.replicate (places - ds.length) '0' ++ ds

/-- Layout with an exponent, which always has its sign. -/
def scientific (s : Scaled) : List Char :=
  let ds := digitChars s.digits
  let e := s.exponent + (ds.length - 1 : Nat)
  let mantissa := match ds with
    | d :: [] => [d]
    | d :: rest => d :: '.' :: rest
    | [] => []
  mantissa ++ 'e' :: (if e < 0 then '-' else '+') :: digitChars e.natAbs

/-- Chooses the layout of a positive number. -/
def Notation.layout (format : Notation) (s : Scaled) : List Char :=
  match format.plain with
  | none => positional s format.pointZero
  | some (low, high) =>
    let leading := s.exponent + ((digitChars s.digits).length - 1 : Nat)
    if low ≤ leading && leading ≤ high then positional s format.pointZero else scientific s

/-! ## Numbers -/

/-- Whether the sign bit is set. -/
def signBit (x : Float) : Bool := Nat.pow 2 63 ≤ x.toBits.toNat

/-- The text of a number without its sign. -/
def Notation.magnitude (format : Notation) (x : Float) : List Char :=
  if x.isNaN then "NaN".toList
  else if x.isInf then "inf".toList
  else if x == 0 then positional ⟨0, 0⟩ format.pointZero
  else format.layout ((Dyadic.ofFloat x).shortest format.tie)

/-- The text of a number. -/
def Notation.render (format : Notation) (x : Float) : List Char :=
  if signBit x && !x.isNaN && (format.signedZero || x != 0) then '-' :: format.magnitude x
  else format.magnitude x

end Worksheet.Decimal
