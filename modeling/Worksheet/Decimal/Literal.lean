/-
  Decimal literals: an optional sign, digits with at most one point among or beside them,
  and an optional exponent. `Literal.parse?` accepts exactly this grammar, `Literal.toFloat`
  rounds to the nearest number, and `read?` keeps the finite results.
-/
namespace Worksheet.Decimal

/-- The number `± digits · 10^exponent`. -/
structure Literal where
  negative : Bool
  digits : Nat
  exponent : Int
deriving Repr, DecidableEq

/-! ## Grammar -/

/-- The value of a run of decimal digits, most significant first. -/
def digitsValue (cs : List Char) : Nat :=
  cs.foldl (fun n c => 10 * n + (c.toNat - 48)) 0

/-- The leading digits of a text. -/
def leadingDigits (cs : List Char) : List Char := cs.takeWhile Char.isDigit

/-- What follows the leading digits of a text. -/
def afterDigits (cs : List Char) : List Char := cs.dropWhile Char.isDigit

/-- Splits off an optional sign and says whether it was a minus. -/
def splitSign : List Char → Bool × List Char
  | '-' :: cs => (true, cs)
  | '+' :: cs => (false, cs)
  | cs => (false, cs)

/-- Splits off an optional point with the digits after it. -/
def splitFraction : List Char → List Char × List Char
  | '.' :: cs => (leadingDigits cs, afterDigits cs)
  | cs => ([], cs)

/-- The signed digits of an exponent, which must be all of the text. -/
def signedExponent? (cs : List Char) : Option Int :=
  let (negative, ds) := splitSign cs
  if ds.isEmpty || !ds.all Char.isDigit then none
  else some (if negative then -(digitsValue ds : Int) else digitsValue ds)

/-- The exponent part that ends a literal; no text at all is the exponent 0. -/
def exponentPart? : List Char → Option Int
  | [] => some 0
  | c :: cs => if c == 'e' || c == 'E' then signedExponent? cs else none

/-- Reads a literal; the text must be one from end to end. -/
def Literal.parse? (cs : List Char) : Option Literal :=
  let (negative, unsigned) := splitSign cs
  let whole := leadingDigits unsigned
  let (fraction, rest) := splitFraction (afterDigits unsigned)
  if whole.isEmpty && fraction.isEmpty then none
  else (exponentPart? rest).map fun e =>
    ⟨negative, digitsValue (whole ++ fraction), e - fraction.length⟩

/-! ## Value -/

/-- The number nearest to the literal, ties to even; infinite when the literal is out of
    range. -/
def Literal.toFloat (l : Literal) : Float :=
  let magnitude := Float.ofScientific l.digits (l.exponent < 0) l.exponent.natAbs
  if l.negative then -magnitude else magnitude

/-- The finite number a text denotes, if it is a literal in range. -/
def read? (cs : List Char) : Option Float :=
  ((Literal.parse? cs).map Literal.toFloat).filter Float.isFinite

end Worksheet.Decimal
