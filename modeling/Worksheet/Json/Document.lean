/-
  JSON documents and how they are written: two spaces for every level, each item on a line
  of its own, and the fields of an object in the order they are given in.
-/
import Worksheet.Decimal.Notation

namespace Worksheet.Json

/-- A JSON document. -/
inductive Document where
  | null
  | boolean (b : Bool)
  | natural (n : Nat)
  | number (x : Float)
  | text (s : String)
  | array (items : List Document)
  | object (fields : List (String × Document))
deriving Repr, Inhabited

/-- Numbers have a point or an exponent; the exponents from -5 to 15 are written
    positionally. -/
def numberFormat : Decimal.Notation where
  tie := .even
  plain := some (-5, 15)
  pointZero := true
  signedZero := true

/-- A number in a document; one that is not finite has no form. -/
def numberText (x : Float) : String :=
  if x.isFinite then String.ofList (numberFormat.render x) else "null"

/-! ## Texts -/

/-- Two hexadecimal digits. -/
def hexByte (n : Nat) : List Char := [Nat.digitChar (n / 16 % 16), Nat.digitChar (n % 16)]

/-- A character inside a text: marks, backslashes and control characters are escaped. -/
def escapeChar (c : Char) : List Char :=
  if c = '"' then ['\\', '"']
  else if c = '\\' then ['\\', '\\']
  else if c = '\n' then ['\\', 'n']
  else if c = '\r' then ['\\', 'r']
  else if c = '\t' then ['\\', 't']
  else if c.toNat = 8 then ['\\', 'b']
  else if c.toNat = 12 then ['\\', 'f']
  else if c.toNat < 32 then ['\\', 'u', '0', '0'] ++ hexByte c.toNat
  else [c]

/-- A text between its marks. -/
def textLiteral (s : String) : String :=
  String.ofList ('"' :: s.toList.flatMap escapeChar ++ ['"'])

/-! ## Documents -/

/-- The blanks before a line of the given level. -/
def indentation (level : Nat) : String := String.ofList (List.replicate (2 * level) ' ')

/-- Lines between two brackets, the closing one on the given level. -/
def bracketed (opening closing : String) (level : Nat) (lines : List String) : String :=
  if lines.isEmpty then opening ++ closing
  else opening ++ "\n" ++ ",\n".intercalate lines ++ "\n" ++ indentation level ++ closing

namespace Document

mutual

/-- The text of a document that begins on a line of the given level. -/
def pretty (level : Nat) : Document → String
  | .null => "null"
  | .boolean b => if b then "true" else "false"
  | .natural n => toString n
  | .number x => numberText x
  | .text s => textLiteral s
  | .array items => bracketed "[" "]" level (itemLines (level + 1) items)
  | .object fields => bracketed "\x7b" "\x7d" level (fieldLines (level + 1) fields)

/-- The lines of the items of an array. -/
def itemLines (level : Nat) : List Document → List String
  | [] => []
  | d :: ds => (indentation level ++ d.pretty level) :: itemLines level ds

/-- The lines of the fields of an object. -/
def fieldLines (level : Nat) : List (String × Document) → List String
  | [] => []
  | (key, d) :: fields =>
    (indentation level ++ textLiteral key ++ ": " ++ d.pretty level) :: fieldLines level fields

end

/-- The text of a document. -/
def render (d : Document) : String := d.pretty 0

end Document

end Worksheet.Json
