/-
  How a value is shown, and how it is taken as a number, a text or a truth value. An error
  is handed on unchanged by every coercion.
-/
import Worksheet.Decimal.Literal
import Worksheet.Decimal.Notation
import Worksheet.Text.Blank
import Worksheet.Value.Basic

namespace Worksheet

/-- Numbers in a grid are written positionally with the fewest digits that identify them;
    whole numbers have no point and no zero has a sign. -/
def gridNumber : Decimal.Notation where
  tie := .up
  plain := none
  pointZero := false
  signedZero := false

namespace Value

/-- A truth value as it is written. -/
def booleanText (b : Bool) : String := if b then "TRUE" else "FALSE"

/-- The text a grid shows. -/
def display : Value → String
  | .empty => ""
  | .number x => String.ofList (gridNumber.render x)
  | .text s => s
  | .boolean b => booleanText b
  | .error e => e.kind.mnemonic

/-- The truth value a text spells, in any case. -/
def readBoolean? (s : String) : Option Bool :=
  if Text.sameAsciiCase s "TRUE" then some true
  else if Text.sameAsciiCase s "FALSE" then some false
  else none

/-- The finite number a text spells between blanks. -/
def readNumber? (s : String) : Option Float := Decimal.read? (Text.trimBoth s.toList)

/-! ## Coercions -/

/-- The value as a number: an unset cell is 0, a truth value 0 or 1, and a text must spell
    a finite number. -/
def toNumber : Value → Except ErrorValue Float
  | .number x => .ok x
  | .boolean b => .ok (if b then 1.0 else 0.0)
  | .empty => .ok 0.0
  | .text s =>
    match readNumber? s with
    | some x => .ok x
    | none => .error ⟨.value, some s!"'{s}' is not a number"⟩
  | .error e => .error e

/-- The value as a truth value: every number but 0 is true, an unset cell is false, and a
    text must spell a truth value. -/
def toBoolean : Value → Except ErrorValue Bool
  | .boolean b => .ok b
  | .number x => .ok (x != 0.0)
  | .empty => .ok false
  | .text s =>
    match readBoolean? s with
    | some b => .ok b
    | none => .error ⟨.value, some s!"'{s}' is not a logical value"⟩
  | .error e => .error e

/-- The value as a text: what a grid shows for it. -/
def toText : Value → Except ErrorValue String
  | .error e => .error e
  | v => .ok v.display

end Value

end Worksheet
