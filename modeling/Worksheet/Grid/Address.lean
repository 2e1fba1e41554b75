/-
  Addresses: a cell as it is written in a formula, `B7` or `$B$7`. A `$` fixes the column
  or the row that follows it, and a fixed component stays put when the address is shifted.
-/
import Worksheet.Decimal.Literal
import Worksheet.Grid.Column
import Worksheet.Text.Blank

namespace Worksheet

/-- A cell with its anchors. -/
structure Address extends Cell where
  rowFixed : Bool := false
  colFixed : Bool := false
deriving Repr, DecidableEq, Inhabited

/-- The address of a cell without anchors. -/
def Cell.address (c : Cell) : Address := { c with }

namespace Address

/-- The address lies on the grid. -/
def OnGrid (a : Address) : Prop := a.toCell.OnGrid

instance (a : Address) : Decidable a.OnGrid := inferInstanceAs (Decidable a.toCell.OnGrid)

/-- The same cell without anchors. -/
def relative (a : Address) : Address := a.toCell.address

/-- The same cell with both anchors. -/
def fixed (a : Address) : Address := { a with rowFixed := true, colFixed := true }

/-! ## Text -/

/-- An anchor as it is written. -/
def anchor (isFixed : Bool) : List Char := if isFixed then ['$'] else []

/-- The characters of an address. -/
def chars (a : Address) : List Char :=
  anchor a.colFixed ++ Column.numeral (a.col + 1)
    ++ (anchor a.rowFixed ++ Nat.toDigits 10 (a.row + 1))

/-- The text of an address, with its anchors. -/
def text (a : Address) : String := String.ofList a.chars

/-- Splits off an anchor and says whether there was one. -/
def splitAnchor : List Char → Bool × List Char
  | '$' :: cs => (true, cs)
  | cs => (false, cs)

/-- The row that digits name, counted from zero; `text` is the whole address. Numbers of
    more than 64 bits are no rows at all. -/
def rowIndex (text : String) (digits : List Char) : Except AddressFault Nat :=
  if digits.isEmpty then .error (.malformed (.noRow text))
  else if !digits.all Char.isDigit then .error (.malformed (.badRow text))
  else
    let row := Decimal.digitsValue digits
    if Nat.pow 2 64 ≤ row then .error (.malformed (.badRow text))
    else if row = 0 then .error (.malformed (.rowZero text))
    else if maxRows < row then .error (.rowOutOfBounds (row - 1))
    else .ok (row - 1)

/-- Reads an address that has no blanks around it. -/
def ofChars (cs : List Char) : Except AddressFault Address := do
  if cs.isEmpty then .error (.malformed .emptyText) else
  let whole := String.ofList cs
  let (colFixed, afterAnchor) := splitAnchor cs
  let letters := afterAnchor.takeWhile Char.isAlpha
  if letters.isEmpty then .error (.malformed (.noColumn whole)) else
  let col ← Column.index letters
  let (rowFixed, digits) := splitAnchor (afterAnchor.dropWhile Char.isAlpha)
  let row ← rowIndex whole digits
  return { row, col, rowFixed, colFixed }

/-- Reads an address; blanks around it do not matter. -/
def parse (s : String) : Except AddressFault Address := ofChars (Text.trimBoth s.toList)

/-! ## Shifting -/

/-- One component moved, unless it is fixed; `none` when it leaves `0 … bound - 1`. -/
def shiftComponent (n : Nat) (isFixed : Bool) (delta : Int) (bound : Nat) : Option Nat :=
  let moved := if isFixed then (n : Int) else n + delta
  if 0 ≤ moved ∧ moved < bound then some moved.toNat else none

/-- Moves the components that are not fixed; `none` when the address leaves the grid. -/
def shift (a : Address) (rows cols : Int) : Option Address := do
  let row ← shiftComponent a.row a.rowFixed rows maxRows
  let col ← shiftComponent a.col a.colFixed cols maxCols
  return { a with row, col }

end Address

/-- The name of a cell. -/
def Cell.name (c : Cell) : String := c.address.text

end Worksheet
