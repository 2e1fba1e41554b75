/-
  What can be wrong with the name of a cell or of a range, and how it is reported.
-/
import Worksheet.Grid.Cell

namespace Worksheet

/-- Why a text is not of the form of an address. -/
inductive Malformed where
  | emptyText
  | noColumn (text : String)
  | noRow (text : String)
  | badRow (text : String)
  | rowZero (text : String)
  | noLetters
  | badLetter (c : Char)
deriving Repr, DecidableEq

/-- Why a text names no cell or no range. -/
inductive AddressFault where
  | malformed (cause : Malformed)
  | rowOutOfBounds (row : Nat)
  | columnOutOfBounds (col : Nat)
  /-- A corner of the range `text` is at fault. -/
  | corner (text : String) (fault : AddressFault)
deriving Repr, DecidableEq

/-- The wording of a malformed text. -/
def Malformed.message : Malformed → String
  | .emptyText => "empty address"
  | .noColumn text => s!"no column letters in '{text}'"
  | .noRow text => s!"no row number in '{text}'"
  | .badRow text => s!"invalid row number in '{text}'"
  | .rowZero text => s!"row number must be >= 1 in '{text}'"
  | .noLetters => "empty column letters"
  | .badLetter c => s!"invalid column letter '{c}'"

/-- The wording of a fault. -/
def AddressFault.message : AddressFault → String
  | .malformed cause => s!"Invalid cell address: {cause.message}"
  | .rowOutOfBounds row => s!"Row index {row} out of bounds (max: {maxRows - 1})"
  | .columnOutOfBounds col => s!"Column index {col} out of bounds (max: {maxCols - 1})"
  | .corner text fault => s!"Invalid cell range: '{text}': {fault.message}"

end Worksheet
