/-
  What can be wrong with a formula before it is evaluated, and how it is reported. All
  positions are byte offsets into the text after the equals sign.
-/
import Worksheet.Grid.Range

namespace Worksheet

/-- What the grammar wants where something else stands. -/
inductive Wanted where
  | closingParen
  | rangeCorner
  | argumentEnd
deriving Repr, DecidableEq

/-- How a formula breaks the grammar. -/
inductive GrammarFault where
  | noEqualsSign
  | nothing
  | tooDeep
  | noOperandAtEnd
  | noOperandBefore (token : String)
  | wanted (what : Wanted) (found : Option String)
  | badNumber (text : String)
  | commaAtEnd (function : String)
  | unbalanced
  | surplus (token : String)
deriving Repr, DecidableEq

/-- Why a formula is refused. -/
inductive FormulaFault where
  /-- A character that begins no token. -/
  | strayCharacter (c : Char) (position : Nat)
  /-- A text literal without its closing mark. -/
  | openText (position : Nat)
  | grammar (cause : GrammarFault) (position : Nat)
  /-- A reference that names no cell of the grid. The position is known while parsing. -/
  | noSuchCell (text : String) (position : Option Nat) (cause : AddressFault)
  /-- A reference that would be moved off the grid. -/
  | leavesGrid (text : String) (rows cols : Int)
  /-- A range of more cells than a formula may read. -/
  | tooManyCells (range : Range) (limit : Nat)
  /-- A cell that would read itself along the path. -/
  | circular (path : List Cell)
deriving Repr, DecidableEq

/-- The deepest nesting of a formula. -/
def nestingLimit : Nat := 256

/-- The cells of a path, joined by arrows. -/
def pathText (path : List Cell) : String := " -> ".intercalate (path.map Cell.name)

/-- The wording of what is wanted. -/
def Wanted.message : Wanted → String
  | .closingParen => "')'"
  | .rangeCorner => "cell reference after ':'"
  | .argumentEnd => "',' or ')'"

/-- The wording of a breach of the grammar. -/
def GrammarFault.message : GrammarFault → String
  | .noEqualsSign => "Formula must start with '='"
  | .nothing => "Empty formula"
  | .tooDeep => s!"Formula nested too deeply (limit {nestingLimit})"
  | .noOperandAtEnd => "Missing operand at end of formula"
  | .noOperandBefore token => s!"Missing operand before '{token}'"
  | .wanted what none => s!"Expected {what.message}, found end of formula"
  | .wanted what (some token) => s!"Expected {what.message}, found '{token}'"
  | .badNumber text => s!"Invalid number '{text}'"
  | .commaAtEnd function => s!"Trailing ',' in call to {function}"
  | .unbalanced => "Unbalanced ')'"
  | .surplus token => s!"Unexpected token '{token}'"

namespace FormulaFault

/-- The wording of a fault. -/
def message : FormulaFault → String
  | .strayCharacter c position => s!"Unexpected character '{c}' at position {position}"
  | .openText position => s!"Unterminated string literal starting at position {position}"
  | .grammar cause position => s!"Syntax error at position {position}: {cause.message}"
  | .noSuchCell text (some position) cause =>
    s!"Invalid reference: '{text}' at position {position}: {cause.message}"
  | .noSuchCell text none cause => s!"Invalid reference: '{text}': {cause.message}"
  | .leavesGrid text rows cols =>
    s!"Invalid reference: '{text}' moved by ({rows}, {cols}) leaves the sheet"
  | .tooManyCells range limit =>
    s!"Range {range.text} spans {range.cellCount} cells (limit: {limit})"
  | .circular path => s!"Circular reference: {pathText path}"

/-- The text is at fault, and not what it refers to. -/
def isTextual : FormulaFault → Bool
  | .strayCharacter _ _ | .openText _ | .grammar _ _ => true
  | _ => false

end FormulaFault

end Worksheet
