/-
  Sheets: cells with their contents, and the edges between them. An unset cell has no
  entry; the value of a formula is kept beside it.
-/
import Worksheet.Dependency.Graph
import Worksheet.Formula.Expr
import Worksheet.Value.Coercion

namespace Worksheet

/-- Options of a sheet. -/
structure Options where
  /-- The most cells that one range of a formula may have. -/
  maxRangeCells : Nat := 1048576
  /-- Whether an edit recalculates the formulas that depend on it. -/
  recalculateOnEdit : Bool := true
deriving Repr, DecidableEq

/-- A formula: its text from the equals sign on, and what it means. -/
structure Formula where
  text : String
  expr : Expr
deriving Repr

/-- The contents of a cell that is set. -/
structure Entry where
  value : Value
  formula : Option Formula
deriving Repr

/-- A sheet. -/
structure Sheet where
  options : Options
  entries : CellMap Entry
  graph : Graph

/-- How many formulas were evaluated, and how many of them ended in an error. -/
structure Stats where
  calculated : Nat
  errors : Nat
deriving Repr, DecidableEq

/-- Why an edit is refused. -/
inductive SheetFault where
  | address (fault : AddressFault)
  | formula (fault : FormulaFault)
  /-- The cell would read itself along the path. -/
  | cycle (cell : Cell) (path : List Cell)
deriving Repr, DecidableEq

/-- The wording of a fault. -/
def SheetFault.message : SheetFault → String
  | .address fault => fault.message
  | .formula fault => fault.message
  | .cycle cell path => s!"Circular reference in {cell.name}: {pathText path}"

namespace Stats

/-- Nothing evaluated. -/
def zero : Stats := ⟨0, 0⟩

instance : Add Stats := ⟨fun a b => ⟨a.calculated + b.calculated, a.errors + b.errors⟩⟩

/-- One formula evaluated to the given value. -/
def one (v : Value) : Stats := ⟨1, if v.isError then 1 else 0⟩

end Stats

/-! ## Naming cells -/

/-- A cell as an edit names it: by a text, or by its position. -/
inductive Place where
  | named (text : String)
  | at (cell : Cell)
deriving Repr, DecidableEq

/-- The cell that is named; anchors do not matter. -/
def Place.cell : Place → Except SheetFault Cell
  | .named text =>
    match Address.parse text with
    | .ok a => .ok a.toCell
    | .error fault => .error (.address fault)
  | .at cell => .ok cell

namespace Sheet

/-- The sheet without cells. -/
def empty (options : Options) : Sheet := ⟨options, ∅, .empty⟩

/-! ## Contents -/

/-- The value of a cell. -/
def valueAt (s : Sheet) (c : Cell) : Value := (s.entries[c]?.map Entry.value).getD .empty

/-- The value of the cell that is named. -/
def value (s : Sheet) (place : Place) : Except SheetFault Value := do
  let c ← place.cell
  return s.valueAt c

/-- The formula of a cell. -/
def formulaAt (s : Sheet) (c : Cell) : Option Formula := s.entries[c]?.bind Entry.formula

/-- Sets the contents of a cell and leaves everything else. -/
def store (s : Sheet) (c : Cell) (e : Entry) : Sheet := { s with entries := s.entries.insert c e }

/-- Column first, then row. -/
def byColumn (a b : Cell) : Ordering := (compare a.col b.col).then (compare a.row b.row)

/-- The cells that are set, column by column. -/
def listing (s : Sheet) : List (Cell × Entry) :=
  s.entries.toList.mergeSort fun a b => (byColumn a.1 b.1).isLE

/-! ## Input -/

/-- The literal that an input stands for: a truth value, a finite number, or else the input
    as a text. A blank input stands for nothing. -/
def literal? (input : String) : Option Value :=
  let word := Text.trim input
  if word.isEmpty then none
  else
    match Value.readBoolean? word with
    | some b => some (.boolean b)
    | none =>
      match Decimal.read? word.toList with
      | some x => some (.number x)
      | none => some (.text input)

end Sheet

end Worksheet
