/-
  Edits of a sheet. An edit that is refused leaves no trace: it returns no sheet. Only a
  fill that fails halfway keeps what it did before.
-/
import Worksheet.Dependency.Cycle
import Worksheet.Formula.Parser
import Worksheet.Formula.Precedents
import Worksheet.Formula.Shift
import Worksheet.Sheet.Recalculation

namespace Worksheet

/-- An edit of a sheet, or the request to evaluate all of it. -/
inductive Edit where
  | set (place : Place) (input : String)
  | clear (place : Place)
  | copy (source target : Place)
  | fill (source : Place) (targets : List Place)
  | recalculate
deriving Repr, DecidableEq

namespace Sheet

/-- The result of an edit: the sheet after it and what was evaluated, or why it is
    refused. -/
abbrev Edited := Except SheetFault (Sheet × Stats)

/-! ## Contents -/

/-- Sets a cell to a literal, or clears it. -/
def setLiteral (s : Sheet) (c : Cell) (v : Option Value) : Sheet × Stats :=
  let entries := match v with
    | some v => s.entries.insert c ⟨v, none⟩
    | none => s.entries.erase c
  recalculateReaders { s with entries, graph := s.graph.clear c } c

/-- Makes a cell read the given cells, unless it would read itself by that. -/
def rewire (s : Sheet) (c : Cell) (reads : List Cell) : Except SheetFault Sheet :=
  match s.graph.circularPath? c reads with
  | some path => .error (.cycle c path)
  | none =>
    match s.graph.update c reads with
    | .ok graph => .ok { s with graph }
    | .error fault => .error (.formula fault)

/-- Sets a cell to the formula with the given text, which begins with the equals sign. -/
def setFormula (s : Sheet) (c : Cell) (text : String) : Edited := do
  let (expr, reads) ← (do
    let expr ← parseFormula text
    return (expr, ← expr.precedents s.options.maxRangeCells)).mapError .formula
  let s ← s.rewire c reads
  let v := s.evaluate expr
  let (s, stats) := (s.store c ⟨v, some ⟨text, expr⟩⟩).recalculateReaders c
  return (s, .one v + stats)

/-! ## Edits by name -/

/-- Sets a cell from an input: a formula if its first character that is not blank is an
    equals sign, and else a literal. -/
def set (s : Sheet) (place : Place) (input : String) : Edited := do
  let c ← place.cell
  let text := Text.trimStart input
  if text.toList.head? = some '=' then s.setFormula c text
  else return s.setLiteral c (literal? input)

/-- Clears a cell. -/
def clear (s : Sheet) (place : Place) : Edited := do
  let c ← place.cell
  return s.setLiteral c none

/-- Copies the contents of a cell to another one. The references of a formula move along
    with it; an unset cell clears the other one. -/
def copyCell (s : Sheet) (source target : Cell) : Edited :=
  match s.entries[source]? with
  | none => .ok (s.setLiteral target none)
  | some ⟨v, none⟩ => .ok (s.setLiteral target (some v))
  | some ⟨_, some f⟩ => do
    let rows := (target.row : Int) - source.row
    let cols := (target.col : Int) - source.col
    let body ← (shiftBody rows cols (f.text.toList.drop 1)).mapError .formula
    s.setFormula target (String.ofList ('=' :: body))

/-- Copies a cell. -/
def copy (s : Sheet) (source target : Place) : Edited := do
  let source ← source.cell
  let target ← target.cell
  s.copyCell source target

/-- Copies a cell to one target after the other, up to the first one that is refused. -/
def fillCells (s : Sheet) (source : Cell) (stats : Stats) :
    List Place → Sheet × Except SheetFault Stats
  | [] => (s, .ok stats)
  | target :: targets =>
    match s.copy (.at source) target with
    | .error fault => (s, .error fault)
    | .ok (s, more) => s.fillCells source (stats + more) targets

/-- Copies a cell to many. What was copied before a failure stays. -/
def fill (s : Sheet) (source : Place) (targets : List Place) :
    Sheet × Except SheetFault Stats :=
  match source.cell with
  | .error fault => (s, .error fault)
  | .ok source => s.fillCells source .zero targets

/-- The sheet after an edit that leaves no trace when it is refused. -/
def settle (s : Sheet) : Edited → Sheet × Except SheetFault Stats
  | .ok (edited, stats) => (edited, .ok stats)
  | .error fault => (s, .error fault)

/-- Carries out an edit: the sheet after it, and what was evaluated or why it is refused. -/
def apply (s : Sheet) : Edit → Sheet × Except SheetFault Stats
  | .set place input => s.settle (s.set place input)
  | .clear place => s.settle (s.clear place)
  | .copy source target => s.settle (s.copy source target)
  | .fill source targets => s.fill source targets
  | .recalculate =>
    let (evaluated, stats) := s.recalculateAll
    (evaluated, .ok stats)

end Sheet

end Worksheet
