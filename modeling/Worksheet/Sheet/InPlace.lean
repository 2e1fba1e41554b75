/-
  Edits in place: how an edit is carried out on the one sheet that there is, write after write.
  A fault ends the edit where it is found, and the writes before it stay. The graph is written
  before the cell is.
-/
import Worksheet.Sheet.Edit

namespace Worksheet

/-- Reads and writes a sheet, and may end with a fault. -/
abbrev InPlace := EStateM SheetFault Sheet

namespace InPlace

/-- Goes on with a result, or ends with its fault. -/
def ofExcept {α : Type} : Except SheetFault α → InPlace α
  | .ok a => pure a
  | .error fault => throw fault

/-! ## Recalculation -/

/-- Evaluates the formula of a cell again, if it has one. -/
def recompute (c : Cell) : InPlace Stats := do
  let s ← get
  match s.formulaAt c with
  | none => return .zero
  | some f =>
    let v := s.evaluate f.expr
    modify fun s => s.store c ⟨v, some f⟩
    return .one v

/-- Evaluates the formulas of cells one after the other, and adds to what was evaluated
    before. -/
def recomputeAll (stats : Stats) : List Cell → InPlace Stats
  | [] => return stats
  | c :: cells => do
    let more ← recompute c
    recomputeAll (stats + more) cells

/-- Evaluates the formulas that depend on a changed cell, unless that is put off. -/
def recalculateReaders (changed : Cell) : InPlace Stats := do
  let s ← get
  if s.options.recalculateOnEdit then
    recomputeAll .zero (s.graph.recalculationOrder changed)
  else return .zero

/-- Evaluates all formulas, each after the cells it reads. -/
def recalculateAll : InPlace Stats := do
  let s ← get
  recomputeAll .zero (s.constants ++ s.graph.fullOrder)

/-! ## Contents -/

/-- Sets a cell to a literal, or clears it. -/
def setLiteral (c : Cell) (v : Option Value) : InPlace Stats := do
  modify fun s => { s with graph := s.graph.clear c }
  modify fun s =>
    { s with
      entries := match v with
        | some v => s.entries.insert c ⟨v, none⟩
        | none => s.entries.erase c }
  recalculateReaders c

/-- Ends with the path by which a cell would read itself if it read the given cells. -/
def refuseCycle (c : Cell) (reads : List Cell) : InPlace Unit := do
  match (← get).graph.circularPath? c reads with
  | some path => throw (.cycle c path)
  | none => return

/-- Makes a cell read the given cells. The graph refuses the cell itself. -/
def updateGraph (c : Cell) (reads : List Cell) : InPlace Unit := do
  let graph ← ofExcept (((← get).graph.update c reads).mapError .formula)
  modify fun s => { s with graph }

/-- Evaluates a formula and writes it to a cell. -/
def writeFormula (c : Cell) (f : Formula) : InPlace Stats := do
  let v := (← get).evaluate f.expr
  modify fun s => s.store c ⟨v, some f⟩
  let stats ← recalculateReaders c
  return .one v + stats

/-- Sets a cell to the formula with the given text, which begins with the equals sign. -/
def setFormula (c : Cell) (text : String) : InPlace Stats := do
  let expr ← ofExcept ((parseFormula text).mapError .formula)
  let reads ← ofExcept ((expr.precedents (← get).options.maxRangeCells).mapError .formula)
  refuseCycle c reads
  updateGraph c reads
  writeFormula c ⟨text, expr⟩

/-! ## Edits by name -/

/-- Sets a cell from an input: a formula if its first character that is not blank is an
    equals sign, and else a literal. -/
def set (place : Place) (input : String) : InPlace Stats := do
  let c ← ofExcept place.cell
  let text := Text.trimStart input
  if text.toList.head? = some '=' then setFormula c text
  else setLiteral c (Sheet.literal? input)

/-- Clears a cell. -/
def clear (place : Place) : InPlace Stats := do
  let c ← ofExcept place.cell
  setLiteral c none

/-- Copies the contents of a cell to another one, with the references of a formula moved. -/
def copyCell (source target : Cell) : InPlace Stats := do
  let s ← get
  match s.entries[source]? with
  | none => setLiteral target none
  | some ⟨v, none⟩ => setLiteral target (some v)
  | some ⟨_, some f⟩ =>
    let rows := (target.row : Int) - source.row
    let cols := (target.col : Int) - source.col
    let body ← ofExcept ((shiftBody rows cols (f.text.toList.drop 1)).mapError .formula)
    setFormula target (String.ofList ('=' :: body))

/-- Copies a cell. -/
def copy (source target : Place) : InPlace Stats := do
  let source ← ofExcept source.cell
  let target ← ofExcept target.cell
  copyCell source target

/-- Copies a cell to one target after the other. -/
def fillCells (source : Cell) (stats : Stats) : List Place → InPlace Stats
  | [] => return stats
  | target :: targets => do
    let more ← copy (.at source) target
    fillCells source (stats + more) targets

/-- Copies a cell to many. -/
def fill (source : Place) (targets : List Place) : InPlace Stats := do
  let source ← ofExcept source.cell
  fillCells source .zero targets

/-- Carries out an edit. -/
def apply : Edit → InPlace Stats
  | .set place input => set place input
  | .clear place => clear place
  | .copy source target => copy source target
  | .fill source targets => fill source targets
  | .recalculate => recalculateAll

end InPlace

end Worksheet
