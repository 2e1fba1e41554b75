/-
  Dependency graphs: which cells the formula of each cell reads. Every edge is kept twice,
  from the reader to what it reads and back, and a cell without edges has no entry, so that
  two graphs with the same edges are equal.
-/
import Worksheet.Formula.Fault

namespace Worksheet

/-- The edges between readers and the cells they read, in both directions. -/
structure Graph where
  precedents : CellMap CellSet
  dependents : CellMap CellSet
deriving DecidableEq

namespace Graph

/-- The graph without edges. -/
def empty : Graph := ⟨∅, ∅⟩

/-- The cells that a cell reads. -/
def readsOf (g : Graph) (c : Cell) : CellSet := (g.precedents[c]?).getD ∅

/-- The cells that read a cell. -/
def readersOf (g : Graph) (c : Cell) : CellSet := (g.dependents[c]?).getD ∅

/-- The number of cells that read others. -/
def size (g : Graph) : Nat := g.precedents.size

/-! ## Edges -/

/-- A set as an entry; the empty set has none. -/
def pruned? (s : CellSet) : Option CellSet := if s.isEmpty then none else some s

/-- Adds a reader to the entry of a cell. -/
def link (reader : Cell) (m : CellMap CellSet) (c : Cell) : CellMap CellSet :=
  m.alter c fun s => pruned? ((s.getD ∅).insert reader)

/-- Takes a reader from the entry of a cell. -/
def unlink (reader : Cell) (m : CellMap CellSet) (c : Cell) : CellMap CellSet :=
  m.alter c fun s => pruned? ((s.getD ∅).erase reader)

/-- Replaces the cells that a cell reads. Only edges that come or go are touched. -/
def replace (g : Graph) (c : Cell) (reads : CellSet) : Graph :=
  let old := g.readsOf c
  let gone := old.toList.filter fun r => !reads.contains r
  let come := reads.toList.filter fun r => !old.contains r
  { precedents := g.precedents.alter c fun _ => pruned? reads
    dependents := come.foldl (link c) (gone.foldl (unlink c) g.dependents) }

/-- Makes a cell read the cells of a list and no others, unless it is one of them. Longer
    cycles are not looked for. -/
def update (g : Graph) (c : Cell) (reads : List Cell) : Except FormulaFault Graph :=
  let reads := Std.ExtTreeSet.ofList reads
  if reads.contains c then .error (.circular [c, c]) else .ok (g.replace c reads)

/-- Makes a cell read nothing. The cells that read it keep their edges. -/
def clear (g : Graph) (c : Cell) : Graph := g.replace c ∅

end Graph

end Worksheet
