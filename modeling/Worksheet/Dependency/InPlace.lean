/-
  Changes to the one graph that there is, write after write. What a cell read before is taken out
  first; each edge that goes then leaves the other direction, an entry that was left empty goes
  with it, and each edge that comes joins it. What the cell reads now is put back last, if that is
  anything.
-/
import Worksheet.Dependency.Graph

namespace Worksheet

/-- Reads and writes a graph, and may end with a fault. -/
abbrev Rewiring := EStateM FormulaFault Graph

namespace Rewiring

/-- Takes out the entry of a cell and gives what the cell read. -/
def takeReads (c : Cell) : Rewiring CellSet := do
  let old := (← get).readsOf c
  modify fun g => { g with precedents := g.precedents.erase c }
  return old

/-- Takes a reader from the readers of a cell, and with the last one also their entry. -/
def unlink (reader c : Cell) : Rewiring Unit := do
  match (← get).dependents[c]? with
  | none => return
  | some readers =>
    let readers := readers.erase reader
    modify fun g => { g with dependents := g.dependents.insert c readers }
    if readers.isEmpty then
      modify fun g => { g with dependents := g.dependents.erase c }

/-- Adds a reader to the readers of a cell, which may have had none. -/
def link (reader c : Cell) : Rewiring Unit :=
  modify fun g => { g with dependents := g.dependents.insert c ((g.readersOf c).insert reader) }

/-- Carries out a change for one cell after the other. -/
def each (change : Cell → Rewiring Unit) : List Cell → Rewiring Unit
  | [] => return
  | c :: cs => do
    change c
    each change cs

/-- Replaces the cells that a cell reads. -/
def replace (c : Cell) (reads : CellSet) : Rewiring Unit := do
  let old ← takeReads c
  each (unlink c) (old.toList.filter fun r => !reads.contains r)
  each (link c) (reads.toList.filter fun r => !old.contains r)
  if !reads.isEmpty then
    modify fun g => { g with precedents := g.precedents.insert c reads }

/-! ## Calls -/

/-- What a host can ask of a graph. -/
inductive Call where
  /-- A cell shall read the cells of a list and no others. -/
  | update (c : Cell) (reads : List Cell)
  /-- A cell shall read nothing. -/
  | clear (c : Cell)
  /-- Start over without edges. -/
  | reset
deriving DecidableEq

/-- Carries out a call. A cell that shall read itself is refused. -/
def apply : Call → Rewiring Unit
  | .update c reads =>
    let reads := Std.ExtTreeSet.ofList reads
    if reads.contains c then throw (.circular [c, c]) else replace c reads
  | .clear c => replace c ∅
  | .reset => do
    modify fun g => { g with dependents := ∅ }
    modify fun g => { g with precedents := ∅ }

/-- The graph that a call leaves, done or refused. -/
def leaves (call : Call) (g : Graph) : Graph :=
  match (apply call).run g with
  | .ok _ g => g
  | .error _ g => g

/-- The graph after calls from the graph without edges. A refused call does not end them. -/
def after (calls : List Call) : Graph := calls.foldl (fun g call => leaves call g) .empty

end Rewiring

end Worksheet
