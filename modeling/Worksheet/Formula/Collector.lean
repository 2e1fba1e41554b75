/-
  Collecting precedents in one visit: the expression is gone through from left to right, and what
  was seen goes along, as a set and as a list. A range is walked cell by cell. One that has too
  many cells ends the visit where it stands.
-/
import Worksheet.Formula.Precedents

namespace Worksheet

/-- The cells seen so far, as a set and in the order in which they were first seen. -/
structure Collector where
  seen : CellSet
  cells : Array Cell

/-- Reads and writes a collector, and may end with a fault. -/
abbrev Collecting := EStateM FormulaFault Collector

namespace Collector

/-- The collector that has seen no cells. -/
def empty : Collector := ⟨∅, #[]⟩

/-- Adds a cell, unless it was seen before. -/
def push (c : Cell) : Collecting Unit := do
  if !(← get).seen.contains c then
    modify fun s => { s with seen := s.seen.insert c }
    modify fun s => { s with cells := s.cells.push c }

/-- Adds the cells of a walk. -/
def pushWalk (w : Range.Walk) : Collecting Unit :=
  match _h : w.step with
  | none => pure ()
  | some (c, rest) => do
    push c
    pushWalk rest
termination_by w.remaining
decreasing_by
  have := Range.Walk.remaining_step _h
  omega

/-- Adds the cells of a range, unless they are too many. -/
def pushRange (limit : Nat) (r : Range) : Collecting Unit :=
  if limit < r.cellCount then throw (.tooManyCells r limit) else pushWalk r.walk

mutual

/-- Adds the cells that an expression refers to. -/
def visit (limit : Nat) : Expr → Collecting Unit
  | .cell a => push a.toCell
  | .range a b => pushRange limit (Range.between a b)
  | .binary _ left right => do
    visit limit left
    visit limit right
  | .prefixed _ operand => visit limit operand
  | .group inner => visit limit inner
  | .call _ args => visitArgs limit args
  | .number _ | .text _ | .boolean _ | .name _ => pure ()

/-- Adds the cells that arguments refer to. -/
def visitArgs (limit : Nat) : List Expr → Collecting Unit
  | [] => pure ()
  | e :: es => do
    visit limit e
    visitArgs limit es

end

/-- The cells that were collected from an expression, or the fault that ended the visit. -/
def collect (limit : Nat) (e : Expr) : Except FormulaFault (List Cell) :=
  match (visit limit e).run empty with
  | .ok _ s => .ok s.cells.toList
  | .error fault _ => .error fault

end Collector

end Worksheet
