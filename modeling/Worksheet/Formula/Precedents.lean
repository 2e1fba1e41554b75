/-
  Precedents: the cells that an expression refers to, in the order in which they are first
  met from left to right, each once. Ranges count cell by cell and are limited in size.
-/
import Worksheet.Formula.Expr
import Worksheet.Formula.Fault

namespace Worksheet

/-! ## References -/

/-- What an expression refers to: a single cell, or a range between two corners. -/
inductive Reference where
  | cell (a : Address)
  | range (a b : Address)
deriving Repr, DecidableEq

/-- The cells of a reference; those of a range column by column. -/
def Reference.cells : Reference → List Cell
  | .cell a => [a.toCell]
  | .range a b => (Range.between a b).cells

/-- The range, if the reference is one and has more cells than the limit. -/
def Reference.oversized? (limit : Nat) : Reference → Option Range
  | .cell _ => none
  | .range a b =>
    let r := Range.between a b
    if limit < r.cellCount then some r else none

namespace Expr

mutual

/-- The references of an expression, from left to right. -/
def references : Expr → List Reference
  | .cell a => [.cell a]
  | .range a b => [.range a b]
  | .binary _ left right => left.references ++ right.references
  | .prefixed _ operand => operand.references
  | .group inner => inner.references
  | .call _ args => argReferences args
  | .number _ | .text _ | .boolean _ | .name _ => []

/-- The references of arguments, from left to right. -/
def argReferences : List Expr → List Reference
  | [] => []
  | e :: es => e.references ++ argReferences es

end

end Expr

/-! ## Cells -/

/-- Puts the cells not yet seen on top of those found, which are in reverse. -/
def distinctOnto (seen : CellSet) (found : List Cell) : List Cell → List Cell
  | [] => found.reverse
  | c :: cs =>
    if seen.contains c then distinctOnto seen found cs
    else distinctOnto (seen.insert c) (c :: found) cs

/-- The list without the repetitions of cells that stand further left. -/
def distinct (cs : List Cell) : List Cell := distinctOnto ∅ [] cs

/-- The cells an expression refers to, unless it has a range of more cells than the limit;
    the first such range is at fault. -/
def Expr.precedents (limit : Nat) (e : Expr) : Except FormulaFault (List Cell) :=
  match e.references.findSome? (Reference.oversized? limit) with
  | some r => .error (.tooManyCells r limit)
  | none => .ok (distinct (e.references.flatMap Reference.cells))

end Worksheet
