/-
  Recalculation: evaluating formulas again, each after the cells it reads.
-/
import Worksheet.Dependency.Order
import Worksheet.Evaluation.Evaluate
import Worksheet.Sheet.Basic

namespace Worksheet.Sheet

/-- The value of an expression on a sheet. -/
def evaluate (s : Sheet) (e : Expr) : Value := e.value s.valueAt

/-- Evaluates the formula of a cell again, if it has one. -/
def recompute (s : Sheet) (c : Cell) : Sheet × Stats :=
  match s.formulaAt c with
  | none => (s, .zero)
  | some f =>
    let v := s.evaluate f.expr
    (s.store c ⟨v, some f⟩, .one v)

/-- Evaluates the formulas of cells one after the other. -/
def recomputeAll (s : Sheet) (cells : List Cell) : Sheet × Stats :=
  cells.foldl (fun (s, stats) c =>
    let (s, more) := s.recompute c
    (s, stats + more)) (s, .zero)

/-- Evaluates the formulas that depend on a changed cell, unless that is put off. -/
def recalculateReaders (s : Sheet) (changed : Cell) : Sheet × Stats :=
  if s.options.recalculateOnEdit then s.recomputeAll (s.graph.recalculationOrder changed)
  else (s, .zero)

/-- The cells whose formulas read no cells; the graph does not know them as readers. -/
def constants (s : Sheet) : List Cell :=
  (s.entries.toList.filter fun e =>
    e.2.formula.isSome && (s.graph.readsOf e.1).isEmpty).map Prod.fst

/-- Evaluates all formulas, each after the cells it reads. -/
def recalculateAll (s : Sheet) : Sheet × Stats :=
  s.recomputeAll (s.constants ++ s.graph.fullOrder)

end Worksheet.Sheet
