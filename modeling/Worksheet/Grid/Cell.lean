/-
  Cells and the grid they lie on. A cell is a row and a column, both counted from zero;
  cells are ordered by row, then by column.
-/
import Std.Data.ExtTreeMap
import Std.Data.ExtTreeSet

namespace Worksheet

/-- The number of rows of the grid. -/
def maxRows : Nat := 1048576

/-- The number of columns of the grid. -/
def maxCols : Nat := 16384

/-- A position, by row and column from zero. -/
structure Cell where
  row : Nat
  col : Nat
deriving Repr, DecidableEq, Inhabited

namespace Cell

/-- The cell lies on the grid. -/
def OnGrid (c : Cell) : Prop := c.row < maxRows ∧ c.col < maxCols

instance (c : Cell) : Decidable c.OnGrid := inferInstanceAs (Decidable (_ ∧ _))

/-! ## Order -/

/-- By row, then by column. -/
instance : Ord Cell := ⟨compareLex (compareOn row) (compareOn col)⟩

theorem compare_def (a b : Cell) :
    compare a b = (compare a.row b.row).then (compare a.col b.col) := rfl

instance : Std.TransOrd Cell :=
  inferInstanceAs (Std.TransCmp (compareLex (compareOn row) (compareOn col)))

instance : Std.LawfulEqOrd Cell where
  eq_of_compare {a b} h := by
    rw [compare_def, Ordering.then_eq_eq, Nat.compare_eq_eq, Nat.compare_eq_eq] at h
    cases a; cases b; simp_all

end Cell

/-- A finite set of cells. Two sets with the same members are equal. -/
abbrev CellSet := Std.ExtTreeSet Cell

theorem CellSet.mem_insert_iff {s : CellSet} {c d : Cell} : d ∈ s.insert c ↔ d = c ∨ d ∈ s := by
  rw [Std.ExtTreeSet.mem_insert, Std.LawfulEqOrd.compare_eq_iff_eq, eq_comm]

/-- A finite map from cells. Two maps with the same entries are equal. -/
abbrev CellMap (α : Type) := Std.ExtTreeMap Cell α

end Worksheet
