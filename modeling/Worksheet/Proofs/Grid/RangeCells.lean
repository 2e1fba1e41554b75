/-
  The cells of a range. They are the cells that the range contains, column by column and from top
  to bottom, each once (`cells_sorted`); and the walk through the range, which holds one cell at a
  time and counts those that are left, lists the same cells (`take_walk`).
-/
import Mathlib.Data.List.Basic
import Worksheet.Grid.Range

namespace Worksheet.Range

variable {r : Range} {c : Cell}

/-! ## The list -/

theorem mem_column {col : Nat} :
    c ∈ r.column col ↔ c.col = col ∧ r.first.row ≤ c.row ∧ c.row ≤ r.last.row := by
  have rows := r.rows_le
  simp only [column, rowCount, List.mem_map, List.mem_range'_1]
  constructor
  · rintro ⟨row, bounds, rfl⟩
    dsimp only
    omega
  · rintro ⟨rfl, first, last⟩
    exact ⟨c.row, by omega, rfl⟩

/-- The cells of a range are those between its corners. -/
theorem mem_cells : c ∈ r.cells ↔ r.contains c = true := by
  have cols := r.cols_le
  simp only [cells, colCount, List.mem_flatMap, List.mem_range'_1, mem_column, contains,
    Bool.and_eq_true, decide_eq_true_eq]
  constructor
  · rintro ⟨col, bounds, rfl, rows⟩
    omega
  · intro bounds
    exact ⟨c.col, by omega, rfl, by omega⟩

theorem length_cells (r : Range) : r.cells.length = r.cellCount := by
  have columns : ∀ cols : List Nat, (cols.flatMap r.column).length = cols.length * r.rowCount := by
    intro cols
    induction cols with
    | nil => simp
    | cons col cols ih =>
      rw [List.flatMap_cons, List.length_append, ih, List.length_cons, Nat.succ_mul, Nat.add_comm,
        column, List.length_map, List.length_range']
  rw [cells, columns, List.length_range', cellCount, Nat.mul_comm]

theorem cells_ne_nil (r : Range) : r.cells ≠ [] := by
  refine List.ne_nil_of_length_pos ?_
  rw [length_cells]
  exact Nat.mul_pos (Nat.succ_pos _) (Nat.succ_pos _)

/-- One cell stands before another one in a list by columns. -/
def Before (c d : Cell) : Prop := c.col < d.col ∨ c.col = d.col ∧ c.row < d.row

theorem cells_sorted (r : Range) : r.cells.Pairwise Before := by
  have ascending (start count : Nat) : (List.range' start count).Pairwise (· < ·) :=
    List.pairwise_lt_range'
  refine List.pairwise_flatMap.2 ⟨fun col _ => ?_, ?_⟩
  · exact List.pairwise_map.2 ((ascending _ _).imp fun rows => .inr ⟨rfl, rows⟩)
  · refine (ascending _ _).imp fun {col col'} cols c hc d hd => .inl ?_
    rw [(mem_column.1 hc).1, (mem_column.1 hd).1]
    exact cols

/-! ## The walk -/

/-- The cells from a place on: the rest of its column, and the columns after it. -/
def cellsFrom (r : Range) (row col : Nat) : List Cell :=
  (List.range' row (r.last.row - row + 1)).map (fun row => ⟨row, col⟩) ++
    (List.range' (col + 1) (r.last.col - col)).flatMap r.column

theorem cellsFrom_first (r : Range) : r.cellsFrom r.first.row r.first.col = r.cells := by
  show r.column r.first.col ++ _ = _
  rw [cells, colCount, List.range'_succ, List.flatMap_cons]

theorem cellsFrom_down {row col : Nat} (h : row < r.last.row) :
    r.cellsFrom row col = ⟨row, col⟩ :: r.cellsFrom (row + 1) col := by
  have rows : r.last.row - row = r.last.row - (row + 1) + 1 := by omega
  rw [cellsFrom, rows, List.range'_succ, List.map_cons, List.cons_append]
  rfl

theorem cellsFrom_across {col : Nat} (h : col < r.last.col) :
    r.cellsFrom r.last.row col = ⟨r.last.row, col⟩ :: r.cellsFrom r.first.row (col + 1) := by
  have cols : r.last.col - col = r.last.col - (col + 1) + 1 := by omega
  rw [cellsFrom, Nat.sub_self]
  show [(⟨r.last.row, col⟩ : Cell)] ++ _ = _
  rw [cols, List.range'_succ, List.flatMap_cons]
  rfl

theorem cellsFrom_last (r : Range) : r.cellsFrom r.last.row r.last.col = [r.last.toCell] := by
  rw [cellsFrom, Nat.sub_self, Nat.sub_self]
  rfl

/-- A walk lists the cells from its place on. The induction is on the cells that are left, of
    which there are as many as that. -/
theorem take_walk_from (n row col : Nat) (last : row ≤ r.last.row) (cols : col ≤ r.last.col)
    (left : r.last.row - row + 1 + (r.last.col - col) * r.rowCount = n) :
    (Walk.mk r ⟨row, col⟩ n).take n = r.cellsFrom row col := by
  induction n generalizing row col with
  | zero => omega
  | succ n ih =>
    rw [Walk.take]
    by_cases below : row < r.last.row
    · have step : (Walk.mk r ⟨row, col⟩ (n + 1)).step =
          some (⟨row, col⟩, ⟨r, ⟨row + 1, col⟩, n⟩) := by
        simp only [Walk.step, if_pos below]
      rw [step, cellsFrom_down below]
      exact congrArg (_ :: ·) (ih (row + 1) col (by omega) cols (by omega))
    · obtain rfl : row = r.last.row := by omega
      by_cases beside : col < r.last.col
      · have later : r.last.col - col = r.last.col - (col + 1) + 1 := by omega
        rw [later, Nat.succ_mul] at left
        have rows : r.rowCount = r.last.row - r.first.row + 1 := rfl
        have step : (Walk.mk r ⟨r.last.row, col⟩ (n + 1)).step =
            some (⟨r.last.row, col⟩, ⟨r, ⟨r.first.row, col + 1⟩, n⟩) := by
          simp only [Walk.step, if_neg below, if_pos (show 0 < n by omega)]
        rw [step, cellsFrom_across beside]
        exact congrArg (_ :: ·) (ih r.first.row (col + 1) r.rows_le (by omega) (by omega))
      · obtain rfl : col = r.last.col := by omega
        rw [Nat.sub_self r.last.col, Nat.zero_mul] at left
        obtain rfl : n = 0 := by omega
        rw [cellsFrom_last]
        rfl

/-- The walk through a range lists its cells. -/
theorem take_walk (r : Range) : r.walk.take r.cellCount = r.cells := by
  have rows := r.rows_le
  have count : r.last.row - r.first.row + 1 + (r.last.col - r.first.col) * r.rowCount =
      r.cellCount := by
    rw [cellCount, colCount, Nat.mul_succ, Nat.mul_comm, Nat.add_comm]
    rfl
  rw [← cellsFrom_first]
  exact take_walk_from r.cellCount _ _ rows r.cols_le count

end Worksheet.Range
