/-
  The walk through a range, step by step. A walk is in step when it stands inside its range and
  counts the cells that are left below and beside its place (`Walk.InStep`). The walk starts that
  way and every step keeps it, the last one too, after which there is no place to go on to
  (`InStep.step`). So the walk between two corners yields each cell of the rectangle once, knows at
  every step how many are left, and never stands outside (`walk_between`).
-/
import Worksheet.Proofs.Grid.RangeCells

namespace Worksheet.Range

/-! ## Runs of a walk -/

/-- The walk yields the cells one after the other, and is at another place then. -/
inductive Walk.Yields : Walk → List Cell → Walk → Prop where
  | nothing (w : Walk) : w.Yields [] w
  | next {w w' last : Walk} {c : Cell} {cs : List Cell} (step : w.step = some (c, w'))
      (later : w'.Yields cs last) : w.Yields (c :: cs) last

namespace Walk

variable {w w' : Walk} {c : Cell} {cs : List Cell}

theorem take_remaining (step : w.step = some (c, w')) :
    w.take w.remaining = c :: w'.take w'.remaining := by
  rw [← remaining_step step, take, step]

/-- What a walk has yielded is the start of what it had left. -/
theorem Yields.take_eq (h : w.Yields cs w') :
    w.take w.remaining = cs ++ w'.take w'.remaining := by
  induction h with
  | nothing => rfl
  | next step _ ih => rw [take_remaining step, ih, List.cons_append]

theorem Yields.remaining_eq (h : w.Yields cs w') : cs.length + w'.remaining = w.remaining := by
  induction h with
  | nothing w => exact Nat.zero_add _
  | next step _ ih =>
    have left := remaining_step step
    rw [List.length_cons]
    omega

/-- A walk yields as many cells as it has left, and no more. -/
theorem exists_yields (w : Walk) :
    ∃ last, w.Yields (w.take w.remaining) last ∧ last.step = none := by
  generalize left : w.remaining = n
  induction n generalizing w with
  | zero => exact ⟨w, .nothing w, step_eq_none.2 left⟩
  | succ n ih =>
    cases step : w.step with
    | none =>
      rw [step_eq_none.1 step] at left
      cases left
    | some next =>
      obtain ⟨c, w'⟩ := next
      have fewer := remaining_step step
      obtain ⟨last, later, stops⟩ := ih w' (by omega)
      refine ⟨last, ?_, stops⟩
      rw [take, step]
      exact .next step later

/-! ## Steps inside the range -/

/-- The number of cells from a place on: those of its column, and the columns beside it. -/
def cellsAhead (w : Walk) : Nat :=
  w.range.last.row - w.next.row + 1 + (w.range.last.col - w.next.col) * w.range.rowCount

/-- The walk stands inside its range, and the cells that are left are those ahead. After the last
    step none is left, and the walk has not moved on. -/
structure InStep (w : Walk) : Prop where
  inside : w.range.contains w.next = true
  count : 0 < w.remaining → w.remaining = w.cellsAhead

theorem contains_iff {r : Range} {c : Cell} : r.contains c = true ↔
    (r.first.row ≤ c.row ∧ c.row ≤ r.last.row) ∧ r.first.col ≤ c.col ∧ c.col ≤ r.last.col := by
  simp only [contains, Bool.and_eq_true, decide_eq_true_eq, and_assoc]

/-- A step yields the cell of the place, and stays in the range. -/
theorem InStep.step (h : w.InStep) (step : w.step = some (c, w')) :
    c = w.next ∧ w'.range = w.range ∧ w'.InStep := by
  obtain ⟨r, ⟨row, col⟩, remaining⟩ := w
  obtain ⟨⟨firstRow, lastRow⟩, firstCol, lastCol⟩ := contains_iff.1 h.inside
  have count := h.count
  unfold cellsAhead at count
  dsimp only at firstRow lastRow firstCol lastCol count
  have rows : r.rowCount = r.last.row - r.first.row + 1 := rfl
  unfold Walk.step at step
  split at step
  · cases step
  · next n left =>
    dsimp only at left
    subst left
    obtain ⟨rfl, rfl⟩ := Prod.mk.inj (Option.some.inj step)
    refine ⟨rfl, rfl, ?_⟩
    by_cases below : row < r.last.row
    · -- down the column
      rw [if_pos below]
      refine ⟨contains_iff.2 (by dsimp only; omega), fun _ => ?_⟩
      have ahead := count (Nat.succ_pos n)
      unfold cellsAhead
      dsimp only
      omega
    rw [if_neg below]
    by_cases more : 0 < n
    · -- to the top of the next column, which is there because a cell is left
      have ahead := count (Nat.succ_pos n)
      have beside : col < r.last.col := by
        refine Nat.lt_of_not_le fun none => ?_
        rw [Nat.sub_eq_zero_of_le none, Nat.zero_mul] at ahead
        omega
      have columns : r.last.col - col = r.last.col - (col + 1) + 1 := by omega
      rw [columns, Nat.succ_mul] at ahead
      rw [if_pos more]
      refine ⟨contains_iff.2 (by have := r.rows_le; dsimp only; omega), fun _ => ?_⟩
      unfold cellsAhead
      dsimp only
      omega
    · -- the last cell was yielded
      rw [if_neg more]
      exact ⟨h.inside, fun left => absurd left more⟩

theorem InStep.yields (h : w.InStep) (run : w.Yields cs w') :
    w'.range = w.range ∧ w'.InStep := by
  induction run with
  | nothing => exact ⟨rfl, h⟩
  | next step _ ih =>
    obtain ⟨-, range, inStep⟩ := h.step step
    obtain ⟨range', inStep'⟩ := ih inStep
    exact ⟨range'.trans range, inStep'⟩

theorem inStep_walk (r : Range) : r.walk.InStep where
  inside := contains_iff.2
    ⟨⟨Nat.le_refl _, r.rows_le⟩, Nat.le_refl _, r.cols_le⟩
  count _ := by
    show r.cellCount = r.last.row - r.first.row + 1 + (r.last.col - r.first.col) * r.rowCount
    rw [cellCount, colCount, Nat.mul_succ, Nat.mul_comm, Nat.add_comm]
    rfl

/-! ## Widths -/

/-- The counters of a walk fit the words that hold them: one of 32 bits for the row, one of 16 for
    the column and one of 64 for the cells that are left. -/
structure Fits (w : Walk) : Prop where
  row : w.next.row < UInt32.size
  col : w.next.col < UInt16.size
  remaining : w.remaining < UInt64.size

end Walk

section

variable {a b : Address}

theorem onGrid_last_between (ha : a.OnGrid) (hb : b.OnGrid) : (between a b).last.OnGrid :=
  ⟨Nat.max_lt.2 ⟨ha.1, hb.1⟩, Nat.max_lt.2 ⟨ha.2, hb.2⟩⟩

theorem contains_between {c : Cell} : (between a b).contains c = true ↔
    (min a.row b.row ≤ c.row ∧ c.row ≤ max a.row b.row) ∧
      min a.col b.col ≤ c.col ∧ c.col ≤ max a.col b.col :=
  Walk.contains_iff

end

/-- The counts of a range on the grid fit the words that hold them. -/
structure CountsFit (r : Range) : Prop where
  rows : r.rowCount < UInt32.size
  cols : r.colCount < UInt16.size
  cells : r.cellCount < UInt64.size

theorem countsFit_of_onGrid {r : Range} (h : r.last.OnGrid) : r.CountsFit := by
  have rows : r.rowCount ≤ maxRows := Nat.lt_of_le_of_lt (Nat.sub_le _ _) h.1
  have cols : r.colCount ≤ maxCols := Nat.lt_of_le_of_lt (Nat.sub_le _ _) h.2
  have cells : r.cellCount ≤ maxRows * maxCols := Nat.mul_le_mul rows cols
  exact ⟨Nat.lt_of_le_of_lt rows (by decide), Nat.lt_of_le_of_lt cols (by decide),
    Nat.lt_of_le_of_lt cells (by decide)⟩

theorem Walk.InStep.fits {w : Walk} (h : w.InStep) (grid : w.range.last.OnGrid)
    (left : w.remaining < UInt64.size) : w.Fits := by
  obtain ⟨⟨-, row⟩, -, col⟩ := contains_iff.1 h.inside
  have lastRow : w.range.last.row < 1048576 := grid.1
  have lastCol : w.range.last.col < 16384 := grid.2
  exact ⟨Nat.lt_trans (Nat.lt_of_le_of_lt row lastRow) (by decide),
    Nat.lt_trans (Nat.lt_of_le_of_lt col lastCol) (by decide), left⟩

/-- A cell stands once in the list of the range if the range contains it, and else not at all. -/
theorem count_cells (r : Range) (c : Cell) :
    r.cells.count c = if r.contains c = true then 1 else 0 := by
  have once : r.cells.Nodup := by
    refine r.cells_sorted.imp fun {c d} before same => ?_
    subst same
    rcases before with col | ⟨-, row⟩
    · exact Nat.lt_irrefl _ col
    · exact Nat.lt_irrefl _ row
  rw [once.count]
  simp only [mem_cells]

/-- The range between two corners on the grid, in whatever order they are given. Its walk yields the
    cells of the range and then stops. There are as many of them as the range counts, each cell that
    the range contains is among them once and no other cell is, and they are sorted by columns. At
    every step the walk tells exactly how many cells are to come and stands inside the range; no
    count and no counter leaves its word. -/
theorem walk_between (a b : Address) (ha : a.OnGrid) (hb : b.OnGrid) :
    let r := between a b
    (∀ c, r.contains c = true ↔ (min a.row b.row ≤ c.row ∧ c.row ≤ max a.row b.row) ∧
      min a.col b.col ≤ c.col ∧ c.col ≤ max a.col b.col) ∧
    r.CountsFit ∧
    ∃ cells, (∃ last, r.walk.Yields cells last ∧ last.step = none) ∧
      cells.length = r.cellCount ∧
      (∀ c, cells.count c = if r.contains c = true then 1 else 0) ∧
      cells.Pairwise Before ∧
      ∀ done w, r.walk.Yields done w → ∃ rest, cells = done ++ rest ∧
        w.sizeHint = (rest.length, some rest.length) ∧ r.contains w.next = true ∧ w.Fits := by
  intro r
  have grid : r.last.OnGrid := onGrid_last_between ha hb
  have counts := countsFit_of_onGrid grid
  have all : r.walk.take r.walk.remaining = r.cells := r.take_walk
  obtain ⟨last, yields, stops⟩ := r.walk.exists_yields
  rw [all] at yields
  refine ⟨fun c => contains_between, counts, r.cells, ⟨last, yields, stops⟩, r.length_cells,
    r.count_cells, r.cells_sorted, fun done w run => ?_⟩
  have split : r.cells = done ++ w.take w.remaining := all.symm.trans run.take_eq
  have left : done.length + w.remaining = r.cellCount := run.remaining_eq
  have length : (w.take w.remaining).length = w.remaining := by
    have total := congrArg List.length split
    rw [List.length_append, length_cells] at total
    omega
  obtain ⟨range, inStep⟩ := (Walk.inStep_walk r).yields run
  have range : w.range = r := range
  refine ⟨w.take w.remaining, split, ?_, range ▸ inStep.inside,
    inStep.fits (range ▸ grid) (Nat.lt_of_le_of_lt (by omega) counts.cells)⟩
  rw [length]
  rfl

/-- The last two rows of the last two columns, from the lower left corner to the upper right one.
    After the last cell of the grid the walk still stands on it. -/
theorem walk_between_gridCorner :
    let lower : Address := ⟨⟨1048575, 16382⟩, true, false⟩
    let upper : Address := ⟨⟨1048574, 16383⟩, false, false⟩
    lower.OnGrid ∧ upper.OnGrid ∧
      ∃ last, (between lower upper).walk.Yields
        [⟨1048574, 16382⟩, ⟨1048575, 16382⟩, ⟨1048574, 16383⟩, ⟨1048575, 16383⟩] last ∧
        last.step = none ∧ last.next = ⟨1048575, 16383⟩ ∧ last.sizeHint = (0, some 0) ∧
        last.Fits := by
  intro lower upper
  have grid : lower.OnGrid ∧ upper.OnGrid := by decide
  obtain ⟨-, -, cells, -, -, -, -, steps⟩ := walk_between lower upper grid.1 grid.2
  let place (row col left : Nat) : Walk := ⟨between lower upper, ⟨row, col⟩, left⟩
  have first : (between lower upper).walk.step =
      some (⟨1048574, 16382⟩, place 1048575 16382 3) := by cbv
  have second : (place 1048575 16382 3).step =
      some (⟨1048575, 16382⟩, place 1048574 16383 2) := by cbv
  have third : (place 1048574 16383 2).step =
      some (⟨1048574, 16383⟩, place 1048575 16383 1) := by cbv
  have fourth : (place 1048575 16383 1).step =
      some (⟨1048575, 16383⟩, place 1048575 16383 0) := by cbv
  have run := Walk.Yields.next first (.next second (.next third (.next fourth (.nothing _))))
  obtain ⟨rest, -, -, -, fits⟩ := steps _ _ run
  exact ⟨grid.1, grid.2, _, run, rfl, rfl, rfl, fits⟩

end Worksheet.Range
