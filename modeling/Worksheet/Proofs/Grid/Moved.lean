/-
  Moved addresses. A move adds its offsets to the components that are not fixed; a shift gives the
  moved address if that lies on the grid (`Address.shift_eq_some`). Two moves are one by the sum of
  their offsets (`Address.moved_moved`).
-/
import Worksheet.Grid.Address

namespace Worksheet.Address

/-- The row after a move by so many rows, on the grid or not. -/
def movedRow (a : Address) (rows : Int) : Int := if a.rowFixed then a.row else a.row + rows

/-- The column after a move by so many columns, on the grid or not. -/
def movedCol (a : Address) (cols : Int) : Int := if a.colFixed then a.col else a.col + cols

/-- The moved address lies on the grid. -/
def StaysOnGrid (rows cols : Int) (a : Address) : Prop :=
  (0 ≤ a.movedRow rows ∧ a.movedRow rows < maxRows) ∧
    0 ≤ a.movedCol cols ∧ a.movedCol cols < maxCols

/-- The address with the components moved that are not fixed. -/
def moved (rows cols : Int) (a : Address) : Address :=
  { a with row := (a.movedRow rows).toNat, col := (a.movedCol cols).toNat }

variable {rows cols rows' cols' : Int} {a b : Address}

theorem StaysOnGrid.onGrid (h : a.StaysOnGrid rows cols) : (a.moved rows cols).OnGrid := by
  obtain ⟨⟨row, rowBound⟩, col, colBound⟩ := h
  constructor
  · show (a.movedRow rows).toNat < maxRows
    omega
  · show (a.movedCol cols).toNat < maxCols
    omega

theorem shiftComponent_eq_some {n m bound : Nat} {isFixed : Bool} {delta moved : Int}
    (h : (if isFixed then (n : Int) else n + delta) = moved) :
    shiftComponent n isFixed delta bound = some m ↔
      (0 ≤ moved ∧ moved < bound) ∧ m = moved.toNat := by
  unfold shiftComponent
  rw [h]
  dsimp only
  split
  · next inside => simp [inside, eq_comm]
  · next outside => simp [outside]

/-- A shift gives the moved address, if that lies on the grid. -/
theorem shift_eq_some :
    a.shift rows cols = some b ↔ a.StaysOnGrid rows cols ∧ b = a.moved rows cols := by
  unfold shift StaysOnGrid moved
  simp only [Option.bind_eq_bind, Option.bind_eq_some_iff, Option.pure_def, Option.some.injEq,
    @shiftComponent_eq_some _ _ _ _ _ (a.movedRow rows) rfl,
    @shiftComponent_eq_some _ _ _ _ _ (a.movedCol cols) rfl]
  constructor
  · rintro ⟨row, ⟨rowInside, rfl⟩, col, ⟨colInside, rfl⟩, rfl⟩
    exact ⟨⟨rowInside, colInside⟩, rfl⟩
  · rintro ⟨⟨rowInside, colInside⟩, rfl⟩
    exact ⟨_, ⟨rowInside, rfl⟩, _, ⟨colInside, rfl⟩, rfl⟩

/-! ## Two moves -/

theorem movedRow_moved (h : 0 ≤ a.movedRow rows) :
    (a.moved rows cols).movedRow rows' = a.movedRow (rows + rows') := by
  have row : ((a.moved rows cols).row : Int) = a.movedRow rows := Int.toNat_of_nonneg h
  unfold movedRow at row ⊢
  rw [row]
  show (if a.rowFixed then _ else _) = _
  split
  · rfl
  · omega

theorem movedCol_moved (h : 0 ≤ a.movedCol cols) :
    (a.moved rows cols).movedCol cols' = a.movedCol (cols + cols') := by
  have col : ((a.moved rows cols).col : Int) = a.movedCol cols := Int.toNat_of_nonneg h
  unfold movedCol at col ⊢
  rw [col]
  show (if a.colFixed then _ else _) = _
  split
  · rfl
  · omega

/-- Two moves are one, by the sum of the offsets. -/
theorem moved_moved (h : a.StaysOnGrid rows cols) :
    (a.moved rows cols).moved rows' cols' = a.moved (rows + rows') (cols + cols') := by
  have row := @movedRow_moved rows cols rows' a h.1.1
  have col := @movedCol_moved rows cols cols' a h.2.1
  rw [moved, row, col]
  rfl

theorem staysOnGrid_moved (h : a.StaysOnGrid rows cols) :
    (a.moved rows cols).StaysOnGrid rows' cols' ↔
      a.StaysOnGrid (rows + rows') (cols + cols') := by
  unfold StaysOnGrid
  rw [movedRow_moved h.1.1, movedCol_moved h.2.1]

theorem movedRow_zero (a : Address) : a.movedRow 0 = a.row := by
  unfold movedRow
  split
  · rfl
  · exact Int.add_zero _

theorem movedCol_zero (a : Address) : a.movedCol 0 = a.col := by
  unfold movedCol
  split
  · rfl
  · exact Int.add_zero _

theorem moved_zero (a : Address) : a.moved 0 0 = a := by
  rw [moved, movedRow_zero, movedCol_zero, Int.toNat_natCast, Int.toNat_natCast]

theorem staysOnGrid_zero (h : a.OnGrid) : a.StaysOnGrid 0 0 := by
  obtain ⟨row, col⟩ := h
  unfold StaysOnGrid
  rw [movedRow_zero, movedCol_zero]
  omega

end Worksheet.Address
