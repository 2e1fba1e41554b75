/-
  Moving the corners of a range. A range keeps its corners in order, and each corner keeps the
  anchors it was written with, also when the corners trade a row or a column to get in order. Then an
  anchor is on another row or column than before, and it makes a difference whether the corners are
  moved first or put in order first. `moved_between_iff` says when both come to the same cells: in
  rows and in columns, if no trade was needed, or both corners are fixed there or neither is, or
  nothing is moved.
-/
import Worksheet.Proofs.Grid.Moved
import Worksheet.Proofs.Grid.RangeCells

namespace Worksheet.Range

/-! ## Ranges with the same cells -/

/-- The cells of a range tell where its corners are. -/
theorem mem_cells_congr_iff {r s : Range} :
    (∀ c, c ∈ r.cells ↔ c ∈ s.cells) ↔
      (r.first.row = s.first.row ∧ r.last.row = s.last.row) ∧
        r.first.col = s.first.col ∧ r.last.col = s.last.col := by
  have inside (t : Range) (c : Cell) : c ∈ t.cells ↔
      (t.first.row ≤ c.row ∧ c.row ≤ t.last.row) ∧ t.first.col ≤ c.col ∧ c.col ≤ t.last.col := by
    simp only [mem_cells, contains, Bool.and_eq_true, decide_eq_true_eq, and_assoc]
  have := r.rows_le
  have := r.cols_le
  have := s.rows_le
  have := s.cols_le
  simp only [inside]
  constructor
  · intro h
    have first := h r.first.toCell
    have last := h r.last.toCell
    have first' := h s.first.toCell
    have last' := h s.last.toCell
    omega
  · rintro ⟨⟨firstRow, lastRow⟩, firstCol, lastCol⟩ c
    rw [firstRow, lastRow, firstCol, lastCol]

/-! ## One component -/

/-- A component after a move. -/
def movedBy (delta : Int) (isFixed : Bool) (n : Nat) : Int := if isFixed then n else n + delta

/-- The ends of an interval may be put in order before a move or after it, if they were in order
    already or the move does the same to both of them. -/
theorem ordered_movedBy_iff {m n : Nat} {delta : Int} {p q : Bool} (hm : 0 ≤ movedBy delta p m)
    (hn : 0 ≤ movedBy delta q n) (hmin : 0 ≤ movedBy delta p (min m n))
    (hmax : 0 ≤ movedBy delta q (max m n)) :
    (min (movedBy delta p (min m n)).toNat (movedBy delta q (max m n)).toNat =
          min (movedBy delta p m).toNat (movedBy delta q n).toNat ∧
        max (movedBy delta p (min m n)).toNat (movedBy delta q (max m n)).toNat =
          max (movedBy delta p m).toNat (movedBy delta q n).toNat) ↔
      m ≤ n ∨ p = q ∨ delta = 0 := by
  unfold movedBy at *
  cases p <;> cases q <;> simp only [Bool.false_eq_true, if_true, if_false, reduceCtorEq, false_or,
    true_or, or_true, iff_true] at * <;> omega

/-! ## Corners -/

variable {a b a' b' first last : Address} {rows cols : Int}

/-- The corners of a range, in order and then moved, or moved and then in order: both ways lead to
    the same cells if the trade of rows and columns does not take an anchor to another place. -/
theorem moved_between_iff (ha : a.shift rows cols = some a') (hb : b.shift rows cols = some b')
    (hfirst : (between a b).first.shift rows cols = some first)
    (hlast : (between a b).last.shift rows cols = some last) :
    (∀ c, c ∈ (between first last).cells ↔ c ∈ (between a' b').cells) ↔
      (a.row ≤ b.row ∨ a.rowFixed = b.rowFixed ∨ rows = 0) ∧
        (a.col ≤ b.col ∨ a.colFixed = b.colFixed ∨ cols = 0) := by
  obtain ⟨⟨⟨row₁, -⟩, col₁, -⟩, rfl⟩ := Address.shift_eq_some.1 ha
  obtain ⟨⟨⟨row₂, -⟩, col₂, -⟩, rfl⟩ := Address.shift_eq_some.1 hb
  obtain ⟨⟨⟨row₃, -⟩, col₃, -⟩, rfl⟩ := Address.shift_eq_some.1 hfirst
  obtain ⟨⟨⟨row₄, -⟩, col₄, -⟩, rfl⟩ := Address.shift_eq_some.1 hlast
  rw [mem_cells_congr_iff]
  exact and_congr (ordered_movedBy_iff row₁ row₂ row₃ row₄)
    (ordered_movedBy_iff col₁ col₂ col₃ col₄)

/-- `C5:A$7`, moved five rows down and one column to the right: the columns trade places before the
    move, and the rows would after it. -/
theorem moved_between_iff_crossing :
    Address.shift ⟨⟨4, 2⟩, false, false⟩ 5 1 = some ⟨⟨9, 3⟩, false, false⟩ ∧
      Address.shift ⟨⟨6, 0⟩, true, false⟩ 5 1 = some ⟨⟨6, 1⟩, true, false⟩ ∧
      ∀ c, c ∈ (between ⟨⟨9, 1⟩, false, false⟩ ⟨⟨6, 3⟩, true, false⟩).cells ↔
        c ∈ (between ⟨⟨9, 3⟩, false, false⟩ ⟨⟨6, 1⟩, true, false⟩).cells := by
  have start : Address.shift ⟨⟨4, 2⟩, false, false⟩ 5 1 = some ⟨⟨9, 3⟩, false, false⟩ := by decide
  have stop : Address.shift ⟨⟨6, 0⟩, true, false⟩ 5 1 = some ⟨⟨6, 1⟩, true, false⟩ := by decide
  have first : (between ⟨⟨4, 2⟩, false, false⟩ ⟨⟨6, 0⟩, true, false⟩).first.shift 5 1 =
      some ⟨⟨9, 1⟩, false, false⟩ := by decide
  have last : (between ⟨⟨4, 2⟩, false, false⟩ ⟨⟨6, 0⟩, true, false⟩).last.shift 5 1 =
      some ⟨⟨6, 3⟩, true, false⟩ := by decide
  exact ⟨start, stop, (moved_between_iff start stop first last).2 (by decide)⟩

/-- `A$3:A1` in order is `A$1:A3`, so one row further down the cell A1 is in the range still. Moved
    first, the corners are A$3 and A2. -/
theorem anchor_stays_with_corner :
    (between ⟨⟨2, 0⟩, true, false⟩ ⟨⟨0, 0⟩, false, false⟩).first = ⟨⟨0, 0⟩, true, false⟩ ∧
      (between ⟨⟨2, 0⟩, true, false⟩ ⟨⟨0, 0⟩, false, false⟩).last = ⟨⟨2, 0⟩, false, false⟩ ∧
      Address.shift ⟨⟨0, 0⟩, true, false⟩ 1 0 = some ⟨⟨0, 0⟩, true, false⟩ ∧
      Address.shift ⟨⟨2, 0⟩, false, false⟩ 1 0 = some ⟨⟨3, 0⟩, false, false⟩ ∧
      Address.shift ⟨⟨2, 0⟩, true, false⟩ 1 0 = some ⟨⟨2, 0⟩, true, false⟩ ∧
      Address.shift ⟨⟨0, 0⟩, false, false⟩ 1 0 = some ⟨⟨1, 0⟩, false, false⟩ ∧
      (between ⟨⟨0, 0⟩, true, false⟩ ⟨⟨3, 0⟩, false, false⟩).cells =
        [⟨0, 0⟩, ⟨1, 0⟩, ⟨2, 0⟩, ⟨3, 0⟩] ∧
      (between ⟨⟨2, 0⟩, true, false⟩ ⟨⟨1, 0⟩, false, false⟩).cells = [⟨1, 0⟩, ⟨2, 0⟩] := by
  decide

end Worksheet.Range
