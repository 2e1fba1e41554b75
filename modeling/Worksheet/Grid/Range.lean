/-
  Ranges: rectangles of cells between two corners. A range holds its corners in order, the
  first one left of and above the last one. Its cells are listed column by column, from
  top to bottom; `walk` steps through the same list without building it.
-/
import Worksheet.Grid.Address

namespace Worksheet

/-- A rectangle of cells, by its corners. -/
structure Range where
  first : Address
  last : Address
  rows_le : first.row ≤ last.row
  cols_le : first.col ≤ last.col
deriving Repr, DecidableEq

namespace Range

/-- The range between two corners given in any order. The anchors stay on the side they
    were written on. -/
def between (a b : Address) : Range where
  first := { a with row := min a.row b.row, col := min a.col b.col }
  last := { b with row := max a.row b.row, col := max a.col b.col }
  rows_le := by simp only; omega
  cols_le := by simp only; omega

/-- The range of one cell. -/
def single (a : Address) : Range := ⟨a, a, Nat.le_refl _, Nat.le_refl _⟩

/-! ## Extent -/

/-- The number of rows. -/
def rowCount (r : Range) : Nat := r.last.row - r.first.row + 1

/-- The number of columns. -/
def colCount (r : Range) : Nat := r.last.col - r.first.col + 1

/-- The number of cells. -/
def cellCount (r : Range) : Nat := r.rowCount * r.colCount

/-- Whether a cell lies in the range. -/
def contains (r : Range) (c : Cell) : Bool :=
  r.first.row ≤ c.row && c.row ≤ r.last.row && r.first.col ≤ c.col && c.col ≤ r.last.col

/-! ## Cells -/

/-- The cells of one column of the range, from top to bottom. -/
def column (r : Range) (col : Nat) : List Cell :=
  (List.range' r.first.row r.rowCount).map fun row => ⟨row, col⟩

/-- The cells of the range, column by column. -/
def cells (r : Range) : List Cell :=
  (List.range' r.first.col r.colCount).flatMap r.column

/-- A place in the list of cells of a range: the next cell, and how many are left. -/
structure Walk where
  range : Range
  next : Cell
  remaining : Nat
deriving Repr

/-- The walk that starts at the first cell. -/
def walk (r : Range) : Walk := ⟨r, r.first.toCell, r.cellCount⟩

/-- The next cell and the walk after it: down the column, then to the top of the next
    one. -/
def Walk.step (w : Walk) : Option (Cell × Walk) :=
  match w.remaining with
  | 0 => none
  | n + 1 =>
    let next : Cell :=
      if w.next.row < w.range.last.row then { w.next with row := w.next.row + 1 }
      else if 0 < n then ⟨w.range.first.row, w.next.col + 1⟩
      else w.next
    some (w.next, { w with next, remaining := n })

theorem Walk.step_eq_none {w : Walk} : w.step = none ↔ w.remaining = 0 := by
  unfold step
  split <;> simp [*]

theorem Walk.remaining_step {w rest : Walk} {c : Cell} (h : w.step = some (c, rest)) :
    rest.remaining + 1 = w.remaining := by
  unfold step at h
  split at h
  · cases h
  · next n left =>
    cases h
    exact left.symm

/-- The least and the greatest number of cells that a walk may still have. -/
def Walk.sizeHint (w : Walk) : Nat × Option Nat := (w.remaining, some w.remaining)

/-- At most `n` cells from a walk. -/
def Walk.take (w : Walk) : Nat → List Cell
  | 0 => []
  | n + 1 =>
    match w.step with
    | none => []
    | some (c, rest) => c :: rest.take n

/-! ## Text -/

/-- The text of a range; equal corners are written once. -/
def text (r : Range) : String :=
  if r.first = r.last then r.first.text else s!"{r.first.text}:{r.last.text}"

/-- Reads a range: two addresses around the first colon, or one address. -/
def parse (s : String) : Except AddressFault Range :=
  let cs := Text.trimBoth s.toList
  match cs.dropWhile (· != ':') with
  | [] => single <$> Address.ofChars cs
  | _ :: after => do
    let corner (part : List Char) : Except AddressFault Address :=
      (Address.ofChars (Text.trimBoth part)).mapError (.corner (String.ofList cs))
    let a ← corner (cs.takeWhile (· != ':'))
    let b ← corner after
    return between a b

end Range

end Worksheet
