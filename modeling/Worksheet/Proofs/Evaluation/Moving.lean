/-
  Moving an expression together with what it refers to. When the references of an expression are
  relative and all of them are moved by the same offset, a range keeps its shape and the order of
  its cells (`Range.cells_moved`), so the moved expression finds what the original one finds on a
  grid that is moved the other way. The errors that name addresses differ in their details, and
  details do not influence anything else (`evaluate_moved`).
-/
import Worksheet.Proofs.Evaluation.LikeEvaluation
import Worksheet.Proofs.Formula.Shifting

namespace Worksheet

variable {rows cols : Int}

/-! ## Ranges -/

namespace Address

/-- The address has no anchors. -/
def Relative (a : Address) : Prop := a.rowFixed = false ∧ a.colFixed = false

instance (a : Address) : Decidable a.Relative := inferInstanceAs (Decidable (_ ∧ _))

theorem Relative.address_toCell {a : Address} (h : a.Relative) : a.toCell.address = a := by
  obtain ⟨rowFixed, colFixed⟩ := h
  cases a
  cases rowFixed
  cases colFixed
  rfl

theorem Relative.movedRow {a : Address} (h : a.Relative) : a.movedRow rows = a.row + rows := by
  unfold Address.movedRow
  rw [h.1, if_neg Bool.false_ne_true]

theorem Relative.movedCol {a : Address} (h : a.Relative) : a.movedCol cols = a.col + cols := by
  unfold Address.movedCol
  rw [h.2, if_neg Bool.false_ne_true]

end Address

instance (a : Address) : Decidable (a.StaysOnGrid rows cols) :=
  inferInstanceAs (Decidable ((_ ∧ _) ∧ _ ∧ _))

/-- The cell at an offset from another one. -/
def Cell.moved (rows cols : Int) (c : Cell) : Cell := (c.address.moved rows cols).toCell

theorem range'_moved {start : Nat} {delta : Int} (h : 0 ≤ start + delta) (n : Nat) :
    List.range' (start + delta).toNat n =
      (List.range' start n).map fun (i : Nat) => (i + delta).toNat := by
  rw [List.range'_eq_map_range, List.range'_eq_map_range, List.map_map]
  refine List.map_congr_left fun i _ => ?_
  show _ = (((start + i : Nat) : Int) + delta).toNat
  omega

/-- A move keeps the distance of two numbers and which one of them is smaller. -/
theorem span_moved {m n : Nat} {delta : Int} (hm : 0 ≤ m + delta) (hn : 0 ≤ n + delta) :
    max (m + delta).toNat (n + delta).toNat - min (m + delta).toNat (n + delta).toNat + 1 =
        max m n - min m n + 1 ∧
      min (m + delta).toNat (n + delta).toNat = ((min m n : Nat) + delta).toNat ∧
      0 ≤ (min m n : Nat) + delta := by
  omega

/-- The cells of a moved range are the moved cells, in the same order. -/
theorem Range.cells_moved {a b : Address} (ha : a.Relative) (hb : b.Relative)
    (staysA : a.StaysOnGrid rows cols) (staysB : b.StaysOnGrid rows cols) :
    (between (a.moved rows cols) (b.moved rows cols)).cells =
      (between a b).cells.map (Cell.moved rows cols) := by
  obtain ⟨⟨rowA, -⟩, colA, -⟩ := staysA
  obtain ⟨⟨rowB, -⟩, colB, -⟩ := staysB
  rw [ha.movedRow] at rowA
  rw [ha.movedCol] at colA
  rw [hb.movedRow] at rowB
  rw [hb.movedCol] at colB
  obtain ⟨rowCount, firstRow, row⟩ := span_moved rowA rowB
  obtain ⟨colCount, firstCol, col⟩ := span_moved colA colB
  unfold cells column Range.rowCount Range.colCount between Address.moved
  dsimp only
  rw [ha.movedRow, hb.movedRow, ha.movedCol, hb.movedCol, rowCount, firstRow, colCount, firstCol,
    range'_moved row, range'_moved col, List.flatMap_map, List.map_flatMap]
  simp only [List.map_map]
  rfl

/-! ## References -/

/-- The addresses that a reference is written with. -/
def Reference.corners : Reference → List Address
  | .cell a => [a]
  | .range a b => [a, b]

mutual

theorem Expr.corners_references : (e : Expr) → e.references.flatMap Reference.corners = e.addresses
  | .binary _ left right => by
    rw [references, addresses, List.flatMap_append, corners_references left,
      corners_references right]
  | .prefixed _ operand => corners_references operand
  | .group inner => corners_references inner
  | .call _ args => corners_argReferences args
  | .cell _ | .range _ _ | .number _ | .text _ | .boolean _ | .name _ => rfl

theorem Expr.corners_argReferences : (es : List Expr) →
    (argReferences es).flatMap Reference.corners = argsAddresses es
  | [] => rfl
  | e :: es => by
    rw [argReferences, argsAddresses, List.flatMap_append, corners_references e,
      corners_argReferences es]

end

/-! ## Moved evaluations -/

/-- Evaluations of which the second one takes place at an offset. Their errors may differ in
    their details. -/
def Likeness.displaced (rows cols : Int) : Likeness where
  admits _ := True
  sees _ := True
  move := Address.moved rows cols
  excuses e e' := e.kind = e'.kind
  sound := False

theorem Likeness.displaced_lawful (rows cols : Int) : (displaced rows cols).Lawful where
  closed := Number.closed_true
  same _ := rfl
  misplaced _ _ := .error rfl

/-- What a reference finds on the moved grid, the moved reference finds on the grid itself. -/
theorem reference_displaced (look : Cell → Value) {r : Reference}
    (h : ∀ a ∈ r.corners, a.Relative ∧ a.StaysOnGrid rows cols) :
    Reference.Alike (.displaced rows cols) (.ofLook fun c => look (c.moved rows cols))
      (.ofLook look) r := by
  have value (v : Value) : Value.Alike (.displaced rows cols) v v :=
    .of_admits (Likeness.displaced_lawful rows cols) fun _ _ => trivial
  cases r with
  | cell a =>
    obtain ⟨ha, -⟩ := h a (List.mem_singleton.2 rfl)
    refine .cell trivial ?_
    show Value.Alike _ _ (look (a.moved rows cols).toCell)
    rw [← ha.address_toCell]
    exact value _
  | range a b =>
    obtain ⟨⟨ha, staysA⟩, hb, staysB⟩ := by simpa [Reference.corners] using h
    have moved : (Range.between (a.moved rows cols) (b.moved rows cols)).cells =
        (Range.between a b).cells.map (Cell.moved rows cols) :=
      Range.cells_moved ha hb staysA staysB
    refine .range (fun _ _ => trivial) ?_ ?_
    · show (Range.between (a.moved rows cols) (b.moved rows cols)).cells.map Cell.address = _
      rw [moved, List.map_map]
      rfl
    · show List.Forall₂ _ _
        ((Range.between (a.moved rows cols) (b.moved rows cols)).cells.map look)
      rw [moved, List.map_map]
      exact List.forall₂_same.2 fun v _ => value v

/-- A value without the detail of an error. -/
def Value.withoutDetail : Value → Value
  | .error e => .fault e.kind
  | v => v

theorem Value.Alike.withoutDetail_eq {v w : Value} (h : Alike (.displaced rows cols) v w) :
    w.withoutDetail = v.withoutDetail := by
  cases h with
  | error h => exact congrArg Value.fault (Eq.symm h)
  | _ => rfl

/-- If all references of an expression are relative and stay on the grid when they are moved, the
    moved expression has the value that the expression has where every cell holds what the cell
    at the offset holds, but for the detail of an error; and it looks up the moved addresses, in
    the same order. -/
theorem Expr.evaluate_moved (functions : Registry) (look : Cell → Value) {e : Expr}
    (h : ∀ a ∈ e.addresses, a.Relative ∧ a.StaysOnGrid rows cols) :
    let original := e.evaluate functions (.ofLook fun c => look (c.moved rows cols))
    let moved := (e.mapAddresses (Address.moved rows cols)).evaluate functions (.ofLook look)
    moved.value.withoutDetail = original.value.withoutDetail ∧
      moved.reads = original.reads.map (Address.moved rows cols) ∧
      moved.broken = original.broken := by
  intro original moved
  have refs (r : Reference) (hr : r ∈ e.references) :
      Reference.Alike (.displaced rows cols) (.ofLook fun c => look (c.moved rows cols))
        (.ofLook look) r := by
    refine reference_displaced look fun a ha => h a ?_
    rw [← corners_references]
    exact List.mem_flatMap.2 ⟨r, hr, ha⟩
  have alike : Traced.Alike (.displaced rows cols) (Value.Alike (.displaced rows cols))
      original moved :=
    evaluate_alike (Likeness.displaced_lawful rows cols) functions e
      ⟨refs, fun _ _ => trivial, False.elim, False.elim⟩
  exact ⟨alike.value.withoutDetail_eq, alike.reads, alike.broken.symm⟩

/-- `IF(SUM(B2:A1)<C3,A1:B2)`, a range in place of a value. -/
def misplacing : Expr :=
  .call "IF" [.binary .less
      (.call "SUM" [.range (Cell.address ⟨1, 1⟩) (Cell.address ⟨0, 0⟩)])
      (.cell (Cell.address ⟨2, 2⟩)),
    .range (Cell.address ⟨0, 0⟩) (Cell.address ⟨1, 1⟩)]

/-- A grid of ones, but for a text in D6. -/
def textInD6 (c : Cell) : Value := if c = ⟨5, 3⟩ then .text "low" else .number 1.0

theorem Expr.evaluate_moved_misplacing :
    (∀ a ∈ misplacing.addresses, a.Relative ∧ a.StaysOnGrid 3 1) ∧
      let original :=
        (misplacing.evaluate .standard (.ofLook fun c => textInD6 (c.moved 3 1))).value
      let moved :=
        ((misplacing.mapAddresses (Address.moved 3 1)).evaluate .standard (.ofLook textInD6)).value
      moved.withoutDetail = original.withoutDetail ∧
        original = .faultWith .reference "range A1:B2 used where a single value is expected" ∧
        moved = .faultWith .reference "range B4:C5 used where a single value is expected" := by
  have stays : ∀ a ∈ misplacing.addresses, a.Relative ∧ a.StaysOnGrid 3 1 := by decide
  exact ⟨stays, (evaluate_moved .standard textInD6 stays).1, by decide +kernel, by decide +kernel⟩

end Worksheet
