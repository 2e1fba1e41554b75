/-
  Which cells a sheet holds. An edit changes the contents of its targets only (`confined_apply`),
  and nothing else brings cells into the sheet. A target that is named by a text lies on the grid,
  since texts are read within the bounds of the grid; one that is named by its position is taken as
  it is. So a sheet holds cells on the grid and those off the grid that an edit named by position
  (`stored_on_grid_or_named`). What it holds on the grid is found under the name of the cell. What
  it holds off the grid is found under no name, for the bounds stand in the way.
-/
import Worksheet.Proofs.Grid.AddressText
import Worksheet.Proofs.Sheet.Contents

namespace Worksheet

/-! ## Names -/

/-- Texts name cells on the grid only. -/
theorem Place.onGrid_or_at {place : Place} {c : Cell} (h : place.cell = .ok c) :
    c.OnGrid ∨ place = .at c := by
  cases place with
  | «at» d => exact .inr (congrArg Place.at (Except.ok.inj h))
  | named text =>
    cases read : Address.parse text with
    | error fault =>
      rw [cell, read] at h
      cases h
    | ok a =>
      rw [cell, read] at h
      cases h
      exact .inl (Address.onGrid_of_parse read)

theorem Cell.named_name {c : Cell} (h : c.OnGrid) : (Place.named c.name).cell = .ok c := by
  have read : Address.parse c.address.text = .ok c.address := Address.parse_text h
  rw [Place.cell, name, read]
  rfl

/-- The name of a cell off the grid is refused. -/
theorem Cell.exists_fault_of_name {c : Cell} (h : ¬ c.OnGrid) :
    ∃ fault, (Place.named c.name).cell = .error (.address fault) := by
  cases read : Address.parse c.name with
  | error fault => exact ⟨fault, by rw [Place.cell, read]⟩
  | ok a =>
    obtain rfl : a = c.address := Address.eq_of_parse_text read
    exact absurd (Address.onGrid_of_parse read) h

/-- The cells that an edit writes to, as it names them. -/
def Edit.targets : Edit → List Place
  | .set place _ => [place]
  | .clear place => [place]
  | .copy _ target => [target]
  | .fill _ targets => targets
  | .recalculate => []

namespace Sheet

/-! ## Changed cells -/

/-- Contents differ in cells that one of the places names. -/
def Confined (places : List Place) (s s' : Sheet) : Prop :=
  ∀ c, s'.contentAt c = s.contentAt c ∨ ∃ place ∈ places, place.cell = .ok c

variable {s s' s'' : Sheet} {places later : List Place}

theorem Confined.refl (places : List Place) (s : Sheet) : Confined places s s := fun _ => .inl rfl

theorem Confined.trans (h : Confined places s s') (h' : Confined later s' s'') :
    Confined (places ++ later) s s'' := by
  intro c
  rcases h' c with same' | ⟨place, mem, named⟩
  · rcases h c with same | ⟨place, mem, named⟩
    · exact .inl (same'.trans same)
    · exact .inr ⟨place, List.mem_append_left _ mem, named⟩
  · exact .inr ⟨place, List.mem_append_right _ mem, named⟩

theorem EditAt.contentAt_of_ne {c d : Cell} {result : Sheet × Stats} (h : EditAt s c result)
    (other : c ≠ d) : result.1.contentAt d = s.contentAt d := by
  cases h with
  | literal v origin =>
    rw [(alike_recalculateReaders _ c).contents, contentAt_withLiteral, if_neg other]
  | formula parsed precedents noPath begins =>
    refine ((alike_recalculateReaders _ c).contents d).trans ?_
    rw [contentAt_withFormula, if_neg other]

theorem confined_of_editAt {place : Place} {result : Sheet × Stats}
    (h : ∃ c, place.cell = .ok c ∧ EditAt s c result) : Confined [place] s result.1 := by
  obtain ⟨c, named, edit⟩ := h
  intro d
  by_cases same : c = d
  · exact .inr ⟨place, List.mem_singleton_self place, same ▸ named⟩
  · exact .inl (edit.contentAt_of_ne same)

theorem confined_settle {edited : Edited}
    (h : ∀ result, edited = .ok result → Confined places s result.1) :
    Confined places s (s.settle edited).1 := by
  cases edited with
  | error fault => exact .refl places s
  | ok result => exact h result rfl

theorem confined_fillCells (s : Sheet) (source : Cell) (stats : Stats) (targets : List Place) :
    Confined targets s (s.fillCells source stats targets).1 := by
  induction targets generalizing s stats with
  | nil => exact .refl [] s
  | cons target targets ih =>
    unfold fillCells
    split
    · exact .refl _ s
    · next h => exact (confined_of_editAt (editAt_copy h)).trans (ih _ _)

theorem confined_apply (s : Sheet) (e : Edit) : Confined e.targets s (s.apply e).1 := by
  cases e with
  | set place input => exact confined_settle fun _ h => confined_of_editAt (editAt_set h)
  | clear place => exact confined_settle fun _ h => confined_of_editAt (editAt_clear h)
  | copy source target => exact confined_settle fun _ h => confined_of_editAt (editAt_copy h)
  | fill source targets =>
    show Confined targets s (s.fill source targets).1
    unfold fill
    split
    · exact .refl targets s
    · exact confined_fillCells s _ _ targets
  | recalculate => exact fun c => .inl ((alike_recalculateAll s).contents c)

theorem confined_run (s : Sheet) (edits : List Edit) :
    Confined (edits.flatMap Edit.targets) s (s.run edits) := by
  induction edits generalizing s with
  | nil => exact .refl [] s
  | cons e edits ih =>
    rw [List.flatMap_cons]
    exact (confined_apply s e).trans (ih _)

/-! ## Stored cells -/

theorem mem_listing {c : Cell} {e : Entry} :
    (c, e) ∈ s.listing ↔ s.entries[c]? = some e := by
  unfold listing
  rw [List.mem_mergeSort, Std.ExtTreeMap.mem_toList_iff_getElem?_eq_some]

theorem valueAt_of_mem_listing {c : Cell} {e : Entry} (h : (c, e) ∈ s.listing) :
    s.valueAt c = e.value := by
  unfold valueAt
  rw [mem_listing.1 h]
  rfl

/-- In every sheet that edits led to, a stored cell lies on the grid, unless an edit named it by
    its position. On the grid, the name of the cell is read back as the cell, and its value is found
    under the name. Off the grid, the name is refused, and so is the look-up. So if no edit names a
    cell off the grid by its position, all stored cells are found under their names. -/
theorem stored_on_grid_or_named (options : Options) (edits : List Edit) :
    let s := (empty options).run edits
    let places := edits.flatMap Edit.targets
    (∀ c e, (c, e) ∈ s.listing →
      (c.OnGrid ∨ .at c ∈ places) ∧
      (c.OnGrid → (Place.named c.name).cell = .ok c ∧ s.value (.named c.name) = .ok e.value) ∧
      (¬ c.OnGrid → ∃ fault, (Place.named c.name).cell = .error (.address fault) ∧
        s.value (.named c.name) = .error (.address fault))) ∧
      ((∀ c, .at c ∈ places → c.OnGrid) → ∀ c e, (c, e) ∈ s.listing → c.OnGrid ∧
        (Place.named c.name).cell = .ok c ∧ s.value (.named c.name) = .ok e.value) := by
  intro s places
  have stored (c : Cell) (e : Entry) (h : (c, e) ∈ s.listing) : c.OnGrid ∨ .at c ∈ places := by
    rcases confined_run (empty options) edits c with same | ⟨place, mem, named⟩
    · -- The sheet without cells stores nothing.
      have held : s.contentAt c = some e.content := by
        unfold contentAt
        rw [mem_listing.1 h]
        rfl
      rw [held] at same
      cases same.trans (show (empty options).contentAt c = none by simp [contentAt, empty])
    · rcases Place.onGrid_or_at named with onGrid | rfl
      · exact .inl onGrid
      · exact .inr mem
  have found (c : Cell) (e : Entry) (h : (c, e) ∈ s.listing) (onGrid : c.OnGrid) :
      (Place.named c.name).cell = .ok c ∧ s.value (.named c.name) = .ok e.value := by
    refine ⟨Cell.named_name onGrid, ?_⟩
    unfold value
    rw [Cell.named_name onGrid, ← valueAt_of_mem_listing h]
    rfl
  refine ⟨fun c e h => ⟨stored c e h, found c e h, fun offGrid => ?_⟩, fun onGrid c e h => ?_⟩
  · obtain ⟨fault, refused⟩ := Cell.exists_fault_of_name offGrid
    refine ⟨fault, refused, ?_⟩
    unfold value
    rw [refused]
    rfl
  · have lies : c.OnGrid := (stored c e h).elim id (onGrid c)
    exact ⟨lies, found c e h lies⟩

/-- A cell below the last row is named by its position. It is stored, and the name that the listing
    gives it is refused. -/
theorem stored_below_last_row :
    let s := (empty {}).run [.set (.at ⟨1048576, 0⟩) "x"]
    ¬ (⟨1048576, 0⟩ : Cell).OnGrid ∧
      s.listing.map (fun entry => (entry.1.name, entry.2.value)) = [("A1048577", .text "x")] ∧
      s.value (.at ⟨1048576, 0⟩) = .ok (.text "x") ∧
      s.value (.named "A1048577") = .error (.address (.rowOutOfBounds 1048576)) := by
  decide +kernel

end Sheet

end Worksheet
