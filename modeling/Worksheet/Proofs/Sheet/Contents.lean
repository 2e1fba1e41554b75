/-
  What is entered in the cells of a sheet, without the values that formulas have at the moment.
  Sheets that are `Alike` differ in these values only, and in whether edits recalculate. An edit
  does not look at the values of formulas before it is accepted, so alike sheets accept the same
  edits and stay alike (`Alike.apply`).
-/
import Worksheet.Proofs.Dependency.CircularPath
import Worksheet.Proofs.Sheet.Steps

namespace Worksheet

/-- What is entered in a cell: a literal, or a formula by its text. -/
inductive Content where
  | literal (v : Value)
  | formula (text : String)
deriving Repr, DecidableEq

/-- What is entered, without the value of a formula. -/
def Entry.content (e : Entry) : Content :=
  match e.formula with
  | some f => .formula f.text
  | none => .literal e.value

namespace Sheet

/-- What is entered in a cell, if anything is. -/
def contentAt (s : Sheet) (c : Cell) : Option Content := s.entries[c]?.map Entry.content

/-! ## Contents after an edit -/

theorem contentAt_store (s : Sheet) (c : Cell) (e : Entry) (d : Cell) :
    (s.store c e).contentAt d = if c = d then some e.content else s.contentAt d := by
  unfold store contentAt
  rw [Std.ExtTreeMap.getElem?_insert]
  by_cases h : c = d
  · simp [h]
  · simp [h]

theorem contentAt_withLiteral (s : Sheet) (c : Cell) (v : Option Value) (d : Cell) :
    (s.withLiteral c v).contentAt d = if c = d then v.map .literal else s.contentAt d := by
  cases v with
  | some v => exact contentAt_store s c ⟨v, none⟩ d
  | none =>
    simp only [withLiteral, contentAt, Std.ExtTreeMap.getElem?_erase]
    by_cases h : c = d
    · simp [h]
    · simp [h]

theorem contentAt_withFormula (s : Sheet) (c : Cell) (f : Formula) (reads : List Cell)
    (d : Cell) :
    (s.withFormula c f reads).contentAt d =
      if c = d then some (.formula f.text) else s.contentAt d :=
  contentAt_store _ c _ d

theorem contentAt_of_formulaAt {s : Sheet} {c : Cell} {f : Formula} (h : s.formulaAt c = some f) :
    s.contentAt c = some (.formula f.text) := by
  obtain ⟨e, he, hf⟩ := Option.bind_eq_some_iff.1 h
  unfold contentAt
  rw [he, Option.map_some, Entry.content, hf]

theorem contentAt_recompute (s : Sheet) (c d : Cell) :
    (s.recompute c).1.contentAt d = s.contentAt d := by
  cases hf : s.formulaAt c with
  | none => rw [recompute_of_none hf]
  | some f =>
    rw [recompute_of_some hf, contentAt_store]
    split
    · next h =>
      rw [← h, contentAt_of_formulaAt hf]
      rfl
    · rfl

/-! ## Sheets cell by cell -/

/-- An entry is made up of the formula and the value of its cell. -/
theorem entries_eq {s s' : Sheet} (contents : ∀ c, s'.contentAt c = s.contentAt c)
    (formulas : ∀ c, s'.formulaAt c = s.formulaAt c) (values : ∀ c, s'.valueAt c = s.valueAt c) :
    s'.entries = s.entries := by
  refine Std.ExtTreeMap.ext_getElem? fun c => ?_
  have content := contents c
  have formula := formulas c
  have value := values c
  unfold contentAt at content
  unfold formulaAt at formula
  unfold valueAt at value
  cases he : s.entries[c]? with
  | none =>
    rw [he] at content
    exact Option.map_eq_none_iff.1 content
  | some e =>
    rw [he] at content formula value
    obtain ⟨e', he', -⟩ := Option.map_eq_some_iff.1 content
    rw [he'] at formula value ⊢
    cases e
    cases e'
    cases formula
    cases value
    rfl

/-- Contents and values are all there is in the cells. -/
theorem SameFormulas.eq {s s' : Sheet} (same : SameFormulas s s')
    (contents : ∀ c, s'.contentAt c = s.contentAt c) (values : ∀ c, s'.valueAt c = s.valueAt c) :
    s' = s := by
  have options := same.options
  have graph := same.graph
  have entries := entries_eq contents same.formulaAt values
  cases s
  cases s'
  cases options
  cases graph
  cases entries
  rfl

/-! ## Alike sheets -/

/-- The sheets have the same cells with the same literals and formulas. Formulas may have other
    values. -/
structure Alike (s s' : Sheet) : Prop where
  limit : s'.options.maxRangeCells = s.options.maxRangeCells
  graph : s'.graph = s.graph
  contents : ∀ c, s'.contentAt c = s.contentAt c

theorem Alike.refl (s : Sheet) : Alike s s := ⟨rfl, rfl, fun _ => rfl⟩

theorem Alike.symm {s s' : Sheet} (h : Alike s s') : Alike s' s :=
  ⟨h.limit.symm, h.graph.symm, fun c => (h.contents c).symm⟩

theorem Alike.trans {s s' s'' : Sheet} (h : Alike s s') (h' : Alike s' s'') : Alike s s'' where
  limit := h'.limit.trans h.limit
  graph := h'.graph.trans h.graph
  contents c := (h'.contents c).trans (h.contents c)

/-! ## Evaluating again -/

theorem alike_recompute (s : Sheet) (c : Cell) : Alike s (s.recompute c).1 where
  limit := by rw [(sameFormulas_recompute s c).options]
  graph := (sameFormulas_recompute s c).graph
  contents := contentAt_recompute s c

theorem alike_recomputeAll (s : Sheet) (cells : List Cell) :
    Alike s (s.recomputeAll cells).1 := by
  induction cells generalizing s with
  | nil => exact .refl s
  | cons c cells ih =>
    rw [recomputeAll_cons]
    exact (alike_recompute s c).trans (ih _)

theorem alike_recalculateAll (s : Sheet) : Alike s s.recalculateAll.1 := alike_recomputeAll s _

theorem alike_recalculateReaders (s : Sheet) (c : Cell) :
    Alike s (s.recalculateReaders c).1 := by
  unfold recalculateReaders
  split
  · exact alike_recomputeAll s _
  · exact .refl s

/-- One of the sheets may recalculate while the other one puts it off. -/
theorem Alike.recalculateReaders {s s' : Sheet} (h : Alike s s') (c : Cell) :
    Alike (s.recalculateReaders c).1 (s'.recalculateReaders c).1 :=
  ((alike_recalculateReaders s c).symm.trans h).trans (alike_recalculateReaders s' c)

/-! ## Setting contents -/

variable {s s' : Sheet}

theorem Alike.withLiteral (h : Alike s s') (c : Cell) (v : Option Value) :
    Alike (s.withLiteral c v) (s'.withLiteral c v) where
  limit := h.limit
  graph := congrArg (Graph.clear · c) h.graph
  contents d := by rw [contentAt_withLiteral, contentAt_withLiteral, h.contents d]

theorem Alike.withFormula (h : Alike s s') (c : Cell) (f : Formula) (reads : List Cell) :
    Alike (s.withFormula c f reads) (s'.withFormula c f reads) where
  limit := h.limit
  graph := congrArg (fun g => g.replace c (Std.ExtTreeSet.ofList reads)) h.graph
  contents d := by rw [contentAt_withFormula, contentAt_withFormula, h.contents d]

/-! ## Accepting formulas -/

/-- What a formula means and which cells it reads, unless the formula is refused. -/
def accept (limit : Nat) (g : Graph) (c : Cell) (text : String) :
    Except SheetFault (Expr × List Cell) := do
  let expr ← (parseFormula text).mapError .formula
  let reads ← (expr.precedents limit).mapError .formula
  match g.circularPath? c reads with
  | some path => throw (.cycle c path)
  | none => return (expr, reads)

theorem rewire_of_some {c : Cell} {reads path : List Cell}
    (h : s.graph.circularPath? c reads = some path) :
    s.rewire c reads = .error (.cycle c path) := by
  unfold rewire
  rw [h]

theorem rewire_of_none {c : Cell} {reads : List Cell}
    (h : s.graph.circularPath? c reads = none) :
    s.rewire c reads = .ok { s with graph := s.graph.replace c (.ofList reads) } := by
  have notSelf := Graph.not_mem_of_circularPathBy?_eq_none h
  unfold rewire
  rw [h, Graph.update_of_not_mem notSelf]

/-- Whether a formula is accepted is decided without the values of the sheet. -/
theorem setFormula_eq (s : Sheet) (c : Cell) (text : String) :
    s.setFormula c text =
      (accept s.options.maxRangeCells s.graph c text).map (s.commit c text) := by
  unfold setFormula accept
  cases parseFormula text with
  | error fault => rfl
  | ok expr =>
    simp only [mapError_ok, bind, Except.bind]
    cases expr.precedents s.options.maxRangeCells with
    | error fault => rfl
    | ok reads =>
      simp only [mapError_ok, pure, Except.pure]
      cases path : s.graph.circularPath? c reads with
      | some path =>
        rw [rewire_of_some path]
        rfl
      | none =>
        rw [rewire_of_none path]
        rfl

/-! ## Edits of alike sheets -/

/-- Edits that are refused for the same fault, or that lead to alike sheets. -/
inductive AlikeEdited : Edited → Edited → Prop where
  | accepted {s s' : Sheet} (stats stats' : Stats) (sheets : Alike s s') :
      AlikeEdited (.ok (s, stats)) (.ok (s', stats'))
  | refused (fault : SheetFault) : AlikeEdited (.error fault) (.error fault)

theorem AlikeEdited.bind {α : Type} {edit edit' : α → Edited} (x : Except SheetFault α)
    (h : ∀ a, AlikeEdited (edit a) (edit' a)) : AlikeEdited (x >>= edit) (x >>= edit') := by
  cases x with
  | error fault => exact .refused fault
  | ok a => exact h a

theorem Alike.setLiteral (h : Alike s s') (c : Cell) (v : Option Value) :
    AlikeEdited (.ok (s.setLiteral c v)) (.ok (s'.setLiteral c v)) :=
  .accepted _ _ ((h.withLiteral c v).recalculateReaders c)

theorem Alike.setFormula (h : Alike s s') (c : Cell) (text : String) :
    AlikeEdited (s.setFormula c text) (s'.setFormula c text) := by
  rw [setFormula_eq, setFormula_eq, h.limit, h.graph]
  cases accept s.options.maxRangeCells s.graph c text with
  | error fault => exact .refused fault
  | ok accepted => exact .accepted _ _ ((h.withFormula c _ _).recalculateReaders c)

theorem Alike.set (h : Alike s s') (place : Place) (input : String) :
    AlikeEdited (s.set place input) (s'.set place input) := by
  refine .bind place.cell fun c => ?_
  dsimp only
  split
  · exact h.setFormula c _
  · exact h.setLiteral c _

theorem Alike.clear (h : Alike s s') (place : Place) :
    AlikeEdited (s.clear place) (s'.clear place) :=
  .bind place.cell fun c => h.setLiteral c none

/-- A literal is copied by its value, and a formula by its text. The value that a formula has at
    the moment is not copied. -/
theorem copyCell_eq (s : Sheet) (source target : Cell) :
    s.copyCell source target =
      match s.contentAt source with
      | none => .ok (s.setLiteral target none)
      | some (.literal v) => .ok (s.setLiteral target (some v))
      | some (.formula text) =>
        (shiftBody ((target.row : Int) - source.row) ((target.col : Int) - source.col)
          (text.toList.drop 1)).mapError .formula >>= fun body =>
            s.setFormula target (String.ofList ('=' :: body)) := by
  unfold copyCell contentAt
  cases s.entries[source]? with
  | none => rfl
  | some e =>
    obtain ⟨v, formula⟩ := e
    cases formula with
    | none => rfl
    | some f => rfl

theorem Alike.copyCell (h : Alike s s') (source target : Cell) :
    AlikeEdited (s.copyCell source target) (s'.copyCell source target) := by
  rw [copyCell_eq, copyCell_eq, h.contents source]
  cases s.contentAt source with
  | none => exact h.setLiteral target none
  | some content =>
    cases content with
    | literal v => exact h.setLiteral target (some v)
    | formula text => exact .bind _ fun body => h.setFormula target _

theorem Alike.copy (h : Alike s s') (source target : Place) :
    AlikeEdited (s.copy source target) (s'.copy source target) :=
  .bind source.cell fun source => .bind target.cell fun target => h.copyCell source target

/-! ## Runs of alike sheets -/

/-- Why an edit is refused, if it is. -/
def fault? (outcome : Sheet × Except SheetFault Stats) : Option SheetFault :=
  match outcome.2 with
  | .ok _ => none
  | .error fault => some fault

/-- The edits are both accepted, or refused for the same fault, and the sheets after them are
    alike. -/
structure AlikeOutcome (r r' : Sheet × Except SheetFault Stats) : Prop where
  sheets : Alike r.1 r'.1
  fault? : fault? r' = fault? r

theorem Alike.settle (h : Alike s s') {edited edited' : Edited}
    (he : AlikeEdited edited edited') : AlikeOutcome (s.settle edited) (s'.settle edited') := by
  cases he with
  | accepted stats stats' sheets => exact ⟨sheets, rfl⟩
  | refused fault => exact ⟨h, rfl⟩

theorem Alike.fillCells (h : Alike s s') (source : Cell) (stats stats' : Stats)
    (targets : List Place) :
    AlikeOutcome (s.fillCells source stats targets) (s'.fillCells source stats' targets) := by
  induction targets generalizing s s' stats stats' with
  | nil => exact ⟨h, rfl⟩
  | cons target targets ih =>
    have first := h.copy (.at source) target
    unfold Sheet.fillCells
    generalize s.copy (.at source) target = edited at first
    generalize s'.copy (.at source) target = edited' at first
    cases first with
    | accepted more more' sheets => exact ih sheets _ _
    | refused fault => exact ⟨h, rfl⟩

theorem Alike.fill (h : Alike s s') (source : Place) (targets : List Place) :
    AlikeOutcome (s.fill source targets) (s'.fill source targets) := by
  unfold Sheet.fill
  cases source.cell with
  | error fault => exact ⟨h, rfl⟩
  | ok source => exact h.fillCells source .zero .zero targets

/-- Alike sheets accept the same edits, and are alike afterwards. -/
theorem Alike.apply (h : Alike s s') (e : Edit) : AlikeOutcome (s.apply e) (s'.apply e) := by
  cases e with
  | set place input => exact h.settle (h.set place input)
  | clear place => exact h.settle (h.clear place)
  | copy source target => exact h.settle (h.copy source target)
  | fill source targets => exact h.fill source targets
  | recalculate =>
    refine ⟨?_, rfl⟩
    exact ((alike_recalculateAll s).symm.trans h).trans (alike_recalculateAll s')

theorem Alike.run (h : Alike s s') (edits : List Edit) : Alike (s.run edits) (s'.run edits) := by
  induction edits generalizing s s' with
  | nil => exact h
  | cons e edits ih => exact ih (h.apply e).sheets

end Sheet

end Worksheet
