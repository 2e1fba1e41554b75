/-
  What edits can do to a sheet. Every edit is a sequence of steps (`Step`): it sets a cell to
  a literal of an input or to the value of a cell, it sets a cell to a formula that was parsed,
  has precedents and closes no cycle, or it evaluates all formulas. So what every step keeps
  holds of every sheet that can be reached (`run_keeps`). Evaluating formulas again changes
  nothing but values (`SameFormulas`). To set, to clear and to copy to a cell are edits of that
  cell alone, and `EditAt` says what they come to, with what they count.
-/
import Mathlib.Logic.Relation
import Worksheet.Proofs.Dependency.Edges
import Worksheet.Sheet.Edit

namespace Worksheet.Sheet

/-! ## Contents -/

@[simp] theorem formulaAt_empty (options : Options) (c : Cell) :
    (empty options).formulaAt c = none := by
  simp [empty, formulaAt]

theorem valueAt_store (s : Sheet) (c : Cell) (e : Entry) (d : Cell) :
    (s.store c e).valueAt d = if c = d then e.value else s.valueAt d := by
  unfold store valueAt
  rw [Std.ExtTreeMap.getElem?_insert]
  by_cases h : c = d
  · simp [h]
  · simp [h]

theorem formulaAt_store (s : Sheet) (c : Cell) (e : Entry) (d : Cell) :
    (s.store c e).formulaAt d = if c = d then e.formula else s.formulaAt d := by
  unfold store formulaAt
  rw [Std.ExtTreeMap.getElem?_insert]
  by_cases h : c = d
  · simp [h]
  · simp [h]

/-- The sheet in which a cell holds a literal, or nothing, while its readers are still to be
    recalculated. -/
def withLiteral (s : Sheet) (c : Cell) (v : Option Value) : Sheet :=
  { s with
    entries := match v with
      | some v => s.entries.insert c ⟨v, none⟩
      | none => s.entries.erase c
    graph := s.graph.clear c }

theorem setLiteral_eq (s : Sheet) (c : Cell) (v : Option Value) :
    s.setLiteral c v = (s.withLiteral c v).recalculateReaders c := rfl

theorem valueAt_withLiteral (s : Sheet) {c d : Cell} (v : Option Value) (h : c ≠ d) :
    (s.withLiteral c v).valueAt d = s.valueAt d := by
  cases v with
  | some v => exact (valueAt_store s c ⟨v, none⟩ d).trans (if_neg h)
  | none => simp [withLiteral, valueAt, Std.ExtTreeMap.getElem?_erase, h]

theorem formulaAt_withLiteral (s : Sheet) (c : Cell) (v : Option Value) (d : Cell) :
    (s.withLiteral c v).formulaAt d = if c = d then none else s.formulaAt d := by
  cases v with
  | some v => exact formulaAt_store s c ⟨v, none⟩ d
  | none =>
    simp only [withLiteral, formulaAt, Std.ExtTreeMap.getElem?_erase]
    by_cases h : c = d
    · simp [h]
    · simp [h]

/-- The sheet in which a cell holds a formula that reads the given cells, while its readers
    are still to be recalculated. -/
def withFormula (s : Sheet) (c : Cell) (f : Formula) (reads : List Cell) : Sheet :=
  { s with graph := s.graph.replace c (.ofList reads) }.store c ⟨s.evaluate f.expr, some f⟩

theorem valueAt_withFormula (s : Sheet) (c : Cell) (f : Formula) (reads : List Cell)
    (d : Cell) :
    (s.withFormula c f reads).valueAt d =
      if c = d then s.evaluate f.expr else s.valueAt d :=
  valueAt_store _ c _ d

theorem formulaAt_withFormula (s : Sheet) (c : Cell) (f : Formula) (reads : List Cell)
    (d : Cell) :
    (s.withFormula c f reads).formulaAt d = if c = d then some f else s.formulaAt d :=
  formulaAt_store _ c _ d

/-- The sheet with a formula that was accepted, and what was evaluated. -/
def commit (s : Sheet) (c : Cell) (text : String) (accepted : Expr × List Cell) :
    Sheet × Stats :=
  let (edited, stats) := (s.withFormula c ⟨text, accepted.1⟩ accepted.2).recalculateReaders c
  (edited, .one (s.evaluate accepted.1) + stats)

/-! ## Accepted formulas -/

theorem rewire_eq_ok {s s' : Sheet} {c : Cell} {reads : List Cell}
    (h : s.rewire c reads = .ok s') :
    s.graph.circularPath? c reads = none ∧
      s' = { s with graph := s.graph.replace c (.ofList reads) } := by
  unfold rewire at h
  split at h
  · cases h
  · next hpath =>
    split at h
    · next g hg =>
      obtain ⟨-, rfl⟩ := Graph.update_eq_ok hg
      exact ⟨hpath, (Except.ok.inj h).symm⟩
    · cases h

theorem mapError_ok {ε ε' α : Type} (f : ε → ε') (x : α) :
    (Except.ok x : Except ε α).mapError f = .ok x := rfl

/-- A formula that is accepted parses, its ranges are within the limit, and its precedents
    do not read the cell. -/
theorem setFormula_eq_ok {s : Sheet} {c : Cell} {text : String} {result : Sheet × Stats}
    (h : s.setFormula c text = .ok result) :
    ∃ expr reads, parseFormula text = .ok expr ∧
      expr.precedents s.options.maxRangeCells = .ok reads ∧
      s.graph.circularPath? c reads = none ∧
      result = s.commit c text (expr, reads) := by
  unfold setFormula at h
  cases hp : parseFormula text with
  | error fault => rw [hp] at h; cases h
  | ok expr =>
    cases hr : expr.precedents s.options.maxRangeCells with
    | error fault =>
      simp only [hp, hr, bind, Except.bind] at h
      cases h
    | ok reads =>
      simp only [hp, hr, bind, Except.bind, pure, Except.pure, mapError_ok] at h
      cases hw : s.rewire c reads with
      | error fault => rw [hw] at h; cases h
      | ok wired =>
        rw [hw] at h
        obtain ⟨hpath, rfl⟩ := rewire_eq_ok hw
        obtain rfl := Except.ok.inj h
        exact ⟨expr, reads, rfl, hr, hpath, rfl⟩

/-! ## Evaluating again -/

/-- The second sheet differs from the first one in values only. -/
structure SameFormulas (s s' : Sheet) : Prop where
  options : s'.options = s.options
  graph : s'.graph = s.graph
  formulaAt : ∀ c, s'.formulaAt c = s.formulaAt c

theorem SameFormulas.refl (s : Sheet) : SameFormulas s s := ⟨rfl, rfl, fun _ => rfl⟩

theorem SameFormulas.trans {s s' s'' : Sheet} (h : SameFormulas s s')
    (h' : SameFormulas s' s'') : SameFormulas s s'' where
  options := h'.options.trans h.options
  graph := h'.graph.trans h.graph
  formulaAt c := (h'.formulaAt c).trans (h.formulaAt c)

theorem recompute_of_some {s : Sheet} {c : Cell} {f : Formula} (h : s.formulaAt c = some f) :
    (s.recompute c).1 = s.store c ⟨s.evaluate f.expr, some f⟩ := by
  unfold recompute
  rw [h]

theorem recompute_of_none {s : Sheet} {c : Cell} (h : s.formulaAt c = none) :
    (s.recompute c).1 = s := by
  unfold recompute
  rw [h]

theorem sameFormulas_recompute (s : Sheet) (c : Cell) :
    SameFormulas s (s.recompute c).1 := by
  cases hf : s.formulaAt c with
  | none =>
    rw [recompute_of_none hf]
    exact .refl s
  | some f =>
    rw [recompute_of_some hf]
    refine ⟨rfl, rfl, fun d => ?_⟩
    rw [formulaAt_store]
    split
    · next h => rw [← h, hf]
    · rfl

theorem foldl_recompute_fst (cells : List Cell) (s : Sheet) (stats : Stats) :
    (cells.foldl (fun (s, stats) c =>
      let (s, more) := recompute s c
      (s, stats + more)) (s, stats)).1 = cells.foldl (fun s c => (s.recompute c).1) s := by
  induction cells generalizing s stats with
  | nil => rfl
  | cons c cells ih => exact ih _ _

theorem recomputeAll_cons (s : Sheet) (c : Cell) (cells : List Cell) :
    (s.recomputeAll (c :: cells)).1 = ((s.recompute c).1.recomputeAll cells).1 := by
  unfold recomputeAll
  rw [foldl_recompute_fst, foldl_recompute_fst]
  rfl

theorem sameFormulas_recomputeAll (s : Sheet) (cells : List Cell) :
    SameFormulas s (s.recomputeAll cells).1 := by
  induction cells generalizing s with
  | nil => exact .refl s
  | cons c cells ih =>
    rw [recomputeAll_cons]
    exact (sameFormulas_recompute s c).trans (ih _)

theorem sameFormulas_recalculateReaders (s : Sheet) (c : Cell) :
    SameFormulas s (s.recalculateReaders c).1 := by
  unfold recalculateReaders
  split
  · exact sameFormulas_recomputeAll s _
  · exact .refl s

/-! ## Edits of one cell -/

/-- What it comes to when an edit of one cell is accepted. The cell holds a literal, which an
    input or another cell gave, or nothing, or a formula; and its readers are recalculated. -/
inductive EditAt (s : Sheet) (c : Cell) : Sheet × Stats → Prop where
  | literal (v : Option Value)
      (origin : ∀ w, v = some w → (∃ input, literal? input = some w) ∨ ∃ d, s.valueAt d = w) :
      EditAt s c ((s.withLiteral c v).recalculateReaders c)
  | formula {text : String} {expr : Expr} {reads : List Cell}
      (parsed : parseFormula text = .ok expr)
      (precedents : expr.precedents s.options.maxRangeCells = .ok reads)
      (noPath : s.graph.circularPath? c reads = none)
      (begins : text.toList.head? = some '=') :
      EditAt s c (s.commit c text (expr, reads))

variable {s : Sheet} {result : Sheet × Stats}

theorem editAt_setFormula {c : Cell} {text : String} (begins : text.toList.head? = some '=')
    (h : s.setFormula c text = .ok result) : EditAt s c result := by
  obtain ⟨expr, reads, parsed, precedents, noPath, rfl⟩ := setFormula_eq_ok h
  exact .formula parsed precedents noPath begins

theorem editAt_set {place : Place} {input : String} (h : s.set place input = .ok result) :
    ∃ c, place.cell = .ok c ∧ EditAt s c result := by
  unfold set at h
  cases hc : place.cell with
  | error fault => rw [hc] at h; cases h
  | ok c =>
    refine ⟨c, rfl, ?_⟩
    rw [hc] at h
    dsimp only [bind, Except.bind] at h
    split at h
    · next begins => exact editAt_setFormula begins h
    · obtain rfl := Except.ok.inj h
      rw [setLiteral_eq]
      exact .literal _ fun w hw => .inl ⟨input, hw⟩

theorem editAt_clear {place : Place} (h : s.clear place = .ok result) :
    ∃ c, place.cell = .ok c ∧ EditAt s c result := by
  unfold clear at h
  cases hc : place.cell with
  | error fault => rw [hc] at h; cases h
  | ok c =>
    rw [hc] at h
    obtain rfl := Except.ok.inj h
    rw [setLiteral_eq]
    exact ⟨c, rfl, .literal none nofun⟩

theorem editAt_copyCell {source target : Cell} (h : s.copyCell source target = .ok result) :
    EditAt s target result := by
  unfold copyCell at h
  split at h
  · obtain rfl := Except.ok.inj h
    rw [setLiteral_eq]
    exact .literal none nofun
  · next v hv =>
    obtain rfl := Except.ok.inj h
    rw [setLiteral_eq]
    have held : s.valueAt source = v := by
      unfold valueAt
      rw [hv]
      rfl
    exact .literal (some v) fun w hw => .inr ⟨source, held.trans (Option.some.inj hw)⟩
  · next f _ =>
    simp only [bind, Except.bind] at h
    split at h
    · cases h
    · exact editAt_setFormula (by rw [String.toList_ofList]; rfl) h

theorem editAt_copy {source target : Place} (h : s.copy source target = .ok result) :
    ∃ c, target.cell = .ok c ∧ EditAt s c result := by
  unfold copy at h
  cases hs : source.cell with
  | error fault => rw [hs] at h; cases h
  | ok a =>
    cases ht : target.cell with
    | error fault => rw [hs, ht] at h; cases h
    | ok b =>
      rw [hs, ht] at h
      exact ⟨b, rfl, editAt_copyCell h⟩

/-! ## Steps -/

/-- What an edit can do at once. -/
inductive Step : Sheet → Sheet → Prop where
  | literal {s : Sheet} (c : Cell) (v : Option Value)
      (origin : ∀ w, v = some w → (∃ input, literal? input = some w) ∨ ∃ d, s.valueAt d = w) :
      Step s ((s.withLiteral c v).recalculateReaders c).1
  | formula {s : Sheet} {c : Cell} {text : String} {expr : Expr} {reads : List Cell}
      (parsed : parseFormula text = .ok expr)
      (precedents : expr.precedents s.options.maxRangeCells = .ok reads)
      (noPath : s.graph.circularPath? c reads = none)
      (begins : text.toList.head? = some '=') :
      Step s ((s.withFormula c ⟨text, expr⟩ reads).recalculateReaders c).1
  | recalculate (s : Sheet) : Step s s.recalculateAll.1

/-- The second sheet comes out of the first one by steps. -/
def Steps : Sheet → Sheet → Prop := Relation.ReflTransGen Step

theorem EditAt.step {c : Cell} (h : EditAt s c result) : Step s result.1 := by
  cases h with
  | literal v origin => exact .literal c v origin
  | formula parsed precedents noPath begins => exact .formula parsed precedents noPath begins

theorem step_of_editAt {place : Place} (h : ∃ c, place.cell = .ok c ∧ EditAt s c result) :
    Step s result.1 := by
  obtain ⟨c, -, edit⟩ := h
  exact edit.step

/-- A fill that fails halfway has made the steps before the failure. -/
theorem steps_fillCells (s : Sheet) (source : Cell) (stats : Stats) (targets : List Place) :
    Steps s (s.fillCells source stats targets).1 := by
  induction targets generalizing s stats with
  | nil => exact .refl
  | cons target targets ih =>
    unfold fillCells
    split
    · exact .refl
    · next h => exact .head (step_of_editAt (editAt_copy h)) (ih _ _)

theorem steps_settle {s : Sheet} {edited : Edited}
    (h : ∀ result, edited = .ok result → Step s result.1) : Steps s (s.settle edited).1 := by
  cases edited with
  | error fault => exact .refl
  | ok result => exact .single (h result rfl)

/-- Every edit is a sequence of steps; one that is refused is the empty one. -/
theorem steps_apply (s : Sheet) (e : Edit) : Steps s (s.apply e).1 := by
  cases e with
  | set place input => exact steps_settle fun _ h => step_of_editAt (editAt_set h)
  | clear place => exact steps_settle fun _ h => step_of_editAt (editAt_clear h)
  | copy source target => exact steps_settle fun _ h => step_of_editAt (editAt_copy h)
  | fill source targets =>
    show Steps s (s.fill source targets).1
    unfold fill
    split
    · exact .refl
    · exact steps_fillCells s _ _ _
  | recalculate => exact .single (.recalculate s)

/-! ## Runs -/

/-- The sheet after edits, one after the other; those that are refused are passed over. -/
def run (s : Sheet) (edits : List Edit) : Sheet := edits.foldl (fun s e => (s.apply e).1) s

theorem steps_run (s : Sheet) (edits : List Edit) : Steps s (s.run edits) := by
  induction edits generalizing s with
  | nil => exact .refl
  | cons e edits ih => exact (steps_apply s e).trans (ih _)

/-- What holds of the sheet without cells and is kept by steps holds of every sheet that can
    be reached. -/
theorem run_keeps {I : Sheet → Prop} {s : Sheet} (h : I s)
    (keeps : ∀ s s', Step s s' → I s → I s') (edits : List Edit) : I (s.run edits) := by
  have reached : ∀ s', Steps s s' → I s' := by
    intro s' hs'
    induction hs' with
    | refl => exact h
    | tail _ step ih => exact keeps _ _ step ih
  exact reached _ (steps_run s edits)

end Worksheet.Sheet
