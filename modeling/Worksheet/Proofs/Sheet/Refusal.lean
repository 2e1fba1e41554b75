/-
  Edits in place leave no trace when they are refused (`refused_leaves_no_trace`). Once a
  formula has been parsed, its precedents are known and no circular path was found, nothing can
  fail any more: the path search has already looked for the cell itself among what it would
  read, so the graph does not refuse the edges (`updateGraph_run`). So an edit in place comes to
  what the edit that returns a new sheet comes to (`apply_run`). A fill is a sequence of
  copies, and what was copied before the one that fails stays (`Copied`).
-/
import Worksheet.Proofs.Dependency.CircularPath
import Worksheet.Proofs.Sheet.Steps
import Worksheet.Sheet.InPlace

namespace Worksheet.InPlace

variable {α β : Type} {s s' : Sheet} {fault : SheetFault}

/-! ## Running in place -/

/-- What an edit that cannot fail comes to. -/
def done : Sheet × Stats → EStateM.Result SheetFault Sheet Stats
  | (s, stats) => .ok stats s

/-- What an edit comes to. -/
def outcome : Sheet × Except SheetFault Stats → EStateM.Result SheetFault Sheet Stats
  | (s, .ok stats) => .ok stats s
  | (s, .error fault) => .error fault s

theorem run_bind_of_ok {m : InPlace α} {a : α} (h : m.run s = .ok a s') (f : α → InPlace β) :
    (m >>= f).run s = (f a).run s' := by
  rw [EStateM.run_bind, h]

theorem run_bind_of_error {m : InPlace α} (h : m.run s = .error fault s')
    (f : α → InPlace β) : (m >>= f).run s = .error fault s' := by
  rw [EStateM.run_bind, h]

theorem run_get_bind (f : Sheet → InPlace β) : (get >>= f).run s = (f s).run s := rfl

theorem run_modify_bind (g : Sheet → Sheet) (f : PUnit → InPlace β) :
    (modify g >>= f).run s = (f ⟨⟩).run (g s) := rfl

theorem ofExcept_ok_bind (a : α) (f : α → InPlace β) : ofExcept (.ok a) >>= f = f a := rfl

/-! ## Edits that cannot fail -/

theorem recompute_run (c : Cell) (s : Sheet) :
    (recompute c).run s = done (s.recompute c) := by
  unfold recompute Sheet.recompute
  rw [run_get_bind]
  cases s.formulaAt c with
  | none => rfl
  | some f => rfl

theorem recomputeAll_run (cells : List Cell) (stats : Stats) (s : Sheet) :
    (recomputeAll stats cells).run s =
      done (cells.foldl (fun (s, stats) c =>
        let (s, more) := s.recompute c
        (s, stats + more)) (s, stats)) := by
  induction cells generalizing s stats with
  | nil => rfl
  | cons c cells ih =>
    rw [recomputeAll, run_bind_of_ok (recompute_run c s), ih]
    rfl

theorem recalculateReaders_run (c : Cell) (s : Sheet) :
    (recalculateReaders c).run s = done (s.recalculateReaders c) := by
  unfold recalculateReaders Sheet.recalculateReaders
  rw [run_get_bind]
  split
  · exact recomputeAll_run _ .zero s
  · rfl

theorem recalculateAll_run (s : Sheet) : recalculateAll.run s = done s.recalculateAll := by
  unfold recalculateAll
  rw [run_get_bind]
  exact recomputeAll_run _ .zero s

theorem setLiteral_run (c : Cell) (v : Option Value) (s : Sheet) :
    (setLiteral c v).run s = done (s.setLiteral c v) := by
  unfold setLiteral
  rw [run_modify_bind, run_modify_bind]
  exact recalculateReaders_run c _

/-! ## Setting a formula -/

theorem refuseCycle_run_of_some {c : Cell} {reads path : List Cell}
    (h : s.graph.circularPath? c reads = some path) :
    (refuseCycle c reads).run s = .error (.cycle c path) s := by
  unfold refuseCycle
  rw [run_get_bind, h]
  rfl

theorem refuseCycle_run_of_none {c : Cell} {reads : List Cell}
    (h : s.graph.circularPath? c reads = none) : (refuseCycle c reads).run s = .ok () s := by
  unfold refuseCycle
  rw [run_get_bind, h]
  rfl

/-- After the path search, the graph accepts the edges. -/
theorem updateGraph_run {c : Cell} {reads : List Cell}
    (h : s.graph.circularPath? c reads = none) :
    (updateGraph c reads).run s =
      .ok () { s with graph := s.graph.replace c (Std.ExtTreeSet.ofList reads) } := by
  have accepted := Graph.update_of_not_mem (Graph.not_mem_of_circularPathBy?_eq_none h) s.graph
  unfold updateGraph
  rw [run_get_bind, accepted]
  rfl

/-- A formula written to a cell, and what was evaluated by that. -/
def written (s : Sheet) (c : Cell) (f : Formula) : Sheet × Stats :=
  let v := s.evaluate f.expr
  let (s, stats) := (s.store c ⟨v, some f⟩).recalculateReaders c
  (s, .one v + stats)

theorem writeFormula_run (c : Cell) (f : Formula) (s : Sheet) :
    (writeFormula c f).run s = done (written s c f) := by
  unfold writeFormula
  rw [run_get_bind, run_modify_bind, run_bind_of_ok (recalculateReaders_run c _)]
  rfl

theorem setFormula_of_precedents {c : Cell} {text : String} {expr : Expr} {reads : List Cell}
    (parsed : parseFormula text = .ok expr)
    (precedents : expr.precedents s.options.maxRangeCells = .ok reads) :
    s.setFormula c text =
      s.rewire c reads >>= fun s => pure (written s c ⟨text, expr⟩) := by
  simp only [Sheet.setFormula, parsed, precedents, bind, Except.bind]
  rfl

/-- A formula is refused before the first write, or not at all. -/
theorem setFormula_run (c : Cell) (text : String) (s : Sheet) :
    (setFormula c text).run s = outcome (s.settle (s.setFormula c text)) := by
  unfold setFormula
  cases parsed : parseFormula text with
  | error fault =>
    have refused : s.setFormula c text = .error (.formula fault) := by
      rw [Sheet.setFormula, parsed]
      rfl
    rw [refused]
    rfl
  | ok expr =>
    rw [Sheet.mapError_ok, ofExcept_ok_bind, run_get_bind]
    cases precedents : expr.precedents s.options.maxRangeCells with
    | error fault =>
      have refused : s.setFormula c text = .error (.formula fault) := by
        simp only [Sheet.setFormula, parsed, precedents, bind, Except.bind]
        rfl
      rw [refused]
      rfl
    | ok reads =>
      rw [Sheet.mapError_ok, ofExcept_ok_bind, setFormula_of_precedents parsed precedents,
        Sheet.rewire]
      cases path : s.graph.circularPath? c reads with
      | some path =>
        rw [run_bind_of_error (refuseCycle_run_of_some path)]
        rfl
      | none =>
        -- From here on nothing fails: the graph takes the edges, and writing always succeeds.
        have notSelf := Graph.not_mem_of_circularPathBy?_eq_none path
        have accepted := Graph.update_of_not_mem notSelf s.graph
        rw [run_bind_of_ok (refuseCycle_run_of_none path), run_bind_of_ok (updateGraph_run path),
          writeFormula_run, accepted]
        rfl

/-! ## Edits by name -/

/-- Nothing is written before a place has been found. -/
theorem run_at_place {place : Place} {edit : Cell → InPlace Stats} {edited : Cell → Sheet.Edited}
    (h : ∀ c, (edit c).run s = outcome (s.settle (edited c))) :
    (ofExcept place.cell >>= edit).run s = outcome (s.settle (place.cell >>= edited)) := by
  cases place.cell with
  | error fault => rfl
  | ok c => exact h c

theorem set_run (place : Place) (input : String) (s : Sheet) :
    (set place input).run s = outcome (s.settle (s.set place input)) := by
  refine run_at_place fun c => ?_
  dsimp only
  split
  · exact setFormula_run c _ s
  · exact setLiteral_run c _ s

theorem clear_run (place : Place) (s : Sheet) :
    (clear place).run s = outcome (s.settle (s.clear place)) :=
  run_at_place fun c => setLiteral_run c none s

theorem copyCell_run (source target : Cell) (s : Sheet) :
    (copyCell source target).run s = outcome (s.settle (s.copyCell source target)) := by
  unfold copyCell Sheet.copyCell
  rw [run_get_bind]
  match s.entries[source]? with
  | none => exact setLiteral_run target none s
  | some ⟨v, none⟩ => exact setLiteral_run target (some v) s
  | some ⟨_, some f⟩ =>
    dsimp only
    cases shiftBody ((target.row : Int) - source.row) ((target.col : Int) - source.col)
        (f.text.toList.drop 1) with
    | error fault => rfl
    | ok body => exact setFormula_run target _ s

theorem copy_run (source target : Place) (s : Sheet) :
    (copy source target).run s = outcome (s.settle (s.copy source target)) :=
  run_at_place fun source => run_at_place fun target => copyCell_run source target s

theorem fillCells_run (source : Cell) (targets : List Place) (stats : Stats) (s : Sheet) :
    (fillCells source stats targets).run s = outcome (s.fillCells source stats targets) := by
  induction targets generalizing s stats with
  | nil => rfl
  | cons target targets ih =>
    have first := copy_run (.at source) target s
    unfold fillCells Sheet.fillCells
    cases copied : s.copy (.at source) target with
    | error fault =>
      rw [copied] at first
      rw [run_bind_of_error first]
      rfl
    | ok edited =>
      rw [copied] at first
      rw [run_bind_of_ok first]
      exact ih _ _

theorem fill_run (source : Place) (targets : List Place) (s : Sheet) :
    (fill source targets).run s = outcome (s.fill source targets) := by
  unfold fill Sheet.fill
  cases source.cell with
  | error fault => rfl
  | ok source => exact fillCells_run source targets .zero s

/-- An edit in place comes to what the edit that returns a new sheet comes to. -/
theorem apply_run (e : Edit) (s : Sheet) : (apply e).run s = outcome (s.apply e) := by
  cases e with
  | set place input => exact set_run place input s
  | clear place => exact clear_run place s
  | copy source target => exact copy_run source target s
  | fill source targets => exact fill_run source targets s
  | recalculate => exact recalculateAll_run s

/-! ## Refused edits -/

theorem eq_of_settle_eq_error {edited : Sheet.Edited}
    (h : outcome (s.settle edited) = .error fault s') : s' = s := by
  cases edited with
  | error fault' =>
    cases h
    rfl
  | ok result => cases h

/-- The second sheet comes out of the first one by copying a cell to the targets, one after the
    other, where every copy is carried out. -/
inductive Copied (source : Place) : Sheet → List Place → Sheet → Prop where
  | nil (s : Sheet) : Copied source s [] s
  | cons {s s' s'' : Sheet} {target : Place} {targets : List Place} {stats : Stats}
      (first : (copy source target).run s = .ok stats s') (later : Copied source s' targets s'') :
      Copied source s (target :: targets) s''

theorem copy_at {source : Place} {c : Cell} (h : source.cell = .ok c) (target : Place) :
    copy (.at c) target = copy source target := by
  unfold copy
  rw [h]
  rfl

/-- A fill that is refused has copied the cell to the targets before the one that it is refused
    for. -/
theorem fillCells_refused {source : Place} {c : Cell} (hc : source.cell = .ok c)
    {targets : List Place} {stats : Stats}
    (h : (fillCells c stats targets).run s = .error fault s') :
    ∃ before target after, targets = before ++ target :: after ∧ Copied source s before s' ∧
      (copy source target).run s' = .error fault s' := by
  induction targets generalizing s stats with
  | nil => cases h
  | cons target targets ih =>
    rw [fillCells, copy_at hc] at h
    cases first : (copy source target).run s with
    | error fault₁ s₁ =>
      rw [run_bind_of_error first] at h
      cases h
      -- The copy that fails has written nothing itself.
      obtain rfl := eq_of_settle_eq_error ((copy_run source target s).symm.trans first)
      exact ⟨[], target, targets, rfl, .nil _, first⟩
    | ok more s₁ =>
      rw [run_bind_of_ok first] at h
      obtain ⟨before, failing, after, rfl, copied, refused⟩ := ih h
      exact ⟨target :: before, failing, after, rfl, .cons first copied, refused⟩

/-- Setting, clearing or copying a cell in place leaves the whole sheet as it was whenever it is
    refused, and a fill that is refused leaves the sheet that copies to the targets before the
    failing one lead to. Nothing is assumed about the sheet, so it may be any that edits can
    lead to, under any options; and what happens in place is what `Sheet.apply` says. -/
theorem refused_leaves_no_trace (s : Sheet) :
    (∀ e, (apply e).run s = outcome (s.apply e)) ∧
    (∀ place input fault s', (set place input).run s = .error fault s' → s' = s) ∧
    (∀ place fault s', (clear place).run s = .error fault s' → s' = s) ∧
    (∀ source target fault s', (copy source target).run s = .error fault s' → s' = s) ∧
    ∀ source targets fault s', (fill source targets).run s = .error fault s' →
      (source.cell = .error fault ∧ s' = s) ∨
        ∃ before target after, targets = before ++ target :: after ∧
          Copied source s before s' ∧ (copy source target).run s' = .error fault s' := by
  refine ⟨fun e => apply_run e s, ?_, ?_, ?_, ?_⟩
  · intro place input fault s' h
    exact eq_of_settle_eq_error ((set_run place input s).symm.trans h)
  · intro place fault s' h
    exact eq_of_settle_eq_error ((clear_run place s).symm.trans h)
  · intro source target fault s' h
    exact eq_of_settle_eq_error ((copy_run source target s).symm.trans h)
  · intro source targets fault s' h
    unfold fill at h
    cases hc : source.cell with
    | error fault₁ =>
      rw [hc] at h
      cases h
      exact .inl ⟨rfl, rfl⟩
    | ok c =>
      rw [hc] at h
      exact .inr (fillCells_refused hc h)

theorem exists_fault {r : Sheet × Except SheetFault Stats} (h : r.2.isOk = false) :
    ∃ fault, outcome r = .error fault r.1 := by
  obtain ⟨s, result⟩ := r
  cases result with
  | error fault => exact ⟨fault, rfl⟩
  | ok stats => cases h

/-- A1 reads B1. -/
def reading : Sheet := (Sheet.empty {}).run [.set (.at ⟨0, 0⟩) "=B1"]

/-- A2, the last cell of the first row, and A3. -/
def fillTargets : List Place := [.at ⟨1, 0⟩, .at ⟨0, 16383⟩, .at ⟨2, 0⟩]

/-- B1 may not read A1. A fill from A1 is refused where B1 would be moved off the grid, and the
    copy to A2 before it stays. -/
theorem refused_leaves_no_trace_reading :
    (∃ fault, (set (.at ⟨0, 1⟩) "=A1").run reading = .error fault reading) ∧
      ∃ before target after fault s', fillTargets = before ++ target :: after ∧
        Copied (.at ⟨0, 0⟩) reading before s' ∧
        (copy (.at ⟨0, 0⟩) target).run s' = .error fault s' ∧
        (s'.formulaAt ⟨1, 0⟩).isSome = true := by
  obtain ⟨applied, unchanged, -, -, filled⟩ := refused_leaves_no_trace reading
  constructor
  · have refused : (reading.apply (.set (.at ⟨0, 1⟩) "=A1")).2.isOk = false := by decide +kernel
    obtain ⟨fault, cycle⟩ := exists_fault refused
    have run : (set (.at ⟨0, 1⟩) "=A1").run reading = _ := (applied (.set _ _)).trans cycle
    have same := unchanged _ _ _ _ run
    exact ⟨fault, run.trans (by rw [same])⟩
  · have refused : (reading.fill (.at ⟨0, 0⟩) fillTargets).2.isOk = false := by decide +kernel
    have stays : ((reading.fill (.at ⟨0, 0⟩) fillTargets).1.formulaAt ⟨1, 0⟩).isSome = true := by
      decide +kernel
    obtain ⟨fault, off⟩ := exists_fault refused
    have run : (fill (.at ⟨0, 0⟩) fillTargets).run reading = _ := (applied (.fill _ _)).trans off
    rcases filled _ _ _ _ run with ⟨noPlace, -⟩ | ⟨before, target, after, split, copied, failed⟩
    · cases noPlace
    · exact ⟨before, target, after, fault, _, split, copied, failed, stays⟩

end Worksheet.InPlace
