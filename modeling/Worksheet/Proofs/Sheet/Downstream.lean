/-
  How far an edit reaches. To set, to clear or to copy to a cell writes that cell and what it reads
  (`Rewritten`), and then evaluates the formulas that depend on it, which are the same before and
  after the edit. Nothing else changes, and each of these formulas is evaluated once, so that the
  numbers reported are those of the cells that depend on the edited one (`edit_stays_downstream`).
-/
import Worksheet.Proofs.Sheet.Statistics

namespace Worksheet

/-- The cell whose contents an edit sets, clears or copies to. A fill may change many cells. -/
def Edit.cell? : Edit → Option Cell
  | .set place _ => place.cell.toOption
  | .clear place => place.cell.toOption
  | .copy _ target => target.cell.toOption
  | .fill _ _ => none
  | .recalculate => none

namespace Sheet

variable {s s' w : Sheet} {c : Cell} {result : Sheet × Stats}

/-! ## One cell written -/

/-- The second sheet is the first one with one cell and its edges written anew, before any other
    cell is recalculated. -/
structure Rewritten (s : Sheet) (c : Cell) (w : Sheet) : Prop where
  options : w.options = s.options
  graph : ∃ reads, w.graph = s.graph.replace c reads
  others : ∀ d, d ≠ c → w.entries[d]? = s.entries[d]?

theorem rewritten_withLiteral (s : Sheet) (c : Cell) (v : Option Value) :
    Rewritten s c (s.withLiteral c v) := by
  refine ⟨rfl, ⟨∅, rfl⟩, fun d hd => ?_⟩
  cases v with
  | some v => simp [withLiteral, Std.ExtTreeMap.getElem?_insert, hd.symm]
  | none => simp [withLiteral, Std.ExtTreeMap.getElem?_erase, hd.symm]

theorem rewritten_withFormula (s : Sheet) (c : Cell) (f : Formula) (reads : List Cell) :
    Rewritten s c (s.withFormula c f reads) := by
  refine ⟨rfl, ⟨.ofList reads, rfl⟩, fun d hd => ?_⟩
  simp [withFormula, store, Std.ExtTreeMap.getElem?_insert, hd.symm]

/-- An edit of one cell writes the cell and then has its readers recalculated. A formula that was
    entered is counted before they are. -/
theorem EditAt.exists_rewritten (edit : EditAt s c result) (wired : Wired s) :
    ∃ w, Rewritten s c w ∧ Wired w ∧ result.1 = (w.recalculateReaders c).1 ∧
      result.2 = (if w.holdsFormula c then .one (w.valueAt c) else .zero) +
        (w.recalculateReaders c).2 := by
  cases edit with
  | literal v =>
    have none : (s.withLiteral c v).holdsFormula c = false := by
      simp [holdsFormula, formulaAt_withLiteral]
    refine ⟨_, rewritten_withLiteral s c v, wired.withLiteral c v, rfl, ?_⟩
    rw [none, if_neg Bool.false_ne_true, Stats.zero_add]
  | @formula text expr reads parsed precedents noPath =>
    have some : (s.withFormula c ⟨text, expr⟩ reads).holdsFormula c = true := by
      simp [holdsFormula, formulaAt_withFormula]
    refine ⟨_, rewritten_withFormula s c ⟨text, expr⟩ reads,
      wired.withFormula parsed precedents noPath, rfl, ?_⟩
    rw [if_pos some, valueAt_withFormula, if_pos rfl]
    rfl

/-- The cells that depend on the one that is written are the same before and after. -/
theorem Rewritten.dependsOn_iff (rewritten : Rewritten s c w) (wired : Wired s) (wired' : Wired w)
    (d : Cell) : w.graph.DependsOn d c ↔ s.graph.DependsOn d c := by
  by_cases hd : d = c
  · subst hd
    exact iff_of_false (wired'.acyclic d) (wired.acyclic d)
  · obtain ⟨reads, graph⟩ := rewritten.graph
    rw [graph]
    exact Graph.dependsOn_replace_iff hd reads

theorem Rewritten.readsOf_of_ne (rewritten : Rewritten s c w) {d : Cell} (h : d ≠ c) :
    w.graph.readsOf d = s.graph.readsOf d := by
  obtain ⟨reads, graph⟩ := rewritten.graph
  rw [graph]
  exact Graph.readsOf_replace_of_ne h reads

/-! ## Readers recalculated -/

theorem getElem?_recompute_of_ne (s : Sheet) {c d : Cell} (h : d ≠ c) :
    (s.recompute c).1.entries[d]? = s.entries[d]? := by
  cases hf : s.formulaAt c with
  | none => rw [recompute_of_none hf]
  | some f =>
    rw [recompute_of_some hf]
    simp [store, Std.ExtTreeMap.getElem?_insert, h.symm]

theorem getElem?_recomputeAll_of_not_mem {cells : List Cell} {d : Cell} (h : d ∉ cells)
    (s : Sheet) : (s.recomputeAll cells).1.entries[d]? = s.entries[d]? := by
  induction cells generalizing s with
  | nil => rfl
  | cons c cells ih =>
    rw [List.mem_cons, not_or] at h
    rw [recomputeAll_cons, ih h.2, getElem?_recompute_of_ne s h.1]

theorem valueAt_congr {d : Cell} (h : s'.entries[d]? = s.entries[d]?) :
    s'.valueAt d = s.valueAt d := by
  unfold valueAt
  rw [h]

theorem formulaAt_congr {d : Cell} (h : s'.entries[d]? = s.entries[d]?) :
    s'.formulaAt d = s.formulaAt d := by
  unfold formulaAt
  rw [h]

/-- Only formulas read cells. -/
theorem Wired.holdsFormula_of_dependsOn (wired : Wired s) {d : Cell}
    (h : s.graph.DependsOn d c) : s.holdsFormula d := by
  obtain ⟨x, hdx, -⟩ := Relation.TransGen.head'_iff.1 h
  cases hf : s.formulaAt d with
  | some f => simp [holdsFormula, hf]
  | none =>
    unfold Graph.Reads at hdx
    rw [(wired.cells d).plain hf] at hdx
    exact absurd hdx Std.ExtTreeSet.not_mem_empty

/-- To recalculate the readers of a cell leaves alone what does not depend on it. -/
theorem Wired.getElem?_recalculateReaders (wired : Wired w) {d : Cell}
    (free : ¬ w.graph.DependsOn d c) :
    (w.recalculateReaders c).1.entries[d]? = w.entries[d]? := by
  unfold recalculateReaders
  split
  · refine getElem?_recomputeAll_of_not_mem (fun listed => free ?_) w
    exact (wired.acyclic.mem_recalculationOrder wired.mirrored).1 listed
  · rfl

/-- To recalculate the readers of a cell evaluates the formulas that depend on it, each once. -/
theorem Wired.stats_recalculateReaders (wired : Wired w)
    (on : w.options.recalculateOnEdit = true) (c : Cell) :
    (w.recalculateReaders c).2 =
      (w.recalculateReaders c).1.tally (w.graph.recalculationOrder c) := by
  have order := (wired.acyclic.readersFollow wired.mirrored c).pairwise
    (Graph.lists_recalculationOrder wired.mirrored c).nodup
  have formulas : (w.graph.recalculationOrder c).filter w.holdsFormula =
      w.graph.recalculationOrder c :=
    List.filter_eq_self.2 fun d hd =>
      wired.holdsFormula_of_dependsOn ((wired.acyclic.mem_recalculationOrder wired.mirrored).1 hd)
  have counted := wired.stats_recomputeAll order
  unfold recalculateReaders
  rw [if_pos on, counted, formulas]

/-! ## Accepted edits -/

theorem settle_eq_ok {edited : Edited} {stats : Stats}
    (h : s.settle edited = (s', .ok stats)) : edited = .ok (s', stats) := by
  cases edited with
  | error fault => cases h
  | ok result =>
    cases h
    rfl

theorem toOption_eq_some {ε α : Type} {x : Except ε α} {a : α} (h : x.toOption = some a) :
    x = .ok a := by
  cases x with
  | error fault => cases h
  | ok b =>
    cases h
    rfl

theorem editAt_of_apply {e : Edit} {stats : Stats} (cell : e.cell? = some c)
    (accepted : s.apply e = (s', .ok stats)) : EditAt s c (s', stats) := by
  have at_place {place : Place} (named : place.cell.toOption = some c)
      (h : ∃ d, place.cell = .ok d ∧ EditAt s d (s', stats)) : EditAt s c (s', stats) := by
    obtain ⟨d, found, edit⟩ := h
    rw [toOption_eq_some named] at found
    cases found
    exact edit
  cases e with
  | set place input => exact at_place cell (editAt_set (settle_eq_ok accepted))
  | clear place => exact at_place cell (editAt_clear (settle_eq_ok accepted))
  | copy source target => exact at_place cell (editAt_copy (settle_eq_ok accepted))
  | fill source targets => cases cell
  | recalculate => cases cell

/-- In a sheet that edits led to, where edits recalculate, a cell is set, cleared or copied to.
    The same cells depend on it as before. Any other cell keeps its entry, value and all, unless it
    depends on the edited one; and all other cells keep their formulas and what they read. The
    formulas that are counted are those of the cells that depend on the edited cell, each once, and
    that of the cell itself if it now has one; the errors counted are those that these cells hold
    in the end. -/
theorem edit_stays_downstream {options : Options} (on : options.recalculateOnEdit = true)
    (edits : List Edit) {e : Edit} {k : Cell} (cell : e.cell? = some k) {s' : Sheet}
    {stats : Stats} (accepted : ((empty options).run edits).apply e = (s', .ok stats)) :
    let s := (empty options).run edits
    (∀ d, s'.graph.DependsOn d k ↔ s.graph.DependsOn d k) ∧
      (∀ d, d ≠ k → ¬ s'.graph.DependsOn d k → s'.entries[d]? = s.entries[d]?) ∧
      (∀ d, d ≠ k → s'.formulaAt d = s.formulaAt d ∧ s'.graph.readsOf d = s.graph.readsOf d) ∧
      ∃ readers : List Cell, readers.Nodup ∧ (∀ d, d ∈ readers ↔ s'.graph.DependsOn d k) ∧
        stats = s'.tally (if s'.holdsFormula k then k :: readers else readers) := by
  intro s
  have wired : Wired s := wired_run options edits
  obtain ⟨w, rewritten, wired', (rfl : s' = _), (rfl : stats = _)⟩ :=
    (editAt_of_apply cell accepted).exists_rewritten wired
  have on' : w.options.recalculateOnEdit = true := by
    rw [rewritten.options, options_run]
    exact on
  have same := sameFormulas_recalculateReaders w k
  have lists := Graph.lists_recalculationOrder wired'.mirrored k
  rw [same.graph]
  refine ⟨rewritten.dependsOn_iff wired wired', fun d hd free => ?_, fun d hd => ⟨?_, ?_⟩,
    w.graph.recalculationOrder k, lists.nodup,
    fun d => wired'.acyclic.mem_recalculationOrder wired'.mirrored, ?_⟩
  · exact (wired'.getElem?_recalculateReaders free).trans (rewritten.others d hd)
  · exact (same.formulaAt d).trans (formulaAt_congr (rewritten.others d hd))
  · exact rewritten.readsOf_of_ne hd
  · -- The cell does not depend on itself, so it keeps the value it was counted with.
    have value : (w.recalculateReaders k).1.valueAt k = w.valueAt k :=
      valueAt_congr (wired'.getElem?_recalculateReaders (wired'.acyclic k))
    rw [wired'.stats_recalculateReaders on', ← value, same.holdsFormula]
    split
    · exact (tally_cons _ k _).symm
    · exact Stats.zero_add _

/-- C1 reads B1, which reads A1, and D1 reads A1 alone. -/
def forked : List Edit :=
  [.set (.at ⟨0, 0⟩) "x", .set (.at ⟨0, 1⟩) "=A1", .set (.at ⟨0, 2⟩) "=B1&B1",
    .set (.at ⟨0, 3⟩) "=A1"]

/-- B1 comes to hold an error, and so does C1; D1 does not depend on it. -/
theorem edit_stays_downstream_forked :
    let s := (empty {}).run forked
    let s' := (s.apply (.set (.at ⟨0, 1⟩) "=NA()")).1
    s.apply (.set (.at ⟨0, 1⟩) "=NA()") = (s', .ok ⟨2, 2⟩) ∧
      s'.entries[(⟨0, 3⟩ : Cell)]? = s.entries[(⟨0, 3⟩ : Cell)]? ∧
      ∃ readers : List Cell, readers.Nodup ∧ (∀ d, d ∈ readers ↔ s'.graph.DependsOn d ⟨0, 1⟩) ∧
        ⟨2, 2⟩ = s'.tally (⟨0, 1⟩ :: readers) := by
  intro s s'
  have counted : (s.apply (.set (.at ⟨0, 1⟩) "=NA()")).2.toOption = some ⟨2, 2⟩ := by
    decide +kernel
  have accepted : s.apply (.set (.at ⟨0, 1⟩) "=NA()") = (s', .ok ⟨2, 2⟩) :=
    Prod.ext rfl (toOption_eq_some counted)
  obtain ⟨dependsOn, others, -, readers, nodup, mem, stats⟩ :=
    edit_stays_downstream rfl forked rfl accepted
  have unlisted : ⟨0, 3⟩ ∉ s.graph.recalculationOrder ⟨0, 1⟩ := by decide +kernel
  have wired : Wired s := wired_run {} forked
  have free : ¬ s'.graph.DependsOn ⟨0, 3⟩ ⟨0, 1⟩ := by
    rwa [dependsOn, ← wired.acyclic.mem_recalculationOrder wired.mirrored]
  have holds : s'.holdsFormula ⟨0, 1⟩ = true := by decide +kernel
  rw [if_pos holds] at stats
  exact ⟨accepted, others _ (by decide) free, readers, nodup, mem, stats⟩

end Sheet

end Worksheet
