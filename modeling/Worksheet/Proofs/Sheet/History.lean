/-
  A sheet does not show its history (`run_forgets_history`). The contents of the cells determine
  the expressions of the formulas, and these determine the edges. Without cycles the values of the
  formulas are then determined as well: a formula that is not stale has the value that evaluating
  it gives, and that depends on cells further down the edges only (`Fresh.valueAt_eq`).

  So it makes no difference in the end whether edits recalculate or leave that to one full pass
  (`deferred_run_catches_up`): the same edits are accepted, which leaves the same contents, and
  after the pass no formula is stale on either sheet.
-/
import Worksheet.Proofs.Dependency.Canonical
import Worksheet.Proofs.Sheet.Contents
import Worksheet.Proofs.Sheet.FullPass

namespace Worksheet.Sheet

variable {s s' : Sheet}

/-! ## Formulas and edges -/

theorem exists_formulaAt {c : Cell} {text : String} (h : s.contentAt c = some (.formula text)) :
    ∃ f, s.formulaAt c = some f ∧ f.text = text := by
  obtain ⟨⟨v, formula⟩, he, hcontent⟩ := Option.map_eq_some_iff.1 h
  unfold formulaAt
  rw [he]
  cases formula with
  | none => cases hcontent
  | some f =>
    cases hcontent
    exact ⟨f, rfl, rfl⟩

/-- The text of a formula determines its expression. -/
theorem Wired.formulaAt_eq (wired : Wired s) (wired' : Wired s')
    (contents : ∀ c, s'.contentAt c = s.contentAt c) (c : Cell) :
    s'.formulaAt c = s.formulaAt c := by
  have formula_of {s s' : Sheet} (wired : Wired s) (wired' : Wired s')
      (same : s'.contentAt c = s.contentAt c) {f : Formula} (hf : s.formulaAt c = some f) :
      s'.formulaAt c = some f := by
    rw [contentAt_of_formulaAt hf] at same
    obtain ⟨f', hf', text⟩ := exists_formulaAt same
    have parsed := ((wired.cells c).formula f hf).1
    have parsed' := ((wired'.cells c).formula f' hf').1
    rw [text, parsed] at parsed'
    have expr : f.expr = f'.expr := Except.ok.inj parsed'
    cases f
    cases f'
    cases text
    cases expr
    exact hf'
  cases hf : s.formulaAt c with
  | some f => exact formula_of wired wired' (contents c) hf
  | none =>
    cases hf' : s'.formulaAt c with
    | none => rfl
    | some f' =>
      rw [formula_of wired' wired (contents c).symm hf'] at hf
      cases hf

/-- The contents determine the edges, whatever size of ranges is allowed. -/
theorem Wired.readsOf_eq (wired : Wired s) (wired' : Wired s')
    (contents : ∀ c, s'.contentAt c = s.contentAt c) (c : Cell) :
    s.graph.readsOf c = s'.graph.readsOf c := by
  have formulaAt := wired.formulaAt_eq wired' contents c
  cases hf : s.formulaAt c with
  | none =>
    rw [hf] at formulaAt
    rw [(wired.cells c).plain hf, (wired'.cells c).plain formulaAt]
  | some f =>
    rw [hf] at formulaAt
    obtain ⟨-, reads, precedents, readsOf⟩ := (wired.cells c).formula f hf
    obtain ⟨-, reads', precedents', readsOf'⟩ := (wired'.cells c).formula f formulaAt
    rw [readsOf, readsOf']
    refine Std.ExtTreeSet.ext_mem fun d => ?_
    rw [Std.ExtTreeSet.mem_ofList, Std.ExtTreeSet.mem_ofList, List.contains_iff_mem,
      List.contains_iff_mem, Expr.mem_of_precedents_eq_ok precedents,
      Expr.mem_of_precedents_eq_ok precedents']

/-! ## Values -/

/-- A cell without a formula has its literal for a value. -/
theorem valueAt_of_formulaAt_eq_none {c : Cell} (h : s.formulaAt c = none)
    (h' : s'.formulaAt c = none) (same : s'.contentAt c = s.contentAt c) :
    s.valueAt c = s'.valueAt c := by
  unfold formulaAt at h h'
  unfold contentAt at same
  unfold valueAt
  cases he : s.entries[c]? with
  | none =>
    rw [he] at same
    rw [Option.map_eq_none_iff.1 same]
  | some e =>
    rw [he] at h same
    obtain ⟨e', he', hcontent⟩ := Option.map_eq_some_iff.1 same
    rw [he'] at h' ⊢
    obtain ⟨v, formula⟩ := e
    obtain ⟨v', formula'⟩ := e'
    cases h
    cases h'
    cases hcontent
    rfl

/-- The contents determine the values when no formula is stale. The induction is along the edges:
    what a formula reads has the same value on both sheets. -/
theorem Fresh.valueAt_eq (fresh : s.Fresh) (fresh' : s'.Fresh) (wired : Wired s)
    (wired' : Wired s') (contents : ∀ c, s'.contentAt c = s.contentAt c) (c : Cell) :
    s.valueAt c = s'.valueAt c := by
  induction c using (wired.acyclic.wellFounded wired.mirrored).induction with
  | _ c ih =>
    have formulaAt := wired.formulaAt_eq wired' contents c
    cases hf : s.formulaAt c with
    | none =>
      rw [hf] at formulaAt
      exact valueAt_of_formulaAt_eq_none hf formulaAt (contents c)
    | some f =>
      rw [hf] at formulaAt
      rw [fresh c f hf List.not_mem_nil, fresh' c f formulaAt List.not_mem_nil]
      exact wired.value_eq hf fun d hd => ih d hd

/-! ## Any two histories -/

theorem built_step (step : Step s s') (h : s.graph.Built) : s'.graph.Built := by
  cases step with
  | literal c v =>
    rw [(sameFormulas_recalculateReaders _ c).graph]
    exact .clear c h
  | @formula c text expr reads _ _ noPath =>
    have notSelf := Graph.not_mem_of_circularPathBy?_eq_none noPath
    rw [(sameFormulas_recalculateReaders _ c).graph]
    exact .update h (Graph.update_of_not_mem notSelf s.graph)
  | recalculate =>
    rw [(alike_recalculateAll s).graph]
    exact h

theorem built_run (options : Options) (edits : List Edit) :
    ((empty options).run edits).graph.Built :=
  run_keeps (I := fun s => s.graph.Built) .empty (fun _ _ => built_step) edits

theorem Wired.graph_eq (wired : Wired s) (wired' : Wired s') (built : s.graph.Built)
    (built' : s'.graph.Built) (contents : ∀ c, s'.contentAt c = s.contentAt c) :
    s'.graph = s.graph :=
  (built.canonical.eq_of_readsOf built'.canonical built.mirrored built'.mirrored
    (wired.readsOf_eq wired' contents)).symm

/-- Two sheets whose edits recalculate are the same if the same literals and formulas are entered
    in their cells, however these came to be there: the formulas have the same values, the cells
    have the same edges, and orders of evaluation are the same lists. The sheets may even differ
    in the size of ranges they allow. -/
theorem run_forgets_history {options options' : Options}
    (on : options.recalculateOnEdit = true) (on' : options'.recalculateOnEdit = true)
    (edits edits' : List Edit)
    (contents : ∀ c, ((empty options').run edits').contentAt c =
      ((empty options).run edits).contentAt c) :
    (∀ c, ((empty options').run edits').valueAt c = ((empty options).run edits).valueAt c) ∧
      ((empty options').run edits').graph = ((empty options).run edits).graph ∧
      (∀ c, ((empty options').run edits').graph.recalculationOrder c =
        ((empty options).run edits).graph.recalculationOrder c) ∧
      ((empty options').run edits').graph.fullOrder =
        ((empty options).run edits).graph.fullOrder := by
  have wired := wired_run options edits
  have wired' := wired_run options' edits'
  have graph := wired.graph_eq wired' (built_run options edits) (built_run options' edits') contents
  refine ⟨fun c => ?_, graph, fun c => by rw [graph], by rw [graph]⟩
  exact ((fresh_run on edits).valueAt_eq (fresh_run on' edits') wired wired' contents c).symm

/-- A1 is set before B1 reads it. -/
def straightHistory : List Edit := [.set (.at ⟨0, 0⟩) "x", .set (.at ⟨0, 1⟩) "=A1&A1"]

/-- B1 reads A1 and C1 at first, and at last A1 is to read B1, which is refused. -/
def roundaboutHistory : List Edit :=
  [.set (.at ⟨0, 1⟩) "=A1&C1", .set (.at ⟨0, 2⟩) "y", .set (.at ⟨0, 1⟩) "=A1&A1",
    .set (.at ⟨0, 0⟩) "x", .clear (.at ⟨0, 2⟩), .set (.at ⟨0, 0⟩) "=B1"]

theorem run_forgets_history_roundabout :
    ((empty {}).run straightHistory).valueAt ⟨0, 1⟩ = .text "xx" ∧
      ((empty {}).run roundaboutHistory).valueAt ⟨0, 1⟩ = .text "xx" ∧
      ((empty {}).run roundaboutHistory).graph = ((empty {}).run straightHistory).graph := by
  have entered : (((empty {}).run roundaboutHistory).entries.map fun _ e => e.content) =
      ((empty {}).run straightHistory).entries.map fun _ e => e.content := by decide +kernel
  have contents : ∀ c, ((empty {}).run roundaboutHistory).contentAt c =
      ((empty {}).run straightHistory).contentAt c := by
    intro c
    have entry := congrArg (fun m => m[c]?) entered
    simp only [Std.ExtTreeMap.getElem?_map] at entry
    exact entry
  have value : ((empty {}).run straightHistory).valueAt ⟨0, 1⟩ = .text "xx" := by decide +kernel
  obtain ⟨values, graph, -, -⟩ :=
    run_forgets_history rfl rfl straightHistory roundaboutHistory contents
  exact ⟨value, (values _).trans value, graph⟩

/-! ## Recalculation put off -/

/-- Of two sheets that allow ranges of the same size, one recalculates with every edit and the
    other one does not. After any edits, every next edit is accepted on the one if and only if it
    is on the other, or else refused for the same fault. When all formulas of the second sheet are
    evaluated at last, it has the same cells as the first one, with the same formulas and values,
    and the same edges. -/
theorem deferred_run_catches_up (limit : Nat) (edits : List Edit) :
    (∀ e, fault? (((empty ⟨limit, false⟩).run edits).apply e) =
        fault? (((empty ⟨limit, true⟩).run edits).apply e)) ∧
      ((empty ⟨limit, false⟩).run edits).recalculateAll.1.entries =
        ((empty ⟨limit, true⟩).run edits).entries ∧
      ((empty ⟨limit, false⟩).run edits).recalculateAll.1.graph =
        ((empty ⟨limit, true⟩).run edits).graph := by
  have start : Alike (empty ⟨limit, true⟩) (empty ⟨limit, false⟩) := ⟨rfl, rfl, fun _ => rfl⟩
  have alike := start.run edits
  have caughtUp := alike.trans (alike_recalculateAll _)
  have wired := wired_run ⟨limit, true⟩ edits
  have deferred := wired_run ⟨limit, false⟩ edits
  have wired' := deferred.step (.recalculate _)
  have fresh : ((empty ⟨limit, true⟩).run edits).Fresh := fresh_run rfl edits
  refine ⟨fun e => (alike.apply e).fault?, ?_, caughtUp.graph⟩
  refine entries_eq caughtUp.contents (wired.formulaAt_eq wired' caughtUp.contents) fun c => ?_
  exact (fresh.valueAt_eq deferred.fresh_recalculateAll wired wired' caughtUp.contents c).symm

end Worksheet.Sheet
