/-
  The dependency graph follows the formulas. Contents and edges are kept apart and are
  changed one after the other, but after every edit a cell with a formula reads the
  precedents of what its text means, a cell without one reads nothing, and no cell depends on
  itself (`Wired`). That no cycle ever appears rests on the search that is made before a
  formula is accepted.
-/
import Worksheet.Proofs.Dependency.CircularPath
import Worksheet.Proofs.Sheet.Steps

namespace Worksheet.Sheet

/-- The expression of a cell's formula is what its text means, and the cell reads exactly the
    precedents of that; without a formula it reads nothing. -/
structure WiredAt (s : Sheet) (c : Cell) : Prop where
  formula : ∀ f, s.formulaAt c = some f →
    parseFormula f.text = .ok f.expr ∧ ∃ reads,
      f.expr.precedents s.options.maxRangeCells = .ok reads ∧
        s.graph.readsOf c = Std.ExtTreeSet.ofList reads
  plain : s.formulaAt c = none → s.graph.readsOf c = ∅

/-- What the graph of a sheet says about its formulas. -/
structure Wired (s : Sheet) : Prop where
  mirrored : s.graph.Mirrored
  acyclic : s.graph.Acyclic
  cells : ∀ c, s.WiredAt c

theorem wired_empty (options : Options) : Wired (empty options) where
  mirrored := Graph.mirrored_empty
  acyclic := Graph.acyclic_empty
  cells c := by
    refine ⟨fun f hf => ?_, fun _ => ?_⟩
    · rw [formulaAt_empty] at hf
      cases hf
    · simp [empty, Graph.empty, Graph.readsOf]

/-! ## Steps -/

theorem WiredAt.congr {s s' : Sheet} {c : Cell} (h : s.WiredAt c)
    (options : s'.options = s.options) (formula : s'.formulaAt c = s.formulaAt c)
    (reads : s'.graph.readsOf c = s.graph.readsOf c) : s'.WiredAt c := by
  refine ⟨fun f hf => ?_, fun hn => ?_⟩
  · rw [formula] at hf
    rw [options, reads]
    exact h.formula f hf
  · rw [formula] at hn
    rw [reads]
    exact h.plain hn

/-- Values do not matter. -/
theorem Wired.sameFormulas {s s' : Sheet} (h : Wired s) (same : SameFormulas s s') :
    Wired s' where
  mirrored := by rw [same.graph]; exact h.mirrored
  acyclic := by rw [same.graph]; exact h.acyclic
  cells c := (h.cells c).congr same.options (same.formulaAt c) (by rw [same.graph])

/-- When the contents and the edges of one cell change, only that cell can come to be at odds
    with its edges. -/
theorem Wired.edit {s s' : Sheet} {c : Cell} {reads : CellSet} (h : Wired s)
    (options : s'.options = s.options) (graph : s'.graph = s.graph.replace c reads)
    (acyclic : (s.graph.replace c reads).Acyclic)
    (formulas : ∀ d, c ≠ d → s'.formulaAt d = s.formulaAt d) (self : s'.WiredAt c) :
    Wired s' := by
  refine ⟨?_, ?_, fun d => ?_⟩
  · rw [graph]
    exact Graph.mirrored_replace h.mirrored c reads
  · rw [graph]
    exact acyclic
  · by_cases hcd : c = d
    · exact hcd ▸ self
    · refine (h.cells d).congr options (formulas d hcd) ?_
      rw [graph, Graph.readsOf_replace_of_ne (Ne.symm hcd)]

theorem Wired.withLiteral {s : Sheet} (h : Wired s) (c : Cell) (v : Option Value) :
    Wired (s.withLiteral c v) := by
  have formulaAt : ∀ d, (s.withLiteral c v).formulaAt d =
      if c = d then none else s.formulaAt d := formulaAt_withLiteral s c v
  refine h.edit rfl rfl (h.acyclic.clear c) (fun d hcd => ?_) ⟨fun f hf => ?_, fun _ => ?_⟩
  · rw [formulaAt, if_neg hcd]
  · rw [formulaAt, if_pos rfl] at hf
    cases hf
  · exact Graph.readsOf_replace_self s.graph c ∅

/-- The search for a path makes sure that the new formula closes no cycle. -/
theorem Wired.withFormula {s : Sheet} (h : Wired s) {c : Cell} {text : String} {expr : Expr}
    {reads : List Cell} (parsed : parseFormula text = .ok expr)
    (precedents : expr.precedents s.options.maxRangeCells = .ok reads)
    (noPath : s.graph.circularPath? c reads = none) :
    Wired (s.withFormula c ⟨text, expr⟩ reads) := by
  have formulaAt : ∀ d, (s.withFormula c ⟨text, expr⟩ reads).formulaAt d =
      if c = d then some ⟨text, expr⟩ else s.formulaAt d := formulaAt_withFormula s c _ reads
  have noCycle : ¬ (s.graph.replace c (.ofList reads)).DependsOn c c := by
    rw [← Graph.circularPathBy?_isSome_iff, ← Graph.circularPath?, noPath]
    exact Bool.false_ne_true
  refine h.edit rfl rfl (h.acyclic.replace noCycle) (fun d hcd => ?_)
    ⟨fun f hf => ?_, fun hn => ?_⟩
  · rw [formulaAt, if_neg hcd]
  · rw [formulaAt, if_pos rfl] at hf
    obtain rfl := Option.some.inj hf
    exact ⟨parsed, reads, precedents, Graph.readsOf_replace_self s.graph c _⟩
  · rw [formulaAt, if_pos rfl] at hn
    cases hn

theorem Wired.step {s s' : Sheet} (step : Step s s') (h : Wired s) : Wired s' := by
  cases step with
  | literal c v =>
    exact (h.withLiteral c v).sameFormulas (sameFormulas_recalculateReaders _ c)
  | @formula c text expr reads parsed precedents noPath =>
    exact (h.withFormula parsed precedents noPath).sameFormulas
      (sameFormulas_recalculateReaders _ c)
  | recalculate => exact h.sameFormulas (sameFormulas_recomputeAll s _)

/-! ## Runs -/

theorem options_step {s s' : Sheet} (step : Step s s') : s'.options = s.options := by
  cases step with
  | literal c v => exact (sameFormulas_recalculateReaders _ c).options
  | formula => exact (sameFormulas_recalculateReaders _ _).options
  | recalculate => exact (sameFormulas_recomputeAll s _).options

theorem options_run (s : Sheet) (edits : List Edit) : (s.run edits).options = s.options :=
  run_keeps (I := fun s' => s'.options = s.options) rfl
    (fun _ _ step h => (options_step step).trans h) edits

theorem wired_run (options : Options) (edits : List Edit) :
    Wired ((empty options).run edits) :=
  run_keeps (wired_empty options) (fun _ _ => Wired.step) edits

/-- In every sheet that edits can lead to, whether they are refused or not, the expression of
    a formula is what its text means and the cell reads exactly the precedents of that; a
    cell without a formula reads nothing; and there are no cycles. -/
theorem run_graph_follows_formulas (options : Options) (edits : List Edit) :
    (∀ c f, ((empty options).run edits).formulaAt c = some f → ∃ expr reads,
      parseFormula f.text = .ok expr ∧ f.expr = expr ∧
        expr.precedents options.maxRangeCells = .ok reads ∧
        ((empty options).run edits).graph.readsOf c = Std.ExtTreeSet.ofList reads) ∧
      (∀ c, ((empty options).run edits).formulaAt c = none →
        ((empty options).run edits).graph.readsOf c = ∅) ∧
      ((empty options).run edits).graph.Acyclic := by
  have wired := wired_run options edits
  refine ⟨fun c f hf => ?_, fun c => (wired.cells c).plain, wired.acyclic⟩
  obtain ⟨parsed, reads, precedents, readsOf⟩ := (wired.cells c).formula f hf
  rw [options_run] at precedents
  exact ⟨f.expr, reads, parsed, rfl, precedents, readsOf⟩

end Worksheet.Sheet
