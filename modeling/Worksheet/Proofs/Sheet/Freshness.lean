/-
  No stale values. After every edit each formula holds the value that evaluating it on the
  sheet gives, if edits recalculate at all.

  An edit makes the formulas stale that depend on the edited cell, and these are what the
  recalculation order lists (`FreshBut.of_edit`). Evaluating the first of them again disturbs
  only its readers, and these come later in the order (`FreshBut.recompute`); so when the
  order has been worked off, nothing is stale.
-/
import Worksheet.Proofs.Dependency.RecalculationOrder
import Worksheet.Proofs.Evaluation.Precedents
import Worksheet.Proofs.Sheet.Wiring

namespace Worksheet.Sheet

/-- Every formula but those of the given cells has the value that evaluating it gives. -/
def FreshBut (s : Sheet) (stale : List Cell) : Prop :=
  ∀ c f, s.formulaAt c = some f → c ∉ stale → s.valueAt c = s.evaluate f.expr

/-- Every formula has the value that evaluating it gives. -/
def Fresh (s : Sheet) : Prop := s.FreshBut []

/-- The value of a formula depends on the cells that the graph says it reads, and on no
    others. -/
theorem Wired.value_eq {s : Sheet} (h : Wired s) {c : Cell} {f : Formula}
    (hf : s.formulaAt c = some f) {look look' : Cell → Value}
    (hlook : ∀ d, s.graph.Reads c d → look d = look' d) :
    f.expr.value look = f.expr.value look' := by
  obtain ⟨-, reads, precedents, readsOf⟩ := (h.cells c).formula f hf
  refine Expr.value_congr precedents fun d hd => hlook d ?_
  unfold Graph.Reads
  rw [readsOf]
  exact Std.ExtTreeSet.mem_ofList.2 (List.contains_iff_mem.2 hd)

/-! ## Evaluating stale formulas -/

theorem valueAt_recompute_of_ne (s : Sheet) {c d : Cell} (h : c ≠ d) :
    (s.recompute c).1.valueAt d = s.valueAt d := by
  cases hf : s.formulaAt c with
  | none => rw [recompute_of_none hf]
  | some f => rw [recompute_of_some hf, valueAt_store, if_neg h]

theorem valueAt_recompute_self {s : Sheet} {c : Cell} {f : Formula}
    (h : s.formulaAt c = some f) : (s.recompute c).1.valueAt c = s.evaluate f.expr := by
  rw [recompute_of_some h, valueAt_store, if_pos rfl]

/-- A formula that does not read a cell has the same value after that cell is evaluated
    again. -/
theorem Wired.evaluate_recompute {s : Sheet} (h : Wired s) {c d : Cell} {f : Formula}
    (hf : s.formulaAt d = some f) (hd : ¬ s.graph.Reads d c) :
    (s.recompute c).1.evaluate f.expr = s.evaluate f.expr := by
  refine h.value_eq hf fun x hx => valueAt_recompute_of_ne s ?_
  rintro rfl
  exact hd hx

theorem FreshBut.recompute {s : Sheet} {c : Cell} {cells : List Cell}
    (h : s.FreshBut (c :: cells)) (wired : Wired s)
    (readers : ∀ d, s.graph.Reads d c → d ∈ cells) :
    (s.recompute c).1.FreshBut cells := by
  intro d f hf hd
  rw [(sameFormulas_recompute s c).formulaAt d] at hf
  rw [wired.evaluate_recompute hf fun hdc => hd (readers d hdc)]
  by_cases hcd : c = d
  · subst hcd
    exact valueAt_recompute_self hf
  · rw [valueAt_recompute_of_ne s hcd]
    exact h d f hf (List.not_mem_cons_of_ne_of_not_mem (Ne.symm hcd) hd)

/-- Evaluating the stale formulas leaves none of them stale, if each comes before the cells
    that read it. -/
theorem FreshBut.recomputeAll {cells : List Cell} {s : Sheet} (h : s.FreshBut cells)
    (wired : Wired s) (order : s.graph.ReadersFollow (fun _ => False) cells) :
    (s.recomputeAll cells).1.Fresh := by
  induction cells generalizing s with
  | nil => exact h
  | cons c cells ih =>
    have same := sameFormulas_recompute s c
    rw [recomputeAll_cons]
    refine ih ?_ (wired.sameFormulas same) (by rw [same.graph]; exact order.2)
    exact h.recompute wired fun d hd => (order.1 d hd).resolve_left id

/-! ## Evaluating fresh formulas -/

theorem Fresh.valueAt_recompute {s : Sheet} (h : s.Fresh) (c d : Cell) :
    (s.recompute c).1.valueAt d = s.valueAt d := by
  by_cases hcd : c = d
  · subst hcd
    cases hf : s.formulaAt c with
    | none => rw [recompute_of_none hf]
    | some f => rw [valueAt_recompute_self hf, h c f hf List.not_mem_nil]
  · exact valueAt_recompute_of_ne s hcd

theorem Fresh.congr {s s' : Sheet} (h : s.Fresh) (same : SameFormulas s s')
    (values : s'.valueAt = s.valueAt) : s'.Fresh := by
  intro c f hf _
  rw [same.formulaAt c] at hf
  unfold evaluate
  rw [values]
  exact h c f hf List.not_mem_nil

/-- Evaluating fresh formulas again changes no value, in whatever order it is done. -/
theorem Fresh.valueAt_recomputeAll {s : Sheet} (h : s.Fresh) (cells : List Cell) :
    (s.recomputeAll cells).1.valueAt = s.valueAt := by
  induction cells generalizing s with
  | nil => rfl
  | cons c cells ih =>
    have values : (s.recompute c).1.valueAt = s.valueAt := funext (h.valueAt_recompute c)
    rw [recomputeAll_cons, ih (h.congr (sameFormulas_recompute s c) values), values]

theorem Fresh.recalculateAll {s : Sheet} (h : s.Fresh) : s.recalculateAll.1.Fresh :=
  h.congr (sameFormulas_recomputeAll s _) (h.valueAt_recomputeAll _)

/-! ## Edits -/

/-- When the contents of one cell change, the formulas that can become stale are listed by
    the recalculation order. The new formula was evaluated before it was set; that makes no
    difference, since it does not read its own cell. -/
theorem FreshBut.of_edit {s s' : Sheet} {c : Cell} (h : s.Fresh) (wired : Wired s')
    (values : ∀ d, c ≠ d → s'.valueAt d = s.valueAt d)
    (formulas : ∀ d, c ≠ d → s'.formulaAt d = s.formulaAt d)
    (self : ∀ f, s'.formulaAt c = some f → s'.valueAt c = s.evaluate f.expr) :
    s'.FreshBut (s'.graph.recalculationOrder c) := by
  intro d f hf hd
  have notReads : ¬ s'.graph.Reads d c := by
    intro hdc
    by_cases he : d = c
    · exact wired.acyclic.not_reads_self c (he ▸ hdc)
    · exact hd ((Graph.mem_recalculationOrder wired.mirrored).2 ⟨he, .single hdc⟩)
  have evaluate : s'.evaluate f.expr = s.evaluate f.expr := by
    refine wired.value_eq hf fun x hx => values x ?_
    rintro rfl
    exact notReads hx
  rw [evaluate]
  by_cases hcd : c = d
  · subst hcd
    exact self f hf
  · rw [values d hcd]
    rw [formulas d hcd] at hf
    exact h d f hf List.not_mem_nil

theorem fresh_recalculateReaders {s : Sheet} {c : Cell} (wired : Wired s)
    (on : s.options.recalculateOnEdit = true)
    (h : s.FreshBut (s.graph.recalculationOrder c)) : (s.recalculateReaders c).1.Fresh := by
  unfold recalculateReaders
  rw [if_pos on]
  exact h.recomputeAll wired (wired.acyclic.readersFollow wired.mirrored c)

theorem Fresh.step {s s' : Sheet} (step : Step s s')
    (on : s.options.recalculateOnEdit = true) (wired : Wired s) (h : s.Fresh) :
    s'.Fresh := by
  cases step with
  | literal c v =>
    have wired' := wired.withLiteral c v
    refine fresh_recalculateReaders wired' on (.of_edit h wired' ?_ ?_ ?_)
    · exact fun d hd => valueAt_withLiteral s v hd
    · exact fun d hd => by rw [formulaAt_withLiteral, if_neg hd]
    · intro f hf
      rw [formulaAt_withLiteral, if_pos rfl] at hf
      cases hf
  | @formula c text expr reads parsed precedents noPath =>
    have wired' := wired.withFormula parsed precedents noPath
    refine fresh_recalculateReaders wired' on (.of_edit h wired' ?_ ?_ ?_)
    · exact fun d hd => by rw [valueAt_withFormula, if_neg hd]
    · exact fun d hd => by rw [formulaAt_withFormula, if_neg hd]
    · intro f hf
      rw [formulaAt_withFormula, if_pos rfl] at hf
      obtain rfl := Option.some.inj hf
      rw [valueAt_withFormula, if_pos rfl]
  | recalculate => exact h.recalculateAll

theorem fresh_empty (options : Options) : (empty options).Fresh := by
  intro c f hf _
  rw [formulaAt_empty] at hf
  cases hf

theorem fresh_run {options : Options} (on : options.recalculateOnEdit = true)
    (edits : List Edit) : ((empty options).run edits).Fresh := by
  refine (run_keeps (I := fun s => s.options = options ∧ Wired s ∧ s.Fresh)
    ⟨rfl, wired_empty options, fresh_empty options⟩ ?_ edits).2.2
  rintro s s' step ⟨hoptions, wired, fresh⟩
  refine ⟨(options_step step).trans hoptions, wired.step step, fresh.step step ?_ wired⟩
  rw [hoptions]
  exact on

/-- In every sheet that edits can lead to, whether they are refused or not, every cell with a
    formula holds the value that evaluating the formula on that sheet gives, if edits
    recalculate. -/
theorem run_never_stale {options : Options} (on : options.recalculateOnEdit = true)
    (edits : List Edit) {c : Cell} {f : Formula}
    (hf : ((empty options).run edits).formulaAt c = some f) :
    ((empty options).run edits).valueAt c = ((empty options).run edits).evaluate f.expr :=
  fresh_run on edits c f hf List.not_mem_nil

/-- C1 reads A1 both directly and through B1; then A1 is to read C1, which is refused, and at
    last A1 changes. -/
def revised : List Edit :=
  [.set (.at ⟨0, 0⟩) "x", .set (.at ⟨0, 1⟩) "=A1", .set (.at ⟨0, 2⟩) "=A1&B1",
    .set (.at ⟨0, 0⟩) "=C1", .set (.at ⟨0, 0⟩) "y"]

theorem run_never_stale_revised :
    ((empty {}).run revised).valueAt ⟨0, 2⟩ = .text "yy" ∧
      ∃ f, ((empty {}).run revised).formulaAt ⟨0, 2⟩ = some f ∧
        ((empty {}).run revised).valueAt ⟨0, 2⟩ =
          ((empty {}).run revised).evaluate f.expr := by
  have isSome : (((empty {}).run revised).formulaAt ⟨0, 2⟩).isSome = true := by
    decide +kernel
  obtain ⟨f, hf⟩ := Option.isSome_iff_exists.1 isSome
  exact ⟨by decide +kernel, f, hf, run_never_stale rfl revised hf⟩

end Worksheet.Sheet
