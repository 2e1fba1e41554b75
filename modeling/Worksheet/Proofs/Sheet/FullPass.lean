/-
  Evaluating all formulas. The formulas that read nothing come first and the others in the order
  of all cells with edges, so each formula is evaluated after the cells it reads, and none is stale
  when the pass has ended, however stale they were before (`Wired.fresh_recalculateAll`). The pass
  changes nothing but values of formulas, so a second one changes nothing (`full_pass_settles`).
-/
import Worksheet.Proofs.Dependency.FullOrder
import Worksheet.Proofs.Sheet.Contents
import Worksheet.Proofs.Sheet.Freshness

namespace Worksheet.Sheet

variable {s : Sheet}

theorem mem_constants {c : Cell} :
    c ∈ s.constants ↔ (∃ f, s.formulaAt c = some f) ∧ s.graph.readsOf c = ∅ := by
  unfold constants formulaAt
  rw [← Option.isSome_iff_exists]
  constructor
  · intro h
    obtain ⟨⟨d, e⟩, mem, rfl⟩ := List.mem_map.1 h
    obtain ⟨mem, test⟩ := List.mem_filter.1 mem
    obtain ⟨formula, empty⟩ := Bool.and_eq_true_iff.1 test
    rw [Std.ExtTreeMap.mem_toList_iff_getElem?_eq_some.1 mem]
    exact ⟨formula, Std.ExtTreeSet.isEmpty_iff.1 empty⟩
  · rintro ⟨formula, empty⟩
    cases he : s.entries[c]? with
    | none =>
      rw [he] at formula
      cases formula
    | some e =>
      rw [he] at formula
      refine List.mem_map.2 ⟨(c, e), List.mem_filter.2 ⟨?_, ?_⟩, rfl⟩
      · exact Std.ExtTreeMap.mem_toList_iff_getElem?_eq_some.2 he
      · rw [Bool.and_eq_true_iff]
        exact ⟨formula, Std.ExtTreeSet.isEmpty_iff.2 empty⟩

/-- A full pass comes to every formula. -/
theorem Wired.mem_pass (wired : Wired s) {c : Cell} {f : Formula} (hf : s.formulaAt c = some f) :
    c ∈ s.constants ++ s.graph.fullOrder := by
  by_cases reads : ∃ d, s.graph.Reads c d
  · obtain ⟨d, hd⟩ := reads
    exact List.mem_append_right _ (hd.reader_mem_fullOrder wired.mirrored)
  · have empty : s.graph.readsOf c = ∅ :=
      Std.ExtTreeSet.eq_empty_iff_forall_not_mem.2 fun d hd => reads ⟨d, hd⟩
    exact List.mem_append_left _ (mem_constants.2 ⟨⟨f, hf⟩, empty⟩)

/-- A full pass comes to every formula after the cells it reads. -/
theorem Wired.readersFollow_pass (wired : Wired s) :
    s.graph.ReadersFollow (fun _ => False) (s.constants ++ s.graph.fullOrder) := by
  refine .append (fun c _ d hd => ?_) (wired.acyclic.readersFollow_fullOrder wired.mirrored)
  exact hd.reader_mem_fullOrder wired.mirrored

theorem Wired.fresh_recalculateAll (wired : Wired s) : s.recalculateAll.1.Fresh := by
  have all : s.FreshBut (s.constants ++ s.graph.fullOrder) := fun c f hf hc =>
    absurd (wired.mem_pass hf) hc
  exact all.recomputeAll wired wired.readersFollow_pass

/-- A pass over fresh formulas changes nothing at all. -/
theorem Fresh.recalculateAll_eq (fresh : s.Fresh) : s.recalculateAll.1 = s := by
  refine (sameFormulas_recomputeAll s _).eq (alike_recalculateAll s).contents fun c => ?_
  exact congrFun (fresh.valueAt_recomputeAll _) c

/-- In a sheet that edits led to, whether they recalculate or not, all formulas are evaluated. Then
    each has the value that evaluating it on the resulting sheet gives, whatever value it had
    before. The cells have the same formulas and literals as before, the edges are the same, and
    to evaluate all formulas once more leaves the sheet as it is. -/
theorem full_pass_settles (options : Options) (edits : List Edit) :
    let s := (empty options).run edits
    let s' := s.recalculateAll.1
    (∀ c f, s'.formulaAt c = some f → s'.valueAt c = s'.evaluate f.expr) ∧
      (∀ c, s'.formulaAt c = s.formulaAt c ∧ s'.contentAt c = s.contentAt c) ∧
      s'.graph = s.graph ∧
      s'.recalculateAll.1 = s' := by
  intro s s'
  have fresh : s'.Fresh := (wired_run options edits).fresh_recalculateAll
  have same : SameFormulas s s' := sameFormulas_recomputeAll s _
  have contents := (alike_recalculateAll s).contents
  refine ⟨fun c f hf => fresh c f hf List.not_mem_nil, fun c => ⟨same.formulaAt c, contents c⟩,
    same.graph, fresh.recalculateAll_eq⟩

end Worksheet.Sheet
