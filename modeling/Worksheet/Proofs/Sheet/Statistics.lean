/-
  What edits and full passes report. When cells are evaluated one after the other and none of them
  comes before a cell it reads, a formula keeps the value it gets. What was counted on the way is
  then what can be counted afterwards (`Wired.stats_recomputeAll`).

  A full pass comes to every formula once, with an exception. A formula that reads nothing is
  evaluated at the start, since the graph does not know it as a reader. If another formula reads
  it, the graph knows it all the same, and its order lists it a second time; so it is evaluated
  twice, and counted twice (`full_pass_counts`).
-/
import Worksheet.Proofs.Sheet.History

namespace Worksheet

/-! ## Adding up -/

namespace Stats

theorem zero_add (a : Stats) : .zero + a = a := by
  show (⟨0 + a.calculated, 0 + a.errors⟩ : Stats) = a
  rw [Nat.zero_add, Nat.zero_add]

theorem add_assoc (a b c : Stats) : a + b + c = a + (b + c) := by
  show (⟨a.calculated + b.calculated + c.calculated, a.errors + b.errors + c.errors⟩ : Stats) =
    ⟨a.calculated + (b.calculated + c.calculated), a.errors + (b.errors + c.errors)⟩
  rw [Nat.add_assoc, Nat.add_assoc]

end Stats

namespace Sheet

variable {s : Sheet}

/-- How many cells a list has, and how many of them hold an error. -/
def tally (s : Sheet) (cells : List Cell) : Stats :=
  ⟨cells.length, cells.countP fun c => (s.valueAt c).isError⟩

theorem tally_cons (s : Sheet) (c : Cell) (cells : List Cell) :
    s.tally (c :: cells) = .one (s.valueAt c) + s.tally cells := by
  show (⟨_, _⟩ : Stats) = ⟨1 + cells.length, _⟩
  rw [List.length_cons, List.countP_cons, Nat.add_comm 1, Nat.add_comm (List.countP _ cells)]
  rfl

theorem tally_append (s : Sheet) (cells more : List Cell) :
    s.tally (cells ++ more) = s.tally cells + s.tally more := by
  unfold tally
  rw [List.length_append, List.countP_append]
  rfl

theorem tally_perm (s : Sheet) {cells more : List Cell} (h : cells.Perm more) :
    s.tally cells = s.tally more := by
  unfold tally
  rw [h.length_eq, h.countP_eq]

/-! ## Evaluating one after the other -/

theorem foldl_recompute_snd (cells : List Cell) (s : Sheet) (stats : Stats) :
    (cells.foldl (fun (s, stats) c =>
      let (s, more) := recompute s c
      (s, stats + more)) (s, stats)).2 = stats + (s.recomputeAll cells).2 := by
  unfold recomputeAll
  induction cells generalizing s stats with
  | nil => rfl
  | cons c cells ih =>
    rw [List.foldl_cons, List.foldl_cons, ih, ih _ (.zero + _), Stats.zero_add, Stats.add_assoc]

theorem stats_recomputeAll_cons (s : Sheet) (c : Cell) (cells : List Cell) :
    (s.recomputeAll (c :: cells)).2 =
      (s.recompute c).2 + ((s.recompute c).1.recomputeAll cells).2 := by
  have first := foldl_recompute_snd cells (s.recompute c).1 (.zero + (s.recompute c).2)
  exact first.trans (by rw [Stats.zero_add])

theorem stats_recompute_of_some {c : Cell} {f : Formula} (h : s.formulaAt c = some f) :
    (s.recompute c).2 = .one (s.evaluate f.expr) := by
  unfold recompute
  rw [h]

theorem stats_recompute_of_none {c : Cell} (h : s.formulaAt c = none) :
    (s.recompute c).2 = .zero := by
  unfold recompute
  rw [h]

/-- A fresh formula keeps its value while cells are evaluated that it does not read. It may be
    evaluated again itself. -/
theorem Wired.valueAt_recomputeAll (wired : Wired s) {c : Cell} {f : Formula}
    (hf : s.formulaAt c = some f) (fresh : s.valueAt c = s.evaluate f.expr) {cells : List Cell}
    (unread : ∀ d ∈ cells, ¬ s.graph.Reads c d) :
    (s.recomputeAll cells).1.valueAt c = s.valueAt c := by
  induction cells generalizing s with
  | nil => rfl
  | cons d cells ih =>
    have same := sameFormulas_recompute s d
    have evaluate : (s.recompute d).1.evaluate f.expr = s.evaluate f.expr :=
      wired.evaluate_recompute hf (unread d List.mem_cons_self)
    have value : (s.recompute d).1.valueAt c = s.valueAt c := by
      by_cases hdc : d = c
      · subst hdc
        exact (valueAt_recompute_self hf).trans fresh.symm
      · exact valueAt_recompute_of_ne s hdc
    rw [recomputeAll_cons, ih (wired.sameFormulas same) ((same.formulaAt c).trans hf), value]
    · rw [value, evaluate, fresh]
    · rw [same.graph]
      exact fun x hx => unread x (List.mem_cons_of_mem d hx)

/-- The cell holds a formula. -/
def holdsFormula (s : Sheet) (c : Cell) : Bool := (s.formulaAt c).isSome

theorem SameFormulas.holdsFormula {s' : Sheet} (same : SameFormulas s s') :
    s'.holdsFormula = s.holdsFormula :=
  funext fun c => congrArg Option.isSome (same.formulaAt c)

/-- When no cell is evaluated before one that it reads, the formulas among the cells are counted,
    each as often as it is listed, and an error is counted where one is held in the end. -/
theorem Wired.stats_recomputeAll (wired : Wired s) {cells : List Cell}
    (sorted : cells.Pairwise fun a b => ¬ s.graph.Reads a b) :
    (s.recomputeAll cells).2 = (s.recomputeAll cells).1.tally (cells.filter s.holdsFormula) := by
  induction cells generalizing s with
  | nil => rfl
  | cons c cells ih =>
    obtain ⟨later, sorted⟩ := List.pairwise_cons.1 sorted
    have same := sameFormulas_recompute s c
    have wired' := wired.sameFormulas same
    have rest := ih wired' (by rw [same.graph]; exact sorted)
    rw [same.holdsFormula] at rest
    rw [stats_recomputeAll_cons, recomputeAll_cons, rest]
    cases hf : s.formulaAt c with
    | none =>
      rw [List.filter_cons_of_neg (by simp [holdsFormula, hf]), stats_recompute_of_none hf,
        Stats.zero_add]
    | some f =>
      -- The cell does not read itself, so its value is fresh right after it is evaluated.
      have value := valueAt_recompute_self hf
      have fresh : (s.recompute c).1.valueAt c = (s.recompute c).1.evaluate f.expr := by
        rw [value, wired.evaluate_recompute hf (wired.acyclic.not_reads_self c)]
      have unread : ∀ d ∈ cells, ¬ (s.recompute c).1.graph.Reads c d := by
        rw [same.graph]
        exact later
      have kept := wired'.valueAt_recomputeAll ((same.formulaAt c).trans hf) fresh unread
      rw [List.filter_cons_of_pos (by simp [holdsFormula, hf]), stats_recompute_of_some hf,
        tally_cons, kept, value]

/-! ## Full passes -/

/-- The cells that hold formulas. -/
def formulaCells (s : Sheet) : List Cell := s.entries.keys.filter s.holdsFormula

/-- The cells whose formulas read no cells but are read by others. -/
def readConstants (s : Sheet) : List Cell :=
  s.constants.filter fun c => !(s.graph.readersOf c).isEmpty

theorem mem_formulaCells {c : Cell} : c ∈ s.formulaCells ↔ s.holdsFormula c := by
  unfold formulaCells
  rw [List.mem_filter, Std.ExtTreeMap.mem_keys]
  refine and_iff_right_of_imp fun holds => ?_
  obtain ⟨f, hf⟩ := Option.isSome_iff_exists.1 holds
  obtain ⟨e, he, -⟩ := Option.bind_eq_some_iff.1 hf
  exact Std.ExtTreeMap.mem_iff_isSome_getElem?.2 (by rw [he]; rfl)

theorem nodup_formulaCells (s : Sheet) : s.formulaCells.Nodup :=
  Std.ExtTreeMap.nodup_keys.filter _

theorem nodup_constants (s : Sheet) : s.constants.Nodup := by
  have keys : (s.entries.toList.map Prod.fst).Nodup := by
    rw [Std.ExtTreeMap.map_fst_toList_eq_keys]
    exact Std.ExtTreeMap.nodup_keys
  exact keys.sublist (List.filter_sublist.map _)

theorem mem_constants_iff {c : Cell} :
    c ∈ s.constants ↔ s.holdsFormula c ∧ ¬ ∃ d, s.graph.Reads c d := by
  rw [mem_constants, ← Option.isSome_iff_exists, Std.ExtTreeSet.eq_empty_iff_forall_not_mem,
    not_exists]
  rfl

theorem mem_readConstants (mirrored : s.graph.Mirrored) {c : Cell} :
    c ∈ s.readConstants ↔ c ∈ s.constants ∧ ∃ d, s.graph.Reads d c := by
  unfold readConstants
  rw [List.mem_filter, Bool.not_eq_true', ← Bool.not_eq_true, Std.ExtTreeSet.isEmpty_iff,
    Std.ExtTreeSet.eq_empty_iff_forall_not_mem, not_forall_not]
  simp only [mirrored _ c]

theorem nodup_readConstants (s : Sheet) : s.readConstants.Nodup := s.nodup_constants.filter _

/-- The formulas that a full pass comes to are all formulas, and those once more that read nothing
    but are read. -/
theorem Wired.pass_perm (wired : Wired s) (canonical : s.graph.Canonical) :
    ((s.constants ++ s.graph.fullOrder).filter s.holdsFormula).Perm
      (s.formulaCells ++ s.readConstants) := by
  have nodup := (Graph.lists_fullOrder wired.mirrored).nodup
  refine List.perm_iff_count.2 fun c => ?_
  have listed : c ∈ s.graph.fullOrder ↔ _ := canonical.mem_fullOrder wired.mirrored
  have again : c ∈ s.readConstants ↔ _ := mem_readConstants wired.mirrored
  rw [mem_constants_iff] at again
  by_cases holds : s.holdsFormula c
  · rw [List.count_filter holds, List.count_append, List.count_append, s.nodup_constants.count,
      nodup.count, s.nodup_formulaCells.count, s.nodup_readConstants.count]
    rw [if_pos (mem_formulaCells.2 holds)]
    by_cases reads : ∃ d, s.graph.Reads c d
    · rw [if_neg fun h => (mem_constants_iff.1 h).2 reads, if_pos (listed.2 (.inl reads)),
        if_neg fun h => (again.1 h).1.2 reads]
    · have same : c ∈ s.graph.fullOrder ↔ c ∈ s.readConstants := by
        rw [listed, again, or_iff_right reads, and_iff_right ⟨holds, reads⟩]
      rw [if_pos (mem_constants_iff.2 ⟨holds, reads⟩), if_congr same rfl rfl]
  · have unlisted : c ∉ s.formulaCells ++ s.readConstants := by
      simp [again, mem_formulaCells, holds]
    rw [List.count_eq_zero_of_not_mem unlisted, List.count_eq_zero_of_not_mem]
    simp [holds]

/-- A full pass comes to no cell before one that it reads. -/
theorem Wired.pairwise_pass (wired : Wired s) :
    (s.constants ++ s.graph.fullOrder).Pairwise fun a b => ¬ s.graph.Reads a b := by
  have readsNothing : ∀ a ∈ s.constants, ∀ b, ¬ s.graph.Reads a b := fun a ha b hab =>
    (mem_constants_iff.1 ha).2 ⟨b, hab⟩
  refine List.pairwise_append.2 ⟨?_, ?_, fun a ha b _ => readsNothing a ha b⟩
  · exact List.pairwise_of_forall_mem_list fun a ha b _ => readsNothing a ha b
  · exact (wired.acyclic.readersFollow_fullOrder wired.mirrored).pairwise
      (Graph.lists_fullOrder wired.mirrored).nodup

/-- A full pass counts all formulas, and those once more that read nothing but are read. -/
theorem Wired.stats_recalculateAll (wired : Wired s) (canonical : s.graph.Canonical) :
    s.recalculateAll.2 =
      s.recalculateAll.1.tally s.formulaCells + s.recalculateAll.1.tally s.readConstants := by
  have counted := wired.stats_recomputeAll wired.pairwise_pass
  rw [tally_perm _ (wired.pass_perm canonical), tally_append] at counted
  exact counted

/-- When all formulas of a sheet that edits led to are evaluated, a formula that reads nothing but
    is read by another one is evaluated twice, and every other formula once. All these evaluations
    are counted, and with each of them that the cell holds an error if it does so in the end. So
    the numbers are those of the formulas, and of the formulas with errors, exactly if no formula
    reads another one that reads nothing. -/
theorem full_pass_counts (options : Options) (edits : List Edit) :
    let s := (empty options).run edits
    let s' := s.recalculateAll.1
    (∀ c ∈ s.formulaCells, (s.constants ++ s.graph.fullOrder).count c =
        if c ∈ s.readConstants then 2 else 1) ∧
      s.recalculateAll.2 = s'.tally s.formulaCells + s'.tally s.readConstants ∧
      (s.recalculateAll.2 = s'.tally s.formulaCells ↔ s.readConstants = []) := by
  intro s s'
  have wired : Wired s := wired_run options edits
  have canonical : s.graph.Canonical := (built_run options edits).canonical
  have counted : s.recalculateAll.2 = s'.tally s.formulaCells + s'.tally s.readConstants :=
    wired.stats_recalculateAll canonical
  refine ⟨fun c hc => ?_, counted, fun same => ?_, fun none => ?_⟩
  · have times := List.perm_iff_count.1 (wired.pass_perm canonical) c
    rw [List.count_filter (mem_formulaCells.1 hc)] at times
    rw [times, List.count_append, s.nodup_formulaCells.count, s.nodup_readConstants.count,
      if_pos hc]
    split <;> rfl
  · rw [counted] at same
    have lengths := congrArg Stats.calculated same
    exact List.eq_nil_of_length_eq_zero (Nat.add_eq_left.1 lengths)
  · rw [counted, none]
    rfl

/-- B1 reads A1, whose formula reads nothing. -/
def chained : List Edit := [.set (.at ⟨0, 0⟩) "=NA()", .set (.at ⟨0, 1⟩) "=A1"]

/-- There are two formulas, and both hold an error; a full pass counts three. -/
theorem chained_constant_counted_twice :
    ((empty {}).run chained).formulaCells = [⟨0, 0⟩, ⟨0, 1⟩] ∧
      ((empty {}).run chained).recalculateAll.1.tally ((empty {}).run chained).formulaCells =
        ⟨2, 2⟩ ∧
      ((empty {}).run chained).recalculateAll.2 = ⟨3, 3⟩ := by
  decide +kernel

end Sheet

end Worksheet
