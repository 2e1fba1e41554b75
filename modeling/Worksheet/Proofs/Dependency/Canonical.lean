/-
  Graphs in normal form. Whatever edges come and go, no cell is left with an empty set for an entry
  (`Built.canonical`). So two graphs in which every cell reads the same cells are equal
  (`Canonical.eq_of_readsOf`): a graph does not show in what order it was built.
-/
import Worksheet.Proofs.Dependency.Edges

namespace Worksheet.Graph

/-! ## Maps without empty sets -/

/-- No entry of the map is the empty set. -/
def Pruned (m : CellMap CellSet) : Prop := ∀ c : Cell, m[c]? ≠ some (∅ : CellSet)

theorem pruned_empty : Pruned ∅ := by
  intro c
  simp

theorem pruned?_ne_some_empty (s : CellSet) : pruned? s ≠ some ∅ := by
  unfold pruned?
  split
  · nofun
  · next h =>
    rintro ⟨⟩
    exact h Std.ExtTreeSet.isEmpty_empty

theorem Pruned.alter {m : CellMap CellSet} (h : Pruned m) (c : Cell)
    (f : Option CellSet → CellSet) : Pruned (m.alter c fun s => pruned? (f s)) := by
  intro d
  rw [Std.ExtTreeMap.getElem?_alter]
  split
  · exact pruned?_ne_some_empty _
  · exact h d

theorem Pruned.foldl {m : CellMap CellSet} (h : Pruned m)
    {step : CellMap CellSet → Cell → CellMap CellSet}
    (keeps : ∀ m c, Pruned m → Pruned (step m c)) (cs : List Cell) : Pruned (cs.foldl step m) := by
  induction cs generalizing m with
  | nil => exact h
  | cons c cs ih => exact ih (keeps m c h)

/-- Without empty sets, the entry of a cell shows in the set that the map holds for it. -/
theorem Pruned.getElem?_eq {m : CellMap CellSet} (h : Pruned m) (c : Cell) :
    m[c]? = pruned? (setAt m c) := by
  unfold setAt
  cases hm : m[c]? with
  | none => rfl
  | some s =>
    have nonempty : s ≠ ∅ := by
      rintro rfl
      exact h c hm
    unfold pruned?
    rw [Option.getD_some, if_neg fun empty => nonempty (Std.ExtTreeSet.isEmpty_iff.1 empty)]

theorem Pruned.ext {m m' : CellMap CellSet} (h : Pruned m) (h' : Pruned m')
    (sets : ∀ c, setAt m c = setAt m' c) : m = m' := by
  refine Std.ExtTreeMap.ext_getElem? fun c => ?_
  rw [h.getElem?_eq, h'.getElem?_eq, sets c]

theorem Pruned.exists_mem {m : CellMap CellSet} (h : Pruned m) {c : Cell} (hc : c ∈ m) :
    ∃ d, d ∈ setAt m c := by
  refine Classical.byContradiction fun none => ?_
  have empty : setAt m c = ∅ :=
    Std.ExtTreeSet.eq_empty_iff_forall_not_mem.2 fun d hd => none ⟨d, hd⟩
  have entry := h.getElem?_eq c
  rw [empty, Std.ExtTreeMap.getElem?_eq_some_getElem hc] at entry
  cases entry

/-! ## Graphs -/

/-- Neither direction of the edges has an empty set for an entry. -/
structure Canonical (g : Graph) : Prop where
  precedents : Pruned g.precedents
  dependents : Pruned g.dependents

theorem canonical_empty : Graph.empty.Canonical := ⟨pruned_empty, pruned_empty⟩

theorem Canonical.replace {g : Graph} (h : g.Canonical) (c : Cell) (reads : CellSet) :
    (g.replace c reads).Canonical where
  precedents := h.precedents.alter c fun _ => reads
  dependents := by
    refine (h.dependents.foldl (fun m d hm => ?_) _).foldl (fun m d hm => ?_) _
    · exact hm.alter d fun s => (s.getD ∅).erase c
    · exact hm.alter d fun s => (s.getD ∅).insert c

theorem Built.canonical {g : Graph} (h : g.Built) : g.Canonical := by
  induction h with
  | empty => exact canonical_empty
  | update _ accepted ih =>
    obtain ⟨-, rfl⟩ := update_eq_ok accepted
    exact ih.replace _ _
  | clear c _ ih => exact ih.replace c ∅
  | reset => exact canonical_empty

/-- A graph is determined by the cells that each cell reads. -/
theorem Canonical.eq_of_readsOf {g g' : Graph} (h : g.Canonical) (h' : g'.Canonical)
    (hg : g.Mirrored) (hg' : g'.Mirrored) (reads : ∀ c, g.readsOf c = g'.readsOf c) : g = g' := by
  have readers : ∀ c, g.readersOf c = g'.readersOf c := by
    intro c
    refine Std.ExtTreeSet.ext_mem fun d => ?_
    rw [hg d c, hg' d c]
    unfold Reads
    rw [reads d]
  have precedents : g.precedents = g'.precedents := h.precedents.ext h'.precedents reads
  have dependents : g.dependents = g'.dependents := h.dependents.ext h'.dependents readers
  cases g
  cases g'
  rw [mk.injEq]
  exact ⟨precedents, dependents⟩

end Worksheet.Graph
