/-
  The edges of a dependency graph as a relation between cells, and what the operations do to
  them. Replacing the cells that one cell reads changes no other cell's edges, and the two
  directions in which edges are kept always agree (`mirrored_replace`).
-/
import Mathlib.Logic.Relation
import Worksheet.Dependency.Graph

namespace Worksheet

namespace Graph

/-! ## Edges as relations -/

/-- A cell reads another one. -/
def Reads (g : Graph) (a b : Cell) : Prop := b ∈ g.readsOf a

/-- A cell reads another one, directly or through others. -/
def DependsOn (g : Graph) : Cell → Cell → Prop := Relation.TransGen g.Reads

/-- No cell depends on itself. -/
def Acyclic (g : Graph) : Prop := ∀ c, ¬ g.DependsOn c c

/-- The two directions in which the edges are kept agree. -/
def Mirrored (g : Graph) : Prop := ∀ a b, a ∈ g.readersOf b ↔ g.Reads a b

theorem Acyclic.not_reads_self {g : Graph} (h : g.Acyclic) (c : Cell) : ¬ g.Reads c c :=
  fun hc => h c (.single hc)

theorem acyclic_of_rank {g : Graph} (rank : Cell → Nat)
    (h : ∀ a b, g.Reads a b → rank b < rank a) : g.Acyclic := by
  have lt : ∀ {a b}, g.DependsOn a b → rank b < rank a := by
    intro a b hab
    induction hab with
    | single hab => exact h _ _ hab
    | tail _ hbc ih => exact Nat.lt_trans (h _ _ hbc) ih
  exact fun c hc => Nat.lt_irrefl _ (lt hc)

/-! ## Entries of a map of sets -/

/-- The set that a map holds for a cell; a cell without an entry has the empty one. -/
def setAt (m : CellMap CellSet) (c : Cell) : CellSet := (m[c]?).getD ∅

/-- An empty set has no entry, and a cell without an entry has the empty set. -/
theorem getD_pruned (s : CellSet) : (pruned? s).getD ∅ = s := by
  unfold pruned?
  split
  · next h => exact (Std.ExtTreeSet.isEmpty_iff.1 h).symm
  · rfl

theorem setAt_alter (m : CellMap CellSet) (c d : Cell) (f : CellSet → CellSet) :
    setAt (m.alter c fun s => pruned? (f (s.getD ∅))) d =
      if c = d then f (setAt m d) else setAt m d := by
  unfold setAt
  rw [Std.ExtTreeMap.getElem?_alter]
  by_cases h : c = d
  · subst h
    simp [getD_pruned]
  · simp [h]

theorem mem_setAt_link (reader : Cell) (m : CellMap CellSet) (c d x : Cell) :
    x ∈ setAt (link reader m c) d ↔ (c = d ∧ x = reader) ∨ x ∈ setAt m d := by
  unfold link
  rw [setAt_alter m c d fun s => s.insert reader]
  split <;> grind

theorem mem_setAt_unlink (reader : Cell) (m : CellMap CellSet) (c d x : Cell) :
    x ∈ setAt (unlink reader m c) d ↔ x ∈ setAt m d ∧ ¬ (c = d ∧ x = reader) := by
  unfold unlink
  rw [setAt_alter m c d fun s => s.erase reader]
  split <;> grind

theorem mem_setAt_foldl_link (reader : Cell) (cs : List Cell) (m : CellMap CellSet)
    (d x : Cell) :
    x ∈ setAt (cs.foldl (link reader) m) d ↔ (d ∈ cs ∧ x = reader) ∨ x ∈ setAt m d := by
  induction cs generalizing m with
  | nil => simp
  | cons c cs ih =>
    rw [List.foldl_cons, ih, mem_setAt_link, List.mem_cons]
    grind

theorem mem_setAt_foldl_unlink (reader : Cell) (cs : List Cell) (m : CellMap CellSet)
    (d x : Cell) :
    x ∈ setAt (cs.foldl (unlink reader) m) d ↔
      x ∈ setAt m d ∧ ¬ (d ∈ cs ∧ x = reader) := by
  induction cs generalizing m with
  | nil => simp
  | cons c cs ih =>
    rw [List.foldl_cons, ih, mem_setAt_unlink, List.mem_cons]
    grind

/-! ## Replacing edges -/

theorem readsOf_replace (g : Graph) (c : Cell) (reads : CellSet) (x : Cell) :
    (g.replace c reads).readsOf x = if c = x then reads else g.readsOf x :=
  setAt_alter g.precedents c x fun _ => reads

@[simp] theorem readsOf_replace_self (g : Graph) (c : Cell) (reads : CellSet) :
    (g.replace c reads).readsOf c = reads := by
  simp [readsOf_replace]

theorem readsOf_replace_of_ne {g : Graph} {c x : Cell} (h : x ≠ c) (reads : CellSet) :
    (g.replace c reads).readsOf x = g.readsOf x := by
  simp [readsOf_replace, h.symm]

@[simp] theorem reads_replace_self {g : Graph} {c x : Cell} {reads : CellSet} :
    (g.replace c reads).Reads c x ↔ x ∈ reads := by
  simp [Reads]

theorem reads_replace_of_ne {g : Graph} {c a : Cell} (h : a ≠ c) {b : Cell}
    {reads : CellSet} : (g.replace c reads).Reads a b ↔ g.Reads a b := by
  simp [Reads, readsOf_replace_of_ne h]

theorem mem_readersOf_replace (g : Graph) (c : Cell) (reads : CellSet) (x y : Cell) :
    x ∈ (g.replace c reads).readersOf y ↔
      (x = c ∧ y ∈ reads ∧ y ∉ g.readsOf c) ∨
        (x ∈ g.readersOf y ∧ ¬ (x = c ∧ y ∈ g.readsOf c ∧ y ∉ reads)) := by
  have h := mem_setAt_foldl_link c (reads.toList.filter fun r => !(g.readsOf c).contains r)
    (((g.readsOf c).toList.filter fun r => !reads.contains r).foldl (unlink c) g.dependents) y x
  rw [mem_setAt_foldl_unlink] at h
  refine h.trans ?_
  simp only [List.mem_filter, Std.ExtTreeSet.mem_toList, Bool.not_eq_true',
    ← Bool.not_eq_true, Std.ExtTreeSet.contains_iff_mem]
  unfold readersOf setAt
  grind

/-! ## Cycles -/

theorem acyclic_empty : Graph.empty.Acyclic :=
  acyclic_of_rank (fun _ => 0) fun _ _ h => absurd h Std.ExtTreeSet.not_mem_empty

/-- A way along the new edges uses old edges only, or it leads through the cell whose edges
    are replaced. -/
theorem dependsOn_replace {g : Graph} {c x y : Cell} {reads : CellSet}
    (h : (g.replace c reads).DependsOn x y) :
    g.DependsOn x y ∨
      (Relation.ReflTransGen (g.replace c reads).Reads x c ∧
        (g.replace c reads).DependsOn c y) := by
  induction h with
  | @single y hxy =>
    by_cases hx : x = c
    · subst hx
      exact .inr ⟨.refl, .single hxy⟩
    · exact .inl (.single ((reads_replace_of_ne hx).1 hxy))
  | @tail b y hxb hby ih =>
    rcases ih with ih | ⟨hxc, hcb⟩
    · by_cases hb : b = c
      · subst hb
        exact .inr ⟨hxb.to_reflTransGen, .single hby⟩
      · exact .inl (.tail ih ((reads_replace_of_ne hb).1 hby))
    · exact .inr ⟨hxc, .tail hcb hby⟩

/-- A cycle that appears with new edges goes through the cell whose edges are replaced. -/
theorem Acyclic.replace {g : Graph} (h : g.Acyclic) {c : Cell} {reads : CellSet}
    (hc : ¬ (g.replace c reads).DependsOn c c) : (g.replace c reads).Acyclic := by
  intro x hx
  rcases dependsOn_replace hx with hold | ⟨hxc, hcx⟩
  · exact h x hold
  · exact hc (hcx.trans_left hxc)

theorem Acyclic.clear {g : Graph} (h : g.Acyclic) (c : Cell) : (g.clear c).Acyclic := by
  refine h.replace fun hc => ?_
  obtain ⟨d, hd, -⟩ := Relation.TransGen.head'_iff.1 hc
  exact Std.ExtTreeSet.not_mem_empty (reads_replace_self.1 hd)

/-! ## The two directions -/

theorem mirrored_empty : Graph.empty.Mirrored := by
  intro a b
  simp [Graph.empty, Reads, readersOf, readsOf]

/-- Edges that stay are not touched, so the direction to the readers of `c` is right only
    because it was right before. -/
theorem mirrored_replace {g : Graph} (h : g.Mirrored) (c : Cell) (reads : CellSet) :
    (g.replace c reads).Mirrored := by
  intro a b
  rw [mem_readersOf_replace, h a b]
  by_cases ha : a = c
  · subst ha
    rw [reads_replace_self]
    unfold Reads
    grind
  · rw [reads_replace_of_ne ha]
    simp [ha]

theorem update_of_not_mem {c : Cell} {reads : List Cell} (h : c ∉ reads) (g : Graph) :
    g.update c reads = .ok (g.replace c (Std.ExtTreeSet.ofList reads)) := by
  simp [update, h]

theorem update_eq_ok {g g' : Graph} {c : Cell} {reads : List Cell}
    (h : g.update c reads = .ok g') :
    c ∉ reads ∧ g' = g.replace c (Std.ExtTreeSet.ofList reads) := by
  simp only [update] at h
  split at h
  · cases h
  · next hc => exact ⟨by simpa using hc, (Except.ok.inj h).symm⟩

/-- The graphs that can come about: from the graph without edges, by updates that are not
    refused, by clearing cells, and by starting over. -/
inductive Built : Graph → Prop where
  | empty : Built .empty
  | update {g g' : Graph} {c : Cell} {reads : List Cell} (built : Built g)
      (accepted : g.update c reads = .ok g') : Built g'
  | clear {g : Graph} (c : Cell) (built : Built g) : Built (g.clear c)
  | reset {g : Graph} (built : Built g) : Built .empty

theorem Built.mirrored {g : Graph} (h : g.Built) : g.Mirrored := by
  induction h with
  | empty => exact mirrored_empty
  | @update g g' c reads _ accepted ih =>
    obtain ⟨-, rfl⟩ := update_eq_ok accepted
    exact mirrored_replace ih c _
  | clear c _ ih => exact mirrored_replace ih c ∅
  | reset => exact mirrored_empty

end Graph

end Worksheet
