/-
  The order of all cells with edges. In a graph without cycles it puts every cell before the cells
  that read it (`Acyclic.readersFollow_fullOrder`), so the place of a cell in this order is a rank
  that falls from a cell to what it reads, and there is induction along the edges
  (`Acyclic.wellFounded`).

  The roots of this traversal are all cells with edges, the largest first. So a root may depend on
  roots that are entered later, and is then left before them; that the order is right all the same
  is what the invariant of a traversal says, which holds for any roots (`fullOrder_sorts_members`).
-/
import Worksheet.Proofs.Dependency.CallHistory
import Worksheet.Proofs.Dependency.Canonical
import Worksheet.Proofs.Dependency.Halting
import Worksheet.Proofs.Dependency.RecalculationOrder

namespace Worksheet.Graph

variable {g : Graph}

theorem mem_members {c : Cell} : c ∈ g.members ↔ c ∈ g.dependents ∨ c ∈ g.precedents := by
  simp [members]

/-- A cell without an entry reads nothing. -/
theorem Reads.mem_precedents {a b : Cell} (h : g.Reads a b) : a ∈ g.precedents := by
  by_contra hn
  unfold Reads readsOf at h
  rw [Std.ExtTreeMap.getElem?_eq_none hn] at h
  exact Std.ExtTreeSet.not_mem_empty h

/-- A cell without an entry is read by nothing. -/
theorem Reads.mem_dependents (hg : g.Mirrored) {a b : Cell} (h : g.Reads a b) :
    b ∈ g.dependents := by
  by_contra hn
  rw [← hg a b] at h
  unfold readersOf at h
  rw [Std.ExtTreeMap.getElem?_eq_none hn] at h
  exact Std.ExtTreeSet.not_mem_empty h

theorem lists_fullOrder (hg : g.Mirrored) :
    Traversal.Lists g (fun _ => False) (fun c => c ∈ g.members) g.fullOrder := by
  have skip : (fun c => c ∈ (∅ : CellSet)) = fun _ => False :=
    funext fun c => propext ⟨Std.ExtTreeSet.not_mem_empty, False.elim⟩
  rw [← skip]
  exact Traversal.lists_run hg ∅ g.members fun s hs => absurd hs Std.ExtTreeSet.not_mem_empty

theorem mem_fullOrder_of_mem_members (hg : g.Mirrored) {c : Cell} (h : c ∈ g.members) :
    c ∈ g.fullOrder :=
  ((lists_fullOrder hg).mem c).2 ⟨id, c, h, .refl⟩

/-- The order lists the cells that read others. -/
theorem Reads.reader_mem_fullOrder (hg : g.Mirrored) {a b : Cell} (h : g.Reads a b) :
    a ∈ g.fullOrder :=
  mem_fullOrder_of_mem_members hg (mem_members.2 (.inr h.mem_precedents))

/-- The order lists the cells that are read by others. -/
theorem Reads.read_mem_fullOrder (hg : g.Mirrored) {a b : Cell} (h : g.Reads a b) :
    b ∈ g.fullOrder :=
  mem_fullOrder_of_mem_members hg (mem_members.2 (.inl (h.mem_dependents hg)))

/-- Where no entry is empty, the order lists no other cells. -/
theorem Canonical.mem_fullOrder (h : g.Canonical) (hg : g.Mirrored) {c : Cell} :
    c ∈ g.fullOrder ↔ (∃ d, g.Reads c d) ∨ ∃ d, g.Reads d c := by
  constructor
  · intro hc
    obtain ⟨-, r, hr, path⟩ := ((lists_fullOrder hg).mem c).1 hc
    rcases path.cases_head with rfl | ⟨d, hcd, -⟩
    · rcases mem_members.1 hr with read | reader
      · obtain ⟨d, hd⟩ := h.dependents.exists_mem read
        exact .inr ⟨d, (hg d c).1 hd⟩
      · obtain ⟨d, hd⟩ := h.precedents.exists_mem reader
        exact .inl ⟨d, hd⟩
    · exact .inl ⟨d, hcd⟩
  · rintro (⟨d, hcd⟩ | ⟨d, hdc⟩)
    · exact hcd.reader_mem_fullOrder hg
    · exact hdc.read_mem_fullOrder hg

theorem Acyclic.readersFollow_fullOrder (h : g.Acyclic) (hg : g.Mirrored) :
    g.ReadersFollow (fun _ => False) g.fullOrder :=
  (lists_fullOrder hg).sorted (h.acyclicOn _)

/-- A cell comes after all cells that it depends on. -/
theorem Acyclic.idxOf_fullOrder_lt (h : g.Acyclic) (hg : g.Mirrored) {a b : Cell}
    (hab : g.DependsOn a b) : g.fullOrder.idxOf b < g.fullOrder.idxOf a := by
  have falls {a b : Cell} (hab : g.Reads a b) : g.fullOrder.idxOf b < g.fullOrder.idxOf a :=
    (h.readersFollow_fullOrder hg).idxOf_lt (lists_fullOrder hg).nodup
      (hab.read_mem_fullOrder hg) hab id
  induction hab with
  | single hab => exact falls hab
  | tail _ hbc ih => exact Nat.lt_trans (falls hbc) ih

/-- Along the edges of a graph without cycles one comes to an end. -/
theorem Acyclic.wellFounded (h : g.Acyclic) (hg : g.Mirrored) :
    WellFounded fun b a => g.Reads a b := by
  have falls : ∀ b a, g.Reads a b → g.fullOrder.idxOf b < g.fullOrder.idxOf a :=
    fun b a hab => h.idxOf_fullOrder_lt hg (.single hab)
  exact Subrelation.wf (fun {b a} => falls b a) (measure g.fullOrder.idxOf).wf

/-- Two orders follow each other when what reads the cells of the first one is in the second
    one. -/
theorem ReadersFollow.append {skip : Cell → Prop} {cs ds : List Cell}
    (hcs : ∀ c ∈ cs, ∀ d, g.Reads d c → d ∈ ds) (hds : g.ReadersFollow skip ds) :
    g.ReadersFollow skip (cs ++ ds) := by
  induction cs with
  | nil => exact hds
  | cons c cs ih =>
    refine ⟨fun d hd => ?_, ih fun x hx => hcs x (List.mem_cons_of_mem _ hx)⟩
    exact .inr (List.mem_append_right cs (hcs c List.mem_cons_self d hd))

/-- After any calls, done or refused, the traversal that makes the full order comes to an end after
    at most as many steps as the graph has edges, entries of cells that are read, and members. The
    order lists the cells that read another one or are read by one, each once, and no others; and
    without cycles a cell comes after all cells that it reads, directly or through others. -/
theorem fullOrder_sorts_members (calls : List Rewiring.Call) :
    let g := Rewiring.after calls
    (Traversal.start g ∅ g.members).EndsWith g.fullOrder ∧
      (Traversal.start g ∅ g.members).work = Traversal.pending g.dependents + g.members.size ∧
      g.fullOrder.Nodup ∧
      (∀ c, c ∈ g.fullOrder ↔ (∃ d, g.Reads c d) ∨ ∃ d, g.Reads d c) ∧
      (g.Acyclic → ∀ a b, g.DependsOn a b → g.fullOrder.idxOf b < g.fullOrder.idxOf a) := by
  intro g
  have built : g.Built := Rewiring.built_after calls
  have mirrored := built.mirrored
  refine ⟨Traversal.endsWith_run _, ?_, (lists_fullOrder mirrored).nodup, fun c => ?_, ?_⟩
  · rw [Traversal.work, ← Traversal.length_enterAll]
    rfl
  · exact built.canonical.mem_fullOrder mirrored
  · intro acyclic a b hab
    exact acyclic.idxOf_fullOrder_lt mirrored hab

/-- C1 is entered first, although it reads the other two. -/
example : skipEdge.fullOrder = [⟨0, 0⟩, ⟨0, 1⟩, ⟨0, 2⟩] := by decide +kernel

end Worksheet.Graph
