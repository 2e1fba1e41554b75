/-
  Orders of evaluation. A traversal lists the cells that depend on its roots, each once, and
  lists a cell after the cells it reads when no cycle stands in the way.

  The invariant (`Inv`) ties the cells that are open, which were entered and not yet left, to
  those that were left: the open cells form a chain in which each reads the next, and every
  reader of an open cell was entered or waits above it. When a cell is left, all its readers
  were entered; one that is still open closes a cycle, so without cycles all were left before.
-/
import Mathlib.Data.List.Chain
import Mathlib.Data.List.Nodup
import Worksheet.Dependency.Order
import Worksheet.Proofs.Dependency.Edges

namespace Worksheet

namespace Graph

/-- The cells with the given property form no cycle among themselves. -/
def AcyclicOn (g : Graph) (inside : Cell → Prop) : Prop :=
  ∀ c, ¬ Relation.TransGen (fun a b => inside a ∧ inside b ∧ g.Reads a b) c c

/-- All readers of a listed cell come later in the list, but for cells that are skipped. -/
def ReadersFollow (g : Graph) (skip : Cell → Prop) : List Cell → Prop
  | [] => True
  | c :: cs => (∀ d, g.Reads d c → skip d ∨ d ∈ cs) ∧ ReadersFollow g skip cs

variable {g : Graph} {skip : Cell → Prop}

theorem Acyclic.acyclicOn (h : g.Acyclic) (inside : Cell → Prop) : g.AcyclicOn inside :=
  fun c hc => h c (Relation.TransGen.mono (fun _ _ hab => hab.2.2) c c hc)

theorem ReadersFollow.imp {skip' : Cell → Prop} {cs : List Cell}
    (h : g.ReadersFollow skip cs) (hs : ∀ c ∈ cs, ∀ d, g.Reads d c → skip d → skip' d) :
    g.ReadersFollow skip' cs := by
  induction cs with
  | nil => trivial
  | cons c cs ih =>
    refine ⟨fun d hd => (h.1 d hd).imp_left (hs c List.mem_cons_self d hd), ih h.2 ?_⟩
    exact fun x hx => hs x (List.mem_cons_of_mem _ hx)

theorem ReadersFollow.mem {cs : List Cell} (h : g.ReadersFollow skip cs) {a b : Cell}
    (hb : b ∈ cs) (hab : g.Reads a b) (ha : ¬ skip a) : a ∈ cs := by
  induction cs with
  | nil => cases hb
  | cons c cs ih =>
    rcases List.mem_cons.1 hb with rfl | hb
    · exact List.mem_cons_of_mem _ ((h.1 a hab).resolve_left ha)
    · exact List.mem_cons_of_mem _ (ih h.2 hb)

/-- No cell comes before one that it reads. -/
theorem ReadersFollow.pairwise {cs : List Cell} (h : g.ReadersFollow (fun _ => False) cs)
    (nodup : cs.Nodup) : cs.Pairwise fun a b => ¬ g.Reads a b := by
  induction cs with
  | nil => exact .nil
  | cons c cs ih =>
    obtain ⟨hc, nodup⟩ := List.nodup_cons.1 nodup
    exact .cons (fun b hb hcb => hc (h.2.mem hb hcb id)) (ih h.2 nodup)

theorem ReadersFollow.idxOf_lt {cs : List Cell} (h : g.ReadersFollow skip cs)
    (nodup : cs.Nodup) {a b : Cell} (hb : b ∈ cs) (hab : g.Reads a b) (ha : ¬ skip a) :
    cs.idxOf b < cs.idxOf a := by
  induction cs with
  | nil => cases hb
  | cons c cs ih =>
    obtain ⟨hc, nodup⟩ := List.nodup_cons.1 nodup
    have later : b ∈ cs → a ∈ cs := fun hb => h.2.mem hb hab ha
    by_cases hbc : b = c
    · have hac : a ∈ cs := (h.1 a (hbc ▸ hab)).resolve_left ha
      have hca : c ≠ a := fun he => hc (he ▸ hac)
      rw [hbc, List.idxOf_cons_self, List.idxOf_cons_ne _ hca]
      exact Nat.succ_pos _
    · have hb : b ∈ cs := (List.mem_cons.1 hb).resolve_left hbc
      have hca : c ≠ a := fun he => hc (he ▸ later hb)
      rw [List.idxOf_cons_ne _ (Ne.symm hbc), List.idxOf_cons_ne _ hca]
      exact Nat.succ_lt_succ (ih h.2 nodup hb)

end Graph

namespace Traversal

/-! ## Open cells -/

/-- The cells that were entered and are still to be left, the innermost first. -/
def opened : List Task → List Cell
  | [] => []
  | .enter _ :: tasks => opened tasks
  | .leave c :: tasks => c :: opened tasks

/-- A cell reads the innermost open cell; outside of all open cells, it is a root. -/
def Hangs (g : Graph) (roots : Cell → Prop) (outer : List Cell) (c : Cell) : Prop :=
  match outer with
  | [] => roots c
  | x :: _ => g.Reads c x

/-- Every step concerns a cell that hangs on the open cells around it. -/
def Nested (g : Graph) (roots : Cell → Prop) : List Task → Prop
  | [] => True
  | .enter c :: tasks => Hangs g roots (opened tasks) c ∧ Nested g roots tasks
  | .leave c :: tasks => Hangs g roots (opened tasks) c ∧ Nested g roots tasks

/-- The readers of an open cell, and the roots, were seen or wait to be entered before it is
    left. -/
def Covered (g : Graph) (roots : Cell → Prop) (seen : Cell → Prop) : List Task → Prop
  | [] => ∀ c, roots c → seen c
  | .enter c :: tasks => Covered g roots (fun d => seen d ∨ d = c) tasks
  | .leave c :: tasks => (∀ d, g.Reads d c → seen d) ∧ Covered g roots seen tasks

variable {g : Graph} {skip roots : Cell → Prop}

theorem opened_enters (cs : List Cell) (tasks : List Task) :
    opened (cs.map .enter ++ tasks) = opened tasks := by
  induction cs with
  | nil => rfl
  | cons c cs ih => exact ih

theorem nested_enters {cs : List Cell} {tasks : List Task}
    (hcs : ∀ c ∈ cs, Hangs g roots (opened tasks) c) (h : Nested g roots tasks) :
    Nested g roots (cs.map .enter ++ tasks) := by
  induction cs with
  | nil => exact h
  | cons c cs ih =>
    refine ⟨?_, ih fun d hd => hcs d (List.mem_cons_of_mem _ hd)⟩
    show Hangs g roots (opened (cs.map .enter ++ tasks)) c
    rw [opened_enters]
    exact hcs c List.mem_cons_self

theorem Covered.mono {seen seen' : Cell → Prop} (hs : ∀ c, seen c → seen' c)
    {tasks : List Task} (h : Covered g roots seen tasks) : Covered g roots seen' tasks := by
  induction tasks generalizing seen seen' with
  | nil => exact fun c hc => hs c (h c hc)
  | cons task tasks ih =>
    cases task with
    | enter c => exact ih (fun d hd => hd.imp_left (hs d)) h
    | leave c => exact ⟨fun d hd => hs d (h.1 d hd), ih hs h.2⟩

theorem covered_enters {cs : List Cell} {seen : Cell → Prop} {tasks : List Task}
    (h : Covered g roots (fun d => seen d ∨ d ∈ cs) tasks) :
    Covered g roots seen (cs.map .enter ++ tasks) := by
  induction cs generalizing seen with
  | nil => exact h.mono fun d hd => hd.resolve_right List.not_mem_nil
  | cons c cs ih =>
    refine ih (h.mono fun d hd => ?_)
    rw [List.mem_cons] at hd
    exact or_assoc.2 hd

/-- What hangs on open cells leads to a root through them. -/
theorem Nested.exists_root {tasks : List Task} (h : Nested g roots tasks) {c : Cell}
    (hc : Hangs g roots (opened tasks) c) :
    ∃ r, roots r ∧ Relation.ReflTransGen g.Reads c r := by
  induction tasks generalizing c with
  | nil => exact ⟨c, hc, .refl⟩
  | cons task tasks ih =>
    cases task with
    | enter d => exact ih h.2 hc
    | leave d =>
      obtain ⟨r, hr, hdr⟩ := ih h.2 h.1
      exact ⟨r, hr, .head hc hdr⟩

theorem Nested.exists_root_of_opened {tasks : List Task} (h : Nested g roots tasks)
    {c : Cell} (hc : c ∈ opened tasks) :
    ∃ r, roots r ∧ Relation.ReflTransGen g.Reads c r := by
  induction tasks with
  | nil => cases hc
  | cons task tasks ih =>
    cases task with
    | enter d => exact ih h.2 hc
    | leave d =>
      rcases List.mem_cons.1 hc with rfl | hc
      · exact h.2.exists_root h.1
      · exact ih h.2 hc

/-- Each open cell reads the next one around it. -/
theorem Nested.isChain {inside : Cell → Prop} {tasks : List Task} (h : Nested g roots tasks)
    (hin : ∀ c ∈ opened tasks, inside c) :
    (opened tasks).IsChain fun a b => inside a ∧ inside b ∧ g.Reads a b := by
  induction tasks with
  | nil => exact .nil
  | cons task tasks ih =>
    cases task with
    | enter c => exact ih h.2 hin
    | leave c =>
      have hc := hin c List.mem_cons_self
      have tail := ih h.2 fun d hd => hin d (List.mem_cons_of_mem _ hd)
      refine List.isChain_cons.2 ⟨fun d hd => ?_, tail⟩
      have hdm : d ∈ opened tasks := List.mem_of_mem_head? hd
      have hcd : Hangs g roots (opened tasks) c := h.1
      cases hout : opened tasks with
      | nil => rw [hout] at hdm; cases hdm
      | cons x rest =>
        rw [hout] at hd hcd
        obtain rfl := Option.some.inj hd
        exact ⟨hc, hin x (List.mem_cons_of_mem _ hdm), hcd⟩

/-- Without cycles the innermost open cell is read by no open cell: each of them can be
    reached from it. -/
theorem Nested.not_reads_innermost {inside : Cell → Prop} {tasks : List Task} {c d : Cell}
    (h : Nested g roots (.leave c :: tasks)) (hin : ∀ x ∈ c :: opened tasks, inside x)
    (hacyclic : g.AcyclicOn inside) (hd : d ∈ c :: opened tasks) : ¬ g.Reads d c := by
  intro hdc
  have step := And.intro (hin d hd) (And.intro (hin c List.mem_cons_self) hdc)
  rcases List.mem_cons.1 hd with rfl | hd
  · exact hacyclic d (.single step)
  · have chain : (c :: opened tasks).IsChain
        (Relation.TransGen fun a b => inside a ∧ inside b ∧ g.Reads a b) :=
      (h.isChain hin).imp fun _ _ => .single
    exact hacyclic c (.tail (List.rel_of_pairwise_cons chain.pairwise hd) step)

/-! ## The invariant -/

/-- The cells that a traversal is to list: those that a root leads to against the edges,
    but for the cells that are skipped. -/
def Downstream (g : Graph) (skip roots : Cell → Prop) (c : Cell) : Prop :=
  ¬ skip c ∧ ∃ r, roots r ∧ Relation.ReflTransGen g.Reads c r

/-- What every step of a traversal keeps. -/
structure Inv (g : Graph) (skip roots : Cell → Prop) (t : Traversal) : Prop where
  fresh : ∀ c, c ∉ t.entered → t.fresh[c]? = g.dependents[c]?
  entered : ∀ c, c ∈ t.entered ↔ skip c ∨ c ∈ opened t.tasks ∨ c ∈ t.left
  nodup : (opened t.tasks ++ t.left).Nodup
  apart : ∀ c ∈ opened t.tasks ++ t.left, ¬ skip c
  nested : Nested g roots t.tasks
  covered : Covered g roots (fun c => c ∈ t.entered) t.tasks
  rooted : ∀ c ∈ t.left, ∃ r, roots r ∧ Relation.ReflTransGen g.Reads c r
  closed : ∀ c ∈ t.left, ∀ d, g.Reads d c → d ∈ t.entered
  sorted : g.AcyclicOn (Downstream g skip roots) → g.ReadersFollow skip t.left

theorem Inv.new {t : Traversal} {c : Cell} (h : Inv g skip roots t) (hc : c ∉ t.entered) :
    ¬ skip c ∧ c ∉ opened t.tasks ++ t.left := by
  rw [h.entered c, not_or] at hc
  exact ⟨hc.1, fun hm => hc.2 (List.mem_append.1 hm)⟩

/-- A cell that was entered before is passed over. -/
theorem Inv.pass {t : Traversal} {c : Cell} {tasks : List Task} (h : Inv g skip roots t)
    (ht : t.tasks = .enter c :: tasks) (hc : c ∈ t.entered) :
    Inv g skip roots { t with tasks } := by
  obtain ⟨fresh, entered, nodup, apart, nested, covered, rooted, closed, sorted⟩ := h
  rw [ht] at entered nodup apart nested covered
  refine ⟨fresh, entered, nodup, apart, nested.2, ?_, rooted, closed, sorted⟩
  exact Covered.mono (fun d hd => hd.elim id fun he => he ▸ hc) covered

/-- A cell that is left comes after the cells left before it. An open cell that reads it
    would close a cycle: it is the cell itself or a cell around it. -/
theorem Inv.leave {t : Traversal} {c : Cell} {tasks : List Task} (h : Inv g skip roots t)
    (ht : t.tasks = .leave c :: tasks) :
    Inv g skip roots { t with tasks, left := c :: t.left } := by
  obtain ⟨fresh, entered, nodup, apart, nested, covered, rooted, closed, sorted⟩ := h
  rw [ht] at entered nodup apart nested covered
  have perm : (opened tasks ++ c :: t.left).Perm (opened (.leave c :: tasks) ++ t.left) :=
    List.perm_middle
  have downstream : ∀ x ∈ c :: opened tasks, Downstream g skip roots x := fun x hx =>
    ⟨apart x (List.mem_append_left _ hx), nested.exists_root_of_opened hx⟩
  have root := (downstream c List.mem_cons_self).2
  refine ⟨fresh, fun d => ?_, perm.nodup_iff.2 nodup, fun d hd => apart d (perm.mem_iff.1 hd),
    nested.2, covered.2, ?_, ?_, fun hacyclic => ⟨fun d hd => ?_, sorted hacyclic⟩⟩
  · rw [entered d]
    simp only [opened, List.mem_cons]
    grind
  · exact List.forall_mem_cons.2 ⟨root, rooted⟩
  · exact List.forall_mem_cons.2 ⟨covered.1, closed⟩
  · rcases (entered d).1 (covered.1 d hd) with hskip | hopen | hleft
    · exact .inl hskip
    · exact absurd hd (nested.not_reads_innermost downstream hacyclic hopen)
    · exact .inr hleft

/-- A cell without an entry has no readers, so it is left at once. -/
theorem Inv.leaf (hg : g.Mirrored) {t : Traversal} {c : Cell} {tasks : List Task}
    (h : Inv g skip roots t) (ht : t.tasks = .enter c :: tasks) (hc : c ∉ t.entered)
    (hr : t.fresh[c]? = none) :
    Inv g skip roots
      { t with tasks, entered := t.entered.insert c, left := c :: t.left } := by
  have new := h.new hc
  obtain ⟨fresh, entered, nodup, apart, nested, covered, rooted, closed, sorted⟩ := h
  rw [ht] at entered nodup apart nested covered new
  have none : ∀ d, ¬ g.Reads d c := by
    intro d hd
    rw [← hg d c] at hd
    unfold Graph.readersOf at hd
    rw [← fresh c hc, hr] at hd
    exact Std.ExtTreeSet.not_mem_empty hd
  have keep : ∀ d, d ∈ t.entered → d ∈ t.entered.insert c := fun d hd =>
    CellSet.mem_insert_iff.2 (.inr hd)
  refine ⟨fun d hd => fresh d fun hm => hd (keep d hm), fun d => ?_,
    List.nodup_middle.2 (List.nodup_cons.2 ⟨new.2, nodup⟩), fun d hd => ?_, nested.2, ?_, ?_, ?_,
    fun hacyclic => ⟨fun d hd => absurd hd (none d), sorted hacyclic⟩⟩
  · rw [CellSet.mem_insert_iff, entered d, List.mem_cons]
    simp only [opened]
    grind
  · rcases List.mem_cons.1 (List.perm_middle.mem_iff.1 hd) with rfl | hd
    · exact new.1
    · exact apart d hd
  · exact Covered.mono (fun d hd => CellSet.mem_insert_iff.2 hd.symm) covered
  · exact List.forall_mem_cons.2 ⟨nested.2.exists_root nested.1, rooted⟩
  · refine List.forall_mem_cons.2 ⟨fun d hd => absurd hd (none d), fun x hx d hd => ?_⟩
    exact keep d (closed x hx d hd)

/-- A cell with readers is opened, and its readers are entered before it is left. -/
theorem Inv.push (hg : g.Mirrored) {t : Traversal} {c : Cell} {tasks : List Task}
    {readers : CellSet} (h : Inv g skip roots t) (ht : t.tasks = .enter c :: tasks)
    (hc : c ∉ t.entered) (hr : t.fresh[c]? = some readers) :
    Inv g skip roots
      { t with
        fresh := t.fresh.erase c
        entered := t.entered.insert c
        tasks := enterAll readers ++ .leave c :: tasks } := by
  have new := h.new hc
  obtain ⟨fresh, entered, nodup, apart, nested, covered, rooted, closed, sorted⟩ := h
  rw [ht] at entered nodup apart nested covered new
  have mem : ∀ d, d ∈ readers.toList.reverse ↔ g.Reads d c := by
    intro d
    rw [← hg d c, List.mem_reverse, Std.ExtTreeSet.mem_toList]
    unfold Graph.readersOf
    rw [← fresh c hc, hr]
    rfl
  have keep : ∀ d, d ∈ t.entered → d ∈ t.entered.insert c := fun d hd =>
    CellSet.mem_insert_iff.2 (.inr hd)
  have hopened : opened (enterAll readers ++ .leave c :: tasks) = c :: opened tasks :=
    opened_enters _ _
  refine ⟨fun d hd => ?_, fun d => ?_, ?_, fun d hd => ?_, ?_, ?_, rooted,
    fun x hx d hd => keep d (closed x hx d hd), sorted⟩
  · rw [CellSet.mem_insert_iff, not_or] at hd
    rw [Std.ExtTreeMap.getElem?_erase,
      if_neg fun he => hd.1 (Std.LawfulEqOrd.eq_of_compare he).symm]
    exact fresh d hd.2
  · rw [hopened, CellSet.mem_insert_iff, entered d, List.mem_cons]
    simp only [opened]
    grind
  · rw [hopened]
    exact List.nodup_cons.2 ⟨new.2, nodup⟩
  · rw [hopened] at hd
    rcases List.mem_cons.1 hd with rfl | hd
    · exact new.1
    · exact apart d hd
  · exact nested_enters (fun d hd => (mem d).1 hd) nested
  · refine covered_enters ⟨fun d hd => .inr ((mem d).2 hd), ?_⟩
    exact Covered.mono (fun d hd => .inl (CellSet.mem_insert_iff.2 hd.symm)) covered

/-- A run ends with all steps made, and its result is what was left by then. -/
theorem exists_inv_run (hg : g.Mirrored) (t : Traversal) (h : Inv g skip roots t) :
    ∃ t', Inv g skip roots t' ∧ t'.tasks = [] ∧ run t = t'.left := by
  fun_induction run t with
  | case1 t ht => exact ⟨t, h, ht, rfl⟩
  | case2 t c tasks ht ih => exact ih (h.leave ht)
  | case3 t c tasks ht hc ih => exact ih (h.pass ht (Std.ExtTreeSet.contains_iff_mem.1 hc))
  | case4 t c tasks ht hc hr ih =>
    rw [Std.ExtTreeSet.contains_iff_mem] at hc
    exact ih (h.leaf hg ht hc hr)
  | case5 t c tasks ht hc readers hr ih =>
    rw [Std.ExtTreeSet.contains_iff_mem] at hc
    exact ih (h.push hg ht hc hr)

/-! ## What is listed -/

/-- The traversal from a set of roots that passes over the cells of another set. -/
def start (g : Graph) (skip roots : CellSet) : Traversal where
  fresh := g.dependents
  entered := skip
  tasks := enterAll roots
  left := []

theorem inv_start (g : Graph) (skip roots : CellSet) :
    Inv g (fun c => c ∈ skip) (fun c => c ∈ roots) (start g skip roots) := by
  have tasks : enterAll roots = roots.toList.reverse.map .enter ++ [] :=
    (List.append_nil _).symm
  have hopened : opened (enterAll roots) = [] := by
    rw [tasks]
    exact opened_enters _ _
  have mem : ∀ c, c ∈ roots.toList.reverse ↔ c ∈ roots := fun c => by
    rw [List.mem_reverse, Std.ExtTreeSet.mem_toList]
  refine ⟨fun _ _ => rfl, fun c => ?_, ?_, fun c hc => ?_, ?_, ?_, fun c hc => ?_,
    fun c hc => ?_, fun _ => trivial⟩
  · simp [start, hopened]
  · simp [start, hopened]
  · simp [start, hopened] at hc
  · unfold start
    rw [tasks]
    exact nested_enters (fun c hc => (mem c).1 hc) trivial
  · unfold start
    rw [tasks]
    exact covered_enters fun c hc => .inr ((mem c).2 hc)
  · cases hc
  · cases hc

/-- What a traversal lists. Every cell downstream of a root comes once and no other cell
    comes; without cycles among them, readers come later than what they read. -/
structure Lists (g : Graph) (skip roots : Cell → Prop) (cells : List Cell) : Prop where
  nodup : cells.Nodup
  mem : ∀ c, c ∈ cells ↔ Downstream g skip roots c
  sorted : g.AcyclicOn (fun c => c ∈ cells) → g.ReadersFollow skip cells

/-- When all steps are made, every root and every reader of a listed cell is listed. A cell
    that is skipped hides no cell behind it if its readers are roots. -/
theorem Inv.mem_left {t : Traversal} (h : Inv g skip roots t) (ht : t.tasks = [])
    (hskip : ∀ s, skip s → ∀ d, g.Reads d s → roots d) {c : Cell}
    (hc : Downstream g skip roots c) : c ∈ t.left := by
  obtain ⟨fresh, entered, -, -, -, covered, -, closed, -⟩ := h
  rw [ht] at entered covered
  have left : ∀ d, d ∈ t.entered → ¬ skip d → d ∈ t.left := by
    intro d hd hs
    rcases (entered d).1 hd with hd | hd | hd
    · exact absurd hd hs
    · exact absurd hd List.not_mem_nil
    · exact hd
  obtain ⟨hc, r, hr, hcr⟩ := hc
  induction hcr using Relation.ReflTransGen.head_induction_on with
  | refl => exact left r (covered r hr) hc
  | @head a b hab _ ih =>
    by_cases hb : skip b
    · exact left a (covered a (hskip b hb a hab)) hc
    · exact left a (closed b (ih hb) a hab) hc

theorem lists_run (hg : g.Mirrored) (skip roots : CellSet)
    (hskip : ∀ s ∈ skip, ∀ d, g.Reads d s → d ∈ roots) :
    Lists g (fun c => c ∈ skip) (fun c => c ∈ roots) (run (start g skip roots)) := by
  obtain ⟨t, h, ht, hrun⟩ := exists_inv_run hg _ (inv_start g skip roots)
  rw [hrun]
  have nodup := h.nodup
  have apart := h.apart
  rw [ht] at nodup apart
  have mem : ∀ c, c ∈ t.left ↔ Downstream g (fun c => c ∈ skip) (fun c => c ∈ roots) c :=
    fun c => ⟨fun hc => ⟨apart c hc, h.rooted c hc⟩, fun hc => h.mem_left ht hskip hc⟩
  refine ⟨nodup, mem, fun hacyclic => h.sorted ?_⟩
  rwa [← funext fun c => propext (mem c)]

end Traversal

/-! ## The recalculation order -/

namespace Graph

variable {g : Graph}

/-- The cells that the recalculation order lists. -/
theorem lists_recalculationOrder (hg : g.Mirrored) (changed : Cell) :
    Traversal.Lists g (fun c => c = changed) (fun c => g.Reads c changed)
      (g.recalculationOrder changed) := by
  have skip : (fun c => c ∈ (∅ : CellSet).insert changed) = fun c => c = changed := by
    funext c
    rw [CellSet.mem_insert_iff]
    simp
  have roots : (fun c => c ∈ g.readersOf changed) = fun c => g.Reads c changed :=
    funext fun c => propext (hg c changed)
  rw [← skip, ← roots]
  refine Traversal.lists_run hg _ _ fun s hs d hd => ?_
  rw [CellSet.mem_insert_iff] at hs
  obtain rfl := hs.resolve_right Std.ExtTreeSet.not_mem_empty
  exact (hg d s).2 hd

theorem mem_recalculationOrder (hg : g.Mirrored) {c changed : Cell} :
    c ∈ g.recalculationOrder changed ↔ c ≠ changed ∧ g.DependsOn c changed := by
  rw [(lists_recalculationOrder hg changed).mem c]
  unfold Traversal.Downstream DependsOn
  rw [Relation.TransGen.tail'_iff]
  simp only [and_comm]

theorem readersFollow_recalculationOrder (hg : g.Mirrored) (changed : Cell)
    (h : g.AcyclicOn fun c => c ∈ g.recalculationOrder changed) :
    g.ReadersFollow (fun c => c = changed) (g.recalculationOrder changed) :=
  (lists_recalculationOrder hg changed).sorted h

/-- Without cycles no cell depends on itself, so all cells that depend on the changed one are
    listed. -/
theorem Acyclic.mem_recalculationOrder (h : g.Acyclic) (hg : g.Mirrored) {c changed : Cell} :
    c ∈ g.recalculationOrder changed ↔ g.DependsOn c changed := by
  rw [Graph.mem_recalculationOrder hg]
  refine and_iff_right_of_imp ?_
  rintro hc rfl
  exact h c hc

/-- Without cycles the changed cell reads no listed cell, so nothing has to be skipped. -/
theorem Acyclic.readersFollow (h : g.Acyclic) (hg : g.Mirrored) (changed : Cell) :
    g.ReadersFollow (fun _ => False) (g.recalculationOrder changed) := by
  refine (readersFollow_recalculationOrder hg changed (h.acyclicOn _)).imp ?_
  rintro c hc d hd rfl
  exact h d (.head hd ((h.mem_recalculationOrder hg).1 hc))

/-- The order lists exactly the cells that depend on the changed cell, each once and without
    the changed cell itself, also when the graph has cycles; and where the listed cells form
    no cycle, a cell comes after all the listed cells that it reads. -/
theorem recalculationOrder_sorts_dependents (hg : g.Built) (changed : Cell) :
    (g.recalculationOrder changed).Nodup ∧
      (∀ c, c ∈ g.recalculationOrder changed ↔ c ≠ changed ∧ g.DependsOn c changed) ∧
      (g.AcyclicOn (fun c => c ∈ g.recalculationOrder changed) →
        ∀ a ∈ g.recalculationOrder changed, ∀ b ∈ g.recalculationOrder changed,
          g.Reads a b →
            (g.recalculationOrder changed).idxOf b < (g.recalculationOrder changed).idxOf a) := by
  have lists := lists_recalculationOrder hg.mirrored changed
  refine ⟨lists.nodup, fun c => mem_recalculationOrder hg.mirrored, ?_⟩
  intro hacyclic a ha b hb hab
  have hne : a ≠ changed := ((mem_recalculationOrder hg.mirrored).1 ha).1
  exact (readersFollow_recalculationOrder hg.mirrored changed hacyclic).idxOf_lt lists.nodup
    hb hab hne

/-- The cell C1 reads A1 both directly and through B1. -/
def skipEdge : Graph :=
  (Graph.empty.replace ⟨0, 1⟩ (.ofList [Cell.mk 0 0])).replace ⟨0, 2⟩
    (.ofList [Cell.mk 0 0, Cell.mk 0 1])

theorem reads_skipEdge {a b : Cell} :
    skipEdge.Reads a b ↔
      (a = ⟨0, 2⟩ ∧ (b = ⟨0, 0⟩ ∨ b = ⟨0, 1⟩)) ∨ (a = ⟨0, 1⟩ ∧ b = ⟨0, 0⟩) := by
  unfold skipEdge Reads
  rw [readsOf_replace, readsOf_replace]
  have none : b ∉ Graph.empty.readsOf a := Std.ExtTreeSet.not_mem_empty
  split
  · next h =>
    subst h
    rw [Std.ExtTreeSet.mem_ofList]
    simp
  · split
    · next h =>
      subst h
      rw [Std.ExtTreeSet.mem_ofList]
      simp
    · grind

theorem recalculationOrder_sorts_skipEdge :
    skipEdge.Built ∧ ⟨0, 2⟩ ∈ skipEdge.recalculationOrder ⟨0, 0⟩ ∧
      (skipEdge.recalculationOrder ⟨0, 0⟩).idxOf ⟨0, 1⟩ <
        (skipEdge.recalculationOrder ⟨0, 0⟩).idxOf ⟨0, 2⟩ := by
  have built : skipEdge.Built :=
    .update (.update .empty (update_of_not_mem (by decide) _)) (update_of_not_mem (by decide) _)
  have acyclic : skipEdge.Acyclic := acyclic_of_rank Cell.col fun a b h => by
    rcases reads_skipEdge.1 h with ⟨rfl, rfl | rfl⟩ | ⟨rfl, rfl⟩ <;> decide
  obtain ⟨-, mem, sorted⟩ := recalculationOrder_sorts_dependents built ⟨0, 0⟩
  have hb : ⟨0, 1⟩ ∈ skipEdge.recalculationOrder ⟨0, 0⟩ :=
    (mem _).2 ⟨by decide, .single (reads_skipEdge.2 (by decide))⟩
  have hc : ⟨0, 2⟩ ∈ skipEdge.recalculationOrder ⟨0, 0⟩ :=
    (mem _).2 ⟨by decide, .single (reads_skipEdge.2 (by decide))⟩
  exact ⟨built, hc, sorted (acyclic.acyclicOn _) _ hc _ hb (reads_skipEdge.2 (by decide))⟩

end Graph

end Worksheet
