/-
  What a graph holds after any calls, done or refused (`after_records_last_reads`). Each write of a
  call is an operation on the graph as a value (`replace_run`), so a call that is refused ends
  before the first write and one that is done leaves the graph that `update` or `clear` gives.

  What a cell reads can then be told from the calls alone: going back from the latest call, the
  first one that was accepted for the cell decides, and a reset ends the search (`lastReads`).
-/
import Mathlib.Data.List.Induction
import Worksheet.Dependency.InPlace
import Worksheet.Proofs.Dependency.Canonical

namespace Worksheet.Rewiring

variable {g : Graph} {c : Cell} {calls : List Call}

/-! ## Writes -/

/-- A set that may come out empty is written as the entry of a cell, or the entry goes. What the
    entry was before makes no difference. -/
theorem alter_pruned? {m m' : CellMap CellSet} {c : Cell} (same : ∀ d, d ≠ c → m'[d]? = m[d]?)
    (f : Option CellSet → CellSet) :
    m.alter c (fun s => Graph.pruned? (f s)) =
      if (f m[c]?).isEmpty then m'.erase c else m'.insert c (f m[c]?) := by
  refine Std.ExtTreeMap.ext_getElem? fun d => ?_
  have apart := same d
  rw [Std.ExtTreeMap.getElem?_alter]
  grind [Graph.pruned?]

theorem unlink_eq (reader : Cell) (m : CellMap CellSet) (c : Cell) :
    Graph.unlink reader m c =
      match m[c]? with
      | none => m
      | some readers =>
        let readers := readers.erase reader
        if readers.isEmpty then (m.insert c readers).erase c else m.insert c readers := by
  unfold Graph.unlink
  cases hm : m[c]? with
  | none =>
    refine Std.ExtTreeMap.ext_getElem? fun d => ?_
    rw [Std.ExtTreeMap.getElem?_alter]
    grind [Graph.pruned?]
  | some readers =>
    have same : ∀ d, d ≠ c → (m.insert c (readers.erase reader))[d]? = m[d]? := by
      intro d hd
      grind
    have written := alter_pruned? same fun s => (s.getD ∅).erase reader
    rw [hm, Option.getD_some] at written
    rw [written]
    refine Std.ExtTreeMap.ext_getElem? fun d => ?_
    grind

theorem unlink_run (reader c : Cell) (g : Graph) :
    (unlink reader c).run g =
      .ok () { g with dependents := Graph.unlink reader g.dependents c } := by
  rw [unlink_eq]
  unfold unlink
  rw [EStateM.run_bind, EStateM.run_get]
  cases hd : g.dependents[c]? with
  | none => simp [hd]
  | some readers =>
    by_cases last : (readers.erase reader).isEmpty
    · simp only [hd, last, if_true]
      rfl
    · simp only [hd, last]
      rfl

theorem link_run (reader c : Cell) (g : Graph) :
    (link reader c).run g = .ok () { g with dependents := Graph.link reader g.dependents c } := by
  have written := alter_pruned? (m := g.dependents) (c := c) (fun _ _ => rfl)
    fun s => (s.getD ∅).insert reader
  have nonempty : ((g.dependents[c]?.getD ∅).insert reader).isEmpty = false := by simp
  rw [nonempty, if_neg Bool.false_ne_true] at written
  unfold Graph.link
  rw [written]
  rfl

/-- Changes that cannot fail, one after the other. -/
theorem each_run {change : Cell → Rewiring Unit} {f : CellMap CellSet → Cell → CellMap CellSet}
    (h : ∀ c g, (change c).run g = .ok () { g with dependents := f g.dependents c })
    (cs : List Cell) (g : Graph) :
    (each change cs).run g = .ok () { g with dependents := cs.foldl f g.dependents } := by
  induction cs generalizing g with
  | nil => rfl
  | cons c cs ih =>
    rw [each, EStateM.run_bind, h]
    exact ih _

/-- The writes of a replacement come to the replacement of the graph as a value. -/
theorem replace_run (c : Cell) (reads : CellSet) (g : Graph) :
    (replace c reads).run g = .ok () (g.replace c reads) := by
  have same : ∀ d, d ≠ c → (g.precedents.erase c)[d]? = g.precedents[d]? := by
    intro d hd
    grind
  have taken : (g.precedents.erase c).erase c = g.precedents.erase c := by
    refine Std.ExtTreeMap.ext_getElem? fun d => ?_
    grind
  have written := alter_pruned? same fun _ => reads
  rw [taken] at written
  unfold Graph.replace replace takeReads
  rw [written]
  simp only [EStateM.run_bind, EStateM.run_get, EStateM.run_modify, EStateM.run_pure,
    each_run (unlink_run c), each_run (link_run c)]
  by_cases none : reads.isEmpty
  · simp only [none, if_true]
    rfl
  · simp only [none]
    rfl

/-! ## Calls -/

/-- A call does to the one graph what it does to the graph as a value. -/
theorem apply_run (call : Call) (g : Graph) :
    (apply call).run g =
      match call with
      | .update c reads =>
        match g.update c reads with
        | .ok g' => .ok () g'
        | .error fault => .error fault g
      | .clear c => .ok () (g.clear c)
      | .reset => .ok () .empty := by
  cases call with
  | update c reads =>
    unfold apply Graph.update
    by_cases own : (Std.ExtTreeSet.ofList reads).contains c
    · simp only [own, if_true]
      rfl
    · simp only [own]
      exact replace_run c _ g
  | clear c => exact replace_run c ∅ g
  | reset => rfl

/-- A call is refused before it writes anything. -/
theorem apply_eq_error {call : Call} {g g' : Graph} {fault : FormulaFault} :
    (apply call).run g = .error fault g' ↔
      g' = g ∧ ∃ c reads, call = .update c reads ∧ c ∈ reads ∧ fault = .circular [c, c] := by
  rw [apply_run]
  cases call with
  | update c reads =>
    by_cases own : c ∈ reads
    · have refused : g.update c reads = .error (.circular [c, c]) := by simp [Graph.update, own]
      simp only [refused]
      constructor
      · rintro ⟨⟩
        exact ⟨rfl, c, reads, rfl, own, rfl⟩
      · rintro ⟨rfl, -, -, ⟨⟩, -, rfl⟩
        rfl
    · simp [Graph.update_of_not_mem own, own]
  | clear c => simp
  | reset => simp

theorem leaves_update_of_mem {reads : List Cell} (h : c ∈ reads) (g : Graph) :
    leaves (.update c reads) g = g := by
  simp [leaves, apply_run, Graph.update, h]

theorem leaves_update_of_not_mem {reads : List Cell} (h : c ∉ reads) (g : Graph) :
    leaves (.update c reads) g = g.replace c (.ofList reads) := by
  simp [leaves, apply_run, Graph.update_of_not_mem h]

@[simp] theorem leaves_clear (c : Cell) (g : Graph) : leaves (.clear c) g = g.replace c ∅ := by
  rw [leaves, apply_run]
  rfl

@[simp] theorem leaves_reset (g : Graph) : leaves .reset g = .empty := rfl

theorem after_append (calls : List Call) (call : Call) :
    after (calls ++ [call]) = leaves call (after calls) := by
  rw [after, List.foldl_append]
  rfl

theorem built_leaves {g : Graph} (h : g.Built) (call : Call) : (leaves call g).Built := by
  cases call with
  | update c reads =>
    by_cases own : c ∈ reads
    · rw [leaves_update_of_mem own]
      exact h
    · rw [leaves_update_of_not_mem own]
      exact h.update (Graph.update_of_not_mem own g)
  | clear c =>
    rw [leaves_clear]
    exact h.clear c
  | reset => exact h.reset

theorem built_after (calls : List Call) : (after calls).Built := by
  induction calls using List.reverseRecOn with
  | nil => exact .empty
  | append_singleton calls call ih =>
    rw [after_append]
    exact built_leaves ih call

/-! ## What the calls say -/

/-- What the calls say that a cell reads. They are given latest first. -/
def lastReads (c : Cell) : List Call → CellSet
  | [] => ∅
  | .reset :: _ => ∅
  | .clear d :: earlier => if d = c then ∅ else lastReads c earlier
  | .update d reads :: earlier =>
    -- A call that makes its cell read itself is refused and says nothing.
    if d = c ∧ d ∉ reads then .ofList reads else lastReads c earlier

theorem not_mem_lastReads (c : Cell) (calls : List Call) : c ∉ lastReads c calls := by
  fun_induction lastReads c calls with
  | case1 => exact Std.ExtTreeSet.not_mem_empty
  | case2 => exact Std.ExtTreeSet.not_mem_empty
  | case3 => exact Std.ExtTreeSet.not_mem_empty
  | case4 d earlier other ih => exact ih
  | case5 d reads earlier said =>
    obtain ⟨rfl, own⟩ := said
    simpa using own
  | case6 d reads earlier other ih => exact ih

theorem readsOf_leaves (call : Call) {g : Graph} {c : Cell} {earlier : List Call}
    (h : g.readsOf c = lastReads c earlier) :
    (leaves call g).readsOf c = lastReads c (call :: earlier) := by
  cases call with
  | update d reads =>
    by_cases own : d ∈ reads
    · simpa [leaves_update_of_mem own, lastReads, own] using h
    · rw [leaves_update_of_not_mem own, Graph.readsOf_replace, h]
      simp [lastReads, own]
  | clear d =>
    rw [leaves_clear, Graph.readsOf_replace, h]
    rfl
  | reset => rfl

theorem readsOf_after (calls : List Call) (c : Cell) :
    (after calls).readsOf c = lastReads c calls.reverse := by
  induction calls using List.reverseRecOn with
  | nil => rfl
  | append_singleton calls call ih =>
    rw [after_append, List.reverse_append]
    exact readsOf_leaves call ih

/-- After any calls, done or refused, a cell reads what the last accepted call for it since the
    last reset says, and never itself; a cell is among the readers of another one exactly when
    it reads that one; and neither direction has an empty entry. A call is refused only if it
    makes a cell read itself, and then the graph stays as it was. So calls in the end leave the
    same graph exactly when they say the same of every cell. -/
theorem after_records_last_reads (calls : List Call) :
    (∀ c, (after calls).readsOf c = lastReads c calls.reverse ∧ c ∉ (after calls).readsOf c) ∧
    (∀ a b, a ∈ (after calls).readersOf b ↔ b ∈ (after calls).readsOf a) ∧
    (∀ c : Cell, (after calls).precedents[c]? ≠ some ∅ ∧ (after calls).dependents[c]? ≠ some ∅) ∧
    (∀ call fault g', (apply call).run (after calls) = .error fault g' ↔
      g' = after calls ∧
        ∃ c reads, call = .update c reads ∧ c ∈ reads ∧ fault = .circular [c, c]) ∧
    ∀ others, after calls = after others ↔
      ∀ c, lastReads c calls.reverse = lastReads c others.reverse := by
  have canonical := (built_after calls).canonical
  refine ⟨fun c => ⟨readsOf_after calls c, ?_⟩, (built_after calls).mirrored,
    fun c => ⟨canonical.precedents c, canonical.dependents c⟩,
    fun call fault g' => apply_eq_error, fun others => ⟨fun same c => ?_, fun same => ?_⟩⟩
  · rw [readsOf_after]
    exact not_mem_lastReads c _
  · rw [← readsOf_after, ← readsOf_after, same]
  · have other := built_after others
    refine canonical.eq_of_readsOf other.canonical (built_after calls).mirrored other.mirrored
      fun c => ?_
    rw [readsOf_after, readsOf_after, same c]

end Worksheet.Rewiring
