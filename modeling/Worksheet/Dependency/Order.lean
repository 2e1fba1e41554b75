/-
  Orders of evaluation: lists in which every cell comes after the cells it reads. They are
  the reversed post-order of a depth-first traversal along the edges to readers. Of several
  readers the largest is entered first, so cells that do not depend on each other come in
  ascending order.
-/
import Worksheet.Dependency.Graph

namespace Worksheet

/-- A step of a traversal that is still to be made. -/
inductive Task where
  | enter (c : Cell)
  | leave (c : Cell)
deriving Repr, DecidableEq

/-- The state of a traversal: the entries of the cells that were not entered yet, the cells that
    were, the next steps, and the cells that were left, the latest first. -/
structure Traversal where
  fresh : CellMap CellSet
  entered : CellSet
  tasks : List Task
  left : List Cell

namespace Traversal

/-- The steps that enter the cells of a set, the largest first. -/
def enterAll (s : CellSet) : List Task := s.toList.reverse.map .enter

/-! ## Termination -/

/-- An upper bound on the steps that the cells not entered yet can cause. -/
def pending (fresh : CellMap CellSet) : Nat :=
  fresh.toList.foldr (fun e n => e.2.size + 1 + n) 0

/-- Taking an entry from a map takes it from its list. -/
theorem toList_perm_cons_erase {α : Type} {m : CellMap α} {c : Cell} {v : α}
    (h : m[c]? = some v) : m.toList.Perm ((c, v) :: (m.erase c).toList) := by
  have nodup (m : CellMap α) : m.toList.Nodup :=
    (Std.ExtTreeMap.distinct_keys_toList (t := m)).imp fun h e => h (by simp [e])
  refine (List.perm_ext_iff_of_nodup (nodup m) (List.nodup_cons.2 ⟨?_, nodup _⟩)).2 ?_
  · simp
  · rintro ⟨k, w⟩
    simp only [List.mem_cons, Std.ExtTreeMap.mem_toList_iff_getElem?_eq_some, Prod.mk.injEq]
    grind

theorem pending_erase {fresh : CellMap CellSet} {c : Cell} {readers : CellSet}
    (h : fresh[c]? = some readers) :
    pending fresh = readers.size + 1 + pending (fresh.erase c) := by
  simp only [pending]
  rw [(toList_perm_cons_erase h).foldr_eq' (by intros; omega) 0]
  rfl

theorem length_enterAll (s : CellSet) : (enterAll s).length = s.size := by
  simp [enterAll]

/-! ## The traversal -/

/-- Makes all steps. A cell entered before is passed over; one without readers is left at
    once; any other is left when its readers are. -/
def run (t : Traversal) : List Cell :=
  match _h : t.tasks with
  | [] => t.left
  | .leave c :: tasks => run { t with tasks, left := c :: t.left }
  | .enter c :: tasks =>
    if t.entered.contains c then run { t with tasks }
    else
      match _hc : t.fresh[c]? with
      | none => run { t with tasks, entered := t.entered.insert c, left := c :: t.left }
      | some readers =>
        run { t with
          fresh := t.fresh.erase c
          entered := t.entered.insert c
          tasks := enterAll readers ++ .leave c :: tasks }
termination_by pending t.fresh + t.tasks.length
decreasing_by
  · simp only [_h, List.length_cons]; omega
  · simp only [_h, List.length_cons]; omega
  · simp only [_h, List.length_cons]; omega
  · simp only [_h, List.length_append, List.length_cons, length_enterAll, pending_erase _hc]
    omega

end Traversal

namespace Graph

/-- The cells that read the changed cell, directly or through others, in an order of
    evaluation. The changed cell is not among them. -/
def recalculationOrder (g : Graph) (changed : Cell) : List Cell :=
  Traversal.run
    { fresh := g.dependents
      entered := (∅ : CellSet).insert changed
      tasks := Traversal.enterAll (g.readersOf changed)
      left := [] }

/-- The cells with edges. -/
def members (g : Graph) : CellSet := Std.ExtTreeSet.ofList (g.dependents.keys ++ g.precedents.keys)

/-- All cells with edges, in an order of evaluation. -/
def fullOrder (g : Graph) : List Cell :=
  Traversal.run
    { fresh := g.dependents
      entered := ∅
      tasks := Traversal.enterAll g.members
      left := [] }

end Graph

end Worksheet
