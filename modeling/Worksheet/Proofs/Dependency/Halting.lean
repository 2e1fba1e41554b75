/-
  Traversals come to an end. A traversal is made step by step (`step?`), and each step uses up one
  unit of its work: a step that was waiting, or one that entering a further cell can cause
  (`work_step?`). So however the steps go, there are at most as many of them as there is work at
  the start, and when they are made, the cells that were left are the result (`endsWith_run`).
-/
import Worksheet.Dependency.Order

namespace Worksheet.Traversal

/-- The traversal after its next step, unless all steps are made. -/
def step? (t : Traversal) : Option Traversal :=
  match t.tasks with
  | [] => none
  | .leave c :: tasks => some { t with tasks, left := c :: t.left }
  | .enter c :: tasks =>
    if t.entered.contains c then some { t with tasks }
    else
      match t.fresh[c]? with
      | none => some { t with tasks, entered := t.entered.insert c, left := c :: t.left }
      | some readers =>
        some { t with
          fresh := t.fresh.erase c
          entered := t.entered.insert c
          tasks := enterAll readers ++ .leave c :: tasks }

/-- The second traversal is the first one after so many steps. -/
inductive Steps : Nat → Traversal → Traversal → Prop where
  | none (t : Traversal) : Steps 0 t t
  | more {n : Nat} {t t' t'' : Traversal} (first : t.step? = some t') (later : Steps n t' t'') :
      Steps (n + 1) t t''

/-- The steps that wait, and those that the cells not entered yet can cause. -/
def work (t : Traversal) : Nat := pending t.fresh + t.tasks.length

variable {t t' : Traversal}

/-- A step makes one unit of the work. The steps that a cell with readers brings along have been
    counted before. -/
theorem work_step? (h : t.step? = some t') : t'.work + 1 = t.work := by
  unfold step? at h
  split at h
  · cases h
  · next c tasks ht =>
    cases h
    simp only [work, ht, List.length_cons]
    omega
  · next c tasks ht =>
    split at h
    · cases h
      simp only [work, ht, List.length_cons]
      omega
    · split at h
      · cases h
        simp only [work, ht, List.length_cons]
        omega
      · next readers hc =>
        cases h
        simp only [work, ht, List.length_append, List.length_cons, length_enterAll,
          pending_erase hc]
        omega

/-- The traversal comes to an end after at most as many steps as it has work, and these are the
    cells that were left by then. -/
def EndsWith (t : Traversal) (cells : List Cell) : Prop :=
  ∃ n t', n ≤ t.work ∧ Steps n t t' ∧ t'.step? = none ∧ t'.left = cells

theorem EndsWith.of_step? {cells : List Cell} (first : t.step? = some t')
    (h : t'.EndsWith cells) : t.EndsWith cells := by
  obtain ⟨n, t'', bound, steps, halted, left⟩ := h
  have used := work_step? first
  exact ⟨n + 1, t'', by omega, .more first steps, halted, left⟩

/-- The induction follows the run, whose branches are the kinds of steps. -/
theorem endsWith_run (t : Traversal) : t.EndsWith (run t) := by
  fun_induction run t with
  | case1 t ht => exact ⟨0, t, Nat.zero_le _, .none t, by simp only [step?, ht], rfl⟩
  | case2 t c tasks ht ih => exact ih.of_step? (by simp only [step?, ht])
  | case3 t c tasks ht hc ih => exact ih.of_step? (by simp only [step?, ht, hc, if_true])
  | case4 t c tasks ht hc hr ih =>
    exact ih.of_step? (by simp only [step?, ht, hc, hr, if_false, Bool.false_eq_true])
  | case5 t c tasks ht hc readers hr ih =>
    exact ih.of_step? (by simp only [step?, ht, hc, hr, if_false, Bool.false_eq_true])

end Worksheet.Traversal
