/-
  An expression is evaluated by looking at its precedents and at no other cells. So its value
  is the same wherever they hold the same values (`evaluate_within`), although the list of
  precedents and the evaluation are made by two walks that know nothing of each other
  (`evaluate_reads_precedents`).
-/
import Worksheet.Proofs.Evaluation.LikeEvaluation

namespace Worksheet

/-- Two traced results are the same, and they took look-ups of cells in `P` only. -/
structure Traced.Within {α : Type} (P : Cell → Prop) (t u : Traced α) : Prop where
  eq : t = u
  reads : ∀ a ∈ t.reads, P a.toCell

/-! ## Lists of precedents -/

theorem mem_distinctOnto (seen : CellSet) (found cs : List Cell)
    (h : ∀ c, c ∈ seen ↔ c ∈ found) (c : Cell) :
    c ∈ distinctOnto seen found cs ↔ c ∈ found ∨ c ∈ cs := by
  induction cs generalizing seen found with
  | nil => simp [distinctOnto]
  | cons d cs ih =>
    unfold distinctOnto
    split
    · next hd =>
      have hd : d ∈ found := (h d).1 (Std.ExtTreeSet.contains_iff_mem.1 hd)
      rw [ih seen found h, List.mem_cons]
      exact ⟨fun hc => hc.imp_right .inr, fun hc => hc.elim .inl fun hc =>
        hc.elim (fun he => .inl (he ▸ hd)) .inr⟩
    · have h' : ∀ c, c ∈ seen.insert d ↔ c ∈ d :: found := fun c => by
        rw [CellSet.mem_insert_iff, List.mem_cons, h c]
      rw [ih _ _ h', List.mem_cons, List.mem_cons, or_assoc, or_left_comm]

theorem mem_distinct {cs : List Cell} {c : Cell} : c ∈ distinct cs ↔ c ∈ cs := by
  unfold distinct
  rw [mem_distinctOnto ∅ [] cs fun d => by simp]
  simp

namespace Expr

/-- The cells that an expression refers to. -/
def cells (e : Expr) : List Cell := e.references.flatMap Reference.cells

theorem mem_of_precedents_eq_ok {limit : Nat} {e : Expr} {reads : List Cell}
    (h : e.precedents limit = .ok reads) (c : Cell) : c ∈ reads ↔ c ∈ e.cells := by
  unfold precedents at h
  split at h
  · cases h
  · rw [← Except.ok.inj h, mem_distinct]
    rfl

/-! ## Evaluation -/

variable {P : Cell → Prop} {look look' : Cell → Value}

/-- Evaluations in which the cells of an expression hold the same values are the same, and
    they look at these cells only. -/
theorem evaluate_within (functions : Registry) (hlook : ∀ c, P c → look c = look' c) (e : Expr)
    (h : ∀ c ∈ e.cells, P c) :
    Traced.Within P (e.evaluate functions look) (e.evaluate functions look') := by
  have lawful : (Likeness.identical (fun _ => True) P False).Lawful :=
    Likeness.identical_lawful Number.closed_true P False
  have cells (r : Reference) (hr : r ∈ e.references) (c : Cell) (hc : c ∈ r.cells) : P c :=
    h c (List.mem_flatMap.2 ⟨r, hr, hc⟩)
  have same (r : Reference) (hr : r ∈ e.references) :
      r.values (.ofLook look) = r.values (.ofLook look') := by
    rw [Reference.values_ofLook, Reference.values_ofLook]
    exact List.map_congr_left fun c hc => hlook c (cells r hr c hc)
  have alike := evaluate_identical lawful functions cells same (fun _ _ _ _ => trivial)
    (fun _ _ => trivial) False.elim False.elim
  exact ⟨alike.eq, alike.sees⟩

/-- The value of an expression is the same wherever its precedents hold the same values. -/
theorem value_congr {limit : Nat} {e : Expr} {reads : List Cell}
    (h : e.precedents limit = .ok reads) (hlook : ∀ c ∈ reads, look c = look' c) :
    e.value look = e.value look' := by
  have hw := evaluate_within .standard hlook e fun c hc => (mem_of_precedents_eq_ok h c).2 hc
  unfold value
  rw [hw.eq]

/-- Where the precedents of an expression hold the same values, it is evaluated alike, with
    the same look-ups, and all cells that are looked up are precedents. -/
theorem evaluate_reads_precedents {limit : Nat} {e : Expr} {reads : List Cell}
    (h : e.precedents limit = .ok reads) {look look' : Cell → Value}
    (hlook : ∀ c ∈ reads, look c = look' c) :
    e.value look = e.value look' ∧
      e.evaluate .standard look = e.evaluate .standard look' ∧
      ∀ a ∈ (e.evaluate .standard look).reads, a.toCell ∈ reads := by
  have within : Traced.Within (· ∈ reads) (e.evaluate .standard look)
      (e.evaluate .standard look') :=
    evaluate_within .standard hlook e fun c hc => (mem_of_precedents_eq_ok h c).2 hc
  exact ⟨value_congr h hlook, within.eq, within.reads⟩

/-- `IF($A$1,SUM(B1:B2),C1)`, of which only one branch is evaluated. -/
def branching : Expr :=
  .call "IF" [.cell (Cell.address ⟨0, 0⟩).fixed,
    .call "SUM" [.range (Cell.address ⟨0, 1⟩) (Cell.address ⟨1, 1⟩)],
    .cell (Cell.address ⟨0, 2⟩)]

/-- A grid of ones, but for its cell D1. -/
def onesBut (d1 : Value) (c : Cell) : Value := if c = ⟨0, 3⟩ then d1 else .number 1.0

theorem evaluate_reads_precedents_branching :
    branching.precedents 2 = .ok [⟨0, 0⟩, ⟨0, 1⟩, ⟨1, 1⟩, ⟨0, 2⟩] ∧
      branching.value (onesBut .empty) = branching.value (onesBut (.text "x")) ∧
      (branching.evaluate .standard (onesBut .empty)).reads.map Address.toCell =
        [⟨0, 0⟩, ⟨0, 1⟩, ⟨1, 1⟩] := by
  have precedents : branching.precedents 2 = .ok [⟨0, 0⟩, ⟨0, 1⟩, ⟨1, 1⟩, ⟨0, 2⟩] := by
    decide +kernel
  have alike : ∀ c ∈ [⟨0, 0⟩, ⟨0, 1⟩, ⟨1, 1⟩, ⟨0, 2⟩],
      onesBut .empty c = onesBut (.text "x") c := by decide +kernel
  obtain ⟨value, -, -⟩ := evaluate_reads_precedents precedents alike
  exact ⟨precedents, value, by decide +kernel⟩

end Expr

end Worksheet
