/-
  Numbers stay finite. A literal is only taken for a number if that is finite, whether it stands
  in a cell or in a formula, and no operator and no function makes infinity or NaN out of finite
  numbers: most results are checked, and the others come from operations that do not lead out of
  the finite numbers (`Number.closed_isFinite`). So evaluation passes finiteness on from cells to
  cells (`evaluate_finite`), and every edit does (`numbers_stay_finite`).
-/
import Worksheet.Proofs.Evaluation.LikeEvaluation
import Worksheet.Proofs.Formula.Completeness
import Worksheet.Proofs.Sheet.Wiring

namespace Worksheet

/-- The value is finite if it is a number. -/
def Value.Finite (v : Value) : Prop := ∀ x, v = .number x → x.isFinite = true

/-! ## Formulas -/

namespace Expr

/-- Out of finite numbers only finite ones are made. -/
theorem evaluate_finite (functions : Registry) (host : Host) {e : Expr} (finite : e.Finite)
    (answers : ∀ r ∈ e.references, ∀ v ∈ r.values host, v.Finite) :
    (e.evaluate functions host).value.Finite := by
  have lawful :
      (Likeness.identical (fun x => x.isFinite = true) (fun _ => True) False).Lawful :=
    Likeness.identical_lawful Number.closed_isFinite _ False
  have same : ∀ r ∈ e.references, r.values host = r.values host := fun _ _ => rfl
  have alike := (evaluate_identical lawful functions (fun _ _ _ _ => trivial) same
    (fun r hr x hx => answers r hr _ hx x rfl) finite False.elim False.elim).value
  intro x hx
  rw [hx] at alike
  cases alike with
  | number h => exact h

theorem finite_of_parseBody {body : List Char} {e : Expr} (h : parseBody body = .ok e) :
    e.Finite := by
  obtain ⟨ts, -, parsed⟩ := bind_eq_ok.1 h
  exact (parseTokens_sound parsed).2

theorem finite_of_parseFormula {text : String} {e : Expr} (h : parseFormula text = .ok e) :
    e.Finite := by
  unfold parseFormula at h
  split at h
  · exact finite_of_parseBody h
  · cases h

end Expr

namespace Sheet

/-- A literal is taken for a number if that is finite. -/
theorem finite_of_literal? {input : String} {v : Value} (h : literal? input = some v) :
    v.Finite := by
  unfold literal? at h
  dsimp only at h
  split at h
  · cases h
  split at h
  · obtain rfl := Option.some.inj h
    exact nofun
  split at h
  · next y read =>
    obtain rfl := Option.some.inj h
    intro x hx
    obtain rfl := Value.number.inj hx
    exact (Option.filter_eq_some_iff.1 read).2
  · obtain rfl := Option.some.inj h
    exact nofun

/-- No cell holds a number that is not finite. -/
def FiniteNumbers (s : Sheet) : Prop := ∀ c, (s.valueAt c).Finite

theorem finiteNumbers_empty (options : Options) : (empty options).FiniteNumbers := by
  intro c x hx
  simp [empty, valueAt] at hx

/-! ## Evaluating -/

namespace FiniteNumbers

variable {s : Sheet}

theorem store (h : s.FiniteNumbers) (c : Cell) {e : Entry} (finite : e.value.Finite) :
    (s.store c e).FiniteNumbers := by
  intro d
  rw [valueAt_store]
  split
  · exact finite
  · exact h d

theorem evaluate (h : s.FiniteNumbers) {e : Expr} (finite : e.Finite) : (s.evaluate e).Finite := by
  refine e.evaluate_finite .standard s.valueAt finite fun r _ v hv => ?_
  rw [Reference.values_ofLook] at hv
  obtain ⟨c, -, rfl⟩ := List.mem_map.1 hv
  exact h c

theorem recompute (h : s.FiniteNumbers) (wired : Wired s) (c : Cell) :
    (s.recompute c).1.FiniteNumbers := by
  cases hf : s.formulaAt c with
  | none =>
    rw [recompute_of_none hf]
    exact h
  | some f =>
    have parsed := ((wired.cells c).formula f hf).1
    rw [recompute_of_some hf]
    exact h.store c (h.evaluate (Expr.finite_of_parseFormula parsed))

theorem recomputeAll (h : s.FiniteNumbers) (wired : Wired s) (cells : List Cell) :
    (s.recomputeAll cells).1.FiniteNumbers := by
  induction cells generalizing s with
  | nil => exact h
  | cons c cells ih =>
    rw [recomputeAll_cons]
    exact ih (h.recompute wired c) (wired.sameFormulas (sameFormulas_recompute s c))

theorem recalculateReaders (h : s.FiniteNumbers) (wired : Wired s) (c : Cell) :
    (s.recalculateReaders c).1.FiniteNumbers := by
  unfold Sheet.recalculateReaders
  split
  · exact h.recomputeAll wired _
  · exact h

/-! ## Edits -/

theorem withLiteral (h : s.FiniteNumbers) (c : Cell) {v : Option Value}
    (finite : ∀ w, v = some w → w.Finite) : (s.withLiteral c v).FiniteNumbers := by
  intro d
  by_cases hd : c = d
  · cases v with
    | some w =>
      have held := valueAt_store s c ⟨w, none⟩ d
      rw [if_pos hd] at held
      exact fun x hx => finite w rfl x (held.symm.trans hx)
    | none =>
      intro x hx
      simp [Sheet.withLiteral, valueAt, hd] at hx
  · rw [valueAt_withLiteral s v hd]
    exact h d

theorem step (h : s.FiniteNumbers) {s' : Sheet} (wired : Wired s) (step : Step s s') :
    s'.FiniteNumbers := by
  cases step with
  | literal c v origin =>
    refine (h.withLiteral c fun w hw => ?_).recalculateReaders (wired.withLiteral c v) c
    rcases origin w hw with ⟨input, read⟩ | ⟨d, rfl⟩
    · exact finite_of_literal? read
    · exact h d
  | @formula c text expr reads parsed precedents noPath =>
    refine FiniteNumbers.recalculateReaders ?_ (wired.withFormula parsed precedents noPath) c
    intro d
    rw [valueAt_withFormula]
    split
    · exact h.evaluate (Expr.finite_of_parseFormula parsed)
    · exact h d
  | recalculate => exact h.recomputeAll wired _

end FiniteNumbers

/-- In a sheet that edits and recalculations lead to, under any options, no cell ever holds NaN or
    an infinite number; and no formula evaluates to one on a host that answers with none. -/
theorem numbers_stay_finite :
    (∀ (options : Options) (edits : List Edit) (c : Cell) (x : Float),
      ((empty options).run edits).valueAt c = .number x → x.isFinite = true) ∧
    ∀ (functions : Registry) (host : Host) (body : List Char) (e : Expr), parseBody body = .ok e →
      (∀ r ∈ e.references, ∀ x, .number x ∈ r.values host → x.isFinite = true) →
        ∀ x, (e.evaluate functions host).value = .number x → x.isFinite = true := by
  constructor
  · intro options edits c x hx
    have kept := run_keeps (I := fun s => Wired s ∧ s.FiniteNumbers)
      ⟨wired_empty options, finiteNumbers_empty options⟩
      (fun s s' step ⟨wired, finite⟩ => ⟨wired.step step, finite.step wired step⟩) edits
    exact kept.2 c x hx
  · intro functions host body e parsed answers
    refine e.evaluate_finite functions host (Expr.finite_of_parseBody parsed) ?_
    intro r hr v hv x hx
    exact answers r hr x (hx ▸ hv)

/-- A1 is near the end of the finite numbers, B1 would be beyond, and C1 is as far on the other
    side. -/
def overflowing : List Edit :=
  [.set (.at ⟨0, 0⟩) "1e308", .set (.at ⟨0, 1⟩) "=A1*10", .set (.at ⟨0, 2⟩) "=-A1"]

theorem numbers_stay_finite_overflowing :
    ((empty {}).run overflowing).valueAt ⟨0, 1⟩ = .fault .number ∧
      (∃ x, ((empty {}).run overflowing).valueAt ⟨0, 2⟩ = .number x ∧ x.isFinite = true) ∧
      ∃ e x, parseBody "SQRT(A1)".toList = .ok e ∧
        (e.evaluate .standard (.ofLook fun _ => .number 2.0)).value = .number x ∧
          x.isFinite = true := by
  refine ⟨by decide +kernel, ?_, ?_⟩
  · have held : ((empty {}).run overflowing).valueAt ⟨0, 2⟩ = .number (-1e308) := by decide +kernel
    exact ⟨-1e308, held, numbers_stay_finite.1 {} overflowing _ _ held⟩
  · have value : (parseBody "SQRT(A1)".toList).toOption.map (fun e =>
        (e.evaluate .standard (.ofLook fun _ => .number 2.0)).value) =
          some (.number 1.4142135623730951) := by decide +kernel
    cases parsed : parseBody "SQRT(A1)".toList with
    | error fault =>
      rw [parsed] at value
      cases value
    | ok e =>
      rw [parsed] at value
      have value := Option.some.inj value
      have answers (r : Reference) (x : Float)
          (hx : .number x ∈ r.values (.ofLook fun _ => .number 2.0)) : x.isFinite = true := by
        rw [Reference.values_ofLook] at hx
        obtain ⟨_, -, two⟩ := List.mem_map.1 hx
        obtain rfl := Value.number.inj two
        decide
      exact ⟨e, _, rfl, value,
        numbers_stay_finite.2 .standard _ _ e parsed (fun r _ => answers r) _ value⟩

end Sheet

end Worksheet
