/-
  Entering again what a cell holds. The text of its formula, a text for its literal, or a blank for
  a cell that is not set (`Restates`) is accepted at any time and changes nothing; and after another
  input was entered, it brings back the whole sheet as it was before (`reentry_undoes`).

  It is not refused as circular, since what other cells read has not changed in the meantime, and
  the edges of the cell itself play no part in the search (`Wired.accept_again`). And it brings
  back all values, because the contents of a sheet determine all the rest of it (`Settled.eq`).
-/
import Mathlib.Data.List.TakeWhile
import Worksheet.Proofs.Sheet.Downstream

namespace Worksheet.Sheet

variable {s s' : Sheet} {c : Cell} {input : String}

/-! ## Formulas begin with an equals sign -/

/-- The texts of formulas begin with the equals sign. -/
def TextsBegin (s : Sheet) : Prop := ∀ c f, s.formulaAt c = some f → f.text.toList.head? = some '='

theorem textsBegin_empty (options : Options) : (empty options).TextsBegin := by
  intro c f hf
  rw [formulaAt_empty] at hf
  cases hf

theorem TextsBegin.sameFormulas (h : s.TextsBegin) (same : SameFormulas s s') : s'.TextsBegin :=
  fun c f hf => h c f ((same.formulaAt c).symm.trans hf)

theorem TextsBegin.step (h : s.TextsBegin) (step : Step s s') : s'.TextsBegin := by
  cases step with
  | literal c v =>
    refine TextsBegin.sameFormulas (fun d f hf => ?_) (sameFormulas_recalculateReaders _ c)
    rw [formulaAt_withLiteral] at hf
    split at hf
    · cases hf
    · exact h d f hf
  | @formula c text expr reads parsed precedents noPath begins =>
    refine TextsBegin.sameFormulas (fun d f hf => ?_) (sameFormulas_recalculateReaders _ c)
    rw [formulaAt_withFormula] at hf
    split at hf
    · cases hf
      exact begins
    · exact h d f hf
  | recalculate => exact h.sameFormulas (sameFormulas_recomputeAll s _)

/-! ## Sheets that are determined by their contents -/

/-- What holds of a sheet that edits led to, if edits recalculate. -/
structure Settled (s : Sheet) : Prop where
  on : s.options.recalculateOnEdit = true
  wired : Wired s
  built : s.graph.Built
  fresh : s.Fresh
  begins : s.TextsBegin

theorem settled_empty {options : Options} (on : options.recalculateOnEdit = true) :
    Settled (empty options) :=
  ⟨on, wired_empty options, .empty, fresh_empty options, textsBegin_empty options⟩

theorem Settled.step (h : Settled s) (step : Step s s') : Settled s' where
  on := by
    rw [options_step step]
    exact h.on
  wired := h.wired.step step
  built := built_step step h.built
  fresh := h.fresh.step step h.on h.wired
  begins := h.begins.step step

theorem settled_run {options : Options} (on : options.recalculateOnEdit = true)
    (edits : List Edit) : Settled ((empty options).run edits) :=
  run_keeps (settled_empty on) (fun _ _ step h => h.step step) edits

/-- The contents determine the edges and the values. -/
theorem Settled.eq (h : Settled s) (h' : Settled s') (options : s'.options = s.options)
    (contents : ∀ c, s'.contentAt c = s.contentAt c) : s' = s := by
  have formulas := h.wired.formulaAt_eq h'.wired contents
  have graph := h.wired.graph_eq h'.wired h.built h'.built contents
  refine SameFormulas.eq ⟨options, graph, formulas⟩ contents fun c => ?_
  exact (h.fresh.valueAt_eq h'.fresh h.wired h'.wired contents c).symm

/-! ## What an input enters -/

/-- What a cell holds after an input is entered. -/
def entered (input : String) : Option Content :=
  if (Text.trimStart input).toList.head? = some '=' then some (.formula (Text.trimStart input))
  else (literal? input).map .literal

theorem contentAt_set {place : Place} {result : Sheet × Stats} (named : place.cell = .ok c)
    (h : s.set place input = .ok result) (d : Cell) :
    result.1.contentAt d = if c = d then entered input else s.contentAt d := by
  unfold set at h
  rw [named] at h
  unfold entered
  dsimp only [bind, Except.bind] at h
  split at h
  · next begins =>
    obtain ⟨expr, reads, -, -, -, rfl⟩ := setFormula_eq_ok h
    rw [if_pos begins]
    exact ((alike_recalculateReaders _ c).contents d).trans (contentAt_withFormula s c _ reads d)
  · next begins =>
    obtain rfl := Except.ok.inj h
    rw [if_neg begins]
    exact ((alike_recalculateReaders _ c).contents d).trans (contentAt_withLiteral s c _ d)

/-- The input says what a cell holds: it is the text of its formula, or is read as its literal, or
    is blank if the cell is not set. -/
def Restates (s : Sheet) (c : Cell) (input : String) : Prop :=
  match s.contentAt c with
  | none => ∀ x ∈ input.toList, Text.isBlank x = true
  | some (.literal v) =>
    (Text.trimStart input).toList.head? ≠ some '=' ∧ literal? input = some v
  | some (.formula text) => input = text

theorem entered_of_blank (h : ∀ x ∈ input.toList, Text.isBlank x = true) : entered input = none := by
  have blank : Text.trimLeft input.toList = [] := List.dropWhile_eq_nil_iff.2 h
  have start : (Text.trimStart input).toList.head? = none := by
    rw [Text.trimStart, blank]
    rfl
  have word : (Text.trim input).isEmpty = true := by
    rw [Text.trim, Text.trimBoth, blank]
    rfl
  have literal : literal? input = none := by
    unfold literal?
    rw [if_pos word]
  unfold entered
  rw [start, literal]
  rfl

theorem trimStart_of_head {text : String} (begins : text.toList.head? = some '=') :
    Text.trimStart text = text := by
  have start : Text.trimLeft text.toList = text.toList := by
    cases cs : text.toList with
    | nil => rfl
    | cons x cs =>
      rw [cs] at begins
      cases begins
      rfl
  rw [Text.trimStart, start, String.ofList_toList]

theorem Restates.entered (restates : s.Restates c input) (begins : s.TextsBegin) :
    entered input = s.contentAt c := by
  unfold Restates at restates
  generalize content : s.contentAt c = held at restates
  match held with
  | none => exact entered_of_blank restates
  | some (.literal v) =>
    obtain ⟨noFormula, read⟩ := restates
    unfold Sheet.entered
    rw [if_neg noFormula, read]
    rfl
  | some (.formula text) =>
    obtain ⟨f, hf, rfl⟩ := exists_formulaAt content
    obtain rfl : input = f.text := restates
    unfold Sheet.entered
    rw [trimStart_of_head (begins c f hf), if_pos (begins c f hf)]

/-! ## Entering it again -/

/-- A formula is accepted again whatever its cell reads in the meantime, as long as all other cells
    read what they read before. -/
theorem Wired.accept_again (wired : Wired s) {f : Formula} (hf : s.formulaAt c = some f)
    {g : Graph} (others : ∀ d, d ≠ c → g.readsOf d = s.graph.readsOf d) :
    ∃ accepted, accept s.options.maxRangeCells g c f.text = .ok accepted := by
  obtain ⟨parsed, reads, precedents, readsOf⟩ := (wired.cells c).formula f hf
  have edges : (g.replace c (.ofList reads)).readsOf = s.graph.readsOf := by
    funext d
    by_cases hd : d = c
    · rw [hd, Graph.readsOf_replace_self, readsOf]
    · rw [Graph.readsOf_replace_of_ne hd, others d hd]
  have noCycle : ¬ (g.replace c (.ofList reads)).DependsOn c c := by
    unfold Graph.DependsOn Graph.Reads
    rw [edges]
    exact wired.acyclic c
  have noPath : g.circularPath? c reads = none := by
    rw [← Option.not_isSome_iff_eq_none, Graph.circularPath?, Graph.circularPathBy?_isSome_iff]
    exact noCycle
  refine ⟨(f.expr, reads), ?_⟩
  unfold accept
  rw [parsed, mapError_ok]
  dsimp only [bind, Except.bind]
  rw [precedents, mapError_ok]
  dsimp only
  rw [noPath]
  rfl

theorem Restates.exists_set (restates : s.Restates c input) (settled : Settled s)
    (options : s'.options = s.options)
    (others : ∀ d, d ≠ c → s'.graph.readsOf d = s.graph.readsOf d) {place : Place}
    (named : place.cell = .ok c) : ∃ result, s'.set place input = .ok result := by
  unfold set
  rw [named]
  dsimp only [bind, Except.bind]
  split
  · next begins =>
    -- Only a formula begins with an equals sign.
    have content := restates.entered settled.begins
    unfold Sheet.entered at content
    rw [if_pos begins] at content
    obtain ⟨f, hf, text⟩ := exists_formulaAt content.symm
    obtain ⟨accepted, again⟩ := settled.wired.accept_again hf others
    rw [setFormula_eq, options, ← text, again]
    exact ⟨_, rfl⟩
  · exact ⟨_, rfl⟩

/-- Where only the contents of one cell have changed, entering again what it held brings back the
    whole sheet. -/
theorem Restates.set_again (restates : s.Restates c input) (settled : Settled s)
    (settled' : Settled s') (options : s'.options = s.options)
    (contents : ∀ d, d ≠ c → s'.contentAt d = s.contentAt d)
    (others : ∀ d, d ≠ c → s'.graph.readsOf d = s.graph.readsOf d) {place : Place}
    (named : place.cell = .ok c) : ∃ stats, s'.set place input = .ok (s, stats) := by
  obtain ⟨⟨s'', stats⟩, again⟩ := restates.exists_set settled options others named
  have step : Step s' s'' := step_of_editAt (editAt_set again)
  have restored : s'' = s := by
    refine settled.eq (settled'.step step) ((options_step step).trans options) fun d => ?_
    rw [contentAt_set named again d, restates.entered settled.begins]
    split
    · next h => rw [h]
    · next h => exact contents d (Ne.symm h)
  rw [restored] at again
  exact ⟨stats, again⟩

/-- In a sheet that edits led to, where edits recalculate, an input that says what a cell holds is
    accepted for the cell and leaves the sheet as it is, with all its entries and edges. It is also
    accepted after any other input for the cell was, and then gives the sheet back as it was before
    that. -/
theorem reentry_undoes {options : Options} (on : options.recalculateOnEdit = true)
    (edits : List Edit) {place place' : Place} {c : Cell} (named : place.cell = .ok c)
    (named' : place'.cell = .ok c) {input : String}
    (restates : ((empty options).run edits).Restates c input) :
    let s := (empty options).run edits
    (∃ stats, s.set place input = .ok (s, stats)) ∧
      ∀ x s' stats', s.set place' x = .ok (s', stats') →
        ∃ stats, s'.set place input = .ok (s, stats) := by
  intro s
  have settled : Settled s := settled_run on edits
  refine ⟨?_, fun x s' stats' changed => ?_⟩
  · exact restates.set_again settled settled rfl (fun _ _ => rfl) (fun _ _ => rfl) named
  · obtain ⟨d, found, edit⟩ := editAt_set changed
    obtain rfl : c = d := Except.ok.inj (named'.symm.trans found)
    obtain ⟨w, rewritten, -, (sheet : s' = _), -⟩ := edit.exists_rewritten settled.wired
    have graph : s'.graph = w.graph := by
      rw [sheet]
      exact (sameFormulas_recalculateReaders w c).graph
    refine restates.set_again settled (settled.step edit.step) (options_step edit.step)
      (fun d hd => ?_) (fun d hd => ?_) named
    · exact (contentAt_set named' changed d).trans (if_neg hd.symm)
    · rw [graph]
      exact rewritten.readsOf_of_ne hd

/-- B1 reads A1 and is read by C1. -/
def linked : List Edit :=
  [.set (.at ⟨0, 0⟩) "x", .set (.at ⟨0, 1⟩) " =A1&A1", .set (.at ⟨0, 2⟩) "=B1"]

/-- B1 is made to read D1 in the meantime. -/
theorem reentry_undoes_linked :
    ((empty {}).run linked).Restates ⟨0, 1⟩ "=A1&A1" ∧
      (∃ s' stats', ((empty {}).run linked).set (.at ⟨0, 1⟩) "=D1" = .ok (s', stats') ∧
        s'.valueAt ⟨0, 2⟩ = .empty ∧
        ∃ stats, s'.set (.named "b1") "=A1&A1" = .ok ((empty {}).run linked, stats)) ∧
      ((empty {}).run linked).valueAt ⟨0, 2⟩ = .text "xx" := by
  have held : ((empty {}).run linked).contentAt ⟨0, 1⟩ = some (.formula "=A1&A1") := by
    decide +kernel
  have restates : ((empty {}).run linked).Restates ⟨0, 1⟩ "=A1&A1" := by
    unfold Restates
    rw [held]
  have named : (Place.named "b1").cell = .ok ⟨0, 1⟩ := by decide +kernel
  have named' : (Place.at ⟨0, 1⟩).cell = .ok ⟨0, 1⟩ := rfl
  have changed : (((empty {}).run linked).set (.at ⟨0, 1⟩) "=D1").toOption.map
      (fun r => r.1.valueAt ⟨0, 2⟩) = some .empty := by decide +kernel
  obtain ⟨⟨s', stats'⟩, edited, value⟩ := Option.map_eq_some_iff.1 changed
  have accepted := toOption_eq_some edited
  obtain ⟨-, undone⟩ := reentry_undoes rfl linked named named' restates
  exact ⟨restates, ⟨s', stats', accepted, value, undone _ _ _ accepted⟩, by decide +kernel⟩

end Worksheet.Sheet
