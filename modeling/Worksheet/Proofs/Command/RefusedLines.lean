/-
  A script and the same script without the lines that were refused (`runScript_withoutLines`). They
  print the same sheet and the same totals, although the lines are edits of one sheet that goes
  through all of them. A line that is refused leaves no trace on the sheet, so the run of what is
  left over finds every other line in the state in which the first run found it
  (`foldl_step_unrefused`). That the lines are numbered anew does not matter, for a line acts by its
  edit only (`scriptLines_withoutLines`).
-/
import Worksheet.Command.Run
import Worksheet.Proofs.Sheet.Refusal

namespace Worksheet.Command

/-! ## Running in place -/

/-- Runs one line on the sheet in place. What a refused edit has written stays. -/
def Progress.stepInPlace (p : Progress) (l : Line) : Progress :=
  match (InPlace.set (.named l.place) l.input).run p.sheet with
  | .ok stats sheet => { p with sheet, totals := p.totals + stats }
  | .error fault sheet => { p with sheet, refused := (l, fault) :: p.refused }

/-- Runs the lines of a script on one sheet, which is empty at first. -/
def runLinesInPlace (options : Options) (lines : List Line) : Progress :=
  lines.foldl Progress.stepInPlace ⟨.empty options, .zero, []⟩

theorem Progress.stepInPlace_eq (p : Progress) (l : Line) : p.stepInPlace l = p.step l := by
  unfold stepInPlace step
  rw [InPlace.set_run]
  cases p.sheet.set (.named l.place) l.input with
  | error fault => rfl
  | ok result => rfl

theorem runLinesInPlace_eq (options : Options) (lines : List Line) :
    runLinesInPlace options lines = runLines options lines := by
  have steps : Progress.stepInPlace = Progress.step := by
    funext p l
    exact p.stepInPlace_eq l
  unfold runLinesInPlace runLines
  rw [steps]

/-! ## Refusals -/

/-- The lines that a run from a sheet refuses, in order. -/
def refusals (s : Sheet) : List Line → List (Line × SheetFault)
  | [] => []
  | l :: ls =>
    match s.set (.named l.place) l.input with
    | .ok (s, _) => refusals s ls
    | .error fault => (l, fault) :: refusals s ls

/-- The lines that do not have the number of a refused one. -/
def unrefused (s : Sheet) (ls : List Line) : List Line :=
  ls.filter fun l => l.number ∉ (refusals s ls).map (·.1.number)

variable {s s' : Sheet} {stats : Stats} {fault : SheetFault} {l : Line} {ls : List Line}

theorem refused_foldl_step (p : Progress) (ls : List Line) :
    (ls.foldl Progress.step p).refused = (refusals p.sheet ls).reverse ++ p.refused := by
  induction ls generalizing p with
  | nil => rfl
  | cons l ls ih =>
    rw [List.foldl_cons, ih]
    cases result : p.sheet.set (.named l.place) l.input with
    | error fault =>
      rw [Progress.step, result, refusals, result, List.reverse_cons, List.append_assoc]
      rfl
    | ok edited => rw [Progress.step, result, refusals, result]

theorem mem_of_mem_refusals {r : Line × SheetFault} (h : r ∈ refusals s ls) : r.1 ∈ ls := by
  fun_induction refusals s ls with
  | case1 => cases h
  | case2 _ l ls _ _ _ ih => exact List.mem_cons_of_mem l (ih h)
  | case3 _ l ls _ _ ih =>
    rcases List.mem_cons.1 h with rfl | h
    · exact List.mem_cons_self
    · exact List.mem_cons_of_mem l (ih h)

/-- Lines of which no two have the same number. -/
def Numbered (ls : List Line) : Prop := ls.Pairwise fun l l' => l.number ≠ l'.number

theorem unrefused_cons_of_ok (numbered : Numbered (l :: ls))
    (accepted : s.set (.named l.place) l.input = .ok (s', stats)) :
    unrefused s (l :: ls) = l :: unrefused s' ls := by
  have later : refusals s (l :: ls) = refusals s' ls := by rw [refusals, accepted]
  have kept : l.number ∉ (refusals s' ls).map (·.1.number) := by
    intro mem
    obtain ⟨r, hr, eq⟩ := List.mem_map.1 mem
    exact (List.pairwise_cons.1 numbered).1 r.1 (mem_of_mem_refusals hr) eq.symm
  unfold unrefused
  rw [later]
  exact List.filter_cons_of_pos (decide_eq_true kept)

theorem unrefused_cons_of_error (numbered : Numbered (l :: ls))
    (refused : s.set (.named l.place) l.input = .error fault) :
    unrefused s (l :: ls) = unrefused s ls := by
  have first : (refusals s (l :: ls)).map (·.1.number) =
      l.number :: (refusals s ls).map (·.1.number) := by rw [refusals, refused]; rfl
  unfold unrefused
  rw [first, List.filter_cons_of_neg (by simp)]
  refine List.filter_congr fun l' mem => ?_
  have other : l'.number ≠ l.number := ((List.pairwise_cons.1 numbered).1 l' mem).symm
  simp [other]

/-! ## Two runs -/

/-- What a line does, wherever it stands. -/
def Line.edit (l : Line) : String × String := (l.place, l.input)

/-- Two runs are at the same sheet and have the same totals. -/
structure Progress.Same (p q : Progress) : Prop where
  sheet : p.sheet = q.sheet
  totals : p.totals = q.totals

/-- The induction goes along the lines of the first run. The second one makes a step only if the
    first one accepts its line, and it makes the same step. -/
theorem foldl_step_unrefused (numbered : Numbered ls) {ls' : List Line} {p q : Progress}
    (same : p.Same q) (edits : ls'.map Line.edit = (unrefused p.sheet ls).map Line.edit) :
    (ls.foldl Progress.step p).Same (ls'.foldl Progress.step q) ∧
      (ls'.foldl Progress.step q).refused = q.refused := by
  induction ls generalizing ls' p q with
  | nil =>
    obtain rfl : ls' = [] := List.map_eq_nil_iff.1 edits
    exact ⟨same, rfl⟩
  | cons l ls ih =>
    have numbered' : Numbered ls := (List.pairwise_cons.1 numbered).2
    cases result : p.sheet.set (.named l.place) l.input with
    | error fault =>
      have step : p.step l = { p with refused := (l, fault) :: p.refused } := by
        rw [Progress.step, result]
      rw [unrefused_cons_of_error numbered result] at edits
      rw [List.foldl_cons, step]
      exact ih numbered' ⟨same.sheet, same.totals⟩ edits
    | ok edited =>
      obtain ⟨s', stats⟩ := edited
      rw [unrefused_cons_of_ok numbered result, List.map_cons] at edits
      obtain ⟨l', later, rfl, edit, edits⟩ := List.map_eq_cons_iff.1 edits
      obtain ⟨place, input⟩ := Prod.mk.inj edit
      have step : p.step l = { p with sheet := s', totals := p.totals + stats } := by
        rw [Progress.step, result]
      have step' : q.step l' = { q with sheet := s', totals := q.totals + stats } := by
        rw [Progress.step, ← same.sheet, place, input, result]
      rw [List.foldl_cons, List.foldl_cons, step, step']
      refine ih numbered' ⟨rfl, ?_⟩ edits
      exact congrArg (· + stats) same.totals

/-! ## Lines of a text -/

/-- The script without the lines that have one of the given numbers, counted from 1. -/
def withoutLines (numbers : List Nat) (script : String) : String :=
  let kept := ((splitLines script.toList).zipIdx 1).filter fun line => line.2 ∉ numbers
  String.ofList (['\n'].intercalate (kept.map Prod.fst))

theorem splitLines_eq_splitOn (cs : List Char) : splitLines cs = cs.splitOn '\n' := by
  induction cs with
  | nil => rfl
  | cons c cs ih =>
    rw [List.splitOn_cons_eq_if_modifyHead, ← ih]
    show prepend c (splitLines cs) = _
    unfold prepend
    by_cases h : c = '\n'
    · rw [if_pos h, if_pos (beq_iff_eq.2 h)]
    · rw [if_neg h, if_neg (mt beq_iff_eq.1 h)]
      cases lines : splitLines cs with
      | nil => exact absurd (ih.symm.trans lines) (List.splitOn_ne_nil _ _)
      | cons line lines => rfl

/-- Lines hold no line breaks. -/
theorem not_mem_of_mem_splitLines {cs line : List Char} (h : line ∈ splitLines cs) :
    '\n' ∉ line := by
  rw [splitLines_eq_splitOn] at h
  induction cs generalizing line with
  | nil =>
    obtain rfl := List.mem_singleton.1 h
    exact List.not_mem_nil
  | cons c cs ih =>
    rw [List.splitOn_cons_eq_if_modifyHead] at h
    split at h
    · rcases List.mem_cons.1 h with rfl | h
      · exact List.not_mem_nil
      · exact ih h
    · next visible =>
      cases lines : cs.splitOn '\n' with
      | nil => exact absurd lines (List.splitOn_ne_nil _ _)
      | cons first later =>
        rw [lines] at h ih
        rcases List.mem_cons.1 h with rfl | h
        · intro mem
          rcases List.mem_cons.1 mem with eq | mem
          · exact visible (beq_iff_eq.2 eq.symm)
          · exact ih List.mem_cons_self mem
        · exact ih (List.mem_cons_of_mem first h)

/-- A script is its lines, with line breaks between them. -/
theorem withoutLines_nil (script : String) : withoutLines [] script = script := by
  have all : ((splitLines script.toList).zipIdx 1).filter (fun line => line.2 ∉ ([] : List Nat)) =
      (splitLines script.toList).zipIdx 1 := List.filter_eq_self.2 fun _ _ => by simp
  unfold withoutLines
  dsimp only
  rw [all, List.zipIdx_map_fst, splitLines_eq_splitOn, List.intercalate_splitOn,
    String.ofList_toList]

example : withoutLines [2, 4] "A1 1\nB1 =B1\nA2 =A1\nA" = "A1 1\nA2 =A1" := by decide +kernel

/-! ## Edits of a script -/

/-- What a line of text does, if it is an edit. -/
def editOf? (cs : List Char) : Option (String × String) := (Line.ofChars? 0 cs).map Line.edit

theorem edit_ofChars? (number : Nat) (cs : List Char) :
    (Line.ofChars? number cs).map Line.edit = editOf? cs := by
  unfold editOf? Line.ofChars?
  dsimp only
  split <;> rfl

theorem number_of_ofChars? {number : Nat} {cs : List Char} {l : Line}
    (h : Line.ofChars? number cs = some l) : l.number = number := by
  unfold Line.ofChars? at h
  dsimp only at h
  split at h
  · cases h
  · cases h
  · cases h
    rfl

theorem edits_filterMap (lines : List (List Char × Nat)) :
    (lines.filterMap fun (cs, number) => Line.ofChars? number cs).map Line.edit =
      (lines.map Prod.fst).filterMap editOf? := by
  rw [List.map_filterMap, List.filterMap_map]
  exact List.filterMap_congr fun line _ => edit_ofChars? line.2 line.1

theorem edits_scriptLines (script : String) :
    (scriptLines script).map Line.edit = (splitLines script.toList).filterMap editOf? := by
  unfold scriptLines
  rw [edits_filterMap, List.zipIdx_map_fst]

theorem filter_filterMap (numbers : List Nat) (lines : List (List Char × Nat)) :
    (lines.filterMap fun (cs, number) => Line.ofChars? number cs).filter (·.number ∉ numbers) =
      (lines.filter (·.2 ∉ numbers)).filterMap fun (cs, number) => Line.ofChars? number cs := by
  rw [List.filter_filterMap, List.filterMap_filter]
  refine List.filterMap_congr fun line _ => ?_
  show (Line.ofChars? line.2 line.1).filter _ = if _ then Line.ofChars? line.2 line.1 else none
  cases read : Line.ofChars? line.2 line.1 with
  | none => rw [Option.filter_none, ite_self]
  | some l => rw [Option.filter_some, number_of_ofChars? read]

/-- The edits that are left over are those of the lines with other numbers. -/
theorem scriptLines_withoutLines (numbers : List Nat) (script : String) :
    (scriptLines (withoutLines numbers script)).map Line.edit =
      ((scriptLines script).filter (·.number ∉ numbers)).map Line.edit := by
  rw [edits_scriptLines]
  unfold scriptLines withoutLines
  dsimp only
  rw [filter_filterMap, edits_filterMap, String.toList_ofList]
  generalize left : ((splitLines script.toList).zipIdx 1).filter (·.2 ∉ numbers) = kept
  have whole : ∀ line ∈ kept.map Prod.fst, '\n' ∉ line := by
    intro line mem
    rw [← left] at mem
    obtain ⟨numbered, mem', rfl⟩ := List.mem_map.1 mem
    exact not_mem_of_mem_splitLines (List.fst_mem_of_mem_zipIdx (List.mem_filter.1 mem').1)
  by_cases none : kept.map Prod.fst = []
  · rw [none]
    rfl
  · rw [splitLines_eq_splitOn, List.splitOn_intercalate '\n' whole none]

theorem numbered_scriptLines (script : String) : Numbered (scriptLines script) := by
  have ascending : ((splitLines script.toList).zipIdx 1).Pairwise fun a b => a.2 < b.2 := by
    rw [← List.pairwise_map, List.zipIdx_map_snd]
    exact List.pairwise_lt_range'
  refine List.Pairwise.filterMap _ ?_ ascending
  intro a b lt l hl l' hl' eq
  rw [number_of_ofChars? hl, number_of_ofChars? hl'] at eq
  exact Nat.ne_of_lt lt eq

/-! ## The script without its refused lines -/

/-- The numbers of the lines that a run refused. -/
def Progress.refusedNumbers (p : Progress) : List Nat := p.refused.map (·.1.number)

/-- What is left over of a script is run to the same sheet and the same totals, and nothing of it
    is refused. -/
theorem runLines_withoutLines (options : Options) (script : String) :
    let p := runLines options (scriptLines script)
    let q := runLines options (scriptLines (withoutLines p.refusedNumbers script))
    p.Same q ∧ q.refused = [] := by
  intro p q
  have refused : p.refused = (refusals (.empty options) (scriptLines script)).reverse := by
    rw [← List.append_nil (List.reverse _)]
    exact refused_foldl_step ⟨.empty options, .zero, []⟩ (scriptLines script)
  have left : (scriptLines script).filter (·.number ∉ p.refusedNumbers) =
      unrefused (.empty options) (scriptLines script) := by
    refine List.filter_congr fun l _ => decide_eq_decide.2 (not_congr ?_)
    rw [Progress.refusedNumbers, refused, List.map_reverse, List.mem_reverse]
  have edits := scriptLines_withoutLines p.refusedNumbers script
  rw [left] at edits
  exact foldl_step_unrefused (numbered_scriptLines script) ⟨rfl, rfl⟩ edits

/-- A script and what is left over of it without the lines that were refused, each run on one sheet
    in place. Both print the same sheet and the same totals; the second run refuses no line and
    succeeds. The first one fails if and only if it refused a line, and then it reports which lines
    it refused, and how many. -/
theorem runScript_withoutLines (json : Bool) (options : Options) (script : String) :
    let p := runLines options (scriptLines script)
    let rest := withoutLines p.refusedNumbers script
    let q := runLines options (scriptLines rest)
    (∀ text, runLinesInPlace options (scriptLines text) = runLines options (scriptLines text)) ∧
      q.sheet = p.sheet ∧ q.totals = p.totals ∧ q.refused = [] ∧
      runScript json options rest = ⟨0, sheetReport json p.sheet, statsLine p.totals⟩ ∧
      (p.refused = [] → rest = script ∧
        runScript json options script = ⟨0, sheetReport json p.sheet, statsLine p.totals⟩) ∧
      (p.refused ≠ [] → runScript json options script =
        ⟨1, sheetReport json p.sheet,
          String.join (p.refused.reverse.map fun (l, fault) => refusalLine l fault) ++
            statsLine p.totals ++
            failureReport s!"{p.refused.length} edit(s) rejected" none⟩) := by
  intro p rest q
  obtain ⟨same, refused⟩ : p.Same q ∧ q.refused = [] := runLines_withoutLines options script
  have success (text : String) (h : (runLines options (scriptLines text)).refused = []) :
      runScript json options text =
        ⟨0, sheetReport json (runLines options (scriptLines text)).sheet,
          statsLine (runLines options (scriptLines text)).totals⟩ := by
    unfold runScript
    dsimp only
    rw [h]
    rfl
  refine ⟨fun text => runLinesInPlace_eq options _, same.sheet.symm, same.totals.symm, refused,
    ?_, fun none => ⟨?_, success script none⟩, fun some => ?_⟩
  · rw [success rest refused, ← same.sheet, ← same.totals]
  · show withoutLines (p.refused.map _) script = script
    rw [none]
    exact withoutLines_nil script
  · unfold runScript
    exact if_neg (mt List.isEmpty_iff.1 some)

end Worksheet.Command
