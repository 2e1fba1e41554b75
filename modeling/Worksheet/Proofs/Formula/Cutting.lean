/-
  Cutting texts into lexemes, as a relation. A text is cut into lexemes when each of them is the
  token at the start of what is left (`Cuts`); that is what scanning does (`scan_eq_iff`), and the
  lexemes make up the whole text (`Cuts.chars_eq`). The relation says what a token needs of the
  text after it: next to nothing, so that a token stays one when other text follows that starts in
  the same way (`TokenAt.congr`). Only a number may be cut short by its neighbour.
-/
import Mathlib.Data.List.TakeWhile
import Worksheet.Proofs.Formula.Scanning

namespace Worksheet

/-! ## Tokens are cut from the front -/

theorem numberChars_ne_nil {c : Char} {cs : List Char} (h : beginsNumber c cs = true) :
    numberChars (c :: cs) ≠ [] := by
  simp only [beginsNumber, Bool.or_eq_true, Bool.and_eq_true, beq_iff_eq] at h
  rcases h with digit | ⟨rfl, -⟩
  · simp [numberChars, Decimal.leadingDigits, digit]
  · simp [@numberChars_of_point ('.' :: cs) cs rfl]

/-- The number at the start of a text starts with its first character. -/
theorem numberChars_eq_cons {c : Char} {cs : List Char} (h : beginsNumber c cs = true) :
    numberChars (c :: cs) = c :: (numberChars (c :: cs)).tail := by
  rcases List.prefix_cons_iff.1 (numberChars_spec (c :: cs)).2 with nothing | ⟨tail, number, -⟩
  · exact absurd nothing (numberChars_ne_nil h)
  · rw [number, List.tail_cons]

theorem TokenAt.isPrefix {c : Char} {cs tail : List Char} {kind : TokenKind}
    (h : TokenAt c cs kind tail) : tail <+: cs := by
  cases h with
  | single => exact List.nil_prefix
  | less =>
    cases cs with
    | nil => exact List.nil_prefix
    | cons d cs =>
      by_cases goesOn : d = '=' ∨ d = '>' <;> simp [goesOn]
  | greater =>
    cases cs with
    | nil => exact List.nil_prefix
    | cons d cs =>
      by_cases goesOn : d = '=' <;> simp [goesOn]
  | @text s _ contents =>
    obtain ⟨rest, rfl⟩ := Text.doubled_prefix contents
    exact ⟨rest, by simp⟩
  | number begins =>
    have isPrefix := (numberChars_spec (c :: cs)).2
    rw [numberChars_eq_cons begins] at isPrefix
    exact (List.cons_prefix_cons.1 isPrefix).2
  | word => exact List.takeWhile_prefix _

/-! ## Cut texts -/

/-- The text is cut into the lexemes, and blanks are left at its end. -/
inductive Cuts : List Char → List Lexeme → List Char → Prop where
  | blank {gap : List Char} (blanks : ∀ c ∈ gap, Text.isBlank c = true) : Cuts gap [] gap
  | token {gap tail rest ending : List Char} {c : Char} {kind : TokenKind} {ls : List Lexeme}
      (blanks : ∀ d ∈ gap, Text.isBlank d = true) (visible : Text.isBlank c = false)
      (token : TokenAt c (tail ++ rest) kind tail) (later : Cuts rest ls ending) :
      Cuts (gap ++ c :: (tail ++ rest)) (⟨gap, kind, c :: tail⟩ :: ls) ending

/-- Nothing of a text gets lost. -/
theorem Cuts.chars_eq {cs ending : List Char} {ls : List Lexeme} (h : Cuts cs ls ending) :
    Scan.chars ⟨ls, .blank ending⟩ = cs := by
  induction h with
  | blank => rfl
  | @token gap tail rest ending c kind ls _ _ _ _ ih =>
    have later : ls.flatMap Lexeme.chars ++ ending = rest := ih
    simp [Scan.chars, Ending.chars, Lexeme.chars, later]

theorem cuts_of_scan (cs : List Char) : ∀ (ls : List Lexeme) (ending : List Char),
    scan cs = ⟨ls, .blank ending⟩ → Cuts cs ls ending := by
  have split (cs : List Char) : cs.takeWhile Text.isBlank ++ cs.dropWhile Text.isBlank = cs :=
    List.takeWhile_append_dropWhile
  fun_induction scan cs with
  | case1 cs gap empty =>
    intro ls ending h
    cases h
    rw [← split cs, empty, List.append_nil]
    exact .blank fun c hc => List.mem_takeWhile_imp hc
  | case2 =>
    intro ls ending h
    cases h
  | case3 cs gap c rest start kind tail token later ih =>
    intro ls ending h
    obtain ⟨rfl, ends⟩ := Scan.mk.inj h
    have visible : Text.isBlank c = false := by
      have first := List.head?_dropWhile_not Text.isBlank cs
      rw [start] at first
      exact first
    have cut := tokenAt_eq_ok.1 token
    have rest_cut : Cuts (rest.drop tail.length) later.lexemes ending :=
      ih _ _ (by rw [← ends])
    obtain ⟨rest, rfl⟩ := cut.isPrefix
    rw [List.drop_left] at rest_cut
    rw [← split cs, start]
    exact .token (fun d hd => List.mem_takeWhile_imp hd) visible cut rest_cut

theorem Cuts.scan_eq {cs ending : List Char} {ls : List Lexeme} (h : Cuts cs ls ending) :
    scan cs = ⟨ls, .blank ending⟩ := by
  induction h with
  | @blank gap blanks =>
    have nothing : gap.dropWhile Text.isBlank = [] := List.dropWhile_eq_nil_iff.2 blanks
    have all : gap.takeWhile Text.isBlank = gap := List.takeWhile_eq_self_iff.2 blanks
    rw [scan.eq_def, all]
    dsimp only
    split
    · rfl
    · next c rest start =>
      rw [nothing] at start
      cases start
  | @token gap tail rest ending c kind ls blanks visible token later ih =>
    have stops : ∀ d ∈ (c :: (tail ++ rest)).head?, Text.isBlank d = false := by
      intro d hd
      obtain rfl := Option.some.inj hd
      exact visible
    rw [scan.eq_def, Text.takeWhile_append_of_stops blanks stops]
    dsimp only
    split
    · next empty =>
      rw [Text.dropWhile_append_of_stops blanks stops] at empty
      cases empty
    · next d all start =>
      rw [Text.dropWhile_append_of_stops blanks stops] at start
      cases start
      rw [tokenAt_eq_ok.2 token]
      dsimp only
      rw [List.drop_left, ih]

theorem scan_eq_iff {cs ending : List Char} {ls : List Lexeme} :
    scan cs = ⟨ls, .blank ending⟩ ↔ Cuts cs ls ending :=
  ⟨cuts_of_scan cs ls ending, Cuts.scan_eq⟩

theorem exists_scan_of_tokenize {body : List Char} {ts : List Token}
    (h : tokenize body = .ok ts) :
    ∃ ls ending, scan body = ⟨ls, .blank ending⟩ ∧ ts = tokensFrom 0 ls := by
  unfold tokenize at h
  cases scanned : scan body with
  | mk ls ending =>
    rw [scanned] at h
    cases ending with
    | blank ending => exact ⟨ls, ending, rfl, (Except.ok.inj h).symm⟩
    | stray gap cause rest => cases cause <;> cases h

theorem tokenize_of_scan {body ending : List Char} {ls : List Lexeme}
    (h : scan body = ⟨ls, .blank ending⟩) : tokenize body = .ok (tokensFrom 0 ls) := by
  unfold tokenize
  rw [h]
  rfl

/-! ## Other text after a token -/

/-- Both texts start with the same character, or both start with a word. -/
def SameStart (cs ds : List Char) : Prop :=
  cs.head? = ds.head? ∨
    ∃ c ∈ cs.head?, ∃ d ∈ ds.head?, beginsWord c = true ∧ beginsWord d = true

theorem sameStart_append {gap cs ds : List Char} (h : SameStart cs ds) :
    SameStart (gap ++ cs) (gap ++ ds) := by
  cases gap with
  | nil => exact h
  | cons c gap => exact .inl rfl

namespace SameStart

variable {rest rest' : List Char}

/-- What holds of the start of one text and of all that begins a word holds of the other one. -/
theorem head {P : Char → Prop} (h : SameStart rest rest') (words : ∀ c, beginsWord c = true → P c)
    (all : ∀ c ∈ rest.head?, P c) : ∀ c ∈ rest'.head?, P c := by
  intro d hd
  rcases h with same | ⟨-, -, d', hd', -, begins⟩
  · exact all d (same ▸ hd)
  · obtain rfl := Option.some.inj (hd.symm.trans hd')
    exact words d begins

/-- A text that does not start with a word starts as the other one does. -/
theorem head?_eq (h : SameStart rest rest') (stops : ∀ c ∈ rest.head?, isWordChar c = false) :
    rest'.head? = rest.head? := by
  rcases h with same | ⟨c, hc, -, -, begins, -⟩
  · exact same.symm
  · have word := isWordChar_of_beginsWord begins
    rw [stops c hc] at word
    cases word

/-- The longer operators are found before both texts or before neither of them. -/
theorem take_one_filter {p : Char → Bool} (h : SameStart rest rest')
    (words : ∀ c, beginsWord c = true → p c = false) (tail : List Char) :
    ((tail ++ rest').take 1).filter p = ((tail ++ rest).take 1).filter p := by
  cases tail with
  | cons d tail => rfl
  | nil =>
    rw [List.nil_append, List.nil_append, List.take_one, List.take_one]
    rcases h with same | ⟨c, hc, d, hd, begins, begins'⟩
    · rw [same]
    · rw [Option.mem_def.1 hc, Option.mem_def.1 hd]
      simp [words c begins, words d begins']

end SameStart

/-- A text is read on with after its first part. -/
theorem Text.contents?_doubled_append (s cs : List Char) :
    contents? (doubled s ++ cs) = (contents? cs).map (s ++ ·) := by
  induction s with
  | nil => simp
  | cons c s ih =>
    by_cases mark : c = '"'
    · subst mark
      simp [contents?, ih, Function.comp_def]
    · simp [mark, contents?, ih, Function.comp_def]

/-- The closing mark of a text is not followed by another mark. -/
theorem Text.head?_ne_of_contents? {s rest : List Char}
    (h : contents? (doubled s ++ '"' :: rest) = some s) : rest.head? ≠ some '"' := by
  intro mark
  obtain ⟨more, rfl⟩ := List.head?_eq_some_iff.1 mark
  rw [contents?_doubled_append, contents?] at h
  obtain ⟨u, hu, same⟩ := Option.map_eq_some_iff.1 h
  obtain ⟨v, -, rfl⟩ := Option.map_eq_some_iff.1 hu
  have length := congrArg List.length same
  simp at length

/-- The text after a run of characters does not go on with it. -/
theorem Text.stops_of_takeWhile {p : Char → Bool} {run rest : List Char}
    (h : (run ++ rest).takeWhile p = run) : ∀ d ∈ rest.head?, p d = false := by
  intro d hd
  obtain ⟨more, rfl⟩ := List.head?_eq_some_iff.1 hd
  have after := Text.drop_length_takeWhile p (run ++ d :: more)
  rw [h, List.drop_left] at after
  have first := List.head?_dropWhile_not p (run ++ d :: more)
  rw [← after] at first
  exact first

theorem beginsNumber_congr {c : Char} {cs ds : List Char} (h : ds.head? = cs.head?) :
    beginsNumber c ds = beginsNumber c cs := by
  rw [beginsNumber, beginsNumber, h]

theorem endsNumeral_of_stops {rest : List Char}
    (stops : ∀ c ∈ rest.head?, isWordChar c = false) : EndsNumeral rest := by
  intro c hc
  have noWord := stops c hc
  refine ⟨Bool.eq_false_iff.2 fun digit => ?_, ?_, ?_, ?_⟩
  · rw [isWordChar_of_isAlphanum (Text.isAlphanum_of_isDigit digit)] at noWord
    cases noWord
  all_goals
    rintro rfl
    exact absurd noWord (by decide)

/-- A token stays one before other text that starts in the same way. A number needs to be followed
    by something else than a word. -/
theorem TokenAt.congr {c : Char} {tail rest rest' : List Char} {kind : TokenKind}
    (h : TokenAt c (tail ++ rest) kind tail) (same : SameStart rest rest')
    (ends : kind = .number → ∀ d ∈ rest.head?, isWordChar d = false) :
    TokenAt c (tail ++ rest') kind tail := by
  obtain ⟨taken, h, cut⟩ : ∃ taken, TokenAt c (tail ++ rest) kind taken ∧ taken = tail :=
    ⟨tail, h, rfl⟩
  cases h with
  | single single =>
    subst cut
    exact .single single
  | less mark =>
    have words (d : Char) (begins : beginsWord d = true) : (d = '=' || d = '>') = false :=
      of_beginsWord (P := fun d => (d = '=' || d = '>') = false) begins (by decide)
    have less := @TokenAt.less c (tail ++ rest') mark
    rw [same.take_one_filter words tail, cut] at less
    exact less
  | greater mark =>
    have words (d : Char) (begins : beginsWord d = true) : decide (d = '=') = false :=
      of_beginsWord (P := fun d => decide (d = '=') = false) begins (by decide)
    have greater := @TokenAt.greater c (tail ++ rest') mark
    rw [same.take_one_filter words tail, cut] at greater
    exact greater
  | @text s mark contents =>
    subst cut mark
    rw [List.append_assoc] at contents
    have stops : rest.head? ≠ some '"' := Text.head?_ne_of_contents? contents
    have words (d : Char) (begins : beginsWord d = true) : d ≠ '"' :=
      of_beginsWord (P := fun d => d ≠ '"') begins (by decide)
    refine tokenAt_text s fun mark => same.head words ?_ '"' mark rfl
    rintro d hd rfl
    exact stops hd
  | number begins =>
    have stops := ends rfl
    have heads := same.head?_eq stops
    have number := numberChars_eq_cons begins
    rw [cut] at number
    refine tokenAt_number (number ▸ (numberChars_spec _).1) ?_ ?_
    · exact endsNumeral_of_stops (by rw [heads]; exact stops)
    · rw [← begins]
      refine beginsNumber_congr ?_
      rw [List.head?_append, List.head?_append, heads]
  | word begins kind_eq noAnchor =>
    have stops := Text.stops_of_takeWhile cut
    have heads := same.head?_eq stops
    have chars : ∀ d ∈ tail, isWordChar d = true := by
      intro d hd
      rw [← cut] at hd
      exact List.mem_takeWhile_imp hd
    rw [cut, Text.dropWhile_append_of_stops chars stops] at kind_eq
    rw [cut] at noAnchor
    exact tokenAt_word begins chars (by rw [heads]; exact stops) (by rw [heads]; exact kind_eq)
      noAnchor

end Worksheet
