/-
  Where the tokens of a text stand. A lexeme is a gap of blanks and the characters of a token, so
  that the tokens lie in the text one after the other, with nothing but blanks between them
  (`spans_tokensFrom`), and each is shown as it is written there, apart from the case of letters in
  references and truth values (`display_of_tokenAt`). Places are counted in bytes; `Boundary` says
  which of them lie between characters, and `slice` takes the characters between two of them.
-/
import Worksheet.Proofs.Formula.LetterCase

namespace Worksheet

open Text (asciiUpper)

/-! ## Bytes -/

theorem byteLength_cons (c : Char) (cs : List Char) :
    byteLength (c :: cs) = c.utf8Size + byteLength cs := rfl

theorem byteLength_append (cs ds : List Char) :
    byteLength (cs ++ ds) = byteLength cs + byteLength ds := by
  induction cs with
  | nil => exact (Nat.zero_add _).symm
  | cons c cs ih => rw [List.cons_append, byteLength_cons, byteLength_cons, ih, Nat.add_assoc]

theorem byteLength_pos {cs : List Char} (h : cs ≠ []) : 0 < byteLength cs := by
  cases cs with
  | nil => exact absurd rfl h
  | cons c cs =>
    have := c.utf8Size_pos
    rw [byteLength_cons]
    omega

/-- The characters below 128 take one byte each. -/
theorem byteLength_of_ascii {cs : List Char} (h : ∀ c ∈ cs, c.toNat < 128) :
    byteLength cs = cs.length := by
  induction cs with
  | nil => rfl
  | cons c cs ih =>
    obtain ⟨first, later⟩ := List.forall_mem_cons.1 h
    have one : c.utf8Size = 1 := Text.of_ascii (P := fun c => c.utf8Size = 1) (by decide) first
    rw [byteLength_cons, one, ih later, List.length_cons, Nat.add_comm]

/-- A byte of a text that is the first one of a character, or the end of the text. -/
def Boundary (cs : List Char) (n : Nat) : Prop :=
  ∃ before after, cs = before ++ after ∧ byteLength before = n

/-- The characters of a text that begin before a byte, and those that begin there or later. -/
def splitAtByte : Nat → List Char → List Char × List Char
  | 0, cs => ([], cs)
  | _ + 1, [] => ([], [])
  | n + 1, c :: cs =>
    let (before, after) := splitAtByte (n + 1 - c.utf8Size) cs
    (c :: before, after)

/-- The characters of a text from one byte up to another one. -/
def slice (cs : List Char) (start stop : Nat) : List Char :=
  (splitAtByte (stop - start) (splitAtByte start cs).2).1

theorem splitAtByte_append (before after : List Char) :
    splitAtByte (byteLength before) (before ++ after) = (before, after) := by
  induction before with
  | nil => cases after <;> rfl
  | cons c before ih =>
    obtain ⟨k, size⟩ : ∃ k, byteLength (c :: before) = k + 1 :=
      Nat.exists_eq_succ_of_ne_zero (Nat.ne_of_gt (byteLength_pos (List.cons_ne_nil _ _)))
    have left : k + 1 - c.utf8Size = byteLength before := by
      rw [← size, byteLength_cons, Nat.add_sub_cancel_left]
    rw [size, List.cons_append, splitAtByte, left, ih]

theorem slice_append (before middle after : List Char) :
    slice (before ++ (middle ++ after)) (byteLength before)
      (byteLength before + byteLength middle) = middle := by
  rw [slice, splitAtByte_append, Nat.add_sub_cancel_left, splitAtByte_append]

/-! ## Lexemes -/

/-- The characters of a token as they are shown: references and truth values in capitals, all else as
    it is written. -/
def Lexeme.shown (l : Lexeme) : List Char :=
  if l.kind = .boolean ∨ l.kind = .cell then asciiUpper l.raw else l.raw

/-- A lexeme as scanning cuts it off. -/
structure Lexeme.Cut (l : Lexeme) : Prop where
  blanks : ∀ c ∈ l.gap, Text.isBlank c = true
  raw_ne_nil : l.raw ≠ []
  display : ∀ start stop,
    (Token.display ⟨l.kind, l.value, start, stop⟩).toList = l.shown

/-- A token is shown as it is written, apart from the case of letters. -/
theorem display_of_tokenAt {c : Char} {cs tail : List Char} {kind : TokenKind} (gap : List Char)
    (h : TokenAt c cs kind tail) (start stop : Nat) :
    (Token.display ⟨kind, Lexeme.value ⟨gap, kind, c :: tail⟩, start, stop⟩).toList =
      Lexeme.shown ⟨gap, kind, c :: tail⟩ := by
  cases kind with
  | text =>
    obtain ⟨s, rfl, rfl, -⟩ := h.exists_contents
    have contents : Text.contents? (Text.doubled s ++ ['"']) = some s :=
      Text.contents?_doubled s [] nofun
    have value : Lexeme.value ⟨gap, .text, '"' :: (Text.doubled s ++ ['"'])⟩ = String.ofList s := by
      unfold Lexeme.value
      rw [List.tail_cons, contents]
      rfl
    rw [value]
    show (String.ofList (Text.quoted (String.ofList s).toList)).toList = _
    rw [String.toList_ofList, String.toList_ofList]
    rfl
  | _ => exact String.toList_ofList

theorem cut_of_mem_scan (cs : List Char) : ∀ l ∈ (scan cs).lexemes, l.Cut := by
  fun_induction scan cs with
  | case1 =>
    intro l hl
    exact absurd hl List.not_mem_nil
  | case2 =>
    intro l hl
    exact absurd hl List.not_mem_nil
  | case3 cs gap c rest start kind tail token later ih =>
    refine List.forall_mem_cons.2 ⟨⟨?_, List.cons_ne_nil _ _, ?_⟩, ih⟩
    · exact fun d hd => List.mem_takeWhile_imp hd
    · exact display_of_tokenAt gap (tokenAt_eq_ok.1 token)

/-- Scanning loses nothing of a text. -/
theorem chars_scan (cs : List Char) : (scan cs).chars = cs := by
  have split (cs : List Char) : cs.takeWhile Text.isBlank ++ cs.dropWhile Text.isBlank = cs :=
    List.takeWhile_append_dropWhile
  fun_induction scan cs with
  | case1 cs gap empty =>
    show cs.takeWhile Text.isBlank = cs
    conv_rhs => rw [← split cs, empty, List.append_nil]
  | case2 cs gap c rest start cause error =>
    conv_rhs => rw [← split cs, start]
    rfl
  | case3 cs gap c rest start kind tail token later ih =>
    obtain ⟨after, rfl⟩ := (tokenAt_eq_ok.1 token).isPrefix
    rw [List.drop_left] at ih
    have later_chars : later.lexemes.flatMap Lexeme.chars ++ later.ending.chars = after := by
      show (scan ((tail ++ after).drop tail.length)).chars = after
      rw [List.drop_left, ih]
    conv_rhs => rw [← split cs, start]
    show (Lexeme.chars ⟨gap, kind, c :: tail⟩ ++ later.lexemes.flatMap Lexeme.chars) ++
      later.ending.chars = _
    rw [List.append_assoc, later_chars]
    exact List.append_assoc gap (c :: tail) after

/-- What ends a scan: blanks up to the end of the text, or what cannot begin a token. -/
theorem ending_scan (cs : List Char) :
    (∃ gap, (scan cs).ending = .blank gap ∧ ∀ c ∈ gap, Text.isBlank c = true) ∨
      ∃ gap c rest cause, (scan cs).ending = .stray gap cause (c :: rest) ∧
        (∀ d ∈ gap, Text.isBlank d = true) ∧ tokenAt c rest = .error cause := by
  fun_induction scan cs with
  | case1 cs gap => exact .inl ⟨gap, rfl, fun c hc => List.mem_takeWhile_imp hc⟩
  | case2 cs gap c rest start cause error =>
    exact .inr ⟨gap, c, rest, cause, rfl, fun d hd => List.mem_takeWhile_imp hd, error⟩
  | case3 cs gap c rest start kind tail token later ih => exact ih

/-! ## Places -/

/-- The tokens lie one after the other in a text, with blanks between them. -/
structure Spans (body : List Char) (ts : List Token) : Prop where
  nonempty : ∀ t ∈ ts, t.start < t.stop
  ordered : ts.Pairwise fun t u => t.stop ≤ u.start
  boundaries : ∀ t ∈ ts, Boundary body t.start ∧ Boundary body t.stop
  /-- A character that begins in no token is a blank. -/
  blanks : ∀ before c after, body = before ++ c :: after →
    (∀ t ∈ ts, ¬ (t.start ≤ byteLength before ∧ byteLength before < t.stop)) →
      Text.isBlank c = true
  /-- A token is shown as it is written, references and truth values in capitals. -/
  display : ∀ t ∈ ts, t.display.toList =
    if t.kind = .boolean ∨ t.kind = .cell then asciiUpper (slice body t.start t.stop)
    else slice body t.start t.stop

/-- The token of a lexeme whose text begins at byte `offset`. -/
theorem exists_lexeme_of_mem {ls : List Lexeme} {offset : Nat} {t : Token}
    (h : t ∈ tokensFrom offset ls) :
    ∃ l ∈ ls, ∃ before after, ls.flatMap Lexeme.chars = before ++ (l.raw ++ after) ∧
      t = ⟨l.kind, l.value, offset + byteLength before,
        offset + byteLength before + byteLength l.raw⟩ := by
  induction ls generalizing offset with
  | nil => cases h
  | cons l ls ih =>
    rcases List.mem_cons.1 h with rfl | later
    · refine ⟨l, List.mem_cons_self, l.gap, ls.flatMap Lexeme.chars, ?_, rfl⟩
      rw [List.flatMap_cons, Lexeme.chars, List.append_assoc]
    · obtain ⟨l', mem, before, after, chars, rfl⟩ := ih later
      refine ⟨l', List.mem_cons_of_mem l mem, l.gap ++ l.raw ++ before, after, ?_, ?_⟩
      · rw [List.flatMap_cons, chars, Lexeme.chars]
        exact (List.append_assoc _ _ _).symm
      · simp only [byteLength_append, Nat.add_assoc]

theorem ordered_tokensFrom (ls : List Lexeme) (offset : Nat) :
    (tokensFrom offset ls).Pairwise fun t u => t.stop ≤ u.start := by
  induction ls generalizing offset with
  | nil => exact .nil
  | cons l ls ih =>
    refine List.pairwise_cons.2 ⟨fun t later => ?_, ih _⟩
    obtain ⟨l', -, before, after, -, rfl⟩ := exists_lexeme_of_mem later
    exact Nat.le_add_right _ _

/-- A character of a text in two parts stands in one of them. -/
theorem append_eq_append_cons {cs ds before after : List Char} {c : Char}
    (h : cs ++ ds = before ++ c :: after) :
    (∃ mid, cs = before ++ c :: mid) ∨
      ∃ between, before = cs ++ between ∧ ds = between ++ c :: after := by
  rcases List.append_eq_append_iff.1 h with ⟨between, first, second⟩ | ⟨mid, first, second⟩
  · exact .inr ⟨between, first, second⟩
  · cases mid with
    | nil => exact .inr ⟨[], by simpa using first.symm, by simpa using second.symm⟩
    | cons d mid =>
      obtain rfl := (List.cons.inj second).1
      exact .inl ⟨mid, first⟩

/-- A character that begins in no token stands in the gap before one, or after the last one. -/
theorem isBlank_of_outside {ls : List Lexeme} (cut : ∀ l ∈ ls, l.Cut) {ending : List Char}
    (blanks : ∀ c ∈ ending, Text.isBlank c = true) {offset : Nat} {before after : List Char}
    {c : Char} (chars : ls.flatMap Lexeme.chars ++ ending = before ++ c :: after)
    (outside : ∀ t ∈ tokensFrom offset ls,
      ¬ (t.start ≤ offset + byteLength before ∧ offset + byteLength before < t.stop)) :
    Text.isBlank c = true := by
  induction ls generalizing offset before with
  | nil =>
    refine blanks c ?_
    rw [← List.nil_append ending, ← List.flatMap_nil (f := Lexeme.chars), chars]
    simp
  | cons l ls ih =>
    obtain ⟨first, later⟩ := List.forall_mem_cons.1 cut
    obtain ⟨notFirst, notLater⟩ := List.forall_mem_cons.1 outside
    rw [List.flatMap_cons, Lexeme.chars, List.append_assoc, List.append_assoc] at chars
    rcases append_eq_append_cons chars with ⟨inGap, gap⟩ | ⟨afterGap, rfl, visible⟩
    · exact first.blanks c (by simp [gap])
    rw [byteLength_append] at notFirst
    rcases append_eq_append_cons visible with ⟨inToken, raw⟩ | ⟨between, rfl, left⟩
    · have size := byteLength_append afterGap (c :: inToken)
      have pos := byteLength_pos (List.cons_ne_nil c inToken)
      rw [← raw] at size
      dsimp only at notFirst
      exact absurd ⟨by omega, by omega⟩ notFirst
    · have place : offset + byteLength (l.gap ++ (l.raw ++ between)) =
          offset + byteLength l.gap + byteLength l.raw + byteLength between := by
        simp only [byteLength_append, Nat.add_assoc]
      rw [place] at notLater
      exact ih later left notLater

/-- The tokens of lexemes stand where the lexemes do. -/
theorem spans_tokensFrom {ls : List Lexeme} (cut : ∀ l ∈ ls, l.Cut) {ending : List Char}
    (blanks : ∀ c ∈ ending, Text.isBlank c = true) :
    Spans (ls.flatMap Lexeme.chars ++ ending) (tokensFrom 0 ls) := by
  constructor
  · intro t ht
    obtain ⟨l, mem, before, after, -, rfl⟩ := exists_lexeme_of_mem ht
    exact Nat.lt_add_of_pos_right (byteLength_pos (cut l mem).raw_ne_nil)
  · exact ordered_tokensFrom ls 0
  · intro t ht
    obtain ⟨l, -, before, after, chars, rfl⟩ := exists_lexeme_of_mem ht
    rw [chars]
    refine ⟨⟨before, l.raw ++ (after ++ ending), ?_, ?_⟩, before ++ l.raw, after ++ ending, ?_, ?_⟩
    · simp only [List.append_assoc]
    · exact (Nat.zero_add _).symm
    · simp only [List.append_assoc]
    · rw [byteLength_append, Nat.zero_add]
  · intro before c after chars outside
    rw [← Nat.zero_add (byteLength before)] at outside
    exact isBlank_of_outside cut blanks chars outside
  · intro t ht
    obtain ⟨l, mem, before, after, chars, rfl⟩ := exists_lexeme_of_mem ht
    rw [(cut l mem).display, chars, Nat.zero_add, List.append_assoc, List.append_assoc,
      slice_append]
    rfl

theorem spans_of_tokenize {body : List Char} {ts : List Token} (h : tokenize body = .ok ts) :
    Spans body ts := by
  obtain ⟨ls, ending, scanned, rfl⟩ := exists_scan_of_tokenize h
  have cut := cut_of_mem_scan body
  have whole := chars_scan body
  have ends := ending_scan body
  rw [scanned] at cut whole ends
  have blanks : ∀ c ∈ ending, Text.isBlank c = true := by
    rcases ends with ⟨gap, blank, blanks⟩ | ⟨gap, c, rest, cause, stray, -⟩
    · obtain rfl := Ending.blank.inj blank
      exact blanks
    · cases stray
  rw [← whole]
  exact spans_tokensFrom cut blanks

end Worksheet
