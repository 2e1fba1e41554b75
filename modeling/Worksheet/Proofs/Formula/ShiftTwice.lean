/-
  Shifting a formula twice. A reference that was shifted is read back as the moved address, so a
  second shift moves that on, and two moves are one (`Address.moved_moved`). The text between is
  cut into the same lexemes, therefore what holds of one reference holds of the whole formula: two
  shifts are one by the sum of the offsets, or none (`shiftBody_shiftBody`). When they cancel out,
  every reference is back in its place, but for the form in which it is written
  (`Lexeme.shift_zero`).
-/
import Worksheet.Proofs.Formula.Shifting

namespace Worksheet

variable {rows cols rows' cols' : Int}

/-! ## Shifted lexemes -/

variable {l l' l'' : Lexeme} {ls ls' ls'' : List Lexeme}

/-- What becomes of a lexeme that is read as an address. -/
theorem Lexeme.shift_cell {a : Address} (isCell : l.kind = .cell)
    (parsed : Address.parse l.value = .ok a) :
    l.shift rows cols = .ok l' ↔
      a.StaysOnGrid rows cols ∧ l' = { l with raw := (a.moved rows cols).chars } := by
  simp only [Lexeme.shift_eq_ok, isCell, ne_eq, not_true_eq_false, false_and, false_or, true_and,
    parsed, Except.ok.injEq, exists_eq_left']

/-- A reference that is written anew is read back. -/
theorem Lexeme.parse_value_moved {a : Address} (isCell : l.kind = .cell) (h : a.OnGrid) :
    Address.parse { l with raw := a.chars }.value = .ok a := by
  have value : { l with raw := a.chars }.value = a.text := by
    unfold Lexeme.value
    rw [isCell]
    show String.ofList (Text.asciiUpper a.chars) = a.text
    rw [asciiUpper_chars]
    rfl
  rw [value]
  exact Address.parse_text h

/-- A shifted lexeme is shifted on as the original one is by the sum of the offsets. -/
theorem Lexeme.shift_shift (h : l.shift rows cols = .ok l') :
    l'.shift rows' cols' = .ok l'' ↔ l.shift (rows + rows') (cols + cols') = .ok l'' := by
  rcases Lexeme.shift_eq_ok.1 h with ⟨notCell, rfl⟩ | ⟨isCell, a, parsed, stays, rfl⟩
  · simp [Lexeme.shift_eq_ok, notCell]
  · rw [Lexeme.shift_cell isCell parsed, ← Address.staysOnGrid_moved stays,
      ← Address.moved_moved stays]
    exact Lexeme.shift_cell (l := { l with raw := _ }) isCell
      (Lexeme.parse_value_moved isCell stays.onGrid)

theorem Shifted.trans_iff (h : Shifted rows cols ls ls') :
    Shifted rows' cols' ls' ls'' ↔ Shifted (rows + rows') (cols + cols') ls ls'' := by
  induction h generalizing ls'' with
  | nil => rw [Shifted, Shifted, List.forall₂_nil_left_iff, List.forall₂_nil_left_iff]
  | cons first _ ih =>
    unfold Shifted at ih ⊢
    simp only [List.forall₂_cons_left_iff, Lexeme.shift_shift first, ih]

/-! ## Normal form -/

/-- A reference in normal form; other lexemes stay. -/
def Lexeme.normal (l : Lexeme) : Lexeme :=
  if l.kind = .cell then { l with raw := Address.normalForm l.raw } else l

/-- A formula with its references in normal form and everything else as it is written. -/
def normalBody (body : List Char) : List Char :=
  let s := scan body
  { s with lexemes := s.lexemes.map Lexeme.normal }.chars

/-- There are no blanks in a reference. -/
theorem TokenAt.isBlank_eq_false {c : Char} {cs tail : List Char} (h : TokenAt c cs .cell tail) :
    ∀ d ∈ c :: tail, Text.isBlank d = false := by
  cases h with
  | single single => exact absurd rfl (kind_of_singleKind? single).2.2
  | word begins kind_eq =>
    obtain ⟨p, chars⟩ := isReference_iff.1 (isReference_of_wordKind kind_eq)
    exact chars ▸ fun d => AddressParts.isBlank_of_mem_chars

theorem Cuts.isBlank_eq_false {cs ending : List Char} (h : Cuts cs ls ending) :
    ∀ l ∈ ls, l.kind = .cell → ∀ c ∈ l.raw, Text.isBlank c = false := by
  induction h with
  | blank => exact nofun
  | token _ _ token _ ih =>
    refine List.forall_mem_cons.2 ⟨?_, ih⟩
    rintro rfl
    exact token.isBlank_eq_false

/-- A reference that is read as an address is read as the one with its normal form. -/
theorem Lexeme.chars_of_parse {a : Address} (isCell : l.kind = .cell)
    (visible : ∀ c ∈ l.raw, Text.isBlank c = false) (parsed : Address.parse l.value = .ok a) :
    a.chars = Address.normalForm l.raw := by
  have value : l.value = String.ofList (Text.asciiUpper l.raw) := by
    unfold Lexeme.value
    rw [isCell]
  have capitals : ∀ c ∈ Text.asciiUpper l.raw, Text.isBlank c = false := by
    intro c hc
    obtain ⟨d, hd, rfl⟩ := List.mem_map.1 hc
    rw [Text.isBlank_toUpper]
    exact visible d hd
  rw [value, Address.parse, String.toList_ofList, Text.trimBoth_of_not_blank capitals] at parsed
  rw [Address.chars_of_ofChars parsed, Address.normalForm_asciiUpper]

/-- A lexeme that can be shifted at all is put into normal form by a shift that moves nothing. -/
theorem Lexeme.shift_zero (h : l.shift rows cols = .ok l')
    (visible : l.kind = .cell → ∀ c ∈ l.raw, Text.isBlank c = false) :
    l.shift 0 0 = .ok l.normal := by
  rcases Lexeme.shift_eq_ok.1 h with ⟨notCell, rfl⟩ | ⟨isCell, a, parsed, -, rfl⟩
  · exact Lexeme.shift_eq_ok.2 (.inl ⟨notCell, if_neg notCell⟩)
  · have onGrid : a.OnGrid := Address.onGrid_of_parse parsed
    refine (Lexeme.shift_cell isCell parsed).2 ⟨Address.staysOnGrid_zero onGrid, ?_⟩
    rw [Lexeme.normal, if_pos isCell, Address.moved_zero,
      Lexeme.chars_of_parse isCell (visible isCell) parsed]

theorem Shifted.zero (h : Shifted rows cols ls ls')
    (visible : ∀ l ∈ ls, l.kind = .cell → ∀ c ∈ l.raw, Text.isBlank c = false) :
    Shifted 0 0 ls (ls.map Lexeme.normal) := by
  induction h with
  | nil => exact .nil
  | cons first _ ih =>
    obtain ⟨head, later⟩ := List.forall_mem_cons.1 visible
    exact .cons (Lexeme.shift_zero first head) (ih later)

/-! ## Shifted formulas -/

/-- A formula that was shifted is cut into the shifted lexemes. -/
theorem scan_of_shiftBody {body moved : List Char} {e : Expr} (parsed : parseBody body = .ok e)
    (shifted : shiftBody rows cols body = .ok moved) :
    ∃ ls ls' ending, scan body = ⟨ls, .blank ending⟩ ∧ Shifted rows cols ls ls' ∧
      scan moved = ⟨ls', .blank ending⟩ := by
  obtain ⟨ts, tokens, read⟩ := bind_eq_ok.1 parsed
  obtain ⟨ls, ending, scanned, rfl⟩ := exists_scan_of_tokenize tokens
  obtain ⟨derived, -⟩ := parseTokens_eq_ok_iff.1 read
  have ends : NumbersEnd (ls.map Lexeme.kind) := by
    rw [← kind_tokensFrom 0]
    exact derived.numbersEnd
  obtain ⟨ls', shiftedLexemes, rfl⟩ := (shiftBody_eq_ok scanned).1 shifted
  obtain ⟨text, cut, -⟩ := (scan_eq_iff.1 scanned).shift shiftedLexemes ends
  rw [cut.chars_eq]
  exact ⟨ls, ls', ending, scanned, shiftedLexemes, scan_eq_iff.2 cut⟩

/-- A shifted formula is shifted on, or fails to be, as the formula itself is by the sum of the
    offsets, and with the same text. A shift there and back gives the formula with its references
    in normal form and everything else as it was written. -/
theorem shiftBody_shiftBody {body moved : List Char} {e : Expr} (parsed : parseBody body = .ok e)
    (shifted : shiftBody rows cols body = .ok moved) :
    (∀ rows' cols' text, shiftBody rows' cols' moved = .ok text ↔
      shiftBody (rows + rows') (cols + cols') body = .ok text) ∧
    shiftBody (-rows) (-cols) moved = .ok (normalBody body) := by
  obtain ⟨ls, ls', ending, scanned, shiftedLexemes, scannedMoved⟩ :=
    scan_of_shiftBody parsed shifted
  have twice (rows' cols' : Int) (text : List Char) : shiftBody rows' cols' moved = .ok text ↔
      shiftBody (rows + rows') (cols + cols') body = .ok text := by
    simp only [shiftBody_eq_ok scannedMoved, shiftBody_eq_ok scanned, shiftedLexemes.trans_iff]
  refine ⟨twice, (twice _ _ _).2 ?_⟩
  rw [Int.add_right_neg, Int.add_right_neg, shiftBody_eq_ok scanned]
  refine ⟨_, shiftedLexemes.zero (scan_eq_iff.1 scanned).isBlank_eq_false, ?_⟩
  rw [normalBody, scanned]

/-- A formula with leading zeros, small letters, anchors and a text that is not plain. -/
def paddedBody : List Char := "SUM( a009 :$b$10)&\"é a009\"&TRUE".toList

theorem shiftBody_shiftBody_padded :
    shiftBody 1 25 paddedBody = .ok "SUM( Z10 :$B$10)&\"é a009\"&TRUE".toList ∧
      shiftBody (-1) (-25) "SUM( Z10 :$B$10)&\"é a009\"&TRUE".toList = .ok (normalBody paddedBody) ∧
      normalBody paddedBody = "SUM( A9 :$B$10)&\"é a009\"&TRUE".toList ∧
      shiftBody 1 26 paddedBody = .ok "SUM( AA10 :$B$10)&\"é a009\"&TRUE".toList ∧
      shiftBody 0 1 "SUM( Z10 :$B$10)&\"é a009\"&TRUE".toList =
        .ok "SUM( AA10 :$B$10)&\"é a009\"&TRUE".toList := by
  have once : shiftBody 1 25 paddedBody = .ok "SUM( Z10 :$B$10)&\"é a009\"&TRUE".toList := by
    decide +kernel
  have atOnce : shiftBody 1 26 paddedBody = .ok "SUM( AA10 :$B$10)&\"é a009\"&TRUE".toList := by
    decide +kernel
  have normal : normalBody paddedBody = "SUM( A9 :$B$10)&\"é a009\"&TRUE".toList := by
    decide +kernel
  have reads : (parseBody paddedBody).isOk = true := by decide +kernel
  cases parsed : parseBody paddedBody with
  | error fault =>
    rw [parsed] at reads
    cases reads
  | ok e =>
    obtain ⟨twice, back⟩ := shiftBody_shiftBody parsed once
    exact ⟨once, back, normal, atOnce, (twice 0 1 _).2 atOnce⟩

end Worksheet
