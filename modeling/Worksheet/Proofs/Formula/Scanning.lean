/-
  What scanning a text gives. The tokens of a text are not arbitrary: a name is a word, and it is
  not taken for a truth value or a reference, unless a parenthesis follows it; and a number has no
  sign (`scanned_tokensFrom`). The other way round, the characters of a token are cut from the
  front of a text as that token when the text does not go on with them (`scan_lexeme`).
-/
import Worksheet.Formula.Expr
import Worksheet.Formula.Lexeme
import Worksheet.Proofs.Formula.Numeral
import Worksheet.Proofs.Grid.AddressText

namespace Worksheet

/-! ## Characters of words -/

theorem toNat_lt_of_isWordChar {c : Char} (h : isWordChar c = true) : c.toNat < 128 := by
  simp only [isWordChar, Bool.or_eq_true, beq_iff_eq] at h
  rcases h with ((h | rfl) | rfl) | rfl
  · exact Text.toNat_lt_of_isAlphanum h
  all_goals decide

theorem isWordChar_of_isAlphanum {c : Char} (h : c.isAlphanum = true) : isWordChar c = true := by
  simp [isWordChar, h]

theorem isWordChar_of_beginsWord {c : Char} (h : beginsWord c = true) : isWordChar c = true := by
  simp only [beginsWord, Bool.or_eq_true, beq_iff_eq] at h
  rcases h with (h | rfl) | rfl
  · exact isWordChar_of_isAlphanum (Text.isAlphanum_of_isAlpha h)
  all_goals decide

/-- What is decided about the first character of a word. -/
theorem of_beginsWord {P : Char → Prop} [DecidablePred P] {c : Char} (h : beginsWord c = true)
    (all : ∀ n < 128, beginsWord (Char.ofNat n) = true → P (Char.ofNat n)) : P c :=
  Text.of_ascii (P := fun c => beginsWord c = true → P c) all
    (toNat_lt_of_isWordChar (isWordChar_of_beginsWord h)) h

/-- A word without anchors, such as the name of a function. -/
structure IsWord (cs : List Char) : Prop where
  begins : ∃ c tail, cs = c :: tail ∧ beginsWord c = true
  chars : ∀ c ∈ cs, isWordChar c = true
  noAnchor : '$' ∉ cs

/-! ## Tokens at the start of a text -/

/-- The token at the start of the text `c :: cs`, by what it begins with. -/
inductive TokenAt (c : Char) (cs : List Char) : TokenKind → List Char → Prop where
  | single {kind : TokenKind} (single : singleKind? c = some kind) : TokenAt c cs kind []
  | less (mark : c = '<') :
      TokenAt c cs .operator ((cs.take 1).filter fun d => d = '=' || d = '>')
  | greater (mark : c = '>') : TokenAt c cs .operator ((cs.take 1).filter (· = '='))
  | text {s : List Char} (mark : c = '"') (contents : Text.contents? cs = some s) :
      TokenAt c cs .text (Text.doubled s ++ ['"'])
  | number (begins : beginsNumber c cs = true) :
      TokenAt c cs .number (numberChars (c :: cs)).tail
  | word {kind : TokenKind} (begins : beginsWord c = true)
      (kind_eq : wordKind (c :: cs.takeWhile isWordChar)
        ((cs.dropWhile isWordChar).head? = some '(') = kind)
      (noAnchor : kind = .name → '$' ∉ c :: cs.takeWhile isWordChar) :
      TokenAt c cs kind (cs.takeWhile isWordChar)

theorem kind_of_singleKind? {c : Char} {kind : TokenKind} (h : singleKind? c = some kind) :
    kind ≠ .number ∧ kind ≠ .name ∧ kind ≠ .cell := by
  unfold singleKind? at h
  split at h <;> cases h <;> decide

/-- What begins a number begins no other token. -/
theorem of_beginsNumber {c : Char} {cs : List Char} (h : beginsNumber c cs = true) :
    Text.isBlank c = false ∧ singleKind? c = none ∧ c ≠ '<' ∧ c ≠ '>' ∧ c ≠ '"' ∧ c ≠ '-' := by
  simp only [beginsNumber, Bool.or_eq_true, Bool.and_eq_true, beq_iff_eq] at h
  rcases h with digit | ⟨rfl, -⟩
  · have lower : c.toNat < 128 := Text.toNat_lt_of_isAlphanum (Text.isAlphanum_of_isDigit digit)
    exact Text.of_ascii (P := fun c => c.isDigit = true → Text.isBlank c = false ∧
      singleKind? c = none ∧ c ≠ '<' ∧ c ≠ '>' ∧ c ≠ '"' ∧ c ≠ '-') (by decide) lower digit
  · decide

/-- What begins a word begins no other token. -/
theorem not_begins_of_beginsWord {c : Char} (h : beginsWord c = true) :
    Text.isBlank c = false ∧ singleKind? c = none ∧ c ≠ '<' ∧ c ≠ '>' ∧ c ≠ '"' ∧
      ∀ cs, beginsNumber c cs = false := by
  obtain ⟨blank, single, less, greater, mark, digit, point⟩ :
      Text.isBlank c = false ∧ singleKind? c = none ∧ c ≠ '<' ∧ c ≠ '>' ∧ c ≠ '"' ∧
        c.isDigit = false ∧ c ≠ '.' :=
    of_beginsWord (P := fun c => Text.isBlank c = false ∧ singleKind? c = none ∧ c ≠ '<' ∧
      c ≠ '>' ∧ c ≠ '"' ∧ c.isDigit = false ∧ c ≠ '.') h (by decide)
  exact ⟨blank, single, less, greater, mark, fun cs => by simp [beginsNumber, digit, point]⟩

theorem tokenAt_eq_ok {c : Char} {cs tail : List Char} {kind : TokenKind} :
    tokenAt c cs = .ok (kind, tail) ↔ TokenAt c cs kind tail := by
  constructor
  · intro h
    unfold tokenAt at h
    split at h
    · next single =>
      cases h
      exact .single single
    split at h
    · next mark =>
      cases h
      exact .less mark
    split at h
    · next mark =>
      cases h
      exact .greater mark
    split at h
    · next mark =>
      split at h
      · next contents =>
        cases h
        exact .text mark contents
      · cases h
    split at h
    · next begins =>
      cases h
      exact .number begins
    split at h
    · next begins =>
      dsimp only at h
      split at h
      · cases h
      · next anchored =>
        cases h
        exact .word begins rfl fun kind anchor => anchored ⟨kind, anchor⟩
    · cases h
  · intro h
    cases h with
    | single single =>
      unfold tokenAt
      rw [single]
    | less mark =>
      subst mark
      rfl
    | greater mark =>
      subst mark
      rfl
    | text mark contents =>
      subst mark
      unfold tokenAt
      have noSingle : singleKind? '"' = none := rfl
      rw [noSingle, contents]
      rfl
    | number begins =>
      obtain ⟨-, single, less, greater, mark, -⟩ := of_beginsNumber begins
      unfold tokenAt
      rw [single]
      simp only [less, greater, mark, begins, if_false, if_true]
    | word begins kind_eq noAnchor =>
      obtain ⟨-, single, less, greater, mark, noNumber⟩ := not_begins_of_beginsWord begins
      unfold tokenAt
      rw [single]
      simp only [less, greater, mark, noNumber, begins, kind_eq, if_false, if_true,
        Bool.false_eq_true]
      exact if_neg fun h => noAnchor h.1 h.2

theorem wordKind_cases (word : List Char) (called : Bool) :
    wordKind word called = .name ∨ wordKind word called = .boolean ∨
      wordKind word called = .cell := by
  unfold wordKind
  split
  · exact .inl rfl
  split
  · exact .inr (.inl rfl)
  split
  · exact .inr (.inr rfl)
  · exact .inl rfl

theorem isReference_of_wordKind {word : List Char} {called : Bool}
    (h : wordKind word called = .cell) : isReference word = true := by
  unfold wordKind at h
  split at h
  · cases h
  split at h
  · cases h
  split at h
  · assumption
  · cases h

/-- How the token of a name came about. -/
theorem TokenAt.name {c : Char} {cs tail : List Char} (h : TokenAt c cs .name tail) :
    IsWord (c :: tail) ∧ (wordKind (c :: tail) false = .name ∨
      (cs.drop tail.length).head? = some '(') := by
  cases h with
  | single single => exact absurd rfl (kind_of_singleKind? single).2.1
  | word begins kind_eq noAnchor =>
    constructor
    · refine ⟨⟨c, _, rfl, begins⟩, ?_, noAnchor rfl⟩
      intro d hd
      rcases List.mem_cons.1 hd with rfl | hd
      · exact isWordChar_of_beginsWord begins
      · exact List.mem_takeWhile_imp hd
    · rw [Text.drop_length_takeWhile]
      by_cases called : (cs.dropWhile isWordChar).head? = some '('
      · exact .inr called
      · rw [decide_eq_false called] at kind_eq
        exact .inl kind_eq

theorem splitSign_of_ne {c : Char} (h : c ≠ '-') (cs : List Char) :
    (Decimal.splitSign (c :: cs)).1 = false := by
  unfold Decimal.splitSign
  split
  · next eq =>
    cases eq
    exact absurd rfl h
  · rfl
  · rfl

/-- Numbers are scanned without a sign. -/
theorem TokenAt.splitSign {c : Char} {cs tail : List Char} (h : TokenAt c cs .number tail) :
    (Decimal.splitSign (c :: tail)).1 = false := by
  cases h with
  | single single => exact absurd rfl (kind_of_singleKind? single).1
  | number begins => exact splitSign_of_ne (of_beginsNumber begins).2.2.2.2.2 _
  | word _ kind_eq =>
    rcases wordKind_cases _ _ with h | h | h <;> exact nomatch kind_eq.symm.trans h

/-! ## Scanning token by token -/

/-- The scan with lexemes before it. -/
def Scan.prepend (ls : List Lexeme) (s : Scan) : Scan := { s with lexemes := ls ++ s.lexemes }

/-- A token at the very start of a text is cut off, and scanning goes on after it. -/
theorem scan_cons {c : Char} {cs tail : List Char} {kind : TokenKind}
    (visible : Text.isBlank c = false) (token : tokenAt c cs = .ok (kind, tail)) :
    scan (c :: cs) = (scan (cs.drop tail.length)).prepend [⟨[], kind, c :: tail⟩] := by
  have noGap : (c :: cs).takeWhile Text.isBlank = [] := by simp [visible]
  have all : (c :: cs).dropWhile Text.isBlank = c :: cs := by simp [visible]
  rw [scan.eq_def, noGap]
  dsimp only
  split
  · next empty =>
    rw [all] at empty
    cases empty
  · next d rest start =>
    rw [all] at start
    cases start
    rw [token]
    rfl

/-! ## Tokens of a text -/

/-- A token is as scanning leaves it before the tokens that follow. -/
structure ScannedBefore (t : Token) (next : List Token) : Prop where
  number : t.kind = .number → (Decimal.splitSign t.value.toList).1 = false
  word : t.kind = .name → IsWord t.value.toList
  name : t.kind = .name →
    wordKind t.value.toList false = .name ∨ ∃ u ∈ next.head?, u.kind = .leftParen

/-- The tokens are as scanning leaves them. -/
def Scanned : List Token → Prop
  | [] => True
  | t :: ts => ScannedBefore t ts ∧ Scanned ts

theorem Scanned.of_append {ts us : List Token} (h : Scanned (ts ++ us)) : Scanned us := by
  induction ts with
  | nil => exact h
  | cons t ts ih => exact ih h.2

/-- The tokens of a text are as scanning leaves them. -/
theorem scanned_tokensFrom (cs : List Char) (offset : Nat) :
    Scanned (tokensFrom offset (scan cs).lexemes) := by
  fun_induction scan cs generalizing offset with
  | case1 => trivial
  | case2 => trivial
  | case3 cs gap c rest h kind tail token later ih =>
    refine ⟨⟨?_, ?_, ?_⟩, ih _⟩
    · rintro rfl
      show (Decimal.splitSign (String.ofList (c :: tail)).toList).1 = false
      rw [String.toList_ofList]
      exact (tokenAt_eq_ok.1 token).splitSign
    · rintro rfl
      show IsWord (String.ofList (c :: tail)).toList
      rw [String.toList_ofList]
      exact (tokenAt_eq_ok.1 token).name.1
    · rintro rfl
      show wordKind (String.ofList (c :: tail)).toList false = .name ∨ _
      rw [String.toList_ofList]
      rcases (tokenAt_eq_ok.1 token).name.2 with name | called
      · exact .inl name
      · -- The parenthesis stands right after the word, so it is the next token.
        obtain ⟨more, text⟩ := List.head?_eq_some_iff.1 called
        have start : later = (scan more).prepend [⟨[], .leftParen, ['(']⟩] := by
          show scan (rest.drop tail.length) = _
          rw [text]
          exact scan_cons (by decide) rfl
        rw [start]
        exact .inr ⟨_, rfl, rfl⟩

/-! ## Printed tokens -/

/-- The characters that may follow an operand. -/
def operandEnds : List Char := ['+', '-', '*', '/', '^', '&', '=', '<', '>', ')', ',', ':']

/-- The text begins with nothing that an operand could go on with. -/
def EndsOperand (rest : List Char) : Prop := ∀ c ∈ rest.head?, c ∈ operandEnds

/-- What is decided about the characters that may follow an operand. -/
theorem EndsOperand.head {P : Char → Prop} [DecidablePred P] {rest : List Char}
    (h : EndsOperand rest) (all : operandEnds.all (fun c => decide (P c)) = true) :
    ∀ c ∈ rest.head?, P c :=
  fun c hc => of_decide_eq_true (List.all_eq_true.1 all c (h c hc))

/-- The characters of a token are cut off when they are the token at the start of the text. -/
theorem scan_append {c : Char} {tail rest : List Char} {kind : TokenKind}
    (visible : Text.isBlank c = false) (token : tokenAt c (tail ++ rest) = .ok (kind, tail)) :
    scan (c :: tail ++ rest) = (scan rest).prepend [⟨[], kind, c :: tail⟩] := by
  rw [List.cons_append, scan_cons visible token, List.drop_left]

theorem scan_single {c : Char} {kind : TokenKind} (visible : Text.isBlank c = false)
    (single : singleKind? c = some kind) (rest : List Char) :
    scan (c :: rest) = (scan rest).prepend [⟨[], kind, [c]⟩] := by
  have token : tokenAt c rest = .ok (kind, []) := by
    unfold tokenAt
    rw [single]
  exact scan_cons visible token

theorem scan_prefixOp (op : PrefixOp) (rest : List Char) :
    scan (op.symbol.toList ++ rest) =
      (scan rest).prepend [⟨[], .operator, op.symbol.toList⟩] := by
  cases op with
  | negate => exact scan_single (by decide) rfl rest
  | plus => exact scan_single (by decide) rfl rest

/-- An operator is cut off before a text that does not go on with a longer one. -/
theorem scan_binaryOp (op : BinaryOp) {rest : List Char}
    (stops : ∀ c ∈ rest.head?, c ≠ '=' ∧ c ≠ '>') :
    scan (op.symbol.toList ++ rest) =
      (scan rest).prepend [⟨[], .operator, op.symbol.toList⟩] := by
  have noLonger {p : Char → Bool} (h : ∀ c, p c = true → c = '=' ∨ c = '>') :
      (rest.take 1).filter p = [] := by
    cases rest with
    | nil => rfl
    | cons c rest =>
      obtain ⟨equal, greater⟩ := stops c rfl
      refine List.filter_eq_nil_iff.2 fun d hd hp => ?_
      obtain rfl := List.mem_singleton.1 hd
      exact (h d hp).elim equal greater
  cases op with
  | less =>
    have token : tokenAt '<' ([] ++ rest) = .ok (.operator, []) := by
      show Except.ok (TokenKind.operator, (rest.take 1).filter _) = _
      rw [noLonger fun c hc => by simpa using hc]
    exact scan_append (by decide) token
  | greater =>
    have token : tokenAt '>' ([] ++ rest) = .ok (.operator, []) := by
      show Except.ok (TokenKind.operator, (rest.take 1).filter _) = _
      rw [noLonger fun c hc => .inl (by simpa using hc)]
    exact scan_append (by decide) token
  | notEqual => exact scan_append (c := '<') (by decide) rfl
  | lessEqual => exact scan_append (c := '<') (by decide) rfl
  | greaterEqual => exact scan_append (c := '>') (by decide) rfl
  | _ => exact scan_single (by decide) rfl rest

theorem tokenAt_text (s : List Char) {rest : List Char} (stops : rest.head? ≠ some '"') :
    TokenAt '"' (Text.doubled s ++ ['"'] ++ rest) .text (Text.doubled s ++ ['"']) := by
  refine .text rfl ?_
  rw [List.append_assoc]
  exact Text.contents?_doubled s rest stops

theorem scan_text (s : List Char) {rest : List Char} (stops : rest.head? ≠ some '"') :
    scan (Text.quoted s ++ rest) = (scan rest).prepend [⟨[], .text, Text.quoted s⟩] :=
  scan_append (by decide) (tokenAt_eq_ok.2 (tokenAt_text s stops))

/-- A word is cut off before a text that does not go on with it. -/
theorem tokenAt_word {c : Char} {tail rest : List Char} {kind : TokenKind}
    (begins : beginsWord c = true) (chars : ∀ d ∈ tail, isWordChar d = true)
    (stops : ∀ d ∈ rest.head?, isWordChar d = false)
    (hkind : wordKind (c :: tail) (rest.head? = some '(') = kind)
    (noAnchor : kind = .name → '$' ∉ c :: tail) : TokenAt c (tail ++ rest) kind tail := by
  have word := @TokenAt.word c (tail ++ rest) kind begins
  rw [Text.takeWhile_append_of_stops chars stops, Text.dropWhile_append_of_stops chars stops]
    at word
  exact word hkind noAnchor

theorem scan_word {c : Char} {tail rest : List Char} {kind : TokenKind}
    (begins : beginsWord c = true) (chars : ∀ d ∈ tail, isWordChar d = true)
    (stops : ∀ d ∈ rest.head?, isWordChar d = false)
    (hkind : wordKind (c :: tail) (rest.head? = some '(') = kind)
    (noAnchor : kind = .name → '$' ∉ c :: tail) :
    scan (c :: tail ++ rest) = (scan rest).prepend [⟨[], kind, c :: tail⟩] :=
  scan_append (not_begins_of_beginsWord begins).1
    (tokenAt_eq_ok.2 (tokenAt_word begins chars stops hkind noAnchor))

theorem scan_name {cs rest : List Char} (word : IsWord cs)
    (stops : ∀ d ∈ rest.head?, isWordChar d = false)
    (name : wordKind cs (rest.head? = some '(') = .name) :
    scan (cs ++ rest) = (scan rest).prepend [⟨[], .name, cs⟩] := by
  obtain ⟨c, tail, rfl, begins⟩ := word.begins
  exact scan_word begins (fun d hd => word.chars d (List.mem_cons_of_mem c hd)) stops name
    fun _ => word.noAnchor

theorem EndsOperand.not_called {rest : List Char} (h : EndsOperand rest) :
    rest.head? ≠ some '(' := by
  intro called
  exact absurd (h '(' called) (by decide)

theorem scan_boolean (b : Bool) {rest : List Char} (ends : EndsOperand rest) :
    scan ((Value.booleanText b).toList ++ rest) =
      (scan rest).prepend [⟨[], .boolean, (Value.booleanText b).toList⟩] := by
  have stops := ends.head (P := fun c => isWordChar c = false) (by decide)
  cases b with
  | true =>
    refine scan_word (c := 'T') (by decide) (List.all_eq_true.1 (by decide)) stops ?_ nofun
    rw [decide_eq_false ends.not_called]
    decide
  | false =>
    refine scan_word (c := 'F') (by decide) (List.all_eq_true.1 (by decide)) stops ?_ nofun
    rw [decide_eq_false ends.not_called]
    decide

/-! ### References -/

theorem isWordChar_of_mem_chars {a : Address} {c : Char} (h : c ∈ a.chars) :
    isWordChar c = true := by
  rcases Address.mem_chars h with rfl | upper | digit
  · decide
  · exact isWordChar_of_isAlphanum (Text.isAlphanum_of_isAlpha (Text.isAlpha_of_isUpper upper))
  · exact isWordChar_of_isAlphanum (Text.isAlphanum_of_isDigit digit)

theorem exists_begins_chars (a : Address) :
    ∃ c tail, a.chars = c :: tail ∧ beginsWord c = true := by
  rw [← Address.chars_parts, AddressParts.chars]
  cases a.parts.colFixed with
  | true => exact ⟨'$', _, rfl, by decide⟩
  | false =>
    obtain ⟨c, tail, letters⟩ := List.exists_cons_of_ne_nil a.parts.letters_ne_nil
    have alpha : c.isAlpha = true := a.parts.isAlpha_of_mem c (letters ▸ List.mem_cons_self)
    refine ⟨c, tail ++ a.parts.rowChars, by rw [letters]; rfl, ?_⟩
    simp [beginsWord, alpha]

/-- An address is written in upper case. -/
theorem asciiUpper_chars (a : Address) : Text.asciiUpper a.chars = a.chars := by
  have fixed : ∀ c ∈ a.chars, c.toUpper = c := by
    intro c hc
    have plain : ∀ n < 128, (Char.ofNat n).isUpper = true ∨ (Char.ofNat n).isDigit = true →
        (Char.ofNat n).toUpper = Char.ofNat n := by decide
    rcases Address.mem_chars hc with rfl | h
    · decide
    · exact Text.of_ascii (P := fun c => c.isUpper = true ∨ c.isDigit = true → c.toUpper = c) plain
        (toNat_lt_of_isWordChar (isWordChar_of_mem_chars hc)) h
  exact (List.map_congr_left fixed).trans (List.map_id _)

/-- A text is taken for a reference if it has the form of an address. -/
theorem isReference_iff {cs : List Char} :
    isReference cs = true ↔ ∃ p : AddressParts, p.chars = cs := by
  constructor
  · intro h
    simp only [isReference, Bool.and_eq_true, Bool.not_eq_true', List.all_eq_true] at h
    obtain ⟨⟨letter, nonempty⟩, isDigit⟩ := h
    refine AddressParts.exists_of_pieces ?_ (by simpa using nonempty) isDigit
    cases after : (Address.splitAnchor cs).2 with
    | nil =>
      rw [after] at letter
      cases letter
    | cons c more =>
      rw [after] at letter
      rw [List.takeWhile_cons_of_pos (show c.isAlpha = true from letter)]
      exact List.cons_ne_nil _ _
  · rintro ⟨p, rfl⟩
    have head : (p.letters ++ p.rowChars).head?.any Char.isAlpha = true := by
      obtain ⟨c, more, letters⟩ := List.exists_cons_of_ne_nil p.letters_ne_nil
      rw [letters]
      exact p.isAlpha_of_mem c (letters ▸ List.mem_cons_self)
    have nonempty : p.digits.isEmpty = false := by simp [p.digits_ne_nil]
    have digits : p.digits.all Char.isDigit = true := List.all_eq_true.2 p.isDigit_of_mem
    unfold isReference
    rw [p.splitAnchor_chars]
    dsimp only
    rw [p.dropWhile_isAlpha, p.splitAnchor_rowChars, head, nonempty, digits]
    rfl

theorem isReference_chars (a : Address) : isReference a.chars = true :=
  isReference_iff.2 ⟨a.parts, a.chars_parts⟩

/-- The row keeps an address from being a truth value. -/
theorem wordKind_chars (a : Address) : wordKind a.chars false = .cell := by
  obtain ⟨d, ds, digits⟩ :=
    List.exists_cons_of_ne_nil (Nat.toDigits_ne_nil (n := a.row + 1) (b := 10))
  have digit : d.isDigit = true := Text.isDigit_of_mem_toDigits (digits ▸ List.mem_cons_self)
  have mem : d ∈ a.chars := by
    simp [Address.chars, digits]
  have notWord {word : List Char} (letters : word.any Char.isDigit = false) :
      a.chars ≠ word := by
    rintro rfl
    rw [List.any_eq_true.2 ⟨d, mem, digit⟩] at letters
    cases letters
  have noTruth : ¬ (a.chars = "TRUE".toList ∨ a.chars = "FALSE".toList) := by
    rintro (h | h)
    · exact notWord (by decide) h
    · exact notWord (by decide) h
  unfold wordKind
  rw [asciiUpper_chars, if_neg (by decide), if_neg noTruth, if_pos (isReference_chars a)]

theorem exists_tokenAt_address (a : Address) {rest : List Char}
    (stops : ∀ d ∈ rest.head?, isWordChar d = false) (notCalled : rest.head? ≠ some '(') :
    ∃ c tail, a.chars = c :: tail ∧ beginsWord c = true ∧
      TokenAt c (tail ++ rest) .cell tail := by
  obtain ⟨c, tail, chars, begins⟩ := exists_begins_chars a
  have kind : wordKind (c :: tail) (rest.head? = some '(') = .cell := by
    rw [decide_eq_false notCalled, ← chars]
    exact wordKind_chars a
  have word : ∀ d ∈ tail, isWordChar d = true := by
    intro d hd
    refine isWordChar_of_mem_chars (a := a) ?_
    rw [chars]
    exact List.mem_cons_of_mem c hd
  exact ⟨c, tail, chars, begins, tokenAt_word begins word stops kind nofun⟩

theorem scan_address (a : Address) {rest : List Char} (ends : EndsOperand rest) :
    scan (a.chars ++ rest) = (scan rest).prepend [⟨[], .cell, a.chars⟩] := by
  have stops := ends.head (P := fun c => isWordChar c = false) (by decide)
  obtain ⟨c, tail, chars, begins, token⟩ := exists_tokenAt_address a stops ends.not_called
  rw [chars]
  exact scan_append (not_begins_of_beginsWord begins).1 (tokenAt_eq_ok.2 token)

/-! ### Numbers -/

/-- A number is cut off before a text that does not go on with it. -/
theorem tokenAt_number {c : Char} {tail rest : List Char} (numeral : IsNumeral (c :: tail))
    (ends : EndsNumeral rest) (begins : beginsNumber c (tail ++ rest) = true) :
    TokenAt c (tail ++ rest) .number tail := by
  have number := TokenAt.number begins
  rw [← List.cons_append, numeral.numberChars_append ends] at number
  exact number

theorem scan_number {cs rest : List Char} (plain : Decimal.IsPlain cs)
    (ends : EndsOperand rest) :
    scan (cs ++ rest) = (scan rest).prepend [⟨[], .number, cs⟩] := by
  have numeral := plain.isNumeral
  obtain ⟨c, tail, rfl, digit⟩ := plain.exists_cons
  have begins : beginsNumber c (tail ++ rest) = true := by simp [beginsNumber, digit]
  have ends' : EndsNumeral rest :=
    ends.head (P := fun c => c.isDigit = false ∧ c ≠ '.' ∧ c ≠ 'e' ∧ c ≠ 'E') (by decide)
  exact scan_append (of_beginsNumber begins).1
    (tokenAt_eq_ok.2 (tokenAt_number numeral ends' begins))

end Worksheet
