/-
  Printed expressions are read back (`parseBody_chars`). Three facts meet here. What was read from
  a text is printable: its references lie on the grid and its names are words that cannot be taken
  for something else (`Derives.printable`). The printed text of a printable expression is cut into
  the tokens it was printed as, since no token goes on with the one after it (`scan_chars`). And
  the grammar derives the expression from those tokens in the way it derived it from the original
  ones (`Derives.printed`). Nesting is measured on the expression, so the limit does not come
  between.
-/
import Worksheet.Proofs.Decimal.ReadBack
import Worksheet.Proofs.Formula.Completeness
import Worksheet.Proofs.Formula.Scanning

namespace Worksheet

namespace Expr

/-! ## Printable expressions -/

mutual

/-- The text of the expression can be told apart into its parts. -/
def Printable : Expr → Prop
  | .number x => x.isFinite = true ∧ Decimal.signBit x = false
  | .text _ | .boolean _ => True
  | .cell a => a.OnGrid
  | .range a b => a.OnGrid ∧ b.OnGrid
  | .name s => IsWord s.toList ∧ wordKind s.toList false = .name
  | .binary _ left right => left.Printable ∧ right.Printable
  | .prefixed _ operand => operand.Printable
  | .group inner => inner.Printable
  | .call function args =>
    IsWord function.toList ∧ Text.upper function = function ∧ ArgsPrintable args

/-- All arguments are printable. -/
def ArgsPrintable : List Expr → Prop
  | [] => True
  | e :: es => e.Printable ∧ ArgsPrintable es

end

/-! ## Lexemes of the printed text -/

mutual

/-- The lexemes of the text that an expression is printed as. -/
def lexemes : Expr → List Lexeme
  | .number x => [⟨[], .number, literalNumber.render x⟩]
  | .text s => [⟨[], .text, Text.quoted s.toList⟩]
  | .boolean b => [⟨[], .boolean, (Value.booleanText b).toList⟩]
  | .cell a => [⟨[], .cell, a.chars⟩]
  | .range a b => [⟨[], .cell, a.chars⟩, ⟨[], .colon, [':']⟩, ⟨[], .cell, b.chars⟩]
  | .name s => [⟨[], .name, s.toList⟩]
  | .binary op left right =>
    left.lexemes ++ ⟨[], .operator, op.symbol.toList⟩ :: right.lexemes
  | .prefixed op operand => ⟨[], .operator, op.symbol.toList⟩ :: operand.lexemes
  | .group inner => ⟨[], .leftParen, ['(']⟩ :: (inner.lexemes ++ [⟨[], .rightParen, [')']⟩])
  | .call function args =>
    ⟨[], .name, function.toList⟩ :: ⟨[], .leftParen, ['(']⟩ ::
      (argsLexemes args ++ [⟨[], .rightParen, [')']⟩])

/-- The lexemes of arguments, with commas between them. -/
def argsLexemes : List Expr → List Lexeme
  | [] => []
  | e :: es => e.lexemes ++ moreLexemes es

/-- The lexemes of further arguments, each after a comma. -/
def moreLexemes : List Expr → List Lexeme
  | [] => []
  | e :: es => ⟨[], .comma, [',']⟩ :: (e.lexemes ++ moreLexemes es)

end

end Expr

/-! ## First characters -/

/-- The text begins with nothing that an operator could go on with. -/
def OpensOperand (cs : List Char) : Prop := ∃ c tail, cs = c :: tail ∧ c ≠ '=' ∧ c ≠ '>'

theorem OpensOperand.append {cs : List Char} (h : OpensOperand cs) (rest : List Char) :
    OpensOperand (cs ++ rest) := by
  obtain ⟨c, tail, rfl, hc⟩ := h
  exact ⟨c, tail ++ rest, rfl, hc⟩

theorem OpensOperand.head {cs : List Char} (h : OpensOperand cs) :
    ∀ c ∈ cs.head?, c ≠ '=' ∧ c ≠ '>' := by
  obtain ⟨d, tail, rfl, hd⟩ := h
  intro c hc
  obtain rfl := Option.some.inj hc
  exact hd

theorem opensOperand_of_beginsWord {cs : List Char}
    (h : ∃ c tail, cs = c :: tail ∧ beginsWord c = true) : OpensOperand cs := by
  obtain ⟨c, tail, rfl, begins⟩ := h
  exact ⟨c, tail, rfl, of_beginsWord (P := fun c => c ≠ '=' ∧ c ≠ '>') begins (by decide)⟩

theorem opensOperand_of_isPlain {cs : List Char} (h : Decimal.IsPlain cs) :
    OpensOperand cs := by
  obtain ⟨c, tail, rfl, digit⟩ := h.exists_cons
  refine ⟨c, tail, rfl, ?_, ?_⟩
  · rintro rfl
    exact absurd digit (by decide)
  · rintro rfl
    exact absurd digit (by decide)

theorem isPlain_render_literal {x : Float} (finite : x.isFinite = true)
    (unsigned : Decimal.signBit x = false) : Decimal.IsPlain (literalNumber.render x) :=
  Decimal.isPlain_render rfl rfl finite unsigned

theorem opensOperand_chars : (e : Expr) → e.Printable → OpensOperand e.chars
  | .number _, ⟨finite, unsigned⟩ =>
    opensOperand_of_isPlain (isPlain_render_literal finite unsigned)
  | .text _, _ => ⟨'"', _, rfl, by decide, by decide⟩
  | .boolean true, _ => ⟨'T', _, rfl, by decide, by decide⟩
  | .boolean false, _ => ⟨'F', _, rfl, by decide, by decide⟩
  | .cell a, _ => opensOperand_of_beginsWord (exists_begins_chars a)
  | .range a _, _ => (opensOperand_of_beginsWord (exists_begins_chars a)).append _
  | .name _, ⟨word, _⟩ => opensOperand_of_beginsWord word.begins
  | .binary _ left _, ⟨printable, _⟩ => ((opensOperand_chars left printable).append _).append _
  | .prefixed .negate _, _ => ⟨'-', _, rfl, by decide, by decide⟩
  | .prefixed .plus _, _ => ⟨'+', _, rfl, by decide, by decide⟩
  | .group _, _ => ⟨'(', _, rfl, by decide, by decide⟩
  | .call _ _, ⟨word, _, _⟩ => ((opensOperand_of_beginsWord word.begins).append _).append _

/-! ## Scanning the printed text -/

theorem endsOperand_cons {c : Char} (h : c ∈ operandEnds) (rest : List Char) :
    EndsOperand (c :: rest) := by
  intro d hd
  obtain rfl := Option.some.inj hd
  exact h

theorem endsOperand_binaryOp (op : BinaryOp) (rest : List Char) :
    EndsOperand (op.symbol.toList ++ rest) := by
  cases op <;> exact endsOperand_cons (by decide) _

theorem endsOperand_moreChars (es : List Expr) {rest : List Char} (ends : EndsOperand rest) :
    EndsOperand (Expr.moreChars es ++ rest) := by
  cases es with
  | nil => exact ends
  | cons e es => exact endsOperand_cons (by decide) _

mutual

/-- The text of an expression is cut into its lexemes, whatever follows that does not go on with
    an operand. -/
theorem scan_chars : (e : Expr) → e.Printable → ∀ (rest : List Char), EndsOperand rest →
    scan (e.chars ++ rest) = (scan rest).prepend e.lexemes
  | .number x, ⟨finite, unsigned⟩, rest, ends =>
    scan_number (isPlain_render_literal finite unsigned) ends
  | .text s, _, rest, ends => scan_text s.toList fun h => absurd (ends '"' h) (by decide)
  | .boolean b, _, rest, ends => scan_boolean b ends
  | .cell a, _, rest, ends => scan_address a ends
  | .range a b, _, rest, ends => by
    have colon : EndsOperand (':' :: (b.chars ++ rest)) := endsOperand_cons (by decide) _
    rw [Expr.chars, List.append_assoc, List.cons_append, scan_address a colon,
      scan_single (by decide) rfl, scan_address b ends]
    rfl
  | .name s, ⟨word, name⟩, rest, ends => by
    refine scan_name word (ends.head (P := fun c => isWordChar c = false) (by decide)) ?_
    rw [decide_eq_false ends.not_called]
    exact name
  | .binary op left right, ⟨printableLeft, printableRight⟩, rest, ends => by
    -- What the right operand begins with does not make the operator a longer one.
    have opens := (opensOperand_chars right printableRight).append rest
    rw [Expr.chars, List.append_assoc, List.append_assoc,
      scan_chars left printableLeft _ (endsOperand_binaryOp op _), scan_binaryOp op opens.head,
      scan_chars right printableRight rest ends]
    simp [Expr.lexemes, Scan.prepend]
  | .prefixed op operand, printable, rest, ends => by
    rw [Expr.chars, List.append_assoc, scan_prefixOp, scan_chars operand printable rest ends]
    rfl
  | .group inner, printable, rest, ends => by
    have closing : EndsOperand (')' :: rest) := endsOperand_cons (by decide) _
    have text : (Expr.group inner).chars ++ rest = '(' :: (inner.chars ++ ')' :: rest) := by
      simp [Expr.chars]
    rw [text, scan_single (by decide) rfl, scan_chars inner printable _ closing,
      scan_single (by decide) rfl]
    simp [Expr.lexemes, Scan.prepend]
  | .call function args, ⟨word, _, printable⟩, rest, ends => by
    have closing : EndsOperand (')' :: rest) := endsOperand_cons (by decide) _
    have text : (Expr.call function args).chars ++ rest =
        function.toList ++ '(' :: (Expr.argsChars args ++ ')' :: rest) := by
      simp [Expr.chars]
    have stops : ∀ c ∈ ('(' :: (Expr.argsChars args ++ ')' :: rest)).head?,
        isWordChar c = false := by
      intro c hc
      obtain rfl := Option.some.inj hc
      decide
    rw [text, scan_name word stops rfl, scan_single (by decide) rfl,
      scan_argsChars args printable _ closing, scan_single (by decide) rfl]
    simp [Expr.lexemes, Scan.prepend]

theorem scan_argsChars : (es : List Expr) → Expr.ArgsPrintable es → ∀ (rest : List Char),
    EndsOperand rest →
      scan (Expr.argsChars es ++ rest) = (scan rest).prepend (Expr.argsLexemes es)
  | [], _, rest, _ => rfl
  | e :: es, ⟨printable, printables⟩, rest, ends => by
    have ends' := endsOperand_moreChars es ends
    rw [Expr.argsChars, List.append_assoc, scan_chars e printable _ ends',
      scan_moreChars es printables rest ends]
    simp [Expr.argsLexemes, Scan.prepend]

theorem scan_moreChars : (es : List Expr) → Expr.ArgsPrintable es → ∀ (rest : List Char),
    EndsOperand rest →
      scan (Expr.moreChars es ++ rest) = (scan rest).prepend (Expr.moreLexemes es)
  | [], _, rest, _ => rfl
  | e :: es, ⟨printable, printables⟩, rest, ends => by
    have ends' := endsOperand_moreChars es ends
    have text : Expr.moreChars (e :: es) ++ rest =
        ',' :: (e.chars ++ (Expr.moreChars es ++ rest)) := by
      simp [Expr.moreChars]
    rw [text, scan_single (by decide) rfl, scan_chars e printable _ ends',
      scan_moreChars es printables rest ends]
    simp [Expr.moreLexemes, Scan.prepend]

end

/-! ## What was read is printable -/

theorem IsWord.toNat_lt {cs : List Char} (h : IsWord cs) : ∀ c ∈ cs, c.toNat < 128 :=
  fun c hc => toNat_lt_of_isWordChar (h.chars c hc)

theorem toList_upper {s : String} (h : IsWord s.toList) :
    (Text.upper s).toList = Text.asciiUpper s.toList := by
  rw [Text.upper, String.toList_ofList, Text.upperList_of_ascii h.toNat_lt]

/-- A word stays one in upper case. -/
theorem IsWord.upper {s : String} (h : IsWord s.toList) : IsWord (Text.upper s).toList := by
  rw [toList_upper h]
  obtain ⟨c, tail, text, begins⟩ := h.begins
  refine ⟨⟨c.toUpper, tail.map Char.toUpper, by rw [text]; rfl, ?_⟩, ?_, ?_⟩
  · exact of_beginsWord (P := fun c => beginsWord c.toUpper = true) begins (by decide)
  · intro d hd
    obtain ⟨c, hc, rfl⟩ := List.mem_map.1 hd
    exact Text.of_ascii (P := fun c => isWordChar c = true → isWordChar c.toUpper = true)
      (by decide) (h.toNat_lt c hc) (h.chars c hc)
  · intro mem
    obtain ⟨c, hc, anchor⟩ := List.mem_map.1 mem
    have same : c = '$' := Text.of_ascii (P := fun c => c.toUpper = '$' → c = '$') (by decide)
      (h.toNat_lt c hc) anchor
    exact h.noAnchor (same ▸ hc)

theorem upper_upper {s : String} (h : IsWord s.toList) :
    Text.upper (Text.upper s) = Text.upper s := by
  have again : Text.asciiUpper (Text.asciiUpper s.toList) = Text.asciiUpper s.toList := by
    unfold Text.asciiUpper
    rw [List.map_map]
    refine List.map_congr_left fun c hc => ?_
    exact Text.of_ascii (P := fun c => c.toUpper.toUpper = c.toUpper) (by decide) (h.toNat_lt c hc)
  rw [← String.toList_inj, toList_upper h.upper, toList_upper h, again]

theorem Decimal.Literal.negative_of_parse? {cs : List Char} {l : Literal}
    (h : Literal.parse? cs = some l) : l.negative = (splitSign cs).1 := by
  unfold Literal.parse? at h
  dsimp only at h
  split at h
  · cases h
  · obtain ⟨e, -, rfl⟩ := Option.map_eq_some_iff.1 h
    rfl

theorem Token.signBit_number? {t : Token} {x : Float}
    (scanned : (Decimal.splitSign t.value.toList).1 = false) (h : t.number? = some x) :
    Decimal.signBit x = false := by
  obtain ⟨l, literal, rfl⟩ := Option.map_eq_some_iff.1 h
  exact Decimal.Literal.signBit_toFloat
    ((Decimal.Literal.negative_of_parse? literal).trans scanned)

theorem Token.onGrid_address {t : Token} {a : Address} (h : t.address = .ok a) : a.OnGrid := by
  unfold Token.address at h
  cases parsed : Address.parse t.value with
  | error fault =>
    rw [parsed] at h
    cases h
  | ok b =>
    rw [parsed] at h
    obtain rfl := Except.ok.inj h
    exact Address.onGrid_of_parse parsed

/-- No parenthesis follows that would make a call. -/
def NotCalled (rest : List Token) : Prop := ∀ t ∈ rest.head?, t.kind ≠ .leftParen

theorem notCalled_cons {t : Token} (h : t.kind ≠ .leftParen) (ts : List Token) :
    NotCalled (t :: ts) := by
  intro u hu
  obtain rfl := Option.some.inj hu
  exact h

mutual

/-- What the grammar derives from tokens of a text is printable. A name is told apart from a
    truth value or a reference by what it is, or by the parenthesis after it. -/
theorem Derives.printable {n : Nat} {ts : List Token} {e : Expr} :
    Derives n ts e → e.Finite → ∀ rest, Scanned (ts ++ rest) → NotCalled rest → e.Printable
  | .number kind value, finite, rest, scanned, _ =>
    ⟨finite _ List.mem_cons_self, Token.signBit_number? (scanned.1.number kind) value⟩
  | .text _, _, _, _, _ => trivial
  | .boolean _, _, _, _, _ => trivial
  | .cell _ address, _, _, _, _ => Token.onGrid_address address
  | .range _ first _ _ last, _, _, _, _ =>
    ⟨Token.onGrid_address first, Token.onGrid_address last⟩
  | .name kind, _, rest, scanned, notCalled => by
    refine ⟨scanned.1.word kind, ?_⟩
    -- The scanner asked whether a parenthesis follows, and here none does.
    rcases scanned.1.name kind with name | ⟨t, ht, paren⟩
    · exact name
    · exact absurd paren (notCalled t ht)
  | .constant name _ _, _, rest, scanned, _ => by
    have word := scanned.1.word name
    exact ⟨word.upper, upper_upper word, trivial⟩
  | @Derives.call f l r ts args name _ inner right, finite, rest, scanned, _ => by
    have word := scanned.1.word name
    have after : Scanned (ts ++ r :: rest) := by simpa using scanned.2.2
    exact ⟨word.upper, upper_upper word,
      inner.printable finite _ after (notCalled_cons (by simp [right]) rest)⟩
  | @Derives.group l r ts e _ inner right, finite, rest, scanned, _ => by
    have after : Scanned (ts ++ r :: rest) := by simpa using scanned.2
    exact inner.printable finite _ after (notCalled_cons (by simp [right]) rest)
  | .prefixed _ _ operand, finite, rest, scanned, notCalled =>
    operand.printable finite rest scanned.2 notCalled
  | .tighter operand, finite, rest, scanned, notCalled =>
    operand.printable finite rest scanned notCalled
  | @Derives.binary ls rs t op l r left kind _ right, finite, rest, scanned, notCalled => by
    have all : Scanned (ls ++ t :: (rs ++ rest)) := by simpa using scanned
    obtain ⟨finiteLeft, finiteRight⟩ := Expr.finite_binary.1 finite
    constructor
    · exact left.printable finiteLeft _ all (notCalled_cons (by simp [kind]) _)
    · exact right.printable finiteRight rest all.of_append.2 notCalled

theorem DerivesArgs.printable {ts : List Token} {es : List Expr} :
    DerivesArgs ts es → Expr.ArgsFinite es → ∀ rest, Scanned (ts ++ rest) → NotCalled rest →
      Expr.ArgsPrintable es
  | .last arg, finite, rest, scanned, notCalled =>
    ⟨arg.printable (Expr.argsFinite_cons.1 finite).1 rest scanned notCalled, trivial⟩
  | @DerivesArgs.more ts us comma e es arg between args, finite, rest, scanned, notCalled => by
    have all : Scanned (ts ++ comma :: (us ++ rest)) := by simpa using scanned
    obtain ⟨finiteArg, finiteArgs⟩ := Expr.argsFinite_cons.1 finite
    constructor
    · exact arg.printable finiteArg _ all (notCalled_cons (by simp [between]) _)
    · exact args.printable finiteArgs rest all.of_append.2 notCalled

end

/-! ## Derivations of the printed tokens -/

/-- The token of a lexeme that begins at byte `offset`. -/
def Lexeme.token (l : Lexeme) (offset : Nat) : Token :=
  ⟨l.kind, l.value, offset + byteLength l.gap, offset + byteLength l.gap + byteLength l.raw⟩

theorem exists_tokensFrom_append (offset : Nat) (ls ms : List Lexeme) :
    ∃ later, tokensFrom offset (ls ++ ms) = tokensFrom offset ls ++ tokensFrom later ms := by
  induction ls generalizing offset with
  | nil => exact ⟨offset, rfl⟩
  | cons l ls ih =>
    obtain ⟨later, tokens⟩ := ih (offset + byteLength l.gap + byteLength l.raw)
    exact ⟨later, congrArg (List.cons _) tokens⟩

/-- The tokens of two operands with an operator or a comma between them. -/
theorem exists_tokensFrom_between (offset : Nat) (ls : List Lexeme) (l : Lexeme)
    (ms : List Lexeme) :
    ∃ middle later, tokensFrom offset (ls ++ l :: ms) =
      tokensFrom offset ls ++ l.token middle :: tokensFrom later ms := by
  obtain ⟨middle, tokens⟩ := exists_tokensFrom_append offset ls (l :: ms)
  exact ⟨middle, _, tokens⟩

/-- The tokens of lexemes with parentheses around them. -/
theorem exists_tokensFrom_closed (offset : Nat) (ls : List Lexeme) (l r : Lexeme) :
    ∃ start stop, tokensFrom offset (l :: (ls ++ [r])) =
      l.token offset :: (tokensFrom start ls ++ [r.token stop]) := by
  obtain ⟨stop, tokens⟩ :=
    exists_tokensFrom_append (offset + byteLength l.gap + byteLength l.raw) ls [r]
  exact ⟨_, stop, congrArg (List.cons _) tokens⟩

/-- A number without a sign is read back from what it is printed as. -/
theorem number?_token {x : Float} (finite : x.isFinite = true)
    (unsigned : Decimal.signBit x = false) (offset : Nat) :
    (Lexeme.token ⟨[], .number, literalNumber.render x⟩ offset).number? = some x := by
  have apart : x ≠ -0.0 := by
    rintro rfl
    exact absurd unsigned (by decide)
  have readBack : Decimal.read? (literalNumber.render x) = some x :=
    Decimal.read?_render rfl rfl finite (.inr apart)
  have number := (Option.filter_eq_some_iff.1 readBack).1
  show (Decimal.Literal.parse? (String.ofList (literalNumber.render x)).toList).map _ = some x
  rw [String.toList_ofList]
  exact number

theorem value_textToken (s : String) (offset : Nat) :
    (Lexeme.token ⟨[], .text, Text.quoted s.toList⟩ offset).value = s := by
  show String.ofList ((Text.contents? (Text.doubled s.toList ++ ['"'])).getD []) = s
  rw [Text.contents?_doubled s.toList [] nofun]
  exact String.ofList_toList

theorem value_booleanToken (b : Bool) (offset : Nat) :
    ((Lexeme.token ⟨[], .boolean, (Value.booleanText b).toList⟩ offset).value == "TRUE") = b := by
  show (String.ofList (Text.asciiUpper (Value.booleanText b).toList) == "TRUE") = b
  cases b <;> decide

theorem address_token {a : Address} (h : a.OnGrid) {gap : List Char} (offset : Nat) :
    (Lexeme.token ⟨gap, .cell, a.chars⟩ offset).address = .ok a := by
  have value : (Lexeme.token ⟨gap, .cell, a.chars⟩ offset).value = a.text := by
    show String.ofList (Text.asciiUpper a.chars) = a.text
    rw [asciiUpper_chars]
    rfl
  unfold Token.address
  rw [value, Address.parse_text h]
  rfl

theorem value_nameToken (s : String) (offset : Nat) :
    (Lexeme.token ⟨[], .name, s.toList⟩ offset).value = s := String.ofList_toList

theorem value_operatorToken (s : String) (offset : Nat) :
    (Lexeme.token ⟨[], .operator, s.toList⟩ offset).value = s := String.ofList_toList

/-- A call is derived after the printed name of its function. -/
theorem derives_constant {function : String} (upper : Text.upper function = function)
    (offset : Nat) {l r : Token} (left : l.kind = .leftParen) (right : r.kind = .rightParen) :
    Derives 0 [Lexeme.token ⟨[], .name, function.toList⟩ offset, l, r] (.call function []) := by
  have derived :=
    @Derives.constant (Lexeme.token ⟨[], .name, function.toList⟩ offset) l r rfl left right
  rw [value_nameToken, upper] at derived
  exact derived

theorem derives_call {function : String} (upper : Text.upper function = function)
    (offset : Nat) {l r : Token} {ts : List Token} {args : List Expr}
    (left : l.kind = .leftParen) (inner : DerivesArgs ts args) (right : r.kind = .rightParen) :
    Derives 0 (Lexeme.token ⟨[], .name, function.toList⟩ offset :: l :: (ts ++ [r]))
      (.call function args) := by
  have derived := @Derives.call (Lexeme.token ⟨[], .name, function.toList⟩ offset) l r ts args
    rfl left inner right
  rw [value_nameToken, upper] at derived
  exact derived

theorem moreLexemes_eq {es : List Expr} (h : es ≠ []) :
    Expr.moreLexemes es = ⟨[], .comma, [',']⟩ :: Expr.argsLexemes es := by
  cases es with
  | nil => exact absurd rfl h
  | cons e es => rfl

theorem DerivesArgs.ne_nil {ts : List Token} {es : List Expr} (h : DerivesArgs ts es) :
    es ≠ [] := by
  cases h <;> exact List.cons_ne_nil _ _

mutual

/-- The grammar derives an expression from the tokens that it is printed as if it derives it
    from any tokens. -/
theorem Derives.printed {n : Nat} {ts : List Token} {e : Expr} :
    Derives n ts e → e.Printable → ∀ offset, Derives n (tokensFrom offset e.lexemes) e
  | .number _ _, ⟨finite, unsigned⟩, offset => .number rfl (number?_token finite unsigned offset)
  | @Derives.text t _, _, offset => by
    have derived : Derives 0 [Lexeme.token ⟨[], .text, Text.quoted t.value.toList⟩ offset] _ :=
      .text rfl
    rw [value_textToken] at derived
    exact derived
  | @Derives.boolean t _, _, offset => by
    have derived : Derives 0
        [Lexeme.token ⟨[], .boolean, (Value.booleanText (t.value == "TRUE")).toList⟩ offset] _ :=
      .boolean rfl
    rw [value_booleanToken] at derived
    exact derived
  | .cell _ _, onGrid, offset => .cell rfl (address_token onGrid offset)
  | .range _ _ _ _ _, ⟨first, last⟩, offset =>
    .range rfl (address_token first _) rfl rfl (address_token last _)
  | @Derives.name t _, _, offset => by
    have derived : Derives 0 [Lexeme.token ⟨[], .name, t.value.toList⟩ offset] _ := .name rfl
    rw [value_nameToken] at derived
    exact derived
  | .constant _ _ _, ⟨_, upper, _⟩, offset => derives_constant upper offset rfl rfl
  | @Derives.call f _ _ _ args _ _ inner _, ⟨_, upper, printable⟩, offset => by
    obtain ⟨start, stop, tokens⟩ := exists_tokensFrom_closed
      (offset + byteLength [] + byteLength (Text.upper f.value).toList) (Expr.argsLexemes args)
      ⟨[], .leftParen, ['(']⟩ ⟨[], .rightParen, [')']⟩
    show Derives 0 (Lexeme.token _ offset :: tokensFrom _ (_ :: (Expr.argsLexemes args ++ [_]))) _
    rw [tokens]
    exact derives_call upper offset rfl (inner.printed printable start) rfl
  | @Derives.group _ _ _ e _ inner _, printable, offset => by
    obtain ⟨start, stop, tokens⟩ := exists_tokensFrom_closed offset e.lexemes
      ⟨[], .leftParen, ['(']⟩ ⟨[], .rightParen, [')']⟩
    show Derives 0 (tokensFrom offset (_ :: (e.lexemes ++ [_]))) _
    rw [tokens]
    exact .group rfl (inner.printed printable start) rfl
  | .prefixed _ _ operand, printable, offset =>
    .prefixed rfl (value_operatorToken _ _) (operand.printed printable _)
  | .tighter operand, printable, offset => (operand.printed printable offset).tighter
  | @Derives.binary ls rs t op l r left kind _ right, ⟨printableLeft, printableRight⟩, offset => by
    obtain ⟨middle, later, tokens⟩ := exists_tokensFrom_between offset l.lexemes
      ⟨[], .operator, op.symbol.toList⟩ r.lexemes
    have derivedLeft := left.printed printableLeft offset
    have derivedRight := right.printed printableRight later
    show Derives _ (tokensFrom offset (l.lexemes ++ _ :: r.lexemes)) _
    rw [tokens]
    exact .binary derivedLeft rfl (value_operatorToken _ _) derivedRight

theorem DerivesArgs.printed {ts : List Token} {es : List Expr} :
    DerivesArgs ts es → Expr.ArgsPrintable es → ∀ offset,
      DerivesArgs (tokensFrom offset (Expr.argsLexemes es)) es
  | @DerivesArgs.last _ e arg, ⟨printable, _⟩, offset => by
    have derived := arg.printed printable offset
    show DerivesArgs (tokensFrom offset (e.lexemes ++ [])) [e]
    rw [List.append_nil]
    exact .last derived
  | @DerivesArgs.more _ _ _ e es arg _ args, ⟨printable, printables⟩, offset => by
    obtain ⟨middle, later, tokens⟩ := exists_tokensFrom_between offset e.lexemes
      ⟨[], .comma, [',']⟩ (Expr.argsLexemes es)
    have derived := arg.printed printable offset
    have derivedArgs := args.printed printables later
    show DerivesArgs (tokensFrom offset (e.lexemes ++ Expr.moreLexemes es)) (e :: es)
    rw [moreLexemes_eq args.ne_nil, tokens]
    exact .more derived rfl derivedArgs

end

/-! ## Reading the printed text -/

mutual

/-- An expression with finite numbers is the same as itself. -/
theorem same_self : (e : Expr) → e.Finite → e.same e = true
  | .number x, finite => Decimal.beq_self_of_isFinite (finite x List.mem_cons_self)
  | .text s, _ => beq_self_eq_true s
  | .boolean b, _ => beq_self_eq_true b
  | .cell a, _ => beq_self_eq_true a
  | .range a b, _ => by simp [Expr.same]
  | .name s, _ => beq_self_eq_true s
  | .binary op left right, finite => by
    obtain ⟨finiteLeft, finiteRight⟩ := Expr.finite_binary.1 finite
    have sameLeft := same_self left finiteLeft
    have sameRight := same_self right finiteRight
    simp [Expr.same, sameLeft, sameRight]
  | .prefixed op operand, finite => by
    have sameOperand := same_self operand finite
    simp [Expr.same, sameOperand]
  | .group inner, finite => same_self inner finite
  | .call function args, finite => by
    have sameArgs := allSame_self args finite
    simp [Expr.same, sameArgs]

theorem allSame_self : (es : List Expr) → Expr.ArgsFinite es → Expr.allSame es es = true
  | [], _ => rfl
  | e :: es, finite => by
    obtain ⟨finiteFirst, finiteLater⟩ := Expr.argsFinite_cons.1 finite
    have first := same_self e finiteFirst
    have later := allSame_self es finiteLater
    simp [Expr.allSame, first, later]

end

theorem tokenize_eq_ok {body : List Char} {ts : List Token} (h : tokenize body = .ok ts) :
    ts = tokensFrom 0 (scan body).lexemes := by
  unfold tokenize at h
  dsimp only at h
  split at h
  · cases h
  · exact (Except.ok.inj h).symm

/-- The printed text of an expression has the tokens it was printed as, and no others. -/
theorem tokenize_chars {e : Expr} (printable : e.Printable) :
    tokenize e.chars = .ok (tokensFrom 0 e.lexemes) := by
  have nothing : scan [] = ⟨[], .blank []⟩ := by
    rw [scan.eq_def]
    rfl
  have scanned := scan_chars e printable [] nofun
  rw [List.append_nil, nothing] at scanned
  have lexemes : scan e.chars = ⟨e.lexemes, .blank []⟩ := by
    rw [scanned, Scan.prepend, List.append_nil]
  unfold tokenize
  rw [lexemes]
  rfl

/-- Whatever text an expression was read from, its printed text is read as the same expression. -/
theorem parseBody_chars {body : List Char} {e : Expr} (h : parseBody body = .ok e) :
    parseBody e.chars = .ok e ∧ e.same e = true := by
  obtain ⟨ts, tokens, parsed⟩ := bind_eq_ok.1 h
  obtain ⟨derived, finite, fits⟩ := parseTokens_eq_ok_iff.1 parsed
  have scanned : Scanned (ts ++ []) := by
    rw [List.append_nil, tokenize_eq_ok tokens]
    exact scanned_tokensFrom body 0
  have printable : e.Printable := derived.printable finite [] scanned nofun
  have printed : Derives loosest (tokensFrom 0 e.lexemes) e := derived.printed printable 0
  refine ⟨?_, same_self e finite⟩
  unfold parseBody
  rw [tokenize_chars printable]
  exact parseTokens_eq_ok_iff.2 ⟨printed, finite, fits⟩

/-- A formula with blanks, lower case, quotation marks and a number that is not written in the
    shortest way. -/
def unevenBody : List Char := " sum(a1 : $b$2, 1.50)^-2 & \"a\"\"b\" <>tax.rate".toList

theorem parseBody_chars_uneven :
    ∃ e, parseBody unevenBody = .ok e ∧
      e.chars = "SUM(A1:$B$2,1.5)^-2&\"a\"\"b\"<>tax.rate".toList ∧
      parseBody e.chars = .ok e ∧ e.same e = true := by
  have printed : (parseBody unevenBody).toOption.map Expr.chars =
      some "SUM(A1:$B$2,1.5)^-2&\"a\"\"b\"<>tax.rate".toList := by decide +kernel
  cases parsed : parseBody unevenBody with
  | error fault =>
    rw [parsed] at printed
    cases printed
  | ok e =>
    rw [parsed] at printed
    exact ⟨e, rfl, Option.some.inj printed, parseBody_chars parsed⟩

end Worksheet
