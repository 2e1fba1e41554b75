/-
  Parsing without regard to case. The parsers decide by the kinds of tokens and by operators, and
  neither depends on the case of letters; numbers, references and truth values are read alike, and
  names of functions are put in capitals. So tokens that differ in the case of letters are read as
  expressions that differ in the spelling of bare names, or they are refused for the same reason at
  the same place (`parseBody_recased`). The parsers of one level keep this up when those of the
  level below do (`levelSteady_above`).
-/
import Worksheet.Formula.Parser
import Worksheet.Proofs.Formula.LetterCase
import Worksheet.Proofs.Formula.Soundness

namespace Worksheet

open Text (asciiUpper)

/-- The string with its ASCII letters in upper case. -/
def Text.capitals (s : String) : String := String.ofList (asciiUpper s.toList)

/-! ## Expressions and faults in capitals -/

namespace Expr

mutual

/-- The expression with its bare names in capitals. -/
def inCapitals : Expr → Expr
  | .name s => .name (Text.capitals s)
  | .binary op left right => .binary op left.inCapitals right.inCapitals
  | .prefixed op operand => .prefixed op operand.inCapitals
  | .group inner => .group inner.inCapitals
  | .call function args => .call function (argsInCapitals args)
  | .number x => .number x
  | .text s => .text s
  | .boolean b => .boolean b
  | .cell a => .cell a
  | .range a b => .range a b

/-- The arguments with their bare names in capitals. -/
def argsInCapitals : List Expr → List Expr
  | [] => []
  | e :: es => e.inCapitals :: argsInCapitals es

end

end Expr

/-- The cause with the text that it quotes in capitals. The name of a function is in capitals
    anyway. -/
def GrammarFault.inCapitals : GrammarFault → GrammarFault
  | .noOperandBefore token => .noOperandBefore (Text.capitals token)
  | .wanted what found => .wanted what (found.map Text.capitals)
  | .badNumber text => .badNumber (Text.capitals text)
  | .surplus token => .surplus (Text.capitals token)
  | cause => cause

/-- The fault with the text that it quotes in capitals. -/
def FormulaFault.inCapitals : FormulaFault → FormulaFault
  | .grammar cause position => .grammar cause.inCapitals position
  | fault => fault

/-! ## Tokens -/

/-- The symbol of an operator has no letters, so there is one way to write it. -/
theorem BinaryOp.ofSymbol?_recased {s s' : String}
    (h : asciiUpper s'.toList = asciiUpper s.toList) : ofSymbol? s' = ofSymbol? s := by
  have noLetter (op : BinaryOp) : op.symbol.toList.any Char.isAlpha = false := by
    cases op <;> decide
  have same (op : BinaryOp) : (op.symbol == s') = (op.symbol == s) := by
    rw [BEq.comm, Bool.eq_iff_iff, beq_iff_eq, Text.eq_iff_of_asciiUpper_eq h (noLetter op),
      BEq.comm, beq_iff_eq]
  simp only [ofSymbol?, same]

theorem PrefixOp.ofSymbol?_recased {s s' : String}
    (h : asciiUpper s'.toList = asciiUpper s.toList) : ofSymbol? s' = ofSymbol? s := by
  have minus : s' = "-" ↔ s = "-" := Text.eq_iff_of_asciiUpper_eq h (by decide)
  have plus : s' = "+" ↔ s = "+" := Text.eq_iff_of_asciiUpper_eq h (by decide)
  simp only [ofSymbol?, minus, plus]

namespace Token.Recased

variable {t t' : Token}

theorem binaryOp? (h : t.Recased t') (n : Nat) : t'.binaryOp? n = t.binaryOp? n := by
  unfold Token.binaryOp?
  rw [h.kind, BinaryOp.ofSymbol?_recased h.letters]

theorem prefixOp? (h : t.Recased t') : t'.prefixOp? = t.prefixOp? := by
  unfold Token.prefixOp?
  rw [h.kind, PrefixOp.ofSymbol?_recased h.letters]

theorem capitals_value (h : t.Recased t') : Text.capitals t'.value = Text.capitals t.value :=
  congrArg String.ofList h.letters

theorem capitals_display (h : t.Recased t') :
    Text.capitals t'.display = Text.capitals t.display := by
  unfold Token.display
  rw [h.kind]
  split
  · next text => rw [h.value (.inl text)]
  · exact h.capitals_value

/-- A number is read alike, since its exponent may be in either case. -/
theorem read? (h : t.Recased t') : Decimal.read? t'.value.toList = Decimal.read? t.value.toList :=
  Text.congr_of_asciiUpper_eq Decimal.read?_asciiUpper h.letters

theorem address (h : t.Recased t') (cell : t.kind = .cell) : t'.address = t.address := by
  unfold Token.address
  rw [h.value (.inr (.inr cell)), h.start]

/-- The name of a function is the same in all spellings. -/
theorem upper (h : t.Recased t') : Text.upper t'.value = Text.upper t.value :=
  congrArg String.ofList (Text.congr_of_asciiUpper_eq Text.upperList_asciiUpper h.letters)

end Token.Recased

theorem endOf_recased {ts ts' : List Token} (h : List.Forall₂ Token.Recased ts ts') :
    endOf ts' = endOf ts := by
  have stops : ts'.map Token.stop = ts.map Token.stop := by
    induction h with
    | nil => rfl
    | cons first _ ih => rw [List.map_cons, List.map_cons, first.stop, ih]
  unfold endOf
  rw [← List.getLast?_map, stops, List.getLast?_map]

/-! ## Results -/

/-- Two results that are related, or two faults that differ at most in the case of the text they
    quote. -/
inductive SameOutcome {α β : Type} (R : α → β → Prop) :
    Except FormulaFault α → Except FormulaFault β → Prop where
  | ok {a : α} {b : β} (related : R a b) : SameOutcome R (.ok a) (.ok b)
  | error {fault fault' : FormulaFault} (same : fault'.inCapitals = fault.inCapitals) :
      SameOutcome R (.error fault) (.error fault')

theorem SameOutcome.bind {α β γ δ : Type} {R : α → β → Prop} {S : γ → δ → Prop}
    {x : Except FormulaFault α} {y : Except FormulaFault β} {f : α → Except FormulaFault γ}
    {g : β → Except FormulaFault δ} (h : SameOutcome R x y)
    (later : ∀ a b, R a b → SameOutcome S (f a) (g b)) : SameOutcome S (x >>= f) (y >>= g) := by
  cases h with
  | ok related => exact later _ _ related
  | error same => exact .error same

/-- A fault of the grammar at one place, with the same cause up to the case of letters. -/
theorem SameOutcome.grammar {α β : Type} {R : α → β → Prop} {cause cause' : GrammarFault}
    (same : cause'.inCapitals = cause.inCapitals) (position : Nat) :
    SameOutcome R (.error (.grammar cause position)) (.error (.grammar cause' position)) :=
  .error (congrArg (FormulaFault.grammar · position) same)

theorem SameOutcome.ok_or_error {α β : Type} {R : α → β → Prop} {x : Except FormulaFault α}
    {y : Except FormulaFault β} (h : SameOutcome R x y) :
    (∃ a b, x = .ok a ∧ y = .ok b ∧ R a b) ∨
      ∃ fault fault', x = .error fault ∧ y = .error fault' ∧
        fault'.inCapitals = fault.inCapitals := by
  cases h with
  | ok related => exact .inl ⟨_, _, rfl, rfl, related⟩
  | error same => exact .inr ⟨_, _, rfl, rfl, same⟩

namespace Parser

/-- What two parsers read, and the tokens that they leave. -/
def ReadAlike (p q : Expr × List Token) : Prop :=
  q.1.inCapitals = p.1.inCapitals ∧ List.Forall₂ Token.Recased p.2 q.2

/-- The parsers of the level read tokens alike that differ in the case of letters. -/
structure LevelSteady (level : Level) : Prop where
  operand : ∀ {n : Nat} {ts ts' : List Token}, List.Forall₂ Token.Recased ts ts' →
    SameOutcome ReadAlike (level.operand n ts) (level.operand n ts')
  chain : ∀ {n : Nat} {left left' : Expr} {ts ts' : List Token},
    left'.inCapitals = left.inCapitals → List.Forall₂ Token.Recased ts ts' →
      SameOutcome ReadAlike (level.chain n left ts) (level.chain n left' ts')

variable {below : Option Level} {finish : Nat} {ts ts' : List Token}

/-- Both parsers go down to the same level, or neither can. -/
theorem descend_alike (steady : ∀ level, below = some level → LevelSteady level)
    (position : Nat) :
    SameOutcome (fun level level' => level' = level ∧ LevelSteady level) (descend below position)
      (descend below position) := by
  cases below with
  | none => exact .grammar rfl position
  | some level => exact .ok ⟨rfl, steady level rfl⟩

theorem expect_alike (kind : TokenKind) (what : Wanted)
    (h : List.Forall₂ Token.Recased ts ts') :
    SameOutcome (fun p q => p.1.Recased q.1 ∧ p.1.kind = kind ∧ List.Forall₂ Token.Recased p.2 q.2)
      (expect finish kind what ts) (expect finish kind what ts') := by
  cases h with
  | nil => exact .grammar rfl finish
  | @cons t t' ts ts' first rest =>
    rw [expect, expect, first.kind, first.start]
    split
    · next kind_eq => exact .ok ⟨first, kind_eq, rest⟩
    · refine .grammar ?_ t.start
      rw [GrammarFault.inCapitals, GrammarFault.inCapitals, Option.map_some, Option.map_some,
        first.capitals_display]

theorem chain_alike (steady : ∀ level, below = some level → LevelSteady level) {n : Nat}
    {left left' : Expr} (same : left'.inCapitals = left.inCapitals)
    (h : List.Forall₂ Token.Recased ts ts') :
    SameOutcome ReadAlike (chain below n left ts) (chain below n left' ts') := by
  cases h with
  | nil => exact .ok ⟨same, .nil⟩
  | @cons t t' ts ts' first rest =>
    cases op? : t.binaryOp? n with
    | none =>
      rw [chain, chain, first.binaryOp?, op?]
      exact .ok ⟨same, .cons first rest⟩
    | some op =>
      rw [chain_of_operator op?, chain_of_operator ((first.binaryOp? n).trans op?), first.start]
      refine (descend_alike steady t.start).bind ?_
      rintro level _ ⟨rfl, steady⟩
      refine (steady.operand rest).bind ?_
      rintro ⟨right, after⟩ ⟨right', after'⟩ ⟨sameRight, rest⟩
      exact steady.chain (congrArg₂ (Expr.binary op) same sameRight) rest

theorem arguments_alike {level : Level} (steady : LevelSteady level) (function : String)
    (bound : Nat) (h : List.Forall₂ Token.Recased ts ts') :
    SameOutcome (fun p q => Expr.argsInCapitals q.1 = Expr.argsInCapitals p.1 ∧
        List.Forall₂ Token.Recased p.2 q.2)
      (arguments level finish function bound ts) (arguments level finish function bound ts') := by
  induction bound generalizing ts ts' with
  | zero => exact .grammar rfl finish
  | succ bound ih =>
    by_cases closed : ∃ t ∈ ts.head?, t.kind = .rightParen
    · obtain ⟨t, ht, kind⟩ := closed
      cases h with
      | nil => cases ht
      | @cons _ t' ts ts' first rest =>
        obtain rfl := Option.some.inj ht
        rw [arguments, arguments]
        simp only [first.kind, first.start, kind, if_true]
        exact .grammar rfl _
    · have opens : ∀ t ∈ ts.head?, t.kind ≠ .rightParen := fun t ht kind => closed ⟨t, ht, kind⟩
      have opens' : ∀ t ∈ ts'.head?, t.kind ≠ .rightParen := by
        intro u hu
        cases h with
        | nil => cases hu
        | @cons t t' ts ts' first rest =>
          obtain rfl := Option.some.inj hu
          rw [first.kind]
          exact opens t rfl
      rw [arguments_succ opens, arguments_succ opens']
      refine (steady.operand h).bind ?_
      rintro ⟨arg, after⟩ ⟨arg', after'⟩ ⟨same, rest⟩
      cases rest with
      | nil => exact .grammar rfl finish
      | @cons t t' more more' first rest =>
        dsimp only
        rw [first.kind]
        split
        · refine (ih rest).bind ?_
          rintro ⟨args, after⟩ ⟨args', after'⟩ ⟨sameArgs, rest⟩
          exact .ok ⟨congrArg₂ List.cons same sameArgs, rest⟩
        · refine (expect_alike .rightParen .argumentEnd (.cons first rest)).bind ?_
          rintro ⟨r, after⟩ ⟨r', after'⟩ ⟨-, -, rest⟩
          exact .ok ⟨congrArg (fun e => [e]) same, rest⟩

theorem call_alike {level : Level} (steady : LevelSteady level) (function : String)
    (h : List.Forall₂ Token.Recased ts ts') :
    SameOutcome ReadAlike (call level finish function ts) (call level finish function ts') := by
  cases h with
  | nil => exact .grammar rfl finish
  | @cons t t' ts ts' first rest =>
    rw [call, call, first.kind, rest.length_eq]
    split
    · exact .ok ⟨rfl, rest⟩
    · refine (arguments_alike steady function (ts'.length + 1) (.cons first rest)).bind ?_
      rintro ⟨args, after⟩ ⟨args', after'⟩ ⟨same, rest⟩
      exact .ok ⟨congrArg (Expr.call function) same, rest⟩

theorem reference_alike (first : Address) (h : List.Forall₂ Token.Recased ts ts') :
    SameOutcome ReadAlike (reference finish first ts) (reference finish first ts') := by
  cases h with
  | nil => exact .ok ⟨rfl, .nil⟩
  | @cons t t' ts ts' colon rest =>
    rw [reference, reference, colon.kind]
    split
    · refine (expect_alike .cell .rangeCorner rest).bind ?_
      rintro ⟨corner, after⟩ ⟨corner', after'⟩ ⟨alike, kind, rest⟩
      dsimp only at alike kind ⊢
      rw [alike.address kind]
      cases corner.address with
      | error fault => exact .error rfl
      | ok last => exact .ok ⟨rfl, rest⟩
    · exact .ok ⟨rfl, .cons colon rest⟩

theorem word_alike (steady : ∀ level, below = some level → LevelSteady level) {t t' : Token}
    (name : t.Recased t') (h : List.Forall₂ Token.Recased ts ts') :
    SameOutcome ReadAlike (word below finish t ts) (word below finish t' ts') := by
  have bare : (Expr.name t'.value).inCapitals = (Expr.name t.value).inCapitals :=
    congrArg Expr.name name.capitals_value
  cases h with
  | nil => exact .ok ⟨bare, .nil⟩
  | @cons next next' ts ts' first rest =>
    rw [word, word, first.kind, name.start, name.upper]
    split
    · refine (descend_alike steady t.start).bind ?_
      rintro level _ ⟨rfl, steady⟩
      exact call_alike steady _ rest
    · exact .ok ⟨bare, .cons first rest⟩

theorem group_alike {level : Level} (steady : LevelSteady level)
    (h : List.Forall₂ Token.Recased ts ts') :
    SameOutcome ReadAlike (group level finish ts) (group level finish ts') := by
  refine (steady.operand h).bind ?_
  rintro ⟨inner, after⟩ ⟨inner', after'⟩ ⟨same, rest⟩
  refine (expect_alike .rightParen .closingParen rest).bind ?_
  rintro ⟨r, after⟩ ⟨r', after'⟩ ⟨-, -, rest⟩
  exact .ok ⟨congrArg Expr.group same, rest⟩

theorem primary_alike (steady : ∀ level, below = some level → LevelSteady level)
    (h : List.Forall₂ Token.Recased ts ts') :
    SameOutcome ReadAlike (primary below finish ts) (primary below finish ts') := by
  cases h with
  | nil => exact .grammar rfl finish
  | @cons t t' ts ts' first rest =>
    rw [primary, primary, first.kind, first.start]
    cases kind : t.kind with
    | number =>
      dsimp only
      rw [first.read?]
      cases Decimal.read? t.value.toList with
      | some x => exact .ok ⟨rfl, rest⟩
      | none =>
        refine .grammar ?_ t.start
        exact congrArg GrammarFault.badNumber first.capitals_value
    | text => exact .ok ⟨congrArg Expr.text (first.value (.inl kind)), rest⟩
    | boolean =>
      dsimp only
      rw [first.value (.inr (.inl kind))]
      exact .ok ⟨rfl, rest⟩
    | cell =>
      dsimp only
      rw [first.address kind]
      cases t.address with
      | error fault => exact .error rfl
      | ok a => exact reference_alike a rest
    | name => exact word_alike steady first rest
    | leftParen =>
      refine (descend_alike steady t.start).bind ?_
      rintro level _ ⟨rfl, steady⟩
      exact group_alike steady rest
    | rightParen => exact .grammar rfl t.start
    | comma | colon | operator =>
      refine .grammar ?_ t.start
      exact congrArg GrammarFault.noOperandBefore first.capitals_display

theorem operand_alike (steady : ∀ level, below = some level → LevelSteady level) {n : Nat}
    (h : List.Forall₂ Token.Recased ts ts') :
    SameOutcome ReadAlike (operand below finish n ts) (operand below finish n ts') := by
  induction n with
  | zero =>
    rw [operand]
    cases h with
    | nil => exact .grammar rfl finish
    | @cons t t' ts ts' first rest =>
      rw [prefixed, prefixed, first.prefixOp?, first.start]
      cases t.prefixOp? with
      | none => exact primary_alike steady (.cons first rest)
      | some op =>
        refine (descend_alike steady t.start).bind ?_
        rintro level _ ⟨rfl, steady⟩
        refine (steady.operand rest).bind ?_
        rintro ⟨inner, after⟩ ⟨inner', after'⟩ ⟨same, rest⟩
        exact .ok ⟨congrArg (Expr.prefixed op) same, rest⟩
  | succ n ih =>
    rw [operand_succ, operand_succ]
    refine ih.bind ?_
    rintro ⟨left, after⟩ ⟨left', after'⟩ ⟨same, rest⟩
    exact chain_alike steady same rest

theorem levelSteady_above (steady : ∀ level, below = some level → LevelSteady level) :
    LevelSteady (above finish below) := ⟨operand_alike steady, chain_alike steady⟩

theorem levelSteady_level (depth : Nat) : LevelSteady (level finish depth) := by
  induction depth with
  | zero => exact levelSteady_above nofun
  | succ depth ih => exact levelSteady_above fun level h => Option.some.inj h ▸ ih

end Parser

/-- Tokens that differ in the case of letters are read alike, all of them. -/
theorem parseTokens_alike {ts ts' : List Token} (h : List.Forall₂ Token.Recased ts ts') :
    SameOutcome (fun e e' : Expr => e'.inCapitals = e.inCapitals) (parseTokens ts)
      (parseTokens ts') := by
  cases h with
  | nil => exact .grammar rfl 0
  | @cons t t' ts ts' first rest =>
    have all := List.Forall₂.cons first rest
    unfold parseTokens
    rw [endOf_recased all]
    refine ((Parser.levelSteady_level nestingLimit).operand all).bind ?_
    rintro ⟨e, after⟩ ⟨e', after'⟩ ⟨same, left⟩
    cases left with
    | nil => exact .ok same
    | @cons u u' us us' surplus _ =>
      dsimp only
      rw [surplus.kind, surplus.start]
      split
      · exact .grammar rfl u.start
      · refine .grammar ?_ u.start
        exact congrArg GrammarFault.surplus surplus.capitals_display

/-- If a text has tokens, then a text with letters in other cases outside text literals has tokens
    of the same kinds at the same places, and both are read as expressions that differ at most in
    the spelling of bare names, or both are refused with the same fault at the same place. -/
theorem parseBody_recased {body body' : List Char} {ts : List Token}
    (tokens : tokenize body = .ok ts) (r : Recased false body body') :
    ∃ ts', tokenize body' = .ok ts' ∧ List.Forall₂ Token.Recased ts ts' ∧
      ((∃ e e', parseBody body = .ok e ∧ parseBody body' = .ok e' ∧
          e'.inCapitals = e.inCapitals) ∨
        ∃ fault fault', parseBody body = .error fault ∧ parseBody body' = .error fault' ∧
          fault'.inCapitals = fault.inCapitals) := by
  obtain ⟨ts', tokens', recased⟩ := tokenize_recased tokens r
  refine ⟨ts', tokens', recased, ?_⟩
  have alike : SameOutcome (fun e e' : Expr => e'.inCapitals = e.inCapitals) (parseBody body)
      (parseBody body') := by
    rw [parseBody, parseBody, tokens, tokens']
    exact parseTokens_alike recased
  exact alike.ok_or_error

/-- A formula in small letters. -/
def smallLetters : List Char := "sum(a1,1e3)&\"aB\"&true&rate".toList

/-- The same formula in mixed letters. -/
def mixedLetters : List Char := "Sum(A1,1E3)&\"aB\"&tRUE&Rate".toList

theorem parseBody_recased_mixed :
    ∃ e e', parseBody smallLetters = .ok e ∧ parseBody mixedLetters = .ok e' ∧
      e'.inCapitals = e.inCapitals ∧ e.chars = "SUM(A1,1000)&\"aB\"&TRUE&rate".toList ∧
      e'.chars = "SUM(A1,1000)&\"aB\"&TRUE&Rate".toList := by
  have small : (parseBody smallLetters).toOption.map Expr.chars =
      some "SUM(A1,1000)&\"aB\"&TRUE&rate".toList := by decide +kernel
  have mixed : (parseBody mixedLetters).toOption.map Expr.chars =
      some "SUM(A1,1000)&\"aB\"&TRUE&Rate".toList := by decide +kernel
  have recased : Recased false smallLetters mixedLetters := by decide
  obtain ⟨ts, tokens⟩ : ∃ ts, tokenize smallLetters = .ok ts := by
    cases tokens : tokenize smallLetters with
    | ok ts => exact ⟨ts, rfl⟩
    | error fault =>
      rw [parseBody, tokens] at small
      cases small
  obtain ⟨-, -, -, ⟨e, e', read, read', same⟩ | ⟨fault, -, refused, -⟩⟩ :=
    parseBody_recased tokens recased
  · rw [read] at small
    rw [read'] at mixed
    exact ⟨e, e', read, read', same, Option.some.inj small, Option.some.inj mixed⟩
  · rw [refused] at small
    cases small

end Worksheet
