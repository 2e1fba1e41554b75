/-
  Where the faults of parsing come from. A fault is about a token that the parser was given, which
  is the one it names and whose place it gives, or it is about the end of the tokens (`Explained`).
  Each parser hands on tokens from the end of its list only, so the faults of what it calls are
  about its own tokens (`Accounted.bind`).

  In particular only a number token is refused as a number, and only if it denotes no finite number
  (`exists_of_badNumber`).
-/
import Worksheet.Proofs.Formula.Soundness

namespace Worksheet

/-! ## Causes -/

/-- What a fault says about tokens that end at byte `finish`. Nesting is refused where a token goes
    a level down; the end of the tokens is at fault where another one is wanted. -/
inductive Explained (finish : Nat) (ts : List Token) : FormulaFault → Prop where
  | tooDeep {t : Token} (mem : t ∈ ts) : Explained finish ts (.grammar .tooDeep t.start)
  | noOperandAtEnd : Explained finish ts (.grammar .noOperandAtEnd finish)
  | noClosingParen {t : Token} (mem : t ∈ ts) (kind : t.kind = .rightParen) :
      Explained finish ts (.grammar (.noOperandBefore ")") t.start)
  | noOperandBefore {t : Token} (mem : t ∈ ts)
      (kind : t.kind = .comma ∨ t.kind = .colon ∨ t.kind = .operator) :
      Explained finish ts (.grammar (.noOperandBefore t.display) t.start)
  | wanted {t : Token} (mem : t ∈ ts) (what : Wanted) :
      Explained finish ts (.grammar (.wanted what (some t.display)) t.start)
  | wantedAtEnd (what : Wanted) : Explained finish ts (.grammar (.wanted what none) finish)
  | badNumber {t : Token} (mem : t ∈ ts) (kind : t.kind = .number)
      (unread : Decimal.read? t.value.toList = none) :
      Explained finish ts (.grammar (.badNumber t.value) t.start)
  | commaAtEnd {t : Token} (mem : t ∈ ts) (kind : t.kind = .rightParen) (function : String) :
      Explained finish ts (.grammar (.commaAtEnd function) t.start)
  | noSuchCell {t : Token} {cause : AddressFault} (mem : t ∈ ts)
      (address : Address.parse t.value = .error cause) :
      Explained finish ts (.noSuchCell t.value (some t.start) cause)

variable {finish : Nat} {ts us rest : List Token} {t : Token}

/-- A fault of some tokens is one of all of them. -/
theorem Explained.mono {fault : FormulaFault} (h : Explained finish us fault) (sub : us ⊆ ts) :
    Explained finish ts fault := by
  cases h with
  | tooDeep mem => exact .tooDeep (sub mem)
  | noOperandAtEnd => exact .noOperandAtEnd
  | noClosingParen mem kind => exact .noClosingParen (sub mem) kind
  | noOperandBefore mem kind => exact .noOperandBefore (sub mem) kind
  | wanted mem what => exact .wanted (sub mem) what
  | wantedAtEnd what => exact .wantedAtEnd what
  | badNumber mem kind unread => exact .badNumber (sub mem) kind unread
  | commaAtEnd mem kind function => exact .commaAtEnd (sub mem) kind function
  | noSuchCell mem address => exact .noSuchCell (sub mem) address

/-- A reading leaves the end of its tokens, or it is refused for something about them. -/
inductive Accounted {α : Type} (finish : Nat) (ts : List Token) :
    Except FormulaFault (α × List Token) → Prop where
  | ok {a : α} {rest : List Token} (left : rest <:+ ts) : Accounted finish ts (.ok (a, rest))
  | error {fault : FormulaFault} (explained : Explained finish ts fault) :
      Accounted finish ts (.error fault)

namespace Accounted

variable {α β : Type} {x : Except FormulaFault (α × List Token)}

theorem mono (h : Accounted finish us x) (left : us <:+ ts) : Accounted finish ts x := by
  cases h with
  | ok left' => exact .ok (left'.trans left)
  | error explained => exact .error (explained.mono left.subset)

theorem bind {f : α × List Token → Except FormulaFault (β × List Token)}
    (h : Accounted finish ts x) (later : ∀ a rest, Accounted finish rest (f (a, rest))) :
    Accounted finish ts (x >>= f) := by
  cases h with
  | @ok a rest left => exact (later a rest).mono left
  | error explained => exact .error explained

/-- The tokens after the first one. -/
theorem cons (h : Accounted finish ts x) (t : Token) : Accounted finish (t :: ts) x :=
  h.mono (List.suffix_cons t ts)

theorem address {f : Address → Except FormulaFault (β × List Token)} (mem : t ∈ ts)
    (later : ∀ a, Accounted finish ts (f a)) : Accounted finish ts (t.address >>= f) := by
  unfold Token.address
  cases h : Address.parse t.value with
  | ok a => exact later a
  | error cause => exact .error (.noSuchCell mem h)

end Accounted

/-! ## Parsers -/

namespace Parser

/-- The parsers of a level account for what they refuse. -/
structure LevelAccounted (finish : Nat) (level : Level) : Prop where
  operand : ∀ n ts, Accounted finish ts (level.operand n ts)
  chain : ∀ n left ts, Accounted finish ts (level.chain n left ts)

theorem expect_accounted (kind : TokenKind) (what : Wanted) (ts : List Token) :
    Accounted finish ts (expect finish kind what ts) := by
  cases ts with
  | nil => exact .error (.wantedAtEnd what)
  | cons t ts =>
    rw [expect]
    split
    · exact .ok (List.suffix_cons t ts)
    · exact .error (.wanted List.mem_cons_self what)

theorem arguments_accounted {level : Level} (h : LevelAccounted finish level) (function : String)
    (bound : Nat) (ts : List Token) :
    Accounted finish ts (arguments level finish function bound ts) := by
  induction bound generalizing ts with
  | zero => exact .error .noOperandAtEnd
  | succ bound ih =>
    have argument (opens : ∀ t ∈ ts.head?, t.kind ≠ .rightParen) :
        Accounted finish ts (arguments level finish function (bound + 1) ts) := by
      rw [arguments_succ opens]
      refine (h.operand loosest ts).bind fun arg rest => ?_
      cases rest with
      | nil => exact .error (.wantedAtEnd .argumentEnd)
      | cons u us =>
        show Accounted finish (u :: us) (if u.kind = .comma then _ else _)
        split
        · refine ((ih us).bind fun args rest => ?_).cons u
          exact .ok (List.suffix_refl rest)
        · refine (expect_accounted .rightParen .argumentEnd (u :: us)).bind fun r rest => ?_
          exact .ok (List.suffix_refl rest)
    cases ts with
    | nil => exact argument fun t ht => nomatch ht
    | cons t ts =>
      by_cases closed : t.kind = .rightParen
      · rw [arguments]
        simp only [if_pos closed]
        exact .error (.commaAtEnd List.mem_cons_self closed function)
      · exact argument fun u hu => Option.some.inj hu ▸ closed

theorem call_accounted {level : Level} (h : LevelAccounted finish level) (function : String)
    (ts : List Token) : Accounted finish ts (call level finish function ts) := by
  cases ts with
  | nil => exact .error .noOperandAtEnd
  | cons t ts =>
    rw [call]
    split
    · exact .ok (List.suffix_cons t ts)
    · exact (arguments_accounted h function _ _).bind fun args rest => .ok (List.suffix_refl rest)

theorem reference_accounted (first : Address) (ts : List Token) :
    Accounted finish ts (reference finish first ts) := by
  cases ts with
  | nil => exact .ok (List.suffix_refl [])
  | cons t ts =>
    rw [reference]
    split
    · cases ts with
      | nil => exact .error (.wantedAtEnd .rangeCorner)
      | cons u us =>
        have mem : u ∈ t :: u :: us := List.mem_cons_of_mem t List.mem_cons_self
        rw [expect]
        split
        · exact .address mem fun last => .ok ((List.suffix_cons u us).trans (List.suffix_cons t _))
        · exact .error (.wanted mem .rangeCorner)
    · exact .ok (List.suffix_refl _)

theorem group_accounted {level : Level} (h : LevelAccounted finish level) (ts : List Token) :
    Accounted finish ts (group level finish ts) := by
  refine (h.operand loosest ts).bind fun inner rest => ?_
  exact (expect_accounted .rightParen .closingParen rest).bind fun r after =>
    .ok (List.suffix_refl after)

variable {below : Option Level}

theorem descend_accounted {α : Type} {f : Level → Except FormulaFault (α × List Token)}
    (mem : t ∈ ts) (later : ∀ level, below = some level → Accounted finish ts (f level)) :
    Accounted finish ts (descend below t.start >>= f) := by
  cases below with
  | none => exact .error (.tooDeep mem)
  | some level => exact later level rfl

section

variable (h : ∀ level, below = some level → LevelAccounted finish level)
include h

theorem chain_accounted (n : Nat) (left : Expr) (ts : List Token) :
    Accounted finish ts (chain below n left ts) := by
  cases ts with
  | nil => exact .ok (List.suffix_refl [])
  | cons t ts =>
    rw [chain]
    cases t.binaryOp? n with
    | none => exact .ok (List.suffix_refl _)
    | some op =>
      refine descend_accounted List.mem_cons_self fun level hlevel => ?_
      refine (((h level hlevel).operand n ts).bind fun right rest => ?_).cons t
      exact (h level hlevel).chain n _ rest

theorem word_accounted (t : Token) (ts : List Token) :
    Accounted finish (t :: ts) (word below finish t ts) := by
  cases ts with
  | nil => exact .ok (List.suffix_cons t [])
  | cons u us =>
    rw [word]
    split
    · refine descend_accounted List.mem_cons_self fun level hlevel => ?_
      exact ((call_accounted (h level hlevel) _ us).cons u).cons t
    · exact .ok (List.suffix_cons t _)

theorem primary_accounted (ts : List Token) :
    Accounted finish ts (primary below finish ts) := by
  cases ts with
  | nil => exact .error .noOperandAtEnd
  | cons t ts =>
    have mem : t ∈ t :: ts := List.mem_cons_self
    have one {e : Expr} : Accounted finish (t :: ts) (.ok (e, ts)) := .ok (List.suffix_cons t ts)
    rw [primary]
    cases kind : t.kind with
    | number =>
      dsimp only
      cases number : Decimal.read? t.value.toList with
      | some x => exact one
      | none => exact .error (.badNumber mem kind number)
    | text => exact one
    | boolean => exact one
    | cell => exact .address mem fun a => (reference_accounted a ts).cons t
    | name => exact word_accounted h t ts
    | leftParen =>
      refine descend_accounted mem fun level hlevel => ?_
      exact (group_accounted (h level hlevel) ts).cons t
    | rightParen => exact .error (.noClosingParen mem kind)
    | comma => exact .error (.noOperandBefore mem (.inl kind))
    | colon => exact .error (.noOperandBefore mem (.inr (.inl kind)))
    | operator => exact .error (.noOperandBefore mem (.inr (.inr kind)))

theorem operand_accounted (n : Nat) (ts : List Token) :
    Accounted finish ts (operand below finish n ts) := by
  induction n with
  | zero =>
    rw [operand]
    cases ts with
    | nil => exact primary_accounted h []
    | cons t ts =>
      rw [prefixed]
      cases t.prefixOp? with
      | none => exact primary_accounted h (t :: ts)
      | some op =>
        refine descend_accounted List.mem_cons_self fun level hlevel => ?_
        refine (((h level hlevel).operand 0 ts).bind fun e rest => ?_).cons t
        exact .ok (List.suffix_refl rest)
  | succ n ih => exact ih.bind fun left rest => chain_accounted h n left rest

end

theorem levelAccounted (finish d : Nat) : LevelAccounted finish (level finish d) := by
  induction d with
  | zero => exact ⟨operand_accounted nofun, chain_accounted nofun⟩
  | succ d ih =>
    have below : ∀ l, some (level finish d) = some l → LevelAccounted finish l :=
      fun l hl => Option.some.inj hl ▸ ih
    exact ⟨operand_accounted below, chain_accounted below⟩

end Parser

/-! ## Whole formulas -/

/-- A refused list of tokens is empty, or something about its tokens is at fault, or a token is left
    over. -/
theorem fault_of_parseTokens {fault : FormulaFault} (h : parseTokens ts = .error fault) :
    fault = .grammar .nothing 0 ∨ Explained (endOf ts) ts fault ∨
      ∃ t ∈ ts, fault = .grammar .unbalanced t.start ∨
        fault = .grammar (.surplus t.display) t.start := by
  have read := (Parser.levelAccounted (endOf ts) nestingLimit).operand loosest ts
  unfold parseTokens at h
  split at h
  · cases h
    exact .inl rfl
  · generalize (Parser.level (endOf ts) nestingLimit).operand loosest ts = result at read h
    cases read with
    | error explained =>
      cases h
      exact .inr (.inl explained)
    | @ok e rest left =>
      cases rest with
      | nil => cases h
      | cons t rest =>
        have mem : t ∈ ts := left.subset List.mem_cons_self
        change (if t.kind = .rightParen then _ else _) = _ at h
        split at h
        · cases h
          exact .inr (.inr ⟨t, mem, .inl rfl⟩)
        · cases h
          exact .inr (.inr ⟨t, mem, .inr rfl⟩)

/-- Only a number token is refused as a number. -/
theorem exists_of_badNumber {text : String} {position : Nat}
    (h : parseTokens ts = .error (.grammar (.badNumber text) position)) :
    ∃ t ∈ ts, t.kind = .number ∧ t.value = text ∧ t.start = position ∧
      Decimal.read? text.toList = none := by
  rcases fault_of_parseTokens h with nothing | explained | ⟨t, -, unbalanced | surplus⟩
  · cases nothing
  · cases explained with
    | @badNumber t mem kind unread => exact ⟨t, mem, kind, rfl, rfl, unread⟩
  · cases unbalanced
  · cases surplus

end Worksheet
