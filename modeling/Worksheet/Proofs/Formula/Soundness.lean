/-
  What the parser reads is derived by the grammar. The parsers of one level are sound when
  those of the level below are (`levelSound_above`), and so all of them are. A chain of operators
  goes on at the level below with what it has read so far as its left operand, so the statement
  about chains takes the tokens of that operand with it (`LevelSound.chain`).
-/
import Worksheet.Proofs.Formula.Grammar

namespace Worksheet

theorem bind_eq_ok {ε α β : Type} {x : Except ε α} {f : α → Except ε β} {y : β} :
    (x >>= f) = .ok y ↔ ∃ a, x = .ok a ∧ f a = .ok y := by
  cases x with
  | error fault => exact ⟨nofun, nofun⟩
  | ok a => exact ⟨fun h => ⟨a, rfl, h⟩, fun ⟨_, h, hf⟩ => by cases h; exact hf⟩

/-! ## Tokens -/

theorem Token.binaryOp?_eq_some {n : Nat} {t : Token} {op : BinaryOp} :
    t.binaryOp? n = some op ↔ t.kind = .operator ∧ t.value = op.symbol ∧ op.looseness = n := by
  unfold Token.binaryOp?
  split
  · next kind =>
    rw [Option.filter_eq_some_iff, beq_iff_eq]
    constructor
    · rintro ⟨symbol, looseness⟩
      exact ⟨kind, (BinaryOp.symbol_of_ofSymbol? symbol).symm, looseness⟩
    · rintro ⟨-, symbol, looseness⟩
      exact ⟨symbol ▸ BinaryOp.ofSymbol?_symbol op, looseness⟩
  · next kind => exact ⟨nofun, fun h => absurd h.1 kind⟩

theorem Token.prefixOp?_eq_some {t : Token} {op : PrefixOp} :
    t.prefixOp? = some op ↔ t.kind = .operator ∧ t.value = op.symbol := by
  unfold Token.prefixOp?
  split
  · next kind =>
    constructor
    · intro symbol
      exact ⟨kind, (PrefixOp.symbol_of_ofSymbol? symbol).symm⟩
    · rintro ⟨-, symbol⟩
      exact symbol ▸ PrefixOp.ofSymbol?_symbol op
  · next kind => exact ⟨nofun, fun h => absurd h.1 kind⟩

theorem Token.prefixOp?_eq_none {t : Token} (kind : t.kind ≠ .operator) :
    t.prefixOp? = none := if_neg kind

theorem Token.read?_eq_some {t : Token} {x : Float} :
    Decimal.read? t.value.toList = some x ↔ t.number? = some x ∧ x.isFinite = true := by
  unfold Decimal.read? Token.number?
  rw [Option.filter_eq_some_iff]

namespace Parser

variable {finish : Nat}

/-! ## Levels -/

theorem operand_succ (below : Option Level) (n : Nat) (ts : List Token) :
    operand below finish (n + 1) ts =
      operand below finish n ts >>= fun (left, rest) => chain below n left rest := rfl

theorem chain_of_operator {below : Option Level} {n : Nat} {left : Expr} {t : Token}
    {op : BinaryOp} (h : t.binaryOp? n = some op) (ts : List Token) :
    chain below n left (t :: ts) = descend below t.start >>= fun level =>
      level.operand n ts >>= fun (right, rest) =>
        level.chain n (.binary op left right) rest := by
  rw [chain, h]

theorem arguments_succ {level : Level} {function : String} {bound : Nat} {ts : List Token}
    (opens : ∀ t ∈ ts.head?, t.kind ≠ .rightParen) :
    arguments level finish function (bound + 1) ts =
      level.operand loosest ts >>= fun (arg, rest) =>
        match rest with
        | t :: more =>
          if t.kind = .comma then
            arguments level finish function bound more >>= fun (args, rest) =>
              pure (arg :: args, rest)
          else expect finish .rightParen .argumentEnd rest >>= fun (_, rest) => pure ([arg], rest)
        | [] => throw (.grammar (.wanted .argumentEnd none) finish) := by
  cases ts with
  | nil => rfl
  | cons t ts =>
    rw [arguments]
    exact if_neg (opens t rfl)

/-! ## Soundness -/

/-- The expression was read from the front of `ts`, and the grammar derives it from the tokens
    that were taken. -/
def Taken (n : Nat) (ts : List Token) (e : Expr) (rest : List Token) : Prop :=
  ∃ us, ts = us ++ rest ∧ Derives n us e ∧ e.Finite

/-- What a level reads is derived by the grammar. -/
structure LevelSound (level : Level) : Prop where
  operand : ∀ {n : Nat} {ts : List Token} {e : Expr} {rest : List Token},
    level.operand n ts = .ok (e, rest) → Taken n ts e rest
  chain : ∀ {n : Nat} {us ts : List Token} {left e : Expr} {rest : List Token},
    Derives (n + 1) us left → left.Finite → level.chain n left ts = .ok (e, rest) →
      Taken (n + 1) (us ++ ts) e rest

theorem descend_eq_ok {below : Option Level} {position : Nat} {level : Level}
    (h : descend below position = .ok level) : below = some level := by
  cases below with
  | none => cases h
  | some below =>
    obtain rfl := Except.ok.inj h
    rfl

theorem expect_eq_ok {kind : TokenKind} {what : Wanted} {ts rest : List Token} {t : Token}
    (h : expect finish kind what ts = .ok (t, rest)) : ts = t :: rest ∧ t.kind = kind := by
  cases ts with
  | nil => cases h
  | cons u us =>
    rw [expect] at h
    split at h
    · next hu =>
      cases h
      exact ⟨rfl, hu⟩
    · cases h

/-- Arguments that were read begin with one; then there is a comma and more of them, or the
    closing parenthesis. -/
theorem arguments_eq_ok {level : Level} {function : String} {bound : Nat} {ts rest : List Token}
    {es : List Expr} (h : arguments level finish function (bound + 1) ts = .ok (es, rest)) :
    ∃ arg after, level.operand loosest ts = .ok (arg, after) ∧
      ((∃ comma more args, after = comma :: more ∧ comma.kind = .comma ∧
          arguments level finish function bound more = .ok (args, rest) ∧ es = arg :: args) ∨
        ∃ r, after = r :: rest ∧ r.kind = .rightParen ∧ es = [arg]) := by
  have opens : ∀ t ∈ ts.head?, t.kind ≠ .rightParen := by
    intro t ht closed
    cases ts with
    | nil => cases ht
    | cons u us =>
      obtain rfl := Option.some.inj ht
      rw [arguments] at h
      simp only [closed, if_true] at h
      cases h
  rw [arguments_succ opens, bind_eq_ok] at h
  obtain ⟨⟨arg, after⟩, operand, h⟩ := h
  refine ⟨arg, after, operand, ?_⟩
  cases after with
  | nil => cases h
  | cons t more =>
    dsimp only at h
    split at h
    · next comma =>
      obtain ⟨⟨args, rest'⟩, later, h⟩ := bind_eq_ok.1 h
      cases h
      exact .inl ⟨t, more, args, rfl, comma, later, rfl⟩
    · obtain ⟨⟨r, rest'⟩, closed, h⟩ := bind_eq_ok.1 h
      cases h
      obtain ⟨after, kind⟩ := expect_eq_ok closed
      exact .inr ⟨r, after, kind, rfl⟩

theorem arguments_sound {level : Level} (sound : LevelSound level) {function : String}
    {bound : Nat} {ts rest : List Token} {es : List Expr}
    (h : arguments level finish function bound ts = .ok (es, rest)) :
    ∃ us r, ts = us ++ r :: rest ∧ r.kind = .rightParen ∧ DerivesArgs us es ∧
      Expr.ArgsFinite es := by
  induction bound generalizing ts es with
  | zero => cases h
  | succ bound ih =>
    obtain ⟨arg, after, operand, hafter⟩ := arguments_eq_ok h
    obtain ⟨us, rfl, derived, finite⟩ := sound.operand operand
    rcases hafter with ⟨comma, more, args, rfl, between, later, rfl⟩ | ⟨r, rfl, right, rfl⟩
    · obtain ⟨vs, r, rfl, right, derivedArgs, finiteArgs⟩ := ih later
      exact ⟨us ++ comma :: vs, r, by simp, right, .more derived between derivedArgs,
        Expr.argsFinite_cons.2 ⟨finite, finiteArgs⟩⟩
    · exact ⟨us, r, rfl, right, .last derived,
        Expr.argsFinite_cons.2 ⟨finite, Expr.argsFinite_nil⟩⟩

variable {below : Option Level}

theorem chain_sound (sound : ∀ level, below = some level → LevelSound level) {n : Nat}
    {us ts rest : List Token} {left e : Expr} (derived : Derives (n + 1) us left)
    (finite : left.Finite) (h : chain below n left ts = .ok (e, rest)) :
    Taken (n + 1) (us ++ ts) e rest := by
  cases ts with
  | nil =>
    cases h
    exact ⟨us, rfl, derived, finite⟩
  | cons t ts =>
    cases hop : t.binaryOp? n with
    | none =>
      rw [chain, hop] at h
      cases h
      exact ⟨us, rfl, derived, finite⟩
    | some op =>
      rw [chain_of_operator hop] at h
      obtain ⟨level, hlevel, h⟩ := bind_eq_ok.1 h
      obtain ⟨⟨right, after⟩, operand, later⟩ := bind_eq_ok.1 h
      have levelSound := sound level (descend_eq_ok hlevel)
      obtain ⟨kind, symbol, rfl⟩ := Token.binaryOp?_eq_some.1 hop
      obtain ⟨vs, rfl, derivedRight, finiteRight⟩ := levelSound.operand operand
      have finiteBoth : (Expr.binary op left right).Finite :=
        Expr.finite_binary.2 ⟨finite, finiteRight⟩
      -- One level down, the chain goes on with both operands as its left one.
      have both := levelSound.chain (.binary derived kind symbol derivedRight) finiteBoth later
      rwa [List.append_assoc, List.cons_append] at both

theorem reference_sound {t : Token} {a : Address} {ts rest : List Token} {e : Expr}
    (kind : t.kind = .cell) (address : t.address = .ok a)
    (h : reference finish a ts = .ok (e, rest)) : Taken 0 (t :: ts) e rest := by
  have single : Taken 0 (t :: ts) (.cell a) ts := ⟨[t], rfl, .cell kind address, nofun⟩
  cases ts with
  | nil =>
    cases h
    exact single
  | cons u us =>
    rw [reference] at h
    split at h
    · next colon =>
      obtain ⟨⟨corner, after⟩, expected, later⟩ := bind_eq_ok.1 h
      obtain ⟨last, lastAddress, done⟩ := bind_eq_ok.1 later
      obtain ⟨rfl, cornerKind⟩ := expect_eq_ok expected
      cases done
      exact ⟨[t, u, corner], rfl, .range kind address colon cornerKind lastAddress, nofun⟩
    · cases h
      exact single

theorem call_sound {level : Level} (sound : LevelSound level) {f l : Token}
    {ts rest : List Token} {e : Expr} (name : f.kind = .name) (left : l.kind = .leftParen)
    (h : call level finish (Text.upper f.value) ts = .ok (e, rest)) :
    Taken 0 (f :: l :: ts) e rest := by
  cases ts with
  | nil => cases h
  | cons t ts =>
    rw [call] at h
    split at h
    · next right =>
      cases h
      exact ⟨[f, l, t], rfl, .constant name left right, nofun⟩
    · obtain ⟨⟨args, after⟩, read, h⟩ := bind_eq_ok.1 h
      cases h
      obtain ⟨us, r, tokens, right, derived, finite⟩ := arguments_sound sound read
      refine ⟨f :: l :: (us ++ [r]), ?_, .call name left derived right, finite⟩
      rw [tokens]
      simp

theorem word_sound (sound : ∀ level, below = some level → LevelSound level) {f : Token}
    {ts rest : List Token} {e : Expr} (name : f.kind = .name)
    (h : word below finish f ts = .ok (e, rest)) : Taken 0 (f :: ts) e rest := by
  have single : Taken 0 (f :: ts) (.name f.value) ts := ⟨[f], rfl, .name name, nofun⟩
  cases ts with
  | nil =>
    cases h
    exact single
  | cons l ts =>
    rw [word] at h
    split at h
    · next left =>
      obtain ⟨level, hlevel, h⟩ := bind_eq_ok.1 h
      exact call_sound (sound level (descend_eq_ok hlevel)) name left h
    · cases h
      exact single

theorem group_sound {level : Level} (sound : LevelSound level) {l : Token}
    {ts rest : List Token} {e : Expr} (left : l.kind = .leftParen)
    (h : group level finish ts = .ok (e, rest)) : Taken 0 (l :: ts) e rest := by
  obtain ⟨⟨inner, after⟩, operand, h⟩ := bind_eq_ok.1 h
  obtain ⟨⟨r, after'⟩, closed, h⟩ := bind_eq_ok.1 h
  cases h
  obtain ⟨us, rfl, derived, finite⟩ := sound.operand operand
  obtain ⟨rfl, right⟩ := expect_eq_ok closed
  exact ⟨l :: (us ++ [r]), by simp, .group left derived right, finite⟩

theorem primary_sound (sound : ∀ level, below = some level → LevelSound level)
    {ts rest : List Token} {e : Expr} (h : primary below finish ts = .ok (e, rest)) :
    Taken 0 ts e rest := by
  cases ts with
  | nil => cases h
  | cons t ts =>
    rw [primary] at h
    split at h
    · next kind =>
      split at h
      · next x number =>
        cases h
        obtain ⟨value, finite⟩ := Token.read?_eq_some.1 number
        refine ⟨[t], rfl, .number kind value, fun y hy => ?_⟩
        rw [List.mem_singleton.1 hy]
        exact finite
      · cases h
    · next kind =>
      cases h
      exact ⟨[t], rfl, .text kind, nofun⟩
    · next kind =>
      cases h
      exact ⟨[t], rfl, .boolean kind, nofun⟩
    · next kind =>
      obtain ⟨a, address, h⟩ := bind_eq_ok.1 h
      exact reference_sound kind address h
    · next kind => exact word_sound sound kind h
    · next kind =>
      obtain ⟨level, hlevel, h⟩ := bind_eq_ok.1 h
      exact group_sound (sound level (descend_eq_ok hlevel)) kind h
    all_goals cases h

theorem operand_sound (sound : ∀ level, below = some level → LevelSound level) {n : Nat}
    {ts rest : List Token} {e : Expr} (h : operand below finish n ts = .ok (e, rest)) :
    Taken n ts e rest := by
  induction n generalizing e rest with
  | zero =>
    rw [operand] at h
    cases ts with
    | nil => cases h
    | cons t ts =>
      rw [prefixed] at h
      split at h
      · next op hop =>
        obtain ⟨level, hlevel, h⟩ := bind_eq_ok.1 h
        obtain ⟨⟨inner, after⟩, read, h⟩ := bind_eq_ok.1 h
        cases h
        obtain ⟨us, rfl, derived, finite⟩ :=
          (sound level (descend_eq_ok hlevel)).operand read
        obtain ⟨kind, symbol⟩ := Token.prefixOp?_eq_some.1 hop
        exact ⟨t :: us, rfl, .prefixed kind symbol derived, finite⟩
      · exact primary_sound sound h
  | succ n ih =>
    rw [operand_succ] at h
    obtain ⟨⟨left, after⟩, read, later⟩ := bind_eq_ok.1 h
    obtain ⟨us, rfl, derived, finite⟩ := ih read
    exact chain_sound sound (.tighter derived) finite later

theorem levelSound_above (sound : ∀ level, below = some level → LevelSound level) :
    LevelSound (above finish below) := ⟨operand_sound sound, chain_sound sound⟩

theorem levelSound_level (d : Nat) : LevelSound (level finish d) := by
  induction d with
  | zero => exact levelSound_above nofun
  | succ d ih => exact levelSound_above fun level h => Option.some.inj h ▸ ih

end Parser

end Worksheet
