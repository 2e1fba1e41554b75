/-
  Reading in place comes to what reading lists of tokens comes to. The parsers of lists are built
  from those of the level below, so that no level is ever counted; the descent counts the levels.
  The induction is on the levels that are left: since the counter comes back to where it was after
  every operand, they are the same for each operand of a chain and for each argument of a call.

  A bound that allows for the tokens ahead is never used up. Consequently every reading has an
  outcome, and the whole descent is `parseTokens` (`outcome_whole`).
-/
import Worksheet.Proofs.Formula.Following

namespace Worksheet.Descent

variable {α : Type} {s : Descent} {t : Token} {ts : List Token}

/-! ## Parsers -/

/-- A reading that follows a parser of lists and comes back to the level where it began. -/
abbrev Balanced (finish : Nat) (p : Descending α) (s : Descent)
    (q : Except FormulaFault (α × List Token)) : Prop :=
  Follows finish (fun depth => depth = s.depth) p s q

/-- At the places that leave `d` levels, and with a bound that allows for the tokens ahead, a
    reading does what a parser of lists does. -/
def Mirrors (finish d : Nat) (p : (bound : Nat) → Descending α)
    (q : List Token → Except FormulaFault (α × List Token)) : Prop :=
  ∀ {bound : Nat} {s : Descent}, nestingLimit - s.depth = d → s.ahead.length ≤ bound →
    Balanced finish (p bound) s (q s.ahead)

/-- The readings at the places that leave `d` levels follow the parsers of that level. A chain need
    not come back. -/
structure LevelFollowed (finish d : Nat) : Prop where
  operand : ∀ n, Mirrors finish d (Descent.operand · n) ((Parser.level finish d).operand n)
  chain : ∀ n left {bound : Nat} {s : Descent}, nestingLimit - s.depth = d →
    s.ahead.length ≤ bound → Follows finish (fun _ => True) (Descent.chain bound n left) s
      ((Parser.level finish d).chain n left s.ahead)

section

variable {finish d : Nat}

theorem expect_follows (finish : Nat) (kind : TokenKind) (what : Wanted) (s : Descent) :
    Balanced finish (expect kind what) s (Parser.expect finish kind what s.ahead) := by
  unfold expect
  refine .peek ?_
  cases h : s.ahead with
  | nil =>
    refine .look (outcome_get s) (.fails fun same => ?_)
    rw [same]
  | cons t ts =>
    show Balanced finish (if t.kind = kind then _ else _) s (if t.kind = kind then _ else _)
    split
    · have rest : (s.moved 1).ahead = ts := ahead_moved_one h
      exact .advance h (.done t rfl rest)
    · exact .fails fun _ => rfl

theorem number_follows (t : Token) (h : s.ahead = ts) :
    Balanced finish (number t t.start) s
      (match Decimal.read? t.value.toList with
      | some x => .ok (.number x, ts)
      | none => .error (.grammar (.badNumber t.value) t.start)) := by
  unfold number
  cases Decimal.read? t.value.toList with
  | none => exact .fails fun _ => rfl
  | some x => exact .done _ rfl h

theorem reference_follows (t : Token) (s : Descent) :
    Balanced finish (reference t) s (t.address >>= fun a => Parser.reference finish a s.ahead) := by
  unfold reference
  refine .ofExcept fun first => ?_
  cases h : s.ahead with
  | nil => exact .nextIs_nil h (.done _ rfl h)
  | cons u us =>
    rw [Parser.reference]
    by_cases colon : u.kind = .colon
    · have rest : (s.moved 1).ahead = us := ahead_moved_one h
      have corner := expect_follows finish .cell .rangeCorner (s.moved 1)
      rw [rest] at corner
      rw [if_pos colon]
      refine .nextIs_of h colon (.advance h ?_)
      refine corner.bind fun u s' _ level _ => .ofExcept fun last => .done _ level rfl
    · rw [if_neg colon]
      exact .nextIs_of_ne h colon (.done _ rfl h)

theorem chain_follows (below : ∀ k, d = k + 1 → LevelFollowed finish k) (n : Nat) (left : Expr)
    {bound : Nat} {s : Descent} (hd : nestingLimit - s.depth = d)
    (bounded : s.ahead.length ≤ bound) :
    Follows finish (fun _ => True) (chain bound n left) s
      ((Parser.level finish d).chain n left s.ahead) := by
  rw [chain, Parser.level_chain]
  cases h : s.ahead with
  | nil =>
    have noOp : s.ahead.head?.bind (Token.binaryOp? n) = none := by rw [h]; rfl
    exact .here_nil h (.look (outcome_takeOperator_none noOp) (.done left trivial h))
  | cons t ts =>
    refine .here h ?_
    cases hop : t.binaryOp? n with
    | none =>
      have noOp : s.ahead.head?.bind (Token.binaryOp? n) = none := by rw [h]; exact hop
      rw [Parser.chain, hop]
      exact .look (outcome_takeOperator_none noOp) (.done left trivial h)
    | some op =>
      have isOp : s.ahead.head?.bind (Token.binaryOp? n) = some op := by rw [h]; exact hop
      have rest : (s.moved 1).ahead = ts := ahead_moved_one h
      rw [Parser.chain_of_operator hop]
      rw [h] at bounded
      refine .take h (outcome_takeOperator_some isOp) ?_
      refine .fewer (rest ▸ bounded) fun bound _ room => .descend hd fun k hk deeper => ?_
      have right := (below k hk).operand n (s := (s.moved 1).atDepth (s.depth + 1)) deeper room
      rw [ahead_atDepth, rest] at right
      refine right.bind fun r s' _ level suffix => ?_
      have room' := Nat.le_trans suffix.length_le room
      exact (below k hk).chain n (.binary op left r) (level ▸ deeper) room'

theorem prefixed_follows (below : ∀ k, d = k + 1 → LevelFollowed finish k)
    (primary : Mirrors finish d primary (Parser.primary (Parser.beneath finish d) finish)) :
    Mirrors finish d prefixed (Parser.prefixed (Parser.beneath finish d) finish) := by
  intro bound s hd bounded
  have here := primary hd bounded
  rw [prefixed]
  cases h : s.ahead with
  | nil =>
    rw [h] at here
    refine .here_nil h (.peek ?_)
    rw [h]
    exact here
  | cons t ts =>
    refine .here h (.peek ?_)
    rw [h] at here ⊢
    rw [Parser.prefixed, List.head?_cons, Option.bind_some]
    cases t.prefixOp? with
    | none => exact here
    | some op =>
      have rest : (s.moved 1).ahead = ts := ahead_moved_one h
      rw [h] at bounded
      refine .advance h (.fewer (rest ▸ bounded) fun bound _ room => ?_)
      refine .descend hd fun k hk deeper => ?_
      have inner := (below k hk).operand 0 (s := (s.moved 1).atDepth (s.depth + 1)) deeper room
      rw [ahead_atDepth, rest] at inner
      simp only [operand] at inner
      exact inner.bind fun e s' _ level _ => .ascend level

/-- A group, from its opening parenthesis on. -/
theorem group_follows (below : ∀ k, d = k + 1 → LevelFollowed finish k)
    {bound : Nat} (hd : nestingLimit - s.depth = d) (bounded : s.ahead.length ≤ bound)
    (start : Nat) :
    Balanced finish (do
        descend start
        let e ← operand bound loosest
        let _ ← expect .rightParen .closingParen
        ascend
        return .group e) s
      (Parser.descend (Parser.beneath finish d) start >>= fun level =>
        Parser.group level finish s.ahead) := by
  refine .descend hd fun k hk deeper => ?_
  have inner := (below k hk).operand loosest (s := s.atDepth (s.depth + 1)) deeper bounded
  refine inner.bind fun e s' _ level _ => ?_
  have closes := expect_follows finish .rightParen .closingParen s'
  exact closes.bind fun r s'' _ level' _ => .ascend (level'.trans level)

/-- Without a token there is no operand. -/
theorem operand_nil (d n : Nat) :
    (Parser.level finish d).operand n [] = .error (.grammar .noOperandAtEnd finish) := by
  induction n with
  | zero =>
    rw [Parser.level_operand]
    rfl
  | succ n ih =>
    rw [Parser.level_operand_succ, ih]
    rfl

theorem arguments_nil (function : String) (d bound : Nat) :
    Parser.arguments (Parser.level finish d) finish function bound [] =
      .error (.grammar .noOperandAtEnd finish) := by
  cases bound with
  | zero => rfl
  | succ bound =>
    show (Parser.level finish d).operand loosest [] >>= _ = _
    rw [operand_nil]
    rfl

theorem arguments_follow_nil (level : LevelFollowed finish d) (function : String) {bound : Nat}
    (hd : nestingLimit - s.depth = d) (h : s.ahead = []) :
    Balanced finish (arguments bound function) s (.error (.grammar .noOperandAtEnd finish)) := by
  have bounded : s.ahead.length ≤ bound := h ▸ Nat.zero_le bound
  have read := level.operand loosest hd bounded
  rw [h, operand_nil] at read
  rw [arguments]
  exact .nextIs_nil h read.stop

/-- Both ways of reading arguments have a bound of their own. -/
theorem arguments_follow (level : LevelFollowed finish d) (function : String) (bound : Nat)
    {bound' : Nat} (hd : nestingLimit - s.depth = d) (bounded : s.ahead.length ≤ bound)
    (bounded' : s.ahead.length ≤ bound') :
    Balanced finish (arguments bound' function) s
      (Parser.arguments (Parser.level finish d) finish function bound s.ahead) := by
  induction bound generalizing s bound' with
  | zero =>
    have noTokens : s.ahead = [] := List.length_eq_zero_iff.1 (by omega)
    rw [noTokens, arguments_nil]
    exact arguments_follow_nil level function hd noTokens
  | succ bound ih =>
    cases h : s.ahead with
    | nil =>
      rw [arguments_nil]
      exact arguments_follow_nil level function hd h
    | cons t ts =>
      rw [arguments]
      by_cases closed : t.kind = .rightParen
      · rw [Parser.arguments]
        simp only [if_pos closed]
        exact .nextIs_of h closed (.here h (.fails fun _ => rfl))
      · have read := level.operand loosest hd bounded'
        rw [h] at read
        rw [Parser.arguments_succ (by rintro _ ⟨⟩; exact closed)]
        refine .nextIs_of_ne h closed (read.bind fun arg s' finish' level' suffix => ?_)
        have shorter := suffix.length_le
        have closes := expect_follows finish .rightParen .argumentEnd s'
        cases h' : s'.ahead with
        | nil =>
          rw [h'] at closes
          exact .nextIs_nil h' closes.stop
        | cons u us =>
          by_cases comma : u.kind = .comma
          · have rest : (s'.moved 1).ahead = us := ahead_moved_one h'
            rw [h', List.length_cons] at shorter
            show Follows finish _ _ s' (if u.kind = .comma then _ else _)
            rw [if_pos comma]
            refine .nextIs_of h' comma (.advance h' ?_)
            refine .fewer (by rw [rest]; omega) fun bound' _ room => ?_
            have more := ih (s := s'.moved 1) (by rw [depth_moved, level', hd])
              (by rw [rest]; omega) room
            rw [rest] at more
            refine more.bind fun args s'' _ level'' _ => ?_
            exact .done _ (level''.trans level') rfl
          · show Follows finish _ _ s' (if u.kind = .comma then _ else _)
            rw [if_neg comma]
            rw [h'] at closes
            refine .nextIs_of_ne h' comma (closes.bind fun r s'' _ level'' _ => ?_)
            exact .done _ (level''.trans level') rfl

theorem call_follows (level : LevelFollowed finish d) (function : String) :
    Mirrors finish d (call · function) (Parser.call (Parser.level finish d) finish function) := by
  intro bound s hd bounded
  have read := arguments_follow level function s.ahead.length hd (Nat.le_refl _) bounded
  show Balanced finish (call bound function) s _
  rw [call]
  cases h : s.ahead with
  | nil =>
    rw [h, arguments_nil] at read
    exact .nextIs_nil h read.stop
  | cons t ts =>
    rw [Parser.call]
    by_cases closed : t.kind = .rightParen
    · have rest : (s.moved 1).ahead = ts := ahead_moved_one h
      rw [if_pos closed]
      exact .nextIs_of h closed (.advance h (.done _ rfl rest))
    · rw [if_neg closed]
      rw [h] at read
      refine .nextIs_of_ne h closed (read.bind fun args s' _ level' _ => ?_)
      exact .done _ level' rfl

/-- A word, and the call that it may begin. -/
theorem word_follows (below : ∀ k, d = k + 1 → LevelFollowed finish k) {bound : Nat}
    (hd : nestingLimit - s.depth = d) (bounded : s.ahead.length ≤ bound) (t : Token) :
    Balanced finish (do
        if ← nextIs .leftParen then
          advance
          descend t.start
          let e ← call bound (Text.upper t.value)
          ascend
          return e
        else return .name t.value) s
      (Parser.word (Parser.beneath finish d) finish t s.ahead) := by
  cases h : s.ahead with
  | nil => exact .nextIs_nil h (.done _ rfl h)
  | cons u us =>
    rw [Parser.word]
    by_cases opens : u.kind = .leftParen
    · have rest : (s.moved 1).ahead = us := ahead_moved_one h
      rw [if_pos opens]
      refine .nextIs_of h opens (.advance h (.descend hd fun k hk deeper => ?_))
      rw [h, List.length_cons] at bounded
      have room : (s.moved 1).ahead.length ≤ bound := by rw [rest]; omega
      have inner := call_follows (below k hk) (Text.upper t.value)
        (s := (s.moved 1).atDepth (s.depth + 1)) deeper room
      rw [ahead_atDepth, rest] at inner
      exact inner.andThen fun e s' level => .ascend level
    · rw [if_neg opens]
      exact .nextIs_of_ne h opens (.done _ rfl h)

theorem primary_follows (below : ∀ k, d = k + 1 → LevelFollowed finish k) :
    Mirrors finish d primary (Parser.primary (Parser.beneath finish d) finish) := by
  intro bound s hd bounded
  rw [primary]
  cases h : s.ahead with
  | nil =>
    refine .here_nil h (.peek ?_)
    rw [h]
    refine .fails fun same => ?_
    rw [same]
  | cons t ts =>
    refine .here h (.peek ?_)
    rw [h]
    have rest : (s.moved 1).ahead = ts := ahead_moved_one h
    rw [h] at bounded
    refine .advance h (.fewer (rest ▸ bounded) fun bound _ room => ?_)
    rw [Parser.primary]
    cases t.kind with
    | number => exact number_follows t rest
    | text => exact .done _ rfl rest
    | boolean => exact .done _ rfl rest
    | cell => exact rest ▸ reference_follows t (s.moved 1)
    | name => exact rest ▸ word_follows (s := s.moved 1) below hd room t
    | leftParen => exact rest ▸ group_follows (s := s.moved 1) below hd room t.start
    | rightParen | comma | colon | operator => exact .fails fun _ => rfl

theorem operand_follows (below : ∀ k, d = k + 1 → LevelFollowed finish k) (n : Nat) :
    Mirrors finish d (operand · n) ((Parser.level finish d).operand n) := by
  induction n with
  | zero =>
    intro bound s hd bounded
    show Balanced finish (operand bound 0) s _
    rw [operand, Parser.level_operand]
    exact prefixed_follows below (primary_follows below) hd bounded
  | succ n ih =>
    intro bound s hd bounded
    show Balanced finish (operand bound (n + 1)) s _
    rw [operand, Parser.level_operand_succ]
    refine (ih hd bounded).bind fun left s' _ level suffix => .look (outcome_get s') ?_
    have bounded' := Nat.le_trans suffix.length_le bounded
    have rest := chain_follows below n left (s := s') (level ▸ hd) bounded'
    exact rest.andThen fun e s'' _ => .ascendTo level

end

theorem levelFollowed (finish d : Nat) : LevelFollowed finish d := by
  induction d with
  | zero =>
    have below : ∀ k, 0 = k + 1 → LevelFollowed finish k := nofun
    exact ⟨operand_follows below, chain_follows below⟩
  | succ d ih =>
    have below : ∀ k, d + 1 = k + 1 → LevelFollowed finish k := by
      intro k hk
      obtain rfl := Nat.succ.inj hk
      exact ih
    exact ⟨operand_follows below, chain_follows below⟩

/-- The bound of all tokens there are is enough at every place. -/
theorem Mirrors.within {finish : Nat} {p : (bound : Nat) → Descending α}
    {q : Nat → List Token → Except FormulaFault (α × List Token)}
    (mirrors : ∀ d, Mirrors finish d p (q d)) (s : Descent) :
    Balanced finish (within p) s (q (nestingLimit - s.depth) s.ahead) := by
  have bounded : s.ahead.length ≤ s.tokens.length := (List.drop_sublist ..).length_le
  exact .look (outcome_get s) (mirrors _ rfl bounded)

/-- Whatever the place, an operand is read as the parsers of lists read it at the level that is
    left. -/
theorem operand_mirrors (finish n : Nat) (s : Descent) :
    Balanced finish (within (operand · n)) s
      ((Parser.level finish (nestingLimit - s.depth)).operand n s.ahead) :=
  Mirrors.within (fun d => (levelFollowed finish d).operand n) s

/-! ## Whole formulas -/

/-- Reading a list of tokens in place has an outcome, and that is what parsing it comes to. -/
theorem outcome_whole (ts : List Token) :
    ∃ stopped, whole.outcome (start ts) = some (parseTokens ts, stopped) := by
  have read : Balanced (endOf ts) (within (operand · loosest)) (start ts)
      ((Parser.level (endOf ts) nestingLimit).operand loosest ts) := operand_mirrors _ _ (start ts)
  rw [whole, outcome_bind_of_ok (outcome_get _), parseTokens]
  show ∃ stopped, (if ts.isEmpty = true then _ else _ : Descending Expr).outcome _ = _
  by_cases empty : ts.isEmpty = true
  · rw [if_pos empty, if_pos empty]
    exact ⟨_, rfl⟩
  · rw [if_neg empty, if_neg empty]
    cases read with
    | error stopped inPlace onList same =>
      rw [outcome_bind_of_error inPlace, onList, same rfl]
      exact ⟨stopped, rfl⟩
    | @ok e taken rest depth ahead level inPlace onList =>
      rw [outcome_bind_of_ok inPlace, outcome_bind_of_ok (outcome_peek _), ahead_atDepth,
        ahead_moved_of_append ahead, onList]
      refine ⟨((start ts).moved taken.length).atDepth depth, ?_⟩
      cases rest with
      | nil => rfl
      | cons t rest =>
        show Descending.outcome (if t.kind = .rightParen then _ else _) _ =
          some ((if t.kind = .rightParen then _ else _), _)
        split <;> rfl

end Worksheet.Descent
