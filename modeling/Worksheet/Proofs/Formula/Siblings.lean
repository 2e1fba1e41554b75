/-
  The counter of levels is given back. It is counted up in chains, prefix operators, groups and
  calls, and counted down in some of them, set back in others; after every expression that was read
  it is what it was before. A parser takes at least one token then, and what it reads depends on the
  tokens ahead and on the counter alone (`Settles`). All of this is seen on the parsers of lists,
  which know of neither a position nor a counter.

  So arguments do not spend levels for each other: a call is read if each of its arguments is read
  at the depth of the call's inside, any number of them (`levels_given_back`).
-/
import Worksheet.Proofs.Formula.Descent

namespace Worksheet.Descent

variable {α : Type} {finish : Nat} {p : Descending α} {s s' : Descent} {ts rest : List Token}

/-! ## Results -/

namespace Balanced

variable {q : Except FormulaFault (α × List Token)} {a : α}

theorem ends (h : Balanced finish p s q) :
    ∃ result stopped, p.outcome s = some (result, stopped) := by
  cases h with
  | ok _ _ inPlace _ => exact ⟨_, _, inPlace⟩
  | error stopped inPlace _ _ => exact ⟨_, stopped, inPlace⟩

/-- What is read in place is read from the tokens ahead. -/
theorem onList (h : Balanced finish p s q) (read : p.outcome s = some (.ok a, s')) :
    ∃ taken rest, s.ahead = taken ++ rest ∧ s' = s.moved taken.length ∧ q = .ok (a, rest) := by
  cases h with
  | @ok b taken rest depth ahead level inPlace onList =>
    rw [read] at inPlace
    cases inPlace
    exact ⟨taken, rest, ahead, level ▸ rfl, onList⟩
  | error stopped inPlace _ _ =>
    rw [read] at inPlace
    cases inPlace

/-- What is read from the tokens ahead is read in place. -/
theorem inPlace {taken : List Token} (h : Balanced finish p s (.ok (a, rest)))
    (ahead : s.ahead = taken ++ rest) : p.outcome s = some (.ok a, s.moved taken.length) := by
  cases h with
  | @ok b taken' rest' depth ahead' level inPlace onList =>
    cases onList
    have same : taken' = taken := List.append_cancel_right (ahead'.symm.trans ahead)
    rw [inPlace, same, level]
    rfl
  | error _ _ onList _ => cases onList

/-- What follows the same parser of lists reads the same. -/
theorem reads {p' : Descending α} (h : Balanced finish p s q) (h' : Balanced finish p' s q)
    (read : p.outcome s = some (.ok a, s')) : p'.outcome s = some (.ok a, s') := by
  obtain ⟨taken, rest, ahead, rfl, rfl⟩ := h.onList read
  exact h'.inPlace ahead

end Balanced

/-! ## What every level promises -/

/-- What a parser does wherever it begins: it ends, and if it reads an expression, it has come back
    to its level, is further on, and would read the same from the same tokens at the same level
    wherever they stand. What it reads is the same with every bound that allows for the tokens
    ahead. -/
structure Settles (p : (bound : Nat) → Descending Expr) : Prop where
  ends : ∀ s : Descent, ∃ result stopped, (within p).outcome s = some (result, stopped)
  level : ∀ {s s' : Descent} {e : Expr}, (within p).outcome s = some (.ok e, s') →
    s'.depth = s.depth
  position : ∀ {s s' : Descent} {e : Expr}, (within p).outcome s = some (.ok e, s') →
    s.position < s'.position ∧ s'.position ≤ s.tokens.length
  tokens : ∀ {s s' : Descent} {e : Expr}, (within p).outcome s = some (.ok e, s') →
    s'.tokens = s.tokens ∧ s'.finish = s.finish
  alike : ∀ {s s' t : Descent} {e : Expr}, (within p).outcome s = some (.ok e, s') →
    t.ahead = s.ahead → t.depth = s.depth →
      (within p).outcome t = some (.ok e, t.moved (s'.position - s.position))
  bounded : ∀ {bound : Nat} {s s' : Descent} {e : Expr}, s.ahead.length ≤ bound →
    ((p bound).outcome s = some (.ok e, s') ↔ (within p).outcome s = some (.ok e, s'))

/-- A parser settles if it follows parsers of lists that take a token. -/
theorem settles_of_mirrors {p : (bound : Nat) → Descending Expr} {q : Nat → Parser}
    (mirrors : ∀ d, Mirrors 0 d p (q d))
    (shorter : ∀ {d : Nat} {ts rest : List Token} {e : Expr},
      q d ts = .ok (e, rest) → rest.length < ts.length) : Settles p := by
  have follows (s : Descent) : Balanced 0 (within p) s (q (nestingLimit - s.depth) s.ahead) :=
    Mirrors.within mirrors s
  have taken {s s' : Descent} {e : Expr} (read : (within p).outcome s = some (.ok e, s')) :
      ∃ taken rest, s.ahead = taken ++ rest ∧ s' = s.moved taken.length ∧
        q (nestingLimit - s.depth) s.ahead = .ok (e, rest) := (follows s).onList read
  constructor
  case ends => exact fun s => (follows s).ends
  case level =>
    intro s s' e read
    obtain ⟨taken, rest, -, rfl, -⟩ := taken read
    rfl
  case position =>
    intro s s' e read
    obtain ⟨taken, rest, ahead, rfl, onList⟩ := taken read
    have fewer := shorter onList
    have left : s.ahead.length = s.tokens.length - s.position := List.length_drop
    rw [ahead, List.length_append] at fewer left
    show s.position < s.position + taken.length ∧ s.position + taken.length ≤ s.tokens.length
    omega
  case tokens =>
    intro s s' e read
    obtain ⟨taken, rest, -, rfl, -⟩ := taken read
    exact ⟨rfl, rfl⟩
  case alike =>
    intro s s' t e read ahead depth
    obtain ⟨taken, rest, ahead', rfl, onList⟩ := taken read
    have there := follows t
    rw [ahead, depth, onList] at there
    have further : (s.moved taken.length).position - s.position = taken.length :=
      Nat.add_sub_cancel_left ..
    rw [there.inPlace (ahead.trans ahead'), further]
  case bounded =>
    intro bound s s' e enough
    have here : Balanced 0 (p bound) s (q (nestingLimit - s.depth) s.ahead) := mirrors _ rfl enough
    exact ⟨here.reads (follows s), (follows s).reads here⟩

theorem length_lt_of_taken {n : Nat} {e : Expr} (h : Parser.Taken n ts e rest) :
    rest.length < ts.length := by
  obtain ⟨us, rfl, derived, -⟩ := h
  obtain ⟨t, us, rfl, -⟩ := derived.exists_cons
  simp only [List.cons_append, List.length_cons, List.length_append]
  omega

theorem settles_operand (n : Nat) : Settles (operand · n) :=
  settles_of_mirrors (fun d => (levelFollowed 0 d).operand n)
    fun read => length_lt_of_taken ((Parser.levelSound_level _).operand read)

theorem settles_primary : Settles primary := by
  refine settles_of_mirrors (fun d => primary_follows fun k _ => levelFollowed 0 k)
    fun {d ts rest e} read => ?_
  have sound : ∀ level, Parser.beneath 0 d = some level → Parser.LevelSound level := by
    intro level h
    cases d with
    | zero => cases h
    | succ k => exact Option.some.inj h ▸ Parser.levelSound_level k
  exact length_lt_of_taken (Parser.primary_sound sound read)

theorem settles_call (function : String) : Settles (call · function) := by
  refine settles_of_mirrors (fun d => call_follows (levelFollowed 0 d) function)
    fun {d ts rest e} read => ?_
  cases ts with
  | nil => cases read
  | cons t ts =>
    rw [Parser.call] at read
    split at read
    · cases read
      exact Nat.lt_succ_self _
    · obtain ⟨⟨args, after⟩, arguments, done⟩ := bind_eq_ok.1 read
      cases done
      obtain ⟨us, r, tokens, -⟩ := Parser.arguments_sound (Parser.levelSound_level d) arguments
      rw [tokens, List.length_append, List.length_cons]
      omega

/-! ## Arguments -/

/-- The tokens, all of them, are read as an expression where they stand alone at some depth. -/
def Accepted (depth : Nat) (ts : List Token) (e : Expr) : Prop :=
  ∃ s s' : Descent, s.ahead = ts ∧ s.depth = depth ∧
    (within (operand · loosest)).outcome s = some (.ok e, s') ∧ s'.ahead = []

/-- Expressions accepted at the same depth, with commas between them. There is at least one. -/
inductive Siblings (depth : Nat) : List Token → List Expr → Prop where
  | last {ts : List Token} {e : Expr} (arg : Accepted depth ts e) : Siblings depth ts [e]
  | more {ts us : List Token} {comma : Token} {e : Expr} {es : List Expr}
      (arg : Accepted depth ts e) (between : comma.kind = .comma) (later : Siblings depth us es) :
      Siblings depth (ts ++ comma :: us) (e :: es)

/-- What may stand between the parentheses of a call: siblings, or nothing. -/
inductive Inside (depth : Nat) : List Token → List Expr → Prop where
  | nothing : Inside depth [] []
  | siblings {ts : List Token} {es : List Expr} (h : Siblings depth ts es) : Inside depth ts es

/-- A whole expression alone is read unless it is nested too deeply. -/
theorem alone_outcome {e : Expr} (derived : Derives loosest ts e) (finite : e.Finite)
    (finish d : Nat) :
    Parser.Outcome (e.nesting ≤ d) ((Parser.level finish d).operand loosest ts) (.ok (e, [])) := by
  have outcome : Parser.Outcome (e.nesting ≤ d)
      ((Parser.level finish d).operand loosest (ts ++ [])) (.ok (e, [])) :=
    (derived.operand_outcome finite d [] (stops_nil _)).read (stops_nil _)
  rwa [List.append_nil] at outcome

/-- What is accepted is derived by the grammar, with finite numbers, and fits in the levels that
    are left. -/
theorem accepted_iff {depth : Nat} {e : Expr} :
    Accepted depth ts e ↔ Derives loosest ts e ∧ e.Finite ∧ e.nesting ≤ nestingLimit - depth := by
  constructor
  · rintro ⟨s, s', rfl, rfl, read, all⟩
    obtain ⟨taken, rest, ahead, rfl, onList⟩ := (operand_mirrors 0 loosest s).onList read
    obtain ⟨us, tokens, derived, finite⟩ := (Parser.levelSound_level _).operand onList
    rw [ahead_moved_of_append ahead] at all
    rw [all, List.append_nil] at tokens
    rw [tokens] at onList ⊢
    refine ⟨derived, finite, Nat.not_lt.1 fun deep => ?_⟩
    obtain ⟨position, failed⟩ :=
      (alone_outcome derived finite 0 (nestingLimit - s.depth)).of_not_fits (Nat.not_le.2 deep)
    rw [onList] at failed
    cases failed
  · rintro ⟨derived, finite, fits⟩
    have follows := operand_mirrors 0 loosest ⟨ts, 0, 0, depth⟩
    have onList := (alone_outcome derived finite 0 (nestingLimit - depth)).of_fits fits
    have ahead : (Descent.mk ts 0 0 depth).ahead = ts ++ [] := (List.append_nil ts).symm
    rw [show (Descent.mk ts 0 0 depth).ahead = ts from rfl, onList] at follows
    exact ⟨_, _, rfl, rfl, follows.inPlace ahead, ahead_moved_of_append ahead⟩

theorem Siblings.derived {depth : Nat} {es : List Expr} (h : Siblings depth ts es) :
    DerivesArgs ts es ∧ Expr.ArgsFinite es ∧ Expr.argsNesting es ≤ nestingLimit - depth := by
  induction h with
  | last arg =>
    obtain ⟨derived, finite, fits⟩ := accepted_iff.1 arg
    exact ⟨.last derived, Expr.argsFinite_cons.2 ⟨finite, Expr.argsFinite_nil⟩,
      Nat.max_le.2 ⟨fits, Nat.zero_le _⟩⟩
  | more arg between later ih =>
    obtain ⟨derived, finite, fits⟩ := accepted_iff.1 arg
    obtain ⟨derivedArgs, finiteArgs, fitsArgs⟩ := ih
    exact ⟨.more derived between derivedArgs, Expr.argsFinite_cons.2 ⟨finite, finiteArgs⟩,
      Nat.max_le.2 ⟨fits, fitsArgs⟩⟩

/-- What is inside of a call is read up to the closing parenthesis, by the parsers of lists at the
    level that is left there. -/
theorem Inside.onList {depth : Nat} {es : List Expr} (h : Inside depth ts es) {r : Token}
    (right : r.kind = .rightParen) (function : String) (rest : List Token) :
    Parser.call (Parser.level finish (nestingLimit - depth)) finish function (ts ++ r :: rest) =
      .ok (.call function es, rest) := by
  cases h with
  | nothing => exact if_pos right
  | siblings h =>
    obtain ⟨derived, finite, fits⟩ := h.derived
    have length := derived.length_le
    obtain ⟨t, us, rfl, notClosed⟩ := derived.exists_cons
    have bounded : es.length ≤ (us ++ r :: rest).length + 1 := by
      simp only [List.length_cons, List.length_append] at length ⊢
      omega
    have read : Parser.arguments (Parser.level finish (nestingLimit - depth)) finish function
        ((us ++ r :: rest).length + 1) (t :: us ++ r :: rest) = .ok (es, rest) :=
      (derived.arguments_outcome finite function _ right rest _ bounded).of_fits fits
    rw [List.cons_append] at read ⊢
    rw [Parser.call, if_neg notClosed, read]
    rfl

variable {f l r : Token} {es : List Expr} {depth : Nat}

/-- A call's inside is read at its own depth. -/
theorem Inside.outcome_call (h : Inside s.depth ts es) (right : r.kind = .rightParen)
    (function : String) (ahead : s.ahead = ts ++ r :: rest) :
    (within (call · function)).outcome s =
      some (.ok (.call function es), s.moved (ts.length + 1)) := by
  have follows := Mirrors.within (fun d => call_follows (levelFollowed 0 d) function) s
  rw [ahead, h.onList right] at follows
  have taken : s.ahead = (ts ++ [r]) ++ rest := by rw [ahead, List.append_cons]
  have outcome := follows.inPlace taken
  rwa [List.length_append] at outcome

/-- A call is read where one more level is left, and gives that level back. -/
theorem Inside.outcome_primary (h : Inside (s.depth + 1) ts es) (room : s.depth < nestingLimit)
    (name : f.kind = .name) (left : l.kind = .leftParen) (right : r.kind = .rightParen)
    (ahead : s.ahead = f :: l :: (ts ++ r :: rest)) :
    (within primary).outcome s =
      some (.ok (.call (Text.upper f.value) es), s.moved (ts.length + 3)) := by
  obtain ⟨k, hk⟩ : ∃ k, nestingLimit - s.depth = k + 1 := ⟨nestingLimit - s.depth - 1, by omega⟩
  have inside : nestingLimit - (s.depth + 1) = k := by omega
  have follows := Mirrors.within (fun d => primary_follows fun k _ => levelFollowed 0 k) s
  have read : Parser.primary (Parser.beneath 0 (k + 1)) 0 (f :: l :: (ts ++ r :: rest)) =
      .ok (.call (Text.upper f.value) es, rest) := by
    rw [Parser.primary, name]
    show Parser.word _ 0 f (l :: (ts ++ r :: rest)) = _
    rw [Parser.word, if_pos left, ← h.onList right, inside]
    rfl
  rw [hk, ahead, read] at follows
  have taken : s.ahead = (f :: l :: (ts ++ [r])) ++ rest := by simp [ahead]
  have outcome := follows.inPlace taken
  rwa [List.length_cons, List.length_cons, List.length_append] at outcome

/-- The descent is the parser. Each of its levels ends wherever it begins; where it reads an
    expression the counter is what it was before, the position is further on, and the tokens ahead
    and the counter alone decide. So a call's inside is read where each argument is accepted at its
    depth, any number of them, and the call with it if one more level is left. -/
theorem levels_given_back :
    (∀ ts, ∃ stopped, whole.outcome (start ts) = some (parseTokens ts, stopped)) ∧
      Settles primary ∧ (∀ looseness, Settles (operand · looseness)) ∧
      (∀ function, Settles (call · function)) ∧
      (∀ (s : Descent) (ts rest : List Token) (r : Token) (es : List Expr),
        s.ahead = ts ++ r :: rest → r.kind = .rightParen → Inside s.depth ts es →
          ∀ function, (within (call · function)).outcome s =
            some (.ok (.call function es), s.moved (ts.length + 1))) ∧
      ∀ (s : Descent) (f l r : Token) (ts rest : List Token) (es : List Expr),
        s.ahead = f :: l :: (ts ++ r :: rest) →
          f.kind = .name → l.kind = .leftParen → r.kind = .rightParen →
            s.depth < nestingLimit → Inside (s.depth + 1) ts es →
              (within primary).outcome s =
                some (.ok (.call (Text.upper f.value) es), s.moved (ts.length + 3)) := by
  refine ⟨outcome_whole, settles_primary, settles_operand, settles_call, ?_, ?_⟩
  · intro s ts rest r es ahead right inside function
    exact inside.outcome_call right function ahead
  · intro s f l r ts rest es ahead name left right room inside
    exact inside.outcome_primary room name left right ahead

/-- The tokens of `(((1)))`. -/
def nestedTokens : List Token :=
  [⟨.leftParen, "(", 0, 1⟩, ⟨.leftParen, "(", 1, 2⟩, ⟨.leftParen, "(", 2, 3⟩, ⟨.number, "1", 3, 4⟩,
    ⟨.rightParen, ")", 4, 5⟩, ⟨.rightParen, ")", 5, 6⟩, ⟨.rightParen, ")", 6, 7⟩]

/-- So many times `(((1)))` before another one, with commas. -/
def nestedArguments : Nat → List Token
  | 0 => nestedTokens
  | n + 1 => nestedTokens ++ ⟨.comma, ",", 7, 8⟩ :: nestedArguments n

theorem accepted_nested :
    Accepted 1 nestedTokens (.group (.group (.group (.number 1)))) := by
  have loosened {ts : List Token} {e : Expr} (h : Derives 0 ts e) : Derives loosest ts e :=
    h.tighter.tighter.tighter.tighter.tighter
  have one : Derives 0 [⟨.number, "1", 3, 4⟩] (.number 1) := .number rfl (by decide)
  have inner := @Derives.group ⟨.leftParen, "(", 2, 3⟩ ⟨.rightParen, ")", 4, 5⟩ _ _ rfl
    (loosened one) rfl
  have middle := @Derives.group ⟨.leftParen, "(", 1, 2⟩ ⟨.rightParen, ")", 5, 6⟩ _ _ rfl
    (loosened inner) rfl
  have outer := @Derives.group ⟨.leftParen, "(", 0, 1⟩ ⟨.rightParen, ")", 6, 7⟩ _ _ rfl
    (loosened middle) rfl
  refine accepted_iff.2 ⟨loosened outer, ?_, by decide⟩
  intro x hx
  obtain rfl := List.mem_singleton.1 hx
  decide

theorem siblings_nested (n : Nat) :
    Siblings 1 (nestedArguments n)
      (List.replicate (n + 1) (.group (.group (.group (.number 1))))) := by
  induction n with
  | zero => exact .last accepted_nested
  | succ n ih => exact .more accepted_nested rfl ih

/-- The tokens of a call of `SUM` with a thousand arguments, each of them `(((1)))`. -/
def thousandTokens : List Token :=
  ⟨.name, "SUM", 0, 3⟩ :: ⟨.leftParen, "(", 3, 4⟩ ::
    (nestedArguments 999 ++ [⟨.rightParen, ")", 4, 5⟩])

/-- A thousand arguments of three levels each take four levels with their call. -/
theorem levels_given_back_thousand :
    (within primary).outcome (start thousandTokens) =
      some (.ok (.call "SUM" (List.replicate 1000 (.group (.group (.group (.number 1)))))),
        (start thousandTokens).moved ((nestedArguments 999).length + 3)) := by
  obtain ⟨-, -, -, -, -, calls⟩ := levels_given_back
  have upper : Text.upper "SUM" = "SUM" := by decide
  have read := calls (start thousandTokens) ⟨.name, "SUM", 0, 3⟩ ⟨.leftParen, "(", 3, 4⟩
    ⟨.rightParen, ")", 4, 5⟩ (nestedArguments 999) [] _ rfl rfl rfl rfl (by decide)
    (.siblings (siblings_nested 999))
  rwa [upper] at read

end Worksheet.Descent
