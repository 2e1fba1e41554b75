/-
  What the grammar derives is read by the parser, unless it is nested too deeply: a list of
  tokens that the grammar derives is read as the derived expression if that takes no more levels
  of nesting than allowed, and else fails for its depth and for nothing else (`Outcome`). A chain
  spends one level for each of its operators, so after `k` of them it goes on with the parsers of
  `k` levels fewer (`resume`). With the soundness of the parser this says which token lists it
  accepts, and as what (`parseTokens_follows_grammar`).
-/
import Worksheet.Proofs.Formula.Soundness

namespace Worksheet

/-! ## What follows an operand -/

/-- The tokens after an operand of looseness `n` do not go on with it. -/
def Stops (n : Nat) (rest : List Token) : Prop :=
  ∀ t ∈ rest.head?, t.kind ≠ .colon ∧ t.kind ≠ .leftParen ∧ ∀ m < n, t.binaryOp? m = none

theorem Stops.mono {m n : Nat} {rest : List Token} (h : Stops n rest) (hmn : m ≤ n) :
    Stops m rest := by
  intro t ht
  obtain ⟨colon, paren, ops⟩ := h t ht
  exact ⟨colon, paren, fun k hk => ops k (Nat.lt_of_lt_of_le hk hmn)⟩

theorem stops_nil (n : Nat) : Stops n [] := by
  intro t ht
  cases ht

/-- A closing parenthesis or a comma ends every operand. -/
theorem stops_cons {t : Token} (ht : t.kind = .rightParen ∨ t.kind = .comma) (n : Nat)
    (ts : List Token) : Stops n (t :: ts) := by
  intro u hu
  obtain rfl := Option.some.inj hu
  have noOp : t.kind ≠ .operator := by rcases ht with ht | ht <;> simp [ht]
  refine ⟨?_, ?_, fun m _ => if_neg noOp⟩
  · rcases ht with ht | ht <;> simp [ht]
  · rcases ht with ht | ht <;> simp [ht]

/-- An operator ends the operands that are tighter. -/
theorem stops_operator {t : Token} {op : BinaryOp} (kind : t.kind = .operator)
    (symbol : t.value = op.symbol) (ts : List Token) : Stops op.looseness (t :: ts) := by
  intro u hu
  obtain rfl := Option.some.inj hu
  refine ⟨by simp [kind], by simp [kind], fun m hm => ?_⟩
  cases hop : t.binaryOp? m with
  | none => rfl
  | some other =>
    obtain ⟨-, symbol', looseness⟩ := Token.binaryOp?_eq_some.1 hop
    have same : some op = some other := by
      rw [← BinaryOp.ofSymbol?_symbol op, ← BinaryOp.ofSymbol?_symbol other, ← symbol, ← symbol']
    obtain rfl := Option.some.inj same
    omega

namespace Parser

variable {finish : Nat}

/-! ## Outcomes -/

/-- A reading that comes out as expected if the nesting `fits`, and else fails for that. -/
structure Outcome {α : Type} (fits : Prop) (reading expected : Except FormulaFault α) :
    Prop where
  of_fits : fits → reading = expected
  of_not_fits : ¬ fits → ∃ position, reading = .error (.grammar .tooDeep position)

namespace Outcome

variable {α β : Type} {p q : Prop} {r s u : Except FormulaFault α}

/-- A reading that takes no level. -/
theorem leaf (h : r = s) (d : Nat) : Outcome (0 ≤ d) r s :=
  ⟨fun _ => h, fun hn => absurd (Nat.zero_le d) hn⟩

theorem congr (h : Outcome p r s) (hpq : p ↔ q) : Outcome q r s :=
  ⟨fun hq => h.of_fits (hpq.2 hq), fun hq => h.of_not_fits fun hp => hq (hpq.1 hp)⟩

theorem trans (h : Outcome p r s) (h' : Outcome q s u) : Outcome (p ∧ q) r u := by
  refine ⟨fun ⟨hp, hq⟩ => (h.of_fits hp).trans (h'.of_fits hq), fun hn => ?_⟩
  by_cases hp : p
  · obtain ⟨position, hs⟩ := h'.of_not_fits fun hq => hn ⟨hp, hq⟩
    exact ⟨position, (h.of_fits hp).trans hs⟩
  · exact h.of_not_fits hp

theorem map {x : Except FormulaFault β} {y : β} {f : β → Except FormulaFault α}
    (h : Outcome p x (.ok y)) (hf : f y = s) : Outcome p (x >>= f) s := by
  refine ⟨fun hp => ?_, fun hn => ?_⟩
  · rw [h.of_fits hp, ← hf]
    rfl
  · obtain ⟨position, he⟩ := h.of_not_fits hn
    exact ⟨position, by rw [he]; rfl⟩

theorem bind {x : Except FormulaFault β} {y : β} {f : β → Except FormulaFault α}
    (h : Outcome p x (.ok y)) (hf : Outcome q (f y) s) : Outcome (p ∧ q) (x >>= f) s :=
  (h.map rfl).trans hf

end Outcome

/-! ## Levels -/

/-- What is below the level that allows `d` more levels of nesting. -/
def beneath (finish : Nat) : Nat → Option Level
  | 0 => none
  | d + 1 => some (level finish d)

theorem level_eq (d : Nat) : level finish d = above finish (beneath finish d) := by
  cases d <;> rfl

theorem descend_outcome (d position : Nat) :
    Outcome (0 < d) (descend (beneath finish d) position) (.ok (level finish (d - 1))) := by
  cases d with
  | zero => exact ⟨fun h => absurd h (Nat.lt_irrefl 0), fun _ => ⟨position, rfl⟩⟩
  | succ d => exact ⟨fun _ => rfl, fun h => absurd (Nat.succ_pos d) h⟩

theorem level_operand (d n : Nat) :
    (level finish d).operand n = operand (beneath finish d) finish n := by rw [level_eq, above]

theorem level_chain (d n : Nat) : (level finish d).chain n = chain (beneath finish d) n := by
  rw [level_eq, above]

theorem level_operand_zero {t : Token} (kind : t.kind ≠ .operator) (d : Nat)
    (ts : List Token) :
    (level finish d).operand 0 (t :: ts) = primary (beneath finish d) finish (t :: ts) := by
  rw [level_operand, operand, prefixed, Token.prefixOp?_eq_none kind]

theorem level_operand_succ (d n : Nat) (ts : List Token) :
    (level finish d).operand (n + 1) ts =
      (level finish d).operand n ts >>= fun (left, rest) =>
        (level finish d).chain n left rest := by
  rw [level_operand, operand_succ, level_operand, level_chain]

theorem level_chain_of_stops {d n : Nat} {left : Expr} {rest : List Token}
    (h : Stops (n + 1) rest) : (level finish d).chain n left rest = .ok (left, rest) := by
  rw [level_chain]
  cases rest with
  | nil => rfl
  | cons t ts =>
    have noOp : t.binaryOp? n = none := (h t rfl).2.2 n (Nat.lt_succ_self n)
    rw [chain, noOp]

/-! ## One reading after the other -/

theorem expect_of_kind {kind : TokenKind} {what : Wanted} {t : Token} (h : t.kind = kind)
    (ts : List Token) : expect finish kind what (t :: ts) = .ok (t, ts) := if_pos h

theorem primary_outcome {t : Token} {e : Expr} {d : Nat} {ts rest : List Token}
    (kind : t.kind ≠ .operator)
    (h : primary (beneath finish d) finish (t :: ts) = .ok (e, rest)) :
    Outcome (0 ≤ d) ((level finish d).operand 0 (t :: ts)) (.ok (e, rest)) := by
  rw [level_operand_zero kind]
  exact .leaf h d

theorem number_outcome {t : Token} {x : Float} (kind : t.kind = .number)
    (value : t.number? = some x) (finite : x.isFinite = true) (d : Nat) (rest : List Token) :
    Outcome (0 ≤ d) ((level finish d).operand 0 (t :: rest)) (.ok (.number x, rest)) := by
  have read : Decimal.read? t.value.toList = some x := Token.read?_eq_some.2 ⟨value, finite⟩
  refine primary_outcome (by simp [kind]) ?_
  rw [primary, kind]
  simp only [read]

theorem text_outcome {t : Token} (kind : t.kind = .text) (d : Nat) (rest : List Token) :
    Outcome (0 ≤ d) ((level finish d).operand 0 (t :: rest)) (.ok (.text t.value, rest)) :=
  primary_outcome (by simp [kind]) (by rw [primary, kind])

theorem boolean_outcome {t : Token} (kind : t.kind = .boolean) (d : Nat) (rest : List Token) :
    Outcome (0 ≤ d) ((level finish d).operand 0 (t :: rest))
      (.ok (.boolean (t.value == "TRUE"), rest)) :=
  primary_outcome (by simp [kind]) (by rw [primary, kind])

theorem cell_outcome {t : Token} {a : Address} (kind : t.kind = .cell)
    (address : t.address = .ok a) (d : Nat) {rest : List Token} (stops : Stops 0 rest) :
    Outcome (0 ≤ d) ((level finish d).operand 0 (t :: rest)) (.ok (.cell a, rest)) := by
  refine primary_outcome (by simp [kind]) ?_
  rw [primary, kind, address]
  show reference finish a rest = _
  cases rest with
  | nil => rfl
  | cons u us =>
    have noColon : u.kind ≠ .colon := (stops u rfl).1
    rw [reference, if_neg noColon]
    rfl

theorem range_outcome {t colon u : Token} {a b : Address} (first : t.kind = .cell)
    (firstAddress : t.address = .ok a) (between : colon.kind = .colon) (last : u.kind = .cell)
    (lastAddress : u.address = .ok b) (d : Nat) (rest : List Token) :
    Outcome (0 ≤ d) ((level finish d).operand 0 (t :: colon :: u :: rest))
      (.ok (.range a b, rest)) := by
  refine primary_outcome (by simp [first]) ?_
  rw [primary, first, firstAddress]
  show reference finish a (colon :: u :: rest) = _
  rw [reference, if_pos between, expect_of_kind last]
  show (u.address >>= fun last => pure (Expr.range a last, rest)) = _
  rw [lastAddress]
  rfl

theorem name_outcome {t : Token} (kind : t.kind = .name) (d : Nat) {rest : List Token}
    (stops : Stops 0 rest) :
    Outcome (0 ≤ d) ((level finish d).operand 0 (t :: rest)) (.ok (.name t.value, rest)) := by
  refine primary_outcome (by simp [kind]) ?_
  rw [primary, kind]
  show word (beneath finish d) finish t rest = _
  cases rest with
  | nil => rfl
  | cons u us =>
    have noParen : u.kind ≠ .leftParen := (stops u rfl).2.1
    rw [word, if_neg noParen]
    rfl

theorem call_outcome {f l : Token} {e : Expr} {p : Prop} {d : Nat} {ts rest : List Token}
    (name : f.kind = .name) (left : l.kind = .leftParen)
    (h : Outcome p (call (level finish (d - 1)) finish (Text.upper f.value) ts)
      (.ok (e, rest))) :
    Outcome (0 < d ∧ p) ((level finish d).operand 0 (f :: l :: ts)) (.ok (e, rest)) := by
  rw [level_operand_zero (by simp [name]), primary, name]
  show Outcome _ (word (beneath finish d) finish f (l :: ts)) _
  rw [word, if_pos left]
  exact (descend_outcome d f.start).bind h

theorem group_outcome {l r : Token} {e : Expr} {d : Nat} {ts rest : List Token}
    (left : l.kind = .leftParen) (right : r.kind = .rightParen)
    (h : Outcome (e.nesting ≤ d - 1) ((level finish (d - 1)).operand loosest ts)
      (.ok (e, r :: rest))) :
    Outcome (e.nesting + 1 ≤ d) ((level finish d).operand 0 (l :: ts)) (.ok (.group e, rest)) := by
  rw [level_operand_zero (by simp [left]), primary, left]
  show Outcome _ (descend (beneath finish d) l.start >>= fun level => group level finish ts) _
  have closed : (expect finish .rightParen .closingParen (r :: rest) >>= fun taken =>
      pure (Expr.group e, taken.2)) = .ok (.group e, rest) := by
    rw [expect_of_kind right]
    rfl
  refine ((descend_outcome d l.start).bind (h.map closed)).congr ?_
  omega

theorem prefixed_outcome {t : Token} {op : PrefixOp} {e : Expr} {d : Nat}
    {ts rest : List Token} (kind : t.kind = .operator) (symbol : t.value = op.symbol)
    (h : Outcome (e.nesting ≤ d - 1) ((level finish (d - 1)).operand 0 ts) (.ok (e, rest))) :
    Outcome (e.nesting + 1 ≤ d) ((level finish d).operand 0 (t :: ts))
      (.ok (.prefixed op e, rest)) := by
  have isPrefix : t.prefixOp? = some op := Token.prefixOp?_eq_some.2 ⟨kind, symbol⟩
  rw [level_operand, operand, prefixed, isPrefix]
  refine ((descend_outcome d t.start).bind (h.map rfl)).congr ?_
  omega

/-- One operator of a chain and its right operand take the chain one level down. -/
theorem chain_outcome {t : Token} {op : BinaryOp} {l r : Expr} {d : Nat}
    {ts rest : List Token} (kind : t.kind = .operator) (symbol : t.value = op.symbol)
    (h : Outcome (r.nesting ≤ d - 1) ((level finish (d - 1)).operand op.looseness ts)
      (.ok (r, rest))) :
    Outcome (r.nesting + 1 ≤ d) ((level finish d).chain op.looseness l (t :: ts))
      ((level finish (d - 1)).chain op.looseness (.binary op l r) rest) := by
  have isOp : t.binaryOp? op.looseness = some op :=
    Token.binaryOp?_eq_some.2 ⟨kind, symbol, rfl⟩
  rw [level_chain, chain_of_operator isOp]
  refine ((descend_outcome d t.start).bind (h.map rfl)).congr ?_
  omega

theorem arguments_last_outcome {level : Level} {function : String} {bound : Nat} {e : Expr}
    {p : Prop} {r : Token} {ts rest : List Token} (opens : ∀ t ∈ ts.head?, t.kind ≠ .rightParen)
    (right : r.kind = .rightParen)
    (h : Outcome p (level.operand loosest ts) (.ok (e, r :: rest))) :
    Outcome p (arguments level finish function (bound + 1) ts) (.ok ([e], rest)) := by
  have notComma : r.kind ≠ .comma := by simp [right]
  rw [arguments_succ opens]
  refine h.map ?_
  show (if r.kind = .comma then _ else _) = _
  rw [if_neg notComma, expect_of_kind right]
  rfl

theorem arguments_more_outcome {level : Level} {function : String} {bound : Nat} {e : Expr}
    {es : List Expr} {p q : Prop} {comma : Token} {ts us rest : List Token}
    (opens : ∀ t ∈ ts.head?, t.kind ≠ .rightParen) (between : comma.kind = .comma)
    (h : Outcome p (level.operand loosest ts) (.ok (e, comma :: us)))
    (hs : Outcome q (arguments level finish function bound us) (.ok (es, rest))) :
    Outcome (p ∧ q) (arguments level finish function (bound + 1) ts) (.ok (e :: es, rest)) := by
  rw [arguments_succ opens]
  refine h.bind ?_
  show Outcome q (if comma.kind = .comma then _ else _) _
  rw [if_pos between]
  exact hs.map rfl

/-! ## Completeness -/

/-- What reading an operand of looseness `n` comes to once it has read `e`, with `d` levels of
    nesting allowed: the rest of the chain that `e` began. -/
def resume (finish d : Nat) (e : Expr) : (n : Nat) → Parser
  | 0 => fun rest => .ok (e, rest)
  | n + 1 => (level finish (d - e.chainLength n)).chain n e

/-- When nothing goes on with the operand, its reading comes to an end. -/
theorem Outcome.read {p : Prop} {e : Expr} {n d : Nat} {rest : List Token}
    {reading : Except FormulaFault (Expr × List Token)}
    (h : Outcome p reading (resume finish d e n rest)) (stops : Stops n rest) :
    Outcome p reading (.ok (e, rest)) := by
  cases n with
  | zero => exact h
  | succ n =>
    rw [resume, level_chain_of_stops stops] at h
    exact h

end Parser

open Worksheet.Parser

variable {finish : Nat}

mutual

/-- A derived operand is read from the front of a list of tokens when what follows it is no
    part of a tighter chain. -/
theorem Derives.operand_outcome {n : Nat} {ts : List Token} {e : Expr} :
    Derives n ts e → e.Finite → ∀ d rest, Stops (n - 1) rest →
      Outcome (e.nesting ≤ d) ((level finish d).operand n (ts ++ rest))
        (resume finish d e n rest)
  | .number kind value, finite, d, rest, _ =>
    number_outcome kind value (finite _ List.mem_cons_self) d rest
  | .text kind, _, d, rest, _ => text_outcome kind d rest
  | .boolean kind, _, d, rest, _ => boolean_outcome kind d rest
  | .cell kind address, _, d, rest, stops => cell_outcome kind address d stops
  | .range first firstAddress between last lastAddress, _, d, rest, _ =>
    range_outcome first firstAddress between last lastAddress d rest
  | .name kind, _, d, rest, stops => name_outcome kind d stops
  | .constant name left right, _, d, rest, _ => by
    have called (level : Level) (function : String) :
        call level finish function (_ :: rest) = .ok (.call function [], rest) := if_pos right
    refine (call_outcome name left (.leaf (called _ _) d)).congr ?_
    simp only [Expr.nesting, Expr.argsNesting]
    omega
  | @Derives.call f l r ts args name left inner right, finite, d, rest, _ => by
    have read := inner.arguments_outcome finite (Text.upper f.value) (d - 1) right rest
    have length := inner.length_le
    obtain ⟨t, us, rfl, notClosed⟩ := inner.exists_cons
    have bounded : args.length ≤ (us ++ r :: rest).length + 1 := by
      simp only [List.length_cons, List.length_append] at length ⊢
      omega
    have called : Outcome (Expr.argsNesting args ≤ d - 1)
        (call (level finish (d - 1)) finish (Text.upper f.value) (t :: (us ++ r :: rest)))
        (.ok (.call (Text.upper f.value) args, rest)) := by
      rw [call, if_neg notClosed]
      exact (read _ bounded).map rfl
    have tokens : f :: l :: (t :: us ++ [r]) ++ rest = f :: l :: t :: (us ++ r :: rest) := by
      simp
    rw [tokens]
    refine (call_outcome name left called).congr ?_
    simp only [Expr.nesting]
    omega
  | @Derives.group l r ts e left inner right, finite, d, rest, _ => by
    have closes : Stops loosest (r :: rest) := stops_cons (.inl right) _ _
    have tokens : l :: (ts ++ [r]) ++ rest = l :: (ts ++ r :: rest) := by simp
    rw [tokens]
    exact group_outcome left right
      ((inner.operand_outcome finite _ _ (closes.mono (Nat.sub_le _ _))).read closes)
  | .prefixed kind symbol operand, finite, d, rest, stops =>
    prefixed_outcome kind symbol ((operand.operand_outcome finite _ rest stops).read stops)
  | @Derives.tighter n ts e operand, finite, d, rest, stops => by
    rw [level_operand_succ]
    refine ((operand.operand_outcome finite d rest (stops.mono (Nat.sub_le n 1))).read
      stops).map ?_
    -- The chain of `e` has no operator of this looseness yet and has spent no level on it.
    show (level finish d).chain n e rest = (level finish (d - e.chainLength n)).chain n e rest
    rw [operand.chainLength_eq_zero, Nat.sub_zero]
  | @Derives.binary ls rs t op l r left kind symbol right, finite, d, rest, stops => by
    obtain ⟨finiteLeft, finiteRight⟩ := Expr.finite_binary.1 finite
    have length : (Expr.binary op l r).chainLength op.looseness =
        l.chainLength op.looseness + 1 := if_pos rfl
    -- After the left operand, its chain has spent a level for each of its operators.
    have readLeft := left.operand_outcome finiteLeft d (t :: (rs ++ rest))
      (stops_operator kind symbol _)
    have readRight := (right.operand_outcome finiteRight (d - l.chainLength op.looseness - 1) rest
      (stops.mono (Nat.sub_le _ _))).read stops
    have tokens : ls ++ t :: rs ++ rest = ls ++ t :: (rs ++ rest) := by simp
    rw [tokens, resume, length, Nat.sub_add_eq]
    refine (readLeft.trans (chain_outcome kind symbol readRight)).congr ?_
    simp only [Expr.nesting]
    omega

/-- Derived arguments are read up to the closing parenthesis. -/
theorem DerivesArgs.arguments_outcome {ts : List Token} {es : List Expr} :
    DerivesArgs ts es → Expr.ArgsFinite es →
      ∀ (function : String) (d : Nat) {r : Token} (_ : r.kind = .rightParen)
        (rest : List Token) (bound : Nat), es.length ≤ bound →
          Outcome (Expr.argsNesting es ≤ d)
            (arguments (level finish d) finish function bound (ts ++ r :: rest))
            (.ok (es, rest))
  | @DerivesArgs.last ts e arg, finite, function, d, r, right, rest, bound, bounded => by
    obtain ⟨bound, rfl⟩ : ∃ b, bound = b + 1 := Nat.exists_eq_add_of_le' bounded
    have closes : Stops loosest (r :: rest) := stops_cons (.inl right) _ _
    have read := (arg.operand_outcome (Expr.argsFinite_cons.1 finite).1 d (r :: rest)
      (closes.mono (Nat.sub_le _ _))).read closes
    refine (arguments_last_outcome (arg.opens _) right read).congr ?_
    simp [Expr.argsNesting]
  | @DerivesArgs.more ts us comma e es arg between args, finite, function, d, r, right, rest,
      bound, bounded => by
    obtain ⟨bound, rfl⟩ : ∃ b, bound = b + 1 :=
      Nat.exists_eq_add_of_le' (Nat.le_trans (Nat.le_add_left 1 es.length) bounded)
    have ends : Stops loosest (comma :: (us ++ r :: rest)) := stops_cons (.inr between) _ _
    obtain ⟨finiteArg, finiteArgs⟩ := Expr.argsFinite_cons.1 finite
    have read := (arg.operand_outcome finiteArg d (comma :: (us ++ r :: rest))
      (ends.mono (Nat.sub_le _ _))).read ends
    have later := args.arguments_outcome finiteArgs function d right rest bound
      (Nat.le_of_succ_le_succ bounded)
    have tokens : ts ++ comma :: us ++ r :: rest = ts ++ comma :: (us ++ r :: rest) := by simp
    rw [tokens]
    exact (arguments_more_outcome (arg.opens _) between read later).congr Nat.max_le.symm

end

/-! ## Whole formulas -/

/-- A derived list of tokens is read as what it means, unless that is nested too deeply. -/
theorem Derives.parseTokens_outcome {ts : List Token} {e : Expr} (derived : Derives loosest ts e)
    (finite : e.Finite) : Outcome (e.nesting ≤ nestingLimit) (parseTokens ts) (.ok e) := by
  have read : Outcome (e.nesting ≤ nestingLimit)
      ((level (endOf ts) nestingLimit).operand loosest (ts ++ [])) (.ok (e, [])) :=
    (derived.operand_outcome finite nestingLimit [] (stops_nil _)).read (stops_nil _)
  rw [List.append_nil] at read
  obtain ⟨t, us, tokens, -⟩ := derived.exists_cons
  have nonempty : ts.isEmpty = false := by simp [tokens]
  rw [parseTokens, nonempty]
  exact read.map rfl

theorem parseTokens_sound {ts : List Token} {e : Expr} (h : parseTokens ts = .ok e) :
    Derives loosest ts e ∧ e.Finite := by
  unfold parseTokens at h
  split at h
  · cases h
  · obtain ⟨⟨inner, rest⟩, read, done⟩ := bind_eq_ok.1 h
    obtain ⟨us, rfl, derived, finite⟩ := (levelSound_level _).operand read
    cases rest with
    | nil =>
      cases done
      rw [List.append_nil]
      exact ⟨derived, finite⟩
    | cons t rest =>
      dsimp only at done
      split at done <;> cases done

/-- The parser accepts what the grammar derives with finite numbers and not too deeply. -/
theorem parseTokens_eq_ok_iff {ts : List Token} {e : Expr} :
    parseTokens ts = .ok e ↔ Derives loosest ts e ∧ e.Finite ∧ e.nesting ≤ nestingLimit := by
  constructor
  · intro h
    obtain ⟨derived, finite⟩ := parseTokens_sound h
    refine ⟨derived, finite, Nat.not_lt.1 fun deep => ?_⟩
    obtain ⟨position, failed⟩ :=
      (derived.parseTokens_outcome finite).of_not_fits (Nat.not_le.2 deep)
    rw [h] at failed
    cases failed
  · rintro ⟨derived, finite, fits⟩
    exact (derived.parseTokens_outcome finite).of_fits fits

/-- Derivations of the same tokens have the same numbers. -/
theorem Derives.finite_iff {n : Nat} {ts : List Token} {e : Expr} (derived : Derives n ts e) :
    e.Finite ↔ ∀ t ∈ ts, ∀ x, t.numeral? = some x → x.isFinite = true := by
  unfold Expr.Finite
  rw [derived.numbers_eq]
  constructor
  · intro h t ht x hx
    exact h x (List.mem_filterMap.2 ⟨t, ht, hx⟩)
  · intro h x hx
    obtain ⟨t, ht, hx⟩ := List.mem_filterMap.1 hx
    exact h t ht x hx

/-- What the parser reads from a list of tokens is what the grammar derives from all of it, and
    nothing else is derived from it. When the grammar derives an expression and the numbers are
    finite, the parser reads that expression, or it is nested too deeply and that is the fault.
    References off the grid have no derivation. -/
theorem parseTokens_follows_grammar (ts : List Token) :
    (∀ e, parseTokens ts = .ok e →
      Derives loosest ts e ∧ ∀ e', Derives loosest ts e' → e' = e) ∧
    ∀ e, Derives loosest ts e →
      (∀ t ∈ ts, ∀ x, t.numeral? = some x → x.isFinite = true) →
        (e.nesting ≤ nestingLimit ∧ parseTokens ts = .ok e) ∨
          (nestingLimit < e.nesting ∧
            ∃ position, parseTokens ts = .error (.grammar .tooDeep position)) := by
  constructor
  · intro e h
    obtain ⟨derived, finite⟩ := parseTokens_sound h
    refine ⟨derived, fun e' derived' => ?_⟩
    have finite' : e'.Finite := derived'.finite_iff.2 (derived.finite_iff.1 finite)
    have outcome := derived'.parseTokens_outcome finite'
    rw [h] at outcome
    by_cases fits : e'.nesting ≤ nestingLimit
    · exact (Except.ok.inj (outcome.of_fits fits)).symm
    · obtain ⟨position, failed⟩ := outcome.of_not_fits fits
      cases failed
  · intro e derived finite
    have outcome := derived.parseTokens_outcome (derived.finite_iff.2 finite)
    rcases Nat.lt_or_ge nestingLimit e.nesting with deep | fits
    · exact .inr ⟨deep, outcome.of_not_fits (Nat.not_le.2 deep)⟩
    · exact .inl ⟨fits, outcome.of_fits fits⟩

/-- The tokens of `2^3^2`. -/
def towerTokens : List Token :=
  [⟨.number, "2", 0, 1⟩, ⟨.operator, "^", 1, 2⟩, ⟨.number, "3", 2, 3⟩, ⟨.operator, "^", 3, 4⟩,
    ⟨.number, "2", 4, 5⟩]

/-- The grammar derives powers from the left. -/
theorem derives_tower :
    Derives loosest towerTokens
      (.binary .power (.binary .power (.number 2) (.number 3)) (.number 2)) := by
  have base : Derives 0 [⟨.number, "2", 0, 1⟩] (.number 2) := .number rfl (by decide)
  have middle : Derives 0 [⟨.number, "3", 2, 3⟩] (.number 3) := .number rfl (by decide)
  have last : Derives 0 [⟨.number, "2", 4, 5⟩] (.number 2) := .number rfl (by decide)
  have lower := @Derives.binary _ _ ⟨.operator, "^", 1, 2⟩ .power _ _ base.tighter rfl rfl middle
  have whole := @Derives.binary _ _ ⟨.operator, "^", 3, 4⟩ .power _ _ lower rfl rfl last
  exact whole.tighter.tighter.tighter.tighter

/-- Powers are read from the left, and in no other way. -/
theorem parseTokens_follows_grammar_tower :
    parseTokens towerTokens =
        .ok (.binary .power (.binary .power (.number 2) (.number 3)) (.number 2)) ∧
      ∀ e, Derives loosest towerTokens e →
        e = .binary .power (.binary .power (.number 2) (.number 3)) (.number 2) := by
  have finite : ∀ t ∈ towerTokens, ∀ x, t.numeral? = some x → x.isFinite = true := by
    intro t ht x hx
    have numerals : t.numeral? = none ∨ t.numeral? = some 2 ∨ t.numeral? = some 3 := by
      simp only [towerTokens, List.mem_cons, List.not_mem_nil, or_false] at ht
      rcases ht with rfl | rfl | rfl | rfl | rfl <;> decide
    rcases numerals with h | h | h <;> rw [h] at hx <;> cases hx <;> decide
  obtain ⟨sound, complete⟩ := parseTokens_follows_grammar towerTokens
  have parsed : parseTokens towerTokens =
      .ok (.binary .power (.binary .power (.number 2) (.number 3)) (.number 2)) := by
    rcases complete _ derives_tower finite with ⟨-, parsed⟩ | ⟨deep, -⟩
    · exact parsed
    · exact absurd deep (by decide)
  exact ⟨parsed, (sound _ parsed).2⟩

end Worksheet
