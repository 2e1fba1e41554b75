/-
  The grammar of formulas, stated apart from the parser, and two measures of what it derives.
  `Derives n ts e` says that the tokens `ts`, all of them, can stand as an operand of looseness
  `n` and mean `e`; a whole formula is an operand of looseness `loosest`. Chains of operators
  are derived from the left. The grammar knows no limit of nesting: how many levels an
  expression takes is counted by `Expr.nesting`.
-/
import Worksheet.Formula.Parser

namespace Worksheet

/-- The number that is nearest to what a token's text denotes. It is infinite when the text is
    out of range. -/
def Token.number? (t : Token) : Option Float :=
  (Decimal.Literal.parse? t.value.toList).map Decimal.Literal.toFloat

/-! ## The grammar -/

mutual

/-- The tokens are an operand of an operator of the given looseness, with the given meaning. -/
inductive Derives : Nat → List Token → Expr → Prop where
  | number {t : Token} {x : Float} (kind : t.kind = .number) (value : t.number? = some x) :
      Derives 0 [t] (.number x)
  | text {t : Token} (kind : t.kind = .text) : Derives 0 [t] (.text t.value)
  | boolean {t : Token} (kind : t.kind = .boolean) :
      Derives 0 [t] (.boolean (t.value == "TRUE"))
  | cell {t : Token} {a : Address} (kind : t.kind = .cell) (address : t.address = .ok a) :
      Derives 0 [t] (.cell a)
  | range {t colon u : Token} {a b : Address} (first : t.kind = .cell)
      (firstAddress : t.address = .ok a) (between : colon.kind = .colon)
      (last : u.kind = .cell) (lastAddress : u.address = .ok b) :
      Derives 0 [t, colon, u] (.range a b)
  | name {t : Token} (kind : t.kind = .name) : Derives 0 [t] (.name t.value)
  | constant {f l r : Token} (name : f.kind = .name) (left : l.kind = .leftParen)
      (right : r.kind = .rightParen) : Derives 0 [f, l, r] (.call (Text.upper f.value) [])
  | call {f l r : Token} {ts : List Token} {args : List Expr} (name : f.kind = .name)
      (left : l.kind = .leftParen) (inner : DerivesArgs ts args) (right : r.kind = .rightParen) :
      Derives 0 (f :: l :: (ts ++ [r])) (.call (Text.upper f.value) args)
  | group {l r : Token} {ts : List Token} {e : Expr} (left : l.kind = .leftParen)
      (inner : Derives loosest ts e) (right : r.kind = .rightParen) :
      Derives 0 (l :: (ts ++ [r])) (.group e)
  | prefixed {t : Token} {ts : List Token} {op : PrefixOp} {e : Expr} (kind : t.kind = .operator)
      (symbol : t.value = op.symbol) (operand : Derives 0 ts e) :
      Derives 0 (t :: ts) (.prefixed op e)
  | tighter {n : Nat} {ts : List Token} {e : Expr} (operand : Derives n ts e) :
      Derives (n + 1) ts e
  | binary {ls rs : List Token} {t : Token} {op : BinaryOp} {l r : Expr}
      (left : Derives (op.looseness + 1) ls l) (kind : t.kind = .operator)
      (symbol : t.value = op.symbol) (right : Derives op.looseness rs r) :
      Derives (op.looseness + 1) (ls ++ t :: rs) (.binary op l r)

/-- The tokens are arguments with commas between them. -/
inductive DerivesArgs : List Token → List Expr → Prop where
  | last {ts : List Token} {e : Expr} (arg : Derives loosest ts e) : DerivesArgs ts [e]
  | more {ts us : List Token} {comma : Token} {e : Expr} {es : List Expr}
      (arg : Derives loosest ts e) (between : comma.kind = .comma) (args : DerivesArgs us es) :
      DerivesArgs (ts ++ comma :: us) (e :: es)

end

/-! ## Nesting -/

namespace Expr

/-- How many operators of the given looseness are chained at the root of an expression. -/
def chainLength (n : Nat) : Expr → Nat
  | .binary op left _ => if op.looseness = n then left.chainLength n + 1 else 0
  | _ => 0

mutual

/-- The levels of nesting that an expression takes. What stands right of an operator is nested
    as deep as the operators of its chain so far. -/
def nesting : Expr → Nat
  | .binary op left right =>
    max left.nesting (left.chainLength op.looseness + 1 + right.nesting)
  | .prefixed _ operand => operand.nesting + 1
  | .group inner => inner.nesting + 1
  | .call _ args => argsNesting args + 1
  | .number _ | .text _ | .boolean _ | .cell _ | .range _ _ | .name _ => 0

/-- The levels of nesting that arguments take. -/
def argsNesting : List Expr → Nat
  | [] => 0
  | e :: es => max e.nesting (argsNesting es)

end

/-! ## Numbers -/

mutual

/-- The numbers of an expression, from left to right. -/
def numbers : Expr → List Float
  | .number x => [x]
  | .binary _ left right => left.numbers ++ right.numbers
  | .prefixed _ operand => operand.numbers
  | .group inner => inner.numbers
  | .call _ args => argsNumbers args
  | .text _ | .boolean _ | .cell _ | .range _ _ | .name _ => []

/-- The numbers of arguments, from left to right. -/
def argsNumbers : List Expr → List Float
  | [] => []
  | e :: es => e.numbers ++ argsNumbers es

end

/-- All numbers of the expression are finite. -/
def Finite (e : Expr) : Prop := ∀ x ∈ e.numbers, x.isFinite = true

/-- All numbers of the arguments are finite. -/
def ArgsFinite (es : List Expr) : Prop := ∀ x ∈ argsNumbers es, x.isFinite = true

theorem finite_binary {op : BinaryOp} {left right : Expr} :
    (binary op left right).Finite ↔ left.Finite ∧ right.Finite := List.forall_mem_append

theorem argsFinite_nil : ArgsFinite [] := nofun

theorem argsFinite_cons {e : Expr} {es : List Expr} :
    ArgsFinite (e :: es) ↔ e.Finite ∧ ArgsFinite es := List.forall_mem_append

end Expr

/-- The number of a token that is one. -/
def Token.numeral? (t : Token) : Option Float := if t.kind = .number then t.number? else none

mutual

/-- The numbers of an expression are those of its tokens. -/
theorem Derives.numbers_eq {n : Nat} {ts : List Token} {e : Expr} :
    Derives n ts e → e.numbers = ts.filterMap Token.numeral?
  | .number kind value => by simp [Expr.numbers, Token.numeral?, kind, value]
  | .text kind => by simp [Expr.numbers, Token.numeral?, kind]
  | .boolean kind => by simp [Expr.numbers, Token.numeral?, kind]
  | .cell kind _ => by simp [Expr.numbers, Token.numeral?, kind]
  | .range first _ between last _ => by
    simp [Expr.numbers, Token.numeral?, first, between, last]
  | .name kind => by simp [Expr.numbers, Token.numeral?, kind]
  | .constant name left right => by
    simp [Expr.numbers, Expr.argsNumbers, Token.numeral?, name, left, right]
  | .call name left inner right => by
    have h := inner.numbers_eq
    simp [Expr.numbers, Token.numeral?, name, left, right, h]
  | .group left inner right => by
    have h := inner.numbers_eq
    simp [Expr.numbers, Token.numeral?, left, right, h]
  | .prefixed kind _ operand => by
    have h := operand.numbers_eq
    simp [Expr.numbers, Token.numeral?, kind, h]
  | .tighter operand => operand.numbers_eq
  | .binary left kind _ right => by
    have hl := left.numbers_eq
    have hr := right.numbers_eq
    simp [Expr.numbers, Token.numeral?, kind, hl, hr]

theorem DerivesArgs.numbers_eq {ts : List Token} {es : List Expr} :
    DerivesArgs ts es → Expr.argsNumbers es = ts.filterMap Token.numeral?
  | .last arg => by
    have h := arg.numbers_eq
    simp [Expr.argsNumbers, h]
  | .more arg between args => by
    have h := arg.numbers_eq
    have hs := args.numbers_eq
    simp [Expr.argsNumbers, Token.numeral?, between, h, hs]

end

/-! ## First tokens -/

mutual

/-- An operand has a first token, and that closes nothing. -/
theorem Derives.exists_cons {n : Nat} {ts : List Token} {e : Expr} :
    Derives n ts e → ∃ t us, ts = t :: us ∧ t.kind ≠ .rightParen
  | .number kind _ => ⟨_, _, rfl, by simp [kind]⟩
  | .text kind => ⟨_, _, rfl, by simp [kind]⟩
  | .boolean kind => ⟨_, _, rfl, by simp [kind]⟩
  | .cell kind _ => ⟨_, _, rfl, by simp [kind]⟩
  | .range first _ _ _ _ => ⟨_, _, rfl, by simp [first]⟩
  | .name kind => ⟨_, _, rfl, by simp [kind]⟩
  | .constant name _ _ => ⟨_, _, rfl, by simp [name]⟩
  | .call name _ _ _ => ⟨_, _, rfl, by simp [name]⟩
  | .group left _ _ => ⟨_, _, rfl, by simp [left]⟩
  | .prefixed kind _ _ => ⟨_, _, rfl, by simp [kind]⟩
  | .tighter operand => operand.exists_cons
  | .binary left _ _ _ => by
    obtain ⟨t, us, rfl, ht⟩ := left.exists_cons
    exact ⟨t, _, rfl, ht⟩

theorem DerivesArgs.exists_cons {ts : List Token} {es : List Expr} :
    DerivesArgs ts es → ∃ t us, ts = t :: us ∧ t.kind ≠ .rightParen
  | .last arg => arg.exists_cons
  | .more arg _ _ => by
    obtain ⟨t, us, rfl, ht⟩ := arg.exists_cons
    exact ⟨t, _, rfl, ht⟩

end

/-- No closing parenthesis stands where an operand begins, whatever follows it. -/
theorem Derives.opens {n : Nat} {ts : List Token} {e : Expr} (h : Derives n ts e)
    (rest : List Token) : ∀ t ∈ (ts ++ rest).head?, t.kind ≠ .rightParen := by
  obtain ⟨t, us, rfl, ht⟩ := h.exists_cons
  intro u hu
  obtain rfl := Option.some.inj hu
  exact ht

/-- Every argument takes a token. -/
theorem DerivesArgs.length_le {ts : List Token} {es : List Expr} :
    DerivesArgs ts es → es.length ≤ ts.length
  | .last arg => by
    obtain ⟨t, us, rfl, -⟩ := arg.exists_cons
    simp
  | .more _ _ args => by
    have h := args.length_le
    simp only [List.length_append, List.length_cons]
    omega

/-- The operator at the root of an operand of looseness `n` is tighter than that. -/
theorem Derives.looseness_lt {n : Nat} {ts : List Token} {op : BinaryOp} {l r : Expr}
    (h : Derives n ts (.binary op l r)) : op.looseness < n := by
  generalize he : Expr.binary op l r = e at h
  induction n generalizing ts with
  | zero => cases h <;> cases he
  | succ n ih =>
    cases h with
    | tighter operand => exact Nat.lt_succ_of_lt (ih operand)
    | binary => cases he; exact Nat.lt_succ_self _

/-- An operand of looseness `n` begins a chain of that looseness. -/
theorem Derives.chainLength_eq_zero {n : Nat} {ts : List Token} {e : Expr}
    (h : Derives n ts e) : e.chainLength n = 0 := by
  cases e with
  | binary op l r =>
    have hlt := h.looseness_lt
    rw [Expr.chainLength, if_neg (by omega)]
  | _ => rfl

end Worksheet
