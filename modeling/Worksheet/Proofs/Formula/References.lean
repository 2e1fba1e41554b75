/-
  The references of an expression. They are those of its tokens, in the same order
  (`Derives.addresses_eq`). When other references are put in their place, in the expression and
  in its tokens, the grammar derives the one from the other in the same way
  (`Derives.mapAddresses`), and neither the levels of nesting nor the numbers change.
-/
import Mathlib.Data.List.Chain
import Mathlib.Data.List.Forall2
import Worksheet.Proofs.Formula.Grammar

namespace Worksheet

namespace Expr

/-! ## References -/

mutual

/-- The references of an expression and the corners of its ranges, from left to right. -/
def addresses : Expr → List Address
  | .cell a => [a]
  | .range a b => [a, b]
  | .binary _ left right => left.addresses ++ right.addresses
  | .prefixed _ operand => operand.addresses
  | .group inner => inner.addresses
  | .call _ args => argsAddresses args
  | .number _ | .text _ | .boolean _ | .name _ => []

/-- The references of arguments, from left to right. -/
def argsAddresses : List Expr → List Address
  | [] => []
  | e :: es => e.addresses ++ argsAddresses es

end

mutual

/-- The expression with every reference and every corner of a range replaced. -/
def mapAddresses (f : Address → Address) : Expr → Expr
  | .cell a => .cell (f a)
  | .range a b => .range (f a) (f b)
  | .binary op left right => .binary op (left.mapAddresses f) (right.mapAddresses f)
  | .prefixed op operand => .prefixed op (operand.mapAddresses f)
  | .group inner => .group (inner.mapAddresses f)
  | .call function args => .call function (mapArgsAddresses f args)
  | .number x => .number x
  | .text s => .text s
  | .boolean b => .boolean b
  | .name s => .name s

/-- The arguments with every reference and every corner of a range replaced. -/
def mapArgsAddresses (f : Address → Address) : List Expr → List Expr
  | [] => []
  | e :: es => e.mapAddresses f :: mapArgsAddresses f es

end

mutual

theorem mapAddresses_id : (e : Expr) → e.mapAddresses id = e
  | .binary op left right => by
    rw [mapAddresses, mapAddresses_id left, mapAddresses_id right]
  | .prefixed op operand => congrArg (prefixed op) (mapAddresses_id operand)
  | .group inner => congrArg group (mapAddresses_id inner)
  | .call function args => congrArg (call function) (mapArgsAddresses_id args)
  | .cell _ | .range _ _ | .number _ | .text _ | .boolean _ | .name _ => rfl

theorem mapArgsAddresses_id : (es : List Expr) → mapArgsAddresses id es = es
  | [] => rfl
  | e :: es => by rw [mapArgsAddresses, mapAddresses_id e, mapArgsAddresses_id es]

end

variable (f : Address → Address)

theorem chainLength_mapAddresses (n : Nat) (e : Expr) :
    (e.mapAddresses f).chainLength n = e.chainLength n := by
  fun_induction chainLength n e with
  | case1 op left right same ih => rw [mapAddresses, chainLength, if_pos same, ih]
  | case2 op left right other => rw [mapAddresses, chainLength, if_neg other]
  | case3 e notBinary =>
    cases e with
    | binary op left right => exact absurd rfl (notBinary op left right)
    | _ => rfl

mutual

theorem nesting_mapAddresses : (e : Expr) → (e.mapAddresses f).nesting = e.nesting
  | .binary op left right => by
    rw [mapAddresses, nesting, nesting, nesting_mapAddresses left, nesting_mapAddresses right,
      chainLength_mapAddresses]
  | .prefixed _ operand => congrArg (· + 1) (nesting_mapAddresses operand)
  | .group inner => congrArg (· + 1) (nesting_mapAddresses inner)
  | .call _ args => congrArg (· + 1) (argsNesting_mapAddresses args)
  | .cell _ | .range _ _ | .number _ | .text _ | .boolean _ | .name _ => rfl

theorem argsNesting_mapAddresses : (es : List Expr) →
    argsNesting (mapArgsAddresses f es) = argsNesting es
  | [] => rfl
  | e :: es => by
    rw [mapArgsAddresses, argsNesting, argsNesting, nesting_mapAddresses e,
      argsNesting_mapAddresses es]

end

mutual

theorem numbers_mapAddresses : (e : Expr) → (e.mapAddresses f).numbers = e.numbers
  | .binary op left right => by
    rw [mapAddresses, numbers, numbers, numbers_mapAddresses left, numbers_mapAddresses right]
  | .prefixed _ operand => numbers_mapAddresses operand
  | .group inner => numbers_mapAddresses inner
  | .call _ args => argsNumbers_mapAddresses args
  | .cell _ | .range _ _ | .number _ | .text _ | .boolean _ | .name _ => rfl

theorem argsNumbers_mapAddresses : (es : List Expr) →
    argsNumbers (mapArgsAddresses f es) = argsNumbers es
  | [] => rfl
  | e :: es => by
    rw [mapArgsAddresses, argsNumbers, argsNumbers, numbers_mapAddresses e,
      argsNumbers_mapAddresses es]

end

end Expr

/-! ## References among the tokens -/

theorem Token.address_eq_ok {t : Token} {a : Address} :
    t.address = .ok a ↔ Address.parse t.value = .ok a := by
  unfold Token.address
  cases Address.parse t.value with
  | error fault => exact ⟨nofun, nofun⟩
  | ok b => simp [Except.mapError]

/-- What the tokens that are references are read as. -/
def readReferences (ts : List Token) : List (Except AddressFault Address) :=
  (ts.filter (·.kind = .cell)).map fun t => Address.parse t.value

theorem readReferences_append (ts us : List Token) :
    readReferences (ts ++ us) = readReferences ts ++ readReferences us := by
  simp [readReferences]

theorem readReferences_cons_of_cell {t : Token} {a : Address} (kind : t.kind = .cell)
    (address : t.address = .ok a) (ts : List Token) :
    readReferences (t :: ts) = .ok a :: readReferences ts := by
  simp [readReferences, kind, Token.address_eq_ok.1 address]

theorem readReferences_cons {t : Token} (kind : t.kind ≠ .cell) (ts : List Token) :
    readReferences (t :: ts) = readReferences ts := by
  simp [readReferences, kind]

mutual

/-- The references of an expression are those of its tokens. -/
theorem Derives.addresses_eq {n : Nat} {ts : List Token} {e : Expr} :
    Derives n ts e → readReferences ts = e.addresses.map .ok
  | .number kind _ => readReferences_cons (by simp [kind]) []
  | .text kind => readReferences_cons (by simp [kind]) []
  | .boolean kind => readReferences_cons (by simp [kind]) []
  | .cell kind address => readReferences_cons_of_cell kind address []
  | .range first firstAddress between last lastAddress => by
    rw [readReferences_cons_of_cell first firstAddress, readReferences_cons (by simp [between]),
      readReferences_cons_of_cell last lastAddress]
    rfl
  | .name kind => readReferences_cons (by simp [kind]) []
  | .constant name left right => by
    rw [readReferences_cons (by simp [name]), readReferences_cons (by simp [left]),
      readReferences_cons (by simp [right])]
    rfl
  | .call name left inner right => by
    rw [readReferences_cons (by simp [name]), readReferences_cons (by simp [left]),
      readReferences_append, inner.addresses_eq, readReferences_cons (by simp [right])]
    exact List.append_nil _
  | .group left inner right => by
    rw [readReferences_cons (by simp [left]), readReferences_append, inner.addresses_eq,
      readReferences_cons (by simp [right])]
    exact List.append_nil _
  | .prefixed kind _ operand => by
    rw [readReferences_cons (by simp [kind]), operand.addresses_eq, Expr.addresses]
  | .tighter operand => operand.addresses_eq
  | .binary left kind _ right => by
    rw [readReferences_append, left.addresses_eq, readReferences_cons (by simp [kind]),
      right.addresses_eq, Expr.addresses, List.map_append]

theorem DerivesArgs.addresses_eq {ts : List Token} {es : List Expr} :
    DerivesArgs ts es → readReferences ts = (Expr.argsAddresses es).map .ok
  | .last arg => by
    rw [arg.addresses_eq, Expr.argsAddresses, Expr.argsAddresses, List.append_nil]
  | .more arg between args => by
    rw [readReferences_append, arg.addresses_eq, readReferences_cons (by simp [between]),
      args.addresses_eq, Expr.argsAddresses, List.map_append]

end

/-! ## Other references in their place -/

/-- The second token is the first one, but a reference is replaced. -/
structure Token.MapsTo (f : Address → Address) (t u : Token) : Prop where
  kind : u.kind = t.kind
  value : t.kind ≠ .cell → u.value = t.value
  address : t.kind = .cell → ∀ a, t.address = .ok a → u.address = .ok (f a)

theorem exists_of_forall₂_append_cons {α β : Type} {R : α → β → Prop} {xs₁ xs₂ : List α} {x : α}
    {ys : List β} (h : List.Forall₂ R (xs₁ ++ x :: xs₂) ys) :
    ∃ ys₁ y ys₂, ys = ys₁ ++ y :: ys₂ ∧ List.Forall₂ R xs₁ ys₁ ∧ R x y ∧
      List.Forall₂ R xs₂ ys₂ := by
  induction xs₁ generalizing ys with
  | nil =>
    obtain ⟨y, ys₂, here, after, rfl⟩ := List.forall₂_cons_left_iff.1 h
    exact ⟨[], y, ys₂, rfl, .nil, here, after⟩
  | cons x₁ xs₁ ih =>
    obtain ⟨y₁, ys', first, later, rfl⟩ := List.forall₂_cons_left_iff.1 h
    obtain ⟨ys₁, y, ys₂, rfl, before, here, after⟩ := ih later
    exact ⟨y₁ :: ys₁, y, ys₂, rfl, .cons first before, here, after⟩

variable {f : Address → Address}

mutual

/-- Tokens with other references derive the expression with those references. -/
theorem Derives.mapAddresses {n : Nat} {ts : List Token} {e : Expr} :
    Derives n ts e → ∀ us, List.Forall₂ (Token.MapsTo f) ts us → Derives n us (e.mapAddresses f)
  | .number kind value, _, .cons t .nil => by
    have same := t.value (by simp [kind])
    refine .number (t.kind.trans kind) ?_
    rw [Token.number?, same]
    exact value
  | .text kind, _, .cons t .nil => by
    have derived := Derives.text (t.kind.trans kind)
    rw [t.value (by simp [kind])] at derived
    exact derived
  | .boolean kind, _, .cons t .nil => by
    have derived := Derives.boolean (t.kind.trans kind)
    rw [t.value (by simp [kind])] at derived
    exact derived
  | .cell kind address, _, .cons t .nil =>
    .cell (t.kind.trans kind) (t.address kind _ address)
  | .range first firstAddress between last lastAddress, _, .cons t (.cons colon (.cons u .nil)) =>
    .range (t.kind.trans first) (t.address first _ firstAddress) (colon.kind.trans between)
      (u.kind.trans last) (u.address last _ lastAddress)
  | .name kind, _, .cons t .nil => by
    have derived := Derives.name (t.kind.trans kind)
    rw [t.value (by simp [kind])] at derived
    exact derived
  | .constant name left right, _, .cons f (.cons l (.cons r .nil)) => by
    have derived :=
      Derives.constant (f.kind.trans name) (l.kind.trans left) (r.kind.trans right)
    rw [f.value (by simp [name])] at derived
    exact derived
  | .call name left inner right, _, .cons f (.cons l rest) => by
    obtain ⟨us, _, _, rfl, args, r, none⟩ := exists_of_forall₂_append_cons rest
    obtain rfl := List.forall₂_nil_left_iff.1 none
    have derived := Derives.call (f.kind.trans name) (l.kind.trans left)
      (inner.mapAddresses us args) (r.kind.trans right)
    rw [f.value (by simp [name])] at derived
    exact derived
  | .group left inner right, _, .cons l rest => by
    obtain ⟨us, _, _, rfl, tokens, r, none⟩ := exists_of_forall₂_append_cons rest
    obtain rfl := List.forall₂_nil_left_iff.1 none
    exact .group (l.kind.trans left) (inner.mapAddresses us tokens) (r.kind.trans right)
  | .prefixed kind symbol operand, _, .cons t rest =>
    .prefixed (t.kind.trans kind) ((t.value (by simp [kind])).trans symbol)
      (operand.mapAddresses _ rest)
  | .tighter operand, us, tokens => (operand.mapAddresses us tokens).tighter
  | .binary left kind symbol right, _, tokens => by
    obtain ⟨ls, _, _, rfl, before, t, after⟩ := exists_of_forall₂_append_cons tokens
    exact .binary (left.mapAddresses ls before) (t.kind.trans kind)
      ((t.value (by simp [kind])).trans symbol) (right.mapAddresses _ after)

theorem DerivesArgs.mapAddresses {ts : List Token} {es : List Expr} :
    DerivesArgs ts es → ∀ us, List.Forall₂ (Token.MapsTo f) ts us →
      DerivesArgs us (Expr.mapArgsAddresses f es)
  | .last arg, us, tokens => .last (arg.mapAddresses us tokens)
  | .more arg between args, _, tokens => by
    obtain ⟨us, _, _, rfl, before, comma, after⟩ := exists_of_forall₂_append_cons tokens
    exact .more (arg.mapAddresses us before) (comma.kind.trans between)
      (args.mapAddresses _ after)

end

/-! ## What follows a number -/

/-- A token of the kind may follow a number. -/
def TokenKind.FollowsNumber (kind : TokenKind) : Prop :=
  kind = .operator ∨ kind = .rightParen ∨ kind = .comma

instance (kind : TokenKind) : Decidable kind.FollowsNumber :=
  inferInstanceAs (Decidable (_ ∨ _ ∨ _))

/-- After a number stands what may follow one. -/
def NumbersEnd (kinds : List TokenKind) : Prop :=
  kinds.IsChain fun kind next => kind = .number → next.FollowsNumber

theorem NumbersEnd.cons {kind : TokenKind} (h : kind ≠ .number) {kinds : List TokenKind}
    (ends : NumbersEnd kinds) : NumbersEnd (kind :: kinds) :=
  List.isChain_cons.2 ⟨fun _ _ number => absurd number h, ends⟩

theorem NumbersEnd.append {kinds : List TokenKind} {next : TokenKind} {later : List TokenKind}
    (ends : NumbersEnd kinds) (follows : next.FollowsNumber) (ends' : NumbersEnd (next :: later)) :
    NumbersEnd (kinds ++ next :: later) := by
  refine List.IsChain.append ends ends' fun kind _ other hother _ => ?_
  obtain rfl := Option.some.inj hother
  exact follows

theorem numbersEnd_singleton (kind : TokenKind) : NumbersEnd [kind] := .singleton kind

mutual

/-- In the tokens of an expression, a number is followed by no other operand. -/
theorem Derives.numbersEnd {n : Nat} {ts : List Token} {e : Expr} :
    Derives n ts e → NumbersEnd (ts.map Token.kind)
  | .number _ _ | .text _ | .boolean _ | .cell _ _ | .name _ => numbersEnd_singleton _
  | .range first _ between _ _ => by
    rw [List.map_cons, List.map_cons, first, between]
    exact .cons (by decide) (.cons (by decide) (numbersEnd_singleton _))
  | .constant name left _ => by
    rw [List.map_cons, List.map_cons, name, left]
    exact .cons (by decide) (.cons (by decide) (numbersEnd_singleton _))
  | .call name left inner right => by
    rw [List.map_cons, List.map_cons, List.map_append, List.map_singleton, name, left, right]
    exact .cons (by decide) (.cons (by decide)
      (inner.numbersEnd.append (.inr (.inl rfl)) (numbersEnd_singleton _)))
  | .group left inner right => by
    rw [List.map_cons, List.map_append, List.map_singleton, left, right]
    exact .cons (by decide) (inner.numbersEnd.append (.inr (.inl rfl)) (numbersEnd_singleton _))
  | .prefixed kind _ operand => by
    rw [List.map_cons, kind]
    exact .cons (by decide) operand.numbersEnd
  | .tighter operand => operand.numbersEnd
  | .binary left kind _ right => by
    rw [List.map_append, List.map_cons, kind]
    exact left.numbersEnd.append (.inl rfl) (.cons (by decide) right.numbersEnd)

theorem DerivesArgs.numbersEnd {ts : List Token} {es : List Expr} :
    DerivesArgs ts es → NumbersEnd (ts.map Token.kind)
  | .last arg => arg.numbersEnd
  | .more arg between args => by
    rw [List.map_append, List.map_cons, between]
    exact arg.numbersEnd.append (.inr (.inr rfl)) (.cons (by decide) args.numbersEnd)

end

end Worksheet
