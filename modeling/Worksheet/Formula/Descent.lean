/-
  Reading tokens in place, by recursive descent: there is one list of tokens, the position of the
  next one, and a counter of the levels of nesting around it. What goes a level down counts up and
  what comes back from there counts down. A chain of operators goes a level down for each of them
  and comes back all at once, to where it began.

  No parser calls itself before a token was taken. So each of them is given a bound of the tokens
  that may still be taken, which is the number of all tokens for the first one. A parser that took
  more than that would have no outcome.
-/
import Worksheet.Formula.Parser

namespace Worksheet

/-- A place in a list of tokens that ends at byte `finish`: the number of tokens before it and the
    levels of nesting around it. -/
structure Descent where
  tokens : List Token
  finish : Nat
  position : Nat := 0
  depth : Nat := 0
deriving Repr, DecidableEq

/-- Reads at a place and moves it on. A reading may end with a fault, and it may have no outcome. -/
abbrev Descending := ExceptT FormulaFault (StateT Descent Option)

/-- What a reading comes to at a place: its result or its fault, and the place where it stopped. -/
def Descending.outcome {α : Type} (p : Descending α) (s : Descent) :
    Option (Except FormulaFault α × Descent) := p.run.run s

namespace Descent

/-- The place at which the reading of a list of tokens begins. -/
def start (tokens : List Token) : Descent := { tokens, finish := endOf tokens }

/-! ## Tokens -/

/-- The next token, if there is one. It is not taken. -/
def peek : Descending (Option Token) := do
  let s ← get
  return s.tokens[s.position]?

/-- The next token is there and has the given kind. -/
def nextIs (kind : TokenKind) : Descending Bool := do
  return (← peek).any fun t => t.kind = kind

/-- Takes a token. -/
def advance : Descending Unit := modify fun s => { s with position := s.position + 1 }

/-- The byte at which the next token begins. -/
def here : Descending Nat := do
  match ← peek with
  | some t => return t.start
  | none => return (← get).finish

/-- Takes the next token if it is an operator of the given looseness. -/
def takeOperator (looseness : Nat) : Descending (Option BinaryOp) := do
  match (← peek).bind (Token.binaryOp? looseness) with
  | some op =>
    advance
    return some op
  | none => return none

/-- Takes the next token, which must have the given kind. -/
def expect (kind : TokenKind) (what : Wanted) : Descending Token := do
  match ← peek with
  | some t =>
    if t.kind = kind then
      advance
      return t
    else throw (.grammar (.wanted what (some t.display)) t.start)
  | none => throw (.grammar (.wanted what none) (← get).finish)

/-! ## Levels -/

/-- Goes a level down for what begins at the given byte. -/
def descend (start : Nat) : Descending Unit := do
  modify fun s => { s with depth := s.depth + 1 }
  if nestingLimit < (← get).depth then throw (.grammar .tooDeep start)

/-- Comes back from a level. -/
def ascend : Descending Unit := modify fun s => { s with depth := s.depth - 1 }

/-- Comes back to a level, from whatever level it is. -/
def ascendTo (depth : Nat) : Descending Unit := modify fun s => { s with depth }

/-! ## Expressions -/

/-- Goes on with a result, or ends with its fault. -/
def ofExcept {α : Type} : Except FormulaFault α → Descending α
  | .ok a => pure a
  | .error fault => throw fault

/-- The number that a token denotes. -/
def number (t : Token) (start : Nat) : Descending Expr :=
  match Decimal.read? t.value.toList with
  | some x => return .number x
  | none => throw (.grammar (.badNumber t.value) start)

/-- The reference or the range that begins with a token. -/
def reference (t : Token) : Descending Expr := do
  let first ← ofExcept t.address
  if ← nextIs .colon then
    advance
    let corner ← expect .cell .rangeCorner
    let last ← ofExcept corner.address
    return .range first last
  else return .cell first

/-- What is left of a bound after a token was taken, if that is anything. -/
def fewer (bound : Nat) : Descending { rest : Nat // rest < bound } :=
  match bound with
  | 0 => fun _ => none
  | rest + 1 => return ⟨rest, Nat.lt_succ_self rest⟩

mutual

/-- An operand of an operator of the given looseness: a chain of the next tighter ones. -/
def operand (bound : Nat) : (looseness : Nat) → Descending Expr
  | 0 => prefixed bound
  | n + 1 => do
    let left ← operand bound n
    let base := (← get).depth
    let e ← chain bound n left
    ascendTo base
    return e
termination_by looseness => (bound, looseness + 2)

/-- The rest of a chain of operators of one looseness. -/
def chain (bound looseness : Nat) (left : Expr) : Descending Expr := do
  let start ← here
  match ← takeOperator looseness with
  | none => return left
  | some op =>
    let ⟨bound, _⟩ ← fewer bound
    descend start
    let right ← operand bound looseness
    chain bound looseness (.binary op left right)
termination_by (bound, 0)

/-- A primary expression after any number of prefix operators. -/
def prefixed (bound : Nat) : Descending Expr := do
  let start ← here
  match (← peek).bind Token.prefixOp? with
  | none => primary bound
  | some op =>
    advance
    let ⟨bound, _⟩ ← fewer bound
    descend start
    let e ← prefixed bound
    ascend
    return .prefixed op e
termination_by (bound, 1)

/-- A literal, a reference, a name, a call or a group. -/
def primary (bound : Nat) : Descending Expr := do
  let start ← here
  match ← peek with
  | none => throw (.grammar .noOperandAtEnd start)
  | some t =>
    advance
    let ⟨bound, _⟩ ← fewer bound
    match t.kind with
    | .number => number t start
    | .text => return .text t.value
    | .boolean => return .boolean (t.value == "TRUE")
    | .leftParen =>
      descend start
      let e ← operand bound loosest
      let _ ← expect .rightParen .closingParen
      ascend
      return .group e
    | .cell => reference t
    | .name =>
      if ← nextIs .leftParen then
        advance
        descend start
        let e ← call bound (Text.upper t.value)
        ascend
        return e
      else return .name t.value
    | .rightParen => throw (.grammar (.noOperandBefore ")") start)
    | .comma | .colon | .operator => throw (.grammar (.noOperandBefore t.display) start)
termination_by (bound, 0)

/-- A call, after its opening parenthesis. -/
def call (bound : Nat) (function : String) : Descending Expr := do
  if ← nextIs .rightParen then
    advance
    return .call function []
  else
    let args ← arguments bound function
    return .call function args
termination_by (bound, loosest + 4)

/-- The arguments of a call, of which there is at least one, up to the closing parenthesis. -/
def arguments (bound : Nat) (function : String) : Descending (List Expr) := do
  if ← nextIs .rightParen then throw (.grammar (.commaAtEnd function) (← here))
  else
    let arg ← operand bound loosest
    if ← nextIs .comma then
      advance
      let ⟨bound, _⟩ ← fewer bound
      let args ← arguments bound function
      return arg :: args
    else
      let _ ← expect .rightParen .argumentEnd
      return [arg]
termination_by (bound, loosest + 3)

end

/-- A reading that may take all tokens there are. -/
def within {α : Type} (p : (bound : Nat) → Descending α) : Descending α := do
  p (← get).tokens.length

/-- All tokens, as one expression. -/
def whole : Descending Expr := do
  if (← get).tokens.isEmpty then throw (.grammar .nothing 0)
  else
    let e ← within fun bound => operand bound loosest
    match ← peek with
    | none => return e
    | some t =>
      if t.kind = .rightParen then throw (.grammar .unbalanced t.start)
      else throw (.grammar (.surplus t.display) t.start)

end Descent

end Worksheet
