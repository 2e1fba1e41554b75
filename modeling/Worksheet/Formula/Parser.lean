/-
  Reading tokens as an expression. From the loosest: comparisons, `&`, `+` and `-`, `*` and
  `/`, `^`, each associating to the left; then the prefix operators; then literals,
  references, names, calls and groups.

  Nesting is limited. A group, a call, a prefix operator and every operator of a chain go
  one level down, and the level below is all that a parser knows of deeper formulas: the
  parsers of `n + 1` levels are built from those of `n`.
-/
import Worksheet.Formula.Expr
import Worksheet.Formula.Lexeme

namespace Worksheet

/-- Reads an expression from the front of a list of tokens, and leaves the rest. -/
abbrev Parser := List Token → Except FormulaFault (Expr × List Token)

/-- The parsers of one nesting level. `operand n` reads what may stand beside an operator
    of looseness `n`; `chain n left` goes on with such operators after `left`. -/
structure Level where
  operand : Nat → Parser
  chain : Nat → Expr → Parser

/-- The looseness that no operator reaches: an operand of it is a whole expression. -/
def loosest : Nat := 5

namespace Parser

/-- The level below, if there is one. -/
def descend (below : Option Level) (position : Nat) : Except FormulaFault Level :=
  match below with
  | some level => .ok level
  | none => .error (.grammar .tooDeep position)

/-- Takes one token of the given kind. The formula ends at byte `finish`. -/
def expect (finish : Nat) (kind : TokenKind) (what : Wanted) :
    List Token → Except FormulaFault (Token × List Token)
  | [] => .error (.grammar (.wanted what none) finish)
  | t :: ts =>
    if t.kind = kind then .ok (t, ts)
    else .error (.grammar (.wanted what (some t.display)) t.start)

/-! ## Operators -/

/-- The rest of a chain of operators of one looseness. -/
def chain (below : Option Level) (looseness : Nat) (left : Expr) : Parser
  | [] => .ok (left, [])
  | t :: ts =>
    match t.binaryOp? looseness with
    | none => .ok (left, t :: ts)
    | some op => do
      let level ← descend below t.start
      let (right, rest) ← level.operand looseness ts
      level.chain looseness (.binary op left right) rest

/-! ## Primary expressions -/

/-- The arguments of a call, of which there is at least one, up to the closing parenthesis.
    The bound is the number of tokens, and each argument takes at least one of them. -/
def arguments (level : Level) (finish : Nat) (function : String) :
    (bound : Nat) → List Token → Except FormulaFault (List Expr × List Token)
  | 0, _ => .error (.grammar .noOperandAtEnd finish)
  | bound + 1, ts => do
    if let t :: _ := ts then
      if t.kind = .rightParen then throw (.grammar (.commaAtEnd function) t.start)
    let (arg, rest) ← level.operand loosest ts
    match rest with
    | t :: more =>
      if t.kind = .comma then
        let (args, rest) ← arguments level finish function bound more
        return (arg :: args, rest)
      else
        let (_, rest) ← expect finish .rightParen .argumentEnd rest
        return ([arg], rest)
    | [] => throw (.grammar (.wanted .argumentEnd none) finish)

/-- A call, after its opening parenthesis. -/
def call (level : Level) (finish : Nat) (function : String) : Parser
  | [] => .error (.grammar .noOperandAtEnd finish)
  | t :: ts => do
    if t.kind = .rightParen then return (.call function [], ts)
    let (args, rest) ← arguments level finish function (ts.length + 1) (t :: ts)
    return (.call function args, rest)

/-- What may follow the first corner of a range: a colon and the other corner. -/
def reference (finish : Nat) (first : Address) : Parser
  | [] => .ok (.cell first, [])
  | t :: ts => do
    if t.kind = .colon then
      let (corner, rest) ← expect finish .cell .rangeCorner ts
      let last ← corner.address
      return (.range first last, rest)
    else return (.cell first, t :: ts)

/-- What may follow a word: the parenthesis that makes it a call. -/
def word (below : Option Level) (finish : Nat) (t : Token) : Parser
  | [] => .ok (.name t.value, [])
  | next :: ts => do
    if next.kind = .leftParen then
      let level ← descend below t.start
      call level finish (Text.upper t.value) ts
    else return (.name t.value, next :: ts)

/-- A group, after its opening parenthesis. -/
def group (level : Level) (finish : Nat) : Parser := fun ts => do
  let (inner, rest) ← level.operand loosest ts
  let (_, rest) ← expect finish .rightParen .closingParen rest
  return (.group inner, rest)

/-- A literal, a reference, a name, a call or a group. -/
def primary (below : Option Level) (finish : Nat) : Parser
  | [] => .error (.grammar .noOperandAtEnd finish)
  | t :: ts =>
    match t.kind with
    | .number =>
      match Decimal.read? t.value.toList with
      | some x => .ok (.number x, ts)
      | none => .error (.grammar (.badNumber t.value) t.start)
    | .text => .ok (.text t.value, ts)
    | .boolean => .ok (.boolean (t.value == "TRUE"), ts)
    | .cell => do reference finish (← t.address) ts
    | .name => word below finish t ts
    | .leftParen => do group (← descend below t.start) finish ts
    | .rightParen => .error (.grammar (.noOperandBefore ")") t.start)
    | .comma | .colon | .operator => .error (.grammar (.noOperandBefore t.display) t.start)

/-- A primary expression after any number of prefix operators. -/
def prefixed (below : Option Level) (finish : Nat) : Parser
  | [] => primary below finish []
  | t :: ts =>
    match t.prefixOp? with
    | some op => do
      let level ← descend below t.start
      let (operand, rest) ← level.operand 0 ts
      return (.prefixed op operand, rest)
    | none => primary below finish (t :: ts)

/-! ## Levels -/

/-- An operand of an operator of the given looseness: tighter operators and their
    operands. -/
def operand (below : Option Level) (finish : Nat) : (looseness : Nat) → Parser
  | 0 => prefixed below finish
  | n + 1 => fun ts => do
    let (left, rest) ← operand below finish n ts
    chain below n left rest

/-- The level above the given one. -/
def above (finish : Nat) (below : Option Level) : Level :=
  ⟨operand below finish, chain below⟩

/-- The level with so many levels below it. -/
def level (finish : Nat) : Nat → Level
  | 0 => above finish none
  | depth + 1 => above finish (some (level finish depth))

end Parser

/-- The byte at which a list of tokens ends. -/
def endOf (tokens : List Token) : Nat := (tokens.getLast?.map Token.stop).getD 0

/-- Reads a list of tokens, all of it, as an expression. -/
def parseTokens (tokens : List Token) : Except FormulaFault Expr :=
  if tokens.isEmpty then .error (.grammar .nothing 0)
  else do
    let (e, rest) ← (Parser.level (endOf tokens) nestingLimit).operand loosest tokens
    match rest with
    | [] => return e
    | t :: _ =>
      if t.kind = .rightParen then throw (.grammar .unbalanced t.start)
      else throw (.grammar (.surplus t.display) t.start)

/-- Reads the text after the equals sign as an expression. -/
def parseBody (body : List Char) : Except FormulaFault Expr := tokenize body >>= parseTokens

/-- Reads a formula. Blanks may stand before its equals sign. -/
def parseFormula (formula : String) : Except FormulaFault Expr :=
  match Text.trimLeft formula.toList with
  | '=' :: body => parseBody body
  | _ => .error (.grammar .noEqualsSign 0)

end Worksheet
