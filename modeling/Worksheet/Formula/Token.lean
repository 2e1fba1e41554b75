/-
  Tokens: the words of a formula, with their place in its text. The value of a token is
  its text in normal form.
-/
import Worksheet.Formula.Fault
import Worksheet.Formula.Operator
import Worksheet.Text.Quoted

namespace Worksheet

/-- The kinds of tokens. -/
inductive TokenKind where
  | number
  | text
  | boolean
  | cell
  | name
  | operator
  | leftParen
  | rightParen
  | comma
  | colon
deriving Repr, DecidableEq, Inhabited

/-- A token, from byte `start` up to byte `stop` of the text. The value is the contents of
    a text literal, the capitals of a reference or a truth value, and otherwise the text as
    it is written. -/
structure Token where
  kind : TokenKind
  value : String
  start : Nat
  stop : Nat
deriving Repr, DecidableEq

namespace Token

/-- The token as it is written; a text literal gets its marks back. -/
def display (t : Token) : String :=
  match t.kind with
  | .text => String.ofList (Text.quoted t.value.toList)
  | _ => t.value

/-- The binary operator of the given looseness that the token stands for. -/
def binaryOp? (looseness : Nat) (t : Token) : Option BinaryOp :=
  if t.kind = .operator then
    (BinaryOp.ofSymbol? t.value).filter fun op => op.looseness == looseness
  else none

/-- The prefix operator that the token stands for. -/
def prefixOp? (t : Token) : Option PrefixOp :=
  if t.kind = .operator then PrefixOp.ofSymbol? t.value else none

/-- The address that a reference token names. -/
def address (t : Token) : Except FormulaFault Address :=
  (Address.parse t.value).mapError (.noSuchCell t.value (some t.start))

end Token

end Worksheet
