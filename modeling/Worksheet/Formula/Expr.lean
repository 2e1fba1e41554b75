/-
  Expressions: what a formula means before it is evaluated. Groups are kept, so that an
  expression prints with the parentheses it was written with.
-/
import Worksheet.Decimal.Notation
import Worksheet.Formula.Operator
import Worksheet.Grid.Range
import Worksheet.Text.Quoted
import Worksheet.Value.Coercion

namespace Worksheet

/-- An expression. The corners of a range are in the order they were written in, and the
    name of a called function is in upper case. -/
inductive Expr where
  | number (x : Float)
  | text (s : String)
  | boolean (b : Bool)
  | cell (a : Address)
  | range (a b : Address)
  /-- A word that is no call. -/
  | name (s : String)
  | binary (op : BinaryOp) (left right : Expr)
  | prefixed (op : PrefixOp) (operand : Expr)
  | group (inner : Expr)
  | call (function : String) (args : List Expr)
deriving Repr, Inhabited

/-- Numbers in a formula are written like those in a grid, but a zero keeps its sign. -/
def literalNumber : Decimal.Notation where
  tie := .up
  plain := none
  pointZero := false
  signedZero := true

namespace Expr

/-! ## Printing -/

mutual

/-- The text of an expression, in normal form and without blanks. -/
def chars : Expr → List Char
  | .number x => literalNumber.render x
  | .text s => Text.quoted s.toList
  | .boolean b => (Value.booleanText b).toList
  | .cell a => a.chars
  | .range a b => a.chars ++ ':' :: b.chars
  | .name s => s.toList
  | .binary op left right => left.chars ++ op.symbol.toList ++ right.chars
  | .prefixed op operand => op.symbol.toList ++ operand.chars
  | .group inner => '(' :: inner.chars ++ [')']
  | .call function args => function.toList ++ '(' :: argsChars args ++ [')']

/-- The texts of arguments, with commas between them. -/
def argsChars : List Expr → List Char
  | [] => []
  | e :: es => e.chars ++ moreChars es

/-- The texts of further arguments, each after a comma. -/
def moreChars : List Expr → List Char
  | [] => []
  | e :: es => ',' :: e.chars ++ moreChars es

end

/-- The text of an expression as a string. -/
def display (e : Expr) : String := String.ofList e.chars

/-! ## Equality -/

mutual

/-- Whether two expressions are the same; numbers are compared by their size. -/
def same : Expr → Expr → Bool
  | .number x, .number y => x == y
  | .text s, .text t => s == t
  | .boolean a, .boolean b => a == b
  | .cell a, .cell b => a == b
  | .range a b, .range c d => a == c && b == d
  | .name s, .name t => s == t
  | .binary o l r, .binary p m q => o == p && l.same m && r.same q
  | .prefixed o e, .prefixed p f => o == p && e.same f
  | .group e, .group f => e.same f
  | .call f es, .call g fs => f == g && allSame es fs
  | _, _ => false

/-- Whether two lists of expressions are the same, one by one. -/
def allSame : List Expr → List Expr → Bool
  | [], [] => true
  | e :: es, f :: fs => e.same f && allSame es fs
  | _, _ => false

end

end Expr

end Worksheet
