/-
  The operators of formulas. A binary operator has a symbol and a looseness: the looser one
  of two operators takes the larger part of the formula. All chains associate to the left.
-/
namespace Worksheet

/-- An operator between two operands. -/
inductive BinaryOp where
  | add
  | subtract
  | multiply
  | divide
  | power
  | equal
  | notEqual
  | less
  | lessEqual
  | greater
  | greaterEqual
  | join
deriving Repr, DecidableEq, Inhabited

namespace BinaryOp

/-- All binary operators. -/
def all : List BinaryOp :=
  [.add, .subtract, .multiply, .divide, .power, .equal, .notEqual, .less, .lessEqual,
    .greater, .greaterEqual, .join]

/-- The symbol of an operator. -/
def symbol : BinaryOp → String
  | .add => "+"
  | .subtract => "-"
  | .multiply => "*"
  | .divide => "/"
  | .power => "^"
  | .equal => "="
  | .notEqual => "<>"
  | .less => "<"
  | .lessEqual => "<="
  | .greater => ">"
  | .greaterEqual => ">="
  | .join => "&"

/-- The operator with the given symbol. -/
def ofSymbol? (s : String) : Option BinaryOp := all.find? fun op => op.symbol == s

/-- The operator compares its operands. -/
def isComparison : BinaryOp → Bool
  | .equal | .notEqual | .less | .lessEqual | .greater | .greaterEqual => true
  | _ => false

/-- How loosely an operator binds, from 0 for powers to 4 for comparisons. -/
def looseness : BinaryOp → Nat
  | .power => 0
  | .multiply | .divide => 1
  | .add | .subtract => 2
  | .join => 3
  | _ => 4

theorem ofSymbol?_symbol (op : BinaryOp) : ofSymbol? op.symbol = some op := by
  cases op <;> decide

theorem symbol_of_ofSymbol? {s : String} {op : BinaryOp} (h : ofSymbol? s = some op) :
    op.symbol = s := by
  simpa using List.find?_some h

end BinaryOp

/-- An operator before its operand. -/
inductive PrefixOp where
  | negate
  | plus
deriving Repr, DecidableEq, Inhabited

namespace PrefixOp

/-- The symbol of an operator. -/
def symbol : PrefixOp → String
  | .negate => "-"
  | .plus => "+"

/-- The operator with the given symbol. -/
def ofSymbol? (s : String) : Option PrefixOp :=
  if s = "-" then some .negate else if s = "+" then some .plus else none

theorem ofSymbol?_symbol (op : PrefixOp) : ofSymbol? op.symbol = some op := by
  cases op <;> decide

theorem symbol_of_ofSymbol? {s : String} {op : PrefixOp} (h : ofSymbol? s = some op) :
    op.symbol = s := by
  unfold ofSymbol? at h
  split at h
  · cases h; simp_all [symbol]
  · split at h
    · cases h; simp_all [symbol]
    · cases h

end PrefixOp

end Worksheet
