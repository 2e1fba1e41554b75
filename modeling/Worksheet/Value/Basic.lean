/-
  Values: what a cell holds and what a formula evaluates to. Errors are values; an error
  has a kind, which a grid shows as a mnemonic, and perhaps a detail.
-/
import Worksheet.Text.Case

namespace Worksheet

/-- The kinds of error values. -/
inductive ErrorKind where
  | divisionByZero
  | value
  | reference
  | name
  | number
  | notAvailable
  | circular
deriving Repr, DecidableEq, Inhabited

namespace ErrorKind

/-- All kinds. -/
def all : List ErrorKind :=
  [.divisionByZero, .value, .reference, .name, .number, .notAvailable, .circular]

/-- The mnemonic a grid shows. -/
def mnemonic : ErrorKind → String
  | .divisionByZero => "#DIV/0!"
  | .value => "#VALUE!"
  | .reference => "#REF!"
  | .name => "#NAME?"
  | .number => "#NUM!"
  | .notAvailable => "#N/A"
  | .circular => "#CIRCULAR!"

/-- The kind with the given mnemonic, in any case. -/
def ofMnemonic? (s : String) : Option ErrorKind :=
  all.find? fun k => k.mnemonic == Text.upper s

end ErrorKind

/-- An error as a value. -/
structure ErrorValue where
  kind : ErrorKind
  detail : Option String := none
deriving Repr, DecidableEq, Inhabited

/-- The mnemonic, with the detail in parentheses. -/
def ErrorValue.text (e : ErrorValue) : String :=
  match e.detail with
  | some detail => s!"{e.kind.mnemonic} ({detail})"
  | none => e.kind.mnemonic

/-- The value of a cell, or the result of a formula. -/
inductive Value where
  /-- An unset cell. -/
  | empty
  | number (x : Float)
  | text (s : String)
  | boolean (b : Bool)
  | error (e : ErrorValue)
deriving Repr, DecidableEq, Inhabited

namespace Value

/-- An error value without a detail. -/
def fault (kind : ErrorKind) : Value := .error ⟨kind, none⟩

/-- An error value with a detail. -/
def faultWith (kind : ErrorKind) (detail : String) : Value := .error ⟨kind, some detail⟩

/-- The value is that of an unset cell. -/
def isEmpty : Value → Bool
  | .empty => true
  | _ => false

/-- The value is a number. -/
def isNumber : Value → Bool
  | .number _ => true
  | _ => false

/-- The value is a text. -/
def isText : Value → Bool
  | .text _ => true
  | _ => false

/-- The value is an error. -/
def isError : Value → Bool
  | .error _ => true
  | _ => false

/-- The error, if the value is one. -/
def error? : Value → Option ErrorValue
  | .error e => some e
  | _ => none

/-- The name of the value's type. -/
def typeName : Value → String
  | .empty => "empty"
  | .number _ => "number"
  | .text _ => "text"
  | .boolean _ => "boolean"
  | .error _ => "error"

/-- A result that may have failed, as a value. -/
def ofExcept : Except ErrorValue Value → Value
  | .ok v => v
  | .error e => .error e

end Value

end Worksheet
