/-
  Registries: the functions a formula may call, by name. Names are looked up in any case,
  and the last registration of a name wins.
-/
import Worksheet.Function.Builtin

namespace Worksheet

/-- A function under a name, with bounds on the number of its arguments. Without an upper
    bound it takes any number. -/
structure Definition where
  name : String
  least : Nat
  most : Option Nat
  builtin : Builtin
deriving Repr, DecidableEq

/-- Functions by the upper case of their names. -/
structure Registry where
  entries : Std.ExtTreeMap String Definition

namespace Registry

/-- The registry without functions. -/
def empty : Registry := ⟨∅⟩

/-- Registers a function, in place of one of the same name. -/
def register (r : Registry) (d : Definition) : Registry :=
  ⟨r.entries.insert (Text.upper d.name) d⟩

/-- Looks a function up. -/
def find? (r : Registry) (name : String) : Option Definition := r.entries[Text.upper name]?

/-- The number of functions. -/
def size (r : Registry) : Nat := r.entries.size

/-- The definitions, by the upper case of their names. -/
def definitions (r : Registry) : List Definition := r.entries.toList.map Prod.snd

/-- The names as they were registered, in order. -/
def names (r : Registry) : List String :=
  (r.definitions.map Definition.name).mergeSort fun a b => a ≤ b

/-- Registers functions from left to right. -/
def ofList (ds : List Definition) : Registry := ds.foldl register empty

/-- The definitions of the built-in functions. -/
def standardDefinitions : List Definition := [
  ⟨"SUM", 1, none, .sum⟩,
  ⟨"PRODUCT", 1, none, .product⟩,
  ⟨"AVERAGE", 1, none, .average⟩,
  ⟨"MIN", 1, none, .minimum⟩,
  ⟨"MAX", 1, none, .maximum⟩,
  ⟨"COUNT", 1, none, .count⟩,
  ⟨"COUNTA", 1, none, .countValues⟩,
  ⟨"COUNTBLANK", 1, some 1, .countVacant⟩,
  ⟨"ABS", 1, some 1, .absolute⟩,
  ⟨"ROUND", 1, some 2, .round⟩,
  ⟨"INT", 1, some 1, .integer⟩,
  ⟨"MOD", 2, some 2, .modulo⟩,
  ⟨"SQRT", 1, some 1, .squareRoot⟩,
  ⟨"POWER", 2, some 2, .power⟩,
  ⟨"SIGN", 1, some 1, .sign⟩,
  ⟨"IF", 2, some 3, .conditional⟩,
  ⟨"IFERROR", 2, some 2, .rescue⟩,
  ⟨"CHOOSE", 2, none, .choose⟩,
  ⟨"AND", 1, none, .conjunction⟩,
  ⟨"OR", 1, none, .disjunction⟩,
  ⟨"NOT", 1, some 1, .negation⟩,
  ⟨"TRUE", 0, some 0, .truth⟩,
  ⟨"FALSE", 0, some 0, .falsity⟩,
  ⟨"CONCAT", 1, none, .concat⟩,
  ⟨"CONCATENATE", 1, none, .concat⟩,
  ⟨"LEN", 1, some 1, .length⟩,
  ⟨"LEFT", 1, some 2, .left⟩,
  ⟨"RIGHT", 1, some 2, .right⟩,
  ⟨"MID", 3, some 3, .middle⟩,
  ⟨"UPPER", 1, some 1, .upper⟩,
  ⟨"LOWER", 1, some 1, .lower⟩,
  ⟨"TRIM", 1, some 1, .squeeze⟩,
  ⟨"ISBLANK", 1, some 1, .isBlank⟩,
  ⟨"ISNUMBER", 1, some 1, .isNumber⟩,
  ⟨"ISTEXT", 1, some 1, .isText⟩,
  ⟨"ISERROR", 1, some 1, .isError⟩,
  ⟨"NA", 0, some 0, .notAvailable⟩]

/-- The registry of the built-in functions. -/
def standard : Registry := ofList standardDefinitions

end Registry

/-! ## Calls -/

/-- The error for a number of arguments outside the bounds. -/
def Definition.arityFault? (d : Definition) (given : Nat) : Option Value :=
  if given < d.least then
    some (.faultWith .value s!"{d.name} expects at least {d.least} argument(s), got {given}")
  else
    match d.most with
    | none => none
    | some most =>
      if most < given then
        some (.faultWith .value s!"{d.name} expects at most {most} argument(s), got {given}")
      else none

/-- The result of calling a function by name. -/
def Registry.call (functions : Registry) (host : Host) (name : String)
    (args : List Operand) : Traced Value :=
  match functions.find? name with
  | none => pure (.faultWith .name (Text.upper name))
  | some d =>
    match d.arityFault? args.length with
    | some fault => pure fault
    | none => d.builtin.call host args

end Worksheet
