/-
  Functions over any number of arguments. An argument that refers to cells contributes what
  those cells hold of the right type, and any other argument is coerced.
-/
import Worksheet.Evaluation.Operand
import Worksheet.Evaluation.Operation

namespace Worksheet.Function

variable (host : Host)

/-! ## Gathering -/

/-- What a cell contributes: an item, nothing, or an error that ends the gathering. -/
abbrev Pick (α : Type) := Value → Except ErrorValue (Option α)

/-- The contributions of a list of cells. -/
def pickAll {α : Type} (pick : Pick α) : List Value → Except ErrorValue (List α)
  | [] => .ok []
  | v :: vs => do
    match ← pick v with
    | some x => return x :: (← pickAll pick vs)
    | none => pickAll pick vs

/-- The items of all arguments, from left to right up to the first error. -/
def gather {α : Type} (pick : Pick α) (coerce : Operand → Reading α) :
    List Operand → Reading (List α)
  | [] => return []
  | o :: os => do
    let here ← match o.referenced? host with
      | some cells => do Reading.ofExcept (pickAll pick (← Reading.ofTraced cells))
      | none => do pure [← coerce o]
    let later ← gather pick coerce os
    return here ++ later

/-- Cells contribute the numbers they hold. -/
def pickNumber : Pick Float
  | .number x => .ok (some x)
  | .error e => .error e
  | _ => .ok none

/-- Cells contribute truth values, and numbers as truth values. -/
def pickBoolean : Pick Bool
  | .boolean b => .ok (some b)
  | .number x => .ok (some (x != 0.0))
  | .error e => .error e
  | _ => .ok none

/-- The numbers an aggregate sees. -/
def numbers (args : List Operand) : Reading (List Float) :=
  gather host pickNumber (Operand.number host) args

/-- The truth values a connective sees; there has to be one. -/
def booleans (args : List Operand) : Reading (List Bool) := do
  let bs ← gather host pickBoolean (Operand.boolean host) args
  if bs.isEmpty then throw ⟨.value, some "no logical values"⟩
  return bs

/-! ## Aggregates -/

/-- A sum from the left. The empty sum is a negative zero, which changes no sum. -/
def total (xs : List Float) : Float := xs.foldl (· + ·) (-0.0)

/-- The sum. -/
def sum (args : List Operand) : Traced Value :=
  Reading.toValue do return Value.finite (total (← numbers host args))

/-- The product; 0 when there are no numbers. -/
def product (args : List Operand) : Traced Value :=
  Reading.toValue do
    let xs ← numbers host args
    return if xs.isEmpty then .number 0.0 else Value.finite (xs.foldl (· * ·) 1.0)

/-- The mean; a division by zero when there are no numbers. -/
def average (args : List Operand) : Traced Value :=
  Reading.toValue do
    let xs ← numbers host args
    return if xs.isEmpty then .fault .divisionByZero
      else Value.finite (total xs / Number.ofCount xs.length)

/-- A list of numbers reduced from the left; 0 when there are none. -/
def reduce (f : Float → Float → Float) : List Float → Float
  | [] => 0.0
  | x :: xs => xs.foldl f x

/-- The smallest number. -/
def minimum (args : List Operand) : Traced Value :=
  Reading.toValue do return .number (reduce Number.least (← numbers host args))

/-- The largest number. -/
def maximum (args : List Operand) : Traced Value :=
  Reading.toValue do return .number (reduce Number.greatest (← numbers host args))

/-! ## Counts -/

/-- A count as a value. -/
def countValue (n : Nat) : Value := .number (Number.ofCount n)

/-- The sum of what each argument contributes to a count. -/
def tally (count : Operand → Traced Nat) : List Operand → Traced Nat
  | [] => return 0
  | o :: os => do
    let here ← count o
    let later ← tally count os
    return here + later

/-- How many numbers an argument holds. What cannot be read as a number is none, errors
    included. -/
def numbersIn (o : Operand) : Traced Nat :=
  match o.referenced? host with
  | some cells => (·.countP Value.isNumber) <$> cells
  | none => (fun r => if r.isOk then 1 else 0) <$> (o.number host).run

/-- How many values an argument holds. One that is no reference is a value without being
    evaluated. -/
def valuesIn (o : Operand) : Traced Nat :=
  match o.referenced? host with
  | some cells => (·.countP fun v => !v.isEmpty) <$> cells
  | none => return 1

/-- A cell without content, or with an empty text. -/
def isVacant : Value → Bool
  | .empty => true
  | .text s => s.isEmpty
  | _ => false

/-- The number of numbers. -/
def count (args : List Operand) : Traced Value := countValue <$> tally (numbersIn host) args

/-- The number of values. -/
def countValues (args : List Operand) : Traced Value :=
  countValue <$> tally (valuesIn host) args

/-- The number of vacant cells of a reference. -/
def countVacant (args : List Operand) : Traced Value :=
  Reading.toValue do
    match (← operandAt args 0).referenced? host with
    | some cells => return countValue ((← Reading.ofTraced cells).countP isVacant)
    | none => return .faultWith .value "COUNTBLANK expects a reference"

end Worksheet.Function
