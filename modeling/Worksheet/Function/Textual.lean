/-
  Functions of texts. Lengths and positions count characters.
-/
import Worksheet.Evaluation.Operand
import Worksheet.Number.Rounding

namespace Worksheet.Function

variable (host : Host)

/-! ## Joining -/

/-- The texts of a list of values, joined. -/
def joined : List Value → Except ErrorValue String
  | [] => .ok ""
  | v :: vs => do return (← v.toText) ++ (← joined vs)

/-- The text of an argument; a range is joined cell by cell. -/
def joinedText (o : Operand) : Reading String := do
  match ← Reading.ofTraced (o.argument host) with
  | .single v => Reading.ofExcept v.toText
  | .many vs => Reading.ofExcept (joined vs)

/-- The texts of all arguments, joined. -/
def joinAll : List Operand → Reading String
  | [] => return ""
  | o :: os => do
    let here ← joinedText host o
    let later ← joinAll os
    return here ++ later

/-- The joined text. -/
def concat (args : List Operand) : Traced Value :=
  Reading.toValue do return .text (← joinAll host args)

/-! ## One text -/

/-- A function of one text. -/
def ofText (f : String → Value) (args : List Operand) : Traced Value :=
  Reading.toValue do return f (← (← operandAt args 0).text host)

/-- The number of characters. -/
def length : List Operand → Traced Value := ofText host fun s => .number (Number.ofCount s.length)

/-- The text in upper case. -/
def upper : List Operand → Traced Value := ofText host fun s => .text (Text.upper s)

/-- The text in lower case. -/
def lower : List Operand → Traced Value := ofText host fun s => .text (Text.lower s)

/-- The text without outer blanks and with single spaces for inner ones. -/
def squeeze : List Operand → Traced Value := ofText host fun s => .text (Text.squeeze s)

/-! ## Parts -/

/-- A count of characters, which must not be negative; its fraction is dropped. -/
def characterCount (o : Operand) : Reading Nat := do
  let n ← Number.truncate <$> o.number host
  if n < 0.0 then throw ⟨.value, some "character count must not be negative"⟩
  return Number.toNatClamped n

/-- A part of the first argument whose length the second argument gives, 1 by default. -/
def part (cut : Nat → List Char → List Char) (args : List Operand) : Traced Value :=
  Reading.toValue do
    let s ← (← operandAt args 0).text host
    let n ← match args[1]? with
      | some o => characterCount host o
      | none => pure 1
    return .text (String.ofList (cut n s.toList))

/-- The first characters. -/
def left : List Operand → Traced Value := part host List.take

/-- The last characters. -/
def right : List Operand → Traced Value := part host fun n cs => cs.drop (cs.length - n)

/-- So many characters from a position counted from 1. -/
def middle (args : List Operand) : Traced Value :=
  Reading.toValue do
    let s ← (← operandAt args 0).text host
    let start ← Number.truncate <$> (← operandAt args 1).number host
    let n ← characterCount host (← operandAt args 2)
    if start < 1.0 then throw ⟨.value, some "start position must be at least 1"⟩
    let skipped ← Reading.ofTraced (Traced.place start)
    return .text (String.ofList ((s.toList.drop skipped).take n))

end Worksheet.Function
