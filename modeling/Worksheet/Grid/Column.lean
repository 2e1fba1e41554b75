/-
  Column letters: `A` to `Z`, then `AA`, and so on. They are the bijective base-26 numerals
  of the column counted from one.
-/
import Worksheet.Grid.Fault

namespace Worksheet.Column

/-- The letter of a digit below 26. -/
def letter (n : Nat) : Char := Char.ofNat ('A'.toNat + n)

/-- The value of a letter, from 1 for `A` to 26 for `Z`, in either case. -/
def letterValue (c : Char) : Nat := c.toUpper.toNat - 'A'.toNat + 1

/-- The bijective base-26 numeral of a number; zero has the empty numeral. -/
def numeral : Nat → List Char
  | 0 => []
  | n + 1 => numeral (n / 26) ++ [letter (n % 26)]

/-- The number that a run of letters denotes. -/
def value (letters : List Char) : Nat :=
  letters.foldl (fun n c => 26 * n + letterValue c) 0

/-- The letters of a column counted from zero. -/
def letters (col : Nat) : String := String.ofList (numeral (col + 1))

/-- Reads letters from the left on top of the number read so far, and stops at the first
    one that leads beyond the last column. -/
def readOnto (n : Nat) : List Char → Except AddressFault Nat
  | [] => .ok n
  | c :: cs =>
    if !c.isAlpha then .error (.malformed (.badLetter c))
    else
      let next := 26 * n + letterValue c
      if maxCols < next then .error (.columnOutOfBounds (next - 1)) else readOnto next cs

/-- The column that letters name, counted from zero. -/
def index (letters : List Char) : Except AddressFault Nat :=
  if letters.isEmpty then .error (.malformed .noLetters)
  else (readOnto 0 letters).map (· - 1)

end Worksheet.Column
