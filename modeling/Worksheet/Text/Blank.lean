/-
  Blanks: the characters with the Unicode property `White_Space`, and the trimming and
  word splitting that go by them. Text is handled as a list of characters; the `String`
  forms at the end only wrap it.
-/
namespace Worksheet.Text

/-! ## The class -/

/-- The 25 characters with the property `White_Space`. -/
def isBlank (c : Char) : Bool :=
  let n := c.toNat
  (9 ≤ n && n ≤ 13) || n == 32 || n == 0x85 || n == 0xA0 || n == 0x1680
    || (0x2000 ≤ n && n ≤ 0x200A) || n == 0x2028 || n == 0x2029 || n == 0x202F
    || n == 0x205F || n == 0x3000

/-! ## Trimming -/

/-- Drops leading blanks. -/
def trimLeft (cs : List Char) : List Char := cs.dropWhile isBlank

/-- Drops trailing blanks. -/
def trimRight (cs : List Char) : List Char := (cs.reverse.dropWhile isBlank).reverse

/-- Drops blanks on both sides. -/
def trimBoth (cs : List Char) : List Char := trimRight (trimLeft cs)

/-! ## Words -/

/-- Puts a letter in front of the first word if the two touch, and else in front of all
    words as a word of its own. -/
def joinLetter (c : Char) (touching : Bool) : List (List Char) → List (List Char)
  | [] => [[c]]
  | w :: ws => if touching then (c :: w) :: ws else [c] :: w :: ws

/-- The maximal runs of characters that are not blank, in order, and whether the first of
    them stands at the very start of the text. -/
def wordsFrom : List Char → List (List Char) × Bool
  | [] => ([], false)
  | c :: cs =>
    let (ws, touching) := wordsFrom cs
    if isBlank c then (ws, false) else (joinLetter c touching ws, true)

/-- The maximal runs of characters that are not blank, in order. -/
def words (cs : List Char) : List (List Char) := (wordsFrom cs).1

/-! ## On strings -/

/-- Drops blanks on both sides. -/
def trim (s : String) : String := String.ofList (trimBoth s.toList)

/-- Drops leading blanks. -/
def trimStart (s : String) : String := String.ofList (trimLeft s.toList)

/-- Trims the text and writes one space for every run of blanks inside it. -/
def squeeze (s : String) : String :=
  " ".intercalate ((words s.toList).map String.ofList)

end Worksheet.Text
