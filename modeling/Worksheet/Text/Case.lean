/-
  Upper and lower case with the full Unicode mappings: one character may become several,
  and a capital sigma at the end of a word becomes the final form. ASCII goes by
  arithmetic alone, everything else by the tables.
-/
import Worksheet.Text.CaseTable
import Worksheet.Text.Ranges

namespace Worksheet.Text

/-! ## One character -/

/-- The mapping of one character by a table of runs and a table of sequences; a character
    in neither is unchanged. -/
def mapCase (runs : List CaseRun) (sequences : List (Nat × List Nat)) (c : Char) : List Char :=
  let n := c.toNat
  match sequences.find? (fun s => s.1 == n) with
  | some (_, target) => target.map Char.ofNat
  | none =>
    match runs.find? (fun r => r.holds n) with
    | some r => [Char.ofNat (n + r.offset).toNat]
    | none => [c]

/-- The upper case of one character. -/
def upperChar (c : Char) : List Char :=
  if c.toNat < 128 then [c.toUpper] else mapCase upperRuns upperSequences c

/-- The lower case of one character, whatever stands around it. -/
def lowerChar (c : Char) : List Char :=
  if c.toNat < 128 then [c.toLower] else mapCase lowerRuns lowerSequences c

/-- The property `Cased`. -/
def isCased (c : Char) : Bool :=
  if c.toNat < 128 then c.isAlpha else inRanges casedRanges c.toNat

/-- The property `Case_Ignorable`. Its five ASCII members are the apostrophe, the full
    stop, the colon, the circumflex and the grave accent. -/
def isCaseIgnorable (c : Char) : Bool :=
  let n := c.toNat
  if n < 128 then [0x27, 0x2E, 0x3A, 0x5E, 0x60].contains n
  else inRanges caseIgnorableRanges n

/-! ## Texts -/

/-- The upper case of a text. -/
def upperList (cs : List Char) : List Char := cs.flatMap upperChar

/-- Whether the first character that is not ignored for case is a cased letter. -/
def meetsCased (cs : List Char) : Bool :=
  match cs.dropWhile isCaseIgnorable with
  | [] => false
  | c :: _ => isCased c

/-- The lower case of a text, where `before` holds what precedes it, nearest first. A
    capital sigma is final when a cased letter stands before it and none after it. -/
def lowerAfter (before : List Char) : List Char → List Char
  | [] => []
  | c :: cs =>
    let image :=
      if c == 'Σ' then (if meetsCased before && !meetsCased cs then ['ς'] else ['σ'])
      else lowerChar c
    image ++ lowerAfter (c :: before) cs

/-- The lower case of a text. -/
def lowerList (cs : List Char) : List Char := lowerAfter [] cs

/-- The upper case of a string. -/
def upper (s : String) : String := String.ofList (upperList s.toList)

/-- The lower case of a string. -/
def lower (s : String) : String := String.ofList (lowerList s.toList)

/-! ## ASCII only -/

/-- The text with its ASCII letters in upper case and nothing else changed. -/
def asciiUpper (cs : List Char) : List Char := cs.map Char.toUpper

/-- Whether two texts differ at most in the case of ASCII letters. -/
def sameAsciiCase (s t : String) : Bool := asciiUpper s.toList == asciiUpper t.toList

end Worksheet.Text
