/-
  Reading JSON text piece by piece: blanks, words, texts and numbers, and values of any
  shape that are only passed over. Every piece is read from the front of a list of
  characters and leaves the rest. A fault remembers what was left when it was found, from
  which its line and column are computed.
-/
import Worksheet.Formula.Lexeme
import Worksheet.Json.Document
import Worksheet.Text.Escaped

namespace Worksheet.Json

/-! ## Faults -/

/-- A value where another type is wanted. -/
inductive Found where
  | null
  | boolean (b : Bool)
  | natural (n : Nat)
  | negative (n : Nat)
  | number (x : Float)
  | text (s : String)
  | array
  | object
deriving Repr, DecidableEq

/-- What can be wrong with a text. -/
inductive Cause where
  | endInValue
  | endInList
  | endInObject
  | endInText
  | wantedColon
  | wantedListEnd
  | wantedObjectEnd
  | wantedWord
  | wantedValue
  | badEscape
  | badNumber
  | outOfRange
  | controlCharacter
  | keyNotText
  | loneSurrogate
  | endOfEscape
  | commaAtEnd
  | surplus
  | wrongType (found : Found) (wanted : String)
  | wrongValue (found : Found) (wanted : String)
  | duplicateField (name : String)
deriving Repr, DecidableEq

/-- A fault, found when `rest` was left, or so many bytes further on. -/
structure Fault where
  cause : Cause
  rest : List Char
  ahead : Nat
deriving Repr, DecidableEq

/-- A fault where `rest` begins. -/
def fail {α : Type} (cause : Cause) (rest : List Char) : Except Fault α := .error ⟨cause, rest, 0⟩

/-- A fault at the first byte of `rest`. -/
def failAt {α : Type} (cause : Cause) (rest : List Char) : Except Fault α :=
  .error ⟨cause, rest, 1⟩

/-- The wording of a value that was found. -/
def Found.message : Found → String
  | .null => "null"
  | .boolean b => "boolean `" ++ (if b then "true" else "false") ++ "`"
  | .natural n => "integer `" ++ toString n ++ "`"
  | .negative n => "integer `-" ++ toString n ++ "`"
  | .number x => "floating point `" ++ numberText x ++ "`"
  | .text s => "string \"" ++ Text.escaped s ++ "\""
  | .array => "sequence"
  | .object => "map"

/-- The wording of a cause. -/
def Cause.message : Cause → String
  | .endInValue => "EOF while parsing a value"
  | .endInList => "EOF while parsing a list"
  | .endInObject => "EOF while parsing an object"
  | .endInText => "EOF while parsing a string"
  | .wantedColon => "expected `:`"
  | .wantedListEnd => "expected `,` or `]`"
  | .wantedObjectEnd => "expected `,` or `\x7d`"
  | .wantedWord => "expected ident"
  | .wantedValue => "expected value"
  | .badEscape => "invalid escape"
  | .badNumber => "invalid number"
  | .outOfRange => "number out of range"
  | .controlCharacter =>
    "control character (\\u0000-\\u001F) found while parsing a string"
  | .keyNotText => "key must be a string"
  | .loneSurrogate => "lone leading surrogate in hex escape"
  | .endOfEscape => "unexpected end of hex escape"
  | .commaAtEnd => "trailing comma"
  | .surplus => "trailing characters"
  | .wrongType found wanted => "invalid type: " ++ found.message ++ ", expected " ++ wanted
  | .wrongValue found wanted => "invalid value: " ++ found.message ++ ", expected " ++ wanted
  | .duplicateField name => "duplicate field `" ++ name ++ "`"

/-- The line, counted from 1, and the bytes before a place on it. -/
def lineAndColumn (before : List UInt8) : Nat × Nat :=
  (1 + before.count 10, (before.reverse.takeWhile (· != 10)).length)

/-- The wording of a fault in a text, with its place. -/
def Fault.message (source : List Char) (f : Fault) : String :=
  let offset := byteLength source - byteLength f.rest + f.ahead
  let (line, column) := lineAndColumn ((String.ofList source).toUTF8.toList.take offset)
  s!"{f.cause.message} at line {line} column {column}"

/-! ## Blanks and words -/

/-- Passes over blanks. -/
def afterBlanks (cs : List Char) : List Char :=
  cs.dropWhile fun c => c == ' ' || c == '\n' || c == '\t' || c == '\r'

/-- Passes over the rest of a word. -/
def afterWord : List Char → List Char → Except Fault (List Char)
  | [], cs => .ok cs
  | _ :: _, [] => fail .endInValue []
  | w :: ws, c :: cs => if c = w then afterWord ws cs else failAt .wantedWord (c :: cs)

/-! ## Texts -/

/-- The value of a hexadecimal digit. -/
def hexValue? (c : Char) : Option Nat :=
  if c.isDigit then some (c.toNat - 48)
  else if 'a' ≤ c ∧ c ≤ 'f' then some (c.toNat - 87)
  else if 'A' ≤ c ∧ c ≤ 'F' then some (c.toNat - 55)
  else none

/-- The code unit that the four digits of an escape denote. -/
def codeUnit (cs : List Char) : Except Fault Nat :=
  match (cs.take 4).mapM hexValue? with
  | some [a, b, c, d] => .ok (((a * 16 + b) * 16 + c) * 16 + d)
  | _ => if byteLength cs < 4 then fail .endInText [] else .error ⟨.badEscape, cs, 4⟩

/-- The second half of a pair of code units, which an escape must begin. -/
def trailingUnit : List Char → Except Fault Nat
  | [] => fail .endInText []
  | '\\' :: [] => fail .endInText []
  | '\\' :: 'u' :: cs => do
    let n ← codeUnit cs
    if 0xDC00 ≤ n ∧ n ≤ 0xDFFF then return n else fail .loneSurrogate (cs.drop 4)
  | '\\' :: cs => failAt .endOfEscape cs
  | cs => failAt .endOfEscape cs

/-- An escape after `\u`: its character and length. Pairs of code units are not checked in
    a text that is passed over. -/
def unicodeEscape (passing : Bool) (cs : List Char) : Except Fault (Char × Nat) := do
  let n ← codeUnit cs
  if passing then return (' ', 4)
  else if 0xDC00 ≤ n ∧ n ≤ 0xDFFF then fail .loneSurrogate (cs.drop 4)
  else if 0xD800 ≤ n ∧ n ≤ 0xDBFF then
    let m ← trailingUnit (cs.drop 4)
    return (Char.ofNat (0x10000 + (n - 0xD800) * 0x400 + (m - 0xDC00)), 10)
  else return (Char.ofNat n, 4)

/-- An escape after its backslash: its character and length. -/
def escape (passing : Bool) : List Char → Except Fault (Char × Nat)
  | [] => fail .endInText []
  | c :: cs =>
    match c with
    | '"' | '\\' | '/' => .ok (c, 1)
    | 'b' => .ok (Char.ofNat 8, 1)
    | 'f' => .ok (Char.ofNat 12, 1)
    | 'n' => .ok ('\n', 1)
    | 'r' => .ok ('\r', 1)
    | 't' => .ok ('\t', 1)
    | 'u' => do
      let (d, n) ← unicodeEscape passing cs
      return (d, n + 1)
    | _ => failAt .badEscape (c :: cs)

/-- The contents of a text after its opening mark. -/
def textRest (passing : Bool) : List Char → Except Fault (List Char × List Char)
  | [] => fail .endInText []
  | c :: cs =>
    if c = '"' then .ok ([], cs)
    else if c = '\\' then do
      let (d, n) ← escape passing cs
      let (ds, rest) ← textRest passing (cs.drop n)
      return (d :: ds, rest)
    else if c.toNat < 32 then .error ⟨.controlCharacter, c :: cs, if passing then 0 else 1⟩
    else do
      let (ds, rest) ← textRest passing cs
      return (c :: ds, rest)
termination_by cs => cs.length

/-! ## Numbers -/

/-- The signed digits of an exponent. -/
structure Exponent where
  negative : Bool
  digits : List Char
deriving Repr, DecidableEq

/-- The parts of a number without its sign. -/
structure Numeral where
  whole : List Char
  fraction : Option (List Char)
  exponent : Option Exponent
deriving Repr, DecidableEq

/-- The fraction of a number. A text that ends too early is reported as `ended`. -/
def fractionPart (ended : Cause) : List Char → Except Fault (Option (List Char) × List Char)
  | '.' :: cs =>
    match cs.takeWhile Char.isDigit, cs with
    | [], [] => fail ended []
    | [], c :: cs => failAt .badNumber (c :: cs)
    | ds, cs => .ok (some ds, cs.dropWhile Char.isDigit)
  | cs => .ok (none, cs)

/-- The exponent of a number. -/
def exponentPart (ended : Cause) : List Char → Except Fault (Option Exponent × List Char)
  | [] => .ok (none, [])
  | e :: cs =>
    if e = 'e' ∨ e = 'E' then
      let (negative, cs) := Decimal.splitSign cs
      match cs with
      | [] => fail ended []
      | c :: _ =>
        if c.isDigit then
          .ok (some ⟨negative, Decimal.leadingDigits cs⟩, Decimal.afterDigits cs)
        else failAt .badNumber cs
    else .ok (none, e :: cs)

/-- A number after its sign. -/
def numeral (ended : Cause) (cs : List Char) : Except Fault (Numeral × List Char) := do
  let whole := cs.takeWhile Char.isDigit
  let rest := cs.dropWhile Char.isDigit
  match whole, cs with
  | [], [] => fail ended []
  | [], c :: cs => failAt .badNumber (c :: cs)
  | '0' :: _ :: _, _ => failAt .badNumber (cs.drop 1)
  | _, _ => pure ()
  let (fraction, rest) ← fractionPart ended rest
  let (exponent, rest) ← exponentPart ended rest
  return (⟨whole, fraction, exponent⟩, rest)

/-- Puts digits after a number while it stays below the bound, and counts those left out. -/
def digitsBelow (bound n : Nat) : List Char → Nat × Nat
  | [] => (n, 0)
  | d :: ds =>
    let next := 10 * n + (d.toNat - 48)
    if bound ≤ next then (n, ds.length + 1) else digitsBelow bound next ds

/-- The digits that a number keeps: those that fit 64 bits. -/
def significand (n : Nat) (ds : List Char) : Nat × Nat := digitsBelow (Nat.pow 2 64) n ds

/-- The value of an exponent. -/
def Exponent.value (e : Exponent) : Int :=
  let n := Decimal.digitsValue e.digits
  if e.negative then -(n : Int) else n

/-- The digits of an exponent after the one by which it outgrows 31 bits. They are not read
    when the number is out of range. -/
def Exponent.unread (e : Exponent) : List Char :=
  let (_, omitted) := digitsBelow (Nat.pow 2 31) 0 e.digits
  e.digits.drop (e.digits.length - omitted + 1)

/-- A number times a power of ten; `none` when it is out of range. -/
def scaled (x : Float) (exponent : Int) : Option Float :=
  let power (n : Nat) : Float := Float.ofScientific 1 false n
  if 0 ≤ exponent then
    if x == 0.0 then some x
    else if 308 < exponent then none
    else some (x * power exponent.toNat) |>.filter Float.isFinite
  else
    let n := exponent.natAbs
    if n ≤ 308 then some (x / power n)
    else if n ≤ 616 then some (x / power 308 / power (n - 308))
    else some 0.0

/-- What a number denotes: an integer if it is written as one and fits 64 bits, and else a
    number that is not exact. -/
def Numeral.found? (negative : Bool) (m : Numeral) : Option Found :=
  let (n, omitted) := significand 0 m.whole
  let signed (x : Float) : Found := .number (if negative then -x else x)
  match m.fraction, m.exponent with
  | none, none =>
    if omitted ≠ 0 then (scaled n.toFloat omitted).map signed
    else if !negative then some (.natural n)
    else if n = 0 ∨ Nat.pow 2 63 < n then some (signed n.toFloat)
    else some (.negative n)
  | fraction, exponent =>
    let ds := fraction.getD []
    let (n, left) := significand n ds
    let shift : Int := omitted - ((ds.length - left : Nat) : Int)
    (scaled n.toFloat (shift + (exponent.map Exponent.value).getD 0)).map signed

/-- The number at the front of a text, which a minus or a digit begins. -/
def number (cs : List Char) : Except Fault (Found × List Char) := do
  let (negative, unsigned) := match cs with
    | '-' :: cs => (true, cs)
    | cs => (false, cs)
  let (m, rest) ← numeral .endInValue unsigned
  match m.found? negative with
  | some found => return (found, rest)
  | none => fail .outOfRange ((m.exponent.map Exponent.unread).getD [] ++ rest)

/-! ## Passing over values -/

/-- What is passed over: a value, the items of an array from a value on, or the fields of
    an object from a key on. -/
inductive Shape where
  | value
  | items
  | fields
deriving Repr, DecidableEq

/-- Passes over a part of a document. The bound is at least the length of the text. -/
def pass : (bound : Nat) → Shape → List Char → Except Fault (List Char)
  | 0, _, cs => fail .endInValue cs
  | bound + 1, .value, cs =>
    match afterBlanks cs with
    | [] => fail .endInValue []
    | 'n' :: cs => afterWord ['u', 'l', 'l'] cs
    | 't' :: cs => afterWord ['r', 'u', 'e'] cs
    | 'f' :: cs => afterWord ['a', 'l', 's', 'e'] cs
    | '-' :: cs => Prod.snd <$> numeral .badNumber cs
    | '"' :: cs => Prod.snd <$> textRest true cs
    | '[' :: cs =>
      match afterBlanks cs with
      | [] => fail .endInList []
      | ']' :: cs => .ok cs
      | cs => pass bound .items cs
    | '\x7b' :: cs =>
      match afterBlanks cs with
      | [] => fail .endInObject []
      | '\x7d' :: cs => .ok cs
      | cs => pass bound .fields cs
    | c :: cs =>
      if c.isDigit then Prod.snd <$> numeral .badNumber (c :: cs)
      else failAt .wantedValue (c :: cs)
  | bound + 1, .items, cs => do
    match afterBlanks (← pass bound .value cs) with
    | [] => fail .endInList []
    | ',' :: cs => pass bound .items cs
    | ']' :: cs => return cs
    | cs => failAt .wantedListEnd cs
  | bound + 1, .fields, cs => do
    let cs ← match afterBlanks cs with
      | [] => fail .endInObject []
      | '"' :: cs => Prod.snd <$> textRest true cs
      | cs => failAt .keyNotText cs
    let cs ← match afterBlanks cs with
      | [] => fail .endInObject []
      | ':' :: cs => pure cs
      | cs => failAt .wantedColon cs
    match afterBlanks (← pass bound .value cs) with
    | [] => fail .endInObject []
    | ',' :: cs => pass bound .fields cs
    | '\x7d' :: cs => return cs
    | cs => failAt .wantedObjectEnd cs

/-! ## Typed values -/

/-- Reports the value at the front of a text, which is not of the wanted type. -/
def refuse {α : Type} (wanted : String) (cs : List Char) : Except Fault α := do
  let (found, rest) ← match cs with
    | [] => fail .endInValue []
    | 'n' :: cs => (Found.null, ·) <$> afterWord ['u', 'l', 'l'] cs
    | 't' :: cs => (Found.boolean true, ·) <$> afterWord ['r', 'u', 'e'] cs
    | 'f' :: cs => (Found.boolean false, ·) <$> afterWord ['a', 'l', 's', 'e'] cs
    | '"' :: cs => do
      let (s, rest) ← textRest false cs
      pure (Found.text (String.ofList s), rest)
    | '[' :: _ => pure (Found.array, cs)
    | '\x7b' :: _ => pure (Found.object, cs)
    | c :: _ => if c = '-' ∨ c.isDigit then number cs else failAt .wantedValue cs
  fail (.wrongType found wanted) rest

/-- A truth value. -/
def boolean (cs : List Char) : Except Fault (Bool × List Char) :=
  match afterBlanks cs with
  | 't' :: cs => (true, ·) <$> afterWord ['r', 'u', 'e'] cs
  | 'f' :: cs => (false, ·) <$> afterWord ['a', 'l', 's', 'e'] cs
  | cs => refuse "a boolean" cs

/-- A natural number of at most 64 bits. -/
def natural (cs : List Char) : Except Fault (Nat × List Char) := do
  let cs := afterBlanks cs
  if cs.head?.any fun c => c == '-' || c.isDigit then
    match ← number cs with
    | (.natural n, rest) => return (n, rest)
    | (.negative n, rest) => fail (.wrongValue (.negative n) "u64") rest
    | (found, rest) => fail (.wrongType found "u64") rest
  else refuse "u64" cs

end Worksheet.Json
