/-
  Lexemes: the text of a formula, cut into blanks and tokens without losing a character.
  `scan` cuts greedily from the left and stops at the first character that begins no token;
  `Scan.chars` puts the text together again.
-/
import Worksheet.Formula.Token
import Worksheet.Text.Case

namespace Worksheet

/-! ## The shape of tokens -/

/-- The characters of numbers at the start of a text: digits with at most one point, and
    an exponent if digits follow its letter. -/
def numberChars (cs : List Char) : List Char :=
  let whole := Decimal.leadingDigits cs
  let afterWhole := Decimal.afterDigits cs
  let fraction := match afterWhole with
    | '.' :: more => '.' :: Decimal.leadingDigits more
    | _ => []
  whole ++ fraction ++ exponentChars (afterWhole.drop fraction.length)
where
  /-- The characters of an exponent at the start of a text. -/
  exponentChars : List Char → List Char
    | [] => []
    | e :: more =>
      if e = 'e' ∨ e = 'E' then
        let sign := match more with
          | '+' :: _ => ['+']
          | '-' :: _ => ['-']
          | _ => []
        match Decimal.leadingDigits (more.drop sign.length) with
        | [] => []
        | digits => e :: sign ++ digits
      else []

/-- The text begins a number: a digit, or a point before a digit. -/
def beginsNumber (c : Char) (cs : List Char) : Bool :=
  c.isDigit || (c == '.' && (cs.head?.any Char.isDigit))

/-- A word begins with the character. -/
def beginsWord (c : Char) : Bool := c.isAlpha || c == '_' || c == '$'

/-- The character may stand in a word. -/
def isWordChar (c : Char) : Bool := c.isAlphanum || c == '_' || c == '$' || c == '.'

/-- The text has the form of an address, whether or not that lies on the grid. -/
def isReference (cs : List Char) : Bool :=
  let afterAnchor := (Address.splitAnchor cs).2
  let (_, digits) := Address.splitAnchor (afterAnchor.dropWhile Char.isAlpha)
  afterAnchor.head?.any Char.isAlpha && !digits.isEmpty && digits.all Char.isDigit

/-- The kind of a word. One before a parenthesis is always a name. -/
def wordKind (word : List Char) (called : Bool) : TokenKind :=
  if called then .name
  else if Text.asciiUpper word = "TRUE".toList ∨ Text.asciiUpper word = "FALSE".toList then
    .boolean
  else if isReference word then .cell
  else .name

/-- The kind of a token that is one character long. -/
def singleKind? : Char → Option TokenKind
  | '(' => some .leftParen
  | ')' => some .rightParen
  | ',' => some .comma
  | ':' => some .colon
  | '+' | '-' | '*' | '/' | '^' | '&' | '=' => some .operator
  | _ => none

/-- What keeps a text from beginning a token. -/
inductive Stray where
  /-- A character out of place, so many bytes on. -/
  | character (c : Char) (offset : Nat)
  /-- A quotation mark without its partner. -/
  | openText
deriving Repr, DecidableEq

/-- The token at the start of the text `c :: cs`: its kind, and its characters after `c`. -/
def tokenAt (c : Char) (cs : List Char) : Except Stray (TokenKind × List Char) :=
  match singleKind? c with
  | some kind => .ok (kind, [])
  | none =>
    if c = '<' then .ok (.operator, (cs.take 1).filter fun d => d = '=' || d = '>')
    else if c = '>' then .ok (.operator, (cs.take 1).filter (· = '='))
    else if c = '"' then
      match Text.contents? cs with
      | some s => .ok (.text, Text.doubled s ++ ['"'])
      | none => .error .openText
    else if beginsNumber c cs then .ok (.number, (numberChars (c :: cs)).tail)
    else if beginsWord c then
      let tail := cs.takeWhile isWordChar
      let word := c :: tail
      let kind := wordKind word ((cs.dropWhile isWordChar).head? = some '(')
      if kind = .name ∧ '$' ∈ word then .error (.character '$' (word.idxOf '$'))
      else .ok (kind, tail)
    else .error (.character c 0)

/-! ## Scanning -/

/-- A token as it is written, and the blanks before it. -/
structure Lexeme where
  gap : List Char
  kind : TokenKind
  raw : List Char
deriving Repr, DecidableEq

/-- How a text ends after its last token. -/
inductive Ending where
  | blank (gap : List Char)
  | stray (gap : List Char) (cause : Stray) (rest : List Char)
deriving Repr, DecidableEq

/-- A text cut into lexemes. -/
structure Scan where
  lexemes : List Lexeme
  ending : Ending
deriving Repr, DecidableEq

/-- Cuts a text into lexemes. -/
def scan (cs : List Char) : Scan :=
  let gap := cs.takeWhile Text.isBlank
  match _h : cs.dropWhile Text.isBlank with
  | [] => ⟨[], .blank gap⟩
  | c :: rest =>
    match tokenAt c rest with
    | .error cause => ⟨[], .stray gap cause (c :: rest)⟩
    | .ok (kind, tail) =>
      let later := scan (rest.drop tail.length)
      { later with lexemes := ⟨gap, kind, c :: tail⟩ :: later.lexemes }
termination_by cs.length
decreasing_by
  have := (List.dropWhile_sublist Text.isBlank (l := cs)).length_le
  simp only [_h, List.length_cons] at this
  simp only [List.length_drop]
  omega

/-- The characters of a lexeme. -/
def Lexeme.chars (l : Lexeme) : List Char := l.gap ++ l.raw

/-- The characters after the last token. -/
def Ending.chars : Ending → List Char
  | .blank gap => gap
  | .stray gap _ rest => gap ++ rest

/-- The text that was cut. -/
def Scan.chars (s : Scan) : List Char := s.lexemes.flatMap Lexeme.chars ++ s.ending.chars

/-! ## Tokens -/

/-- The number of bytes of a text. -/
def byteLength (cs : List Char) : Nat := cs.foldr (fun c n => c.utf8Size + n) 0

/-- The normal form of a token's text. -/
def Lexeme.value (l : Lexeme) : String :=
  match l.kind with
  | .text => String.ofList ((Text.contents? l.raw.tail).getD [])
  | .boolean | .cell => String.ofList (Text.asciiUpper l.raw)
  | _ => String.ofList l.raw

/-- The tokens of lexemes whose text begins at byte `offset`. -/
def tokensFrom (offset : Nat) : List Lexeme → List Token
  | [] => []
  | l :: ls =>
    let start := offset + byteLength l.gap
    let stop := start + byteLength l.raw
    ⟨l.kind, l.value, start, stop⟩ :: tokensFrom stop ls

/-- The tokens of a text, up to the first fault. -/
def Scan.tokens (s : Scan) : List Token := tokensFrom 0 s.lexemes

/-- The fault that ended the scan. -/
def Scan.fault? (s : Scan) : Option FormulaFault :=
  match s.ending with
  | .blank _ => none
  | .stray gap cause _ =>
    let position := byteLength (s.lexemes.flatMap Lexeme.chars ++ gap)
    match cause with
    | .character c offset => some (.strayCharacter c (position + offset))
    | .openText => some (.openText position)

/-- Reads a whole text as tokens. -/
def tokenize (body : List Char) : Except FormulaFault (List Token) :=
  let s := scan body
  match s.fault? with
  | some fault => .error fault
  | none => .ok s.tokens

end Worksheet
