/-
  Walking through the tokens of a text, one call for each. A fault is given in the place of a token,
  and no call after it gives anything.
-/
import Worksheet.Formula.Lexeme

namespace Worksheet

/-- The fault that a stray causes in a text that goes on at the given byte. -/
def Stray.fault (position : Nat) : Stray → FormulaFault
  | .character c offset => .strayCharacter c (position + offset)
  | .openText => .openText position

/-- A place in a text between two tokens: what is left of the text, the byte it begins at, and
    whether there was a fault before. -/
structure TokenWalk where
  rest : List Char
  position : Nat
  failed : Bool := false
deriving Repr

namespace TokenWalk

/-- The walk that begins at the start of a text. -/
def start (body : List Char) : TokenWalk := { rest := body, position := 0 }

/-- The next token or the fault in its place, if there is any, and the walk after it. -/
def next (w : TokenWalk) : Option (Except FormulaFault Token) × TokenWalk :=
  if w.failed then (none, w)
  else
    let gap := w.rest.takeWhile Text.isBlank
    let position := w.position + byteLength gap
    match w.rest.dropWhile Text.isBlank with
    | [] => (none, { rest := [], position })
    | c :: cs =>
      match tokenAt c cs with
      | .error cause =>
        (some (.error (cause.fault position)), { rest := c :: cs, position, failed := true })
      | .ok (kind, tail) =>
        let l : Lexeme := ⟨gap, kind, c :: tail⟩
        let stop := position + byteLength l.raw
        (some (.ok ⟨kind, l.value, position, stop⟩),
          { rest := cs.drop tail.length, position := stop })

/-- What the call after so many others gives. -/
def call (w : TokenWalk) : Nat → Option (Except FormulaFault Token)
  | 0 => w.next.1
  | n + 1 => w.next.2.call n

end TokenWalk

end Worksheet
