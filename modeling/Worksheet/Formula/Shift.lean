/-
  Shifting: moving the references of a formula without reading it further than its tokens.
  Everything but the references stays as it is written, blanks included.
-/
import Worksheet.Formula.Lexeme

namespace Worksheet

/-- Moves a lexeme that is a reference, and writes it in capitals; others stay. -/
def Lexeme.shift (rows cols : Int) (l : Lexeme) : Except FormulaFault Lexeme :=
  if l.kind = .cell then do
    let a ← (Address.parse l.value).mapError (.noSuchCell l.value none)
    match a.shift rows cols with
    | some moved => return { l with raw := moved.chars }
    | none => throw (.leavesGrid l.value rows cols)
  else return l

/-- Moves the references of a text. The first fault from the left is reported, be it of a
    reference or of the text. -/
def shiftBody (rows cols : Int) (body : List Char) : Except FormulaFault (List Char) := do
  let s := scan body
  let lexemes ← s.lexemes.mapM (Lexeme.shift rows cols)
  match s.fault? with
  | some fault => throw fault
  | none => return { s with lexemes }.chars

end Worksheet
