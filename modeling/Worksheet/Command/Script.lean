/-
  Scripts: edits of a sheet, one on each line. A line names a cell and, after blanks, the
  input; blank lines and those that begin with `#` are passed over. A line that is refused
  changes nothing, and the lines after it are still run.
-/
import Worksheet.Sheet.Edit

namespace Worksheet.Command

/-- A line of a script that is an edit. -/
structure Line where
  number : Nat
  place : String
  input : String
deriving Repr, DecidableEq

/-- The edit on a line, if there is one. -/
def Line.ofChars? (number : Nat) (cs : List Char) : Option Line :=
  let cs := Text.trimBoth cs
  match cs with
  | [] | '#' :: _ => none
  | _ =>
    let inked (c : Char) : Bool := !Text.isBlank c
    some ⟨number, String.ofList (cs.takeWhile inked),
      String.ofList (Text.trimBoth (cs.dropWhile inked))⟩

/-- Puts a character in front of lines; a line break begins a further one. -/
def prepend (c : Char) (lines : List (List Char)) : List (List Char) :=
  if c = '\n' then [] :: lines
  else
    match lines with
    | [] => [[c]]
    | line :: lines => (c :: line) :: lines

/-- The lines of a text. -/
def splitLines (cs : List Char) : List (List Char) := cs.foldr prepend [[]]

/-- The edits of a script, with the numbers of their lines counted from 1. -/
def scriptLines (script : String) : List Line :=
  ((splitLines script.toList).zipIdx 1).filterMap fun (cs, number) => Line.ofChars? number cs

/-- The state of a run: the sheet, what was evaluated, and the lines that were refused, the
    last one first. -/
structure Progress where
  sheet : Sheet
  totals : Stats
  refused : List (Line × SheetFault)

/-- Runs one line. -/
def Progress.step (p : Progress) (l : Line) : Progress :=
  match p.sheet.set (.named l.place) l.input with
  | .ok (sheet, stats) => { p with sheet, totals := p.totals + stats }
  | .error fault => { p with refused := (l, fault) :: p.refused }

/-- Runs the lines of a script on an empty sheet. -/
def runLines (options : Options) (lines : List Line) : Progress :=
  lines.foldl Progress.step ⟨.empty options, .zero, []⟩

end Worksheet.Command
