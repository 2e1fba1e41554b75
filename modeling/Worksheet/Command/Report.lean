/-
  What the command prints: values, tokens and sheets, as lines of text or as JSON.
-/
import Worksheet.Command.Script
import Worksheet.Json.Document

namespace Worksheet.Command

open Json (Document)

/-! ## Names -/

/-- The name of an error kind in JSON. -/
def errorName : ErrorKind → String
  | .divisionByZero => "Div0"
  | .value => "Value"
  | .reference => "Ref"
  | .name => "Name"
  | .number => "Num"
  | .notAvailable => "Na"
  | .circular => "Circular"

/-- The name of a token kind. -/
def tokenName : TokenKind → String
  | .number => "Number"
  | .text => "String"
  | .boolean => "Boolean"
  | .cell => "CellRef"
  | .name => "Identifier"
  | .operator => "Operator"
  | .leftParen => "LeftParen"
  | .rightParen => "RightParen"
  | .comma => "Comma"
  | .colon => "Colon"

/-! ## Documents -/

/-- A text that may be missing. -/
def optionalText (s : Option String) : Document := (s.map Document.text).getD .null

/-- A value. -/
def valueDocument : Value → Document
  | .empty => .text "Empty"
  | .number x => .object [("Number", .number x)]
  | .text s => .object [("Text", .text s)]
  | .boolean b => .object [("Boolean", .boolean b)]
  | .error e =>
    .object [("Error", .object [
      ("detail", optionalText e.detail),
      ("kind", .text (errorName e.kind))])]

/-- A formula and its value. -/
def evaluationDocument (formula : String) (e : Expr) (v : Value) : Document :=
  .object [
    ("display", .text v.display),
    ("formula", .text formula),
    ("normalized", .text ("=" ++ e.display)),
    ("value", valueDocument v)]

/-- A token. -/
def tokenDocument (t : Token) : Document :=
  .object [
    ("kind", .text (tokenName t.kind)),
    ("position", .natural t.start),
    ("value", .text t.value)]

/-- A cell that is set. -/
def cellDocument (c : Cell) (e : Entry) : Document :=
  .object [
    ("cell", .text c.name),
    ("display", .text e.value.display),
    ("formula", optionalText (e.formula.map Formula.text)),
    ("value", valueDocument e.value)]

/-! ## Lines -/

/-- A text filled up with blanks on the left. -/
def padLeft (width : Nat) (s : String) : String :=
  String.ofList (List.replicate (width - s.length) ' ') ++ s

/-- A text filled up with blanks on the right. -/
def padRight (width : Nat) (s : String) : String :=
  s ++ String.ofList (List.replicate (width - s.length) ' ')

/-- The line of a token: its position, kind and value. -/
def tokenLine (t : Token) : String :=
  s!"{padLeft 4 (toString t.start)}  {padRight 12 (tokenName t.kind)} {t.value}\n"

/-- The line of a cell: its name, what it shows, and its formula. -/
def cellLine (c : Cell) (e : Entry) : String :=
  match e.formula with
  | some f => s!"{c.name}\t{e.value.display}\t{f.text}\n"
  | none => s!"{c.name}\t{e.value.display}\n"

/-! ## Reports -/

/-- A document on lines of its own. -/
def documentLines (d : Document) : String := d.render ++ "\n"

/-- The report on a formula. -/
def evaluationReport (json : Bool) (formula : String) (e : Expr) (v : Value) : String :=
  if json then documentLines (evaluationDocument formula e v) else v.display ++ "\n"

/-- The report on tokens. -/
def tokenReport (json : Bool) (ts : List Token) : String :=
  if json then documentLines (.array (ts.map tokenDocument)) else String.join (ts.map tokenLine)

/-- The report on a sheet. -/
def sheetReport (json : Bool) (s : Sheet) : String :=
  if json then documentLines (.array (s.listing.map fun (c, e) => cellDocument c e))
  else String.join (s.listing.map fun (c, e) => cellLine c e)

/-- The line on what a script evaluated. -/
def statsLine (s : Stats) : String :=
  s!"Calculated {s.calculated} formulas ({s.errors} errors)\n"

/-- The line on an edit that was refused. -/
def refusalLine (l : Line) (fault : SheetFault) : String :=
  s!"line {l.number}: {l.place}: {fault.message}\n"

/-! ## Failures -/

/-- A cause below what it made fail; all its lines are indented. -/
def indented (cause : String) : String :=
  String.ofList (cause.toList.flatMap fun c => if c = '\n' then "\n    ".toList else [c])

/-- The report on a failure, with its cause if that is known. -/
def failureReport (failed : String) : Option String → String
  | none => s!"Error: {failed}\n"
  | some cause => s!"Error: {failed}\n\nCaused by:\n    {indented cause}\n"

end Worksheet.Command
