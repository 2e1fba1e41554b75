/-
  The command: what it answers to its arguments, given the files it may read.
-/
import Worksheet.Command.Arguments
import Worksheet.Command.OptionsText
import Worksheet.Command.Report

namespace Worksheet.Command

/-- What the command can read: files, or why a file cannot be read, and the standard
    input. -/
structure World where
  file : String → Except String String
  input : String

/-- What the command prints, and its exit code. -/
structure Outcome where
  exit : Nat
  out : String
  err : String
deriving Repr, DecidableEq

/-- The command line was refused. -/
def Outcome.refused : Outcome := ⟨2, "", ""⟩

/-- The command succeeded with the given output. -/
def Outcome.success (out : String) : Outcome := ⟨0, out, ""⟩

/-- The command failed and printed nothing before. -/
def Outcome.failure (failed : String) (cause : Option String) : Outcome :=
  ⟨1, "", failureReport failed cause⟩

/-! ## Actions -/

/-- Evaluates a formula on an empty sheet. -/
def runEval (json : Bool) (formula : String) : Outcome :=
  match parseFormula formula with
  | .error fault => .failure s!"Failed to parse '{formula}'" fault.message
  | .ok e => .success (evaluationReport json formula e ((Sheet.empty {}).evaluate e))

/-- The text of a formula after its equals sign, which may be missing. -/
def bodyOf (formula : String) : List Char :=
  match Text.trimLeft formula.toList with
  | '=' :: body => body
  | body => body

/-- Lists the tokens of a formula. -/
def runTokens (json : Bool) (formula : String) : Outcome :=
  match tokenize (bodyOf formula) with
  | .error fault => .failure s!"Failed to tokenize '{formula}'" fault.message
  | .ok ts => .success (tokenReport json ts)

/-- Runs a script and prints the sheet it leaves. Refused lines make it fail in the end. -/
def runScript (json : Bool) (options : Options) (script : String) : Outcome :=
  let p := runLines options (scriptLines script)
  let log := String.join (p.refused.reverse.map fun (l, fault) => refusalLine l fault)
    ++ statsLine p.totals
  if p.refused.isEmpty then ⟨0, sheetReport json p.sheet, log⟩
  else
    ⟨1, sheetReport json p.sheet,
      log ++ failureReport s!"{p.refused.length} edit(s) rejected" none⟩

/-! ## Files -/

/-- Reads a file, or fails. -/
def readFile (w : World) (file : String) : Except Outcome String :=
  (w.file file).mapError fun cause => .failure s!"Failed to read '{file}'" (some cause)

/-- Reads the options, or takes the defaults. -/
def readOptions (w : World) : Option String → Except Outcome Options
  | none => .ok {}
  | some file => do
    let text := (← readFile w file).toList
    (OptionsText.read text).mapError fun fault =>
      .failure s!"Invalid calculation options in '{file}'" (fault.message text)

/-- Reads the script. -/
def readScript (w : World) : Option String → Except Outcome String
  | none => .ok w.input
  | some file => readFile w file

/-! ## The command -/

/-- The files that an invocation reads. -/
def Invocation.files (i : Invocation) : List String :=
  i.options.toList ++ match i.action with
    | .run (some file) => [file]
    | _ => []

/-- Whether an invocation reads the standard input. -/
def Invocation.readsInput (i : Invocation) : Bool :=
  match i.action with
  | .run none => true
  | _ => false

/-- Carries out an action; the options have to be in order whatever it is. -/
def Invocation.run (w : World) (i : Invocation) : Except Outcome Outcome := do
  let options ← readOptions w i.options
  match i.action with
  | .eval formula => return runEval i.json formula
  | .tokens formula => return runTokens i.json formula
  | .run file => return runScript i.json options (← readScript w file)

/-- Answers to arguments. -/
def run (w : World) (args : List String) : Outcome :=
  match Invocation.ofArgs? args with
  | none => .refused
  | some i =>
    match i.run w with
    | .ok outcome | .error outcome => outcome

end Worksheet.Command
