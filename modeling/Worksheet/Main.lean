/-
  The command line program: it reads what the arguments ask for, and prints the answer.
-/
import Worksheet.Command.Run

namespace Worksheet.Command

/-- Why a file could not be read, as the system words it. -/
def systemMessage (e : IO.Error) : String :=
  match e with
  | .noFileOrDirectory _ code _ => s!"No such file or directory (os error {code})"
  | .permissionDenied _ code _ => s!"Permission denied (os error {code})"
  | .inappropriateType _ code _ => s!"Is a directory (os error {code})"
  | e => toString e

/-- Reads a file as text. -/
def loadFile (file : String) : IO (Except String String) := do
  try
    let bytes ← IO.FS.readBinFile file
    match String.fromUTF8? bytes with
    | some text => return .ok text
    | none => return .error "stream did not contain valid UTF-8"
  catch e => return .error (systemMessage e)

/-- Reads what an invocation needs. -/
def loadWorld (i : Invocation) : IO World := do
  let files ← i.files.mapM fun file => return (file, ← loadFile file)
  let input ← if i.readsInput then (← IO.getStdin).readToEnd else pure ""
  let missing := Except.error "No such file or directory (os error 2)"
  return ⟨fun file => (files.lookup file).getD missing, input⟩

/-- Answers to arguments, and prints the answer. -/
def runMain (args : List String) : IO UInt32 := do
  let world ← match Invocation.ofArgs? args with
    | some i => loadWorld i
    | none => pure ⟨fun _ => .error "", ""⟩
  let outcome := run world args
  IO.print outcome.out
  IO.eprint outcome.err
  return outcome.exit.toUInt32

end Worksheet.Command

/-- The program. -/
def main (args : List String) : IO UInt32 := Worksheet.Command.runMain args
