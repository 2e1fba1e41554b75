/-
  The arguments of the command. Options may stand before and after the name of a subcommand
  and also between its arguments; `--` ends them. An option is given at most once on each
  side of the name, and the one after it wins.
-/
namespace Worksheet.Command

/-- What the command is asked to do. -/
inductive Action where
  | eval (formula : String)
  | tokens (formula : String)
  /-- Runs a script from a file, or from the standard input. -/
  | run (file : Option String)
deriving Repr, DecidableEq

/-- The options on one side of the subcommand's name. How verbose the log is does not
    matter to the answer. -/
structure Flags where
  json : Bool := false
  options : Option String := none
deriving Repr, DecidableEq

/-- A complete command line. -/
structure Invocation where
  json : Bool
  options : Option String
  action : Action
deriving Repr, DecidableEq

/-- The option to print JSON. -/
def Flags.withJson? (f : Flags) : Option Flags :=
  if f.json then none else some { f with json := true }

/-- The option that names a file, whose name must not be empty. -/
def Flags.withOptions? (f : Flags) (file : String) : Option Flags :=
  if f.options.isSome || file.isEmpty then none else some { f with options := some file }

/-- An argument that is taken for an option: one that begins with a hyphen and does not
    consist of it. -/
def isOption (arg : String) : Bool := arg.startsWith "-" && arg != "-"

/-- The short options for verbosity, which may be repeated and run together. -/
def isVerbosity (arg : String) : Bool :=
  arg == "--verbose" || (isOption arg && (arg.toList.drop 1).all (· == 'v'))

/-- The file in an argument of the form `--options=FILE`. -/
def attachedFile? (arg : String) : Option String :=
  let lead := "--options=".toList
  if lead.isPrefixOf arg.toList then some (String.ofList (arg.toList.drop lead.length)) else none

/-- Separates the options from the other arguments. With `single`, stops at the first other
    argument; the rest follows it. `none` when an option is not well-formed. -/
def separate (single : Bool) (f : Flags) : List String → Option (Flags × List String)
  | [] => some (f, [])
  | "--" :: args => if single then none else some (f, args)
  | "--json" :: args => do separate single (← f.withJson?) args
  | "--options" :: args =>
    match args with
    | [] => none
    | file :: args =>
      if isOption file then none else do separate single (← f.withOptions? file) args
  | arg :: args =>
    if isVerbosity arg then separate single f args
    else if isOption arg then do
      separate single (← f.withOptions? (← attachedFile? arg)) args
    else if single then some (f, arg :: args)
    else do
      let (f, others) ← separate single f args
      return (f, arg :: others)

/-- The action of a subcommand with its arguments. -/
def action? (name : String) (args : List String) : Option Action :=
  match name, args with
  | "eval", [formula] => some (.eval formula)
  | "tokens", [formula] => some (.tokens formula)
  | "run", [] => some (.run none)
  | "run", [file] => if file.isEmpty then none else some (.run (some file))
  | _, _ => none

/-- Reads a command line; `none` when it is refused. -/
def Invocation.ofArgs? (args : List String) : Option Invocation := do
  let (outer, rest) ← separate true {} args
  match rest with
  | [] => none
  | name :: args =>
    let (inner, args) ← separate false {} args
    let action ← action? name args
    return ⟨outer.json || inner.json, inner.options.or outer.options, action⟩

end Worksheet.Command
