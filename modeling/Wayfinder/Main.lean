import Wayfinder.CommandLine.Session
/-!
# The command

Reads the arguments and the environment, runs the command, and prints what it comes to. Addresses are never listened on
here: a command that would serve fails to bind.
-/

namespace Wayfinder.CommandLine

/-- The watchedVariables that settings and commands look at. -/
def watchedVariables : List String :=
  [configVariable, Demo.tokenVariable, "TRELLIS_STACK_SIZE", "TRELLIS_WORKERS", "TRELLIS_ADDR",
    "TRELLIS_SLOW_ROUTE_US"]

def usage : String :=
  "Usage: trellis [--config <CONFIG>] <serve [--addr <ADDR>] | routes | match <METHOD> <PATH>>"

/-- What is said about a command line that names nothing to do. -/
def Refusal.message : Refusal → String
  | missingValue => "a value is required for an option but none was supplied"
  | missingArgument => "the required arguments were not provided"
  | unknownArgument => "unexpected argument found"
  | unknownCommand => "unrecognized subcommand"
  | repeatedOption => "an option cannot be used multiple times"
  | unexpectedValue => "unexpected value for an option that takes none"
  | missingCommand => "a subcommand is required but one was not provided"
  | help | helpForNothing => usage

def readEnvironment : IO Environment := do
  let known ← watchedVariables.mapM fun name => return (name, ← IO.getEnv name)
  return fun name => (known.lookup name).join

def readFile (path : String) : IO (Except FileFault Bytes) := do
  try
    return .ok (← IO.FS.readBinFile path).data.toList
  catch _ =>
    return .error .unreadable

def runMain (args : List String) : IO UInt32 := do
  let env ← readEnvironment
  match CommandLine.read env args with
  | .error .help =>
    IO.println usage
    return 0
  | .error .helpForNothing =>
    IO.eprintln usage
    return 2
  | .error refusal =>
    IO.eprintln ("error: " ++ refusal.message)
    return 2
  | .ok invocation =>
    let content ← match invocation.config with
      | some path => readFile path
      | none => pure (.error .notFound)
    match invocation.run { environment := env, read := fun _ => content, canListen := fun _ => false } with
    | .ok (.printed text) =>
      IO.print text
      return 0
    | .ok (.serving address ..) =>
      IO.println address
      return 0
    | .error failure =>
      IO.eprintln ("Error: " ++ failure.message)
      return 1

end Wayfinder.CommandLine

def main (args : List String) : IO UInt32 := Wayfinder.CommandLine.runMain args
