import Wayfinder.CommandLine.Level
import Wayfinder.Config.Basic
/-!
# Invocations

What a command line asks for: a command and the configuration file for it.
-/

namespace Wayfinder.CommandLine

inductive Command
  | serve (address : Option String)
  | routes
  /-- Shows how a request would be routed. -/
  | explain (method path : String)
  deriving Repr, DecidableEq

structure Invocation where
  config : Option String := none
  command : Command
  deriving Repr, DecidableEq

/-- The commands without their arguments. -/
inductive Verb
  | serve
  | routes
  | explain
  deriving Repr, DecidableEq

namespace Verb

def all : List Verb := [serve, routes, explain]

def name : Verb → String
  | serve => "serve"
  | routes => "routes"
  | explain => "match"

def ofName? (name : String) : Option Verb := all.find? fun v => v.name == name

/-- What the level behind a name takes. -/
def form : Verb → Form
  | serve => { takesAddress := true }
  | routes => {}
  | explain => { words := 2 }

/-- The command of a level that was read. -/
def command (v : Verb) (l : Level) : Command :=
  match v with
  | serve => .serve l.address
  | routes => .routes
  | explain => .explain (l.words.getD 0 "") (l.words.getD 1 "")

end Verb

/-- The word that asks for help, with the name of a command behind it. -/
def helpWord : String := "help"

/-- Whether a word names a command or asks for help. -/
def isCommandName (word : String) : Bool := word = helpWord || (Verb.ofName? word).isSome

/-- What the words behind the one for help ask for: help for at most one command, which has none of its own. -/
def helpFor : List String → Refusal
  | [] => .help
  | [word] => if isCommandName word then .help else .unknownCommand
  | _ => .unknownCommand

/-- Reads the words before the name of a command, down to the words behind it. -/
def readOuter (l : Level) : List String → Except Refusal (Level × Option (Verb × List String))
  | [] => .ok (l, none)
  | word :: rest => do
    if l.isPlain then
      .error (if isCommandName word then .unknownArgument else .unknownCommand)
    else if l.awaitsValue || !isCommandName word then readOuter (← l.step word) rest
    else match Verb.ofName? word with
      | some v => .ok (l, some (v, rest))
      | none => .error (helpFor rest)

/-- The variable that names a configuration file. -/
def configVariable : String := "TRELLIS_CONFIG"

/-- What the words of a command line ask for. A configuration file named behind the command wins over one named before
it, and both win over the environment. -/
def read (env : Environment) (words : List String) : Except Refusal Invocation := do
  let named := env configVariable
  let (outer, inner) ← readOuter { form := { surplus := .unknownCommand } } words
  match inner with
  | some (v, rest) =>
    let start : Level := { form := v.form }
    let level ← (← rest.foldlM Level.step start).finish named
    let outer ← outer.finish named
    return { config := level.config <|> outer.config <|> named, command := v.command level }
  | none =>
    let outer ← outer.finish named
    .error (if (outer.config <|> named).isSome then .missingCommand else .helpForNothing)

end Wayfinder.CommandLine
