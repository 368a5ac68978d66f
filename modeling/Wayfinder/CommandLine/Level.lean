import Wayfinder.CommandLine.Token
/-!
# Levels of a command line

The words before the name of a command and the words behind it are read by the same rules, each level with its own
options and plain words.
-/

namespace Wayfinder.CommandLine

/-- Why a command line names nothing to do. -/
inductive Refusal
  | missingValue
  | missingArgument
  | unknownArgument
  | unknownCommand
  | repeatedOption
  | unexpectedValue
  | missingCommand
  | help
  /-- Nothing was given where a command is due. -/
  | helpForNothing
  deriving Repr, DecidableEq

/-- The options that take a value. -/
inductive Key
  | config
  | address
  deriving Repr, DecidableEq

/-- What a level takes. The option for a configuration file is known on every level. -/
structure Form where
  takesAddress : Bool := false
  /-- How many plain words it takes. -/
  words : Nat := 0
  /-- What a plain word too many is. -/
  surplus : Refusal := .unknownArgument

namespace Form

def longKey? (f : Form) (name : String) : Option Key :=
  if name = "config" then some .config
  else if name = "addr" ∧ f.takesAddress then some .address
  else none

end Form

/-- What a level has read. -/
structure Level where
  form : Form
  config : Option String := none
  address : Option String := none
  words : List String := []
  /-- The option that is not settled yet, with its value if that has come. -/
  pending : Option (Key × Option String) := none
  /-- Whether only plain words can follow. -/
  isPlain : Bool := false

namespace Level

def get (l : Level) : Key → Option String
  | .config => l.config
  | .address => l.address

/-- Gives an option its value. Options are given once, and the name of a file is not empty. -/
def set (l : Level) (key : Key) (value : String) : Except Refusal Level :=
  if (l.get key).isSome then .error .repeatedOption
  else match key with
    | .config => if value = "" then .error .missingValue else .ok { l with config := some value }
    | .address => .ok { l with address := some value }

/-- Gives the option that is not settled yet its value. -/
def settle (l : Level) : Except Refusal Level :=
  match l.pending with
  | none => .ok l
  | some (_, none) => .error .missingValue
  | some (key, some value) => { l with pending := none }.set key value

/-- Whether the next word is the value of an option. -/
def awaitsValue (l : Level) : Bool :=
  match l.pending with
  | some (_, none) => true
  | _ => false

/-- Meets the name of an option that takes a value, with the value attached to it. -/
def option (l : Level) (key : Key) (attached : Option String) : Except Refusal Level := do
  let l ← l.settle
  match attached with
  | some value => l.set key value
  | none => .ok { l with pending := some (key, none) }

/-- Asks for help, which comes once the options before it are settled. -/
def askHelp (l : Level) : Except Refusal Level := do
  let _ ← l.settle
  .error .help

def long (l : Level) (name : String) (value : Option String) : Except Refusal Level :=
  if name = "help" then if value.isSome then .error .unexpectedValue else l.askHelp
  else match l.form.longKey? name with
    | some key => l.option key value
    | none => .error .unknownArgument

/-- The value that letters behind the name of an option hold; an equals sign before it is dropped. -/
def attachedValue : List Char → Option String
  | [] => none
  | '=' :: rest => some (String.ofList rest)
  | letters => some (String.ofList letters)

def short (l : Level) : List Char → Except Refusal Level
  | 'h' :: _ => l.askHelp
  | 'c' :: rest => l.option .config (attachedValue rest)
  | _ => .error .unknownArgument

/-- Takes a plain word. -/
def plain (l : Level) (word : String) : Except Refusal Level := do
  if l.words.length < l.form.words then
    let l ← l.settle
    .ok { l with words := l.words ++ [word] }
  else .error l.form.surplus

def step (l : Level) (word : String) : Except Refusal Level :=
  if l.isPlain then l.plain word
  else match Token.read word, l.pending with
    | .separator, _ => .ok { l with isPlain := true }
    | .long name value, _ => l.long name value
    | .short letters, _ => l.short letters
    | .plain word, some (key, none) => .ok { l with pending := some (key, some word) }
    | .plain word, _ => l.plain word

/-- Ends a level: its options are settled, and where it names no configuration file, the name that the environment has
must be one. -/
def finish (l : Level) (fromEnvironment : Option String) : Except Refusal Level := do
  let l ← l.settle
  if l.config.isNone ∧ fromEnvironment = some "" then .error .missingValue
  if l.words.length < l.form.words then .error .missingArgument
  return l

end Level

end Wayfinder.CommandLine
