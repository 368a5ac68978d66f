import Wayfinder.Config.Size
import Wayfinder.Config.Toml
import Wayfinder.Files
/-!
# Settings

Settings come from a file and from the environment. What the environment says wins over the file, and what the file
says over the defaults.
-/

namespace Wayfinder

/-- The variables of an environment. -/
abbrev Environment := String → Option String

structure Config where
  stackSize : Nat := 0x4000
  /-- How many workers run; without a number, as many as there are processors. -/
  workers : Option Nat := none
  bindAddress : String := "127.0.0.1:8080"
  /-- Lookups that take longer than this many microseconds are slow. -/
  slowRoute : Nat := 1000
  deriving Repr, DecidableEq

namespace Config

/-- Why settings cannot be read. -/
inductive Error
  | invalid
  | unreadable (path : String)
  | malformed (path : String)
  deriving Repr, DecidableEq

def Error.message : Error → String
  | invalid => "invalid runtime config"
  | unreadable path => "reading runtime config " ++ path
  | malformed path => "parsing runtime config " ++ path

/-- A number that an integer of a document denotes. -/
def word : Toml.Scalar → Option Nat
  | .integer n => if 0 ≤ n ∧ n < wordLimit then some n.toNat else none
  | .text _ => none

/-- Sets what one entry of a document says. -/
def set (c : Config) (entry : String × Toml.Scalar) : Option Config :=
  match entry with
  | ("stack_size", .text s) => (parseSize s).map fun n => { c with stackSize := n }
  | ("stack_size", v) => (word v).map fun n => { c with stackSize := n }
  | ("workers", v) => (word v).map fun n => { c with workers := some n }
  | ("bind_addr", .text s) => some { c with bindAddress := s }
  | ("slow_route_us", v) => (word v).map fun n => { c with slowRoute := n }
  | _ => none

/-- The settings of a document. Unknown keys are refused. -/
def ofText (text : String) : Except Error Config :=
  match (Toml.read text).bind fun entries => entries.foldlM set {} with
  | some c => .ok c
  | none => .error .invalid

/-- Lets the environment change settings. What cannot be read there changes nothing. -/
def override (c : Config) (env : Environment) : Config where
  stackSize := ((env "TRELLIS_STACK_SIZE").bind parseSize).getD c.stackSize
  workers := (env "TRELLIS_WORKERS").bind word? <|> c.workers
  bindAddress := (env "TRELLIS_ADDR").getD c.bindAddress
  slowRoute := ((env "TRELLIS_SLOW_ROUTE_US").bind word?).getD c.slowRoute

def ofEnvironment (env : Environment) : Config := override {} env

/-- The settings of a file under an environment. -/
def ofFile (read : String → Except FileFault Bytes) (env : Environment) (path : String) :
    Except Error Config := do
  let bytes ← (read path).mapError fun _ => .unreadable path
  let some text := Text.decode? bytes | .error (.unreadable path)
  let c ← (ofText text).mapError fun _ => .malformed path
  return c.override env

end Config

end Wayfinder
