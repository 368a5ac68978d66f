import Wayfinder.CommandLine.Invocation
import Wayfinder.Demo
/-!
# Running commands

Commands work on the demonstration, with the settings that the invocation names.
-/

namespace Wayfinder.CommandLine

open Http (Method)
open Route (RouteError)

/-- What commands see of the machine they run on. -/
structure Host where
  environment : Environment
  read : String → Except FileFault Bytes
  /-- Whether an address can be listened on. -/
  canListen : String → Bool

/-- Why a command fails. -/
inductive Failure
  | config (cause : Config.Error)
  | method (text : String)
  | registration (cause : RouteError)
  | binding (address : String)

def Failure.message : Failure → String
  | config cause => cause.message
  | method text => "invalid method " ++ Text.quote text ++ ": invalid HTTP method"
  | registration _ => "registering demo routes"
  | binding address => "binding " ++ address

/-- What a command comes to. -/
inductive Result
  | printed (text : String)
  | serving (address : String) (config : Config) (table : Table)

/-- The settings that an invocation names; without a file, those of the environment. -/
def Invocation.settings (i : Invocation) (host : Host) : Except Config.Error Config :=
  match i.config with
  | some path => Config.ofFile host.read host.environment path
  | none => .ok (Config.ofEnvironment host.environment)

/-- Runs a command. -/
def Invocation.run (i : Invocation) (host : Host) : Except Failure Result := do
  let config ← (i.settings host).mapError .config
  let demo := (Demo.ofEnvironment "demo" host.environment).mapError Failure.registration
  match i.command with
  | .serve address =>
    let address := address.getD config.bindAddress
    let table ← demo
    if host.canListen address then return .serving address config table
    else .error (.binding address)
  | .routes =>
    return .printed (← demo).router.dump
  | .explain text path =>
    let some method := Method.ofToken? (Text.asciiUpper text) | .error (.method text)
    return .printed ((← demo).router.describeMatch method path ++ "\n")

end Wayfinder.CommandLine
