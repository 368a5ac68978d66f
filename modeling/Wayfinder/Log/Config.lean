import Wayfinder.Config.Basic
import Wayfinder.Log.Directive
import Wayfinder.Log.Sampling
/-!
# Settings of logs
-/

namespace Wayfinder.Log

open Number (Double)

inductive Format
  | json
  | pretty
  deriving Repr, DecidableEq

namespace Format

/-- The format that a text names in any case; every other text names JSON. -/
def parse (s : String) : Format := if Text.sameIgnoringCase s "pretty" then pretty else json

def describe : Format → String
  | json => "Json"
  | pretty => "Pretty"

end Format

structure Config where
  level : String := "info"
  format : Format := .json
  samplingMode : SamplingMode := .all
  samplingRate : Double := .one
  /-- Whether lines are written in the background. -/
  background : Bool := true
  targetFilter : Option String := none
  includeLocation : Bool := false

namespace Config

def bool? (s : String) : Option Bool :=
  match Text.trim s with
  | "true" => some true
  | "false" => some false
  | _ => none

/-- The settings of an environment. What cannot be read there changes nothing. -/
def ofEnvironment (env : Environment) : Config where
  level := (env "TRELLIS_LOG_LEVEL").getD "info"
  format := ((env "TRELLIS_LOG_FORMAT").map Format.parse).getD .json
  samplingMode := ((env "TRELLIS_LOG_SAMPLING_MODE").map SamplingMode.parse).getD .all
  samplingRate :=
    ((env "TRELLIS_LOG_SAMPLING_RATE").bind fun s => Double.read? (Text.trim s)).getD .one
  background := ((env "TRELLIS_LOG_ASYNC").bind bool?).getD true
  targetFilter := env "TRELLIS_LOG_TARGET_FILTER"
  includeLocation := ((env "TRELLIS_LOG_INCLUDE_LOCATION").bind bool?).getD false

/-- Settings for work on the program itself. -/
def development : Config where
  level := "debug"
  format := .pretty
  background := false
  includeLocation := true

/-- The directives of the target filter, and those among them that cannot be read. -/
def extraDirectives (c : Config) : List Directive × List String :=
  let raws := (((c.targetFilter.getD "").toList.splitOn ',').map fun s =>
    Text.trim (String.ofList s)).filter (· ≠ "")
  (raws.filterMap Directive.parse?, raws.filter fun s => (Directive.parse? s).isNone)

/-- The noise of connections is kept down. -/
def transportDirective : Directive := { target := some "may_minihttp", threshold := 2 }

/-- The filter: what the environment asks for in general, or else the level; then the rule about connections; then the
target filter. -/
def filter (c : Config) (env : Environment) : Filter :=
  let base := ((env "RUST_LOG").bind Filter.ofText?).getD (Filter.ofText (Text.asciiLower c.level))
  (transportDirective :: c.extraDirectives.1).foldl Filter.add base

/-- The keys of a JSON line, in order. -/
def lineKeys (c : Config) : List String :=
  if c.includeLocation then
    ["fields", "filename", "level", "line_number", "target", "threadId", "timestamp"]
  else ["fields", "level", "target", "threadId", "timestamp"]

end Config

end Wayfinder.Log
