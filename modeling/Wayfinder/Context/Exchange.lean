import Wayfinder.Context.Cancellation
import Wayfinder.Context.Values
import Wayfinder.Context.Writer
import Wayfinder.Files
import Wayfinder.Http.Request
import Wayfinder.Log.Logger
import Wayfinder.Metrics.Meter
import Wayfinder.Route.Params
/-!
# Exchanges

All that the stages of one request share: the request and its id, what its path bound, the response under construction,
values, a logger, a token and a deadline; and the world around them.
-/

namespace Wayfinder.Context

open Http (Request)

/-- What outlives a request: the clock, in nanoseconds, the flags of tokens, the meters, the files; the stack size
that meters report, and the id that the next request without one gets. -/
structure World where
  now : Nat := 0
  flags : Flags := {}
  meters : Metrics.Meters := {}
  files : Files := {}
  stackSize : Nat := 16384
  freshId : RequestId := ⟨0⟩

structure Exchange where
  request : Request
  id : RequestId
  pattern : Option String := none
  params : Route.Params := []
  values : Values := {}
  logger : Log.Logger := { inRequest := true }
  writer : Writer := {}
  token : Token
  deadline : Option Nat := none
  world : World
  /-- What loggers and the access log said, warnings about header lines, and panics. Lookups, files and values
  without a JSON form log nothing here. -/
  log : List Log.Event := []
  /-- What the stages left behind, in order. -/
  notes : List Json.Value := []

namespace Exchange

/-- An exchange at its beginning. Its token is cancelled with another one. -/
def start (world : World) (shutdown : Token) (request : Request) : Exchange :=
  let (token, flags) := world.flags.childToken shutdown
  { request, id := RequestId.ofHeadersOr world.freshId request.headers, token
    world := { world with flags } }

def emit (x : Exchange) (e : Log.Event) : Exchange := { x with log := x.log ++ [e] }

/-- Logs a message with the fields of the logger. -/
def logMessage (x : Exchange) (level : Log.Level) (message : String) : Exchange :=
  x.emit (x.logger.event level message)

def modifyWriter (x : Exchange) (f : Writer → Writer) : Exchange := { x with writer := f x.writer }

/-- Adds a header line by `f`, or logs what is wrong with it. -/
def addLine (x : Exchange) (f : Writer → Http.Header → Writer) (name value : String) : Exchange :=
  if x.writer.isFlushed then x
  else match Writer.readLine name value with
    | .ok line => x.modifyWriter (f · line)
    | .error warning => x.emit warning

/-- Sets the status. A code that is none is logged and ignored. -/
def setStatus (x : Exchange) (code : Nat) : Exchange :=
  match Http.Status.ofCode? code with
  | some s => x.modifyWriter (·.setStatus s)
  | none => x.logMessage .warn ("invalid status code " ++ toString code ++ " ignored")

/-- Writes to the body, proposing a content type if one is given. -/
def write (x : Exchange) (type : Option String) (bytes : Bytes) : Exchange :=
  x.modifyWriter fun w =>
    (match type with
      | some type => w.proposeType type
      | none => w).write bytes

/-- Writes a file with the type that its name suggests. A file that is missing makes the response a 404, one that
cannot be read a 500. -/
def sendFile (x : Exchange) (path : String) : Exchange :=
  let failWith (s : Http.Status) := x.modifyWriter (·.fail s (s.reason?.getD "Error"))
  match x.world.files.read path with
  | .ok bytes => x.write (some (Http.ContentType.ofPath path)) bytes
  | .error .notFound => failWith .notFound
  | .error .unreadable => failWith .internalServerError

/-- Installs a deadline. The earliest one stays. -/
def setDeadline (x : Exchange) (instant : Nat) : Exchange :=
  { x with deadline := some (match x.deadline with
      | some earlier => min earlier instant
      | none => instant) }

/-- The time left before the deadline. -/
def timeLeft? (x : Exchange) : Option Number.Duration := x.deadline.map fun d => d - x.world.now

def isExpired (x : Exchange) : Bool := x.deadline.any fun d => d ≤ x.world.now

def isTokenCancelled (x : Exchange) : Bool := x.world.flags.isCancelled x.token

/-- Counts a pass on a meter. -/
def record (x : Exchange) (meter : String) (latency : Number.Duration) : Exchange :=
  let count (m : Metrics.Meter) :=
    m.record x.writer.status.hundreds x.pattern latency x.world.stackSize
  { x with world := { x.world with meters := x.world.meters.modify meter count } }

/-- Whether the work for the request should stop. -/
def isCancelled (x : Exchange) : Bool := x.isTokenCancelled || x.isExpired

def describe (x : Exchange) : String :=
  let pair (p : String × String) := "(" ++ Text.quote p.1 ++ ", " ++ Text.quote p.2 ++ ")"
  "RequestContext \x7b request_id: " ++ x.id.describe ++ ", method: " ++ x.request.method.token ++
    ", uri: " ++ x.request.uri.toText ++ ", matched_pattern: " ++ Text.quoteOption x.pattern ++
    ", params: ParamBag \x7b entries: [" ++ ", ".intercalate (x.params.map pair) ++
    "] \x7d, user_values: " ++ x.values.describe ++ ", status: " ++
    toString x.writer.status.code ++ " \x7d"

end Exchange

end Wayfinder.Context
