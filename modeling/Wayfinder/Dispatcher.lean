import Wayfinder.Table
/-!
# Dispatching

A request is resolved against the table, its chain is run, and the response is taken from the writer. A chain that
panics still ends in one response.
-/

namespace Wayfinder

open Context (Exchange Token World Flags)
open Http (Request Response Verb)
open Stage (Outcome Panic Program)

structure Dispatcher where
  table : Table
  /-- The token from which those of all requests descend. -/
  shutdown : Token

/-- What became of a request. -/
structure Dispatched where
  response : Response
  log : List Log.Event
  notes : List Json.Value
  world : World

/-- A request at its chain: the exchange with what its path bound or a proposed status, the stages, the handler. -/
structure Resolved where
  exchange : Exchange
  stages : List Stage
  handler : Program

namespace Table

/-- Finds the chain of a request. -/
def resolve (t : Table) (x : Exchange) : Resolved :=
  let method := x.request.method
  let path := Route.Path.split x.request.path
  let stages (route : Option StagedRoute) := (t.placements method path route).map (·.stage)
  match t.router.lookupSegments method path with
  | .found route params =>
    { exchange := { x with pattern := some route.pattern.raw, params }
      stages := stages (some route)
      handler := route.handler }
  | .methodNotAllowed verbs =>
    let allowed := ", ".intercalate (verbs.map Verb.token)
    { exchange := x.modifyWriter fun w =>
        (w.proposeStatus .methodNotAllowed).insertLine (.allow, .ofText allowed)
      stages := stages none
      handler := t.methodNotAllowed }
  | .notFound =>
    { exchange := x.modifyWriter (·.proposeStatus .notFound)
      stages := stages none
      handler := t.notFound }

end Table

def panicEvent (p : Panic) (x : Exchange) : Log.Event :=
  { level := .error
    message := "Handler panicked - recovered"
    fields := [("request_id", x.id.toText), ("method", x.request.method.token),
      ("path", x.request.path), ("route_pattern", Text.quoteOption x.pattern),
      ("panic_message", p.message), ("status_committed", toString x.writer.isCommitted)] }

/-- The exchange after its chain. A panic makes the response an error unless a status was committed. -/
def recover : Outcome → Exchange
  | .returned x => x
  | .panicked p x =>
    let logged := x.emit (panicEvent p x)
    if x.writer.isCommitted then logged
    else logged.modifyWriter (·.reset .internalServerError "Internal Server Error")

/-- The response that the writer of an exchange holds. -/
def flush (x : Exchange) : Response :=
  x.writer.finish?.getD (.text .internalServerError "Internal Server Error")

namespace Dispatcher

/-- Starts with no request seen. -/
def start (table : Table) (world : World) : Dispatcher × World :=
  let (shutdown, flags) := world.flags.newToken
  ({ table, shutdown }, { world with flags })

/-- Replaces the table. -/
def reload (d : Dispatcher) (table : Table) : Dispatcher := { d with table }

/-- Cancels the tokens of all requests. -/
def stop (d : Dispatcher) (world : World) : World :=
  { world with flags := world.flags.cancel d.shutdown }

/-- Runs the chain of a request. -/
def run (d : Dispatcher) (world : World) (request : Request) : Outcome :=
  let r := d.table.resolve (Exchange.start world d.shutdown request)
  Stage.runChain r.stages r.handler r.exchange

/-- Answers a request. -/
def dispatch (d : Dispatcher) (world : World) (request : Request) : Dispatched :=
  let x := recover (d.run world request)
  { response := flush x, log := x.log, notes := x.notes, world := x.world }

def describe (d : Dispatcher) (world : World) : String :=
  "Dispatcher \x7b table: " ++ d.table.describe ++ ", shutdown: " ++
    toString (world.flags.isCancelled d.shutdown) ++ " \x7d"

end Dispatcher

end Wayfinder
