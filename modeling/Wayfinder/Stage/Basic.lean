import Wayfinder.Stage.Program
/-!
# Stages

A stage stands around the rest of a chain. Each has a name and a program that says what it does on the way in and on
the way out, and whether it goes on at all.
-/

namespace Wayfinder

open Context (Exchange)
open Number (Duration)

inductive Stage
  | requestId
  | tracing
  | metrics (meter : String)
  | auth (tokens : List (String × String))
  | deadline (budget : Duration)
  | custom (name : String) (p : Stage.Program)

namespace Stage

open Program

/-- Publishes the id of the request: as a value, in the logger, and in the response. -/
def requestIdProgram : Program :=
  inspect fun x =>
    act (.insertValue "request_id" (.requestId x.id)) <|
    act (.setLogger (x.logger.withField "request_id" x.id.toText)) <|
    act (.setHeader "x-request-id" x.id.toText) <|
    next done

/-- The line of the access log; server errors are warnings. -/
def accessEvent (start : Nat) (x : Exchange) : Log.Event :=
  let status := x.writer.status.code
  let failed := 500 ≤ status
  { level := if failed then .warn else .info
    message := if failed then "Request failed" else "Request complete"
    fields := [("status", toString status), ("route_pattern", x.pattern.getD "-"),
      ("principal", (x.logger.field? "principal").getD "-"),
      ("latency_us", toString ((x.world.now - start) / 1000))] }

def tracingProgram : Program :=
  inspect fun start => next (effectOf fun x => .emit (accessEvent start.world.now x))

def metricsProgram (meter : String) : Program :=
  inspect fun start => next (effectOf fun x => .record meter (x.world.now - start.world.now))

/-- The principal that a request may act for: its first `Authorization` line names the scheme and, after a blank, a
known token. Of equal tokens the last one counts. -/
def authenticate? (tokens : List (String × String)) (request : Http.Request) : Option String := do
  let line ← request.headers.text? .authorization
  let (scheme, token) ← Text.cutAt ' ' line
  if Text.sameIgnoringCase scheme "bearer" then tokens.reverse.lookup (Text.trim token) else none

/-- The answer to a request without a known token. -/
def refuse : Program :=
  act (.setStatus 401) <|
  act (.setHeader "www-authenticate" "Bearer") <|
  writeJson (.object [("error", .string "Unauthorized")])

/-- Lets a request pass for a principal, or refuses it. -/
def authProgram (tokens : List (String × String)) : Program :=
  inspect fun x =>
    match authenticate? tokens x.request with
    | some name =>
      act (.setLogger (x.logger.withField "principal" name)) <|
      act (.insertValue "principal" (.principal name)) <|
      next done
    | none => refuse

/-- The first instant that the clock cannot show: it has 63 bits for seconds. -/
def clockEnd : Nat := Nat.pow 2 63 * 1000000000

/-- The panic over an instant that the clock cannot show. -/
def instantOverflow : Panic := .text "overflow when adding duration to instant"

/-- Installs a deadline. A route that has set no status when the deadline has passed is answered with a 503. -/
def deadlineProgram (budget : Duration) : Program :=
  inspect fun start =>
    let instant := start.world.now + budget
    if clockEnd ≤ instant then panic instantOverflow else
    act (.setDeadline instant) <|
    next <| inspect fun x =>
      if x.isExpired && x.pattern.isSome && !x.writer.isCommitted then
        act (.emit (x.logger.event .warn ("deadline of " ++ budget.describe ++ " exceeded after " ++
          Duration.describe (x.world.now - start.world.now)))) <|
        effect (.fail .serviceUnavailable "Request deadline exceeded")
      else done

def program : Stage → Program
  | requestId => requestIdProgram
  | tracing => tracingProgram
  | metrics meter => metricsProgram meter
  | auth tokens => authProgram tokens
  | deadline budget => deadlineProgram budget
  | custom _ p => p

def name : Stage → String
  | requestId => "request_id"
  | tracing => "tracing"
  | metrics _ => "metrics"
  | auth _ => "auth"
  | deadline _ => "deadline"
  | custom name _ => name

end Stage

end Wayfinder
