import Wayfinder.Dispatcher
import Wayfinder.Wire.Message
import Wayfinder.Wire.Reply
/-!
# Answers on the wire

A connection that sends no message, or a message with a body of no known length, is closed. A message whose target is
malformed is refused; any other is dispatched.
-/

namespace Wayfinder.Wire

open Context (World)

structure Answer where
  reply : Reply
  log : List Log.Event
  notes : List Json.Value := []
  world : World
  /-- The lines that are kept for the next answer. -/
  table : LineTable

def malformedEvent (cause : Http.UriError) : Log.Event where
  level := .warn
  message := "Malformed request rejected"
  fields := [("error", "request target: " ++ cause.message)]

/-- The answer to a message, or nothing if the connection is closed. -/
def answerMessage (d : Dispatcher) (world : World) (table : LineTable) (m : Message) : Option Answer :=
  match m.request with
  | .error .length => none
  | .error (.target cause) =>
    let (reply, events, table) := Reply.ofResponse table (.text .badRequest "Bad Request")
    some { reply, log := malformedEvent cause :: events, world, table }
  | .ok request =>
    let done := d.dispatch world request
    let (reply, events, table) := Reply.ofResponse table done.response
    some { reply, log := done.log ++ events, notes := done.notes, world := done.world, table }

/-- The answer to the bytes that a connection sends. -/
def answer? (d : Dispatcher) (world : World) (table : LineTable) (bytes : Bytes) : Option Answer :=
  Message.read? bytes >>= answerMessage d world table

end Wayfinder.Wire
