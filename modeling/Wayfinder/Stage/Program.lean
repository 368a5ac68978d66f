import Wayfinder.Context.Exchange
import Wayfinder.Json.Printer
/-!
# Programs

What handlers and stages do is a program: effects on the exchange in order, with choices that look at the exchange.
A stage may go on to the rest of its chain any number of times. A program returns, or it panics and leaves the exchange
as it is at that moment.
-/

namespace Wayfinder.Stage

open Context (Datum Exchange Kind)
open Number (Duration)

/-- One change of an exchange. -/
inductive Effect
  | note (v : Json.Value)
  | emit (e : Log.Event)
  | setLogger (l : Log.Logger)
  | setStatus (code : Nat)
  | setHeader (name value : String)
  | appendHeader (name value : String)
  | appendLine (h : Http.Header)
  | removeLines (name : Http.HeaderName)
  | proposeType (type : String)
  | write (type : Option String) (bytes : Bytes)
  | fail (s : Http.Status) (message : String)
  | sendFile (path : String)
  | clearBody
  | insertValue (key : String) (d : Datum)
  | removeValue (key : String) (kind : Kind)
  | setDeadline (instant : Nat)
  | cancel
  | record (meter : String) (latency : Duration)
  | pause (d : Duration)

namespace Effect

def apply : Effect → Exchange → Exchange
  | note v, x => { x with notes := x.notes ++ [v] }
  | emit e, x => x.emit e
  | setLogger l, x => { x with logger := l }
  | setStatus code, x => x.setStatus code
  | setHeader name value, x => x.addLine .insertLine name value
  | appendHeader name value, x => x.addLine .appendLine name value
  | appendLine h, x => x.modifyWriter fun w => { w with headers := w.headers.append h.1 h.2 }
  | removeLines name, x => x.modifyWriter fun w => { w with headers := w.headers.remove name }
  | proposeType type, x => x.modifyWriter (·.proposeType type)
  | write type bytes, x => x.write type bytes
  | fail s message, x => x.modifyWriter (·.fail s message)
  | sendFile path, x => x.sendFile path
  | clearBody, x => { x with request := { x.request with body := [] } }
  | insertValue key d, x => { x with values := x.values.insert key d }
  | removeValue key kind, x => { x with values := x.values.remove key kind }
  | setDeadline instant, x => x.setDeadline instant
  | cancel, x => { x with world := { x.world with flags := x.world.flags.cancel x.token } }
  | record meter latency, x => x.record meter latency
  | pause d, x => { x with world := { x.world with now := x.world.now + d } }

end Effect

/-- What a panic carries. -/
inductive Panic
  | text (message : String)
  | other
  deriving Repr, DecidableEq

def Panic.message : Panic → String
  | text message => message
  | other => "non-string panic payload"

/-- How a program ends. -/
inductive Outcome
  | returned (x : Exchange)
  | panicked (p : Panic) (x : Exchange)

namespace Outcome

/-- The exchange at the end. -/
def exchange : Outcome → Exchange
  | returned x => x
  | panicked _ x => x

/-- Goes on after a return. -/
def bind (o : Outcome) (f : Exchange → Outcome) : Outcome :=
  match o with
  | returned x => f x
  | panicked p x => panicked p x

@[simp] theorem bind_returned (x : Exchange) (f : Exchange → Outcome) :
    (returned x).bind f = f x := rfl

@[simp] theorem bind_panicked (p : Panic) (x : Exchange) (f : Exchange → Outcome) :
    (panicked p x).bind f = panicked p x := rfl

theorem bind_assoc (o : Outcome) (f g : Exchange → Outcome) :
    (o.bind f).bind g = o.bind fun x => (f x).bind g := by
  cases o <;> rfl

end Outcome

inductive Program
  | done
  | act (e : Effect) (rest : Program)
  | next (rest : Program)
  | inspect (k : Exchange → Program)
  | panic (p : Panic)

namespace Program

/-- Runs a program. Where it goes on to the rest of its chain, `continuation` runs. -/
def run (continuation : Exchange → Outcome) : Program → Exchange → Outcome
  | done, x => .returned x
  | act e rest, x => run continuation rest (e.apply x)
  | next rest, x => (continuation x).bind (run continuation rest)
  | inspect k, x => run continuation (k x) x
  | panic p, x => .panicked p x

/-- Runs a program with nothing to go on to. -/
def runAlone (p : Program) (x : Exchange) : Outcome := p.run .returned x

/-- Runs one program after another. -/
def andThen : Program → Program → Program
  | done, q => q
  | act e rest, q => act e (rest.andThen q)
  | next rest, q => next (rest.andThen q)
  | inspect k, q => inspect fun x => (k x).andThen q
  | panic p, _ => panic p

theorem run_andThen (c : Exchange → Outcome) (p q : Program) (x : Exchange) :
    (p.andThen q).run c x = (p.run c x).bind (q.run c) := by
  induction p generalizing x with
  | done => rfl
  | act e rest ih => exact ih (e.apply x)
  | next rest ih =>
    simp only [andThen, run, Outcome.bind_assoc]
    congr 1
    funext y
    exact ih y
  | inspect k ih => exact ih x x
  | panic p => rfl

def effect (e : Effect) : Program := act e done

/-- Programs one after another. -/
def sequence (ps : List Program) : Program := ps.foldr andThen done

/-- An effect that depends on the exchange. -/
def effectOf (f : Exchange → Effect) : Program := inspect fun x => effect (f x)

def writeText (s : String) : Program :=
  effect (.write (some Http.ContentType.text) (Text.encode s))

def writeHtml (s : String) : Program :=
  effect (.write (some Http.ContentType.html) (Text.encode s))

def writeBytes (bytes : Bytes) : Program := effect (.write none bytes)

def writeJson (v : Json.Value) : Program :=
  effect (.write (some Http.ContentType.json) (Text.encode v.print))

/-- What becomes of a response when a value cannot be written as JSON. -/
def writeJsonFailure : Program :=
  effect (.fail .internalServerError "Internal Server Error")

/-- Logs a message with the fields of the logger. -/
def logMessage (level : Log.Level) (message : String) : Program :=
  effectOf fun x => .emit (x.logger.event level message)

/-- Adds a field to the logger for the rest of the chain. -/
def addLogField (key value : String) : Program :=
  effectOf fun x => .setLogger (x.logger.withField key value)

end Program

end Wayfinder.Stage
