import Wayfinder.Log.Event
import Wayfinder.Text.Quoted
/-!
# Loggers

A logger adds its fields to every event. To add a field is to make another logger.
-/

namespace Wayfinder.Log

structure Logger where
  /-- Whether events belong to a request. -/
  inRequest : Bool := false
  fields : List (String × String) := []
  deriving DecidableEq

namespace Logger

/-- The logger with one more field, in place of any other of that key. -/
def withField (l : Logger) (key value : String) : Logger :=
  { l with fields := l.fields.filter (fun f => f.1 ≠ key) ++ [(key, value)] }

def field? (l : Logger) (key : String) : Option String := l.fields.lookup key

@[simp] theorem field?_withField (l : Logger) (key value : String) :
    (l.withField key value).field? key = some value := by
  have h : ∀ fs : List (String × String),
      (fs.filter (fun f => f.1 ≠ key) ++ [(key, value)]).lookup key = some value := by
    intro fs
    induction fs with
    | nil => simp
    | cons f rest ih =>
      by_cases hf : f.1 = key
      · simpa [hf] using ih
      · have hk : (key == f.1) = false := by simpa using fun h : key = f.1 => hf h.symm
        rw [List.filter_cons_of_pos (by simpa using hf), List.cons_append, List.lookup_cons, hk]
        exact ih
  exact h l.fields

/-- The fields in one line. -/
def fieldText (l : Logger) : String := " ".intercalate (l.fields.map fun f => f.1 ++ "=" ++ f.2)

def event (l : Logger) (level : Level) (message : String) : Event :=
  ⟨level, message, [("fields", l.fieldText)]⟩

def describe (l : Logger) : String :=
  "Logger \x7b span: " ++ Text.quoteOption (if l.inRequest then some "request" else none) ++
    ", fields: " ++ Text.quote l.fieldText ++ " \x7d"

end Logger

end Wayfinder.Log
