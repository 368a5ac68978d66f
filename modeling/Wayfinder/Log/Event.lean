/-!
# Log events
-/

namespace Wayfinder.Log

/-- Levels from the most severe to the least. -/
inductive Level
  | error | warn | info | debug | trace
  deriving Repr, DecidableEq

namespace Level

def token : Level → String
  | error => "ERROR"
  | warn => "WARN"
  | info => "INFO"
  | debug => "DEBUG"
  | trace => "TRACE"

/-- Grows as the level gets less severe. -/
def verbosity : Level → Nat
  | error => 1
  | warn => 2
  | info => 3
  | debug => 4
  | trace => 5

def isSevere (l : Level) : Bool := l.verbosity ≤ warn.verbosity

end Level

/-- One event with its named values. -/
structure Event where
  level : Level
  message : String
  fields : List (String × String) := []
  deriving DecidableEq, Repr

end Wayfinder.Log
