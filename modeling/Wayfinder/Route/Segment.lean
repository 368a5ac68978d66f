import Wayfinder.Route.Params
import Wayfinder.Route.Restriction
import Wayfinder.Text.Quoted
/-!
# Pattern segments

One position of a pattern: a literal text, a parameter, a parameter restricted by a regular expression,
or a wildcard for the rest of the path. `Segment.step?` says what a segment takes off a path.
-/

namespace Wayfinder.Route

inductive Segment
  | literal (text : String)
  | param (name : String)
  | regex (name : String) (restriction : Restriction)
  | wildcard
  deriving DecidableEq

namespace Segment

/-- The name that the segment binds one path segment to. -/
def name? : Segment → Option String
  | param name | regex name _ => some name
  | literal _ | wildcard => none

/-- The name that the segment binds, with the name of the wildcard. -/
def bound? : Segment → Option String
  | wildcard => some Params.wildcardName
  | s => s.name?

def isWildcard : Segment → Bool
  | wildcard => true
  | _ => false

/-- What the segment binds and what it leaves of a path, if it fits. A parameter takes one non-empty
segment, a wildcard takes the whole rest, even an empty one. -/
def step? : Segment → List String → Option (Params × List String)
  | literal text, s :: rest => if s = text then some ([], rest) else none
  | param name, s :: rest => if s = "" then none else some ([(name, s)], rest)
  | regex name restriction, s :: rest => if restriction.isMatch s then some ([(name, s)], rest) else none
  | wildcard, path => some ([(Params.wildcardName, "/".intercalate path)], [])
  | _, [] => none

/-- The segment as it is written in a pattern. -/
def text : Segment → String
  | literal text => text
  | param name => ":" ++ name
  | regex name restriction => ":" ++ name ++ "(" ++ restriction.source ++ ")"
  | wildcard => "*"

def describe : Segment → String
  | literal text => "Static(" ++ Text.quote text ++ ")"
  | param name => "Param(" ++ name ++ ")"
  | regex name restriction =>
    "Regex(" ++ name ++ ", " ++ Text.quote restriction.source ++ ")"
  | wildcard => "Wildcard"

/-- Whether two segments take the same place below a node: they match the same path segments, though
they may bind them to different names. -/
def sameSlot : Segment → Segment → Bool
  | literal a, literal b => a == b
  | param _, param _ => true
  | regex _ a, regex _ b => a.source == b.source
  | wildcard, wildcard => true
  | _, _ => false

/-- The kinds in order of precedence. -/
def rank : Segment → Nat
  | literal _ => 0
  | regex _ _ => 1
  | param _ => 2
  | wildcard => 3

/-- Whether a new segment goes in front of one that is in place. Literals are kept in order of their
text, regular expressions in order of arrival. -/
def precedes : Segment → Segment → Bool
  | literal a, literal b => a < b
  | a, b => a.rank < b.rank

end Segment

end Wayfinder.Route
