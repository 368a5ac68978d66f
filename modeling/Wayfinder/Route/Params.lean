/-!
# Path parameters

What a path bound: names with values from left to right.
-/

namespace Wayfinder.Route

/-- Bound names and their values in the order of the pattern. -/
abbrev Params := List (String × String)

namespace Params

/-- The name under which a wildcard binds the rest of the path. -/
def wildcardName : String := "*"

/-- The value of a name; of equal names the last one counts. -/
def get? (ps : Params) (name : String) : Option String :=
  (ps.findRev? fun p => p.1 == name).map Prod.snd

/-- The rest of the path that a wildcard bound. -/
def wildcard? (ps : Params) : Option String := ps.get? wildcardName

def contains (ps : Params) (name : String) : Bool := (ps.get? name).isSome

end Params

end Wayfinder.Route
