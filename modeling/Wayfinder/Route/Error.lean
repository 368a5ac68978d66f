/-!
# Registration errors

Why a pattern or a route is refused, and how each refusal is worded.
-/

namespace Wayfinder.Route

/-- What is wrong with the text of a pattern. -/
inductive PatternFault
  | missingSlash
  | emptySegment
  | unbalancedOpen
  | unbalancedClose
  | unclosedExpression (piece : String)
  | invalidName (name : String)
  | emptyExpression
  | invalidExpression
  | unexpectedPiece (piece : String)
  deriving Repr, DecidableEq

namespace PatternFault

def message : PatternFault → String
  | missingSlash => "pattern must start with '/'"
  | emptySegment => "empty segment"
  | unbalancedOpen => "unbalanced '('"
  | unbalancedClose => "unbalanced ')'"
  | unclosedExpression piece => "'" ++ piece ++ "' must end with ')'"
  | invalidName name => "invalid parameter name '" ++ name ++ "'"
  | emptyExpression => "empty regex"
  | invalidExpression => "invalid regex"
  | unexpectedPiece piece => "unexpected segment '" ++ piece ++ "'"

end PatternFault

/-- Why a registration fails. -/
inductive RouteError
  /-- The text of the pattern does not follow the grammar. -/
  | malformed (pattern : String) (fault : PatternFault)
  /-- The pattern ends where an earlier one ends; the method is that of the routing table, if any. -/
  | conflict (method : Option String) (existing attempted : String)
  /-- A place has a parameter of another name, or a pattern binds a name twice. -/
  | duplicateParam (pattern existing attempted : String)
  /-- Something follows a wildcard. -/
  | wildcardNotLast (pattern : String)
  /-- Routes exist for seven methods only. -/
  | unsupportedMethod (method : String)
  deriving Repr, DecidableEq

namespace RouteError

/-- The wording of a malformed pattern, for any wording of the fault. -/
def malformedMessage (pattern reason : String) : String :=
  "invalid route pattern '" ++ pattern ++ "': " ++ reason

def message : RouteError → String
  | malformed pattern fault => malformedMessage pattern fault.message
  | conflict none existing attempted =>
    "route conflict: '" ++ attempted ++ "' resolves to the same route as '" ++ existing ++ "'"
  | conflict (some method) existing attempted =>
    "route conflict: " ++ method ++ " '" ++ attempted ++ "' resolves to the same route as " ++
      method ++ " '" ++ existing ++ "'"
  | duplicateParam pattern existing attempted =>
    "duplicate parameter in '" ++ pattern ++ "': ':" ++ attempted ++ "' clashes with ':" ++
      existing ++ "' at the same position"
  | wildcardNotLast pattern =>
    "invalid route pattern '" ++ pattern ++ "': '*' must be the last segment"
  | unsupportedMethod method =>
    "unsupported method '" ++ method ++
      "': expected one of GET, POST, PUT, DELETE, PATCH, HEAD, OPTIONS"

/-- Names the method in a conflict. -/
def underMethod (method : String) : RouteError → RouteError
  | conflict _ existing attempted => conflict (some method) existing attempted
  | e => e

end RouteError

end Wayfinder.Route
