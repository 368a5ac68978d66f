import Wayfinder.Route.Error
import Wayfinder.Route.Path
import Wayfinder.Route.Segment
/-!
# Patterns

A pattern is a `/` followed by segments between slashes: literal texts, `:name`, `:name(expression)`, and
a final `*`. One trailing slash is ignored. Slashes inside parentheses belong to the expression.
-/

namespace Wayfinder.Route

namespace Pattern

/-- Cuts at the slashes outside parentheses. The text since the last cut is kept in reverse. -/
def splitPieces : (depth : Nat) → (piece : List Char) → List Char →
    Except PatternFault (List (List Char))
  | 0, piece, [] => .ok [piece.reverse]
  | _ + 1, _, [] => .error .unbalancedOpen
  | depth, piece, '(' :: cs => splitPieces (depth + 1) ('(' :: piece) cs
  | 0, _, ')' :: _ => .error .unbalancedClose
  | depth + 1, piece, ')' :: cs => splitPieces depth (')' :: piece) cs
  | 0, piece, '/' :: cs => (splitPieces 0 [] cs).map (piece.reverse :: ·)
  | depth, piece, c :: cs => splitPieces depth (c :: piece) cs

def isNameStart (c : Char) : Bool := c.isAlpha || c == '_'

/-- Names of parameters: ASCII letters, digits and underscores, no digit in front. -/
def isName : List Char → Bool
  | [] => false
  | c :: cs => isNameStart c && cs.all fun c => isNameStart c || c.isDigit

/-- A parameter, given what stands behind its colon. -/
def readParam (piece rest : List Char) : Except PatternFault Segment := do
  let name := rest.takeWhile (· != '(')
  let checkName : Except PatternFault Unit :=
    if isName name then .ok () else .error (.invalidName (String.ofList name))
  match rest.dropWhile (· != '(') with
  | [] =>
    checkName
    return .param (String.ofList name)
  | _ :: inside =>
    match inside.getLast? with
    | some ')' =>
      checkName
      let source := String.ofList inside.dropLast
      if source = "" then .error .emptyExpression
      else match Restriction.ofSource? source with
        | some restriction => return .regex (String.ofList name) restriction
        | none => .error .invalidExpression
    | _ => .error (.unclosedExpression (String.ofList piece))

def readPiece (piece : List Char) : Except PatternFault Segment :=
  match piece with
  | [] => .error .emptySegment
  | ['*'] => .ok .wildcard
  | ':' :: rest => readParam piece rest
  | _ =>
    if piece.any fun c => c == '*' || c == ':' || c == '(' || c == ')' then
      .error (.unexpectedPiece (String.ofList piece))
    else .ok (.literal (String.ofList piece))

/-- The segments of all pieces of the pattern `raw`. -/
def readPieces (raw : String) : List (List Char) → Except RouteError (List Segment)
  | [] => .ok []
  | piece :: pieces => do
    let s ← (readPiece piece).mapError (.malformed raw)
    if s.isWildcard && !pieces.isEmpty then .error (.wildcardNotLast raw)
    else return s :: (← readPieces raw pieces)

/-- The first name that occurs a second time, given the names seen before. -/
def firstRepeated (seen : List String) : List String → Option String
  | [] => none
  | name :: names => if name ∈ seen then some name else firstRepeated (name :: seen) names

/-- The segments that the text of a pattern denotes. -/
def read (raw : String) : Except RouteError (List Segment) := do
  let fault (f : PatternFault) : Except RouteError (List Segment) := .error (.malformed raw f)
  match raw.toList with
  | '/' :: '/' :: _ => fault .emptySegment
  | '/' :: body =>
    let segments ← match Path.dropTrailingSlash body with
      | [] => .ok []
      | body => (splitPieces 0 [] body).mapError (.malformed raw) >>= readPieces raw
    match firstRepeated [] (segments.filterMap Segment.name?) with
    | some name => .error (.duplicateParam raw name name)
    | none => return segments
  | _ => fault .missingSlash

end Pattern

/-- A text that follows the grammar, with its segments. -/
structure Pattern where
  raw : String
  segments : List Segment
  read_raw : Pattern.read raw = .ok segments

namespace Pattern

theorem ext_raw {p q : Pattern} (h : p.raw = q.raw) : p = q := by
  obtain ⟨rp, sp, hp⟩ := p
  obtain ⟨rq, sq, hq⟩ := q
  cases h
  have hs : sp = sq := Except.ok.inj (hp.symm.trans hq)
  subst hs
  rfl

instance : DecidableEq Pattern := fun p q =>
  if h : p.raw = q.raw then .isTrue (ext_raw h) else .isFalse fun hpq => h (hpq ▸ rfl)

def parse (raw : String) : Except RouteError Pattern :=
  match h : read raw with
  | .ok segments => .ok ⟨raw, segments, h⟩
  | .error e => .error e

/-- All names that a match binds, in order. -/
def boundNames (p : Pattern) : List String := p.segments.filterMap Segment.bound?

def hasWildcard (p : Pattern) : Bool := p.segments.getLast?.any Segment.isWildcard

/-- What a list of segments binds on a path that it fits from end to end. -/
def bindAll : List Segment → List String → Option Params
  | [], [] => some []
  | [], _ :: _ => none
  | s :: rest, path => do
    let (bound, path) ← s.step? path
    return bound ++ (← bindAll rest path)

/-- What the pattern binds on a path, if it matches the path. -/
def bind? (p : Pattern) (path : List String) : Option Params := bindAll p.segments path

def matchesPath (p : Pattern) (path : List String) : Bool := (p.bind? path).isSome

/-- The pattern that is written from the segments. -/
def write (segments : List Segment) : String :=
  match segments with
  | [] => "/"
  | _ => String.join (segments.map fun s => "/" ++ s.text)

end Pattern

end Wayfinder.Route
