import Wayfinder.Route.Trie
import Wayfinder.Http.Method
import Wayfinder.Stage.Basic
/-!
# Registered stages

Stages apply to all requests, or to those whose method and path pass a filter. Each scope keeps its stages in the order
in which they were added.
-/

namespace Wayfinder.Stage

open Http (Method)
open Route (Pattern RouteError Trie)

/-- The methods that a filter lets pass. -/
inductive MethodFilter
  | any
  | only (m : Method)
  deriving DecidableEq

namespace MethodFilter

/-- A star, or a method in any case. -/
def parse (raw : String) : Except RouteError MethodFilter :=
  if raw = "*" then .ok any
  else match Method.ofToken? (Text.asciiUpper raw) with
    | some m => .ok (only m)
    | none => .error (.unsupportedMethod raw)

def admits : MethodFilter → Method → Bool
  | any, _ => true
  | only m, n => m = n

def toText : MethodFilter → String
  | any => "*"
  | only m => m.token

end MethodFilter

/-- Which requests a stage applies to. -/
inductive Scope
  | global
  | pattern
  | route
  deriving Repr, DecidableEq

def Scope.token : Scope → String
  | global => "global"
  | pattern => "pattern"
  | route => "route"

/-- A stage with its scope and its place in that scope. -/
structure Placement where
  scope : Scope
  index : Nat
  stage : Stage

/-- Numbers the stages of a scope. -/
def place (scope : Scope) (stages : List Stage) : List Placement :=
  stages.zipIdx.map fun s => ⟨scope, s.2, s.1⟩

/-- A stage behind a filter. Paths are matched by a trie that has the pattern of the filter only. -/
structure Filtered where
  filter : MethodFilter
  pattern : Pattern
  matcher : Trie Unit
  insert_eq : ({} : Trie Unit).insert pattern () = .ok matcher
  stage : Stage

namespace Filtered

/-- Whether the stage applies to a method and the segments of a path. -/
def applies (s : Filtered) (method : Method) (path : List String) : Bool :=
  s.filter.admits method && s.matcher.matchesPath path

def filterText (s : Filtered) : String := s.filter.toText ++ " " ++ s.pattern.raw

end Filtered

structure Registry where
  globals : List Stage := []
  filtered : List Filtered := []

namespace Registry

def addGlobals (r : Registry) (stages : List Stage) : Registry :=
  { r with globals := r.globals ++ stages }

/-- Adds stages behind a filter. A pattern that cannot be read adds nothing. -/
def addFiltered (r : Registry) (filter : MethodFilter) (pattern : String) (stages : List Stage) :
    Except RouteError Registry := do
  let p ← Pattern.parse pattern
  match h : ({} : Trie Unit).insert p () with
  | .ok matcher =>
    return { r with filtered := r.filtered ++ stages.map fun stage => ⟨filter, p, matcher, h, stage⟩ }
  | .error e => .error e

/-- The same with a filter that is still to be read. -/
def addScoped (r : Registry) (method pattern : String) (stages : List Stage) :
    Except RouteError Registry := do
  r.addFiltered (← MethodFilter.parse method) pattern stages

def globalPlacements (r : Registry) : List Placement := place .global r.globals

/-- All filtered stages with their places. -/
def filteredPlacements (r : Registry) : List (Filtered × Placement) :=
  r.filtered.zipIdx.map fun s => (s.1, ⟨.pattern, s.2, s.1.stage⟩)

/-- The filtered stages that apply to a method and the segments of a path. -/
def matching (r : Registry) (method : Method) (path : List String) : List Placement :=
  (r.filteredPlacements.filter fun s => s.1.applies method path).map Prod.snd

def size (r : Registry) : Nat := r.globals.length + r.filtered.length

def describe (r : Registry) : String :=
  let entry (p : Placement) := "MiddlewareEntry \x7b scope: Global, index: " ++ toString p.index ++
    ", middleware: " ++ Text.quote p.stage.name ++ " \x7d"
  "MiddlewareRegistry \x7b global: [" ++ ", ".intercalate (r.globalPlacements.map entry) ++
    "], patterns: " ++ Text.quoteList (r.filtered.map Filtered.filterText) ++ " \x7d"

end Registry

end Wayfinder.Stage
