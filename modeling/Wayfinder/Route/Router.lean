import Wayfinder.Http.Method
import Wayfinder.Route.Trie
/-!
# The routing table

One trie for each method. A lookup finds a route of the request's method, or else the methods under which
the same path has one.
-/

namespace Wayfinder.Route

open Http (Method Verb)

/-- A registered handler of type `η` with its own stages of type `σ`, outermost first. -/
structure HandledRoute (σ η : Type) where
  verb : Verb
  pattern : Pattern
  handler : η
  stages : List σ := []

namespace HandledRoute

variable {σ η : Type}

def addStage (r : HandledRoute σ η) (stage : σ) : HandledRoute σ η := { r with stages := r.stages ++ [stage] }

def describe (r : HandledRoute σ η) : String :=
  "Route \x7b method: " ++ r.verb.token ++ ", pattern: " ++ Text.quote r.pattern.raw ++
    ", middlewares: " ++ toString r.stages.length ++ " \x7d"

/-- The route as a line of the table. -/
def line (r : HandledRoute σ η) : String :=
  "[route] " ++ r.verb.token ++ " " ++ r.pattern.raw ++ " (middlewares: " ++
    toString r.stages.length ++ ")"

end HandledRoute

/-- What a lookup answers. -/
inductive Lookup (σ η : Type)
  | found (route : HandledRoute σ η) (params : Params)
  | methodNotAllowed (allowed : List Verb)
  | notFound

def Lookup.isFound {σ η : Type} : Lookup σ η → Bool
  | .found _ _ => true
  | _ => false

/-- A trie for each method that can have routes. -/
structure Router (σ η : Type) where
  trie : Verb → Trie (HandledRoute σ η) := fun _ => {}

namespace Router

variable {σ η : Type}

/-- Replaces the trie of one method. -/
def setTrie (r : Router σ η) (verb : Verb) (t : Trie (HandledRoute σ η)) : Router σ η :=
  ⟨fun v => if v = verb then t else r.trie v⟩

/-- Registers a handler with its stages: the route or the error, and the table as the call leaves it. -/
def register (r : Router σ η) (method : Method) (pattern : String) (handler : η) (stages : List σ) :
    Except RouteError (HandledRoute σ η) × Router σ η :=
  match method.verb? with
  | none => (.error (.unsupportedMethod method.token), r)
  | some verb => match Pattern.parse pattern with
    | .error e => (.error e, r)
    | .ok p =>
      let route : HandledRoute σ η := { verb, pattern := p, handler, stages }
      match (r.trie verb).insertInPlace p route with
      | (t, none) => (.ok route, r.setTrie verb t)
      | (t, some e) => (.error (e.underMethod method.token), r.setTrie verb t)

/-- The route registered under a pattern with the same segments. -/
def route? (r : Router σ η) (method : Method) (pattern : String) : Option (HandledRoute σ η) :=
  match method.verb?, Pattern.parse pattern with
  | some verb, .ok p => (r.trie verb).get? p
  | _, _ => none

/-- Changes the route registered under a pattern with the same segments. -/
def modifyRoute (r : Router σ η) (method : Method) (pattern : String)
    (f : HandledRoute σ η → HandledRoute σ η) : Router σ η :=
  match method.verb?, Pattern.parse pattern with
  | some verb, .ok p => r.setTrie verb ((r.trie verb).modify p f)
  | _, _ => r

/-- The other methods that have a route for a path. -/
def allowed (r : Router σ η) (method : Method) (path : List String) : List Verb :=
  Verb.all.filter fun v => v.token != method.token && (r.trie v).matchesPath path

/-- The route of a method for the segments of a path. -/
def lookupSegments (r : Router σ η) (method : Method) (path : List String) : Lookup σ η :=
  match method.verb?.bind fun verb => (r.trie verb).lookup path with
  | some hit => .found hit.entry.value hit.params
  | none => match r.allowed method path with
    | [] => .notFound
    | verbs => .methodNotAllowed verbs

/-- The route of a method for a path. -/
def lookup (r : Router σ η) (method : Method) (path : String) : Lookup σ η :=
  r.lookupSegments method (Path.split path)

/-- All routes, grouped by method and in order of precedence. -/
def routes (r : Router σ η) : List (HandledRoute σ η) :=
  Verb.all.flatMap fun v => (r.trie v).entries.map Entry.value

def size (r : Router σ η) : Nat := Verb.all.foldr (fun v n => (r.trie v).size + n) 0

/-- The table as text, one line for each route. -/
def dump (r : Router σ η) : String := String.join (r.routes.map fun route => route.line ++ "\n")

/-- One line on what a request would meet. -/
def describeMatch (r : Router σ η) (method : Method) (path : String) : String :=
  match r.lookup method path with
  | .found route params =>
    "200 " ++ method.token ++ " " ++ path ++ " -> " ++ route.pattern.raw ++ " [" ++
      " ".intercalate (params.map fun p => p.1 ++ "=" ++ p.2) ++ "] middlewares=" ++
      toString route.stages.length
  | .methodNotAllowed verbs =>
    "405 " ++ method.token ++ " " ++ path ++ " (Allow: " ++
      ", ".intercalate (verbs.map Verb.token) ++ ")"
  | .notFound => "404 " ++ method.token ++ " " ++ path

end Router

end Wayfinder.Route
