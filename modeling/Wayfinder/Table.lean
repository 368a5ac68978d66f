import Wayfinder.Route.Router
import Wayfinder.Stage.Chain
import Wayfinder.Stage.Registry
/-!
# Tables

What a server answers with: routes, stages, and the handlers for paths without a route and for paths that have routes
of other methods only.
-/

namespace Wayfinder

open Http (Method Verb)
open Route (RouteError Router)
open Stage (MethodFilter Placement Program Registry)

abbrev StagedRoute := Route.HandledRoute Stage Program

structure Table where
  router : Router Stage Program := {}
  registry : Registry := {}
  notFound : Program := Program.writeText "Not Found"
  methodNotAllowed : Program := Program.writeText "Method Not Allowed"

namespace Table

/-- Registers a handler inside stages of its own: the route or the error, and the table as the call leaves it. -/
def register (t : Table) (method : Method) (pattern : String) (handler : Program)
    (stages : List Stage) : Except RouteError StagedRoute × Table :=
  let (answer, router) := t.router.register method pattern handler stages
  (answer, { t with router })

/-- The table behind a call that was accepted. -/
def accepted : Except RouteError StagedRoute × Table → Except RouteError Table
  | (.ok _, t) => .ok t
  | (.error e, _) => .error e

def addGlobals (t : Table) (stages : List Stage) : Table :=
  { t with registry := t.registry.addGlobals stages }

def addFiltered (t : Table) (filter : MethodFilter) (pattern : String) (stages : List Stage) :
    Except RouteError Table := do
  return { t with registry := ← t.registry.addFiltered filter pattern stages }

def addScoped (t : Table) (method pattern : String) (stages : List Stage) :
    Except RouteError Table := do
  return { t with registry := ← t.registry.addScoped method pattern stages }

/-- The stages of a request, outermost first: those for all requests, those whose filter it passes, those of its
route. -/
def placements (t : Table) (method : Method) (path : List String) (route : Option StagedRoute) :
    List Placement :=
  t.registry.globalPlacements ++ t.registry.matching method path ++
    match route with
    | some r => Stage.place .route r.stages
    | none => []

/-- The stages that a request for a path would meet. -/
def placementsFor (t : Table) (method : Method) (path : String) : List Placement :=
  t.placements method (Route.Path.split path) <|
    match t.router.lookup method path with
    | .found route _ => some route
    | _ => none

def describe (t : Table) : String :=
  "RouteTable \x7b routes: " ++ toString t.router.size ++ ", middleware: " ++
    toString t.registry.size ++ " \x7d"

end Table

end Wayfinder
