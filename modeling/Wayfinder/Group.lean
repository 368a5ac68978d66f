import Wayfinder.Table
/-!
# Groups

Routes below a common path, with the stages that the group has when they are registered.
-/

namespace Wayfinder

open Http (Method)
open Route (RouteError)

structure Group where
  path : String
  stages : List Stage := []

namespace Group

/-- The path of something inside a path. Slashes at the end of the outer path do not count, and an inner path that is
empty or a slash is the outer path itself. -/
def join (outer inner : String) : String :=
  let outer := String.ofList (Text.dropTrailing (· == '/') outer.toList)
  if inner = "" ∨ inner = "/" then if outer = "" then "/" else outer
  else if inner.toList.head? = some '/' then outer ++ inner
  else outer ++ "/" ++ inner

def atPath (path : String) : Group := { path := join "" path }

/-- A group inside a group. It has the stages that the outer one has so far. -/
def nest (g : Group) (path : String) : Group := { g with path := join g.path path }

/-- Adds stages for the routes that follow. -/
def use (g : Group) (stages : List Stage) : Group := { g with stages := g.stages ++ stages }

/-- Registers a handler inside the stages of the group and then its own. -/
def register (g : Group) (t : Table) (method : Method) (sub : String) (handler : Stage.Program)
    (stages : List Stage) : Except RouteError StagedRoute × Table :=
  t.register method (join g.path sub) handler (g.stages ++ stages)

end Group

end Wayfinder
