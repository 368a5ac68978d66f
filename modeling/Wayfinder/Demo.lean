import Wayfinder.Config.Basic
import Wayfinder.Group
import Wayfinder.Json.Reader
import Wayfinder.Metrics.Page
/-!
# The demonstration

A small application with most kinds of routes and stages.
-/

namespace Wayfinder

open Http (Verb)
open Route (RouteError)
open Stage (Program)

/-- A handler that shows the page of a meter. -/
def Metrics.endpoint (meter : String) : Program :=
  .act (.setHeader "content-type" Http.ContentType.exposition) <|
  .inspect fun x => Program.writeText (x.world.meters.get meter).page

namespace Demo

/-- The token of the administrator unless the environment names another one. -/
def defaultToken : String := "letmein"

/-- An object with one text. -/
def oneMember (key value : String) : Json.Value := .object [(key, .string value)]

def showUser : Program :=
  .inspect fun x => Program.writeJson (oneMember "id" ((x.params.get? "id").getD ""))

/-- Writes a JSON body back, or what is wrong with it. -/
def echo : Program :=
  .inspect fun x =>
    match Json.read x.request.body with
    | .ok v => Program.writeJson v
    | .error e =>
      .act (.setStatus 400) (Program.writeText ("invalid JSON: " ++ e.message x.request.body))

def search : Program :=
  .inspect fun x => Program.writeJson (oneMember "q" ((x.request.query? "q").getD ""))

def showAsset : Program :=
  .inspect fun x => Program.writeText ("static asset: " ++ x.params.wildcard?.getD "")

def showPrincipal : Program :=
  .inspect fun x =>
    Program.writeText <| match x.values.get? "principal" .principal with
      | some (.principal name) => name
      | _ => ""

def notFound : Program :=
  .inspect fun x =>
    Program.writeJson (.object [("error", .string "not found"), ("path", .string x.request.path)])

/-- Keeps a response from being stored. -/
def noStore : Stage := .custom "from_fn" (.act (.setHeader "cache-control" "no-store") (.next .done))

/-- The table, with the name of its meter and the token of the administrator. -/
def table (meter token : String) : Except RouteError Table := do
  let t : Table := { notFound }
  let t := t.addGlobals [.requestId, .tracing, .metrics meter]
  let t ← t.addScoped "*" "/api/*" [.deadline (.ofMilliseconds 2000)]
  let get := Verb.get.toMethod
  let t ← Table.accepted (t.register get "/health" (Program.writeText "ok") [])
  let t ← Table.accepted (t.register get "/metrics" (Metrics.endpoint meter) [])
  let t ← Table.accepted (t.register get "/api/users/:id" showUser [])
  let t ← Table.accepted
    (t.register get "/api/users/me" (Program.writeJson (oneMember "id" "me")) [noStore])
  let t ← Table.accepted (t.register Verb.post.toMethod "/api/echo" echo [])
  let t ← Table.accepted (t.register get "/api/search" search [])
  let t ← Table.accepted (t.register get "/static/*" showAsset [])
  let admin := (Group.atPath "/admin").use [.auth [(token, "admin")]]
  let t ← Table.accepted (admin.register t get "/whoami" showPrincipal [])
  Table.accepted (admin.register t get "/panic" (.panic (.text "demo panic")) [])

/-- The variable that names the token of the administrator. -/
def tokenVariable : String := "TRELLIS_DEMO_TOKEN"

/-- The table with the token that an environment names. -/
def ofEnvironment (meter : String) (env : Environment) : Except RouteError Table :=
  table meter ((env tokenVariable).getD defaultToken)

end Demo

end Wayfinder
