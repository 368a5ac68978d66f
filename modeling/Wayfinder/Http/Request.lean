import Wayfinder.Http.ContentType
import Wayfinder.Http.Cookie
import Wayfinder.Http.PeerAddress
import Wayfinder.Http.Uri
import Wayfinder.Text.Form
/-!
# Requests
-/

namespace Wayfinder.Http

inductive Version
  | http10
  | http11
  deriving Repr, DecidableEq

def Version.token : Version → String
  | http10 => "HTTP/1.0"
  | http11 => "HTTP/1.1"

structure Request where
  method : Method
  uri : Uri
  version : Version := .http11
  headers : Headers := {}
  body : Bytes := []
  /-- The address of the peer, if it is known. -/
  remote : Option PeerAddress := none

namespace Request

def path (r : Request) : String := r.uri.path

/-- The pairs of the query in order. -/
def queryPairs (r : Request) : List (String × String) :=
  match r.uri.query with
  | some query => Text.Form.decode (Text.encode query)
  | none => []

def lastValue? (pairs : List (String × String)) (name : String) : Option String :=
  pairs.reverse.lookup name

def query? (r : Request) (name : String) : Option String := lastValue? r.queryPairs name

/-- Whether the body is a form, by its content type without parameters. -/
def hasForm (r : Request) : Bool :=
  match r.headers.text? .contentType with
  | some type =>
    Text.sameIgnoringCase (Text.trim (String.ofList (type.toList.takeWhile (· != ';'))))
      ContentType.form
  | none => false

/-- The value of a name in a posted form, or else in the query. -/
def form? (r : Request) (name : String) : Option String :=
  (if r.hasForm then lastValue? (Text.Form.decode r.body) name else none) <|> r.query? name

def cookie? (r : Request) (name : String) : Option String :=
  Cookie.find? (Cookie.ofHeaders r.headers) name

def header? (r : Request) (name : String) : Option String := r.headers.lookup? name

end Request

end Wayfinder.Http
