import Wayfinder.Http.Header
/-!
# Cookies

Every `Cookie` line holds pairs between semicolons. A pair is cut at its first `=`; blanks around both sides and double
quotes around the value do not count.
-/

namespace Wayfinder.Http

abbrev Cookie := String × String

namespace Cookie

/-- The pair that a piece spells. A piece without `=` or without a name spells none. -/
def ofPiece? (piece : List Char) : Option Cookie := do
  let (name, value) ← Text.cutAt '=' (Text.trim (String.ofList piece))
  let name := Text.trim name
  if name = "" then none else some (name, Text.strip (· == '"') (Text.trim value))

/-- The pairs of one line. -/
def ofLine (line : String) : List Cookie := (line.toList.splitOn ';').filterMap ofPiece?

/-- The pairs of all `Cookie` lines in order. -/
def ofHeaders (hs : Headers) : List Cookie :=
  ((hs.getAll .cookie).filterMap HeaderValue.text?).flatMap ofLine

/-- The value of the first pair with a name. -/
def find? (cookies : List Cookie) (name : String) : Option String := cookies.lookup name

end Cookie

end Wayfinder.Http
