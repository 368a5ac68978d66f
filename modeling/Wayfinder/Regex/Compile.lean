import Wayfinder.Regex.Draft
import Wayfinder.Regex.Meaning
import Wayfinder.Regex.Term.Reader
/-!
# From texts to expressions

`Regex.compile?` takes the text of a regular expression to the expression it denotes.
-/

namespace Wayfinder.Regex

/-- The expression of a text, unless the text is malformed or meaningless. -/
def read? (source : String) : Option Expr := do (← Term.read? source.toList).meaning?

/-- The expression of a text, unless the text is malformed, meaningless or too large. -/
def compile? (source : String) : Option Expr := do
  let e ← read? source
  if e.shape.fits then some e else none

end Wayfinder.Regex
