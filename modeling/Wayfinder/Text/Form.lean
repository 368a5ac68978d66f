import Wayfinder.Text.Percent
/-!
# Form data

The pairs of a query or of a posted form: parts between `&`, each cut at its first `=`, with `+` for a
blank and percent escapes. Ill-formed UTF-8 is replaced.
-/

namespace Wayfinder.Text.Form

/-- The text of one side of a pair. -/
def decodePart (bytes : Bytes) : String :=
  decodeLossy (Percent.unescape (bytes.map fun b => if b = 0x2b then 0x20 else b))

def decodePair (bytes : Bytes) : String × String :=
  match bytes.span (· != 0x3d) with
  | (name, value) => (decodePart name, decodePart (value.drop 1))

/-- All pairs in order. Empty parts are no pairs. -/
def decode (bytes : Bytes) : List (String × String) :=
  ((bytes.splitOn 0x26).filter (· ≠ [])).map decodePair

end Wayfinder.Text.Form
