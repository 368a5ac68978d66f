import Wayfinder.Text.Percent
/-!
# Request paths

A path is the list of its decoded segments. One leading and one trailing slash carry no segment, so `/`
has none, and a decoded segment may itself hold a slash.
-/

namespace Wayfinder.Route.Path

/-- Drops one slash in front. -/
def dropLeadingSlash : List Char → List Char
  | '/' :: cs => cs
  | cs => cs

/-- Drops one slash at the end. -/
def dropTrailingSlash (cs : List Char) : List Char := (dropLeadingSlash cs.reverse).reverse

/-- The decoded segments of a path. -/
def split (path : String) : List String :=
  match dropTrailingSlash (dropLeadingSlash path.toList) with
  | [] => []
  | cs => (cs.splitOn '/').map fun piece => Text.Percent.decode (String.ofList piece)

/-- The path with the given segments, each escaped. -/
def join (segments : List String) : String :=
  "/" ++ "/".intercalate (segments.map Text.Percent.encode)

end Wayfinder.Route.Path
