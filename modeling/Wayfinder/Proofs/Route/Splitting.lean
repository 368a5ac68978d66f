import Wayfinder.Proofs.Route.Join
import Wayfinder.Route.Router
/-!
# Slashes at the end of a path

A path is the list of its segments: to write segments and to split what was written are inverse, and one slash more at
the end changes nothing, neither in the segments nor in what is found.
-/

namespace Wayfinder.Route

open Http (Method)
open Text.Percent (IsEncoding)

variable {σ η : Type}

/-- Segments of which the last is not empty are found in every path that is written from escaped forms of them, also
with a slash behind it. So a path that does not end in a slash has with a slash behind it the same lookup, in every
table and for every method. -/
theorem trailing_slash_is_ignored :
    (∀ segments escaped, List.Forall₂ IsEncoding segments escaped → segments.getLast? ≠ some "" →
      let path := "/" ++ "/".intercalate escaped
      Path.split path = segments ∧ Path.split (path ++ "/") = segments) ∧
    (∀ segments, segments.getLast? ≠ some "" →
      Path.split (Path.join segments) = segments ∧
        Path.split (Path.join segments ++ "/") = segments) ∧
    ∀ (r : Router σ η) (method : Method) (path : String), path.toList.getLast? ≠ some '/' →
      r.lookup method (path ++ "/") = r.lookup method path := by
  refine ⟨fun segments escaped h hlast => ?_, fun segments hlast => ?_, fun r method path hlast => ?_⟩
  · exact ⟨Path.split_of_isEncoding h hlast, Path.split_append_slash_of_isEncoding h hlast⟩
  · have h := Path.forall₂_isEncoding segments
    exact ⟨Path.split_join hlast, Path.split_append_slash_of_isEncoding h hlast⟩
  · have hsplit : Path.split (path ++ "/") = Path.split path :=
      Path.split_append_slash (Path.getLast?_dropLeadingSlash hlast)
    rw [Router.lookup, Router.lookup, hsplit]

example : Path.split "/a%2fb//%25+/" = ["a/b", "", "%+"] := by decide +kernel

end Wayfinder.Route
