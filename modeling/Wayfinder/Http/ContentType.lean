import Wayfinder.Text.Trim
/-!
# Content types

The types that responses are marked with, and the type that the name of a file suggests.
-/

namespace Wayfinder.Http.ContentType

def text : String := "text/plain; charset=utf-8"
def html : String := "text/html; charset=utf-8"
def json : String := "application/json; charset=utf-8"
def exposition : String := "text/plain; version=0.0.4"
def form : String := "application/x-www-form-urlencoded"
def binary : String := "application/octet-stream"

/-- The last component of a path, unless it stands for a directory. Trailing slashes and `.` do not count. -/
def fileName? (path : String) : Option (List Char) :=
  let components := (path.toList.splitOn '/').filter fun c => c ≠ [] ∧ c ≠ ['.']
  components.getLast?.filter (· ≠ ['.', '.'])

/-- What follows the last dot of a file name, if something stands before that dot. -/
def extension? (path : String) : Option String := do
  let name ← fileName? path
  let extension := (name.reverse.takeWhile (· != '.')).reverse
  let stem := name.take (name.length - extension.length - 1)
  if extension.length < name.length ∧ stem ≠ [] then some (String.ofList extension) else none

def ofExtension : String → String
  | "html" | "htm" => html
  | "css" => "text/css; charset=utf-8"
  | "js" | "mjs" => "application/javascript"
  | "json" => json
  | "txt" => text
  | "svg" => "image/svg+xml"
  | "png" => "image/png"
  | "jpg" | "jpeg" => "image/jpeg"
  | "gif" => "image/gif"
  | "ico" => "image/x-icon"
  | "wasm" => "application/wasm"
  | _ => binary

/-- The type that the extension of a file suggests, in any case. -/
def ofPath (path : String) : String :=
  match extension? path with
  | some extension => ofExtension (Text.asciiLower extension)
  | none => binary

end Wayfinder.Http.ContentType
