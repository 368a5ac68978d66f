import Wayfinder.Http.Response
import Wayfinder.Log.Event
/-!
# The response under construction

Status, headers and body gather in a writer until it is flushed once. A status that a stage has set is committed; one
that the dispatcher proposes is not.
-/

namespace Wayfinder.Context

open Http (Header HeaderName HeaderValue Headers Response Status)

structure Writer where
  status : Status := .ok
  isCommitted : Bool := false
  headers : Headers := {}
  body : Bytes := []
  isFlushed : Bool := false

namespace Writer

/-- The line that a name and a value spell, or the warning about what is wrong with them. -/
def readLine (name value : String) : Except Log.Event Header :=
  match HeaderName.ofString? name, HeaderValue.ofString? value with
  | none, _ => .error ⟨.warn, "Invalid header name ignored",
      [("header", name), ("error", "invalid HTTP header name")]⟩
  | some _, none => .error ⟨.warn, "Invalid header value ignored",
      [("header", name), ("error", "failed to parse header value")]⟩
  | some n, some v => .ok (n, v)

/-- Sets and commits the status. -/
def setStatus (w : Writer) (s : Status) : Writer :=
  if w.isFlushed then w else { w with status := s, isCommitted := true }

/-- Proposes a status without committing it. -/
def proposeStatus (w : Writer) (s : Status) : Writer := { w with status := s }

def insertLine (w : Writer) (h : Header) : Writer :=
  if w.isFlushed then w else { w with headers := w.headers.insert h.1 h.2 }

def appendLine (w : Writer) (h : Header) : Writer :=
  if w.isFlushed then w else { w with headers := w.headers.append h.1 h.2 }

/-- Sets the content type unless there is one. -/
def proposeType (w : Writer) (type : String) : Writer :=
  if w.headers.contains .contentType then w
  else { w with headers := w.headers.insert .contentType (.ofText type) }

def write (w : Writer) (bytes : Bytes) : Writer :=
  if w.isFlushed then w else { w with body := w.body ++ bytes }

/-- Drops headers and body in favour of a plain text, and proposes a status. -/
def reset (w : Writer) (s : Status) (message : String) : Writer :=
  { w with
    status := s
    headers := Headers.insert {} .contentType (.ofText Http.ContentType.text)
    body := Text.encode message }

/-- Drops headers and body in favour of a plain text, and commits a status. -/
def fail (w : Writer) (s : Status) (message : String) : Writer := (w.reset s message).setStatus s

def header? (w : Writer) (name : String) : Option String := w.headers.lookup? name

/-- The response, the first time it is asked for. -/
def finish? (w : Writer) : Option Response :=
  if w.isFlushed then none else some { status := w.status, headers := w.headers, body := w.body }

end Writer

end Wayfinder.Context
