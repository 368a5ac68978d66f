import Wayfinder.Http.Response
import Wayfinder.Log.Event
/-!
# Responses on the wire

The transport is handed a status, header lines and a body. It frames the body itself, with lines of its own, and
carries a limited number of further lines; what does not fit, or is no text, is dropped and logged.
-/

namespace Wayfinder.Wire

open Http (Header HeaderName Response)

/-- Lines that were handed to the transport before, each with what was handed over for it. -/
structure LineTable where
  entries : List (String × String) := []
  valid : ∀ e ∈ entries, e.2 = e.1 := by simp

namespace LineTable

/-- Tables hold at most this many lines. -/
def maxLines : Nat := 4096

/-- What to hand over for a line. A new line is kept while the table holds fewer than `limit`. -/
def intern (t : LineTable) (limit : Nat) (line : String) : String × LineTable :=
  match t.entries.lookup line with
  | some kept => (kept, t)
  | none =>
    if limit ≤ t.entries.length then (line, t)
    else (line, { entries := (line, line) :: t.entries, valid := by simpa using t.valid })

/-- What to hand over for several lines in order. -/
def internAll (t : LineTable) (limit : Nat) : List String → List String × LineTable
  | [] => ([], t)
  | line :: rest =>
    let (kept, t) := t.intern limit line
    let (others, t) := t.internAll limit rest
    (kept :: others, t)

end LineTable

/-- What the transport is handed. -/
structure Reply where
  code : Nat
  phrase : String
  lines : List String
  body : Bytes

namespace Reply

/-- The transport carries at most this many lines besides its own. -/
def maxLines : Nat := 14

/-- Whether the transport writes a header itself. -/
def isFraming (name : HeaderName) : Bool :=
  name = .contentLength || name = .date || name = .server

/-- The same text with its first letter made large. -/
def capitalize : List Char → List Char
  | [] => []
  | c :: rest => c.toUpper :: rest

/-- The name with a capital at the start of each part between dashes. -/
def canonicalName (name : String) : String :=
  String.ofList (['-'].intercalate ((name.toList.splitOn '-').map capitalize))

def line (name : HeaderName) (value : String) : String := canonicalName name.text ++ ": " ++ value

def overflowEvent (name : HeaderName) : Log.Event where
  level := .warn
  message := "Response header limit reached; header dropped"
  fields := [("header", name.text), ("limit", toString maxLines)]

def notTextEvent (name : HeaderName) : Log.Event where
  level := .warn
  message := "Non-ASCII header value dropped"
  fields := [("header", name.text)]

/-- The lines of some headers when `room` more of them fit, and the events of those that are dropped. -/
def layOut (room : Nat) : List Header → List String × List Log.Event
  | [] => ([], [])
  | (name, value) :: rest =>
    if isFraming name then layOut room rest
    else if room = 0 then
      let (lines, events) := layOut room rest
      (lines, overflowEvent name :: events)
    else match value.text? with
      | none =>
        let (lines, events) := layOut room rest
        (lines, notTextEvent name :: events)
      | some text =>
        let (lines, events) := layOut (room - 1) rest
        (line name text :: lines, events)

/-- The header lines that carry a response, the events of the headers that are dropped, and the table afterwards. -/
def headerLines (table : LineTable) (limit : Nat) (r : Response) :
    List String × List Log.Event × LineTable :=
  let (lines, events) := layOut maxLines r.headers.toList
  let (lines, table) := table.internAll limit lines
  (lines, events, table)

/-- The reply that carries a response, the events of the headers that are dropped, and the table afterwards. -/
def ofResponse (table : LineTable) (r : Response) : Reply × List Log.Event × LineTable :=
  let (lines, events, table) := headerLines table LineTable.maxLines r
  ({ code := r.status.code, phrase := r.status.reason?.getD "Unknown", lines, body := r.body }, events, table)

end Reply

end Wayfinder.Wire
