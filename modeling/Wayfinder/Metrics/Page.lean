import Wayfinder.Metrics.Meter
import Wayfinder.Number.Shortest
/-!
# The metrics page

A meter in the text format that scrapers read: comments, and one line for each counter. Labels are quoted, with
escapes for quotes, backslashes and line breaks, so that no label can break out of its line.
-/

namespace Wayfinder.Metrics

/-- The same text with every `c` written as `written`. -/
def replaceChar (c : Char) (written text : List Char) : List Char :=
  text.flatMap fun d => if d = c then written else [d]

/-- The written form of a label. Backslashes are doubled first, since the other escapes bring backslashes of their
own. -/
def escapeLabel (label : String) : String :=
  let doubled := replaceChar '\\' ['\\', '\\'] label.toList
  let quoted := replaceChar '"' ['\\', '"'] doubled
  String.ofList (replaceChar '\n' ['\\', 'n'] quoted)

/-- A label with its value, in braces. -/
def labelled (label value : String) : String := "\x7b" ++ label ++ "=\"" ++ value ++ "\"\x7d"

namespace Meter

/-- The line of one class of statuses. -/
def classLine (m : Meter) (digit : Nat) : String :=
  "trellis_responses_total" ++ labelled "class" (toString digit ++ "xx") ++ " " ++
    toString (m.classCount digit)

def patternLine (entry : String × Nat) : String :=
  "trellis_route_requests_total" ++ labelled "pattern" (escapeLabel entry.1) ++ " " ++
    toString entry.2

def lines (m : Meter) : List String :=
  ["# HELP trellis_requests_total Total number of handled requests",
    "# TYPE trellis_requests_total counter",
    "trellis_requests_total " ++ toString m.requests,
    "# HELP trellis_request_latency_seconds Average request latency in seconds",
    "# TYPE trellis_request_latency_seconds gauge",
    "trellis_request_latency_seconds " ++ m.meanLatency.seconds.toText,
    "# HELP trellis_responses_total Responses by status class",
    "# TYPE trellis_responses_total counter"] ++
  [1, 2, 3, 4, 5].map m.classLine ++
  ["# HELP trellis_route_requests_total Requests by matched route pattern",
    "# TYPE trellis_route_requests_total counter"] ++
  m.patterns.map patternLine ++
  ["# HELP trellis_coroutine_stack_bytes Configured coroutine stack size",
    "# TYPE trellis_coroutine_stack_bytes gauge",
    "trellis_coroutine_stack_bytes " ++ toString m.stackSize]

/-- The page: every line with its end. -/
def page (m : Meter) : String := String.join (m.lines.map (· ++ "\n"))

end Meter

end Wayfinder.Metrics
