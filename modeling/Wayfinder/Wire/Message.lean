import Wayfinder.Http.Request
import Wayfinder.Number.Decimal
/-!
# Requests on the wire

A message is a request line, header lines, an empty line, and a body as long as the headers say. Lines end with a line
feed, which a carriage return may precede. What deviates from this form is no message.
-/

namespace Wayfinder.Wire

open Http (Header HeaderName HeaderValue Headers Method Request UriError Uri Version)

structure Message where
  method : Method
  /-- The target, which need not be well formed. -/
  target : String
  version : Version
  headers : List Header
  /-- What follows the empty line. -/
  rest : Bytes

namespace Message

/-- Messages have at most this many header lines. -/
def maxHeaders : Nat := 16

/-- A blank or a tab. -/
def isGap (b : UInt8) : Bool := b == 0x20 || b == 0x09

/-- Bytes of targets. -/
def isTargetByte (b : UInt8) : Bool := 0x21 ≤ b && b != 0x7f

/-- The first line without its end, and what follows it. -/
def readLine? (bytes : Bytes) : Option (Bytes × Bytes) :=
  match bytes.span (· != 0x0a) with
  | (line, _ :: rest) => some (if line.getLast? = some 0x0d then line.dropLast else line, rest)
  | (_, []) => none

def skipEmptyLines : Bytes → Bytes
  | 0x0a :: rest => skipEmptyLines rest
  | 0x0d :: 0x0a :: rest => skipEmptyLines rest
  | bytes => bytes

/-- The parts of a request line: a method, a target and a version, with one blank between two of them. -/
def readRequestLine? (line : Bytes) : Option (Method × String × Version) := do
  let [method, target, version] := line.splitOn 0x20 | none
  let method ← Text.decode? method >>= Method.ofToken?
  let target ← if target ≠ [] ∧ target.all isTargetByte then Text.decode? target else none
  let version ←
    if version = Text.encode Version.http11.token then some Version.http11
    else if version = Text.encode Version.http10.token then some Version.http10
    else none
  return (method, target, version)

/-- A header line: a name, a colon, and a value with gaps around it. -/
def readHeader? (line : Bytes) : Option Header := do
  match line.span (· != 0x3a) with
  | (name, _ :: value) =>
    let name ← Text.decode? name >>= HeaderName.ofString?
    let value ← HeaderValue.ofBytes? (Text.stripList isGap value)
    return (name, value)
  | (_, []) => none

/-- Reads at most `room` header lines and the empty line behind them. -/
def readHeaders? (room : Nat) (bytes : Bytes) : Option (List Header × Bytes) := do
  let (line, rest) ← readLine? bytes
  if line = [] then return ([], rest)
  else match room with
    | 0 => none
    | room + 1 =>
      let header ← readHeader? line
      let (headers, rest) ← readHeaders? room rest
      return (header :: headers, rest)

/-- The message at the front of some bytes. -/
def read? (bytes : Bytes) : Option Message := do
  let (line, rest) ← readLine? (skipEmptyLines bytes)
  let (method, target, version) ← readRequestLine? line
  let (headers, rest) ← readHeaders? maxHeaders rest
  return { method, target, version, headers, rest }

/-- The length of the body, by the first header that states one. Without such a header there is no body. -/
def bodyLength? (m : Message) : Option Nat :=
  match m.headers.find? fun h => h.1 = .contentLength with
  | none => some 0
  | some (_, value) =>
    value.text?.bind fun text => Number.bounded? Number.natural? (Nat.pow 2 64) text.toList

/-- Why a message is no request. -/
inductive Fault
  | target (cause : UriError)
  /-- The length of the body is no number. -/
  | length
  deriving Repr, DecidableEq

/-- The request of a message. The target is looked at first. -/
def request (m : Message) : Except Fault Request := do
  let uri ← (Uri.parse m.target).mapError .target
  let some length := m.bodyLength? | .error .length
  return {
    method := m.method, uri, version := m.version
    headers := Headers.ofList m.headers, body := m.rest.take length }

end Message

end Wayfinder.Wire
