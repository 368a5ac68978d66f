import Wayfinder.Http.Method
import Wayfinder.Text.Bytes
import Wayfinder.Text.Trim
/-!
# Header fields

Names are tokens in lower case. Values are bytes without control characters other than the tab. A list of fields keeps
the names in the order in which they came first, with all values of a name together.
-/

namespace Wayfinder.Http

structure HeaderName where
  text : String
  valid : text ≠ "" ∧ text.toList.all (fun c => isTokenChar c && c.toLower == c) = true
  deriving DecidableEq

namespace HeaderName

/-- Names have at most this many characters. -/
def maxLength : Nat := 65535

/-- The name that a text spells in any case. -/
def ofString? (s : String) : Option HeaderName :=
  let text := Text.asciiLower s
  if s.length ≤ maxLength then
    if h : text ≠ "" ∧ text.toList.all (fun c => isTokenChar c && c.toLower == c) = true then
      some ⟨text, h⟩
    else none
  else none

def allow : HeaderName := ⟨"allow", by decide⟩
def authorization : HeaderName := ⟨"authorization", by decide⟩
def contentLength : HeaderName := ⟨"content-length", by decide⟩
def contentType : HeaderName := ⟨"content-type", by decide⟩
def cookie : HeaderName := ⟨"cookie", by decide⟩
def date : HeaderName := ⟨"date", by decide⟩
def requestId : HeaderName := ⟨"x-request-id", by decide⟩
def server : HeaderName := ⟨"server", by decide⟩

end HeaderName

/-- Bytes that values may hold. -/
def isValueByte (b : UInt8) : Bool := (0x20 ≤ b && b != 0x7f) || b == 0x09

/-- Bytes that show as text: visible ASCII, the blank and the tab. -/
def isTextByte (b : UInt8) : Bool := (0x20 ≤ b && b ≤ 0x7e) || b == 0x09

structure HeaderValue where
  bytes : Bytes
  valid : bytes.all isValueByte = true
  deriving DecidableEq

namespace HeaderValue

def ofBytes? (bytes : Bytes) : Option HeaderValue :=
  if h : bytes.all isValueByte = true then some ⟨bytes, h⟩ else none

def ofString? (s : String) : Option HeaderValue := ofBytes? (Text.encode s)

/-- The value of a text, without the bytes that no value may hold. -/
def ofText (s : String) : HeaderValue :=
  ⟨(Text.encode s).filter isValueByte, by simp [List.all_eq_true]⟩

/-- The value as text, if all its bytes show as text. -/
def text? (v : HeaderValue) : Option String :=
  if v.bytes.all isTextByte then some (String.ofList (v.bytes.map fun b => Char.ofNat b.toNat)) else none

end HeaderValue

/-- One line: a name and one of its values. -/
abbrev Header := HeaderName × HeaderValue

/-- Header lines, those of one name together. -/
structure Headers where
  toList : List Header := []

namespace Headers

def insertInto (name : HeaderName) (value : HeaderValue) : List Header → List Header
  | [] => [(name, value)]
  | h :: rest =>
    if h.1 = name then (name, value) :: rest.filter (fun h => h.1 ≠ name)
    else h :: insertInto name value rest

def appendInto (name : HeaderName) (value : HeaderValue) : List Header → List Header
  | [] => [(name, value)]
  | h :: rest =>
    if h.1 = name ∧ ¬ rest.any (fun h => h.1 = name) then h :: (name, value) :: rest
    else h :: appendInto name value rest

/-- Makes a value the only one of its name, at the place of the first one. -/
def insert (hs : Headers) (name : HeaderName) (value : HeaderValue) : Headers :=
  ⟨insertInto name value hs.toList⟩

/-- Adds a value behind those of the same name. -/
def append (hs : Headers) (name : HeaderName) (value : HeaderValue) : Headers :=
  ⟨appendInto name value hs.toList⟩

/-- Drops all values of a name. The last name that came moves to their place. -/
def remove (hs : Headers) (name : HeaderName) : Headers :=
  let before := hs.toList.takeWhile fun h => h.1 ≠ name
  let behind := (hs.toList.dropWhile fun h => h.1 ≠ name).filter fun h => h.1 ≠ name
  match behind.getLast? with
  | none => ⟨before⟩
  | some last =>
    ⟨before ++ behind.filter (fun h => h.1 = last.1) ++ behind.filter fun h => h.1 ≠ last.1⟩

def ofList (lines : List Header) : Headers := lines.foldl (fun hs h => hs.append h.1 h.2) {}

/-- All values of a name in order. -/
def getAll (hs : Headers) (name : HeaderName) : List HeaderValue :=
  (hs.toList.filter fun h => h.1 = name).map Prod.snd

/-- The first value of a name. -/
def get? (hs : Headers) (name : HeaderName) : Option HeaderValue := (hs.getAll name).head?

def contains (hs : Headers) (name : HeaderName) : Bool := (hs.get? name).isSome

/-- The first value of a name as text, if it shows as text. -/
def text? (hs : Headers) (name : HeaderName) : Option String := hs.get? name >>= HeaderValue.text?

/-- The same for a name in any case; what is no name has no value. -/
def lookup? (hs : Headers) (name : String) : Option String := HeaderName.ofString? name >>= hs.text?

def size (hs : Headers) : Nat := hs.toList.length

end Headers

end Wayfinder.Http
