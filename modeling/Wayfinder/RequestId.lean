import Wayfinder.Http.Header
import Wayfinder.Json.Value
/-!
# Request ids

An id is a number of 128 bits. Its text has 26 digits to base 32, most significant first, in an alphabet without `I`,
`L`, `O` and `U`, so the texts of ids are ordered as the ids are.
-/

namespace Wayfinder

structure RequestId where
  value : BitVec 128
  deriving DecidableEq, Repr

namespace RequestId

/-- The digits to base 32 in order of their value. -/
def alphabet : List Char := "0123456789ABCDEFGHJKMNPQRSTVWXYZ".toList

def digit (n : Nat) : Char := alphabet.getD (n % 32) '0'

/-- The value of a digit in either case. -/
def digitValue? (c : Char) : Option Nat := alphabet.idxOf? c.toUpper

/-- The last `k` digits of a number to base 32. -/
def digits : (k n : Nat) → List Char
  | 0, _ => []
  | k + 1, n => digits k (n / 32) ++ [digit n]

def toText (id : RequestId) : String := String.ofList (digits 26 id.value.toNat)

/-- Why a text is no id. -/
inductive TextError
  | invalidLength
  | invalidCharacter
  deriving Repr, DecidableEq

def TextError.message : TextError → String
  | invalidLength => "invalid length"
  | invalidCharacter => "invalid character"

/-- The id with the given digits. The two bits for which 128 bits have no room are lost. -/
def ofDigits (ds : List Nat) : RequestId := ⟨BitVec.ofNat 128 (ds.foldl (fun n d => n * 32 + d) 0)⟩

def parse (s : String) : Except TextError RequestId :=
  if s.utf8ByteSize ≠ 26 then .error .invalidLength
  else match s.toList.mapM digitValue? with
    | some ds => .ok (ofDigits ds)
    | none => .error .invalidCharacter

/-- The id in a header value, or else a fresh one. -/
def ofHeaderOr (fresh : RequestId) (value : Option String) : RequestId :=
  match value with
  | some s => match parse (Text.trim s) with
    | .ok id => id
    | .error _ => fresh
  | none => fresh

/-- The id in the headers of a request, or else a fresh one. -/
def ofHeadersOr (fresh : RequestId) (headers : Http.Headers) : RequestId :=
  ofHeaderOr fresh (headers.text? .requestId)

def toJson (id : RequestId) : Json.Value := .string id.toText

/-- The id that a JSON value holds as text. -/
def ofJson? : Json.Value → Option RequestId
  | .string s => (parse s).toOption
  | _ => none

def describe (id : RequestId) : String := "RequestId(Ulid(" ++ toString id.value.toNat ++ "))"

end RequestId

end Wayfinder
