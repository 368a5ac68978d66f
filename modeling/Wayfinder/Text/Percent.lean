import Wayfinder.Text.Bytes
/-!
# Percent encoding

A byte may be written as `%` and two hexadecimal digits of either case. A `%` that no two digits follow
stands for itself.
-/

namespace Wayfinder.Text.Percent

/-- The value of a hexadecimal digit. -/
def digit? (b : UInt8) : Option UInt8 :=
  if 0x30 ≤ b ∧ b ≤ 0x39 then some (b - 0x30)
  else if 0x41 ≤ b ∧ b ≤ 0x46 then some (b - 0x41 + 10)
  else if 0x61 ≤ b ∧ b ≤ 0x66 then some (b - 0x61 + 10)
  else none

/-- Replaces every escape by the byte it stands for. -/
def unescape : Bytes → Bytes
  | 0x25 :: a :: b :: rest =>
    match digit? a, digit? b with
    | some high, some low => (high * 16 + low) :: unescape rest
    | _, _ => 0x25 :: unescape (a :: b :: rest)
  | b :: rest => b :: unescape rest
  | [] => []

/-- Bytes that need no escape: ASCII letters and digits, and `-`, `.`, `_`, `~`. -/
def isUnreserved (b : UInt8) : Bool :=
  (0x30 ≤ b && b ≤ 0x39) || (0x41 ≤ b && b ≤ 0x5a) || (0x61 ≤ b && b ≤ 0x7a) ||
    b == 0x2d || b == 0x2e || b == 0x5f || b == 0x7e

/-- A hexadecimal digit, capital. -/
def digit (n : UInt8) : UInt8 := if n < 10 then 0x30 + n else 0x41 + (n - 10)

def escapeByte (b : UInt8) : Bytes :=
  if isUnreserved b then [b] else [0x25, digit (b / 16), digit (b % 16)]

/-- Escapes every byte that needs it. -/
def escape (bytes : Bytes) : Bytes := bytes.flatMap escapeByte

/-- The text that an escaped text stands for; one that would not be UTF-8 stands for itself. -/
def decode (s : String) : String := (decode? (unescape (encode s))).getD s

/-- The escaped form of a text. -/
def encode (s : String) : String := decodeLossy (escape (Text.encode s))

end Wayfinder.Text.Percent
