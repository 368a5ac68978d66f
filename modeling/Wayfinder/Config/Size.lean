import Wayfinder.Number.Decimal
import Wayfinder.Text.Trim
/-!
# Sizes

Numbers below `2 ^ 64`, in decimal or, after `0x`, in hexadecimal.
-/

namespace Wayfinder.Config

/-- Sizes are below this number. -/
def wordLimit : Nat := Nat.pow 2 64

/-- The number that the digits of a trimmed text denote. -/
def word? (text : String) : Option Nat :=
  Number.bounded? Number.natural? wordLimit (Text.trim text).toList

/-- The size that a text denotes, whatever blanks stand around it. -/
def parseSize (text : String) : Option Nat :=
  match (Text.trim text).toList with
  | '0' :: 'x' :: digits => Number.bounded? Number.hexadecimal? wordLimit digits
  | '0' :: 'X' :: digits => Number.bounded? Number.hexadecimal? wordLimit digits
  | digits => Number.bounded? Number.natural? wordLimit digits

end Wayfinder.Config
