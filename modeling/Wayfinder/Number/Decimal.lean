import Wayfinder.Number.Double
/-!
# Decimal texts

Reads the decimal text of a floating-point number and rounds it once.
-/

namespace Wayfinder.Number

/-- The value of a list of decimal digits. -/
def digitsValue (digits : List Char) : Nat :=
  digits.foldl (fun n c => 10 * n + (c.toNat - '0'.toNat)) 0

/-- The number that a text of decimal digits denotes, nothing for any other text. -/
def natural? (digits : List Char) : Option Nat :=
  if digits ≠ [] ∧ digits.all Char.isDigit then some (digitsValue digits) else none

/-- The number that a text of hexadecimal digits of either case denotes. -/
def hexadecimal? (digits : List Char) : Option Nat :=
  let value : Char → Option Nat := fun c =>
    if c.isDigit then some (c.toNat - '0'.toNat)
    else if 'a' ≤ c ∧ c ≤ 'f' then some (c.toNat - 'a'.toNat + 10)
    else if 'A' ≤ c ∧ c ≤ 'F' then some (c.toNat - 'A'.toNat + 10)
    else none
  if digits = [] then none
  else (digits.mapM value).map fun ds => ds.foldl (fun n d => 16 * n + d) 0

/-- A text of digits after at most one `+`, below a limit. -/
def bounded? (read : List Char → Option Nat) (limit : Nat) (text : List Char) : Option Nat :=
  let digits := match text with
    | '+' :: rest => rest
    | rest => rest
  (read digits).filter (· < limit)

namespace Double

/-- The number nearest to `coefficient * 10 ^ exponent`. Exponents at which every coefficient of `digits` digits
overflows or vanishes are not computed with. -/
def ofDecimal (negative : Bool) (coefficient digits : Nat) (exponent : Int) : Double :=
  let place := exponent + digits
  if coefficient = 0 ∨ place < -400 then finite negative 0 0
  else if 400 < place then infinite negative
  else ofRatio negative (coefficient * Nat.pow 10 exponent.toNat) (Nat.pow 10 (-exponent).toNat)

/-- The exponent after a mantissa: nothing, or `e` or `E`, a sign and digits. -/
def readExponent? : List Char → Option Int
  | [] => some 0
  | c :: rest =>
    if c ≠ 'e' ∧ c ≠ 'E' then none
    else match rest with
      | '-' :: ds => (natural? ds).map fun n => -(n : Int)
      | '+' :: ds => (natural? ds).map Int.ofNat
      | ds => (natural? ds).map Int.ofNat

/-- A text without its sign: digits with at most one point among them and at least one digit, then an exponent; or a
word for infinity or for what is not a number, in any case. -/
def readMagnitude? (negative : Bool) (text : List Char) : Option Double :=
  let word := text.map Char.toLower
  if word = "inf".toList ∨ word = "infinity".toList then some (infinite negative)
  else if word = "nan".toList then some (nan negative)
  else
    let (whole, rest) := text.span Char.isDigit
    let (fraction, rest) := match rest with
      | '.' :: rest => rest.span Char.isDigit
      | rest => ([], rest)
    let digits := (whole ++ fraction).dropWhile (· == '0')
    if whole = [] ∧ fraction = [] then none
    else (readExponent? rest).map fun e =>
      ofDecimal negative (digitsValue digits) digits.length (e - fraction.length)

/-- The number that a text denotes. -/
def read? (text : String) : Option Double :=
  match text.toList with
  | '-' :: rest => readMagnitude? true rest
  | '+' :: rest => readMagnitude? false rest
  | rest => readMagnitude? false rest

end Double

end Wayfinder.Number
