import Wayfinder.Json.Value
import Wayfinder.Number.Shortest
/-!
# Writing JSON

The compact form: no blanks, only necessary escapes, and the shortest decimals.
-/

namespace Wayfinder.Json

open Number (Double Decimal digitCount)

/-- A digit of a hexadecimal escape. -/
def hexDigit (n : Nat) : Char := (Nat.toDigits 16 n).headD '0'

/-- The written form of one character inside quotes. -/
def escapeChar (c : Char) : List Char :=
  match c with
  | '"' => ['\\', '"']
  | '\\' => ['\\', '\\']
  | '\x08' => ['\\', 'b']
  | '\t' => ['\\', 't']
  | '\n' => ['\\', 'n']
  | '\x0c' => ['\\', 'f']
  | '\r' => ['\\', 'r']
  | c =>
    if c.toNat < 0x20 then
      ['\\', 'u', '0', '0', hexDigit (c.toNat / 16), hexDigit (c.toNat % 16)]
    else [c]

def printString (s : String) : String :=
  String.ofList ('"' :: s.toList.flatMap escapeChar ++ ['"'])

/-- Decimals are written positionally when their first digit has a place from `10 ^ (-5)` to `10 ^ 15`, with at
least one digit after the point, and else with an exponent that shows its sign. -/
def printDecimal (d : Decimal) : String :=
  let digits := Nat.toDigits 10 d.coefficient
  let place : Int := digits.length - 1 + d.exponent
  if place < -5 ∨ 15 < place then
    let fraction := digits.tail
    let mantissa := digits.take 1 ++ if fraction = [] then [] else '.' :: fraction
    String.ofList mantissa ++ (if place < 0 then "e-" else "e+") ++ toString place.natAbs
  else if 0 ≤ d.exponent then d.positional ++ ".0"
  else d.positional

/-- What is not finite has no number and is written as nothing. -/
def printDouble : Double → String
  | .finite negative m e =>
    let magnitude := if m = 0 then "0.0" else printDecimal (Decimal.shortest .toEven m e)
    if negative then "-" ++ magnitude else magnitude
  | _ => "null"

namespace Value

mutual

def print : Value → String
  | null => "null"
  | bool b => if b then "true" else "false"
  | number (.integer n) => toString n
  | number (.real x) => printDouble x
  | string s => printString s
  | array elements => "[" ++ ",".intercalate (printElements elements) ++ "]"
  | object members => "\x7b" ++ ",".intercalate (printMembers members) ++ "\x7d"

def printElements : List Value → List String
  | [] => []
  | v :: rest => v.print :: printElements rest

def printMembers : List (String × Value) → List String
  | [] => []
  | (key, v) :: rest => (printString key ++ ":" ++ v.print) :: printMembers rest

end

end Value

end Wayfinder.Json
