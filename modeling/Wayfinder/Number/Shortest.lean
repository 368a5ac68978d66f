import Wayfinder.Number.Double
/-!
# Shortest decimals

The decimal of fewest digits that rounds to a given floating-point number; of several, the one nearest to the
number. Two can be equally near: JSON then takes the one whose last digit is even, plain text the greater one.
-/

namespace Wayfinder.Number

/-- The number `coefficient * 10 ^ exponent`. -/
structure Decimal where
  coefficient : Nat
  exponent : Int
  deriving Repr, DecidableEq

/-- How many decimal digits a number has; zero has none. -/
def digitCount (n : Nat) : Nat := if n = 0 then 0 else (Nat.toDigits 10 n).length

/-- The exponent of the largest power of ten that is not above a positive ratio. -/
def decimalExponent (num den : Nat) : Int :=
  if den ≤ num then digitCount (num / den) - 1 else -(digitCount ((den - 1) / num) : Int)

/-- Which one is taken of two decimals that are equally near to a number. -/
inductive Ties
  | toEven
  | upward
  deriving DecidableEq

namespace Decimal

/-- Drops up to `n` zeros from the end of the coefficient. -/
def dropZeros : Nat → Decimal → Decimal
  | 0, d => d
  | n + 1, d =>
    if d.coefficient % 10 = 0 then dropZeros n ⟨d.coefficient / 10, d.exponent + 1⟩ else d

/-- A decimal with `digits` digits that rounds to the positive number `m * 2 ^ (e - 1074)`. Quarters of the
gap between neighbouring numbers are whole here: the number is `4 * m`, and halfway to its neighbours are `low` and
`high`, which round to it themselves when `m` is even. -/
def ofDigits? (ties : Ties) (m e digits : Nat) : Option Decimal :=
  let k := decimalExponent (m * Nat.pow 2 e) (Nat.pow 2 1074) - (digits - 1 : Nat)
  let grow := Nat.pow 2 e * Nat.pow 10 (-k).toNat
  let unit := Nat.pow 2 1076 * Nat.pow 10 k.toNat
  let exact := 4 * m * grow
  let low := (if m = Nat.pow 2 52 ∧ 0 < e then 4 * m - 1 else 4 * m - 2) * grow
  let high := (4 * m + 2) * grow
  let rounds := fun c : Nat =>
    if m % 2 = 0 then low ≤ c * unit ∧ c * unit ≤ high else low < c * unit ∧ c * unit < high
  let below := exact / unit
  let above := below + 1
  let gapBelow := exact - below * unit
  let gapAbove := above * unit - exact
  let belowIsNearer := gapBelow < gapAbove ∨ (gapBelow = gapAbove ∧ ties = .toEven ∧ below % 2 = 0)
  if rounds below ∧ (¬ rounds above ∨ belowIsNearer) then some ⟨below, k⟩
  else if rounds above then some ⟨above, k⟩
  else none

/-- The shortest decimal of a positive number. Seventeen digits always suffice. -/
def shortest (ties : Ties) (m e : Nat) : Decimal :=
  match (List.range 17).findSome? fun n => ofDigits? ties m e (n + 1) with
  | some d => d.dropZeros (digitCount d.coefficient)
  | none => ⟨m, 0⟩

/-- The digits with as many zeros as their places take, and a point where a fraction follows. -/
def positional (d : Decimal) : String :=
  let digits := Nat.toDigits 10 d.coefficient
  let whole : Int := digits.length + d.exponent
  if 0 ≤ d.exponent then String.ofList (digits ++ List.replicate d.exponent.toNat '0')
  else if 0 < whole then
    String.ofList (digits.take whole.toNat ++ '.' :: digits.drop whole.toNat)
  else String.ofList ('0' :: '.' :: List.replicate (-whole).toNat '0' ++ digits)

end Decimal

/-- A number as plain text, which never has an exponent. -/
def Double.toText : Double → String
  | nan _ => "NaN"
  | infinite negative => if negative then "-inf" else "inf"
  | finite negative m e =>
    let magnitude := if m = 0 then "0" else (Decimal.shortest .upward m e).positional
    if negative then "-" ++ magnitude else magnitude

end Wayfinder.Number
