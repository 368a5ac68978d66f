/-!
# Floating-point numbers

Binary numbers of 64 bits as exact values: sign, significand and exponent. A ratio of natural numbers is
rounded to the nearest such number, of two equally near ones to the one with an even significand; sums, products
and quotients are rounded once.
-/

namespace Wayfinder.Number

/-- The quotient rounded to nearest, halves to even. -/
def roundedQuotient (num den : Nat) : Nat :=
  let q := num / den
  let twice := 2 * (num % den)
  if den < twice ∨ (twice = den ∧ q % 2 = 1) then q + 1 else q

/-- Not a number, an infinity, or the number `significand * 2 ^ (exponent - 1074)`. -/
inductive Double
  | nan (negative : Bool)
  | infinite (negative : Bool)
  | finite (negative : Bool) (significand exponent : Nat)
  deriving Repr, DecidableEq

namespace Double

def negative : Double → Bool
  | nan s | infinite s | finite s _ _ => s

def negate : Double → Double
  | nan s => nan !s
  | infinite s => infinite !s
  | finite s m e => finite (!s) m e

/-- The magnitude of a finite number in units of `2 ^ (-1074)`. -/
def units (significand exponent : Nat) : Nat := significand * Nat.pow 2 exponent

/-- The number itself in the same units. -/
def signedUnits (negative : Bool) (significand exponent : Nat) : Int :=
  if negative then -(units significand exponent : Int) else units significand exponent

/-- The number nearest to a ratio. The significand has 53 bits unless the exponent is the least one. -/
def ofRatio (negative : Bool) (num den : Nat) : Double :=
  let scaled := num * Nat.pow 2 1074
  let e := (scaled / den).log2 - 52
  let m := roundedQuotient scaled (den * Nat.pow 2 e)
  let (m, e) := if m = Nat.pow 2 53 then (Nat.pow 2 52, e + 1) else (m, e)
  if e ≤ 2045 then finite negative m e else infinite negative

def ofNat (n : Nat) : Double := ofRatio false n 1

def zero : Double := finite false 0 0

def one : Double := finite false (Nat.pow 2 52) 1022

def isZero : Double → Bool
  | finite _ m _ => m == 0
  | _ => false

def isFinite : Double → Bool
  | finite _ _ _ => true
  | _ => false

/-- Nothing is the sum of two opposite infinities. A sum of zero is negative only if both summands are. -/
def add : Double → Double → Double
  | nan s, _ => nan s
  | _, nan s => nan s
  | infinite s, y => if y.isFinite || y.negative == s then infinite s else nan false
  | _, infinite s => infinite s
  | finite s m e, finite t n f =>
    let sum := signedUnits s m e + signedUnits t n f
    ofRatio (if sum = 0 then s && t else decide (sum < 0)) sum.natAbs (Nat.pow 2 1074)

def mul : Double → Double → Double
  | nan s, _ => nan s
  | _, nan s => nan s
  | infinite s, y => if y.isZero then nan false else infinite (s != y.negative)
  | x, infinite s => if x.isZero then nan false else infinite (x.negative != s)
  | finite s m e, finite t n f => ofRatio (s != t) (units m e * units n f) (Nat.pow 2 2148)

def div : Double → Double → Double
  | nan s, _ => nan s
  | _, nan s => nan s
  | infinite s, y => if y.isFinite then infinite (s != y.negative) else nan false
  | x, infinite s => finite (x.negative != s) 0 0
  | finite s m e, finite t n f =>
    if n = 0 then if m = 0 then nan false else infinite (s != t)
    else ofRatio (s != t) (units m e) (units n f)

/-- The order of numbers; nothing is below or above what is not a number. -/
def lt : Double → Double → Bool
  | nan _, _ => false
  | _, nan _ => false
  | infinite s, infinite t => s && !t
  | infinite s, finite _ _ _ => s
  | finite _ _ _, infinite t => !t
  | finite s m e, finite t n f => signedUnits s m e < signedUnits t n f

/-- The number pulled into the unit interval. What is not a number stays, and so does a negative zero. -/
def clampUnit (x : Double) : Double :=
  if x.lt zero then zero else if one.lt x then one else x

/-- The largest integer that is not above a finite number. -/
def floor? : Double → Option Int
  | finite s m e => some (signedUnits s m e / Nat.pow 2 1074)
  | _ => none

/-- The 64 bits: sign, biased exponent and fraction. -/
def toBits (x : Double) : Nat :=
  let sign := if x.negative then Nat.pow 2 63 else 0
  sign + match x with
    | nan _ => 0x7ff * Nat.pow 2 52 + Nat.pow 2 51
    | infinite _ => 0x7ff * Nat.pow 2 52
    | finite _ m e => if m < Nat.pow 2 52 then m else e * Nat.pow 2 52 + m

end Double

end Wayfinder.Number
