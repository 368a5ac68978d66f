import Wayfinder.Number.Double
/-!
# Durations

Lengths of time in nanoseconds, and their texts.
-/

namespace Wayfinder.Number

abbrev Duration := Nat

namespace Duration

def ofMilliseconds (n : Nat) : Duration := n * 1000000

/-- The digits of `n` after a point, of `places` digits, without zeros at the end; no point when none is left. -/
def fractionText (n places : Nat) : String :=
  let digits := Nat.toDigits 10 n
  let padded := List.replicate (places - digits.length) '0' ++ digits
  let kept := (padded.reverse.dropWhile (· == '0')).reverse
  if kept = [] then "" else String.ofList ('.' :: kept)

/-- The duration in the largest unit of which it holds at least one. -/
def describe (d : Duration) : String :=
  if 1000000000 ≤ d then toString (d / 1000000000) ++ fractionText (d % 1000000000) 9 ++ "s"
  else if 1000000 ≤ d then toString (d / 1000000) ++ fractionText (d % 1000000) 6 ++ "ms"
  else if 1000 ≤ d then toString (d / 1000) ++ fractionText (d % 1000) 3 ++ "µs"
  else toString d ++ "ns"

/-- The duration as a floating-point number of seconds. Whole seconds and the fraction are brought together last, so
the sum need not be the number nearest to the duration. -/
def seconds (d : Duration) : Double :=
  (Double.ofNat (d / 1000000000)).add ((Double.ofNat (d % 1000000000)).div (Double.ofNat 1000000000))

end Duration

end Wayfinder.Number
