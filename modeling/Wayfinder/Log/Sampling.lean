import Wayfinder.Log.Event
import Wayfinder.Number.Double
import Wayfinder.Text.Trim
/-!
# Sampling

Severe events always pass. Of the others a sampler lets a share pass: the event that has `n` of them before it passes
when the whole part of `(n + 1) * rate` is greater than that of `n * rate`, both as floating-point products.
-/

namespace Wayfinder.Log

open Number (Double)

inductive SamplingMode
  | all
  | errorOnly
  | sampled
  deriving Repr, DecidableEq

namespace SamplingMode

/-- The mode that a text names in any case; every other text names the mode `all`. -/
def parse (s : String) : SamplingMode :=
  match Text.asciiLower s with
  | "error-only" | "error_only" => errorOnly
  | "sampled" => sampled
  | _ => all

def describe : SamplingMode → String
  | all => "All"
  | errorOnly => "ErrorOnly"
  | sampled => "Sampled"

end SamplingMode

structure Sampler where
  mode : SamplingMode
  rate : Double
  /-- How many events were counted. -/
  seen : Nat := 0

namespace Sampler

/-- A sampler with a rate pulled into the unit interval. -/
def ofRate (mode : SamplingMode) (rate : Double) : Sampler := { mode, rate := rate.clampUnit }

/-- The sum of two whole numbers as floating-point numbers. -/
def successor (n : Nat) : Double := .ofRatio false ((Double.ofNat n).floor?.getD 0 + 1).toNat 1

/-- Whether the event with `n` others before it is one of the share. -/
def keeps (rate : Double) (n : Nat) : Bool :=
  match ((successor n).mul rate).floor?, ((Double.ofNat n).mul rate).floor? with
  | some after, some before => before < after
  | _, _ => false

/-- Whether an event passes, and the sampler after it. -/
def offer (s : Sampler) (level : Level) : Bool × Sampler :=
  match s.mode with
  | .all => (true, s)
  | .errorOnly => (level.isSevere, s)
  | .sampled =>
    if level.isSevere then (true, s)
    else (keeps s.rate s.seen, { s with seen := (s.seen + 1) % Nat.pow 2 64 })

end Sampler

end Wayfinder.Log
