import Wayfinder.Number.Duration
/-!
# Metrics

A meter counts passes of requests in all, by the first digit of their status, and by the pattern of their route.
-/

namespace Wayfinder.Metrics

/-- Counts by label, in the order of the labels. -/
abbrev Counts := List (String × Nat)

namespace Counts

/-- Counts a label once more. -/
def bump (label : String) : Counts → Counts
  | [] => [(label, 1)]
  | e :: rest =>
    if label < e.1 then (label, 1) :: e :: rest
    else if label = e.1 then (label, e.2 + 1) :: rest
    else e :: bump label rest

def get (cs : Counts) (label : String) : Nat := (cs.lookup label).getD 0

end Counts

structure Meter where
  requests : Nat := 0
  /-- The time of all passes together. -/
  latency : Number.Duration := 0
  /-- Passes by the first digit of their status, from 1 to 5. -/
  classes : Vector Nat 5 := .replicate 5 0
  patterns : Counts := []
  /-- The stack size that the last pass saw. -/
  stackSize : Nat := 0
  deriving DecidableEq

namespace Meter

/-- The label of requests without a route. It is no pattern, as it has no slash in front. -/
def unmatched : String := "<unmatched>"

/-- The place of a first digit among the counters. -/
def classIndex? (digit : Nat) : Option (Fin 5) :=
  if h : 1 ≤ digit ∧ digit ≤ 5 then some ⟨digit - 1, by omega⟩ else none

/-- Counts one pass. -/
def record (m : Meter) (digit : Nat) (pattern : Option String) (latency : Number.Duration)
    (stackSize : Nat) : Meter where
  requests := m.requests + 1
  latency := m.latency + latency
  classes := match classIndex? digit with
    | some i => m.classes.set i (m.classes[i] + 1)
    | none => m.classes
  patterns := m.patterns.bump (pattern.getD unmatched)
  stackSize := stackSize

def classCount (m : Meter) (digit : Nat) : Nat :=
  match classIndex? digit with
  | some i => m.classes[i]
  | none => 0

def patternCount (m : Meter) (pattern : String) : Nat := m.patterns.get pattern

/-- The mean time of a pass, zero before the first. -/
def meanLatency (m : Meter) : Number.Duration := m.latency / m.requests

end Meter

/-- Meters by name. A name that was never used has an empty meter. -/
structure Meters where
  entries : List (String × Meter) := []

namespace Meters

def get (ms : Meters) (name : String) : Meter := (ms.entries.lookup name).getD {}

def set (ms : Meters) (name : String) (m : Meter) : Meters :=
  ⟨(name, m) :: ms.entries.filter fun e => e.1 ≠ name⟩

def modify (ms : Meters) (name : String) (f : Meter → Meter) : Meters := ms.set name (f (ms.get name))

end Meters

end Wayfinder.Metrics
