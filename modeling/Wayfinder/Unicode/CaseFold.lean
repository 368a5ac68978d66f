import Wayfinder.Unicode.CaseFoldTable
/-!
# Folding classes

Two characters fold together when they differ only in case. The classes with more than one member are
listed once here, each with all of its members.
-/

namespace Wayfinder.Unicode.CaseFold

/-- The pairs of one run of the table. -/
def pairsOfRun : Nat × Nat × Nat × Nat → List (List Nat)
  | (first, stride, length, distance) =>
    (List.range length).map fun i => [first + i * stride, first + i * stride + distance]

/-- Every folding class with two or more members. -/
def classes : List (List Nat) :=
  CaseFoldTable.pairRuns.flatMap pairsOfRun ++ CaseFoldTable.largeClasses

end Wayfinder.Unicode.CaseFold
