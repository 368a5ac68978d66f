/-!
# Sets of characters

A set of characters is kept as ascending inclusive ranges of code points. Sets are closed under union,
complement, intersection and difference, and membership is decided range by range.
-/

namespace Wayfinder.Unicode

/-- A set of code points as inclusive ranges. -/
structure CharSet where
  ranges : List (Nat × Nat)
  deriving Repr, DecidableEq

namespace CharSet

/-- The largest code point. -/
def top : Nat := 0x10ffff

def empty : CharSet := ⟨[]⟩

def full : CharSet := ⟨[(0, 0xd7ff), (0xe000, top)]⟩

/-- Whether a code point lies in one of the ranges. -/
def has (s : CharSet) (n : Nat) : Bool := s.ranges.any fun r => r.1 ≤ n && n ≤ r.2

def contains (s : CharSet) (c : Char) : Bool := s.has c.toNat

/-- Joins neighbours that overlap or touch in a list that ascends by lower ends. -/
def coalesce : Nat × Nat → List (Nat × Nat) → List (Nat × Nat)
  | r, [] => [r]
  | r, q :: rest =>
    if q.1 ≤ r.2 + 1 then coalesce (r.1, max r.2 q.2) rest else r :: coalesce q rest

/-- The set of the code points of any ranges, in any order. -/
def ofRanges (rs : List (Nat × Nat)) : CharSet :=
  match (rs.filter fun r => r.1 ≤ r.2).mergeSort (fun a b => a.1 ≤ b.1) with
  | [] => empty
  | r :: rest => ⟨coalesce r rest⟩

/-- The set of some code points, in any order. -/
def ofNats (ns : List Nat) : CharSet := ofRanges (ns.map fun n => (n, n))

def single (c : Char) : CharSet := ⟨[(c.toNat, c.toNat)]⟩

def unions (ss : List CharSet) : CharSet := ofRanges (ss.flatMap ranges)

def union (s t : CharSet) : CharSet := unions [s, t]

instance : Union CharSet := ⟨union⟩

/-- The gaps between ascending ranges, from `start` up to `last`. -/
def gaps (last : Nat) : Nat → List (Nat × Nat) → List (Nat × Nat)
  | start, [] => if start ≤ last then [(start, last)] else []
  | start, r :: rest =>
    if start < r.1 then (start, r.1 - 1) :: gaps last (r.2 + 1) rest
    else gaps last (max start (r.2 + 1)) rest

/-- Everything outside the set. Surrogates are no characters, so they never count as outside. -/
def compl (s : CharSet) : CharSet :=
  ⟨gaps top 0 (ofRanges ((0xd800, 0xdfff) :: s.ranges)).ranges⟩

/-- Everything outside the set below 256. -/
def byteCompl (s : CharSet) : CharSet := ⟨gaps 0xff 0 s.ranges⟩

def inter (s t : CharSet) : CharSet := (s.compl ∪ t.compl).compl

instance : Inter CharSet := ⟨inter⟩

def diff (s t : CharSet) : CharSet := (s.compl ∪ t).compl

instance : SDiff CharSet := ⟨diff⟩

def symmDiff (s t : CharSet) : CharSet := (s \ t) ∪ (t \ s)

/-- Whether the set lies below 128. -/
def isAscii (s : CharSet) : Bool := s.ranges.all fun r => r.2 < 0x80

end CharSet

end Wayfinder.Unicode
