import Wayfinder.Unicode.CharSet
/-!
# Characters as bytes

Automata read bytes. The encodings of a range of characters are those of some sequences of byte ranges,
in ascending order: a sequence stands for every choice of one byte from each of its ranges.
-/

namespace Wayfinder.Regex

open Unicode (CharSet)

/-- An inclusive range of bytes. -/
structure ByteRange where
  low : Nat
  high : Nat
  deriving Repr, DecidableEq

abbrev ByteSequence := List ByteRange

namespace ByteSequence

/-- The bytes that encode a code point. -/
def encode (n : Nat) : List Nat :=
  if n < 0x80 then [n]
  else if n < 0x800 then [0xc0 + n / 64, 0x80 + n % 64]
  else if n < 0x10000 then [0xe0 + n / 4096, 0x80 + n / 64 % 64, 0x80 + n % 64]
  else [0xf0 + n / 262144, 0x80 + n / 4096 % 64, 0x80 + n / 64 % 64, 0x80 + n % 64]

/-- Cuts a range behind a code point. -/
def cutBehind (bound : Nat) (r : Nat × Nat) : List (Nat × Nat) :=
  if r.1 ≤ bound ∧ bound < r.2 then [(r.1, bound), (bound + 1, r.2)] else [r]

/-- The part of a range that is made of whole blocks of a size, and what is left of it on both sides. A
range within one block stays as it is. -/
def cutBlocks (size : Nat) (r : Nat × Nat) : List (Nat × Nat) :=
  if r.1 / size = r.2 / size then [r]
  else
    let start := (r.1 + size - 1) / size * size
    let stop := (r.2 + 1) / size * size
    [(r.1, start - 1), (start, stop - 1), (stop, r.2)].filter fun r => r.1 ≤ r.2 && 0 < r.2

/-- The sequences of a range of characters. Surrogates have no encoding. Within one sequence all
encodings have one length, and every byte behind the first that varies takes all values. -/
def ofRange (r : Nat × Nat) : List ByteSequence :=
  let parts := [(r.1, Nat.min r.2 0xd7ff), (Nat.max r.1 0xe000, r.2)].filter fun r => r.1 ≤ r.2
  let parts := [0x7f, 0x7ff, 0xffff].foldl (fun parts bound => parts.flatMap (cutBehind bound)) parts
  parts.flatMap fun r =>
    if r.2 < 0x80 then [[⟨r.1, r.2⟩]]
    else
      let blocks := [64, 4096, 262144].foldl (fun blocks size => blocks.flatMap (cutBlocks size)) [r]
      blocks.map fun b => List.zipWith ByteRange.mk (encode b.1) (encode b.2)

def ofSet (s : CharSet) : List ByteSequence := s.ranges.flatMap ofRange

end ByteSequence

end Wayfinder.Regex
