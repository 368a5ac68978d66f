import Wayfinder.Number.Decimal
/-!
# Peer addresses

The address and port of a peer: four octets, or eight groups of 16 bits with an optional zone. Groups are read in the
usual short forms and written in the shortest one.
-/

namespace Wayfinder.Http

inductive PeerAddress
  | v4 (octets : List Nat) (port : Nat)
  | v6 (groups : List Nat) (zone port : Nat)
  deriving Repr, DecidableEq

namespace PeerAddress

/-- Digits that a predicate accepts at the start of a text, at most `limit` of them. -/
def takeDigits (isDigit : Char → Bool) (limit : Nat) (s : List Char) : List Char × List Char :=
  let digits := (s.take limit).takeWhile isDigit
  (digits, s.drop digits.length)

def isHexDigit (c : Char) : Bool := c.isDigit || ('a' ≤ c && c ≤ 'f') || ('A' ≤ c && c ≤ 'F')

/-- Reads an octet, which has no needless zeros in front. -/
def readOctet (s : List Char) : Option (Nat × List Char) :=
  match takeDigits Char.isDigit 3 s with
  | ('0' :: _ :: _, _) => none
  | (digits, rest) => do
    let n ← Number.natural? digits
    if n < 256 then some (n, rest) else none

/-- Reads `count` octets with dots between them. -/
def readOctets : (count : Nat) → List Char → Option (List Nat × List Char)
  | 0, s => some ([], s)
  | 1, s => do
    let (n, rest) ← readOctet s
    some ([n], rest)
  | count + 2, s => do
    let (n, rest) ← readOctet s
    match rest with
    | '.' :: rest =>
      let (ns, rest) ← readOctets (count + 1) rest
      some (n :: ns, rest)
    | _ => none

/-- Reads up to `limit` groups with colons between them. The last two may be written as four octets, which the answer
tells. -/
def readGroups : (limit : Nat) → (isFirst : Bool) → List Char → List Nat × Bool × List Char
  | 0, _, s => ([], false, s)
  | limit + 1, isFirst, s =>
    let start := if isFirst then some s else match s with
      | ':' :: rest => some rest
      | _ => none
    match start with
    | none => ([], false, s)
    | some inside =>
      match if limit = 0 then none else readOctets 4 inside with
      | some ([a, b, c, d], rest) => ([a * 256 + b, c * 256 + d], true, rest)
      | _ =>
        match takeDigits isHexDigit 4 inside with
        | ([], _) => ([], false, s)
        | (digits, rest) =>
          let (groups, octets, rest) := readGroups limit false rest
          ((Number.hexadecimal? digits).getD 0 :: groups, octets, rest)

/-- Reads eight groups, of which a double colon stands for as many zeros as are missing. -/
def readAddress6 (s : List Char) : Option (List Nat × List Char) :=
  let (head, octets, rest) := readGroups 8 true s
  if head.length = 8 then some (head, rest)
  else if octets then none
  else match rest with
    | ':' :: ':' :: rest =>
      let (tail, _, rest) := readGroups (7 - head.length) true rest
      some (head ++ List.replicate (8 - head.length - tail.length) 0 ++ tail, rest)
    | _ => none

/-- The port that ends a text. -/
def readPort (s : List Char) : Option Nat :=
  match s with
  | ':' :: digits => (Number.natural? digits).filter (· < 65536)
  | _ => none

/-- The zone behind a percent sign, zero if there is none. -/
def readZone (s : List Char) : Option (Nat × List Char) :=
  match s with
  | '%' :: rest => do
    let (digits, rest) := rest.span Char.isDigit
    let n ← (Number.natural? digits).filter (· < Nat.pow 2 32)
    some (n, rest)
  | s => some (0, s)

def read? (s : String) : Option PeerAddress :=
  match s.toList with
  | '[' :: rest => do
    let (groups, rest) ← readAddress6 rest
    let (zone, rest) ← readZone rest
    match rest with
    | ']' :: rest => return v6 groups zone (← readPort rest)
    | _ => none
  | cs => do
    let (octets, rest) ← readOctets 4 cs
    return v4 octets (← readPort rest)

def octetText (octets : List Nat) : String := ".".intercalate (octets.map toString)

def groupText (groups : List Nat) : String :=
  ":".intercalate (groups.map fun g => String.ofList (Nat.toDigits 16 g))

/-- How many zeros a list begins with. -/
def leadingZeros (groups : List Nat) : Nat := (groups.takeWhile (· == 0)).length

/-- The first of the longest runs of zeros, as its place and length. -/
def longestZeros (groups : List Nat) : Nat × Nat :=
  (List.range groups.length).foldl (fun best i =>
    let n := leadingZeros (groups.drop i)
    if best.2 < n then (i, n) else best) (0, 0)

/-- The shortest form of eight groups. -/
def address6Text (groups : List Nat) : String :=
  match groups with
  | [0, 0, 0, 0, 0, 0xffff, a, b] => "::ffff:" ++ octetText [a / 256, a % 256, b / 256, b % 256]
  | groups =>
    let (place, n) := longestZeros groups
    if 1 < n then groupText (groups.take place) ++ "::" ++ groupText (groups.drop (place + n))
    else groupText groups

def toText : PeerAddress → String
  | v4 octets port => octetText octets ++ ":" ++ toString port
  | v6 groups zone port =>
    "[" ++ address6Text groups ++ (if zone = 0 then "" else "%" ++ toString zone) ++ "]:" ++
      toString port

end PeerAddress

end Wayfinder.Http
