import Wayfinder.Json.Value
/-!
# Reading JSON

A reader of strict JSON over bytes. A failure tells what is wrong and how many bytes were left at that place, from
which its line and column follow.
-/

namespace Wayfinder.Json

open Number (Double)

inductive Fault
  | endOfValue
  | endOfList
  | endOfObject
  | endOfString
  | colonExpected
  | elementEndExpected
  | memberEndExpected
  | wordExpected
  | valueExpected
  | invalidEscape
  | invalidNumber
  | numberOutOfRange
  | invalidCodePoint
  | controlCharacter
  | keyExpected
  | loneSurrogate
  | trailingComma
  | trailingCharacters
  | endOfEscape
  | tooDeep
  deriving Repr, DecidableEq

def Fault.message : Fault → String
  | endOfValue => "EOF while parsing a value"
  | endOfList => "EOF while parsing a list"
  | endOfObject => "EOF while parsing an object"
  | endOfString => "EOF while parsing a string"
  | colonExpected => "expected \x60:\x60"
  | elementEndExpected => "expected \x60,\x60 or \x60]\x60"
  | memberEndExpected => "expected \x60,\x60 or \x60\x7d\x60"
  | wordExpected => "expected ident"
  | valueExpected => "expected value"
  | invalidEscape => "invalid escape"
  | invalidNumber => "invalid number"
  | numberOutOfRange => "number out of range"
  | invalidCodePoint => "invalid unicode code point"
  | controlCharacter => "control character (\\u0000-\\u001F) found while parsing a string"
  | keyExpected => "key must be a string"
  | loneSurrogate => "lone leading surrogate in hex escape"
  | trailingComma => "trailing comma"
  | trailingCharacters => "trailing characters"
  | endOfEscape => "unexpected end of hex escape"
  | tooDeep => "recursion limit exceeded"

structure Failure where
  fault : Fault
  remaining : Nat
  deriving Repr, DecidableEq

/-- A failure after everything before `rest`. -/
def failAt {α : Type} (fault : Fault) (rest : Bytes) : Except Failure α := .error ⟨fault, rest.length⟩

/-- A failure that counts the first byte of `rest`, if there is one. -/
def failPast {α : Type} (fault : Fault) (rest : Bytes) : Except Failure α :=
  .error ⟨fault, rest.length - 1⟩

/-- The place of a failure in the bytes that were read, as words. -/
def Failure.message (input : Bytes) (f : Failure) : String :=
  let consumed := input.take (input.length - f.remaining)
  let line := consumed.count 0x0a + 1
  let column := (consumed.reverse.takeWhile (· != 0x0a)).length
  f.fault.message ++ " at line " ++ toString line ++ " column " ++ toString column

def isBlank (b : UInt8) : Bool := b == 0x20 || b == 0x0a || b == 0x09 || b == 0x0d

def skipBlanks (s : Bytes) : Bytes := s.dropWhile isBlank

def isDigit (b : UInt8) : Bool := 0x30 ≤ b && b ≤ 0x39

/-! ## Numbers -/

/-- Reads digits onto a number as long as it stays below a limit, and returns the digits left over. -/
def readBelow (limit n : Nat) : Bytes → Nat × Bytes
  | [] => (n, [])
  | d :: ds =>
    let next := n * 10 + (d.toNat - 0x30)
    if next < limit then readBelow limit next ds else (n, d :: ds)

/-- Divides by a power of ten in steps whose divisor is a number. -/
def scaleDown (x : Double) (k : Nat) : Double :=
  if k ≤ 308 then x.div (.ofNat (Nat.pow 10 k))
  else if x.isZero then x
  else scaleDown (x.div (.ofNat (Nat.pow 10 308))) (k - 308)
termination_by k

/-- The number `significand * 10 ^ exponent`, rounded once for the significand and once for each scaling; nothing
when it is too large. -/
def scale? (significand : Nat) (exponent : Int) : Option Double :=
  let x := Double.ofNat significand
  if exponent < 0 then some (scaleDown x exponent.natAbs)
  else if 308 < exponent then if x.isZero then some x else none
  else match x.mul (.ofNat (Nat.pow 10 exponent.toNat)) with
    | .infinite _ => none
    | y => some y

def signed (negative : Bool) (x : Double) : Double := if negative then x.negate else x

/-- Ends a number with a fraction or an exponent. -/
def finishReal (negative : Bool) (significand : Nat) (exponent : Int) (rest : Bytes) :
    Except Failure (Numeral × Bytes) :=
  match scale? significand exponent with
  | some x => .ok (.real (signed negative x), rest)
  | none => failAt .numberOutOfRange rest

/-- Reads an exponent after its `e`. One that does not fit 31 bits makes the number zero or too large. -/
def readExponent (negative : Bool) (significand : Nat) (exponent : Int) (s : Bytes) :
    Except Failure (Numeral × Bytes) :=
  let (down, s) := match s with
    | 0x2b :: rest => (false, rest)
    | 0x2d :: rest => (true, rest)
    | s => (false, s)
  match s.span isDigit with
  | ([], []) => failAt .endOfValue []
  | ([], rest) => failPast .invalidNumber rest
  | (digits, rest) =>
    match readBelow (Nat.pow 2 31) 0 digits with
    | (e, []) => finishReal negative significand (if down then exponent - e else exponent + e) rest
    | (_, left) =>
      if significand ≠ 0 ∧ !down then failPast .numberOutOfRange (left ++ rest)
      else .ok (.real (signed negative .zero), rest)

/-- Reads what follows the digits of the fraction. -/
def readAfterFraction (negative : Bool) (significand : Nat) (exponent : Int) (s : Bytes) :
    Except Failure (Numeral × Bytes) :=
  match s with
  | 0x65 :: rest => readExponent negative significand exponent rest
  | 0x45 :: rest => readExponent negative significand exponent rest
  | s => finishReal negative significand exponent s

/-- Reads a fraction after its point. Digits that the significand has no room for are dropped. -/
def readFraction (negative : Bool) (significand : Nat) (exponent : Int) (s : Bytes) :
    Except Failure (Numeral × Bytes) :=
  match s.span isDigit with
  | ([], []) => failPast .endOfValue []
  | ([], rest) => failPast .invalidNumber rest
  | (digits, rest) =>
    let (significand, left) := readBelow (Nat.pow 2 64) significand digits
    readAfterFraction negative significand (exponent - (digits.length - left.length : Nat)) rest

/-- Reads what follows the whole part. Digits that the significand has no room for raise the exponent. -/
def readAfterWhole (negative : Bool) (significand : Nat) (left s : Bytes) :
    Except Failure (Numeral × Bytes) :=
  match s with
  | 0x2e :: rest => readFraction negative significand left.length rest
  | 0x65 :: rest => readExponent negative significand left.length rest
  | 0x45 :: rest => readExponent negative significand left.length rest
  | s =>
    if left ≠ [] then finishReal negative significand left.length s
    else if !negative then .ok (.integer significand, s)
    else if 0 < significand ∧ significand ≤ Nat.pow 2 63 then .ok (.integer (-(significand : Int)), s)
    else .ok (.real (Double.ofNat significand).negate, s)

/-- Reads a number without its sign. -/
def readNumber (negative : Bool) (s : Bytes) : Except Failure (Numeral × Bytes) :=
  match s.span isDigit with
  | ([], []) => failAt .endOfValue []
  | ([], rest) => failPast .invalidNumber rest
  | ([0x30], rest) => readAfterWhole negative 0 [] rest
  | (0x30 :: more, rest) => failPast .invalidNumber (more ++ rest)
  | (digits, rest) =>
    let (significand, left) := readBelow (Nat.pow 2 64) 0 digits
    readAfterWhole negative significand left rest

/-! ## Strings -/

def hexValue? (b : UInt8) : Option Nat :=
  if isDigit b then some (b.toNat - 0x30)
  else if 0x41 ≤ b ∧ b ≤ 0x46 then some (b.toNat - 0x41 + 10)
  else if 0x61 ≤ b ∧ b ≤ 0x66 then some (b.toNat - 0x61 + 10)
  else none

/-- Reads four hexadecimal digits. -/
def readUnit (s : Bytes) : Except Failure (Nat × Bytes) :=
  match s with
  | a :: b :: c :: d :: rest =>
    match [a, b, c, d].mapM hexValue? with
    | some digits => .ok (digits.foldl (fun n x => n * 16 + x) 0, rest)
    | none => failAt .invalidEscape rest
  | _ => failAt .endOfString []

def encodeCodePoint (n : Nat) : Bytes := Text.encode (String.singleton (Char.ofNat n))

/-- Reads the code point of an escape after its `u`: one unit, or a pair of surrogates in two escapes. -/
def readCodePoint (s : Bytes) : Except Failure (Bytes × Bytes) := do
  let (high, rest) ← readUnit s
  if 0xdc00 ≤ high ∧ high ≤ 0xdfff then failAt .loneSurrogate rest
  else if high < 0xd800 ∨ 0xdbff < high then .ok (encodeCodePoint high, rest)
  else match rest with
    | [] => failAt .endOfString []
    | [0x5c] => failAt .endOfString []
    | 0x5c :: 0x75 :: rest =>
      let (low, rest) ← readUnit rest
      if low < 0xdc00 ∨ 0xdfff < low then failAt .loneSurrogate rest
      else .ok (encodeCodePoint (0x10000 + (high - 0xd800) * 1024 + (low - 0xdc00)), rest)
    | 0x5c :: rest => failPast .endOfEscape rest
    | rest => failPast .endOfEscape rest

/-- Reads an escape after its backslash. -/
def readEscape (s : Bytes) : Except Failure (Bytes × Bytes) :=
  match s with
  | [] => failAt .endOfString []
  | 0x22 :: rest => .ok ([0x22], rest)
  | 0x5c :: rest => .ok ([0x5c], rest)
  | 0x2f :: rest => .ok ([0x2f], rest)
  | 0x62 :: rest => .ok ([0x08], rest)
  | 0x66 :: rest => .ok ([0x0c], rest)
  | 0x6e :: rest => .ok ([0x0a], rest)
  | 0x72 :: rest => .ok ([0x0d], rest)
  | 0x74 :: rest => .ok ([0x09], rest)
  | 0x75 :: rest => readCodePoint rest
  | _ :: rest => failAt .invalidEscape rest

/-- Reads the rest of a string after `before`, which is held in reverse, up to its closing quote. If escapes and
characters do not make up a text, the place of the failure lies as far before the end of the string as the first
ill-formed character lies before the end of what was made up. -/
def readCharacters : Nat → (before : Bytes) → Bytes → Except Failure (String × Bytes)
  | 0, _, s => failAt .endOfString s
  | fuel + 1, before, s =>
    match s with
    | [] => failAt .endOfString []
    | 0x22 :: rest =>
      match Text.decode? before.reverse with
      | some text => .ok (text, rest)
      | none => .error ⟨.invalidCodePoint, rest.length + Text.unread before.reverse⟩
    | 0x5c :: rest => do
      let (bytes, rest) ← readEscape rest
      readCharacters fuel (bytes.reverse ++ before) rest
    | b :: rest =>
      if b < 0x20 then failAt .controlCharacter rest else readCharacters fuel (b :: before) rest

/-- Reads a string after its opening quote. -/
def readString (s : Bytes) : Except Failure (String × Bytes) := readCharacters (s.length + 1) [] s

/-! ## Values -/

/-- Reads the rest of a word whose first letter has been read. -/
def readWord (value : Value) : Bytes → Bytes → Except Failure (Value × Bytes)
  | [], s => .ok (value, s)
  | _ :: _, [] => failAt .endOfValue []
  | w :: ws, b :: s => if w = b then readWord value ws s else failAt .wordExpected s

/-- Reads the colon after a key. -/
def readColon (s : Bytes) : Except Failure Bytes :=
  match skipBlanks s with
  | 0x3a :: rest => .ok rest
  | [] => failPast .endOfObject []
  | rest => failPast .colonExpected rest

mutual

/-- Reads a value that may hold `depth - 1` values inside each other. The first argument bounds the calls. -/
def readValue : Nat → (depth : Nat) → Bytes → Except Failure (Value × Bytes)
  | 0, _, s => failAt .tooDeep s
  | fuel + 1, depth, s =>
    match skipBlanks s with
    | [] => failPast .endOfValue []
    | 0x6e :: rest => readWord .null [0x75, 0x6c, 0x6c] rest
    | 0x74 :: rest => readWord (.bool true) [0x72, 0x75, 0x65] rest
    | 0x66 :: rest => readWord (.bool false) [0x61, 0x6c, 0x73, 0x65] rest
    | 0x2d :: rest => (readNumber true rest).map fun (n, rest) => (.number n, rest)
    | 0x22 :: rest => (readString rest).map fun (text, rest) => (.string text, rest)
    | 0x5b :: rest =>
      if depth ≤ 1 then failAt .tooDeep rest
      else readElements fuel (depth - 1) true [] rest
    | 0x7b :: rest =>
      if depth ≤ 1 then failAt .tooDeep rest
      else readMembers fuel (depth - 1) true [] rest
    | b :: rest =>
      if isDigit b then (readNumber false (b :: rest)).map fun (n, rest) => (.number n, rest)
      else failAt .valueExpected rest

/-- Reads the rest of a list after `before`, which is held in reverse. -/
def readElements : Nat → (depth : Nat) → (isFirst : Bool) → (before : List Value) → Bytes →
    Except Failure (Value × Bytes)
  | 0, _, _, _, s => failAt .tooDeep s
  | fuel + 1, depth, isFirst, before, s =>
    match skipBlanks s with
    | [] => failPast .endOfList []
    | 0x5d :: rest => .ok (.array before.reverse, rest)
    | b :: rest => do
      let start ←
        if isFirst then pure (b :: rest)
        else if b = 0x2c then
          match skipBlanks rest with
          | [] => failPast .endOfValue []
          | 0x5d :: rest => failAt .trailingComma rest
          | rest => pure rest
        else failAt .elementEndExpected rest
      let (v, rest) ← readValue fuel depth start
      readElements fuel depth false (v :: before) rest

/-- Reads the rest of an object that has the members `before` so far. -/
def readMembers : Nat → (depth : Nat) → (isFirst : Bool) → (before : List (String × Value)) → Bytes →
    Except Failure (Value × Bytes)
  | 0, _, _, _, s => failAt .tooDeep s
  | fuel + 1, depth, isFirst, before, s =>
    match skipBlanks s with
    | [] => failPast .endOfObject []
    | 0x7d :: rest => .ok (.object before, rest)
    | b :: rest => do
      let start ←
        if isFirst then pure (b :: rest)
        else if b = 0x2c then
          match skipBlanks rest with
          | [] => failPast .endOfValue []
          | 0x7d :: rest => failAt .trailingComma rest
          | rest => pure rest
        else failAt .memberEndExpected rest
      match start with
      | 0x22 :: rest =>
        let (key, rest) ← readString rest
        let rest ← readColon rest
        let (v, rest) ← readValue fuel depth rest
        readMembers fuel depth false (insertMember key v before) rest
      | rest => failPast .keyExpected rest

end

/-- How many lists and objects may stand inside each other, plus one. -/
def depthLimit : Nat := 128

def read (bytes : Bytes) : Except Failure Value := do
  let (v, rest) ← readValue (2 * bytes.length + 2) depthLimit bytes
  match skipBlanks rest with
  | [] => .ok v
  | rest => failPast .trailingCharacters rest

end Wayfinder.Json
