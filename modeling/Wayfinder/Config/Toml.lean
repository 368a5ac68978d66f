import Wayfinder.Number.Decimal
/-!
# Flat TOML documents

Reads documents that hold integers and texts under simple keys. Documents with anything else, for which no setting has
room, are refused.
-/

namespace Wayfinder.Config.Toml

inductive Scalar
  | integer (n : Int)
  | text (s : String)
  deriving Repr, DecidableEq

def isBlank (c : Char) : Bool := c == ' ' || c == '\t'

/-- Characters of comments and texts: no control characters but the tab. -/
def isPlain (c : Char) : Bool := ('\x20' ≤ c && c != '\x7f') || c == '\t'

/-- Drops a line break. -/
def lineBreak? : List Char → Option (List Char)
  | '\n' :: rest => some rest
  | '\r' :: '\n' :: rest => some rest
  | _ => none

/-- Reads the code point of an escape with `count` hexadecimal digits. -/
def readCodePoint (count : Nat) (s : List Char) : Option (Char × List Char) := do
  let digits := s.take count
  let n ← Number.hexadecimal? digits
  if digits.length = count ∧ n.isValidChar then some (Char.ofNat n, s.drop count) else none

/-- Reads an escape after its backslash. -/
def readEscape : List Char → Option (Char × List Char)
  | 'b' :: rest => some ('\x08', rest)
  | 't' :: rest => some ('\t', rest)
  | 'n' :: rest => some ('\n', rest)
  | 'f' :: rest => some ('\x0c', rest)
  | 'r' :: rest => some ('\r', rest)
  | 'e' :: rest => some ('\x1b', rest)
  | '"' :: rest => some ('"', rest)
  | '\\' :: rest => some ('\\', rest)
  | 'x' :: rest => readCodePoint 2 rest
  | 'u' :: rest => readCodePoint 4 rest
  | 'U' :: rest => readCodePoint 8 rest
  | _ => none

/-- Reads a text of one line up to its closing quote. Escapes count between double quotes only. -/
def readQuoted (quote : Char) : Nat → List Char → Option (List Char × List Char)
  | 0, _ => none
  | _ + 1, [] => none
  | fuel + 1, c :: rest =>
    if c = quote then some ([], rest)
    else if c = '\\' ∧ quote = '"' then do
      let (d, rest) ← readEscape rest
      let (cs, rest) ← readQuoted quote fuel rest
      some (d :: cs, rest)
    else if isPlain c then do
      let (cs, rest) ← readQuoted quote fuel rest
      some (c :: cs, rest)
    else none

/-- Drops blanks and line breaks. -/
def dropLines : Nat → List Char → List Char
  | 0, s => s
  | fuel + 1, s =>
    match lineBreak? s with
    | some rest => dropLines fuel rest
    | none => match s with
      | c :: rest => if isBlank c then dropLines fuel rest else s
      | [] => []

/-- Reads a text of several lines up to its three closing quotes, before which up to two more may stand. A backslash at
the end of a line joins it with what follows. -/
def readLines (quote : Char) : Nat → List Char → Option (List Char × List Char)
  | 0, _ => none
  | _ + 1, [] => none
  | fuel + 1, c :: rest =>
    let also (d : List Char) (rest : List Char) := do
      let (cs, rest) ← readLines quote fuel rest
      some (d ++ cs, rest)
    let quotes := (c :: rest).takeWhile (· == quote)
    if 3 ≤ quotes.length then
      let kept := min quotes.length 5
      some (List.replicate (kept - 3) quote, (c :: rest).drop kept)
    else match lineBreak? (c :: rest) with
      | some after => also ((c :: rest).take ((c :: rest).length - after.length)) after
      | none =>
        if c = '\\' ∧ quote = '"' then
          match lineBreak? (rest.dropWhile isBlank) with
          | some after => also [] (dropLines after.length after)
          | none => do
            let (d, rest) ← readEscape rest
            also [d] rest
        else if isPlain c then also [c] rest
        else none

/-- Reads a text at its opening quote. -/
def readText : List Char → Option (List Char × List Char)
  | a :: b :: c :: rest =>
    if (a = '"' ∨ a = '\x27') ∧ b = a ∧ c = a then
      let rest := (lineBreak? rest).getD rest
      readLines a (rest.length + 1) rest
    else if a = '"' ∨ a = '\x27' then readQuoted a (rest.length + 3) (b :: c :: rest)
    else none
  | a :: rest => if a = '"' ∨ a = '\x27' then readQuoted a (rest.length + 1) rest else none
  | [] => none

/-- Digits with single underscores between them, without the underscores. -/
def dropUnderscores : List Char → Option (List Char)
  | [] => none
  | [c] => if c = '_' then none else some [c]
  | c :: '_' :: rest => if c = '_' then none else (dropUnderscores rest).map (c :: ·)
  | c :: rest => if c = '_' then none else (dropUnderscores rest).map (c :: ·)

/-- The number that digits to a base denote. -/
def digitsToBase (base : Nat) (digits : List Char) : Option Nat := do
  let digits ← dropUnderscores digits
  let values ← digits.mapM fun d => (Number.hexadecimal? [d]).filter (· < base)
  some (values.foldl (fun n d => base * n + d) 0)

/-- A decimal number without needless zeros in front. -/
def decimal? (digits : List Char) : Option Nat :=
  match digits with
  | '0' :: _ :: _ => none
  | digits => digitsToBase 10 digits

/-- The integer that a word denotes. Only decimal ones have a sign. -/
def integer? : List Char → Option Int
  | '0' :: 'x' :: digits => (digitsToBase 16 digits).map Int.ofNat
  | '0' :: 'o' :: digits => (digitsToBase 8 digits).map Int.ofNat
  | '0' :: 'b' :: digits => (digitsToBase 2 digits).map Int.ofNat
  | '+' :: digits => (decimal? digits).map Int.ofNat
  | '-' :: digits => (decimal? digits).map fun n => -(n : Int)
  | digits => (decimal? digits).map Int.ofNat

def isBareKeyChar (c : Char) : Bool := c.isAlphanum || c == '_' || c == '-'

/-- Characters of words that are no texts. -/
def isWordChar (c : Char) : Bool := c.isAlphanum || c == '_' || c == '+' || c == '-'

def readKey (s : List Char) : Option (List Char × List Char) :=
  match s.span isBareKeyChar with
  | ([], '"' :: rest) => readQuoted '"' (rest.length + 1) rest
  | ([], '\x27' :: rest) => readQuoted '\x27' (rest.length + 1) rest
  | ([], _) => none
  | (key, rest) => some (key, rest)

def readScalar (s : List Char) : Option (Scalar × List Char) :=
  match readText s with
  | some (cs, rest) => some (.text (String.ofList cs), rest)
  | none => do
    let (word, rest) := s.span isWordChar
    let n ← integer? word
    some (.integer n, rest)

/-- Reads blanks, a comment and the end of a line. -/
def readEnd (s : List Char) : Option (List Char) :=
  let s := s.dropWhile isBlank
  let s := match s with
    | '#' :: rest => rest.dropWhile isPlain
    | s => s
  match s with
  | [] => some []
  | s => lineBreak? s

/-- Reads all lines. Each takes at least one character, which bounds their number. -/
def readDocument : Nat → List Char → Option (List (String × Scalar))
  | _, [] => some []
  | 0, _ => none
  | fuel + 1, s =>
    let s := s.dropWhile isBlank
    match readEnd s with
    | some rest => readDocument fuel rest
    | none => do
      let (key, rest) ← readKey s
      match rest.dropWhile isBlank with
      | '=' :: rest =>
        let (v, rest) ← readScalar (rest.dropWhile isBlank)
        let rest ← readEnd rest
        return (String.ofList key, v) :: (← readDocument fuel rest)
      | _ => none

/-- The keys of a document with their values, none of them twice. -/
def read (text : String) : Option (List (String × Scalar)) := do
  let cs := match text.toList with
    | '\ufeff' :: rest => rest
    | cs => cs
  let entries ← readDocument (cs.length + 1) cs
  if (entries.map Prod.fst).eraseDups.length = entries.length then some entries else none

end Wayfinder.Config.Toml
