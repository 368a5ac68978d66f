import Wayfinder.Unicode.Character
/-!
# Trimming

Removes what a text begins and ends with.
-/

namespace Wayfinder.Text

/-- Drops the longest end of a list whose elements all satisfy `p`. -/
def dropTrailing {α : Type} (p : α → Bool) (xs : List α) : List α := (xs.reverse.dropWhile p).reverse

theorem dropTrailing_concat {α : Type} (p : α → Bool) (xs : List α) (x : α) :
    dropTrailing p (xs ++ [x]) = if p x then dropTrailing p xs else xs ++ [x] := by
  by_cases h : p x <;> simp [dropTrailing, h]

/-- Drops what satisfies `p` at both ends. -/
def stripList {α : Type} (p : α → Bool) (xs : List α) : List α := dropTrailing p (xs.dropWhile p)

/-- Drops characters that satisfy `p` at both ends. -/
def strip (p : Char → Bool) (s : String) : String := String.ofList (stripList p s.toList)

/-- Drops white space at both ends. -/
def trim (s : String) : String := strip Unicode.isBlank s

/-- Cuts a text at the first place where a character stands. -/
def cutAt (c : Char) (s : String) : Option (String × String) :=
  match s.toList.span (· != c) with
  | (before, _ :: after) => some (String.ofList before, String.ofList after)
  | (_, []) => none

/-- The same with only ASCII letters made small. -/
def asciiLower (s : String) : String := String.ofList (s.toList.map Char.toLower)

/-- The same with only ASCII letters made large. -/
def asciiUpper (s : String) : String := String.ofList (s.toList.map Char.toUpper)

/-- Equality up to the case of ASCII letters. -/
def sameIgnoringCase (a b : String) : Bool := asciiLower a == asciiLower b

end Wayfinder.Text
