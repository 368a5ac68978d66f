import Wayfinder.Text.Trim
/-!
# Words of a command line

A word names an option by its long or short name, ends the options, or is a plain word.
-/

namespace Wayfinder.CommandLine

inductive Token
  /-- Two dashes alone: only plain words follow. -/
  | separator
  | long (name : String) (value : Option String)
  /-- One dash and letters; the first of them that takes a value takes the rest. -/
  | short (letters : List Char)
  | plain (word : String)
  deriving Repr, DecidableEq

/-- What a word is while options may still come. A dash alone is a plain word. -/
def Token.read (word : String) : Token :=
  match word.toList with
  | ['-', '-'] => .separator
  | '-' :: '-' :: rest =>
    match Text.cutAt '=' (String.ofList rest) with
    | some (name, value) => .long name (some value)
    | none => .long (String.ofList rest) none
  | '-' :: c :: rest => .short (c :: rest)
  | _ => .plain word

end Wayfinder.CommandLine
