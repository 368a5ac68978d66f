/-!
# Regular expressions as written

The tree of a regular expression in the form its text has: groups, flags, classes with set operations
and counted repetitions, before flags are applied. `Term.height` is the nesting that the limit on
deeply nested expressions is about.
-/

namespace Wayfinder.Regex

/-- The letters that a flag group may hold. -/
inductive Flag
  | caseInsensitive | multiLine | dotAll | swapGreed | unicode | crlf | ignoreBlanks
  deriving Repr, DecidableEq

/-- One flag switched on or off. -/
structure FlagSetting where
  flag : Flag
  value : Bool
  deriving Repr, DecidableEq

/-- Conditions on the place between two characters. -/
inductive Anchor
  | lineStart | lineEnd | textStart | textEnd
  | wordBoundary | notWordBoundary | wordStart | wordEnd | wordStartHalf | wordEndHalf
  deriving Repr, DecidableEq

/-- The classes that a single letter escape names. -/
inductive ShortClass
  | digit | space | word
  deriving Repr, DecidableEq

/-- How a character property is asked for. -/
inductive PropertyQuery
  | named (name : String)
  | valued (property value : String)
  deriving Repr, DecidableEq

/-- A literal character; `byteEscape` tells `\xNN` from the other spellings. -/
structure Literal where
  char : Char
  byteEscape : Bool := false
  deriving Repr, DecidableEq

inductive SetOperator
  | intersection | difference | symmetricDifference
  deriving Repr, DecidableEq

/-- The inside of a bracketed class. -/
inductive SetTerm
  | literal (l : Literal)
  | range (low high : Literal)
  | ascii (name : String) (negated : Bool)
  | short (kind : ShortClass) (negated : Bool)
  | property (query : PropertyQuery) (negated : Bool)
  | bracket (negated : Bool) (inside : SetTerm)
  | union (items : List SetTerm)
  | combine (op : SetOperator) (left right : SetTerm)
  deriving Repr

inductive Term
  | empty
  | flags (settings : List FlagSetting)
  | literal (l : Literal)
  | dot
  | anchor (kind : Anchor)
  | short (kind : ShortClass) (negated : Bool)
  | property (query : PropertyQuery) (negated : Bool)
  | bracket (negated : Bool) (inside : SetTerm)
  | repeated (inner : Term) (min : Nat) (max : Option Nat) (greedy : Bool)
  | group (captures : Bool) (settings : List FlagSetting) (inner : Term)
  | concat (items : List Term)
  | alternation (branches : List Term)
  deriving Repr

mutual

/-- Nesting of a class: brackets, unions and set operations count one level each. -/
def SetTerm.height : SetTerm → Nat
  | .bracket _ inside => inside.height + 1
  | .union [] => 0
  | .union items => SetTerm.heights items + 1
  | .combine _ left right => max left.height right.height + 1
  | _ => 0

def SetTerm.heights : List SetTerm → Nat
  | [] => 0
  | t :: ts => max t.height (SetTerm.heights ts)

end

mutual

/-- Nesting of an expression: classes, groups, repetitions, sequences and alternations count one level
each. -/
def Term.height : Term → Nat
  | .bracket _ inside => inside.height + 1
  | .repeated inner _ _ _ => inner.height + 1
  | .group _ _ inner => inner.height + 1
  | .concat items => Term.heights items + 1
  | .alternation branches => Term.heights branches + 1
  | _ => 0

def Term.heights : List Term → Nat
  | [] => 0
  | t :: ts => max t.height (Term.heights ts)

end

namespace SetTerm

/-- The union of the items of a class; one item stands for itself. -/
def ofItems : List SetTerm → SetTerm
  | [t] => t
  | ts => .union ts

end SetTerm

namespace Term

/-- The sequence of some items; one item stands for itself, none for the empty expression. -/
def ofItems : List Term → Term
  | [] => .empty
  | [t] => t
  | ts => .concat ts

def ofBranches : List Term → Term
  | [t] => t
  | ts => .alternation ts

/-- Whether a repetition operator may follow the term. -/
def repeatable : Term → Bool
  | .empty | .flags _ => false
  | _ => true

end Term

end Wayfinder.Regex
