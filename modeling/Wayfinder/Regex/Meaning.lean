import Wayfinder.Regex.Expr
import Wayfinder.Regex.Property
import Wayfinder.Regex.Term
import Wayfinder.Unicode.CaseFold
/-!
# From written expressions to expressions

Applies the flags of a written expression and resolves its classes. A flag group holds until its group
ends, across alternatives too. Texts are Unicode, so an expression that could match part of the encoding
of a character has no meaning; that can only arise where the `u` flag is off.
-/

namespace Wayfinder.Regex

open Unicode (CharSet)

/-- The flags in force. -/
structure Flags where
  caseInsensitive : Bool := false
  multiLine : Bool := false
  dotAll : Bool := false
  swapGreed : Bool := false
  unicode : Bool := true
  crlf : Bool := false
  deriving Repr, DecidableEq

namespace Flags

def apply (f : Flags) (s : FlagSetting) : Flags :=
  match s.flag with
  | .caseInsensitive => { f with caseInsensitive := s.value }
  | .multiLine => { f with multiLine := s.value }
  | .dotAll => { f with dotAll := s.value }
  | .unicode => { f with unicode := s.value }
  | .crlf => { f with crlf := s.value }
  | .swapGreed => { f with swapGreed := s.value }
  | .ignoreBlanks => f

def applyAll (f : Flags) (settings : List FlagSetting) : Flags := settings.foldl apply f

end Flags

namespace Meaning

/-- The characters of some classes of characters that count as equal, if the set has one of them. -/
def reached (classes : List (List Nat)) (s : CharSet) : List Nat :=
  (classes.filter fun cls => cls.any s.has).flatten

/-- Adds every character that differs from a member only in case. -/
def closeCase (s : CharSet) : CharSet := s ∪ .ofNats (reached Unicode.CaseFold.classes s)

/-- The two cases of the letters of ASCII. -/
def asciiCases : List (List Nat) := (List.range 26).map fun i => [0x41 + i, 0x61 + i]

/-- Adds the other case of every ASCII letter. -/
def closeAsciiCase (s : CharSet) : CharSet := s ∪ .ofNats (reached asciiCases s)

/-- The characters of a named ASCII class. -/
def ofAsciiName : String → CharSet
  | "alnum" => ⟨[(0x30, 0x39), (0x41, 0x5a), (0x61, 0x7a)]⟩
  | "alpha" => ⟨[(0x41, 0x5a), (0x61, 0x7a)]⟩
  | "ascii" => ⟨[(0, 0x7f)]⟩
  | "blank" => ⟨[(0x09, 0x09), (0x20, 0x20)]⟩
  | "cntrl" => ⟨[(0, 0x1f), (0x7f, 0x7f)]⟩
  | "digit" => ⟨[(0x30, 0x39)]⟩
  | "graph" => ⟨[(0x21, 0x7e)]⟩
  | "lower" => ⟨[(0x61, 0x7a)]⟩
  | "print" => ⟨[(0x20, 0x7e)]⟩
  | "punct" => ⟨[(0x21, 0x2f), (0x3a, 0x40), (0x5b, 0x60), (0x7b, 0x7e)]⟩
  | "space" => ⟨[(0x09, 0x0d), (0x20, 0x20)]⟩
  | "upper" => ⟨[(0x41, 0x5a)]⟩
  | "word" => ⟨[(0x30, 0x39), (0x41, 0x5a), (0x5f, 0x5f), (0x61, 0x7a)]⟩
  | "xdigit" => ⟨[(0x30, 0x39), (0x41, 0x46), (0x61, 0x66)]⟩
  | _ => .empty

/-- Closes a set under case where the flag asks for it, then takes its complement if negated. Without
the `u` flag the result must stay below 128. -/
def finishSet (f : Flags) (negated : Bool) (s : CharSet) : Option CharSet :=
  if f.unicode then
    let s := if f.caseInsensitive then closeCase s else s
    some (if negated then s.compl else s)
  else
    let s := if f.caseInsensitive then closeAsciiCase s else s
    let s := if negated then s.byteCompl else s
    if s.isAscii then some s else none

def shortSet (f : Flags) (kind : ShortClass) (negated : Bool) : Option CharSet :=
  if f.unicode then
    let s := match kind with
      | .digit => Unicode.CategoryTable.decimalNumber
      | .space => Unicode.PropertyTable.whiteSpace
      | .word => Unicode.Property.word
    some (if negated then s.compl else s)
  else
    let s := ofAsciiName <| match kind with
      | .digit => "digit"
      | .space => "space"
      | .word => "word"
    if negated then none else some s

def propertySet (f : Flags) (query : PropertyQuery) (negated : Bool) : Option CharSet := do
  if f.unicode then finishSet f negated (← query.resolve?) else none

/-- A literal inside a class. Without the `u` flag it must be ASCII. -/
def setLiteral (f : Flags) (l : Literal) : Option Nat :=
  if f.unicode || l.char.toNat < 0x80 then some l.char.toNat else none

def combine : SetOperator → CharSet → CharSet → CharSet
  | .intersection, a, b => a ∩ b
  | .difference, a, b => a \ b
  | .symmetricDifference, a, b => a.symmDiff b

/-- The set to which an operand of a set operation is closed before the operation. -/
def operand (f : Flags) (s : CharSet) : CharSet :=
  if f.caseInsensitive then if f.unicode then closeCase s else closeAsciiCase s else s

mutual

/-- The characters of a class term. -/
def setOf (f : Flags) : SetTerm → Option CharSet
  | .literal l => (setLiteral f l).map fun n => ⟨[(n, n)]⟩
  | .range low high => do return ⟨[(← setLiteral f low, ← setLiteral f high)]⟩
  | .ascii name negated => finishSet f negated (ofAsciiName name)
  | .short kind negated => shortSet f kind negated
  | .property query negated => propertySet f query negated
  | .bracket negated inside => do finishSet f negated (← setOf f inside)
  | .union items => do return .unions (← setsOf f items)
  | .combine op left right => do
    return combine op (operand f (← setOf f left)) (operand f (← setOf f right))

def setsOf (f : Flags) : List SetTerm → Option (List CharSet)
  | [] => some []
  | t :: ts => do return (← setOf f t) :: (← setsOf f ts)

end

/-- The characters that a literal outside a class stands for. -/
def literalSet (f : Flags) (l : Literal) : Option CharSet :=
  if f.unicode then
    some (if f.caseInsensitive then closeCase (.single l.char) else .single l.char)
  else if l.byteEscape && l.char.toNat ≥ 0x80 then none
  else some (if f.caseInsensitive && l.char.isAlpha then closeAsciiCase (.single l.char)
    else .single l.char)

/-- The characters that a dot stands for. -/
def dotSet (f : Flags) : Option CharSet :=
  if !f.unicode then none
  else if f.dotAll then some .full
  else some (CharSet.compl ⟨if f.crlf then [(0x0a, 0x0a), (0x0d, 0x0d)] else [(0x0a, 0x0a)]⟩)

def lookOf (f : Flags) : Anchor → Look
  | .lineStart => if f.multiLine then .lineStart f.crlf else .textStart
  | .lineEnd => if f.multiLine then .lineEnd f.crlf else .textEnd
  | .textStart => .textStart
  | .textEnd => .textEnd
  | .wordBoundary => .word .boundary f.unicode
  | .notWordBoundary => .word .inside f.unicode
  | .wordStart => .word .start f.unicode
  | .wordEnd => .word .finish f.unicode
  | .wordStartHalf => .word .startHalf f.unicode
  | .wordEndHalf => .word .finishHalf f.unicode

mutual

/-- The expression of a term under flags, with the flags in force behind it. -/
def exprOf (f : Flags) : Term → Option (Expr × Flags)
  | .empty => some (.empty, f)
  | .flags settings => some (.empty, f.applyAll settings)
  | .literal l => (literalSet f l).map fun s => (.one s, f)
  | .dot => (dotSet f).map fun s => (.one s, f)
  | .anchor kind => some (.look (lookOf f kind), f)
  | .short kind negated => (shortSet f kind negated).map fun s => (.one s, f)
  | .property query negated => (propertySet f query negated).map fun s => (.one s, f)
  | .bracket negated inside => do return (.one (← finishSet f negated (← setOf f inside)), f)
  | .repeated inner min max greedy => do
    let (e, f) ← exprOf f inner
    return (.rep e min max (greedy != f.swapGreed), f)
  | .group captures settings inner => do
    let (e, _) ← exprOf (f.applyAll settings) inner
    return (.group captures e, f)
  | .concat items => do
    let (es, f) ← exprsOf f items
    return (.seqAll es, f)
  | .alternation branches => do
    let (es, f) ← exprsOf f branches
    return (.altAll es, f)

def exprsOf (f : Flags) : List Term → Option (List Expr × Flags)
  | [] => some ([], f)
  | t :: ts => do
    let (e, f) ← exprOf f t
    let (es, f) ← exprsOf f ts
    return (e :: es, f)

end

end Meaning

namespace Term

/-- The expression that a term stands for, if it has a meaning on Unicode text. -/
def meaning? (t : Term) : Option Expr := (Meaning.exprOf {} t).map Prod.fst

end Term

end Wayfinder.Regex
