import Wayfinder.Unicode.Property
/-!
# Regular expressions and what they match

An expression reads a text from gap to gap. A text of `n` characters has `n + 1` gaps, and a set of gaps
is a list of `n + 1` flags. `Expr.reach` takes the gaps where a match may begin to the gaps where it may
end; `Expr.matchesIn` asks for a match anywhere in the text.
-/

namespace Wayfinder.Regex

open Unicode (CharSet)

/-- The place between two characters of a text, or at one of its ends. -/
structure Gap where
  before : Option Char
  after : Option Char
  deriving Repr, DecidableEq

namespace Gap

/-- The gaps of a text that follows the character `before`. -/
def listFrom (before : Option Char) : List Char → List Gap
  | [] => [⟨before, none⟩]
  | c :: cs => ⟨before, some c⟩ :: listFrom (some c) cs

def list (cs : List Char) : List Gap := listFrom none cs

@[simp] theorem length_listFrom (before : Option Char) (cs : List Char) :
    (listFrom before cs).length = cs.length + 1 := by
  induction cs generalizing before with
  | nil => rfl
  | cons c cs ih => simp [listFrom, ih]

end Gap

/-- Which side of a word a boundary asks for. -/
inductive WordEdge
  | boundary | inside | start | finish | startHalf | finishHalf
  deriving Repr, DecidableEq

/-- A condition on a gap. Lines end at `\n`, or with `crlf` at `\r`, `\n` and `\r\n`. -/
inductive Look
  | textStart | textEnd
  | lineStart (crlf : Bool)
  | lineEnd (crlf : Bool)
  | word (edge : WordEdge) (unicode : Bool)
  deriving Repr, DecidableEq

def isAsciiWord (c : Char) : Bool := c.isAlphanum || c == '_'

def isWord (unicode : Bool) (c : Char) : Bool :=
  isAsciiWord c || (unicode && c.toNat ≥ 0x80 && Unicode.Property.word.contains c)

def WordEdge.holds (before after : Bool) : WordEdge → Bool
  | .boundary => before != after
  | .inside => before == after
  | .start => !before && after
  | .finish => before && !after
  | .startHalf => !before
  | .finishHalf => !after

def Look.holds (g : Gap) : Look → Bool
  | .textStart => g.before.isNone
  | .textEnd => g.after.isNone
  | .lineStart false => g.before.all (· == '\n')
  | .lineEnd false => g.after.all (· == '\n')
  | .lineStart true => g.before.all (· == '\n') || (g.before == some '\r' && g.after != some '\n')
  | .lineEnd true => g.after.all (· == '\r') || (g.after == some '\n' && g.before != some '\r')
  | .word edge unicode => edge.holds (g.before.any (isWord unicode)) (g.after.any (isWord unicode))

/-- Regular expressions over characters. Whether a group captures and a repetition is greedy does not
matter to what is matched, only to how the expression is carried out. -/
inductive Expr
  | empty
  | one (set : CharSet)
  | look (l : Look)
  | group (captures : Bool) (inner : Expr)
  | seq (first second : Expr)
  | alt (left right : Expr)
  | rep (inner : Expr) (min : Nat) (max : Option Nat) (greedy : Bool)
  deriving Repr, DecidableEq

/-- A set of gaps, one flag for each gap of the text. -/
abbrev Reach := List Bool

namespace Reach

def union (a b : Reach) : Reach := List.zipWith (· || ·) a b

/-- Moves each gap over a character of the set. -/
def advance (set : CharSet) (gaps : List Gap) (from_ : Reach) : Reach :=
  false :: (List.zipWith (fun g here => here && g.after.any set.contains) gaps from_).dropLast

/-- Exactly `n` steps. Nothing is left to do once a step changes nothing. -/
def iterate (step : Reach → Reach) : Nat → Reach → Reach
  | 0, r => r
  | n + 1, r =>
    let next := step r
    if next = r then r else iterate step n next

/-- Up to `n` steps. Nothing is left to do once a step reaches no new gap. -/
def grow (step : Reach → Reach) : Nat → Reach → Reach
  | 0, r => r
  | n + 1, r =>
    let next := r.union (step r)
    if next = r then r else grow step n next

end Reach

namespace Expr

/-- The gaps where a match ends that begins at one of the given gaps. More optional repetitions than
there are gaps reach nothing new. -/
def reach (gaps : List Gap) : Expr → Reach → Reach
  | empty, r => r
  | one set, r => r.advance set gaps
  | look l, r => List.zipWith (fun g here => here && l.holds g) gaps r
  | group _ inner, r => inner.reach gaps r
  | seq first second, r => second.reach gaps (first.reach gaps r)
  | alt left right, r => (left.reach gaps r).union (right.reach gaps r)
  | rep inner min max _, r =>
    let optional := match max with
      | none => gaps.length
      | some m => Nat.min (m - min) gaps.length
    Reach.grow (inner.reach gaps) optional (Reach.iterate (inner.reach gaps) min r)

/-- Whether some part of the text matches. -/
def matchesIn (e : Expr) (cs : List Char) : Bool :=
  let gaps := Gap.list cs
  (e.reach gaps (gaps.map fun _ => true)).any id

/-- The one-character expression of no characters at all: it never matches. -/
def never : Expr := .one .empty

def seqAll : List Expr → Expr
  | [] => .empty
  | [e] => e
  | e :: es => .seq e (seqAll es)

def altAll : List Expr → Expr
  | [] => never
  | [e] => e
  | e :: es => .alt e (altAll es)

end Expr

end Wayfinder.Regex
