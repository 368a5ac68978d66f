import Wayfinder.Regex.Expr
/-!
# The shape of an expression

Before an automaton is drafted for an expression, the expression is brought into a simpler shape:
sequences and alternations are flat, neighbouring characters are one literal, alternatives of single
characters are one set, alternatives that begin alike share their beginning, and repetitions of what
matches only the empty text are done at most once.
-/

namespace Wayfinder.Regex

open Unicode (CharSet)

/-- Expressions in which sequences hold no sequences and alternations no alternations. -/
inductive Shape
  | empty
  | literal (text : List Char)
  | one (set : CharSet)
  | look (l : Look)
  | capture (inner : Shape)
  | rep (inner : Shape) (min : Nat) (max : Option Nat) (greedy : Bool)
  | concat (items : List Shape)
  | alternation (branches : List Shape)
  deriving Repr

namespace Shape

mutual

/-- Whether two shapes are equal. No capture is the same as another. -/
def same : Shape → Shape → Bool
  | empty, empty => true
  | literal a, literal b => a == b
  | one a, one b => a == b
  | look a, look b => a == b
  | rep a min max greedy, rep b min' max' greedy' =>
    min == min' && max == max' && greedy == greedy' && same a b
  | concat as, concat bs => sameAll as bs
  | alternation as, alternation bs => sameAll as bs
  | _, _ => false

def sameAll : List Shape → List Shape → Bool
  | [], [] => true
  | a :: as, b :: bs => same a b && sameAll as bs
  | _, _ => false

end

mutual

/-- The number of parts. -/
def size : Shape → Nat
  | capture s | rep s _ _ _ => s.size + 1
  | concat ss | alternation ss => sizes ss + 1
  | _ => 1

def sizes : List Shape → Nat
  | [] => 0
  | s :: ss => s.size + sizes ss

end

mutual

/-- Whether nothing but the empty text can match. -/
def isBlank : Shape → Bool
  | empty | look _ => true
  | literal _ | one _ => false
  | capture s => s.isBlank
  | rep s _ max _ => max.isSome && s.isBlank
  | concat ss | alternation ss => areBlank ss

def areBlank : List Shape → Bool
  | [] => true
  | s :: ss => s.isBlank && areBlank ss

end

/-- The lesser of two lengths, if both are known. -/
def lesser : Option Nat → Option Nat → Option Nat
  | some a, some b => some (Nat.min a b)
  | _, _ => none

mutual

/-- The least number of characters of a match, unless some part never matches. -/
def leastLength : Shape → Option Nat
  | empty | look _ => some 0
  | literal text => some text.length
  | one set => if set.ranges.isEmpty then none else some 1
  | capture s => s.leastLength
  | rep s min _ _ => s.leastLength.map (· * min)
  | concat ss => sumOfLeast ss
  | alternation [] => none
  | alternation (s :: ss) => leastOf s.leastLength ss

def sumOfLeast : List Shape → Option Nat
  | [] => some 0
  | s :: ss => do return (← s.leastLength) + (← sumOfLeast ss)

def leastOf (least : Option Nat) : List Shape → Option Nat
  | [] => least
  | s :: ss => leastOf (lesser least s.leastLength) ss

end

mutual

/-- Whether every match begins at the start of the text. -/
def beginsAtStart : Shape → Bool
  | look l => l == .textStart
  | capture s => s.beginsAtStart
  | rep s min _ _ => 0 < min && s.beginsAtStart
  | concat ss => firstBegins ss
  | alternation ss => allBegin ss
  | _ => false

def firstBegins : List Shape → Bool
  | [] => false
  | s :: ss => s.beginsAtStart || (s.isBlank && firstBegins ss)

def allBegin : List Shape → Bool
  | [] => true
  | s :: ss => s.beginsAtStart && allBegin ss

end

mutual

/-- Whether every match ends at the end of the text. -/
def endsAtEnd : Shape → Bool
  | look l => l == .textEnd
  | capture s => s.endsAtEnd
  | rep s min _ _ => 0 < min && s.endsAtEnd
  | concat ss => lastEnds ss
  | alternation ss => allEnd ss
  | _ => false

def lastEnds : List Shape → Bool
  | [] => false
  | s :: ss => lastEnds ss || (areBlank ss && s.endsAtEnd)

def allEnd : List Shape → Bool
  | [] => true
  | s :: ss => s.endsAtEnd && allEnd ss

end

mutual

/-- Whether some condition on a gap fulfils a test. -/
def anyLook (p : Look → Bool) : Shape → Bool
  | look l => p l
  | capture s | rep s _ _ _ => s.anyLook p
  | concat ss | alternation ss => anyLooks p ss
  | _ => false

def anyLooks (p : Look → Bool) : List Shape → Bool
  | [] => false
  | s :: ss => s.anyLook p || anyLooks p ss

end

/-! ## Simplification -/

/-- A set with a single member is a literal. -/
def ofSet (set : CharSet) : Shape :=
  match set.ranges with
  | [(low, high)] => if low = high then literal [Char.ofNat low] else one set
  | _ => one set

/-- Joins neighbouring literals. -/
def joinLiterals : List Shape → List Shape
  | [] => []
  | literal a :: rest =>
    match joinLiterals rest with
    | literal b :: more => literal (a ++ b) :: more
    | more => literal a :: more
  | s :: rest => s :: joinLiterals rest

/-- The items that a part of a sequence adds to it. -/
def items : Shape → List Shape
  | empty => []
  | concat ss => ss
  | s => [s]

def ofConcat (parts : List Shape) : Shape :=
  match joinLiterals (parts.flatMap items) with
  | [] => empty
  | [s] => s
  | ss => concat ss

/-- The branches that a part of an alternation adds to it. -/
def branches : Shape → List Shape
  | alternation ss => ss
  | s => [s]

/-- The only character of a literal. -/
def char? : Shape → Option Char
  | literal [c] => some c
  | _ => none

def set? : Shape → Option CharSet
  | one set => some set
  | _ => none

def concat? : Shape → Option (List Shape)
  | concat ss => some ss
  | _ => none

/-- How many items two sequences have in common at their beginnings. -/
def commonLength : List Shape → List Shape → Nat
  | a :: as, b :: bs => if same a b then commonLength as bs + 1 else 0
  | _, _ => 0

/-- The number of items that all of some sequences have in common at their beginnings. -/
def sharedLength : List (List Shape) → Nat
  | [] => 0
  | first :: rest => rest.foldl (fun n ss => Nat.min n (commonLength first ss)) first.length

/-- The alternation of some shapes. Alternatives that begin alike are drawn together behind their common
beginning; `fuel` bounds how often. -/
def ofBranches : Nat → List Shape → Shape
  | fuel, parts =>
    match parts.flatMap branches with
    | [s] => s
    | bs =>
      match bs.mapM char?, bs.mapM set? with
      | some cs, _ => ofSet (.ofNats (cs.map Char.toNat))
      | none, some sets => ofSet (.unions sets)
      | none, none =>
        match fuel, bs.mapM concat? with
        | fuel + 1, some seqs =>
          let n := sharedLength seqs
          if n = 0 then alternation bs
          else ofConcat ((seqs.headD []).take n ++
            [ofBranches fuel (seqs.map fun ss => ofConcat (ss.drop n))])
        | _, _ => alternation bs

def ofAlternation (parts : List Shape) : Shape := ofBranches (sizes parts) parts

/-- A repetition of what matches only the empty text is done once or not at all. -/
def ofRep (inner : Shape) (min : Nat) (max : Option Nat) (greedy : Bool) : Shape :=
  let (min, max) :=
    if inner.isBlank then (Nat.min min 1, some (Nat.min (max.getD 1) 1)) else (min, max)
  if min = 0 ∧ max = some 0 then empty
  else if min = 1 ∧ max = some 1 then inner
  else rep inner min max greedy

end Shape

namespace Expr

/-- A single branch stands for itself. -/
def joined : List Shape → Shape
  | [s] => s
  | ss => .ofAlternation ss

/-- The shapes of the alternatives of an expression. -/
def alternatives : Expr → List Shape
  | empty => [.empty]
  | one set => [.ofSet set]
  | look l => [.look l]
  | group true e => [.capture (joined e.alternatives)]
  | group false e => [joined e.alternatives]
  | seq a b => [.ofConcat [joined a.alternatives, joined b.alternatives]]
  | alt a b => joined a.alternatives :: b.alternatives
  | rep e min max greedy => [.ofRep (joined e.alternatives) min max greedy]

/-- The shape of an expression. -/
def shape (e : Expr) : Shape := joined e.alternatives

end Expr

end Wayfinder.Regex
