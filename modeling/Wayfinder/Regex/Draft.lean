import Std.Data.HashMap
import Wayfinder.Regex.ByteSequence
import Wayfinder.Regex.Shape
/-!
# Drafts of automata

An expression is carried out by an automaton over bytes. A draft counts the states of such an automaton
and the links that states hold beyond their first; it never holds the automaton. Every copy of what is
repeated counts, so that drafting fails as soon as the automaton would grow too large.
-/

namespace Wayfinder.Regex

open Unicode (CharSet)

/-- The links of a state over bytes: a range and the number of the state it leads to. -/
abbrev Links := List (ByteRange × Nat)

/-- What is known of an automaton while it is drafted. -/
structure Draft where
  states : Nat := 0
  /-- Bytes for links beyond what every state has room for. -/
  linkBytes : Nat := 0
  /-- States of the set at hand that may be used again, by slots. A slot keeps the latest state only. -/
  reusable : Std.HashMap Nat (Links × Nat) := ∅

/-- Steps of drafting. They fail where the automaton would need too much memory. -/
abbrev Drafting := StateT Draft Option

namespace Draft

/-- The memory of a state. -/
def stateBytes : Nat := 32

/-- The memory that an automaton may take. -/
def limit : Nat := 10 * Nat.pow 2 20

def bytes (d : Draft) : Nat := stateBytes * d.states + d.linkBytes

/-- A new state with links of some size; gives its number. -/
def newState (linkBytes : Nat) : Drafting Nat := fun d =>
  let next := { d with states := d.states + 1, linkBytes := d.linkBytes + linkBytes }
  if next.bytes ≤ limit then some (d.states, next) else none

/-- New states that need no more room than any. -/
def plainStates (count : Nat) : Drafting Unit := fun d =>
  let next := { d with states := d.states + count }
  if next.bytes ≤ limit then some ((), next) else none

/-- One more link of a state that branches. -/
def branchLinks (count : Nat) : Drafting Unit := fun d =>
  let next := { d with linkBytes := d.linkBytes + 4 * count }
  if next.bytes ≤ limit then some ((), next) else none

/-- Leads on from the last state of a part: only one that branches needs a further link. -/
def leadOn (branches : Bool) : Drafting Unit := branchLinks (if branches then 1 else 0)

/-! ## Sets of characters -/

/-- One round of the hash by which slots are chosen. -/
def mix (h : UInt64) (n : Nat) : UInt64 := (h ^^^ n.toUInt64) * 1099511628211

/-- The hash of some numbers. -/
def hash (ns : List Nat) : Nat := (ns.foldl mix 14695981039346656037).toNat

/-- The state with some links: one from the slot, or else a new one, which takes the slot. -/
def reuse (slot : Nat) (links : Links) (linkBytes : Nat) : Drafting Nat := do
  match (← get).reusable[slot]? with
  | some (known, id) => if known = links then return id
  | none => pure ()
  let id ← newState linkBytes
  modify fun d => { d with reusable := d.reusable.insert slot (links, id) }
  return id

/-- Nothing is used again across sets. -/
def forget : Drafting Unit := modify fun d => { d with reusable := ∅ }

/-- A state with links still to come: those that are settled, and the range whose end is open. -/
structure OpenState where
  links : Links := []
  last : Option ByteRange := none

/-- Leads the open range on to a state. -/
def OpenState.settle (s : OpenState) (next : Nat) : Links :=
  match s.last with
  | some r => s.links ++ [(r, next)]
  | none => s.links

/-- The state with some links on the way of reading forward. -/
def reuseForward (links : Links) : Drafting Nat :=
  reuse (hash (links.flatMap fun (r, next) => [r.low, r.high, next]) % 10000) links
    (8 * links.length)

/-- Settles open states from the innermost outwards. -/
def settleAll (target : Nat) : List OpenState → Drafting Nat
  | [] => pure target
  | s :: inner => do reuseForward (s.settle (← settleAll target inner))

/-- Adds a sequence behind all others to the open states, from the outermost inwards. -/
def addForward (target : Nat) : List OpenState → ByteSequence → Drafting (List OpenState)
  | s :: inner, r :: rest => do
    if s.last = some r then return s :: (← addForward target inner rest)
    else
      let next ← settleAll target inner
      return ⟨s.settle next, some r⟩ :: rest.map fun r => ⟨[], some r⟩
  | states, _ => pure states

/-- A set for reading forward: sequences share what they end with. -/
def forwardSet (s : CharSet) : Drafting Unit := do
  forget
  let target ← newState 0
  let states ← (ByteSequence.ofSet s).foldlM (addForward target) [{}]
  let _ ← settleAll target states

/-- One sequence for reading backward, which begins with its last byte. -/
def addBackward (target : Nat) (seq : ByteSequence) : Drafting Unit := do
  let _ ← seq.foldlM (fun next r => reuse (hash [next, r.low, r.high] % 1000) [(r, next)] 0) target
  branchLinks 1

/-- A set for reading backward. -/
def backwardSet (s : CharSet) : Drafting Unit := do
  forget
  let _ ← newState 0
  let target ← newState 0
  (ByteSequence.ofSet s).forM (addBackward target)

/-- A set of characters. Sets below 128 take one state with a link for each range. -/
def ofSet (backward : Bool) (s : CharSet) : Drafting Unit := do
  if s.isAscii then
    plainStates 1
    let _ ← newState (8 * s.ranges.length)
  else if backward then backwardSet s
  else forwardSet s

/-! ## Alternatives of literals -/

/-- The runs of nonempty lists between empty ones. -/
def runs : List (List Nat) → List (List (List Nat))
  | [] => [[]]
  | [] :: rest => [] :: runs rest
  | bs :: rest =>
    match runs rest with
    | run :: more => (bs :: run) :: more
    | [] => [[bs]]

/-- What follows a byte in the lists that begin with it. -/
def behind (b : Nat) (run : List (List Nat)) : List (List Nat) :=
  run.filterMap fun
    | c :: rest => if c = b then some rest else none
    | [] => none

/-- A tree of literals, given as what is left of them here, in the order in which they are preferred. An
empty rest is an end, and a preferred end parts those before it from those behind it. -/
def ofLiterals : Nat → List (List Nat) → Drafting Unit
  | 0, _ => pure ()
  | fuel + 1, rests => do
    let parts := (runs rests).filter (· ≠ [])
    let ends := (rests.dropWhile (· = [])).count [] + (if rests.head? = some [] then 1 else 0)
    for part in parts do
      let firsts := (part.filterMap List.head?).eraseDups
      for b in firsts do
        let inner := behind b part
        if inner.any (· ≠ []) then ofLiterals fuel inner
      let _ ← newState (if firsts.length = 1 then 0 else 8 * firsts.length)
    let _ ← newState (4 * (parts.length + ends))

/-! ## Copies -/

/-- Further copies of a part behind a first one. -/
def moreCopies (copy : Drafting Bool) : Nat → Bool → Drafting Bool
  | 0, branches, d => some (branches, d)
  | n + 1, branches, d =>
    match copy d with
    | some (last, d) =>
      match leadOn branches d with
      | some (_, d) => moreCopies copy n last d
      | none => none
    | none => none

/-- Exactly `n` copies of a part. -/
def copies (copy : Drafting Bool) : Nat → Drafting Bool
  | 0 => do
    plainStates 1
    return false
  | n + 1 => do moreCopies copy n (← copy)

/-- Up to `n` copies of a part behind another; each may be left out together with all that follow. -/
def optionalCopies (copy : Drafting Bool) : Nat → Bool → Drafting Bool
  | 0, branches, d => (leadOn branches d).map fun (_, d) => (false, d)
  | n + 1, branches, d =>
    match (do plainStates 1; let last ← copy; leadOn branches; branchLinks 2; return last :
        Drafting Bool) d with
    | some (last, d) => optionalCopies copy n last d
    | none => none

/-- A repetition without an upper bound, given whether the part always takes a character. -/
def unbounded (copy : Drafting Bool) (takesText : Bool) : Nat → Drafting Bool
  | 0 => do
    if takesText then
      plainStates 1
      branchLinks 1
      leadOn (← copy)
      return true
    else
      leadOn (← copy)
      plainStates 3
      branchLinks 4
      return false
  | n + 1 => do
    if n = 0 then leadOn (← copy)
    else
      leadOn (← copies copy n)
      leadOn (← copy)
    plainStates 1
    branchLinks 1
    return true

def repetition (copy : Drafting Bool) (takesText : Bool) (min : Nat) : Option Nat → Drafting Bool
  | none => unbounded copy takesText min
  | some max => do
    if min = 0 ∧ max = 1 then
      plainStates 1
      let last ← copy
      plainStates 1
      branchLinks 2
      leadOn last
      return false
    else if min = max then copies copy min
    else
      let first ← copies copy min
      plainStates 1
      optionalCopies copy (max - min) first

/-! ## Expressions -/

/-- The text of a literal, if it is one. -/
def literal? : Shape → Option (List Char)
  | .literal text => some text
  | _ => none

def bytesOf (text : List Char) : List Nat := text.flatMap fun c => ByteSequence.encode c.toNat

/-- Alternatives that are all literals, in order. -/
def literals (backward : Bool) (texts : List (List Char)) : Drafting Bool := do
  let rests := texts.map fun text => if backward then (bytesOf text).reverse else bytesOf text
  plainStates 1
  ofLiterals ((rests.map List.length).foldr max 0 + 1) rests
  return false

mutual

/-- Drafts a part, read in one direction or the other, and says whether its last state branches. -/
def ofShape (backward : Bool) : Shape → Drafting Bool
  | .empty | .look _ => do
    plainStates 1
    return false
  | .literal text => do
    plainStates (bytesOf text).length
    return false
  | .one set => do
    ofSet backward set
    return false
  | .capture s => do
    if backward then ofShape backward s
    else
      plainStates 1
      let last ← ofShape backward s
      plainStates 1
      leadOn last
      return false
  | .rep s min max _ =>
    repetition (ofShape backward s) (s.leastLength.any (0 < ·)) min max
  | .concat ss => do
    if backward then ofItemsBackward ss
    else ofItems false none ss
  | .alternation ss => do
    match ss.mapM literal? with
    | some texts => literals backward texts
    | none =>
      ofBranches backward 0 ss
      return false

/-- Drafts the items of a sequence behind another part, if there is one. -/
def ofItems (backward : Bool) (previous : Option Bool) : List Shape → Drafting Bool
  | [] => return previous.getD false
  | s :: ss => do
    let last ← ofShape backward s
    leadOn (previous.getD false)
    ofItems backward (some last) ss

/-- Drafts the items of a sequence from the last to the first. -/
def ofItemsBackward : List Shape → Drafting Bool
  | [] => return false
  | s :: ss => do
    let previous ← ofItemsBackward ss
    let last ← ofShape true s
    leadOn previous
    return last

/-- Drafts alternatives, given how many there were before. With the second come the states where they
part and meet. -/
def ofBranches (backward : Bool) (before : Nat) : List Shape → Drafting Unit
  | [] => pure ()
  | s :: ss => do
    let last ← ofShape backward s
    if before = 1 then plainStates 2
    branchLinks 1
    leadOn last
    ofBranches backward (before + 1) ss

end

/-- The whole automaton. Unless matches begin where reading begins, it may skip bytes first. -/
def whole (backward : Bool) (s : Shape) : Drafting Unit := do
  if if backward then s.endsAtEnd else s.beginsAtStart then plainStates 1
  else
    plainStates 3
    branchLinks 4
  let last ← ofShape backward (if backward then s else .capture s)
  leadOn last
  plainStates 1

end Draft

namespace Shape

/-- Whether the automata for both directions of reading stay within the limit. -/
def fits (s : Shape) : Bool :=
  [false, true].all fun backward => ((Draft.whole backward s).run {}).isSome

end Shape

end Wayfinder.Regex
