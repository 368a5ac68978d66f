import Wayfinder.Route.Pattern
/-!
# The routing trie

Patterns with a value each, kept as a tree whose edges carry segments. The edges below a node stand in
order of precedence: literals in order of their text, regular expressions in order of arrival, the
parameter, the wildcard. A lookup walks the edges in that order and backs out of dead ends, so the first
pattern in the order of `entries` that matches a path is the one found.
-/

namespace Wayfinder.Route

/-- A pattern with its value. -/
structure Entry (α : Type) where
  pattern : Pattern
  value : α

/-- A found value with what the path bound. -/
structure Hit (α : Type) where
  entry : Entry α
  params : Params

/-- The edges below a node. Each holds its segment, the entry that ends behind it, and the edges
below. -/
inductive Edges (α : Type)
  | nil
  | cons (segment : Segment) (terminal : Option (Entry α)) (below siblings : Edges α)

/-- A node: the entry that ends there and the edges below. -/
structure Node (α : Type) where
  terminal : Option (Entry α) := none
  below : Edges α := .nil

/-- Why an entry finds no place. -/
inductive Clash
  | names (existing attempted : String)
  | occupied (existing : Pattern)

namespace Clash

def toError (pattern : Pattern) : Clash → RouteError
  | names existing attempted => .duplicateParam pattern.raw existing attempted
  | occupied existing => .conflict none existing.raw pattern.raw

end Clash

namespace Edges

variable {α : Type}

/-- Walks the edges below to the first entry that matches a path. What the walk binds is put behind
`bag`. A branch that leads nowhere drops what it bound; one that binds nothing sets no mark and leaves
that to the branches below it. -/
def search : Edges α → List String → Params → Option (Entry α) × Params
  | nil, _, bag => (none, bag)
  | cons segment terminal below siblings, path, bag =>
    match segment.step? path with
    | none => siblings.search path bag
    | some (bound, rest) =>
      match if rest.isEmpty then terminal else none with
      | some e => (some e, bag ++ bound)
      | none => match below.search rest (bag ++ bound) with
        | (some e, filled) => (some e, filled)
        | (none, left) =>
          siblings.search path (if bound.isEmpty then left else left.take bag.length)

/-- A single branch for an entry. -/
def branch (e : Entry α) (siblings : Edges α) : Segment → List Segment → Edges α
  | s, [] => cons s (some e) nil siblings
  | s, s' :: rest => cons s none (branch e nil s' rest) siblings

/-- Puts an entry in its place below, unless it clashes with what is there. -/
def insert (e : Entry α) : Edges α → Segment → List Segment → Except Clash (Edges α)
  | nil, s, rest => .ok (branch e nil s rest)
  | cons segment terminal below siblings, s, rest =>
    if segment.sameSlot s then
      if segment = s then
        match rest with
        | [] => match terminal with
          | some old => .error (.occupied old.pattern)
          | none => .ok (cons segment (some e) below siblings)
        | s' :: rest => (below.insert e s' rest).map (cons segment terminal · siblings)
      else .error (.names (segment.name?.getD "") (s.name?.getD ""))
    else if s.precedes segment then .ok (branch e (cons segment terminal below siblings) s rest)
    else (siblings.insert e s rest).map (cons segment terminal below)

/-- Visits the node behind a segment, which is made if it is missing. What the visit makes of the node
stays, also when the visit ends in a clash. -/
def visit (f : Node α → Node α × Option Clash) : Edges α → Segment → Edges α × Option Clash
  | nil, s =>
    let (node, clash) := f {}
    (cons s node.terminal node.below nil, clash)
  | cons segment terminal below siblings, s =>
    if segment.sameSlot s then
      if segment = s then
        let (node, clash) := f ⟨terminal, below⟩
        (cons segment node.terminal node.below siblings, clash)
      else
        (cons segment terminal below siblings,
          some (.names (segment.name?.getD "") (s.name?.getD "")))
    else if s.precedes segment then
      let (node, clash) := f {}
      (cons s node.terminal node.below (cons segment terminal below siblings), clash)
    else
      let (siblings, clash) := siblings.visit f s
      (cons segment terminal below siblings, clash)

/-- The entry whose segments are exactly the given ones. -/
def find? : Edges α → Segment → List Segment → Option (Entry α)
  | nil, _, _ => none
  | cons segment terminal below siblings, s, rest =>
    if segment = s then
      match rest with
      | [] => terminal
      | s' :: rest => below.find? s' rest
    else siblings.find? s rest

/-- Changes the value of the entry whose segments are exactly the given ones. -/
def modify (f : α → α) : Edges α → Segment → List Segment → Edges α
  | nil, _, _ => nil
  | cons segment terminal below siblings, s, rest =>
    if segment = s then
      match rest with
      | [] => cons segment (terminal.map fun e => { e with value := f e.value }) below siblings
      | s' :: rest => cons segment terminal (below.modify f s' rest) siblings
    else cons segment terminal below (siblings.modify f s rest)

/-- All entries below in order of precedence. -/
def entries : Edges α → List (Entry α)
  | nil => []
  | cons _ terminal below siblings => terminal.toList ++ below.entries ++ siblings.entries

end Edges

/-- Walks from a node to the place of an entry and puts it there. Nodes that are missing are made on
the way, before it is known whether the place is free. -/
def Node.place {α : Type} (e : Entry α) : List Segment → Node α → Node α × Option Clash
  | [], node => match node.terminal with
    | some old => (node, some (.occupied old.pattern))
    | none => ({ node with terminal := some e }, none)
  | s :: rest, node =>
    let (below, clash) := node.below.visit (place e rest) s
    ({ node with below }, clash)

/-- A trie: the entry of the pattern `/`, the edges of all others, and the number of entries. -/
structure Trie (α : Type) where
  root : Option (Entry α) := none
  edges : Edges α := .nil
  size : Nat := 0

namespace Trie

variable {α : Type}

/-- Adds a value under a pattern. A failed insertion leaves nothing behind. -/
def insert (t : Trie α) (pattern : Pattern) (value : α) : Except RouteError (Trie α) :=
  let e : Entry α := ⟨pattern, value⟩
  match pattern.segments with
  | [] => match t.root with
    | some old => .error (Clash.toError pattern (.occupied old.pattern))
    | none => .ok { t with root := some e, size := t.size + 1 }
  | s :: rest => match t.edges.insert e s rest with
    | .ok edges => .ok { t with edges, size := t.size + 1 }
    | .error clash => .error (clash.toError pattern)

/-- The same in place: the trie as the walk leaves it, and the error if there is one. -/
def insertInPlace (t : Trie α) (pattern : Pattern) (value : α) : Trie α × Option RouteError :=
  let (node, clash) := Node.place ⟨pattern, value⟩ pattern.segments ⟨t.root, t.edges⟩
  let walked : Trie α := { t with root := node.terminal, edges := node.below }
  match clash with
  | none => ({ walked with size := t.size + 1 }, none)
  | some clash => (walked, some (clash.toError pattern))

/-- The entry with precedence among those that match a path, with what the path bound. -/
def lookup (t : Trie α) (path : List String) : Option (Hit α) :=
  match if path.isEmpty then t.root else none with
  | some e => some ⟨e, []⟩
  | none => match t.edges.search path [] with
    | (some e, params) => some ⟨e, params⟩
    | (none, _) => none

/-- Whether any pattern matches a path. -/
def matchesPath (t : Trie α) (path : List String) : Bool := (t.lookup path).isSome

/-- The value under a pattern with the same segments. -/
def get? (t : Trie α) (pattern : Pattern) : Option α :=
  match pattern.segments with
  | [] => t.root.map Entry.value
  | s :: rest => (t.edges.find? s rest).map Entry.value

/-- Changes the value under a pattern with the same segments. -/
def modify (t : Trie α) (pattern : Pattern) (f : α → α) : Trie α :=
  match pattern.segments with
  | [] => { t with root := t.root.map fun e => { e with value := f e.value } }
  | s :: rest => { t with edges := t.edges.modify f s rest }

/-- All entries in order of precedence. -/
def entries (t : Trie α) : List (Entry α) := t.root.toList ++ t.edges.entries

end Trie

end Wayfinder.Route
