import Wayfinder.Proofs.Route.Canonical
import Wayfinder.Proofs.Route.InPlace
/-!
# The nodes of a trie

Every node of a trie, with the segments that lead to it. Insertions walk in place and writes change values
where they are; whatever they do, and also when they fail, no node is left without an entry at or below it,
each stands under segments that a pattern can have, and an entry stands under those of its own pattern.
-/

namespace Wayfinder.Route

variable {α : Type}

namespace Segment

/-- The text of the expression that restricts a segment. -/
def source? : Segment → Option String
  | regex _ restriction => some restriction.source
  | _ => none

theorem source?_eq_some_iff {s : Segment} {source : String} :
    s.source? = some source ↔ ∃ name r, s = .regex name r ∧ r.source = source := by
  cases s <;> simp [source?]

theorem source_ne_of_slots {s t : Segment} (hslots : s.sameSlot t = false) {a b : String}
    (ha : s.source? = some a) (hb : t.source? = some b) : a ≠ b := by
  obtain ⟨_, q, rfl, rfl⟩ := source?_eq_some_iff.1 ha
  obtain ⟨_, r, rfl, rfl⟩ := source?_eq_some_iff.1 hb
  simpa [sameSlot] using hslots

end Segment

namespace Node

/-- The entries at a node and below it. -/
def entries (node : Node α) : List (Entry α) := node.terminal.toList ++ node.below.entries

/-- The shape of a node that some segments lead to. -/
structure Formed (path : List Segment) (node : Node α) : Prop where
  /-- Only the root may have no entry. -/
  entries_ne_nil : path ≠ [] → node.entries ≠ []
  /-- A wildcard leads to an entry and no further. -/
  wildcard : path.getLast? = some .wildcard → node.terminal.isSome ∧ node.below = .nil
  literal : ∀ text, path.getLast? = some (.literal text) → text ≠ "" ∧ '/' ∉ text.toList
  /-- No two edges take the same place, so no two expressions have the same text. -/
  slots : node.below.heads.Pairwise fun s t => s.sameSlot t = false
  nodup_sources : (node.below.heads.filterMap Segment.source?).Nodup
  /-- The text of an entry is read as the segments that lead to it. -/
  parse_terminal : ∀ e, node.terminal = some e →
    ∃ p, Pattern.parse e.pattern.raw = .ok p ∧ p.segments = path

end Node

namespace Edges

/-- The nodes below with the segments that lead to them, each in front of those below it. -/
def nodes : Edges α → List (List Segment × Node α)
  | nil => []
  | cons s terminal below siblings =>
    ([s], ⟨terminal, below⟩) :: (below.nodes.map fun n => (s :: n.1, n.2)) ++ siblings.nodes

theorem mem_nodes_cons {s : Segment} {terminal : Option (Entry α)} {below siblings : Edges α}
    {path : List Segment} {node : Node α} :
    (path, node) ∈ (cons s terminal below siblings).nodes ↔
      (path = [s] ∧ node = ⟨terminal, below⟩) ∨ (∃ rest, path = s :: rest ∧ (rest, node) ∈ below.nodes) ∨
        (path, node) ∈ siblings.nodes := by
  simp only [nodes, List.cons_append, List.mem_cons, List.mem_append, List.mem_map, Prod.mk.injEq,
    Prod.exists]
  refine or_congr_right (or_congr_left ?_)
  constructor
  · rintro ⟨rest, _, hnode, rfl, rfl⟩
    exact ⟨rest, rfl, hnode⟩
  · rintro ⟨rest, rfl, hnode⟩
    exact ⟨rest, node, hnode, rfl, rfl⟩

/-- There are as many trails as nodes with an entry. -/
theorem length_trails (es : Edges α) :
    es.trails.length = es.nodes.countP (·.2.terminal.isSome) := by
  induction es with
  | nil => rfl
  | cons s terminal below siblings ihb ihs =>
    have hunder : (below.nodes.map fun n => (s :: n.1, n.2)).countP (·.2.terminal.isSome) =
        below.nodes.countP (·.2.terminal.isSome) := by
      rw [List.countP_map]
      rfl
    rw [nodes, List.cons_append, List.countP_cons, List.countP_append, hunder, ← ihb, ← ihs]
    cases terminal <;> simp [trails, Nat.add_right_comm]

variable {es : Edges α} {path : List Segment} {node : Node α}

/-- What a node has at its place is a trail. -/
theorem mem_trails_of_terminal (h : (path, node) ∈ es.nodes) {e : Entry α}
    (he : node.terminal = some e) : (path, e) ∈ es.trails := by
  induction es generalizing path with
  | nil => cases h
  | cons s terminal below siblings ihb ihs =>
    rcases mem_nodes_cons.1 h with ⟨rfl, rfl⟩ | ⟨rest, rfl, hbelow⟩ | hsiblings
    · exact mem_trails_cons.2 (.inl ⟨[], rfl, .inl ⟨rfl, he⟩⟩)
    · exact mem_trails_cons.2 (.inl ⟨rest, rfl, .inr (ihb hbelow)⟩)
    · exact mem_trails_cons.2 (.inr (ihs hsiblings))

/-- A trail below a node goes on behind the segments that lead to the node. -/
theorem mem_trails_of_below (h : (path, node) ∈ es.nodes) {r : Trail α} (hr : r ∈ node.below.trails) :
    (path ++ r.1, r.2) ∈ es.trails := by
  induction es generalizing path with
  | nil => cases h
  | cons s terminal below siblings ihb ihs =>
    rcases mem_nodes_cons.1 h with ⟨rfl, rfl⟩ | ⟨rest, rfl, hbelow⟩ | hsiblings
    · exact mem_trails_cons.2 (.inl ⟨r.1, rfl, .inr hr⟩)
    · exact mem_trails_cons.2 (.inl ⟨rest ++ r.1, rfl, .inr (ihb hbelow)⟩)
    · exact mem_trails_cons.2 (.inr (ihs hsiblings))

namespace Valid

theorem of_mem_nodes (hes : es.Valid) (h : (path, node) ∈ es.nodes) :
    (node.terminal.isSome ∨ node.below.heads ≠ []) ∧ node.below.Valid := by
  induction es generalizing path with
  | nil => cases h
  | cons s terminal below siblings ihb ihs =>
    obtain ⟨-, hlive, hbelow, hsiblings⟩ := hes
    rcases mem_nodes_cons.1 h with ⟨-, rfl⟩ | ⟨_, -, hnode⟩ | hnode
    · exact ⟨hlive, hbelow⟩
    · exact ihb hbelow hnode
    · exact ihs hsiblings hnode

theorem pairwise_ahead (hes : es.Valid) : es.heads.Pairwise Segment.Ahead := by
  induction es with
  | nil => exact .nil
  | cons s terminal below siblings _ ih => exact .cons hes.1 (ih hes.2.2.2)

/-- Below every node but the root there is an entry, in a trail through the node. -/
theorem exists_trail_through (hes : es.Valid) (h : (path, node) ∈ es.nodes) :
    ∃ rest e, (path ++ rest, e) ∈ es.trails ∧ e ∈ node.entries := by
  obtain ⟨hlive, hbelow⟩ := hes.of_mem_nodes h
  rcases hlive with hterminal | hheads
  · obtain ⟨e, he⟩ := Option.isSome_iff_exists.1 hterminal
    refine ⟨[], e, ?_, by simp [Node.entries, he]⟩
    simpa using mem_trails_of_terminal h he
  · obtain ⟨t, ht⟩ := List.exists_mem_of_ne_nil _ hheads
    obtain ⟨r, hr, -⟩ := hbelow.exists_trail ht
    refine ⟨r.1, r.2, mem_trails_of_below h hr, ?_⟩
    rw [Node.entries, ← map_snd_trails]
    exact List.mem_append_right _ (List.mem_map_of_mem hr)

end Valid

end Edges

namespace Trie

/-- All nodes with the segments that lead to them, the root first. -/
def nodes (t : Trie α) : List (List Segment × Node α) := ([], ⟨t.root, t.edges⟩) :: t.edges.nodes

theorem length_trails (t : Trie α) : t.trails.length = t.nodes.countP (·.2.terminal.isSome) := by
  rw [nodes, List.countP_cons, ← Edges.length_trails, trails]
  cases t.root <;> simp [Nat.add_comm]

theorem mem_trails_of_terminal {t : Trie α} {path : List Segment} {node : Node α}
    (hnode : (path, node) ∈ t.nodes) {e : Entry α} (he : node.terminal = some e) :
    (path, e) ∈ t.trails := by
  rcases List.mem_cons.1 hnode with hroot | hnode
  · cases hroot
    exact nil_mem_trails.2 he
  · exact mem_trails.2 (.inr (Edges.mem_trails_of_terminal hnode he))

/-- The trie after a call. An insertion walks in place, and what the walk makes stays. -/
def call (t : Trie α) : Call α → Trie α
  | .insert p v => (t.insertInPlace p v).1
  | .get _ => t
  | .write p change => t.modify p change

def callAll (calls : List (Call α)) : Trie α := calls.foldl call {}

theorem call_trie (h : History α) (call : Call α) : h.trie.call call = (h.step call).trie := by
  cases call with
  | insert p v =>
    rw [Trie.call, insertInPlace_eq, History.step]
    cases h.trie.insert p v <;> rfl
  | get p => rfl
  | write p change => rfl

theorem callAll_eq (calls : List (Call α)) : callAll calls = (History.run calls).trie := by
  have hfold : ∀ h : History α, calls.foldl call h.trie = (calls.foldl History.step h).trie := by
    induction calls with
    | nil => exact fun _ => rfl
    | cons first calls ih =>
      intro h
      rw [List.foldl_cons, List.foldl_cons, call_trie, ih]
  exact hfold {}

end Trie

namespace History.Sound

variable {h : History α} (hs : h.Sound)

include hs

theorem valid_below {path : List Segment} {node : Node α} (hnode : (path, node) ∈ h.trie.nodes) :
    node.below.Valid := by
  rcases List.mem_cons.1 hnode with hroot | hnode
  · cases hroot
    exact hs.valid
  · exact (hs.valid.of_mem_nodes hnode).2

/-- The segments that lead to a node other than the root are those that some pattern begins with. -/
theorem exists_pattern_through {path : List Segment} {node : Node α}
    (hnode : (path, node) ∈ h.trie.edges.nodes) :
    ∃ e ∈ node.entries, path <+: e.pattern.segments := by
  obtain ⟨rest, e, htrail, he⟩ := hs.valid.exists_trail_through hnode
  obtain ⟨-, hsegments⟩ := hs.mem_trails.1 (Trie.mem_trails.2 (.inr htrail))
  exact ⟨e, he, rest, hsegments.symm⟩

theorem below_of_wildcard {front : List Segment} {node : Node α}
    (hnode : (front ++ [.wildcard], node) ∈ h.trie.edges.nodes) : node.below = .nil := by
  cases hbelow : node.below with
  | nil => rfl
  | cons s terminal below siblings =>
    have hvalid := (hs.valid.of_mem_nodes hnode).2
    have hhead : s ∈ node.below.heads := by simp [hbelow, Edges.heads]
    obtain ⟨r, hr, rest, hrest⟩ := hvalid.exists_trail hhead
    have htrail := Edges.mem_trails_of_below hnode hr
    have hlast := hs.wildcardLast _ (Trie.mem_trails.2 (.inr htrail))
    -- a trail through the edge goes on behind the wildcard
    refine (hlast ?_).elim
    rw [hrest, List.append_assoc, List.dropLast_append_of_ne_nil (by simp)]
    simp

theorem formed_of_mem_nodes {path : List Segment} {node : Node α}
    (hnode : (path, node) ∈ h.trie.nodes) : node.Formed path := by
  have hslots := (hs.valid_below hnode).pairwise_ahead
  have hedges : path ≠ [] → (path, node) ∈ h.trie.edges.nodes := by
    intro hne
    rcases List.mem_cons.1 hnode with hroot | hedges
    · cases hroot
      exact (hne rfl).elim
    · exact hedges
  refine ⟨fun hne => ?_, fun hlast => ?_, fun text hlast => ?_, ?_, ?_, fun e he => ?_⟩
  · obtain ⟨e, he, -⟩ := hs.exists_pattern_through (hedges hne)
    exact List.ne_nil_of_mem he
  · obtain ⟨front, rfl⟩ := List.getLast?_eq_some_iff.1 hlast
    have hnode := hedges (by simp)
    have hnil := hs.below_of_wildcard hnode
    refine ⟨(hs.valid.of_mem_nodes hnode).1.resolve_right ?_, hnil⟩
    simp [hnil, Edges.heads]
  · obtain ⟨front, rfl⟩ := List.getLast?_eq_some_iff.1 hlast
    obtain ⟨e, -, hprefix⟩ := hs.exists_pattern_through (hedges (by simp))
    have hmem : .literal text ∈ e.pattern.segments := hprefix.subset (by simp)
    have hformed : (Segment.literal text).Formed := e.pattern.spells.formed _ hmem
    exact ⟨hformed.1, fun hslash => hformed.2 _ hslash (by decide)⟩
  · exact hslots.imp fun hst => hst.1
  · exact hslots.filterMap _ fun s t hst a ha b hb => Segment.source_ne_of_slots hst.1 ha hb
  · obtain ⟨-, hsegments⟩ := hs.mem_trails.1 (Trie.mem_trails_of_terminal hnode he)
    exact ⟨e.pattern, e.pattern.parse_raw, hsegments⟩

end History.Sound

/-- Whatever insertions, accepted or refused halfway, and writes a trie has seen, each of its nodes has the shape
of a node that the segments lead to, and the size is the number of nodes with an entry. -/
theorem Trie.calls_keep_nodes_formed (calls : List (Call α)) :
    let t := callAll calls
    (∀ path node, (path, node) ∈ t.nodes → node.Formed path) ∧
      t.size = t.nodes.countP (·.2.terminal.isSome) := by
  intro t
  have hs : (History.run calls).Sound := .run calls
  have ht : t = (History.run calls).trie := callAll_eq calls
  rw [ht]
  refine ⟨fun path node hnode => hs.formed_of_mem_nodes hnode, ?_⟩
  have hlength := hs.trails_perm.length_eq
  rw [Trie.length_trails] at hlength
  rw [hs.size_eq, hlength, History.keyed, List.length_map]

end Wayfinder.Route
