import Mathlib.Data.List.Basic
import Mathlib.Data.List.Perm.Basic
import Wayfinder.Proofs.Route.Grammar
import Wayfinder.Proofs.Route.Trie
/-!
# Tries under a history of calls

A trie is used by insertions, reads and writes in any order. Beside the trie a history keeps
the list of the entries that were accepted, with the values last stored. The trie answers
every further call as a finite map does that has these entries under their segments.
-/

namespace Wayfinder.Route

open scoped List

variable {α : Type}

/-- One call on a trie. A write changes the value under a pattern, if there is one. -/
inductive Call (α : Type)
  | insert (pattern : Pattern) (value : α)
  | get (pattern : Pattern)
  | write (pattern : Pattern) (change : α → α)

/-- A trie beside the entries that it accepted, in the order of acceptance. -/
structure History (α : Type) where
  trie : Trie α := {}
  accepted : List (Entry α) := []

namespace Entry

/-- Changes the value of an entry if it has the given segments. -/
def writeAt (segments : List Segment) (change : α → α) (e : Entry α) : Entry α :=
  if e.pattern.segments = segments then { e with value := change e.value } else e

@[simp] theorem pattern_writeAt (segments : List Segment) (change : α → α) (e : Entry α) :
    (e.writeAt segments change).pattern = e.pattern := by
  unfold writeAt
  split <;> rfl

end Entry

namespace History

/-- The trie makes the call. The list grows by what was accepted, and a write changes the
entry with the same segments. -/
def step (h : History α) : Call α → History α
  | .insert p v =>
    match h.trie.insert p v with
    | .ok t => ⟨t, h.accepted ++ [⟨p, v⟩]⟩
    | .error _ => h
  | .get _ => h
  | .write p change => ⟨h.trie.modify p change, h.accepted.map (Entry.writeAt p.segments change)⟩

/-- The history of some calls on an empty trie. -/
def run (calls : List (Call α)) : History α := calls.foldl step {}

/-- The accepted entries under their segments. -/
def keyed (entries : List (Entry α)) : List (Trail α) :=
  entries.map fun e => (e.pattern.segments, e)

/-- The trie has just the accepted entries, each under the segments of its pattern. -/
structure Sound (h : History α) : Prop where
  valid : h.trie.edges.Valid
  trails_perm : h.trie.trails.Perm (keyed h.accepted)
  size_eq : h.trie.size = h.accepted.length

theorem keyed_map_writeAt (segments : List Segment) (change : α → α) (entries : List (Entry α)) :
    keyed (entries.map (Entry.writeAt segments change)) =
      (keyed entries).map (Edges.changeAt change segments) := by
  simp only [keyed, List.map_map]
  refine List.map_congr_left fun e _ => ?_
  by_cases he : e.pattern.segments = segments <;> simp [Entry.writeAt, Edges.changeAt, he]

namespace Sound

theorem empty : Sound ({} : History α) := ⟨trivial, .refl _, rfl⟩

theorem step {h : History α} (hs : h.Sound) (call : Call α) : (h.step call).Sound := by
  cases call with
  | insert p v =>
    rw [History.step]
    cases hinsert : h.trie.insert p v with
    | error => exact hs
    | ok t =>
      obtain ⟨hvalid, hperm, hsize⟩ := Trie.insert_eq_ok hs.valid hinsert
      refine ⟨hvalid, ?_, by simp [hsize, hs.size_eq]⟩
      calc t.trails
        _ ~ (p.segments, ⟨p, v⟩) :: h.trie.trails := hperm
        _ ~ (p.segments, ⟨p, v⟩) :: keyed h.accepted := hs.trails_perm.cons _
        _ ~ keyed h.accepted ++ [(p.segments, ⟨p, v⟩)] := (List.perm_append_singleton _ _).symm
        _ = keyed (h.accepted ++ [⟨p, v⟩]) := by simp [keyed]
  | get p => exact hs
  | write p change =>
    refine ⟨Trie.valid_modify hs.valid p change, ?_, by simp [History.step, hs.size_eq]⟩
    simp only [History.step, Trie.trails_modify hs.valid, keyed_map_writeAt]
    exact hs.trails_perm.map _

theorem run (calls : List (Call α)) : (History.run calls).Sound := by
  have hfold : ∀ h : History α, h.Sound → (calls.foldl History.step h).Sound := by
    induction calls with
    | nil => exact fun _ hs => hs
    | cons call calls ih => exact fun h hs => ih _ (hs.step call)
  exact hfold {} empty

variable {h : History α} (hs : h.Sound)

include hs

theorem mem_trails {segments : List Segment} {e : Entry α} :
    (segments, e) ∈ h.trie.trails ↔ e ∈ h.accepted ∧ e.pattern.segments = segments := by
  rw [hs.trails_perm.mem_iff, keyed, List.mem_map]
  constructor
  · rintro ⟨_, he, heq⟩
    cases heq
    exact ⟨he, rfl⟩
  · rintro ⟨he, rfl⟩
    exact ⟨e, he, rfl⟩

theorem get?_eq (p : Pattern) : h.trie.get? p =
    (h.accepted.find? fun e => e.pattern.segments = p.segments).map Entry.value := by
  have hmem : ∀ v, h.trie.get? p = some v ↔
      ∃ e ∈ h.accepted, e.pattern.segments = p.segments ∧ e.value = v := by
    simp [Trie.get?_eq_some_iff hs.valid, hs.mem_trails, and_assoc]
  cases hfind : h.accepted.find? fun e => e.pattern.segments = p.segments with
  | none =>
    refine Option.eq_none_iff_forall_ne_some.2 fun v hv => ?_
    obtain ⟨e, he, hp, -⟩ := (hmem v).1 hv
    simpa [hp] using List.find?_eq_none.1 hfind e he
  | some e =>
    refine (hmem _).2 ⟨e, List.mem_of_find?_eq_some hfind, ?_, rfl⟩
    simpa using List.find?_some hfind

theorem wildcardLast : ∀ r ∈ h.trie.trails, WildcardLast r.1 := by
  intro r hr
  obtain ⟨-, hsegments⟩ := hs.mem_trails.1 hr
  exact hsegments ▸ r.2.pattern.wildcardLast

theorem lookup_eq_none_iff {path : List String} : h.trie.lookup path = none ↔
    ∀ q ∈ h.accepted, ¬ Fits q.pattern.segments path := by
  rw [Trie.lookup_eq, Option.map_eq_none_iff, Edges.firstFit_eq_none_iff hs.wildcardLast]
  constructor
  · exact fun hnone q hq => hnone _ (hs.mem_trails.2 ⟨hq, rfl⟩)
  · rintro hnone ⟨segments, e⟩ hr
    obtain ⟨he, rfl⟩ := hs.mem_trails.1 hr
    exact hnone e he

theorem lookup_eq_some {path : List String} {hit : Hit α}
    (hhit : h.trie.lookup path = some hit) :
    ∃ before after, h.trie.trails = before ++ (hit.entry.pattern.segments, hit.entry) :: after ∧
      hit.params = captures hit.entry.pattern.segments path ∧
      Fits hit.entry.pattern.segments path ∧ ∀ r ∈ before, ¬ Fits r.1 path := by
  rw [Trie.lookup_eq] at hhit
  obtain ⟨found, hfound, rfl⟩ := Option.map_eq_some_iff.1 hhit
  obtain ⟨before, ⟨segments, e⟩, after, htrails, rfl, hfit, hbefore⟩ :=
    Edges.firstFit_eq_some hs.wildcardLast hfound
  obtain ⟨-, rfl⟩ := hs.mem_trails.1 (htrails ▸ List.mem_append_right _ (List.mem_cons_self ..))
  exact ⟨before, after, htrails, rfl, hfit, hbefore⟩

end Sound

end History

end Wayfinder.Route
