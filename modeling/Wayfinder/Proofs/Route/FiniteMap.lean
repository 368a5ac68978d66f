import Mathlib.Data.Nat.Find
import Wayfinder.Proofs.Route.History
/-!
# A trie is a finite map

Whatever calls a trie has seen, it answers an insertion, a read and a write as a finite map
from lists of segments to values does that refuses parameters of two names in one place.
-/

namespace Wayfinder.Route.History

variable {α : Type}

/-- Some accepted pattern has another name than `p` for the parameter at a position. -/
def Clashes (accepted : List (Entry α)) (p : Pattern) (i : Nat) (a b : String) : Prop :=
  ∃ q ∈ accepted, NamesClash q.pattern.segments p.segments i a b

/-- The first position at which some accepted pattern has another name for the parameter of
`p`. -/
def FirstClash (accepted : List (Entry α)) (p : Pattern) (i : Nat) (a b : String) : Prop :=
  Clashes accepted p i a b ∧ ∀ j < i, ∀ a' b', ¬ Clashes accepted p j a' b'

namespace Sound

variable {h : History α} (hs : h.Sound)

include hs

theorem insert_eq_duplicateParam_iff {p : Pattern} {v : α} {raw a b : String} :
    h.trie.insert p v = .error (.duplicateParam raw a b) ↔
      raw = p.raw ∧ ∃ i, Clashes h.accepted p i a b := by
  rw [Trie.insert_eq_duplicateParam_iff hs.valid]
  refine and_congr_right fun _ => ⟨?_, ?_⟩
  · rintro ⟨⟨segments, q⟩, hq, i, hclash⟩
    obtain ⟨hmem, rfl⟩ := hs.mem_trails.1 hq
    exact ⟨i, q, hmem, hclash⟩
  · rintro ⟨i, q, hmem, hclash⟩
    exact ⟨(q.pattern.segments, q), hs.mem_trails.2 ⟨hmem, rfl⟩, i, hclash⟩

/-- The names of a clash are those of the first one: an insertion has one answer only. -/
theorem exists_firstClash {p : Pattern} {i : Nat} {a b : String}
    (hclash : Clashes h.accepted p i a b) : ∃ j, FirstClash h.accepted p j a b := by
  classical
  have hex : ∃ j a' b', Clashes h.accepted p j a' b' := ⟨i, a, b, hclash⟩
  obtain ⟨a', b', hfirst⟩ := Nat.find_spec hex
  have hsame : ∀ v : α, h.trie.insert p v = .error (.duplicateParam p.raw a b) ∧
      h.trie.insert p v = .error (.duplicateParam p.raw a' b') := fun v =>
    ⟨hs.insert_eq_duplicateParam_iff.2 ⟨rfl, i, hclash⟩,
      hs.insert_eq_duplicateParam_iff.2 ⟨rfl, _, hfirst⟩⟩
  obtain ⟨q, -, -⟩ := hclash
  have heq := (hsame q.value).1.symm.trans (hsame q.value).2
  simp only [Except.error.injEq, RouteError.duplicateParam.injEq, true_and] at heq
  obtain ⟨rfl, rfl⟩ := heq
  exact ⟨Nat.find hex, hfirst, fun j hj a' b' hj' => Nat.find_min hex hj ⟨a', b', hj'⟩⟩

theorem insert_eq_conflict_iff {p : Pattern} {v : α} {method : Option String}
    {existing attempted : String} :
    h.trie.insert p v = .error (.conflict method existing attempted) ↔
      method = none ∧ attempted = p.raw ∧
        ∃ q ∈ h.accepted, q.pattern.segments = p.segments ∧ q.pattern.raw = existing := by
  rw [Trie.insert_eq_conflict_iff hs.valid]
  simp only [hs.mem_trails, and_assoc]

theorem exists_duplicateParam_iff {p : Pattern} {v : α} :
    (∃ raw a b, h.trie.insert p v = .error (.duplicateParam raw a b)) ↔
      ∃ i a b, Clashes h.accepted p i a b := by
  simp only [hs.insert_eq_duplicateParam_iff]
  constructor
  · rintro ⟨raw, a, b, -, i, hclash⟩
    exact ⟨i, a, b, hclash⟩
  · rintro ⟨i, a, b, hclash⟩
    exact ⟨p.raw, a, b, rfl, i, hclash⟩

theorem not_clashes {p : Pattern} {v : α} {answer : Except RouteError (Trie α)}
    (hanswer : h.trie.insert p v = answer)
    (hother : ∀ raw a b, answer ≠ .error (.duplicateParam raw a b)) (i : Nat) (a b : String) :
    ¬ Clashes h.accepted p i a b := fun hclash =>
  hother p.raw a b (hanswer.symm.trans (hs.insert_eq_duplicateParam_iff.2 ⟨rfl, i, hclash⟩))

theorem exists_ok_iff {p : Pattern} {v : α} : (∃ t, h.trie.insert p v = .ok t) ↔
    (∀ i a b, ¬ Clashes h.accepted p i a b) ∧
      ∀ q ∈ h.accepted, q.pattern.segments ≠ p.segments := by
  constructor
  · rintro ⟨t, ht⟩
    refine ⟨hs.not_clashes ht (by simp), fun q hq hsegments => ?_⟩
    have hconflict : h.trie.insert p v = .error (.conflict none q.pattern.raw p.raw) :=
      hs.insert_eq_conflict_iff.2 ⟨rfl, rfl, q, hq, hsegments, rfl⟩
    cases ht.symm.trans hconflict
  · rintro ⟨hclash, hplace⟩
    rcases h.trie.insert_cases p v with hok | ⟨a, b, hnames⟩ | ⟨x, hconflict⟩
    · exact hok
    · obtain ⟨-, i, hi⟩ := hs.insert_eq_duplicateParam_iff.1 hnames
      exact (hclash i a b hi).elim
    · obtain ⟨-, -, q, hq, hsegments, -⟩ := hs.insert_eq_conflict_iff.1 hconflict
      exact (hplace q hq hsegments).elim

theorem get?_modify (p q : Pattern) (change : α → α) : (h.trie.modify p change).get? q =
    if q.segments = p.segments then (h.trie.get? q).map change else h.trie.get? q := by
  have hwrite := (hs.step (.write p change)).get?_eq q
  simp only [History.step, List.find?_map, Function.comp_def, Entry.pattern_writeAt,
    Option.map_map] at hwrite
  rw [hwrite, hs.get?_eq]
  cases hfind : h.accepted.find? fun e => e.pattern.segments = q.segments with
  | none => simp
  | some e =>
    have he : e.pattern.segments = q.segments := by simpa using List.find?_some hfind
    by_cases hqp : q.segments = p.segments <;> simp [Entry.writeAt, he, hqp]

theorem entries_modify (p : Pattern) (change : α → α) :
    (h.trie.modify p change).entries = h.trie.entries.map (Entry.writeAt p.segments change) := by
  rw [← Trie.map_snd_trails, ← Trie.map_snd_trails, Trie.trails_modify hs.valid, List.map_map,
    List.map_map]
  refine List.map_congr_left fun r hr => ?_
  obtain ⟨-, hr⟩ := hs.mem_trails.1 hr
  by_cases hp : r.1 = p.segments <;> simp [Edges.changeAt, Entry.writeAt, hr, hp]

end Sound

/-- After any calls, an insertion fails with the names of the first clash with an accepted
pattern if there is one, else with the two texts if a pattern with the same segments was
accepted, and is accepted otherwise. A read gives the value stored under the segments of the
pattern, a write changes it and leaves all other entries, and the size is the number of
accepted insertions. -/
theorem trie_is_finite_map (calls : List (Call α)) (p : Pattern) (v : α) (change : α → α) :
    let trie := (run calls).trie
    let accepted := (run calls).accepted
    (∀ raw a b, trie.insert p v = .error (.duplicateParam raw a b) ↔
      raw = p.raw ∧ ∃ i, FirstClash accepted p i a b) ∧
    ((∃ raw a b, trie.insert p v = .error (.duplicateParam raw a b)) ↔
      ∃ i a b, Clashes accepted p i a b) ∧
    (∀ method existing attempted, trie.insert p v = .error (.conflict method existing attempted) ↔
      (∀ i a b, ¬ Clashes accepted p i a b) ∧ method = none ∧ attempted = p.raw ∧
        ∃ q ∈ accepted, q.pattern.segments = p.segments ∧ q.pattern.raw = existing) ∧
    ((∃ t, trie.insert p v = .ok t) ↔
      (∀ i a b, ¬ Clashes accepted p i a b) ∧
        ∀ q ∈ accepted, q.pattern.segments ≠ p.segments) ∧
    trie.get? p =
      (accepted.find? fun e => e.pattern.segments = p.segments).map Entry.value ∧
    (∀ q, (trie.modify p change).get? q =
      if q.segments = p.segments then (trie.get? q).map change else trie.get? q) ∧
    (trie.modify p change).entries = trie.entries.map (Entry.writeAt p.segments change) ∧
    trie.size = accepted.length := by
  intro trie accepted
  have hs : (run calls).Sound := .run calls
  refine ⟨fun raw a b => ?_, hs.exists_duplicateParam_iff, fun method existing attempted => ?_,
    hs.exists_ok_iff, hs.get?_eq p, fun q => hs.get?_modify p q change, hs.entries_modify p change,
    hs.size_eq⟩
  · rw [hs.insert_eq_duplicateParam_iff]
    refine and_congr_right fun _ => ⟨?_, ?_⟩
    · rintro ⟨i, hclash⟩
      exact hs.exists_firstClash hclash
    · rintro ⟨i, hfirst⟩
      exact ⟨i, hfirst.1⟩
  · constructor
    · intro hconflict
      exact ⟨hs.not_clashes hconflict (by simp), hs.insert_eq_conflict_iff.1 hconflict⟩
    · rintro ⟨-, hplace⟩
      exact hs.insert_eq_conflict_iff.2 hplace

end Wayfinder.Route.History
