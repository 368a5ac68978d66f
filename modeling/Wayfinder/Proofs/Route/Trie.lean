import Mathlib.Data.List.Basic
import Mathlib.Data.List.Perm.Basic
import Wayfinder.Proofs.Route.Insertion
/-!
# Tries and their trails

The operations of a trie, each read off the list of its trails: the entry of the pattern `/`
comes first and the trails below the root follow.
-/

namespace Wayfinder.Route.Trie

open Edges (changeAt firstFit firstFit_append nil_notMem_trails exists_head_of_mem_trails)

variable {α : Type}

/-- All entries with the segments that lead to them, in order of precedence. -/
def trails (t : Trie α) : List (Trail α) := t.root.toList.map (fun e => ([], e)) ++ t.edges.trails

theorem mem_trails {t : Trie α} {segments : List Segment} {e : Entry α} :
    (segments, e) ∈ t.trails ↔
      (segments = [] ∧ t.root = some e) ∨ (segments, e) ∈ t.edges.trails := by
  simp only [trails, List.mem_append, List.mem_map, Option.mem_toList, Prod.mk.injEq]
  constructor
  · rintro (⟨_, hroot, rfl, rfl⟩ | hedges)
    · exact .inl ⟨rfl, hroot⟩
    · exact .inr hedges
  · rintro (⟨rfl, hroot⟩ | hedges)
    · exact .inl ⟨e, hroot, rfl, rfl⟩
    · exact .inr hedges

@[simp] theorem nil_mem_trails {t : Trie α} {e : Entry α} :
    ([], e) ∈ t.trails ↔ t.root = some e := by
  simp [mem_trails, nil_notMem_trails]

@[simp] theorem cons_mem_trails {t : Trie α} {s : Segment} {rest : List Segment} {e : Entry α} :
    (s :: rest, e) ∈ t.trails ↔ (s :: rest, e) ∈ t.edges.trails := by
  simp [mem_trails]

@[simp] theorem map_snd_trails (t : Trie α) : t.trails.map Prod.snd = t.entries := by
  simp [trails, entries, Function.comp_def]

/-- A lookup finds the first trail that fits the path, with what it binds there and nothing
else. -/
theorem lookup_eq (t : Trie α) (path : List String) :
    t.lookup path = (firstFit t.trails path).map fun found => ⟨found.1, found.2⟩ := by
  have hroot : firstFit (t.root.toList.map fun e => ([], e)) path =
      (if path.isEmpty then t.root else none).map (·, []) := by
    cases t.root <;> cases path <;> simp [firstFit, Pattern.bindAll]
  rw [lookup, trails, firstFit_append, hroot, Edges.search_eq]
  cases (if path.isEmpty then t.root else none) with
  | some e => rfl
  | none => cases firstFit t.edges.trails path <;> simp

theorem get?_eq_some_iff {t : Trie α} (h : t.edges.Valid) {p : Pattern} {v : α} :
    t.get? p = some v ↔ ∃ e, (p.segments, e) ∈ t.trails ∧ e.value = v := by
  unfold get?
  cases p.segments with
  | nil => simp
  | cons s rest => simp [← Edges.find?_eq_some_iff h]

/-! ## Changing -/

theorem valid_modify {t : Trie α} (h : t.edges.Valid) (p : Pattern) (f : α → α) :
    (t.modify p f).edges.Valid := by
  unfold modify
  cases p.segments with
  | nil => exact h
  | cons s rest => exact h.modify f s rest

@[simp] theorem size_modify (t : Trie α) (p : Pattern) (f : α → α) :
    (t.modify p f).size = t.size := by
  unfold modify
  cases p.segments <;> rfl

theorem trails_modify {t : Trie α} (h : t.edges.Valid) (p : Pattern) (f : α → α) :
    (t.modify p f).trails = t.trails.map (changeAt f p.segments) := by
  unfold modify
  cases hp : p.segments with
  | nil =>
    have hedges : t.edges.trails.map (changeAt f []) = t.edges.trails := by
      refine Edges.map_changeAt_of_ne f fun r hr => ?_
      obtain ⟨_, _, _, hrest⟩ := exists_head_of_mem_trails hr
      simp [hrest]
    rw [trails, trails, List.map_append, hedges]
    cases t.root <;> simp [changeAt]
  | cons s rest =>
    rw [trails, trails, List.map_append, h.trails_modify]
    cases t.root <;> simp [changeAt]

/-! ## Inserting -/

theorem insert_of_nil (t : Trie α) {p : Pattern} (hp : p.segments = []) (v : α) :
    t.insert p v = match t.root with
      | some old => .error (.conflict none old.pattern.raw p.raw)
      | none => .ok { t with root := some ⟨p, v⟩, size := t.size + 1 } := by
  cases hroot : t.root <;> simp [insert, hp, hroot, Clash.toError]

theorem insert_of_cons (t : Trie α) {p : Pattern} {s : Segment} {rest : List Segment}
    (hp : p.segments = s :: rest) (v : α) :
    t.insert p v = match t.edges.insert ⟨p, v⟩ s rest with
      | .ok edges => .ok { t with edges, size := t.size + 1 }
      | .error clash => .error (clash.toError p) := by
  cases hedges : t.edges.insert ⟨p, v⟩ s rest <;> simp [insert, hp, hedges]

/-- A successful insertion adds one trail, counts it and keeps the edges in order. -/
theorem insert_eq_ok {t t' : Trie α} (h : t.edges.Valid) {p : Pattern} {v : α}
    (ht : t.insert p v = .ok t') :
    t'.edges.Valid ∧ t'.trails.Perm ((p.segments, ⟨p, v⟩) :: t.trails) ∧ t'.size = t.size + 1 := by
  cases hp : p.segments with
  | nil =>
    rw [insert_of_nil t hp] at ht
    split at ht <;> cases ht
    next hroot => exact ⟨h, by simp [trails, hroot], rfl⟩
  | cons s rest =>
    rw [insert_of_cons t hp] at ht
    split at ht <;> cases ht
    next edges hedges =>
      have hin := Edges.inserted_of_insert_eq_ok hedges
      exact ⟨hin.valid h, (hin.trails_perm.append_left _).trans List.perm_middle, rfl⟩

/-- A successful insertion leaves the order of the trails. -/
theorem exists_trails_eq_of_insert {t t' : Trie α} {p : Pattern} {v : α}
    (ht : t.insert p v = .ok t') : ∃ before after,
      t.trails = before ++ after ∧ t'.trails = before ++ (p.segments, ⟨p, v⟩) :: after := by
  cases hp : p.segments with
  | nil =>
    rw [insert_of_nil t hp] at ht
    split at ht <;> cases ht
    next hroot => exact ⟨[], t.edges.trails, by simp [trails, hroot], by simp [trails]⟩
  | cons s rest =>
    rw [insert_of_cons t hp] at ht
    split at ht <;> cases ht
    next edges hedges =>
      obtain ⟨before, after, hold, hnew⟩ :=
        (Edges.inserted_of_insert_eq_ok hedges).exists_trails_eq
      exact ⟨t.root.toList.map (fun e => ([], e)) ++ before, after, by simp [trails, hold],
        by simp [trails, hnew]⟩

theorem insert_eq_duplicateParam_iff {t : Trie α} (h : t.edges.Valid) {p : Pattern} {v : α}
    {raw a b : String} : t.insert p v = .error (.duplicateParam raw a b) ↔
      raw = p.raw ∧ ∃ r ∈ t.trails, ∃ i, NamesClash r.1 p.segments i a b := by
  cases hp : p.segments with
  | nil =>
    rw [insert_of_nil t hp]
    cases t.root <;> simp [NamesClash.not_nil_right]
  | cons s rest =>
    have hnames : t.edges.insert ⟨p, v⟩ s rest = .error (.names a b) ↔
        ∃ r ∈ t.trails, ∃ i, NamesClash r.1 (s :: rest) i a b := by
      rw [Edges.insert_eq_names_iff h]
      constructor
      · rintro ⟨r, hr, hclash⟩
        exact ⟨r, List.mem_append_right _ hr, hclash⟩
      · rintro ⟨⟨segments, e⟩, hr, i, hclash⟩
        rcases mem_trails.1 hr with ⟨rfl, -⟩ | hr
        · exact (NamesClash.not_nil_left hclash).elim
        · exact ⟨_, hr, i, hclash⟩
    rw [← hnames, insert_of_cons t hp]
    cases t.edges.insert ⟨p, v⟩ s rest with
    | ok edges => simp
    | error clash => cases clash <;> simp [Clash.toError, eq_comm]

theorem insert_eq_conflict_iff {t : Trie α} (h : t.edges.Valid) {p : Pattern} {v : α}
    {method : Option String} {existing attempted : String} :
    t.insert p v = .error (.conflict method existing attempted) ↔
      method = none ∧ attempted = p.raw ∧
        ∃ old, (p.segments, old) ∈ t.trails ∧ old.pattern.raw = existing := by
  cases hp : p.segments with
  | nil =>
    rw [insert_of_nil t hp]
    cases hroot : t.root with
    | none => simp [hroot]
    | some old =>
      simp only [Except.error.injEq, RouteError.conflict.injEq, nil_mem_trails, hroot,
        Option.some.injEq, exists_eq_left']
      constructor
      · rintro ⟨rfl, rfl, rfl⟩
        exact ⟨rfl, rfl, rfl⟩
      · rintro ⟨rfl, rfl, rfl⟩
        exact ⟨rfl, rfl, rfl⟩
  | cons s rest =>
    have hplace : (∃ old, (s :: rest, old) ∈ t.trails ∧ old.pattern.raw = existing) ↔
        ∃ q, t.edges.insert ⟨p, v⟩ s rest = .error (.occupied q) ∧ q.raw = existing := by
      simp [Edges.insert_eq_occupied_iff h]
    rw [hplace, insert_of_cons t hp]
    cases t.edges.insert ⟨p, v⟩ s rest with
    | ok edges => simp
    | error clash =>
      cases clash with
      | names => simp [Clash.toError]
      | occupied q =>
        simp only [Clash.toError, Except.error.injEq, RouteError.conflict.injEq,
          Clash.occupied.injEq, exists_eq_left']
        constructor
        · rintro ⟨rfl, rfl, rfl⟩
          exact ⟨rfl, rfl, rfl⟩
        · rintro ⟨rfl, rfl, rfl⟩
          exact ⟨rfl, rfl, rfl⟩

theorem insert_cases (t : Trie α) (p : Pattern) (v : α) :
    (∃ t', t.insert p v = .ok t') ∨ (∃ a b, t.insert p v = .error (.duplicateParam p.raw a b)) ∨
      ∃ q, t.insert p v = .error (.conflict none q p.raw) := by
  cases hp : p.segments with
  | nil =>
    rw [insert_of_nil t hp]
    cases t.root with
    | none => exact .inl ⟨_, rfl⟩
    | some old => exact .inr (.inr ⟨_, rfl⟩)
  | cons s rest =>
    rw [insert_of_cons t hp]
    cases t.edges.insert ⟨p, v⟩ s rest with
    | ok edges => exact .inl ⟨_, rfl⟩
    | error clash =>
      cases clash with
      | names a b => exact .inr (.inl ⟨a, b, rfl⟩)
      | occupied q => exact .inr (.inr ⟨q.raw, rfl⟩)

end Wayfinder.Route.Trie
