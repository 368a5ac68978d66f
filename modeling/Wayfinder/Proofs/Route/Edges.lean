import Mathlib.Data.List.Basic
import Mathlib.Data.List.Nodup
import Mathlib.Data.String.Basic
import Wayfinder.Proofs.Route.Fit
import Wayfinder.Route.Trie
/-!
# The entries below a node

The view of a tree of edges is the list of its trails: each entry with the segments that
lead to it, in the order of the walk. Searching is a linear search of that list that leaves
nothing of the dead ends in the bag. Insertion, look-up and change are read off the same
list as long as the siblings stand apart.
-/

namespace Wayfinder.Route

namespace Segment

/-! ## Slots -/

theorem source_ne_iff {q r : Restriction} : q.source ≠ r.source ↔ q ≠ r :=
  ⟨fun h hqr => h (hqr ▸ rfl), fun h hs => h (Restriction.ext_source hs)⟩

/-- Segments of one slot differ in their names only. -/
theorem sameSlot_iff {s t : Segment} : s.sameSlot t = true ↔
    s = t ∨ (∃ a b, s = .param a ∧ t = .param b) ∨ ∃ a b r, s = .regex a r ∧ t = .regex b r := by
  cases s with
  | literal => cases t <;> simp [sameSlot]
  | param => cases t <;> simp [sameSlot]
  | wildcard => cases t <;> simp [sameSlot]
  | regex a q =>
    cases t with
    | regex b r =>
      simp only [sameSlot, beq_iff_eq, regex.injEq, reduceCtorEq, false_and, exists_false, false_or]
      constructor
      · exact fun h => .inr ⟨a, b, q, ⟨rfl, rfl⟩, rfl, (Restriction.ext_source h).symm⟩
      · rintro (⟨-, rfl⟩ | ⟨_, _, _, ⟨-, rfl⟩, -, rfl⟩) <;> rfl
    | _ => simp [sameSlot]

@[simp] theorem sameSlot_refl (s : Segment) : s.sameSlot s = true := sameSlot_iff.2 (.inl rfl)

theorem sameSlot_comm (s t : Segment) : s.sameSlot t = t.sameSlot s := by
  cases s <;> cases t <;> simp [sameSlot, Bool.beq_comm]

theorem sameSlot_trans {s t u : Segment} (hst : s.sameSlot t = true) (htu : t.sameSlot u = true) :
    s.sameSlot u = true := by
  cases s <;> cases t <;> cases u <;> simp_all [sameSlot]

theorem exists_names_of_sameSlot {s t : Segment} (hslot : s.sameSlot t = true) (hne : s ≠ t) :
    ∃ a b, s.name? = some a ∧ t.name? = some b := by
  rcases sameSlot_iff.1 hslot with rfl | ⟨a, b, rfl, rfl⟩ | ⟨a, b, _, rfl, rfl⟩
  · exact (hne rfl).elim
  · exact ⟨a, b, rfl, rfl⟩
  · exact ⟨a, b, rfl, rfl⟩

theorem precedes_iff {s t : Segment} : s.precedes t = true ↔
    s.rank < t.rank ∨ ∃ a b, s = .literal a ∧ t = .literal b ∧ a < b := by
  cases s <;> cases t <;> simp [precedes, rank, -String.lt_iff_ltb]

/-- The first segment stands in front of the second one below a node, in a slot of its
own. -/
def Ahead (s t : Segment) : Prop := s.sameSlot t = false ∧ t.precedes s = false

/-- Segments that stand in order are of different kinds, or literals in order of their text,
or expressions of different texts. -/
theorem ahead_iff {s t : Segment} : s.Ahead t ↔ s.rank < t.rank ∨
    (∃ a b, s = .literal a ∧ t = .literal b ∧ a < b) ∨
      ∃ m n q r, s = .regex m q ∧ t = .regex n r ∧ q ≠ r := by
  cases s with
  | literal a =>
    cases t with
    | literal b =>
      simp only [Ahead, sameSlot, precedes, beq_eq_false_iff_ne, decide_eq_false_iff_not, not_lt]
      simpa [rank, -String.lt_iff_ltb] using
        ⟨fun h => lt_of_le_of_ne h.2 h.1, fun h => ⟨h.ne, h.le⟩⟩
    | _ => simp [Ahead, sameSlot, precedes, rank]
  | param a => cases t <;> simp [Ahead, sameSlot, precedes, rank]
  | regex m q => cases t <;> simp [Ahead, sameSlot, precedes, rank, source_ne_iff]
  | wildcard => cases t <;> simp [Ahead, sameSlot, precedes, rank]

theorem Ahead.ne {s t : Segment} (h : s.Ahead t) : s ≠ t := by
  rintro rfl
  simp [Ahead] at h

theorem Ahead.rank_le {s t : Segment} (h : s.Ahead t) : s.rank ≤ t.rank := by
  rcases ahead_iff.1 h with hrank | ⟨_, _, rfl, rfl, _⟩ | ⟨_, _, _, _, rfl, rfl, _⟩
  · exact hrank.le
  · exact le_rfl
  · exact le_rfl

theorem ahead_of_precedes {s t : Segment} (h : s.precedes t = true) : s.Ahead t :=
  ahead_iff.2 ((precedes_iff.1 h).imp_right .inl)

theorem Ahead.of_precedes {s t u : Segment} (hst : s.precedes t = true) (htu : t.Ahead u) :
    s.Ahead u := by
  rw [ahead_iff] at htu ⊢
  rcases precedes_iff.1 hst with hrank | ⟨a, b, rfl, rfl, hab⟩
  · rcases htu with h | ⟨_, _, rfl, rfl, _⟩ | ⟨_, _, _, _, rfl, rfl, _⟩
    · exact .inl (hrank.trans h)
    · exact .inl hrank
    · exact .inl hrank
  · rcases htu with h | ⟨_, c, heq, rfl, hbc⟩ | ⟨_, _, _, _, heq, _⟩
    · exact .inl h
    · cases heq
      exact .inr (.inl ⟨a, c, rfl, rfl, hab.trans hbc⟩)
    · cases heq

end Segment

/-- An entry with the segments that lead to it. -/
abbrev Trail (α : Type) := List Segment × Entry α

namespace Edges

variable {α : Type}

/-- The segments of the edges of a node. -/
def heads : Edges α → List Segment
  | nil => []
  | cons s _ _ siblings => s :: siblings.heads

/-- The entries below with the segments that lead to them, in the order of the walk. -/
def trails : Edges α → List (Trail α)
  | nil => []
  | cons s terminal below siblings =>
    terminal.toList.map (fun e => ([s], e)) ++ below.trails.map (fun r => (s :: r.1, r.2)) ++
      siblings.trails

/-- The edges of each node stand in order in slots of their own, and each leads to an
entry. -/
def Valid : Edges α → Prop
  | nil => True
  | cons s terminal below siblings =>
    (∀ t ∈ siblings.heads, s.Ahead t) ∧ (terminal.isSome ∨ below.heads ≠ []) ∧
      below.Valid ∧ siblings.Valid

theorem valid_nil : (nil : Edges α).Valid := trivial

theorem mem_trails_cons {s : Segment} {terminal : Option (Entry α)} {below siblings : Edges α}
    {r : Trail α} : r ∈ (cons s terminal below siblings).trails ↔
      (∃ rest, r.1 = s :: rest ∧
        ((rest = [] ∧ terminal = some r.2) ∨ (rest, r.2) ∈ below.trails)) ∨
      r ∈ siblings.trails := by
  obtain ⟨segments, e⟩ := r
  simp only [trails, List.mem_append, List.mem_map, Option.mem_toList, Prod.mk.injEq, Prod.exists]
  constructor
  · rintro ((⟨_, hterminal, rfl, rfl⟩ | ⟨rest, _, hbelow, rfl, rfl⟩) | hsiblings)
    · exact .inl ⟨[], rfl, .inl ⟨rfl, hterminal⟩⟩
    · exact .inl ⟨rest, rfl, .inr hbelow⟩
    · exact .inr hsiblings
  · rintro (⟨rest, rfl, ⟨rfl, hterminal⟩ | hbelow⟩ | hsiblings)
    · exact .inl (.inl ⟨e, hterminal, rfl, rfl⟩)
    · exact .inl (.inr ⟨rest, e, hbelow, rfl, rfl⟩)
    · exact .inr hsiblings

@[simp] theorem map_snd_trails (es : Edges α) : es.trails.map Prod.snd = es.entries := by
  induction es with
  | nil => rfl
  | cons s terminal below siblings ihb ihs =>
    simp [trails, entries, ← ihb, ← ihs, Function.comp_def]

theorem exists_head_of_mem_trails {es : Edges α} {r : Trail α} (hr : r ∈ es.trails) :
    ∃ s ∈ es.heads, ∃ rest, r.1 = s :: rest := by
  induction es with
  | nil => cases hr
  | cons s terminal below siblings _ ih =>
    rcases mem_trails_cons.1 hr with ⟨rest, hrest, -⟩ | hsiblings
    · exact ⟨s, by simp [heads], rest, hrest⟩
    · obtain ⟨t, ht, rest, hrest⟩ := ih hsiblings
      exact ⟨t, by simp [heads, ht], rest, hrest⟩

theorem Valid.exists_trail {es : Edges α} (h : es.Valid) {s : Segment} (hs : s ∈ es.heads) :
    ∃ r ∈ es.trails, ∃ rest, r.1 = s :: rest := by
  induction es generalizing s with
  | nil => cases hs
  | cons t terminal below siblings ihb ihs =>
    obtain ⟨-, hlive, hbelow, hsiblings⟩ := h
    rcases List.mem_cons.1 hs with rfl | hs
    · rcases hlive with hterminal | hbelow'
      · obtain ⟨e, rfl⟩ := Option.isSome_iff_exists.1 hterminal
        exact ⟨([s], e), mem_trails_cons.2 (.inl ⟨[], rfl, .inl ⟨rfl, rfl⟩⟩), [], rfl⟩
      · obtain ⟨u, hu⟩ := List.exists_mem_of_ne_nil _ hbelow'
        obtain ⟨r, hr, -⟩ := ihb hbelow hu
        exact ⟨(s :: r.1, r.2), mem_trails_cons.2 (.inl ⟨r.1, rfl, .inr hr⟩), r.1, rfl⟩
    · obtain ⟨r, hr, rest, hrest⟩ := ihs hsiblings hs
      exact ⟨r, mem_trails_cons.2 (.inr hr), rest, hrest⟩

theorem Valid.eq_of_sameSlot {es : Edges α} (h : es.Valid) {s t : Segment} (hs : s ∈ es.heads)
    (ht : t ∈ es.heads) (hslot : s.sameSlot t = true) : s = t := by
  induction es with
  | nil => cases hs
  | cons u terminal below siblings _ ih =>
    rcases List.mem_cons.1 hs with rfl | hs' <;> rcases List.mem_cons.1 ht with rfl | ht'
    · rfl
    · rw [(h.1 t ht').1] at hslot
      cases hslot
    · rw [s.sameSlot_comm, (h.1 s hs').1] at hslot
      cases hslot
    · exact ih h.2.2.2 hs' ht'

/-- A trail through the first edge lies at or below it. -/
theorem Valid.trail_through {s : Segment} {terminal : Option (Entry α)} {below siblings : Edges α}
    (h : (cons s terminal below siblings).Valid) {rest : List Segment} {e : Entry α} :
    (s :: rest, e) ∈ (cons s terminal below siblings).trails ↔
      (rest = [] ∧ terminal = some e) ∨ (rest, e) ∈ below.trails := by
  rw [mem_trails_cons]
  constructor
  · rintro (⟨_, hrest, hr⟩ | hsiblings)
    · cases hrest
      exact hr
    · obtain ⟨t, ht, _, hrest⟩ := exists_head_of_mem_trails hsiblings
      cases hrest
      exact ((h.1 s ht).ne rfl).elim
  · exact fun hr => .inl ⟨rest, rfl, hr⟩

theorem trail_beside {s t : Segment} (hst : s ≠ t) {terminal : Option (Entry α)}
    {below siblings : Edges α} {rest : List Segment} {e : Entry α} :
    (t :: rest, e) ∈ (cons s terminal below siblings).trails ↔
      (t :: rest, e) ∈ siblings.trails := by
  rw [mem_trails_cons]
  constructor
  · rintro (⟨_, hrest, -⟩ | hsiblings)
    · cases hrest
      exact (hst rfl).elim
    · exact hsiblings
  · exact .inr

/-! ## Searching -/

/-- The first trail that fits a path, with what it binds there. -/
def firstFit (trails : List (Trail α)) (path : List String) : Option (Entry α × Params) :=
  trails.findSome? fun r => (Pattern.bindAll r.1 path).map (r.2, ·)

theorem firstFit_append (trails more : List (Trail α)) (path : List String) :
    firstFit (trails ++ more) path = (firstFit trails path).or (firstFit more path) :=
  List.findSome?_append

theorem firstFit_map_cons {s : Segment} {path rest : List String} {bound : Params}
    (hstep : s.step? path = some (bound, rest)) (trails : List (Trail α)) :
    firstFit (trails.map fun r => (s :: r.1, r.2)) path =
      (firstFit trails rest).map fun found => (found.1, bound ++ found.2) := by
  simp only [firstFit, List.findSome?_map, List.map_findSome?]
  congr 1
  funext r
  cases h : Pattern.bindAll r.1 rest <;> simp [Pattern.bindAll, hstep, h]

theorem firstFit_cons_of_step?_eq_none {s : Segment} {path : List String}
    (hstep : s.step? path = none) (terminal : Option (Entry α)) (below siblings : Edges α) :
    firstFit (cons s terminal below siblings).trails path = firstFit siblings.trails path := by
  have hnone : ∀ segments, Pattern.bindAll (s :: segments) path = none := by
    intro segments
    simp [Pattern.bindAll, hstep]
  have hbelow : firstFit (below.trails.map fun r => (s :: r.1, r.2)) path = none := by
    refine List.findSome?_eq_none_iff.2 fun r hr => ?_
    obtain ⟨r', -, rfl⟩ := List.mem_map.1 hr
    simp [hnone]
  have hterminal : firstFit (terminal.toList.map fun e => ([s], e)) path = none := by
    cases terminal <;> simp [firstFit, hnone]
  rw [trails, firstFit_append, firstFit_append, hterminal, hbelow, Option.or_none, Option.none_or]

/-- Below a segment that fits, its own entry comes first where the path ends, then the
trails below. -/
theorem firstFit_cons_of_step?_eq_some {s : Segment} {path rest : List String} {bound : Params}
    (hstep : s.step? path = some (bound, rest)) (terminal : Option (Entry α))
    (below siblings : Edges α) :
    firstFit (cons s terminal below siblings).trails path =
      (((if rest.isEmpty then terminal else none).map (·, bound)).or
        ((firstFit below.trails rest).map fun found => (found.1, bound ++ found.2))).or
          (firstFit siblings.trails path) := by
  have hterminal : firstFit (terminal.toList.map fun e => ([s], e)) path =
      (if rest.isEmpty then terminal else none).map (·, bound) := by
    cases terminal <;> cases rest <;> simp [firstFit, Pattern.bindAll, hstep]
  rw [trails, firstFit_append, firstFit_append, hterminal, firstFit_map_cons hstep]

/-- The walk finds the first trail that fits and adds just its bindings to the bag. When no
trail fits, the bag is as it was. -/
theorem search_eq (es : Edges α) (path : List String) (bag : Params) :
    es.search path bag = match firstFit es.trails path with
      | some (e, bound) => (some e, bag ++ bound)
      | none => (none, bag) := by
  induction es generalizing path bag with
  | nil => rfl
  | cons s terminal below siblings ihb ihs =>
    rw [search]
    cases hstep : s.step? path with
    | none => rw [firstFit_cons_of_step?_eq_none hstep, ← ihs]
    | some taken =>
      obtain ⟨bound, rest⟩ := taken
      rw [firstFit_cons_of_step?_eq_some hstep]
      dsimp only
      cases (if rest.isEmpty then terminal else none) with
      | some e => rfl
      | none =>
        rw [ihb rest (bag ++ bound)]
        cases firstFit below.trails rest with
        | some found => simp
        | none =>
          -- nothing below fits, so the bag holds just what this edge bound
          have hleft : (if bound.isEmpty then bag ++ bound else (bag ++ bound).take bag.length) =
              bag := by
            cases bound <;> simp
          dsimp only
          rw [hleft, ihs]
          rfl

theorem firstFit_eq_none_iff {trails : List (Trail α)} (hlast : ∀ r ∈ trails, WildcardLast r.1)
    {path : List String} : firstFit trails path = none ↔ ∀ r ∈ trails, ¬ Fits r.1 path := by
  simp only [firstFit, List.findSome?_eq_none_iff, Option.map_eq_none_iff]
  refine forall₂_congr fun r hr => ?_
  rw [← Pattern.isSome_bindAll_iff (hlast r hr)]
  cases Pattern.bindAll r.1 path <;> simp

theorem firstFit_eq_some {trails : List (Trail α)} (hlast : ∀ r ∈ trails, WildcardLast r.1)
    {path : List String} {found : Entry α × Params} (h : firstFit trails path = some found) :
    ∃ before r after, trails = before ++ r :: after ∧ found = (r.2, captures r.1 path) ∧
      Fits r.1 path ∧ ∀ r' ∈ before, ¬ Fits r'.1 path := by
  obtain ⟨before, r, after, rfl, hr, hbefore⟩ := List.findSome?_eq_some_iff.1 h
  obtain ⟨ps, hps, rfl⟩ := Option.map_eq_some_iff.1 hr
  obtain ⟨hfit, rfl⟩ := (Pattern.bindAll_eq_some_iff (hlast r (by simp))).1 hps
  refine ⟨before, r, after, rfl, rfl, hfit, ?_⟩
  exact (firstFit_eq_none_iff fun r' hr' => hlast r' (by simp [hr'])).1
    (List.findSome?_eq_none_iff.2 hbefore)

/-! ## Finding -/

section Finding

variable {s t : Segment} {terminal : Option (Entry α)} {below siblings : Edges α}

@[simp] theorem find?_here : (cons s terminal below siblings).find? s [] = terminal := by
  simp [find?]

@[simp] theorem find?_below (s' : Segment) (rest : List Segment) :
    (cons s terminal below siblings).find? s (s' :: rest) = below.find? s' rest := by
  simp [find?]

theorem find?_beside (hts : t ≠ s) (rest : List Segment) :
    (cons t terminal below siblings).find? s rest = siblings.find? s rest := by
  cases rest <;> simp [find?, hts]

end Finding

theorem nil_notMem_trails (es : Edges α) (e : Entry α) : ([], e) ∉ es.trails := by
  intro h
  obtain ⟨_, _, _, hrest⟩ := exists_head_of_mem_trails h
  cases hrest

theorem find?_eq_some_iff {es : Edges α} (h : es.Valid) {s : Segment} {rest : List Segment}
    {e : Entry α} : es.find? s rest = some e ↔ (s :: rest, e) ∈ es.trails := by
  induction es generalizing s rest with
  | nil => simp [find?, trails]
  | cons t terminal below siblings ihb ihs =>
    by_cases hts : t = s
    · subst hts
      rw [h.trail_through]
      cases rest with
      | nil => simp [nil_notMem_trails]
      | cons s' rest => simp [ihb h.2.2.1]
    · rw [find?_beside hts, trail_beside hts, ihs h.2.2.2]

/-! ## Changing -/

/-- Changes the value of the entry that some segments lead to. -/
def changeAt (f : α → α) (segments : List Segment) (r : Trail α) : Trail α :=
  if r.1 = segments then (r.1, { r.2 with value := f r.2.value }) else r

theorem map_changeAt_of_ne (f : α → α) {segments : List Segment} {trails : List (Trail α)}
    (h : ∀ r ∈ trails, r.1 ≠ segments) : trails.map (changeAt f segments) = trails :=
  (List.map_congr_left fun r hr => if_neg (h r hr)).trans (List.map_id _)

theorem changeAt_cons (f : α → α) (s : Segment) (segments : List Segment) (r : Trail α) :
    changeAt f (s :: segments) (s :: r.1, r.2) =
      (s :: (changeAt f segments r).1, (changeAt f segments r).2) := by
  by_cases h : r.1 = segments <;> simp [changeAt, h]

section Changing

variable {s t : Segment} {terminal : Option (Entry α)} {below siblings : Edges α} (f : α → α)

theorem modify_here : (cons s terminal below siblings).modify f s [] =
    cons s (terminal.map fun e => { e with value := f e.value }) below siblings := by
  simp [modify]

theorem modify_below (s' : Segment) (rest : List Segment) :
    (cons s terminal below siblings).modify f s (s' :: rest) =
      cons s terminal (below.modify f s' rest) siblings := by
  simp [modify]

theorem modify_beside (hts : t ≠ s) (rest : List Segment) :
    (cons t terminal below siblings).modify f s rest =
      cons t terminal below (siblings.modify f s rest) := by
  cases rest <;> simp [modify, hts]

end Changing

@[simp] theorem heads_modify (f : α → α) (es : Edges α) (s : Segment) (rest : List Segment) :
    (es.modify f s rest).heads = es.heads := by
  induction es generalizing s rest with
  | nil => rfl
  | cons t terminal below siblings ihb ihs =>
    by_cases hts : t = s
    · subst hts
      cases rest <;> simp [modify_here, modify_below, heads]
    · simp [modify_beside f hts, heads, ihs]

theorem Valid.modify {es : Edges α} (h : es.Valid) (f : α → α) (s : Segment) (rest : List Segment) :
    (es.modify f s rest).Valid := by
  induction es generalizing s rest with
  | nil => trivial
  | cons t terminal below siblings ihb ihs =>
    obtain ⟨hfirst, hlive, hbelow, hsiblings⟩ := h
    by_cases hts : t = s
    · subst hts
      cases rest with
      | nil =>
        rw [modify_here]
        exact ⟨hfirst, by simpa using hlive, hbelow, hsiblings⟩
      | cons s' rest =>
        rw [modify_below]
        exact ⟨hfirst, by simpa using hlive, ihb hbelow s' rest, hsiblings⟩
    · rw [modify_beside f hts]
      exact ⟨by simpa using hfirst, hlive, hbelow, ihs hsiblings s rest⟩

theorem Valid.trails_modify {es : Edges α} (h : es.Valid) (f : α → α) (s : Segment)
    (rest : List Segment) :
    (es.modify f s rest).trails = es.trails.map (changeAt f (s :: rest)) := by
  induction es generalizing s rest with
  | nil => rfl
  | cons t terminal below siblings ihb ihs =>
    obtain ⟨hfirst, hlive, hbelow, hsiblings⟩ := h
    by_cases hts : t = s
    · subst hts
      have hother : siblings.trails.map (changeAt f (t :: rest)) = siblings.trails := by
        refine map_changeAt_of_ne f fun r hr => ?_
        obtain ⟨u, hu, _, hrest⟩ := exists_head_of_mem_trails hr
        rw [hrest]
        exact fun heq => (hfirst u hu).ne (List.cons.inj heq).1.symm
      cases rest with
      | nil =>
        have hunder : (below.trails.map fun r => (t :: r.1, r.2)).map (changeAt f [t]) =
            below.trails.map fun r => (t :: r.1, r.2) := by
          refine map_changeAt_of_ne f fun r hr => ?_
          obtain ⟨r', hr', rfl⟩ := List.mem_map.1 hr
          obtain ⟨_, _, _, hrest⟩ := exists_head_of_mem_trails hr'
          simp [hrest]
        rw [modify_here, trails, trails, List.map_append, List.map_append, hother, hunder]
        cases terminal <;> simp [changeAt]
      | cons s' rest =>
        have hterminal : (terminal.toList.map fun e => ([t], e)).map
            (changeAt f (t :: s' :: rest)) = terminal.toList.map fun e => ([t], e) := by
          cases terminal <;> simp [changeAt]
        rw [modify_below, trails, trails, List.map_append, List.map_append, hother, hterminal,
          ihb hbelow]
        simp [changeAt_cons]
    · have hhere : ∀ r ∈ (terminal.toList.map fun e => ([t], e)) ++
          below.trails.map fun r => (t :: r.1, r.2), r.1 ≠ s :: rest := by
        simp only [List.mem_append, List.mem_map]
        rintro _ (⟨_, _, rfl⟩ | ⟨_, _, rfl⟩) <;> simp [hts]
      rw [modify_beside f hts, trails, trails, List.map_append, map_changeAt_of_ne f hhere,
        ihs hsiblings]

end Edges

end Wayfinder.Route
