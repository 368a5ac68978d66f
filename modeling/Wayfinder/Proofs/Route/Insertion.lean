import Mathlib.Data.List.Basic
import Mathlib.Data.List.Perm.Basic
import Wayfinder.Proofs.Route.Edges
/-!
# Insertion below a node

A successful insertion adds one trail and keeps the edges in order. An insertion fails in
two ways only: a parameter of another name stands in the place of one of its segments, or
its own place is taken.
-/

namespace Wayfinder.Route

/-- Two lists of segments agree up to a position, where both have a parameter, free or
restricted by one and the same expression, and the parameters have the different names `a`
and `b`. -/
structure NamesClash (q p : List Segment) (i : Nat) (a b : String) : Prop where
  agree : q.take i = p.take i
  kinds : (q[i]? = some (.param a) ∧ p[i]? = some (.param b)) ∨
    ∃ r r', q[i]? = some (.regex a r) ∧ p[i]? = some (.regex b r') ∧ r.source = r'.source
  ne : a ≠ b

namespace NamesClash

theorem not_nil_left {p : List Segment} {i : Nat} {a b : String} : ¬ NamesClash [] p i a b := by
  rintro ⟨-, ⟨h, -⟩ | ⟨_, _, h, -⟩, -⟩ <;> simp at h

theorem not_nil_right {q : List Segment} {i : Nat} {a b : String} : ¬ NamesClash q [] i a b := by
  rintro ⟨-, ⟨-, h⟩ | ⟨_, _, -, h, -⟩, -⟩ <;> simp at h

theorem zero_iff {t s : Segment} {q p : List Segment} {a b : String} :
    NamesClash (t :: q) (s :: p) 0 a b ↔
      t.sameSlot s = true ∧ t ≠ s ∧ t.name? = some a ∧ s.name? = some b := by
  constructor
  · rintro ⟨-, ⟨hq, hp⟩ | ⟨r, r', hq, hp, hsource⟩, hne⟩
    · obtain rfl := Option.some.inj hq
      obtain rfl := Option.some.inj hp
      exact ⟨rfl, by simpa using hne, rfl, rfl⟩
    · obtain rfl := Option.some.inj hq
      obtain rfl := Option.some.inj hp
      exact ⟨by simpa [Segment.sameSlot] using hsource, by simp [hne], rfl, rfl⟩
  · rintro ⟨hslot, hne, ha, hb⟩
    rcases Segment.sameSlot_iff.1 hslot with rfl | ⟨_, _, rfl, rfl⟩ | ⟨_, _, r, rfl, rfl⟩
    · exact (hne rfl).elim
    · cases ha
      cases hb
      exact ⟨rfl, .inl ⟨rfl, rfl⟩, by simpa using hne⟩
    · cases ha
      cases hb
      exact ⟨rfl, .inr ⟨r, r, rfl, rfl, rfl⟩, by simpa using hne⟩

theorem succ_iff {t s : Segment} {q p : List Segment} {i : Nat} {a b : String} :
    NamesClash (t :: q) (s :: p) (i + 1) a b ↔ t = s ∧ NamesClash q p i a b := by
  constructor
  · rintro ⟨hagree, hkinds, hne⟩
    simp only [List.take_succ_cons, List.cons.injEq] at hagree
    exact ⟨hagree.1, hagree.2, by simpa using hkinds, hne⟩
  · rintro ⟨rfl, hagree, hkinds, hne⟩
    exact ⟨by simp [hagree], by simpa using hkinds, hne⟩

theorem sameSlot {t s : Segment} {q p : List Segment} {i : Nat} {a b : String}
    (h : NamesClash (t :: q) (s :: p) i a b) : t.sameSlot s = true := by
  cases i with
  | zero => exact (zero_iff.1 h).1
  | succ i =>
    obtain ⟨rfl, -⟩ := succ_iff.1 h
    exact t.sameSlot_refl

end NamesClash

namespace Edges

variable {α : Type} {e : Entry α}

/-! ## The places for an entry -/

/-- What a successful insertion does: a branch of its own behind the last edge or in front
of an edge that comes later, or an end in an edge that is there, or the same below or beside
an edge. -/
inductive Inserted (e : Entry α) : Edges α → Segment → List Segment → Edges α → Prop
  | last (s : Segment) (rest : List Segment) : Inserted e nil s rest (branch e nil s rest)
  | front {s t : Segment} (hbefore : s.precedes t = true) (terminal : Option (Entry α))
      (below siblings : Edges α) (rest : List Segment) :
      Inserted e (cons t terminal below siblings) s rest
        (branch e (cons t terminal below siblings) s rest)
  | here (s : Segment) (below siblings : Edges α) :
      Inserted e (cons s none below siblings) s [] (cons s (some e) below siblings)
  | under {s s' : Segment} {rest : List Segment} {inner inner' : Edges α}
      (terminal : Option (Entry α)) (siblings : Edges α)
      (hinner : Inserted e inner s' rest inner') :
      Inserted e (cons s terminal inner siblings) s (s' :: rest) (cons s terminal inner' siblings)
  | beside {s t : Segment} (hslot : t.sameSlot s = false) (hbehind : s.precedes t = false)
      {rest : List Segment} {others others' : Edges α} (terminal : Option (Entry α))
      (below : Edges α) (hothers : Inserted e others s rest others') :
      Inserted e (cons t terminal below others) s rest (cons t terminal below others')

theorem inserted_of_insert_eq_ok {es es' : Edges α} {s : Segment} {rest : List Segment}
    (h : es.insert e s rest = .ok es') : Inserted e es s rest es' := by
  fun_induction Edges.insert e es s rest generalizing es' with
  | case1 s rest =>
    cases h
    exact .last s rest
  | case2 => cases h
  | case3 below siblings s =>
    cases h
    exact .here s below siblings
  | case4 terminal below siblings s s' rest _ ih =>
    cases hbelow : below.insert e s' rest with
    | error clash => simp [hbelow, Except.map] at h
    | ok below' =>
      obtain rfl : cons s terminal below' siblings = es' := by simpa [hbelow, Except.map] using h
      exact .under terminal siblings (ih hbelow)
  | case5 => cases h
  | case6 t terminal below siblings s rest _ hbefore =>
    cases h
    exact .front hbefore terminal below siblings rest
  | case7 t terminal below siblings s rest hslot hbehind ih =>
    cases hothers : siblings.insert e s rest with
    | error clash => simp [hothers, Except.map] at h
    | ok siblings' =>
      obtain rfl : cons t terminal below siblings' = es' := by
        simpa [hothers, Except.map] using h
      exact .beside (by simpa using hslot) (by simpa using hbehind) terminal below (ih hothers)

@[simp] theorem heads_branch (siblings : Edges α) (s : Segment) (rest : List Segment) :
    (branch e siblings s rest).heads = s :: siblings.heads := by
  cases rest <;> rfl

@[simp] theorem trails_branch (siblings : Edges α) (s : Segment) (rest : List Segment) :
    (branch e siblings s rest).trails = (s :: rest, e) :: siblings.trails := by
  induction rest generalizing s siblings with
  | nil => simp [branch, trails]
  | cons s' rest ih => simp [branch, trails, ih]

theorem valid_branch {siblings : Edges α} (h : siblings.Valid) {s : Segment}
    (hs : ∀ t ∈ siblings.heads, s.Ahead t) (rest : List Segment) :
    (branch e siblings s rest).Valid := by
  induction rest generalizing s siblings with
  | nil => exact ⟨hs, .inl rfl, trivial, h⟩
  | cons s' rest ih => exact ⟨hs, .inr (by simp), ih valid_nil (by simp [heads]), h⟩

namespace Inserted

variable {es es' : Edges α} {s : Segment} {rest : List Segment}

theorem mem_heads (h : Inserted e es s rest es') {t : Segment} :
    t ∈ es'.heads ↔ t = s ∨ t ∈ es.heads := by
  induction h with
  | last => simp
  | front => simp
  | here => simp [heads]
  | under => simp [heads]
  | beside _ _ _ _ _ ih => simp [heads, ih, or_left_comm]

/-- The new trail stands somewhere between the old ones, which keep their order. -/
theorem exists_trails_eq (h : Inserted e es s rest es') : ∃ before after,
    es.trails = before ++ after ∧ es'.trails = before ++ (s :: rest, e) :: after := by
  induction h with
  | last => exact ⟨[], [], rfl, by simp [trails]⟩
  | front => exact ⟨[], _, rfl, by simp [trails]⟩
  | here s below siblings =>
    exact ⟨[], (below.trails.map fun r => (s :: r.1, r.2)) ++ siblings.trails, by simp [trails],
      by simp [trails]⟩
  | @under s s' rest inner inner' terminal siblings _ ih =>
    obtain ⟨before, after, hold, hnew⟩ := ih
    exact ⟨(terminal.toList.map fun e => ([s], e)) ++ before.map fun r => (s :: r.1, r.2),
      (after.map fun r => (s :: r.1, r.2)) ++ siblings.trails, by simp [trails, hold],
      by simp [trails, hnew]⟩
  | @beside s t _ _ rest others others' terminal below _ ih =>
    obtain ⟨before, after, hold, hnew⟩ := ih
    exact ⟨(terminal.toList.map fun e => ([t], e)) ++
      (below.trails.map fun r => (t :: r.1, r.2)) ++ before, after, by simp [trails, hold],
      by simp [trails, hnew]⟩

theorem trails_perm (h : Inserted e es s rest es') :
    es'.trails.Perm ((s :: rest, e) :: es.trails) := by
  obtain ⟨before, after, hold, hnew⟩ := h.exists_trails_eq
  rw [hold, hnew]
  exact List.perm_middle

theorem valid (h : Inserted e es s rest es') (hes : es.Valid) : es'.Valid := by
  induction h with
  | last s rest => exact valid_branch valid_nil (by simp [heads]) rest
  | front hbefore terminal below siblings rest =>
    refine valid_branch hes (fun u hu => ?_) rest
    rcases List.mem_cons.1 hu with rfl | hu
    · exact Segment.ahead_of_precedes hbefore
    · exact .of_precedes hbefore (hes.1 u hu)
  | here s below siblings => exact ⟨hes.1, .inl rfl, hes.2.2⟩
  | under terminal siblings hinner ih =>
    refine ⟨hes.1, .inr ?_, ih hes.2.2.1, hes.2.2.2⟩
    exact List.ne_nil_of_mem (hinner.mem_heads.2 (.inl rfl))
  | beside hslot hbehind terminal below hothers ih =>
    refine ⟨fun u hu => ?_, hes.2.1, hes.2.2.1, ih hes.2.2.2⟩
    rcases hothers.mem_heads.1 hu with rfl | hu
    · exact ⟨hslot, hbehind⟩
    · exact hes.1 u hu

end Inserted

/-! ## Failures -/

theorem Valid.not_sameSlot_of_precedes {s t : Segment} {terminal : Option (Entry α)}
    {below siblings : Edges α} (h : (cons t terminal below siblings).Valid)
    (hbefore : s.precedes t = true) {u : Segment}
    (hu : u ∈ (cons t terminal below siblings).heads) : u.sameSlot s = false := by
  have hst := Segment.ahead_of_precedes hbefore
  rw [u.sameSlot_comm]
  rcases List.mem_cons.1 hu with rfl | hu
  · exact hst.1
  · exact (Segment.Ahead.of_precedes hbefore (h.1 u hu)).1

/-- The place of an entry is taken exactly when an entry with its segments is there. -/
theorem insert_eq_occupied_iff {es : Edges α} (h : es.Valid) {s : Segment} {rest : List Segment}
    {q : Pattern} : es.insert e s rest = .error (.occupied q) ↔
      ∃ old, (s :: rest, old) ∈ es.trails ∧ old.pattern = q := by
  fun_induction Edges.insert e es s rest with
  | case1 => simp [trails]
  | case2 => simp [h.trail_through, nil_notMem_trails]
  | case3 => simp [h.trail_through, nil_notMem_trails]
  | case4 terminal below siblings s s' rest _ ih =>
    simp only [h.trail_through, reduceCtorEq, false_and, false_or, ← ih h.2.2.1]
    cases below.insert e s' rest <;> simp [Except.map]
  | case5 t terminal below siblings s rest hslot hne =>
    refine iff_of_false (by simp) ?_
    rintro ⟨old, hold, -⟩
    obtain ⟨u, hu, _, heq⟩ := exists_head_of_mem_trails hold
    cases heq
    exact hne (h.eq_of_sameSlot (by simp [heads]) hu hslot)
  | case6 t terminal below siblings s rest hslot hbefore =>
    refine iff_of_false (by simp) ?_
    rintro ⟨old, hold, -⟩
    obtain ⟨u, hu, _, heq⟩ := exists_head_of_mem_trails hold
    cases heq
    simpa using h.not_sameSlot_of_precedes hbefore hu
  | case7 t terminal below siblings s rest hslot hbehind ih =>
    have hts : t ≠ s := fun hts => hslot (hts ▸ t.sameSlot_refl)
    simp only [trail_beside hts, ← ih h.2.2.2]
    cases siblings.insert e s rest <;> simp [Except.map]

theorem Valid.clash_below {s : Segment} {terminal : Option (Entry α)} {below siblings : Edges α}
    (h : (cons s terminal below siblings).Valid) {r : Trail α}
    (hr : r ∈ (cons s terminal below siblings).trails) {rest : List Segment} {i : Nat}
    {a b : String} (hclash : NamesClash r.1 (s :: rest) i a b) :
    ∃ rest' j, (s :: rest', r.2) ∈ (cons s terminal below siblings).trails ∧
      NamesClash rest' rest j a b := by
  obtain ⟨u, hu, rest', hrest⟩ := exists_head_of_mem_trails hr
  rw [hrest] at hclash
  obtain rfl : u = s := h.eq_of_sameSlot hu (by simp [heads]) hclash.sameSlot
  cases i with
  | zero => exact ((NamesClash.zero_iff.1 hclash).2.1 rfl).elim
  | succ j => exact ⟨rest', j, hrest ▸ hr, (NamesClash.succ_iff.1 hclash).2⟩

/-- A parameter has another name exactly when the segments clash with those of an entry. -/
theorem insert_eq_names_iff {es : Edges α} (h : es.Valid) {s : Segment} {rest : List Segment}
    {a b : String} : es.insert e s rest = .error (.names a b) ↔
      ∃ r ∈ es.trails, ∃ i, NamesClash r.1 (s :: rest) i a b := by
  fun_induction Edges.insert e es s rest with
  | case1 => simp [trails]
  | case2 below siblings s old =>
    refine iff_of_false (by simp) ?_
    rintro ⟨r, hr, i, hclash⟩
    obtain ⟨_, _, -, hclash'⟩ := h.clash_below hr hclash
    exact NamesClash.not_nil_right hclash'
  | case3 below siblings s =>
    refine iff_of_false (by simp) ?_
    rintro ⟨r, hr, i, hclash⟩
    obtain ⟨_, _, -, hclash'⟩ := h.clash_below hr hclash
    exact NamesClash.not_nil_right hclash'
  | case4 terminal below siblings s s' rest _ ih =>
    have hmap : (below.insert e s' rest).map (cons s terminal · siblings) =
        .error (.names a b) ↔ below.insert e s' rest = .error (.names a b) := by
      cases below.insert e s' rest <;> simp [Except.map]
    rw [hmap, ih h.2.2.1]
    constructor
    · rintro ⟨r, hr, i, hclash⟩
      exact ⟨(s :: r.1, r.2), h.trail_through.2 (.inr hr), i + 1,
        NamesClash.succ_iff.2 ⟨rfl, hclash⟩⟩
    · rintro ⟨r, hr, i, hclash⟩
      obtain ⟨rest', j, hr', hclash'⟩ := h.clash_below hr hclash
      rcases h.trail_through.1 hr' with ⟨rfl, -⟩ | hbelow
      · exact (NamesClash.not_nil_left hclash').elim
      · exact ⟨_, hbelow, j, hclash'⟩
  | case5 t terminal below siblings s rest hslot hne =>
    have hvalid : (cons t terminal below siblings).Valid := h
    obtain ⟨a', b', ha, hb⟩ := Segment.exists_names_of_sameSlot hslot hne
    simp only [ha, hb, Option.getD_some, Except.error.injEq, Clash.names.injEq]
    constructor
    · rintro ⟨rfl, rfl⟩
      obtain ⟨r, hr, rest', hrest⟩ := hvalid.exists_trail (List.mem_cons_self ..)
      exact ⟨r, hr, 0, hrest ▸ NamesClash.zero_iff.2 ⟨hslot, hne, ha, hb⟩⟩
    · rintro ⟨r, hr, i, hclash⟩
      obtain ⟨u, hu, rest', hrest⟩ := exists_head_of_mem_trails hr
      rw [hrest] at hclash
      have hut : u.sameSlot t = true :=
        Segment.sameSlot_trans hclash.sameSlot ((s.sameSlot_comm t).trans hslot)
      obtain rfl : u = t := hvalid.eq_of_sameSlot hu (by simp [heads]) hut
      cases i with
      | zero =>
        obtain ⟨-, -, hua, hsb⟩ := NamesClash.zero_iff.1 hclash
        exact ⟨Option.some.inj (ha.symm.trans hua), Option.some.inj (hb.symm.trans hsb)⟩
      | succ j => exact (hne (NamesClash.succ_iff.1 hclash).1).elim
  | case6 t terminal below siblings s rest hslot hbefore =>
    refine iff_of_false (by simp) ?_
    rintro ⟨⟨segments, old⟩, hold, i, hclash⟩
    obtain ⟨u, hu, _, rfl⟩ := exists_head_of_mem_trails hold
    simpa [hclash.sameSlot] using h.not_sameSlot_of_precedes hbefore hu
  | case7 t terminal below siblings s rest hslot hbehind ih =>
    have hts : t ≠ s := fun hts => hslot (hts ▸ t.sameSlot_refl)
    have hmap : (siblings.insert e s rest).map (cons t terminal below) =
        .error (.names a b) ↔ siblings.insert e s rest = .error (.names a b) := by
      cases siblings.insert e s rest <;> simp [Except.map]
    rw [hmap, ih h.2.2.2]
    constructor
    · rintro ⟨r, hr, hclash⟩
      exact ⟨r, mem_trails_cons.2 (.inr hr), hclash⟩
    · rintro ⟨r, hr, i, hclash⟩
      rcases mem_trails_cons.1 hr with ⟨rest', hrest, -⟩ | hsiblings
      · rw [hrest] at hclash
        exact (hslot hclash.sameSlot).elim
      · exact ⟨r, hsiblings, i, hclash⟩

end Edges

end Wayfinder.Route
