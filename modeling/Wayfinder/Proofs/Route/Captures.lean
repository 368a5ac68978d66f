import Wayfinder.Proofs.Route.History
/-!
# What a lookup binds

The names that a path is bound to are those of the pattern that was found, in their order,
each with the path segment at its position, and the rest of the path under the name of the
wildcard. As no name occurs twice, each can be asked for.
-/

namespace Wayfinder.Route

namespace Params

variable {ps : Params} {name value : String}

theorem get?_eq_reverse (ps : Params) (name : String) :
    ps.get? name = (ps.reverse.find? fun p => p.1 == name).map Prod.snd := by
  rw [get?, List.findRev?_eq_findRev?TR, List.findRev?TR]

theorem get?_eq_none_iff : ps.get? name = none ↔ name ∉ ps.map Prod.fst := by
  rw [get?_eq_reverse, Option.map_eq_none_iff, List.find?_eq_none]
  simp only [List.mem_reverse, beq_iff_eq, List.mem_map, not_exists, not_and]

theorem get?_eq_some_iff (hnodup : (ps.map Prod.fst).Nodup) :
    ps.get? name = some value ↔ (name, value) ∈ ps := by
  rw [get?_eq_reverse, Option.map_eq_some_iff]
  constructor
  · rintro ⟨p, hfind, rfl⟩
    have hp : p.1 = name := by simpa using List.find?_some hfind
    subst hp
    exact List.mem_reverse.1 (List.mem_of_find?_eq_some hfind)
  · intro hmem
    cases hfind : ps.reverse.find? fun p => p.1 == name with
    | none =>
      have hno := List.find?_eq_none.1 hfind _ (List.mem_reverse.2 hmem)
      exact (hno (beq_self_eq_true name)).elim
    | some p =>
      have hp : p.1 = name := by simpa using List.find?_some hfind
      have hpmem : p ∈ ps := List.mem_reverse.1 (List.mem_of_find?_eq_some hfind)
      exact ⟨p, rfl, congrArg Prod.snd (List.inj_on_of_nodup_map hnodup hpmem hmem hp)⟩

end Params

namespace Fits

variable {segments : List Segment} {path : List String}

theorem names_captures (h : Fits segments path) :
    (captures segments path).map Prod.fst = segments.filterMap Segment.bound? := by
  induction h with
  | done => rfl
  | rest path => simp [Segment.bound?]
  | @step s x segments path hx _ ih =>
    have hs : s ≠ .wildcard := by
      rintro rfl
      exact hx
    rw [captures_cons hs, List.map_append, ih]
    cases s with
    | wildcard => exact (hs rfl).elim
    | literal | param | regex => simp [Segment.bound?, Segment.name?, List.filterMap_cons]

theorem mem_captures (h : Fits segments path) {i : Nat} {s : Segment} (hs : segments[i]? = some s)
    {name : String} (hname : s.name? = some name) :
    ∃ x, path[i]? = some x ∧ (name, x) ∈ captures segments path := by
  induction h generalizing i with
  | done => simp at hs
  | rest path =>
    have hwildcard : s = .wildcard := by
      cases i <;> simp_all
    subst hwildcard
    cases hname
  | @step s' x segments path hx _ ih =>
    have hs' : s' ≠ .wildcard := by
      rintro rfl
      exact hx
    rw [captures_cons hs']
    cases i with
    | zero =>
      obtain rfl : s' = s := by simpa using hs
      exact ⟨x, rfl, by simp [hname]⟩
    | succ i =>
      obtain ⟨y, hy, hmem⟩ := ih (by simpa using hs)
      exact ⟨y, by simpa using hy, List.mem_append_right _ hmem⟩

end Fits

theorem WildcardLast.bound_eq {segments : List Segment} (h : WildcardLast segments) :
    segments.filterMap Segment.bound? = segments.filterMap Segment.name? ++
      if segments.getLast? = some .wildcard then [Params.wildcardName] else [] := by
  induction segments with
  | nil => rfl
  | cons s segments ih =>
    by_cases hs : s = .wildcard
    · subst hs
      obtain rfl := h.eq_nil
      rfl
    · have hbound : s.bound? = s.name? := by
        cases s with
        | wildcard => exact (hs rfl).elim
        | literal | param | regex => rfl
      have hlast : (s :: segments).getLast? = some .wildcard ↔
          segments.getLast? = some .wildcard := by
        cases segments <;> simp [hs]
      simp only [List.filterMap_cons, hbound, hlast, ih h.tail]
      cases s.name? <;> simp

namespace Pattern

variable (p : Pattern)

theorem nodup_boundNames : p.boundNames.Nodup := by
  rw [boundNames, p.wildcardLast.bound_eq, List.nodup_append]
  refine ⟨p.nodup_names, by split <;> simp, fun name hname other hother => ?_⟩
  have hwildcard : other = Params.wildcardName := by
    split at hother <;> simp_all
  rintro rfl
  exact p.wildcardName_notMem_names (hwildcard ▸ hname)

end Pattern

namespace History

variable {α : Type}

/-- After any calls, what a lookup binds are the captures of the pattern that was found and
nothing else: its names in order, and each name, asked for, gives the path segment at its
position, the name of the wildcard the rest of the path, and any other name nothing. -/
theorem lookup_binds_captures (calls : List (Call α)) (path : List String) :
    ∀ hit, (run calls).trie.lookup path = some hit →
      let segments := hit.entry.pattern.segments
      hit.entry ∈ (run calls).accepted ∧
      hit.params = captures segments path ∧
      hit.params.map Prod.fst = hit.entry.pattern.boundNames ∧
      (∀ name value, hit.params.get? name = some value ↔ (name, value) ∈ hit.params) ∧
      (∀ (i : Nat) (s : Segment) name, segments[i]? = some s → s.name? = some name →
        ∃ x, path[i]? = some x ∧ hit.params.get? name = some x) ∧
      (segments.getLast? = some .wildcard →
        hit.params.wildcard? = some ("/".intercalate (path.drop (segments.length - 1)))) ∧
      ∀ name, hit.params.get? name = none ↔ name ∉ hit.entry.pattern.boundNames := by
  intro hit hhit segments
  have hs : (run calls).Sound := .run calls
  obtain ⟨before, after, htrails, hparams, hfit, -⟩ := hs.lookup_eq_some hhit
  have hmem : (segments, hit.entry) ∈ (run calls).trie.trails := by
    simp [htrails, segments]
  have hnames : hit.params.map Prod.fst = hit.entry.pattern.boundNames := by
    rw [hparams, hfit.names_captures, Pattern.boundNames]
  have hget : ∀ name value, hit.params.get? name = some value ↔ (name, value) ∈ hit.params :=
    fun name value => Params.get?_eq_some_iff (hnames ▸ hit.entry.pattern.nodup_boundNames)
  refine ⟨(hs.mem_trails.1 hmem).1, hparams, hnames, hget, fun i s name hi hname => ?_,
    fun hlast => ?_, fun name => by rw [Params.get?_eq_none_iff, hnames]⟩
  · obtain ⟨x, hx, hcaptured⟩ := hfit.mem_captures hi hname
    exact ⟨x, hx, (hget name x).2 (hparams ▸ hcaptured)⟩
  · rw [Params.wildcard?, hget, hparams, captures, if_pos hlast]
    exact List.mem_append_right _ (List.mem_singleton_self _)

/-- The first pattern binds two parameters before it fails, and nothing of them is left. -/
theorem lookup_binds_captures_behind_dead_end :
    let long : Pattern := ⟨"/:a/:b/x", [.param "a", .param "b", .literal "x"], by decide +kernel⟩
    let rest : Pattern := ⟨"/:a/*", [.param "a", .wildcard], by decide +kernel⟩
    let history : History Nat := run [.insert long 1, .insert rest 2]
    let path := ["u", "v", "w"]
    history.trie.lookup path = some ⟨⟨rest, 2⟩, [("a", "u"), ("*", "v/w")]⟩ ∧
      [("a", "u"), ("*", "v/w")] = captures rest.segments path := by
  intro long rest history path
  have hlookup : history.trie.lookup path = some ⟨⟨rest, 2⟩, [("a", "u"), ("*", "v/w")]⟩ := rfl
  exact ⟨hlookup, (lookup_binds_captures _ path _ hlookup).2.1⟩

end History

end Wayfinder.Route
