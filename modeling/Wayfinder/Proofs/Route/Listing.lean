import Mathlib.Data.List.Basic
import Mathlib.Data.List.Nodup
import Mathlib.Data.List.Perm.Basic
import Wayfinder.Proofs.Route.Registration
/-!
# Lists of entries and routes

The list of all entries is the order of precedence: to look up a path in the tree is to go
through that list from its beginning. The list of all routes has those of each method
together.
-/

namespace Wayfinder.Route

open scoped List
open Http (Verb)

theorem Pattern.matchesPath_iff (p : Pattern) {path : List String} :
    p.matchesPath path = true ↔ Fits p.segments path :=
  isSome_bindAll_iff p.wildcardLast

namespace Edges

variable {α : Type}

theorem Valid.nodup_trails {es : Edges α} (h : es.Valid) : (es.trails.map Prod.fst).Nodup := by
  induction es with
  | nil => exact List.nodup_nil
  | cons s terminal below siblings ihb ihs =>
    obtain ⟨hfirst, -, hbelow, hsiblings⟩ := h
    have hunder : ((below.trails.map fun r => (s :: r.1, r.2)).map Prod.fst).Nodup := by
      have hmap := (ihb hbelow).map (f := (s :: ·)) fun _ _ heq => (List.cons.inj heq).2
      simpa only [List.map_map, Function.comp_def] using hmap
    have hhere : ((terminal.toList.map fun e => ([s], e)).map Prod.fst).Nodup := by
      cases terminal <;> simp
    rw [trails, List.map_append, List.map_append, List.nodup_append, List.nodup_append]
    refine ⟨⟨hhere, hunder, ?_⟩, ihs hsiblings, ?_⟩
    · -- what lies below goes on behind the segment
      intro k hk k' hk'
      simp only [List.map_map, List.mem_map, Function.comp_apply] at hk hk'
      obtain ⟨_, -, rfl⟩ := hk
      obtain ⟨r, hr, rfl⟩ := hk'
      obtain ⟨_, _, _, hrest⟩ := exists_head_of_mem_trails hr
      simp [hrest]
    · -- siblings begin with other segments
      intro k hk k' hk' heq
      obtain ⟨r', hr', rfl⟩ := List.mem_map.1 hk'
      obtain ⟨t, ht, _, hrest⟩ := exists_head_of_mem_trails hr'
      have hhead : k.head? = some s := by
        simp only [List.mem_append, List.map_map, List.mem_map, Function.comp_apply] at hk
        rcases hk with ⟨_, -, rfl⟩ | ⟨_, -, rfl⟩ <;> rfl
      rw [heq, hrest] at hhead
      exact (hfirst t ht).ne (Option.some.inj hhead).symm

end Edges

theorem Trie.nodup_trails {α : Type} {t : Trie α} (h : t.edges.Valid) :
    (t.trails.map Prod.fst).Nodup := by
  rw [trails, List.map_append, List.nodup_append]
  refine ⟨by cases t.root <;> simp, h.nodup_trails, ?_⟩
  intro k hk k' hk'
  simp only [List.map_map, List.mem_map, Function.comp_apply] at hk hk'
  obtain ⟨_, -, rfl⟩ := hk
  obtain ⟨r, hr, rfl⟩ := hk'
  rintro heq
  exact Edges.nil_notMem_trails t.edges r.2 (heq ▸ hr)

namespace History

variable {α : Type}

theorem firstFit_keyed (entries : List (Entry α)) (path : List String) :
    Edges.firstFit (keyed entries) path =
      (entries.find? (·.pattern.matchesPath path)).map fun e =>
        (e, captures e.pattern.segments path) := by
  induction entries with
  | nil => rfl
  | cons e entries ih =>
    rw [keyed, List.map_cons, Edges.firstFit, List.findSome?_cons, List.find?_cons]
    cases hbind : Pattern.bindAll e.pattern.segments path with
    | none =>
      have hmiss : e.pattern.matchesPath path = false := by
        simp [Pattern.matchesPath, Pattern.bind?, hbind]
      rw [hmiss]
      exact ih
    | some bound =>
      have hmatches : e.pattern.matchesPath path = true := by
        simp [Pattern.matchesPath, Pattern.bind?, hbind]
      have hbound : bound = captures e.pattern.segments path :=
        ((Pattern.bindAll_eq_some_iff e.pattern.wildcardLast).1 hbind).2
      rw [hmatches, hbound]
      rfl

namespace Sound

variable {h : History α} (hs : h.Sound)

include hs

/-- The segments that lead to an entry are those of its pattern. -/
theorem trails_eq : h.trie.trails = History.keyed h.trie.entries := by
  rw [← Trie.map_snd_trails, History.keyed, List.map_map]
  symm
  refine (List.map_congr_left fun r hr => ?_).trans (List.map_id _)
  obtain ⟨-, hsegments⟩ := hs.mem_trails.1 hr
  exact Prod.ext hsegments rfl

theorem entries_perm : h.trie.entries ~ h.accepted := by
  have hmap := hs.trails_perm.map Prod.snd
  rw [Trie.map_snd_trails] at hmap
  simpa [History.keyed, Function.comp_def] using hmap

theorem length_entries : h.trie.entries.length = h.trie.size :=
  hs.entries_perm.length_eq.trans hs.size_eq.symm

theorem nodup_entries : (h.trie.entries.map fun e => e.pattern.segments).Nodup := by
  have hnodup := Trie.nodup_trails hs.valid
  rw [hs.trails_eq, History.keyed, List.map_map] at hnodup
  exact hnodup

theorem lookup_eq_find? (path : List String) : h.trie.lookup path =
    (h.trie.entries.find? (·.pattern.matchesPath path)).map fun e =>
      ⟨e, captures e.pattern.segments path⟩ := by
  rw [Trie.lookup_eq, hs.trails_eq, firstFit_keyed, Option.map_map]
  rfl

end Sound

end History

/-- To group a list by keys that differ and cover it is to rearrange it. -/
theorem flatMap_filter_perm {β κ : Type} [DecidableEq κ] (key : β → κ) {keys : List κ}
    (hkeys : keys.Nodup) {xs : List β} (hcover : ∀ x ∈ xs, key x ∈ keys) :
    (keys.flatMap fun k => xs.filter (key · = k)) ~ xs := by
  induction keys generalizing xs with
  | nil =>
    have hnil : xs = [] := List.eq_nil_iff_forall_not_mem.2 fun x hx => by simpa using hcover x hx
    simp [hnil]
  | cons k keys ih =>
    obtain ⟨hk, hrest⟩ := List.nodup_cons.1 hkeys
    have hothers : (keys.flatMap fun k' => xs.filter (key · = k')) =
        keys.flatMap fun k' => (xs.filter fun x => ¬ key x = k).filter (key · = k') := by
      refine List.flatMap_congr fun k' hk' => ?_
      rw [List.filter_filter]
      refine List.filter_congr fun x _ => ?_
      have hne : k' ≠ k := fun heq => hk (heq ▸ hk')
      by_cases hx : key x = k' <;> simp [hx, hne]
    have hcovered : ∀ x ∈ xs.filter fun x => ¬ key x = k, key x ∈ keys := by
      intro x hx
      obtain ⟨hmem, hne⟩ := List.mem_filter.1 hx
      exact (List.mem_cons.1 (hcover x hmem)).resolve_left (by simpa using hne)
    calc ((k :: keys).flatMap fun k => xs.filter (key · = k))
      _ = xs.filter (key · = k) ++ keys.flatMap fun k' => xs.filter (key · = k') :=
        List.flatMap_cons
      _ ~ xs.filter (key · = k) ++ xs.filter fun x => ¬ key x = k := by
        rw [hothers]
        exact (ih hrest hcovered).append_left _
      _ ~ xs := by simpa using List.filter_append_perm (fun x => decide (key x = k)) xs

namespace Ledger.Sound

variable {σ η : Type} {l : Ledger σ η} (hl : l.Sound)

include hl

theorem values_perm (verb : Verb) :
    (l.router.trie verb).entries.map Entry.value ~ l.accepted.filter (·.verb = verb) := by
  have hmap : (l.router.trie verb).entries.map Entry.value ~
      (l.under verb).accepted.map Entry.value := (hl verb).entries_perm.map _
  simpa [under, Function.comp_def, HandledRoute.entry] using hmap

theorem routes_perm : l.router.routes ~ l.accepted := by
  have hall : Verb.all.Nodup := by decide
  calc l.router.routes
    _ ~ Verb.all.flatMap fun v => l.accepted.filter (·.verb = v) :=
      List.Perm.flatMap_left _ fun v _ => hl.values_perm v
    _ ~ l.accepted := flatMap_filter_perm HandledRoute.verb hall fun route _ => route.verb.mem_all

theorem exists_route_of_mem_entries {verb : Verb} {e : Entry (HandledRoute σ η)}
    (he : e ∈ (l.router.trie verb).entries) :
    ∃ route ∈ l.accepted, route.verb = verb ∧ route.entry = e :=
  mem_under.1 ((hl verb).entries_perm.mem_iff.1 he)

theorem verb_of_mem_entries {verb : Verb} {e : Entry (HandledRoute σ η)}
    (he : e ∈ (l.router.trie verb).entries) : e.value.verb = verb := by
  obtain ⟨route, -, hverb, rfl⟩ := hl.exists_route_of_mem_entries he
  exact hverb

theorem filter_routes (verb : Verb) : l.router.routes.filter (·.verb = verb) =
    (l.router.trie verb).entries.map Entry.value := by
  have hgroup : ∀ v, ((l.router.trie v).entries.map Entry.value).filter (·.verb = verb) =
      if v = verb then (l.router.trie v).entries.map Entry.value else [] := by
    intro v
    split
    · next heq =>
      refine List.filter_eq_self.2 fun route hroute => ?_
      obtain ⟨e, he, rfl⟩ := List.mem_map.1 hroute
      simpa [heq] using hl.verb_of_mem_entries he
    · next hne =>
      refine List.filter_eq_nil_iff.2 fun route hroute => ?_
      obtain ⟨e, he, rfl⟩ := List.mem_map.1 hroute
      simpa [hl.verb_of_mem_entries he] using hne
  rw [Router.routes, List.filter_flatMap]
  simp only [hgroup]
  cases verb <;> simp [Verb.all]

theorem length_routes : l.router.routes.length = l.router.size := by
  have hlength : ∀ v, (l.router.trie v).entries.length = (l.router.trie v).size := fun v =>
    (hl v).length_entries
  simp [Router.routes, Router.size, Verb.all, hlength]

theorem nodup_routes :
    (l.router.routes.map fun route => (route.verb, route.pattern.segments)).Nodup := by
  have hkeys : (l.router.routes.map fun route => (route.verb, route.pattern.segments)) =
      Verb.all.flatMap fun v =>
        ((l.router.trie v).entries.map fun e => e.pattern.segments).map (v, ·) := by
    rw [Router.routes, List.map_flatMap]
    refine List.flatMap_congr fun v _ => ?_
    rw [List.map_map, List.map_map]
    refine List.map_congr_left fun e he => ?_
    obtain ⟨route, -, rfl, rfl⟩ := hl.exists_route_of_mem_entries he
    rfl
  rw [hkeys, List.nodup_flatMap]
  constructor
  · intro v _
    exact (hl v).nodup_entries.map fun _ _ heq => (Prod.mk.inj heq).2
  · have hall : Verb.all.Nodup := by decide
    refine hall.imp fun {v w} hvw key hv hw => ?_
    obtain ⟨_, -, rfl⟩ := List.mem_map.1 hv
    obtain ⟨_, -, heq⟩ := List.mem_map.1 hw
    exact hvw (Prod.mk.inj heq).1.symm

end Ledger.Sound

/-- After any calls, the list of the entries of a trie has each accepted entry once, and a
lookup finds the first of the list whose pattern, walked along by itself, fits the path. The
list of the routes of a table has each accepted route once, those of each method together in
the order of its trie. -/
theorem lists_in_precedence_order {α σ η : Type} (calls : List (Call α))
    (routerCalls : List (RouterCall σ η)) :
    let trie := (History.run calls).trie
    let l := Ledger.run routerCalls
    let routes := l.router.routes
    (trie.entries ~ (History.run calls).accepted ∧
      (trie.entries.map fun e => e.pattern.segments).Nodup ∧
      trie.entries.length = trie.size ∧
      (∀ path, trie.lookup path =
        (trie.entries.find? (·.pattern.matchesPath path)).map fun e =>
          ⟨e, captures e.pattern.segments path⟩) ∧
      ∀ (p : Pattern) path, p.matchesPath path = true ↔ Fits p.segments path) ∧
    routes ~ l.accepted ∧
    (routes.map fun route => (route.verb, route.pattern.segments)).Nodup ∧
    (routes = [Verb.get, .post, .put, .delete, .patch, .head, .options].flatMap fun v =>
      routes.filter (·.verb = v)) ∧
    (∀ v, routes.filter (·.verb = v) = (l.router.trie v).entries.map Entry.value) ∧
    routes.length = l.router.size := by
  intro trie l routes
  have hs : (History.run calls).Sound := .run calls
  have hl : l.Sound := .run routerCalls
  have hgroups : routes = Verb.all.flatMap fun v => routes.filter (·.verb = v) :=
    List.flatMap_congr fun v _ => (hl.filter_routes v).symm
  exact ⟨⟨hs.entries_perm, hs.nodup_entries, hs.length_entries, hs.lookup_eq_find?,
    fun p _ => p.matchesPath_iff⟩, hl.routes_perm, hl.nodup_routes, hgroups, hl.filter_routes,
    hl.length_routes⟩

end Wayfinder.Route
