import Mathlib.Data.List.Basic
import Wayfinder.Proofs.Route.Answers
/-!
# What a registration changes

A registration that is refused changes nothing. One that is accepted puts a single trail between
the others, so a lookup under its method finds what it found before or the new route.
-/

namespace Wayfinder.Route

open Http (Method Verb)

namespace Edges

variable {α : Type}

/-- One more trail is found itself or not noticed. -/
theorem firstFit_insert (before after : List (Trail α)) (r : Trail α) (path : List String) :
    firstFit (before ++ r :: after) path = firstFit (before ++ after) path ∨
      ∃ bound, firstFit (before ++ r :: after) path = some (r.2, bound) := by
  have hcons : firstFit (r :: after) path =
      ((Pattern.bindAll r.1 path).map (r.2, ·)).or (firstFit after path) := by
    cases hbind : Pattern.bindAll r.1 path <;> simp [firstFit, hbind]
  rw [firstFit_append, firstFit_append, hcons]
  cases firstFit before path with
  | some found => exact .inl rfl
  | none =>
    cases Pattern.bindAll r.1 path with
    | none => exact .inl rfl
    | some bound => exact .inr ⟨bound, rfl⟩

end Edges

theorem Trie.lookup_of_insert {α : Type} {t t' : Trie α} {p : Pattern} {v : α}
    (ht : t.insert p v = .ok t') (path : List String) :
    t'.lookup path = t.lookup path ∨ ∃ bound, t'.lookup path = some ⟨⟨p, v⟩, bound⟩ := by
  obtain ⟨before, after, hold, hnew⟩ := exists_trails_eq_of_insert ht
  rw [lookup_eq, lookup_eq, hold, hnew]
  rcases Edges.firstFit_insert before after (p.segments, ⟨p, v⟩) path with hsame | ⟨bound, hfound⟩
  · exact .inl (by rw [hsame])
  · exact .inr ⟨bound, by simp [hfound]⟩

variable {σ η : Type}

namespace Router

/-- The tries of the other methods are all that a lookup reads when it misses. -/
theorem lookup_setTrie (r : Router σ η) {method : Method} {verb : Verb}
    (hverb : method.verb? = some verb) {t : Trie (HandledRoute σ η)} {path : String}
    (h : t.lookup (Path.split path) = (r.trie verb).lookup (Path.split path)) :
    (r.setTrie verb t).lookup method path = r.lookup method path := by
  have hallowed : (r.setTrie verb t).allowed method (Path.split path) =
      r.allowed method (Path.split path) := by
    refine List.filter_congr fun v _ => ?_
    by_cases hv : v = verb
    · subst hv
      simp [Method.verb?_eq_some_iff.1 hverb]
    · rw [trie_setTrie_of_ne _ hv]
  simp [lookup, lookupSegments, hverb, h, hallowed]

end Router

namespace Ledger

/-- An accepted registration under a method answers a lookup of that method as before or with the
new route. -/
theorem lookup_of_register_eq_ok {router router' : Router σ η} {method : Method} {pattern : String}
    {handler : η} {stages : List σ} {route : HandledRoute σ η}
    (h : router.register method pattern handler stages = (.ok route, router')) :
    (∃ verb p, method.verb? = some verb ∧ Pattern.parse pattern = .ok p ∧
      route = { verb, pattern := p, handler, stages }) ∧
    ∀ path, router'.lookup method path = router.lookup method path ∨
      ∃ params, router'.lookup method path = .found route params := by
  rcases router.register_cases method pattern handler stages with
    ⟨e, hregister, -⟩ | ⟨verb, p, t, hverb, hparse, hinsert, hregister⟩
  · cases h.symm.trans hregister
  · cases h.symm.trans hregister
    refine ⟨⟨verb, p, hverb, hparse, rfl⟩, fun path => ?_⟩
    rcases Trie.lookup_of_insert hinsert (Path.split path) with hsame | ⟨params, hfound⟩
    · exact .inl (router.lookup_setTrie hverb hsame)
    · have hhit : ((router.setTrie verb t).trie verb).lookup (Path.split path) =
          some ⟨⟨p, { verb, pattern := p, handler, stages }⟩, params⟩ := by
        rw [Router.trie_setTrie_same, hfound]
      exact .inr ⟨params, (Router.lookup_eq_found_iff _).2 ⟨verb, _, hverb, hhit, rfl, rfl⟩⟩

/-- After any calls, a registration that is refused leaves the table as it was. After one that is
accepted, a lookup under its method answers what it answered before or with the new route, and
with that one only where its pattern fits. -/
theorem register_extends (calls : List (RouterCall σ η)) (method : Method) (pattern : String)
    (handler : η) (stages : List σ) :
    let router := (run calls).router
    let (answer, router') := router.register method pattern handler stages
    (∀ e, answer = .error e → router' = router) ∧
    ∀ route, answer = .ok route →
      (∃ verb p, method.verb? = some verb ∧ Pattern.parse pattern = .ok p ∧
        route = { verb, pattern := p, handler, stages }) ∧
      ∀ path,
        (router'.lookup method path = router.lookup method path ∨
          ∃ params, router'.lookup method path = .found route params) ∧
        ∀ params, router'.lookup method path = .found route params →
          Fits route.pattern.segments (Path.split path) := by
  intro router
  have hsound : ∀ call, ((run calls).step call).Sound := fun call =>
    run_append_singleton calls call ▸ .run _
  rcases hregister : router.register method pattern handler stages with ⟨answer, router'⟩
  refine ⟨?_, ?_⟩
  · rintro e rfl
    rcases router.register_cases method pattern handler stages with
      ⟨e', hrefused, -⟩ | ⟨_, _, _, _, _, _, haccepted⟩
    · exact (Prod.mk.inj (hregister.symm.trans hrefused)).2
    · cases hregister.symm.trans haccepted
  · rintro route rfl
    obtain ⟨hroute, hlookup⟩ := lookup_of_register_eq_ok hregister
    refine ⟨hroute, fun path => ⟨hlookup path, fun params hfound => ?_⟩⟩
    have hstep : ((run calls).step (.register method pattern handler stages)).router = router' :=
      ((run calls).router_step_register method pattern handler stages).trans
        (congrArg Prod.snd hregister)
    exact ((hsound _).lookup_eq_found (hstep ▸ hfound)).2.2

end Ledger

end Wayfinder.Route
