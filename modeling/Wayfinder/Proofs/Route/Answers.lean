import Mathlib.Data.List.Basic
import Wayfinder.Proofs.Route.Registration
/-!
# What a table answers

A request finds a route of its own method if one fits. Otherwise the answer names the other
methods that have a route for the path, and if there are none, it is that nothing was found.
-/

namespace Wayfinder.Route

open Http (Method Verb)

variable {σ η : Type}

namespace Router

variable (r : Router σ η) {method : Method} {path : String}

theorem lookup_eq_found_iff {route : HandledRoute σ η} {params : Params} :
    r.lookup method path = .found route params ↔
      ∃ verb hit, method.verb? = some verb ∧ (r.trie verb).lookup (Path.split path) = some hit ∧
        hit.entry.value = route ∧ hit.params = params := by
  unfold lookup lookupSegments
  cases hverb : method.verb? with
  | none =>
    cases r.allowed method (Path.split path) <;> simp
  | some verb =>
    cases hlookup : (r.trie verb).lookup (Path.split path) with
    | none => cases r.allowed method (Path.split path) <;> simp [hlookup]
    | some hit => simp [hlookup]

theorem exists_found_iff : (∃ route params, r.lookup method path = .found route params) ↔
    (r.lookup method path).isFound = true := by
  cases r.lookup method path <;> simp [Lookup.isFound]

theorem isFound_iff : (r.lookup method path).isFound = true ↔
    ∃ verb, method.verb? = some verb ∧ (r.trie verb).matchesPath (Path.split path) = true := by
  simp only [← exists_found_iff, lookup_eq_found_iff, Trie.matchesPath, Option.isSome_iff_exists]
  constructor
  · rintro ⟨_, _, verb, hit, hverb, hhit, -⟩
    exact ⟨verb, hverb, hit, hhit⟩
  · rintro ⟨verb, hverb, hit, hhit⟩
    exact ⟨_, _, verb, hit, hverb, hhit, rfl, rfl⟩

/-- The methods that have a route for a path, in the order in which they are listed. -/
def verbsFor (path : String) : List Verb :=
  [.get, .post, .put, .delete, .patch, .head, .options].filter fun v =>
    (r.lookup v.toMethod path).isFound

theorem lookup_of_not_isFound (h : (r.lookup method path).isFound = false) :
    r.lookup method path = match r.verbsFor path with
      | [] => .notFound
      | verbs => .methodNotAllowed verbs := by
  have hmiss : (method.verb?.bind fun verb => (r.trie verb).lookup (Path.split path)) = none := by
    cases hverb : method.verb?.bind fun verb => (r.trie verb).lookup (Path.split path) with
    | none => rfl
    | some hit => simp [lookup, lookupSegments, hverb, Lookup.isFound] at h
  have hallowed : r.allowed method (Path.split path) = r.verbsFor path := by
    refine List.filter_congr fun v _ => ?_
    have hv : (r.lookup v.toMethod path).isFound = (r.trie v).matchesPath (Path.split path) := by
      rw [Bool.eq_iff_iff, isFound_iff]
      simp
    -- the trie of the method itself has no route for the path
    have hown : v.token = method.token → (r.trie v).matchesPath (Path.split path) = false := by
      intro htoken
      rw [Bool.eq_false_iff]
      intro hmatches
      rw [Bool.eq_false_iff] at h
      exact h ((isFound_iff r).2 ⟨v, Method.verb?_eq_some_iff.2 htoken, hmatches⟩)
    by_cases htoken : v.token = method.token <;> simp [hv, htoken, hown]
  cases hverbs : r.verbsFor path <;> simp [lookup, lookupSegments, hmiss, hallowed, hverbs]

end Router

namespace Ledger

/-- Some accepted route of the method fits the path. -/
def Serves (l : Ledger σ η) (method : Method) (path : String) : Prop :=
  ∃ route ∈ l.accepted, route.verb.token = method.token ∧
    Fits route.pattern.segments (Path.split path)

namespace Sound

variable {l : Ledger σ η} (hl : l.Sound) {method : Method} {path : String}

include hl

theorem isFound_iff : (l.router.lookup method path).isFound = true ↔ l.Serves method path := by
  simp only [Router.isFound_iff, hl.trie_matchesPath_iff, Method.verb?_eq_some_iff]
  constructor
  · rintro ⟨_, hverb, route, hroute, rfl, hfit⟩
    exact ⟨route, hroute, hverb, hfit⟩
  · rintro ⟨route, hroute, hverb, hfit⟩
    exact ⟨route.verb, hverb, route, hroute, rfl, hfit⟩

theorem lookup_eq_found {route : HandledRoute σ η} {params : Params}
    (h : l.router.lookup method path = .found route params) :
    route ∈ l.accepted ∧ route.verb.token = method.token ∧
      Fits route.pattern.segments (Path.split path) := by
  obtain ⟨verb, hit, hverb, hhit, rfl, rfl⟩ := l.router.lookup_eq_found_iff.1 h
  obtain ⟨hroute, rfl, hpattern, hfit⟩ := hl.trie_lookup_eq_some hhit
  exact ⟨hroute, Method.verb?_eq_some_iff.1 hverb, hpattern ▸ hfit⟩

theorem isFound_eq_false (h : ¬ l.Serves method path) :
    (l.router.lookup method path).isFound = false := by
  rw [Bool.eq_false_iff, ne_eq, hl.isFound_iff]
  exact h

theorem lookup_eq_methodNotAllowed_iff {allowed : List Verb} :
    l.router.lookup method path = .methodNotAllowed allowed ↔
      ¬ l.Serves method path ∧ l.router.verbsFor path ≠ [] ∧ allowed = l.router.verbsFor path := by
  by_cases hserves : l.Serves method path
  · obtain ⟨route, params, hfound⟩ := l.router.exists_found_iff.2 (hl.isFound_iff.2 hserves)
    simp [hfound, hserves]
  · rw [Router.lookup_of_not_isFound _ (hl.isFound_eq_false hserves)]
    cases l.router.verbsFor path <;> simp [hserves, eq_comm]

theorem lookup_eq_notFound_iff : l.router.lookup method path = .notFound ↔
    ¬ l.Serves method path ∧ l.router.verbsFor path = [] := by
  by_cases hserves : l.Serves method path
  · obtain ⟨route, params, hfound⟩ := l.router.exists_found_iff.2 (hl.isFound_iff.2 hserves)
    simp [hfound, hserves]
  · rw [Router.lookup_of_not_isFound _ (hl.isFound_eq_false hserves)]
    cases l.router.verbsFor path <;> simp [hserves]

end Sound

/-- A registration under one method leaves what is found under another. -/
theorem lookup_register_of_ne (l : Ledger σ η) {method other : Method}
    (h : other.token ≠ method.token) (pattern : String) (handler : η) (stages : List σ)
    (path : String) (route : HandledRoute σ η) (params : Params) :
    (l.router.register other pattern handler stages).2.lookup method path = .found route params ↔
      l.router.lookup method path = .found route params := by
  rcases l.router.register_cases other pattern handler stages with
    ⟨e, hregister, -⟩ | ⟨verb, p, t, hverb, -, -, hregister⟩
  · rw [hregister]
  · rw [hregister, Router.lookup_eq_found_iff, Router.lookup_eq_found_iff]
    refine exists_congr fun v => exists_congr fun hit => and_congr_right fun hv => ?_
    have hne : v ≠ verb := by
      rintro rfl
      exact h ((Method.verb?_eq_some_iff.1 hverb).symm.trans (Method.verb?_eq_some_iff.1 hv))
    rw [Router.trie_setTrie_of_ne _ hne]

/-- After any calls, a lookup finds a route exactly if an accepted route of the method fits the
path, and then it is such a route. Otherwise it answers with the methods that have a route for
the path, in the order in which they are listed, or that nothing was found if there are none. -/
theorem lookup_answers (calls : List (RouterCall σ η)) (method : Method) (path : String) :
    let l := run calls
    let answer := l.router.lookup method path
    let verbs := l.router.verbsFor path
    ((∃ route params, answer = .found route params) ↔ l.Serves method path) ∧
    (∀ route params, answer = .found route params → route ∈ l.accepted ∧
      route.verb.token = method.token ∧ Fits route.pattern.segments (Path.split path)) ∧
    (∀ allowed, answer = .methodNotAllowed allowed ↔
      ¬ l.Serves method path ∧ verbs ≠ [] ∧ allowed = verbs) ∧
    (answer = .notFound ↔ ¬ l.Serves method path ∧ verbs = []) ∧
    (∀ allowed, answer = .methodNotAllowed allowed →
      allowed ≠ [] ∧ ∀ v ∈ allowed, v.token ≠ method.token) ∧
    ∀ other : Method, other.token ≠ method.token → ∀ pattern handler stages route params,
      (l.router.register other pattern handler stages).2.lookup method path =
        .found route params ↔ answer = .found route params := by
  intro l answer verbs
  have hl : l.Sound := .run calls
  refine ⟨?_, fun route params h => hl.lookup_eq_found h,
    fun allowed => hl.lookup_eq_methodNotAllowed_iff, hl.lookup_eq_notFound_iff,
    fun allowed hallowed => ?_, fun other hother pattern handler stages route params =>
      l.lookup_register_of_ne hother pattern handler stages path route params⟩
  · exact l.router.exists_found_iff.trans hl.isFound_iff
  · obtain ⟨hserves, hsome, rfl⟩ := hl.lookup_eq_methodNotAllowed_iff.1 hallowed
    refine ⟨hsome, fun v hv htoken => hserves ?_⟩
    -- a listed method that is the method of the request would serve the path
    have hfound : (l.router.lookup v.toMethod path).isFound = true := (List.mem_filter.1 hv).2
    obtain ⟨route, hroute, hverb, hfit⟩ := hl.isFound_iff.1 hfound
    exact ⟨route, hroute, hverb.trans htoken, hfit⟩

end Ledger

end Wayfinder.Route
