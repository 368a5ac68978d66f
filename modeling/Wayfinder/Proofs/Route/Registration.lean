import Mathlib.Data.List.Basic
import Mathlib.Data.List.Induction
import Wayfinder.Proofs.Route.History
import Wayfinder.Proofs.Route.InPlace
import Wayfinder.Route.Router
/-!
# Tables under a history of registrations

A table of routes has a trie for each method. Whatever registrations and attachments it has
seen, accepted or not, each trie has just the history of the calls under its own method.
-/

namespace Wayfinder.Route

open Http (Method Verb)

variable {σ η : Type}

/-- One call on a table of routes. An attachment adds a stage to a route, if there is one. -/
inductive RouterCall (σ η : Type)
  | register (method : Method) (pattern : String) (handler : η) (stages : List σ)
  | attach (method : Method) (pattern : String) (stage : σ)

/-- A table of routes beside the routes that it accepted, in the order of acceptance, each with
the stages that it has by now. -/
structure Ledger (σ η : Type) where
  router : Router σ η := {}
  accepted : List (HandledRoute σ η) := []

/-- The call that a trie sees of a call on the table. -/
def RouterCall.under (verb : Verb) : RouterCall σ η → Option (Call (HandledRoute σ η))
  | register method pattern handler stages =>
    if method.verb? = some verb then
      (Pattern.parse pattern).toOption.map fun p =>
        .insert p { verb, pattern := p, handler, stages }
    else none
  | attach method pattern stage =>
    if method.verb? = some verb then
      (Pattern.parse pattern).toOption.map fun p => .write p (·.addStage stage)
    else none

/-- The stages that a call attaches to the route of a method with some segments. -/
def RouterCall.attached (verb : Verb) (segments : List Segment) : RouterCall σ η → List σ
  | register .. => []
  | attach method pattern stage => match Pattern.parse pattern with
    | .ok p => if method.verb? = some verb ∧ segments = p.segments then [stage] else []
    | .error _ => []

namespace HandledRoute

/-- Adds a stage to a route if it is the one of a method and of the segments of a pattern. -/
def attachAt (method : Method) (pattern : String) (stage : σ) (route : HandledRoute σ η) :
    HandledRoute σ η :=
  match Pattern.parse pattern with
  | .ok p =>
    if method.verb? = some route.verb ∧ route.pattern.segments = p.segments then
      route.addStage stage
    else route
  | .error _ => route

def entry (route : HandledRoute σ η) : Entry (HandledRoute σ η) := ⟨route.pattern, route⟩

variable (method : Method) (pattern : String) (stage : σ) (route : HandledRoute σ η)

theorem attachAt_eq : route.attachAt method pattern stage =
    let call : RouterCall σ η := .attach method pattern stage
    { route with stages := route.stages ++ call.attached route.verb route.pattern.segments } := by
  unfold attachAt RouterCall.attached
  split
  · split <;> simp [addStage, *]
  · simp [*]

@[simp] theorem verb_attachAt : (route.attachAt method pattern stage).verb = route.verb := by
  rw [attachAt_eq]

variable {method pattern route}

theorem attachAt_of_verb_ne (h : method.verb? ≠ some route.verb) :
    route.attachAt method pattern stage = route := by
  unfold attachAt
  split
  · exact if_neg fun hboth => h hboth.1
  · rfl

theorem attachAt_of_error {e : RouteError} (h : Pattern.parse pattern = .error e) :
    route.attachAt method pattern stage = route := by
  simp [attachAt, h]

theorem entry_attachAt {p : Pattern} (hverb : method.verb? = some route.verb)
    (hparse : Pattern.parse pattern = .ok p) :
    (route.attachAt method pattern stage).entry =
      route.entry.writeAt p.segments (·.addStage stage) := by
  by_cases hp : route.pattern.segments = p.segments <;>
    simp [attachAt, entry, Entry.writeAt, addStage, hverb, hparse, hp]

end HandledRoute

namespace Router

@[simp] theorem trie_setTrie_same (r : Router σ η) (verb : Verb) (t : Trie (HandledRoute σ η)) :
    (r.setTrie verb t).trie verb = t := if_pos rfl

theorem trie_setTrie_of_ne (r : Router σ η) {verb other : Verb} (h : other ≠ verb)
    (t : Trie (HandledRoute σ η)) : (r.setTrie verb t).trie other = r.trie other := if_neg h

@[simp] theorem setTrie_trie (r : Router σ η) (verb : Verb) : r.setTrie verb (r.trie verb) = r := by
  obtain ⟨trie⟩ := r
  simp only [setTrie, mk.injEq]
  funext v
  split <;> simp_all

theorem trie_modifyRoute_of_ne (r : Router σ η) {method : Method} {verb : Verb}
    (h : method.verb? ≠ some verb) (pattern : String) (f : HandledRoute σ η → HandledRoute σ η) :
    (r.modifyRoute method pattern f).trie verb = r.trie verb := by
  unfold modifyRoute
  split
  · next verb' p hverb _ =>
    exact trie_setTrie_of_ne r (fun hv => h (hverb.trans (congrArg some hv.symm))) _
  · rfl

theorem modifyRoute_of_error (r : Router σ η) (method : Method) {pattern : String} {e : RouteError}
    (h : Pattern.parse pattern = .error e) (f : HandledRoute σ η → HandledRoute σ η) :
    r.modifyRoute method pattern f = r := by
  cases hverb : method.verb? <;> simp [modifyRoute, hverb, h]

theorem trie_modifyRoute (r : Router σ η) {method : Method} {verb : Verb} {pattern : String}
    {p : Pattern} (hverb : method.verb? = some verb) (hparse : Pattern.parse pattern = .ok p)
    (f : HandledRoute σ η → HandledRoute σ η) :
    (r.modifyRoute method pattern f).trie verb = (r.trie verb).modify p f := by
  simp [modifyRoute, hverb, hparse]

/-- All that a registration can do: it is refused, with the table as it was, or the trie of its
method takes in the new route. -/
theorem register_cases (r : Router σ η) (method : Method) (pattern : String) (handler : η)
    (stages : List σ) :
    (∃ e, r.register method pattern handler stages = (.error e, r) ∧
      ∀ verb p, method.verb? = some verb → Pattern.parse pattern = .ok p →
        ∃ e', (r.trie verb).insert p { verb, pattern := p, handler, stages } = .error e') ∨
    ∃ verb p t, method.verb? = some verb ∧ Pattern.parse pattern = .ok p ∧
      (r.trie verb).insert p { verb, pattern := p, handler, stages } = .ok t ∧
      r.register method pattern handler stages =
        (.ok { verb, pattern := p, handler, stages }, r.setTrie verb t) := by
  unfold register
  cases hverb : method.verb? with
  | none => exact .inl ⟨_, rfl, by simp⟩
  | some verb =>
    cases hparse : Pattern.parse pattern with
    | error e => exact .inl ⟨e, rfl, by simp⟩
    | ok p =>
      simp only [Trie.insertInPlace_eq]
      cases hinsert : (r.trie verb).insert p { verb, pattern := p, handler, stages } with
      | error e =>
        refine .inl ⟨e.underMethod method.token, by simp, ?_⟩
        rintro _ _ ⟨⟩ ⟨⟩
        exact ⟨e, hinsert⟩
      | ok t => exact .inr ⟨verb, p, t, rfl, rfl, hinsert, rfl⟩

end Router

namespace Ledger

/-- The table makes the call. The list grows by the route that was accepted, and an attachment
adds a stage to the route that it is for. -/
def step (l : Ledger σ η) : RouterCall σ η → Ledger σ η
  | .register method pattern handler stages =>
    match l.router.register method pattern handler stages with
    | (.ok route, router) => ⟨router, l.accepted ++ [route]⟩
    | (.error _, router) => { l with router }
  | .attach method pattern stage =>
    ⟨l.router.modifyRoute method pattern (·.addStage stage),
      l.accepted.map (HandledRoute.attachAt method pattern stage)⟩

theorem router_step_register (l : Ledger σ η) (method : Method) (pattern : String) (handler : η)
    (stages : List σ) : (l.step (.register method pattern handler stages)).router =
      (l.router.register method pattern handler stages).2 := by
  simp only [step]
  split
  · next h => rw [h]
  · next h => rw [h]

def run (calls : List (RouterCall σ η)) : Ledger σ η := calls.foldl step {}

theorem run_append_singleton (calls : List (RouterCall σ η)) (call : RouterCall σ η) :
    run (calls ++ [call]) = (run calls).step call := by
  simp [run]

/-- A route was accepted by one of some calls. It has the stages that this call gave it and, behind
them, those that later calls attached to it, in their order. -/
def Origin (calls : List (RouterCall σ η)) (route : HandledRoute σ η) : Prop :=
  ∃ before method pattern stages after,
    calls = before ++ .register method pattern route.handler stages :: after ∧
    ((run before).router.register method pattern route.handler stages).1 =
      .ok { route with stages } ∧
    route.stages = stages ++ after.flatMap (·.attached route.verb route.pattern.segments)

theorem Origin.append_singleton {calls : List (RouterCall σ η)} {route : HandledRoute σ η}
    (h : Origin calls route) (call : RouterCall σ η) :
    Origin (calls ++ [call]) { route with
      stages := route.stages ++ call.attached route.verb route.pattern.segments } := by
  obtain ⟨before, method, pattern, stages, after, rfl, haccepted, hstages⟩ := h
  exact ⟨before, method, pattern, stages, after ++ [call], by simp, haccepted, by simp [hstages]⟩

theorem origin_of_mem_run {calls : List (RouterCall σ η)} {route : HandledRoute σ η}
    (h : route ∈ (run calls).accepted) : Origin calls route := by
  induction calls using List.reverseRecOn generalizing route with
  | nil => cases h
  | append_singleton calls call ih =>
    rw [run_append_singleton] at h
    cases call with
    | register method pattern handler stages =>
      -- a registration attaches nothing to the routes that are there
      have hold : route ∈ (run calls).accepted →
          Origin (calls ++ [.register method pattern handler stages]) route := fun hroute => by
        simpa [RouterCall.attached] using
          (ih hroute).append_singleton (.register method pattern handler stages)
      rcases (run calls).router.register_cases method pattern handler stages with
        ⟨e, hregister, -⟩ | ⟨verb, p, t, -, -, -, hregister⟩
      · simp only [step, hregister] at h
        exact hold h
      · simp only [step, hregister, List.mem_append, List.mem_singleton] at h
        rcases h with hroute | rfl
        · exact hold hroute
        · exact ⟨calls, method, pattern, stages, [], rfl, by rw [hregister], by simp⟩
    | attach method pattern stage =>
      obtain ⟨old, hroute, rfl⟩ := List.mem_map.1 h
      rw [HandledRoute.attachAt_eq]
      exact (ih hroute).append_singleton (.attach method pattern stage)

/-- The part of one method: its trie beside the entries that it accepted. -/
def under (l : Ledger σ η) (verb : Verb) : History (HandledRoute σ η) :=
  ⟨l.router.trie verb, (l.accepted.filter (·.verb = verb)).map HandledRoute.entry⟩

theorem mem_under {l : Ledger σ η} {verb : Verb} {e : Entry (HandledRoute σ η)} :
    e ∈ (l.under verb).accepted ↔
      ∃ route ∈ l.accepted, route.verb = verb ∧ route.entry = e := by
  simp [under, and_assoc]

theorem under_register (l : Ledger σ η) (method : Method) (pattern : String) (handler : η)
    (stages : List σ) (verb : Verb) :
    let call : RouterCall σ η := .register method pattern handler stages
    (l.step call).under verb = (call.under verb).elim (l.under verb) (l.under verb).step := by
  intro call
  rcases l.router.register_cases method pattern handler stages with
    ⟨e, hregister, hrefused⟩ | ⟨verb', p, t, hverb, hparse, hinsert, hregister⟩
  · have hstep : l.step call = l := by simp [call, step, hregister]
    rw [hstep]
    simp only [call, RouterCall.under]
    split
    · next hverb =>
      cases hparse : Pattern.parse pattern with
      | error => rfl
      | ok p =>
        -- the trie of the method refuses the route as well
        obtain ⟨e', hinsert⟩ := hrefused verb p hverb hparse
        simp [Except.toOption, History.step, under, hinsert]
    · rfl
  · simp only [call, step, hregister, RouterCall.under, hverb, hparse, Option.some.injEq]
    by_cases h : verb' = verb
    · subst h
      simp [Except.toOption, under, History.step, hinsert, HandledRoute.entry]
    · simp [under, Router.trie_setTrie_of_ne _ (Ne.symm h), h]

theorem under_attach (l : Ledger σ η) (method : Method) (pattern : String) (stage : σ)
    (verb : Verb) :
    let call : RouterCall σ η := .attach method pattern stage
    (l.step call).under verb = (call.under verb).elim (l.under verb) (l.under verb).step := by
  intro call
  have haccepted : (l.accepted.map (HandledRoute.attachAt method pattern stage)).filter
      (·.verb = verb) = (l.accepted.filter (·.verb = verb)).map
        (HandledRoute.attachAt method pattern stage) := by
    simp [List.filter_map, Function.comp_def]
  have hverbs : ∀ route ∈ l.accepted.filter (·.verb = verb), route.verb = verb := by
    intro route hroute
    simpa using (List.mem_filter.1 hroute).2
  simp only [call, step, under, RouterCall.under, haccepted, List.map_map]
  by_cases hverb : method.verb? = some verb
  · cases hparse : Pattern.parse pattern with
    | error e =>
      simp only [Router.modifyRoute_of_error _ _ hparse, if_pos hverb, Except.toOption,
        Option.map_none, Option.elim_none, History.mk.injEq, true_and]
      exact List.map_congr_left fun route _ =>
        congrArg HandledRoute.entry (HandledRoute.attachAt_of_error stage hparse)
    | ok p =>
      simp only [Router.trie_modifyRoute _ hverb hparse, if_pos hverb, Except.toOption,
        Option.map_some, Option.elim_some, History.step, List.map_map, History.mk.injEq, true_and]
      exact List.map_congr_left fun route hroute =>
        HandledRoute.entry_attachAt stage (hverbs route hroute ▸ hverb) hparse
  · simp only [Router.trie_modifyRoute_of_ne _ hverb, if_neg hverb, Option.elim_none,
      History.mk.injEq, true_and]
    exact List.map_congr_left fun route hroute => congrArg HandledRoute.entry
      (HandledRoute.attachAt_of_verb_ne stage (hverbs route hroute ▸ hverb))

/-- The part of a method has the history of the calls under that method. -/
theorem under_run (calls : List (RouterCall σ η)) (verb : Verb) :
    (run calls).under verb = History.run (calls.filterMap (RouterCall.under verb)) := by
  -- compared from any ledger on, since the first calls may be under other methods
  have hfold : ∀ l : Ledger σ η, (calls.foldl step l).under verb =
      (calls.filterMap (RouterCall.under verb)).foldl History.step (l.under verb) := by
    induction calls with
    | nil => exact fun _ => rfl
    | cons call calls ih =>
      intro l
      have hstep : (l.step call).under verb =
          (call.under verb).elim (l.under verb) (l.under verb).step := by
        cases call with
        | register method pattern handler stages =>
          exact l.under_register method pattern handler stages verb
        | attach method pattern stage => exact l.under_attach method pattern stage verb
      rw [List.foldl_cons, ih, hstep]
      cases hcall : call.under verb <;> simp [hcall]
  exact hfold {}

/-- The trie of each method has just the accepted routes of that method, each under the segments
of its pattern. -/
def Sound (l : Ledger σ η) : Prop := ∀ verb, (l.under verb).Sound

theorem Sound.run (calls : List (RouterCall σ η)) : (Ledger.run calls).Sound := fun verb =>
  under_run calls verb ▸ .run _

namespace Sound

variable {l : Ledger σ η} (hl : l.Sound) {verb : Verb} {path : List String}

include hl

theorem trie_lookup_eq_none_iff : (l.router.trie verb).lookup path = none ↔
    ∀ route ∈ l.accepted, route.verb = verb → ¬ Fits route.pattern.segments path := by
  have hnone : (l.router.trie verb).lookup path = none ↔
      ∀ e ∈ (l.under verb).accepted, ¬ Fits e.pattern.segments path :=
    (hl verb).lookup_eq_none_iff
  simp only [mem_under] at hnone
  refine hnone.trans ⟨fun h route hroute hverb => ?_, ?_⟩
  · exact h route.entry ⟨route, hroute, hverb, rfl⟩
  · rintro h _ ⟨route, hroute, hverb, rfl⟩
    exact h route hroute hverb

theorem trie_lookup_eq_some {hit : Hit (HandledRoute σ η)}
    (hhit : (l.router.trie verb).lookup path = some hit) :
    hit.entry.value ∈ l.accepted ∧ hit.entry.value.verb = verb ∧
      hit.entry.pattern = hit.entry.value.pattern ∧ Fits hit.entry.pattern.segments path := by
  obtain ⟨before, after, htrails, -, hfit, -⟩ := (hl verb).lookup_eq_some hhit
  have hmem : (hit.entry.pattern.segments, hit.entry) ∈ (l.under verb).trie.trails := by
    simp [htrails]
  obtain ⟨route, hroute, hverb, hentry⟩ := mem_under.1 ((hl verb).mem_trails.1 hmem).1
  rw [← hentry] at hfit ⊢
  exact ⟨hroute, hverb, rfl, hfit⟩

theorem trie_matchesPath_iff : (l.router.trie verb).matchesPath path = true ↔
    ∃ route ∈ l.accepted, route.verb = verb ∧ Fits route.pattern.segments path := by
  rw [Trie.matchesPath, Option.isSome_iff_ne_none, ne_eq, hl.trie_lookup_eq_none_iff]
  simp

end Sound

end Ledger

end Wayfinder.Route
