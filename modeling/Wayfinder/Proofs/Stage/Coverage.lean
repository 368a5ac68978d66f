import Mathlib.Data.List.Basic
import Wayfinder.Proofs.Stage.Assembly
/-!
# Guards on routes

A stage behind a filter guards the routes that the pattern of the filter covers, segment by
segment. The route of a request is found by a walk that backs out of dead ends and the
filter matches by itself; all the same no path leads to such a route past its guard.
-/

namespace Wayfinder

namespace Route

/-- The first segment accepts all that the second one accepts, whatever their names are. -/
inductive Segment.Covers : Segment → Segment → Prop
  | literal (text : String) : Covers (.literal text) (.literal text)
  | paramLiteral (name text : String) : Covers (.param name) (.literal text)
  | param (name name' : String) : Covers (.param name) (.param name')
  | regex (name name' : String) {r r' : Restriction} (h : r.source = r'.source) :
    Covers (.regex name r) (.regex name' r')

/-- The segments of a filter cover those of a route one by one. A final wildcard of the filter
stands for all that the route goes on with. -/
inductive Covers : List Segment → List Segment → Prop
  | done : Covers [] []
  | wildcard (rest : List Segment) : Covers [.wildcard] rest
  | step {s t : Segment} {filter route : List Segment} :
    s.Covers t → Covers filter route → Covers (s :: filter) (t :: route)

theorem Segment.Covers.self {s : Segment} (hs : s ≠ .wildcard) : s.Covers s := by
  cases s with
  | literal text => exact .literal text
  | param name => exact .param name name
  | regex name r => exact .regex name name rfl
  | wildcard => exact (hs rfl).elim

theorem Segment.Covers.accepts {s t : Segment} (h : s.Covers t) (ht : t ≠ .literal "") {x : String}
    (hx : t.Accepts x) : s.Accepts x := by
  cases h with
  | literal text => exact hx
  | paramLiteral name text =>
    -- a parameter accepts no empty segment, and no pattern has an empty literal
    have hxt : x = text := hx
    intro hempty
    exact ht (by rw [← hxt, hempty])
  | param name name' => exact hx
  | @regex name name' r r' hsource =>
    obtain rfl : r = r' := Restriction.ext_source hsource
    exact hx

namespace Covers

theorem fits {filter route : List Segment} (h : Covers filter route)
    (hroute : .literal "" ∉ route) {path : List String} (hfit : Fits route path) :
    Fits filter path := by
  induction h generalizing path with
  | done => exact hfit
  | wildcard rest => exact .rest path
  | step hst _ ih =>
    obtain ⟨hhead, htail⟩ := List.ne_and_not_mem_of_not_mem_cons hroute
    cases hfit with
    | rest => cases hst
    | step hx hrest => exact .step (hst.accepts hhead.symm hx) (ih htail hrest)

theorem append_wildcard {front : List Segment} (hfront : .wildcard ∉ front) (rest : List Segment) :
    Covers (front ++ [.wildcard]) (front ++ rest) := by
  induction front with
  | nil => exact .wildcard rest
  | cons s front ih =>
    obtain ⟨hhead, htail⟩ := List.ne_and_not_mem_of_not_mem_cons hfront
    exact .step (.self hhead.symm) (ih htail)

end Covers

end Route

open Context (Exchange Token World)
open Http (Method Request)
open Route (Covers Fits Ledger Pattern Segment)
open Stage (Filtered Placement)

namespace Stage

theorem Filtered.applies_of_covers {guard : Filtered} {route : StagedRoute} {method : Method}
    {path : List String} (hmethod : guard.filter = .any ∨ guard.filter = .only method)
    (hcovers : Covers guard.pattern.segments route.pattern.segments)
    (hfit : Fits route.pattern.segments path) : guard.applies method path = true := by
  have hroute : .literal "" ∉ route.pattern.segments := fun hmem =>
    route.pattern.literal_ne_empty hmem rfl
  exact Filtered.applies_iff.2 ⟨hmethod, hcovers.fits hroute hfit⟩

theorem Registry.map_key_filteredPlacements (r : Registry) :
    r.filteredPlacements.map (fun s => s.1.key) = r.filtered.map Filtered.key := by
  calc r.filteredPlacements.map (fun s => s.1.key)
    _ = (r.filtered.zipIdx.map Prod.fst).map Filtered.key := by
      rw [filteredPlacements, List.map_map, List.map_map]
      rfl
    _ = r.filtered.map Filtered.key := by rw [List.zipIdx_map_fst]

theorem Registry.stage_of_mem_filteredPlacements {r : Registry} {guard : Filtered}
    {place : Placement} (h : (guard, place) ∈ r.filteredPlacements) :
    place.stage = guard.stage := by
  obtain ⟨s, -, hs⟩ := List.mem_map.1 h
  cases hs
  rfl

end Stage

theorem Table.mem_placementsFor {t : Table} {guard : Filtered} {place : Placement}
    (hplace : (guard, place) ∈ t.registry.filteredPlacements) {method : Method} {path : String}
    (happlies : guard.applies method (Route.Path.split path) = true) :
    place ∈ t.placementsFor method path := by
  have hmatching : place ∈ t.registry.matching method (Route.Path.split path) :=
    List.mem_map.2 ⟨(guard, place), List.mem_filter.2 ⟨hplace, happlies⟩, rfl⟩
  exact List.mem_append_left _ (List.mem_append_right _ hmatching)

/-- However a server was set up, a request that finds a route has in its chain every stage
behind a filter that admits the method of the route and covers its pattern. In particular a
filter that ends in a wildcard guards each route that begins with the segments before it. -/
theorem Setup.guard_covers (program : List Setup) (world : World) (shutdown : Token)
    (request : Request) {route : StagedRoute} {params : Route.Params}
    (hfound : (run program).router.lookup request.method request.path = .found route params) :
    let t := run program
    let placed := t.placementsFor request.method request.path
    let chain := (t.resolve (Exchange.start world shutdown request)).stages
    chain = placed.map (·.stage) ∧
    t.registry.filteredPlacements.map (fun s => s.1.key) = program.flatMap filteredStages ∧
    ∀ guard place, (guard, place) ∈ t.registry.filteredPlacements →
      guard.filter = .any ∨ guard.filter = .only route.verb.toMethod →
        (Covers guard.pattern.segments route.pattern.segments →
          place ∈ placed ∧ guard.stage ∈ chain) ∧
        ∀ front, guard.pattern.segments = front ++ [.wildcard] →
          front <+: route.pattern.segments → place ∈ placed ∧ guard.stage ∈ chain := by
  intro t placed chain
  obtain ⟨-, hfiltered, hrouter⟩ := run_eq program
  have hchain : chain = placed.map (·.stage) := t.stages_resolve _
  have hledger : (ledger program).router.lookup request.method request.path =
      .found route params := hrouter ▸ hfound
  obtain ⟨-, htoken, hfit⟩ := (Ledger.Sound.run _).lookup_eq_found hledger
  have hmethod : route.verb.toMethod = request.method := Method.token_injective htoken
  refine ⟨hchain, (Stage.Registry.map_key_filteredPlacements _).trans hfiltered, ?_⟩
  intro guard place hplace hfilter
  have hguarded (hcovers : Covers guard.pattern.segments route.pattern.segments) :
      place ∈ placed ∧ guard.stage ∈ chain := by
    have happlies := Filtered.applies_of_covers (hmethod ▸ hfilter) hcovers hfit
    have hmem : place ∈ placed := Table.mem_placementsFor hplace happlies
    have hstage : place.stage = guard.stage :=
      Stage.Registry.stage_of_mem_filteredPlacements hplace
    exact ⟨hmem, hchain ▸ hstage ▸ List.mem_map_of_mem hmem⟩
  refine ⟨hguarded, fun front hfront hprefix => hguarded ?_⟩
  obtain ⟨rest, hrest⟩ := hprefix
  have hlast : .wildcard ∉ front := by
    simpa [Route.WildcardLast, hfront] using guard.pattern.wildcardLast
  rw [hfront, ← hrest]
  exact .append_wildcard hlast rest

/-- A guard, and a route beside a literal that goes further. -/
def Setup.guardedPages : List Setup :=
  [.forPattern "*" "/admin/*" [.auth []],
    .route Http.Verb.get.toMethod "/admin/me/edit" .done [],
    .route Http.Verb.get.toMethod "/admin/:id" .done []]

/-- The walk turns back from the literal and binds the segment, behind an escaped one and before
a slash at the end. -/
theorem Setup.guard_covers_escaped :
    let request : Request :=
      { method := Http.Verb.get.toMethod, uri := { path := "/%61dmin/%6De/" } }
    let t := run guardedPages
    ∃ route params, t.router.lookup request.method request.path = .found route params ∧
      route.pattern.raw = "/admin/:id" ∧
      Stage.auth [] ∈ (t.resolve (Exchange.start {} ⟨0, []⟩ request)).stages := by
  refine ⟨_, _, rfl, rfl, ?_⟩
  have hguards := (guard_covers guardedPages {} ⟨0, []⟩
    { method := Http.Verb.get.toMethod, uri := { path := "/%61dmin/%6De/" } } rfl).2.2
  exact ((hguards _ _ (List.mem_cons_self ..) (.inl rfl)).2 [.literal "admin"] rfl ⟨_, rfl⟩).2

end Wayfinder
