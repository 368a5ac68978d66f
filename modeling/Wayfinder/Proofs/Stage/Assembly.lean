import Mathlib.Data.List.Induction
import Wayfinder.Dispatcher
import Wayfinder.Proofs.Route.Answers
import Wayfinder.Proofs.Stage.Filters
/-!
# The stages of a request

A server is set up by calls in any order, accepted or not: stages for all requests, stages behind
filters, routes with stages of their own. The chain of a request takes from each of the three its
stages in the order in which they were added.
-/

namespace Wayfinder

open Context (Exchange Token World)
open Http (Method Request)
open Route (Fits Ledger Pattern RouteError RouterCall)
open Stage (Filtered MethodFilter Placement Program Registry Scope)

/-! ## Setting up a server -/

/-- One call on a server that is set up. -/
inductive Setup
  | globals (stages : List Stage)
  | forFilter (filter : MethodFilter) (pattern : String) (stages : List Stage)
  | forPattern (method pattern : String) (stages : List Stage)
  | route (method : Method) (pattern : String) (handler : Program) (stages : List Stage)
  | attach (method : Method) (pattern : String) (stage : Stage)
  | notFound (handler : Program)
  | methodNotAllowed (handler : Program)

namespace Setup

/-- The table after a call, accepted or not. -/
def apply (t : Table) : Setup → Table
  | globals stages => t.addGlobals stages
  | forFilter filter pattern stages => (t.addFiltered filter pattern stages).toOption.getD t
  | forPattern method pattern stages => (t.addScoped method pattern stages).toOption.getD t
  | route method pattern handler stages => (t.register method pattern handler stages).2
  | attach method pattern stage =>
    { t with router := t.router.modifyRoute method pattern (·.addStage stage) }
  | notFound handler => { t with notFound := handler }
  | methodNotAllowed handler => { t with methodNotAllowed := handler }

/-- What a call answers, apart from the route or the builder that it gives. -/
def reply (t : Table) : Setup → Except RouteError Unit
  | forFilter filter pattern stages => (t.addFiltered filter pattern stages).map fun _ => ()
  | forPattern method pattern stages => (t.addScoped method pattern stages).map fun _ => ()
  | route method pattern handler stages => (t.register method pattern handler stages).1.map fun _ => ()
  | _ => .ok ()

def run (program : List Setup) : Table := program.foldl apply {}

def globalStages : Setup → List Stage
  | globals stages => stages
  | _ => []

/-- The stages that a call adds behind a filter. -/
def filteredStages : Setup → List (MethodFilter × Pattern × Stage)
  | forFilter filter pattern stages => match Pattern.parse pattern with
    | .ok p => stages.map (filter, p, ·)
    | .error _ => []
  | forPattern method pattern stages => match MethodFilter.parse method, Pattern.parse pattern with
    | .ok filter, .ok p => stages.map (filter, p, ·)
    | _, _ => []
  | _ => []

/-- What a call asks of the table of routes. -/
def routerCall? : Setup → Option (RouterCall Stage Program)
  | route method pattern handler stages => some (.register method pattern handler stages)
  | attach method pattern stage => some (.attach method pattern stage)
  | _ => none

/-- The routes of a server that was set up by some calls, each with its stages. -/
def ledger (program : List Setup) : Ledger Stage Program := .run (program.filterMap routerCall?)

section Apply

variable (t : Table) (call : Setup)

theorem apply_forFilter (filter : MethodFilter) (pattern : String) (stages : List Stage) :
    ((forFilter filter pattern stages).apply t).registry.globals = t.registry.globals ∧
      ((forFilter filter pattern stages).apply t).registry.filtered.map Filtered.key =
        t.registry.filtered.map Filtered.key ++ (forFilter filter pattern stages).filteredStages ∧
      ((forFilter filter pattern stages).apply t).router = t.router := by
  cases hparse : Pattern.parse pattern with
  | error e =>
    simp [apply, Table.addFiltered, t.registry.addFiltered_of_error filter stages hparse,
      filteredStages, hparse, bind, Except.bind, Except.toOption]
  | ok p =>
    obtain ⟨r', hadd, hglobals, hfiltered⟩ := t.registry.addFiltered_of_ok filter stages hparse
    simp [apply, Table.addFiltered, hadd, hglobals, hfiltered, filteredStages, hparse, bind,
      Except.bind, pure, Except.pure, Except.toOption]

/-- A filter that is spelled does what the filter does that it spells, and otherwise nothing. -/
theorem apply_forPattern (method pattern : String) (stages : List Stage) :
    (∃ filter, (forPattern method pattern stages).apply t = (forFilter filter pattern stages).apply t ∧
      (forPattern method pattern stages).filteredStages =
        (forFilter filter pattern stages).filteredStages) ∨
    (forPattern method pattern stages).apply t = t ∧
      (forPattern method pattern stages).filteredStages = [] := by
  cases hmethod : MethodFilter.parse method with
  | error e =>
    refine .inr ⟨?_, ?_⟩
    · simp [apply, Table.addScoped, Registry.addScoped, hmethod, bind, Except.bind,
        Except.toOption]
    · simp [filteredStages, hmethod]
  | ok filter =>
    refine .inl ⟨filter, ?_, ?_⟩
    · simp [apply, Table.addScoped, Table.addFiltered, Registry.addScoped, hmethod, bind,
        Except.bind]
    · cases hparse : Pattern.parse pattern <;> simp [filteredStages, hmethod, hparse]

theorem globals_apply :
    (call.apply t).registry.globals = t.registry.globals ++ call.globalStages := by
  cases call with
  | globals stages => rfl
  | forFilter filter pattern stages =>
    simpa [globalStages] using (apply_forFilter t filter pattern stages).1
  | forPattern method pattern stages =>
    rcases apply_forPattern t method pattern stages with ⟨filter, happly, -⟩ | ⟨happly, -⟩
    · simpa [globalStages, happly] using (apply_forFilter t filter pattern stages).1
    · simp [globalStages, happly]
  | _ => simp [apply, globalStages, Table.register]

theorem filtered_apply : (call.apply t).registry.filtered.map Filtered.key =
    t.registry.filtered.map Filtered.key ++ call.filteredStages := by
  cases call with
  | globals stages => simp [apply, Table.addGlobals, Registry.addGlobals, filteredStages]
  | forFilter filter pattern stages => exact (apply_forFilter t filter pattern stages).2.1
  | forPattern method pattern stages =>
    rcases apply_forPattern t method pattern stages with ⟨filter, happly, hstages⟩ | ⟨happly, hstages⟩
    · rw [happly, hstages]
      exact (apply_forFilter t filter pattern stages).2.1
    · simp [happly, hstages]
  | _ => simp [apply, filteredStages, Table.register]

theorem reply_forFilter_eq_error_iff {filter : MethodFilter} {pattern : String}
    {stages : List Stage} {e : RouteError} :
    (forFilter filter pattern stages).reply t = .error e ↔ Pattern.parse pattern = .error e := by
  cases hparse : Pattern.parse pattern with
  | error e' =>
    simp [reply, Table.addFiltered, t.registry.addFiltered_of_error filter stages hparse, bind,
      Except.bind, Except.map]
  | ok p =>
    obtain ⟨r', hadd, -⟩ := t.registry.addFiltered_of_ok filter stages hparse
    simp [reply, Table.addFiltered, hadd, bind, Except.bind, pure, Except.pure, Except.map]

theorem getD_of_map_eq_error {answer : Except RouteError Table} {e : RouteError}
    (h : answer.map (fun _ => ()) = .error e) : answer.toOption.getD t = t := by
  cases answer with
  | error => rfl
  | ok t' => cases h

theorem apply_of_reply_eq_error {e : RouteError} (h : call.reply t = .error e) :
    call.apply t = t := by
  cases call with
  | forFilter filter pattern stages => exact getD_of_map_eq_error t h
  | forPattern method pattern stages => exact getD_of_map_eq_error t h
  | route method pattern handler stages =>
    -- a refused registration went through the trie as well, which its cases say is the same
    rcases t.router.register_cases method pattern handler stages with
      ⟨e, hregister, -⟩ | ⟨_, _, _, -, -, -, hregister⟩
    · simp [apply, Table.register, hregister]
    · simp [reply, Table.register, hregister, Except.map] at h
  | _ => cases h

theorem router_apply {l : Ledger Stage Program} (h : t.router = l.router) :
    (call.apply t).router = (call.routerCall?.elim l l.step).router := by
  cases call with
  | globals stages => exact h
  | forFilter filter pattern stages => exact (apply_forFilter t filter pattern stages).2.2.trans h
  | forPattern method pattern stages =>
    rcases apply_forPattern t method pattern stages with ⟨filter, happly, -⟩ | ⟨happly, -⟩
    · rw [happly]
      exact (apply_forFilter t filter pattern stages).2.2.trans h
    · rw [happly]
      exact h
  | route method pattern handler stages =>
    simp [apply, Table.register, routerCall?, l.router_step_register, h]
  | attach method pattern stage => simp [apply, routerCall?, Ledger.step, h]
  | notFound handler => exact h
  | methodNotAllowed handler => exact h

end Apply

/-- Each part of the table has what the calls added to it, in their order. -/
theorem run_eq (program : List Setup) :
    (run program).registry.globals = program.flatMap globalStages ∧
      (run program).registry.filtered.map Filtered.key = program.flatMap filteredStages ∧
      (run program).router = (ledger program).router := by
  induction program using List.reverseRecOn with
  | nil => exact ⟨rfl, rfl, rfl⟩
  | append_singleton program call ih =>
    obtain ⟨hglobals, hfiltered, hrouter⟩ := ih
    have hrun : run (program ++ [call]) = call.apply (run program) := by simp [run]
    rw [hrun]
    refine ⟨?_, ?_, ?_⟩
    · simp [globals_apply, hglobals]
    · simp [filtered_apply, hfiltered]
    · rw [router_apply _ _ hrouter]
      cases hcall : call.routerCall? <;> simp [ledger, Ledger.run, hcall]

end Setup

/-! ## Resolving a request -/

namespace Table

variable (t : Table) (x : Exchange)

theorem stages_resolve :
    (t.resolve x).stages = (t.placementsFor x.request.method x.request.path).map (·.stage) := by
  simp only [resolve, placementsFor, Route.Router.lookup]
  cases t.router.lookupSegments x.request.method (Route.Path.split x.request.path) <;> rfl

theorem exchange_resolve_of_found {route : StagedRoute} {params : Route.Params}
    (h : t.router.lookup x.request.method x.request.path = .found route params) :
    (t.resolve x).exchange = { x with pattern := some route.pattern.raw, params } := by
  rw [Route.Router.lookup] at h
  simp [resolve, h]

theorem exchange_resolve_of_not_isFound
    (h : (t.router.lookup x.request.method x.request.path).isFound = false) :
    (t.resolve x).exchange.pattern = x.pattern ∧ (t.resolve x).exchange.params = x.params := by
  rw [Route.Router.lookup] at h
  simp only [resolve]
  split
  · next hfound => simp [hfound, Route.Lookup.isFound] at h
  · exact ⟨rfl, rfl⟩
  · exact ⟨rfl, rfl⟩

/-- The stages of a request by their scopes: all global ones, the filtered ones that admit it, and
those of the route that is found. -/
theorem map_placementsFor (method : Method) (path : String) :
    (t.placementsFor method path).map (fun s => (s.scope, s.stage)) =
      t.registry.globals.map (.global, ·) ++
        ((t.registry.filtered.map Filtered.key).filter fun s =>
          (s.1 = .any ∨ s.1 = .only method) ∧ Fits s.2.1.segments (Route.Path.split path)).map
            (.pattern, ·.2.2) ++
        match t.router.lookup method path with
        | .found route _ => route.stages.map (.route, ·)
        | _ => [] := by
  simp only [placementsFor, placements, List.map_append, Registry.globalPlacements,
    Stage.map_place, Stage.map_matching]
  cases t.router.lookup method path <;> simp

theorem scope_ne_route_of_not_isFound {method : Method} {path : String}
    (h : (t.router.lookup method path).isFound = false) :
    ∀ s ∈ t.placementsFor method path, s.scope ≠ .route := by
  intro s hs hscope
  have hmem := List.mem_map_of_mem (f := fun s : Placement => (s.scope, s.stage)) hs
  rw [map_placementsFor] at hmem
  cases hanswer : t.router.lookup method path with
  | found winner params => simp [hanswer, Route.Lookup.isFound] at h
  | methodNotAllowed allowed => simp [hanswer, hscope] at hmem
  | notFound => simp [hanswer, hscope] at hmem

end Table

/-- However a server was set up, the chain of a request consists of the stages for all requests in
their order, the stages behind filters that admit the method and whose pattern by itself fits the
path, in the order in which they were added, and the stages of the route that was found, if one
was, in the order in which they were attached to it. Without a route nothing is bound. A filter is
refused exactly if its pattern cannot be read, and a call that fails adds nothing. -/
theorem Setup.stages_of_request (program : List Setup) (world : World) (shutdown : Token)
    (request : Request) :
    let t := run program
    let answer := t.router.lookup request.method request.path
    let placed := t.placementsFor request.method request.path
    let r := t.resolve (Exchange.start world shutdown request)
    r.stages = placed.map (·.stage) ∧
    placed.map (fun s => (s.scope, s.stage)) =
      (program.flatMap globalStages).map (.global, ·) ++
        ((program.flatMap filteredStages).filter fun s =>
          (s.1 = .any ∨ s.1 = .only request.method) ∧
            Fits s.2.1.segments (Route.Path.split request.path)).map (.pattern, ·.2.2) ++
        (match answer with
        | .found winner _ => winner.stages.map (.route, ·)
        | _ => []) ∧
    (∀ winner params, answer = .found winner params →
      Ledger.Origin (program.filterMap routerCall?) winner ∧
        r.exchange.pattern = some winner.pattern.raw ∧ r.exchange.params = params) ∧
    (answer.isFound = false →
      (∀ s ∈ placed, s.scope ≠ .route) ∧ r.exchange.pattern = none ∧ r.exchange.params = []) ∧
    (∀ filter pattern stages e,
      (forFilter filter pattern stages).reply t = .error e ↔ Pattern.parse pattern = .error e) ∧
    ∀ (call : Setup) (e : RouteError), call.reply t = .error e → call.apply t = t := by
  intro t answer placed r
  obtain ⟨hglobals, hfiltered, hrouter⟩ := run_eq program
  have hplaced : placed.map (fun s => (s.scope, s.stage)) = _ :=
    t.map_placementsFor request.method request.path
  rw [hglobals, hfiltered] at hplaced
  refine ⟨t.stages_resolve _, hplaced, fun winner params hfound => ?_, fun hmiss => ⟨?_, ?_⟩,
    fun filter pattern stages e => reply_forFilter_eq_error_iff t,
    fun call e => apply_of_reply_eq_error t call⟩
  · have hledger : (ledger program).router.lookup request.method request.path =
        .found winner params := hrouter ▸ hfound
    have hexchange := t.exchange_resolve_of_found (Exchange.start world shutdown request) hfound
    exact ⟨Ledger.origin_of_mem_run ((Ledger.Sound.run _).lookup_eq_found hledger).1,
      by simp [r, hexchange], by simp [r, hexchange]⟩
  · exact t.scope_ne_route_of_not_isFound hmiss
  · exact t.exchange_resolve_of_not_isFound _ hmiss

end Wayfinder
