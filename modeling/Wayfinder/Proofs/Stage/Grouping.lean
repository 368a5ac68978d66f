import Mathlib.Data.List.Induction
import Wayfinder.Group
import Wayfinder.Proofs.Route.Listing
import Wayfinder.Proofs.Stage.Assembly
/-!
# Routes in groups

Groups are opened inside groups, and each is given stages and routes. A route has the stages that the groups
around it have declared when it is registered, the outermost group's first, and its own behind them. What is
declared afterwards, or in a group that is closed again, does not reach it.
-/

namespace Wayfinder

open Http (Method)
open Route (Ledger RouteError RouterCall)
open Stage (Placement Program Registry Scope)

/-- A call on the innermost of the groups that are open on a server, or on the server itself. -/
inductive GroupCall
  | enter (path : String)
  | leave
  | use (stages : List Stage)
  | route (method : Method) (sub : String) (handler : Program) (stages : List Stage)

/-! ## What the groups declare -/

namespace GroupCall

/-- The stages that each open group has declared itself, innermost group first. Calls reach the innermost
group only, so an outer one has what it had when the next group inside it was opened. -/
def declare (levels : List (List Stage)) : GroupCall → List (List Stage)
  | enter _ => [] :: levels
  | leave => levels.tail
  | use stages => levels.modifyHead (· ++ stages)
  | route _ _ _ _ => levels

def declared (calls : List GroupCall) : List (List Stage) := calls.foldl declare []

/-- Calls that close all groups that they open, and no other. -/
inductive Closed : List GroupCall → Prop
  | nil : Closed []
  | use (stages : List Stage) {rest : List GroupCall} : Closed rest → Closed (.use stages :: rest)
  | route (method : Method) (sub : String) (handler : Program) (stages : List Stage)
      {rest : List GroupCall} : Closed rest → Closed (.route method sub handler stages :: rest)
  | group (path : String) {inner rest : List GroupCall} : Closed inner → Closed rest →
      Closed (.enter path :: (inner ++ .leave :: rest))

theorem Closed.foldl_declare {calls : List GroupCall} (h : Closed calls) (level : List Stage)
    (levels : List (List Stage)) :
    ∃ more, calls.foldl declare (level :: levels) = (level ++ more) :: levels := by
  induction h generalizing level levels with
  | nil => exact ⟨[], by simp⟩
  | use stages _ ih =>
    obtain ⟨more, hmore⟩ := ih (level ++ stages) levels
    exact ⟨stages ++ more, by simp [declare, hmore]⟩
  | route method sub handler stages _ ih => exact ih level levels
  | group path _ _ ihinner ih =>
    obtain ⟨inside, hinside⟩ := ihinner [] (level :: levels)
    obtain ⟨more, hmore⟩ := ih level levels
    exact ⟨more, by simp [declare, hinside, hmore]⟩

/-- A group that is closed again has declared nothing for what follows. -/
theorem declared_group (before : List GroupCall) (path : String) {inner : List GroupCall}
    (h : Closed inner) : declared (before ++ .enter path :: (inner ++ [.leave])) = declared before := by
  obtain ⟨inside, hinside⟩ := h.foldl_declare [] (declared before)
  rw [declared] at hinside
  simp [declared, declare, hinside]

end GroupCall

/-! ## What the groups copy -/

/-- A server with the groups that are open on it, innermost first. -/
structure Build where
  table : Table := {}
  groups : List Group := []

namespace Build

open GroupCall (declare declared)

variable (b : Build)

/-- A registration in the innermost group. -/
def register (method : Method) (sub : String) (handler : Program) (stages : List Stage) :
    Except RouteError StagedRoute × Table :=
  match b.groups with
  | [] => b.table.register method sub handler stages
  | g :: _ => g.register b.table method sub handler stages

/-- A group at a path, inside the innermost group if one is open. -/
def groupAt (path : String) : Group :=
  match b.groups with
  | [] => .atPath path
  | g :: _ => g.nest path

def step : GroupCall → Build
  | .enter path => { b with groups := b.groupAt path :: b.groups }
  | .leave => { b with groups := b.groups.tail }
  | .use stages => { b with groups := b.groups.modifyHead (·.use stages) }
  | .route method sub handler stages => { b with table := (b.register method sub handler stages).2 }

def run (calls : List GroupCall) : Build := calls.foldl step {}

@[simp] theorem run_append_singleton (calls : List GroupCall) (call : GroupCall) :
    run (calls ++ [call]) = (run calls).step call := by
  simp [run]

/-- Each group has the stages of the group around it and those that it has declared itself. -/
inductive Inherit : List Group → List (List Stage) → Prop
  | none : Inherit [] []
  | inside {g : Group} {groups : List Group} {level : List Stage} {levels : List (List Stage)} :
      Inherit groups levels → g.stages = levels.reverse.flatten ++ level →
      Inherit (g :: groups) (level :: levels)

theorem Inherit.stages_eq {g : Group} {groups : List Group} {levels : List (List Stage)}
    (h : Inherit (g :: groups) levels) : g.stages = levels.reverse.flatten := by
  cases h with
  | inside _ hg => simp [hg]

/-- To open a group copies what is there, and from then on only the copy can grow. -/
theorem Inherit.step {b : Build} {levels : List (List Stage)} (h : Inherit b.groups levels)
    (call : GroupCall) : Inherit (b.step call).groups (declare levels call) := by
  obtain ⟨t, groups⟩ := b
  cases call with
  | enter path =>
    cases groups with
    | nil => exact .inside h (by cases h; rfl)
    | cons g groups => exact .inside h (by simpa [groupAt, Group.nest] using Inherit.stages_eq h)
  | leave =>
    cases h with
    | none => exact .none
    | inside houter _ => exact houter
  | use stages =>
    cases h with
    | none => exact .none
    | inside houter hg => exact .inside houter (by simp [Group.use, hg])
  | route method sub handler stages => exact h

theorem inherit_run (calls : List GroupCall) : Inherit (run calls).groups (declared calls) := by
  induction calls using List.reverseRecOn with
  | nil => exact .none
  | append_singleton calls call ih => simpa [declared] using ih.step call

/-- In any group, to register a route is to register it on the server, with the stages of the groups in
front of its own. -/
theorem register_run_eq (calls : List GroupCall) (method : Method) (sub : String) (handler : Program)
    (stages : List Stage) : ∃ pattern, (run calls).register method sub handler stages =
      (run calls).table.register method pattern handler ((declared calls).reverse.flatten ++ stages) := by
  have h := inherit_run calls
  unfold register
  cases hgroups : (run calls).groups with
  | nil =>
    rw [hgroups] at h
    cases hlevels : declared calls with
    | nil => exact ⟨sub, rfl⟩
    | cons level levels => rw [hlevels] at h; cases h
  | cons g groups =>
    rw [hgroups] at h
    exact ⟨Group.join g.path sub, by simp only [Group.register, h.stages_eq]⟩

/-! ## The routes of a program -/

/-- A call of a program registers a route, and is accepted when it is made. -/
def Accepts (program : List GroupCall) (route : StagedRoute) : Prop :=
  ∃ before method sub handler stages after,
    program = before ++ .route method sub handler stages :: after ∧
    ((run before).register method sub handler stages).1 = .ok route

theorem accepts_append_singleton_iff {program : List GroupCall} {call : GroupCall}
    {route : StagedRoute} : Accepts (program ++ [call]) route ↔ Accepts program route ∨
      ∃ method sub handler stages, call = .route method sub handler stages ∧
        ((run program).register method sub handler stages).1 = .ok route := by
  constructor
  · rintro ⟨before, method, sub, handler, stages, after, hprogram, haccepted⟩
    rcases after.eq_nil_or_concat with rfl | ⟨after, last, rfl⟩
    · obtain ⟨rfl, hcall⟩ := List.append_inj' hprogram rfl
      exact .inr ⟨method, sub, handler, stages, (List.cons.inj hcall).1, haccepted⟩
    · refine .inl ⟨before, method, sub, handler, stages, after, ?_, haccepted⟩
      rw [List.concat_eq_append, ← List.cons_append, ← List.append_assoc] at hprogram
      exact (List.append_inj' hprogram rfl).1
  · rintro (⟨before, method, sub, handler, stages, after, rfl, haccepted⟩ |
      ⟨method, sub, handler, stages, rfl, haccepted⟩)
    · exact ⟨before, method, sub, handler, stages, after ++ [call], by simp, haccepted⟩
    · exact ⟨program, method, sub, handler, stages, [], rfl, haccepted⟩

theorem mem_accepted_step {l : Ledger Stage Program} {method : Method} {pattern : String}
    {handler : Program} {stages : List Stage} {route : StagedRoute} :
    route ∈ (l.step (.register method pattern handler stages)).accepted ↔
      route ∈ l.accepted ∨ (l.router.register method pattern handler stages).1 = .ok route := by
  rcases l.router.register_cases method pattern handler stages with
    ⟨e, hregister, -⟩ | ⟨_, _, _, -, -, -, hregister⟩
  · simp [Ledger.step, hregister]
  · simp [Ledger.step, hregister, eq_comm]

/-- The server is the one that direct registrations make, and it has the accepted routes. -/
theorem exists_ledger (program : List GroupCall) : ∃ calls : List (RouterCall Stage Program),
    (Ledger.run calls).router = (run program).table.router ∧
      ∀ route, route ∈ (Ledger.run calls).accepted ↔ Accepts program route := by
  induction program using List.reverseRecOn with
  | nil =>
    refine ⟨[], rfl, fun route => ⟨nofun, ?_⟩⟩
    rintro ⟨before, _, _, _, _, after, hnil, -⟩
    simp at hnil
  | append_singleton program call ih =>
    obtain ⟨calls, hrouter, haccepted⟩ := ih
    cases call with
    | route method sub handler stages =>
      obtain ⟨pattern, hregister⟩ := register_run_eq program method sub handler stages
      let call : RouterCall Stage Program :=
        .register method pattern handler ((declared program).reverse.flatten ++ stages)
      refine ⟨calls ++ [call], ?_, fun route => ?_⟩
      · rw [Ledger.run_append_singleton, Ledger.router_step_register, hrouter]
        simp [step, hregister, Table.register]
      · rw [Ledger.run_append_singleton, mem_accepted_step, haccepted, hrouter,
          accepts_append_singleton_iff]
        simp [hregister, Table.register]
    | _ =>
      refine ⟨calls, by simpa [step] using hrouter, fun route => ?_⟩
      rw [haccepted, accepts_append_singleton_iff]
      simp

theorem mem_routes_iff {program : List GroupCall} {route : StagedRoute} :
    route ∈ (run program).table.router.routes ↔ Accepts program route := by
  obtain ⟨calls, hrouter, haccepted⟩ := exists_ledger program
  rw [← hrouter, (Ledger.Sound.run calls).routes_perm.mem_iff, haccepted]

end Build

/-! ## The stages of a route -/

namespace Table

variable {t : Table} {method : Method}

theorem stages_of_register {pattern : String} {handler : Program} {stages : List Stage}
    {route : StagedRoute} (h : (t.register method pattern handler stages).1 = .ok route) :
    route.stages = stages := by
  rcases t.router.register_cases method pattern handler stages with
    ⟨e, hregister, -⟩ | ⟨_, _, _, -, -, -, hregister⟩
  · simp [register, hregister] at h
  · simp only [register, hregister, Except.ok.injEq] at h
    rw [← h]

theorem register_of_error {pattern : String} {handler : Program} {stages : List Stage}
    {e : RouteError} (h : (t.register method pattern handler stages).1 = .error e) :
    (t.register method pattern handler stages).2 = t := by
  have hreply : (Setup.route method pattern handler stages).reply t = .error e := by
    simp [Setup.reply, h, Except.map]
  exact Setup.apply_of_reply_eq_error t _ hreply

/-- The stages of the route that was found, among those of a request. -/
theorem filter_placementsFor {path : String} {route : StagedRoute} {params : Route.Params}
    (h : t.router.lookup method path = .found route params) :
    (t.placementsFor method path).filter (·.scope = .route) = Stage.place .route route.stages := by
  have hplace : ∀ {scope : Scope} {stages : List Stage}, ∀ s ∈ Stage.place scope stages,
      s.scope = scope := fun s hs => by
    obtain ⟨_, -, rfl⟩ := List.mem_map.1 hs
    rfl
  have hglobal : (t.registry.globalPlacements.filter (·.scope = .route)) = [] := by
    refine List.filter_eq_nil_iff.2 fun s hs => ?_
    simp [hplace s hs]
  have hfiltered : ((t.registry.matching method (Route.Path.split path)).filter
      (·.scope = .route)) = [] := by
    refine List.filter_eq_nil_iff.2 fun s hs => ?_
    obtain ⟨_, hmem, rfl⟩ := List.mem_map.1 hs
    obtain ⟨_, -, rfl⟩ := List.mem_map.1 (List.mem_filter.1 hmem).1
    simp
  have hroute : (Stage.place .route route.stages).filter (·.scope = .route) =
      Stage.place .route route.stages :=
    List.filter_eq_self.2 fun s hs => by simp [hplace s hs]
  simp only [placementsFor, placements, h, List.filter_append, hglobal, hfiltered, hroute,
    List.nil_append]

end Table

/-- However groups are opened, used and closed on a server, its routes are those whose registration was
accepted. Such a route has the stages that each group around it had declared by then, from the outermost
group to the innermost, and its own behind them; a registration that fails changes nothing, and a group
that is closed again has declared nothing for the rest. A request meets the stages of its route numbered
from zero. -/
theorem Build.stages_of_grouped_route (program : List GroupCall) :
    (∀ route, route ∈ (run program).table.router.routes ↔ Accepts program route) ∧
    (∀ before method sub handler stages,
      match ((run before).register method sub handler stages).1 with
      | .ok route => route.stages = (GroupCall.declared before).reverse.flatten ++ stages
      | .error _ => run (before ++ [.route method sub handler stages]) = run before) ∧
    (∀ before path inner, GroupCall.Closed inner →
      GroupCall.declared (before ++ .enter path :: (inner ++ [.leave])) =
        GroupCall.declared before) ∧
    ∀ method path route params,
      (run program).table.router.lookup method path = .found route params →
      let placed := ((run program).table.placementsFor method path).filter (·.scope = .route)
      Accepts program route ∧ placed.map (·.stage) = route.stages ∧
        placed.map (·.index) = List.range route.stages.length := by
  refine ⟨fun route => mem_routes_iff, fun before method sub handler stages => ?_,
    fun before path inner h => GroupCall.declared_group before path h,
    fun method path route params hfound => ?_⟩
  · obtain ⟨pattern, hregister⟩ := register_run_eq before method sub handler stages
    split
    · next route haccepted =>
      rw [hregister] at haccepted
      exact Table.stages_of_register haccepted
    · next e hrefused =>
      rw [hregister] at hrefused
      rw [run_append_singleton, step, hregister, Table.register_of_error hrefused]
  · obtain ⟨calls, hrouter, haccepted⟩ := exists_ledger program
    rw [Table.filter_placementsFor hfound]
    rw [← hrouter] at hfound
    have hmem := ((Ledger.Sound.run calls).lookup_eq_found hfound).1
    refine ⟨(haccepted route).1 hmem, ?_, ?_⟩
    · rw [Stage.place, List.map_map]
      exact List.zipIdx_map_fst 0 route.stages
    · rw [Stage.place, List.map_map, List.range_eq_range']
      exact List.zipIdx_map_snd 0 route.stages

end Wayfinder
