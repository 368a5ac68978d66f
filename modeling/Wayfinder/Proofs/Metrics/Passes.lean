import Wayfinder.Proofs.Metrics.Tally
import Wayfinder.Proofs.Stage.Actors
/-!
# Passes of requests

A stage that counts does so when the stages inside it return, so a request is counted once for each
time that it comes back out of such a stage, and not where it panics. Over all requests the meter
is the tally of these passes.
-/

namespace Wayfinder

open Context (Exchange World)
open Http (Request)
open Metrics (Meters Pass)

namespace Stage

/-! ## Counting in a run -/

def Outcome.returned? : Outcome → Option Exchange
  | returned x => some x
  | panicked _ _ => none

def Mark.call? : Mark → Option Exchange
  | call x => some x
  | note _ => none

/-- What a program goes on with, in order. -/
def Program.calls (continuation : Exchange → Outcome) (p : Program) (x : Exchange) :
    List Exchange :=
  (p.marks continuation x).filterMap Mark.call?

def meter? : Stage → Option String
  | metrics meter => some meter
  | _ => none

/-- What comes back out of the stages with a meter in a run of a chain, inner stages first. -/
def chainPasses (meter : String) (handler : Program) : List Stage → Exchange → List Exchange
  | [], _ => []
  | s :: rest, x => (s.program.calls (meaning handler rest) x).flatMap fun y =>
    chainPasses meter handler rest y ++
      if s.meter? = some meter then (meaning handler rest y).returned?.toList else []

/-- An effect leaves a meter alone. -/
def Effect.Spares (meter : String) (e : Effect) : Prop := ∀ latency, e ≠ .record meter latency

variable {meter : String}

theorem Effect.Spares.get_apply {e : Effect} (h : e.Spares meter) (x : Exchange) :
    (e.apply x).world.meters.get meter = x.world.meters.get meter := by
  cases e with
  | setStatus code => rw [apply, (x.responds_setStatus code).world_eq]
  | setHeader name value => rw [apply, (x.responds_addLine _ name value).world_eq]
  | appendHeader name value => rw [apply, (x.responds_addLine _ name value).world_eq]
  | sendFile path => rw [apply, (x.responds_sendFile path).world_eq]
  | record other latency =>
    have hne : meter ≠ other := fun heq => h latency (by rw [heq])
    exact x.world.meters.get_modify_of_ne _ hne
  | _ => rfl

namespace Program

variable {continuation : Exchange → Outcome}

@[simp] theorem calls_done (x : Exchange) : done.calls continuation x = [] := rfl

@[simp] theorem calls_act (e : Effect) (rest : Program) (x : Exchange) :
    (act e rest).calls continuation x = rest.calls continuation (e.apply x) := by
  cases e <;> rfl

@[simp] theorem calls_next (rest : Program) (x : Exchange) :
    (next rest).calls continuation x = x :: match continuation x with
      | .returned y => rest.calls continuation y
      | .panicked _ _ => [] := by
  rw [calls, marks]
  cases continuation x <;> rfl

@[simp] theorem calls_inspect (k : Exchange → Program) (x : Exchange) :
    (inspect k).calls continuation x = (k x).calls continuation x := rfl

@[simp] theorem calls_panic (cause : Panic) (x : Exchange) :
    (panic cause).calls continuation x = [] := rfl

theorem mem_calls_iff {p : Program} {x y : Exchange} :
    y ∈ p.calls continuation x ↔ .call y ∈ p.marks continuation x := by
  rw [calls, List.mem_filterMap]
  constructor
  · rintro ⟨mark, hmark, hcall⟩
    cases mark with
    | note v => cases hcall
    | call z =>
      cases hcall
      exact hmark
  · exact fun hcall => ⟨.call y, hcall, rfl⟩

/-- A program that leaves a meter alone adds to it what the runs add that it goes on to. -/
theorem tallies_run {inner : Exchange → List Pass} {p : Program} {x : Exchange}
    {before : List Pass}
    (hinner : ∀ y before, y ∈ p.calls continuation x →
      (y.world.meters.get meter).Tallies before →
        ((continuation y).exchange.world.meters.get meter).Tallies (before ++ inner y))
    (hspares : ∀ e ∈ p.ownEffects continuation x, e.Spares meter)
    (h : (x.world.meters.get meter).Tallies before) :
    ((p.run continuation x).exchange.world.meters.get meter).Tallies
      (before ++ (p.calls continuation x).flatMap inner) := by
  induction p generalizing x before with
  | done => simpa [run, Outcome.exchange] using h
  | act e rest ih =>
    simp only [calls_act] at hinner ⊢
    simp only [mem_ownEffects_act, forall_eq_or_imp] at hspares
    refine ih hinner hspares.2 ?_
    rwa [hspares.1.get_apply]
  | next rest ih =>
    have hx := hinner x before (by simp) h
    rw [run, calls_next]
    cases hc : continuation x with
    | panicked cause z =>
      rw [hc] at hx
      simpa [Outcome.bind] using hx
    | returned z =>
      rw [hc] at hx
      rw [List.flatMap_cons, ← List.append_assoc]
      refine ih (fun y before hy => hinner y before ?_) (fun e he => hspares e ?_) hx
      · simp [hc, hy]
      · exact mem_ownEffects_next.2 ⟨z, hc, he⟩
  | inspect k ih => exact ih x hinner hspares h
  | panic cause => simpa [run, Outcome.exchange] using h

end Program

/-! ## Chains -/

/-- The other built-in stages do not count. -/
theorem spares_of_builtIn {s : Stage} (hscript : Actor.isScript (.stage s) = false)
    (hmeter : s.meter? ≠ some meter) {continuation : Exchange → Outcome} {x : Exchange} :
    ∀ e ∈ s.program.ownEffects continuation x, e.Spares meter := by
  intro e he latency heq
  subst heq
  cases s with
  | custom name p => cases hscript
  | requestId =>
    rcases mem_ownEffects_requestId.1 he with h | h | h <;> cases h
  | tracing =>
    obtain ⟨event, h⟩ := exists_emit_of_mem_ownEffects_tracing he
    cases h
  | metrics other =>
    obtain ⟨_, h⟩ := exists_record_of_mem_ownEffects_metrics he
    cases h
    exact hmeter rfl
  | auth tokens =>
    simp only [program, authProgram, Program.mem_ownEffects_inspect] at he
    split at he <;> simp [refuse, Program.writeJson, Program.effect] at he
  | deadline budget =>
    rcases mem_ownEffects_deadline he with ⟨instant, h⟩ | ⟨_, z, -, -, -, ⟨event, h⟩ | h⟩ <;> cases h

def passOf (pattern : Option Route.Pattern) (x : Exchange) : Pass where
  pattern := pattern
  status := x.writer.status

variable {handler : Program} {stages : List Stage} {x : Exchange}

theorem tallies_record {pattern : Option Route.Pattern} (hx : x.pattern = pattern.map (·.raw))
    {before : List Pass} (h : (x.world.meters.get meter).Tallies before)
    (latency : Number.Duration) :
    ((Effect.record meter latency).apply x |>.world.meters.get meter).Tallies
      (before ++ [passOf pattern x]) := by
  rw [Effect.apply, Exchange.record, Meters.get_modify_same, hx]
  exact h.record (passOf pattern x) latency x.world.stackSize

/-- A stage that counts adds one pass to what the stages inside it add, if these return. -/
theorem tallies_metrics {pattern : Option Route.Pattern} {continuation : Exchange → Outcome}
    (hx : (continuation x).exchange.pattern = pattern.map (·.raw)) {before : List Pass}
    (h : ((continuation x).exchange.world.meters.get meter).Tallies before) :
    (((metrics meter).program.run continuation x).exchange.world.meters.get meter).Tallies
      (before ++ (continuation x).returned?.toList.map (passOf pattern)) := by
  have hrun : (metrics meter).program.run continuation x = (continuation x).bind fun z =>
      .returned ((Effect.record meter (z.world.now - x.world.now)).apply z) := rfl
  rw [hrun]
  cases hc : continuation x with
  | panicked cause z =>
    rw [hc] at h
    simpa [Outcome.returned?] using h
  | returned z =>
    rw [hc] at hx h
    exact tallies_record hx h (z.world.now - x.world.now)

@[simp] theorem calls_metrics (continuation : Exchange → Outcome) (x : Exchange) :
    (metrics meter).program.calls continuation x = [x] := by
  simp only [program, metricsProgram, Program.calls_inspect, Program.calls_next]
  cases continuation x <;> rfl

/-- What a run of a chain adds to a meter are its passes, however it ends. -/
theorem tallies_meaning {pattern : Option Route.Pattern} (hx : x.pattern = pattern.map (·.raw))
    (hscripts : ∀ actor e, Performs handler stages x actor e → actor.isScript = true →
      e.Spares meter)
    {before : List Pass} (h : (x.world.meters.get meter).Tallies before) :
    ((meaning handler stages x).exchange.world.meters.get meter).Tallies
      (before ++ (chainPasses meter handler stages x).map (passOf pattern)) := by
  induction stages generalizing x before with
  | nil =>
    have hinner : ∀ (y : Exchange) (before : List Pass), y ∈ handler.calls .returned x →
        (y.world.meters.get meter).Tallies before →
          ((Outcome.returned y).exchange.world.meters.get meter).Tallies (before ++ []) := by
      intro y before _ hy
      rwa [List.append_nil]
    have hrun := Program.tallies_run hinner (fun e he => hscripts .handler e ⟨rfl, he⟩ rfl) h
    have hnone : (handler.calls .returned x).flatMap (fun _ => ([] : List Pass)) = [] :=
      List.flatMap_eq_nil_iff.2 fun _ _ => rfl
    rwa [hnone] at hrun
  | cons s rest ih =>
    have hinner : ∀ y before, y ∈ s.program.calls (meaning handler rest) x →
        (y.world.meters.get meter).Tallies before →
          ((meaning handler rest y).exchange.world.meters.get meter).Tallies
            (before ++ (chainPasses meter handler rest y).map (passOf pattern)) := by
      intro y before hy hbefore
      rw [Program.mem_calls_iff] at hy
      have hpattern := kept_pattern (pattern.map (·.raw))
      have hy' : y.pattern = pattern.map (·.raw) :=
        hpattern.of_mem_marks (fun _ => hpattern.meaning handler rest) hx hy
      exact ih hy' (fun actor e he => hscripts actor e (.inr ⟨y, hy, he⟩)) hbefore
    by_cases hmeter : s.meter? = some meter
    · cases s with
      | metrics other =>
        obtain rfl : other = meter := Option.some.inj hmeter
        have hx' := hinner x before (by simp) h
        have hpattern := (kept_pattern (pattern.map (·.raw))).meaning handler rest hx
        rw [meaning, chainPasses, calls_metrics, List.flatMap_singleton, if_pos hmeter,
          List.map_append, ← List.append_assoc]
        exact tallies_metrics hpattern hx'
      | _ => cases hmeter
    · have hspares : ∀ e ∈ s.program.ownEffects (meaning handler rest) x, e.Spares meter := by
        cases hscript : Actor.isScript (.stage s) with
        | false => exact spares_of_builtIn hscript hmeter
        | true => exact fun e he => hscripts (.stage s) e (.inl ⟨rfl, he⟩) hscript
      have hrun := Program.tallies_run hinner hspares h
      simpa [meaning, chainPasses, hmeter, List.map_flatMap] using hrun

end Stage

/-! ## Requests -/

def Table.patternOf? (t : Table) (request : Request) : Option Route.Pattern :=
  match t.router.lookup request.method request.path with
  | .found route _ => some route.pattern
  | _ => none

/-- The chain of a request is found by the request alone. -/
theorem Table.chain_resolve_congr (t : Table) {x y : Exchange} (h : x.request = y.request) :
    (t.resolve x).stages = (t.resolve y).stages ∧
      (t.resolve x).handler = (t.resolve y).handler := by
  unfold resolve
  rw [h]
  cases hlookup : t.router.lookupSegments y.request.method (Route.Path.split y.request.path) <;>
    simp [hlookup]

theorem Table.pattern_resolve (t : Table) (world : World) (shutdown : Context.Token)
    (request : Request) : (t.resolve (Exchange.start world shutdown request)).exchange.pattern =
      (t.patternOf? request).map (·.raw) := by
  unfold resolve patternOf? Route.Router.lookup
  dsimp only
  split <;> simp_all [Exchange.start, Exchange.modifyWriter]

namespace Dispatcher

variable (d : Dispatcher) (meter : String)

def passes (world : World) (request : Request) : List Pass :=
  let r := d.table.resolve (Exchange.start world d.shutdown request)
  (Stage.chainPasses meter r.handler r.stages r.exchange).map
    (Stage.passOf (d.table.patternOf? request))

variable {d meter}

theorem world_dispatch (world : World) (request : Request) :
    (d.dispatch world request).world = (d.run world request).exchange.world := by
  unfold dispatch recover
  cases d.run world request with
  | returned x => rfl
  | panicked cause x =>
    dsimp only
    split <;> rfl

theorem tallies_dispatch {world : World} {request : Request}
    (hscripts : ∀ actor e, d.Performs world request actor e → actor.isScript = true →
      e.Spares meter)
    {before : List Pass} (h : (world.meters.get meter).Tallies before) :
    ((d.dispatch world request).world.meters.get meter).Tallies
      (before ++ d.passes meter world request) := by
  have hstart : (d.table.resolve (Exchange.start world d.shutdown request)).exchange.world.meters =
      world.meters := by
    unfold Table.resolve
    dsimp only
    split <;> rfl
  rw [world_dispatch, run, Stage.runChain_eq_meaning]
  refine Stage.tallies_meaning (d.table.pattern_resolve world d.shutdown request) hscripts ?_
  rwa [hstart]

end Dispatcher

/-! ## Visits -/

/-- A request at a server, and what else there is at this time. -/
structure Visit where
  dispatcher : Dispatcher
  world : World
  request : Request

namespace Visit

/-- What there is, with meters that earlier visits have left. -/
def worldWith (v : Visit) (meters : Meters) : World := { v.world with meters }

def serve (meters : Meters) (v : Visit) : Meters :=
  (v.dispatcher.dispatch (v.worldWith meters) v.request).world.meters

def serveAll (meters : Meters) (visits : List Visit) : Meters := visits.foldl serve meters

def passes (meter : String) (meters : Meters) : List Visit → List Pass
  | [] => []
  | v :: rest => v.dispatcher.passes meter (v.worldWith meters) v.request ++
    passes meter (v.serve meters) rest

theorem tallies_serveAll {meter : String} {visits : List Visit} {meters : Meters}
    (hscripts : ∀ earlier v later, visits = earlier ++ v :: later → ∀ actor e,
      v.dispatcher.Performs (v.worldWith (serveAll meters earlier)) v.request actor e →
        actor.isScript = true → e.Spares meter)
    {before : List Pass} (h : (meters.get meter).Tallies before) :
    ((serveAll meters visits).get meter).Tallies (before ++ passes meter meters visits) := by
  induction visits generalizing meters before with
  | nil => simpa [serveAll, passes] using h
  | cons v rest ih =>
    have hv : ((v.serve meters).get meter).Tallies
        (before ++ v.dispatcher.passes meter (v.worldWith meters) v.request) :=
      Dispatcher.tallies_dispatch (hscripts [] v rest rfl) h
    have hrest := ih (fun earlier w later heq =>
      hscripts (v :: earlier) w later (by rw [heq, List.cons_append])) hv
    rwa [List.append_assoc] at hrest

/-- After any visits a meter shows the passes of all of them, as long as no handler and no stage with
a program of its own counts on it: their number, those with each pattern and those without a
route, which no pattern can be mistaken for, and those with each first digit. Every pass is under
one label, and it is in one class unless its status is 600 or above. -/
theorem meter_counts_passes (meter : String) (visits : List Visit)
    (hscripts : ∀ earlier v later, visits = earlier ++ v :: later → ∀ actor e,
      v.dispatcher.Performs (v.worldWith (serveAll {} earlier)) v.request actor e →
        actor.isScript = true → e.Spares meter) :
    let m := (serveAll {} visits).get meter
    let all := passes meter {} visits
    m.requests = all.length ∧
    (∀ p : Route.Pattern, m.patternCount p.raw = all.countP (·.pattern = some p)) ∧
    (m.patternCount Metrics.Meter.unmatched = all.countP (·.pattern = none) ∧
      ∀ p : Route.Pattern, p.raw ≠ Metrics.Meter.unmatched) ∧
    ((m.patterns.map Prod.fst).Nodup ∧
      ((m.patterns.map Prod.fst).map m.patternCount).sum = m.requests ∧
      ∀ label ∉ m.patterns.map Prod.fst, m.patternCount label = 0) ∧
    (∀ digit, 1 ≤ digit ∧ digit ≤ 5 →
      m.classCount digit = all.countP (·.status.hundreds = digit)) ∧
    ((List.range' 1 5).map m.classCount).sum = all.countP (·.status.code < 600) := by
  intro m all
  have htally : m.Tallies all := tallies_serveAll hscripts .nil
  exact ⟨htally.requests, htally.patternCount_raw,
    ⟨htally.patternCount_unmatched, Metrics.raw_ne_unmatched⟩, htally.sum_patternCount,
    htally.classes, htally.sum_classCount⟩

/-- Two passes of one request, one of a request that is refused inside the outer stage, and none of a
request that panics. -/
theorem meter_counts_passes_of_three :
    let visit (globals : List Stage) (notFound : Stage.Program) (path : String) : Visit :=
      let table : Table := { registry := { globals }, notFound }
      { dispatcher :=
          { table := (table.register Http.Verb.get.toMethod "/x" .done [.metrics "m"]).2
            shutdown := ⟨0, []⟩ }
        world := {}
        request := { method := Http.Verb.get.toMethod, uri := { path } } }
    let visits := [visit [.metrics "m"] .done "/x",
      visit [.metrics "m", .auth [], .metrics "m"] .done "/y",
      visit [.metrics "m"] (.panic .other) "/y"]
    let m := (serveAll {} visits).get "m"
    m.requests = 3 ∧ m.patternCount Metrics.Meter.unmatched = 1 ∧ m.classCount 2 = 2 ∧
      m.classCount 4 = 1 := by
  intro visit visits m
  have hchain : ∀ v ∈ visits,
      let r := v.dispatcher.table.resolve (Exchange.start {} v.dispatcher.shutdown v.request)
      r.stages.all (fun s => !Stage.Actor.isScript (.stage s)) = true ∧
        (r.handler = .done ∨ r.handler = .panic .other) := by
    intro v hv
    simp only [visits, List.mem_cons, List.not_mem_nil, or_false] at hv
    rcases hv with rfl | rfl | rfl <;> simp only [visit]
    · exact ⟨rfl, .inl rfl⟩
    · exact ⟨rfl, .inl rfl⟩
    · exact ⟨rfl, .inr rfl⟩
  have hscripts : ∀ v ∈ visits, ∀ meters actor e,
      v.dispatcher.Performs (v.worldWith meters) v.request actor e → actor.isScript = true →
        e.Spares "m" := by
    intro v hv meters actor e hperforms hscript
    obtain ⟨hstages, hhandler⟩ := hchain v hv
    obtain ⟨hstages', hhandler'⟩ := v.dispatcher.table.chain_resolve_congr
      (show (Exchange.start (v.worldWith meters) v.dispatcher.shutdown v.request).request =
        (Exchange.start {} v.dispatcher.shutdown v.request).request from rfl)
    rw [← hstages'] at hstages
    rw [← hhandler'] at hhandler
    obtain ⟨y, he⟩ := Stage.Performs.of_handler hstages hperforms hscript
    rcases hhandler with heq | heq <;>
      simp [heq, Stage.Program.ownEffects, Stage.Program.effects] at he
  have hcounts := meter_counts_passes "m" visits fun earlier v later heq =>
    hscripts v (by rw [heq]; simp) _
  refine ⟨hcounts.1.trans (by decide), hcounts.2.2.1.1.trans (by decide), ?_, ?_⟩
  · exact (hcounts.2.2.2.2.1 2 (by decide)).trans (by decide)
  · exact (hcounts.2.2.2.2.1 4 (by decide)).trans (by decide)

end Visit

end Wayfinder
