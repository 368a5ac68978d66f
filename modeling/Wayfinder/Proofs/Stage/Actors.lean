import Mathlib.Data.List.Infix
import Wayfinder.Proofs.Stage.Admission
/-!
# Who does what

Every effect of a run is one of the handler or of a stage that the run comes to. What the built-in
stages do by themselves is known from their programs, so that a statement about a run has to ask
something of the others only.
-/

namespace Wayfinder

namespace Stage

open Context (Exchange)
namespace Program

variable (continuation : Exchange → Outcome) (p : Program) (x : Exchange)

/-- The effects of a program by itself, without those of the runs that it goes on to. -/
def ownEffects : List Effect := p.effects continuation (fun _ => []) x

variable {continuation p x} {inner : Exchange → List Effect}

end Program

/-- Who has an effect in a run. -/
inductive Actor
  | handler
  | stage (s : Stage)

/-- Whether an actor does what a program says that is not known. -/
def Actor.isScript : Actor → Bool
  | handler | stage (.custom _ _) => true
  | _ => false

/-- In a run of a chain, the handler or a stage to which the run comes has an effect of its own. -/
def Performs (handler : Program) : List Stage → Exchange → Actor → Effect → Prop
  | [], x, actor, e => actor = .handler ∧ e ∈ handler.ownEffects .returned x
  | s :: rest, x, actor, e =>
    (actor = .stage s ∧ e ∈ s.program.ownEffects (meaning handler rest) x) ∨
      ∃ y, .call y ∈ s.program.marks (meaning handler rest) x ∧ Performs handler rest y actor e

variable {handler : Program} {stages : List Stage} {x : Exchange}

/-- Where only built-in stages stand around a handler, what is not theirs is the handler's. -/
theorem Performs.of_handler {actor : Actor} {e : Effect}
    (hstages : stages.all (fun s => !Actor.isScript (.stage s)) = true)
    (h : Performs handler stages x actor e) (hscript : actor.isScript = true) :
    ∃ y, e ∈ handler.ownEffects .returned y := by
  induction stages generalizing x with
  | nil => exact ⟨x, h.2⟩
  | cons s rest ih =>
    rw [List.all_cons, Bool.and_eq_true_iff] at hstages
    rcases h with ⟨rfl, -⟩ | ⟨y, -, hperforms⟩
    · simp [hscript] at hstages
    · exact ih hstages.2 hperforms

theorem kept_pattern (pattern : Option String) : Kept fun x => x.pattern = pattern := by
  intro e x hx
  rw [← hx]
  cases e with
  | setStatus code => exact (x.responds_setStatus code).pattern_eq
  | setHeader name value => exact (x.responds_addLine _ name value).pattern_eq
  | appendHeader name value => exact (x.responds_addLine _ name value).pattern_eq
  | sendFile path => exact (x.responds_sendFile path).pattern_eq
  | _ => rfl

/-! ## The built-in stages -/

section BuiltIn

variable {continuation : Exchange → Outcome} {e : Effect}

namespace Program

@[simp] theorem notMem_ownEffects_done : e ∉ done.ownEffects continuation x := by
  simp [ownEffects, effects]

@[simp] theorem notMem_ownEffects_panic (cause : Panic) :
    e ∉ (panic cause).ownEffects continuation x := by
  simp [ownEffects, effects]

@[simp] theorem mem_ownEffects_act {effect : Effect} {rest : Program} :
    e ∈ (act effect rest).ownEffects continuation x ↔
      e = effect ∨ e ∈ rest.ownEffects continuation (effect.apply x) := by
  simp [ownEffects, effects]

@[simp] theorem mem_ownEffects_next {rest : Program} :
    e ∈ (next rest).ownEffects continuation x ↔
      ∃ y, continuation x = .returned y ∧ e ∈ rest.ownEffects continuation y := by
  simp only [ownEffects, effects, List.nil_append]
  cases continuation x <;> simp

@[simp] theorem mem_ownEffects_inspect {k : Exchange → Program} :
    e ∈ (inspect k).ownEffects continuation x ↔ e ∈ (k x).ownEffects continuation x := Iff.rfl

end Program

theorem mem_ownEffects_requestId : e ∈ requestId.program.ownEffects continuation x ↔
    e = .insertValue "request_id" (.requestId x.id) ∨
      e = .setLogger (x.logger.withField "request_id" x.id.toText) ∨
      e = .setHeader "x-request-id" x.id.toText := by
  simp [program, requestIdProgram, Effect.apply]

theorem exists_emit_of_mem_ownEffects_tracing (h : e ∈ tracing.program.ownEffects continuation x) :
    ∃ event, e = .emit event := by
  simp only [program, tracingProgram, Program.effectOf, Program.effect,
    Program.mem_ownEffects_inspect, Program.mem_ownEffects_next, Program.mem_ownEffects_act,
    Program.notMem_ownEffects_done, or_false] at h
  obtain ⟨y, -, rfl⟩ := h
  exact ⟨_, rfl⟩

theorem exists_record_of_mem_ownEffects_metrics {meter : String}
    (h : e ∈ (metrics meter).program.ownEffects continuation x) :
    ∃ latency, e = .record meter latency := by
  simp only [program, metricsProgram, Program.effectOf, Program.effect,
    Program.mem_ownEffects_inspect, Program.mem_ownEffects_next, Program.mem_ownEffects_act,
    Program.notMem_ownEffects_done, or_false] at h
  obtain ⟨y, -, rfl⟩ := h
  exact ⟨_, rfl⟩

/-- A deadline is installed on the way in. On the way out it shows only where a route was found. -/
theorem mem_ownEffects_deadline {budget : Number.Duration}
    (h : e ∈ (deadline budget).program.ownEffects continuation x) :
    (∃ instant, e = .setDeadline instant) ∨
    ∃ y z, y = x.setDeadline (x.world.now + budget) ∧ continuation y = .returned z ∧
      z.pattern.isSome = true ∧ ((∃ event, e = .emit event) ∨
        e = .fail .serviceUnavailable "Request deadline exceeded") := by
  simp only [program, deadlineProgram, Program.mem_ownEffects_inspect] at h
  by_cases hend : clockEnd ≤ x.world.now + budget
  · rw [if_pos hend] at h
    cases Program.notMem_ownEffects_panic _ h
  rw [if_neg hend, Program.mem_ownEffects_act, Program.mem_ownEffects_next] at h
  simp only [Program.mem_ownEffects_inspect] at h
  rcases h with rfl | ⟨z, hz, h⟩
  · exact .inl ⟨_, rfl⟩
  · refine .inr ⟨_, z, rfl, hz, ?_⟩
    split at h
    · next hlate =>
      simp only [Bool.and_eq_true] at hlate
      simp only [Program.effect, Program.mem_ownEffects_act, Program.notMem_ownEffects_done,
        or_false] at h
      exact ⟨hlate.1.2, h.imp_left fun h => ⟨_, h⟩⟩
    · cases h

end BuiltIn

end Stage

/-! ## Requests -/

namespace Dispatcher

variable (d : Dispatcher) (world : Context.World) (request : Http.Request)

/-- In answering a request, an actor of its chain has an effect. -/
def Performs (actor : Stage.Actor) (e : Stage.Effect) : Prop :=
  let r := d.table.resolve (Context.Exchange.start world d.shutdown request)
  Stage.Performs r.handler r.stages r.exchange actor e

end Dispatcher

end Wayfinder
