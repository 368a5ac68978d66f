import Wayfinder.Proofs.Stage.Nesting
/-!
# Effects of runs

A run changes its exchange by effects only. They are listed in the order in which they happen,
those of the stages inside at the places where a stage goes on, and up to a panic. So what each
single effect keeps, a chain keeps, however it ends.
-/

namespace Wayfinder.Stage

open Context (Exchange Writer)

namespace Effect

/-- The exchange after effects in order. -/
def applyAll (effects : List Effect) (x : Exchange) : Exchange :=
  effects.foldl (fun x e => e.apply x) x

@[simp] theorem applyAll_nil (x : Exchange) : applyAll [] x = x := rfl

@[simp] theorem applyAll_cons (e : Effect) (effects : List Effect) (x : Exchange) :
    applyAll (e :: effects) x = applyAll effects (e.apply x) := rfl

@[simp] theorem applyAll_append (effects effects' : List Effect) (x : Exchange) :
    applyAll (effects ++ effects') x = applyAll effects' (applyAll effects x) :=
  List.foldl_append

end Effect

open Effect (applyAll)

/-- The effects of a run of a program, given those of the runs that it goes on to. -/
def Program.effects (continuation : Exchange → Outcome) (inner : Exchange → List Effect) :
    Program → Exchange → List Effect
  | done, _ => []
  | act e rest, x => e :: rest.effects continuation inner (e.apply x)
  | next rest, x => inner x ++ match continuation x with
    | .returned y => rest.effects continuation inner y
    | .panicked _ _ => []
  | inspect k, x => (k x).effects continuation inner x
  | panic _, _ => []

theorem Program.exchange_run {continuation : Exchange → Outcome} {inner : Exchange → List Effect}
    (hinner : ∀ x, (continuation x).exchange = applyAll (inner x) x) (p : Program) (x : Exchange) :
    (p.run continuation x).exchange = applyAll (p.effects continuation inner x) x := by
  induction p generalizing x with
  | done => rfl
  | act e rest ih => exact ih (e.apply x)
  | next rest ih =>
    have hx := hinner x
    cases hc : continuation x with
    | returned y =>
      have hy : y = applyAll (inner x) x := by simpa only [hc, Outcome.exchange] using hx
      simp [run, effects, hc, ih, ← hy]
    | panicked cause y =>
      -- the panic ends this program too, so the effects are those of the continuation
      simpa [run, effects, hc] using hx
  | inspect k ih => exact ih x x
  | panic cause => rfl

/-- The effects of a run of a chain. -/
def chainEffects (handler : Program) : List Stage → Exchange → List Effect
  | [], x => handler.effects .returned (fun _ => []) x
  | s :: rest, x => s.program.effects (meaning handler rest) (chainEffects handler rest) x

theorem exchange_meaning (handler : Program) (stages : List Stage) (x : Exchange) :
    (meaning handler stages x).exchange = applyAll (chainEffects handler stages x) x := by
  induction stages generalizing x with
  | nil => exact Program.exchange_run (fun _ => rfl) handler x
  | cons s rest ih => exact Program.exchange_run ih s.program x

/-- No effect makes a property of exchanges false. -/
def Kept (P : Exchange → Prop) : Prop := ∀ (e : Effect) (x : Exchange), P x → P (e.apply x)

namespace Kept

variable {P : Exchange → Prop} (hkept : Kept P)

include hkept

theorem applyAll {x : Exchange} (effects : List Effect) (hx : P x) : P (applyAll effects x) := by
  induction effects generalizing x with
  | nil => exact hx
  | cons e effects ih => exact ih (hkept e x hx)

theorem meaning (handler : Program) (stages : List Stage) {x : Exchange} (hx : P x) :
    P (meaning handler stages x).exchange := by
  rw [exchange_meaning]
  exact hkept.applyAll _ hx

section Program

variable {continuation : Exchange → Outcome}
  (hcontinuation : ∀ x, P x → P (continuation x).exchange)

include hcontinuation

theorem of_mem_marks {p : Program} {x y : Exchange} (hx : P x)
    (hcall : .call y ∈ p.marks continuation x) : P y := by
  induction p generalizing x with
  | done => cases hcall
  | act e rest ih =>
    rcases List.mem_append.1 hcall with heffect | hrest
    · exact (e.call_notMem_marks y heffect).elim
    · exact ih (hkept e x hx) hrest
  | next rest ih =>
    rcases List.mem_cons.1 hcall with heq | hrest
    · cases heq
      exact hx
    · cases hc : continuation x with
      | panicked => simp [hc] at hrest
      | returned z =>
        have hz : P z := by simpa only [hc, Outcome.exchange] using hcontinuation x hx
        exact ih hz (by simpa only [hc] using hrest)
  | inspect k ih => exact ih x hx hcall
  | panic => cases hcall

/-- A program does not tell apart what it goes on to where the property holds. -/
theorem run_congr {continuation' : Exchange → Outcome}
    (hcongr : ∀ x, P x → continuation x = continuation' x) (p : Program) {x : Exchange} (hx : P x) :
    p.run continuation x = p.run continuation' x := by
  induction p generalizing x with
  | done => rfl
  | act e rest ih => exact ih (hkept e x hx)
  | next rest ih =>
    rw [Program.run, Program.run, ← hcongr x hx]
    cases hc : continuation x with
    | returned y =>
      have hy : P y := by simpa only [hc, Outcome.exchange] using hcontinuation x hx
      exact ih hy
    | panicked => rfl
  | inspect k ih => exact ih x hx
  | panic => rfl

end Program

theorem of_reaches {handler : Program} {inner outer : List Stage} {x y : Exchange} (hx : P x)
    (hreach : Reaches handler inner outer x y) : P y := by
  induction outer generalizing x with
  | nil =>
    obtain rfl := hreach
    exact hx
  | cons s outer ih =>
    obtain ⟨x', hcall, hreach⟩ := hreach
    have hx' : P x' := hkept.of_mem_marks (fun _ => hkept.meaning _ _) hx hcall
    exact ih hx' hreach

theorem meaning_congr {handler handler' : Program} {inner inner' : List Stage}
    (hcongr : ∀ x, P x → Stage.meaning handler inner x = Stage.meaning handler' inner' x)
    (outer : List Stage) {x : Exchange} (hx : P x) :
    Stage.meaning handler (outer ++ inner) x = Stage.meaning handler' (outer ++ inner') x := by
  induction outer generalizing x with
  | nil => exact hcongr x hx
  | cons s outer ih =>
    exact hkept.run_congr (fun _ => hkept.meaning _ _) (fun _ => ih) s.program hx

end Kept

end Wayfinder.Stage
