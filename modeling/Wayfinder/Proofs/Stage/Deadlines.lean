import Mathlib.Data.List.Basic
import Wayfinder.Proofs.Stage.Effects
/-!
# Deadlines

While a chain answers a request, tokens are cancelled and time passes. In whatever order this happens,
the deadline is the earliest instant that has been asked for, and a request that was found cancelled is
found so ever after.
-/

namespace Wayfinder

namespace Context.Exchange

/-- What is left of an exchange after a while: time has passed and flags were raised. -/
structure Elapsed (x y : Exchange) : Prop where
  token_eq : y.token = x.token
  deadline_eq : y.deadline = x.deadline
  now_le : x.world.now ≤ y.world.now
  raised_subset : x.world.flags.raised ⊆ y.world.flags.raised

/-- An exchange at a later time. Its deadline may have been moved, but not away. -/
structure Later (x y : Exchange) : Prop where
  token_eq : y.token = x.token
  deadline_le : ∀ d ∈ x.deadline, ∃ d' ∈ y.deadline, d' ≤ d
  now_le : x.world.now ≤ y.world.now
  raised_subset : x.world.flags.raised ⊆ y.world.flags.raised

theorem exists_deadline_setDeadline (x : Exchange) (instant : Nat) :
    ∃ d ∈ (x.setDeadline instant).deadline, d ≤ instant := by
  cases hd : x.deadline with
  | none => exact ⟨instant, by simp [setDeadline, hd], Nat.le_refl _⟩
  | some earlier => exact ⟨min earlier instant, by simp [setDeadline, hd], Nat.min_le_right _ _⟩

variable {x y z : Exchange}

theorem Elapsed.of_eq (htoken : y.token = x.token) (hdeadline : y.deadline = x.deadline)
    (hworld : y.world = x.world) : x.Elapsed y :=
  ⟨htoken, hdeadline, hworld ▸ Nat.le_refl _, hworld ▸ List.Subset.refl _⟩

theorem Responds.elapsed (h : x.Responds y) : x.Elapsed y := by
  obtain ⟨writer, log, rfl⟩ := h
  exact .of_eq rfl rfl rfl

theorem Elapsed.later (h : x.Elapsed y) : x.Later y :=
  ⟨h.token_eq, fun d hd => ⟨d, h.deadline_eq ▸ hd, Nat.le_refl d⟩, h.now_le, h.raised_subset⟩

namespace Later

theorem refl (x : Exchange) : x.Later x := (Elapsed.of_eq rfl rfl rfl).later

theorem trans (hxy : x.Later y) (hyz : y.Later z) : x.Later z := by
  refine ⟨hyz.token_eq.trans hxy.token_eq, fun d hd => ?_, Nat.le_trans hxy.now_le hyz.now_le,
    List.Subset.trans hxy.raised_subset hyz.raised_subset⟩
  obtain ⟨d', hd', hle⟩ := hxy.deadline_le d hd
  obtain ⟨d'', hd'', hle'⟩ := hyz.deadline_le d' hd'
  exact ⟨d'', hd'', Nat.le_trans hle' hle⟩

theorem setDeadline (x : Exchange) (instant : Nat) : x.Later (x.setDeadline instant) := by
  refine ⟨rfl, fun d hd => ⟨min d instant, ?_, Nat.min_le_left d instant⟩, Nat.le_refl _,
    List.Subset.refl _⟩
  rw [Option.mem_def] at hd ⊢
  simp [Exchange.setDeadline, hd]

theorem isTokenCancelled (h : x.Later y) (hx : x.isTokenCancelled = true) :
    y.isTokenCancelled = true := by
  simp only [Exchange.isTokenCancelled, Flags.isCancelled, List.any_eq_true, decide_eq_true_eq] at hx ⊢
  obtain ⟨f, hf, hraised⟩ := hx
  exact ⟨f, h.token_eq ▸ hf, h.raised_subset hraised⟩

theorem isExpired (h : x.Later y) (hx : x.isExpired = true) : y.isExpired = true := by
  simp only [Exchange.isExpired, Option.any_eq_true, decide_eq_true_eq] at hx ⊢
  obtain ⟨d, hd, hnow⟩ := hx
  obtain ⟨d', hd', hle⟩ := h.deadline_le d hd
  exact ⟨d', hd', Nat.le_trans hle (Nat.le_trans hnow h.now_le)⟩

theorem isCancelled (h : x.Later y) (hx : x.isCancelled = true) : y.isCancelled = true := by
  rw [Exchange.isCancelled, Bool.or_eq_true] at hx ⊢
  exact hx.imp h.isTokenCancelled h.isExpired

end Later

end Context.Exchange

namespace Stage

open Context (Exchange Token World)
open Number (Duration)

/-- What can happen while a request is answered: its chain has an effect, or, outside of it, some token is
cancelled or time passes. -/
inductive Move
  | effect (e : Effect)
  | cancel (t : Token)
  | wait (d : Duration)

namespace Move

def apply : Move → Exchange → Exchange
  | effect e, x => e.apply x
  | cancel t, x => { x with world := { x.world with flags := x.world.flags.cancel t } }
  | wait d, x => { x with world := { x.world with now := x.world.now + d } }

/-- The exchange after moves in order. -/
def applyAll (moves : List Move) (x : Exchange) : Exchange := moves.foldl (fun x m => m.apply x) x

@[simp] theorem applyAll_nil (x : Exchange) : applyAll [] x = x := rfl

@[simp] theorem applyAll_cons (m : Move) (moves : List Move) (x : Exchange) :
    applyAll (m :: moves) x = applyAll moves (m.apply x) := rfl

@[simp] theorem applyAll_append (moves moves' : List Move) (x : Exchange) :
    applyAll (moves ++ moves') x = applyAll moves' (applyAll moves x) :=
  List.foldl_append

/-- The instant that is asked for as a deadline. -/
def instant? : Move → Option Nat
  | effect (.setDeadline instant) => some instant
  | _ => none

def instants (moves : List Move) : List Nat := moves.filterMap instant?

/-- A move asks for a deadline, or it leaves the deadline as it is. -/
theorem apply_cases (m : Move) (x : Exchange) :
    (∃ instant, m.instant? = some instant ∧ m.apply x = x.setDeadline instant) ∨
      m.instant? = none ∧ x.Elapsed (m.apply x) := by
  cases m with
  | cancel t => exact .inr ⟨rfl, rfl, rfl, Nat.le_refl _, List.subset_cons_self _ _⟩
  | wait d => exact .inr ⟨rfl, rfl, rfl, Nat.le_add_right _ d, List.Subset.refl _⟩
  | effect e =>
    cases e with
    | setDeadline instant => exact .inl ⟨instant, rfl, rfl⟩
    | cancel => exact .inr ⟨rfl, rfl, rfl, Nat.le_refl _, List.subset_cons_self _ _⟩
    | pause d => exact .inr ⟨rfl, rfl, rfl, Nat.le_add_right _ d, List.Subset.refl _⟩
    | setStatus code => exact .inr ⟨rfl, (x.responds_setStatus code).elapsed⟩
    | setHeader name value => exact .inr ⟨rfl, (x.responds_addLine _ name value).elapsed⟩
    | appendHeader name value => exact .inr ⟨rfl, (x.responds_addLine _ name value).elapsed⟩
    | sendFile path => exact .inr ⟨rfl, (x.responds_sendFile path).elapsed⟩
    | record meter latency => exact .inr ⟨rfl, rfl, rfl, Nat.le_refl _, List.Subset.refl _⟩
    | _ => exact .inr ⟨rfl, .of_eq rfl rfl rfl⟩

theorem later_apply (m : Move) (x : Exchange) : x.Later (m.apply x) := by
  rcases m.apply_cases x with ⟨instant, -, happly⟩ | ⟨-, helapsed⟩
  · rw [happly]
    exact .setDeadline x instant
  · exact helapsed.later

theorem later_applyAll (moves : List Move) (x : Exchange) : x.Later (applyAll moves x) := by
  induction moves generalizing x with
  | nil => exact .refl x
  | cons m moves ih => exact (m.later_apply x).trans (ih (m.apply x))

theorem deadline_apply (m : Move) (x : Exchange) :
    (m.apply x).deadline = (x.deadline.toList ++ m.instant?.toList).min? := by
  rcases m.apply_cases x with ⟨instant, hinstant, happly⟩ | ⟨hnone, helapsed⟩
  · rw [happly, hinstant]
    cases hd : x.deadline <;> simp [Exchange.setDeadline, hd]
  · rw [helapsed.deadline_eq, hnone]
    cases x.deadline <;> simp

end Move

/-- The least of some numbers stands for them among further ones. -/
theorem min?_toList_min?_append (xs ys : List Nat) : (xs.min?.toList ++ ys).min? = (xs ++ ys).min? := by
  cases xs with
  | nil => rfl
  | cons x xs =>
    rw [List.cons_append, List.min?_cons', List.min?_cons', List.foldl_append]
    rfl

theorem Move.deadline_applyAll (moves : List Move) (x : Exchange) :
    (applyAll moves x).deadline = (x.deadline.toList ++ instants moves).min? := by
  induction moves generalizing x with
  | nil =>
    rw [applyAll_nil, instants, List.filterMap_nil, List.append_nil]
    cases x.deadline <;> rfl
  | cons m moves ih =>
    have hinstants : instants (m :: moves) = m.instant?.toList ++ instants moves := by
      rw [instants, List.filterMap_cons]
      cases m.instant? <;> rfl
    rw [applyAll_cons, ih, m.deadline_apply, min?_toList_min?_append, hinstants, List.append_assoc]

/-! ## Chains -/

/-- A run of a program among moves from outside, which may come anywhere: the moves in order, and how the run ends.
Where the program goes on to the rest of its chain, `Inner` says how that runs. -/
inductive Program.Runs (Inner : Exchange → List Move → Outcome → Prop) :
    Program → Exchange → List Move → Outcome → Prop
  | done (x : Exchange) : Runs Inner .done x [] (.returned x)
  | act {e : Effect} {rest : Program} {x : Exchange} {moves : List Move} {o : Outcome}
      (hrest : Runs Inner rest (e.apply x) moves o) : Runs Inner (.act e rest) x (.effect e :: moves) o
  | next {rest : Program} {x y : Exchange} {moves moves' : List Move} {o : Outcome}
      (hinner : Inner x moves (.returned y)) (hrest : Runs Inner rest y moves' o) :
      Runs Inner (.next rest) x (moves ++ moves') o
  | nextPanicked {rest : Program} {x y : Exchange} {moves : List Move} {cause : Panic}
      (hinner : Inner x moves (.panicked cause y)) :
      Runs Inner (.next rest) x moves (.panicked cause y)
  | inspect {k : Exchange → Program} {x : Exchange} {moves : List Move} {o : Outcome}
      (hrest : Runs Inner (k x) x moves o) : Runs Inner (.inspect k) x moves o
  | panic (cause : Panic) (x : Exchange) : Runs Inner (.panic cause) x [] (.panicked cause x)
  | cancelled (t : Token) {p : Program} {x : Exchange} {moves : List Move} {o : Outcome}
      (hrest : Runs Inner p ((Move.cancel t).apply x) moves o) : Runs Inner p x (.cancel t :: moves) o
  | waited (d : Duration) {p : Program} {x : Exchange} {moves : List Move} {o : Outcome}
      (hrest : Runs Inner p ((Move.wait d).apply x) moves o) : Runs Inner p x (.wait d :: moves) o

/-- A run that begins with what its program itself does. -/
def Program.Begins (Inner : Exchange → List Move → Outcome → Prop) :
    Program → Exchange → List Move → Outcome → Prop
  | .done, x, moves, o => moves = [] ∧ o = .returned x
  | .act e rest, x, moves, o =>
    ∃ later, moves = .effect e :: later ∧ rest.Runs Inner (e.apply x) later o
  | .next rest, x, moves, o =>
    (∃ y inside later, moves = inside ++ later ∧ Inner x inside (.returned y) ∧
      rest.Runs Inner y later o) ∨
    ∃ cause y, o = .panicked cause y ∧ Inner x moves (.panicked cause y)
  | .inspect k, x, moves, o => (k x).Runs Inner x moves o
  | .panic cause, x, moves, o => moves = [] ∧ o = .panicked cause x

/-- A run of a chain among moves from outside. -/
def ChainRuns (handler : Program) : List Stage → Exchange → List Move → Outcome → Prop
  | [] => handler.Runs fun x moves o => moves = [] ∧ o = .returned x
  | s :: rest => s.program.Runs (ChainRuns handler rest)

/-- Nothing but what comes from outside. -/
def Outside (moves : List Move) : Prop := ∀ m ∈ moves, ∀ e, m ≠ .effect e

theorem Outside.nil : Outside [] := fun _ hm => by cases hm

theorem Outside.cons {m : Move} {moves : List Move} (hm : ∀ e, m ≠ .effect e) (h : Outside moves) :
    Outside (m :: moves) := List.forall_mem_cons.2 ⟨hm, h⟩

namespace Program.Runs

variable {Inner : Exchange → List Move → Outcome → Prop}

theorem exchange_eq
    (hinner : ∀ {x moves o}, Inner x moves o → o.exchange = Move.applyAll moves x) {p : Program}
    {x : Exchange} {moves : List Move} {o : Outcome} (h : p.Runs Inner x moves o) :
    o.exchange = Move.applyAll moves x := by
  induction h with
  | done x => rfl
  | act _ ih => exact ih
  | next hx _ ih =>
    rw [ih, Move.applyAll_append, ← hinner hx]
    rfl
  | nextPanicked hx => exact hinner hx
  | inspect _ ih => exact ih
  | panic cause x => rfl
  | cancelled t _ ih => exact ih
  | waited d _ ih => exact ih

/-- A program runs after some moves from outside, with what it does itself first. -/
theorem exists_begins {p : Program} {x : Exchange} {moves : List Move} {o : Outcome}
    (h : p.Runs Inner x moves o) : ∃ before after, moves = before ++ after ∧ Outside before ∧
      p.Begins Inner (Move.applyAll before x) after o := by
  induction h with
  | done x => exact ⟨[], [], rfl, .nil, rfl, rfl⟩
  | act hrest => exact ⟨[], _, rfl, .nil, _, rfl, hrest⟩
  | next hinner hrest => exact ⟨[], _, rfl, .nil, .inl ⟨_, _, _, rfl, hinner, hrest⟩⟩
  | nextPanicked hinner => exact ⟨[], _, rfl, .nil, .inr ⟨_, _, rfl, hinner⟩⟩
  | inspect hrest => exact ⟨[], _, rfl, .nil, hrest⟩
  | panic cause x => exact ⟨[], [], rfl, .nil, rfl, rfl⟩
  | cancelled t _ ih =>
    obtain ⟨before, after, rfl, hbefore, hbegins⟩ := ih
    exact ⟨.cancel t :: before, after, rfl, .cons nofun hbefore, hbegins⟩
  | waited d _ ih =>
    obtain ⟨before, after, rfl, hbefore, hbegins⟩ := ih
    exact ⟨.wait d :: before, after, rfl, .cons nofun hbefore, hbegins⟩

/-- A program runs by itself too, with nothing coming from outside. -/
theorem of_run {continuation : Exchange → Outcome} {inner : Exchange → List Effect}
    (hinner : ∀ x, Inner x ((inner x).map .effect) (continuation x)) (p : Program) (x : Exchange) :
    p.Runs Inner x ((p.effects continuation inner x).map .effect) (p.run continuation x) := by
  induction p generalizing x with
  | done => exact .done x
  | act e rest ih => exact .act (ih (e.apply x))
  | next rest ih =>
    have hx := hinner x
    rw [Program.effects, Program.run, List.map_append]
    cases hc : continuation x with
    | returned y =>
      rw [hc] at hx
      exact .next hx (ih y)
    | panicked cause y =>
      rw [hc] at hx
      simpa using Program.Runs.nextPanicked hx
  | inspect k ih => exact .inspect (ih x x)
  | panic cause => exact .panic cause x

end Program.Runs

theorem ChainRuns.exchange_eq {handler : Program} {stages : List Stage} {x : Exchange}
    {moves : List Move} {o : Outcome} (h : ChainRuns handler stages x moves o) :
    o.exchange = Move.applyAll moves x := by
  induction stages generalizing x moves o with
  | nil =>
    refine Program.Runs.exchange_eq ?_ h
    rintro x _ _ ⟨rfl, rfl⟩
    rfl
  | cons s rest ih => exact Program.Runs.exchange_eq ih h

/-- A deadline stage asks for the time that it finds plus its budget, before anything inside it happens. If the
clock cannot show that instant, it panics instead. -/
theorem ChainRuns.exists_of_deadline {handler : Program} {budget : Duration} {inner : List Stage}
    {x : Exchange} {moves : List Move} {o : Outcome}
    (h : ChainRuns handler (.deadline budget :: inner) x moves o) : ∃ before pause,
      Outside (before ++ pause) ∧
        let instant := (Move.applyAll before x).world.now + budget
        if instant < clockEnd then
          ∃ inside, moves = before ++ pause ++ [.effect (.setDeadline instant)] ++ inside
        else moves = before ++ pause ∧ o = .panicked instantOverflow (Move.applyAll moves x) := by
  obtain ⟨before, after, rfl, hbefore, hprogram⟩ :=
    Program.Runs.exists_begins (p := deadlineProgram budget) h
  obtain ⟨pause, inside, rfl, hpause, hown⟩ := hprogram.exists_begins
  refine ⟨before, pause, List.forall_mem_append.2 ⟨hbefore, hpause⟩, ?_⟩
  intro instant
  dsimp only at hown
  by_cases hshown : instant < clockEnd
  · rw [if_neg (Nat.not_le.2 hshown)] at hown
    obtain ⟨later, rfl, -⟩ := hown
    rw [if_pos hshown]
    exact ⟨later, by simp [instant]⟩
  · rw [if_pos (Nat.not_lt.1 hshown)] at hown
    obtain ⟨rfl, rfl⟩ := hown
    rw [if_neg hshown]
    simp

theorem chainRuns_meaning (handler : Program) (stages : List Stage) (x : Exchange) :
    ChainRuns handler stages x ((chainEffects handler stages x).map .effect)
      (meaning handler stages x) := by
  induction stages generalizing x with
  | nil => exact Program.Runs.of_run (fun x => ⟨rfl, rfl⟩) handler x
  | cons s rest ih => exact Program.Runs.of_run ih s.program x

/-- Whatever effects stages and handlers have and whatever tokens are cancelled while time passes, the deadline is
the earliest instant that has been asked for, and there is none before that; further moves bring it forward
or leave it, and what was found cancelled is found cancelled after them. Runs of chains, alone or among moves from
outside, consist of such moves. So a deadline that a stage installs holds for all that happens
inside it and later; a stage whose instant the clock cannot show panics before anything else happens. -/
theorem deadlines_only_tighten (x : Exchange) (moves : List Move) :
    let after (moves : List Move) : Exchange := Move.applyAll moves x
    (∀ world shutdown request, (Exchange.start world shutdown request).deadline = none) ∧
    (after moves).deadline = (x.deadline.toList ++ Move.instants moves).min? ∧
    (∀ more, ∀ d ∈ (after moves).deadline, ∃ d' ∈ (after (moves ++ more)).deadline, d' ≤ d) ∧
    (∀ more, (after moves).isCancelled = true → (after (moves ++ more)).isCancelled = true) ∧
    (∀ handler stages, ChainRuns handler stages x ((chainEffects handler stages x).map .effect)
      (runChain stages handler x)) ∧
    (∀ handler stages o, ChainRuns handler stages x moves o → o.exchange = after moves) ∧
    ∀ handler budget inner o, ChainRuns handler (.deadline budget :: inner) x moves o →
      ∃ before pause, Outside (before ++ pause) ∧
        let instant := (after before).world.now + budget
        let entered := before ++ pause ++ [.effect (.setDeadline instant)]
        if instant < clockEnd then
          (∃ inside, moves = entered ++ inside) ∧
          ∀ later, ∃ d ∈ (after (entered ++ later)).deadline, d ≤ instant
        else moves = before ++ pause ∧ o = .panicked instantOverflow (after moves) := by
  intro after
  have hlater : ∀ moves more, (after moves).Later (after (moves ++ more)) := fun moves more => by
    simpa [after] using Move.later_applyAll more (after moves)
  refine ⟨fun _ _ _ => rfl, Move.deadline_applyAll moves x, fun more => (hlater moves more).deadline_le,
    fun more => (hlater moves more).isCancelled, fun handler stages => ?_,
    fun handler stages o h => h.exchange_eq, fun handler budget inner o h => ?_⟩
  · rw [runChain_eq_meaning]
    exact chainRuns_meaning handler stages x
  · obtain ⟨before, pause, houtside, hruns⟩ := h.exists_of_deadline
    refine ⟨before, pause, houtside, ?_⟩
    intro instant entered
    by_cases hshown : instant < clockEnd
    · rw [if_pos hshown] at hruns ⊢
      refine ⟨hruns, fun later => ?_⟩
      have hset : after entered = (after (before ++ pause)).setDeadline instant := by
        simp [after, entered, Move.apply, Effect.apply]
      obtain ⟨d, hd, hle⟩ := (after (before ++ pause)).exists_deadline_setDeadline instant
      rw [← hset] at hd
      obtain ⟨d', hd', hle'⟩ := (hlater entered later).deadline_le d hd
      exact ⟨d', hd', Nat.le_trans hle' hle⟩
    · rwa [if_neg hshown] at hruns ⊢

/-- A stage inside another one asks for a later instant in vain. -/
example : let request : Http.Request := { method := Http.Verb.get.toMethod, uri := { path := "/" } }
    let x := Exchange.start {} ⟨0, []⟩ request
    let moves : List Move := [.effect (.setDeadline 5), .wait 3, .effect (.setDeadline 9), .wait 2]
    (Move.applyAll moves x).deadline = some 5 ∧ (Move.applyAll (moves.take 3) x).isCancelled = false ∧
      (Move.applyAll moves x).isCancelled = true := by
  decide

end Stage

end Wayfinder
