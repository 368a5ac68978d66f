import Mathlib.Data.List.Basic
import Wayfinder.Dispatcher
/-!
# Nested stages

What the notes of a run look like, whatever the programs of its stages are. A stage leaves notes
of its own and goes on to the stages inside it, any number of times or never; each time that it
goes on, the notes of a whole run of the inner stages stand in that place. A panic ends the notes.
-/

namespace Wayfinder

/-! ## Notes of exchanges -/

namespace Context.Exchange

/-- Nothing differs but the writer and the log. -/
def Responds (x y : Exchange) : Prop := ∃ writer log, y = { x with writer, log }

namespace Responds

variable {x y : Exchange} (h : x.Responds y)

include h

theorem notes_eq : y.notes = x.notes := by
  obtain ⟨writer, log, rfl⟩ := h
  rfl

theorem request_eq : y.request = x.request := by
  obtain ⟨writer, log, rfl⟩ := h
  rfl

theorem world_eq : y.world = x.world := by
  obtain ⟨writer, log, rfl⟩ := h
  rfl

theorem pattern_eq : y.pattern = x.pattern := by
  obtain ⟨writer, log, rfl⟩ := h
  rfl

theorem trans {z : Exchange} (hyz : y.Responds z) : x.Responds z := by
  obtain ⟨_, _, rfl⟩ := h
  obtain ⟨_, _, rfl⟩ := hyz
  exact ⟨_, _, rfl⟩

end Responds

variable (x : Exchange)

theorem responds_addLine (f : Writer → Http.Header → Writer) (name value : String) :
    x.Responds (x.addLine f name value) := by
  unfold addLine
  split
  · exact ⟨_, _, rfl⟩
  · split <;> exact ⟨_, _, rfl⟩

theorem responds_setStatus (code : Nat) : x.Responds (x.setStatus code) := by
  unfold setStatus
  split <;> exact ⟨_, _, rfl⟩

theorem responds_sendFile (path : String) : x.Responds (x.sendFile path) := by
  simp only [sendFile]
  split <;> exact ⟨_, _, rfl⟩

@[simp] theorem notes_modifyWriter (f : Writer → Writer) : (x.modifyWriter f).notes = x.notes := rfl

@[simp] theorem notes_emit (e : Log.Event) : (x.emit e).notes = x.notes := rfl

@[simp] theorem notes_addLine (f : Writer → Http.Header → Writer) (name value : String) :
    (x.addLine f name value).notes = x.notes :=
  (x.responds_addLine f name value).notes_eq

@[simp] theorem notes_setStatus (code : Nat) : (x.setStatus code).notes = x.notes :=
  (x.responds_setStatus code).notes_eq

@[simp] theorem notes_write (type : Option String) (bytes : Bytes) :
    (x.write type bytes).notes = x.notes := rfl

@[simp] theorem notes_sendFile (path : String) : (x.sendFile path).notes = x.notes :=
  (x.responds_sendFile path).notes_eq

@[simp] theorem notes_setDeadline (instant : Nat) : (x.setDeadline instant).notes = x.notes := rfl

@[simp] theorem notes_record (meter : String) (latency : Number.Duration) :
    (x.record meter latency).notes = x.notes := rfl

end Context.Exchange

namespace Stage

open Context (Exchange)
open Json (Value)

/-- What a chain means: a stage goes on to the stages behind it, the last one to the handler. -/
def meaning (handler : Program) : List Stage → Exchange → Outcome
  | [] => handler.runAlone
  | s :: rest => s.program.run (meaning handler rest)

theorem runChain_eq_meaning (stages : List Stage) (handler : Program) :
    runChain stages handler = meaning handler stages := by
  induction stages with
  | nil => rfl
  | cons s rest ih => rw [runChain, build_cons, meaning, ← ih, runChain]

/-! ## Programs -/

/-- What shows of a run of a program: it leaves a note, or it goes on with an exchange. -/
inductive Mark
  | note (v : Value)
  | call (x : Exchange)

/-- The notes in the place of a mark, given those of a run that the program goes on to. -/
def Mark.notes (inner : Exchange → List Value) : Mark → List Value
  | note v => [v]
  | call x => inner x

def Effect.marks : Effect → List Mark
  | .note v => [.note v]
  | _ => []

theorem Effect.call_notMem_marks (e : Effect) (x : Exchange) : .call x ∉ e.marks := by
  cases e <;> simp [marks]

/-- The marks of a run in order. There are none behind a panic, whether it is the program's own or
comes from where it went on to. -/
def Program.marks (continuation : Exchange → Outcome) : Program → Exchange → List Mark
  | done, _ => []
  | act e rest, x => e.marks ++ rest.marks continuation (e.apply x)
  | next rest, x => .call x :: match continuation x with
    | .returned y => rest.marks continuation y
    | .panicked _ _ => []
  | inspect k, x => (k x).marks continuation x
  | panic _, _ => []

theorem Effect.notes_apply (e : Effect) (x : Exchange) (inner : Exchange → List Value) :
    (e.apply x).notes = x.notes ++ e.marks.flatMap (Mark.notes inner) := by
  cases e <;> simp [apply, marks, Mark.notes]

namespace Program

variable {continuation : Exchange → Outcome}

theorem notes_run {inner : Exchange → List Value}
    (hinner : ∀ x, (continuation x).exchange.notes = x.notes ++ inner x) (p : Program)
    (x : Exchange) : (p.run continuation x).exchange.notes =
      x.notes ++ (p.marks continuation x).flatMap (Mark.notes inner) := by
  induction p generalizing x with
  | done => simp [run, marks, Outcome.exchange]
  | act e rest ih => simp [run, marks, ih, e.notes_apply x inner]
  | next rest ih =>
    -- a panic of the continuation keeps its notes, and the run ends with them
    have hx := hinner x
    cases hc : continuation x with
    | returned y =>
      have hy : y.notes = x.notes ++ inner x := by simpa [hc, Outcome.exchange] using hx
      simp [run, marks, hc, ih, hy, Mark.notes]
    | panicked p y =>
      simpa [run, marks, hc, Mark.notes] using hx
  | inspect k ih => exact ih x x
  | panic p => simp [run, marks, Outcome.exchange]

/-- Where a program went on to a panic, it ends with that panic and leaves no further mark. -/
theorem run_of_call_panicked {p : Program} {x y : Exchange} (hcall : .call y ∈ p.marks continuation x)
    {cause : Panic} {z : Exchange} (hpanic : continuation y = .panicked cause z) :
    p.run continuation x = .panicked cause z ∧
      ∃ before, p.marks continuation x = before ++ [.call y] := by
  induction p generalizing x with
  | done => cases hcall
  | act e rest ih =>
    have hrest : .call y ∈ rest.marks continuation (e.apply x) := by
      rcases List.mem_append.1 hcall with heffect | hrest
      · exact (e.call_notMem_marks y heffect).elim
      · exact hrest
    obtain ⟨hrun, before, hmarks⟩ := ih hrest
    exact ⟨hrun, e.marks ++ before, by simp [marks, hmarks]⟩
  | next rest ih =>
    rcases List.mem_cons.1 hcall with heq | hrest
    · cases heq
      exact ⟨by simp [run, hpanic], [], by simp [marks, hpanic]⟩
    · cases hc : continuation x with
      | panicked => simp [hc] at hrest
      | returned x' =>
        obtain ⟨hrun, before, hmarks⟩ := ih (by simpa [hc] using hrest)
        exact ⟨by simpa [run, hc] using hrun, .call x :: before, by simp [marks, hc, hmarks]⟩
  | inspect k ih => exact ih x hcall
  | panic => cases hcall

end Program

/-! ## Chains -/

/-- The notes that a run of a chain adds to those that are there. -/
def chainNotes (handler : Program) : List Stage → Exchange → List Value
  | [], x => (handler.marks .returned x).flatMap (Mark.notes fun _ => [])
  | s :: rest, x =>
    (s.program.marks (meaning handler rest) x).flatMap (Mark.notes (chainNotes handler rest))

theorem notes_meaning (handler : Program) (stages : List Stage) (x : Exchange) :
    (meaning handler stages x).exchange.notes = x.notes ++ chainNotes handler stages x := by
  induction stages generalizing x with
  | nil => exact Program.notes_run (by simp [Outcome.exchange]) handler x
  | cons s rest ih => exact Program.notes_run ih s.program x

/-- What a stage does when it is run: what it notes on the way in, how often it goes on, and what it
notes on the way out. -/
structure Layer where
  enter : List Value
  calls : Nat
  leave : List Value

def Layer.around (l : Layer) (inner : List Value) : List Value :=
  l.enter ++ (List.replicate l.calls inner).flatten ++ l.leave

/-- The notes of layers, the first one outermost, around those of a handler. -/
def nested (core : List Value) (layers : List Layer) : List Value :=
  layers.foldr Layer.around core

@[simp] theorem nested_nil (core : List Value) : nested core [] = core := rfl

@[simp] theorem nested_cons (core : List Value) (l : Layer) (layers : List Layer) :
    nested core (l :: layers) = l.around (nested core layers) := rfl

/-- In a run from an exchange each stage does what its layer says, every time that it is run, and the
handler notes `core`. -/
def Follows (handler : Program) (core : List Value) : List Stage → List Layer → Exchange → Prop
  | [], [], x => chainNotes handler [] x = core
  | s :: rest, l :: layers, x => ∃ calls : List Exchange, calls.length = l.calls ∧
      s.program.marks (meaning handler rest) x =
        l.enter.map .note ++ calls.map .call ++ l.leave.map .note ∧
      ∀ y ∈ calls, Follows handler core rest layers y
  | _, _, _ => False

theorem flatMap_note (inner : Exchange → List Value) (vs : List Value) :
    (vs.map Mark.note).flatMap (Mark.notes inner) = vs := by
  induction vs with
  | nil => rfl
  | cons v vs ih => simp [ih, Mark.notes]

theorem flatMap_call {inner : Exchange → List Value} {block : List Value} {calls : List Exchange}
    (h : ∀ y ∈ calls, inner y = block) :
    (calls.map Mark.call).flatMap (Mark.notes inner) = (List.replicate calls.length block).flatten := by
  induction calls with
  | nil => rfl
  | cons y calls ih =>
    simp [ih fun y hy => h y (List.mem_cons_of_mem _ hy), h y (List.mem_cons_self ..), Mark.notes,
      List.replicate_succ]

theorem Follows.chainNotes_eq {handler : Program} {core : List Value} {stages : List Stage}
    {layers : List Layer} {x : Exchange} (h : Follows handler core stages layers x) :
    chainNotes handler stages x = nested core layers := by
  induction stages generalizing layers x with
  | nil =>
    cases layers with
    | nil => exact h
    | cons => exact h.elim
  | cons s rest ih =>
    cases layers with
    | nil => exact h.elim
    | cons l layers =>
      obtain ⟨calls, hlength, hmarks, hinner⟩ := h
      rw [chainNotes, hmarks, List.flatMap_append, List.flatMap_append, flatMap_note, flatMap_note,
        flatMap_call fun y hy => ih (hinner y hy), hlength]
      rfl

/-- Layers that go on once put their notes around those of the layers inside. -/
theorem nested_append {outer : List Layer} (h : ∀ l ∈ outer, l.calls = 1) (core : List Value)
    (inner : List Layer) : nested core (outer ++ inner) =
      outer.flatMap Layer.enter ++ nested core inner ++ outer.reverse.flatMap Layer.leave := by
  induction outer with
  | nil => simp
  | cons l outer ih =>
    have hl : l.calls = 1 := h l (List.mem_cons_self ..)
    have houter := ih fun l hl => h l (List.mem_cons_of_mem _ hl)
    simp [Layer.around, hl, houter]

/-! ## Panics -/

/-- A run of the stages `outer` around the stages `inner` comes to the inner ones with an
exchange. -/
def Reaches (handler : Program) (inner : List Stage) : List Stage → Exchange → Exchange → Prop
  | [], x, y => y = x
  | s :: outer, x, y => ∃ x', .call x' ∈ s.program.marks (meaning handler (outer ++ inner)) x ∧
      Reaches handler inner outer x' y

theorem reaches_concat {handler : Program} {s : Stage} {inner outer : List Stage}
    {x y : Exchange} :
    Reaches handler inner (outer ++ [s]) x y ↔ ∃ x', Reaches handler (s :: inner) outer x x' ∧
      .call y ∈ s.program.marks (meaning handler inner) x' := by
  induction outer generalizing x with
  | nil => simp [Reaches]
  | cons s' outer ih =>
    have hinner : outer ++ [s] ++ inner = outer ++ s :: inner := by simp
    simp only [List.cons_append, Reaches, ih, hinner]
    constructor
    · rintro ⟨x₁, hcall, x₂, hreach, hy⟩
      exact ⟨x₂, ⟨x₁, hcall, hreach⟩, hy⟩
    · rintro ⟨x₂, ⟨x₁, hcall, hreach⟩, hy⟩
      exact ⟨x₁, hcall, x₂, hreach, hy⟩

/-- A panic inside stages is the end of the whole run: the exchange is the one of the panic, and the
notes end with those of the stages inside. -/
theorem Reaches.panicked {handler : Program} {inner outer : List Stage} {x y z : Exchange}
    {cause : Panic} (hreach : Reaches handler inner outer x y)
    (hpanic : meaning handler inner y = .panicked cause z) :
    meaning handler (outer ++ inner) x = .panicked cause z ∧
      ∃ before, chainNotes handler (outer ++ inner) x = before ++ chainNotes handler inner y := by
  induction outer generalizing x with
  | nil =>
    obtain rfl := hreach
    exact ⟨hpanic, [], rfl⟩
  | cons s outer ih =>
    obtain ⟨x', hcall, hreach⟩ := hreach
    obtain ⟨hrun, before, hnotes⟩ := ih hreach
    obtain ⟨hrun', marks, hmarks⟩ := Program.run_of_call_panicked hcall hrun
    exact ⟨hrun', marks.flatMap (Mark.notes (chainNotes handler (outer ++ inner))) ++ before, by
      simp [chainNotes, hmarks, Mark.notes, hnotes]⟩

end Stage

/-! ## Dispatching -/

open Context (Exchange World)
open Http (Request)
open Stage (Layer)

@[simp] theorem Table.notes_resolve (t : Table) (x : Exchange) :
    (t.resolve x).exchange.notes = x.notes := by
  simp only [resolve]
  split <;> rfl

@[simp] theorem notes_recover (o : Stage.Outcome) : (recover o).notes = o.exchange.notes := by
  cases o with
  | returned x => rfl
  | panicked p x =>
    simp only [recover]
    split <;> rfl

/-- A request runs its chain as stages inside stages. If every stage does in this run what its
layer says, the notes are those of the layers in one another: outer ones that go on once stand
around the notes of the first one that does not, and what is inside that one occurs as often as
it goes on. When what is inside some stages panics, no note of theirs follows. -/
theorem Dispatcher.dispatch_nests (d : Dispatcher) (world : World) (request : Request) :
    let r := d.table.resolve (Exchange.start world d.shutdown request)
    let notes := (d.dispatch world request).notes
    d.run world request = Stage.meaning r.handler r.stages r.exchange ∧
    notes = Stage.chainNotes r.handler r.stages r.exchange ∧
    (∀ core layers, Stage.Follows r.handler core r.stages layers r.exchange →
      ((∀ l ∈ layers, l.calls = 1) →
        notes = layers.flatMap Layer.enter ++ core ++ layers.reverse.flatMap Layer.leave) ∧
      ∀ outer l inner, layers = outer ++ l :: inner → (∀ l ∈ outer, l.calls = 1) →
        notes = outer.flatMap Layer.enter ++
          (l.enter ++ (List.replicate l.calls (Stage.nested core inner)).flatten ++ l.leave) ++
            outer.reverse.flatMap Layer.leave) ∧
    ∀ outer inner y cause z, r.stages = outer ++ inner →
      Stage.Reaches r.handler inner outer r.exchange y →
      Stage.meaning r.handler inner y = .panicked cause z →
        d.run world request = .panicked cause z ∧
          ∃ before, notes = before ++ Stage.chainNotes r.handler inner y := by
  intro r notes
  have hrun : d.run world request = Stage.meaning r.handler r.stages r.exchange := by
    rw [run, Stage.runChain_eq_meaning]
  have hnotes : notes = Stage.chainNotes r.handler r.stages r.exchange := by
    have hstart : r.exchange.notes = [] := d.table.notes_resolve _
    calc notes
      _ = (d.run world request).exchange.notes := notes_recover _
      _ = r.exchange.notes ++ Stage.chainNotes r.handler r.stages r.exchange := by
        rw [hrun, Stage.notes_meaning]
      _ = Stage.chainNotes r.handler r.stages r.exchange := by rw [hstart, List.nil_append]
  refine ⟨hrun, hnotes, fun core layers hfollows => ⟨fun honce => ?_, ?_⟩, ?_⟩
  · have hnested := Stage.nested_append honce core []
    rw [List.append_nil, Stage.nested_nil] at hnested
    rw [hnotes, hfollows.chainNotes_eq, hnested]
  · rintro outer l inner rfl honce
    rw [hnotes, hfollows.chainNotes_eq, Stage.nested_append honce]
    rfl
  · intro outer inner y cause z hstages hreach hpanic
    obtain ⟨hpanicked, hbefore⟩ := hreach.panicked hpanic
    rw [hrun, hnotes, hstages]
    exact ⟨hpanicked, hbefore⟩

/-- The second stage goes on twice, so the handler notes twice. -/
theorem Dispatcher.dispatch_nests_twice :
    let note (s : String) (rest : Stage.Program) : Stage.Program := .act (.note (.string s)) rest
    let once : Stage := .custom "once" (note "a" (.next (note "b" .done)))
    let twice : Stage := .custom "twice" (note "c" (.next (.next (note "d" .done))))
    let d : Dispatcher :=
      { table := { registry := { globals := [once, twice] }, notFound := note "h" .done },
        shutdown := ⟨0, []⟩ }
    let request : Request := { method := Http.Verb.get.toMethod, uri := { path := "/x" } }
    (d.dispatch {} request).notes = ["a", "c", "h", "h", "d", "b"].map .string := by
  dsimp only
  refine ((dispatch_nests _ _ _).2.2.1 [.string "h"]
    [⟨[.string "a"], 1, [.string "b"]⟩, ⟨[.string "c"], 2, [.string "d"]⟩] ?_).2 [_] _ [] rfl
      (by simp)
  -- whatever the exchange is, the inner stage goes on with two others
  exact ⟨[_], rfl, rfl, fun y _ => ⟨[_, _], rfl, rfl, fun z _ => rfl⟩⟩

end Wayfinder
