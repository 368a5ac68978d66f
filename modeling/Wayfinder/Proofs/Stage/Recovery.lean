import Wayfinder.Proofs.Stage.Effects
/-!
# One response

Each request is answered once. If its chain panics, what was written so far is the answer only when
some effect before the panic has committed a status.
-/

namespace Wayfinder

namespace Context.Writer

variable (w : Writer)

/-- Whether the writer is flushed and whether its status is committed. -/
def flags : Bool × Bool := (w.isFlushed, w.isCommitted)

@[simp] theorem flags_insertLine (h : Http.Header) : (w.insertLine h).flags = w.flags := by
  unfold insertLine
  split <;> rfl

@[simp] theorem flags_appendLine (h : Http.Header) : (w.appendLine h).flags = w.flags := by
  unfold appendLine
  split <;> rfl

@[simp] theorem flags_proposeType (type : String) : (w.proposeType type).flags = w.flags := by
  unfold proposeType
  split <;> rfl

@[simp] theorem flags_write (bytes : Bytes) : (w.write bytes).flags = w.flags := by
  unfold write
  split <;> rfl

theorem setStatus_of_open (h : w.isFlushed = false) (s : Http.Status) :
    w.setStatus s = { w with status := s, isCommitted := true } :=
  if_neg (by simp [h])

theorem flags_setStatus (h : w.isFlushed = false) (s : Http.Status) :
    (w.setStatus s).flags = (false, true) := by
  rw [w.setStatus_of_open h, flags, h]

theorem flags_fail (h : w.isFlushed = false) (s : Http.Status) (message : String) :
    (w.fail s message).flags = (false, true) := by
  have hreset : (w.reset s message).isFlushed = false := h
  rw [fail, flags_setStatus _ hreset]

end Context.Writer

open Context (Exchange World Writer)
open Http (Header Request Response Status)

namespace Stage

/-- Whether an effect commits a status, where there are these files. -/
def Effect.commits (files : Files) : Effect → Bool
  | .setStatus code => (Status.ofCode? code).isSome
  | .fail _ _ => true
  | .sendFile path => !(files.read path).isOk
  | _ => false

/-- An exchange that is still to be answered, whose status is committed or not. -/
structure Unanswered (files : Files) (committed : Bool) (x : Exchange) : Prop where
  flags_eq : x.writer.flags = (false, committed)
  files_eq : x.world.files = files

namespace Unanswered

variable {files : Files} {committed : Bool} {x : Exchange} (h : Unanswered files committed x)

include h

theorem isFlushed : x.writer.isFlushed = false := congrArg Prod.fst h.flags_eq

theorem isCommitted : x.writer.isCommitted = committed := congrArg Prod.snd h.flags_eq

theorem modifyWriter {f : Writer → Writer} (hf : (f x.writer).flags = x.writer.flags) :
    Unanswered files committed (x.modifyWriter f) :=
  ⟨hf.trans h.flags_eq, h.files_eq⟩

theorem addLine {f : Writer → Header → Writer} (hf : ∀ w line, (f w line).flags = w.flags)
    (name value : String) : Unanswered files committed (x.addLine f name value) := by
  rw [Exchange.addLine, h.isFlushed, if_neg Bool.false_ne_true]
  cases Writer.readLine name value with
  | ok line => exact h.modifyWriter (hf _ _)
  | error warning => exact ⟨h.flags_eq, h.files_eq⟩

theorem setStatus (code : Nat) :
    Unanswered files (committed || (Status.ofCode? code).isSome) (x.setStatus code) := by
  unfold Exchange.setStatus
  cases Status.ofCode? code with
  | none =>
    rw [Option.isSome_none, Bool.or_false]
    exact ⟨h.flags_eq, h.files_eq⟩
  | some s =>
    rw [Option.isSome_some, Bool.or_true]
    exact ⟨x.writer.flags_setStatus h.isFlushed s, h.files_eq⟩

theorem fail (s : Status) (message : String) :
    Unanswered files true (x.modifyWriter (·.fail s message)) :=
  ⟨x.writer.flags_fail h.isFlushed s message, h.files_eq⟩

theorem write (type : Option String) (bytes : Bytes) :
    Unanswered files committed (x.write type bytes) := by
  apply h.modifyWriter
  cases type with
  | none => exact x.writer.flags_write bytes
  | some type => rw [Writer.flags_write, Writer.flags_proposeType]

theorem sendFile (path : String) :
    Unanswered files (committed || !(files.read path).isOk) (x.sendFile path) := by
  rw [Exchange.sendFile, h.files_eq]
  cases files.read path with
  | ok bytes => simpa [Except.isOk, Except.toBool] using h.write _ bytes
  | error fault => cases fault <;> simpa [Except.isOk, Except.toBool] using h.fail _ _

theorem apply (e : Effect) :
    Unanswered files (committed || e.commits files) (e.apply x) := by
  have hquiet (hcommits : e.commits files = false) (hx : Unanswered files committed (e.apply x)) :
      Unanswered files (committed || e.commits files) (e.apply x) := by
    rwa [hcommits, Bool.or_false]
  cases e with
  | setStatus code => exact h.setStatus code
  | sendFile path => exact h.sendFile path
  | fail s message =>
    rw [Effect.commits, Bool.or_true]
    exact h.fail s message
  | setHeader name value =>
    apply hquiet rfl
    exact h.addLine Writer.flags_insertLine name value
  | appendHeader name value =>
    apply hquiet rfl
    exact h.addLine Writer.flags_appendLine name value
  | proposeType type =>
    apply hquiet rfl
    exact h.modifyWriter (f := (·.proposeType type)) (x.writer.flags_proposeType type)
  | write type bytes =>
    apply hquiet rfl
    exact h.write type bytes
  | _ => exact hquiet rfl ⟨h.flags_eq, h.files_eq⟩

theorem applyAll (effects : List Effect) :
    Unanswered files (committed || effects.any (·.commits files))
      (Effect.applyAll effects x) := by
  induction effects generalizing committed x with
  | nil => simpa using h
  | cons e effects ih => simpa [Bool.or_assoc] using ih (h.apply e)

end Unanswered

theorem Outcome.returned_or_panicked {o : Outcome} {x : Exchange} (h : o.exchange = x) :
    o = .returned x ∨ ∃ cause, o = .panicked cause x := by
  cases o with
  | returned y =>
    obtain rfl : y = x := h
    exact .inl rfl
  | panicked cause y =>
    obtain rfl : y = x := h
    exact .inr ⟨cause, rfl⟩

end Stage

theorem unanswered_resolve (t : Table) (world : World) (shutdown : Context.Token)
    (request : Request) :
    Stage.Unanswered world.files false
      (t.resolve (Exchange.start world shutdown request)).exchange := by
  unfold Table.resolve
  dsimp only
  split <;> exact ⟨rfl, rfl⟩

section Recover

variable {x : Exchange} (cause : Stage.Panic)

theorem writer_recover_of_committed (h : x.writer.isCommitted = true) :
    (recover (.panicked cause x)).writer = x.writer := by
  simp [recover, h, Exchange.emit]

theorem writer_recover_of_not_committed (h : x.writer.isCommitted = false) :
    (recover (.panicked cause x)).writer =
      x.writer.reset .internalServerError "Internal Server Error" := by
  simp [recover, h, Exchange.emit, Exchange.modifyWriter]

end Recover

theorem Dispatcher.finish?_recover {d : Dispatcher} {world : World} {request : Request} {w : Writer}
    (hwriter : (recover (d.run world request)).writer = w) (h : w.isFlushed = false) :
    (recover (d.run world request)).writer.finish? = some (d.dispatch world request).response ∧
      (d.dispatch world request).response = ⟨w.status, w.headers, w.body⟩ := by
  have hfinish : w.finish? = some ⟨w.status, w.headers, w.body⟩ := by
    rw [Writer.finish?, h, if_neg Bool.false_ne_true]
  have hresponse : (d.dispatch world request).response = ⟨w.status, w.headers, w.body⟩ := by
    simp only [dispatch, flush, hwriter, hfinish, Option.getD_some]
  exact ⟨by rw [hwriter, hfinish, hresponse], hresponse⟩

/-- The answer is what was written, unless a panic came before any status was committed. -/
theorem Dispatcher.response_cases {d : Dispatcher} {world : World} {request : Request}
    {files : Files} {committed : Bool} {x : Exchange} (hx : (d.run world request).exchange = x)
    (hopen : Stage.Unanswered files committed x) :
    ((∀ cause, d.run world request = .panicked cause x → committed = true) ∧
      (d.dispatch world request).response = ⟨x.writer.status, x.writer.headers, x.writer.body⟩) ∨
    ∃ cause, d.run world request = .panicked cause x ∧ committed = false ∧
      (d.dispatch world request).response.headers =
        (x.writer.reset .internalServerError "Internal Server Error").headers := by
  rcases Stage.Outcome.returned_or_panicked hx with hrun | ⟨cause, hrun⟩
  · have hwriter : (recover (d.run world request)).writer = x.writer := by rw [hrun, recover]
    refine .inl ⟨fun cause hpanic => ?_, (finish?_recover hwriter hopen.isFlushed).2⟩
    cases hrun.symm.trans hpanic
  · cases committed with
    | true =>
      have hwriter : (recover (d.run world request)).writer = x.writer := by
        rw [hrun, writer_recover_of_committed cause hopen.isCommitted]
      exact .inl ⟨fun _ _ => rfl, (finish?_recover hwriter hopen.isFlushed).2⟩
    | false =>
      have hwriter : (recover (d.run world request)).writer =
          x.writer.reset .internalServerError "Internal Server Error" := by
        rw [hrun, writer_recover_of_not_committed cause hopen.isCommitted]
      have hanswer := (finish?_recover hwriter hopen.isFlushed).2
      exact .inr ⟨cause, hrun, rfl, by rw [hanswer]⟩

/-- Every request is answered by one response, which its writer holds unflushed at the end, however
often the stages go on and wherever they panic. A chain that returns is answered by what it wrote.
So is one that panics behind an effect that commits a status; any other panic leaves nothing of
what was written or proposed. -/
theorem Dispatcher.dispatch_answers (d : Dispatcher) (world : World) (request : Request) :
    let r := d.table.resolve (Exchange.start world d.shutdown request)
    let effects := Stage.chainEffects r.handler r.stages r.exchange
    let x := Stage.Effect.applyAll effects r.exchange
    let written : Response :=
      { status := x.writer.status, headers := x.writer.headers, body := x.writer.body }
    let answer := (d.dispatch world request).response
    (recover (d.run world request)).writer.finish? = some answer ∧
    ((d.run world request = .returned x ∧ answer = written) ∨
    ∃ cause, d.run world request = .panicked cause x ∧
      if effects.any (·.commits world.files) then answer = written
      else answer =
        { status := .internalServerError
          headers := ⟨[(.contentType, .ofText "text/plain; charset=utf-8")]⟩
          body := Text.encode "Internal Server Error" }) := by
  intro r effects x written answer
  have hx : (d.run world request).exchange = x := by
    rw [run, Stage.runChain_eq_meaning, Stage.exchange_meaning]
  have hopen : Stage.Unanswered world.files (effects.any (·.commits world.files)) x := by
    simpa using (unanswered_resolve d.table world d.shutdown request).applyAll effects
  rcases Stage.Outcome.returned_or_panicked hx with hrun | ⟨cause, hrun⟩
  · have hwriter : (recover (d.run world request)).writer = x.writer := by rw [hrun, recover]
    obtain ⟨hfinish, hanswer⟩ := finish?_recover hwriter hopen.isFlushed
    exact ⟨hfinish, .inl ⟨hrun, hanswer⟩⟩
  · cases hcommits : effects.any (·.commits world.files) with
    | true =>
      have hwriter : (recover (d.run world request)).writer = x.writer := by
        rw [hrun, writer_recover_of_committed cause (hopen.isCommitted.trans hcommits)]
      obtain ⟨hfinish, hanswer⟩ := finish?_recover hwriter hopen.isFlushed
      exact ⟨hfinish, .inr ⟨cause, hrun, hanswer⟩⟩
    | false =>
      have hwriter : (recover (d.run world request)).writer =
          x.writer.reset .internalServerError "Internal Server Error" := by
        rw [hrun, writer_recover_of_not_committed cause (hopen.isCommitted.trans hcommits)]
      -- a reset leaves the flag of the flush alone
      obtain ⟨hfinish, hanswer⟩ := finish?_recover hwriter hopen.isFlushed
      exact ⟨hfinish, .inr ⟨cause, hrun, hanswer⟩⟩

/-- A file that is missing commits a 404, so a later panic leaves that answer. -/
example :
    let d : Dispatcher :=
      { table := { notFound := .act (.sendFile "none") (.act (.write none [33]) (.panic .other)) }
        shutdown := ⟨0, []⟩ }
    let request : Request := { method := Http.Verb.get.toMethod, uri := { path := "/x" } }
    (d.dispatch {} request).response.status = .notFound := rfl

end Wayfinder
