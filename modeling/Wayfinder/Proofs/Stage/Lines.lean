import Wayfinder.Proofs.Http.Fields
import Wayfinder.Proofs.Stage.Effects
/-!
# Header lines in runs

Which lines of a name a response carries at the end of a run can be told from the effects of the
run: those that write or remove lines of this name, and those that drop all lines in favour of an
error.
-/

namespace Wayfinder

namespace Context.Writer

open Http (Header HeaderName Headers)

variable (w : Writer) {name : HeaderName}

theorem getAll_insertLine_of_ne {line : Header} (hne : line.1 ≠ name) :
    (w.insertLine line).headers.getAll name = w.headers.getAll name := by
  unfold insertLine
  split
  · rfl
  · exact w.headers.getAll_insert_of_ne line.2 hne.symm

theorem getAll_appendLine_of_ne {line : Header} (hne : line.1 ≠ name) :
    (w.appendLine line).headers.getAll name = w.headers.getAll name := by
  unfold appendLine
  split
  · rfl
  · exact w.headers.getAll_append_of_ne line.2 hne.symm

theorem getAll_proposeType_of_ne (hne : name ≠ .contentType) (type : String) :
    (w.proposeType type).headers.getAll name = w.headers.getAll name := by
  unfold proposeType
  split
  · rfl
  · exact w.headers.getAll_insert_of_ne _ hne

@[simp] theorem headers_write (bytes : Bytes) : (w.write bytes).headers = w.headers := by
  unfold write
  split <;> rfl

@[simp] theorem headers_setStatus (s : Http.Status) : (w.setStatus s).headers = w.headers := by
  unfold setStatus
  split <;> rfl

theorem getAll_reset_of_ne (hne : name ≠ .contentType) (s : Http.Status) (message : String) :
    (w.reset s message).headers.getAll name = [] := by
  rw [reset, Headers.getAll_insert_of_ne _ _ hne]
  rfl

theorem getAll_fail_of_ne (hne : name ≠ .contentType) (s : Http.Status) (message : String) :
    (w.fail s message).headers.getAll name = [] := by
  rw [fail, headers_setStatus, w.getAll_reset_of_ne hne]

end Context.Writer

namespace Stage

open Context (Exchange Writer)
open Http (Header HeaderName)

namespace Effect

/-- Whether an effect may write a line of a name or remove one. The content type comes with texts,
files and failures. -/
def writes (name : HeaderName) : Effect → Bool
  | setHeader n v | appendHeader n v =>
    (Writer.readLine n v).toOption.any fun line => line.1 = name
  | appendLine line => line.1 = name
  | removeLines n => n = name
  | proposeType _ | write _ _ | fail _ _ | sendFile _ => name = .contentType
  | _ => false

/-- Whether an effect drops the lines that were written, where there are these files. -/
def resets (files : Files) : Effect → Bool
  | fail _ _ => true
  | sendFile path => !(files.read path).isOk
  | _ => false

theorem files_apply (e : Effect) (x : Exchange) : (e.apply x).world.files = x.world.files := by
  cases e with
  | setStatus code => rw [apply, (x.responds_setStatus code).world_eq]
  | setHeader name value => rw [apply, (x.responds_addLine _ name value).world_eq]
  | appendHeader name value => rw [apply, (x.responds_addLine _ name value).world_eq]
  | sendFile path => rw [apply, (x.responds_sendFile path).world_eq]
  | _ => rfl

variable {name : HeaderName}

theorem getAll_addLine {x : Exchange} {f : Writer → Header → Writer}
    (hf : ∀ w line, line.1 ≠ name → (f w line).headers.getAll name = w.headers.getAll name)
    {n v : String} (hline : ((Writer.readLine n v).toOption.any fun line => line.1 = name) = false) :
    (x.addLine f n v).writer.headers.getAll name = x.writer.headers.getAll name := by
  unfold Exchange.addLine
  split
  · rfl
  · cases hread : Writer.readLine n v with
    | error warning => rfl
    | ok line =>
      have hne : line.1 ≠ name := by simpa [hread, Except.toOption] using hline
      exact hf x.writer line hne

theorem getAll_write {x : Exchange} (hne : name ≠ .contentType) (type : Option String)
    (bytes : Bytes) :
    (x.write type bytes).writer.headers.getAll name = x.writer.headers.getAll name := by
  cases type with
  | none => simp [Exchange.write, Exchange.modifyWriter]
  | some type =>
    simp [Exchange.write, Exchange.modifyWriter, x.writer.getAll_proposeType_of_ne hne]

/-- An effect that neither writes nor removes lines of a name leaves those that there are, unless it
drops all lines. -/
theorem getAll_apply {e : Effect} (hwrites : e.writes name = false) {files : Files} {x : Exchange}
    (hfiles : x.world.files = files) : (e.apply x).writer.headers.getAll name =
      if e.resets files then [] else x.writer.headers.getAll name := by
  cases e with
  | setHeader n v => exact getAll_addLine (fun w _ => w.getAll_insertLine_of_ne) hwrites
  | appendHeader n v => exact getAll_addLine (fun w _ => w.getAll_appendLine_of_ne) hwrites
  | appendLine line =>
    have hne : line.1 ≠ name := by simpa [writes] using hwrites
    exact x.writer.headers.getAll_append_of_ne line.2 hne.symm
  | removeLines n =>
    have hne : n ≠ name := by simpa [writes] using hwrites
    exact x.writer.headers.getAll_remove_of_ne hne.symm
  | proposeType type =>
    have hne : name ≠ .contentType := by simpa [writes] using hwrites
    exact x.writer.getAll_proposeType_of_ne hne type
  | write type bytes =>
    have hne : name ≠ .contentType := by simpa [writes] using hwrites
    exact getAll_write hne type bytes
  | fail s message =>
    have hne : name ≠ .contentType := by simpa [writes] using hwrites
    exact x.writer.getAll_fail_of_ne hne s message
  | sendFile path =>
    have hne : name ≠ .contentType := by simpa [writes] using hwrites
    rw [apply, Exchange.sendFile, hfiles, resets]
    cases files.read path with
    | ok bytes => exact getAll_write hne _ bytes
    | error fault => cases fault <;> exact x.writer.getAll_fail_of_ne hne _ _
  | setStatus code =>
    simp only [apply, Exchange.setStatus, resets]
    split <;> simp [Exchange.modifyWriter, Exchange.logMessage, Exchange.emit]
  | _ => rfl

theorem getAll_applyAll {effects : List Effect} (hwrites : ∀ e ∈ effects, e.writes name = false)
    {files : Files} {x : Exchange} (hfiles : x.world.files = files) :
    (applyAll effects x).writer.headers.getAll name =
      if effects.any (·.resets files) then [] else x.writer.headers.getAll name := by
  induction effects generalizing x with
  | nil => rfl
  | cons e effects ih =>
    obtain ⟨he, heffects⟩ := List.forall_mem_cons.1 hwrites
    rw [applyAll_cons, ih heffects ((e.files_apply x).trans hfiles), getAll_apply he hfiles,
      List.any_cons]
    cases e.resets files <;> simp

end Effect

end Stage

end Wayfinder
