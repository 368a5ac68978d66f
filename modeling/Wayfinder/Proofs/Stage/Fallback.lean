import Wayfinder.Proofs.Stage.Actors
import Wayfinder.Proofs.Stage.Assembly
import Wayfinder.Proofs.Stage.Lines
import Wayfinder.Proofs.Stage.Recovery
/-!
# Answers without a route

Before the chain of a request without a route is run, a status is proposed for it, and for the
wrong method the line with the methods that would do. The built-in stages leave both alone, so they
are answered unless the fallback or a stage of its own asks for something else.
-/

namespace Wayfinder

open Context (Exchange World Writer)
open Http (HeaderValue IsPrintable Request Status Verb)

namespace Context.Writer

variable (w : Writer)

def content : Status × Bytes := (w.status, w.body)

end Context.Writer

namespace Stage

/-- What an effect adds to the body, where there are these files. -/
def Effect.written (files : Files) : Effect → Bytes
  | .write _ bytes => bytes
  | .sendFile path => (files.read path).toOption.getD []
  | _ => []

section Content

variable {files : Files} {committed : Bool} {x : Exchange}

end Content

theorem Effect.commits_of_resets {files : Files} {e : Effect} (h : e.resets files = true) :
    e.commits files = true := by
  cases e with
  | fail s message => rfl
  | sendFile path => exact h
  | _ => cases h

theorem Unanswered.getAll_applyAll {files : Files} {committed : Bool} {x : Exchange}
    (h : Unanswered files committed x) {effects : List Effect}
    (hquiet : ∀ e ∈ effects, e.commits files = false) {name : Http.HeaderName}
    (hwrites : ∀ e ∈ effects, e.writes name = false) :
    (Effect.applyAll effects x).writer.headers.getAll name = x.writer.headers.getAll name := by
  have hresets : effects.any (·.resets files) = false := by
    rw [List.any_eq_false]
    intro e he hresets
    have hcommits := Effect.commits_of_resets hresets
    rw [hquiet e he] at hcommits
    cases hcommits
  rw [Effect.getAll_applyAll hwrites h.files_eq, hresets, if_neg Bool.false_ne_true]

end Stage

open Stage (Reaches)

namespace Table

variable (t : Table) (x : Exchange)

end Table

end Wayfinder
