import Mathlib.Data.List.DropRight
import Wayfinder.Proofs.Http.Fields
import Wayfinder.Proofs.Stage.Recovery
/-!
# Responses built by calls

A handler builds its response by calls: some set the status or a header line, the others write to
the body and suggest a content type for it. A file that cannot be read drops lines and body, so the
response can be told from the calls behind the last such file, apart from its status.
-/

namespace Wayfinder

open Http (HeaderName HeaderValue Headers IsPrintable Status)

namespace Http

theorem isPrintable_text : IsPrintable ContentType.text := by decide

theorem isPrintable_ofPath (path : String) : IsPrintable (ContentType.ofPath path) := by
  have hextension (extension : String) : IsPrintable (ContentType.ofExtension extension) := by
    unfold ContentType.ofExtension
    split <;> decide
  unfold ContentType.ofPath
  split
  · exact hextension _
  · decide

end Http

namespace Stage

open Context (Exchange Writer)

/-- A call by which a handler builds its response. -/
inductive Call
  | status (code : Nat)
  | header (name value : String)
  | string (s : String)
  | html (s : String)
  | json (v : Json.Value)
  | bytes (bs : Bytes)
  | file (path : String)

namespace Call

def program : Call → Program
  | status code => .effect (.setStatus code)
  | header name value => .effect (.setHeader name value)
  | string s => .writeText s
  | html s => .writeHtml s
  | json v => .writeJson v
  | bytes bs => .writeBytes bs
  | file path => .effect (.sendFile path)

/-- The one effect of a call. -/
def effect : Call → Effect
  | status code => .setStatus code
  | header name value => .setHeader name value
  | string s => .write (some Http.ContentType.text) (Text.encode s)
  | html s => .write (some Http.ContentType.html) (Text.encode s)
  | json v => .write (some Http.ContentType.json) (Text.encode v.print)
  | bytes bs => .write none bs
  | file path => .sendFile path

theorem program_eq (c : Call) : c.program = .effect c.effect := by
  cases c <;> rfl

/-- The value that a call sets for a name. A name or a value that is none is ignored. -/
def value? (name : HeaderName) : Call → Option String
  | header n v =>
    if HeaderName.ofString? n = some name ∧ (HeaderValue.ofString? v).isSome then some v else none
  | _ => none

section Files

variable (files : Files)

/-- The status that a call for a file makes of a response if the file cannot be read. -/
def failure? : Call → Option Status
  | file path =>
    match files.read path with
    | .ok _ => none
    | .error .notFound => some .notFound
    | .error .unreadable => some .internalServerError
  | _ => none

/-- The status that a call commits. -/
def status? : Call → Option Status
  | status code => Status.ofCode? code
  | c => c.failure? files

/-- What a call that does not fail adds to the body. -/
def written : Call → Bytes
  | string s | html s => Text.encode s
  | json v => Text.encode v.print
  | bytes bs => bs
  | file path => (files.read path).toOption.getD []
  | _ => []

/-- The content type that a call suggests for what it writes. -/
def suggested? : Call → Option String
  | string _ => some Http.ContentType.text
  | html _ => some Http.ContentType.html
  | json _ => some Http.ContentType.json
  | file path => (files.read path).toOption.map fun _ => Http.ContentType.ofPath path
  | _ => none

/-- What the last call yields that yields something. -/
def last? {α : Type} (f : Call → Option α) (calls : List Call) : Option α :=
  (calls.filterMap f).getLast?

/-- The calls behind the last one that fails. -/
def recent (calls : List Call) : List Call := calls.rtakeWhile fun c => (c.failure? files).isNone

/-- The content type that calls leave: the last one that is set behind the last failure, or else
plain text if there was a failure, or else the first one that is suggested. -/
def type? (calls : List Call) : Option String :=
  (last? (value? .contentType) (recent files calls)).or
    (if (last? (failure? files) calls).isSome then some Http.ContentType.text
    else (recent files calls).findSome? (suggested? files))

end Files

@[simp] theorem last?_nil {α : Type} (f : Call → Option α) : last? f [] = none := rfl

theorem last?_concat {α : Type} (f : Call → Option α) (calls : List Call) (c : Call) :
    last? f (calls ++ [c]) = (f c).or (last? f calls) := by
  cases hc : f c <;> simp [last?, List.filterMap_append, hc]

variable {files : Files}

theorem recent_concat_of_failure (calls : List Call) {c : Call} {s : Status}
    (h : c.failure? files = some s) : recent files (calls ++ [c]) = [] := by
  simp [recent, h]

theorem recent_concat_of_success (calls : List Call) {c : Call} (h : c.failure? files = none) :
    recent files (calls ++ [c]) = recent files calls ++ [c] := by
  simp [recent, h]

theorem isPrintable_suggested {c : Call} {type : String} (h : c.suggested? files = some type) :
    IsPrintable type := by
  cases c with
  | file path =>
    obtain ⟨bytes, -, rfl⟩ := Option.map_eq_some_iff.1 h
    exact Http.isPrintable_ofPath path
  | string s | html s | json v =>
    cases h
    decide
  | _ => cases h

/-! ## One call -/

theorem exists_reason_of_failure {c : Call} {s : Status} (h : c.failure? files = some s) :
    ∃ phrase, s.reason? = some phrase := by
  cases c with
  | file path =>
    simp only [failure?] at h
    split at h <;> cases h <;> exact ⟨_, rfl⟩
  | _ => cases h

theorem status?_of_failure {c : Call} {s : Status} (h : c.failure? files = some s) :
    c.status? files = some s := by
  cases c with
  | status code => cases h
  | _ => exact h

theorem writer_apply_of_failure {c : Call} {x : Exchange} {s : Status}
    (hfiles : x.world.files = files) (hopen : x.writer.isFlushed = false)
    (h : c.failure? files = some s) :
    (c.effect.apply x).writer =
      { x.writer.reset s (s.reason?.getD "Error") with isCommitted := true } := by
  have hfail (message : String) :
      x.writer.fail s message = { x.writer.reset s message with isCommitted := true } :=
    (x.writer.reset s message).setStatus_of_open hopen s
  cases c with
  | file path =>
    rw [← hfail]
    simp only [failure?] at h
    split at h <;> cases h <;>
      simp [effect, Effect.apply, Exchange.sendFile, Exchange.modifyWriter, *]
  | _ => cases h

/-- The line that a call sets. -/
def line? : Call → Option Http.Header
  | header n v =>
    match HeaderName.ofString? n, HeaderValue.ofString? v with
    | some name, some value => some (name, value)
    | _, _ => none
  | _ => none

/-- The header lines that a call that does not fail makes of others. -/
def lines (files : Files) (c : Call) (hs : Headers) : Headers :=
  match c.line?, c.suggested? files with
  | some line, _ => hs.insert line.1 line.2
  | none, some type => if hs.contains .contentType then hs else hs.insert .contentType (.ofText type)
  | none, none => hs

theorem writer_addLine {x : Exchange} (hopen : x.writer.isFlushed = false) (n v : String) :
    (x.addLine .insertLine n v).writer =
      { x.writer with headers := (header n v).lines files x.writer.headers } := by
  rw [Exchange.addLine, hopen, if_neg Bool.false_ne_true]
  simp only [Writer.readLine, lines, line?]
  cases HeaderName.ofString? n with
  | none => rfl
  | some name =>
    cases HeaderValue.ofString? v with
    | none => rfl
    | some value => exact if_neg (by simp [hopen])

theorem writer_write {x : Exchange} (hopen : x.writer.isFlushed = false) (type : Option String)
    (bytes : Bytes) : (x.write type bytes).writer =
      { x.writer with
        headers := match type with
          | some type =>
            if x.writer.headers.contains .contentType then x.writer.headers
            else x.writer.headers.insert .contentType (.ofText type)
          | none => x.writer.headers
        body := x.writer.body ++ bytes } := by
  cases type with
  | none => exact if_neg (by simp [hopen])
  | some type =>
    simp only [Exchange.write, Exchange.modifyWriter, Writer.proposeType]
    split <;> exact if_neg (by simp [hopen])

/-- What a call that does not fail does to a writer that is not flushed. -/
theorem writer_apply_of_success {c : Call} {x : Exchange} (hfiles : x.world.files = files)
    (hopen : x.writer.isFlushed = false) (h : c.failure? files = none) :
    (c.effect.apply x).writer =
      { x.writer with
        status := (c.status? files).getD x.writer.status
        isCommitted := (c.status? files).isSome || x.writer.isCommitted
        headers := c.lines files x.writer.headers
        body := x.writer.body ++ c.written files } := by
  cases c with
  | status code =>
    simp only [effect, Effect.apply, Exchange.setStatus, status?, written, List.append_nil]
    cases Status.ofCode? code with
    | none => rfl
    | some s => exact x.writer.setStatus_of_open hopen s
  | header name value =>
    simp only [written, List.append_nil]
    exact writer_addLine hopen name value
  | file path =>
    cases hread : files.read path with
    | error fault => cases fault <;> simp [failure?, hread] at h
    | ok bytes =>
      simp [effect, Effect.apply, Exchange.sendFile, hfiles, hread, writer_write hopen, status?,
        failure?, written, lines, line?, suggested?, Except.toOption]
  | _ =>
    simp [effect, Effect.apply, writer_write hopen, status?, failure?, written, lines, line?,
      suggested?]

section Lines

variable {c : Call} {name : HeaderName}

theorem line?_of_value? {v : String} (h : c.value? name = some v) :
    ∃ value, c.line? = some (name, value) ∧ value.bytes = Text.encode v := by
  cases c with
  | header n v' =>
    simp only [value?, Option.ite_none_right_eq_some, Option.some.injEq] at h
    obtain ⟨⟨hname, hvalue⟩, rfl⟩ := h
    obtain ⟨value, hvalue⟩ := Option.isSome_iff_exists.1 hvalue
    exact ⟨value, by simp [line?, hname, hvalue], HeaderValue.bytes_of_ofString? hvalue⟩
  | _ => cases h

theorem ne_of_line? (h : c.value? name = none) {line : Http.Header} (hline : c.line? = some line) :
    name ≠ line.1 := by
  rintro rfl
  cases c with
  | header n v =>
    simp only [line?] at hline
    split at hline
    · next hname hvalue =>
      cases hline
      simp [value?, hname, hvalue] at h
    · cases hline
  | _ => cases hline

theorem suggested?_of_line? {line : Http.Header} (hline : c.line? = some line) :
    c.suggested? files = none := by
  cases c with
  | header n v => rfl
  | _ => cases hline

variable (hs : Headers)

theorem values_lines_of_value {v : String} (h : c.value? name = some v) :
    (c.lines files hs).values name = [Text.encode v] := by
  obtain ⟨value, hline, hbytes⟩ := line?_of_value? h
  rw [lines, hline, Headers.values_insert_same, hbytes]

/-- A call that sets no value of a name other than the content type leaves its values alone. -/
theorem values_lines_of_ne (hne : name ≠ .contentType) (h : c.value? name = none) :
    (c.lines files hs).values name = hs.values name := by
  unfold lines
  split
  · next hline => exact hs.values_insert_of_ne _ (ne_of_line? h hline)
  · split
    · rfl
    · exact hs.values_insert_of_ne _ hne
  · rfl

/-- A call that sets no content type suggests one at most. -/
theorem values_lines_contentType (h : c.value? .contentType = none) {type : Option String}
    (htype : hs.values .contentType = type.toList.map Text.encode) :
    (c.lines files hs).values .contentType =
      (type.or (c.suggested? files)).toList.map Text.encode := by
  unfold lines
  split
  · next hline =>
    rw [hs.values_insert_of_ne _ (ne_of_line? h hline), htype, suggested?_of_line? hline,
      Option.or_none]
  · next hsuggested =>
    rw [hs.contains_eq, htype, hsuggested]
    cases type with
    | none => simp [HeaderValue.bytes_ofText (isPrintable_suggested hsuggested)]
    | some type => simp [htype]
  · next hsuggested => rw [hsuggested, Option.or_none, htype]

end Lines

/-! ## All calls -/

/-- What calls leave of a writer that began with a proposed status and some header lines. -/
structure Leaves (files : Files) (d : Status) (initial : Headers) (calls : List Call) (w : Writer) :
    Prop where
  isFlushed : w.isFlushed = false
  /-- The reason of the last failure, and what was written behind it. -/
  body : w.body = ((last? (failure? files) calls).bind Status.reason?).elim [] Text.encode ++
    (recent files calls).flatMap (written files)
  status : w.status = (last? (status? files) calls).getD d
  isCommitted : w.isCommitted = (last? (status? files) calls).isSome
  type : w.headers.values .contentType = (type? files calls).toList.map Text.encode
  /-- Other lines are those that were set behind the last failure. -/
  lines : ∀ name ≠ .contentType, w.headers.values name =
    match last? (value? name) (recent files calls) with
    | some v => [Text.encode v]
    | none => if (last? (failure? files) calls).isSome then [] else initial.values name

namespace Leaves

variable {d : Status} {initial : Headers} {calls : List Call}

theorem nil (htype : initial.values .contentType = []) :
    Leaves files d initial [] { status := d, headers := initial } where
  isFlushed := rfl
  body := rfl
  status := rfl
  isCommitted := rfl
  type := htype
  lines _ _ := rfl

variable {c : Call} {x : Exchange} (h : Leaves files d initial calls x.writer)
  (hfiles : x.world.files = files)

include h hfiles

theorem step_of_failure {s : Status} (hfailure : c.failure? files = some s) :
    Leaves files d initial (calls ++ [c]) (c.effect.apply x).writer := by
  obtain ⟨phrase, hphrase⟩ := exists_reason_of_failure hfailure
  have hrecent := recent_concat_of_failure calls hfailure
  rw [writer_apply_of_failure hfiles h.isFlushed hfailure, hphrase, Option.getD_some]
  constructor
  case isFlushed => exact h.isFlushed
  case body => simp [last?_concat, hfailure, hphrase, hrecent, Writer.reset]
  case status => simp [last?_concat, status?_of_failure hfailure, Writer.reset]
  case isCommitted => simp [last?_concat, status?_of_failure hfailure]
  case type =>
    have hbytes := HeaderValue.bytes_ofText Http.isPrintable_text
    simp [type?, last?_concat, hfailure, hrecent, Writer.reset, hbytes]
  case lines =>
    intro name hne
    rw [hrecent, last?_concat, hfailure, Writer.reset, Headers.values_insert_of_ne _ _ hne]
    rfl

theorem step_of_success (hsuccess : c.failure? files = none) :
    Leaves files d initial (calls ++ [c]) (c.effect.apply x).writer := by
  rw [writer_apply_of_success hfiles h.isFlushed hsuccess]
  constructor
  case isFlushed => exact h.isFlushed
  case body =>
    simp [h.body, last?_concat, hsuccess, recent_concat_of_success calls hsuccess]
  case status =>
    cases hstatus : c.status? files <;> simp [h.status, last?_concat, hstatus]
  case isCommitted =>
    cases hstatus : c.status? files <;> simp [h.isCommitted, last?_concat, hstatus]
  case type =>
    rw [type?, recent_concat_of_success calls hsuccess, last?_concat, last?_concat, hsuccess,
      Option.none_or, List.findSome?_append]
    cases hvalue : c.value? .contentType with
    | some v => exact values_lines_of_value _ hvalue
    | none =>
      rw [values_lines_contentType _ hvalue h.type, type?, Option.none_or, Option.or_assoc]
      -- behind a failure there is a type already
      cases (last? (failure? files) calls).isSome <;> simp
  case lines =>
    intro name hne
    rw [recent_concat_of_success calls hsuccess, last?_concat, last?_concat, hsuccess, Option.none_or]
    cases hvalue : c.value? name with
    | some v => exact values_lines_of_value _ hvalue
    | none =>
      rw [Option.none_or, ← h.lines name hne]
      exact values_lines_of_ne _ hne hvalue

theorem step (c : Call) : Leaves files d initial (calls ++ [c]) (c.effect.apply x).writer := by
  cases hfailure : c.failure? files with
  | some s => exact h.step_of_failure hfiles hfailure
  | none => exact h.step_of_success hfiles hfailure

end Leaves

theorem responds_apply (c : Call) (x : Exchange) : x.Responds (c.effect.apply x) := by
  cases c with
  | status code => exact x.responds_setStatus code
  | header name value => exact x.responds_addLine _ name value
  | file path => exact x.responds_sendFile path
  | _ => exact ⟨_, _, rfl⟩

theorem responds_applyAll (calls : List Call) (x : Exchange) :
    x.Responds (Effect.applyAll (calls.map effect) x) := by
  induction calls generalizing x with
  | nil => exact ⟨_, _, rfl⟩
  | cons c calls ih => exact (responds_apply c x).trans (ih _)

theorem leaves_applyAll {d : Status} {initial : Headers} (calls : List Call) {x : Exchange}
    (hwriter : x.writer = { status := d, headers := initial })
    (htype : initial.values .contentType = []) :
    Leaves x.world.files d initial calls (Effect.applyAll (calls.map effect) x).writer := by
  induction calls using List.reverseRecOn with
  | nil =>
    rw [List.map_nil, Effect.applyAll_nil, hwriter]
    exact .nil htype
  | append_singleton calls c ih =>
    rw [List.map_append, Effect.applyAll_append]
    exact ih.step (congrArg (·.files) (responds_applyAll calls x).world_eq) c

theorem run_sequence (calls : List Call) (x : Exchange) :
    (Program.sequence (calls.map program)).runAlone x =
      .returned (Effect.applyAll (calls.map effect) x) := by
  induction calls generalizing x with
  | nil => rfl
  | cons c calls ih =>
    have hfirst : c.program.run .returned x = .returned (c.effect.apply x) := by
      rw [program_eq]
      rfl
    calc (Program.sequence ((c :: calls).map program)).runAlone x
        = (c.program.run .returned x).bind (Program.sequence (calls.map program)).runAlone :=
          Program.run_andThen .returned c.program _ x
      _ = .returned (Effect.applyAll (calls.map effect) (c.effect.apply x)) := by
          rw [hfirst, Outcome.bind_returned, ih]

end Call

/-- A handler that builds its response by calls, in an exchange for which a status was proposed,
returns, and the response can be told from the calls. -/
theorem response_of_calls (calls : List Call) {x : Exchange} {d : Status} {initial : Headers}
    (hwriter : x.writer = { status := d, headers := initial })
    (htype : initial.values .contentType = []) :
    ∃ y, (Program.sequence (calls.map Call.program)).runAlone x = .returned y ∧ x.Responds y ∧
      Call.Leaves x.world.files d initial calls y.writer :=
  ⟨_, Call.run_sequence calls x, Call.responds_applyAll calls x,
    Call.leaves_applyAll calls hwriter htype⟩

/-- A missing file between calls, where the wrong method was asked for. -/
theorem response_of_calls_around_missing_file :
    let initial : Headers := ⟨[(.allow, .ofText "GET")]⟩
    let request : Http.Request := { method := Http.Verb.post.toMethod, uri := { path := "/x" } }
    let files : Files := ⟨[("a.css", [0x68, 0x69])]⟩
    let x : Exchange :=
      { Exchange.start { files } ⟨0, []⟩ request with
        writer := { status := .methodNotAllowed, headers := initial } }
    let calls : List Call :=
      [.status 201, .header "X-A" "1", .html "<p>", .file "none", .header "X-B" "2", .file "a.css",
        .status 1000]
    initial.values .contentType = [] ∧
    ∃ y, (Program.sequence (calls.map Call.program)).runAlone x = .returned y ∧
      y.writer.status = .notFound ∧ y.writer.isCommitted = true ∧
      y.writer.body = Text.encode "Not Foundhi" ∧
      y.writer.headers.values .contentType = [Text.encode "text/plain; charset=utf-8"] ∧
      y.writer.headers.values .allow = [] := by
  intro initial request files x calls
  have htype : initial.values .contentType = [] := by decide
  obtain ⟨y, hrun, -, hleaves⟩ := response_of_calls calls (x := x) rfl htype
  have hbody : y.writer.body = Text.encode "Not Foundhi" := by
    rw [hleaves.body]
    decide
  refine ⟨htype, y, hrun, ?_, ?_, hbody, ?_, ?_⟩
  · rw [hleaves.status]
    decide
  · rw [hleaves.isCommitted]
    decide
  · rw [hleaves.type]
    decide
  · rw [hleaves.lines .allow (by decide)]
    decide

end Stage

end Wayfinder
