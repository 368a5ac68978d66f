import Wayfinder.Proofs.RequestId
import Wayfinder.Proofs.Stage.Assembly
import Wayfinder.Proofs.Stage.Lines
import Wayfinder.Proofs.Stage.Recovery
/-!
# The id on the response

Where the stage of request ids is the outermost one, its line is written before anything else
happens. Nothing takes the line away but what drops all lines in favour of an error.
-/

namespace Wayfinder

open Context (Exchange Token World Writer)
open Http (HeaderValue IsPrintable Request)

namespace RequestId

theorem isPrintable_toText (id : RequestId) : IsPrintable id.toText := by
  intro c hc
  have hdigits : c ∈ digits 26 id.value.toNat := by simpa [toText] using hc
  obtain ⟨m, rfl⟩ := mem_digits hdigits
  have hall : ∀ i < 32, 0x20 ≤ (alphabet.getD i '0').toNat ∧ (alphabet.getD i '0').toNat ≤ 0x7e := by
    decide
  exact hall (m % 32) (Nat.mod_lt m (by decide))

theorem ofHeadersOr_of_parse {fresh id : RequestId} {headers : Http.Headers} {s : String}
    (hline : headers.text? .requestId = some s) (hid : parse (Text.trim s) = .ok id) :
    ofHeadersOr fresh headers = id := by
  simp only [ofHeadersOr, ofHeaderOr, hline, hid]

end RequestId

namespace Stage

/-- The exchange with which the stage of request ids goes on. -/
def identified (x : Exchange) : Exchange :=
  Exchange.addLine
    { x with
      values := x.values.insert "request_id" (.requestId x.id)
      logger := x.logger.withField "request_id" x.id.toText }
    .insertLine "x-request-id" x.id.toText

theorem meaning_requestId (handler : Program) (rest : List Stage) (x : Exchange) :
    meaning handler (.requestId :: rest) x = meaning handler rest (identified x) := by
  have hrun : meaning handler (.requestId :: rest) x =
      (meaning handler rest (identified x)).bind .returned := rfl
  rw [hrun]
  cases meaning handler rest (identified x) <;> rfl

theorem readLine_requestId (id : RequestId) :
    Writer.readLine "x-request-id" id.toText = .ok (.requestId, .ofText id.toText) := by
  have hname : Http.HeaderName.ofString? "x-request-id" = some .requestId := by decide
  simp only [Writer.readLine, hname, HeaderValue.ofString?_of_isPrintable id.isPrintable_toText]

theorem getAll_identified {x : Exchange} (h : x.writer.isFlushed = false) :
    (identified x).writer.headers.getAll .requestId = [.ofText x.id.toText] := by
  simp [identified, Exchange.addLine, h, readLine_requestId, Exchange.modifyWriter,
    Writer.insertLine]

theorem Unanswered.identified {files : Files} {committed : Bool} {x : Exchange}
    (h : Unanswered files committed x) : Unanswered files committed (identified x) := by
  have hx : Unanswered files committed
      { x with
        values := x.values.insert "request_id" (.requestId x.id)
        logger := x.logger.withField "request_id" x.id.toText } := ⟨h.flags_eq, h.files_eq⟩
  exact hx.addLine Writer.flags_insertLine "x-request-id" x.id.toText

end Stage

theorem Table.exists_stages_resolve {t : Table} {s : Stage} {others : List Stage}
    (h : t.registry.globals = s :: others) (x : Exchange) :
    ∃ rest, (t.resolve x).stages = s :: rest := by
  have hplaced := t.map_placementsFor x.request.method x.request.path
  have hstages : (t.resolve x).stages =
      ((t.placementsFor x.request.method x.request.path).map fun s => (s.scope, s.stage)).map
        Prod.snd := by
    rw [t.stages_resolve, List.map_map]
    rfl
  rw [hstages, hplaced, h]
  exact ⟨_, rfl⟩

theorem Table.id_resolve (t : Table) (x : Exchange) : (t.resolve x).exchange.id = x.id := by
  simp only [resolve]
  split <;> rfl

/-- Where the stage of request ids is the first one for all requests and nothing inside it writes or
removes lines of that name, an answer carries one such line, with the id of the exchange, unless an error
has dropped the lines that were written: a file that cannot be read, a value that cannot be
written, a deadline, or a panic before any status is committed. Then it carries none. -/
theorem Dispatcher.dispatch_carries_id (d : Dispatcher) (world : World) (request : Request)
    {others : List Stage} (hglobals : d.table.registry.globals = .requestId :: others)
    (hinside : let r := d.table.resolve (Exchange.start world d.shutdown request)
      ∀ e ∈ Stage.chainEffects r.handler r.stages.tail (Stage.identified r.exchange),
        e.writes .requestId = false) :
    let r := d.table.resolve (Exchange.start world d.shutdown request)
    let inside := Stage.chainEffects r.handler r.stages.tail (Stage.identified r.exchange)
    let answer := (d.dispatch world request).response
    let kept := inside.any (·.resets world.files) = false ∧
      ∀ cause x, d.run world request = .panicked cause x →
        inside.any (·.commits world.files) = true
    (kept → ∃ value, answer.headers.getAll .requestId = [value] ∧
      value.text? = some r.exchange.id.toText) ∧
    (¬ kept → answer.headers.getAll .requestId = []) ∧
    ∀ s id, request.headers.text? .requestId = some s →
      RequestId.parse (Text.trim s) = .ok id → r.exchange.id = id := by
  intro r inside answer kept
  obtain ⟨rest, hstages⟩ := Table.exists_stages_resolve hglobals
    (Exchange.start world d.shutdown request)
  let x := Stage.Effect.applyAll inside (Stage.identified r.exchange)
  have hstart : Stage.Unanswered world.files false r.exchange :=
    unanswered_resolve d.table world d.shutdown request
  have hopen : Stage.Unanswered world.files (inside.any (·.commits world.files)) x := by
    simpa using hstart.identified.applyAll inside
  have hx : (d.run world request).exchange = x := by
    calc (d.run world request).exchange
      _ = (Stage.meaning r.handler (.requestId :: rest) r.exchange).exchange := by
        rw [run, Stage.runChain_eq_meaning, hstages]
      _ = x := by
        rw [Stage.meaning_requestId, Stage.exchange_meaning]
        simp only [x, inside, r, hstages, List.tail_cons]
  have hlines : x.writer.headers.getAll .requestId =
      if inside.any (·.resets world.files) then [] else [.ofText r.exchange.id.toText] := by
    rw [Stage.Effect.getAll_applyAll hinside hstart.identified.files_eq,
      Stage.getAll_identified hstart.isFlushed]
  refine ⟨fun hkept => ?_, fun hlost => ?_, fun s id hline hid => ?_⟩
  · refine ⟨.ofText r.exchange.id.toText, ?_,
      HeaderValue.text?_ofText r.exchange.id.isPrintable_toText⟩
    rcases response_cases hx hopen with ⟨-, hanswer⟩ | ⟨cause, hpanic, huncommitted, -⟩
    · rw [show answer.headers = x.writer.headers from congrArg (·.headers) hanswer, hlines, hkept.1]
      rfl
    · exact absurd (hkept.2 cause x hpanic) (by simp [huncommitted])
  · rcases response_cases hx hopen with ⟨hcommits, hanswer⟩ | ⟨cause, -, -, hheaders⟩
    · have hresets : inside.any (·.resets world.files) = true := by
        by_contra hnone
        refine hlost ⟨by simpa using hnone, fun cause y hpanic => ?_⟩
        have hy : y = x := by rw [← hx, hpanic, Stage.Outcome.exchange]
        exact hcommits cause (hy ▸ hpanic)
      rw [show answer.headers = x.writer.headers from congrArg (·.headers) hanswer, hlines, hresets]
      rfl
    · rw [show answer.headers = _ from hheaders, x.writer.getAll_reset_of_ne (by decide)]
  · calc r.exchange.id
      _ = RequestId.ofHeadersOr world.freshId request.headers := d.table.id_resolve _
      _ = id := RequestId.ofHeadersOr_of_parse hline hid

/-- An id in small letters and among blanks is on the answer to a request that is refused and panics
afterwards. -/
theorem Dispatcher.dispatch_carries_id_refused :
    let panics : Stage := .custom "panics" (.next (.panic .other))
    let d : Dispatcher :=
      { table := { registry := { globals := [.requestId, panics, .auth []] } }
        shutdown := ⟨0, []⟩ }
    let request : Request :=
      { method := Http.Verb.get.toMethod
        uri := { path := "/x" }
        headers := ⟨[(.requestId, .ofText " 01arz3ndektsv4rrffq69g5fav ")]⟩ }
    ∃ value, (d.dispatch {} request).response.headers.getAll .requestId = [value] ∧
      value.text? = some "01ARZ3NDEKTSV4RRFFQ69G5FAV" := by
  intro panics d request
  have hglobals : d.table.registry.globals = .requestId :: [panics, .auth []] := rfl
  have hcarries := dispatch_carries_id d {} request hglobals (by decide)
  have hid := hcarries.2.2 " 01arz3ndektsv4rrffq69g5fav "
    ⟨1777027686520646174104517696511196507#128⟩ (by decide) (by decide)
  -- the refusal has committed a status before the panic
  obtain ⟨value, hlines, htext⟩ := hcarries.1 ⟨by decide, fun _ _ _ => by decide⟩
  refine ⟨value, hlines, ?_⟩
  rw [htext, hid]
  decide

/-- A file that is missing takes the line away. -/
theorem Dispatcher.dispatch_drops_id :
    let d : Dispatcher :=
      { table :=
          { registry := { globals := [.requestId] }, notFound := .act (.sendFile "none") .done }
        shutdown := ⟨0, []⟩ }
    let request : Request :=
      { method := Http.Verb.get.toMethod
        uri := { path := "/x" }
        headers := ⟨[(.requestId, .ofText "01ARZ3NDEKTSV4RRFFQ69G5FAV")]⟩ }
    let r := d.table.resolve (Exchange.start {} d.shutdown request)
    r.stages = [.requestId] ∧ (∀ e ∈ Stage.chainEffects r.handler [] (Stage.identified r.exchange),
      e.writes .requestId = false) ∧
    (d.dispatch {} request).response.headers.getAll .requestId = [] := by
  intro d request r
  have hstages : r.stages = [.requestId] := by
    simp only [r, d, request]
    rfl
  exact ⟨hstages, by decide, by decide⟩

end Wayfinder
