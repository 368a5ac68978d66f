import Mathlib.Data.List.TakeDrop
import Mathlib.Data.List.TakeWhile
import Wayfinder.Proofs.Stage.Effects
import Wayfinder.Proofs.Text.Trim
/-!
# Admission

A stage that asks for a known token keeps the others out of what it stands around: nothing inside
runs, and nothing that comes out depends on it. Those that it lets in carry a name.
-/

namespace Wayfinder

open Context (Exchange World)
open Http (Headers Request)

namespace Stage

theorem Effect.headers_apply (e : Effect) (x : Exchange) :
    (e.apply x).request.headers = x.request.headers := by
  cases e with
  | setStatus code => rw [apply, (x.responds_setStatus code).request_eq]
  | setHeader name value => rw [apply, (x.responds_addLine _ name value).request_eq]
  | appendHeader name value => rw [apply, (x.responds_addLine _ name value).request_eq]
  | sendFile path => rw [apply, (x.responds_sendFile path).request_eq]
  | _ => rfl

/-- No effect changes for whom a request is authenticated. -/
theorem kept_authenticate? (tokens : List (String × String)) (answer : Option String) :
    Kept fun x => authenticate? tokens x.request = answer := by
  intro e x hx
  rw [← hx, authenticate?, authenticate?, e.headers_apply x]

/-- The token that the first `Authorization` line of a request names. -/
def Presents (request : Request) (token : String) : Prop :=
  ∃ value scheme rest, request.headers.get? .authorization = some value ∧
    value.text? = some (scheme ++ " " ++ rest) ∧
    Text.sameIgnoringCase scheme "bearer" = true ∧ Text.trim rest = token

/-- The last name that stands with a token. -/
def LastFor (tokens : List (String × String)) (token name : String) : Prop :=
  ∃ before after, tokens = before ++ (token, name) :: after ∧ ∀ e ∈ after, e.1 ≠ token

theorem lookup_reverse_eq_some_iff {tokens : List (String × String)} {token name : String} :
    tokens.reverse.lookup token = some name ↔ LastFor tokens token name := by
  rw [List.lookup_eq_some_iff]
  constructor
  · rintro ⟨front, back, htokens, hfront⟩
    refine ⟨back.reverse, front.reverse, ?_, ?_⟩
    · simpa using congrArg List.reverse htokens
    · intro e he
      exact (bne_iff_ne.1 (hfront e (List.mem_reverse.1 he))).symm
  · rintro ⟨before, after, rfl, hafter⟩
    refine ⟨after.reverse, before.reverse, by simp, ?_⟩
    intro e he
    exact bne_iff_ne.2 (hafter e (List.mem_reverse.1 he)).symm

theorem exists_lastFor_iff {tokens : List (String × String)} {token : String} :
    (∃ name, LastFor tokens token name) ↔ token ∈ tokens.map Prod.fst := by
  calc (∃ name, LastFor tokens token name)
    _ ↔ (tokens.reverse.lookup token).isSome = true := by
      simp only [Option.isSome_iff_exists, lookup_reverse_eq_some_iff]
    _ ↔ token ∈ tokens.map Prod.fst := by
      rw [List.lookup_isSome_iff, List.mem_map]
      simp only [List.mem_reverse, beq_iff_eq, eq_comm (a := token)]

theorem blank_notMem_of_bearer {scheme : String}
    (h : Text.sameIgnoringCase scheme "bearer" = true) : ' ' ∉ scheme.toList := by
  intro hblank
  have hlower : scheme.toList.map Char.toLower = "bearer".toList.map Char.toLower := by
    simpa only [Text.asciiLower, String.toList_ofList] using
      congrArg String.toList (eq_of_beq h)
  have hmem : Char.toLower ' ' ∈ "bearer".toList.map Char.toLower :=
    hlower ▸ List.mem_map_of_mem hblank
  exact absurd hmem (by decide)

theorem authenticate?_eq_some_iff {tokens : List (String × String)} {request : Request}
    {name : String} : authenticate? tokens request = some name ↔
      ∃ token, Presents request token ∧ LastFor tokens token name := by
  constructor
  · intro h
    simp only [authenticate?, Headers.text?, Option.bind_eq_bind, Option.bind_eq_some_iff] at h
    obtain ⟨line, ⟨value, hvalue, hline⟩, ⟨scheme, rest⟩, hcut, h⟩ := h
    split at h
    · next hscheme =>
      have hparts : line = scheme ++ " " ++ rest := by
        apply String.toList_inj.1
        simpa using (Text.cutAt_eq_some_iff.1 hcut).2
      exact ⟨Text.trim rest, ⟨value, scheme, rest, hvalue, hparts ▸ hline, hscheme, rfl⟩,
        lookup_reverse_eq_some_iff.1 h⟩
    · cases h
  · rintro ⟨token, ⟨value, scheme, rest, hvalue, hline, hscheme, rfl⟩, hlast⟩
    have hcut : Text.cutAt ' ' (scheme ++ " " ++ rest) = some (scheme, rest) :=
      Text.cutAt_eq_some_iff.2 ⟨blank_notMem_of_bearer hscheme, by simp⟩
    simp [authenticate?, Headers.text?, hvalue, hline, hcut, hscheme,
      lookup_reverse_eq_some_iff.2 hlast]

theorem authenticate?_eq_none_iff {tokens : List (String × String)} {request : Request} :
    authenticate? tokens request = none ↔
      ∀ token, Presents request token → token ∉ tokens.map Prod.fst := by
  rw [Option.eq_none_iff_forall_ne_some]
  constructor
  · intro h token hpresents hkey
    obtain ⟨name, hlast⟩ := exists_lastFor_iff.2 hkey
    exact h name (authenticate?_eq_some_iff.2 ⟨token, hpresents, hlast⟩)
  · intro h name hname
    obtain ⟨token, hpresents, hlast⟩ := authenticate?_eq_some_iff.1 hname
    exact h token hpresents (exists_lastFor_iff.1 ⟨name, hlast⟩)

section Auth

variable {tokens : List (String × String)} {x : Exchange}

theorem run_auth_of_none (h : authenticate? tokens x.request = none)
    (continuation : Exchange → Outcome) :
    (auth tokens).program.run continuation x = refuse.runAlone x := by
  simp only [program, authProgram, Program.run, h]
  rfl

theorem marks_auth_of_none (h : authenticate? tokens x.request = none)
    (continuation : Exchange → Outcome) :
    (auth tokens).program.marks continuation x = [] := by
  simp only [program, authProgram, Program.marks, h]
  rfl

/-- The exchange that goes on for a principal. -/
def admitted (name : String) (x : Exchange) : Exchange :=
  { x with
    logger := x.logger.withField "principal" name
    values := x.values.insert "principal" (.principal name) }

theorem marks_auth_of_some {name : String} (h : authenticate? tokens x.request = some name)
    (continuation : Exchange → Outcome) :
    (auth tokens).program.marks continuation x = [.call (admitted name x)] := by
  simp only [program, authProgram, Program.marks, h, Effect.marks, List.nil_append]
  -- the stage leaves no further mark, whether it goes on to a return or to a panic
  split <;> rfl

variable {handler : Program} {outer inner : List Stage}

theorem not_reaches_of_none (h : authenticate? tokens x.request = none) (y : Exchange) :
    ¬ Reaches handler inner (outer ++ [auth tokens]) x y := by
  intro hreach
  obtain ⟨x', hreach', hcall⟩ := reaches_concat.1 hreach
  have hx' : authenticate? tokens x'.request = none :=
    (kept_authenticate? tokens none).of_reaches h hreach'
  rw [marks_auth_of_none hx'] at hcall
  cases hcall

theorem eq_admitted_of_reaches {name : String} (h : authenticate? tokens x.request = some name)
    {y : Exchange} (hreach : Reaches handler inner (outer ++ [auth tokens]) x y) :
    ∃ x', y = admitted name x' := by
  obtain ⟨x', hreach', hcall⟩ := reaches_concat.1 hreach
  have hx' : authenticate? tokens x'.request = some name :=
    (kept_authenticate? tokens (some name)).of_reaches h hreach'
  rw [marks_auth_of_some hx'] at hcall
  exact ⟨x', by simpa using hcall⟩

/-- What stands inside a stage that refuses does not matter for the stages outside. -/
theorem meaning_congr_of_none (h : authenticate? tokens x.request = none) (handler' : Program)
    (inner' : List Stage) : meaning handler' (outer ++ auth tokens :: inner') x =
      meaning handler (outer ++ auth tokens :: inner) x := by
  apply (kept_authenticate? tokens none).meaning_congr _ outer h
  intro y hy
  rw [meaning, meaning, run_auth_of_none hy, run_auth_of_none hy]

end Auth

end Stage

open Stage (LastFor Presents Reaches)

theorem Table.request_resolve (t : Table) (x : Exchange) :
    (t.resolve x).exchange.request = x.request := by
  simp only [resolve]
  split <;> rfl

/-- A stage that asks for a token, wherever it stands in the chain of a request. Without a known
token nothing inside it is entered, it answers with a refusal each time that it is run, and any
other chain inside leads to the same outcome: the response, the log, the notes and the world. With
one, the stage goes on once each time that it is run, and what it goes on with names the principal
that was configured last for the token. -/
theorem Dispatcher.auth_admits (d : Dispatcher) (world : World) (request : Request)
    {outer inner : List Stage} {tokens : List (String × String)}
    (hstages : (d.table.resolve (Exchange.start world d.shutdown request)).stages =
      outer ++ .auth tokens :: inner) :
    let r := d.table.resolve (Exchange.start world d.shutdown request)
    let arrives := Reaches r.handler (.auth tokens :: inner) outer r.exchange
    let enters := Reaches r.handler inner (outer ++ [.auth tokens]) r.exchange
    ((∀ token, Presents request token → token ∉ tokens.map Prod.fst) →
      (∀ y, ¬ enters y) ∧
      (∀ x, arrives x → Stage.meaning r.handler (.auth tokens :: inner) x =
        Stage.refuse.runAlone x) ∧
      (∀ inner' handler', Stage.runChain (outer ++ .auth tokens :: inner') handler' r.exchange =
        d.run world request) ∧
      ∀ d' : Dispatcher, ∀ inner',
        let r' := d'.table.resolve (Exchange.start world d'.shutdown request)
        r'.exchange = r.exchange → r'.stages = outer ++ .auth tokens :: inner' →
          d'.dispatch world request = d.dispatch world request) ∧
    ∀ token ∈ tokens.map Prod.fst, Presents request token → ∃ name, LastFor tokens token name ∧
      (∀ x, arrives x → ∃ y,
        (Stage.auth tokens).program.marks (Stage.meaning r.handler inner) x = [.call y]) ∧
      ∀ y, enters y → y.values.get? "principal" .principal = some (.principal name) ∧
        y.logger.field? "principal" = some name := by
  intro r arrives enters
  have hrequest : r.exchange.request = request := d.table.request_resolve _
  refine ⟨fun hunknown => ?_, fun token hkey hpresents => ?_⟩
  · have hnone : Stage.authenticate? tokens r.exchange.request = none := by
      rw [hrequest]
      exact Stage.authenticate?_eq_none_iff.2 hunknown
    have hcongr (inner' : List Stage) (handler' : Stage.Program) :
        Stage.runChain (outer ++ .auth tokens :: inner') handler' r.exchange =
          d.run world request := by
      calc Stage.runChain (outer ++ .auth tokens :: inner') handler' r.exchange
        _ = Stage.meaning r.handler (outer ++ .auth tokens :: inner) r.exchange := by
          rw [Stage.runChain_eq_meaning, Stage.meaning_congr_of_none hnone]
        _ = d.run world request := by rw [run, Stage.runChain_eq_meaning, hstages]
    refine ⟨Stage.not_reaches_of_none hnone, fun x harrives => ?_, hcongr, ?_⟩
    · have hx : Stage.authenticate? tokens x.request = none :=
        (Stage.kept_authenticate? tokens none).of_reaches hnone harrives
      exact Stage.run_auth_of_none hx _
    · intro d' inner' r' hexchange hstages'
      have hrun : d'.run world request = d.run world request := by
        calc d'.run world request
          _ = Stage.runChain r'.stages r'.handler r'.exchange := rfl
          _ = d.run world request := by rw [hstages', hexchange, hcongr]
      simp only [dispatch, hrun]
  · obtain ⟨name, hlast⟩ := Stage.exists_lastFor_iff.2 hkey
    have hsome : Stage.authenticate? tokens r.exchange.request = some name := by
      rw [hrequest]
      exact Stage.authenticate?_eq_some_iff.2 ⟨token, hpresents, hlast⟩
    refine ⟨name, hlast, fun x harrives => ?_, fun y henters => ?_⟩
    · have hx : Stage.authenticate? tokens x.request = some name :=
        (Stage.kept_authenticate? tokens (some name)).of_reaches hsome harrives
      exact ⟨_, Stage.marks_auth_of_some hx _⟩
    · obtain ⟨x', rfl⟩ := Stage.eq_admitted_of_reaches hsome henters
      exact ⟨Context.Values.get?_insert _ _ (.principal name), Log.Logger.field?_withField _ _ _⟩

/-- A known token behind a scheme in other letters and among blanks names the last principal both
times. Without the scheme it does not matter that a stage inside would panic. -/
theorem Dispatcher.auth_admits_twice :
    let tokens := [("key", "first"), ("key", "last")]
    let twice : Stage := .custom "twice" (.next (.next .done))
    let d (inner : List Stage) : Dispatcher :=
      { table := { registry := { globals := twice :: .auth tokens :: inner } }
        shutdown := ⟨0, []⟩ }
    let request (line : String) : Request :=
      { method := Http.Verb.get.toMethod
        uri := { path := "/x" }
        headers := ⟨[(.authorization, .ofText line)]⟩ }
    let r := (d []).table.resolve (Exchange.start {} ⟨0, []⟩ (request "bEARER  key "))
    (∀ y, Reaches r.handler [] [twice, .auth tokens] r.exchange y →
      y.logger.field? "principal" = some "last") ∧
    (d [.custom "inner" (.panic .other)]).dispatch {} (request "Basic key") =
      (d []).dispatch {} (request "Basic key") := by
  intro tokens twice d request r
  constructor
  · intro y henters
    have hpresents : Presents (request "bEARER  key ") "key" :=
      ⟨_, "bEARER", " key ", rfl, by decide, by decide, by decide⟩
    have hstages : r.stages = [twice] ++ .auth tokens :: [] := by
      simp only [r, d, request]
      rfl
    obtain ⟨name, hlast, -, hname⟩ :=
      (auth_admits (d []) {} _ hstages).2 "key" (by decide) hpresents
    have hlookup := Stage.lookup_reverse_eq_some_iff.2 hlast
    obtain rfl : "last" = name := by simpa [tokens] using hlookup
    exact (hname y henters).2
  · have hunknown := Stage.authenticate?_eq_none_iff.1
      (show Stage.authenticate? tokens (request "Basic key") = none by decide)
    have hstages : ((d []).table.resolve (Exchange.start {} ⟨0, []⟩ (request "Basic key"))).stages =
        [twice] ++ .auth tokens :: [] := by
      simp only [d, request]
      rfl
    apply ((auth_admits (d []) {} _ hstages).1 hunknown).2.2.2 _
      [.custom "inner" (.panic .other)]
    · simp only [d, request]
      rfl
    · simp only [d, request]
      rfl

end Wayfinder
