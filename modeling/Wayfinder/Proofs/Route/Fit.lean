import Mathlib.Data.List.Basic
import Wayfinder.Route.Pattern
/-!
# Patterns and the paths they fit

What it means that a pattern fits a path is said position by position, apart from any walk.
A wildcard stands at most at the end of a pattern and no name is bound twice, so the walk
along the segments binds one value to each name of the pattern.
-/

namespace Wayfinder.Route

namespace Segment

/-- Whether the segment accepts one path segment. A wildcard accepts no single one. -/
def Accepts : Segment → String → Prop
  | literal text, x => x = text
  | param _, x => x ≠ ""
  | regex _ restriction, x => restriction.isMatch x = true
  | wildcard, _ => False

end Segment

/-- The segments of a pattern fit a path position by position. A final wildcard takes the
whole rest, also an empty one; without it both end together. -/
inductive Fits : List Segment → List String → Prop
  | done : Fits [] []
  | rest (path : List String) : Fits [.wildcard] path
  | step {s : Segment} {x : String} {segments : List Segment} {path : List String} :
      s.Accepts x → Fits segments path → Fits (s :: segments) (x :: path)

/-- The names of a pattern, each with the path segment at its position. -/
def namedValues (segments : List Segment) (path : List String) : Params :=
  (segments.zip path).filterMap fun at_ => at_.1.name?.map fun name => (name, at_.2)

/-- The bindings of a fit: the names with their path segments, then what is left for a final
wildcard, its segments joined by slashes. -/
def captures (segments : List Segment) (path : List String) : Params :=
  namedValues segments path ++
    if segments.getLast? = some .wildcard then
      [(Params.wildcardName, "/".intercalate (path.drop (segments.length - 1)))]
    else []

/-- A wildcard stands at the end or nowhere. -/
def WildcardLast (segments : List Segment) : Prop := .wildcard ∉ segments.dropLast

namespace WildcardLast

theorem tail {s : Segment} {segments : List Segment} (h : WildcardLast (s :: segments)) :
    WildcardLast segments := by
  cases segments with
  | nil => simp [WildcardLast]
  | cons s' rest => exact fun hmem => h (by simpa using .inr hmem)

theorem eq_nil {segments : List Segment} (h : WildcardLast (.wildcard :: segments)) :
    segments = [] := by
  cases segments with
  | nil => rfl
  | cons s rest => exact (h (by simp)).elim

end WildcardLast

namespace Fits

theorem cons_iff {s : Segment} {segments : List Segment} {path : List String} (hs : s ≠ .wildcard) :
    Fits (s :: segments) path ↔ ∃ x rest, path = x :: rest ∧ s.Accepts x ∧ Fits segments rest := by
  constructor
  · intro h
    cases h with
    | rest => exact (hs rfl).elim
    | step hx hrest => exact ⟨_, _, rfl, hx, hrest⟩
  · rintro ⟨x, rest, rfl, hx, hrest⟩
    exact .step hx hrest

theorem eq_nil_of_wildcard {segments : List Segment} {path : List String}
    (h : Fits (.wildcard :: segments) path) : segments = [] := by
  cases h with
  | rest => rfl
  | step hx => exact hx.elim

theorem nil_right {segments : List Segment} (h : Fits segments []) :
    segments = [] ∨ segments = [.wildcard] := by
  cases h with
  | done => exact .inl rfl
  | rest => exact .inr rfl

end Fits

/-! ## Bindings -/

theorem Segment.step?_eq_some_iff {s : Segment} (hs : s ≠ .wildcard) {path rest : List String}
    {bound : Params} : s.step? path = some (bound, rest) ↔
      ∃ x, path = x :: rest ∧ s.Accepts x ∧ bound = (s.name?.map fun name => (name, x)).toList := by
  cases path with
  | nil => cases s <;> simp_all [step?]
  | cons x tail =>
    cases s with
    | literal text => grind [step?, Accepts, name?]
    | param name => grind [step?, Accepts, name?]
    | regex name restriction => grind [step?, Accepts, name?]
    | wildcard => exact (hs rfl).elim

theorem namedValues_cons (s : Segment) (segments : List Segment) (x : String) (path : List String) :
    namedValues (s :: segments) (x :: path) =
      (s.name?.map fun name => (name, x)).toList ++ namedValues segments path := by
  cases hn : s.name? <;> simp [namedValues, hn]

@[simp] theorem captures_nil (path : List String) : captures [] path = [] := rfl

@[simp] theorem captures_wildcard (path : List String) :
    captures [.wildcard] path = [(Params.wildcardName, "/".intercalate path)] := by
  cases path <;> simp [captures, namedValues, Segment.name?]

theorem captures_cons {s : Segment} (hs : s ≠ .wildcard) (segments : List Segment) (x : String)
    (path : List String) : captures (s :: segments) (x :: path) =
      (s.name?.map fun name => (name, x)).toList ++ captures segments path := by
  cases segments with
  | nil => simp [captures, namedValues_cons, hs]
  | cons s' rest => simp [captures, namedValues_cons s]

namespace Pattern

/-- The walk along the segments succeeds exactly on the paths that they fit, and binds what
the fit captures. -/
theorem bindAll_eq_some_iff {segments : List Segment} (h : WildcardLast segments)
    {path : List String} {ps : Params} :
    bindAll segments path = some ps ↔ Fits segments path ∧ ps = captures segments path := by
  induction segments generalizing path ps with
  | nil =>
    cases path with
    | nil => simp [bindAll, Fits.done, eq_comm]
    | cons x rest =>
      have hno : ¬ Fits [] (x :: rest) := fun h => nomatch h
      simp [bindAll, hno]
  | cons s segments ih =>
    by_cases hs : s = .wildcard
    · subst hs
      obtain rfl := h.eq_nil
      simp [bindAll, Segment.step?, Fits.rest, eq_comm]
    · rw [Fits.cons_iff hs]
      constructor
      · intro hbind
        simp only [bindAll, Option.bind_eq_bind, Option.bind_eq_some_iff, Prod.exists] at hbind
        obtain ⟨bound, rest, hstep, more, hmore, hps⟩ := hbind
        obtain ⟨x, rfl, hx, rfl⟩ := (Segment.step?_eq_some_iff hs).1 hstep
        obtain ⟨hrest, rfl⟩ := (ih h.tail).1 hmore
        refine ⟨⟨x, rest, rfl, hx, hrest⟩, ?_⟩
        rw [captures_cons hs]
        simpa using hps.symm
      · rintro ⟨⟨x, rest, rfl, hx, hrest⟩, rfl⟩
        have hstep : s.step? (x :: rest) = some (_, rest) :=
          (Segment.step?_eq_some_iff hs).2 ⟨x, rfl, hx, rfl⟩
        have hmore := (ih h.tail).2 ⟨hrest, rfl⟩
        simp [bindAll, hstep, hmore, captures_cons hs]

theorem isSome_bindAll_iff {segments : List Segment} (h : WildcardLast segments)
    {path : List String} : (bindAll segments path).isSome ↔ Fits segments path := by
  rw [Option.isSome_iff_exists]
  exact ⟨fun ⟨_, hps⟩ => ((bindAll_eq_some_iff h).1 hps).1,
    fun hfit => ⟨_, (bindAll_eq_some_iff h).2 ⟨hfit, rfl⟩⟩⟩

end Pattern

end Wayfinder.Route
