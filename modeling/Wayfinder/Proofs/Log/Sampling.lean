import Mathlib.Algebra.Group.Nat.Defs
import Mathlib.Data.Finset.Card
import Wayfinder.Log.Pipeline
/-!
# What is sampled

The sampler counts the events that it is asked about. A pipeline asks it about the first event of
each place, before the filter is asked, so what passes is decided for whole places, and by a count
of places. Here this is compared with the rule that decides about events one by one.
-/

namespace Wayfinder.Log

/-! ## The bound of a filter -/

namespace Filter

/-- No directive lets more pass than the greatest threshold. -/
def Bounded (f : Filter) : Prop := ∀ d ∈ f.statics, d.threshold ≤ f.staticMax

variable {f : Filter}

theorem eq_or_mem_of_mem_insertStatic {d e : Directive} {ds : List Directive}
    (h : e ∈ insertStatic d ds) : e = d ∨ e ∈ ds := by
  induction ds with
  | nil => exact .inl (List.mem_singleton.1 h)
  | cons a rest ih =>
    unfold insertStatic at h
    split at h
    · exact (List.mem_cons.1 h).imp_right (List.mem_cons_of_mem a)
    · split at h
      · exact List.mem_cons.1 h
      · rcases List.mem_cons.1 h with rfl | hrest
        · exact .inr List.mem_cons_self
        · exact (ih hrest).imp_right (List.mem_cons_of_mem a)

theorem Bounded.addStatic (h : f.Bounded) (d : Directive) : (f.addStatic d).Bounded := by
  intro e he
  rcases eq_or_mem_of_mem_insertStatic he with rfl | he
  · exact Nat.le_max_right _ _
  · exact (h e he).trans (Nat.le_max_left _ _)

theorem Bounded.addDynamic (h : f.Bounded) (d : Directive) : (f.addDynamic d).Bounded := h

theorem Bounded.add (h : f.Bounded) (d : Directive) : (f.add d).Bounded := by
  unfold Filter.add
  split
  · exact h.addStatic d
  · exact h.addDynamic d

theorem Bounded.foldl {g : Filter → Directive → Filter}
    (hg : ∀ f d, Bounded f → Bounded (g f d)) (h : f.Bounded) (ds : List Directive) :
    (ds.foldl g f).Bounded := by
  induction ds generalizing f with
  | nil => exact h
  | cons d ds ih => exact ih (hg f d h)

theorem bounded_ofDirectives (ds : List Directive) : (ofDirectives ds).Bounded := by
  have hempty : Bounded {} := fun d hd => by cases hd
  have hdynamic := hempty.foldl (fun _ d h => h.addDynamic d) (ds.filter Directive.isDynamic)
  exact hdynamic.foldl (fun _ d h => h.addStatic d) _

theorem bounded_ofText (s : String) : (ofText s).Bounded := by
  unfold ofText orErrors
  split
  · exact (bounded_ofDirectives _).addStatic _
  · exact bounded_ofDirectives _

theorem bounded_of_ofText? {s : String} (h : ofText? s = some f) : f.Bounded := by
  obtain ⟨ds, -, rfl⟩ := Option.map_eq_some_iff.1 h
  exact bounded_ofDirectives ds

/-- Whether events of a place are looked at. -/
def looksAt (f : Filter) (place : Place) : Bool := place.site.level.verbosity ≤ f.maxVerbosity

def letsPass (f : Filter) (place : Place) : Bool := f.admits place.site.target place.site.level

/-- Whether events of a place are among those that a sampler counts. -/
def isCounted (f : Filter) (place : Place) : Bool := f.looksAt place && !place.site.level.isSevere

theorem Bounded.looksAt (h : f.Bounded) {place : Place} (hadmits : f.letsPass place = true) :
    f.looksAt place = true := by
  have hlevel : place.site.level.verbosity ≤ 5 := by cases place.site.level <;> decide
  have hmax : place.site.level.verbosity ≤ f.maxVerbosity := by
    unfold maxVerbosity
    split
    · exact hlevel
    · unfold letsPass admits at hadmits
      split at hadmits
      · next d hd =>
        have hthreshold := h d (List.mem_of_find?_eq_some hd)
        have hle : place.site.level.verbosity ≤ d.threshold := by simpa using hadmits
        exact (hle.trans hthreshold).trans (Nat.le_max_left _ _)
      · cases hadmits
  simpa [Filter.looksAt] using hmax

end Filter

theorem Config.bounded_filter (c : Config) (env : Environment) : (c.filter env).Bounded := by
  have hbase : Filter.Bounded
      (((env "RUST_LOG").bind Filter.ofText?).getD (Filter.ofText (Text.asciiLower c.level))) := by
    cases henv : (env "RUST_LOG").bind Filter.ofText? with
    | none =>
      rw [Option.getD_none]
      exact Filter.bounded_ofText _
    | some f =>
      obtain ⟨s, -, hs⟩ := Option.bind_eq_some_iff.1 henv
      rw [Option.getD_some]
      exact Filter.bounded_of_ofText? hs
  exact hbase.foldl (fun _ d h => h.add d) (transportDirective :: c.extraDirectives.1)

/-! ## The rule -/

/-- What a rule that knows the events so far says of each event. -/
def judged (rule : List Place → Place → Bool) (earlier : List Place) : List Place → List Bool
  | [] => []
  | e :: later => rule earlier e :: judged rule (earlier ++ [e]) later

theorem judged_eq_iff {rule rule' : List Place → Place → Bool} {es : List Place} :
    judged rule [] es = judged rule' [] es ↔
      ∀ earlier e later, es = earlier ++ e :: later → rule earlier e = rule' earlier e := by
  suffices hgeneral : ∀ before, judged rule before es = judged rule' before es ↔
      ∀ earlier e later, es = earlier ++ e :: later →
        rule (before ++ earlier) e = rule' (before ++ earlier) e by
    simpa using hgeneral []
  induction es with
  | nil => simp [judged]
  | cons a es ih =>
    intro before
    simp only [judged, List.cons.injEq, ih]
    constructor
    · rintro ⟨ha, hrest⟩ earlier e later heq
      cases earlier with
      | nil =>
        obtain ⟨rfl, -⟩ := List.cons.inj heq
        simpa using ha
      | cons b earlier =>
        obtain ⟨rfl, hes⟩ := List.cons.inj heq
        simpa using hrest earlier e later hes
    · intro h
      refine ⟨by simpa using h [] a es rfl, fun earlier e later heq => ?_⟩
      simpa using h (a :: earlier) e later (by rw [heq, List.cons_append])

namespace Config

variable (c : Config) (env : Environment)

/-- Whether an event is one of those of which a share is to pass. -/
def isEligible (place : Place) : Bool :=
  (c.filter env).letsPass place && !place.site.level.isSevere

/-- The rule for an event with so many eligible ones before it. -/
def rule (n : Nat) (place : Place) : Bool :=
  (c.filter env).letsPass place && (place.site.level.isSevere ||
    match c.samplingMode with
    | .all => true
    | .errorOnly => false
    | .sampled => Sampler.keeps c.samplingRate.clampUnit (n % 2 ^ 64))

/-- Which events pass if each is decided about by itself. -/
def ruled (es : List Place) : List Bool :=
  judged (fun earlier => c.rule env (earlier.countP (c.isEligible env))) [] es

end Config

/-! ## The pipeline -/

namespace Sampler

theorem offer_fst (s : Sampler) (level : Level) : (s.offer level).1 = (level.isSevere ||
    match s.mode with
    | .all => true
    | .errorOnly => false
    | .sampled => keeps s.rate s.seen) := by
  unfold offer
  cases s.mode <;> cases level.isSevere <;> simp

theorem offer_snd (s : Sampler) (level : Level) : (s.offer level).2 =
    if s.mode = .sampled ∧ level.isSevere = false then { s with seen := (s.seen + 1) % 2 ^ 64 }
    else s := by
  unfold offer
  cases hmode : s.mode <;> cases hsevere : level.isSevere <;> simp

end Sampler

namespace Pipeline

variable (p : Pipeline)

def after (es : List Place) : Pipeline := es.foldl (fun p e => (p.offer e).2) p

theorem passes_eq_judged (es : List Place) :
    p.passes es = judged (fun earlier e => ((p.after earlier).offer e).1) [] es := by
  suffices hgeneral : ∀ before, (p.after before).passes es =
      judged (fun earlier e => ((p.after earlier).offer e).1) before es from hgeneral []
  induction es with
  | nil => exact fun _ => rfl
  | cons e es ih =>
    intro before
    have hafter : ((p.after before).offer e).2 = p.after (before ++ [e]) := by simp [after]
    rw [passes, judged, ← ih (before ++ [e]), ← hafter]

@[simp] theorem after_append_singleton (es : List Place) (e : Place) :
    p.after (es ++ [e]) = ((p.after es).offer e).2 := by
  simp [after]

/-- What is known about a place once it is asked about. -/
def interestIn (e : Place) : Interest := (p.interests.lookup e).getD (p.register e).1

variable {p} {e : Place}

theorem register_fst : (p.register e).1 =
    if !(p.sampler.offer e.site.level).1 then .never
    else if p.filter.letsPass e then .always
    else if p.filter.hasDynamic then .sometimes
    else .never := rfl

theorem register_eq_always_iff : (p.register e).1 = .always ↔
    (p.filter.letsPass e && (p.sampler.offer e.site.level).1) = true := by
  rw [register_fst]
  cases (p.sampler.offer e.site.level).1 <;> cases p.filter.letsPass e <;>
    cases p.filter.hasDynamic <;> simp

theorem register_eq_sometimes (h : (p.register e).1 = .sometimes) :
    p.filter.hasDynamic = true ∧ p.filter.letsPass e = false := by
  rw [register_fst] at h
  cases hsampled : (p.sampler.offer e.site.level).1 <;> cases hadmits : p.filter.letsPass e <;>
    cases hdynamic : p.filter.hasDynamic <;> simp_all

theorem offer_of_not_looksAt (h : p.filter.looksAt e = false) : p.offer e = (false, p) := by
  have hlt : p.filter.maxVerbosity < e.site.level.verbosity := by simpa [Filter.looksAt] using h
  rw [offer, if_pos hlt]

/-- What becomes of an event that is looked at. -/
theorem offer_of_looksAt (h : p.filter.looksAt e = true) :
    let p' := if p.interests.lookup e = none then (p.register e).2 else p
    let answer := p'.sampler.offer e.site.level
    p.offer e = match p.interestIn e with
      | .always => (true, p')
      | .never => (false, p')
      | .sometimes => (answer.1 && p'.filter.letsPass e, { p' with sampler := answer.2 }) := by
  have hle : ¬ p.filter.maxVerbosity < e.site.level.verbosity := by
    simpa [Filter.looksAt] using h
  rw [offer, if_neg hle, interestIn]
  cases hlookup : p.interests.lookup e <;> rfl

theorem filter_offer : (p.offer e).2.filter = p.filter := by
  cases hlooks : p.filter.looksAt e with
  | false => rw [offer_of_not_looksAt hlooks]
  | true =>
    rw [offer_of_looksAt hlooks]
    cases p.interestIn e <;> cases p.interests.lookup e <;> rfl

theorem interests_offer : (p.offer e).2.interests =
    if p.filter.looksAt e = true ∧ p.interests.lookup e = none then
      (e, (p.register e).1) :: p.interests
    else p.interests := by
  cases hlooks : p.filter.looksAt e with
  | false => simp [offer_of_not_looksAt hlooks]
  | true =>
    rw [offer_of_looksAt hlooks]
    cases p.interestIn e <;> cases p.interests.lookup e <;> simp [register]

theorem kept_offer {P : Sampler → Prop} (hP : ∀ s level, P s → P (s.offer level).2)
    (h : P p.sampler) : P (p.offer e).2.sampler := by
  have hregister : P (p.register e).2.sampler := hP _ _ h
  cases hlooks : p.filter.looksAt e with
  | false => rwa [offer_of_not_looksAt hlooks]
  | true =>
    rw [offer_of_looksAt hlooks]
    have hp' : P (if p.interests.lookup e = none then (p.register e).2 else p).sampler := by
      split
      · exact hregister
      · exact h
    cases p.interestIn e with
    | always => exact hp'
    | never => exact hp'
    | sometimes => exact hP _ _ hp'

theorem offer_fst (hsometimes : p.interestIn e = .sometimes → p.filter.letsPass e = false) :
    (p.offer e).1 = (p.filter.looksAt e && p.interestIn e = .always) := by
  cases hlooks : p.filter.looksAt e with
  | false => rw [offer_of_not_looksAt hlooks, Bool.false_and]
  | true =>
    rw [offer_of_looksAt hlooks, Bool.true_and]
    cases hinterest : p.interestIn e with
    | always => rfl
    | never => rfl
    | sometimes =>
      have hfilter : (if p.interests.lookup e = none then (p.register e).2 else p).filter =
          p.filter := by
        split <;> rfl
      simp only [hfilter, hsometimes hinterest, Bool.and_false]
      rfl

theorem filter_after (es : List Place) : (p.after es).filter = p.filter := by
  induction es using List.reverseRecOn with
  | nil => rfl
  | append_singleton es e ih => rw [after_append_singleton, filter_offer, ih]

theorem kept_after {P : Sampler → Prop} (hP : ∀ s level, P s → P (s.offer level).2)
    (h : P p.sampler) (es : List Place) : P (p.after es).sampler := by
  induction es using List.reverseRecOn with
  | nil => exact h
  | append_singleton es e ih =>
    rw [after_append_singleton]
    exact kept_offer hP ih

end Pipeline

/-! ## First events -/

def beforeFirst (e : Place) (es : List Place) : List Place := es.takeWhile (· ≠ e)

theorem beforeFirst_append (e : Place) (es later : List Place) :
    beforeFirst e (es ++ later) = if e ∈ es then beforeFirst e es else es ++ beforeFirst e later := by
  induction es with
  | nil => rfl
  | cons a es ih =>
    by_cases ha : a = e
    · simp [beforeFirst, ha]
    · have hkept (rest : List Place) : beforeFirst e (a :: rest) = a :: beforeFirst e rest := by
        simp [beforeFirst, ha]
      have hmem : e ∈ a :: es ↔ e ∈ es := by simp [Ne.symm ha]
      rw [List.cons_append, hkept, hkept, ih]
      simp only [hmem]
      split <;> rfl

theorem beforeFirst_of_notMem {e : Place} {es : List Place} (h : e ∉ es) :
    beforeFirst e es = es := by
  simpa [h, beforeFirst] using beforeFirst_append e es []

theorem card_filter_append {f : Place → Bool} {e : Place} (he : f e = true) (es : List Place) :
    ((es ++ [e]).filter f).toFinset.card =
      if e ∈ es then (es.filter f).toFinset.card else (es.filter f).toFinset.card + 1 := by
  have hinsert : ((es ++ [e]).filter f).toFinset = insert e (es.filter f).toFinset := by
    ext a
    by_cases ha : a = e <;> simp [ha, he]
  have hmem : e ∈ (es.filter f).toFinset ↔ e ∈ es := by simp [he]
  rw [hinsert, Finset.card_insert_eq_ite]
  simp only [hmem]

namespace Pipeline

variable {p : Pipeline}

theorem lookup_offer (e a : Place) : (p.offer a).2.interests.lookup e =
    if e = a ∧ p.filter.looksAt a = true ∧ p.interests.lookup a = none then
      some (p.register a).1
    else p.interests.lookup e := by
  rw [interests_offer]
  by_cases hea : e = a
  · subst hea
    simp only [true_and]
    split
    · rw [List.lookup_cons_self]
    · rfl
  · simp only [hea, false_and, if_false]
    split
    · rw [List.lookup_cons, beq_false_of_ne hea]
    · rfl

variable (hfresh : p.interests = [])

include hfresh

/-- What is known about a place is what was decided about its first event. -/
theorem lookup_after (e : Place) (es : List Place) : (p.after es).interests.lookup e =
    if p.filter.looksAt e = true ∧ e ∈ es then
      some ((p.after (beforeFirst e es)).register e).1
    else none := by
  induction es using List.reverseRecOn with
  | nil => simp [after, hfresh]
  | append_singleton es a ih =>
    rw [after_append_singleton, lookup_offer, filter_after, beforeFirst_append]
    by_cases hmem : e ∈ es
    · have hknown : ¬ (e = a ∧ p.filter.looksAt a = true ∧
          (p.after es).interests.lookup a = none) := by
        rintro ⟨rfl, hlooks, hnone⟩
        rw [ih, if_pos ⟨hlooks, hmem⟩] at hnone
        cases hnone
      rw [if_neg hknown, ih]
      simp [hmem]
    · have hnone : (p.after es).interests.lookup e = none := by
        rw [ih, if_neg fun h => hmem h.2]
      by_cases hea : e = a
      · subst hea
        simp [hnone, hmem, beforeFirst]
      · simp [hnone, hmem, hea]

theorem interestIn_after {e : Place} {es : List Place} (hlooks : p.filter.looksAt e = true) :
    (p.after es).interestIn e = ((p.after (beforeFirst e es)).register e).1 := by
  rw [interestIn, lookup_after hfresh]
  by_cases hmem : e ∈ es
  · rw [if_pos ⟨hlooks, hmem⟩, Option.getD_some]
  · rw [if_neg fun h => hmem h.2, Option.getD_none, beforeFirst_of_notMem hmem]

/-- An event passes if the filter admits it and the sampler let the first event of its place
pass. -/
theorem offer_after_fst (hbound : p.filter.Bounded) (es : List Place) (e : Place) :
    ((p.after es).offer e).1 = (p.filter.letsPass e &&
      ((p.after (beforeFirst e es)).sampler.offer e.site.level).1) := by
  cases hlooks : p.filter.looksAt e with
  | false =>
    have hlooks' : (p.after es).filter.looksAt e = false := by rw [filter_after, hlooks]
    have hadmits : p.filter.letsPass e = false := by
      by_contra hadmits
      rw [hbound.looksAt (by simpa using hadmits)] at hlooks
      cases hlooks
    rw [offer_of_not_looksAt hlooks', hadmits, Bool.false_and]
  | true =>
    have hinterest : (p.after es).interestIn e = ((p.after (beforeFirst e es)).register e).1 :=
      interestIn_after hfresh hlooks
    have hfirst := filter_after (p := p) (beforeFirst e es)
    rw [offer_fst, hinterest, filter_after, hlooks, Bool.true_and]
    · rw [Bool.eq_iff_iff, decide_eq_true_iff, register_eq_always_iff, hfirst]
    · intro hsometimes
      rw [hinterest] at hsometimes
      rw [filter_after, ← hfirst]
      exact (register_eq_sometimes hsometimes).2

omit hfresh in
/-- An event is counted if it is sampled and the first one of a place that is not asked about again
for the sake of spans. -/
theorem seen_offer {e : Place} (hmode : p.sampler.mode = .sampled)
    (hsteady : p.filter.isCounted e = true →
      p.interestIn e ≠ .sometimes) :
    (p.offer e).2.sampler.seen =
      if p.filter.isCounted e = true ∧ p.interests.lookup e = none then
        (p.sampler.seen + 1) % 2 ^ 64
      else p.sampler.seen := by
  cases hlooks : p.filter.looksAt e with
  | false => simp [offer_of_not_looksAt hlooks, Filter.isCounted, hlooks]
  | true =>
    rw [offer_of_looksAt hlooks]
    cases hsevere : e.site.level.isSevere <;> cases hlookup : p.interests.lookup e <;>
      cases hinterest : p.interestIn e <;> simp_all [register, Sampler.offer_snd, Filter.isCounted]

/-- Where no sampled event is asked about again, as many events are counted as there are places
of sampled events. -/
theorem seen_after {es : List Place} (hmode : p.sampler.mode = .sampled)
    (hzero : p.sampler.seen = 0)
    (hsteady : p.filter.hasDynamic = false ∨ ∀ e ∈ es,
      p.filter.isCounted e = true → p.filter.letsPass e = true) :
    (p.after es).sampler.seen =
      (es.filter p.filter.isCounted).toFinset.card % 2 ^ 64 := by
  induction es using List.reverseRecOn with
  | nil => simp [after, hzero]
  | append_singleton es e ih =>
    have hmode' : (p.after es).sampler.mode = .sampled := by
      refine kept_after (P := (·.mode = .sampled)) (fun s level hs => ?_) hmode es
      rw [Sampler.offer_snd]
      split <;> exact hs
    have hsteady' : (p.after es).filter.isCounted e = true →
        (p.after es).interestIn e ≠ .sometimes := by
      intro hsampled hsometimes
      rw [filter_after] at hsampled
      rw [interestIn_after hfresh (Bool.and_eq_true_iff.1 hsampled).1] at hsometimes
      obtain ⟨hdynamic, hadmits⟩ := register_eq_sometimes hsometimes
      rw [filter_after] at hdynamic hadmits
      rcases hsteady with hstatic | hall
      · exact absurd hdynamic (by simp [hstatic])
      · exact absurd (hall e (by simp) hsampled) (by simp [hadmits])
    have hes := ih (hsteady.imp_right fun hall a ha => hall a (List.mem_append_left _ ha))
    rw [after_append_singleton, seen_offer hmode' hsteady', filter_after, hes]
    rw [lookup_after hfresh]
    cases hcounted : p.filter.isCounted e with
    | false => simp [hcounted]
    | true =>
      have hlooks := (Bool.and_eq_true_iff.1 hcounted).1
      rw [card_filter_append hcounted]
      by_cases hmem : e ∈ es <;> simp [hmem, hlooks]

end Pipeline

/-! ## Pipelines of settings -/

namespace Config

variable (c : Config) (env : Environment)

theorem mode_rate_after (es : List Place) :
    (((Pipeline.ofConfig c env).after es).sampler.mode,
      ((Pipeline.ofConfig c env).after es).sampler.rate) =
      (c.samplingMode, c.samplingRate.clampUnit) := by
  refine Pipeline.kept_after (P := fun s => (s.mode, s.rate) = _) (fun s level hs => ?_) rfl es
  rw [Sampler.offer_snd]
  split <;> exact hs

theorem isEligible_eq (e : Place) : c.isEligible env e =
    ((c.filter env).letsPass e && (c.filter env).isCounted e) := by
  rw [isEligible, Filter.isCounted]
  cases hadmits : (c.filter env).letsPass e with
  | false => rfl
  | true => rw [(c.bounded_filter env).looksAt hadmits, Bool.true_and, Bool.true_and]

theorem rule_eq_iff (n m : Nat) (e : Place) : c.rule env n e = c.rule env m e ↔
    (c.samplingMode = .sampled → c.isEligible env e = true →
      Sampler.keeps c.samplingRate.clampUnit (n % 2 ^ 64) =
        Sampler.keeps c.samplingRate.clampUnit (m % 2 ^ 64)) := by
  unfold rule isEligible
  cases (c.filter env).letsPass e <;> cases e.site.level.isSevere <;> cases c.samplingMode <;> simp

/-- How many events the sampler had counted when the first event of a place arose. -/
def countAtFirst (earlier : List Place) (e : Place) : Nat :=
  ((Pipeline.ofConfig c env).after (beforeFirst e earlier)).sampler.seen

theorem countAtFirst_mod (earlier : List Place) (e : Place) :
    c.countAtFirst env earlier e % 2 ^ 64 = c.countAtFirst env earlier e := by
  have hlt : c.countAtFirst env earlier e < 2 ^ 64 := by
    refine Pipeline.kept_after (P := (·.seen < 2 ^ 64)) (fun s level hs => ?_) (Nat.two_pow_pos 64) _
    rw [Sampler.offer_snd]
    split
    · exact Nat.mod_lt _ (by decide)
    · exact hs
  exact Nat.mod_eq_of_lt hlt

theorem passes_eq_judged_first (es : List Place) : (Pipeline.ofConfig c env).passes es =
    judged (fun earlier e => c.rule env (c.countAtFirst env earlier e) e) [] es := by
  rw [Pipeline.passes_eq_judged, judged_eq_iff]
  intro earlier e later _
  obtain ⟨hmode, hrate⟩ := Prod.mk.inj (c.mode_rate_after env (beforeFirst e earlier))
  rw [Pipeline.offer_after_fst rfl (c.bounded_filter env), Sampler.offer_fst, hmode, hrate, rule,
    countAtFirst_mod]
  rfl

theorem passes_eq_ruled_iff_keeps (es : List Place) :
    (Pipeline.ofConfig c env).passes es = c.ruled env es ↔
      ∀ earlier e later, es = earlier ++ e :: later →
        c.samplingMode = .sampled → c.isEligible env e = true →
        Sampler.keeps c.samplingRate.clampUnit (c.countAtFirst env earlier e) =
          Sampler.keeps c.samplingRate.clampUnit
            (earlier.countP (c.isEligible env) % 2 ^ 64) := by
  rw [passes_eq_judged_first, ruled, judged_eq_iff]
  refine forall_congr' fun earlier => forall_congr' fun e => forall₂_congr fun later _ => ?_
  rw [rule_eq_iff, countAtFirst_mod]

/-- A place without an event so far is counted at once, and where the filter admits all that is
counted, those are the eligible events. -/
theorem countAtFirst_of_nodup {earlier : List Place} {e : Place} (hnew : e ∉ earlier)
    (hsampled : c.samplingMode = .sampled)
    (hadmitted : ∀ a ∈ earlier, (c.filter env).isCounted a = true →
      (c.filter env).letsPass a = true)
    (hnodup : (earlier.filter (c.filter env).isCounted).Nodup) :
    c.countAtFirst env earlier e = earlier.countP (c.isEligible env) % 2 ^ 64 := by
  have heligible : earlier.countP (c.isEligible env) =
      earlier.countP (c.filter env).isCounted := by
    refine List.countP_congr fun a ha => ?_
    rw [c.isEligible_eq env a, Bool.and_eq_true_iff]
    exact and_iff_right_of_imp (hadmitted a ha)
  calc c.countAtFirst env earlier e
    _ = ((Pipeline.ofConfig c env).after earlier).sampler.seen := by
      rw [countAtFirst, beforeFirst_of_notMem hnew]
    _ = (earlier.filter (c.filter env).isCounted).toFinset.card % 2 ^ 64 :=
      Pipeline.seen_after rfl hsampled rfl (.inr hadmitted)
    _ = earlier.countP (c.isEligible env) % 2 ^ 64 := by
      rw [List.toFinset_card_of_nodup hnodup, heligible, List.countP_eq_length_filter]

/-- What passes is decided by the rule, but with the count that the sampler had reached at the first
event of a place. So the rule is followed exactly if for each event that it samples the
sampler keeps an event with this count just if it keeps one with the true count. It is followed
where no share is taken, and where each place of the counted levels has one event and the filter
admits it. -/
theorem passes_eq_ruled_iff (es : List Place) :
    let p := Pipeline.ofConfig c env
    let keeps := Sampler.keeps c.samplingRate.clampUnit
    p.passes es = judged (fun earlier e => c.rule env (c.countAtFirst env earlier e) e) [] es ∧
    (p.passes es = c.ruled env es ↔ ∀ earlier e later, es = earlier ++ e :: later →
      c.samplingMode = .sampled → c.isEligible env e = true →
      keeps (c.countAtFirst env earlier e) =
        keeps (earlier.countP (c.isEligible env) % 2 ^ 64)) ∧
    (c.samplingMode ≠ .sampled → p.passes es = c.ruled env es) ∧
    ((∀ e ∈ es, p.filter.isCounted e = true → p.filter.letsPass e = true) →
      (es.filter p.filter.isCounted).Nodup → p.passes es = c.ruled env es) ∧
    (c.samplingMode = .sampled → p.filter.hasDynamic = false →
      (p.after es).sampler.seen = (es.filter p.filter.isCounted).toFinset.card % 2 ^ 64) := by
  intro p keeps
  have hfollowed := c.passes_eq_ruled_iff_keeps env es
  refine ⟨c.passes_eq_judged_first env es, hfollowed, fun hmode => ?_,
    fun hadmitted hnodup => ?_, fun hmode hstatic => Pipeline.seen_after rfl hmode rfl (.inl hstatic)⟩
  · exact hfollowed.2 fun _ _ _ _ hsampled => absurd hsampled hmode
  · refine hfollowed.2 fun earlier e later hes hsampled heligible => ?_
    have hearlier : ∀ a ∈ earlier, a ∈ es := fun a ha => by simp [hes, ha]
    have hcounted : p.filter.isCounted e = true :=
      (Bool.and_eq_true_iff.1 (c.isEligible_eq env e ▸ heligible)).2
    rw [hes, List.filter_append, List.filter_cons_of_pos hcounted, List.nodup_append] at hnodup
    obtain ⟨hnodup, -, hdisjoint⟩ := hnodup
    have hnew : e ∉ earlier := fun hmem =>
      hdisjoint e (List.mem_filter.2 ⟨hmem, hcounted⟩) e List.mem_cons_self rfl
    rw [c.countAtFirst_of_nodup env hnew hsampled (fun a ha => hadmitted a (hearlier a ha)) hnodup]

/-- Of two events of one place neither passes at half of the rate, where the second one should. -/
theorem passes_ne_ruled :
    let c : Config := { samplingMode := .sampled, samplingRate := .ofRatio false 1 2 }
    let env : Environment := fun _ => none
    let e : Place := { site := { target := "other", level := .info } }
    (Pipeline.ofConfig c env).passes [e, e] = [false, false] ∧
      c.ruled env [e, e] = [false, true] := by
  decide +kernel

end Config

end Wayfinder.Log
