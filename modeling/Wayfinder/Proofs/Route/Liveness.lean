import Mathlib.Algebra.Order.BigOperators.Group.List
import Mathlib.Data.List.Basic
import Wayfinder.Proofs.Route.Answers
import Wayfinder.Proofs.Route.Join
import Wayfinder.Proofs.Route.Precedence
/-!
# No route is dead

Where no pattern has an expression, each route of a method is found on some path. Its literals stand for
themselves, its parameters for a text that no pattern has, and the wildcard for a rest that begins with an
empty segment, which only a wildcard takes.
-/

namespace Wayfinder.Route

open Http (Method Verb)

namespace Segment

/-- Path segments that the segment takes, and no segment without an expression that leads it. -/
def sample (fresh : String) : Segment → List String
  | literal text => [text]
  | param _ | regex _ _ => [fresh]
  | wildcard => ["", fresh]

theorem sample_ne_nil (fresh : String) (s : Segment) : s.sample fresh ≠ [] := by
  cases s <;> simp [sample]

theorem exists_sample_eq {fresh : String} (hfresh : fresh ≠ "") {s : Segment}
    (hs : s ≠ .wildcard) (hplain : s.isRegex = false) :
    ∃ x, s.sample fresh = [x] ∧ s.Accepts x := by
  cases s with
  | literal text => exact ⟨text, rfl, rfl⟩
  | param name => exact ⟨fresh, rfl, hfresh⟩
  | regex name r => cases hplain
  | wildcard => exact (hs rfl).elim

end Segment

def samplePath (fresh : String) (segments : List Segment) : List String :=
  segments.flatMap (Segment.sample fresh)

@[simp] theorem samplePath_cons (fresh : String) (s : Segment) (segments : List Segment) :
    samplePath fresh (s :: segments) = s.sample fresh ++ samplePath fresh segments :=
  List.flatMap_cons

theorem fits_samplePath {fresh : String} (hfresh : fresh ≠ "") {p : List Segment}
    (hlast : WildcardLast p) (hplain : ∀ s ∈ p, s.isRegex = false) :
    Fits p (samplePath fresh p) := by
  induction p with
  | nil => exact .done
  | cons s p ih =>
    by_cases hs : s = .wildcard
    · subst hs
      obtain rfl := hlast.eq_nil
      exact .rest _
    · obtain ⟨x, hx, haccepts⟩ := Segment.exists_sample_eq hfresh hs (hplain s (by simp))
      rw [samplePath_cons, hx]
      exact .step haccepts (ih hlast.tail fun s hs => hplain s (by simp [hs]))

theorem getLast?_samplePath_ne {fresh : String} (hfresh : fresh ≠ "") {p : List Segment}
    (hliterals : ∀ text, .literal text ∈ p → text ≠ "") :
    (samplePath fresh p).getLast? ≠ some "" := by
  rcases p.eq_nil_or_concat with rfl | ⟨front, s, rfl⟩
  · simp [samplePath]
  · have hlast : (samplePath fresh (front ++ [s])).getLast? = (s.sample fresh).getLast? := by
      rw [samplePath, List.flatMap_append, List.getLast?_append]
      simp [List.getLast?_eq_some_getLast (s.sample_ne_nil fresh)]
    rw [List.concat_eq_append] at hliterals ⊢
    rw [hlast]
    cases s with
    | literal text => simpa [Segment.sample] using hliterals text (by simp)
    | _ => simpa [Segment.sample] using hfresh

/-- What leads a segment does not fit a path that begins with its sample. -/
theorem Segment.Leads.not_fits_sample {keys : List (List Segment)} {front p : List Segment}
    {s t : Segment} (hst : s.Leads keys front t) {fresh : String} {path : List String}
    (hs : s.isRegex = false) (ht : t.isRegex = false)
    (hliteral : ∀ text, s = .literal text → text ≠ "" ∧ text ≠ fresh) :
    ¬ Fits (s :: p) (t.sample fresh ++ path) := by
  intro hfit
  cases hst with
  | kind hrank =>
    have hwildcard : s ≠ .wildcard := by
      rintro rfl
      cases t <;> simp [rank] at hrank
    obtain ⟨x, rest, hpath, hx, -⟩ := (Fits.cons_iff hwildcard).1 hfit
    cases t with
    | literal => simp [rank] at hrank
    | regex => cases ht
    | param =>
      obtain rfl : fresh = x := (List.cons.inj hpath).1
      cases s with
      | literal text => exact (hliteral text rfl).2 (Eq.symm hx)
      | _ => simp_all [rank, isRegex]
    | wildcard =>
      obtain rfl : "" = x := (List.cons.inj hpath).1
      cases s with
      | literal text => exact (hliteral text rfl).1 (Eq.symm hx)
      | param => exact hx rfl
      | _ => simp_all [isRegex]
  | text hab =>
    obtain ⟨x, rest, hpath, hx, -⟩ := (Fits.cons_iff (by simp)).1 hfit
    obtain rfl := (List.cons.inj hpath).1
    exact hab.ne (Eq.symm hx)
  | arrival => cases hs

/-- What stands in front of a pattern does not fit its sample. -/
theorem Before.not_fits_samplePath {keys : List (List Segment)} {front q p : List Segment}
    (h : Before keys front q p) {fresh : String} (hlast : WildcardLast p)
    (hq : ∀ s ∈ q, s.isRegex = false) (hp : ∀ s ∈ p, s.isRegex = false)
    (hliterals : ∀ text, .literal text ∈ q → text ≠ "" ∧ text ≠ fresh) :
    ¬ Fits q (samplePath fresh p) := by
  induction h with
  | ends front t p =>
    intro hfit
    rw [samplePath_cons] at hfit
    obtain ⟨x, rest, hsample⟩ := List.exists_cons_of_ne_nil (t.sample_ne_nil fresh)
    rw [hsample] at hfit
    nomatch hfit
  | parts hst q p =>
    rw [samplePath_cons]
    refine hst.not_fits_sample (hq _ (by simp)) (hp _ (by simp)) fun text heq => ?_
    exact hliterals text (by simp [heq])
  | @shared front s q p hqp ih =>
    intro hfit
    by_cases hs : s = .wildcard
    · subst hs
      obtain rfl := hlast.eq_nil
      nomatch hqp
    · obtain ⟨x, rest, hpath, -, hfit⟩ := (Fits.cons_iff hs).1 hfit
      have hrest : rest = samplePath fresh p := by
        cases s with
        | wildcard => exact (hs rfl).elim
        | _ => exact (List.cons.inj hpath).2.symm
      refine ih hlast.tail (fun s hs => hq s (by simp [hs])) (fun s hs => hp s (by simp [hs]))
        (fun text htext => hliterals text (by simp [htext])) (hrest ▸ hfit)

theorem exists_fresh (texts : List String) : ∃ fresh : String, fresh ≠ "" ∧ fresh ∉ texts := by
  let fresh := String.ofList (List.replicate ((texts.map String.length).sum + 1) 'x')
  have hlength : fresh.length = (texts.map String.length).sum + 1 := by simp [fresh]
  refine ⟨fresh, fun hempty => by simp [hempty] at hlength, fun hmem => ?_⟩
  have hle : fresh.length ≤ (texts.map String.length).sum :=
    List.le_sum_of_mem (List.mem_map_of_mem hmem)
  omega

namespace History

variable {α : Type}

/-- Among patterns without expressions each is found on its sample. -/
theorem lookup_samplePath (calls : List (Call α)) {fresh : String} (hfresh : fresh ≠ "")
    (hplain : ∀ q ∈ (run calls).accepted, q.pattern.hasRegex = false)
    (hnew : ∀ q ∈ (run calls).accepted, .literal fresh ∉ q.pattern.segments) {e : Entry α}
    (he : e ∈ (run calls).accepted) :
    ∃ params, (run calls).trie.lookup (samplePath fresh e.pattern.segments) = some ⟨e, params⟩ := by
  have hs : (run calls).Sound := .run calls
  have hsegments : ∀ q ∈ (run calls).accepted, ∀ s ∈ q.pattern.segments, s.isRegex = false := by
    intro q hq
    simpa [Pattern.hasRegex] using hplain q hq
  have hfit : Fits e.pattern.segments (samplePath fresh e.pattern.segments) :=
    fits_samplePath hfresh e.pattern.wildcardLast (hsegments e he)
  cases hlookup : (run calls).trie.lookup (samplePath fresh e.pattern.segments) with
  | none => exact (hs.lookup_eq_none_iff.1 hlookup e he hfit).elim
  | some hit =>
    obtain ⟨before, after, htrails, -, hhit, hbefore⟩ := hs.lookup_eq_some hlookup
    have hmem : (e.pattern.segments, e) ∈
        before ++ (hit.entry.pattern.segments, hit.entry) :: after :=
      htrails ▸ hs.mem_trails.2 ⟨he, rfl⟩
    have hpairs := Trie.pairwise_before hs.valid (arrived_run calls)
    have hfound : hit.entry ∈ (run calls).accepted :=
      (hs.mem_trails.1 (htrails ▸ List.mem_append_right _ (List.mem_cons_self ..))).1
    rw [htrails, List.pairwise_append, List.pairwise_cons] at hpairs
    rcases List.mem_append.1 hmem with hfront | htail
    · exact (hbefore _ hfront hfit).elim
    · rcases List.mem_cons.1 htail with heq | hbehind
      · obtain rfl := (Prod.mk.inj heq).2
        exact ⟨hit.params, rfl⟩
      · -- the entry that was found stands in front, so it does not fit
        refine ((hpairs.2.1.1 _ hbehind).not_fits_samplePath e.pattern.wildcardLast
          (hsegments _ hfound) (hsegments e he) (fun text htext => ?_) hhit).elim
        exact ⟨hit.entry.pattern.literal_ne_empty htext,
          fun heq => hnew _ hfound (heq ▸ htext)⟩

end History

namespace Ledger

variable {σ η : Type}

/-- After any calls, if no accepted pattern of a method has an expression, each accepted route of the
method is found on some path. -/
theorem exists_path_of_route (calls : List (RouterCall σ η)) (method : Method)
    (hplain : ∀ route ∈ (run calls).accepted, route.verb.token = method.token →
      route.pattern.hasRegex = false) :
    ∀ route ∈ (run calls).accepted, route.verb.token = method.token →
      ∃ path params, (run calls).router.lookup method path = .found route params := by
  intro route hroute htoken
  have hunder := under_run calls route.verb
  have haccepted : ∀ e ∈ ((run calls).under route.verb).accepted,
      ∃ other ∈ (run calls).accepted, other.verb = route.verb ∧ other.entry = e := fun e he =>
    mem_under.1 he
  have hentry : route.entry ∈ ((run calls).under route.verb).accepted :=
    mem_under.2 ⟨route, hroute, rfl, rfl⟩
  obtain ⟨fresh, hfresh, hnew⟩ := exists_fresh
    (((run calls).accepted.flatMap fun other => other.pattern.segments).map Segment.text)
  have hlookup : ∃ params, ((run calls).under route.verb).trie.lookup
      (samplePath fresh route.pattern.segments) = some ⟨route.entry, params⟩ := by
    rw [hunder] at haccepted hentry ⊢
    refine History.lookup_samplePath _ hfresh (fun e he => ?_) (fun e he => ?_) hentry
    · obtain ⟨other, hother, hverb, rfl⟩ := haccepted e he
      exact hplain other hother (hverb ▸ htoken)
    · obtain ⟨other, hother, -, rfl⟩ := haccepted e he
      exact fun hmem => hnew (List.mem_map.2 ⟨_, List.mem_flatMap.2 ⟨other, hother, hmem⟩, rfl⟩)
  obtain ⟨params, hlookup⟩ := hlookup
  have hsplit : Path.split (Path.join (samplePath fresh route.pattern.segments)) =
      samplePath fresh route.pattern.segments :=
    Path.split_join (getLast?_samplePath_ne hfresh fun text => route.pattern.literal_ne_empty)
  refine ⟨Path.join (samplePath fresh route.pattern.segments), params, ?_⟩
  rw [Router.lookup_eq_found_iff]
  exact ⟨route.verb, _, Method.verb?_eq_some_iff.2 htoken, hsplit.symm ▸ hlookup, rfl, rfl⟩

/-- A wildcard beside a literal, a parameter, and an end of its own place. -/
theorem exists_path_of_route_wildcard :
    let get := Verb.get.toMethod
    let calls : List (RouterCall Unit Unit) :=
      [.register get "/a/*" () [], .register get "/a/b" () [], .register get "/a/:id" () [],
        .register get "/:id/*" () [], .register get "/a" () []]
    (∀ route ∈ (run calls).accepted, route.verb.token = get.token →
      route.pattern.hasRegex = false) ∧
    ∃ route ∈ (run calls).accepted, route.pattern.raw = "/a/*" ∧
      ∃ path params, (run calls).router.lookup get path = .found route params := by
  intro get calls
  have hplain : ∀ route ∈ (run calls).accepted, route.verb.token = get.token →
      route.pattern.hasRegex = false := by decide +kernel
  have hfirst : ∃ route ∈ (run calls).accepted, route.verb.token = get.token ∧
      route.pattern.raw = "/a/*" := by decide +kernel
  obtain ⟨route, hroute, htoken, hraw⟩ := hfirst
  exact ⟨hplain, route, hroute, hraw, exists_path_of_route calls get hplain route hroute htoken⟩

end Ledger

end Wayfinder.Route
