import Mathlib.Data.List.Basic
import Mathlib.Data.List.Pairwise
import Wayfinder.Proofs.Route.Order
/-!
# Which of several patterns is found

A lookup misses no pattern that fits, and of all patterns that fit it finds the one that
goes first where the patterns part: literals, expressions in their order of arrival, the
parameter, the wildcard.
-/

namespace Wayfinder.Route

/-- The pattern with the segments `p` goes before the one with `q`. Where they part, the
segment of `p` is of a kind that goes first, or both are expressions and a pattern through
that of `p` came first; or `q` goes on with a wildcard where `p` ends. -/
inductive Prevails (keys : List (List Segment)) (p q : List Segment) : Prop
  | kind (front : List Segment) (s t : Segment) (p' q' : List Segment) (hp : p = front ++ s :: p')
      (hq : q = front ++ t :: q') (hrank : s.rank < t.rank)
  | arrival (front : List Segment) (m n : String) (r r' : Restriction) (p' q' : List Segment)
      (hp : p = front ++ .regex m r :: p') (hq : q = front ++ .regex n r' :: q') (hne : r ≠ r')
      (hfirst : firstThrough keys (front ++ [.regex m r]) <
        firstThrough keys (front ++ [.regex n r']))
  | ends (hq : q = p ++ [.wildcard])

/-- Of two trails that fit one path, the one in front prevails. -/
theorem Before.prevails {keys : List (List Segment)} {front p q : List Segment}
    (h : Before keys front p q) {path : List String} (hp : Fits p path) (hq : Fits q path) :
    Prevails keys (front ++ p) (front ++ q) := by
  induction h generalizing path with
  | ends front t q =>
    -- both fit where the first one ends, so the second one goes on with a wildcard
    cases hp
    have hwildcard : t :: q = [.wildcard] := hq.nil_right.resolve_left (by simp)
    exact .ends (by simp [hwildcard])
  | @parts front s t hst p q =>
    cases hst with
    | kind hrank => exact .kind front s t p q rfl rfl hrank
    | text hab =>
      -- one path segment cannot be two literals
      obtain ⟨x, _, rfl, hx, -⟩ := (Fits.cons_iff (by simp)).1 hp
      obtain ⟨_, _, heq, hx', -⟩ := (Fits.cons_iff (by simp)).1 hq
      cases heq
      exact (hab.ne (hx.symm.trans hx')).elim
    | arrival hne hfirst => exact .arrival front _ _ _ _ p q rfl rfl hne hfirst
  | @shared front s p q hpq ih =>
    by_cases hs : s = .wildcard
    · subst hs
      obtain rfl := hp.eq_nil_of_wildcard
      obtain rfl := hq.eq_nil_of_wildcard
      nomatch hpq
    · obtain ⟨x, rest, rfl, -, hp⟩ := (Fits.cons_iff hs).1 hp
      obtain ⟨_, _, heq, -, hq⟩ := (Fits.cons_iff hs).1 hq
      cases heq
      simpa using ih hp hq

theorem Trie.pairwise_prevails {α : Type} {keys : List (List Segment)} {t : Trie α}
    (ht : t.edges.Valid) (ha : t.edges.Arrived keys []) (path : List String) :
    t.trails.Pairwise fun r r' => Fits r.1 path → Fits r'.1 path → Prevails keys r.1 r'.1 :=
  (pairwise_before ht ha).imp fun hbefore hfit hfit' => hbefore.prevails hfit hfit'

namespace History

variable {α : Type}

/-- The segments of the accepted patterns in the order of acceptance. -/
def keys (h : History α) : List (List Segment) := h.accepted.map fun e => e.pattern.segments

namespace Sound

variable {h : History α}

theorem keyed (hs : h.Sound) : h.trie.edges.Keyed h.keys [] := by
  intro r hr
  have hmem : (r.1, r.2) ∈ h.trie.trails := Trie.mem_trails.2 (.inr hr)
  obtain ⟨haccepted, hsegments⟩ := hs.mem_trails.1 hmem
  exact List.mem_map.2 ⟨r.2, haccepted, by simpa using hsegments⟩

theorem arrived_step (hs : h.Sound) (ha : h.trie.edges.Arrived h.keys []) (call : Call α) :
    (h.step call).trie.edges.Arrived (h.step call).keys [] := by
  cases call with
  | insert p v =>
    rw [History.step]
    cases hinsert : h.trie.insert p v with
    | error => exact ha
    | ok t =>
      have hkeys : keys ⟨t, h.accepted ++ [⟨p, v⟩]⟩ = h.keys ++ [p.segments] := by simp [keys]
      rw [hkeys]
      cases hp : p.segments with
      | nil =>
        rw [Trie.insert_of_nil _ hp] at hinsert
        split at hinsert <;> cases hinsert
        exact ha.append hs.valid hs.keyed _
      | cons s rest =>
        rw [Trie.insert_of_cons _ hp] at hinsert
        split at hinsert <;> cases hinsert
        next edges hedges =>
          have hinserted := Edges.inserted_of_insert_eq_ok hedges
          refine hinserted.arrived hs.valid hs.keyed (fun k hk => ?_) ha
          obtain ⟨e, he, hsegments⟩ := List.mem_map.1 hk
          exact ⟨e, Trie.cons_mem_trails.1 (hs.mem_trails.2 ⟨he, hsegments⟩)⟩
  | get p => exact ha
  | write p change =>
    have hkeys : (h.step (.write p change)).keys = h.keys := by
      simp [keys, History.step, Function.comp_def]
    rw [hkeys]
    simp only [History.step, Trie.modify]
    cases p.segments with
    | nil => exact ha
    | cons s rest => exact ha.modify change s rest

end Sound

theorem arrived_run (calls : List (Call α)) :
    (run calls).trie.edges.Arrived (run calls).keys [] := by
  have hfold : ∀ h : History α, h.Sound → h.trie.edges.Arrived h.keys [] →
      (calls.foldl step h).trie.edges.Arrived (calls.foldl step h).keys [] := by
    induction calls with
    | nil => exact fun _ _ ha => ha
    | cons call calls ih => exact fun h hs ha => ih _ (hs.step call) (hs.arrived_step ha call)
  exact hfold {} .empty trivial

/-- After any calls, a lookup misses exactly the paths that no accepted pattern fits. What
it finds is an accepted pattern with its value that fits the path and goes before every
other accepted pattern that fits it. -/
theorem lookup_finds_first (calls : List (Call α)) (path : List String) :
    let trie := (run calls).trie
    let accepted := (run calls).accepted
    (trie.lookup path = none ↔ ∀ q ∈ accepted, ¬ Fits q.pattern.segments path) ∧
    ∀ hit, trie.lookup path = some hit →
      hit.entry ∈ accepted ∧ Fits hit.entry.pattern.segments path ∧
        ∀ q ∈ accepted, Fits q.pattern.segments path →
          q = hit.entry ∨
            Prevails (run calls).keys hit.entry.pattern.segments q.pattern.segments := by
  intro trie accepted
  have hs : (run calls).Sound := .run calls
  refine ⟨hs.lookup_eq_none_iff, fun hit hhit => ?_⟩
  obtain ⟨before, after, htrails, -, hfit, hbefore⟩ := hs.lookup_eq_some hhit
  have hmem : (hit.entry.pattern.segments, hit.entry) ∈ (run calls).trie.trails := by
    simp [htrails]
  refine ⟨(hs.mem_trails.1 hmem).1, hfit, fun q hq hqfit => ?_⟩
  have hqmem : (q.pattern.segments, q) ∈
      before ++ (hit.entry.pattern.segments, hit.entry) :: after :=
    htrails ▸ hs.mem_trails.2 ⟨hq, rfl⟩
  have hpairs := Trie.pairwise_prevails hs.valid (arrived_run calls) path
  rw [htrails, List.pairwise_append, List.pairwise_cons] at hpairs
  simp only [List.mem_append, List.mem_cons] at hqmem
  rcases hqmem with hq | hq | hq
  · exact (hbefore _ hq hqfit).elim
  · exact .inl (Prod.mk.inj hq).2
  · exact .inr (hpairs.2.1.1 _ hq hfit hqfit)

end History

end Wayfinder.Route
