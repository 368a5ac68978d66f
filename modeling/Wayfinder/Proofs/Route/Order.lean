import Mathlib.Data.List.Basic
import Mathlib.Data.List.Pairwise
import Wayfinder.Proofs.Route.Arrival
/-!
# The order of the trails

The trails of a tree stand in an order of their own, which the segments determine together with the
arrival of the expressions. Nothing else is left in a tree of the way in which it came about.
-/

namespace Wayfinder.Route

def Segment.isRegex : Segment → Bool
  | regex _ _ => true
  | _ => false

def Pattern.hasRegex (p : Pattern) : Bool := p.segments.any Segment.isRegex

namespace Segment

/-- Below the node that `front` leads to, the edge of one segment stands in front of that of another:
it is of an earlier kind, an earlier text, or an expression that arrived earlier. -/
inductive Leads (keys : List (List Segment)) (front : List Segment) : Segment → Segment → Prop
  | kind {s t : Segment} (hrank : s.rank < t.rank) : Leads keys front s t
  | text {a b : String} (hab : a < b) : Leads keys front (.literal a) (.literal b)
  | arrival {m n : String} {q r : Restriction} (hne : q ≠ r)
      (hfirst : firstThrough keys (front ++ [.regex m q]) <
        firstThrough keys (front ++ [.regex n r])) :
      Leads keys front (.regex m q) (.regex n r)

variable {keys : List (List Segment)} {front : List Segment} {s t : Segment}

theorem Leads.of_ahead (hst : s.Ahead t)
    (harrived : ∀ m q n r, s = .regex m q → t = .regex n r →
      firstThrough keys (front ++ [s]) < firstThrough keys (front ++ [t])) :
    Leads keys front s t := by
  rcases ahead_iff.1 hst with hrank | ⟨a, b, rfl, rfl, hab⟩ | ⟨m, n, q, r, rfl, rfl, hne⟩
  · exact .kind hrank
  · exact .text hab
  · exact .arrival hne (harrived m q n r rfl rfl)

theorem Leads.asymm (hst : Leads keys front s t) : ¬ Leads keys front t s := by
  intro hts
  cases hst with
  | kind hrank =>
    cases hts with
    | kind hrank' => exact hrank.asymm hrank'
    | text => exact hrank.ne rfl
    | arrival => exact hrank.ne rfl
  | text hab =>
    cases hts with
    | kind hrank => exact hrank.ne rfl
    | text hba => exact hab.asymm hba
  | arrival _ hfirst =>
    cases hts with
    | kind hrank => exact hrank.ne rfl
    | arrival _ hfirst' => exact hfirst.asymm hfirst'

theorem Leads.ne (hst : Leads keys front s t) : s ≠ t := by
  rintro rfl
  exact hst.asymm hst

end Segment

/-- Below the node that `front` leads to, one trail stands in front of another: it ends where the
other one goes on, or leads where they part. -/
inductive Before (keys : List (List Segment)) :
    List Segment → List Segment → List Segment → Prop
  | ends (front : List Segment) (t : Segment) (q : List Segment) : Before keys front [] (t :: q)
  | parts {front : List Segment} {s t : Segment} (hst : s.Leads keys front t) (p q : List Segment) :
      Before keys front (s :: p) (t :: q)
  | shared {front : List Segment} (s : Segment) {p q : List Segment}
      (hpq : Before keys (front ++ [s]) p q) : Before keys front (s :: p) (s :: q)

theorem Before.asymm {keys : List (List Segment)} {front p q : List Segment}
    (hpq : Before keys front p q) : ¬ Before keys front q p := by
  induction hpq with
  | ends => exact fun hqp => nomatch hqp
  | parts hst =>
    intro hqp
    cases hqp with
    | parts hts => exact hst.asymm hts
    | shared => exact hst.ne rfl
  | shared s _ ih =>
    intro hqp
    cases hqp with
    | parts hss => exact hss.ne rfl
    | shared _ hqp => exact ih hqp

namespace Edges

variable {α : Type} {keys : List (List Segment)}

theorem pairwise_before {es : Edges α} (hes : es.Valid) {front : List Segment}
    (ha : es.Arrived keys front) :
    es.trails.Pairwise fun r r' => Before keys front r.1 r'.1 := by
  induction es generalizing front with
  | nil => exact .nil
  | cons s terminal below siblings ihb ihs =>
    have hinside : ∀ r ∈ (terminal.toList.map fun e => ([s], e)) ++
        below.trails.map fun r => (s :: r.1, r.2), ∃ rest, r.1 = s :: rest := by
      simp only [List.mem_append, List.mem_map]
      rintro _ (⟨_, _, rfl⟩ | ⟨_, _, rfl⟩) <;> exact ⟨_, rfl⟩
    rw [trails, List.pairwise_append]
    refine ⟨?_, ihs hes.2.2.2 ha.2.2, ?_⟩
    · rw [List.pairwise_append, List.pairwise_map, List.pairwise_map]
      refine ⟨by cases terminal <;> simp, (ihb hes.2.2.1 ha.2.1).imp (.shared s), ?_⟩
      simp only [List.mem_map]
      rintro _ ⟨_, _, rfl⟩ _ ⟨r, hr, rfl⟩
      obtain ⟨t, _, rest, hrest⟩ := exists_head_of_mem_trails hr
      exact .shared s (hrest ▸ .ends _ t rest)
    · intro r hr r' hr'
      obtain ⟨p, hp⟩ := hinside r hr
      obtain ⟨t, ht, q, hq⟩ := exists_head_of_mem_trails hr'
      rw [hp, hq]
      refine .parts (.of_ahead (hes.1 t ht) fun m r n r' hs ht' => ?_) p q
      subst ht'
      exact ha.1 m r n r' hs ht

end Edges

theorem Trie.pairwise_before {α : Type} {keys : List (List Segment)} {t : Trie α}
    (ht : t.edges.Valid) (ha : t.edges.Arrived keys []) :
    t.trails.Pairwise fun r r' => Before keys [] r.1 r'.1 := by
  rw [Trie.trails, List.pairwise_append]
  refine ⟨by cases t.root <;> simp, Edges.pairwise_before ht ha, ?_⟩
  simp only [List.mem_map]
  rintro _ ⟨_, _, rfl⟩ r hr
  obtain ⟨s, _, rest, hrest⟩ := Edges.exists_head_of_mem_trails hr
  exact hrest ▸ .ends [] s rest

end Wayfinder.Route
