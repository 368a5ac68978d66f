import Mathlib.Data.List.Basic
import Wayfinder.Proofs.Route.History
/-!
# The order of arrival

Expressions below one node stand in the order in which their edges were made: the edge of an
expression is made by the first accepted pattern that runs through it.
-/

namespace Wayfinder.Route

/-- The place of the first pattern that begins with some segments, in the order of
acceptance. -/
def firstThrough (keys : List (List Segment)) (front : List Segment) : Nat :=
  keys.findIdx fun key => front <+: key

theorem firstThrough_append_of_mem {keys : List (List Segment)} {front key : List Segment}
    (hkey : key ∈ keys) (hfront : front <+: key) (more : List (List Segment)) :
    firstThrough (keys ++ more) front = firstThrough keys front := by
  have hlt : firstThrough keys front < keys.length :=
    List.findIdx_lt_length_of_exists ⟨key, hkey, by simpa using hfront⟩
  rw [firstThrough, List.findIdx_append]
  exact if_pos hlt

theorem firstThrough_lt_of_mem {keys : List (List Segment)} {front key : List Segment}
    (hkey : key ∈ keys) (hfront : front <+: key) (more : List (List Segment)) :
    firstThrough (keys ++ more) front < keys.length := by
  rw [firstThrough_append_of_mem hkey hfront]
  exact List.findIdx_lt_length_of_exists ⟨key, hkey, by simpa using hfront⟩

theorem length_le_firstThrough {keys : List (List Segment)} {front : List Segment}
    (hnew : ∀ key ∈ keys, ¬ front <+: key) (more : List (List Segment)) :
    keys.length ≤ firstThrough (keys ++ more) front := by
  have hnot : ¬ firstThrough keys front < keys.length := by
    rw [firstThrough, List.findIdx_lt_length]
    rintro ⟨key, hkey, hfront⟩
    exact hnew key hkey (by simpa using hfront)
  rw [firstThrough, List.findIdx_append]
  rw [firstThrough] at hnot
  rw [if_neg hnot]
  omega

namespace Edges

variable {α : Type} {keys : List (List Segment)} {front : List Segment}

/-- Below the node that `front` leads to, expressions stand in the order in which patterns
first ran through them. -/
def Arrived (keys : List (List Segment)) : List Segment → Edges α → Prop
  | _, nil => True
  | front, cons s _ below siblings =>
    (∀ m q n r, s = .regex m q → .regex n r ∈ siblings.heads →
      firstThrough keys (front ++ [s]) < firstThrough keys (front ++ [.regex n r])) ∧
      Arrived keys (front ++ [s]) below ∧ Arrived keys front siblings

theorem arrived_nil : Arrived keys front (nil : Edges α) := trivial

/-- All trails below a node are among the keys. -/
def Keyed (keys : List (List Segment)) (front : List Segment) (es : Edges α) : Prop :=
  ∀ r ∈ es.trails, front ++ r.1 ∈ keys

namespace Keyed

variable {s : Segment} {terminal : Option (Entry α)} {below siblings : Edges α}

theorem beside (h : (cons s terminal below siblings).Keyed keys front) :
    siblings.Keyed keys front := fun r hr => h r (mem_trails_cons.2 (.inr hr))

theorem under (h : (cons s terminal below siblings).Keyed keys front) :
    below.Keyed keys (front ++ [s]) := by
  intro r hr
  simpa using h (s :: r.1, r.2) (mem_trails_cons.2 (.inl ⟨r.1, rfl, .inr hr⟩))

theorem exists_key {es : Edges α} (h : es.Keyed keys front) (hes : es.Valid) {t : Segment}
    (ht : t ∈ es.heads) : ∃ key ∈ keys, front ++ [t] <+: key := by
  obtain ⟨r, hr, rest, hrest⟩ := hes.exists_trail ht
  exact ⟨front ++ r.1, h r hr, ⟨rest, by simp [hrest]⟩⟩

end Keyed

theorem Arrived.append {es : Edges α} (h : es.Arrived keys front) (hes : es.Valid)
    (hkeys : es.Keyed keys front) (more : List (List Segment)) :
    es.Arrived (keys ++ more) front := by
  induction es generalizing front with
  | nil => trivial
  | cons s terminal below siblings ihb ihs =>
    refine ⟨fun m q n r hs hr => ?_, ihb h.2.1 hes.2.2.1 hkeys.under,
      ihs h.2.2 hes.2.2.2 hkeys.beside⟩
    obtain ⟨key, hkey, hfront⟩ := hkeys.exists_key hes (List.mem_cons_self ..)
    obtain ⟨key', hkey', hfront'⟩ := hkeys.exists_key hes (List.mem_cons_of_mem _ hr)
    rw [firstThrough_append_of_mem hkey hfront, firstThrough_append_of_mem hkey' hfront']
    exact h.1 m q n r hs hr

theorem Arrived.modify {es : Edges α} (h : es.Arrived keys front) (f : α → α) (s : Segment)
    (rest : List Segment) : (es.modify f s rest).Arrived keys front := by
  induction es generalizing front s rest with
  | nil => trivial
  | cons t terminal below siblings ihb ihs =>
    by_cases hts : t = s
    · subst hts
      cases rest with
      | nil =>
        rw [modify_here]
        exact h
      | cons s' rest =>
        rw [modify_below]
        exact ⟨h.1, ihb h.2.1 s' rest, h.2.2⟩
    · rw [modify_beside f hts]
      exact ⟨by simpa using h.1, h.2.1, ihs h.2.2 s rest⟩

theorem arrived_branch {e : Entry α} {siblings : Edges α} (h : siblings.Arrived keys front)
    {s : Segment} (hs : ∀ m q n r, s = .regex m q → .regex n r ∉ siblings.heads)
    (rest : List Segment) : (branch e siblings s rest).Arrived keys front := by
  induction rest generalizing s siblings front with
  | nil => exact ⟨fun m q n r hq hr => (hs m q n r hq hr).elim, trivial, h⟩
  | cons s' rest ih =>
    exact ⟨fun m q n r hq hr => (hs m q n r hq hr).elim, ih arrived_nil (by simp [heads]), h⟩

/-- An insertion keeps the order when its pattern comes last: it makes its edges behind
those of the patterns before it. -/
theorem Inserted.arrived {e : Entry α} {es es' : Edges α} {s : Segment} {rest : List Segment}
    (h : Inserted e es s rest es') (hes : es.Valid) (hkeys : es.Keyed keys front)
    (hthrough : ∀ k, front ++ s :: k ∈ keys → ∃ e, (s :: k, e) ∈ es.trails)
    (ha : es.Arrived keys front) : es'.Arrived (keys ++ [front ++ s :: rest]) front := by
  induction h generalizing front with
  | last s rest => exact arrived_branch arrived_nil (by simp [heads]) rest
  | @front s t hbefore terminal below siblings rest =>
    refine arrived_branch (ha.append hes hkeys _) (fun m q n r hs hr => ?_) rest
    -- what an expression goes in front of comes later than all expressions
    subst hs
    have hrank : 1 < t.rank := by
      rcases Segment.precedes_iff.1 hbefore with hrank | ⟨_, _, heq, -⟩
      · exact hrank
      · cases heq
    have hle : t.rank ≤ 1 := by
      rcases List.mem_cons.1 hr with rfl | hr
      · exact le_rfl
      · exact (hes.1 _ hr).rank_le
    omega
  | here s below siblings => exact ha.append hes hkeys _
  | @under s s' rest inner inner' terminal siblings hinner ih =>
    have hold := ha.append hes hkeys [front ++ s :: s' :: rest]
    have hinner' := ih hes.2.2.1 hkeys.under (fun k hk => ?_) ha.2.1
    · exact ⟨hold.1, by simpa using hinner', hold.2.2⟩
    · obtain ⟨e, he⟩ := hthrough (s' :: k) (by simpa using hk)
      rcases hes.trail_through.1 he with ⟨hnil, -⟩ | hbelow
      · cases hnil
      · exact ⟨e, hbelow⟩
  | @beside s t hslot hbehind rest others others' terminal below hothers ih =>
    have hts : t ≠ s := fun hts => by simp [hts] at hslot
    have hold := ha.append hes hkeys [front ++ s :: rest]
    have hothers' := ih hes.2.2.2 hkeys.beside (fun k hk => ?_) ha.2.2
    · refine ⟨fun m q n r ht hr => ?_, hold.2.1, hothers'⟩
      by_cases hmem : .regex n r ∈ others.heads
      · exact hold.1 m q n r ht hmem
      · -- the edge is new, so no earlier pattern runs through it
        obtain rfl := (hothers.mem_heads.1 hr).resolve_right hmem
        obtain ⟨key, hkey, hfront⟩ := hkeys.exists_key hes (List.mem_cons_self ..)
        refine (firstThrough_lt_of_mem hkey hfront _).trans_le (length_le_firstThrough ?_ _)
        rintro _ hkey' ⟨k, rfl⟩
        obtain ⟨e, he⟩ := hthrough k (by simpa using hkey')
        obtain ⟨u, hu, _, heq⟩ := exists_head_of_mem_trails ((trail_beside hts).1 he)
        cases heq
        exact hmem hu
    · obtain ⟨e, he⟩ := hthrough k hk
      exact ⟨e, (trail_beside hts).1 he⟩

end Edges

end Wayfinder.Route
