import Mathlib.Data.List.Basic
import Mathlib.Data.List.Induction
import Mathlib.Data.List.Perm.Basic
import Wayfinder.Proofs.Route.FiniteMap
import Wayfinder.Proofs.Route.Precedence
/-!
# Entries in another order

Whether entries find their places in one trie is a matter of each two of them. Once they are there,
the trie remembers of their order only how the expressions arrived, so the entries without any may
come in whatever order.
-/

namespace Wayfinder.Route

open scoped List
open Regex (Expr)

/-! ## The arrival of expressions -/

/-- A position in a list is compared in any part of it that has all the hits. -/
theorem findIdx_filter_lt {β : Type} {p q keep : β → Bool} (hp : ∀ x, p x = true → keep x = true)
    (hq : ∀ x, q x = true → keep x = true) {xs : List β} (h : xs.findIdx p < xs.findIdx q) :
    (xs.filter keep).findIdx p < (xs.filter keep).findIdx q := by
  induction xs with
  | nil => simp at h
  | cons x xs ih =>
    rw [List.findIdx_cons, List.findIdx_cons] at h
    cases hkeep : keep x with
    | false =>
      have hpx : p x = false := by by_contra hpx; simp [hp x (by simpa using hpx)] at hkeep
      have hqx : q x = false := by by_contra hqx; simp [hq x (by simpa using hqx)] at hkeep
      simp only [hpx, hqx, cond_false, Nat.add_lt_add_iff_right] at h
      simpa [hkeep] using ih h
    | true =>
      rw [List.filter_cons_of_pos hkeep, List.findIdx_cons, List.findIdx_cons]
      cases hqx : q x with
      | true => simp [hqx] at h
      | false =>
        cases hpx : p x with
        | true => simp
        | false =>
          simp only [hpx, hqx, cond_false, Nat.add_lt_add_iff_right] at h
          simpa using ih h

theorem firstThrough_filter_lt {keys : List (List Segment)} {front front' : List Segment}
    (hfront : front.any Segment.isRegex = true) (hfront' : front'.any Segment.isRegex = true)
    (h : firstThrough keys front < firstThrough keys front') :
    firstThrough (keys.filter (·.any Segment.isRegex)) front <
      firstThrough (keys.filter (·.any Segment.isRegex)) front' := by
  have hthrough : ∀ {front : List Segment}, front.any Segment.isRegex = true →
      ∀ key, decide (front <+: key) = true → key.any Segment.isRegex = true := by
    intro front hany key hkey
    obtain ⟨rest, rfl⟩ := of_decide_eq_true hkey
    simp [hany]
  exact findIdx_filter_lt (hthrough hfront) (hthrough hfront') h

/-- Only the keys with expressions tell how expressions arrived. -/
theorem Edges.Arrived.filter {α : Type} {keys : List (List Segment)} {front : List Segment}
    {es : Edges α} (ha : es.Arrived keys front) :
    es.Arrived (keys.filter (·.any Segment.isRegex)) front := by
  induction es generalizing front with
  | nil => trivial
  | cons s terminal below siblings ihb ihs =>
    refine ⟨fun m q n r hs hr => ?_, ihb ha.2.1, ihs ha.2.2⟩
    have hfirst := ha.1 m q n r hs hr
    subst hs
    exact firstThrough_filter_lt (by simp [Segment.isRegex]) (by simp [Segment.isRegex]) hfirst

/-! ## Entries that find their places together -/

theorem NamesClash.symm {q p : List Segment} {i : Nat} {a b : String} (h : NamesClash q p i a b) :
    NamesClash p q i b a := by
  refine ⟨h.agree.symm, ?_, h.ne.symm⟩
  rcases h.kinds with ⟨hq, hp⟩ | ⟨r, r', hq, hp, hsource⟩
  · exact .inl ⟨hp, hq⟩
  · exact .inr ⟨r', r, hp, hq, hsource.symm⟩

variable {α : Type}

/-- Adds entries one after the other, up to the first that finds no place. -/
def Trie.insertAll (t : Trie α) (entries : List (Entry α)) : Except RouteError (Trie α) :=
  entries.foldlM (fun t e => t.insert e.pattern e.value) t

theorem Trie.insertAll_concat (t : Trie α) (entries : List (Entry α)) (e : Entry α) :
    t.insertAll (entries ++ [e]) = t.insertAll entries >>= fun t => t.insert e.pattern e.value := by
  simp [insertAll]

/-- Each of two entries finds its place beside the other. -/
def Entry.Joins (q p : Entry α) : Prop :=
  (∀ i a b, ¬ NamesClash q.pattern.segments p.pattern.segments i a b) ∧
    q.pattern.segments ≠ p.pattern.segments

theorem Entry.Joins.symm {q p : Entry α} (h : q.Joins p) : p.Joins q :=
  ⟨fun i a b hclash => h.1 i b a hclash.symm, h.2.symm⟩

namespace History

theorem run_of_insertAll {entries : List (Entry α)} {t : Trie α}
    (h : ({} : Trie α).insertAll entries = .ok t) :
    run (entries.map fun e => .insert e.pattern e.value) = ⟨t, entries⟩ := by
  induction entries using List.reverseRecOn generalizing t with
  | nil =>
    cases h
    rfl
  | append_singleton entries e ih =>
    rw [Trie.insertAll_concat] at h
    obtain ⟨t', hentries, hlast⟩ := except_bind_eq_ok.1 h
    have hrun : run (entries.map fun e => .insert e.pattern e.value) = ⟨t', entries⟩ := ih hentries
    rw [run] at hrun ⊢
    rw [List.map_append, List.foldl_append, hrun]
    simp [step, hlast]

theorem Sound.of_insertAll {entries : List (Entry α)} {t : Trie α}
    (h : ({} : Trie α).insertAll entries = .ok t) : Sound ⟨t, entries⟩ :=
  run_of_insertAll h ▸ .run _

/-- Entries find their places one after the other if each two of them do. -/
theorem exists_insertAll_iff {entries : List (Entry α)} :
    (∃ t, ({} : Trie α).insertAll entries = .ok t) ↔ entries.Pairwise Entry.Joins := by
  induction entries using List.reverseRecOn with
  | nil => exact iff_of_true ⟨{}, rfl⟩ .nil
  | append_singleton entries e ih =>
    have hlast : ∀ {t}, ({} : Trie α).insertAll entries = .ok t →
        ((∃ t', t.insert e.pattern e.value = .ok t') ↔ ∀ q ∈ entries, q.Joins e) := by
      intro t ht
      rw [(Sound.of_insertAll ht).exists_ok_iff]
      constructor
      · rintro ⟨hclash, hplace⟩ q hq
        exact ⟨fun i a b hnames => hclash i a b ⟨q, hq, hnames⟩, hplace q hq⟩
      · intro hjoins
        refine ⟨?_, fun q hq => (hjoins q hq).2⟩
        rintro i a b ⟨q, hq, hnames⟩
        exact (hjoins q hq).1 i a b hnames
    rw [List.pairwise_append, ← ih]
    simp only [Trie.insertAll_concat, except_bind_eq_ok]
    constructor
    · rintro ⟨t', t, ht, ht'⟩
      exact ⟨⟨t, ht⟩, List.pairwise_singleton _ _, by simpa using (hlast ht).1 ⟨t', ht'⟩⟩
    · rintro ⟨⟨t, ht⟩, -, hjoins⟩
      obtain ⟨t', ht'⟩ := (hlast ht).2 (by simpa using hjoins)
      exact ⟨t', t, ht, ht'⟩

theorem pairwise_before_of_insertAll {entries : List (Entry α)} {t : Trie α}
    (h : ({} : Trie α).insertAll entries = .ok t) :
    t.trails.Pairwise fun r r' => Before
      ((entries.filter (·.pattern.hasRegex)).map fun e => e.pattern.segments) [] r.1 r'.1 := by
  have harrived := arrived_run (entries.map fun e => .insert e.pattern e.value)
  rw [run_of_insertAll h] at harrived
  have hfilter := Trie.pairwise_before (Sound.of_insertAll h).valid harrived.filter
  rw [keys, List.filter_map] at hfilter
  exact hfilter

/-- Entries that find their places one after the other find them in any other order as well. If the
patterns with expressions keep theirs, the lists of entries are the same, and each lookup finds the
same entry and binds the same. -/
theorem insertAll_of_perm {xs ys : List (Entry α)} {t : Trie α}
    (hinsert : ({} : Trie α).insertAll xs = .ok t) (hperm : ys ~ xs)
    (hregexes : ys.filter (·.pattern.hasRegex) = xs.filter (·.pattern.hasRegex)) :
    ∃ t', ({} : Trie α).insertAll ys = .ok t' ∧ t'.entries = t.entries ∧
      ∀ path, t'.lookup path = t.lookup path := by
  have hpairs : ys.Pairwise Entry.Joins :=
    (hperm.pairwise_iff Entry.Joins.symm).2 (exists_insertAll_iff.1 ⟨t, hinsert⟩)
  obtain ⟨t', hinsert'⟩ := exists_insertAll_iff.2 hpairs
  have htrails : t'.trails ~ t.trails := by
    calc t'.trails
      _ ~ History.keyed ys := (Sound.of_insertAll hinsert').trails_perm
      _ ~ History.keyed xs := hperm.map _
      _ ~ t.trails := (Sound.of_insertAll hinsert).trails_perm.symm
  have hbefore := pairwise_before_of_insertAll hinsert
  have hbefore' := pairwise_before_of_insertAll hinsert'
  rw [hregexes] at hbefore'
  -- two lists of the same trails in the one order that there is
  have heq : t'.trails = t.trails :=
    htrails.eq_of_pairwise (fun r r' _ _ hrr' hr'r => (hrr'.asymm hr'r).elim) hbefore' hbefore
  refine ⟨t', hinsert', ?_, fun path => ?_⟩
  · rw [← Trie.map_snd_trails, heq, Trie.map_snd_trails]
  · rw [Trie.lookup_eq, heq, Trie.lookup_eq]

/-- Two expressions that fit one text, and a pattern without any that moves in front of them. -/
theorem insertAll_of_perm_around_expressions :
    let anchored (e : Expr) : Expr :=
      .seq (.look .textStart) (.seq (.group false e) (.look .textEnd))
    let a : Expr := .one (.single 'a')
    let q : Restriction := ⟨"a", anchored a, by decide +kernel⟩
    let r : Restriction := ⟨"a+", anchored (.rep a 1 none true), by decide +kernel⟩
    let first : Pattern := ⟨"/n/:x(a)", [.literal "n", .regex "x" q], by decide +kernel⟩
    let second : Pattern := ⟨"/n/:y(a+)", [.literal "n", .regex "y" r], by decide +kernel⟩
    let plain : Pattern := ⟨"/:z/a", [.param "z", .literal "a"], by decide +kernel⟩
    let xs : List (Entry Nat) := [⟨first, 1⟩, ⟨second, 2⟩, ⟨plain, 3⟩]
    let ys : List (Entry Nat) := [⟨plain, 3⟩, ⟨first, 1⟩, ⟨second, 2⟩]
    ∃ t t', ({} : Trie Nat).insertAll xs = .ok t ∧ ys ~ xs ∧
      ys.filter (·.pattern.hasRegex) = xs.filter (·.pattern.hasRegex) ∧
      ({} : Trie Nat).insertAll ys = .ok t' ∧ t'.entries = t.entries ∧
        ∀ path, t'.lookup path = t.lookup path := by
  intro anchored a q r first second plain xs ys
  have hperm : ys ~ xs := (List.perm_append_singleton (⟨plain, 3⟩ : Entry Nat) (xs.take 2)).symm
  obtain ⟨t, ht⟩ : ∃ t, ({} : Trie Nat).insertAll xs = .ok t := ⟨_, rfl⟩
  obtain ⟨t', ht'⟩ := insertAll_of_perm ht hperm rfl
  exact ⟨t, t', ht, hperm, rfl, ht'⟩

end History

end Wayfinder.Route
