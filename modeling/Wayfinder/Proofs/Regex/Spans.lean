import Mathlib.Data.List.Basic
import Mathlib.Data.List.Count
import Wayfinder.Regex.Expr
/-!
# What an expression matches

An expression spans a part of a text from one gap to another. This is said by the form of
the expression alone, and carrying all gaps along the expression at once finds just these
parts. The carrying stops early: a repetition ends as soon as nothing changes, and makes no
more rounds than the text has gaps.
-/

namespace Wayfinder.Regex

open Unicode (CharSet)

/-- So many steps of a relation, one after the other. -/
def Steps (R : Nat → Nat → Prop) : Nat → Nat → Nat → Prop
  | 0, i, j => i = j
  | n + 1, i, k => ∃ j, R i j ∧ Steps R n j k

theorem steps_add {R : Nat → Nat → Prop} {m n i k : Nat} :
    Steps R (m + n) i k ↔ ∃ j, Steps R m i j ∧ Steps R n j k := by
  induction m generalizing i with
  | zero => simp [Steps]
  | succ m ih =>
    rw [Nat.succ_add]
    simp only [Steps, ih]
    constructor
    · rintro ⟨j, hij, l, hjl, hlk⟩
      exact ⟨l, ⟨j, hij, hjl⟩, hlk⟩
    · rintro ⟨l, ⟨j, hij, hjl⟩, hlk⟩
      exact ⟨j, hij, l, hjl, hlk⟩

/-- The gap in front of the character at an index. -/
def Gap.atIndex (cs : List Char) (i : Nat) : Gap := ⟨if i = 0 then none else cs[i - 1]?, cs[i]?⟩

theorem Gap.getElem?_listFrom (before : Option Char) (cs : List Char) (i : Nat) :
    (listFrom before cs)[i]? =
      if i ≤ cs.length then some ⟨if i = 0 then before else cs[i - 1]?, cs[i]?⟩ else none := by
  induction cs generalizing before i with
  | nil => cases i <;> simp [listFrom]
  | cons c cs ih =>
    cases i with
    | zero => simp [listFrom]
    | succ i =>
      simp only [listFrom, List.getElem?_cons_succ, ih, List.length_cons, Nat.add_le_add_iff_right]
      cases i <;> simp

theorem Gap.getElem?_list (cs : List Char) (i : Nat) :
    (list cs)[i]? = if i ≤ cs.length then some (Gap.atIndex cs i) else none :=
  getElem?_listFrom none cs i

/-- The expression matches the part of the text from the gap `i` to the gap `j`. -/
def Expr.Spans (cs : List Char) : Expr → Nat → Nat → Prop
  | .empty, i, j => i = j
  | .one set, i, j => j = i + 1 ∧ ∃ c, cs[i]? = some c ∧ set.contains c = true
  | .look l, i, j => i = j ∧ l.holds (Gap.atIndex cs i) = true
  | .group _ inner, i, j => inner.Spans cs i j
  | .seq first second, i, k => ∃ j, first.Spans cs i j ∧ second.Spans cs j k
  | .alt left right, i, j => left.Spans cs i j ∨ right.Spans cs i j
  | .rep inner min max _, i, j =>
    ∃ more, (∀ m ∈ max, more ≤ m - min) ∧ Steps (inner.Spans cs) (min + more) i j

namespace Reach

/-- Whether a gap belongs to the set. -/
def Has (r : Reach) (i : Nat) : Prop := r[i]? = some true

instance (r : Reach) (i : Nat) : Decidable (r.Has i) :=
  inferInstanceAs (Decidable (r[i]? = some true))

theorem has_union {a b : Reach} (hlen : a.length = b.length) {i : Nat} :
    (a.union b).Has i ↔ a.Has i ∨ b.Has i := by
  simp only [Has, union, List.getElem?_zipWith]
  by_cases hi : i < a.length
  · simp [hi, hlen ▸ hi]
  · simp [hi, hlen ▸ hi]

theorem length_union {a b : Reach} (hlen : a.length = b.length) :
    (a.union b).length = a.length := by
  simp [union, hlen]

theorem count_false_union_lt {a b : Reach} (hlen : a.length = b.length) (hne : union a b ≠ a) :
    (union a b).count false < a.count false := by
  induction a generalizing b with
  | nil => exact (hne rfl).elim
  | cons x a ih =>
    cases b with
    | nil => cases hlen
    | cons y b =>
      have hlen' : a.length = b.length := by simpa using hlen
      have hunion : union (x :: a) (y :: b) = (x || y) :: union a b := rfl
      rw [hunion] at hne ⊢
      by_cases heq : union a b = a
      · -- the first flag is the one that changed
        have hxy : x = false ∧ y = true := by
          cases x <;> cases y <;> simp_all
        obtain ⟨rfl, rfl⟩ := hxy
        simp [heq]
      · have hlt := ih hlen' heq
        cases x <;> cases y <;> simp <;> omega

end Reach

/-- The step takes the gaps of a text of `n` gaps along the relation. -/
def Carries (n : Nat) (step : Reach → Reach) (R : Nat → Nat → Prop) : Prop :=
  ∀ r : Reach, r.length = n →
    (step r).length = n ∧ ∀ j, (step r).Has j ↔ ∃ i, r.Has i ∧ R i j

namespace Carries

variable {n : Nat} {f g : Reach → Reach} {R S : Nat → Nat → Prop}

theorem id : Carries n (fun r => r) (fun i j => i = j) := fun r hr => ⟨hr, by simp⟩

theorem comp (hf : Carries n f R) (hg : Carries n g S) :
    Carries n (fun r => g (f r)) (fun i k => ∃ j, R i j ∧ S j k) := by
  intro r hr
  obtain ⟨hflen, hfhas⟩ := hf r hr
  obtain ⟨hglen, hghas⟩ := hg (f r) hflen
  refine ⟨hglen, fun k => ?_⟩
  simp only [hghas, hfhas]
  constructor
  · rintro ⟨j, ⟨i, hi, hij⟩, hjk⟩
    exact ⟨i, hi, j, hij, hjk⟩
  · rintro ⟨i, hi, j, hij, hjk⟩
    exact ⟨j, ⟨i, hi, hij⟩, hjk⟩

theorem union (hf : Carries n f R) (hg : Carries n g S) :
    Carries n (fun r => (f r).union (g r)) (fun i j => R i j ∨ S i j) := by
  intro r hr
  obtain ⟨hflen, hfhas⟩ := hf r hr
  obtain ⟨hglen, hghas⟩ := hg r hr
  have hlen : (f r).length = (g r).length := hflen.trans hglen.symm
  refine ⟨(Reach.length_union hlen).trans hflen, fun j => ?_⟩
  simp only [Reach.has_union hlen, hfhas, hghas, and_or_left, exists_or]

/-! ## Repetitions -/

theorem steps_of_eq (hf : Carries n f R) {r : Reach} (hr : r.length = n) (hfix : f r = r)
    (k j : Nat) : r.Has j ↔ ∃ i, r.Has i ∧ Steps R k i j := by
  induction k generalizing j with
  | zero => simp [Steps]
  | succ k ih =>
    have hstep : ∀ l, r.Has l ↔ ∃ i, r.Has i ∧ R i l := by
      intro l
      conv_lhs => rw [← hfix]
      exact (hf r hr).2 l
    rw [ih]
    constructor
    · rintro ⟨l, hl, hlj⟩
      obtain ⟨i, hi, hil⟩ := (hstep l).1 hl
      exact ⟨i, hi, l, hil, hlj⟩
    · rintro ⟨i, hi, l, hil, hlj⟩
      exact ⟨l, (hstep l).2 ⟨i, hi, hil⟩, hlj⟩

theorem iterate (hf : Carries n f R) (k : Nat) : Carries n (Reach.iterate f k) (Steps R k) := by
  induction k with
  | zero => exact id
  | succ k ih =>
    intro r hr
    rw [Reach.iterate]
    split
    · next hfix => exact ⟨hr, hf.steps_of_eq hr hfix (k + 1)⟩
    · exact hf.comp ih r hr

theorem has_of_steps {r : Reach} (hclosed : ∀ i j, r.Has i → R i j → r.Has j) {k i j : Nat}
    (hi : r.Has i) (hsteps : Steps R k i j) : r.Has j := by
  induction k generalizing i with
  | zero => exact hsteps ▸ hi
  | succ k ih =>
    obtain ⟨l, hil, hlj⟩ := hsteps
    exact ih (hclosed i l hi hil) hlj

theorem grow (hf : Carries n f R) (k : Nat) :
    Carries n (Reach.grow f k) (fun i j => ∃ m ≤ k, Steps R m i j) := by
  induction k with
  | zero =>
    intro r hr
    simp [Reach.grow, Steps, hr]
  | succ k ih =>
    intro r hr
    obtain ⟨hlen, hhas⟩ := id.union hf r hr
    simp only [Reach.grow]
    split
    · next hfix =>
      have hclosed : ∀ i j, r.Has i → R i j → r.Has j := by
        intro i j hi hij
        rw [← hfix]
        exact (hhas j).2 ⟨i, hi, .inr hij⟩
      refine ⟨hr, fun j => ⟨fun hj => ⟨j, hj, 0, Nat.zero_le _, rfl⟩, ?_⟩⟩
      rintro ⟨i, hi, m, -, hsteps⟩
      exact has_of_steps hclosed hi hsteps
    · obtain ⟨hlen', hhas'⟩ := ih _ hlen
      refine ⟨hlen', fun j => ?_⟩
      rw [hhas']
      constructor
      · rintro ⟨l, hl, m, hm, hsteps⟩
        obtain ⟨i, hi, rfl | hil⟩ := (hhas l).1 hl
        · exact ⟨i, hi, m, by omega, hsteps⟩
        · exact ⟨i, hi, m + 1, by omega, l, hil, hsteps⟩
      · rintro ⟨i, hi, m, hm, hsteps⟩
        cases m with
        | zero => exact ⟨i, (hhas i).2 ⟨i, hi, .inl rfl⟩, 0, Nat.zero_le _, hsteps⟩
        | succ m =>
          obtain ⟨l, hil, hlj⟩ := hsteps
          exact ⟨l, (hhas l).2 ⟨i, hi, .inr hil⟩, m, by omega, hlj⟩

/-- Once there were as many rounds as gaps are missing, further rounds change nothing. -/
theorem grow_add (hf : Carries n f R) {r : Reach} (hr : r.length = n) {k : Nat}
    (hk : r.count false ≤ k) (m : Nat) : Reach.grow f (k + m) r = Reach.grow f k r := by
  induction k generalizing r with
  | zero =>
    have hfix : r.union (f r) = r := by
      by_contra hne
      have := Reach.count_false_union_lt (hr.trans (hf r hr).1.symm) hne
      omega
    cases m with
    | zero => rfl
    | succ m => simp [Reach.grow, hfix]
  | succ k ih =>
    rw [Nat.succ_add]
    simp only [Reach.grow]
    split
    · rfl
    · next hne =>
      have := Reach.count_false_union_lt (hr.trans (hf r hr).1.symm) hne
      exact ih (id.union hf r hr).1 (by omega)

/-- The rounds of a repetition reach what any allowed number of steps reaches, if they are
not fewer than allowed or not fewer than there are gaps. -/
theorem grow_all (hf : Carries n f R) {k : Nat} {Allowed : Nat → Prop}
    (hle : ∀ m ≤ k, Allowed m) (hall : ∀ m, Allowed m → m ≤ k ∨ n ≤ k) :
    Carries n (Reach.grow f k) (fun i j => ∃ m, Allowed m ∧ Steps R m i j) := by
  intro r hr
  obtain ⟨hlen, hhas⟩ := hf.grow k r hr
  refine ⟨hlen, fun j => ⟨fun hj => ?_, ?_⟩⟩
  · obtain ⟨i, hi, m, hm, hsteps⟩ := (hhas j).1 hj
    exact ⟨i, hi, m, hle m hm, hsteps⟩
  · rintro ⟨i, hi, m, hm, hsteps⟩
    rcases hall m hm with hmk | hnk
    · exact (hhas j).2 ⟨i, hi, m, hmk, hsteps⟩
    · have hcount : r.count false ≤ k := Nat.le_trans List.count_le_length (hr ▸ hnk)
      rw [← hf.grow_add hr hcount m]
      exact ((hf.grow (k + m) r hr).2 j).2 ⟨i, hi, m, Nat.le_add_left .., hsteps⟩

theorem rep (hf : Carries n f R) (min : Nat) (max : Option Nat) :
    Carries n (fun r => Reach.grow f (match max with
        | none => n
        | some m => Nat.min (m - min) n) (Reach.iterate f min r))
      (fun i j => ∃ more, (∀ m ∈ max, more ≤ m - min) ∧ Steps R (min + more) i j) := by
  have hgrow : Carries n (Reach.grow f (match max with
      | none => n
      | some m => Nat.min (m - min) n))
      (fun i j => ∃ more, (∀ m ∈ max, more ≤ m - min) ∧ Steps R more i j) := by
    refine hf.grow_all (fun more hmore m hm => ?_) fun more hmore => ?_
    · cases hm
      exact Nat.le_trans hmore (Nat.min_le_left ..)
    · cases max with
      | none => exact .inr (Nat.le_refl n)
      | some m =>
        have := hmore m rfl
        rcases Nat.le_total (m - min) n with h | h
        · exact .inl (by simpa [Nat.min_eq_left h] using this)
        · exact .inr (by simp [Nat.min_eq_right h])
  intro r hr
  obtain ⟨hlen, hhas⟩ := (hf.iterate min).comp hgrow r hr
  refine ⟨hlen, fun k => (hhas k).trans (exists_congr fun i => and_congr_right fun _ => ?_)⟩
  simp only [steps_add]
  constructor
  · rintro ⟨j, hij, more, hmore, hjk⟩
    exact ⟨more, hmore, j, hij, hjk⟩
  · rintro ⟨more, hmore, j, hij, hjk⟩
    exact ⟨j, hij, more, hmore, hjk⟩

/-! ## Characters and conditions -/

theorem advance (cs : List Char) (set : CharSet) :
    Carries (cs.length + 1) (Reach.advance set (Gap.list cs))
      (fun i j => j = i + 1 ∧ ∃ c, cs[i]? = some c ∧ set.contains c = true) := by
  intro r hr
  have hgaps : (Gap.list cs).length = cs.length + 1 := Gap.length_listFrom none cs
  refine ⟨by simp [Reach.advance, hgaps, hr], fun j => ?_⟩
  cases j with
  | zero => simp [Reach.Has, Reach.advance]
  | succ j =>
    simp only [Reach.Has, Reach.advance, List.getElem?_cons_succ, List.getElem?_dropLast,
      List.length_zipWith, hgaps, hr, List.getElem?_zipWith, Gap.getElem?_list]
    by_cases hj : j < cs.length
    · have hjr : j < r.length := by omega
      simp [hj, Nat.le_of_lt hj, hjr, Gap.atIndex]
    · simp [hj]

theorem look (cs : List Char) (l : Look) :
    Carries (cs.length + 1) (List.zipWith (fun g here => here && l.holds g) (Gap.list cs))
      (fun i j => i = j ∧ l.holds (Gap.atIndex cs i) = true) := by
  intro r hr
  have hgaps : (Gap.list cs).length = cs.length + 1 := Gap.length_listFrom none cs
  refine ⟨by simp [hgaps, hr], fun j => ?_⟩
  simp only [Reach.Has, List.getElem?_zipWith, Gap.getElem?_list]
  by_cases hj : j ≤ cs.length
  · have hjr : j < r.length := by omega
    simp [hj, hjr]
  · have hjr : r.length ≤ j := by omega
    simp [hj, hjr]

end Carries

namespace Expr

/-- The expression matches the text from its first gap to its last. -/
def MatchesWhole (e : Expr) (cs : List Char) : Prop := e.Spans cs 0 cs.length

/-- Carrying gaps along an expression takes each gap to the ends of the parts that begin
there. -/
theorem carries_reach (cs : List Char) (e : Expr) :
    Carries (cs.length + 1) (e.reach (Gap.list cs)) (e.Spans cs) := by
  induction e with
  | empty => exact .id
  | one set => exact .advance cs set
  | look l => exact .look cs l
  | group _ inner ih => exact ih
  | seq first second ih₁ ih₂ => exact ih₁.comp ih₂
  | alt left right ih₁ ih₂ => exact ih₁.union ih₂
  | rep inner min max _ ih =>
    have hlen : (Gap.list cs).length = cs.length + 1 := Gap.length_listFrom none cs
    rw [← hlen] at ih ⊢
    exact ih.rep min max

/-- An expression is found in a text exactly when it spans some part of it. -/
theorem matchesIn_iff {e : Expr} {cs : List Char} :
    e.matchesIn cs = true ↔ ∃ i j, i ≤ cs.length ∧ e.Spans cs i j := by
  have hgaps : (Gap.list cs).length = cs.length + 1 := Gap.length_listFrom none cs
  obtain ⟨-, hhas⟩ := e.carries_reach cs ((Gap.list cs).map fun _ => true) (by simp [hgaps])
  have hall : ∀ i, Reach.Has ((Gap.list cs).map fun _ => true) i ↔ i ≤ cs.length := by
    intro i
    rw [Reach.Has, List.map_const', List.getElem?_replicate, hgaps, ← Nat.lt_succ_iff]
    simp
  have hany : e.matchesIn cs = true ↔
      ∃ j, Reach.Has (e.reach (Gap.list cs) ((Gap.list cs).map fun _ => true)) j := by
    rw [matchesIn, List.any_eq_true]
    constructor
    · rintro ⟨x, hx, rfl⟩
      exact List.mem_iff_getElem?.1 hx
    · rintro ⟨j, hj⟩
      exact ⟨true, List.mem_iff_getElem?.2 ⟨j, hj⟩, rfl⟩
  rw [hany]
  simp only [hhas, hall]
  exact exists_comm

theorem matchesWhole_iff {e : Expr} {cs : List Char} : e.MatchesWhole cs ↔
    (e.reach (Gap.list cs) (true :: List.replicate cs.length false)).Has cs.length := by
  obtain ⟨-, hhas⟩ := e.carries_reach cs (true :: List.replicate cs.length false) (by simp)
  have hfirst : ∀ i, Reach.Has (true :: List.replicate cs.length false) i ↔ i = 0 := by
    intro i
    cases i <;> simp [Reach.Has, List.getElem?_replicate]
  rw [hhas]
  simp only [hfirst, exists_eq_left]
  rfl

instance (e : Expr) (cs : List Char) : Decidable (e.MatchesWhole cs) :=
  decidable_of_iff _ matchesWhole_iff.symm

end Expr

end Wayfinder.Regex
