import Mathlib.Data.List.Basic
import Wayfinder.Proofs.Route.Grammar
/-!
# Slashes inside parentheses

The body of a pattern is cut at the slashes that no parenthesis encloses. The pieces are the only way to
write the body as pieces between slashes in which parentheses match and enclose every slash.
-/

namespace Wayfinder.Route

/-- With some parentheses open in front, a text closes no more than are open, closes them all in the end,
and has slashes only where one is open. -/
structure Enclosed (depth : Nat) (cs : List Char) : Prop where
  closes_le : ∀ u v, cs = u ++ v → u.count ')' ≤ depth + u.count '('
  closes_eq : cs.count ')' = depth + cs.count '('
  slash_inside : ∀ u v, cs = u ++ '/' :: v → u.count ')' < depth + u.count '('

namespace Enclosed

variable {depth : Nat} {c : Char} {cs : List Char}

theorem nil_iff : Enclosed depth [] ↔ depth = 0 := by
  constructor
  · intro h
    simpa [eq_comm] using h.closes_eq
  · rintro rfl
    exact ⟨fun u v h => by simp [(List.append_eq_nil_iff.1 h.symm).1], rfl, fun u v h => by simp at h⟩

/-- One character further `opened` and `closed` parentheses are counted. -/
theorem cons_of_count (opened closed : Nat) (hopen : [c].count '(' = opened)
    (hclose : [c].count ')' = closed) (hle : closed ≤ depth + opened) (hslash : c = '/' → 0 < depth) :
    Enclosed depth (c :: cs) ↔ Enclosed (depth + opened - closed) cs := by
  have hopens : ∀ u : List Char, (c :: u).count '(' = opened + u.count '(' := fun u => by
    rw [← List.singleton_append, List.count_append, hopen]
  have hcloses : ∀ u : List Char, (c :: u).count ')' = closed + u.count ')' := fun u => by
    rw [← List.singleton_append, List.count_append, hclose]
  constructor
  · intro h
    refine ⟨fun u v heq => ?_, ?_, fun u v heq => ?_⟩
    · have hu := h.closes_le (c :: u) v (by simp [heq])
      rw [hopens, hcloses] at hu
      omega
    · have hall := h.closes_eq
      rw [hopens, hcloses] at hall
      omega
    · have hu := h.slash_inside (c :: u) v (by simp [heq])
      rw [hopens, hcloses] at hu
      omega
  · intro h
    refine ⟨fun u v heq => ?_, ?_, fun u v heq => ?_⟩
    · cases u with
      | nil => simp
      | cons c' u =>
        obtain ⟨rfl, hrest⟩ := List.cons.inj heq
        have hu := h.closes_le u v hrest
        rw [hopens, hcloses]
        omega
    · have hall := h.closes_eq
      rw [hopens, hcloses]
      omega
    · cases u with
      | nil => simpa using hslash (List.cons.inj heq).1
      | cons c' u =>
        obtain ⟨rfl, hrest⟩ := List.cons.inj heq
        have hu := h.slash_inside u v hrest
        rw [hopens, hcloses]
        omega

@[simp] theorem open_iff : Enclosed depth ('(' :: cs) ↔ Enclosed (depth + 1) cs :=
  cons_of_count 1 0 rfl rfl (by omega) (by simp)

@[simp] theorem close_iff : Enclosed (depth + 1) (')' :: cs) ↔ Enclosed depth cs :=
  cons_of_count 0 1 rfl rfl (by omega) (by simp)

@[simp] theorem not_close : ¬ Enclosed 0 (')' :: cs) := fun h => by
  simpa using h.closes_le [')'] cs rfl

@[simp] theorem not_slash : ¬ Enclosed 0 ('/' :: cs) := fun h => by
  simpa using h.slash_inside [] cs rfl

theorem other_iff (hopen : c ≠ '(') (hclose : c ≠ ')') (hslash : depth = 0 → c ≠ '/') :
    Enclosed depth (c :: cs) ↔ Enclosed depth cs :=
  cons_of_count 0 0 (by simp [hopen]) (by simp [hclose]) (by omega)
    fun hc => Nat.pos_of_ne_zero fun hdepth => hslash hdepth hc

/-- What has neither parentheses nor slashes counts for nothing. -/
theorem append_iff {plain : List Char} (h : ∀ c ∈ plain, c ≠ '(' ∧ c ≠ ')' ∧ c ≠ '/') :
    Enclosed depth (plain ++ cs) ↔ Enclosed depth cs := by
  induction plain with
  | nil => rfl
  | cons c plain ih =>
    obtain ⟨hopen, hclose, hslash⟩ := h c (by simp)
    rw [List.cons_append, other_iff hopen hclose fun _ => hslash]
    exact ih fun c hc => h c (by simp [hc])

theorem head?_ne (h : Enclosed 0 cs) : cs.head? ≠ some '/' := by
  intro hhead
  obtain ⟨rest, rfl⟩ := List.head?_eq_some_iff.1 hhead
  exact not_slash h

/-- A slash at the end would stand where all parentheses are closed. -/
theorem getLast?_ne (h : Enclosed depth cs) : cs.getLast? ≠ some '/' := by
  intro hlast
  obtain ⟨front, rfl⟩ := List.getLast?_eq_some_iff.1 hlast
  have hall : front.count ')' = depth + front.count '(' := by simpa using h.closes_eq
  have hinside := h.slash_inside front [] rfl
  omega

theorem slash_notMem (h : Enclosed 0 cs) (hopen : '(' ∉ cs) : '/' ∉ cs := by
  intro hslash
  obtain ⟨u, v, heq⟩ := List.append_of_mem hslash
  have hu : u.count '(' = 0 := List.count_eq_zero.2 fun hmem => hopen (by simp [heq, hmem])
  have hinside := h.slash_inside u v heq
  omega

end Enclosed

namespace Pattern

theorem splitPieces_other {c : Char} (hopen : c ≠ '(') (hclose : c ≠ ')') {depth : Nat}
    (hslash : depth = 0 → c ≠ '/') (piece cs : List Char) :
    splitPieces depth piece (c :: cs) = splitPieces depth (c :: piece) cs := by
  rw [splitPieces]
  · exact hopen
  · exact fun _ => hclose
  · exact fun _ _ => hclose
  · exact hslash

/-- Nothing is cut where all slashes are enclosed. -/
theorem splitPieces_append {depth : Nat} {front : List Char} (h : Enclosed depth front)
    (piece rest : List Char) :
    splitPieces depth piece (front ++ rest) = splitPieces 0 (front.reverse ++ piece) rest := by
  induction front generalizing depth piece with
  | nil =>
    obtain rfl := Enclosed.nil_iff.1 h
    rfl
  | cons c front ih =>
    have hnext : ∀ {d : Nat}, Enclosed d front →
        splitPieces d (c :: piece) (front ++ rest) =
          splitPieces 0 ((c :: front).reverse ++ piece) rest := fun hd => by
      simpa using ih hd (c :: piece)
    rw [List.cons_append]
    by_cases hopen : c = '('
    · subst hopen
      rw [splitPieces]
      exact hnext (Enclosed.open_iff.1 h)
    by_cases hclose : c = ')'
    · subst hclose
      cases depth with
      | zero => exact (Enclosed.not_close h).elim
      | succ depth =>
        rw [splitPieces]
        exact hnext (Enclosed.close_iff.1 h)
    have hslash : depth = 0 → c ≠ '/' := by
      rintro rfl rfl
      exact Enclosed.not_slash h
    rw [splitPieces_other hopen hclose hslash]
    exact hnext ((Enclosed.other_iff hopen hclose hslash).1 h)

theorem splitPieces_intercalate (piece : List Char) {first : List Char} {others : List (List Char)}
    (h : ∀ p ∈ first :: others, Enclosed 0 p) :
    splitPieces 0 piece (['/'].intercalate (first :: others)) =
      .ok ((piece.reverse ++ first) :: others) := by
  have hfirst := h first (by simp)
  induction others generalizing first piece with
  | nil =>
    rw [List.intercalate_singleton, ← List.append_nil first, splitPieces_append hfirst, splitPieces]
    simp
  | cons other others ih =>
    have hothers : ∀ p ∈ other :: others, Enclosed 0 p := fun p hp => h p (by simp [hp])
    rw [List.intercalate_cons_cons, List.append_assoc, List.singleton_append,
      splitPieces_append hfirst, splitPieces, ih [] hothers (hothers other (by simp))]
    simp [Except.map]

/-- The pieces stand between the slashes of the text, the text read before in front of the first one. -/
theorem intercalate_of_splitPieces {depth : Nat} {piece cs : List Char} {pieces : List (List Char)}
    (h : splitPieces depth piece cs = .ok pieces) :
    ∃ first others, pieces = (piece.reverse ++ first) :: others ∧
      cs = ['/'].intercalate (first :: others) ∧ Enclosed depth first ∧ ∀ p ∈ others, Enclosed 0 p := by
  fun_induction splitPieces depth piece cs generalizing pieces with
  | case1 piece =>
    cases h
    exact ⟨[], [], by simp, by simp, Enclosed.nil_iff.2 rfl, nofun⟩
  | case2 => cases h
  | case3 depth piece cs ih =>
    obtain ⟨first, others, rfl, rfl, hfirst, hothers⟩ := ih h
    exact ⟨'(' :: first, others, by simp, by simp [List.intercalate_cons_cons_left],
      Enclosed.open_iff.2 hfirst, hothers⟩
  | case4 => cases h
  | case5 depth piece cs ih =>
    obtain ⟨first, others, rfl, rfl, hfirst, hothers⟩ := ih h
    exact ⟨')' :: first, others, by simp, by simp [List.intercalate_cons_cons_left],
      Enclosed.close_iff.2 hfirst, hothers⟩
  | case6 piece cs ih =>
    cases hcs : splitPieces 0 [] cs with
    | error e => simp [hcs, Except.map] at h
    | ok rest =>
      obtain ⟨first, others, rfl, rfl, hfirst, hothers⟩ := ih hcs
      rw [hcs] at h
      cases h
      refine ⟨[], first :: others, by simp, by simp, Enclosed.nil_iff.2 rfl, ?_⟩
      exact List.forall_mem_cons.2 ⟨hfirst, hothers⟩
  | case7 depth piece c cs hopen hclose hclose' hslash ih =>
    obtain ⟨first, others, rfl, rfl, hfirst, hothers⟩ := ih h
    have hnot : c ≠ ')' := fun hc => by
      cases depth with
      | zero => exact hclose rfl hc
      | succ depth => exact hclose' depth rfl hc
    exact ⟨c :: first, others, by simp, by simp [List.intercalate_cons_cons_left],
      (Enclosed.other_iff hopen hnot hslash).2 hfirst, hothers⟩

end Pattern

end Wayfinder.Route
