import Wayfinder.Proofs.Regex.Reading.Group
import Wayfinder.Regex.Meaning
/-!
# Expressions between anchors

An expression that can be read by itself fills the group that is put around it between
anchors, if the whole can be read. Then it matches between the ends of a text.
-/

namespace Wayfinder.Regex

namespace Reader

variable {tail : List Char}

theorem agrees_alternatives (htail : Behind tail) {fuel fuel' : Nat} (hle : fuel ≤ fuel')
    (items branches : List Term) (k : Cursor) :
    Agrees (alternatives fuel items branches k)
      (alternatives fuel' items branches (k ++ tail)) := by
  induction fuel generalizing fuel' items branches k tail with
  | zero => exact .none _
  | succ fuel ih =>
    obtain ⟨fuel', rfl⟩ := Nat.exists_eq_add_of_lt hle
    obtain ⟨t, ht, heq⟩ := Cursor.skip_append htail k
    simp only [alternatives, heq, Cursor.rest_append]
    generalize k.skip = k
    have hagain : ∀ {t}, Behind t → ∀ items branches k,
        Agrees (alternatives fuel items branches k)
          (alternatives (fuel + fuel') items branches (k ++ t)) :=
      fun ht items branches k => ih ht (Nat.le_add_right ..) items branches k
    have hrepeated : ∀ {t}, Behind t → ∀ min max k,
        Agrees (do alternatives fuel (← pushRepeated min max (greed k).1 items) branches (greed k).2)
          (do alternatives (fuel + fuel') (← pushRepeated min max (greed (k ++ t)).1 items) branches
                (greed (k ++ t)).2) := by
      intro t ht min max k
      rw [greed_append ht]
      exact .bind_left fun items => hagain ht _ _ _
    cases hk : k.rest with
    | nil =>
      -- what stands behind ends the expression too
      rcases ht with rfl | rfl <;> exact .some _ _ (by simp [Behind])
    | cons c cs =>
      simp only [List.cons_append]
      split
      · next h => cases h
      · next h =>
        cases h
        exact .some _ _ ht
      · next h =>
        cases h
        exact hagain ht _ _ _
      · next h =>
        cases h
        exact hrepeated ht _ _ _
      · next h =>
        cases h
        exact hrepeated ht _ _ _
      · next h =>
        cases h
        exact hrepeated ht _ _ _
      · next h =>
        cases h
        exact (agrees_bounds? ht _).bind fun bounds k t ht => hrepeated ht _ _ _
      · next h =>
        cases h
        refine (agrees_opening ht _).bind fun found k t ht => ?_
        cases found with
        | settings settings =>
          exact hagain ht _ _ { k with skipsBlanks := skipsAfter settings k.skipsBlanks }
        | group captures settings =>
          refine (hagain ht [] [] { k with
            skipsBlanks := skipsAfter settings k.skipsBlanks }).bind fun inner k' t ht => ?_
          simp only [Cursor.rest_append]
          cases hclose : k'.rest with
          | nil => exact .none _
          | cons d ds =>
            by_cases hd : d = ')'
            · subst hd
              exact hagain ht _ _ { k' with rest := ds, skipsBlanks := k.skipsBlanks }
            · have hnone : closing (d :: ds) = none := by simp [closing, hd]
              rw [hnone]
              exact .none _
      · next h =>
        cases h
        exact (agrees_bracket ht _).bind fun _ k t ht => hagain ht _ _ _
      · next h =>
        cases h
        exact (agrees_escape ht _).bind fun _ k t ht => hagain ht _ _ _
      · next h =>
        cases h
        exact hagain ht _ _ _
      · next h =>
        cases h
        exact hagain ht _ _ _
      · next h =>
        cases h
        exact hagain ht _ _ _
      · next h =>
        -- none of the characters above
        cases h
        simp [*]

theorem alternatives_lineEnd (fuel : Nat) (items branches : List Term) (names : List (List Char)) :
    alternatives (fuel + 2) items branches ⟨['$'], false, names⟩ =
      some (Term.ofBranches (Term.ofItems (.anchor .lineEnd :: items).reverse :: branches).reverse,
        ⟨[], false, names⟩) := by
  simp [alternatives, Cursor.skip, Cursor.goto]

/-- A group behind the first anchor is read up to its end, and the expression from there
on. -/
theorem alternatives_anchored (fuel : Nat) (cs : List Char) :
    alternatives (fuel + 2) [] [] ⟨'^' :: '(' :: '?' :: ':' :: cs, false, []⟩ =
      (alternatives fuel [] [] ⟨cs, false, []⟩).bind fun read =>
        (closing read.2.rest).bind fun behind =>
          alternatives fuel [.group false [] read.1, .anchor .lineStart] []
            { read.2 with rest := behind, skipsBlanks := false } := by
  simp [alternatives, Cursor.skip, Cursor.goto, opening, flagGroup, flagLetters, skipsAfter]

end Reader

/-- An expression that can be read by itself is the whole group when it is read between
anchors. -/
theorem Term.eq_of_read?_anchored {source : List Char} {inner whole : Term}
    (hinner : read? source = some inner)
    (hwhole : read? ('^' :: '(' :: '?' :: ':' :: (source ++ [')', '$'])) = some whole) :
    whole = .concat [.anchor .lineStart, .group false [] inner, .anchor .lineEnd] := by
  unfold read? at hinner
  split at hinner
  · next t k hread =>
    split at hinner <;> cases hinner
    next hend =>
      simp only [Bool.and_eq_true, List.isEmpty_iff] at hend
      have hle : source.length + 1 ≤ source.length + 5 := by omega
      obtain ⟨tail, htail, hgroup⟩ :=
        Reader.agrees_alternatives (.inr rfl) hle [] [] _ _ _ hread
      have hfuel : ('^' :: '(' :: '?' :: ':' :: (source ++ [')', '$'])).length + 1 =
          source.length + 5 + 2 := by simp
      rw [read?, hfuel, Reader.alternatives_anchored] at hwhole
      have hgroup' : Reader.alternatives (source.length + 5) [] []
          ⟨source ++ [')', '$'], false, []⟩ = some (inner, k ++ tail) := hgroup
      simp only [hgroup', Option.bind_some, Cursor.rest_append, hend.1, List.nil_append] at hwhole
      rcases htail with rfl | rfl
      · cases hwhole
      · simp only [Reader.closing, Option.bind_some, Reader.alternatives_lineEnd] at hwhole
        split at hwhole <;> cases hwhole
        rfl
  · cases hinner

/-- Outside of other groups and under no flags the anchors stand for the ends of the
text. -/
theorem Term.meaning?_anchored (t : Term) :
    (concat [.anchor .lineStart, .group false [] t, .anchor .lineEnd]).meaning? =
      t.meaning?.map fun inner =>
        .seq (.look .textStart) (.seq (.group false inner) (.look .textEnd)) := by
  have hflags : Flags.applyAll {} [] = {} := rfl
  cases h : Meaning.exprOf {} t <;>
    simp [meaning?, Meaning.exprOf, Meaning.exprsOf, Meaning.lookOf, Expr.seqAll, hflags, h]

end Wayfinder.Regex
