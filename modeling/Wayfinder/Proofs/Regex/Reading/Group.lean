import Wayfinder.Proofs.Regex.Reading.Class
/-!
# Groups and repetitions with more behind

What opens a group and the bounds of a repetition are read the same with the end of a group
behind them.
-/

namespace Wayfinder.Regex.Reader

open Unicode (isBlank)

variable {tail : List Char}

/-! ## Groups -/

theorem agrees_groupName? (htail : Behind tail) (cs : List Char) :
    Agrees (groupName? cs) (groupName? (cs ++ tail)) := by
  unfold groupName?
  cases h : cs.dropWhile (· != '>') with
  | nil => cases cs.takeWhile (· != '>') <;> exact .none _
  | cons d ds =>
    obtain ⟨htake, hdrop⟩ := cut_append h tail
    simp only [htake, hdrop]
    cases cs.takeWhile (· != '>') with
    | nil => exact .none _
    | cons first more =>
      simp only [List.cons_append]
      split
      · exact .some _ _ htail
      · exact .none _

theorem flagLetters_append {taken settings : List FlagSetting} {negating dangling : Bool}
    {cs rest : List Char} (h : flagLetters taken negating dangling cs = some (settings, rest))
    (tail : List Char) : (∃ c rest', rest = c :: rest') ∧
      flagLetters taken negating dangling (cs ++ tail) = some (settings, rest ++ tail) := by
  induction cs generalizing taken negating dangling with
  | nil => cases h
  | cons c cs ih =>
    simp only [flagLetters, List.cons_append] at h ⊢
    split at h
    · next hend =>
      simp only [hend, if_true]
      cases dangling <;> cases h
      exact ⟨⟨c, cs, rfl⟩, rfl⟩
    · next hend =>
      simp only [hend]
      split at h
      · next hminus =>
        simp only [hminus]
        cases negating with
        | true => cases h
        | false => exact ih h
      · next hminus =>
        simp only [hminus]
        cases hflag : flagOfLetter? c with
        | none =>
          rw [hflag] at h
          cases h
        | some flag =>
          rw [hflag] at h
          dsimp only at h ⊢
          split at h
          · cases h
          · next hnew =>
            rw [if_neg hnew]
            exact ih h

theorem agrees_namedGroup (htail : Behind tail) (k : Cursor) (cs : List Char) :
    Agrees (namedGroup k cs) (namedGroup (k ++ tail) (cs ++ tail)) := by
  refine (agrees_groupName? htail cs).bind fun name rest t ht => ?_
  dsimp only [Cursor.append_def]
  split
  · exact .none _
  · exact .some _ _ ht

theorem agrees_flagGroup (htail : Behind tail) (k : Cursor) (cs : List Char) :
    Agrees (flagGroup k cs) (flagGroup (k ++ tail) (cs ++ tail)) := by
  unfold flagGroup
  cases h : flagLetters [] false false cs with
  | none => exact .none _
  | some found =>
    obtain ⟨settings, rest⟩ := found
    obtain ⟨⟨c, rest', rfl⟩, h'⟩ := flagLetters_append h tail
    simp only [h', Option.bind_eq_bind, Option.bind_some]
    by_cases hc : c = ')'
    · subst hc
      cases settings with
      | nil => exact .none _
      | cons s settings => exact .some _ _ htail
    · simp [hc]
      exact .some _ _ htail

theorem agrees_opening (htail : Behind tail) (k : Cursor) :
    Agrees (opening k) (opening (k ++ tail)) := by
  obtain ⟨t, ht, heq⟩ := Cursor.skip_append htail k
  simp only [opening, heq, Cursor.rest_append]
  generalize k.skip = k
  cases hk : k.rest with
  | nil =>
    rcases ht with rfl | rfl
    · exact .some _ _ (.inl rfl)
    · exact .some _ _ (.inr rfl)
  | cons c cs =>
    by_cases hc : c = '?'
    · subst hc
      cases cs with
      | nil => exact .none _
      | cons d ds =>
        have hflags := agrees_flagGroup ht k (d :: ds)
        by_cases hless : d = '<'
        · subst hless
          cases ds with
          | nil => exact .none _
          | cons e es =>
            by_cases he : e = '=' ∨ e = '!'
            · rcases he with rfl | rfl <;> exact .none _
            · obtain ⟨he, he'⟩ := not_or.1 he
              simpa [he, he'] using agrees_namedGroup ht k (e :: es)
        · by_cases hname : d = 'P'
          · subst hname
            cases ds with
            | nil => exact .none _
            | cons e es =>
              by_cases he : e = '<'
              · subst he
                exact agrees_namedGroup ht k es
              · simpa [he] using hflags
          · by_cases hlook : d = '=' ∨ d = '!'
            · rcases hlook with rfl | rfl <;> exact .none _
            · obtain ⟨hequal, hbang⟩ := not_or.1 hlook
              simpa [hless, hname, hequal, hbang] using hflags
    · simpa [hc] using Agrees.some _ k ht

/-! ## Repetitions -/

theorem dropWhile_isBlank_append (htail : Behind tail) (cs : List Char) :
    (cs ++ tail).dropWhile isBlank = cs.dropWhile isBlank ++ tail := by
  have htail' : tail.dropWhile isBlank = tail := by rcases htail with rfl | rfl <;> decide
  rw [List.dropWhile_append, htail']
  split
  · next h => simp [List.isEmpty_iff.1 h]
  · rfl

theorem digits_append (htail : Behind tail) {fuel fuel' : Nat} (value : Option Nat) (k : Cursor)
    (hlen : k.rest.length < fuel) (hle : fuel ≤ fuel') :
    ∃ tail', Behind tail' ∧ count?.digits fuel' value (k ++ tail) =
      ((count?.digits fuel value k).1, (count?.digits fuel value k).2 ++ tail') := by
  induction fuel generalizing fuel' value k tail with
  | zero => exact (Nat.not_lt_zero _ hlen).elim
  | succ fuel ih =>
    obtain ⟨fuel', rfl⟩ := Nat.exists_eq_add_of_lt hle
    simp only [count?.digits, Cursor.rest_append]
    cases hk : k.rest with
    | nil => exact ⟨tail, htail, by rcases htail with rfl | rfl <;> rfl⟩
    | cons c cs =>
      simp only [List.cons_append]
      by_cases hc : c.isDigit = true
      · obtain ⟨tail', htail', heq⟩ := Cursor.after_append htail k cs
        have hshort : (k.after cs).rest.length < fuel := by
          have := Cursor.length_after_le k cs
          simp only [hk, List.length_cons] at hlen
          omega
        simp only [hc, if_true, Cursor.after_of_append, heq]
        exact ih htail' _ _ hshort (Nat.le_add_right ..)
      · exact ⟨tail, htail, by simp [hc]⟩

theorem agrees_count? (htail : Behind tail) (k : Cursor) :
    Agrees (count? k) (count? (k ++ tail)) := by
  unfold count?
  have hstart : (k ++ tail).goto ((k ++ tail).rest.dropWhile isBlank) =
      k.goto (k.rest.dropWhile isBlank) ++ tail := by
    rw [Cursor.rest_append, dropWhile_isBlank_append htail, Cursor.goto_append]
  simp only [hstart]
  generalize k.goto (k.rest.dropWhile isBlank) = start
  have hle : start.rest.length + 1 ≤ (start ++ tail).rest.length + 1 := by simp
  obtain ⟨t, ht, hdigits⟩ := digits_append htail none start (Nat.lt_succ_self _) hle
  simp only [hdigits]
  generalize count?.digits (start.rest.length + 1) none start = found
  obtain ⟨value, k⟩ := found
  cases value with
  | none => exact .none _
  | some n =>
    obtain ⟨t', ht', hafter⟩ := Cursor.after_append ht k (k.rest.dropWhile isBlank)
    simp only [Cursor.rest_append, dropWhile_isBlank_append ht, List.length_append,
      Nat.add_lt_add_iff_right, Cursor.after_of_append, hafter]
    split
    · split
      · exact .some _ _ ht'
      · exact .some _ _ ht
    · exact .none _

theorem greed_append (htail : Behind tail) (k : Cursor) :
    greed (k ++ tail) = ((greed k).1, (greed k).2 ++ tail) := by
  unfold greed
  cases hk : k.rest with
  | nil => rcases htail with rfl | rfl <;> simp [hk]
  | cons c cs =>
    by_cases hc : c = '?'
    · subst hc
      simp [hk]
    · simp [hk, hc]

theorem agrees_upperBound? (htail : Behind tail) (min : Nat) (k : Cursor) :
    Agrees (upperBound? min k) (upperBound? min (k ++ tail)) := by
  simp only [upperBound?, Cursor.rest_append]
  cases hk : k.rest with
  | nil => rcases htail with rfl | rfl <;> exact .some _ _ (by simp [Behind])
  | cons c cs =>
    by_cases hc : c = ','
    · subst hc
      obtain ⟨t, ht, hafter⟩ := Cursor.after_append htail k cs
      simp only [List.cons_append, Cursor.after_of_append, hafter, Cursor.rest_append]
      have hcount : Agrees ((count? (k.after cs)).map fun read => (some read.1, read.2))
          ((count? (k.after cs ++ t)).map fun read => (some read.1, read.2)) :=
        (agrees_count? ht _).map fun max k t ht => .some _ _ ht
      cases (k.after cs).rest with
      | nil => rcases ht with rfl | rfl <;> exact hcount
      | cons d ds =>
        by_cases hd : d = '}'
        · subst hd
          exact .some _ _ ht
        · simpa [hd] using hcount
    · simpa [hc] using Agrees.some (some min) k htail

theorem agrees_bounds? (htail : Behind tail) (k : Cursor) :
    Agrees (bounds? k) (bounds? (k ++ tail)) := by
  obtain ⟨t, ht, heq⟩ := Cursor.skip_append htail k
  unfold bounds?
  rw [heq]
  refine (agrees_count? ht k.skip).bind fun min k t ht => ?_
  refine (agrees_upperBound? ht min k).bind fun max k t ht => ?_
  simp only [Cursor.rest_append]
  cases k.rest with
  | nil => exact .none _
  | cons c cs =>
    by_cases hc : c = '}'
    · subst hc
      obtain ⟨t', ht', hafter⟩ := Cursor.after_append ht k cs
      simp only [List.cons_append, Cursor.after_of_append, hafter]
      split
      · exact .some _ _ ht'
      · exact .none _
    · simpa [hc] using Agrees.none _

end Wayfinder.Regex.Reader
