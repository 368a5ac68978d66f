import Wayfinder.Proofs.Regex.Reading.Escape
/-!
# Classes with more behind

A bracketed class is read the same with the end of a group behind it. A single item of a
class need not be: a hyphen at the end of the text would take what is behind for the end of
a range. But no class ends there.
-/

namespace Wayfinder.Regex.Reader

variable {tail : List Char}

theorem cut_append {c d : Char} {cs ds : List Char} (h : cs.dropWhile (· != c) = d :: ds)
    (tail : List Char) : (cs ++ tail).takeWhile (· != c) = cs.takeWhile (· != c) ∧
      (cs ++ tail).dropWhile (· != c) = d :: ds ++ tail := by
  induction cs with
  | nil => cases h
  | cons e cs ih =>
    by_cases he : e = c
    · subst he
      have hds : e :: cs = d :: ds := by simpa using h
      simp [← hds]
    · have hcs : cs.dropWhile (· != c) = d :: ds := by simpa [he] using h
      simpa [he] using ih hcs

theorem asciiName?_append (htail : Behind tail) (negated : Bool) (cs : List Char) :
    asciiName? negated (cs ++ tail) =
      (asciiName? negated cs).map fun read => (read.1, read.2 ++ tail) := by
  unfold asciiName?
  cases h : cs.dropWhile (· != ':') with
  | nil =>
    have hnone : (cs ++ tail).dropWhile (· != ':') = [] := by
      rw [List.dropWhile_append, h]
      rcases htail with rfl | rfl <;> rfl
    simp [hnone]
  | cons d ds =>
    obtain ⟨htake, hdrop⟩ := cut_append h tail
    simp only [htake, hdrop]
    cases ds with
    | nil => rcases htail with rfl | rfl <;> simp
    | cons e es =>
      by_cases hd : d = ':'
      · by_cases he : e = ']'
        · subst hd he
          simp only [List.cons_append]
          split <;> rfl
        · simp [he]
      · simp [hd]

theorem asciiClass?_append (htail : Behind tail) (cs : List Char) :
    asciiClass? (cs ++ tail) = (asciiClass? cs).map fun read => (read.1, read.2 ++ tail) := by
  match cs with
  | [] => rcases htail with rfl | rfl <;> rfl
  | [c] =>
    by_cases hc : c = ':'
    · subst hc
      rcases htail with rfl | rfl <;> rfl
    · simp [asciiClass?, hc]
  | c :: d :: cs =>
    by_cases hc : c = ':'
    · subst hc
      by_cases hd : d = '^'
      · subst hd
        exact asciiName?_append htail true cs
      · simp only [asciiClass?, List.cons_append, List.cons.injEq, hd, false_and, imp_self,
          implies_true]
        exact asciiName?_append htail false (d :: cs)
    · simp [asciiClass?, hc]

theorem agrees_setUnit (htail : Behind tail) (k : Cursor) :
    Agrees (setUnit k) (setUnit (k ++ tail)) := by
  unfold setUnit
  cases hk : k.rest with
  | nil => exact .none _
  | cons c cs =>
    by_cases hslash : c = '\\'
    · subst hslash
      simp only [Cursor.rest_append, hk, List.cons_append]
      exact agrees_escape htail _
    · simp only [Cursor.rest_append, hk, List.cons_append]
      exact .some _ _ htail

/-- A cursor in front of a hyphen and nothing more than blanks. -/
def HyphenLast (k : Cursor) : Prop := ∃ cs, k.rest = '-' :: cs ∧ (k.after cs).rest = []

/-- A class does not end in a hyphen without its bracket. -/
theorem setBody_eq_none {k : Cursor} (hk : HyphenLast k) (fuel : Nat)
    (pending : Option (SetOperator × SetTerm)) (items : List SetTerm) :
    setBody fuel pending items k = none := by
  cases fuel with
  | zero => rfl
  | succ fuel =>
    obtain ⟨cs, hrest, hend⟩ := hk
    have hoperator : setOperator? ('-' :: cs) = none := by
      unfold setOperator?
      split
      · next h => cases h
      · next h =>
        cases h
        rw [Cursor.after, Cursor.skip_of_hyphen rfl] at hend
        cases hend
      · next h => cases h
      · rfl
    have hitem : setItem k = none := by
      have hend' : (k.goto cs).skip.rest = [] := hend
      simp [setItem, setUnit, hrest, hend']
    simp [setBody, Cursor.skip_of_hyphen hrest, hrest, hoperator, hitem]

/-- An item of a class is read the same, unless it is followed by a last hyphen: what is
behind that could be taken for the end of a range. -/
theorem agrees_setItem (htail : Behind tail) (k : Cursor) :
    Agrees (setItem k) (setItem (k ++ tail)) ∨
      ∃ item k', setItem k = some (item, k') ∧ HyphenLast k' := by
  unfold setItem
  cases hunit : setUnit k with
  | none => exact .inl (.none _)
  | some found =>
    obtain ⟨low, k₁⟩ := found
    obtain ⟨t₁, ht₁, hunit'⟩ := agrees_setUnit htail k low k₁ hunit
    obtain ⟨t₂, ht₂, hskip⟩ := Cursor.skip_append ht₁ k₁
    simp only [hunit', Option.bind_eq_bind, Option.bind_some, hskip, Cursor.rest_append]
    generalize k₁.skip = k₂
    cases hk₂ : k₂.rest with
    | nil => exact .inl (.none _)
    | cons c cs =>
      by_cases hc : c = '-'
      · subst hc
        obtain ⟨t₃, ht₃, hafter⟩ := Cursor.after_append ht₂ k₂ cs
        simp only [List.cons_append, Cursor.after_of_append, hafter, Cursor.rest_append]
        cases hk₃ : (k₂.after cs).rest with
        | nil =>
          cases setTermOfUnit? low with
          | none => exact .inl (.none _)
          | some item => exact .inr ⟨item, k₂, rfl, cs, hk₂, hk₃⟩
        | cons d ds =>
          refine .inl ?_
          by_cases hd : d = ']' ∨ d = '-'
          · rcases hd with rfl | rfl <;> exact .bind_left fun item => .some _ _ ht₂
          · obtain ⟨hd, hd'⟩ := not_or.1 hd
            simp only [List.cons_append, List.cons.injEq, hd, hd', false_and, imp_self,
              implies_true]
            refine (agrees_setUnit ht₃ _).bind fun high rest t ht => ?_
            dsimp only
            split
            · split
              · exact .some _ _ ht
              · exact .none _
            · exact .none _
      · simp only [List.cons_append, List.cons.injEq, hc, false_and, imp_self, implies_true]
        exact .inl (.bind_left fun item => .some _ _ ht₂)

theorem leadingHyphens_append (htail : Behind tail) (k : Cursor) (more : List Char)
    {fuel fuel' : Nat} (items : List SetTerm) (cs : List Char) (hlen : cs.length < fuel)
    (hle : fuel ≤ fuel') :
    ∃ tail', Behind tail' ∧ leadingHyphens (k ++ more) fuel' items (cs ++ tail) =
      ((leadingHyphens k fuel items cs).1, (leadingHyphens k fuel items cs).2 ++ tail') := by
  induction fuel generalizing fuel' items cs tail with
  | zero => exact (Nat.not_lt_zero _ hlen).elim
  | succ fuel ih =>
    obtain ⟨fuel', rfl⟩ := Nat.exists_eq_add_of_lt hle
    simp only [leadingHyphens]
    cases cs with
    | nil => exact ⟨tail, htail, by rcases htail with rfl | rfl <;> rfl⟩
    | cons c rest =>
      by_cases hc : c = '-'
      · subst hc
        obtain ⟨tail', htail', heq⟩ := Cursor.after_append htail k rest
        have hshort : (k.after rest).rest.length < fuel := by
          have := Cursor.length_after_le k rest
          simp only [List.length_cons] at hlen
          omega
        simp only [List.cons_append, Cursor.after_of_append, heq, Cursor.rest_append]
        exact ih htail' _ _ hshort (Nat.le_add_right ..)
      · exact ⟨tail, htail, by simp [hc]⟩

theorem openingLiterals_append (htail : Behind tail) (k : Cursor) :
    ∃ tail', Behind tail' ∧ openingLiterals (k ++ tail) =
      ((openingLiterals k).1, (openingLiterals k).2 ++ tail') := by
  have hle : k.rest.length + 1 ≤ (k.rest ++ tail).length + 1 := by simp
  obtain ⟨t, ht, heq⟩ := leadingHyphens_append htail k tail [] k.rest (Nat.lt_succ_self _) hle
  simp only [openingLiterals, Cursor.rest_append, heq]
  generalize leadingHyphens k (k.rest.length + 1) [] k.rest = found
  obtain ⟨items, cs⟩ := found
  by_cases hitems : items = []
  · subst hitems
    cases cs with
    | nil => exact ⟨t, ht, by rcases ht with rfl | rfl <;> rfl⟩
    | cons c rest =>
      by_cases hc : c = ']'
      · subst hc
        obtain ⟨t', ht', hafter⟩ := Cursor.after_append ht k rest
        exact ⟨t', ht', by simp [hafter]⟩
      · exact ⟨t, ht, by simp [hc, Cursor.goto, Cursor.append_def]⟩
  · exact ⟨t, ht, by simp [hitems, Cursor.goto, Cursor.append_def]⟩

theorem setOpening_append (htail : Behind tail) (k : Cursor) :
    ∃ tail', Behind tail' ∧ setOpening (k ++ tail) =
      ((setOpening k).1, (setOpening k).2.1, (setOpening k).2.2 ++ tail') := by
  obtain ⟨t, ht, heq⟩ := Cursor.skip_append htail k
  simp only [setOpening, heq]
  generalize k.skip = k
  simp only [Cursor.rest_append]
  cases hk : k.rest with
  | nil =>
    obtain ⟨t', ht', hliterals⟩ := openingLiterals_append ht k
    exact ⟨t', ht', by rcases ht with rfl | rfl <;> simp [hliterals]⟩
  | cons c rest =>
    by_cases hc : c = '^'
    · subst hc
      obtain ⟨t', ht', hafter⟩ := Cursor.after_append ht k rest
      obtain ⟨t'', ht'', hliterals⟩ := openingLiterals_append ht' (k.after rest)
      exact ⟨t'', ht'', by simp [hafter, hliterals]⟩
    · obtain ⟨t', ht', hliterals⟩ := openingLiterals_append ht k
      exact ⟨t', ht', by simp [hc, hliterals]⟩

theorem setOperator?_append (htail : Behind tail) {c : Char} (cs : List Char) :
    setOperator? (c :: cs ++ tail) =
      (setOperator? (c :: cs)).map fun read => (read.1, read.2 ++ tail) := by
  cases cs with
  | nil =>
    rcases htail with rfl | rfl <;> simp [setOperator?]
  | cons d cs =>
    by_cases hdouble : c = '&' ∧ d = '&' ∨ c = '-' ∧ d = '-' ∨ c = '~' ∧ d = '~'
    · rcases hdouble with ⟨rfl, rfl⟩ | ⟨rfl, rfl⟩ | ⟨rfl, rfl⟩ <;> rfl
    · have hnone : ∀ rest, setOperator? (c :: d :: rest) = none := by
        intro rest
        unfold setOperator?
        split <;> simp_all
      simp [hnone]

theorem agrees_setBody (htail : Behind tail) {fuel fuel' : Nat} (hle : fuel ≤ fuel')
    (pending : Option (SetOperator × SetTerm)) (items : List SetTerm) (k : Cursor) :
    Agrees (setBody fuel pending items k) (setBody fuel' pending items (k ++ tail)) := by
  induction fuel generalizing fuel' pending items k tail with
  | zero => exact .none _
  | succ fuel ih =>
    obtain ⟨fuel', rfl⟩ := Nat.exists_eq_add_of_lt hle
    obtain ⟨t, ht, heq⟩ := Cursor.skip_append htail k
    simp only [setBody, heq, Cursor.rest_append]
    generalize k.skip = k
    cases hk : k.rest with
    | nil => exact .none _
    | cons c cs =>
      by_cases hopen : c = '['
      · subst hopen
        simp only [List.cons_append, asciiClass?_append ht, Cursor.goto_append]
        cases asciiClass? cs with
        | some found =>
          obtain ⟨item, rest⟩ := found
          exact ih ht (Nat.le_add_right ..) _ _ _
        | none =>
          obtain ⟨t', ht', hopening⟩ := setOpening_append ht (k.goto cs)
          simp only [Option.map_none, hopening]
          refine (ih ht' (Nat.le_add_right ..) _ _ _).bind fun inside rest t'' ht'' => ?_
          exact ih ht'' (Nat.le_add_right ..) _ _ _
      · by_cases hclose : c = ']'
        · subst hclose
          exact .some _ _ ht
        · simp only [List.cons_append, List.cons.injEq, hopen, hclose, false_and, imp_self,
            implies_true]
          rw [← List.cons_append, setOperator?_append ht]
          cases setOperator? (c :: cs) with
          | some found =>
            obtain ⟨op, rest⟩ := found
            exact ih ht (Nat.le_add_right ..) _ _ _
          | none =>
            rcases agrees_setItem ht k with hitem | ⟨item, k', hitem, hhyphen⟩
            · exact hitem.bind fun item rest t' ht' => ih ht' (Nat.le_add_right ..) _ _ _
            · -- the class ends without its bracket
              simp only [hitem, Option.bind_eq_bind, Option.bind_some, setBody_eq_none hhyphen]
              exact .none _

theorem agrees_bracket (htail : Behind tail) (k : Cursor) :
    Agrees (bracket k) (bracket (k ++ tail)) := by
  obtain ⟨t, ht, heq⟩ := setOpening_append htail k
  simp only [bracket, heq]
  have hle : (setOpening k).2.2.rest.length + 1 ≤ ((setOpening k).2.2 ++ t).rest.length + 1 := by
    simp
  exact (agrees_setBody ht hle _ _ _).bind fun inside rest t' ht' => .some _ _ ht'

end Wayfinder.Regex.Reader
