import Wayfinder.Proofs.Regex.Reading.Cursor
/-!
# Escapes with more behind

Every escape is read the same with the end of a group behind it.
-/

namespace Wayfinder.Regex.Reader

variable {tail : List Char}

theorem agrees_hexDigits (htail : Behind tail) (count value : Nat) (k : Cursor) :
    Agrees (hexDigits count value k) (hexDigits count value (k ++ tail)) := by
  induction count generalizing value k tail with
  | zero => exact .some _ _ htail
  | succ count ih =>
    simp only [hexDigits, Cursor.rest_append]
    cases k.rest with
    | nil => exact .none _
    | cons c cs =>
      obtain ⟨tail', htail', heq⟩ := Cursor.after_append htail k cs
      simp only [List.cons_append, Cursor.after_of_append, heq]
      exact .bind_left fun d => ih htail' _ _

theorem agrees_bracedHex (htail : Behind tail) (k : Cursor) (more : List Char)
    {fuel fuel' : Nat} (hle : fuel ≤ fuel')
    (value : Option Nat) (cs : List Char) :
    Agrees (bracedHex k fuel value cs) (bracedHex (k ++ more) fuel' value (cs ++ tail)) := by
  induction fuel generalizing fuel' value cs tail with
  | zero => exact .none _
  | succ fuel ih =>
    obtain ⟨fuel', rfl⟩ := Nat.exists_eq_add_of_lt hle
    obtain ⟨tail', htail', heq⟩ := Cursor.after_append htail k cs
    simp only [bracedHex, Cursor.after_of_append, heq, Cursor.rest_append]
    cases (k.after cs).rest with
    | nil => exact .none _
    | cons c rest =>
      by_cases hc : c = '}'
      · subst hc
        obtain ⟨tail', htail', heq⟩ := Cursor.after_append htail' k rest
        simp only [List.cons_append, heq]
        cases value with
        | none => exact .none _
        | some value => exact .some _ _ htail'
      · simp only [List.cons_append]
        exact .bind_left fun d => ih htail' (Nat.le_add_right ..) _ _

theorem agrees_hexEscape (htail : Behind tail) (digits : Nat) (k : Cursor) :
    Agrees (hexEscape digits k) (hexEscape digits (k ++ tail)) := by
  unfold hexEscape
  split
  · next cs hk =>
    simp only [Cursor.rest_append, hk, List.cons_append]
    have hle : cs.length + 1 ≤ (cs ++ tail).length + 1 := by simp
    refine (agrees_bracedHex htail k tail hle _ cs).bind fun n rest tail' htail' => ?_
    exact .bind_left fun c => .some _ _ htail'
  · next hk =>
    split
    · next cs hk' =>
      obtain ⟨cs', hcs, -⟩ := head_append htail (by decide) hk'
      exact (hk cs' hcs).elim
    · refine (agrees_hexDigits htail digits 0 k).bind fun n rest tail' htail' => ?_
      exact .bind_left fun c => .some _ _ htail'

theorem agrees_bracedName (htail : Behind tail) (k : Cursor) (more : List Char) {fuel fuel' : Nat}
    (hle : fuel ≤ fuel') (taken cs : List Char) :
    Agrees (bracedName k fuel taken cs) (bracedName (k ++ more) fuel' taken (cs ++ tail)) := by
  induction fuel generalizing fuel' taken cs tail with
  | zero => exact .none _
  | succ fuel ih =>
    obtain ⟨fuel', rfl⟩ := Nat.exists_eq_add_of_lt hle
    obtain ⟨tail', htail', heq⟩ := Cursor.after_append htail k cs
    simp only [bracedName, Cursor.after_of_append, heq, Cursor.rest_append]
    cases (k.after cs).rest with
    | nil => exact .none _
    | cons c rest =>
      by_cases hc : c = '}'
      · subst hc
        exact .some _ _ htail'
      · simp only [List.cons_append]
        exact ih htail' (Nat.le_add_right ..) _ _

theorem agrees_propertyEscape (htail : Behind tail) (k : Cursor) :
    Agrees (propertyEscape k) (propertyEscape (k ++ tail)) := by
  unfold propertyEscape
  cases hk : k.rest with
  | nil => exact .none _
  | cons c cs =>
    simp only [Cursor.rest_append, hk, List.cons_append]
    by_cases hbrace : c = '{'
    · subst hbrace
      have hle : cs.length + 1 ≤ (cs ++ tail).length + 1 := by simp
      refine (agrees_bracedName htail k tail hle _ _).map fun name rest tail' htail' => ?_
      exact .some _ _ htail'
    · by_cases hslash : c = '\\'
      · subst hslash
        exact .none _
      · obtain ⟨tail', htail', heq⟩ := Cursor.after_append htail k cs
        simp only [Cursor.after_of_append, heq]
        exact .some _ _ htail'

theorem agrees_boundaryName (htail : Behind tail) (k : Cursor) (more : List Char)
    {fuel fuel' : Nat} (hle : fuel ≤ fuel') (taken cs : List Char) :
    Agrees (boundaryName k fuel taken cs) (boundaryName (k ++ more) fuel' taken (cs ++ tail)) := by
  induction fuel generalizing fuel' taken cs tail with
  | zero => exact .none _
  | succ fuel ih =>
    obtain ⟨fuel', rfl⟩ := Nat.exists_eq_add_of_lt hle
    simp only [boundaryName]
    cases cs with
    | nil => exact .none _
    | cons c rest =>
      by_cases hc : c = '}'
      · subst hc
        exact .some _ _ htail
      · simp only [List.cons_append]
        obtain ⟨tail', htail', heq⟩ := Cursor.after_append htail k rest
        simp only [Cursor.after_of_append, heq, Cursor.rest_append]
        split
        · exact ih htail' (Nat.le_add_right ..) _ _
        · exact .none _

theorem agrees_boundaryEscape (htail : Behind tail) (k : Cursor) :
    Agrees (boundaryEscape k) (boundaryEscape (k ++ tail)) := by
  unfold boundaryEscape
  split
  · next cs hk =>
    obtain ⟨tail', htail', heq⟩ := Cursor.after_append htail k cs
    simp only [Cursor.rest_append, hk, List.cons_append, Cursor.after_of_append, heq]
    cases hrest : (k.after cs).rest with
    | nil => exact .none _
    | cons c cs' =>
      simp only [List.cons_append]
      split
      · have hle : cs'.length + 2 ≤ (cs' ++ tail').length + 2 := by simp
        refine (agrees_boundaryName htail' k tail hle [] (c :: cs')).bind fun name rest t ht => ?_
        exact .bind_left fun a => .some _ _ ht
      · exact .some _ _ htail
  · next hk =>
    split
    · next cs hk' =>
      obtain ⟨cs', hcs, -⟩ := head_append htail (by decide) hk'
      exact (hk cs' hcs).elim
    · exact .some _ _ htail

theorem agrees_escape (htail : Behind tail) (k : Cursor) :
    Agrees (escape k) (escape (k ++ tail)) := by
  unfold escape
  cases hk : k.rest with
  | nil => exact .none _
  | cons c cs =>
    obtain ⟨tail', htail', heq⟩ := Cursor.after_append htail k cs
    have hhere : ∀ t : Term, Agrees (some (t, k.goto cs)) (some (t, k.goto cs ++ tail)) :=
      fun t => .some t _ htail
    have hhex : ∀ digits, Agrees
        ((hexEscape digits (k.after cs)).map fun read => (Term.literal read.1, read.2))
        ((hexEscape digits (k.after cs ++ tail')).map fun read => (Term.literal read.1, read.2)) :=
      fun digits => (agrees_hexEscape htail' digits _).map fun l rest t ht => .some _ _ ht
    have hproperty : ∀ negated, Agrees
        ((propertyEscape (k.after cs)).map fun read =>
          (Term.property read.1.1 (negated != read.1.2), read.2))
        ((propertyEscape (k.after cs ++ tail')).map fun read =>
          (Term.property read.1.1 (negated != read.1.2), read.2)) :=
      fun negated => (agrees_propertyEscape htail' _).map fun q rest t ht => .some _ _ ht
    have hboundary : Agrees
        ((boundaryEscape (k.goto cs)).map fun read => (Term.anchor read.1, read.2))
        ((boundaryEscape (k.goto cs ++ tail)).map fun read => (Term.anchor read.1, read.2)) :=
      (agrees_boundaryEscape htail _).map fun a rest t ht => .some _ _ ht
    simp only [Cursor.rest_append, hk, List.cons_append, Cursor.goto_append,
      Cursor.after_of_append, heq]
    split
    any_goals first
      | exact hhex _
      | exact hproperty _
      | exact hboundary
      | exact hhere _
    split
    · exact hhere _
    · exact .none _

end Wayfinder.Regex.Reader
