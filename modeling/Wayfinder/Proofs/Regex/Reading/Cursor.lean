import Mathlib.Data.List.Basic
import Wayfinder.Regex.Term.Reader
/-!
# Reading with more behind

An expression that can be read by itself is to be compared with the same text where it
stands in a group at the end of a larger expression. The cursor then has the end of the
group behind its text, until a comment takes that in.
-/

namespace Wayfinder.Regex

/-- What stands behind a text: the end of the group around it, or nothing where a comment
took that in. -/
def Behind (tail : List Char) : Prop := tail = [] ∨ tail = [')', '$']

instance : HAppend Cursor (List Char) Cursor := ⟨fun k tail => { k with rest := k.rest ++ tail }⟩

theorem Cursor.append_def (k : Cursor) (tail : List Char) :
    k ++ tail = { k with rest := k.rest ++ tail } := rfl

@[simp] theorem Cursor.rest_append (k : Cursor) (tail : List Char) :
    (k ++ tail).rest = k.rest ++ tail := rfl

@[simp] theorem Cursor.goto_append (k : Cursor) (tail cs : List Char) :
    (k ++ tail).goto (cs ++ tail) = k.goto cs ++ tail := rfl

/-- What is read first is read second too, with more behind it. -/
def Agrees {β γ : Type} [HAppend γ (List Char) γ] (x y : Option (β × γ)) : Prop :=
  ∀ b rest, x = some (b, rest) → ∃ tail, Behind tail ∧ y = some (b, rest ++ tail)

namespace Agrees

variable {β β' γ γ' δ : Type} [HAppend γ (List Char) γ] [HAppend γ' (List Char) γ']

theorem none (y : Option (β × γ)) : Agrees none y := fun _ _ h => nomatch h

theorem some (b : β) (rest : γ) {tail : List Char} (htail : Behind tail) :
    Agrees (some (b, rest)) (some (b, rest ++ tail)) := by
  intro b' rest' h
  cases h
  exact ⟨tail, htail, rfl⟩

theorem bind {x y : Option (β × γ)} {f g : β × γ → Option (β' × γ')} (hxy : Agrees x y)
    (hfg : ∀ b rest tail, Behind tail → Agrees (f (b, rest)) (g (b, rest ++ tail))) :
    Agrees (x >>= f) (y >>= g) := by
  intro b' rest' h
  obtain ⟨⟨b, rest⟩, hx, hf⟩ := Option.bind_eq_some_iff.1 h
  obtain ⟨tail, htail, hy⟩ := hxy b rest hx
  obtain ⟨tail', htail', hg⟩ := hfg b rest tail htail b' rest' hf
  exact ⟨tail', htail', by rw [hy]; exact hg⟩

theorem bind_left {x : Option δ} {f g : δ → Option (β × γ)} (hfg : ∀ d, Agrees (f d) (g d)) :
    Agrees (x >>= f) (x >>= g) := by
  cases x with
  | none => exact .none _
  | some d => exact hfg d

theorem map {x y : Option (β × γ)} {f g : β × γ → β' × γ'} (hxy : Agrees x y)
    (hfg : ∀ b rest tail, Behind tail →
      Agrees (.some (f (b, rest))) (.some (g (b, rest ++ tail)))) :
    Agrees (x.map f) (y.map g) := by
  rw [Option.map_eq_bind, Option.map_eq_bind]
  exact hxy.bind hfg

end Agrees

namespace Cursor

theorem dropBlanks_append {tail : List Char} (htail : Behind tail) (cs : List Char)
    (comment : Bool) :
    ∃ tail', Behind tail' ∧ dropBlanks (cs ++ tail) comment = dropBlanks cs comment ++ tail' := by
  induction cs generalizing comment with
  | nil =>
    rcases htail with rfl | rfl
    · exact ⟨[], .inl rfl, by simp⟩
    · cases comment with
      | true => exact ⟨[], .inl rfl, by decide⟩
      | false => exact ⟨[')', '$'], .inr rfl, by decide⟩
  | cons c cs ih =>
    cases comment with
    | true => exact ih (c != '\n')
    | false =>
      simp only [dropBlanks, List.cons_append]
      split
      · exact ih false
      · split
        · exact ih true
        · exact ⟨tail, htail, rfl⟩

theorem skip_append {tail : List Char} (htail : Behind tail) (k : Cursor) :
    ∃ tail', Behind tail' ∧ (k ++ tail).skip = k.skip ++ tail' := by
  obtain ⟨rest, skips, names⟩ := k
  cases skips with
  | false => exact ⟨tail, htail, rfl⟩
  | true =>
    obtain ⟨tail', htail', heq⟩ := dropBlanks_append htail rest false
    exact ⟨tail', htail', by simp [skip, append_def, heq]⟩

theorem after_append {tail : List Char} (htail : Behind tail) (k : Cursor) (cs : List Char) :
    ∃ tail', Behind tail' ∧ k.after (cs ++ tail) = k.after cs ++ tail' :=
  skip_append htail (k.goto cs)

theorem skip_of_hyphen {k : Cursor} {cs : List Char} (h : k.rest = '-' :: cs) : k.skip = k := by
  obtain ⟨rest, skips, names⟩ := k
  cases h
  cases skips <;> rfl

@[simp] theorem after_of_append (k : Cursor) (tail cs : List Char) :
    (k ++ tail).after cs = k.after cs := rfl

/-! ## Lengths -/

theorem length_dropBlanks_le (cs : List Char) (comment : Bool) :
    (dropBlanks cs comment).length ≤ cs.length := by
  induction cs generalizing comment with
  | nil => simp [dropBlanks]
  | cons c cs ih =>
    cases comment with
    | true => exact Nat.le_succ_of_le (ih _)
    | false =>
      simp only [dropBlanks]
      split
      · exact Nat.le_succ_of_le (ih _)
      · split
        · exact Nat.le_succ_of_le (ih _)
        · exact Nat.le_refl _

theorem length_after_le (k : Cursor) (cs : List Char) : (k.after cs).rest.length ≤ cs.length := by
  obtain ⟨rest, skips, names⟩ := k
  cases skips with
  | false => exact Nat.le_refl _
  | true => exact length_dropBlanks_le cs false

end Cursor

/-- Only the text itself goes on with a character other than the end of a group. -/
theorem head_append {tail : List Char} (htail : Behind tail) {c : Char} (hc : c ≠ ')')
    {cs rest : List Char} (h : cs ++ tail = c :: rest) : ∃ cs', cs = c :: cs' ∧ rest = cs' ++ tail := by
  cases cs with
  | nil =>
    rcases htail with rfl | rfl
    · cases h
    · cases h
      exact (hc rfl).elim
  | cons c' cs' =>
    cases h
    exact ⟨cs', rfl, rfl⟩

end Wayfinder.Regex
