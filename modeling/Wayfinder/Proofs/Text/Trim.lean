import Mathlib.Data.List.DropRight
import Mathlib.Data.List.TakeDrop
import Mathlib.Data.List.TakeWhile
import Wayfinder.Text.Trim
/-!
# Texts cut and trimmed

What stands before and behind the first place of a character, and what is left when both ends are
stripped.
-/

namespace Wayfinder.Text

theorem span_append_cons {p : Char → Bool} {front : List Char} (hfront : ∀ d ∈ front, p d = true)
    {c : Char} (hc : p c = false) (rest : List Char) :
    (front ++ c :: rest).span p = (front, c :: rest) := by
  simp [List.span_eq_takeWhile_dropWhile, List.takeWhile_append_of_pos hfront,
    List.dropWhile_append_of_pos hfront, hc]

theorem cutAt_eq_some_iff {c : Char} {s before after : String} :
    cutAt c s = some (before, after) ↔
      c ∉ before.toList ∧ s.toList = before.toList ++ c :: after.toList := by
  constructor
  · intro h
    rw [cutAt, List.span_eq_takeWhile_dropWhile] at h
    have hsplit := s.toList.takeWhile_append_dropWhile (p := (· != c))
    have hbefore : c ∉ s.toList.takeWhile (· != c) := by
      intro hmem
      simpa using List.mem_takeWhile_imp hmem
    cases hdrop : s.toList.dropWhile (· != c) with
    | nil => simp [hdrop] at h
    | cons d rest =>
      have hd : d = c := by
        have hhead := List.head?_dropWhile_not (· != c) s.toList
        simpa [hdrop] using hhead
      obtain ⟨rfl, rfl⟩ : String.ofList _ = before ∧ String.ofList rest = after := by
        simpa [hdrop] using h
      rw [hdrop, hd] at hsplit
      exact ⟨by simpa using hbefore, by simpa using hsplit.symm⟩
  · rintro ⟨hbefore, hs⟩
    have hpos : ∀ d ∈ before.toList, (d != c) = true := by
      intro d hd
      simpa using ne_of_mem_of_not_mem hd hbefore
    rw [cutAt, hs, span_append_cons hpos (by simp)]
    simp

/-! ## Stripped ends -/

section Strip

variable {α : Type} {p : α → Bool}

theorem dropTrailing_eq_rdropWhile (xs : List α) : dropTrailing p xs = xs.rdropWhile p := rfl

theorem dropWhile_append_cons {x : α} (hx : p x = false) (xs ys : List α) :
    (xs ++ x :: ys).dropWhile p = xs.dropWhile p ++ x :: ys := by
  rw [List.dropWhile_append]
  by_cases h : xs.dropWhile p = [] <;> simp [h, hx]

theorem dropTrailing_append_cons {x : α} (hx : p x = false) (xs ys : List α) :
    dropTrailing p (xs ++ x :: ys) = xs ++ x :: dropTrailing p ys := by
  have hreverse : (xs ++ x :: ys).reverse = ys.reverse ++ x :: xs.reverse := by simp
  rw [dropTrailing, hreverse, dropWhile_append_cons hx]
  simp [dropTrailing]

/-- What stands between is not reached from either end. -/
theorem stripList_append_cons {x : α} (hx : p x = false) (xs ys : List α) :
    stripList p (xs ++ x :: ys) = xs.dropWhile p ++ x :: dropTrailing p ys := by
  rw [stripList, dropWhile_append_cons hx, dropTrailing_append_cons hx]

theorem stripList_subset {xs : List α} : stripList p xs ⊆ xs := fun _ hx =>
  List.dropWhile_subset _ (List.rdropWhile_prefix p _ |>.subset hx)

theorem stripList_dropWhile (xs : List α) : stripList p (xs.dropWhile p) = stripList p xs := by
  rw [stripList, List.dropWhile_idempotent, stripList]

theorem stripList_dropTrailing (xs : List α) : stripList p (dropTrailing p xs) = stripList p xs := by
  by_cases h : ∀ x ∈ xs, p x = true
  · have hfront : xs.dropWhile p = [] := List.dropWhile_eq_nil_iff.2 h
    have hback : dropTrailing p xs = [] := List.rdropWhile_eq_nil_iff.2 h
    simp [hback, stripList, hfront]
  · push Not at h
    obtain ⟨x, hmem, hx⟩ := h
    have hx : p x = false := by simpa using hx
    obtain ⟨front, back, rfl⟩ := List.append_of_mem hmem
    rw [dropTrailing_append_cons hx, stripList_append_cons hx, stripList_append_cons hx,
      dropTrailing_eq_rdropWhile, dropTrailing_eq_rdropWhile, List.rdropWhile_idempotent]

/-- Whether a list neither begins nor ends with what satisfies `p`. -/
def Bare (p : α → Bool) (xs : List α) : Prop :=
  (∀ x ∈ xs.head?, p x = false) ∧ ∀ x ∈ xs.getLast?, p x = false

instance (xs : List α) : Decidable (Bare p xs) := inferInstanceAs (Decidable (_ ∧ _))

theorem Bare.stripList_append {xs front back : List α} (h : Bare p xs)
    (hfront : ∀ x ∈ front, p x = true) (hback : ∀ x ∈ back, p x = true) :
    stripList p (front ++ xs ++ back) = xs := by
  have hend : dropTrailing p (xs ++ back) = xs := by
    rcases xs.eq_nil_or_concat' with rfl | ⟨init, x, rfl⟩
    · exact List.rdropWhile_eq_nil_iff.2 hback
    · have hx : p x = false := h.2 x (by simp)
      have hback : dropTrailing p back = [] := List.rdropWhile_eq_nil_iff.2 hback
      rw [List.append_assoc, List.singleton_append, dropTrailing_append_cons hx, hback]
  rw [List.append_assoc, stripList, List.dropWhile_append_of_pos hfront]
  cases xs with
  | nil =>
    have hall : ∀ x ∈ back.dropWhile p, p x = true := fun x hx =>
      hback x (List.dropWhile_subset _ hx)
    exact List.rdropWhile_eq_nil_iff.2 hall
  | cons x xs =>
    have hx : p x = false := h.1 x rfl
    rw [List.cons_append, List.dropWhile_cons_of_neg (by simp [hx]), ← List.cons_append, hend]

end Strip

/-- White space around a text without white space is all that is trimmed. -/
theorem trim_surrounded {text front back : List Char}
    (htext : ∀ c ∈ text, Unicode.isBlank c = false)
    (hfront : ∀ c ∈ front, Unicode.isBlank c = true)
    (hback : ∀ c ∈ back, Unicode.isBlank c = true) :
    trim (String.ofList (front ++ text ++ back)) = String.ofList text := by
  have hbare : Bare Unicode.isBlank text :=
    ⟨fun c hc => htext c (List.mem_of_mem_head? hc), fun c hc => htext c (List.mem_of_getLast? hc)⟩
  rw [trim, strip, String.toList_ofList, hbare.stripList_append hfront hback]

end Wayfinder.Text
