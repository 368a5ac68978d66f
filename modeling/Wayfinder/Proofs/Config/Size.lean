import Mathlib.Algebra.Group.Nat.Defs
import Wayfinder.Config.Size
import Wayfinder.Proofs.Number.Numeral
import Wayfinder.Proofs.Text.Trim
/-!
# Sizes that fit

A size is read in the base that its prefix names. A number that does not fit into 64 bits is refused,
however many digits it has, and so is a text with anything but digits behind its prefix and its sign.
-/

namespace Wayfinder.Config

open Number (IsDigit Numeral bounded? hexadecimal? natural? numeral?)

/-- The base that the prefix of a text names. -/
def sizeBase (text : List Char) : Nat :=
  if ['0', 'x'] <+: text ∨ ['0', 'X'] <+: text then 16 else 10

/-- What stands behind one prefix and at most one `+`. -/
def sizeDigits (text : List Char) : List Char :=
  let rest := if sizeBase text = 16 then text.drop 2 else text
  if rest.head? = some '+' then rest.tail else rest

theorem sizeBase_of_mark {x : Char} (hx : x ∈ ['x', 'X']) (rest : List Char) :
    sizeBase ('0' :: x :: rest) = 16 := by
  refine if_pos ?_
  rcases List.mem_pair.1 hx with rfl | rfl
  · exact .inl ⟨rest, rfl⟩
  · exact .inr ⟨rest, rfl⟩

theorem sizeBase_of_forall_ne {text : List Char}
    (h : ∀ x ∈ ['x', 'X'], ∀ rest, text ≠ '0' :: x :: rest) : sizeBase text = 10 := by
  refine if_neg ?_
  rintro (⟨rest, rfl⟩ | ⟨rest, rfl⟩)
  · exact h 'x' (by decide) rest rfl
  · exact h 'X' (by decide) rest rfl

theorem bounded?_eq (read : List Char → Option Nat) (limit : Nat) (text : List Char) :
    bounded? read limit text =
      (read (if text.head? = some '+' then text.tail else text)).filter (· < limit) := by
  unfold bounded?
  split
  · rfl
  · next hsign =>
    have hhead : text.head? ≠ some '+' := fun h => hsign _ (List.cons_head?_tail h).symm
    rw [if_neg hhead]

/-- Neither prefix is left to the other reader. -/
theorem parseSize_eq (text : String) :
    let s := (Text.trim text).toList
    parseSize text = (numeral? (sizeBase s) (sizeDigits s)).filter (· < wordLimit) := by
  intro s
  have hmarked {x : Char} (hx : x ∈ ['x', 'X']) {digits : List Char} (hs : s = '0' :: x :: digits) :
      bounded? hexadecimal? wordLimit digits =
        (numeral? (sizeBase s) (sizeDigits s)).filter (· < wordLimit) := by
    rw [bounded?_eq, Number.hexadecimal?_eq_numeral?, sizeDigits, hs, sizeBase_of_mark hx]
    rfl
  unfold parseSize
  split
  · next hs => exact hmarked (by decide) hs
  · next hs => exact hmarked (by decide) hs
  · next hsmall hlarge =>
    have hbase : sizeBase s = 10 := by
      refine sizeBase_of_forall_ne fun x hx rest hs => ?_
      rcases List.mem_pair.1 hx with rfl | rfl
      · exact hsmall rest hs
      · exact hlarge rest hs
    rw [bounded?_eq, Number.natural?_eq_numeral?, sizeDigits, hbase]
    rfl

theorem isBlank_of_isDigit {base : Nat} {c : Char} (h : IsDigit base c) :
    Unicode.isBlank c = false := by
  have hsixteen : IsDigit 16 c := List.mem_of_mem_take (show c.toLower ∈ _ from h)
  exact Text.forall_ascii (p := fun c => IsDigit 16 c → Unicode.isBlank c = false)
    (by decide +kernel) h.toNat_lt hsixteen

theorem head?_ne_plus {base : Nat} {digits : List Char} (h : ∀ c ∈ digits, IsDigit base c) :
    digits.head? ≠ some '+' := by
  intro hhead
  have hplus : IsDigit base '+' := h '+' (List.mem_of_mem_head? hhead)
  have hnone : '+' ∉ Number.letters := by decide
  exact hnone (List.mem_of_mem_take (show '+'.toLower ∈ _ from hplus))

/-! ## Texts among white space -/

section Surrounded

variable {n : Nat} {digits front back : List Char}
  (hfront : ∀ c ∈ front, Unicode.isBlank c = true) (hback : ∀ c ∈ back, Unicode.isBlank c = true)

include hfront hback

theorem parseSize_of_numeral {text : List Char} (htext : ∀ c ∈ text, Unicode.isBlank c = false)
    (h : Numeral (sizeBase text) n (sizeDigits text)) :
    parseSize (String.ofList (front ++ text ++ back)) = if n < 2 ^ 64 then some n else none := by
  have hbase : 1 < sizeBase text ∧ sizeBase text ≤ 16 := by
    unfold sizeBase
    split <;> decide
  have hread := h.numeral?_eq hbase.1 hbase.2
  rw [parseSize_eq, Text.trim_surrounded htext hfront hback, String.toList_ofList, hread,
    Option.filter_some]
  exact if_congr decide_eq_true_iff rfl rfl

theorem parseSize_decimal (h : Numeral 10 n digits) :
    parseSize (String.ofList (front ++ digits ++ back)) = if n < 2 ^ 64 then some n else none := by
  have hdigits : ∀ c ∈ digits, IsDigit 10 c := fun c hc => h.isDigit (by decide) (by decide) hc
  have hbase : sizeBase digits = 10 := by
    refine sizeBase_of_forall_ne fun x hx rest heq => ?_
    have hdigit : IsDigit 10 x := hdigits x (by simp [heq])
    exact Text.of_mem_of_all (p := fun y => ¬ IsDigit 10 y) (by decide) hx hdigit
  have hrest : sizeDigits digits = digits := by
    simp only [sizeDigits, hbase, Nat.reduceEqDiff, if_false, if_neg (head?_ne_plus hdigits)]
  apply parseSize_of_numeral hfront hback
  · exact fun c hc => isBlank_of_isDigit (hdigits c hc)
  · rwa [hbase, hrest]

theorem parseSize_hexadecimal {x : Char} (hx : x ∈ ['x', 'X']) (h : Numeral 16 n digits) :
    parseSize (String.ofList (front ++ ('0' :: x :: digits) ++ back)) =
      if n < 2 ^ 64 then some n else none := by
  have hdigits : ∀ c ∈ digits, IsDigit 16 c := fun c hc => h.isDigit (by decide) (by decide) hc
  have hmark : Unicode.isBlank x = false :=
    Text.of_mem_of_all (p := fun y => Unicode.isBlank y = false) (by decide) hx
  have hrest : sizeDigits ('0' :: x :: digits) = digits := by
    simp only [sizeDigits, sizeBase_of_mark hx, if_true, List.drop_succ_cons, List.drop_zero,
      if_neg (head?_ne_plus hdigits)]
  apply parseSize_of_numeral hfront hback
  · refine List.forall_mem_cons.2 ⟨by decide, List.forall_mem_cons.2 ⟨hmark, ?_⟩⟩
    exact fun c hc => isBlank_of_isDigit (hdigits c hc)
  · rwa [sizeBase_of_mark hx, hrest]

end Surrounded

/-- A number that fits is read in either base, and one that does not is refused. So is every text that has
no digits behind its prefix and its sign, or anything else among them. -/
theorem parseSize_reads_every_size :
    (∀ (n : Nat) (digits front back : List Char), (∀ c ∈ front ++ back, Unicode.isBlank c = true) →
      (Numeral 10 n digits →
        parseSize (String.ofList (front ++ digits ++ back)) =
          if n < 2 ^ 64 then some n else none) ∧
      ∀ x ∈ ['x', 'X'], Numeral 16 n digits →
        parseSize (String.ofList (front ++ ('0' :: x :: digits) ++ back)) =
          if n < 2 ^ 64 then some n else none) ∧
    ∀ text, let s := (Text.trim text).toList
      (sizeDigits s = [] ∨ ∃ c ∈ sizeDigits s, ¬ IsDigit (sizeBase s) c) →
        parseSize text = none := by
  constructor
  · intro n digits front back hblank
    obtain ⟨hfront, hback⟩ := List.forall_mem_append.1 hblank
    exact ⟨parseSize_decimal hfront hback, fun x hx => parseSize_hexadecimal hfront hback hx⟩
  · intro text s hbad
    have hnone : numeral? (sizeBase s) (sizeDigits s) = none := by
      refine if_neg ?_
      rintro ⟨hne, hall⟩
      rcases hbad with hempty | ⟨c, hc, hdigit⟩
      · exact hne hempty
      · exact hdigit (Text.of_mem_of_all hall hc)
    rw [parseSize_eq, hnone]
    rfl

example : parseSize " 0X00fF\n" = some 255 ∧ parseSize "18446744073709551616" = none ∧
    parseSize "0x+" = none := by decide +kernel

end Wayfinder.Config
