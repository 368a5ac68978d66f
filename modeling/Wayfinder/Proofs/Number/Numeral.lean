import Mathlib.Data.List.Basic
import Wayfinder.Number.Decimal
import Wayfinder.Proofs.Text.Percent
/-!
# Numerals

The two readers of digits are one reader to two bases. It gives back every number that is written in its
base, in either case and behind any number of zeros, and refuses a text in which anything but a digit
stands.
-/

namespace Wayfinder.Number

/-! ## Readers of one character after another -/

section MapM

variable {α β : Type} {f : α → Option β} {xs : List α}

theorem mapM_eq_some_map {g : α → β} (h : ∀ x ∈ xs, f x = some (g x)) :
    xs.mapM f = some (xs.map g) := by
  induction xs with
  | nil => rfl
  | cons x xs ih =>
    obtain ⟨hx, hxs⟩ := List.forall_mem_cons.1 h
    simp [hx, ih hxs]

theorem mapM_eq_none {x : α} (hmem : x ∈ xs) (hx : f x = none) : xs.mapM f = none := by
  induction xs with
  | nil => cases hmem
  | cons y ys ih =>
    rcases List.mem_cons.1 hmem with rfl | hmem
    · simp [hx]
    · cases hy : f y <;> simp [hy, ih hmem]

end MapM

/-! ## Digits -/

/-- The digits to base sixteen in order of their value. -/
def letters : List Char := "0123456789abcdef".toList

def IsDigit (base : Nat) (c : Char) : Prop := c.toLower ∈ letters.take base

instance (base : Nat) (c : Char) : Decidable (IsDigit base c) :=
  inferInstanceAs (Decidable (_ ∈ _))

/-- The value of a digit in small letters. -/
def digitValue (c : Char) : Nat := letters.idxOf c

theorem IsDigit.toNat_lt {base : Nat} {c : Char} (h : IsDigit base c) : c.toNat < 128 := by
  by_contra hlarge
  have hmem : c ∈ letters := by
    rw [← Text.toLower_of_not_ascii hlarge]
    exact List.mem_of_mem_take h
  exact hlarge (Text.of_mem_of_all (p := fun d => d.toNat < 128) (by decide) hmem)

/-- The number that digits to a base denote, the most significant one first. -/
def valueTo (base : Nat) (text : List Char) : Nat :=
  text.foldl (fun n c => base * n + digitValue c) 0

def numeral? (base : Nat) (text : List Char) : Option Nat :=
  if text ≠ [] ∧ text.all (IsDigit base ·) then some (valueTo base (text.map Char.toLower))
  else none

theorem isDigit_iff (c : Char) : c.isDigit = true ↔ IsDigit 10 c := by
  by_cases hc : c.toNat < 128
  · exact Text.forall_ascii (p := fun c => c.isDigit = true ↔ IsDigit 10 c) (by decide +kernel) hc
  · have hfar : ¬ c.isDigit = true := by
      simp only [Char.isDigit, Bool.and_eq_true, decide_eq_true_eq, UInt32.le_iff_toNat_le]
      rintro ⟨-, hle⟩
      have hle : c.toNat ≤ 57 := hle
      omega
    exact iff_of_false hfar fun h => hc h.toNat_lt

theorem natural?_eq_numeral? (text : List Char) : natural? text = numeral? 10 text := by
  have hall : text.all Char.isDigit = true ↔ text.all (IsDigit 10 ·) = true := by
    simp only [List.all_eq_true, isDigit_iff, decide_eq_true_eq]
  have hvalue (c : Char) (h : IsDigit 10 c) : c.toNat - '0'.toNat = digitValue c.toLower :=
    Text.forall_ascii (p := fun c => IsDigit 10 c → c.toNat - '0'.toNat = digitValue c.toLower)
      (by decide +kernel) h.toNat_lt h
  simp only [natural?, numeral?, hall]
  split_ifs with h
  · rw [valueTo, List.foldl_map]
    refine congrArg some (List.foldl_ext _ _ 0 fun n c hc => ?_)
    rw [hvalue c (Text.of_mem_of_all h.2 hc)]
  · rfl

/-- The value of one digit in the reader to base sixteen. -/
def hexDigit? (c : Char) : Option Nat :=
  if c.isDigit then some (c.toNat - '0'.toNat)
  else if 'a' ≤ c ∧ c ≤ 'f' then some (c.toNat - 'a'.toNat + 10)
  else if 'A' ≤ c ∧ c ≤ 'F' then some (c.toNat - 'A'.toNat + 10)
  else none

theorem hexDigit?_eq (c : Char) :
    hexDigit? c = if IsDigit 16 c then some (digitValue c.toLower) else none := by
  by_cases hc : c.toNat < 128
  · exact Text.forall_ascii
      (p := fun c => hexDigit? c = if IsDigit 16 c then some (digitValue c.toLower) else none)
      (by decide +kernel) hc
  · have hle {d : Char} (h : c ≤ d) : c.toNat ≤ d.toNat := h
    have hdecimal : ¬ c.isDigit = true := fun h => hc ((isDigit_iff c).1 h).toNat_lt
    have hsmall : ¬ ('a' ≤ c ∧ c ≤ 'f') := fun h => hc (Nat.lt_of_le_of_lt (hle h.2) (by decide))
    have hlarge : ¬ ('A' ≤ c ∧ c ≤ 'F') := fun h => hc (Nat.lt_of_le_of_lt (hle h.2) (by decide))
    rw [hexDigit?, if_neg hdecimal, if_neg hsmall, if_neg hlarge, if_neg fun h => hc h.toNat_lt]

theorem hexadecimal?_eq_numeral? (text : List Char) : hexadecimal? text = numeral? 16 text := by
  have hread : hexadecimal? text =
      if text = [] then none
      else (text.mapM hexDigit?).map fun ds => ds.foldl (fun n d => 16 * n + d) 0 := rfl
  rw [hread, numeral?]
  by_cases hempty : text = []
  · simp [hempty]
  by_cases hall : text.all (IsDigit 16 ·) = true
  · have hvalues : text.mapM hexDigit? = some (text.map fun c => digitValue c.toLower) :=
      mapM_eq_some_map fun c hc => by rw [hexDigit?_eq, if_pos (Text.of_mem_of_all hall hc)]
    rw [if_neg hempty, if_pos ⟨hempty, hall⟩, hvalues, Option.map_some, List.foldl_map,
      valueTo, List.foldl_map]
  · obtain ⟨c, hc, hbad⟩ : ∃ c ∈ text, ¬ IsDigit 16 c := by simpa using hall
    have hnone : text.mapM hexDigit? = none :=
      mapM_eq_none hc (by rw [hexDigit?_eq, if_neg hbad])
    rw [if_neg hempty, if_neg fun h => hall h.2, hnone]
    rfl

/-! ## Numerals -/

/-- Whether a text is a number in digits to a base, of either case and behind any number of zeros. -/
def Numeral (base n : Nat) (text : List Char) : Prop :=
  ∃ zeros, text.map Char.toLower = List.replicate zeros '0' ++ Nat.toDigits base n

theorem digitValue_digitChar {d : Nat} (h : d < 16) : digitValue (Nat.digitChar d) = d := by
  have hall : ∀ i < 16, digitValue (Nat.digitChar i) = i := by decide
  exact hall d h

section Base

variable {base : Nat} (hone : 1 < base) (hbase : base ≤ 16)

include hone hbase

omit hone in
theorem digitChar_mem {d : Nat} (hd : d < base) : Nat.digitChar d ∈ letters.take base := by
  have hall : ∀ b ≤ 16, ∀ i < b, Nat.digitChar i ∈ letters.take b := by decide
  exact hall base hbase d hd

-- in both inductions the last digit comes off, which leaves the digits of the quotient

theorem mem_letters_of_mem_toDigits {n : Nat} {c : Char} (hc : c ∈ Nat.toDigits base n) :
    c ∈ letters.take base := by
  induction n using Nat.strongRecOn with
  | ind n ih =>
    rcases Nat.lt_or_ge n base with hlt | hle
    · rw [Nat.toDigits_of_lt_base hlt, List.mem_singleton] at hc
      rw [hc]
      exact digitChar_mem hbase hlt
    · rw [Nat.toDigits_of_base_le hone hle, List.mem_append, List.mem_singleton] at hc
      rcases hc with hfront | rfl
      · exact ih (n / base) (Nat.div_lt_self (by omega) hone) hfront
      · exact digitChar_mem hbase (Nat.mod_lt n (by omega))

theorem valueTo_toDigits (n : Nat) : valueTo base (Nat.toDigits base n) = n := by
  induction n using Nat.strongRecOn with
  | ind n ih =>
    rcases Nat.lt_or_ge n base with hlt | hle
    · rw [Nat.toDigits_of_lt_base hlt]
      simp [valueTo, digitValue_digitChar (show n < 16 by omega)]
    · have hsmall : n / base < n := Nat.div_lt_self (by omega) hone
      have hlast : n % base < 16 := Nat.lt_of_lt_of_le (Nat.mod_lt n (by omega)) hbase
      calc valueTo base (Nat.toDigits base n)
        _ = base * valueTo base (Nat.toDigits base (n / base)) +
              digitValue (Nat.digitChar (n % base)) := by
          rw [Nat.toDigits_of_base_le hone hle, valueTo, List.foldl_append]
          rfl
        _ = base * (n / base) + n % base := by rw [ih _ hsmall, digitValue_digitChar hlast]
        _ = n := Nat.div_add_mod n base

end Base

theorem valueTo_zeros_append (base zeros : Nat) (text : List Char) :
    valueTo base (List.replicate zeros '0' ++ text) = valueTo base text := by
  induction zeros with
  | zero => rfl
  | succ zeros ih =>
    have hfirst : base * 0 + digitValue '0' = 0 := by
      rw [Nat.mul_zero, show digitValue '0' = 0 by decide]
    rw [List.replicate_succ, List.cons_append, valueTo, List.foldl_cons, hfirst]
    exact ih

namespace Numeral

variable {base n : Nat} {text : List Char} (h : Numeral base n text)

include h

theorem ne_nil : text ≠ [] := by
  rintro rfl
  obtain ⟨zeros, hlower⟩ := h
  simp at hlower

theorem isDigit (hone : 1 < base) (hbase : base ≤ 16) {c : Char} (hc : c ∈ text) :
    IsDigit base c := by
  obtain ⟨zeros, hlower⟩ := h
  have hmem : c.toLower ∈ List.replicate zeros '0' ++ Nat.toDigits base n :=
    hlower ▸ List.mem_map_of_mem hc
  rcases List.mem_append.1 hmem with hzero | hdigit
  · rw [IsDigit, List.eq_of_mem_replicate hzero]
    exact digitChar_mem hbase (show 0 < base by omega)
  · exact mem_letters_of_mem_toDigits hone hbase hdigit

theorem numeral?_eq (hone : 1 < base) (hbase : base ≤ 16) : numeral? base text = some n := by
  have hdigits : text ≠ [] ∧ text.all (IsDigit base ·) = true :=
    ⟨h.ne_nil, List.all_eq_true.2 fun c hc => decide_eq_true (h.isDigit hone hbase hc)⟩
  obtain ⟨zeros, hlower⟩ := h
  rw [numeral?, if_pos hdigits, hlower, valueTo_zeros_append, valueTo_toDigits hone hbase]

end Numeral

end Wayfinder.Number
