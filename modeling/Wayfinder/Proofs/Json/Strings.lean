import Mathlib.Data.List.Basic
import Mathlib.Tactic.IntervalCases
import Wayfinder.Json.Printer
import Wayfinder.Json.Reader
import Wayfinder.Proofs.Text.Percent
/-!
# Strings read back

A text that is written as a JSON string reads back as that text, whatever characters it has.
-/

namespace Wayfinder.Json

open String (utf8EncodeChar)

/-- The bytes of one character inside quotes. -/
def escapeBytes (c : Char) : Bytes := (escapeChar c).flatMap utf8EncodeChar

/-- Whether a byte inside quotes stands for itself. -/
def IsPlain (b : UInt8) : Prop := 0x20 ≤ b ∧ b ≠ 0x22 ∧ b ≠ 0x5c

instance (b : UInt8) : Decidable (IsPlain b) := inferInstanceAs (Decidable (_ ∧ _))

theorem le_of_mem_utf8EncodeChar {c : Char} (hc : ¬ c.toNat < 128) {b : UInt8}
    (hb : b ∈ utf8EncodeChar c) : 0x80 ≤ b := by
  have hlarge : ¬ c.val.toNat ≤ 127 := fun h => hc (Nat.lt_succ_of_le h)
  unfold utf8EncodeChar at hb
  simp only [hlarge, if_false] at hb
  rw [UInt8.le_iff_toNat_le]
  split_ifs at hb <;> simp only [List.mem_cons, List.not_mem_nil, or_false] at hb <;>
    rcases hb with rfl | rfl | rfl | rfl <;> simp <;> omega

theorem isPlain_of_mem_utf8EncodeChar {c : Char} (hcontrol : ¬ c.toNat < 0x20)
    (hquote : c ≠ '"') (hslash : c ≠ '\\') {b : UInt8} (hb : b ∈ utf8EncodeChar c) : IsPlain b := by
  by_cases hc : c.toNat < 128
  · rw [Text.utf8EncodeChar_of_lt hc, List.mem_singleton] at hb
    rw [hb]
    exact Text.forall_ascii (p := fun c => ¬ c.toNat < 0x20 → c ≠ '"' → c ≠ '\\' →
      IsPlain (UInt8.ofNat c.toNat)) (by decide +kernel) hc hcontrol hquote hslash
  · have hlarge : 0x80 ≤ b := le_of_mem_utf8EncodeChar hc hb
    refine ⟨UInt8.le_trans (by decide) hlarge, ?_, ?_⟩
    · rintro rfl
      exact absurd hlarge (by decide)
    · rintro rfl
      exact absurd hlarge (by decide)

/-- A character stands for itself or is escaped, and then the reader of escapes gives it back. -/
theorem escapeBytes_cases (c : Char) :
    (escapeBytes c = utf8EncodeChar c ∧ ∀ b ∈ utf8EncodeChar c, IsPlain b) ∨
      ∃ tail, escapeBytes c = 0x5c :: tail ∧
        ∀ rest, readEscape (tail ++ rest) = .ok (utf8EncodeChar c, rest) := by
  by_cases hcontrol : c.toNat < 0x20
  · have hc : c = Char.ofNat c.toNat := (Char.ofNat_toNat c).symm
    generalize c.toNat = n at *
    subst hc
    refine .inr ⟨(escapeBytes (Char.ofNat n)).tail, ?_, fun rest => ?_⟩
    · interval_cases n <;> decide
    · interval_cases n <;> rfl
  by_cases hquote : c = '"'
  · subst hquote
    exact .inr ⟨[0x22], by decide, fun _ => rfl⟩
  by_cases hslash : c = '\\'
  · subst hslash
    exact .inr ⟨[0x5c], by decide, fun _ => rfl⟩
  have hself : escapeChar c = [c] := by
    unfold escapeChar
    split <;> first | contradiction | exact absurd (by decide) hcontrol | exact if_neg hcontrol
  refine .inl ⟨?_, fun b hb => isPlain_of_mem_utf8EncodeChar hcontrol hquote hslash hb⟩
  rw [escapeBytes, hself, List.flatMap_singleton]

theorem readCharacters_plain {bytes : Bytes} (h : ∀ b ∈ bytes, IsPlain b) (fuel : Nat)
    (before rest : Bytes) :
    readCharacters (fuel + bytes.length) before (bytes ++ rest) =
      readCharacters fuel (bytes.reverse ++ before) rest := by
  induction bytes generalizing before with
  | nil => rfl
  | cons b bytes ih =>
    obtain ⟨⟨hprintable, hquote, hslash⟩, hrest⟩ := List.forall_mem_cons.1 h
    have hb : ¬ b < 0x20 := UInt8.not_lt.2 hprintable
    have hstep : readCharacters (fuel + bytes.length + 1) before (b :: (bytes ++ rest)) =
        readCharacters (fuel + bytes.length) (b :: before) (bytes ++ rest) := by
      rw [readCharacters]
      · exact if_neg hb
      · exact hquote
      · exact hslash
    rw [List.length_cons, ← Nat.add_assoc, List.cons_append, hstep, ih hrest, List.reverse_cons,
      List.append_assoc, List.singleton_append]

/-- The fuel is one more than there are bytes at least, and no character takes more of it than it has bytes. -/
theorem readCharacters_escaped (cs : List Char) {fuel : Nat} {before rest : Bytes} {text : String}
    (hfuel : (cs.flatMap escapeBytes).length < fuel)
    (htext : Text.decode? (before.reverse ++ cs.flatMap utf8EncodeChar) = some text) :
    readCharacters fuel before (cs.flatMap escapeBytes ++ 0x22 :: rest) = .ok (text, rest) := by
  induction cs generalizing fuel before with
  | nil =>
    obtain ⟨fuel, rfl⟩ := Nat.exists_eq_add_one_of_ne_zero (Nat.ne_of_gt hfuel)
    simp only [List.flatMap_nil, List.append_nil, List.nil_append] at htext ⊢
    simp [readCharacters, htext]
  | cons c cs ih =>
    simp only [List.flatMap_cons, List.length_append, List.append_assoc] at hfuel htext ⊢
    have hnext : Text.decode? (((utf8EncodeChar c).reverse ++ before).reverse ++
        cs.flatMap utf8EncodeChar) = some text := by
      simpa using htext
    rcases escapeBytes_cases c with ⟨hself, hplain⟩ | ⟨tail, hescape, hread⟩
    · rw [hself] at hfuel ⊢
      obtain ⟨left, rfl⟩ := Nat.exists_eq_add_of_le' (show (utf8EncodeChar c).length ≤ fuel by omega)
      rw [readCharacters_plain hplain]
      exact ih (by omega) hnext
    · rw [hescape, List.length_cons] at hfuel
      obtain ⟨left, rfl⟩ := Nat.exists_eq_add_one_of_ne_zero (show fuel ≠ 0 by omega)
      rw [hescape, List.cons_append, readCharacters]
      simp only [hread]
      exact ih (by omega) hnext

theorem read_print_string (s : String) :
    read (Text.encode (Value.string s).print) = .ok (.string s) := by
  have hbytes : Text.encode (Value.string s).print =
      0x22 :: (s.toList.flatMap escapeBytes ++ [0x22]) := by
    rw [Value.print, printString, Text.encode_ofList]
    simp only [List.flatMap_append, List.flatMap_cons, List.flatMap_assoc]
    rfl
  have htext : Text.decode? (List.reverse [] ++ s.toList.flatMap utf8EncodeChar) = some s := by
    rw [List.reverse_nil, List.nil_append, ← Text.encode_eq, Text.decode?_encode]
  have hstring : readString (s.toList.flatMap escapeBytes ++ [0x22]) = .ok (s, []) :=
    readCharacters_escaped s.toList (by rw [List.length_append]; omega) htext
  have hvalue (fuel depth : Nat) :
      readValue (fuel + 1) depth (0x22 :: (s.toList.flatMap escapeBytes ++ [0x22])) =
        .ok (.string s, []) := by
    simp [readValue, skipBlanks, isBlank, hstring, Except.map]
  rw [read, hbytes, hvalue]
  rfl

end Wayfinder.Json
