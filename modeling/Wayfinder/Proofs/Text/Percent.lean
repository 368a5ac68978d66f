import Mathlib.Data.List.Basic
import Wayfinder.Text.Percent
/-!
# Escaped texts

However a text is escaped, the escaped form has no slash and reads back as the text. What is written by `encode` is one
such form.
-/

namespace Wayfinder.Text

/-! ## ASCII -/

/-- What holds of all ASCII characters can be decided. -/
theorem forall_ascii {p : Char → Prop} (h : ∀ n : Fin 128, p (Char.ofNat n)) {c : Char}
    (hc : c.toNat < 128) : p c := by
  simpa using h ⟨c.toNat, hc⟩

/-- What holds of the characters of a list is decided along the list, not over all characters. -/
theorem of_mem_of_all {p : Char → Prop} [DecidablePred p] {cs : List Char}
    (h : cs.all (fun c => decide (p c)) = true) {c : Char} (hc : c ∈ cs) : p c :=
  of_decide_eq_true (List.all_eq_true.1 h c hc)

theorem toLower_of_not_ascii {c : Char} (h : ¬ c.toNat < 128) : c.toLower = c := by
  have hlarge : ¬ (c.val ≥ 'A'.val ∧ c.val ≤ 'Z'.val) := by
    rintro ⟨-, hle⟩
    have hle : c.toNat ≤ 90 := hle
    omega
  exact dif_neg hlarge

theorem toUpper_of_not_ascii {c : Char} (h : ¬ c.toNat < 128) : c.toUpper = c := by
  have hlarge : ¬ (c.val ≥ 'a'.val ∧ c.val ≤ 'z'.val) := by
    rintro ⟨-, hle⟩
    have hle : c.toNat ≤ 122 := hle
    omega
  exact dif_neg hlarge

/-- The text whose characters are the given bytes. -/
def ofAscii (bytes : Bytes) : String := String.ofList (bytes.map fun b => Char.ofNat b.toNat)

theorem decodeLossyFrom_ascii {bytes : Bytes} (h : ∀ b ∈ bytes, b < 0x80) :
    decodeLossyFrom 0 0 0 0 bytes = bytes.map fun b => Char.ofNat b.toNat := by
  induction bytes with
  | nil => rfl
  | cons b bytes ih =>
    obtain ⟨hb, hrest⟩ := List.forall_mem_cons.1 h
    simp [decodeLossyFrom, hb, ih hrest]

theorem decodeLossy_ascii {bytes : Bytes} (h : ∀ b ∈ bytes, b < 0x80) :
    decodeLossy bytes = ofAscii bytes := by
  rw [decodeLossy, decodeLossyFrom_ascii h, ofAscii]

theorem toNat_ofNat_ascii {b : UInt8} (h : b < 0x80) : (Char.ofNat b.toNat).toNat = b.toNat := by
  have hlt : b.toNat < 128 := by simpa using UInt8.lt_iff_toNat_lt.1 h
  have hvalid : b.toNat.isValidChar := .inl (by omega)
  rw [Char.ofNat, dif_pos hvalid]
  rfl

theorem encode_ofList (cs : List Char) :
    encode (String.ofList cs) = cs.flatMap String.utf8EncodeChar := by
  simp [encode, List.utf8Encode]

theorem encode_eq (s : String) : encode s = s.toList.flatMap String.utf8EncodeChar := by
  rw [← encode_ofList, String.ofList_toList]

theorem utf8EncodeChar_of_lt {c : Char} (h : c.toNat < 128) :
    String.utf8EncodeChar c = [UInt8.ofNat c.toNat] :=
  if_pos (Nat.le_of_lt_succ h)

theorem utf8EncodeChar_ascii {b : UInt8} (h : b < 0x80) :
    String.utf8EncodeChar (Char.ofNat b.toNat) = [b] := by
  have hvalue : (Char.ofNat b.toNat).toNat = b.toNat := toNat_ofNat_ascii h
  have hlt : (Char.ofNat b.toNat).toNat < 128 := by
    rw [hvalue]
    simpa using UInt8.lt_iff_toNat_lt.1 h
  rw [utf8EncodeChar_of_lt hlt, hvalue, UInt8.ofNat_toNat]

theorem utf8ByteSize_of_ascii {s : String} (h : ∀ c ∈ s.toList, c.toNat < 128) :
    s.utf8ByteSize = s.toList.length := by
  have hsingle : ∀ c ∈ s.toList, String.utf8EncodeChar c = [UInt8.ofNat c.toNat] :=
    fun c hc => utf8EncodeChar_of_lt (h c hc)
  calc s.utf8ByteSize
    _ = (encode s).length := rfl
    _ = s.toList.length := by
      rw [encode_eq, List.flatMap_congr hsingle]
      simp

theorem encode_ofAscii {bytes : Bytes} (h : ∀ b ∈ bytes, b < 0x80) :
    encode (ofAscii bytes) = bytes := by
  have hchars : (bytes.map fun b => Char.ofNat b.toNat).flatMap String.utf8EncodeChar = bytes := by
    rw [List.flatMap_map]
    calc bytes.flatMap (fun b => String.utf8EncodeChar (Char.ofNat b.toNat))
      _ = bytes.flatMap (fun b => [b]) :=
        List.flatMap_congr fun b hb => utf8EncodeChar_ascii (h b hb)
      _ = bytes := by simp
  rw [ofAscii, encode_ofList, hchars]

theorem exists_eq_ofAscii {s : String} (h : ∀ c ∈ s.toList, c.toNat < 0x80) :
    ∃ bytes, s = ofAscii bytes ∧ ∀ b ∈ bytes, b < 0x80 ∧ ∃ c ∈ s.toList, c.toNat = b.toNat := by
  have hbyte : ∀ c ∈ s.toList, (UInt8.ofNat c.toNat).toNat = c.toNat := by
    intro c hc
    have hlt := h c hc
    rw [UInt8.toNat_ofNat', Nat.mod_eq_of_lt (by omega)]
  refine ⟨s.toList.map fun c => UInt8.ofNat c.toNat, ?_, ?_⟩
  · have hchars : s.toList.map (fun c => Char.ofNat (UInt8.ofNat c.toNat).toNat) = s.toList := by
      calc s.toList.map (fun c => Char.ofNat (UInt8.ofNat c.toNat).toNat)
        _ = s.toList.map id := List.map_congr_left fun c hc => by
          rw [hbyte c hc, Char.ofNat_toNat, id]
        _ = s.toList := List.map_id _
    rw [ofAscii, List.map_map, Function.comp_def, hchars, String.ofList_toList]
  · intro b hb
    obtain ⟨c, hc, rfl⟩ := List.mem_map.1 hb
    refine ⟨?_, c, hc, (hbyte c hc).symm⟩
    rw [UInt8.lt_iff_toNat_lt, hbyte c hc]
    exact h c hc

namespace Percent

/-! ## Digits -/

theorem div_sixteen_lt (b : UInt8) : b / 16 < 16 := by
  have hb := b.toNat_lt
  rw [UInt8.lt_iff_toNat_lt, UInt8.toNat_div]
  change b.toNat / 16 < 16
  omega

theorem mod_sixteen_lt (b : UInt8) : b % 16 < 16 := UInt8.mod_lt b (by decide)

theorem div_mul_sixteen_add_mod (b : UInt8) : b / 16 * 16 + b % 16 = b := by
  have hb := b.toNat_lt
  apply UInt8.toNat_inj.1
  rw [UInt8.toNat_add, UInt8.toNat_mul, UInt8.toNat_div, UInt8.toNat_mod]
  change (b.toNat / 16 * 16 % 256 + b.toNat % 16) % 256 = b.toNat
  omega

/-- A hexadecimal digit, small. -/
def smallDigit (n : UInt8) : UInt8 := if n < 10 then 0x30 + n else 0x61 + (n - 10)

/-- What holds of the sixteen digits can be decided. -/
theorem forall_lt_sixteen {p : UInt8 → Prop} (h : ∀ n : Fin 16, p (UInt8.ofNat n)) {n : UInt8}
    (hn : n < 16) : p n := by
  have hlt : n.toNat < 16 := by simpa using UInt8.lt_iff_toNat_lt.1 hn
  simpa using h ⟨n.toNat, hlt⟩

theorem digit?_of_mem {n d : UInt8} (h : n < 16) (hd : d ∈ [digit n, smallDigit n]) :
    digit? d = some n :=
  forall_lt_sixteen (p := fun n => ∀ d ∈ [digit n, smallDigit n], digit? d = some n)
    (by decide +kernel) h d hd

theorem digit_lt {n : UInt8} (h : n < 16) : digit n < 0x80 :=
  forall_lt_sixteen (p := fun n => digit n < 0x80) (by decide) h

/-! ## Escaped forms -/

/-- Bytes with an escaped form of them. A byte is written as a `%` and its two digits, each of either case, or as
itself if it is neither a `%` nor a slash. -/
inductive Escapes : Bytes → Bytes → Prop
  | nil : Escapes [] []
  | plain {b : UInt8} {bytes escaped : Bytes} : b ≠ 0x25 → b ≠ 0x2f → Escapes bytes escaped →
      Escapes (b :: bytes) (b :: escaped)
  | digits {b high low : UInt8} {bytes escaped : Bytes} :
      high ∈ [digit (b / 16), smallDigit (b / 16)] → low ∈ [digit (b % 16), smallDigit (b % 16)] →
      Escapes bytes escaped → Escapes (b :: bytes) (0x25 :: high :: low :: escaped)

theorem unescape_cons_of_ne {b : UInt8} (h : b ≠ 0x25) (rest : Bytes) :
    unescape (b :: rest) = b :: unescape rest := by
  rw [unescape]
  rintro a b' rest' rfl
  exact (h rfl).elim

namespace Escapes

variable {bytes escaped : Bytes}

theorem unescape_eq (h : Escapes bytes escaped) : unescape escaped = bytes := by
  induction h with
  | nil => rfl
  | plain hpercent _ _ ih => rw [unescape_cons_of_ne hpercent, ih]
  | digits hhigh hlow _ ih =>
    have hhigh := digit?_of_mem (div_sixteen_lt _) hhigh
    have hlow := digit?_of_mem (mod_sixteen_lt _) hlow
    simp [unescape, hhigh, hlow, div_mul_sixteen_add_mod, ih]

theorem slash_notMem (h : Escapes bytes escaped) : 0x2f ∉ escaped := by
  induction h with
  | nil => simp
  | plain _ hslash _ ih => simp [hslash.symm, ih]
  | digits hhigh hlow _ ih =>
    have hne : ∀ {n d : UInt8}, digit? d = some n → d ≠ 0x2f := by
      rintro n d hd rfl
      cases hd
    have hhigh := hne (digit?_of_mem (div_sixteen_lt _) hhigh)
    have hlow := hne (digit?_of_mem (mod_sixteen_lt _) hlow)
    simp [hhigh.symm, hlow.symm, ih]

theorem escape (bytes : Bytes) : Escapes bytes (Percent.escape bytes) := by
  induction bytes with
  | nil => exact .nil
  | cons b bytes ih =>
    rw [Percent.escape, List.flatMap_cons, escapeByte]
    split
    · next hplain =>
      have hne : ∀ c, isUnreserved c = false → b ≠ c := by
        rintro c hc rfl
        cases hc.symm.trans hplain
      exact .plain (hne _ rfl) (hne _ rfl) ih
    · exact .digits (by simp) (by simp) ih

end Escapes

theorem lt_of_mem_escapeByte {b c : UInt8} (h : c ∈ escapeByte b) : c < 0x80 := by
  unfold escapeByte at h
  split at h
  · next hplain =>
    obtain rfl := List.mem_singleton.1 h
    have hall : ∀ n : Fin 256, isUnreserved (UInt8.ofNat n) = true → UInt8.ofNat n < 0x80 := by
      decide +kernel
    simpa using hall ⟨c.toNat, c.toNat_lt⟩ (by simpa using hplain)
  · simp only [List.mem_cons, List.not_mem_nil, or_false] at h
    rcases h with rfl | rfl | rfl
    · decide
    · exact digit_lt (div_sixteen_lt b)
    · exact digit_lt (mod_sixteen_lt b)

theorem lt_of_mem_escape {bytes : Bytes} {c : UInt8} (h : c ∈ escape bytes) : c < 0x80 := by
  obtain ⟨b, -, hc⟩ := List.mem_flatMap.1 h
  exact lt_of_mem_escapeByte hc

/-! ## Escaped texts -/

/-- A text whose bytes are an escaped form of those of another one. -/
def IsEncoding (s escaped : String) : Prop := Escapes (Text.encode s) (Text.encode escaped)

namespace IsEncoding

variable {s escaped : String}

theorem decode_eq (h : IsEncoding s escaped) : decode escaped = s := by
  simp [decode, h.unescape_eq]

theorem slash_notMem (h : IsEncoding s escaped) : '/' ∉ escaped.toList := by
  intro hslash
  refine Escapes.slash_notMem h ?_
  rw [Text.encode_eq]
  exact List.mem_flatMap.2 ⟨'/', hslash, by decide⟩

end IsEncoding

theorem isEncoding_encode (s : String) : IsEncoding s (encode s) := by
  have hbytes : Text.encode (encode s) = escape (Text.encode s) := by
    have hascii : ∀ b ∈ escape (Text.encode s), b < 0x80 := fun _ => lt_of_mem_escape
    rw [encode, decodeLossy_ascii hascii, encode_ofAscii hascii]
  rw [IsEncoding, hbytes]
  exact .escape _

end Percent

end Wayfinder.Text
