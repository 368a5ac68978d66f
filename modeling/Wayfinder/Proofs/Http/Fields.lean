import Mathlib.Data.List.Basic
import Wayfinder.Http.Header
import Wayfinder.Proofs.Text.Percent
/-!
# The values of a name

A line under one name leaves the values of every other name as they are. A visible text is the
value that a line holds, and reads back from it.
-/

namespace Wayfinder.Http

namespace Headers

variable {name other : HeaderName} (value : HeaderValue)

theorem filter_insertInto_same (hs : List Header) :
    (insertInto name value hs).filter (fun h => h.1 = name) = [(name, value)] := by
  induction hs with
  | nil => simp [insertInto]
  | cons h rest ih =>
    by_cases hname : h.1 = name
    · simp [insertInto, hname, List.filter_filter]
    · simp [insertInto, hname, ih]

/-- To drop the lines of one name is nothing to the lines of another one. -/
theorem filter_filter_of_ne (hne : other ≠ name) (hs : List Header) :
    (hs.filter fun h => h.1 ≠ name).filter (fun h => h.1 = other) =
      hs.filter fun h => h.1 = other := by
  rw [List.filter_filter]
  refine List.filter_congr fun h _ => ?_
  by_cases heq : h.1 = other <;> simp [heq, hne]

theorem filter_insertInto_of_ne (hne : other ≠ name) (hs : List Header) :
    (insertInto name value hs).filter (fun h => h.1 = other) = hs.filter fun h => h.1 = other := by
  induction hs with
  | nil => simp [insertInto, hne.symm]
  | cons h rest ih =>
    rw [insertInto]
    split
    · next hname =>
      have hother : ¬ h.1 = other := fun heq => hne (heq.symm.trans hname)
      -- what the line replaces has the name of the line
      rw [List.filter_cons_of_neg (by simpa using hne.symm),
        List.filter_cons_of_neg (by simpa using hother), filter_filter_of_ne hne]
    · by_cases hother : h.1 = other <;> simp [hother, ih]

theorem filter_appendInto_of_ne (hne : other ≠ name) (hs : List Header) :
    (appendInto name value hs).filter (fun h => h.1 = other) = hs.filter fun h => h.1 = other := by
  induction hs with
  | nil => simp [appendInto, hne.symm]
  | cons h rest ih =>
    rw [appendInto]
    split
    · by_cases hother : h.1 = other <;> simp [hother, hne.symm]
    · by_cases hother : h.1 = other <;> simp [hother, ih]

/-- The lines of one name may stand in front of all others. -/
theorem filter_gather (front other : HeaderName) (hs : List Header) :
    (hs.filter (fun h => h.1 = front) ++ hs.filter fun h => h.1 ≠ front).filter
      (fun h => h.1 = other) = hs.filter fun h => h.1 = other := by
  rw [List.filter_append]
  by_cases hfront : other = front
  · subst hfront
    simp [List.filter_filter]
  · have hnone : (hs.filter fun h => h.1 = front).filter (fun h => h.1 = other) = [] := by
      rw [List.filter_filter, List.filter_eq_nil_iff]
      rintro h - hboth
      simp only [Bool.and_eq_true, decide_eq_true_eq] at hboth
      exact hfront (hboth.1.symm.trans hboth.2)
    rw [hnone, filter_filter_of_ne hfront, List.nil_append]

variable (hs : Headers)

@[simp] theorem getAll_insert_same : (hs.insert name value).getAll name = [value] := by
  simp [getAll, insert, filter_insertInto_same]

theorem getAll_insert_of_ne (hne : other ≠ name) :
    (hs.insert name value).getAll other = hs.getAll other := by
  simp only [getAll, insert, filter_insertInto_of_ne value hne]

theorem getAll_append_of_ne (hne : other ≠ name) :
    (hs.append name value).getAll other = hs.getAll other := by
  simp only [getAll, append, filter_appendInto_of_ne value hne]

theorem getAll_remove_of_ne (hne : other ≠ name) :
    (hs.remove name).getAll other = hs.getAll other := by
  let behind := (hs.toList.dropWhile fun h => h.1 ≠ name).filter fun h => h.1 ≠ name
  have hparts : hs.toList.filter (fun h => h.1 = other) =
      (hs.toList.takeWhile fun h => h.1 ≠ name).filter (fun h => h.1 = other) ++
        behind.filter fun h => h.1 = other := by
    rw [filter_filter_of_ne hne, ← List.filter_append, List.takeWhile_append_dropWhile]
  unfold getAll remove
  rw [hparts]
  dsimp only
  split
  · next hnone =>
    have hbehind : behind = [] := List.getLast?_eq_none_iff.1 hnone
    rw [hbehind, List.filter_nil, List.append_nil]
  · rw [List.append_assoc, List.filter_append, filter_gather]

/-- The values of a name as bytes. -/
def values (name : HeaderName) : List Bytes := (hs.getAll name).map (·.bytes)

@[simp] theorem values_insert_same : (hs.insert name value).values name = [value.bytes] := by
  simp [values]

theorem values_insert_of_ne (hne : other ≠ name) :
    (hs.insert name value).values other = hs.values other := by
  rw [values, hs.getAll_insert_of_ne value hne, values]

theorem contains_eq (name : HeaderName) : hs.contains name = !(hs.values name).isEmpty := by
  cases h : hs.getAll name <;> simp [contains, get?, values, h]

end Headers

/-! ## Visible texts -/

/-- Only blanks and visible ASCII. -/
def IsPrintable (s : String) : Prop := ∀ c ∈ s.toList, 0x20 ≤ c.toNat ∧ c.toNat ≤ 0x7e

instance (s : String) : Decidable (IsPrintable s) := List.decidableBAll _ _

theorem IsPrintable.append {s t : String} (hs : IsPrintable s) (ht : IsPrintable t) :
    IsPrintable (s ++ t) := by
  intro c hc
  rw [String.toList_append, List.mem_append] at hc
  exact hc.elim (hs c) (ht c)

theorem IsPrintable.intercalate {separator : String} (hseparator : IsPrintable separator)
    {parts : List String} (hparts : ∀ p ∈ parts, IsPrintable p) :
    IsPrintable (separator.intercalate parts) := by
  induction parts with
  | nil =>
    intro c hc
    simp at hc
  | cons p rest ih =>
    obtain ⟨hp, hrest⟩ := List.forall_mem_cons.1 hparts
    cases rest with
    | nil => rwa [String.intercalate_singleton]
    | cons q rest =>
      rw [String.intercalate_cons_cons]
      exact (hp.append hseparator).append (ih hrest)

theorem IsPrintable.exists_bytes {s : String} (h : IsPrintable s) :
    ∃ bytes, s = Text.ofAscii bytes ∧ ∀ b ∈ bytes, 0x20 ≤ b ∧ b ≤ 0x7e := by
  have hascii : ∀ c ∈ s.toList, c.toNat < 0x80 := by
    intro c hc
    obtain ⟨-, hle⟩ := h c hc
    omega
  obtain ⟨bytes, hs, hbytes⟩ := Text.exists_eq_ofAscii hascii
  refine ⟨bytes, hs, fun b hb => ?_⟩
  obtain ⟨-, c, hc, hval⟩ := hbytes b hb
  simp only [UInt8.le_iff_toNat_le, ← hval]
  exact h c hc

/-- The characters that show as text: visible ASCII, the blank and the tab. -/
def IsFieldChar (c : Char) : Prop := (0x20 ≤ c.toNat ∧ c.toNat ≤ 0x7e) ∨ c = '\t'

instance (c : Char) : Decidable (IsFieldChar c) := inferInstanceAs (Decidable (_ ∨ _))

theorem IsFieldChar.toNat_lt {c : Char} (h : IsFieldChar c) : c.toNat < 0x80 := by
  rcases h with ⟨-, hle⟩ | rfl
  · omega
  · decide

namespace HeaderValue

theorem bytes_of_ofString? {s : String} {value : HeaderValue} (h : ofString? s = some value) :
    value.bytes = Text.encode s := by
  unfold ofString? ofBytes? at h
  split at h
  · cases h
    rfl
  · cases h

/-- A value that shows as text reads as the text that it encodes. -/
theorem text?_of_bytes {v : HeaderValue} {text : List Char} (htext : ∀ c ∈ text, IsFieldChar c)
    (hv : v.bytes = Text.encode (String.ofList text)) : v.text? = some (String.ofList text) := by
  have hascii : ∀ c ∈ (String.ofList text).toList, c.toNat < 0x80 := by
    rw [String.toList_ofList]
    exact fun c hc => (htext c hc).toNat_lt
  obtain ⟨bytes, hs, hbytes⟩ := Text.exists_eq_ofAscii hascii
  have hshown : ∀ b ∈ bytes, isTextByte b = true := by
    intro b hb
    obtain ⟨-, c, hc, hval⟩ := hbytes b hb
    rw [String.toList_ofList] at hc
    rcases htext c hc with ⟨hge, hle⟩ | rfl
    · have hge : 0x20 ≤ b := by rwa [UInt8.le_iff_toNat_le, ← hval]
      have hle : b ≤ 0x7e := by rwa [UInt8.le_iff_toNat_le, ← hval]
      simp [isTextByte, hge, hle]
    · obtain rfl : b = 0x09 := UInt8.toNat_inj.1 hval.symm
      rfl
  rw [hs] at hv ⊢
  rw [Text.encode_ofAscii fun b hb => (hbytes b hb).1] at hv
  rw [text?, hv, if_pos (List.all_eq_true.2 hshown), Text.ofAscii]

variable {s : String} (h : IsPrintable s)

include h

/-- The line of a visible text holds the bytes of the text, all of them visible. -/
theorem exists_ofText_eq : ∃ bytes, s = Text.ofAscii bytes ∧ Text.encode s = bytes ∧
    (ofText s).bytes = bytes ∧ bytes.all isValueByte = true ∧ bytes.all isTextByte = true := by
  obtain ⟨bytes, rfl, hbytes⟩ := h.exists_bytes
  have hvalue : ∀ b ∈ bytes, isValueByte b = true := by
    intro b hb
    obtain ⟨hle, hge⟩ := hbytes b hb
    have hne : b ≠ 0x7f := by
      rintro rfl
      exact absurd hge (by decide)
    simp [isValueByte, hle, hne]
  have htext : ∀ b ∈ bytes, isTextByte b = true := by
    intro b hb
    simp [isTextByte, hbytes b hb]
  have hencode : Text.encode (Text.ofAscii bytes) = bytes := by
    refine Text.encode_ofAscii fun b hb => ?_
    have hge := (hbytes b hb).2
    rw [UInt8.le_iff_toNat_le] at hge
    rw [UInt8.lt_iff_toNat_lt]
    exact Nat.lt_of_le_of_lt hge (by decide)
  have hofText : (ofText (Text.ofAscii bytes)).bytes = bytes := by
    simp only [ofText, hencode, List.filter_eq_self.2 hvalue]
  exact ⟨bytes, rfl, hencode, hofText, List.all_eq_true.2 hvalue, List.all_eq_true.2 htext⟩

theorem ofString?_of_isPrintable : ofString? s = some (ofText s) := by
  obtain ⟨bytes, -, hencode, hofText, hvalue, -⟩ := exists_ofText_eq h
  rw [ofString?, ofBytes?, hencode, dif_pos hvalue]
  simp only [← hofText]

theorem bytes_ofText : (ofText s).bytes = Text.encode s := by
  obtain ⟨bytes, -, hencode, hofText, -⟩ := exists_ofText_eq h
  rw [hofText, hencode]

theorem text?_ofText : (ofText s).text? = some s := by
  obtain ⟨bytes, hs, -, hofText, -, htext⟩ := exists_ofText_eq h
  rw [text?, hofText, if_pos htext, ← Text.ofAscii, ← hs]

end HeaderValue

end Wayfinder.Http
