import Mathlib.Data.List.Basic
import Mathlib.Data.String.Basic
import Wayfinder.Proofs.Json.Strings
import Wayfinder.Proofs.Number.Numeral
import Wayfinder.Proofs.Text.Trim
import Wayfinder.RequestId
/-!
# Ids and their texts

An id is read back from its text wherever the text stands, and the texts of ids are ordered as the ids
are. A header value that is no such text counts for nothing.
-/

namespace Wayfinder.RequestId

/-! ## Digits -/

theorem mem_digits {k n : Nat} {c : Char} (hc : c ∈ digits k n) : ∃ m, c = digit m := by
  induction k generalizing n with
  | zero => cases hc
  | succ k ih =>
    rcases List.mem_append.1 hc with hfront | hlast
    · exact ih hfront
    · exact ⟨n, List.mem_singleton.1 hlast⟩

theorem length_digits (k n : Nat) : (digits k n).length = k := by
  induction k generalizing n with
  | zero => rfl
  | succ k ih => rw [digits, List.length_append, ih, List.length_singleton]

theorem idxOf?_digit (n : Nat) : alphabet.idxOf? (digit n) = some (n % 32) := by
  have hall : ∀ i < 32, alphabet.idxOf? (alphabet.getD i '0') = some i := by decide
  exact hall (n % 32) (Nat.mod_lt n (by decide))

theorem mem_alphabet_of_mem_digits {k n : Nat} {c : Char} (hc : c ∈ digits k n) : c ∈ alphabet := by
  obtain ⟨m, rfl⟩ := mem_digits hc
  by_contra hnone
  have hvalue := idxOf?_digit m
  rw [List.idxOf?_eq_none_iff.2 hnone] at hvalue
  cases hvalue

theorem mapM_digits (k n : Nat) :
    ∃ ds, (digits k n).mapM (fun c => alphabet.idxOf? c) = some ds ∧
      ds.foldl (fun n d => n * 32 + d) 0 = n % 32 ^ k := by
  induction k generalizing n with
  | zero => exact ⟨[], rfl, (Nat.mod_one n).symm⟩
  | succ k ih =>
    obtain ⟨ds, hread, hvalue⟩ := ih (n / 32)
    refine ⟨ds ++ [n % 32], ?_, ?_⟩
    · simp [digits, List.mapM_append, hread, idxOf?_digit]
    · rw [List.foldl_append, hvalue, List.foldl_cons, List.foldl_nil, Nat.pow_succ',
        Nat.mod_mul]
      omega

/-- Whether a text is 26 digits to base 32, each in either case. -/
def IsDigits (s : String) : Prop := s.toList.length = 26 ∧ ∀ c ∈ s.toList, c.toUpper ∈ alphabet

theorem toNat_lt_of_toUpper_mem {c : Char} (h : c.toUpper ∈ alphabet) : c.toNat < 128 := by
  by_contra hlarge
  rw [Text.toUpper_of_not_ascii hlarge] at h
  exact hlarge (Text.of_mem_of_all (p := fun d => d.toNat < 128) (by decide) h)

theorem isBlank_of_toUpper_mem {c : Char} (h : c.toUpper ∈ alphabet) :
    Unicode.isBlank c = false :=
  Text.forall_ascii (p := fun c => c.toUpper ∈ alphabet → Unicode.isBlank c = false)
    (by decide +kernel) (toNat_lt_of_toUpper_mem h) h

theorem toUpper_of_toLower_eq {c d : Char} (h : c.toLower = d.toLower) (hd : d ∈ alphabet) :
    c.toUpper = d := by
  have hc : c.toNat < 128 := by
    by_contra hlarge
    rw [Text.toLower_of_not_ascii hlarge] at h
    exact hlarge (h ▸ Text.of_mem_of_all (p := fun e => e.toLower.toNat < 128) (by decide) hd)
  have hall : alphabet.all (fun e => decide (c.toLower = e.toLower → c.toUpper = e)) = true :=
    Text.forall_ascii
      (p := fun c => alphabet.all (fun e => decide (c.toLower = e.toLower → c.toUpper = e)) = true)
      (by decide +kernel) hc
  exact Text.of_mem_of_all (p := fun e => c.toLower = e.toLower → c.toUpper = e) hall hd h

/-! ## Reading -/

section Reading

variable {s : String} {id : RequestId}

theorem parse_of_digits (h : s.toList.map Char.toUpper = digits 26 id.value.toNat) :
    parse s = .ok id := by
  have hmem : ∀ c ∈ s.toList, c.toUpper ∈ alphabet := fun c hc =>
    mem_alphabet_of_mem_digits (h ▸ List.mem_map_of_mem hc)
  have hsize : s.utf8ByteSize = 26 := by
    rw [Text.utf8ByteSize_of_ascii fun c hc => toNat_lt_of_toUpper_mem (hmem c hc),
      ← List.length_map (f := Char.toUpper), h, length_digits]
  obtain ⟨ds, hread, hvalue⟩ := mapM_digits 26 id.value.toNat
  have hdigits : s.toList.mapM digitValue? = some ds := by
    rw [← hread, ← h, List.mapM_map]
    rfl
  -- of the 130 bits that 26 digits have room for, an id leaves two empty
  have hroom : id.value.toNat % 32 ^ 26 = id.value.toNat :=
    Nat.mod_eq_of_lt (Nat.lt_trans id.value.isLt (by decide))
  calc parse s
    _ = .ok (ofDigits ds) := by rw [parse, if_neg (not_not.2 hsize), hdigits]
    _ = .ok id := by
      rw [ofDigits, hvalue, hroom, BitVec.ofNat_toNat, BitVec.setWidth_eq]

theorem isDigits_of_parse (h : parse s = .ok id) : IsDigits s := by
  have hsize : s.utf8ByteSize = 26 := by
    by_contra hne
    rw [parse, if_pos hne] at h
    cases h
  have hmem : ∀ c ∈ s.toList, c.toUpper ∈ alphabet := by
    by_contra hbad
    push Not at hbad
    obtain ⟨c, hc, hnone⟩ := hbad
    have hvalue : digitValue? c = none := List.idxOf?_eq_none_iff.2 hnone
    rw [parse, if_neg (not_not.2 hsize), Number.mapM_eq_none hc hvalue] at h
    cases h
  refine ⟨?_, hmem⟩
  rw [← Text.utf8ByteSize_of_ascii fun c hc => toNat_lt_of_toUpper_mem (hmem c hc), hsize]

theorem map_toUpper_of_sameIgnoringCase (h : Text.sameIgnoringCase s id.toText = true) :
    s.toList.map Char.toUpper = digits 26 id.value.toNat := by
  have hlower : s.toList.map Char.toLower = (digits 26 id.value.toNat).map Char.toLower := by
    simpa [Text.sameIgnoringCase, Text.asciiLower, toText, String.ofList_inj] using h
  have hmem : ∀ d ∈ digits 26 id.value.toNat, d ∈ alphabet := fun _ => mem_alphabet_of_mem_digits
  generalize digits 26 id.value.toNat = ds at hlower hmem ⊢
  generalize s.toList = cs at hlower ⊢
  induction ds generalizing cs with
  | nil => simpa using hlower
  | cons d ds ih =>
    obtain ⟨hd, hds⟩ := List.forall_mem_cons.1 hmem
    cases cs with
    | nil => cases hlower
    | cons c cs =>
      obtain ⟨hc, hcs⟩ := List.cons.inj hlower
      rw [List.map_cons, toUpper_of_toLower_eq hc hd, ih hds cs hcs]

end Reading

/-! ## Order -/

theorem append_lt_append_of_lt {xs ys : List Char} (h : xs < ys) (hlength : xs.length = ys.length)
    (xs' ys' : List Char) : xs ++ xs' < ys ++ ys' := by
  induction h with
  | nil => cases hlength
  | rel h => exact .rel h
  | cons _ ih => exact .cons (ih (Nat.succ.inj hlength))

theorem digit_lt_digit {m n : Nat} (h : m % 32 < n % 32) : digit m < digit n := by
  have hall : ∀ j < 32, ∀ i < j, alphabet.getD i '0' < alphabet.getD j '0' := by decide
  exact hall (n % 32) (Nat.mod_lt n (by decide)) (m % 32) h

theorem digits_lt_digits {k m n : Nat} (hlt : m < n) (hn : n < 32 ^ k) : digits k m < digits k n := by
  induction k generalizing m n with
  | zero => omega
  | succ k ih =>
    rw [digits, digits]
    rcases Nat.lt_or_eq_of_le (Nat.div_le_div_right (c := 32) hlt.le) with hfront | hfront
    · have hlarge : n / 32 < 32 ^ k := Nat.div_lt_of_lt_mul (Nat.pow_succ' ▸ hn)
      exact append_lt_append_of_lt (ih hfront hlarge)
        ((length_digits k _).trans (length_digits k _).symm) _ _
    · have hlast : m % 32 < n % 32 := by omega
      rw [hfront]
      exact List.append_left_lt (.rel (digit_lt_digit hlast))

theorem toText_lt_toText {a b : RequestId} (h : a.value < b.value) : a.toText < b.toText := by
  have hlarge : b.value.toNat < 32 ^ 26 := Nat.lt_trans b.value.isLt (by decide)
  rw [String.lt_iff_toList_lt, toText, toText, String.toList_ofList, String.toList_ofList]
  exact digits_lt_digits (BitVec.lt_def.1 h) hlarge

/-- Texts stand for ids: an id is read back from its text, from the JSON string of it, and from a header value
that has it in any case and among white space. Texts are ordered as the ids are. Where a header value has
anything but the digits of an id, the id is a fresh one. -/
theorem texts_stand_for_ids :
    (∀ id : RequestId,
      parse id.toText = .ok id ∧
      (∃ v, Json.read (Text.encode id.toJson.print) = .ok v ∧ ofJson? v = some id) ∧
      ∀ s front back : String, Text.sameIgnoringCase s id.toText = true →
        (∀ c ∈ front.toList ++ back.toList, Unicode.isBlank c = true) →
        ∀ fresh, ofHeaderOr fresh (some (front ++ s ++ back)) = id) ∧
    (∀ a b : RequestId, a.value < b.value ↔ a.toText < b.toText) ∧
    ∀ s, ¬ IsDigits (Text.trim s) → ∀ fresh, ofHeaderOr fresh (some s) = fresh := by
  refine ⟨fun id => ?_, fun a b => ⟨toText_lt_toText, fun h => ?_⟩, fun s hbad fresh => ?_⟩
  · have hparse {s : String} (h : Text.sameIgnoringCase s id.toText = true) : parse s = .ok id :=
      parse_of_digits (map_toUpper_of_sameIgnoringCase h)
    have hself : parse id.toText = .ok id := hparse (beq_self_eq_true _)
    refine ⟨hself, ⟨id.toJson, Json.read_print_string id.toText, ?_⟩, ?_⟩
    · rw [toJson, ofJson?, hself]
      rfl
    · intro s front back hs hblank fresh
      obtain ⟨hfront, hback⟩ := List.forall_mem_append.1 hblank
      have hdigits := isDigits_of_parse (hparse hs)
      have htrim : Text.trim (front ++ s ++ back) = s := by
        have hlist : front ++ s ++ back =
            String.ofList (front.toList ++ s.toList ++ back.toList) := by
          rw [String.ofList_append, String.ofList_append, String.ofList_toList,
            String.ofList_toList, String.ofList_toList]
        rw [hlist, Text.trim_surrounded (fun c hc => isBlank_of_toUpper_mem (hdigits.2 c hc)) hfront
          hback, String.ofList_toList]
      rw [ofHeaderOr, htrim, hparse hs]
  · by_contra hle
    rcases Nat.lt_or_eq_of_le (BitVec.le_def.1 (BitVec.not_lt.1 hle)) with hlt | heq
    · exact lt_asymm h (toText_lt_toText (BitVec.lt_def.2 hlt))
    · rw [toText, toText, heq] at h
      exact lt_irrefl _ h
  · cases hparse : parse (Text.trim s) with
    | ok id => exact absurd (isDigits_of_parse hparse) hbad
    | error e => rw [ofHeaderOr, hparse]

-- a text that no id has is read all the same, without its two highest bits
example : parse "80000000000000000000000000" = .ok ⟨0#128⟩ := by decide +kernel

end Wayfinder.RequestId
