import Mathlib.Tactic.FinCases
import Wayfinder.Proofs.Text.Percent
import Wayfinder.Proofs.Text.Trim
import Wayfinder.Wire.Reply
/-!
# Header lines on the wire

The transport is handed one line for each header that it does not write itself and whose value is
text, up to its limit. Each line reads back as its header, and none can be taken for two.
-/

namespace Wayfinder

namespace Http

theorem toNat_lt_of_isTokenChar {c : Char} (h : isTokenChar c = true) : c.toNat < 128 := by
  rw [isTokenChar, Bool.or_eq_true] at h
  rcases h with hletter | hmark
  · have halphanum : c.isAlphanum = ((decide ('A' ≤ c ∧ c ≤ 'Z') ||
        (decide ('a' ≤ c) && decide (c ≤ 'z'))) || (decide ('0' ≤ c) && decide (c ≤ '9'))) := rfl
    simp only [halphanum, Bool.or_eq_true, Bool.and_eq_true, decide_eq_true_eq, Char.le_def,
      UInt32.le_iff_toNat_le] at hletter
    change ((65 ≤ c.toNat ∧ c.toNat ≤ 90) ∨ (97 ≤ c.toNat ∧ c.toNat ≤ 122)) ∨
      (48 ≤ c.toNat ∧ c.toNat ≤ 57) at hletter
    omega
  · rw [List.contains_iff_mem] at hmark
    fin_cases hmark <;> decide

/-- A capital is a character of tokens as well, and its small form is the letter again. -/
theorem isTokenChar_toUpper {c : Char} (h : isTokenChar c = true) (hsmall : c.toLower = c) :
    isTokenChar c.toUpper = true ∧ c.toUpper.toLower = c :=
  Text.forall_ascii (p := fun c => isTokenChar c = true → c.toLower = c →
      isTokenChar c.toUpper = true ∧ c.toUpper.toLower = c)
    (by decide +kernel) (toNat_lt_of_isTokenChar h) h hsmall

end Http

namespace Wire

open Http (Header HeaderName HeaderValue Headers Response isTextByte isTokenChar)

/-! ## Names with capitals -/

/-- A name with a capital behind each dash, and at its start if `atStart`. -/
def titled : Bool → List Char → List Char
  | _, [] => []
  | atStart, c :: rest => (if atStart then c.toUpper else c) :: titled (c == '-') rest

theorem intercalate_cons_cons (sep : List Char) (c : Char) (piece : List Char)
    (pieces : List (List Char)) :
    sep.intercalate ((c :: piece) :: pieces) = c :: sep.intercalate (piece :: pieces) := by
  cases pieces <;> simp

theorem titled_eq_intercalate (name : List Char) :
    titled true name = ['-'].intercalate ((name.splitOn '-').map Reply.capitalize) ∧
    ∀ piece pieces, name.splitOn '-' = piece :: pieces →
      titled false name = ['-'].intercalate (piece :: pieces.map Reply.capitalize) := by
  induction name with
  | nil =>
    constructor
    · rfl
    · intro piece pieces h
      obtain ⟨rfl, rfl⟩ : [] = piece ∧ [] = pieces := by simpa using h
      rfl
  | cons c rest ih =>
    obtain ⟨piece, pieces, hrest⟩ := List.exists_cons_of_ne_nil (List.splitOn_ne_nil '-' rest)
    obtain ⟨htrue, hfalse⟩ := ih
    rw [hrest] at htrue
    by_cases hc : c = '-'
    · subst hc
      have hsplit : ('-' :: rest).splitOn '-' = [] :: piece :: pieces := by
        rw [List.splitOn_cons_eq_if_modifyHead, hrest]
        rfl
      rw [hsplit]
      constructor
      · simp [titled, htrue, Reply.capitalize]
      · rintro _ _ ⟨rfl, rfl⟩
        simp [titled, htrue]
    · have hsplit : (c :: rest).splitOn '-' = (c :: piece) :: pieces := by
        rw [List.splitOn_cons_eq_if_modifyHead, hrest, if_neg (by simpa using hc)]
        rfl
      have hdash : (c == '-') = false := by simpa using hc
      rw [hsplit]
      constructor
      · rw [titled, hdash, hfalse piece pieces hrest, List.map_cons, Reply.capitalize,
          intercalate_cons_cons, if_pos rfl]
      · rintro _ _ ⟨rfl, rfl⟩
        rw [titled, hdash, hfalse piece pieces hrest, intercalate_cons_cons, if_neg (by simp)]

theorem canonicalName_eq (name : String) :
    Reply.canonicalName name = String.ofList (titled true name.toList) := by
  rw [Reply.canonicalName, (titled_eq_intercalate name.toList).1]

section Titled

variable {name : List Char} (hname : ∀ c ∈ name, isTokenChar c = true ∧ c.toLower = c)

include hname

theorem isTokenChar_of_mem_titled (atStart : Bool) : ∀ c ∈ titled atStart name, isTokenChar c = true := by
  induction name generalizing atStart with
  | nil => simp [titled]
  | cons c rest ih =>
    obtain ⟨⟨htoken, hsmall⟩, hrest⟩ := List.forall_mem_cons.1 hname
    refine List.forall_mem_cons.2 ⟨?_, ih hrest _⟩
    cases atStart with
    | false => exact htoken
    | true => exact (Http.isTokenChar_toUpper htoken hsmall).1

theorem map_toLower_titled (atStart : Bool) : (titled atStart name).map Char.toLower = name := by
  induction name generalizing atStart with
  | nil => rfl
  | cons c rest ih =>
    obtain ⟨⟨htoken, hsmall⟩, hrest⟩ := List.forall_mem_cons.1 hname
    rw [titled, List.map_cons, ih hrest]
    cases atStart with
    | false => rw [if_neg Bool.false_ne_true, hsmall]
    | true => rw [if_pos rfl, (Http.isTokenChar_toUpper htoken hsmall).2]

end Titled

/-! ## Lines of headers -/

/-- A header that the transport does not write itself and whose value is text. -/
def IsCarried (h : Header) : Prop :=
  h.1.text ∉ ["content-length", "date", "server"] ∧
    ∀ b ∈ h.2.bytes, (0x20 ≤ b ∧ b ≤ 0x7e) ∨ b = 0x09

instance : DecidablePred IsCarried := fun _ => inferInstanceAs (Decidable (_ ∧ _))

/-- The line of a header whose value is text. -/
def fieldLine (h : Header) : String :=
  String.ofList (titled true h.1.text.toList) ++ ": " ++ Text.ofAscii h.2.bytes

/-- The name in small letters before the first colon, and what stands behind colon and blank. -/
def readLine? (line : String) : Option (String × Bytes) := do
  let (name, rest) ← Text.cutAt ':' line
  let ' ' :: value := rest.toList | none
  return (Text.asciiLower name, Text.encode (String.ofList value))

theorem isFraming_iff (name : HeaderName) :
    Reply.isFraming name = true ↔ name.text ∈ ["content-length", "date", "server"] := by
  obtain ⟨text, hvalid⟩ := name
  simp [Reply.isFraming, HeaderName.contentLength, HeaderName.date, HeaderName.server, or_assoc]

theorem isCarried_iff (h : Header) :
    IsCarried h ↔ Reply.isFraming h.1 = false ∧ h.2.bytes.all isTextByte = true := by
  simp only [IsCarried, ← isFraming_iff, Bool.not_eq_true, List.all_eq_true, isTextByte,
    Bool.or_eq_true, Bool.and_eq_true, decide_eq_true_eq, beq_iff_eq]

/-- The lines of a header list are those of the headers to be carried, as far as there is room. -/
theorem layOut_fst (room : Nat) (hs : List Header) :
    (Reply.layOut room hs).1 = ((hs.filter IsCarried).take room).map fieldLine := by
  induction hs generalizing room with
  | nil => simp [Reply.layOut]
  | cons h rest ih =>
    obtain ⟨name, value⟩ := h
    rw [Reply.layOut]
    cases hframing : Reply.isFraming name with
    | true =>
      have hcarried : ¬ IsCarried (name, value) := by simp [isCarried_iff, hframing]
      rw [if_pos rfl, ih, List.filter_cons_of_neg (by simpa using hcarried)]
    | false =>
      cases room with
      | zero => simp [ih]
      | succ room =>
        by_cases htext : value.bytes.all isTextByte = true
        · have hcarried : IsCarried (name, value) := (isCarried_iff _).2 ⟨hframing, htext⟩
          have hvalue : value.text? = some (Text.ofAscii value.bytes) := if_pos htext
          simp [hvalue, hcarried, ih, Reply.line, canonicalName_eq, fieldLine]
        · have hcarried : ¬ IsCarried (name, value) := fun h => htext ((isCarried_iff _).1 h).2
          have hvalue : value.text? = none := if_neg htext
          simp [hvalue, hcarried, ih]

theorem LineTable.eq_of_lookup_eq_some {t : LineTable} {line kept : String}
    (h : t.entries.lookup line = some kept) : kept = line := by
  obtain ⟨front, back, hentries, -⟩ := List.lookup_eq_some_iff.1 h
  exact t.valid (line, kept) (by simp [hentries])

theorem LineTable.intern_fst (t : LineTable) (limit : Nat) (line : String) :
    (t.intern limit line).1 = line := by
  unfold LineTable.intern
  split
  · next kept h => exact LineTable.eq_of_lookup_eq_some h
  · split <;> rfl

/-- However full a table is, each line is handed over as it is. -/
theorem LineTable.internAll_fst (t : LineTable) (limit : Nat) (lines : List String) :
    (t.internAll limit lines).1 = lines := by
  induction lines generalizing t with
  | nil => rfl
  | cons line rest ih => simp [LineTable.internAll, LineTable.intern_fst, ih]

section Carried

variable {h : Header} (hcarried : IsCarried h)

theorem token_of_mem_name (name : HeaderName) :
    ∀ c ∈ name.text.toList, isTokenChar c = true ∧ c.toLower = c := by
  intro c hc
  simpa using List.all_eq_true.1 name.valid.2 c hc

theorem notMem_titled (name : HeaderName) {c : Char} (hc : isTokenChar c = false) :
    c ∉ titled true name.text.toList := by
  intro hmem
  have htoken := isTokenChar_of_mem_titled (token_of_mem_name name) true c hmem
  rw [hc] at htoken
  cases htoken

include hcarried

theorem lt_of_mem_bytes : ∀ b ∈ h.2.bytes, b < 0x80 := by
  intro b hb
  rcases hcarried.2 b hb with ⟨-, hle⟩ | rfl
  · exact UInt8.lt_of_le_of_lt hle (by decide)
  · decide

theorem lineEnd_notMem_fieldLine {b : UInt8} (hb : b = 0x0d ∨ b = 0x0a) :
    Char.ofNat b.toNat ∉ (fieldLine h).toList := by
  have htoken : isTokenChar (Char.ofNat b.toNat) = false := by
    rcases hb with rfl | rfl <;> decide
  have hsep : Char.ofNat b.toNat ∉ [':', ' '] := by
    rcases hb with rfl | rfl <;> decide
  have hvalue : Char.ofNat b.toNat ∉ h.2.bytes.map fun b => Char.ofNat b.toNat := by
    intro hmem
    obtain ⟨b', hb', heq⟩ := List.mem_map.1 hmem
    have hlt : b < 0x80 := by rcases hb with rfl | rfl <;> decide
    have hsame : b' = b := by
      apply UInt8.toNat_inj.1
      rw [← Text.toNat_ofNat_ascii (lt_of_mem_bytes hcarried b' hb'), heq,
        Text.toNat_ofNat_ascii hlt]
    have htext := hcarried.2 b' hb'
    rw [hsame] at htext
    rcases hb with rfl | rfl <;> exact absurd htext (by decide)
  simp only [fieldLine, String.toList_append, String.toList_ofList, Text.ofAscii, List.mem_append,
    not_or]
  exact ⟨⟨notMem_titled h.1 htoken, hsep⟩, hvalue⟩

theorem readLine?_fieldLine : readLine? (fieldLine h) = some (h.1.text, h.2.bytes) := by
  have hcolon : ':' ∉ titled true h.1.text.toList := notMem_titled h.1 (by decide)
  have hcut : Text.cutAt ':' (fieldLine h) =
      some (String.ofList (titled true h.1.text.toList), " " ++ Text.ofAscii h.2.bytes) := by
    refine Text.cutAt_eq_some_iff.2 ⟨by simpa using hcolon, ?_⟩
    simp [fieldLine]
  have hname : Text.asciiLower (String.ofList (titled true h.1.text.toList)) = h.1.text := by
    rw [Text.asciiLower, String.toList_ofList, map_toLower_titled (token_of_mem_name h.1),
      String.ofList_toList]
  have hvalue : Text.encode (Text.ofAscii h.2.bytes) = h.2.bytes :=
    Text.encode_ofAscii (lt_of_mem_bytes hcarried)
  simp [readLine?, hcut, hname, hvalue]

end Carried

/-- The lines that are handed to the transport are those of the first fourteen headers to be
carried, whatever was handed over before and whatever else the response has. Each of them reads back
as its header and holds no end of a line. -/
theorem lines_carry_headers (table : LineTable) (limit : Nat) (r : Response) :
    let carried := (r.headers.toList.filter IsCarried).take 14
    let lines := (Reply.headerLines table limit r).1
    lines = carried.map fieldLine ∧
    lines.map readLine? = carried.map (fun h => some (h.1.text, h.2.bytes)) ∧
    (∀ line ∈ lines, '\r' ∉ line.toList ∧ '\n' ∉ line.toList) ∧
    (Reply.headerLines table limit { r with headers := ⟨carried⟩ }).1 = lines ∧
    (Reply.ofResponse table r).1.lines = lines := by
  intro carried lines
  have hfirst (table : LineTable) (limit : Nat) (r : Response) :
      (Reply.headerLines table limit r).1 =
        ((r.headers.toList.filter IsCarried).take 14).map fieldLine := by
    simp only [Reply.headerLines, LineTable.internAll_fst, layOut_fst]
    rfl
  have hlines : lines = carried.map fieldLine := hfirst table limit r
  have hcarried : ∀ h ∈ carried, IsCarried h := by
    intro h hmem
    simpa using (List.mem_filter.1 (List.mem_of_mem_take hmem)).2
  refine ⟨hlines, ?_, ?_, ?_, ?_⟩
  · rw [hlines, List.map_map]
    exact List.map_congr_left fun h hmem => readLine?_fieldLine (hcarried h hmem)
  · intro line hline
    rw [hlines] at hline
    obtain ⟨h, hmem, rfl⟩ := List.mem_map.1 hline
    exact ⟨lineEnd_notMem_fieldLine (hcarried h hmem) (.inl rfl),
      lineEnd_notMem_fieldLine (hcarried h hmem) (.inr rfl)⟩
  · have hall : carried.filter IsCarried = carried :=
      List.filter_eq_self.2 fun h hmem => decide_eq_true (hcarried h hmem)
    have htake : carried.take 14 = carried := List.take_of_length_le (List.length_take_le _ _)
    rw [hlines, hfirst, hall, htake]
  · have hreply : (Reply.ofResponse table r).1.lines =
        (Reply.headerLines table LineTable.maxLines r).1 := rfl
    rw [hreply, hlines, hfirst]

end Wire

end Wayfinder
