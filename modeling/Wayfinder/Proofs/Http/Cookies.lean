import Wayfinder.Http.Request
import Wayfinder.Proofs.Http.Fields
import Wayfinder.Proofs.Text.Trim
/-!
# Cookies read back

A list of pairs may be spread over `Cookie` lines in many ways: with blanks around names and values,
with values in quotes, and with pieces in between that are no pairs. All of them read back as the
list.
-/

namespace Wayfinder.Http.Cookie

/-! ## Pieces -/

theorem ofPiece?_append_cons {before : List Char} (h : '=' ∉ before) (after : List Char) :
    ofPiece? (before ++ '=' :: after) =
      if Text.trim (.ofList before) = "" then none
      else some (Text.trim (.ofList before),
        Text.strip (· == '"') (Text.trim (.ofList after))) := by
  have htrim : Text.trim (.ofList (before ++ '=' :: after)) =
      .ofList (before.dropWhile Unicode.isBlank ++
        '=' :: Text.dropTrailing Unicode.isBlank after) := by
    rw [Text.trim, Text.strip, String.toList_ofList, Text.stripList_append_cons (by decide)]
  have hcut : Text.cutAt '=' (Text.trim (.ofList (before ++ '=' :: after))) =
      some (.ofList (before.dropWhile Unicode.isBlank),
        .ofList (Text.dropTrailing Unicode.isBlank after)) := by
    rw [htrim]
    refine Text.cutAt_eq_some_iff.2 ⟨?_, ?_⟩ <;> simp only [String.toList_ofList]
    exact fun hmem => h (List.dropWhile_subset _ hmem)
  have hname : Text.trim (.ofList (before.dropWhile Unicode.isBlank)) =
      Text.trim (.ofList before) := by
    simp only [Text.trim, Text.strip, String.toList_ofList, Text.stripList_dropWhile]
  have hvalue : Text.trim (.ofList (Text.dropTrailing Unicode.isBlank after)) =
      Text.trim (.ofList after) := by
    simp only [Text.trim, Text.strip, String.toList_ofList, Text.stripList_dropTrailing]
  simp only [ofPiece?, hcut, Option.bind_eq_bind, Option.bind_some, hname, hvalue]

theorem ofPiece?_of_notMem {piece : List Char} (h : '=' ∉ piece) : ofPiece? piece = none := by
  have hcut : Text.cutAt '=' (Text.trim (.ofList piece)) = none := by
    rw [Option.eq_none_iff_forall_ne_some]
    rintro ⟨before, after⟩ hcut
    have hmem : '=' ∈ (Text.trim (.ofList piece)).toList := by
      rw [(Text.cutAt_eq_some_iff.1 hcut).2]
      simp
    rw [Text.trim, Text.strip, String.toList_ofList, String.toList_ofList] at hmem
    exact h (Text.stripList_subset hmem)
  simp [ofPiece?, hcut]

/-! ## Ways to write a list of cookies -/

def isGapChar (c : Char) : Bool := c == ' ' || c == '\t'

theorem isGapChar_iff {c : Char} : isGapChar c = true ↔ c = ' ' ∨ c = '\t' := by simp [isGapChar]

def IsGap (gap : List Char) : Prop := ∀ c ∈ gap, isGapChar c = true

instance (gap : List Char) : Decidable (IsGap gap) := List.decidableBAll _ _

structure IsName (name : String) : Prop where
  ne : name ≠ ""
  shown : ∀ c ∈ name.toList, IsFieldChar c ∧ c ≠ ';' ∧ c ≠ '='
  bare : Text.Bare isGapChar name.toList

structure IsValue (value : String) : Prop where
  shown : ∀ c ∈ value.toList, IsFieldChar c ∧ c ≠ ';'
  bare : Text.Bare isGapChar value.toList
  unquoted : Text.Bare (· == '"') value.toList

/-- A piece of a line with the cookie that it spells. Pieces that spell none hold characters of a given
kind. -/
inductive Spells (Plain : Char → Prop) : List Char → Option Cookie → Prop
  | pair {name value : String} {a b c d quotes : List Char} (hname : IsName name)
      (hvalue : IsValue value) (ha : IsGap a) (hb : IsGap b) (hc : IsGap c) (hd : IsGap d)
      (hquotes : quotes = [] ∨ quotes = ['"']) :
      Spells Plain (a ++ name.toList ++ b ++ '=' :: (c ++ (quotes ++ value.toList ++ quotes) ++ d))
        (some (name, value))
  | bare {piece : List Char} (hpiece : ∀ c ∈ piece, Plain c ∧ c ≠ ';' ∧ c ≠ '=') :
      Spells Plain piece none
  | nameless {gap rest : List Char} (hgap : IsGap gap) (hrest : ∀ c ∈ rest, Plain c ∧ c ≠ ';') :
      Spells Plain (gap ++ '=' :: rest) none

/-- A line of pieces between semicolons with the cookies that they spell. -/
inductive Line (Plain : Char → Prop) : List Char → List Cookie → Prop
  | last {piece : List Char} {cookie : Option Cookie} :
      Spells Plain piece cookie → Line Plain piece cookie.toList
  | cons {piece line : List Char} {cookie : Option Cookie} {cookies : List Cookie} :
      Spells Plain piece cookie → Line Plain line cookies →
      Line Plain (piece ++ ';' :: line) (cookie.toList ++ cookies)

/-- Header values that are lines, with the cookies of all of them. -/
inductive Spread (Plain : Char → Prop) : List HeaderValue → List Cookie → Prop
  | nil : Spread Plain [] []
  | cons {v : HeaderValue} {line : List Char} {values : List HeaderValue} {front cookies : List Cookie} :
      v.bytes = Text.encode (.ofList line) → Line Plain line front → Spread Plain values cookies →
      Spread Plain (v :: values) (front ++ cookies)

/-! ## Reading -/

theorem isBlank_of_isFieldChar {c : Char} (h : IsFieldChar c) :
    Unicode.isBlank c = isGapChar c :=
  Text.forall_ascii (p := fun c => IsFieldChar c → Unicode.isBlank c = isGapChar c)
    (by decide +kernel) h.toNat_lt h

theorem isBlank_of_isGap {gap : List Char} (h : IsGap gap) : ∀ c ∈ gap, Unicode.isBlank c = true := by
  intro c hc
  rcases isGapChar_iff.1 (h c hc) with rfl | rfl <;> decide

theorem equals_notMem_gap {gap : List Char} (h : IsGap gap) : '=' ∉ gap := by
  intro hmem
  exact absurd (h _ hmem) (by decide)

theorem bare_isBlank {text : List Char} (htext : ∀ c ∈ text, IsFieldChar c)
    (h : Text.Bare isGapChar text) : Text.Bare Unicode.isBlank text := by
  constructor
  · intro c hc
    rw [isBlank_of_isFieldChar (htext c (List.mem_of_mem_head? hc))]
    exact h.1 c hc
  · intro c hc
    rw [isBlank_of_isFieldChar (htext c (List.mem_of_mem_getLast? hc))]
    exact h.2 c hc

theorem trim_gap {text a b : List Char} (h : Text.Bare Unicode.isBlank text) (ha : IsGap a) (hb : IsGap b) :
    Text.trim (.ofList (a ++ text ++ b)) = .ofList text := by
  rw [Text.trim, Text.strip, String.toList_ofList,
    h.stripList_append (isBlank_of_isGap ha) (isBlank_of_isGap hb)]

namespace Spells

variable {Plain : Char → Prop} {piece : List Char} {cookie : Option Cookie}

theorem ofPiece?_eq (h : Spells Plain piece cookie) : ofPiece? piece = cookie := by
  cases h with
  | @pair name value a b c d quotes hname hvalue ha hb hc hd hquotes =>
    have hequals : '=' ∉ a ++ name.toList ++ b := by
      simp only [List.mem_append, not_or]
      exact ⟨⟨equals_notMem_gap ha, fun hmem => (hname.shown _ hmem).2.2 rfl⟩, equals_notMem_gap hb⟩
    have hbare : Text.Bare Unicode.isBlank (quotes ++ value.toList ++ quotes) := by
      rcases hquotes with rfl | rfl
      · simpa using bare_isBlank (fun x hx => (hvalue.shown x hx).1) hvalue.bare
      · have hquote : Unicode.isBlank '"' = false := by decide
        refine ⟨?_, ?_⟩ <;> intro x hx
        · cases hx
          exact hquote
        · rw [List.getLast?_concat] at hx
          cases hx
          exact hquote
    have hquote : ∀ x ∈ quotes, (x == '"') = true := by
      rcases hquotes with rfl | rfl
      all_goals simp
    have hleft := trim_gap (bare_isBlank (fun x hx => (hname.shown x hx).1) hname.bare) ha hb
    rw [ofPiece?_append_cons hequals, hleft, trim_gap hbare hc hd, String.ofList_toList,
      if_neg hname.ne, Text.strip, String.toList_ofList,
      hvalue.unquoted.stripList_append hquote hquote, String.ofList_toList]
  | bare hpiece => exact ofPiece?_of_notMem fun hmem => (hpiece _ hmem).2.2 rfl
  | @nameless gap rest hgap hrest =>
    have hempty : Text.trim (.ofList gap) = "" := by
      have hbare : Text.Bare Unicode.isBlank [] := by simp [Text.Bare]
      have hnone : IsGap [] := by simp [IsGap]
      simpa using trim_gap hbare hgap hnone
    rw [ofPiece?_append_cons (equals_notMem_gap hgap), if_pos hempty]

theorem shown (hplain : ∀ c, Plain c → IsFieldChar c) (h : Spells Plain piece cookie) :
    ∀ c ∈ piece, IsFieldChar c ∧ c ≠ ';' := by
  have hgap {gap : List Char} (hgap : IsGap gap) : ∀ c ∈ gap, IsFieldChar c ∧ c ≠ ';' := by
    intro c hc
    rcases isGapChar_iff.1 (hgap c hc) with rfl | rfl <;> decide
  have hequals : IsFieldChar '=' ∧ '=' ≠ ';' := by decide
  cases h with
  | @pair name value a b c d quotes hname hvalue ha hb hc hd hquotes =>
    have hquotes : ∀ x ∈ quotes, IsFieldChar x ∧ x ≠ ';' := by
      rcases hquotes with rfl | rfl
      · nofun
      · simp [IsFieldChar]
    have hname : ∀ x ∈ name.toList, IsFieldChar x ∧ x ≠ ';' := fun x hx =>
      ⟨(hname.shown x hx).1, (hname.shown x hx).2.1⟩
    simp only [List.forall_mem_append, List.forall_mem_cons]
    exact ⟨⟨⟨hgap ha, hname⟩, hgap hb⟩, hequals, ⟨hgap hc, ⟨hquotes, hvalue.shown⟩, hquotes⟩, hgap hd⟩
  | bare hpiece => exact fun c hc => ⟨hplain c (hpiece c hc).1, (hpiece c hc).2.1⟩
  | @nameless gap rest hblank hrest =>
    simp only [List.forall_mem_append, List.forall_mem_cons]
    exact ⟨hgap hblank, hequals, fun c hc => ⟨hplain c (hrest c hc).1, (hrest c hc).2⟩⟩

end Spells

section Spread

variable {Plain : Char → Prop} (hplain : ∀ c, Plain c → IsFieldChar c) {cookies : List Cookie}

include hplain

theorem Line.ofLine_eq {line : List Char} (h : Line Plain line cookies) :
    ofLine (.ofList line) = cookies := by
  rw [ofLine, String.toList_ofList]
  have hsemicolon {piece : List Char} {cookie : Option Cookie} (h : Spells Plain piece cookie) :
      ';' ∉ piece := fun hmem => (h.shown hplain _ hmem).2 rfl
  induction h with
  | @last piece cookie hpiece =>
    rw [List.splitOn_eq_singleton (hsemicolon hpiece), List.filterMap_cons, hpiece.ofPiece?_eq]
    cases cookie <;> rfl
  | @cons piece line cookie _ hpiece _ ih =>
    rw [List.splitOn_append_cons_self_of_not_mem (hsemicolon hpiece), List.filterMap_cons,
      hpiece.ofPiece?_eq, ih]
    cases cookie <;> rfl

theorem Line.shown {line : List Char} (h : Line Plain line cookies) : ∀ c ∈ line, IsFieldChar c := by
  induction h with
  | last hpiece => exact fun c hc => (hpiece.shown hplain c hc).1
  | cons hpiece _ ih =>
    simp only [List.forall_mem_append, List.forall_mem_cons]
    exact ⟨fun c hc => (hpiece.shown hplain c hc).1, by decide, ih⟩

theorem Spread.flatMap_eq {values : List HeaderValue} (h : Spread Plain values cookies) :
    (values.filterMap HeaderValue.text?).flatMap ofLine = cookies := by
  induction h with
  | nil => rfl
  | cons hv hline _ ih =>
    rw [List.filterMap_cons_some (HeaderValue.text?_of_bytes (hline.shown hplain) hv),
      List.flatMap_cons, hline.ofLine_eq hplain, ih]

end Spread

theorem find?_eq (cookies : List Cookie) (name : String) :
    find? cookies name = (cookies.find? fun cookie => cookie.1 = name).map Prod.snd := by
  induction cookies with
  | nil => rfl
  | cons cookie rest ih =>
    obtain ⟨first, value⟩ := cookie
    rw [find?] at ih ⊢
    by_cases h : first = name
    · simp [h]
    · have hne : (name == first) = false := beq_false_of_ne (Ne.symm h)
      simp [List.lookup_cons, hne, h, ih]

/-- A line that holds anything but characters that show as text is passed over as a whole. The others
read back, and a name has the value of its first pair. -/
theorem ofHeaders_of_spread {r : Request} {cookies : List Cookie}
    (h : Spread IsFieldChar ((r.headers.getAll .cookie).filter fun v => v.bytes.all isTextByte)
      cookies) :
    ofHeaders r.headers = cookies ∧
      ∀ name, r.cookie? name = (cookies.find? fun cookie => cookie.1 = name).map Prod.snd := by
  have hshown (values : List HeaderValue) : values.filterMap HeaderValue.text? =
      (values.filter fun v => v.bytes.all isTextByte).filterMap HeaderValue.text? := by
    rw [List.filterMap_filter]
    refine List.filterMap_congr fun v _ => ?_
    by_cases hv : v.bytes.all isTextByte = true <;> simp [HeaderValue.text?, hv]
  have hread : ofHeaders r.headers = cookies := by
    rw [ofHeaders, hshown, h.flatMap_eq fun _ => id]
  refine ⟨hread, fun name => ?_⟩
  rw [Request.cookie?, hread, find?_eq]

theorem ofHeaders_of_spread_among_others :
    let r : Request :=
      { method := Verb.get.toMethod, uri := { path := "/" }
        headers := ⟨[(.contentType, .ofText "c=d"), (.cookie, .ofText " a\t= \"x=\"y\" ;e;;\t=x; b ="),
          (.cookie, .ofText "c=d; é"), (.cookie, .ofText "a=z")]⟩ }
    Spread IsFieldChar ((r.headers.getAll .cookie).filter fun v => v.bytes.all isTextByte)
        [("a", "x=\"y"), ("b", ""), ("a", "z")] ∧
      ofHeaders r.headers = [("a", "x=\"y"), ("b", ""), ("a", "z")] ∧
      r.cookie? "a" = some "x=\"y" ∧ r.cookie? "c" = none := by
  intro r
  have hvalues : (r.headers.getAll .cookie).filter (fun v => v.bytes.all isTextByte) =
      [.ofText " a\t= \"x=\"y\" ;e;;\t=x; b =", .ofText "a=z"] := by
    decide +kernel
  have ha : IsName "a" := ⟨by decide, by simp [IsFieldChar], by decide⟩
  have hb : IsName "b" := ⟨by decide, by simp [IsFieldChar], by decide⟩
  have hxy : IsValue "x=\"y" := ⟨by simp [IsFieldChar], by decide, by decide⟩
  have hz : IsValue "z" := ⟨by simp [IsFieldChar], by decide, by decide⟩
  have hempty : IsValue "" := ⟨by simp, by decide, by decide⟩
  have hquoted : Spells IsFieldChar ([' '] ++ "a".toList ++ ['\t'] ++ '=' ::
      ([' '] ++ (['"'] ++ "x=\"y".toList ++ ['"']) ++ [' '])) (some ("a", "x=\"y")) :=
    .pair ha hxy (by decide) (by decide) (by decide) (by decide) (.inr rfl)
  have hword : Spells IsFieldChar ['e'] none := .bare (by simp [IsFieldChar])
  have hnothing : Spells IsFieldChar [] none := .bare (by simp)
  have hnameless : Spells IsFieldChar (['\t'] ++ '=' :: ['x']) none :=
    .nameless (by decide) (by simp [IsFieldChar])
  have hvalueless : Spells IsFieldChar ([' '] ++ "b".toList ++ [' '] ++ '=' ::
      ([] ++ ([] ++ "".toList ++ []) ++ [])) (some ("b", "")) :=
    .pair hb hempty (by decide) (by decide) (by decide) (by decide) (.inl rfl)
  have hplain : Spells IsFieldChar ([] ++ "a".toList ++ [] ++ '=' ::
      ([] ++ ([] ++ "z".toList ++ []) ++ [])) (some ("a", "z")) :=
    .pair ha hz (by decide) (by decide) (by decide) (by decide) (.inl rfl)
  have hfirst := Line.cons hquoted (.cons hword (.cons hnothing (.cons hnameless (.last hvalueless))))
  have hspread : Spread IsFieldChar
      ((r.headers.getAll .cookie).filter fun v => v.bytes.all isTextByte)
      [("a", "x=\"y"), ("b", ""), ("a", "z")] := by
    rw [hvalues]
    exact .cons (by decide +kernel) hfirst (.cons (by decide +kernel) (.last hplain) .nil)
  obtain ⟨hread, hfind⟩ := ofHeaders_of_spread hspread
  exact ⟨hspread, hread, hfind "a", hfind "c"⟩

/-- A piece that is no pair but holds other characters takes the whole line with it. -/
theorem ofHeaders_ne_beside_letter :
    let headers : Headers := ⟨[(.cookie, .ofText "a=b; é")]⟩
    Spread (fun _ => True) (headers.getAll .cookie) [("a", "b")] ∧
      ofHeaders headers ≠ [("a", "b")] := by
  intro headers
  have hread : ofHeaders headers = [] := by decide +kernel
  have hpair : Spells (fun _ => True) ([] ++ "a".toList ++ [] ++ '=' ::
      ([] ++ ([] ++ "b".toList ++ []) ++ [])) (some ("a", "b")) :=
    .pair ⟨by decide, by simp [IsFieldChar], by decide⟩
      ⟨by simp [IsFieldChar], by decide, by decide⟩
      (by decide) (by decide) (by decide) (by decide) (.inl rfl)
  have hletter : Spells (fun _ => True) [' ', 'é'] none := .bare (by simp)
  have hvalue : headers.getAll .cookie = [.ofText "a=b; é"] := by decide +kernel
  rw [hvalue, hread]
  exact ⟨.cons (by decide +kernel) (.cons hpair (.last hletter)) .nil, by decide⟩

end Wayfinder.Http.Cookie
