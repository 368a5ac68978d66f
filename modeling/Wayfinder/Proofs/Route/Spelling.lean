import Mathlib.Data.List.Basic
import Mathlib.Data.List.TakeWhile
import Wayfinder.Proofs.Route.Enclosure
import Wayfinder.Proofs.Route.Join
/-!
# The language of patterns

Which texts are patterns, and what segments they denote, said by how a pattern is written. The reading
accepts these texts and no others, and every refusal names the text that was refused.
-/

namespace Wayfinder.Route

/-- An ASCII letter or an underscore. -/
def BeginsName (c : Char) : Prop :=
  ('A' ≤ c ∧ c ≤ 'Z') ∨ ('a' ≤ c ∧ c ≤ 'z') ∨ c = '_'

def IsName (cs : List Char) : Prop :=
  ∃ c rest, cs = c :: rest ∧ BeginsName c ∧ ∀ d ∈ rest, BeginsName d ∨ ('0' ≤ d ∧ d ≤ '9')

/-- What the parts of a segment may be, for its text to be read as this segment. That the expression of a
restriction is accepted between anchors is part of the restriction. -/
def Segment.Formed : Segment → Prop
  | .literal text => text ≠ "" ∧ ∀ c ∈ text.toList, c ∉ ['/', '*', ':', '(', ')']
  | .param name => IsName name.toList
  | .regex name restriction => IsName name.toList ∧ restriction.source ≠ "" ∧
      Enclosed 0 ('(' :: restriction.source.toList ++ [')'])
  | .wildcard => True

/-- A pattern is a slash with the segments behind it, separated by slashes, and possibly a further slash
behind them. -/
structure Spells (raw : String) (segments : List Segment) : Prop where
  formed : ∀ s ∈ segments, s.Formed
  wildcardLast : WildcardLast segments
  nodup_names : (segments.filterMap Segment.name?).Nodup
  written : raw = "/" ++ "/".intercalate (segments.map Segment.text) ∨
    segments ≠ [] ∧ raw = "/" ++ "/".intercalate (segments.map Segment.text) ++ "/"

namespace Pattern

/-! ## Names -/

theorem isNameStart_iff {c : Char} : isNameStart c = true ↔ BeginsName c := by
  have halpha : c.isAlpha = (c.isUpper || c.isLower) := rfl
  have hupper : c.isUpper = decide ('A' ≤ c ∧ c ≤ 'Z') := rfl
  have hlower : c.isLower = (decide ('a' ≤ c) && decide (c ≤ 'z')) := rfl
  simp [isNameStart, BeginsName, halpha, hupper, hlower, or_assoc]

theorem isName_iff {cs : List Char} : isName cs = true ↔ IsName cs := by
  cases cs with
  | nil => simp [isName, IsName]
  | cons c cs =>
    have hdigit : ∀ d : Char, d.isDigit = (decide ('0' ≤ d) && decide (d ≤ '9')) := fun _ => rfl
    simp [isName, IsName, isNameStart_iff, hdigit]

end Pattern

namespace IsName

variable {cs : List Char}

theorem notMem (h : IsName cs) {c : Char} (hc : (Pattern.isNameStart c || c.isDigit) = false) :
    c ∉ cs := by
  intro hmem
  have hname := Pattern.isName_iff.2 h
  cases cs with
  | nil => cases hmem
  | cons d cs =>
    simp only [Pattern.isName, Bool.and_eq_true, List.all_eq_true] at hname
    rcases List.mem_cons.1 hmem with rfl | hmem
    · simp [hname.1] at hc
    · rw [hname.2 c hmem] at hc
      cases hc

theorem enclosed_append_iff (h : IsName cs) {rest : List Char} :
    Enclosed 0 ((':' :: cs) ++ rest) ↔ Enclosed 0 rest := by
  refine Enclosed.append_iff fun c hc => ?_
  rcases List.mem_cons.1 hc with rfl | hc
  · decide
  · refine ⟨?_, ?_, ?_⟩ <;> rintro rfl <;> exact h.notMem (by decide) hc

end IsName

/-! ## Pieces -/

theorem Segment.toList_text_param (name : String) :
    (Segment.param name).text.toList = ':' :: name.toList := by
  simp [Segment.text]

theorem Segment.toList_text_regex (name : String) (r : Restriction) :
    (Segment.regex name r).text.toList = (':' :: name.toList) ++ '(' :: r.source.toList ++ [')'] := by
  simp [Segment.text]

theorem Restriction.ofSource?_eq_some_iff {source : String} {r : Restriction} :
    Restriction.ofSource? source = some r ↔ r.source = source := by
  unfold ofSource?
  split
  · next e he =>
    constructor
    · intro h
      rw [← Option.some.inj h]
    · intro h
      exact congrArg some (ext_source h.symm)
  · next hnone =>
    constructor
    · nofun
    · rintro rfl
      cases hnone.symm.trans r.compiled

theorem Segment.Formed.enclosed {s : Segment} (h : s.Formed) : Enclosed 0 s.text.toList := by
  have hnil : Enclosed 0 [] := Enclosed.nil_iff.2 rfl
  cases s with
  | literal text =>
    have hplain : ∀ c ∈ text.toList, c ≠ '(' ∧ c ≠ ')' ∧ c ≠ '/' := fun c hc => by
      refine ⟨?_, ?_, ?_⟩ <;> rintro rfl <;> exact h.2 _ hc (by decide)
    rw [Segment.text, ← List.append_nil text.toList]
    exact (Enclosed.append_iff hplain).2 hnil
  | param name =>
    simpa [toList_text_param] using h.enclosed_append_iff.2 hnil
  | regex name r =>
    rw [toList_text_regex, List.append_assoc, h.1.enclosed_append_iff]
    exact h.2.2
  | wildcard =>
    rw [text, show "*".toList = ['*'] from rfl, Enclosed.other_iff (by decide) (by decide) (by decide)]
    exact hnil

theorem Segment.Formed.toList_text_ne_nil {s : Segment} (h : s.Formed) : s.text.toList ≠ [] := by
  cases s with
  | literal text => simpa [Segment.text] using h.1
  | param name => simp [toList_text_param]
  | regex name r => simp [toList_text_regex]
  | wildcard => simp [Segment.text]

namespace Pattern

theorem readParam_name_eq_ok_iff {piece name : List Char} (hname : '(' ∉ name) {s : Segment} :
    readParam piece name = .ok s ↔ IsName name ∧ s = .param (String.ofList name) := by
  have hbefore : ∀ c ∈ name, (c != '(') = true := fun c hc => by
    simpa using fun heq : c = '(' => hname (heq ▸ hc)
  have htake := List.takeWhile_eq_self_iff.2 hbefore
  have hdrop := List.dropWhile_eq_nil_iff.2 hbefore
  rw [← isName_iff, readParam, htake, hdrop]
  by_cases hvalid : isName name = true
  · simp [hvalid, bind, Except.bind, pure, Except.pure, eq_comm]
  · simp [hvalid, bind, Except.bind]

theorem readParam_expression_eq_ok_iff {piece name inside : List Char} (hname : '(' ∉ name)
    {s : Segment} :
    readParam piece (name ++ '(' :: inside) = .ok s ↔
      IsName name ∧ ∃ r : Restriction, r.source ≠ "" ∧ inside = r.source.toList ++ [')'] ∧
        s = .regex (String.ofList name) r := by
  have hbefore : ∀ c ∈ name, (c != '(') = true := fun c hc => by
    simpa using fun heq : c = '(' => hname (heq ▸ hc)
  have htake : (name ++ '(' :: inside).takeWhile (· != '(') = name := by
    rw [List.takeWhile_append_of_pos hbefore]
    simp
  have hdrop : (name ++ '(' :: inside).dropWhile (· != '(') = '(' :: inside := by
    rw [List.dropWhile_append_of_pos hbefore]
    simp
  rw [← isName_iff, readParam, htake, hdrop]
  rcases inside.eq_nil_or_concat with rfl | ⟨source, last, rfl⟩
  · simp
  rw [List.concat_eq_append]
  dsimp only
  rw [List.getLast?_concat, List.dropLast_concat]
  by_cases hlast : last = ')'
  · subst hlast
    constructor
    · intro h
      obtain ⟨_, hvalid, h⟩ := except_bind_eq_ok.1 h
      split at h
      · cases h
      · next hne =>
        split at h
        · next r hr =>
          cases h
          have hsource : r.source = String.ofList source := Restriction.ofSource?_eq_some_iff.1 hr
          refine ⟨?_, r, hsource ▸ hne, by simp [hsource], rfl⟩
          by_contra hno
          simp [hno] at hvalid
        · cases h
    · rintro ⟨hvalid, r, hne, hsource, rfl⟩
      obtain rfl : source = r.source.toList := List.append_cancel_right hsource
      have hr : Restriction.ofSource? r.source = some r := Restriction.ofSource?_eq_some_iff.2 rfl
      simp [hvalid, hne, hr, bind, Except.bind, pure, Except.pure]
  · simp [hlast]

theorem eq_text_of_readPiece {piece : List Char} (hpiece : Enclosed 0 piece) {s : Segment}
    (h : readPiece piece = .ok s) : piece = s.text.toList ∧ s.Formed := by
  unfold readPiece at h
  split at h
  · cases h
  · cases h
    exact ⟨rfl, trivial⟩
  · next rest =>
    by_cases hopen : '(' ∈ rest
    · obtain ⟨name, inside, rfl, hname⟩ := List.eq_append_cons_of_mem hopen
      obtain ⟨hvalid, r, hne, rfl, rfl⟩ := (readParam_expression_eq_ok_iff hname).1 h
      have hinside := hvalid.enclosed_append_iff.1 hpiece
      simp [Segment.toList_text_regex, Segment.Formed, hvalid, hne, hinside]
    · obtain ⟨hvalid, rfl⟩ := (readParam_name_eq_ok_iff hopen).1 h
      simp [Segment.toList_text_param, Segment.Formed, hvalid]
  · next hne _ _ =>
    split at h
    · cases h
    · next hany =>
      cases h
      have hplain : ∀ c ∈ piece, ((c ≠ '*' ∧ c ≠ ':') ∧ c ≠ '(') ∧ c ≠ ')' := by
        simpa using hany
      -- the reading does not look for slashes: the piece has none, as it opens no parenthesis
      have hopen : '(' ∉ piece := fun hmem => (hplain _ hmem).1.2 rfl
      have hslash := hpiece.slash_notMem hopen
      refine ⟨by simp [Segment.text], by simpa using hne, fun c hc => ?_⟩
      have hc' : c ∈ piece := by simpa using hc
      have hne' : c ≠ '/' := fun heq => hslash (heq ▸ hc')
      simp [hplain c hc', hne']

theorem readPiece_of_plain {text : String} (h : (Segment.literal text).Formed) :
    readPiece text.toList = .ok (.literal text) := by
  obtain ⟨hne, hplain⟩ := h
  have hany : ¬ text.toList.any (fun c => c == '*' || c == ':' || c == '(' || c == ')') = true := by
    rw [List.any_eq_true]
    rintro ⟨c, hc, hspecial⟩
    refine hplain c hc ?_
    simp only [Bool.or_eq_true, beq_iff_eq] at hspecial
    rcases hspecial with ((rfl | rfl) | rfl) | rfl <;> decide
  unfold readPiece
  split
  · next hnil => exact (hne (by simpa using hnil)).elim
  · next hstar => exact (hplain '*' (by simp [hstar]) (by decide)).elim
  · next hcolon => exact (hplain ':' (by simp [hcolon]) (by decide)).elim
  · rw [if_neg hany, String.ofList_toList]

theorem readPiece_toList_text {s : Segment} (h : s.Formed) : readPiece s.text.toList = .ok s := by
  cases s with
  | literal text => exact readPiece_of_plain h
  | param name =>
    rw [Segment.toList_text_param]
    exact (readParam_name_eq_ok_iff (h.notMem (by decide))).2 ⟨h, by simp⟩
  | regex name r =>
    obtain ⟨hvalid, hne, -⟩ := h
    rw [Segment.toList_text_regex, List.append_assoc, List.cons_append, List.cons_append]
    refine (readParam_expression_eq_ok_iff (hvalid.notMem (by decide))).2 ⟨hvalid, r, hne, rfl, ?_⟩
    simp
  | wildcard => rfl

/-- Segments that are formed well and end at a wildcard are read from their texts. -/
theorem readPieces_map_text (raw : String) {segments : List Segment}
    (hformed : ∀ s ∈ segments, s.Formed) (hlast : WildcardLast segments) :
    readPieces raw (segments.map fun s => s.text.toList) = .ok segments := by
  induction segments with
  | nil => rfl
  | cons s rest ih =>
    obtain ⟨hs, hrest⟩ := List.forall_mem_cons.1 hformed
    have hend : s.isWildcard = true → rest = [] := by
      cases s <;> simp only [Segment.isWildcard, Bool.false_eq_true, false_imp_iff]
      exact fun _ => hlast.eq_nil
    rw [List.map_cons, readPieces, readPiece_toList_text hs, ih hrest hlast.tail]
    simpa [Except.mapError, bind, Except.bind, pure, Except.pure] using hend

theorem eq_map_text_of_readPieces {raw : String} {pieces : List (List Char)}
    {segments : List Segment} (h : readPieces raw pieces = .ok segments)
    (hpieces : ∀ piece ∈ pieces, Enclosed 0 piece) :
    pieces = (segments.map fun s => s.text.toList) ∧ ∀ s ∈ segments, s.Formed := by
  induction pieces generalizing segments with
  | nil =>
    cases h
    simp
  | cons piece pieces ih =>
    obtain ⟨hpiece, hothers⟩ := List.forall_mem_cons.1 hpieces
    obtain ⟨s, rest, rfl, hs, hrest, -⟩ := readPieces_cons h
    obtain ⟨rfl, hformed⟩ := eq_text_of_readPiece hpiece hs
    obtain ⟨rfl, hall⟩ := ih hrest hothers
    exact ⟨rfl, List.forall_mem_cons.2 ⟨hformed, hall⟩⟩

theorem firstRepeated_eq_none_iff {seen names : List String} :
    firstRepeated seen names = none ↔ names.Nodup ∧ ∀ name ∈ names, name ∉ seen := by
  refine ⟨firstRepeated_eq_none, ?_⟩
  induction names generalizing seen with
  | nil => exact fun _ => rfl
  | cons name names ih =>
    rintro ⟨hnodup, hseen⟩
    obtain ⟨hnew, hrest⟩ := List.nodup_cons.1 hnodup
    obtain ⟨hname, hnames⟩ := List.forall_mem_cons.1 hseen
    rw [firstRepeated, if_neg hname]
    refine ih ⟨hrest, fun other hother hmem => ?_⟩
    rcases List.mem_cons.1 hmem with rfl | hmem
    · exact hnew hother
    · exact hnames other hother hmem

/-! ## Texts -/

/-- The segments with slashes between them. -/
def bodyOf (segments : List Segment) : List Char :=
  ['/'].intercalate (segments.map fun s => s.text.toList)

@[simp] theorem bodyOf_nil : bodyOf [] = [] := rfl

theorem bodyOf_cons (s : Segment) (rest : List Segment) : bodyOf (s :: rest) =
    ['/'].intercalate (s.text.toList :: rest.map fun s => s.text.toList) := rfl

section

variable {segments : List Segment} (hformed : ∀ s ∈ segments, s.Formed)
include hformed

theorem bodyOf_ne_nil (hne : segments ≠ []) : bodyOf segments ≠ [] := by
  obtain ⟨s, rest, rfl⟩ := List.exists_cons_of_ne_nil hne
  have hs := (hformed s (by simp)).toList_text_ne_nil
  intro hnil
  have hhead := Path.head?_intercalate ['/'] hs (rest.map fun s => s.text.toList)
  rw [← bodyOf_cons, hnil] at hhead
  exact hs (List.head?_eq_none_iff.1 hhead.symm)

theorem head?_bodyOf : (bodyOf segments).head? ≠ some '/' := by
  cases segments with
  | nil => simp
  | cons s rest =>
    have hs := hformed s (by simp)
    rw [bodyOf_cons, Path.head?_intercalate ['/'] hs.toList_text_ne_nil]
    exact hs.enclosed.head?_ne

theorem getLast?_bodyOf : (bodyOf segments).getLast? ≠ some '/' := by
  rcases segments.eq_nil_or_concat with rfl | ⟨front, s, rfl⟩
  · simp
  · have hs := hformed s (by simp)
    rw [bodyOf, List.concat_eq_append, List.map_append, List.map_singleton,
      Path.getLast?_intercalate ['/'] _ hs.toList_text_ne_nil]
    exact hs.enclosed.getLast?_ne

theorem splitPieces_bodyOf (hne : segments ≠ []) :
    splitPieces 0 [] (bodyOf segments) = .ok (segments.map fun s => s.text.toList) := by
  obtain ⟨s, rest, rfl⟩ := List.exists_cons_of_ne_nil hne
  have hpieces : ∀ piece ∈ (s :: rest).map (fun s => s.text.toList), Enclosed 0 piece := by
    intro piece hpiece
    obtain ⟨t, ht, rfl⟩ := List.mem_map.1 hpiece
    exact (hformed t ht).enclosed
  exact splitPieces_intercalate [] hpieces

/-- The text of a pattern is what stands behind the first slash, up to one slash at the end. -/
theorem written_iff {raw : String} :
    (raw = "/" ++ "/".intercalate (segments.map Segment.text) ∨
      segments ≠ [] ∧ raw = "/" ++ "/".intercalate (segments.map Segment.text) ++ "/") ↔
    ∃ rest, raw.toList = '/' :: rest ∧ rest.head? ≠ some '/' ∧
      Path.dropTrailingSlash rest = bodyOf segments := by
  have htext : ("/" ++ "/".intercalate (segments.map Segment.text)).toList =
      '/' :: bodyOf segments := by
    simp [bodyOf, Function.comp_def]
  have hslash : ("/" ++ "/".intercalate (segments.map Segment.text) ++ "/").toList =
      '/' :: (bodyOf segments ++ ['/']) := by
    rw [String.toList_append, htext]
    simp
  rw [← String.toList_inj, ← String.toList_inj, htext, hslash]
  constructor
  · rintro (hraw | ⟨hne, hraw⟩)
    · exact ⟨_, hraw, head?_bodyOf hformed, Path.dropTrailingSlash_of_ne (getLast?_bodyOf hformed)⟩
    · refine ⟨_, hraw, ?_, Path.dropTrailingSlash_concat _⟩
      rw [List.head?_append_of_ne_nil _ (bodyOf_ne_nil hformed hne)]
      exact head?_bodyOf hformed
  · rintro ⟨rest, hraw, hrest, hbody⟩
    rw [hraw, ← hbody]
    rcases Path.eq_dropTrailingSlash_or rest with heq | heq
    · exact .inl (congrArg _ heq)
    · refine .inr ⟨?_, congrArg _ heq⟩
      rintro rfl
      rw [hbody] at heq
      exact hrest (by simp [heq])

end

/-- What is read between the first slash and a slash at the end. -/
def readBody (raw : String) (body : List Char) : Except RouteError (List Segment) :=
  if body = [] then .ok []
  else (splitPieces 0 [] body).mapError (.malformed raw) >>= readPieces raw

theorem readBody_eq_ok_iff {raw : String} {body : List Char} {segments : List Segment} :
    readBody raw body = .ok segments ↔
      body = bodyOf segments ∧ (∀ s ∈ segments, s.Formed) ∧ WildcardLast segments := by
  unfold readBody
  constructor
  · intro h
    split at h
    · next hnil =>
      cases h
      simp [hnil, WildcardLast]
    · obtain ⟨pieces, hsplit, hread⟩ := except_bind_eq_ok.1 h
      obtain ⟨first, others, rfl, hcs, hfirst, hothers⟩ :=
        intercalate_of_splitPieces (except_mapError_eq_ok.1 hsplit)
      obtain ⟨hpieces, hformed⟩ :=
        eq_map_text_of_readPieces hread (List.forall_mem_cons.2 ⟨hfirst, hothers⟩)
      refine ⟨?_, hformed, readPieces_wildcardLast hread⟩
      rw [hcs, bodyOf, ← hpieces]
      rfl
  · rintro ⟨rfl, hformed, hlast⟩
    by_cases hne : segments = []
    · subst hne
      rfl
    · rw [if_neg (bodyOf_ne_nil hformed hne), splitPieces_bodyOf hformed hne]
      exact readPieces_map_text raw hformed hlast

/-- The check behind the pieces: no name occurs a second time. -/
def checkNames (raw : String) (segments : List Segment) : Except RouteError (List Segment) :=
  match firstRepeated [] (segments.filterMap Segment.name?) with
  | some name => .error (.duplicateParam raw name name)
  | none => .ok segments

theorem checkNames_eq_ok_iff {raw : String} {all segments : List Segment} :
    checkNames raw all = .ok segments ↔
      all = segments ∧ (segments.filterMap Segment.name?).Nodup := by
  have hnames : firstRepeated [] (all.filterMap Segment.name?) = none ↔
      (all.filterMap Segment.name?).Nodup ∧ ∀ name ∈ all.filterMap Segment.name?, name ∉ [] :=
    firstRepeated_eq_none_iff
  unfold checkNames
  split
  · next name hname =>
    refine ⟨nofun, ?_⟩
    rintro ⟨rfl, hnodup⟩
    simp [hname, hnodup] at hnames
  · next hnone =>
    constructor
    · rintro ⟨⟩
      exact ⟨rfl, (hnames.1 hnone).1⟩
    · rintro ⟨rfl, -⟩
      rfl

/-- What is read behind the first slash. -/
theorem read_of_slash {raw : String} {rest : List Char} (hraw : raw.toList = '/' :: rest)
    (hrest : rest.head? ≠ some '/') :
    read raw = readBody raw (Path.dropTrailingSlash rest) >>= checkNames raw := by
  unfold read readBody
  split
  · next hslash =>
    rw [hraw] at hslash
    cases hslash
    exact (hrest rfl).elim
  · next rest' _ hraw' =>
    obtain rfl : rest' = rest := by
      rw [hraw] at hraw'
      exact (List.cons.inj hraw').2.symm
    dsimp only
    split
    · next hnil => rw [if_pos hnil]; rfl
    · next hne => rw [if_neg hne]; rfl
  · next hnot => exact (hnot rest hraw).elim

theorem read_of_not_slash {raw : String}
    (hraw : ∀ rest, raw.toList = '/' :: rest → rest.head? = some '/') :
    ∃ fault, read raw = .error (.malformed raw fault) := by
  unfold read
  split
  · exact ⟨_, rfl⟩
  · next rest hnot hraw' =>
    obtain ⟨_, rfl⟩ := List.head?_eq_some_iff.1 (hraw rest hraw')
    exact (hnot _ rfl).elim
  · exact ⟨_, rfl⟩

theorem read_cases (raw : String) :
    (∃ rest, raw.toList = '/' :: rest ∧ rest.head? ≠ some '/' ∧
      read raw = readBody raw (Path.dropTrailingSlash rest) >>= checkNames raw) ∨
    ∃ fault, read raw = .error (.malformed raw fault) := by
  by_cases hslash : ∃ rest, raw.toList = '/' :: rest ∧ rest.head? ≠ some '/'
  · obtain ⟨rest, hraw, hrest⟩ := hslash
    exact .inl ⟨rest, hraw, hrest, read_of_slash hraw hrest⟩
  · simp only [not_exists, not_and, not_not] at hslash
    exact .inr (read_of_not_slash hslash)

theorem read_eq_ok_iff {raw : String} {segments : List Segment} :
    read raw = .ok segments ↔ Spells raw segments := by
  constructor
  · intro h
    rcases read_cases raw with ⟨rest, hraw, hrest, hread⟩ | ⟨fault, hread⟩
    · rw [hread] at h
      obtain ⟨all, hall, hnames⟩ := except_bind_eq_ok.1 h
      obtain ⟨rfl, hnodup⟩ := checkNames_eq_ok_iff.1 hnames
      obtain ⟨hbody, hformed, hlast⟩ := readBody_eq_ok_iff.1 hall
      exact ⟨hformed, hlast, hnodup, (written_iff hformed).2 ⟨rest, hraw, hrest, hbody⟩⟩
    · cases hread.symm.trans h
  · rintro ⟨hformed, hlast, hnodup, hwritten⟩
    obtain ⟨rest, hraw, hrest, hbody⟩ := (written_iff hformed).1 hwritten
    rw [read_of_slash hraw hrest]
    exact except_bind_eq_ok.2 ⟨segments, readBody_eq_ok_iff.2 ⟨hbody, hformed, hlast⟩,
      checkNames_eq_ok_iff.2 ⟨rfl, hnodup⟩⟩

end Pattern

/-! ## Refusals -/

/-- The pattern that is refused as it stands. -/
def RouteError.pattern? : RouteError → Option String
  | malformed pattern _ | duplicateParam pattern _ _ | wildcardNotLast pattern => some pattern
  | conflict _ _ _ | unsupportedMethod _ => none

namespace Pattern

theorem pattern?_of_readPieces {raw : String} {pieces : List (List Char)} {e : RouteError}
    (h : readPieces raw pieces = .error e) : e.pattern? = some raw := by
  induction pieces with
  | nil => cases h
  | cons piece pieces ih =>
    rw [readPieces] at h
    rcases except_bind_eq_error.1 h with h | ⟨s, -, h⟩
    · obtain ⟨_, -, rfl⟩ := except_mapError_eq_error.1 h
      rfl
    · split at h
      · cases h
        rfl
      · rcases except_bind_eq_error.1 h with h | ⟨_, -, h⟩
        · exact ih h
        · cases h

theorem pattern?_of_readBody {raw : String} {body : List Char} {e : RouteError}
    (h : readBody raw body = .error e) : e.pattern? = some raw := by
  unfold readBody at h
  split at h
  · cases h
  · rcases except_bind_eq_error.1 h with h | ⟨_, -, h⟩
    · obtain ⟨_, -, rfl⟩ := except_mapError_eq_error.1 h
      rfl
    · exact pattern?_of_readPieces h

theorem pattern?_of_read {raw : String} {e : RouteError} (h : read raw = .error e) :
    e.pattern? = some raw := by
  rcases read_cases raw with ⟨rest, -, -, hread⟩ | ⟨fault, hread⟩
  · rw [hread] at h
    rcases except_bind_eq_error.1 h with h | ⟨segments, -, h⟩
    · exact pattern?_of_readBody h
    · unfold checkNames at h
      split at h <;> cases h
      rfl
  · cases hread.symm.trans h
    rfl

theorem parse_eq_ok_iff {raw : String} {p : Pattern} :
    parse raw = .ok p ↔ p.raw = raw := by
  constructor
  · intro h
    unfold parse at h
    split at h
    · cases h
      rfl
    · cases h
  · rintro rfl
    exact parse_raw p

/-- The grammar and the parser agree: a text is a pattern with exactly the segments that it spells, and
a text that spells no segments is refused by an error that names it. -/
theorem parse_follows_grammar (raw : String) :
    (∀ segments, Spells raw segments ↔
      ∃ p, parse raw = .ok p ∧ p.raw = raw ∧ p.segments = segments) ∧
    ((¬ ∃ segments, Spells raw segments) ↔
      ∃ e, parse raw = .error e ∧ e.pattern? = some raw) := by
  have hspells : ∀ segments, Spells raw segments ↔
      ∃ p, parse raw = .ok p ∧ p.raw = raw ∧ p.segments = segments := fun segments => by
    rw [← read_eq_ok_iff]
    constructor
    · intro h
      exact ⟨⟨raw, segments, h⟩, parse_eq_ok_iff.2 rfl, rfl, rfl⟩
    · rintro ⟨p, -, rfl, rfl⟩
      exact p.read_raw
  refine ⟨hspells, ?_, ?_⟩
  · intro hnone
    cases hparse : parse raw with
    | ok p => exact (hnone ⟨p.segments, (hspells _).2 ⟨p, hparse, parse_eq_ok_iff.1 hparse, rfl⟩⟩).elim
    | error e =>
      refine ⟨e, rfl, pattern?_of_read ?_⟩
      unfold parse at hparse
      split at hparse
      · cases hparse
      · next hread =>
        cases hparse
        exact hread
  · rintro ⟨e, herror, -⟩ ⟨segments, h⟩
    obtain ⟨p, hp, -⟩ := (hspells segments).1 h
    cases herror.symm.trans hp

end Pattern

end Wayfinder.Route
