import Mathlib.Data.List.Forall2
import Mathlib.Data.List.Nodup
import Wayfinder.Group
import Wayfinder.Proofs.Route.Canonical
import Wayfinder.Proofs.Route.Registration
/-!
# Paths of groups

However the path of a group, those of the groups inside it and the path of a route begin and end, with a slash or
without one, the pattern of the route has the segments of all of them in a row. It is refused only for what the
concatenation may not have: something behind a wildcard, or a name twice.
-/

namespace Wayfinder.Route

open Pattern (checkNames firstRepeated parse read stem)

/-! ## Segments in a row -/

/-- Nothing stands behind a part that ends in a wildcard. -/
def EndAtWildcard (parts : List (List Segment)) : Prop :=
  parts.Pairwise fun p q => p.getLast? = some .wildcard → q = []

def names (segments : List Segment) : List String := segments.filterMap Segment.name?

def Shares (parts : List (List Segment)) (name : String) : Prop :=
  ∃ p q, [p, q].Sublist parts ∧ name ∈ names p ∧ name ∈ names q

theorem WildcardLast.mem_iff {segments : List Segment} (h : WildcardLast segments) :
    .wildcard ∈ segments ↔ segments.getLast? = some .wildcard := by
  rcases segments.eq_nil_or_concat with rfl | ⟨front, s, rfl⟩
  · simp
  · rw [List.concat_eq_append] at *
    have hfront : .wildcard ∉ front := by simpa [WildcardLast] using h
    simp [hfront, eq_comm]

theorem wildcardLast_append_iff {front back : List Segment} (hback : back ≠ []) :
    WildcardLast (front ++ back) ↔ .wildcard ∉ front ∧ WildcardLast back := by
  rw [WildcardLast, WildcardLast, List.dropLast_append_of_ne_nil hback, List.mem_append, not_or]

theorem WildcardLast.cons_iff {s : Segment} {rest : List Segment} :
    WildcardLast (s :: rest) ↔ (s = .wildcard → rest = []) ∧ WildcardLast rest := by
  constructor
  · intro h
    refine ⟨?_, h.tail⟩
    rintro rfl
    exact h.eq_nil
  · rintro ⟨hs, hrest⟩
    by_cases hnil : rest = []
    · simp [hnil, WildcardLast]
    · rw [← List.singleton_append, wildcardLast_append_iff hnil]
      exact ⟨by simpa using fun h : Segment.wildcard = s => hnil (hs h.symm), hrest⟩

theorem wildcardLast_flatten_iff {parts : List (List Segment)} (h : ∀ p ∈ parts, WildcardLast p) :
    WildcardLast parts.flatten ↔ EndAtWildcard parts := by
  induction parts with
  | nil => simp [WildcardLast, EndAtWildcard]
  | cons p parts ih =>
    obtain ⟨hp, hparts⟩ := List.forall_mem_cons.1 h
    rw [EndAtWildcard, List.pairwise_cons, ← EndAtWildcard, ← ih hparts, List.flatten_cons]
    by_cases hnil : parts.flatten = []
    · have hall : ∀ q ∈ parts, q = [] := List.flatten_eq_nil_iff.1 hnil
      simp only [hnil, List.append_nil, hp, true_iff]
      exact ⟨fun q hq _ => hall q hq, by simp [WildcardLast]⟩
    · rw [wildcardLast_append_iff hnil, hp.mem_iff]
      refine and_congr_left fun _ => ⟨fun hno q _ hwildcard => (hno hwildcard).elim, ?_⟩
      intro hno hwildcard
      exact hnil (List.flatten_eq_nil_iff.2 fun q hq => hno q hq hwildcard)

theorem names_flatten (parts : List (List Segment)) :
    names parts.flatten = (parts.map names).flatten :=
  List.filterMap_flatten

/-- A name that is bound twice, though never twice in one part, is bound in two parts. -/
theorem shares_of_sublist {parts : List (List Segment)} (h : ∀ p ∈ parts, (names p).Nodup)
    {name : String} (hname : [name, name].Sublist (names parts.flatten)) : Shares parts name := by
  rw [names_flatten] at hname
  induction parts with
  | nil => simp at hname
  | cons p parts ih =>
    obtain ⟨hp, hparts⟩ := List.forall_mem_cons.1 h
    rw [List.map_cons, List.flatten_cons, List.sublist_append_iff] at hname
    obtain ⟨first, rest, hpair, hfirst, hrest⟩ := hname
    match first, rest with
    | [], rest =>
      obtain rfl : rest = [name, name] := hpair.symm
      obtain ⟨q, r, hsub, hq, hr⟩ := ih hparts hrest
      exact ⟨q, r, hsub.cons p, hq, hr⟩
    | [x], rest =>
      obtain ⟨rfl, rfl⟩ : name = x ∧ [name] = rest := by simpa using hpair
      obtain ⟨_, hmap, hmem⟩ := List.mem_flatten.1 (List.singleton_sublist.1 hrest)
      obtain ⟨q, hq, rfl⟩ := List.mem_map.1 hmap
      exact ⟨p, q, (List.singleton_sublist.2 hq).cons_cons p, List.singleton_sublist.1 hfirst, hmem⟩
    | x :: y :: first, rest =>
      obtain ⟨rfl, rfl, rfl, -⟩ : name = x ∧ name = y ∧ first = [] ∧ rest = [] := by simpa using hpair
      exact (List.nodup_iff_sublist.1 hp name hfirst).elim

theorem not_nodup_of_shares {parts : List (List Segment)} {name : String} (h : Shares parts name) :
    ¬ (names parts.flatten).Nodup := by
  obtain ⟨p, q, hsub, hp, hq⟩ := h
  intro hnodup
  rw [names_flatten] at hnodup
  obtain ⟨-, hdisjoint⟩ := List.nodup_flatten.1 hnodup
  exact List.pairwise_iff_forall_sublist.1 hdisjoint (hsub.map names) hp hq

theorem firstRepeated_eq_some {seen all : List String} {name : String}
    (h : firstRepeated seen all = some name) :
    name ∈ all ∧ name ∈ seen ∨ [name, name].Sublist all := by
  induction all generalizing seen with
  | nil => cases h
  | cons other all ih =>
    rw [firstRepeated] at h
    split at h
    · next hseen =>
      cases h
      exact .inl ⟨List.mem_cons_self, hseen⟩
    · rcases ih h with ⟨hmem, hseen⟩ | hsub
      · rcases List.mem_cons.1 hseen with rfl | hseen
        · exact .inr ((List.singleton_sublist.2 hmem).cons_cons name)
        · exact .inl ⟨List.mem_cons_of_mem _ hmem, hseen⟩
      · exact .inr (hsub.cons other)

theorem endAtWildcard_pair {p q : List Segment} :
    EndAtWildcard [p, q] ↔ (p.getLast? = some .wildcard → q = []) := by
  simp [EndAtWildcard]

theorem shares_pair {p q : List Segment} {name : String} :
    Shares [p, q] name ↔ name ∈ names p ∧ name ∈ names q := by
  constructor
  · rintro ⟨p', q', hsub, hp, hq⟩
    obtain ⟨rfl, rfl⟩ : p' = p ∧ q' = q := by simpa using hsub.eq_of_length rfl
    exact ⟨hp, hq⟩
  · rintro ⟨hp, hq⟩
    exact ⟨p, q, List.Sublist.refl _, hp, hq⟩

/-! ## Refusals -/

namespace Pattern

variable {raw : String} {segments : List Segment}

theorem readPieces_of_not_wildcardLast (raw : String) (hformed : ∀ s ∈ segments, s.Formed)
    (hlast : ¬ WildcardLast segments) :
    readPieces raw (segments.map fun s => s.text.toList) = .error (.wildcardNotLast raw) := by
  induction segments with
  | nil => exact (hlast (by simp [WildcardLast])).elim
  | cons s rest ih =>
    obtain ⟨hs, hrest⟩ := List.forall_mem_cons.1 hformed
    rw [WildcardLast.cons_iff, not_and] at hlast
    rw [List.map_cons, readPieces, readPiece_toList_text hs]
    by_cases hstop : s = .wildcard ∧ rest ≠ []
    · obtain ⟨rfl, hne⟩ := hstop
      simp [Except.mapError, bind, Except.bind, Segment.isWildcard, hne]
    · have hnil : s = .wildcard → rest = [] := by simpa using hstop
      have hgo : (s.isWildcard && !(rest.map fun s => s.text.toList).isEmpty) = false := by
        cases s <;> simp [Segment.isWildcard]
        exact hnil rfl
      rw [ih hrest (hlast hnil)]
      simp only [Except.mapError, bind, Except.bind, hgo]
      rfl

theorem readBody_bodyOf_of_not_wildcardLast (raw : String) (hformed : ∀ s ∈ segments, s.Formed)
    (hlast : ¬ WildcardLast segments) :
    readBody raw (bodyOf segments) = .error (.wildcardNotLast raw) := by
  have hne : segments ≠ [] := by
    rintro rfl
    exact hlast (by simp [WildcardLast])
  rw [readBody, if_neg (bodyOf_ne_nil hformed hne), splitPieces_bodyOf hformed hne]
  exact readPieces_of_not_wildcardLast raw hformed hlast

/-- What is written from segments that are formed well is read up to the rules for all of them. -/
theorem read_of_stemmed (hformed : ∀ s ∈ segments, s.Formed) (hraw : raw ≠ "")
    (hstem : Stemmed raw segments) : read raw =
      if .wildcard ∈ segments.dropLast then .error (.wildcardNotLast raw) else checkNames raw segments := by
  obtain ⟨rest, htext, hrest, hbody⟩ := (written_iff hformed).1 (written_iff_stemmed.2 ⟨hraw, hstem⟩)
  rw [read_of_slash htext hrest, hbody]
  split
  · next hwildcard =>
    rw [readBody_bodyOf_of_not_wildcardLast raw hformed (not_not.2 hwildcard)]
    rfl
  · next hlast =>
    have hread : readBody raw (bodyOf segments) = .ok segments :=
      readBody_eq_ok_iff.2 ⟨rfl, hformed, hlast⟩
    rw [hread]
    rfl

theorem parse_eq_error_iff {e : RouteError} : parse raw = .error e ↔ read raw = .error e := by
  unfold parse
  split
  · next h => simp [h]
  · next h => simp [h]

theorem exists_parse_iff : (∃ p, parse raw = .ok p ∧ p.segments = segments) ↔ read raw = .ok segments := by
  constructor
  · rintro ⟨p, hp, rfl⟩
    exact parse_eq_ok_iff.1 hp ▸ p.read_raw
  · intro h
    exact ⟨⟨raw, segments, h⟩, parse_eq_ok_iff.2 rfl, rfl⟩

end Pattern

section

variable {parts : List (List Segment)} (hnodup : ∀ p ∈ parts, (names p).Nodup)
include hnodup

theorem checkNames_of_shares (raw : String) {shared : String} (h : Shares parts shared) :
    ∃ name, Shares parts name ∧
      checkNames raw parts.flatten = .error (.duplicateParam raw name name) := by
  cases hfirst : firstRepeated [] (names parts.flatten) with
  | none =>
    have hnone := (Pattern.firstRepeated_eq_none_iff.1 hfirst).1
    exact (not_nodup_of_shares h hnone).elim
  | some name =>
    have htwice : [name, name].Sublist (names parts.flatten) := by
      simpa using firstRepeated_eq_some hfirst
    refine ⟨name, shares_of_sublist hnodup htwice, ?_⟩
    rw [checkNames, ← names, hfirst]

theorem checkNames_of_not_shares (raw : String) (h : ∀ name, ¬ Shares parts name) :
    checkNames raw parts.flatten = .ok parts.flatten := by
  rw [Pattern.checkNames_eq_ok_iff]
  refine ⟨rfl, List.nodup_iff_sublist.2 ?_⟩
  intro name htwice
  exact h name (shares_of_sublist hnodup htwice)

end

/-- What a text comes to that has the segments of several patterns in a row. -/
def Concatenates (raw : String) (parts : List (List Segment)) : Prop :=
  (¬ EndAtWildcard parts → parse raw = .error (.wildcardNotLast raw)) ∧
  (EndAtWildcard parts → (∃ name, Shares parts name) →
    ∃ name, Shares parts name ∧ parse raw = .error (.duplicateParam raw name name)) ∧
  (EndAtWildcard parts → (∀ name, ¬ Shares parts name) →
    ∃ r, parse raw = .ok r ∧ r.segments = parts.flatten)

theorem concatenates_of_stemmed {raw : String} {patterns : List Pattern} (hraw : raw ≠ "")
    (hstem : Stemmed raw (patterns.map Pattern.segments).flatten) :
    Concatenates raw (patterns.map Pattern.segments) := by
  have hformed : ∀ s ∈ (patterns.map Pattern.segments).flatten, s.Formed := by
    intro s hs
    obtain ⟨_, hmap, hs⟩ := List.mem_flatten.1 hs
    obtain ⟨p, -, rfl⟩ := List.mem_map.1 hmap
    exact p.spells.formed s hs
  have hlast : WildcardLast (patterns.map Pattern.segments).flatten ↔
      EndAtWildcard (patterns.map Pattern.segments) :=
    wildcardLast_flatten_iff (List.forall_mem_map.2 fun p _ => p.wildcardLast)
  have hnodup : ∀ part ∈ patterns.map Pattern.segments, (names part).Nodup :=
    List.forall_mem_map.2 fun p _ => p.nodup_names
  generalize patterns.map Pattern.segments = parts at *
  have hread := Pattern.read_of_stemmed hformed hraw hstem
  by_cases hend : EndAtWildcard parts
  · rw [if_neg (hlast.2 hend)] at hread
    refine ⟨fun hno => (hno hend).elim, fun _ => ?_, fun _ => ?_⟩
    · rintro ⟨shared, hshared⟩
      obtain ⟨name, hname, herror⟩ := checkNames_of_shares hnodup raw hshared
      exact ⟨name, hname, Pattern.parse_eq_error_iff.2 (hread.trans herror)⟩
    · intro hdisjoint
      exact Pattern.exists_parse_iff.2 (hread.trans (checkNames_of_not_shares hnodup raw hdisjoint))
  · -- a wildcard in the middle is found before any name is compared
    have hwildcard : .wildcard ∈ parts.flatten.dropLast := by
      by_contra hno
      exact hend (hlast.1 hno)
    rw [if_pos hwildcard] at hread
    exact ⟨fun _ => Pattern.parse_eq_error_iff.2 hread, fun h => (hend h).elim,
      fun h => (hend h).elim⟩

theorem Concatenates.segments_eq {raw : String} {parts : List (List Segment)}
    (h : Concatenates raw parts) {p : Pattern} (hp : parse raw = .ok p) :
    p.segments = parts.flatten := by
  obtain ⟨hend, hshared, hok⟩ := h
  rw [hp] at hend hshared hok
  by_cases hlast : EndAtWildcard parts
  · have hdisjoint : ∀ name, ¬ Shares parts name := by
      intro name hname
      obtain ⟨_, -, herror⟩ := hshared hlast ⟨name, hname⟩
      cases herror
    obtain ⟨_, ⟨⟩, hsegments⟩ := hok hlast hdisjoint
    exact hsegments
  · cases hend hlast

/-! ## Joined paths -/

theorem dropTrailing_of_getLast?_ne {cs : List Char} (h : cs.getLast? ≠ some '/') :
    Text.dropTrailing (· == '/') cs = cs := by
  rcases cs.eq_nil_or_concat with rfl | ⟨front, c, rfl⟩
  · rfl
  · rw [List.concat_eq_append] at *
    have hc : c ≠ '/' := by simpa using h
    rw [Text.dropTrailing_concat, if_neg (by simpa using hc)]

theorem Stemmed.dropTrailing_eq {path : String} {segments : List Segment}
    (h : Stemmed path segments) (hformed : ∀ s ∈ segments, s.Formed) :
    Text.dropTrailing (· == '/') path.toList = stem segments := by
  have hstem := dropTrailing_of_getLast?_ne (Pattern.getLast?_stem hformed)
  rcases h with hpath | hpath
  · rw [hpath, hstem]
  · rw [hpath, Text.dropTrailing_concat, if_pos (by decide), hstem]

end Wayfinder.Route

namespace Wayfinder.Group

open Http (Method)
open Route
open Route.Pattern (parse stem)

/-- The path with a slash in front. -/
def absolute (path : String) : String := if path.toList.head? = some '/' then path else "/" ++ path

theorem join_eq_of_ne {inner : String} (hinner : ¬ (inner = "" ∨ inner = "/")) (outer : String) :
    join outer inner =
      String.ofList (Text.dropTrailing (· == '/') outer.toList) ++ absolute inner := by
  unfold join absolute
  rw [if_neg hinner]
  split
  · rfl
  · rw [String.append_assoc]

theorem absolute_ne_empty (path : String) : absolute path ≠ "" := by
  unfold absolute
  split
  · next hslash =>
    rintro rfl
    cases hslash
  · simp

theorem absolute_eq_slash {path : String} (h : path = "" ∨ path = "/") : absolute path = "/" := by
  rcases h with rfl | rfl <;> decide

theorem join_ne_empty (outer inner : String) : join outer inner ≠ "" := by
  by_cases hinner : inner = "" ∨ inner = "/"
  · unfold join
    rw [if_pos hinner]
    split
    · decide
    · next hne => exact hne
  · rw [join_eq_of_ne hinner]
    simp [absolute_ne_empty]

/-- The segments inside stand behind those outside, whichever slashes the two paths have at their ends. -/
theorem stemmed_join {outer inner : String} {front back : List Segment}
    (houter : Stemmed outer front) (hfront : ∀ s ∈ front, s.Formed)
    (hinner : Stemmed (absolute inner) back) (hback : ∀ s ∈ back, s.Formed) :
    Stemmed (join outer inner) (front ++ back) := by
  have htrim := houter.dropTrailing_eq hfront
  by_cases hempty : inner = "" ∨ inner = "/"
  · have hnil : back = [] := by
      have hstem := hinner.dropTrailing_eq hback
      rw [absolute_eq_slash hempty] at hstem
      exact Pattern.stem_eq_nil_iff.1 hstem.symm
    subst hnil
    unfold join
    rw [if_pos hempty, htrim, List.append_nil]
    split
    · next hroot =>
      have hstem : stem front = [] := by simpa using hroot
      exact .inr (by simp [hstem])
    · exact .inl String.toList_ofList
  · rw [join_eq_of_ne hempty, htrim, Stemmed, Pattern.stem_append, String.toList_append,
      String.toList_ofList]
    rcases hinner with hinner | hinner
    · exact .inl (by rw [hinner])
    · exact .inr (by rw [hinner, List.append_assoc])

/-- Groups inside each other, the innermost of them. -/
def nested (path : String) (paths : List String) : Group := paths.foldl nest (atPath path)

theorem path_nested (path : String) (paths : List String) :
    (nested path paths).path = (path :: paths).foldl join "" := by
  have hfold : ∀ g : Group, (paths.foldl nest g).path = paths.foldl join g.path := by
    induction paths with
    | nil => exact fun _ => rfl
    | cons inner paths ih => exact fun g => ih (g.nest inner)
  exact hfold (atPath path)

/-- Each path denotes a pattern once a slash stands in front of it. -/
def Denote (paths : List String) (patterns : List Pattern) : Prop :=
  List.Forall₂ (fun path p => parse (absolute path) = .ok p) paths patterns

theorem Denote.stemmed_foldl {paths : List String} {patterns : List Pattern} (h : Denote paths patterns)
    {outer : String} {front : List Segment} (houter : Stemmed outer front)
    (hfront : ∀ s ∈ front, s.Formed) :
    Stemmed (paths.foldl join outer) (front ++ (patterns.map Pattern.segments).flatten) := by
  induction h generalizing outer front with
  | nil => simpa using houter
  | @cons path p paths patterns hp _ ih =>
    have hspells := p.spells
    rw [Pattern.parse_eq_ok_iff.1 hp] at hspells
    have hjoin := stemmed_join houter hfront hspells.stemmed hspells.formed
    have hformed := List.forall_mem_append.2 ⟨hfront, hspells.formed⟩
    rw [List.foldl_cons, List.map_cons, List.flatten_cons, ← List.append_assoc]
    exact ih hjoin hformed

theorem Denote.concatenates {path sub : String} {paths : List String} {patterns : List Pattern}
    (h : Denote (path :: paths ++ [sub]) patterns) :
    Concatenates (join (nested path paths).path sub) (patterns.map Pattern.segments) := by
  have hnew : Stemmed "" [] := .inl rfl
  have hstem := h.stemmed_foldl hnew (List.forall_mem_nil _)
  rw [List.foldl_append, List.foldl_cons, List.foldl_nil, List.nil_append, ← path_nested] at hstem
  exact concatenates_of_stemmed (join_ne_empty _ _) hstem

theorem concatenates_pair {path sub : String} {p q : Pattern} (hp : parse (absolute path) = .ok p)
    (hq : parse (absolute sub) = .ok q) :
    Concatenates (join (join "" path) sub) [p.segments, q.segments] := by
  have hdenote : Denote (path :: [] ++ [sub]) [p, q] := .cons hp (.cons hq .nil)
  exact hdenote.concatenates

theorem segments_of_register {path sub : String} {paths : List String} {patterns : List Pattern}
    (h : Denote (path :: paths ++ [sub]) patterns) {t : Table} {method : Method}
    {handler : Stage.Program} {stages : List Stage} {route : StagedRoute}
    (hroute : ((nested path paths).register t method sub handler stages).1 = .ok route) :
    route.pattern.segments = (patterns.map Pattern.segments).flatten := by
  rcases t.router.register_cases method (join (nested path paths).path sub) handler
    ((nested path paths).stages ++ stages) with ⟨e, hrefused, -⟩ | ⟨verb, p, _, -, hp, -, haccepted⟩
  · rw [register, Table.register, hrefused] at hroute
    cases hroute
  · rw [register, Table.register, haccepted] at hroute
    cases hroute
    exact h.concatenates.segments_eq hp

/-- A route of a group, at any depth, has the segments of the paths around it and then its own, however these paths
begin and end. It is refused if something stands behind a wildcard, or else if two paths bind one name. -/
theorem nested_paths_concatenate :
    (∀ path sub p q, parse (absolute path) = .ok p → parse (absolute sub) = .ok q →
      ∀ raw, raw = join (join "" path) sub →
        (p.segments.getLast? = some .wildcard → q.segments ≠ [] →
          parse raw = .error (.wildcardNotLast raw)) ∧
        ((p.segments.getLast? = some .wildcard → q.segments = []) →
          ((∃ name, name ∈ names p.segments ∧ name ∈ names q.segments) →
            ∃ name, (name ∈ names p.segments ∧ name ∈ names q.segments) ∧
              parse raw = .error (.duplicateParam raw name name)) ∧
          ((∀ name, ¬ (name ∈ names p.segments ∧ name ∈ names q.segments)) →
            ∃ r, parse raw = .ok r ∧ r.segments = p.segments ++ q.segments))) ∧
    (∀ path paths sub patterns, Denote (path :: paths ++ [sub]) patterns →
      Concatenates (join (nested path paths).path sub) (patterns.map Pattern.segments)) ∧
    ∀ path paths sub patterns, Denote (path :: paths ++ [sub]) patterns →
      ∀ (t : Table) method handler stages route,
        ((nested path paths).register t method sub handler stages).1 = .ok route →
        route.pattern.segments = (patterns.map Pattern.segments).flatten := by
  refine ⟨fun path sub p q hp hq raw hraw => ?_, fun _ _ _ _ h => h.concatenates,
    fun _ _ _ _ h _ _ _ _ _ hroute => segments_of_register h hroute⟩
  subst hraw
  obtain ⟨hend, hshared, hok⟩ := concatenates_pair hp hq
  simp only [endAtWildcard_pair, shares_pair, List.flatten_cons, List.flatten_nil,
    List.append_nil] at hend hshared hok
  exact ⟨fun hwildcard hne => hend fun h => hne (h hwildcard),
    fun hlast => ⟨hshared hlast, hok hlast⟩⟩

example : join (nested "api/" ["/", "/v1"]).path "users" = "/api/v1/users" := by decide

end Wayfinder.Group
