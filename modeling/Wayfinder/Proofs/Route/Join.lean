import Mathlib.Data.List.Basic
import Mathlib.Data.List.Forall2
import Wayfinder.Proofs.Text.Percent
import Wayfinder.Route.Path
/-!
# Paths written from segments

A path that is written from escaped segments splits into these segments again, whatever they hold and however they
are escaped, unless the last one is empty: that one would be taken for a slash at the end.
-/

namespace Wayfinder.Route.Path

open Text.Percent (IsEncoding decode encode isEncoding_encode)

@[simp] theorem dropTrailingSlash_concat (cs : List Char) : dropTrailingSlash (cs ++ ['/']) = cs := by
  simp [dropTrailingSlash, dropLeadingSlash]

theorem dropTrailingSlash_of_ne {cs : List Char} (h : cs.getLast? ≠ some '/') :
    dropTrailingSlash cs = cs := by
  rw [← List.head?_reverse] at h
  rw [dropTrailingSlash]
  cases hcs : cs.reverse with
  | nil => simpa [dropLeadingSlash] using hcs
  | cons c rest =>
    have hc : c ≠ '/' := by simpa [hcs] using h
    have hdrop : dropLeadingSlash (c :: rest) = c :: rest := by
      rw [dropLeadingSlash]
      rintro _ heq
      exact (hc (List.cons.inj heq).1).elim
    rw [hdrop, ← hcs, List.reverse_reverse]

theorem eq_dropTrailingSlash_or (cs : List Char) :
    cs = dropTrailingSlash cs ∨ cs = dropTrailingSlash cs ++ ['/'] := by
  by_cases hlast : cs.getLast? = some '/'
  · obtain ⟨front, rfl⟩ := List.getLast?_eq_some_iff.1 hlast
    simp
  · exact .inl (dropTrailingSlash_of_ne hlast).symm

theorem head?_intercalate {α : Type} (sep : List α) {first : List α} (h : first ≠ [])
    (others : List (List α)) : (sep.intercalate (first :: others)).head? = first.head? := by
  cases others with
  | nil => simp
  | cons other others =>
    rw [List.intercalate_cons_cons, List.append_assoc, List.head?_append_of_ne_nil _ h]

/-- What is joined ends as its last piece does. -/
theorem getLast?_intercalate {α : Type} (sep : List α) (front : List (List α)) {last : List α}
    (h : last ≠ []) : (sep.intercalate (front ++ [last])).getLast? = last.getLast? := by
  induction front with
  | nil => simp
  | cons piece front ih =>
    rw [List.cons_append, List.intercalate_cons_of_ne_nil (by simp), List.getLast?_append, ih,
      List.getLast?_eq_some_getLast h, Option.some_or]

theorem dropLeadingSlash_append {cs : List Char} (h : cs ≠ []) (more : List Char) :
    dropLeadingSlash (cs ++ more) = dropLeadingSlash cs ++ more := by
  obtain ⟨c, rest, rfl⟩ := List.exists_cons_of_ne_nil h
  by_cases hc : c = '/'
  · subst hc
    rfl
  · have hdrop : ∀ tail, dropLeadingSlash (c :: tail) = c :: tail := by
      intro tail
      rw [dropLeadingSlash]
      rintro _ heq
      exact hc (List.cons.inj heq).1
    rw [List.cons_append, hdrop, hdrop, List.cons_append]

theorem getLast?_dropLeadingSlash {cs : List Char} (h : cs.getLast? ≠ some '/') :
    (dropLeadingSlash cs).getLast? ≠ some '/' := by
  unfold dropLeadingSlash
  split
  · next rest =>
    intro hlast
    exact h (by rw [List.getLast?_cons, hlast, Option.getD_some])
  · exact h

/-- A slash behind a path carries nothing, unless there is one already behind the first character. -/
theorem split_append_slash {path : String} (h : (dropLeadingSlash path.toList).getLast? ≠ some '/') :
    split (path ++ "/") = split path := by
  have hbody : dropTrailingSlash (dropLeadingSlash (path ++ "/").toList) =
      dropTrailingSlash (dropLeadingSlash path.toList) := by
    have htext : (path ++ "/").toList = path.toList ++ ['/'] := by simp
    rw [htext, dropTrailingSlash_of_ne h]
    by_cases hnil : path.toList = []
    · rw [hnil]
      rfl
    · rw [dropLeadingSlash_append hnil, dropTrailingSlash_concat]
  rw [split, split, hbody]

theorem toList_slash_intercalate (texts : List String) : ("/" ++ "/".intercalate texts).toList =
    '/' :: ['/'].intercalate (texts.map String.toList) := by
  simp

section

variable {escaped : List String} (hslash : ∀ e ∈ escaped, '/' ∉ e.toList)
  (hlast : escaped.getLast? ≠ some "")
include hslash hlast

theorem getLast?_intercalate_ne :
    (['/'].intercalate (escaped.map String.toList)).getLast? ≠ some '/' := by
  rcases escaped.eq_nil_or_concat with rfl | ⟨front, last, rfl⟩
  · simp
  · rw [List.concat_eq_append] at *
    have hne : last.toList ≠ [] := by simpa using hlast
    rw [List.map_append, List.map_singleton, getLast?_intercalate ['/'] _ hne]
    exact fun hslash' => hslash last (by simp) (List.mem_of_getLast? hslash')

/-- Segments that are written without slashes are found between the slashes. -/
theorem split_intercalate : split ("/" ++ "/".intercalate escaped) = escaped.map decode := by
  rw [split, toList_slash_intercalate, dropLeadingSlash,
    dropTrailingSlash_of_ne (getLast?_intercalate_ne hslash hlast)]
  rcases escaped.eq_nil_or_concat with rfl | ⟨front, last, rfl⟩
  · rfl
  rw [List.concat_eq_append] at *
  have hne : last.toList ≠ [] := by simpa using hlast
  have hbody : ['/'].intercalate ((front ++ [last]).map String.toList) ≠ [] := by
    have hend := getLast?_intercalate ['/'] (front.map String.toList) hne
    intro hnil
    rw [List.map_append, List.map_singleton] at hnil
    rw [hnil] at hend
    exact hne (List.getLast?_eq_none_iff.1 hend.symm)
  have hsplit : (['/'].intercalate ((front ++ [last]).map String.toList)).splitOn '/' =
      (front ++ [last]).map String.toList := by
    refine List.splitOn_intercalate '/' (fun piece hpiece => ?_) (by simp)
    obtain ⟨e, he, rfl⟩ := List.mem_map.1 hpiece
    exact hslash e he
  split
  · next hnil => exact (hbody hnil).elim
  · rw [hsplit, List.map_map]
    simp

end

section

variable {segments escaped : List String} (h : List.Forall₂ IsEncoding segments escaped)
include h

theorem map_decode : escaped.map decode = segments := by
  induction h with
  | nil => rfl
  | cons hencoding _ ih => rw [List.map_cons, hencoding.decode_eq, ih]

theorem slash_notMem_of_mem : ∀ e ∈ escaped, '/' ∉ e.toList := by
  induction h with
  | nil => simp
  | cons hencoding _ ih => exact List.forall_mem_cons.2 ⟨hencoding.slash_notMem, ih⟩

theorem getLast?_ne_of_isEncoding (hlast : segments.getLast? ≠ some "") :
    escaped.getLast? ≠ some "" := by
  intro hempty
  rw [← map_decode h, List.getLast?_map, hempty] at hlast
  exact hlast rfl

theorem split_of_isEncoding (hlast : segments.getLast? ≠ some "") :
    split ("/" ++ "/".intercalate escaped) = segments := by
  rw [split_intercalate (slash_notMem_of_mem h) (getLast?_ne_of_isEncoding h hlast), map_decode h]

theorem split_append_slash_of_isEncoding (hlast : segments.getLast? ≠ some "") :
    split ("/" ++ "/".intercalate escaped ++ "/") = segments := by
  have hend : (dropLeadingSlash ("/" ++ "/".intercalate escaped).toList).getLast? ≠ some '/' := by
    rw [toList_slash_intercalate, dropLeadingSlash]
    exact getLast?_intercalate_ne (slash_notMem_of_mem h) (getLast?_ne_of_isEncoding h hlast)
  rw [split_append_slash hend, split_of_isEncoding h hlast]

end

theorem forall₂_isEncoding (segments : List String) :
    List.Forall₂ IsEncoding segments (segments.map encode) :=
  List.forall₂_map_right_iff.2 (List.forall₂_same.2 fun s _ => isEncoding_encode s)

theorem split_join {segments : List String} (h : segments.getLast? ≠ some "") :
    split (join segments) = segments :=
  split_of_isEncoding (forall₂_isEncoding segments) h

end Wayfinder.Route.Path
