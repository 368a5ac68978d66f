import Mathlib.Data.List.Basic
import Wayfinder.Proofs.Route.Spelling
/-!
# Stems

The stem of some segments is their text with a slash in front of each. The stem of a concatenation is the
concatenation of the stems, and a pattern is written as a stem, possibly with a slash behind it.
-/

namespace Wayfinder.Route

namespace Pattern

def stem (segments : List Segment) : List Char := segments.flatMap fun s => '/' :: s.text.toList

@[simp] theorem stem_nil : stem [] = [] := rfl

@[simp] theorem stem_cons (s : Segment) (segments : List Segment) :
    stem (s :: segments) = '/' :: (s.text.toList ++ stem segments) := by
  simp [stem]

@[simp] theorem stem_append (front back : List Segment) : stem (front ++ back) = stem front ++ stem back :=
  List.flatMap_append

theorem stem_eq_nil_iff {segments : List Segment} : stem segments = [] ↔ segments = [] := by
  cases segments <;> simp

theorem stem_eq_bodyOf {segments : List Segment} (h : segments ≠ []) :
    stem segments = '/' :: bodyOf segments := by
  obtain ⟨s, rest, rfl⟩ := List.exists_cons_of_ne_nil h
  induction rest generalizing s with
  | nil => simp [bodyOf_cons]
  | cons t rest ih =>
    rw [stem_cons, ih t (by simp), bodyOf_cons, bodyOf_cons, List.map_cons, List.intercalate_cons_cons]
    simp

theorem getLast?_stem {segments : List Segment} (hformed : ∀ s ∈ segments, s.Formed) :
    (stem segments).getLast? ≠ some '/' := by
  by_cases hnil : segments = []
  · simp [hnil]
  · have hbody := bodyOf_ne_nil hformed hnil
    rw [stem_eq_bodyOf hnil, List.getLast?_cons_of_ne_nil hbody]
    exact getLast?_bodyOf hformed

theorem toList_write {segments : List Segment} (h : segments ≠ []) :
    (write segments).toList = stem segments := by
  obtain ⟨s, rest, rfl⟩ := List.exists_cons_of_ne_nil h
  simp [write, stem, List.flatMap_map]

end Pattern

/-- A text is the stem of some segments, possibly with a slash behind it. -/
def Stemmed (text : String) (segments : List Segment) : Prop :=
  text.toList = Pattern.stem segments ∨ text.toList = Pattern.stem segments ++ ['/']

theorem written_iff_stemmed {raw : String} {segments : List Segment} :
    (raw = "/" ++ "/".intercalate (segments.map Segment.text) ∨
      segments ≠ [] ∧ raw = "/" ++ "/".intercalate (segments.map Segment.text) ++ "/") ↔
    raw ≠ "" ∧ Stemmed raw segments := by
  have htext : ("/" ++ "/".intercalate (segments.map Segment.text)).toList =
      '/' :: Pattern.bodyOf segments := by
    simp [Pattern.bodyOf, Function.comp_def]
  have hslash : ("/" ++ "/".intercalate (segments.map Segment.text) ++ "/").toList =
      '/' :: Pattern.bodyOf segments ++ ['/'] := by
    rw [String.toList_append, htext]
    simp
  have hempty : raw ≠ "" ↔ raw.toList ≠ [] := by simp
  rw [← String.toList_inj, ← String.toList_inj, htext, hslash, hempty, Stemmed]
  by_cases hnil : segments = []
  · subst hnil
    rw [Pattern.bodyOf_nil, Pattern.stem_nil]
    constructor
    · rintro (h | ⟨hne, -⟩)
      · exact ⟨by rw [h]; simp, .inr h⟩
      · exact (hne rfl).elim
    · rintro ⟨hne, h | h⟩
      · exact (hne h).elim
      · exact .inl h
  · rw [Pattern.stem_eq_bodyOf hnil]
    constructor
    · rintro (h | ⟨-, h⟩)
      · exact ⟨by rw [h]; simp, .inl h⟩
      · exact ⟨by rw [h]; simp, .inr h⟩
    · rintro ⟨-, h | h⟩
      · exact .inl h
      · exact .inr ⟨hnil, h⟩

theorem Spells.stemmed {raw : String} {segments : List Segment} (h : Spells raw segments) :
    Stemmed raw segments :=
  (written_iff_stemmed.1 h.written).2

end Wayfinder.Route
