import Wayfinder.Proofs.Route.FiniteMap
import Wayfinder.Proofs.Route.Stem
/-!
# The spellings of a route

A pattern has two spellings at most, with and without a slash at the end, and the one without is what is written from
its segments. So two texts clash in a trie only if they are the same up to this slash.
-/

namespace Wayfinder.Route

namespace Pattern

/-- Drops one slash at the end of a text of more than one character. -/
def withoutSlash (raw : String) : String :=
  if 1 < raw.length then String.ofList (Path.dropTrailingSlash raw.toList) else raw

end Pattern

namespace Spells

open Pattern (stem withoutSlash write)

variable {raw : String} {segments : List Segment} (h : Spells raw segments)
include h

theorem dropTrailingSlash_eq : Path.dropTrailingSlash raw.toList = stem segments := by
  have hlast := Pattern.getLast?_stem h.formed
  rcases h.stemmed with hraw | hraw
  · rw [hraw, Path.dropTrailingSlash_of_ne hlast]
  · rw [hraw, Path.dropTrailingSlash_concat]

theorem eq_slash (hnil : segments = []) : raw = "/" := by
  subst hnil
  rcases h.written with hraw | ⟨hne, -⟩
  · simpa using hraw
  · exact (hne rfl).elim

theorem one_lt_length (hne : segments ≠ []) : 1 < raw.length := by
  have hbody := Pattern.bodyOf_ne_nil h.formed hne
  have hpos : 0 < (Pattern.bodyOf segments).length := List.length_pos_iff.2 hbody
  rw [← String.length_toList]
  rcases h.stemmed with hraw | hraw
  · rw [hraw, Pattern.stem_eq_bodyOf hne, List.length_cons]
    omega
  · rw [hraw, Pattern.stem_eq_bodyOf hne, List.length_append, List.length_cons]
    omega

theorem withoutSlash_eq_write : withoutSlash raw = write segments := by
  by_cases hnil : segments = []
  · rw [h.eq_slash hnil, hnil]
    decide
  · rw [withoutSlash, if_pos (h.one_lt_length hnil), h.dropTrailingSlash_eq,
      ← Pattern.toList_write hnil, String.ofList_toList]

/-- What is written from the segments spells them too. -/
theorem of_write : Spells (write segments) segments := by
  refine ⟨h.formed, h.wildcardLast, h.nodup_names, written_iff_stemmed.2 ?_⟩
  by_cases hnil : segments = []
  · subst hnil
    exact ⟨by decide, .inr (by decide)⟩
  · have htext := Pattern.toList_write hnil
    refine ⟨fun hempty => ?_, .inl htext⟩
    rw [hempty] at htext
    exact hnil (Pattern.stem_eq_nil_iff.1 htext.symm)

end Spells

namespace Pattern

theorem spells (p : Pattern) : Spells p.raw p.segments := read_eq_ok_iff.1 p.read_raw

theorem segments_eq_iff (p q : Pattern) :
    p.segments = q.segments ↔ withoutSlash p.raw = withoutSlash q.raw := by
  rw [p.spells.withoutSlash_eq_write, q.spells.withoutSlash_eq_write]
  constructor
  · intro h
    rw [h]
  · intro h
    have hp : read (write p.segments) = .ok p.segments := read_eq_ok_iff.2 p.spells.of_write
    have hq : read (write q.segments) = .ok q.segments := read_eq_ok_iff.2 q.spells.of_write
    rw [h, hq] at hp
    exact (Except.ok.inj hp).symm

theorem exists_parse_write (p : Pattern) :
    ∃ q, parse (write p.segments) = .ok q ∧ q.segments = p.segments :=
  ⟨⟨_, _, read_eq_ok_iff.2 p.spells.of_write⟩, parse_eq_ok_iff.2 rfl, rfl⟩

variable {α : Type}

/-- Two accepted texts have the same segments exactly when they are equal up to one slash at the end. The text that is
written from the segments is accepted and has them again. After any calls on a trie an insertion conflicts exactly
with the pattern that was accepted in another spelling of the same text, and the conflict names both. -/
theorem same_segments_iff_same_text :
    (∀ a b p q, parse a = .ok p → parse b = .ok q →
      (p.segments = q.segments ↔ withoutSlash a = withoutSlash b)) ∧
    (∀ a p, parse a = .ok p → ∃ q, parse (write p.segments) = .ok q ∧ q.segments = p.segments) ∧
    ∀ (calls : List (Call α)) b q (v : α) method existing attempted, parse b = .ok q →
      ((History.run calls).trie.insert q v = .error (.conflict method existing attempted) ↔
        method = none ∧ attempted = b ∧ ∃ e ∈ (History.run calls).accepted,
          e.pattern.raw = existing ∧ withoutSlash existing = withoutSlash b) := by
  refine ⟨fun a b p q hp hq => ?_, fun a p _ => p.exists_parse_write,
    fun calls b q v method existing attempted hq => ?_⟩
  · rw [← parse_eq_ok_iff.1 hp, ← parse_eq_ok_iff.1 hq]
    exact p.segments_eq_iff q
  · have hs : (History.run calls).Sound := .run calls
    obtain rfl := parse_eq_ok_iff.1 hq
    rw [hs.insert_eq_conflict_iff]
    refine and_congr_right fun _ => and_congr_right fun _ => exists_congr fun e => ?_
    refine and_congr_right fun _ => ?_
    rw [e.pattern.segments_eq_iff q]
    constructor
    · rintro ⟨hsame, rfl⟩
      exact ⟨rfl, hsame⟩
    · rintro ⟨rfl, hsame⟩
      exact ⟨hsame, rfl⟩

end Pattern

end Wayfinder.Route
