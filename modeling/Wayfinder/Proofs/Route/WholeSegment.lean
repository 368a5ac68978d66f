import Wayfinder.Proofs.Regex.Anchored
import Wayfinder.Proofs.Regex.Reading.Expression
import Wayfinder.Proofs.Route.Grammar
/-!
# Restrictions and whole segments

A restriction is meant to be matched by whole path segments. Its text is placed between
anchors as it stands, and a text that closes the group around it can leave an alternative
without one of the anchors.
-/

namespace Wayfinder.Route.Restriction

open Regex (Term Expr)

/-- The expression of a restriction has been read as a term with a meaning. -/
theorem exists_term (r : Restriction) : ∃ whole : Term,
    Term.read? ('^' :: '(' :: '?' :: ':' :: (r.source.toList ++ [')', '$'])) = some whole ∧
      whole.meaning? = some r.expr := by
  have hchars : ("^(?:" ++ r.source ++ ")$").toList =
      '^' :: '(' :: '?' :: ':' :: (r.source.toList ++ [')', '$']) := by
    simp
  obtain ⟨e, hread, hfits⟩ := Option.bind_eq_some_iff.1 r.compiled
  obtain ⟨whole, hwhole, hmeaning⟩ := Option.bind_eq_some_iff.1 hread
  split at hfits <;> cases hfits
  exact ⟨whole, hchars ▸ hwhole, hmeaning⟩

/-- Where the text is an expression by itself, both anchors stand around it. -/
theorem expr_eq {r : Restriction} {t : Term} (ht : Term.read? r.source.toList = some t) :
    ∃ inner, t.meaning? = some inner ∧
      r.expr = .seq (.look .textStart) (.seq (.group false inner) (.look .textEnd)) := by
  obtain ⟨whole, hwhole, hmeaning⟩ := r.exists_term
  obtain rfl := Term.eq_of_read?_anchored ht hwhole
  rw [Term.meaning?_anchored, Option.map_eq_some_iff] at hmeaning
  obtain ⟨inner, hinner, hexpr⟩ := hmeaning
  exact ⟨inner, hinner, hexpr.symm⟩

theorem matchesIn_between_anchors {inner : Expr} {cs : List Char} :
    (Expr.seq (.look .textStart) (.seq (.group false inner) (.look .textEnd))).matchesIn cs = true ↔
      inner.MatchesWhole cs := by
  rw [Expr.matchesIn_iff]
  constructor
  · rintro ⟨i, j, hi, hspans⟩
    have hwhole := hspans.whole rfl hi
    obtain ⟨_, ⟨rfl, -⟩, _, hinner, rfl, -⟩ := hwhole
    exact hinner
  · intro hinner
    refine ⟨0, cs.length, Nat.zero_le _, 0, ⟨rfl, rfl⟩, cs.length, hinner, rfl, ?_⟩
    simp [Regex.Look.holds, Regex.Gap.atIndex]

/-- A restriction matches whole segments only, exactly if that holds where an alternative of
its expression is found that is not anchored. Where its text is an expression by itself
there is no such alternative, and the restriction matches just the segments that this
expression matches as a whole. -/
theorem isMatch_whole_iff (r : Restriction) :
    ((∀ s, r.isMatch s = true → r.expr.MatchesWhole s.toList) ↔
      ∀ b ∈ r.expr.choices, b.anchored = false → ∀ s : String, b.matchesIn s.toList = true →
        r.expr.MatchesWhole s.toList) ∧
    ∀ t, Term.read? r.source.toList = some t →
      (∀ b ∈ r.expr.choices, b.anchored = true) ∧
      ∃ inner, t.meaning? = some inner ∧ ∀ s, r.isMatch s = true ↔ inner.MatchesWhole s.toList := by
  refine ⟨⟨fun hwhole b hb hloose s => ?_, fun hwhole s => ?_⟩, fun t ht => ?_⟩
  · exact Expr.matchesWhole_of_matchesIn_iff.1 (hwhole s) b hb hloose
  · exact Expr.matchesWhole_of_matchesIn_iff.2 fun b hb hloose => hwhole b hb hloose s
  · obtain ⟨inner, hinner, hexpr⟩ := expr_eq ht
    refine ⟨by simp [hexpr, Expr.choices, Expr.anchored, Expr.opensText, Expr.closesText], inner,
      hinner, fun s => ?_⟩
    rw [isMatch, hexpr, matchesIn_between_anchors]

/-- The first alternative of `a)|(b` is anchored at the start only, and is found where the
whole expression does not fit. -/
theorem isMatch_of_prefix : ∃ p : Pattern, Pattern.parse "/n/:id(a)|(b)" = .ok p ∧
    ∃ r, .regex "id" r ∈ p.segments ∧ r.isMatch "ax" = true ∧
      ¬ r.expr.MatchesWhole "ax".toList := by
  let a : Expr := .seq (.look .textStart) (.group false (.one (.single 'a')))
  let b : Expr := .seq (.group true (.one (.single 'b'))) (.look .textEnd)
  let r : Restriction := ⟨"a)|(b", .alt a b, by decide +kernel⟩
  let p : Pattern := ⟨"/n/:id(a)|(b)", [.literal "n", .regex "id" r], by decide +kernel⟩
  exact ⟨p, p.parse_raw, r, by simp [p], by decide +kernel, by decide +kernel⟩

end Wayfinder.Route.Restriction
