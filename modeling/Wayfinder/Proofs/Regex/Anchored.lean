import Wayfinder.Proofs.Regex.Spans
/-!
# Anchored alternatives

An expression may show by its form that it matches at the start or at the end of a text
only. Of the alternatives of an expression just those that do not show both can match a part
of a text.
-/

namespace Wayfinder.Regex

theorem Steps.le {R : Nat → Nat → Prop} {n k i j : Nat} (hR : ∀ i j, R i j → i ≤ n → j ≤ n)
    (h : Steps R k i j) (hi : i ≤ n) : j ≤ n := by
  induction k generalizing i with
  | zero => exact h ▸ hi
  | succ k ih =>
    obtain ⟨l, hil, hlj⟩ := h
    exact ih hlj (hR i l hil hi)

namespace Expr

variable {cs : List Char} {e : Expr} {i j : Nat}

theorem Spans.le_length (h : e.Spans cs i j) (hi : i ≤ cs.length) : j ≤ cs.length := by
  induction e generalizing i j with
  | empty => exact h ▸ hi
  | one set =>
    obtain ⟨rfl, c, hc, -⟩ := h
    exact (List.getElem?_eq_some_iff.1 hc).1
  | look l => exact h.1 ▸ hi
  | group _ inner ih => exact ih h hi
  | seq first second ih₁ ih₂ =>
    obtain ⟨k, hik, hkj⟩ := h
    exact ih₂ hkj (ih₁ hik hi)
  | alt left right ih₁ ih₂ => exact h.elim (ih₁ · hi) (ih₂ · hi)
  | rep inner min max _ ih =>
    obtain ⟨_, -, hsteps⟩ := h
    exact hsteps.le (fun _ _ => ih) hi

/-- The form of the expression shows that it matches at the start of a text only. -/
def opensText : Expr → Bool
  | .look .textStart => true
  | .group _ inner => inner.opensText
  | .seq first _ => first.opensText
  | .alt left right => left.opensText && right.opensText
  | _ => false

/-- The form of the expression shows that it matches at the end of a text only. -/
def closesText : Expr → Bool
  | .look .textEnd => true
  | .group _ inner => inner.closesText
  | .seq _ second => second.closesText
  | .alt left right => left.closesText && right.closesText
  | _ => false

theorem Spans.start_eq (h : e.Spans cs i j) (hopens : e.opensText = true) (hi : i ≤ cs.length) :
    i = 0 := by
  induction e generalizing j with
  | empty | one | rep => cases hopens
  | look l =>
    cases l with
    | textStart =>
      by_contra hne
      have hbefore : cs[i - 1]? = none := by simpa [Look.holds, Gap.atIndex, hne] using h.2
      have := List.getElem?_eq_none_iff.1 hbefore
      omega
    | textEnd | lineStart | lineEnd | word => cases hopens
  | group _ inner ih => exact ih h hopens
  | seq first second ih₁ ih₂ =>
    obtain ⟨k, hik, -⟩ := h
    exact ih₁ hik hopens
  | alt left right ih₁ ih₂ =>
    simp only [opensText, Bool.and_eq_true] at hopens
    exact h.elim (ih₁ · hopens.1) (ih₂ · hopens.2)

theorem Spans.end_eq (h : e.Spans cs i j) (hcloses : e.closesText = true) (hi : i ≤ cs.length) :
    j = cs.length := by
  have hj : j ≤ cs.length := h.le_length hi
  induction e generalizing i with
  | empty | one | rep => cases hcloses
  | look l =>
    cases l with
    | textEnd =>
      obtain ⟨rfl, hlook⟩ := h
      have hafter : cs[i]? = none := by simpa [Look.holds, Gap.atIndex] using hlook
      exact Nat.le_antisymm hj (List.getElem?_eq_none_iff.1 hafter)
    | textStart | lineStart | lineEnd | word => cases hcloses
  | group _ inner ih => exact ih h hcloses hi
  | seq first second ih₁ ih₂ =>
    obtain ⟨k, hik, hkj⟩ := h
    exact ih₂ hkj hcloses (hik.le_length hi)
  | alt left right ih₁ ih₂ =>
    simp only [closesText, Bool.and_eq_true] at hcloses
    exact h.elim (ih₁ · hcloses.1 hi) (ih₂ · hcloses.2 hi)

/-- The expression matches whole texts only, by its form. -/
def anchored (e : Expr) : Bool := e.opensText && e.closesText

theorem Spans.whole (h : e.Spans cs i j) (hanchored : e.anchored = true) (hi : i ≤ cs.length) :
    e.MatchesWhole cs := by
  simp only [anchored, Bool.and_eq_true] at hanchored
  obtain rfl := h.start_eq hanchored.1 hi
  obtain rfl := h.end_eq hanchored.2 hi
  exact h

/-- The alternatives of an expression outside of all groups. -/
def choices : Expr → List Expr
  | .alt left right => left.choices ++ right.choices
  | e => [e]

theorem spans_iff_choices : e.Spans cs i j ↔ ∃ b ∈ e.choices, b.Spans cs i j := by
  induction e with
  | empty | one | look | group | seq | rep => simp [choices]
  | alt left right ih₁ ih₂ =>
    simp only [Spans, ih₁, ih₂, choices, List.mem_append, or_and_right, exists_or]

/-- An expression that is found in a text matches all of it, exactly if that holds where an
alternative is found that is not anchored. -/
theorem matchesWhole_of_matchesIn_iff : (e.matchesIn cs = true → e.MatchesWhole cs) ↔
    ∀ b ∈ e.choices, b.anchored = false → b.matchesIn cs = true → e.MatchesWhole cs := by
  constructor
  · intro hwhole b hb _ hfound
    obtain ⟨i, j, hi, hspans⟩ := matchesIn_iff.1 hfound
    exact hwhole (matchesIn_iff.2 ⟨i, j, hi, spans_iff_choices.2 ⟨b, hb, hspans⟩⟩)
  · intro hloose hfound
    obtain ⟨i, j, hi, hspans⟩ := matchesIn_iff.1 hfound
    obtain ⟨b, hb, hspans⟩ := spans_iff_choices.1 hspans
    cases hanchored : b.anchored with
    | true => exact spans_iff_choices.2 ⟨b, hb, hspans.whole hanchored hi⟩
    | false => exact hloose b hb hanchored (matchesIn_iff.2 ⟨i, j, hi, hspans⟩)

end Expr

end Wayfinder.Regex
