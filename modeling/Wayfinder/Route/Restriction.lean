import Wayfinder.Regex.Compile
/-!
# Restrictions on parameters

A parameter may be restricted by a regular expression. The restriction carries the text of the
expression as written in the pattern, so two restrictions are equal as soon as their texts are.
-/

namespace Wayfinder.Route

/-- A regular expression as written in a pattern, with the expression that segments are searched for. -/
structure Restriction where
  source : String
  expr : Regex.Expr
  compiled : Regex.compile? ("^(?:" ++ source ++ ")$") = some expr

namespace Restriction

theorem ext_source {a b : Restriction} (h : a.source = b.source) : a = b := by
  obtain ⟨sa, ea, ha⟩ := a
  obtain ⟨sb, eb, hb⟩ := b
  cases h
  have he : ea = eb := Option.some.inj (ha.symm.trans hb)
  subst he
  rfl

instance : DecidableEq Restriction := fun a b =>
  if h : a.source = b.source then .isTrue (ext_source h)
  else .isFalse fun hab => h (hab ▸ rfl)

/-- The restriction with a given text. The text is placed between anchors as it stands. -/
def ofSource? (source : String) : Option Restriction :=
  match h : Regex.compile? ("^(?:" ++ source ++ ")$") with
  | some e => some ⟨source, e, h⟩
  | none => none

/-- Whether a path segment satisfies the restriction: the anchored expression is found in it. -/
def isMatch (r : Restriction) (segment : String) : Bool := r.expr.matchesIn segment.toList

end Restriction

end Wayfinder.Route
