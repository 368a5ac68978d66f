import Mathlib.Data.List.Basic
import Wayfinder.Proofs.Route.History
import Wayfinder.Stage.Registry
/-!
# Stages behind filters

A filter matches paths with a trie of its own that has one pattern. It lets through what this
pattern fits, so the stages of a request can be read off the list of filters without any trie.
-/

namespace Wayfinder

open Http (Method)
open Route (Fits History Pattern RouteError Trie)

namespace Route

instance (p : Pattern) (path : List String) : Decidable (Fits p.segments path) :=
  decidable_of_iff (p.matchesPath path = true) (Pattern.isSome_bindAll_iff p.wildcardLast)

theorem Trie.exists_insert_empty {α : Type} (p : Pattern) (v : α) :
    ∃ t, ({} : Trie α).insert p v = .ok t := by
  cases hp : p.segments with
  | nil => exact ⟨_, Trie.insert_of_nil _ hp v⟩
  | cons s rest => exact ⟨_, Trie.insert_of_cons _ hp v⟩

/-- A trie with one pattern matches what the pattern fits. -/
theorem Trie.matchesPath_of_insert_empty {α : Type} {p : Pattern} {v : α} {t : Trie α}
    (h : ({} : Trie α).insert p v = .ok t) (path : List String) :
    t.matchesPath path = true ↔ Fits p.segments path := by
  have hrun : History.run [.insert p v] = ⟨t, [⟨p, v⟩]⟩ := by
    simp [History.run, History.step, h]
  have hsound : History.Sound ⟨t, [⟨p, v⟩]⟩ := hrun ▸ .run _
  rw [Trie.matchesPath, Option.isSome_iff_ne_none, ne_eq, hsound.lookup_eq_none_iff]
  simp

end Route

namespace Stage

theorem MethodFilter.admits_iff {filter : MethodFilter} {method : Method} :
    filter.admits method = true ↔ filter = .any ∨ filter = .only method := by
  cases filter <;> simp [admits]

theorem Filtered.applies_iff {s : Filtered} {method : Method} {path : List String} :
    s.applies method path = true ↔
      (s.filter = .any ∨ s.filter = .only method) ∧ Fits s.pattern.segments path := by
  rw [applies, Bool.and_eq_true, MethodFilter.admits_iff,
    Trie.matchesPath_of_insert_empty s.insert_eq]

/-- A filtered stage with its filter, apart from how paths are matched. -/
def Filtered.key (s : Filtered) : MethodFilter × Pattern × Stage := (s.filter, s.pattern, s.stage)

namespace Registry

variable (r : Registry) (filter : MethodFilter) {pattern : String} (stages : List Stage)

theorem addFiltered_of_error {e : RouteError} (h : Pattern.parse pattern = .error e) :
    r.addFiltered filter pattern stages = .error e := by
  simp [addFiltered, h, bind, Except.bind]

theorem addFiltered_of_ok {p : Pattern} (h : Pattern.parse pattern = .ok p) :
    ∃ r', r.addFiltered filter pattern stages = .ok r' ∧ r'.globals = r.globals ∧
      r'.filtered.map Filtered.key = r.filtered.map Filtered.key ++ stages.map (filter, p, ·) := by
  obtain ⟨matcher, hmatcher⟩ := Trie.exists_insert_empty p ()
  let added := stages.map fun stage => (⟨filter, p, matcher, hmatcher, stage⟩ : Filtered)
  refine ⟨{ r with filtered := r.filtered ++ added }, ?_, rfl, ?_⟩
  · simp only [addFiltered, h, bind, Except.bind]
    split
    · next matcher' hmatcher' =>
      cases hmatcher.symm.trans hmatcher'
      rfl
    · next e he => cases hmatcher.symm.trans he
  · simp [added, Filtered.key, Function.comp_def]

end Registry

@[simp] theorem map_place (scope : Scope) (stages : List Stage) :
    (place scope stages).map (fun s => (s.scope, s.stage)) = stages.map (scope, ·) := by
  calc (place scope stages).map (fun s => (s.scope, s.stage))
    _ = (stages.zipIdx.map Prod.fst).map (scope, ·) := by
      rw [place, List.map_map, List.map_map]
      rfl
    _ = stages.map (scope, ·) := by rw [List.zipIdx_map_fst]

/-- The filtered stages of a request, without their places. -/
theorem map_matching (r : Registry) (method : Method) (path : List String) :
    (r.matching method path).map (fun s => (s.scope, s.stage)) =
      ((r.filtered.map Filtered.key).filter fun s =>
        (s.1 = .any ∨ s.1 = .only method) ∧ Fits s.2.1.segments path).map (.pattern, ·.2.2) := by
  have hfst : r.filtered = r.filtered.zipIdx.map Prod.fst := by simp
  conv_rhs => rw [hfst]
  simp only [Registry.matching, Registry.filteredPlacements, List.filter_map, List.map_map]
  have happlies : ∀ s : Filtered, s.applies method path =
      decide ((s.filter = .any ∨ s.filter = .only method) ∧ Fits s.pattern.segments path) :=
    fun s => by rw [Bool.eq_iff_iff, Filtered.applies_iff, decide_eq_true_iff]
  simp only [Function.comp_def, happlies, Filtered.key]

end Stage

end Wayfinder
