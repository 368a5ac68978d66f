import Mathlib.Data.List.Basic
import Wayfinder.Proofs.Route.Trie
/-!
# Insertion in place

The walk of an insertion makes nodes before it knows whether the place of its entry is free. It
clashes only where it has not made any: a node that was just made has no entry and no edges. So
a failed walk leaves the trie as it was.
-/

namespace Wayfinder.Route

variable {α : Type} {e : Entry α}

namespace Edges

/-- From a node without entry and edges the walk makes the branch of the entry. -/
theorem place_fresh (siblings : Edges α) (s : Segment) (rest : List Segment) :
    ∃ terminal below, Node.place e rest {} = (⟨terminal, below⟩, none) ∧
      cons s terminal below siblings = branch e siblings s rest := by
  induction rest generalizing siblings s with
  | nil => exact ⟨some e, nil, rfl, rfl⟩
  | cons s' rest ih =>
    obtain ⟨terminal, below, hplace, hbranch⟩ := ih nil s'
    refine ⟨none, cons s' terminal below nil, ?_, ?_⟩
    · simp [Node.place, visit, hplace]
    · rw [hbranch, branch]

/-- The walk below a node does what an insertion does, and nothing when that one fails. -/
theorem visit_place (es : Edges α) (s : Segment) (rest : List Segment) :
    es.visit (Node.place e rest) s = match es.insert e s rest with
      | .ok es' => (es', none)
      | .error clash => (es, some clash) := by
  fun_induction Edges.insert e es s rest with
  | case1 s rest =>
    obtain ⟨terminal, below, hplace, hbranch⟩ := place_fresh (e := e) nil s rest
    simp [visit, hplace, hbranch]
  | case2 below siblings s old => simp [visit, Node.place]
  | case3 below siblings s => simp [visit, Node.place]
  | case4 terminal below siblings s s' rest _ ih =>
    simp only [visit, Node.place, Segment.sameSlot_refl, if_true, ih]
    cases below.insert e s' rest <;> rfl
  | case5 t terminal below siblings s rest hslot hne => simp [visit, hslot, hne]
  | case6 t terminal below siblings s rest hslot hbefore =>
    obtain ⟨terminal', below', hplace, hbranch⟩ :=
      place_fresh (e := e) (cons t terminal below siblings) s rest
    simp [visit, hslot, hbefore, hplace, hbranch]
  | case7 t terminal below siblings s rest hslot hbehind ih =>
    simp only [visit, hslot, hbehind, ih]
    cases siblings.insert e s rest <;> rfl

end Edges

/-- To insert in place is to insert, and a failed insertion leaves the trie as it was. -/
theorem Trie.insertInPlace_eq (t : Trie α) (p : Pattern) (v : α) :
    t.insertInPlace p v = match t.insert p v with
      | .ok t' => (t', none)
      | .error e => (t, some e) := by
  cases hp : p.segments with
  | nil =>
    rw [insert_of_nil t hp]
    obtain ⟨root, edges, size⟩ := t
    cases root <;> simp [insertInPlace, Node.place, hp, Clash.toError]
  | cons s rest =>
    rw [insert_of_cons t hp]
    simp only [insertInPlace, hp, Node.place, Edges.visit_place]
    cases t.edges.insert ⟨p, v⟩ s rest <;> rfl

end Wayfinder.Route
