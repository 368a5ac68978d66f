import Mathlib.Algebra.BigOperators.Group.List.Basic
import Mathlib.Algebra.GroupWithZero.Nat
import Mathlib.Data.String.Basic
import Wayfinder.Http.Status
import Wayfinder.Metrics.Meter
import Wayfinder.Route.Pattern
/-!
# Tallies

What a meter shows of the passes that it has counted. Its counts by label stand in the order of the
labels, each label once, so that every pass is in one of them.
-/

namespace Wayfinder.Metrics

namespace Counts

def Sorted (cs : Counts) : Prop := cs.Pairwise fun a b => a.1 < b.1

variable {cs : Counts}

@[simp] theorem get_nil (label : String) : get [] label = 0 := rfl

theorem get_cons (e : String × Nat) (cs : Counts) (label : String) :
    get (e :: cs) label = if label = e.1 then e.2 else cs.get label := by
  obtain ⟨a, n⟩ := e
  by_cases h : label = a
  · simp [get, h]
  · have hne : (label == a) = false := beq_false_of_ne h
    simp [get, List.lookup_cons, hne, h]

theorem get_eq_zero {label : String} (h : ∀ e ∈ cs, e.1 ≠ label) : cs.get label = 0 := by
  induction cs with
  | nil => rfl
  | cons e rest ih =>
    obtain ⟨he, hrest⟩ := List.forall_mem_cons.1 h
    rw [get_cons, if_neg he.symm, ih hrest]

theorem Sorted.get_of_mem (h : cs.Sorted) {e : String × Nat} (he : e ∈ cs) : cs.get e.1 = e.2 := by
  induction cs with
  | nil => cases he
  | cons a rest ih =>
    obtain ⟨ha, hrest⟩ := List.pairwise_cons.1 h
    rw [get_cons]
    rcases List.mem_cons.1 he with rfl | hmem
    · rw [if_pos rfl]
    · rw [if_neg (ha e hmem).ne', ih hrest hmem]

theorem Sorted.filter_eq (h : cs.Sorted) {e : String × Nat} (he : e ∈ cs) :
    cs.filter (·.1 = e.1) = [e] := by
  induction cs with
  | nil => cases he
  | cons a rest ih =>
    obtain ⟨ha, hrest⟩ := List.pairwise_cons.1 h
    rcases List.mem_cons.1 he with rfl | hmem
    · have hnone : ∀ b ∈ rest, ¬ b.1 = e.1 := fun b hb => (ha b hb).ne'
      simpa using hnone
    · simpa [(ha e hmem).ne] using ih hrest hmem

theorem Sorted.nodup (h : cs.Sorted) : (cs.map Prod.fst).Nodup := by
  refine List.Pairwise.map Prod.fst (fun a b hab => ?_) h
  exact hab.ne

theorem label_of_mem_bump {label : String} {e : String × Nat} (he : e ∈ cs.bump label) :
    e.1 = label ∨ ∃ a ∈ cs, a.1 = e.1 := by
  induction cs with
  | nil => exact .inl (congrArg Prod.fst (List.mem_singleton.1 he))
  | cons a rest ih =>
    unfold bump at he
    split at he
    · rcases List.mem_cons.1 he with rfl | hmem
      · exact .inl rfl
      · exact .inr ⟨e, hmem, rfl⟩
    · split at he
      · rcases List.mem_cons.1 he with rfl | hmem
        · exact .inl rfl
        · exact .inr ⟨e, List.mem_cons_of_mem a hmem, rfl⟩
      · rcases List.mem_cons.1 he with rfl | hmem
        · exact .inr ⟨e, List.mem_cons_self, rfl⟩
        · exact (ih hmem).imp_right fun ⟨b, hb, hlabel⟩ => ⟨b, List.mem_cons_of_mem a hb, hlabel⟩

theorem Sorted.bump (h : cs.Sorted) (label : String) : (cs.bump label).Sorted := by
  induction cs with
  | nil => exact List.pairwise_singleton _ _
  | cons a rest ih =>
    obtain ⟨ha, hrest⟩ := List.pairwise_cons.1 h
    unfold Counts.bump
    split
    · next hlt =>
      refine List.pairwise_cons.2 ⟨fun b hb => ?_, h⟩
      rcases List.mem_cons.1 hb with rfl | hb
      · exact hlt
      · exact hlt.trans (ha b hb)
    · next hge =>
      split
      · next heq =>
        subst heq
        exact List.pairwise_cons.2 ⟨ha, hrest⟩
      · next hne =>
        have hlt : a.1 < label := lt_of_le_of_ne (not_lt.1 hge) (Ne.symm hne)
        refine List.pairwise_cons.2 ⟨fun b hb => ?_, ih hrest⟩
        rcases label_of_mem_bump hb with rfl | ⟨c, hc, hlabel⟩
        · exact hlt
        · exact hlabel ▸ ha c hc

theorem Sorted.get_bump (h : cs.Sorted) (label other : String) :
    (cs.bump label).get other = cs.get other + if other = label then 1 else 0 := by
  induction cs with
  | nil => simp [Counts.bump, get_cons]
  | cons a rest ih =>
    obtain ⟨ha, hrest⟩ := List.pairwise_cons.1 h
    unfold Counts.bump
    split
    · next hlt =>
      rw [get_cons]
      by_cases hother : other = label
      · subst hother
        -- the label is new, as it stands before all others
        have hnew : Counts.get (a :: rest) other = 0 := by
          refine get_eq_zero fun b hb => ?_
          rcases List.mem_cons.1 hb with rfl | hb
          · exact hlt.ne'
          · exact (hlt.trans (ha b hb)).ne'
        simp [hnew]
      · simp [hother]
    · split
      · next heq =>
        subst heq
        rw [get_cons, get_cons]
        by_cases hother : other = a.1 <;> simp [hother]
      · next hne =>
        rw [get_cons, get_cons, ih hrest]
        by_cases hother : other = a.1
        · have hother' : other ≠ label := fun heq => hne (heq.symm.trans hother)
          simp [hother, Ne.symm hne]
        · simp [hother]

theorem sum_bump (cs : Counts) (label : String) :
    ((cs.bump label).map Prod.snd).sum = (cs.map Prod.snd).sum + 1 := by
  induction cs with
  | nil => rfl
  | cons a rest ih =>
    unfold bump
    split
    · simp [Nat.add_comm]
    · split
      · simp; omega
      · simp [ih]; omega

end Counts

namespace Meters

variable (ms : Meters) (f : Meter → Meter) {name other : String}

theorem get_modify_same (name : String) : (ms.modify name f).get name = f (ms.get name) := by
  simp [modify, set, get]

theorem get_modify_of_ne (hne : other ≠ name) : (ms.modify name f).get other = ms.get other := by
  have hlookup : (ms.entries.filter fun e => e.1 ≠ name).lookup other =
      ms.entries.lookup other := by
    induction ms.entries with
    | nil => rfl
    | cons e rest ih =>
      obtain ⟨a, m⟩ := e
      by_cases ha : a = name
      · have hskip : (other == a) = false := beq_false_of_ne (ha ▸ hne)
        rw [List.filter_cons_of_neg (by simpa using ha), ih, List.lookup_cons, hskip]
      · rw [List.filter_cons_of_pos (by simpa using ha), List.lookup_cons, List.lookup_cons, ih]
  have hskip : (other == name) = false := beq_false_of_ne hne
  simp only [modify, set, get, List.lookup_cons, hskip, hlookup]

end Meters

/-! ## Passes -/

/-- A request that came back out of a stage that counts. -/
structure Pass where
  /-- The pattern of its route, if it has one. -/
  pattern : Option Route.Pattern
  status : Http.Status

namespace Pass

def label (pass : Pass) : String := (pass.pattern.map (·.raw)).getD Meter.unmatched

end Pass

theorem raw_ne_unmatched (p : Route.Pattern) : p.raw ≠ Meter.unmatched := by
  intro h
  have hread : Route.Pattern.read Meter.unmatched =
      .error (.malformed Meter.unmatched .missingSlash) := by rfl
  have hok := p.read_raw
  rw [h, hread] at hok
  cases hok

namespace Pass

variable (pass : Pass)

theorem label_eq_raw_iff (p : Route.Pattern) : pass.label = p.raw ↔ pass.pattern = some p := by
  cases hpattern : pass.pattern with
  | none => simp [label, hpattern, (raw_ne_unmatched p).symm]
  | some q =>
    have hraw : q.raw = p.raw ↔ q = p := ⟨Route.Pattern.ext_raw, congrArg _⟩
    simp [label, hpattern, hraw]

theorem label_eq_unmatched_iff : pass.label = Meter.unmatched ↔ pass.pattern = none := by
  cases hpattern : pass.pattern with
  | none => simp [label, hpattern]
  | some q => simp [label, hpattern, raw_ne_unmatched q]

end Pass

theorem sum_hundreds (s : Http.Status) :
    ((List.range' 1 5).map fun digit => if s.hundreds = digit then 1 else 0).sum =
      if s.code < 600 then 1 else 0 := by
  have hvalid := s.valid
  have hdigit : s.hundreds = s.code / 100 := rfl
  by_cases hcode : s.code < 600
  · have hcases : s.hundreds = 1 ∨ s.hundreds = 2 ∨ s.hundreds = 3 ∨ s.hundreds = 4 ∨
        s.hundreds = 5 := by omega
    rw [if_pos hcode]
    rcases hcases with h | h | h | h | h <;> rw [h] <;> rfl
  · have hne : ∀ digit ∈ List.range' 1 5, s.hundreds ≠ digit := by
      intro digit hmem
      have hrange := List.mem_range'_1.1 hmem
      omega
    rw [if_neg hcode, List.sum_eq_zero]
    intro n hn
    obtain ⟨digit, hmem, rfl⟩ := List.mem_map.1 hn
    rw [if_neg (hne digit hmem)]

namespace Meter

variable {m : Meter} {passes : List Pass}

theorem classCount_record (m : Meter) (d : Nat) (pattern : Option String)
    (latency : Number.Duration) (stackSize : Nat) {digit : Nat} (hdigit : 1 ≤ digit ∧ digit ≤ 5) :
    (m.record d pattern latency stackSize).classCount digit =
      m.classCount digit + if d = digit then 1 else 0 := by
  have hindex (n : Nat) (hn : 1 ≤ n ∧ n ≤ 5) : classIndex? n = some ⟨n - 1, by omega⟩ := dif_pos hn
  by_cases hd : 1 ≤ d ∧ d ≤ 5
  · have heq : d - 1 = digit - 1 ↔ d = digit := by omega
    simp only [classCount, record, hindex digit hdigit, hindex d hd, Fin.getElem_fin,
      Vector.getElem_set, heq]
    split
    · next h =>
      subst h
      rfl
    · rfl
  · have hnone : classIndex? d = none := dif_neg hd
    have hne : d ≠ digit := fun h => hd (h ▸ hdigit)
    simp [classCount, record, hnone, hne]

/-- What a meter shows after some passes. -/
structure Tallies (m : Meter) (passes : List Pass) : Prop where
  requests : m.requests = passes.length
  sorted : m.patterns.Sorted
  sum : (m.patterns.map Prod.snd).sum = passes.length
  count : ∀ label, m.patternCount label = passes.countP (·.label = label)
  classes : ∀ digit, 1 ≤ digit ∧ digit ≤ 5 →
    m.classCount digit = passes.countP (·.status.hundreds = digit)

namespace Tallies

theorem nil : ({} : Meter).Tallies [] where
  requests := rfl
  sorted := List.Pairwise.nil
  sum := rfl
  count _ := rfl
  classes digit hdigit := by
    have hindex : classIndex? digit = some ⟨digit - 1, by omega⟩ := dif_pos hdigit
    simp [classCount, hindex]

variable (h : m.Tallies passes)

include h

theorem record (pass : Pass) (latency : Number.Duration) (stackSize : Nat) :
    (m.record pass.status.hundreds (pass.pattern.map (·.raw)) latency stackSize).Tallies
      (passes ++ [pass]) where
  requests := by simp [Meter.record, h.requests]
  sorted := h.sorted.bump _
  sum := by simp only [Meter.record, Counts.sum_bump, h.sum, List.length_append, List.length_singleton]
  count label := by
    have hlabel : pass.label = label ↔ label = pass.label := eq_comm
    simp only [patternCount, Meter.record, h.sorted.get_bump, List.countP_append,
      List.countP_singleton]
    rw [← patternCount, h.count]
    simp only [decide_eq_true_eq, hlabel]
    rfl
  classes digit hdigit := by
    rw [classCount_record _ _ _ _ _ hdigit, h.classes digit hdigit, List.countP_append,
      List.countP_singleton]
    simp only [decide_eq_true_eq]

theorem patternCount_raw (p : Route.Pattern) :
    m.patternCount p.raw = passes.countP (·.pattern = some p) := by
  simp only [h.count, Pass.label_eq_raw_iff]

theorem patternCount_unmatched :
    m.patternCount unmatched = passes.countP (·.pattern = none) := by
  simp only [h.count, Pass.label_eq_unmatched_iff]

/-- Each label has one count, and these make up all requests. -/
theorem sum_patternCount : (m.patterns.map Prod.fst).Nodup ∧
    ((m.patterns.map Prod.fst).map m.patternCount).sum = m.requests ∧
    ∀ label ∉ m.patterns.map Prod.fst, m.patternCount label = 0 := by
  refine ⟨h.sorted.nodup, ?_, fun label hlabel => ?_⟩
  · have hcounts : (m.patterns.map Prod.fst).map m.patternCount = m.patterns.map Prod.snd := by
      rw [List.map_map]
      exact List.map_congr_left fun e he => h.sorted.get_of_mem he
    rw [hcounts, h.sum, h.requests]
  · refine Counts.get_eq_zero fun e he heq => hlabel ?_
    exact List.mem_map.2 ⟨e, he, heq⟩

/-- A status has one first digit, from 1 to 5 if its code is below 600. -/
theorem sum_classCount : ((List.range' 1 5).map m.classCount).sum =
    passes.countP (·.status.code < 600) := by
  have hclasses : (List.range' 1 5).map m.classCount =
      (List.range' 1 5).map fun digit => passes.countP (·.status.hundreds = digit) := by
    refine List.map_congr_left fun digit hdigit => h.classes digit ?_
    have hrange := List.mem_range'_1.1 hdigit
    omega
  rw [hclasses]
  clear h hclasses
  induction passes with
  | nil => rfl
  | cons pass rest ih =>
    simp only [List.countP_cons, decide_eq_true_eq, List.sum_map_add, ih, sum_hundreds]

end Tallies

end Meter

end Wayfinder.Metrics
