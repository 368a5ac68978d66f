import Mathlib.Data.List.Induction
import Mathlib.Logic.Relation
import Wayfinder.Context.Cancellation
/-!
# Families of tokens

All tokens of a family come from one new token, by deriving children and by cloning. How they are related is read off
the calls alone, without their flags. A token is cancelled exactly when some call has cancelled a twin of it or of one
of its ancestors.
-/

namespace Wayfinder.Context

/-- A call on one of the tokens made so far, which are numbered in the order of their making. -/
inductive TokenCall
  | child (parent : Nat)
  | clone (original : Nat)
  | cancel (token : Nat)

/-! ## How tokens are related -/

inductive Origin
  | new
  | child (parent : Nat)
  | clone (original : Nat)

namespace TokenCall

/-- The token that the call is made on. -/
def token : TokenCall → Nat
  | child i | clone i | cancel i => i

/-- The origin of the token that the call makes. -/
def makes : TokenCall → List Origin
  | child i => [.child i]
  | clone i => [.clone i]
  | cancel _ => []

/-- A call on a token that has not been made does nothing. -/
def record (os : List Origin) (call : TokenCall) : List Origin :=
  if call.token < os.length then os ++ call.makes else os

def origins (calls : List TokenCall) : List Origin := calls.foldl record [.new]

@[simp] theorem origins_append_singleton (calls : List TokenCall) (call : TokenCall) :
    origins (calls ++ [call]) = record (origins calls) call := by
  simp [origins]

/-- One of the calls cancels the token, which had been made by then. -/
def Cancels (calls : List TokenCall) (i : Nat) : Prop :=
  ∃ before after, calls = before ++ .cancel i :: after ∧ i < (origins before).length

theorem not_cancels_nil (i : Nat) : ¬ Cancels [] i := by
  rintro ⟨before, after, hcalls, -⟩
  simp at hcalls

theorem cancels_append_singleton_iff {calls : List TokenCall} {call : TokenCall} {i : Nat} :
    Cancels (calls ++ [call]) i ↔
      Cancels calls i ∨ call = .cancel i ∧ i < (origins calls).length := by
  constructor
  · rintro ⟨before, after, hcalls, hi⟩
    rcases after.eq_nil_or_concat with rfl | ⟨after, last, rfl⟩
    · obtain ⟨rfl, hcall⟩ := List.append_inj' hcalls rfl
      exact .inr ⟨(List.cons.inj hcall).1, hi⟩
    · rw [List.concat_eq_append, ← List.cons_append, ← List.append_assoc] at hcalls
      have hbefore : calls = before ++ .cancel i :: after := (List.append_inj' hcalls rfl).1
      exact .inl ⟨before, after, hbefore, hi⟩
  · rintro (⟨before, after, rfl, hi⟩ | ⟨rfl, hi⟩)
    · exact ⟨before, after ++ [call], by simp, hi⟩
    · exact ⟨calls, [], rfl, hi⟩

@[simp] theorem record_cancel (os : List Origin) (i : Nat) : record os (.cancel i) = os := by
  unfold record
  split <;> simp [makes]

theorem length_le_record (os : List Origin) (call : TokenCall) :
    os.length ≤ (record os call).length := by
  unfold record
  split <;> simp

theorem Cancels.lt {calls : List TokenCall} {i : Nat} (h : Cancels calls i) :
    i < (origins calls).length := by
  induction calls using List.reverseRecOn with
  | nil => exact (not_cancels_nil i h).elim
  | append_singleton calls call ih =>
    rw [origins_append_singleton]
    have hi : i < (origins calls).length := by
      rcases cancels_append_singleton_iff.1 h with h | ⟨-, hi⟩
      · exact ih h
      · exact hi
    exact Nat.lt_of_lt_of_le hi (length_le_record _ call)

end TokenCall

/-- Linked by steps of cloning, in either direction. -/
def Twins (os : List Origin) : Nat → Nat → Prop :=
  Relation.EqvGen fun i j => os[j]? = some (.clone i)

/-- A twin of `i` was derived from `p`. -/
def Parent (os : List Origin) (p i : Nat) : Prop :=
  ∃ j, Twins os j i ∧ os[j]? = some (.child p)

def Ancestor (os : List Origin) : Nat → Nat → Prop := Relation.TransGen (Parent os)

/-- Derived from the same token or from twins, and no twins themselves. -/
def Siblings (os : List Origin) (i j : Nat) : Prop :=
  ¬ Twins os i j ∧ ∃ p q, Parent os p i ∧ Parent os q j ∧ Twins os p q

/-- A twin of `i` or of one of its ancestors. -/
def Governs (os : List Origin) (u i : Nat) : Prop :=
  Twins os u i ∨ ∃ a, Ancestor os a i ∧ Twins os u a

section

variable {os : List Origin} {i j p : Nat}

theorem Twins.append (h : Twins os i j) (more : List Origin) : Twins (os ++ more) i j := by
  refine Relation.EqvGen.mono (fun a b hab => ?_) i j h
  obtain ⟨hb, -⟩ := List.getElem?_eq_some_iff.1 hab
  rwa [List.getElem?_append_left hb]

theorem Parent.append (h : Parent os p i) (more : List Origin) : Parent (os ++ more) p i := by
  obtain ⟨j, htwins, hj⟩ := h
  obtain ⟨hlt, -⟩ := List.getElem?_eq_some_iff.1 hj
  exact ⟨j, htwins.append more, by rwa [List.getElem?_append_left hlt]⟩

theorem twins_concat (os : List Origin) (i : Nat) : Twins (os ++ [.clone i]) i os.length :=
  .rel _ _ (by simp)

theorem Parent.twins (h : Parent os p i) (hij : Twins os i j) : Parent os p j := by
  obtain ⟨k, hk, horigin⟩ := h
  exact ⟨k, .trans _ _ _ hk hij, horigin⟩

end

/-! ## Tokens of related origin -/

theorem getElem?_concat_eq_some_iff {α : Type} {xs : List α} {x y : α} {i : Nat} :
    (xs ++ [x])[i]? = some y ↔ xs[i]? = some y ∨ i = xs.length ∧ x = y := by
  rcases Nat.lt_trichotomy i xs.length with hlt | rfl | hgt
  · simp [List.getElem?_append_left hlt, Nat.ne_of_lt hlt]
  · simp
  · have hout : xs[i]? = none := List.getElem?_eq_none (Nat.le_of_lt hgt)
    have hout' : (xs ++ [x])[i]? = none := List.getElem?_eq_none (by simp; omega)
    simp [hout, hout', Nat.ne_of_gt hgt]

theorem getElem?_concat_of_eq_some {α : Type} {xs : List α} {x y : α} {i : Nat}
    (h : xs[i]? = some y) : (xs ++ [x])[i]? = some y :=
  getElem?_concat_eq_some_iff.2 (.inl h)

/-- What the origin of a token says about its flags. -/
def Bears (ts : List Token) (i : Nat) : Origin → Prop
  | .new => ∃ g, ts[i]? = some ⟨g, []⟩
  | .child p => ∃ u g, ts[p]? = some u ∧ ts[i]? = some ⟨g, u.flag :: u.ancestors⟩
  | .clone j => ∃ t, ts[j]? = some t ∧ ts[i]? = some t

theorem Bears.concat {ts : List Token} {i : Nat} {o : Origin} (h : Bears ts i o) (t : Token) :
    Bears (ts ++ [t]) i o := by
  cases o with
  | new =>
    obtain ⟨g, hi⟩ := h
    exact ⟨g, getElem?_concat_of_eq_some hi⟩
  | child p =>
    obtain ⟨u, g, hp, hi⟩ := h
    exact ⟨u, g, getElem?_concat_of_eq_some hp, getElem?_concat_of_eq_some hi⟩
  | clone j =>
    obtain ⟨u, hj, hi⟩ := h
    exact ⟨u, getElem?_concat_of_eq_some hj, getElem?_concat_of_eq_some hi⟩

/-- Tokens that came to be in the given ways. A child has a flag that is greater than all others. -/
inductive Kin : List Token → List Origin → Prop
  | new (g : Nat) : Kin [⟨g, []⟩] [.new]
  | child {ts : List Token} {os : List Origin} {i g : Nat} {t : Token} :
      Kin ts os → ts[i]? = some t → (∀ u ∈ ts, u.flag < g) →
      Kin (ts ++ [⟨g, t.flag :: t.ancestors⟩]) (os ++ [.child i])
  | clone {ts : List Token} {os : List Origin} {i : Nat} {t : Token} :
      Kin ts os → ts[i]? = some t → Kin (ts ++ [t]) (os ++ [.clone i])

namespace Kin

variable {ts : List Token} {os : List Origin}

theorem length_eq (h : Kin ts os) : ts.length = os.length := by
  induction h with
  | new => rfl
  | child _ _ _ ih => simp [ih]
  | clone _ _ ih => simp [ih]

theorem ancestors_lt (h : Kin ts os) : ∀ t ∈ ts, ∀ g ∈ t.ancestors, g < t.flag := by
  induction h with
  | new g => simp
  | @child ts os i g t _ hi hlt ih =>
    intro u hu f hf
    rcases List.mem_append.1 hu with hu | hu
    · exact ih u hu f hf
    · obtain rfl := List.mem_singleton.1 hu
      have ht : t ∈ ts := List.mem_of_getElem? hi
      rcases List.mem_cons.1 hf with rfl | hf
      · exact hlt t ht
      · exact Nat.lt_trans (ih t ht f hf) (hlt t ht)
  | @clone ts os i t _ hi ih =>
    intro u hu
    rcases List.mem_append.1 hu with hu | hu
    · exact ih u hu
    · obtain rfl := List.mem_singleton.1 hu
      exact ih u (List.mem_of_getElem? hi)

/-- Each token is what its origin says. -/
theorem bears (h : Kin ts os) {i : Nat} {o : Origin} (hi : os[i]? = some o) : Bears ts i o := by
  induction h with
  | new g =>
    cases i with
    | zero =>
      cases hi
      exact ⟨g, rfl⟩
    | succ i => cases hi
  | @child ts os p g t hk hp hlt ih =>
    rcases getElem?_concat_eq_some_iff.1 hi with hold | ⟨rfl, rfl⟩
    · exact (ih hold).concat _
    · exact ⟨t, g, getElem?_concat_of_eq_some hp, by simp [← hk.length_eq]⟩
  | @clone ts os j t hk hj ih =>
    rcases getElem?_concat_eq_some_iff.1 hi with hold | ⟨rfl, rfl⟩
    · exact (ih hold).concat _
    · exact ⟨t, getElem?_concat_of_eq_some hj, by simp [← hk.length_eq]⟩

theorem eq_of_twins (h : Kin ts os) {i j : Nat} (hij : Twins os i j) : ts[i]? = ts[j]? := by
  induction hij with
  | rel i j hj =>
    obtain ⟨t, hi, hj⟩ := h.bears hj
    rw [hi, hj]
  | refl i => rfl
  | symm i j _ ih => exact ih.symm
  | trans i j k _ _ hij hjk => exact hij.trans hjk

theorem exists_of_parent (h : Kin ts os) {i p : Nat} (hp : Parent os p i) :
    ∃ u g, ts[p]? = some u ∧ ts[i]? = some ⟨g, u.flag :: u.ancestors⟩ := by
  obtain ⟨j, htwins, hj⟩ := hp
  rw [← h.eq_of_twins htwins]
  exact h.bears hj

theorem exists_of_ancestor (h : Kin ts os) {a i : Nat} (ha : Ancestor os a i) :
    ∃ u t, ts[a]? = some u ∧ ts[i]? = some t ∧ u.flag ∈ t.ancestors := by
  induction ha with
  | single hp =>
    obtain ⟨u, g, hu, hi⟩ := h.exists_of_parent hp
    exact ⟨u, _, hu, hi, by simp⟩
  | tail _ hp ih =>
    obtain ⟨u, t, hu, ht, hmem⟩ := ih
    obtain ⟨t', g, ht', hi⟩ := h.exists_of_parent hp
    obtain rfl : t = t' := Option.some.inj (ht.symm.trans ht')
    exact ⟨u, _, hu, hi, List.mem_cons_of_mem _ hmem⟩

theorem twins_of_flag_eq (h : Kin ts os) {i j : Nat} {t u : Token} (hi : ts[i]? = some t)
    (hj : ts[j]? = some u) (hflag : t.flag = u.flag) : Twins os i j := by
  induction h generalizing i j t u with
  | new g =>
    have hi0 : i = 0 := by cases i with
      | zero => rfl
      | succ i => cases hi
    have hj0 : j = 0 := by cases j with
      | zero => rfl
      | succ j => cases hj
    subst hi0 hj0
    exact .refl 0
  | @child ts os k g w hk hp hlt ih =>
    rcases getElem?_concat_eq_some_iff.1 hi with hti | ⟨rfl, rfl⟩ <;>
      rcases getElem?_concat_eq_some_iff.1 hj with htj | ⟨rfl, rfl⟩
    · exact (ih hti htj hflag).append _
    · exact (Nat.ne_of_lt (hlt t (List.mem_of_getElem? hti)) hflag).elim
    · exact (Nat.ne_of_lt (hlt u (List.mem_of_getElem? htj)) hflag.symm).elim
    · exact .refl _
  | @clone ts os k w hk hp ih =>
    -- the new token is the one that it was cloned from, and linked to it
    have hlink : Twins (os ++ [.clone k]) k ts.length := hk.length_eq ▸ twins_concat os k
    rcases getElem?_concat_eq_some_iff.1 hi with hti | ⟨rfl, rfl⟩ <;>
      rcases getElem?_concat_eq_some_iff.1 hj with htj | ⟨rfl, rfl⟩
    · exact (ih hti htj hflag).append _
    · exact .trans _ _ _ ((ih hti hp hflag).append _) hlink
    · exact .trans _ _ _ (.symm _ _ hlink) ((ih hp htj hflag).append _)
    · exact .refl _

theorem exists_parent (h : Kin ts os) {i : Nat} {t : Token} (hi : ts[i]? = some t) {g : Nat}
    {above : List Nat} (ht : t.ancestors = g :: above) :
    ∃ p, Parent os p i ∧ ts[p]? = some ⟨g, above⟩ := by
  induction h generalizing i t with
  | new f =>
    cases i with
    | zero =>
      cases hi
      cases ht
    | succ i => cases hi
  | @child ts os k f w hk hp hlt ih =>
    rcases getElem?_concat_eq_some_iff.1 hi with hold | ⟨rfl, rfl⟩
    · obtain ⟨p, hparent, htp⟩ := ih hold ht
      exact ⟨p, hparent.append _, getElem?_concat_of_eq_some htp⟩
    · cases ht
      refine ⟨k, ⟨ts.length, .refl _, ?_⟩, getElem?_concat_of_eq_some hp⟩
      exact getElem?_concat_eq_some_iff.2 (.inr ⟨hk.length_eq, rfl⟩)
  | @clone ts os k w hk hp ih =>
    rcases getElem?_concat_eq_some_iff.1 hi with hold | ⟨rfl, rfl⟩
    · obtain ⟨p, hparent, htp⟩ := ih hold ht
      exact ⟨p, hparent.append _, getElem?_concat_of_eq_some htp⟩
    · obtain ⟨p, hparent, htp⟩ := ih hp ht
      have hlink : Twins (os ++ [.clone k]) k ts.length := hk.length_eq ▸ twins_concat os k
      exact ⟨p, (hparent.append _).twins hlink, getElem?_concat_of_eq_some htp⟩

theorem exists_ancestor (h : Kin ts os) {i : Nat} {t : Token} (hi : ts[i]? = some t) {g : Nat}
    (hg : g ∈ t.ancestors) : ∃ a u, Ancestor os a i ∧ ts[a]? = some u ∧ u.flag = g := by
  generalize habove : t.ancestors = above at hg
  induction above generalizing i t with
  | nil => cases hg
  | cons f above ih =>
    obtain ⟨p, hparent, hp⟩ := h.exists_parent hi habove
    rcases List.mem_cons.1 hg with rfl | hg
    · exact ⟨p, _, .single hparent, hp, rfl⟩
    · obtain ⟨a, u, hancestor, ha, hflag⟩ := ih hp rfl hg
      exact ⟨a, u, .tail hancestor hparent, ha, hflag⟩

/-- A token sees just the flags of those that govern it. -/
theorem governs_iff (h : Kin ts os) {i j : Nat} {t u : Token} (hi : ts[i]? = some t)
    (hj : ts[j]? = some u) : Governs os j i ↔ u.flag ∈ t.flag :: t.ancestors := by
  constructor
  · rintro (htwins | ⟨a, hancestor, htwins⟩)
    · have heq : u = t := Option.some.inj (hj.symm.trans ((h.eq_of_twins htwins).trans hi))
      exact heq ▸ List.mem_cons_self
    · obtain ⟨w, t', ha, hi', hmem⟩ := h.exists_of_ancestor hancestor
      obtain rfl : t = t' := Option.some.inj (hi.symm.trans hi')
      have heq : u = w := Option.some.inj (hj.symm.trans ((h.eq_of_twins htwins).trans ha))
      exact List.mem_cons_of_mem _ (heq ▸ hmem)
  · intro hmem
    rcases List.mem_cons.1 hmem with hflag | hmem
    · exact .inl (h.twins_of_flag_eq hj hi hflag)
    · obtain ⟨a, w, hancestor, ha, hflag⟩ := h.exists_ancestor hi hmem
      exact .inr ⟨a, hancestor, h.twins_of_flag_eq hj ha hflag.symm⟩

theorem exists_of_governs (h : Kin ts os) {i j : Nat} (hgoverns : Governs os j i) {u : Token}
    (hj : ts[j]? = some u) : ∃ t, ts[i]? = some t := by
  rcases hgoverns with htwins | ⟨a, hancestor, -⟩
  · exact ⟨u, (h.eq_of_twins htwins).symm.trans hj⟩
  · obtain ⟨-, t, -, hi, -⟩ := h.exists_of_ancestor hancestor
    exact ⟨t, hi⟩

theorem not_governs_of_ancestor (h : Kin ts os) {a i : Nat} (ha : Ancestor os a i) :
    ¬ Governs os i a := by
  obtain ⟨u, t, hu, ht, hmem⟩ := h.exists_of_ancestor ha
  intro hgoverns
  have hlt : u.flag < t.flag := h.ancestors_lt t (List.mem_of_getElem? ht) _ hmem
  rcases List.mem_cons.1 ((h.governs_iff hu ht).1 hgoverns) with heq | hmem'
  · omega
  · have hlt' : t.flag < u.flag := h.ancestors_lt u (List.mem_of_getElem? hu) _ hmem'
    omega

theorem not_governs_of_siblings (h : Kin ts os) {i j : Nat} (hij : Siblings os i j) :
    ¬ Governs os i j := by
  obtain ⟨hij, p, q, hi, hj, hpq⟩ := hij
  obtain ⟨u, f, hu, hti⟩ := h.exists_of_parent hi
  obtain ⟨w, g, hw, htj⟩ := h.exists_of_parent hj
  obtain rfl : u = w := Option.some.inj (hu.symm.trans ((h.eq_of_twins hpq).trans hw))
  intro hgoverns
  rcases List.mem_cons.1 ((h.governs_iff htj hti).1 hgoverns) with heq | hmem
  · exact hij (h.twins_of_flag_eq hti htj heq)
  · -- both have the same ancestors, and none of these has the flag of a descendant
    exact Nat.lt_irrefl f (h.ancestors_lt _ (List.mem_of_getElem? hti) f hmem)

end Kin

/-! ## What the calls do to flags -/

theorem Flags.isCancelled_childToken {fs : Flags} (h : fs.count ∉ fs.raised) (t : Token) :
    (fs.childToken t).2.isCancelled (fs.childToken t).1 = fs.isCancelled t := by
  have hnew : (fs.childToken t).2.isCancelled (fs.childToken t).1 =
      (decide (fs.count ∈ fs.raised) || fs.isCancelled t) := rfl
  rw [hnew, decide_eq_false h, Bool.false_or]

structure Family where
  flags : Flags
  tokens : List Token

namespace Family

open TokenCall (Cancels cancels_append_singleton_iff not_cancels_nil origins origins_append_singleton record)

/-- A call on the token `t`. A clone is the same token once more. -/
def act (f : Family) (t : Token) : TokenCall → Family
  | .child _ => ⟨(f.flags.childToken t).2, f.tokens ++ [(f.flags.childToken t).1]⟩
  | .clone _ => { f with tokens := f.tokens ++ [t] }
  | .cancel _ => { f with flags := f.flags.cancel t }

def step (f : Family) (call : TokenCall) : Family :=
  match f.tokens[call.token]? with
  | some t => f.act t call
  | none => f

/-- The family of one new token after some calls. -/
def run (calls : List TokenCall) : Family :=
  calls.foldl step ⟨(Flags.newToken {}).2, [(Flags.newToken {}).1]⟩

@[simp] theorem run_append_singleton (calls : List TokenCall) (call : TokenCall) :
    run (calls ++ [call]) = (run calls).step call := by
  simp [run]

/-- Whether a token has been made and is cancelled. -/
def isCancelled (f : Family) (i : Nat) : Bool := f.tokens[i]?.any f.flags.isCancelled

theorem isCancelled_eq {f : Family} {i : Nat} {t : Token} (h : f.tokens[i]? = some t) :
    f.isCancelled i = f.flags.isCancelled t := by
  rw [isCancelled, h, Option.any_some]

/-- The tokens are those that the calls make, and the raised flags those of tokens that the calls cancel. -/
structure Keeps (f : Family) (calls : List TokenCall) : Prop where
  kin : Kin f.tokens (origins calls)
  flag_lt : ∀ t ∈ f.tokens, t.flag < f.flags.count
  raised_iff : ∀ g, g ∈ f.flags.raised ↔
    ∃ i t, Cancels calls i ∧ f.tokens[i]? = some t ∧ t.flag = g

namespace Keeps

variable {f : Family} {calls : List TokenCall}

/-- One token more does not change which flags are raised. -/
theorem raised_iff_concat (h : f.Keeps calls) {call : TokenCall} (hcall : ∀ i, call ≠ .cancel i)
    (t : Token) (g : Nat) : g ∈ f.flags.raised ↔
      ∃ i u, Cancels (calls ++ [call]) i ∧ (f.tokens ++ [t])[i]? = some u ∧ u.flag = g := by
  rw [h.raised_iff]
  constructor
  · rintro ⟨i, u, hi, hu, rfl⟩
    exact ⟨i, u, cancels_append_singleton_iff.2 (.inl hi),
      getElem?_concat_of_eq_some hu, rfl⟩
  · rintro ⟨i, u, hi, hu, rfl⟩
    have hi : Cancels calls i := by
      rcases cancels_append_singleton_iff.1 hi with hi | ⟨hcancel, -⟩
      · exact hi
      · exact (hcall i hcancel).elim
    rcases getElem?_concat_eq_some_iff.1 hu with hu | ⟨rfl, -⟩
    · exact ⟨i, u, hi, hu, rfl⟩
    · exact (Nat.ne_of_lt hi.lt h.kin.length_eq).elim

theorem step_of_none (h : f.Keeps calls) {call : TokenCall} (hcall : f.tokens[call.token]? = none) :
    (f.step call).Keeps (calls ++ [call]) := by
  have hout : ¬ call.token < (origins calls).length := by
    rw [← h.kin.length_eq, Nat.not_lt]
    exact List.getElem?_eq_none_iff.1 hcall
  have hcancels : ∀ i, Cancels (calls ++ [call]) i ↔ Cancels calls i := by
    intro i
    rw [cancels_append_singleton_iff, or_iff_left]
    rintro ⟨rfl, hi⟩
    exact hout hi
  have horigins : origins (calls ++ [call]) = origins calls := by
    rw [origins_append_singleton, record, if_neg hout]
  have hstep : f.step call = f := by rw [Family.step, hcall]
  rw [hstep]
  refine ⟨horigins ▸ h.kin, h.flag_lt, fun g => ?_⟩
  simp only [hcancels, h.raised_iff]

theorem step_of_some (h : f.Keeps calls) {call : TokenCall} {t : Token}
    (hcall : f.tokens[call.token]? = some t) : (f.step call).Keeps (calls ++ [call]) := by
  have hin : call.token < (origins calls).length := by
    obtain ⟨hlt, -⟩ := List.getElem?_eq_some_iff.1 hcall
    exact h.kin.length_eq ▸ hlt
  have horigins : origins (calls ++ [call]) = origins calls ++ call.makes := by
    rw [origins_append_singleton, record, if_pos hin]
  have hstep : f.step call = f.act t call := by rw [Family.step, hcall]
  rw [hstep]
  cases call with
  | child i =>
    refine ⟨horigins ▸ .child h.kin hcall h.flag_lt, fun u hu => ?_,
      h.raised_iff_concat (by simp) _⟩
    rcases List.mem_append.1 hu with hu | hu
    · exact Nat.lt_succ_of_lt (h.flag_lt u hu)
    · obtain rfl := List.mem_singleton.1 hu
      exact Nat.lt_succ_self _
  | clone i =>
    refine ⟨horigins ▸ .clone h.kin hcall, fun u hu => ?_, h.raised_iff_concat (by simp) _⟩
    rcases List.mem_append.1 hu with hu | hu
    · exact h.flag_lt u hu
    · obtain rfl := List.mem_singleton.1 hu
      exact h.flag_lt u (List.mem_of_getElem? hcall)
  | cancel i =>
    have hsame : origins (calls ++ [.cancel i]) = origins calls := by simp
    refine ⟨hsame ▸ h.kin, h.flag_lt, fun g => ?_⟩
    have hraised : g ∈ (f.act t (.cancel i)).flags.raised ↔ g = t.flag ∨ g ∈ f.flags.raised :=
      List.mem_cons
    rw [hraised, h.raised_iff]
    constructor
    · rintro (rfl | ⟨j, u, hj, hu, rfl⟩)
      · exact ⟨i, t, cancels_append_singleton_iff.2 (.inr ⟨rfl, hin⟩), hcall, rfl⟩
      · exact ⟨j, u, cancels_append_singleton_iff.2 (.inl hj), hu, rfl⟩
    · rintro ⟨j, u, hj, hu, rfl⟩
      rcases cancels_append_singleton_iff.1 hj with hj | ⟨heq, -⟩
      · exact .inr ⟨j, u, hj, hu, rfl⟩
      · cases heq
        obtain rfl : u = t := Option.some.inj (hu.symm.trans hcall)
        exact .inl rfl

theorem count_notMem_raised (h : f.Keeps calls) : f.flags.count ∉ f.flags.raised := by
  intro hraised
  obtain ⟨i, t, -, ht, heq⟩ := (h.raised_iff _).1 hraised
  exact Nat.ne_of_lt (h.flag_lt t (List.mem_of_getElem? ht)) heq

theorem step (h : f.Keeps calls) (call : TokenCall) : (f.step call).Keeps (calls ++ [call]) := by
  cases hcall : f.tokens[call.token]? with
  | none => exact h.step_of_none hcall
  | some t => exact h.step_of_some hcall

end Keeps

theorem keeps_run (calls : List TokenCall) : (run calls).Keeps calls := by
  induction calls using List.reverseRecOn with
  | nil =>
    refine ⟨.new 0, by simp [run, Flags.newToken], fun g => ?_⟩
    simp [run, Flags.newToken, not_cancels_nil]
  | append_singleton calls call ih =>
    rw [run_append_singleton]
    exact ih.step call

/-! ## Who is cancelled -/

theorem isCancelled_eq_true_iff {f : Family} {i : Nat} : f.isCancelled i = true ↔
    ∃ t, f.tokens[i]? = some t ∧ ∃ g ∈ t.flag :: t.ancestors, g ∈ f.flags.raised := by
  rw [isCancelled, Option.any_eq_true]
  simp only [Flags.isCancelled, List.any_eq_true, decide_eq_true_eq]

theorem isCancelled_run_iff (calls : List TokenCall) (i : Nat) :
    (run calls).isCancelled i = true ↔ ∃ u, Cancels calls u ∧ Governs (origins calls) u i := by
  have h := keeps_run calls
  rw [isCancelled_eq_true_iff]
  constructor
  · rintro ⟨t, ht, g, hg, hraised⟩
    obtain ⟨u, w, hu, hw, rfl⟩ := (h.raised_iff g).1 hraised
    exact ⟨u, hu, (h.kin.governs_iff ht hw).2 hg⟩
  · rintro ⟨u, hu, hgoverns⟩
    have hlt : u < (run calls).tokens.length := h.kin.length_eq ▸ hu.lt
    have hw := List.getElem?_eq_getElem hlt
    obtain ⟨t, ht⟩ := h.kin.exists_of_governs hgoverns hw
    exact ⟨t, ht, _, (h.kin.governs_iff ht hw).1 hgoverns, (h.raised_iff _).2 ⟨u, _, hu, hw, rfl⟩⟩

/-- No call lowers a flag or takes a token away. -/
theorem isCancelled_step {f : Family} {i : Nat} (h : f.isCancelled i = true) (call : TokenCall) :
    (f.step call).isCancelled i = true := by
  obtain ⟨t, ht, g, hg, hraised⟩ := isCancelled_eq_true_iff.1 h
  rw [isCancelled_eq_true_iff]
  unfold step
  split
  · next w hw =>
    cases call with
    | child j => exact ⟨t, getElem?_concat_of_eq_some ht, g, hg, hraised⟩
    | clone j => exact ⟨t, getElem?_concat_of_eq_some ht, g, hg, hraised⟩
    | cancel j => exact ⟨t, ht, g, hg, List.mem_cons_of_mem _ hraised⟩
  · exact ⟨t, ht, g, hg, hraised⟩

theorem isCancelled_run_append {calls : List TokenCall} {i : Nat}
    (h : (run calls).isCancelled i = true) (more : List TokenCall) :
    (run (calls ++ more)).isCancelled i = true := by
  induction more using List.reverseRecOn with
  | nil => simpa using h
  | append_singleton more call ih =>
    rw [← List.append_assoc, run_append_singleton]
    exact isCancelled_step ih call

/-- A token starts as the one is that it is made from. -/
theorem isCancelled_made (calls : List TokenCall) {call : TokenCall} (hcall : call.makes ≠ []) :
    (run (calls ++ [call])).isCancelled (origins calls).length =
      (run calls).isCancelled call.token := by
  have h := keeps_run calls
  rw [run_append_singleton, step, ← h.kin.length_eq]
  cases htoken : (run calls).tokens[call.token]? with
  | none => simp [isCancelled, htoken]
  | some t =>
    rw [isCancelled_eq htoken]
    cases call with
    | child i =>
      have hmade : ((run calls).act t (.child i)).tokens[(run calls).tokens.length]? =
          some ((run calls).flags.childToken t).1 := by simp [act]
      rw [isCancelled_eq hmade]
      exact Flags.isCancelled_childToken h.count_notMem_raised t
    | clone i =>
      have hmade : ((run calls).act t (.clone i)).tokens[(run calls).tokens.length]? = some t := by
        simp [act]
      exact isCancelled_eq hmade
    | cancel i => exact (hcall rfl).elim

theorem isCancelled_of_not_governs (calls : List TokenCall) {i j : Nat}
    (h : ¬ Governs (origins calls) i j) :
    (run (calls ++ [.cancel i])).isCancelled j = (run calls).isCancelled j := by
  rw [Bool.eq_iff_iff, isCancelled_run_iff, isCancelled_run_iff, origins_append_singleton,
    TokenCall.record_cancel]
  constructor
  · rintro ⟨u, hu, hgoverns⟩
    rcases cancels_append_singleton_iff.1 hu with hu | ⟨heq, -⟩
    · exact ⟨u, hu, hgoverns⟩
    · cases heq
      exact (h hgoverns).elim
  · rintro ⟨u, hu, hgoverns⟩
    exact ⟨u, cancels_append_singleton_iff.2 (.inl hu), hgoverns⟩

/-- After any calls on one new token and what is made from it, a token is cancelled exactly when some call has
cancelled a twin of it or of one of its ancestors. So no further calls undo it, a token starts as the one is that it is
made from, and to cancel a token changes none but its twins and their descendants: no ancestor and no sibling. -/
theorem cancellation_descends (calls : List TokenCall) :
    let os := origins calls
    (run calls).tokens.length = os.length ∧
    (∀ i, (run calls).isCancelled i = true ↔
      ∃ u, Cancels calls u ∧ (Twins os u i ∨ ∃ a, Ancestor os a i ∧ Twins os u a)) ∧
    (∀ i more, (run calls).isCancelled i = true → (run (calls ++ more)).isCancelled i = true) ∧
    (∀ call, call.makes ≠ [] →
      (run (calls ++ [call])).isCancelled os.length = (run calls).isCancelled call.token) ∧
    (∀ i j, ¬ (Twins os i j ∨ ∃ a, Ancestor os a j ∧ Twins os i a) →
      (run (calls ++ [.cancel i])).isCancelled j = (run calls).isCancelled j) ∧
    ∀ i j, Ancestor os j i ∨ Siblings os i j →
      (run (calls ++ [.cancel i])).isCancelled j = (run calls).isCancelled j := by
  intro os
  have h := keeps_run calls
  refine ⟨h.kin.length_eq, fun i => isCancelled_run_iff calls i,
    fun i more hi => isCancelled_run_append hi more,
    fun call hcall => isCancelled_made calls hcall,
    fun i j hij => isCancelled_of_not_governs calls hij, fun i j hij => ?_⟩
  refine isCancelled_of_not_governs calls ?_
  rcases hij with hancestor | hsiblings
  · exact h.kin.not_governs_of_ancestor hancestor
  · exact h.kin.not_governs_of_siblings hsiblings

example : let calls : List TokenCall := [.child 0, .child 1, .cancel 2, .clone 1]
    (List.range 4).map (run calls).isCancelled = [false, false, true, false] ∧
    (List.range 4).map (run (calls ++ [.cancel 0])).isCancelled = [true, true, true, true] := by
  decide

end Family

end Wayfinder.Context
