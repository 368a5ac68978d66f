import Mathlib.Data.List.Basic
import Wayfinder.Proofs.Route.Fit
/-!
# What reading a pattern guarantees

A pattern that was read has its wildcard at the end, binds no name twice, and gives no
parameter the name of the wildcard.
-/

namespace Wayfinder.Route

theorem except_bind_eq_ok {ε β γ : Type} {x : Except ε β} {f : β → Except ε γ} {c : γ} :
    (x >>= f) = .ok c ↔ ∃ b, x = .ok b ∧ f b = .ok c := by
  cases x <;> simp [bind, Except.bind]

theorem except_mapError_eq_ok {ε ε' β : Type} {x : Except ε β} {f : ε → ε'} {b : β} :
    x.mapError f = .ok b ↔ x = .ok b := by
  cases x <;> simp [Except.mapError]

theorem except_bind_eq_error {ε β γ : Type} {x : Except ε β} {f : β → Except ε γ} {e : ε} :
    x >>= f = .error e ↔ x = .error e ∨ ∃ b, x = .ok b ∧ f b = .error e := by
  cases x <;> simp [bind, Except.bind]

theorem except_mapError_eq_error {ε ε' β : Type} {x : Except ε β} {f : ε → ε'} {e' : ε'} :
    x.mapError f = .error e' ↔ ∃ e, x = .error e ∧ f e = e' := by
  cases x <;> simp [Except.mapError]

namespace Pattern

theorem parse_raw (p : Pattern) : parse p.raw = .ok p := by
  unfold parse
  split
  · next segments h =>
    obtain rfl := Except.ok.inj (h.symm.trans p.read_raw)
    rfl
  · next e h => cases h.symm.trans p.read_raw

/-- When reading succeeds, all pieces were read and no name was found a second time. -/
theorem read_eq_ok {raw : String} {segments : List Segment} (h : read raw = .ok segments) :
    (∃ pieces, readPieces raw pieces = .ok segments) ∧
      firstRepeated [] (segments.filterMap Segment.name?) = none := by
  unfold read at h
  split at h
  · cases h
  · split at h
    · cases h
      exact ⟨⟨[], rfl⟩, rfl⟩
    · obtain ⟨all, hpieces, hnames⟩ := except_bind_eq_ok.1 h
      dsimp only at hnames
      obtain ⟨pieces, _, hread⟩ := except_bind_eq_ok.1 hpieces
      split at hnames
      · cases hnames
      · next hnone =>
        cases hnames
        exact ⟨⟨pieces, hread⟩, hnone⟩
  · cases h

/-! ## Pieces -/

theorem readParam_name {piece rest : List Char} {s : Segment} (h : readParam piece rest = .ok s) :
    ∃ name, s.name? = some (String.ofList name) ∧ isName name = true := by
  unfold readParam at h
  split at h
  · obtain ⟨_, hname, hs⟩ := except_bind_eq_ok.1 h
    cases hs
    exact ⟨_, rfl, by by_contra hno; simp [hno] at hname⟩
  · split at h
    · obtain ⟨_, hname, hs⟩ := except_bind_eq_ok.1 h
      have hvalid : isName (rest.takeWhile (· != '(')) = true := by
        by_contra hno
        simp [hno] at hname
      dsimp only at hs
      split at hs
      · cases hs
      · split at hs <;> cases hs
        exact ⟨_, rfl, hvalid⟩
    · cases h

theorem readPiece_name {piece : List Char} {s : Segment} (h : readPiece piece = .ok s)
    {name : String} (hname : s.name? = some name) : isName name.toList = true := by
  unfold readPiece at h
  split at h
  · cases h
  · cases h
    cases hname
  · obtain ⟨chars, hchars, hvalid⟩ := readParam_name h
    obtain rfl := Option.some.inj (hname.symm.trans hchars)
    simpa using hvalid
  · split at h <;> cases h
    cases hname

theorem readPiece_literal {piece : List Char} {text : String}
    (h : readPiece piece = .ok (.literal text)) : text ≠ "" := by
  unfold readPiece at h
  split at h
  · cases h
  · cases h
  · obtain ⟨_, hname, -⟩ := readParam_name h
    cases hname
  · next hne _ _ =>
    split at h <;> cases h
    simpa using hne

/-- Reading the pieces reads each of them, and stops at a wildcard before the end. -/
theorem readPieces_cons {raw : String} {piece : List Char} {pieces : List (List Char)}
    {segments : List Segment} (h : readPieces raw (piece :: pieces) = .ok segments) :
    ∃ s rest, segments = s :: rest ∧ readPiece piece = .ok s ∧ readPieces raw pieces = .ok rest ∧
      (s = .wildcard → rest = []) := by
  rw [readPieces] at h
  obtain ⟨s, hs, h⟩ := except_bind_eq_ok.1 h
  split at h
  · cases h
  · next hlast =>
    obtain ⟨rest, hrest, h⟩ := except_bind_eq_ok.1 h
    cases h
    refine ⟨s, rest, rfl, except_mapError_eq_ok.1 hs, hrest, ?_⟩
    rintro rfl
    have hpieces : pieces = [] := by simpa [Segment.isWildcard] using hlast
    subst hpieces
    cases hrest
    rfl

theorem readPieces_wildcardLast {raw : String} {pieces : List (List Char)}
    {segments : List Segment} (h : readPieces raw pieces = .ok segments) :
    WildcardLast segments := by
  induction pieces generalizing segments with
  | nil =>
    cases h
    simp [WildcardLast]
  | cons piece pieces ih =>
    obtain ⟨s, rest, rfl, _, hrest, hlast⟩ := readPieces_cons h
    cases rest with
    | nil => simp [WildcardLast]
    | cons s' rest =>
      have hs : s ≠ .wildcard := fun hs => by simpa using hlast hs
      simpa [WildcardLast, Ne.symm hs] using ih hrest

theorem exists_piece_of_mem {raw : String} {pieces : List (List Char)} {segments : List Segment}
    (h : readPieces raw pieces = .ok segments) {s : Segment} (hs : s ∈ segments) :
    ∃ piece, readPiece piece = .ok s := by
  induction pieces generalizing segments with
  | nil =>
    cases h
    cases hs
  | cons piece pieces ih =>
    obtain ⟨s', rest, rfl, hpiece, hrest, _⟩ := readPieces_cons h
    rcases List.mem_cons.1 hs with rfl | hs
    · exact ⟨piece, hpiece⟩
    · exact ih hrest hs

/-! ## Names -/

theorem firstRepeated_eq_none {seen names : List String} (h : firstRepeated seen names = none) :
    names.Nodup ∧ ∀ name ∈ names, name ∉ seen := by
  induction names generalizing seen with
  | nil => simp
  | cons name names ih =>
    rw [firstRepeated] at h
    split at h
    · cases h
    · next hnew =>
      obtain ⟨hnodup, hseen⟩ := ih h
      refine ⟨List.nodup_cons.2 ⟨fun hmem => hseen name hmem (by simp), hnodup⟩, ?_⟩
      intro other hother
      rcases List.mem_cons.1 hother with rfl | hother
      · exact hnew
      · exact fun hmem => hseen other hother (List.mem_cons_of_mem _ hmem)

theorem isName_wildcardName : isName Params.wildcardName.toList = false := by
  decide

variable (p : Pattern)

theorem wildcardLast : WildcardLast p.segments := by
  obtain ⟨_, h⟩ := (read_eq_ok p.read_raw).1
  exact readPieces_wildcardLast h

theorem literal_ne_empty {text : String} (htext : .literal text ∈ p.segments) : text ≠ "" := by
  obtain ⟨_, h⟩ := (read_eq_ok p.read_raw).1
  obtain ⟨_, hpiece⟩ := exists_piece_of_mem h htext
  exact readPiece_literal hpiece

theorem nodup_names : (p.segments.filterMap Segment.name?).Nodup :=
  (firstRepeated_eq_none (read_eq_ok p.read_raw).2).1

theorem wildcardName_notMem_names :
    Params.wildcardName ∉ p.segments.filterMap Segment.name? := by
  obtain ⟨_, h⟩ := (read_eq_ok p.read_raw).1
  intro hmem
  obtain ⟨s, hs, hname⟩ := List.mem_filterMap.1 hmem
  obtain ⟨_, hpiece⟩ := exists_piece_of_mem h hs
  have hvalid := readPiece_name hpiece hname
  rw [isName_wildcardName] at hvalid
  cases hvalid

end Pattern

end Wayfinder.Route
