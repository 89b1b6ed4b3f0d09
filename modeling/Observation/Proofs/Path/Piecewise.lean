import Observation.Proofs.Path.Resolution

/-!
# Resolving piece by piece

A path may be resolved in pieces: what comes first before the rest, or what is appended before it
is.  What is left of a piece does to the rest what the piece itself does, so that the same item is
addressed, and an escape above the root is found, in every order.

* `ItemPath.SameOutcome` - two resolutions lead to one path, or both above the root.
* `ItemPath.climb_normalize`, `ItemPath.survivors_normalize` - what is left of a relative path
  climbs as far as the path and leaves the same survivors.
* `ItemPath.normalize_append` - resolving a path from either of its pieces.
-/

namespace Observation.ItemPath

open Brackets

/-! ## Outcomes -/

/-- Two resolutions lead to the same path, or both lead above the root. -/
def SameOutcome (x y : Except PathError ItemPath) : Prop :=
  (∃ p, x = .ok p ∧ y = .ok p) ∨
    ∃ s t, x = .error (.escapesRoot s) ∧ y = .error (.escapesRoot t)

/-- The outcome depends on what is left of the elements alone. -/
theorem sameOutcome_of_foldlM_eq {p q : ItemPath}
    (h : p.elements.foldlM resolveStep [] = q.elements.foldlM resolveStep []) :
    SameOutcome p.normalize q.normalize := by
  cases hp : p.elements.foldlM resolveStep [] with
  | none =>
    exact .inr ⟨_, _, normalize_eq_error_iff.2 ⟨hp, rfl⟩, normalize_eq_error_iff.2 ⟨h ▸ hp, rfl⟩⟩
  | some kept =>
    obtain ⟨r, hr, helements⟩ := exists_normalize hp
    exact .inl ⟨r, hr, normalize_eq_ok_iff.2 ⟨kept, h ▸ hp, helements⟩⟩

/-! ## Relative pieces -/

theorem isStep_of_mem_elements {p : ItemPath} (h : PathElement.root ∉ p.elements) :
    ∀ e ∈ p.elements, IsStep e :=
  fun e he => ⟨fun hroot => h (hroot ▸ he), p.wellFormed.indexed e he⟩

section Relative

variable {p q : ItemPath} (ha : p.isAbsolute = false) (h : p.normalize = .ok q)
include ha h

theorem elements_normalize_relative :
    climb p.elements = 0 ∧ survivors p.elements = [] ∧ q.elements = [.here] ∨
      q.elements = List.replicate (climb p.elements) .up ++ survivors p.elements := by
  obtain ⟨r, hr, helements⟩ := normalize_relative ha
  rw [h, Except.ok.injEq] at hr
  subst hr
  split at helements
  · next hnone => exact .inl ⟨hnone.1, hnone.2, helements⟩
  · exact .inr helements

theorem climb_normalize : climb q.elements = climb p.elements := by
  rcases elements_normalize_relative ha h with ⟨hclimb, -, helements⟩ | helements
  · rw [helements, hclimb]
    rfl
  · rw [helements, climb_replicate_append fun e he => isNamed_of_mem_survivors he]

theorem survivors_normalize : survivors q.elements = survivors p.elements := by
  rcases elements_normalize_relative ha h with ⟨-, hsurvivors, helements⟩ | helements
  · rw [helements, hsurvivors]
    rfl
  · rw [helements, survivors_replicate_append fun e he => isNamed_of_mem_survivors he]

theorem root_notMem_normalize : PathElement.root ∉ q.elements := by
  intro hroot
  rcases elements_normalize_relative ha h with ⟨-, -, helements⟩ | helements
  · rw [helements] at hroot
    simp at hroot
  · rw [helements, List.mem_append] at hroot
    rcases hroot with hroot | hroot
    · cases List.eq_of_mem_replicate hroot
    · cases isNamed_of_mem_survivors hroot

end Relative

/-! ## Appending -/

theorem exists_ofElements {es : List PathElement} (h : WellFormed es) :
    ∃ p, ofElements es = .ok p ∧ p.elements = es := by
  obtain ⟨p, rfl⟩ := exists_elements_eq h
  exact ⟨p, ofElements_elements p, rfl⟩

section Append

variable {q : List PathElement}

theorem wellFormed_append (p : ItemPath) (hq : ∀ e ∈ q, IsStep e) :
    WellFormed (p.elements ++ q) where
  ne_nil := List.append_ne_nil_of_left_ne_nil p.ne_nil q
  root_notMem_tail := by
    rw [List.tail_append_of_ne_nil p.ne_nil, List.mem_append, not_or]
    exact ⟨p.wellFormed.root_notMem_tail, fun hroot => (hq _ hroot).1 rfl⟩
  indexed := by
    intro e he
    rcases List.mem_append.1 he with he | he
    · exact p.wellFormed.indexed e he
    · exact (hq e he).2

theorem wellFormed_steps (hne : q ≠ []) (hq : ∀ e ∈ q, IsStep e) : WellFormed q where
  ne_nil := hne
  root_notMem_tail hroot := (hq _ (List.mem_of_mem_tail hroot)).1 rfl
  indexed e he := (hq e he).2

/-- Steps that climb as far and leave the same survivors do the same to what is left of a path. -/
theorem foldlM_append_congr (p : ItemPath) {r : List PathElement} (hq : .root ∉ q) (hr : .root ∉ r)
    (hclimb : climb q = climb r) (hsurvivors : survivors q = survivors r) :
    (p.elements ++ q).foldlM resolveStep [] = (p.elements ++ r).foldlM resolveStep [] := by
  rw [List.foldlM_append, List.foldlM_append]
  cases hp : p.elements.foldlM resolveStep [] with
  | none => rfl
  | some kept =>
    obtain ⟨ns, g, hns, rfl⟩ := exists_ground hp
    refine (foldlM_resolveStep ns g hns hq).trans ?_
    rw [hclimb, hsurvivors]
    exact (foldlM_resolveStep ns g hns hr).symm

/-- Appended steps may be resolved together with the path, after the path, or before they are
appended: the outcome is the same, and a path that escapes the root does so whatever is appended. -/
theorem normalize_append (p : ItemPath) (hne : q ≠ []) (hq : ∀ e ∈ q, IsStep e) :
    ∃ whole piece piece', ofElements (p.elements ++ q) = .ok whole ∧
      ofElements q = .ok piece ∧ piece.normalize = .ok piece' ∧
      (∀ p', p.normalize = .ok p' → ∃ r, ofElements (p'.elements ++ q) = .ok r ∧
        SameOutcome whole.normalize r.normalize) ∧
      (∀ error, p.normalize = .error error → whole.normalize = .error (.escapesRoot whole.text)) ∧
      ∃ r, ofElements (p.elements ++ piece'.elements) = .ok r ∧
        SameOutcome whole.normalize r.normalize := by
  have hroot : PathElement.root ∉ q := fun h => (hq _ h).1 rfl
  obtain ⟨whole, hwhole, hwholeElements⟩ := exists_ofElements (wellFormed_append p hq)
  obtain ⟨piece, hpiece, rfl⟩ := exists_ofElements (wellFormed_steps hne hq)
  have hrelative : piece.isAbsolute = false := isAbsolute_eq_false_iff.2 hroot
  obtain ⟨piece', hpiece', -⟩ := normalize_relative hrelative
  refine ⟨whole, piece, piece', hwhole, hpiece, hpiece', ?_, ?_, ?_⟩
  · intro p' hp'
    obtain ⟨kept, hkept, hkeptElements⟩ := normalize_eq_ok_iff.1 hp'
    obtain ⟨r, hr, hrElements⟩ := exists_ofElements (wellFormed_append p' hq)
    refine ⟨r, hr, sameOutcome_of_foldlM_eq ?_⟩
    rw [hwholeElements, hrElements, hkeptElements, foldlM_inOrder hkept, List.foldlM_append, hkept]
    rfl
  · intro error herror
    rw [normalize_eq_error_iff, hwholeElements, List.foldlM_append,
      (normalize_eq_error_iff.1 herror).1]
    exact ⟨rfl, rfl⟩
  · have hroot' := root_notMem_normalize hrelative hpiece'
    obtain ⟨r, hr, hrElements⟩ :=
      exists_ofElements (wellFormed_append p (isStep_of_mem_elements hroot'))
    refine ⟨r, hr, sameOutcome_of_foldlM_eq ?_⟩
    rw [hwholeElements, hrElements]
    exact foldlM_append_congr p hroot hroot' (climb_normalize hrelative hpiece').symm
      (survivors_normalize hrelative hpiece').symm

end Append

/-- After `/{a/b[2]}c d[2]` the steps `.././{a/b[2]}c d[3]` lead to `/{a/b[2]}c d[3]`, and so does
what is left of them. -/
theorem normalize_append_slashed :
    let name := slashedName
    let p := root.childAt name 2
    let q : List PathElement := [.up, .here, .named name 3]
    q ≠ [] ∧ (∀ e ∈ q, IsStep e) ∧
      ∃ piece r, ofElements q >>= normalize = .ok piece ∧
        ofElements (p.elements ++ piece.elements) = .ok r ∧
        r.normalize = .ok (root.childAt name 3) := by
  intro name p q
  have hne : q ≠ [] := List.cons_ne_nil _ _
  have hq : ∀ e ∈ q, IsStep e := by simp [q, IsStep, PathElement.Indexed]
  obtain ⟨whole, piece, piece', hwhole, hpiece, hpiece', -, -, r, hr, hsame⟩ :=
    normalize_append p hne hq
  refine ⟨hne, hq, piece', r, Except.bind_eq_ok_iff.2 ⟨piece, hpiece, hpiece'⟩, hr, ?_⟩
  have hresolved : ofElements (p.elements ++ q) >>= normalize = .ok (root.childAt name 3) := rfl
  obtain ⟨_, hwhole', hwholeOk⟩ := Except.bind_eq_ok_iff.1 hresolved
  rw [hwhole] at hwhole'
  cases hwhole'
  rcases hsame with ⟨_, hok, hrOk⟩ | ⟨_, _, herror, -⟩
  · rw [hrOk, ← hok, hwholeOk]
  · rw [hwholeOk] at herror
    cases herror

end Observation.ItemPath
