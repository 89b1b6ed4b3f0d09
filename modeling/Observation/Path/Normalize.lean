import Observation.Path.Basic

/-!
# Resolving `.` and `..`

* `ItemPath.resolveStep` - what one element does to the elements resolved so far.
* `ItemPath.normalize` - the path without `.`, and with every `..` matched that can be.

The resolved elements are kept in reverse, the latest first.  A `..` takes the name before it
away, is refused directly after the root, and stays where nothing precedes it but other `..`.
-/

namespace Observation.ItemPath

/-- Takes one more element into the resolved ones; nothing if `..` would leave the root. -/
def resolveStep : List PathElement → PathElement → Option (List PathElement)
  | kept, .here => some kept
  | .named _ _ :: kept, .up => some kept
  | .root :: _, .up => none
  | kept, e => some (e :: kept)

/-- Resolved elements, latest first, that make up a path or nothing. -/
def Resolved (kept : List PathElement) : Prop :=
  (∀ e ∈ kept, e.Indexed) ∧ PathElement.root ∉ kept.dropLast

theorem resolved_resolveStep {kept out : List PathElement} {e : PathElement} (hd : Resolved kept)
    (he : IsStep e) (h : resolveStep kept e = some out) : Resolved out := by
  obtain ⟨hi, hr⟩ := hd
  unfold resolveStep at h
  split at h
  · cases h; exact ⟨hi, hr⟩
  · next n i kept =>
    cases h
    refine ⟨fun e he => hi e (by simp [he]), fun hm => hr ?_⟩
    cases out with
    | nil => simp at hm
    | cons d out => simp only [List.dropLast, List.mem_cons] at hm ⊢; exact Or.inr hm
  · cases h
  · cases h
    refine ⟨by simpa using ⟨he.2, hi⟩, ?_⟩
    cases kept with
    | nil => simp
    | cons d kept => simp only [List.dropLast, List.mem_cons, not_or]; exact ⟨he.1.symm, hr⟩

theorem resolved_foldlM {es kept out : List PathElement} (hd : Resolved kept)
    (he : ∀ e ∈ es, IsStep e) (h : es.foldlM resolveStep kept = some out) : Resolved out := by
  induction es generalizing kept with
  | nil => cases h; exact hd
  | cons e es ih =>
    rw [List.foldlM_cons] at h
    cases hs : resolveStep kept e with
    | none => rw [hs] at h; cases h
    | some next =>
      rw [hs] at h
      exact ih (resolved_resolveStep hd (he e (by simp)) hs) (fun e he' => he e (by simp [he'])) h

theorem resolved_elements {p : ItemPath} {out : List PathElement}
    (h : p.elements.foldlM resolveStep [] = some out) : Resolved out := by
  obtain ⟨es, hne, hhead, htail⟩ := p
  match es, hne with
  | first :: rest, _ =>
    rw [List.foldlM_cons] at h
    cases hs : resolveStep [] first with
    | none => rw [hs] at h; cases h
    | some next =>
      rw [hs] at h
      refine resolved_foldlM ?_ htail h
      have hf : first.Indexed := hhead first (by simp)
      cases first <;> simp [resolveStep] at hs <;> subst hs <;> simp [Resolved, hf]

/-- In order, resolved elements are a first one and steps after it. -/
theorem Resolved.steps_of_reverse {kept rest : List PathElement} {first : PathElement}
    (h : Resolved kept) (hd : kept.reverse = first :: rest) :
    first.Indexed ∧ ∀ e ∈ rest, IsStep e := by
  have hkept : kept = rest.reverse ++ [first] := by
    rw [← List.reverse_reverse kept, hd, List.reverse_cons]
  subst hkept
  obtain ⟨hi, hr⟩ := h
  rw [List.dropLast_concat, List.mem_reverse] at hr
  refine ⟨hi first (by simp), fun e he => ⟨fun hroot => hr (hroot ▸ he), hi e (by simp [he])⟩⟩

/-- The path made up by resolved elements; with none left, the path `.`. -/
def ofResolved (kept : List PathElement) (h : Resolved kept) : ItemPath :=
  match hd : kept.reverse with
  | [] => relative .here [] trivial (List.forall_mem_nil _)
  | first :: rest =>
    relative first rest (h.steps_of_reverse hd).1 (h.steps_of_reverse hd).2

/-- The path with `.` and `..` resolved; an error if `..` leads above the root. -/
def normalize (p : ItemPath) : Except PathError ItemPath :=
  match h : p.elements.foldlM resolveStep [] with
  | none => .error (.escapesRoot p.text)
  | some kept => .ok (ofResolved kept (resolved_elements h))

end Observation.ItemPath
