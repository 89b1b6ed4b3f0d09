import Observation.Proofs.Path.Grammar
import Observation.Proofs.Text.Digits

/-!
# The text of a path

The text of a path is one of its spellings: names in the default namespace are bare, other names
are braced, and an index is written in its digits unless it is 1.

* `PathElement.exists_spelling`, `ItemPath.exists_spelling` - what is written is a spelling.
* `ItemPath.parse_text` - the text of a path is read as that path.
* `ItemPath.text_injective` - paths with the same text are equal.
-/

namespace Observation

/-! ## Spellings of what is written -/

/-- The digits of an index without a sign. -/
def IndexSpelling.ofIndex (index : UInt32) (h : index ≠ 0) : IndexSpelling where
  plus := false
  digits := Nat.toDigits 10 index.toNat
  ne_nil := Nat.toDigits_ne_nil
  are_digits _ hc := Text.isDigit_of_mem_toDigits hc
  pos := by
    rw [Text.digitsValue_toDigits]
    exact Nat.pos_of_ne_zero fun h0 => h (UInt32.toNat_inj.1 h0)
  lt_size := by
    rw [Text.digitsValue_toDigits]
    exact index.toNat_lt

theorem IndexSpelling.value_ofIndex {index : UInt32} (h : index ≠ 0) :
    (ofIndex index h).value = index := by
  unfold value ofIndex
  rw [Text.digitsValue_toDigits, UInt32.ofNat_toNat]

/-- An index that is not written is 1. -/
theorem eq_one_of_not_lt {index : UInt32} (h : index ≠ 0) (hlt : ¬1 < index) : index = 1 := by
  have hpos : index.toNat ≠ 0 := fun h0 => h (UInt32.toNat_inj.1 h0)
  have hle : ¬1 < index.toNat := fun h1 => hlt (UInt32.lt_iff_toNat_lt.2 h1)
  apply UInt32.toNat_inj.1
  show index.toNat = 1
  omega

/-- Steps are written as they are spelled. -/
theorem PathElement.exists_spelling {e : PathElement} (h : IsStep e) :
    ∃ w : SegmentSpelling, w.chars = e.chars ∧ w.element = e := by
  cases e with
  | root => exact absurd rfl h.1
  | here => exact ⟨.here, rfl, rfl⟩
  | up => exact ⟨.up, rfl, rfl⟩
  | named name index =>
    obtain ⟨w, hchars, rfl⟩ := name.exists_spelling
    have hne : index ≠ 0 := h.2
    by_cases hlt : 1 < index
    · refine ⟨.named w (some (.ofIndex index hne)), ?_, ?_⟩
      · simp [SegmentSpelling.chars, IndexSpelling.chars, IndexSpelling.ofIndex, PathElement.chars,
          hchars, hlt]
      · rw [SegmentSpelling.element, IndexSpelling.value_ofIndex]
    · refine ⟨.named w none, ?_, ?_⟩
      · simp [SegmentSpelling.chars, PathElement.chars, hchars, hlt]
      · rw [SegmentSpelling.element, eq_one_of_not_lt hne hlt]

theorem exists_spellings {es : List PathElement} (h : ∀ e ∈ es, IsStep e) :
    ∃ ws : List SegmentSpelling, ws.map SegmentSpelling.chars = es.map PathElement.chars ∧
      ws.map SegmentSpelling.element = es := by
  induction es with
  | nil => exact ⟨[], rfl, rfl⟩
  | cons e es ih =>
    obtain ⟨he, hes⟩ := List.forall_mem_cons.1 h
    obtain ⟨w, hw, hwe⟩ := PathElement.exists_spelling he
    obtain ⟨ws, hws, hwes⟩ := ih hes
    refine ⟨w :: ws, ?_, ?_⟩
    · rw [List.map_cons, List.map_cons, hw, hws]
    · rw [List.map_cons, hwe, hwes]

/-! ## Reading what is written -/

namespace ItemPath

theorem chars_of_root {p : ItemPath} {steps : List PathElement}
    (h : p.elements = .root :: steps) :
    p.chars = '/' :: ['/'].intercalate (steps.map PathElement.chars) := by
  have ha : p.isAbsolute = true := by simp [isAbsolute, h]
  unfold chars ItemPath.steps
  rw [if_pos ha, if_pos ha, h, List.tail_cons, List.singleton_append]

theorem chars_of_step {p : ItemPath} {first : PathElement} {rest : List PathElement}
    (h : p.elements = first :: rest) (hf : first ≠ .root) :
    p.chars = ['/'].intercalate ((first :: rest).map PathElement.chars) := by
  have ha : ¬p.isAbsolute = true := by simp [isAbsolute, h, hf]
  unfold chars steps
  rw [if_neg ha, if_neg ha, h, List.nil_append]

/-- Paths are written as they are spelled. -/
theorem exists_spelling (p : ItemPath) : ∃ w : PathSpelling, w.chars = p.chars ∧ w.path = p := by
  obtain ⟨first, rest, hp⟩ := List.exists_cons_of_ne_nil p.ne_nil
  have hrest : ∀ e ∈ rest, IsStep e := by
    have := p.tail_steps
    rwa [hp] at this
  obtain ⟨ws, hchars, helements⟩ := exists_spellings hrest
  -- A root with steps after it is the slash before them, and is spelled alone otherwise.
  by_cases hf : first = .root
  · subst hf
    have hpc := chars_of_root hp
    rw [← hchars] at hpc
    cases ws with
    | nil => exact ⟨.root, hpc.symm, ext_elements (hp.trans (by rw [← helements]; rfl)).symm⟩
    | cons w ws =>
      refine ⟨.steps true w ws, ?_, ext_elements ?_⟩
      · rw [hpc, PathSpelling.chars, List.map_cons, intercalate_eq_slashed]
      · rw [hp, ← helements]
        rfl
  · have hfirst : IsStep first := by
      have := p.head_indexed
      rw [hp] at this
      exact ⟨hf, this first rfl⟩
    obtain ⟨w, hwc, hwe⟩ := PathElement.exists_spelling hfirst
    refine ⟨.steps false w ws, ?_, ext_elements ?_⟩
    · rw [chars_of_step hp hf, PathSpelling.chars, List.map_cons, intercalate_eq_slashed, hwc,
        hchars]
    · rw [hp, ← hwe, ← helements]
      rfl

/-- Whatever a path is made of, its text is read as that path. -/
@[simp] theorem parse_text (p : ItemPath) : parse p.text = .ok p := by
  obtain ⟨w, hw, hp⟩ := p.exists_spelling
  rw [text, ← hw, parse_spelling, hp]

theorem text_injective : Function.Injective text := by
  intro p q h
  have hp := parse_text p
  rw [h, parse_text, Except.ok.injEq] at hp
  exact hp.symm

end ItemPath

end Observation
