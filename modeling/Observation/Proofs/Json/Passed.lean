import Observation.Json.Skip
import Observation.Proofs.Json.Consumed

/-!
# What is passed over

A text is passed over only if it is the text of a value.

* `Passes` - what passing over values, items and members in so many steps says about a text.
* `exists_of_skipValue` - a value that is passed over is well formed.
-/

namespace Observation.Json

/-- What is passed over in at most `n` steps is a value, the rest of a list after an item, or the
rest of an object after a member. -/
structure Passes (n : Nat) : Prop where
  value : ∀ {s rest : List Char}, skipValueFrom n s = .ok rest →
    ∃ cs, ValueText cs ∧ Leads cs s rest
  items : ∀ {s rest : List Char}, skipItemsFrom n s = .ok rest →
    ∃ items, (∀ item ∈ items, ValueText item) ∧ Continues items ']' s rest
  members : ∀ {s rest : List Char}, skipMembersFrom n s = .ok rest →
    ∃ parts, (∀ part ∈ parts, MemberPart part) ∧ Continues parts '}' s rest

section Steps

variable {n : Nat} {s t u rest : List Char}

theorem exists_of_skipKey (h : skipKey s = .ok t) : ∃ bs key as, Blanks bs ∧ StringText key ∧
    Blanks as ∧ s = bs ++ '"' :: (key ++ '"' :: (as ++ ':' :: t)) := by
  unfold skipKey at h
  split at h
  · cases h
  · next u hs =>
    rw [Except.bind_eq_ok_iff] at h
    obtain ⟨v, hkey, h⟩ := h
    split at h
    · cases h
    · next w hcolon =>
      cases h
      obtain ⟨bs, hbs, rfl⟩ := exists_blanks hs
      obtain ⟨key, hkeyed, rfl⟩ := exists_of_skipString hkey
      obtain ⟨as, has, rfl⟩ := exists_blanks hcolon
      exact ⟨bs, key, as, hbs, hkeyed, has, rfl⟩
    · cases h
  · cases h

namespace Passes

/-- A member is passed over with its name first. -/
theorem exists_member (hn : Passes n) (hkey : skipKey s = .ok t)
    (hvalue : skipValueFrom n t = .ok u) : ∃ part, MemberPart part ∧ Leads part s u := by
  obtain ⟨bs, key, as, hbs, hkeyed, has, rfl⟩ := exists_of_skipKey hkey
  obtain ⟨value, hvalued, bs', hbs', rfl⟩ := hn.value hvalue
  exact ⟨_, ⟨key, value, hkeyed, hvalued, .mk has hbs'⟩, bs, hbs, by simp⟩

theorem items_succ (hn : Passes n) (h : skipItemsFrom (n + 1) s = .ok rest) :
    ∃ items, (∀ item ∈ items, ValueText item) ∧ Continues items ']' s rest := by
  rw [skipItemsFrom] at h
  split at h
  · cases h
  · next t hs =>
    rw [Except.bind_eq_ok_iff] at h
    obtain ⟨u, hvalue, hrest⟩ := h
    obtain ⟨item, hitem, hleads⟩ := hn.value hvalue
    obtain ⟨items, hitems, hcontinues⟩ := hn.items hrest
    exact ⟨item :: items, List.forall_mem_cons.2 ⟨hitem, hitems⟩, hcontinues.cons hs hleads⟩
  · next t hs =>
    cases h
    exact ⟨[], List.forall_mem_nil _, .nil hs⟩
  · cases h

theorem members_succ (hn : Passes n) (h : skipMembersFrom (n + 1) s = .ok rest) :
    ∃ parts, (∀ part ∈ parts, MemberPart part) ∧ Continues parts '}' s rest := by
  rw [skipMembersFrom] at h
  split at h
  · cases h
  · next t hs =>
    simp only [Except.bind_eq_ok_iff] at h
    obtain ⟨u, hkey, v, hvalue, hrest⟩ := h
    obtain ⟨part, hpart, hleads⟩ := hn.exists_member hkey hvalue
    obtain ⟨parts, hparts, hcontinues⟩ := hn.members hrest
    exact ⟨part :: parts, List.forall_mem_cons.2 ⟨hpart, hparts⟩, hcontinues.cons hs hleads⟩
  · next t hs =>
    cases h
    exact ⟨[], List.forall_mem_nil _, .nil hs⟩
  · cases h

theorem exists_list (hn : Passes n) (hvalue : skipValueFrom n (skipBlanks s) = .ok t)
    (hrest : skipItemsFrom n t = .ok rest) : ∃ cs, ValueText cs ∧ '[' :: s = cs ++ rest := by
  obtain ⟨item, hitem, hleads⟩ := hn.value hvalue
  obtain ⟨items, hitems, hcontinues⟩ := hn.items hrest
  obtain ⟨cs, layout, heq⟩ := hcontinues.exists_enclosed hleads.of_skipBlanks
  exact ⟨cs, .list (List.forall_mem_cons.2 ⟨hitem, hitems⟩) layout, heq⟩

theorem exists_object (hn : Passes n) (hkey : skipKey (skipBlanks s) = .ok t)
    (hvalue : skipValueFrom n t = .ok u) (hrest : skipMembersFrom n u = .ok rest) :
    ∃ cs, ValueText cs ∧ '{' :: s = cs ++ rest := by
  obtain ⟨part, hpart, hleads⟩ := hn.exists_member hkey hvalue
  obtain ⟨parts, hparts, hcontinues⟩ := hn.members hrest
  obtain ⟨cs, layout, heq⟩ := hcontinues.exists_enclosed hleads.of_skipBlanks
  exact ⟨cs, valueText_of_memberParts (List.forall_mem_cons.2 ⟨hpart, hparts⟩) layout, heq⟩

theorem value_succ (hn : Passes n) (h : skipValueFrom (n + 1) s = .ok rest) :
    ∃ cs, ValueText cs ∧ Leads cs s rest := by
  rw [skipValueFrom] at h
  -- The text starts, after blanks, as the value that is passed over.
  suffices hvalue : ∃ cs, ValueText cs ∧ skipBlanks s = cs ++ rest by
    obtain ⟨cs, hcs, heq⟩ := hvalue
    exact ⟨cs, hcs, leads_of_skipBlanks heq⟩
  split at h
  · cases h
  · next t hs => exact ⟨_, .null, by rw [hs, eq_of_literal h]; rfl⟩
  · next t hs => exact ⟨_, .boolean true, by rw [hs, eq_of_literal h]; rfl⟩
  · next t hs => exact ⟨_, .boolean false, by rw [hs, eq_of_literal h]; rfl⟩
  · next t hs =>
    obtain ⟨cs, hcs, rfl⟩ := exists_of_skipNumber h
    exact ⟨_, .negative hcs, by rw [hs]; rfl⟩
  · next t hs =>
    obtain ⟨cs, hcs, rfl⟩ := exists_of_skipString h
    exact ⟨_, .string hcs, by rw [hs]; simp⟩
  · next t hs =>
    rw [hs]
    split at h
    · cases h
    · next u ht =>
      cases h
      obtain ⟨cs, layout, heq⟩ := exists_enclosed_nil '[' ht
      exact ⟨cs, .list (List.forall_mem_nil _) layout, heq⟩
    · next hnil hclose =>
      rw [Except.bind_eq_ok_iff] at h
      obtain ⟨u, hvalue, hrest⟩ := h
      exact hn.exists_list hvalue hrest
  · next t hs =>
    rw [hs]
    split at h
    · cases h
    · next u ht =>
      cases h
      obtain ⟨cs, layout, heq⟩ := exists_enclosed_nil '{' ht
      exact ⟨cs, valueText_of_memberParts (List.forall_mem_nil _) layout, heq⟩
    · simp only [Except.bind_eq_ok_iff] at h
      obtain ⟨u, hkey, v, hvalue, hrest⟩ := h
      exact hn.exists_object hkey hvalue hrest
  · next c t _ _ _ _ _ _ _ hs =>
    split at h
    · obtain ⟨cs, hcs, heq⟩ := exists_of_skipNumber h
      exact ⟨cs, .number hcs, hs.trans heq⟩
    · cases h

end Passes

theorem passes (n : Nat) : Passes n := by
  induction n with
  | zero => exact ⟨nofun, nofun, nofun⟩
  | succ n ih => exact ⟨ih.value_succ, ih.items_succ, ih.members_succ⟩

/-- A value that is passed over is well formed. -/
theorem exists_of_skipValue {a : Unit} (h : skipValue s = .ok (a, rest)) :
    ∃ cs, ValueText cs ∧ Leads cs s rest := by
  unfold skipValue at h
  simp only [Except.bind_eq_ok_iff, Except.pure_eq_ok_iff] at h
  obtain ⟨t, ht, heq⟩ := h
  cases heq
  exact (passes _).value ht

end Steps

end Observation.Json
