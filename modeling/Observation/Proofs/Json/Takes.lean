import Observation.Json.Reader
import Observation.Proofs.Json.Passed

/-!
# What readers take off a text

What a reader gets stands, after blanks, at the front of the text, in one of the ways to write it.

* `Takes` - the texts that a reader takes.
* `takes_text`, `takes_flag`, `takes_word`, `takes_optional`, `takes_listOf` - simple values and
  lists.
* `holds_of_document` - texts that are read as a whole.
-/

namespace Observation.Json

variable {α β σ : Type} {s t rest : List Char}

/-- What the reader `r` takes off a text is, after blanks, a text that `P` tells of what it gets. -/
def Takes (r : Reader α) (P : α → List Char → Prop) : Prop :=
  ∀ s a rest, r s = .ok (a, rest) → ∃ cs, P a cs ∧ Leads cs s rest

/-! ## Simple values -/

theorem takes_text : Takes text fun t cs => Written (.text t) cs := by
  intro s a rest h
  unfold text at h
  split at h
  · next t hs =>
    obtain ⟨⟨cs, u⟩, hbody, heq⟩ := Except.map_eq_ok_iff.1 h
    cases heq
    obtain ⟨ds, hds, rfl⟩ := exists_of_stringBody hbody
    rw [← String.toList_ofList (l := cs)] at hds
    exact ⟨_, .text hds, leads_of_skipBlanks (by rw [hs]; simp)⟩
  · cases h

theorem takes_flag : Takes flag fun b cs => Written (.boolean b) cs := by
  intro s a rest h
  unfold flag at h
  split at h
  · next t hs =>
    obtain ⟨u, hword, heq⟩ := Except.map_eq_ok_iff.1 h
    cases heq
    exact ⟨_, .boolean true, leads_of_skipBlanks (by rw [hs, eq_of_literal hword]; rfl)⟩
  · next t hs =>
    obtain ⟨u, hword, heq⟩ := Except.map_eq_ok_iff.1 h
    cases heq
    exact ⟨_, .boolean false, leads_of_skipBlanks (by rw [hs, eq_of_literal hword]; rfl)⟩
  · cases h

theorem eq_of_wordOf {n : Number} {w : UInt32} (h : wordOf n = .ok w) : n = .natural w.toNat := by
  cases n with
  | natural n =>
    rw [wordOf] at h
    split at h
    · next hn =>
      cases h
      rw [UInt32.toNat_ofNat_of_lt' hn]
    · cases h
  | negative n => cases h
  | floating isNegative value => cases h

theorem takes_word : Takes word fun n cs => Written (.number n.toNat) cs := by
  intro s a rest h
  unfold word at h
  split at h
  · cases h
  · next c t hs =>
    split at h
    · simp only [Except.bind_eq_ok_iff, Except.pure_eq_ok_iff] at h
      obtain ⟨⟨n, u⟩, hnumber, w, hword, heq⟩ := h
      cases heq
      obtain rfl := eq_of_wordOf hword
      have hdigits : intChars a.toNat = Nat.toDigits 10 a.toNat := by simp [intChars]
      refine ⟨_, .number _, leads_of_skipBlanks ?_⟩
      rw [hs, eq_of_number hnumber, hdigits]
    · cases h

theorem takes_optional {item : Reader α} {P : α → List Char → Prop} (h : Takes item P) :
    Takes (optional item) fun o cs =>
      o = none ∧ cs = ['n', 'u', 'l', 'l'] ∨ ∃ a, o = some a ∧ P a cs := by
  intro s o rest ho
  unfold optional at ho
  split at ho
  · next t hs =>
    obtain ⟨u, hword, heq⟩ := Except.map_eq_ok_iff.1 ho
    cases heq
    exact ⟨_, .inl ⟨rfl, rfl⟩, leads_of_skipBlanks (by rw [hs, eq_of_literal hword]; rfl)⟩
  · obtain ⟨⟨a, u⟩, ha, heq⟩ := Except.map_eq_ok_iff.1 ho
    cases heq
    obtain ⟨cs, hcs, hleads⟩ := h _ _ _ ha
    exact ⟨cs, .inr ⟨a, rfl, hcs⟩, hleads.of_skipBlanks⟩

/-! ## Lists -/

section Lists

variable {isFirst : Bool}

theorem skipBlanks_of_nextItem_close (h : nextItem isFirst s = .ok (.close t)) :
    skipBlanks s = ']' :: t := by
  unfold nextItem at h
  split at h
  · cases h
  · next u hs =>
    cases h
    exact hs
  · split at h
    · cases h
    · split at h
      · split at h <;> cases h
      · cases h

theorem skipBlanks_of_nextItem_first (h : nextItem true s = .ok (.item t)) :
    skipBlanks s = t := by
  unfold nextItem at h
  split at h
  · cases h
  · cases h
  · next hs =>
    rw [if_pos rfl] at h
    cases h
    exact hs

theorem exists_of_nextItem_comma (h : nextItem false s = .ok (.item t)) :
    ∃ u, skipBlanks s = ',' :: u ∧ skipBlanks u = t := by
  unfold nextItem at h
  split at h
  · cases h
  · cases h
  · next c u _ hs =>
    rw [if_neg Bool.false_ne_true] at h
    split at h
    · next hc =>
      subst hc
      split at h
      · cases h
      · cases h
      · cases h
        exact ⟨u, hs, rfl⟩
    · cases h

variable {item : Reader α} {P : α → List Char → Prop} {as : List α}

/-- The items after the first one stand in the text one by one. -/
theorem exists_of_itemsFrom (hitem : Takes item P) {n : Nat}
    (h : itemsFrom item n false s = .ok (as, rest)) :
    ∃ items, List.Forall₂ P as items ∧ Continues items ']' s rest := by
  induction n generalizing s as with
  | zero => cases h
  | succ n ih =>
    simp only [itemsFrom, Except.bind_eq_ok_iff] at h
    obtain ⟨next, hnext, h⟩ := h
    cases next with
    | close t =>
      cases h
      exact ⟨[], .nil, .nil (skipBlanks_of_nextItem_close hnext)⟩
    | item t =>
      simp only [Except.bind_eq_ok_iff, Except.pure_eq_ok_iff] at h
      obtain ⟨⟨a, u⟩, ha, ⟨as, v⟩, has, heq⟩ := h
      cases heq
      obtain ⟨w, hcomma, rfl⟩ := exists_of_nextItem_comma hnext
      obtain ⟨cs, hcs, hleads⟩ := hitem _ _ _ ha
      obtain ⟨items, hitems, hcontinues⟩ := ih has
      exact ⟨cs :: items, .cons hcs hitems, hcontinues.cons hcomma hleads.of_skipBlanks⟩

theorem takes_listOf (hitem : Takes item P) :
    Takes (listOf item) fun as cs =>
      ∃ items, List.Forall₂ P as items ∧ Enclosed '[' ']' items cs := by
  intro s as rest h
  unfold listOf at h
  split at h
  · next t hs =>
    -- The text is a list that starts with the first item.
    suffices hlist : ∃ items cs, List.Forall₂ P as items ∧ Enclosed '[' ']' items cs ∧
        '[' :: t = cs ++ rest by
      obtain ⟨items, cs, hitems, layout, heq⟩ := hlist
      exact ⟨cs, ⟨items, hitems, layout⟩, leads_of_skipBlanks (hs.trans heq)⟩
    simp only [itemsFrom, Except.bind_eq_ok_iff] at h
    obtain ⟨next, hnext, h⟩ := h
    cases next with
    | close u =>
      cases h
      obtain ⟨cs, layout, heq⟩ := exists_enclosed_nil '[' (skipBlanks_of_nextItem_close hnext)
      exact ⟨[], cs, .nil, layout, heq⟩
    | item u =>
      simp only [Except.bind_eq_ok_iff, Except.pure_eq_ok_iff] at h
      obtain ⟨⟨a, v⟩, ha, ⟨as, w⟩, has, heq⟩ := h
      cases heq
      obtain rfl := skipBlanks_of_nextItem_first hnext
      obtain ⟨part, hpart, hleads⟩ := hitem _ _ _ ha
      obtain ⟨items, hitems, hcontinues⟩ := exists_of_itemsFrom hitem has
      obtain ⟨cs, layout, heq⟩ := hcontinues.exists_enclosed hleads.of_skipBlanks
      exact ⟨part :: items, cs, .cons hpart hitems, layout, heq⟩
  · cases h

theorem takes_texts : Takes (listOf text) fun ts cs => Written (.texts ts) cs := by
  intro s ts rest h
  obtain ⟨cs, ⟨items, hitems, layout⟩, hleads⟩ := takes_listOf takes_text s ts rest h
  exact ⟨cs, layout.written (List.forall₂_map_left_iff.2 hitems), hleads⟩

end Lists

/-! ## Whole texts -/

/-- A text that is read as a whole holds one value. -/
theorem holds_of_document {r : Reader α} {P : α → List Char → Prop} (hr : Takes r P) {s : String}
    {a : α} (h : document r s = .ok a) : Holds (P a) s := by
  simp only [document, Except.bind_eq_ok_iff] at h
  obtain ⟨⟨a', rest⟩, hread, h⟩ := h
  dsimp only at h
  split at h
  · next hend =>
    cases h
    obtain ⟨cs, hcs, as, has, hs⟩ := hr _ _ _ hread
    obtain ⟨bs, hbs, hrest⟩ := exists_blanks hend
    rw [List.append_nil] at hrest
    exact ⟨as, cs, bs, has, hbs, hcs, hrest ▸ hs⟩
  · cases h

end Observation.Json
