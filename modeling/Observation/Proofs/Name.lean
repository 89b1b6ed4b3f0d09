import Mathlib.Data.List.Basic
import Observation.Name
import Observation.Proofs.Text.Cut

/-!
# How names are written

A name is written as its local name alone, which stands for the default namespace, or with its
namespace URI in braces before; reading accepts these texts and no others.

* `NameSpelling` - a way to write a name: `NameSpelling.chars` is what is written, and
  `NameSpelling.name` what it stands for.
* `NameSpelling.chars_injective` - a text is written in one way at most.
* `QualifiedName.parse_eq_ok_iff` - reading a text gives the name that it is a spelling of.
* `QualifiedName.parse_text` - the text of a name reads back.
* `plainName`, `slashedName` - a name in the default namespace, and one in another.
-/

namespace Observation

/-! ## Spellings -/

/-- A way to write a name: its local name alone, or a namespace URI in braces before it. -/
inductive NameSpelling where
  | bare (localName : String) (valid : ValidLocalName localName)
  | braced (uri localName : String) (valid_uri : ValidNamespaceUri uri)
    (valid_local : ValidLocalName localName)

namespace NameSpelling

/-- What is written. -/
def chars : NameSpelling → List Char
  | bare localName _ => localName.toList
  | braced uri localName _ _ => '{' :: (uri.toList ++ '}' :: localName.toList)

/-- What a spelling stands for; without braces it is a name in the default namespace. -/
def name : NameSpelling → QualifiedName
  | bare localName valid => ⟨Namespace.default, localName, nofun, valid⟩
  | braced uri localName valid_uri valid_local => ⟨uri, localName, valid_uri, valid_local⟩

end NameSpelling

theorem ValidLocalName.notMem {s : String} (h : ValidLocalName s) {c : Char}
    (hc : isReserved c = true) : c ∉ s.toList := by
  intro hmem
  rw [h.unreserved c hmem] at hc
  cases hc

theorem ValidNamespaceUri.notMem {s : String} (h : ValidNamespaceUri s) {c : Char}
    (hc : isBrace c = true) : c ∉ s.toList := by
  intro hmem
  rw [h c hmem] at hc
  cases hc

/-- A text is a spelling in one way at most. -/
theorem NameSpelling.chars_injective : Function.Injective NameSpelling.chars := by
  intro v w h
  have hopen : isReserved '{' = true := by decide
  cases v with
  | bare l hl =>
    cases w with
    | bare m hm =>
      have : l = m := String.toList_inj.1 h
      subst this
      rfl
    | braced u m hu hm =>
      have hmem : '{' ∈ l.toList := by rw [show l.toList = _ from h]; exact List.mem_cons_self
      exact absurd hmem (hl.notMem hopen)
  | braced u l hu hl =>
    cases w with
    | bare m hm =>
      have hmem : '{' ∈ m.toList := by rw [← show _ = m.toList from h]; exact List.mem_cons_self
      exact absurd hmem (hm.notMem hopen)
    | braced v m hv hm =>
      have hclose : '}' ∉ u.toList := hu.notMem (by decide)
      have hclose' : '}' ∉ l.toList := hl.notMem (by decide)
      obtain ⟨huv, -, hlm⟩ :=
        (List.append_cons_inj_of_notMem hclose hclose').1 (List.cons.inj h).2
      have : u = v := String.toList_inj.1 huv
      have : l = m := String.toList_inj.1 hlm
      subst u l
      rfl

namespace QualifiedName

/-! ## Reading -/

/-- The check of two texts passes for the parts of a name, and gives that name. -/
theorem check_eq_ok_iff {uri localName input : String} {n : QualifiedName} :
    check uri localName input = .ok n ↔ n.namespaceUri = uri ∧ n.localName = localName := by
  unfold check
  constructor
  · intro h
    split at h
    · cases h
    · split at h
      · cases h
      · split at h
        · cases h
        · split at h
          · cases h
          · cases h
            exact ⟨rfl, rfl⟩
  · rintro ⟨rfl, rfl⟩
    obtain ⟨uri, localName, huri, hlocal⟩ := n
    have hreserved : ¬ (localName = "." ∨ localName = "..") :=
      fun h => h.elim hlocal.ne_here hlocal.ne_up
    split
    · next c hc =>
      have := huri c (List.mem_of_find?_eq_some hc)
      rw [List.find?_some hc] at this
      cases this
    · rw [dif_neg hlocal.ne_empty, dif_neg hreserved]
      split
      · next c hc =>
        have := hlocal.unreserved c (List.mem_of_find?_eq_some hc)
        rw [List.find?_some hc] at this
        cases this
      · rfl

/-- A text opens a brace and leaves it open, opens and closes one, or opens none at its start. -/
theorem brace_cases (s : String) :
    (∃ rest, s.toList = '{' :: rest ∧ '}' ∉ rest) ∨
      (∃ uri localName : String, s.toList = '{' :: (uri.toList ++ '}' :: localName.toList) ∧
        '}' ∉ uri.toList) ∨
      ∀ rest, s.toList ≠ '{' :: rest := by
  by_cases hopen : ∃ rest, s.toList = '{' :: rest
  · obtain ⟨rest, hs⟩ := hopen
    by_cases hclose : '}' ∈ rest
    · obtain ⟨uri, localName, rfl, huri⟩ := List.eq_append_cons_of_mem hclose
      refine .inr (.inl ⟨String.ofList uri, String.ofList localName, ?_, ?_⟩)
      · rw [String.toList_ofList, String.toList_ofList, hs]
      · rwa [String.toList_ofList]
    · exact .inl ⟨rest, hs, hclose⟩
  · exact .inr (.inr (not_exists.1 hopen))

theorem parse_of_braces {s uri localName : String}
    (hs : s.toList = '{' :: (uri.toList ++ '}' :: localName.toList)) (huri : '}' ∉ uri.toList) :
    parse s = check uri localName s := by
  unfold parse
  rw [hs]
  simp only [Text.takeWhile_ne_append huri, Text.dropWhile_ne_append huri, String.ofList_toList]

theorem parse_of_open_brace {s : String} {rest : List Char} (hs : s.toList = '{' :: rest)
    (hrest : '}' ∉ rest) : parse s = .error (.unterminatedNamespace s) := by
  unfold parse
  rw [hs]
  simp only [Text.dropWhile_ne_eq_nil hrest]

theorem parse_of_no_brace {s : String} (hs : ∀ rest, s.toList ≠ '{' :: rest) :
    parse s = check Namespace.default s s := by
  unfold parse
  split
  · next rest h => exact absurd h (hs rest)
  · rfl

theorem parse_spelling (w : NameSpelling) : parse (String.ofList w.chars) = .ok w.name := by
  cases w with
  | bare l hl =>
    have hopen : ∀ rest, (String.ofList l.toList).toList ≠ '{' :: rest := by
      intro rest h
      rw [String.toList_ofList] at h
      exact hl.notMem (by decide) (h ▸ List.mem_cons_self)
    rw [NameSpelling.chars, parse_of_no_brace hopen, check_eq_ok_iff, String.ofList_toList]
    exact ⟨rfl, rfl⟩
  | braced u l hu hl =>
    have hclose : '}' ∉ u.toList := hu.notMem (by decide)
    rw [NameSpelling.chars, parse_of_braces String.toList_ofList hclose, check_eq_ok_iff]
    exact ⟨rfl, rfl⟩

theorem exists_spelling_of_parse {s : String} {n : QualifiedName} (h : parse s = .ok n) :
    ∃ w : NameSpelling, w.chars = s.toList ∧ w.name = n := by
  obtain ⟨uri, localName, huri, hlocal⟩ := n
  rcases brace_cases s with ⟨rest, hs, hclose⟩ | ⟨u, l, hs, hclose⟩ | hs
  · rw [parse_of_open_brace hs hclose] at h
    cases h
  · rw [parse_of_braces hs hclose, check_eq_ok_iff] at h
    obtain ⟨rfl, rfl⟩ := h
    exact ⟨.braced _ _ huri hlocal, hs.symm, rfl⟩
  · rw [parse_of_no_brace hs, check_eq_ok_iff] at h
    obtain ⟨rfl, rfl⟩ := h
    exact ⟨.bare _ hlocal, rfl, rfl⟩

/-- The texts that are read as a name are its spellings. -/
theorem parse_eq_ok_iff {s : String} {n : QualifiedName} :
    parse s = .ok n ↔ ∃ w : NameSpelling, w.chars = s.toList ∧ w.name = n := by
  constructor
  · exact exists_spelling_of_parse
  · rintro ⟨w, hs, rfl⟩
    rw [← String.ofList_toList (s := s), ← hs, parse_spelling]

/-- The text of a name is one of its spellings. -/
theorem exists_spelling (n : QualifiedName) :
    ∃ w : NameSpelling, w.chars = n.chars ∧ w.name = n := by
  obtain ⟨uri, localName, huri, hlocal⟩ := n
  by_cases h : uri = ""
  · subst h
    exact ⟨.bare localName hlocal, by simp [NameSpelling.chars, chars], rfl⟩
  · exact ⟨.braced uri localName huri hlocal, by simp [NameSpelling.chars, chars, h], rfl⟩

/-- The text of a name reads back. -/
@[simp] theorem parse_text (n : QualifiedName) : parse n.text = .ok n := by
  obtain ⟨w, hchars, hname⟩ := n.exists_spelling
  rw [text, ← hchars, parse_spelling, hname]

theorem text_injective : Function.Injective text := by
  intro m n h
  have hm := parse_text m
  rw [h, parse_text, Except.ok.injEq] at hm
  exact hm.symm

end QualifiedName

/-! ## Sample names -/

/-- A name for items and for their types. -/
def plainName : QualifiedName where
  namespaceUri := ""
  localName := "a"
  validUri := validNamespaceUri_empty
  validLocal := ⟨by simp, by simp, by simp, by simp [isReserved, reservedCharacters]⟩

/-- A name whose namespace URI holds characters that end a step elsewhere. -/
def slashedName : QualifiedName where
  namespaceUri := "a/b[2]"
  localName := "c d"
  validUri := by simp [ValidNamespaceUri, isBrace]
  validLocal := ⟨by simp, by simp, by simp, by simp [isReserved, reservedCharacters]⟩

end Observation
