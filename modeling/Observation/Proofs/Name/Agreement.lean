import Observation.Proofs.Except
import Observation.Proofs.Name

/-!
# Names made, read and written

A name is made of two texts, or read from a single one in which braces tell them apart.  Both ways
accept the same parts.  What they refuse they refuse for the same reason, but an error about a local
name quotes the text that was read.

* `QualifiedName.exists_make_iff` - the texts that a name is made of.
* `QualifiedName.Writes` - the texts that stand for a name; `QualifiedName.parse_iff_writes` reads
  them.
* `QualifiedName.Misspells` - the error for a text that stands for no name;
  `QualifiedName.parse_eq_error_iff` reports it.
* `QualifiedName.make_parse_text_agree` - all this together.
-/

namespace Observation

/-- The error with `input` in place of the local name that it quotes. -/
def NameError.quoting (input : String) : NameError → NameError
  | emptyLocalName _ => emptyLocalName input
  | illegalCharacter _ c => illegalCharacter input c
  | reservedLocalName _ => reservedLocalName input
  | illegalNamespaceCharacter uri c => illegalNamespaceCharacter uri c
  | unterminatedNamespace text => unterminatedNamespace text

namespace QualifiedName

/-! ## Making -/

theorem make_eq_ok_iff {uri localName : String} {n : QualifiedName} :
    make uri localName = .ok n ↔ n.namespaceUri = uri ∧ n.localName = localName :=
  check_eq_ok_iff

theorem validNamespaceUri_iff {uri : String} :
    ValidNamespaceUri uri ↔ '{' ∉ uri.toList ∧ '}' ∉ uri.toList := by
  unfold ValidNamespaceUri isBrace
  simp only [Bool.or_eq_false_iff, beq_eq_false_iff_ne]
  constructor
  · intro h
    exact ⟨fun hmem => (h _ hmem).1 rfl, fun hmem => (h _ hmem).2 rfl⟩
  · rintro ⟨hopen, hclose⟩ c hc
    exact ⟨fun heq => hopen (heq ▸ hc), fun heq => hclose (heq ▸ hc)⟩

theorem validLocalName_iff {localName : String} :
    ValidLocalName localName ↔ localName ≠ "" ∧ localName ≠ "." ∧ localName ≠ ".." ∧
      ∀ c ∈ localName.toList, c ∉ ['/', ':', '[', ']', '*', '|', '{', '}'] := by
  have hreserved : (∀ c ∈ localName.toList, isReserved c = false) ↔
      ∀ c ∈ localName.toList, c ∉ ['/', ':', '[', ']', '*', '|', '{', '}'] := by
    refine forall₂_congr fun c _ => ?_
    rw [isReserved, ← Bool.not_eq_true, List.contains_iff_mem]
    rfl
  rw [← hreserved]
  exact ⟨fun h => ⟨h.ne_empty, h.ne_here, h.ne_up, h.unreserved⟩,
    fun ⟨hempty, hhere, hup, hunreserved⟩ => ⟨hempty, hhere, hup, hunreserved⟩⟩

theorem exists_make_iff {uri localName : String} :
    (∃ n, make uri localName = .ok n) ↔ ValidNamespaceUri uri ∧ ValidLocalName localName := by
  constructor
  · rintro ⟨n, h⟩
    obtain ⟨rfl, rfl⟩ := make_eq_ok_iff.1 h
    exact ⟨n.validUri, n.validLocal⟩
  · rintro ⟨huri, hlocal⟩
    exact ⟨⟨uri, localName, huri, hlocal⟩, make_eq_ok_iff.2 ⟨rfl, rfl⟩⟩

/-- The input of a check changes nothing but the text that errors about the local name quote. -/
theorem check_eq_mapError (uri localName input : String) :
    check uri localName input = (make uri localName).mapError (·.quoting input) := by
  unfold make check
  split
  · rfl
  · split_ifs
    · rfl
    · rfl
    · split
      · rfl
      · rfl

/-! ## Reading -/

/-- A text stands for a name: it is the namespace URI in braces and the local name after them, or,
in the default namespace, the local name alone. -/
def Writes (s : String) (n : QualifiedName) : Prop :=
  s.toList = '{' :: (n.namespaceUri.toList ++ '}' :: n.localName.toList) ∨
    n.namespaceUri = "" ∧ s = n.localName

theorem parse_iff_writes {s : String} {n : QualifiedName} : parse s = .ok n ↔ Writes s n := by
  rw [parse_eq_ok_iff]
  constructor
  · rintro ⟨w, hs, rfl⟩
    cases w with
    | bare localName valid => exact .inr ⟨rfl, (String.toList_inj.1 hs).symm⟩
    | braced uri localName valid_uri valid_local => exact .inl hs.symm
  · obtain ⟨uri, localName, valid_uri, valid_local⟩ := n
    rintro (hs | ⟨rfl, rfl⟩)
    · exact ⟨.braced uri localName valid_uri valid_local, hs.symm, rfl⟩
    · exact ⟨.bare _ valid_local, rfl, rfl⟩

/-- The error for a text that stands for no name: its brace stays open, or it is the error for the
parts that the braces tell apart, or without braces the one for the text as a local name. -/
inductive Misspells (s : String) : NameError → Prop
  | unterminated {rest : List Char} (hs : s.toList = '{' :: rest) (hclose : '}' ∉ s.toList) :
      Misspells s (.unterminatedNamespace s)
  | braced {uri localName : String} {error : NameError}
      (hs : s.toList = '{' :: (uri.toList ++ '}' :: localName.toList))
      (hclose : '}' ∉ uri.toList) (hmake : make uri localName = .error error) :
      Misspells s (error.quoting s)
  | bare {error : NameError} (hs : ∀ rest, s.toList ≠ '{' :: rest)
      (hmake : make Namespace.default s = .error error) : Misspells s error

theorem parse_eq_error_iff {s : String} {error : NameError} :
    parse s = .error error ↔ Misspells s error := by
  constructor
  · intro h
    rcases brace_cases s with ⟨rest, hs, hclose⟩ | ⟨uri, localName, hs, hclose⟩ | hs
    · rw [parse_of_open_brace hs hclose] at h
      cases h
      exact .unterminated hs (by simpa [hs] using hclose)
    · rw [parse_of_braces hs hclose, check_eq_mapError, Except.mapError_eq_error_iff] at h
      obtain ⟨error, hmake, rfl⟩ := h
      exact .braced hs hclose hmake
    · rw [parse_of_no_brace hs] at h
      exact .bare hs h
  · rintro (⟨hs, hclose⟩ | ⟨hs, hclose, hmake⟩ | ⟨hs, hmake⟩)
    · exact parse_of_open_brace hs fun hmem => hclose (hs ▸ List.mem_cons_of_mem _ hmem)
    · rw [parse_of_braces hs hclose, check_eq_mapError, hmake]
      rfl
    · rw [parse_of_no_brace hs]
      exact hmake

/-! ## Agreement -/

/-- Names are made of the texts that may be their parts, read from the texts that stand for them,
and written as one of these, so that names are told apart by their texts.  Whatever is read in vain
is refused with the error for the parts in it. -/
theorem make_parse_text_agree :
    (∀ uri localName, (∃ n, make uri localName = .ok n) ↔
      ('{' ∉ uri.toList ∧ '}' ∉ uri.toList) ∧
        localName ≠ "" ∧ localName ≠ "." ∧ localName ≠ ".." ∧
          ∀ c ∈ localName.toList, c ∉ ['/', ':', '[', ']', '*', '|', '{', '}']) ∧
    (∀ uri localName n, make uri localName = .ok n ↔
      n.namespaceUri = uri ∧ n.localName = localName) ∧
    (∀ s n, parse s = .ok n ↔ Writes s n) ∧
    (∀ n, Writes n.text n ∧ parse n.text = .ok n) ∧
    Function.Injective text ∧
    ∀ s error, parse s = .error error ↔ Misspells s error := by
  refine ⟨?_, fun _ _ _ => make_eq_ok_iff, fun _ _ => parse_iff_writes, ?_, text_injective,
    fun _ _ => parse_eq_error_iff⟩
  · intro uri localName
    rw [exists_make_iff, validNamespaceUri_iff, validLocalName_iff]
  · intro n
    exact ⟨parse_iff_writes.1 n.parse_text, n.parse_text⟩

end QualifiedName

end Observation
