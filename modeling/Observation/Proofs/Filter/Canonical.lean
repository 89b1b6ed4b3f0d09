import Mathlib.Data.List.Nodup
import Observation.Proofs.Filter.Relay
import Observation.Proofs.OrderedSet

/-!
# One record for each filter

Many records are read as the same filter: paths and names have several spellings, and values may be
listed in any order and more than once.  Only one of them is written.

* `FilterRecord.Agree` - records that differ in spelling, order and repetition only.
* `FilterRecord.IsCanonical` - records that list their values in increasing order.
* `FilterRecord.toFilter_eq_ok_iff` - what a record is read as.
* `FilterRecord.eq_iff_agree`, `EventFilter.isCanonical_toRecord` - which records are read as the
  same filter, and what is written of it.
* `FilterRecord.toRecord_canonical` - one record is written of those that agree.
-/

namespace Observation

namespace FilterRecord

/-! ## Records that agree -/

/-- One of the texts is a spelling of the name. -/
def Named (ts : List String) (n : QualifiedName) : Prop :=
  ∃ t ∈ ts, QualifiedName.parse t = .ok n

/-- The records say the same, each in its own spelling and order. -/
structure Agree (r r' : FilterRecord) : Prop where
  eventTypes : r.eventTypes = r'.eventTypes
  absPath : ∃ p p', ItemPath.parse r.absPath = .ok p ∧ ItemPath.parse r'.absPath = .ok p' ∧
    p.elements = p'.elements
  isDeep : r.isDeep = r'.isDeep
  uuids : Option.Rel (fun ts ts' => ∀ t, t ∈ ts ↔ t ∈ ts') r.uuids r'.uuids
  nodeTypeNames :
    Option.Rel (fun ts ts' => ∀ n, Named ts n ↔ Named ts' n) r.nodeTypeNames r'.nodeTypeNames
  noLocal : r.noLocal = r'.noLocal

/-- The values of each set are listed in strictly increasing order: texts by code point, and names
by namespace URI and then by local name. -/
structure IsCanonical (r : FilterRecord) : Prop where
  uuids : ∀ ts ∈ r.uuids, ts.Pairwise (· < ·) ∧ ts.Nodup
  nodeTypeNames : ∀ ts ∈ r.nodeTypeNames, ts.Nodup ∧
    ∃ names, ts.mapM QualifiedName.parse = .ok names ∧ names.Nodup ∧
      names.Pairwise fun m n => m.namespaceUri < n.namespaceUri ∨
        m.namespaceUri = n.namespaceUri ∧ m.localName < n.localName

/-! ## What is read -/

section Reading

variable {r r' : FilterRecord} {f : EventFilter}

/-- The names that are read are those that are spelled. -/
theorem named_iff_mem {ts : List String} {names : List QualifiedName}
    (h : List.Forall₂ (fun t n => QualifiedName.parse t = .ok n) ts names) (n : QualifiedName) :
    Named ts n ↔ n ∈ names := by
  induction h with
  | nil => simp [Named]
  | @cons t m ts names head _ ih =>
    have hhead : QualifiedName.parse t = .ok n ↔ n = m := by
      rw [head, Except.ok.injEq, eq_comm]
    unfold Named at ih ⊢
    rw [List.exists_mem_cons_iff, List.mem_cons, hhead, ih]

theorem readNames_some_eq_ok_iff {ts : List String} {o : Option (List QualifiedName)} :
    readNames (some ts) = .ok o ↔
      ∃ names, o = some names ∧
        List.Forall₂ (fun t n => QualifiedName.parse t = .ok n) ts names := by
  rw [readNames, Except.map_eq_ok_iff]
  simp only [Except.mapM_eq_ok_iff]
  constructor
  · rintro ⟨names, hnames, rfl⟩
    exact ⟨names, rfl, hnames⟩
  · rintro ⟨names, rfl, hnames⟩
    exact ⟨names, hnames, rfl⟩

/-- Names that are read make the same set if the same names are spelled. -/
theorem map_ofList_readNames_iff {o o' : Option (List String)}
    {names names' : Option (List QualifiedName)} (h : readNames o = .ok names)
    (h' : readNames o' = .ok names') :
    names.map OrderedSet.ofList = names'.map OrderedSet.ofList ↔
      Option.Rel (fun ts ts' => ∀ n, Named ts n ↔ Named ts' n) o o' := by
  rw [OrderedSet.map_ofList_eq_iff]
  cases o with
  | none =>
    cases h
    cases o' with
    | none =>
      cases h'
      simp
    | some ts' =>
      obtain ⟨ns', rfl, -⟩ := readNames_some_eq_ok_iff.1 h'
      simp
  | some ts =>
    obtain ⟨ns, rfl, hns⟩ := readNames_some_eq_ok_iff.1 h
    cases o' with
    | none =>
      cases h'
      simp
    | some ts' =>
      obtain ⟨ns', rfl, hns'⟩ := readNames_some_eq_ok_iff.1 h'
      simp [named_iff_mem hns, named_iff_mem hns']

/-- A record is read as the filter of its criteria if its path and its names can be read. -/
theorem toFilter_eq_ok_iff :
    r.toFilter = .ok f ↔ ∃ p names, ItemPath.parse r.absPath = .ok p ∧
      readNames r.nodeTypeNames = .ok names ∧
      f = .make ⟨r.eventTypes⟩ p r.isDeep r.uuids names r.noLocal := by
  unfold toFilter
  simp only [Except.bind_eq_ok_iff, Except.mapError_eq_ok_iff, Except.pure_eq_ok_iff]
  constructor
  · rintro ⟨p, hp, names, hnames, rfl⟩
    exact ⟨p, names, hp, hnames, rfl⟩
  · rintro ⟨p, names, hp, hnames, rfl⟩
    exact ⟨p, hp, names, hnames, rfl⟩

end Reading

end FilterRecord

/-! ## What is written -/

namespace EventFilter

theorem toRecord_injective : Function.Injective toRecord := by
  intro f g h
  have hf := f.toFilter_toRecord
  rw [h, g.toFilter_toRecord, Except.ok.injEq] at hf
  exact hf.symm

theorem isCanonical_toRecord (f : EventFilter) : f.toRecord.IsCanonical where
  uuids := by
    intro ts hts
    obtain ⟨s, -, rfl⟩ := Option.map_eq_some_iff.1 hts
    exact ⟨s.pairwise_lt_toList, s.nodup_toList⟩
  nodeTypeNames := by
    intro ts hts
    obtain ⟨s, -, rfl⟩ := Option.map_eq_some_iff.1 hts
    have hnodup : (s.toList.map QualifiedName.text).Nodup :=
      s.nodup_toList.map QualifiedName.text_injective
    have hincreasing := s.increasing.imp QualifiedName.compare_eq_lt_iff.1
    exact ⟨hnodup, s.toList, QualifiedName.mapM_parse_text s.toList, s.nodup_toList, hincreasing⟩

end EventFilter

/-! ## Records of one filter -/

namespace FilterRecord

section Canonical

variable {r r' : FilterRecord} {f f' : EventFilter}

/-- Records are read as the same filter if they agree, and only then. -/
theorem eq_iff_agree (h : r.toFilter = .ok f) (h' : r'.toFilter = .ok f') :
    f = f' ↔ r.Agree r' := by
  obtain ⟨p, names, hp, hnames, rfl⟩ := toFilter_eq_ok_iff.1 h
  obtain ⟨p', names', hp', hnames', rfl⟩ := toFilter_eq_ok_iff.1 h'
  have hsets := map_ofList_readNames_iff hnames hnames'
  unfold EventFilter.make
  rw [EventFilter.mk.injEq, TypeMask.mk.injEq, OrderedSet.map_ofList_eq_iff, hsets]
  constructor
  · rintro ⟨htypes, rfl, hdeep, huuids, hnodes, hlocal⟩
    exact ⟨htypes, ⟨p, p, hp, hp', rfl⟩, hdeep, huuids, hnodes, hlocal⟩
  · rintro ⟨htypes, ⟨q, q', hq, hq', hpq⟩, hdeep, huuids, hnodes, hlocal⟩
    rw [hp, Except.ok.injEq] at hq
    rw [hp', Except.ok.injEq] at hq'
    subst hq hq'
    exact ⟨htypes, ItemPath.ext_elements hpq, hdeep, huuids, hnodes, hlocal⟩

/-- Of two records that can be read, the same record is written if they agree, and only then; it is
canonical, and it is read as the same filter again. -/
theorem toRecord_canonical (h : r.toFilter = .ok f) (h' : r'.toFilter = .ok f') :
    (f.toRecord = f'.toRecord ↔ r.Agree r') ∧ f.toRecord.IsCanonical ∧
      f.toRecord.toFilter = r.toFilter := by
  refine ⟨?_, f.isCanonical_toRecord, ?_⟩
  · rw [EventFilter.toRecord_injective.eq_iff]
    exact eq_iff_agree h h'
  · rw [f.toFilter_toRecord, h]

/-- A record that spells and lists its criteria in its own way. -/
def unordered : FilterRecord where
  eventTypes := 65
  absPath := "/a/b[+1]"
  isDeep := true
  uuids := some ["v", "u", "v"]
  nodeTypeNames := some ["b", "{}a", "a"]
  noLocal := false

/-- The record that is written of the same filter. -/
def ordered : FilterRecord where
  eventTypes := 65
  absPath := "/a/b"
  isDeep := true
  uuids := some ["u", "v"]
  nodeTypeNames := some ["a", "b"]
  noLocal := false

theorem toRecord_unordered :
    ∃ f, unordered.toFilter = .ok f ∧ ordered.toFilter = .ok f ∧ f.toRecord = ordered ∧
      unordered.Agree ordered ∧ ordered.IsCanonical := by
  obtain ⟨f, h, h', hf⟩ : ∃ f, unordered.toFilter = .ok f ∧ ordered.toFilter = .ok f ∧
      f.toRecord = ordered := ⟨_, rfl, rfl, rfl⟩
  obtain ⟨hagree, hcanonical, -⟩ := toRecord_canonical h h'
  exact ⟨f, h, h', hf, hagree.1 rfl, hf ▸ hcanonical⟩

end Canonical

end FilterRecord

end Observation
