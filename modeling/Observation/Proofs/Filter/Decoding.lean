import Observation.Proofs.Filter.Canonical
import Observation.Proofs.Filter.Document
import Observation.Proofs.Json.Drafts

/-!
# What is decoded as a filter

A text is read as a record only if it is one of its documents, so what goes wrong before there is a
record has to do with the text alone, and what goes wrong after that with the record alone.

* `FilterRecord.Draft.Within` - drafts that hold some of the fields of a record.
* `FilterRecord.ofJson_eq_ok_iff` - the texts that are read as a record are its documents.
* `FilterRecord.Faults`, `FilterRecord.toFilter_eq_error_iff` - what is wrong with a record.
* `EventFilter.ofJson_failures` - the two ways in which decoding goes wrong.
-/

namespace Observation

open Json

namespace FilterRecord

/-- What the draft holds is the same in the record. -/
structure Draft.Within (r : FilterRecord) (d : Draft) : Prop where
  eventTypes : ∀ v ∈ d.eventTypes, v = r.eventTypes
  absPath : ∀ v ∈ d.absPath, v = r.absPath
  isDeep : ∀ v ∈ d.isDeep, v = r.isDeep
  uuids : ∀ v ∈ d.uuids, v = r.uuids
  nodeTypeNames : ∀ v ∈ d.nodeTypeNames, v = r.nodeTypeNames
  noLocal : ∀ v ∈ d.noLocal, v = r.noLocal

theorem takes_set : Takes (optional (listOf text)) SetText := by
  intro s o rest h
  obtain ⟨cs, ⟨rfl, rfl⟩ | ⟨ts, rfl, hts⟩, hleads⟩ := takes_optional takes_texts s o rest h
  · exact ⟨_, .absent, hleads⟩
  · exact ⟨cs, .present hts, hleads⟩

section Fields

variable {r : FilterRecord} {f : Json.Field Draft} {d d' : Draft} {s rest : List Char}

theorem forall_mem_of_isSome_eq_false {α : Type} {o : Option α} {a : α} (h : o.isSome = false) :
    ∀ v ∈ o, v = a := by
  intro v hv
  rw [Option.mem_def.1 hv] at h
  cases h

/-- The text of a field that was empty is that of the record, if the draft holds parts of the
record after it. -/
theorem exists_text_of_fill (hf : f ∈ fields) (hfill : f.fill d s = .ok (d', rest))
    (hempty : f.isFilled d = false) (hd' : d'.Within r) :
    d.Within r ∧ ∃ cs, r.FieldText f.name cs ∧ Leads cs s rest := by
  obtain ⟨heventTypes, habsPath, hisDeep, huuids, hnodeTypeNames, hnoLocal⟩ := hd'
  simp only [fields, List.mem_cons, List.not_mem_nil, or_false] at hf
  rcases hf with rfl | rfl | rfl | rfl | rfl | rfl <;>
    obtain ⟨v, hv, rfl⟩ := exists_of_set hfill <;>
    have habsent := fun a => forall_mem_of_isSome_eq_false (a := a) hempty
  · obtain ⟨cs, hcs, hleads⟩ := takes_word s v rest hv
    obtain rfl := heventTypes v rfl
    exact ⟨⟨habsent _, habsPath, hisDeep, huuids, hnodeTypeNames, hnoLocal⟩, cs,
      .eventTypes hcs, hleads⟩
  · obtain ⟨cs, hcs, hleads⟩ := takes_text s v rest hv
    obtain rfl := habsPath v rfl
    exact ⟨⟨heventTypes, habsent _, hisDeep, huuids, hnodeTypeNames, hnoLocal⟩, cs,
      .absPath hcs, hleads⟩
  · obtain ⟨cs, hcs, hleads⟩ := takes_flag s v rest hv
    obtain rfl := hisDeep v rfl
    exact ⟨⟨heventTypes, habsPath, habsent _, huuids, hnodeTypeNames, hnoLocal⟩, cs,
      .isDeep hcs, hleads⟩
  · obtain ⟨cs, hcs, hleads⟩ := takes_set s v rest hv
    obtain rfl := huuids v rfl
    exact ⟨⟨heventTypes, habsPath, hisDeep, habsent _, hnodeTypeNames, hnoLocal⟩, cs,
      .uuids hcs, hleads⟩
  · obtain ⟨cs, hcs, hleads⟩ := takes_set s v rest hv
    obtain rfl := hnodeTypeNames v rfl
    exact ⟨⟨heventTypes, habsPath, hisDeep, huuids, habsent _, hnoLocal⟩, cs,
      .nodeTypeNames hcs, hleads⟩
  · obtain ⟨cs, hcs, hleads⟩ := takes_flag s v rest hv
    obtain rfl := hnoLocal v rfl
    exact ⟨⟨heventTypes, habsPath, hisDeep, huuids, hnodeTypeNames, habsent _⟩, cs,
      .noLocal hcs, hleads⟩

theorem isFilled_of_fill (hf : f ∈ fields) (hfill : f.fill d s = .ok (d', rest)) :
    ∀ g ∈ fields, g.isFilled d' = (g.name == f.name || g.isFilled d) := by
  simp only [fields, List.mem_cons, List.not_mem_nil, or_false] at hf
  rcases hf with rfl | rfl | rfl | rfl | rfl | rfl <;>
  · obtain ⟨v, hv, rfl⟩ := exists_of_set hfill
    simp [fields, Field.required, Field.defaulted]

theorem fieldsFit (r : FilterRecord) : FieldsFit fields (Draft.Within r) r.FieldText where
  distinct f hf g hg heq := by
    have hfind := find?_name g hg
    rw [heq, find?_name f hf, Option.some.injEq] at hfind
    exact hfind.symm
  text _ hf := exists_text_of_fill hf
  filled _ hf := isFilled_of_fill hf

theorem itemsLeft_fields : ItemsLeft fields fields {} where
  mem _ hf := hf
  nodup := by decide
  empty := by simp [fields, Field.required, Field.defaulted]

end Fields

section Build

variable {r : FilterRecord} {d : Draft}

/-- What a record is made of: two fields have to be there, the others have defaults. -/
theorem Draft.build_eq_ok_iff : d.build = .ok r ↔ d.eventTypes = some r.eventTypes ∧
    d.absPath = some r.absPath ∧ d.isDeep.getD false = r.isDeep ∧ d.uuids.getD none = r.uuids ∧
    d.nodeTypeNames.getD none = r.nodeTypeNames ∧ d.noLocal.getD false = r.noLocal := by
  obtain ⟨eventTypes, absPath, isDeep, uuids, nodeTypeNames, noLocal⟩ := d
  obtain ⟨eventTypes', absPath', isDeep', uuids', nodeTypeNames', noLocal'⟩ := r
  cases eventTypes with
  | none => simp [build, filled, bind, Except.bind]
  | some eventTypes =>
    cases absPath with
    | none => simp [build, filled, bind, Except.bind]
    | some absPath => simp [build, filled, bind, Except.bind, pure, Except.pure]

theorem eq_of_getD {α : Type} {o : Option α} {default a : α} (h : o.getD default = a) :
    ∀ v ∈ o, v = a := by
  intro v hv
  rwa [Option.mem_def.1 hv, Option.getD_some] at h

theorem Draft.within_of_build (h : d.build = .ok r) : d.Within r := by
  obtain ⟨heventTypes, habsPath, hisDeep, huuids, hnodeTypeNames, hnoLocal⟩ := build_eq_ok_iff.1 h
  refine ⟨?_, ?_, eq_of_getD hisDeep, eq_of_getD huuids, eq_of_getD hnodeTypeNames,
    eq_of_getD hnoLocal⟩
  · rw [heventTypes]
    exact fun v hv => (Option.some.inj hv).symm
  · rw [habsPath]
    exact fun v hv => (Option.some.inj hv).symm

theorem eq_default_of_getD {α : Type} {o : Option α} {default a : α} (h : o.getD default = a)
    (hnone : ¬o.isSome = true) : a = default := by
  rw [Option.not_isSome_iff_eq_none.1 hnone, Option.getD_none] at h
  exact h.symm

/-- A record is made if the fields filled are enough, and then all others are at their defaults. -/
theorem complete_of_build {names : List String} (h : d.build = .ok r)
    (hfilled : ∀ f ∈ fields, f.isFilled d = true ↔
      f.isFilled ({} : Draft) = true ∨ f.name ∈ names) : r.Complete names := by
  obtain ⟨heventTypes, habsPath, hisDeep, huuids, hnodeTypeNames, hnoLocal⟩ :=
    Draft.build_eq_ok_iff.1 h
  simp only [fields, Field.required, Field.defaulted, List.forall_mem_cons, Option.isSome_none,
    Bool.false_eq_true, false_or] at hfilled
  obtain ⟨heventTypes', habsPath', hisDeep', huuids', hnodeTypeNames', hnoLocal', -⟩ := hfilled
  refine ⟨heventTypes'.1 (by rw [heventTypes]; rfl), habsPath'.1 (by rw [habsPath]; rfl),
    fun hn => eq_default_of_getD hisDeep (mt hisDeep'.1 hn),
    fun hn => eq_default_of_getD huuids (mt huuids'.1 hn),
    fun hn => eq_default_of_getD hnodeTypeNames (mt hnodeTypeNames'.1 hn),
    fun hn => eq_default_of_getD hnoLocal (mt hnoLocal'.1 hn)⟩

end Build

/-! ## Documents -/

section Documents

variable {r : FilterRecord} {s : String}

/-- What is read as a record is one of its documents. -/
theorem takes_reader : Takes reader Document := by
  intro s r rest h
  obtain ⟨cs, ⟨d, hbuild, htaken⟩, hleads⟩ :=
    takes_record _ fieldsFit itemsLeft_fields Draft.within_of_build s r rest h
  refine ⟨cs, ?_, hleads⟩
  cases htaken with
  | @object members layout taken =>
    have htexts : ∀ m ∈ members, r.MemberText m.1 m.2 := by
      intro m hm
      rcases taken.texts m hm with hfield | ⟨hunknown, hvalue⟩
      · exact .field hfield
      · exact .other hunknown hvalue
    have honce : ∀ name ∈ fieldNames, (members.map Prod.fst).count name ≤ 1 := by
      intro name hname
      obtain ⟨f, hf, rfl⟩ := List.mem_map.1 hname
      exact Nat.le_of_add_right_le (taken.once f hf)
    exact .object layout htexts honce (complete_of_build hbuild taken.filled)
  | list layout taken =>
    exact .list layout taken.texts taken.order (complete_of_build hbuild taken.filled)

/-- The texts that are read as a record are its documents. -/
theorem ofJson_eq_ok_iff : ofJson s = .ok r ↔ r.Spells s :=
  ⟨holds_of_document takes_reader, ofJson_document⟩

end Documents

/-! ## Records -/

/-- What is wrong with a record: its path, or else the first of its names that is none. -/
inductive Faults (r : FilterRecord) : Failure → Prop
  | path {error : PathError} (hpath : ItemPath.parse r.absPath = .error error) :
      r.Faults (.invalidFilterRecord "absPath" error.message)
  | name {path : ItemPath} {before after : List String} {name : String} {error : NameError}
      (hpath : ItemPath.parse r.absPath = .ok path)
      (hnames : r.nodeTypeNames = some (before ++ name :: after))
      (hbefore : ∀ n ∈ before, ∃ q, QualifiedName.parse n = .ok q)
      (hname : QualifiedName.parse name = .error error) :
      r.Faults (.invalidFilterRecord "nodeTypeNames" error.message)

section Faults

variable {r : FilterRecord} {failure : Failure}

theorem readNames_eq_error_iff {names : Option (List String)} {error : NameError} :
    readNames names = .error error ↔ ∃ before name after, names = some (before ++ name :: after) ∧
      (∀ n ∈ before, ∃ q, QualifiedName.parse n = .ok q) ∧
      QualifiedName.parse name = .error error := by
  cases names with
  | none => simp [readNames]
  | some names =>
    have hmap : readNames (some names) = .error error ↔
        names.mapM QualifiedName.parse = .error error := by
      rw [readNames]
      cases names.mapM QualifiedName.parse <;> simp [Functor.map, Except.map]
    simp only [hmap, Except.mapM_eq_error_iff, Option.some.injEq]

theorem exists_readNames_iff {names : Option (List String)} : (∃ o, readNames names = .ok o) ↔
    ∀ ns ∈ names, ∀ n ∈ ns, ∃ q, QualifiedName.parse n = .ok q := by
  cases names with
  | none => simp [readNames]
  | some ns => simp [readNames, Except.exists_mapM_eq_ok_iff]

theorem toFilter_eq_error_iff : r.toFilter = .error failure ↔ r.Faults failure := by
  simp only [toFilter, Except.bind_eq_error_iff, Except.mapError_eq_error_iff,
    Except.mapError_eq_ok_iff, readNames_eq_error_iff]
  constructor
  · rintro (⟨error, hpath, rfl⟩ | ⟨path, hpath, h⟩)
    · exact .path hpath
    · obtain ⟨error, ⟨before, name, after, hnames, hbefore, hname⟩, rfl⟩ | ⟨names, -, hmade⟩ := h
      · exact .name hpath hnames hbefore hname
      · cases hmade
  · rintro (hpath | ⟨hpath, hnames, hbefore, hname⟩)
    · exact .inl ⟨_, hpath, rfl⟩
    · exact .inr ⟨_, hpath, .inl ⟨_, ⟨_, _, _, hnames, hbefore, hname⟩, rfl⟩⟩

/-- A record is that of a filter if its path and all of its names can be read, whatever else it
holds. -/
theorem exists_toFilter_iff : (∃ f, r.toFilter = .ok f) ↔
    (∃ path, ItemPath.parse r.absPath = .ok path) ∧
      ∀ names ∈ r.nodeTypeNames, ∀ n ∈ names, ∃ q, QualifiedName.parse n = .ok q := by
  rw [← exists_readNames_iff]
  constructor
  · rintro ⟨f, hf⟩
    obtain ⟨path, names, hpath, hnames, -⟩ := toFilter_eq_ok_iff.1 hf
    exact ⟨⟨path, hpath⟩, names, hnames⟩
  · rintro ⟨⟨path, hpath⟩, names, hnames⟩
    exact ⟨_, toFilter_eq_ok_iff.2 ⟨path, names, hpath, hnames, rfl⟩⟩

end Faults

end FilterRecord

/-! ## Texts -/

namespace EventFilter

variable {s : String} {failure : Failure}

theorem ofJson_eq_error_iff : ofJson s = .error failure ↔
    (∃ fault, FilterRecord.ofJson s = .error fault ∧
      Failure.serialization fault.message = failure) ∨
    ∃ r : FilterRecord, r.Spells s ∧ r.Faults failure := by
  simp only [ofJson, Except.bind_eq_error_iff, Except.mapError_eq_error_iff,
    Except.mapError_eq_ok_iff, FilterRecord.ofJson_eq_ok_iff, FilterRecord.toFilter_eq_error_iff]

theorem exists_fault_iff :
    (∃ fault, FilterRecord.ofJson s = .error fault) ↔ ∀ r : FilterRecord, ¬r.Spells s := by
  simp only [← FilterRecord.ofJson_eq_ok_iff]
  constructor
  · rintro ⟨fault, hfault⟩ r hr
    rw [hfault] at hr
    cases hr
  · exact Except.exists_eq_error

/-- Decoding goes wrong in two ways only.  A text that is no document of any record is refused as
such.  A document is refused as its record is, which is for its path or else for the first of its
names that is none, and never for anything else. -/
theorem ofJson_failures :
    (∀ s, (∃ reason, ofJson s = .error (.serialization reason)) ↔
      ∀ r : FilterRecord, ¬r.Spells s) ∧
    (∀ (r : FilterRecord) s, r.Spells s → ofJson s = r.toFilter) ∧
    ∀ r : FilterRecord, (∀ failure, r.toFilter = .error failure ↔ r.Faults failure) ∧
      ((∃ f, r.toFilter = .ok f) ↔ (∃ path, ItemPath.parse r.absPath = .ok path) ∧
        ∀ names ∈ r.nodeTypeNames, ∀ n ∈ names, ∃ q, QualifiedName.parse n = .ok q) := by
  refine ⟨fun s => ?_, fun r s h => ?_, fun r => ⟨fun _ => FilterRecord.toFilter_eq_error_iff,
    FilterRecord.exists_toFilter_iff⟩⟩
  · rw [← exists_fault_iff]
    constructor
    · rintro ⟨reason, h⟩
      rcases ofJson_eq_error_iff.1 h with ⟨fault, hfault, -⟩ | ⟨r, -, hfaults⟩
      · exact ⟨fault, hfault⟩
      · cases hfaults
    · rintro ⟨fault, hfault⟩
      exact ⟨_, ofJson_eq_error_iff.2 (.inl ⟨fault, hfault, rfl⟩)⟩
  · unfold ofJson
    rw [FilterRecord.ofJson_document h]
    rfl

end EventFilter

end Observation
