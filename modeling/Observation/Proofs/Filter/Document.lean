import Mathlib.Data.List.Nodup
import Observation.Filter.Record
import Observation.Proofs.Json.Records

/-!
# Documents of a filter record

One record has many documents.  As an object its fields stand in any order and among members of
other names, and as a list they stand in their own order; fields at their defaults may be left out,
absent sets may be null, and blanks and escapes are free.  All of them are read as that record.

* `FilterRecord.FieldText`, `FilterRecord.Complete` - what a field may look like, and which fields
  may be missing.
* `FilterRecord.Document`, `FilterRecord.Spells` - the documents of a record.
* `FilterRecord.draftOf` - what has been read of a record: its fields of some names, whatever their
  order.
* `FilterRecord.readsText_document` - a document is read as its record.
* `EventFilter.ofJson_of_spells` - what is decoded depends on the record only.
-/

namespace Observation

open Json

namespace FilterRecord

/-! ## Documents -/

/-- The names of the fields, in their order. -/
def fieldNames : List String :=
  fields.map Field.name

/-- The texts of a set of texts: a list of them, or null if it is absent. -/
inductive SetText : Option (List String) → List Char → Prop
  | absent : SetText none ['n', 'u', 'l', 'l']
  | present {ts : List String} {cs : List Char} (list : Written (.texts ts) cs) :
      SetText (some ts) cs

/-- The texts of the field of a name. -/
inductive FieldText (r : FilterRecord) : String → List Char → Prop
  | eventTypes {cs : List Char} (text : Written (.number r.eventTypes.toNat) cs) :
      FieldText r "eventTypes" cs
  | absPath {cs : List Char} (text : Written (.text r.absPath) cs) : FieldText r "absPath" cs
  | isDeep {cs : List Char} (text : Written (.boolean r.isDeep) cs) : FieldText r "isDeep" cs
  | uuids {cs : List Char} (text : SetText r.uuids cs) : FieldText r "uuids" cs
  | nodeTypeNames {cs : List Char} (text : SetText r.nodeTypeNames cs) :
      FieldText r "nodeTypeNames" cs
  | noLocal {cs : List Char} (text : Written (.boolean r.noLocal) cs) : FieldText r "noLocal" cs

/-- The texts under a name in an object: those of the field of that name, or those of any value if
there is none. -/
inductive MemberText (r : FilterRecord) (name : String) (cs : List Char) : Prop
  | field (text : r.FieldText name cs)
  | other (unknown : name ∉ fieldNames) (value : ValueText cs)

/-- The names are enough: the fields of all others are at their defaults. -/
structure Complete (r : FilterRecord) (names : List String) : Prop where
  eventTypes : "eventTypes" ∈ names
  absPath : "absPath" ∈ names
  isDeep : "isDeep" ∉ names → r.isDeep = false
  uuids : "uuids" ∉ names → r.uuids = none
  nodeTypeNames : "nodeTypeNames" ∉ names → r.nodeTypeNames = none
  noLocal : "noLocal" ∉ names → r.noLocal = false

/-- The documents of a record: objects that hold each of its fields at most once, and lists of its
fields from the first one on.  The other members of an object may have any names that are texts; one
that holds half of a surrogate pair is none, though a value under such a name may hold it. -/
inductive Document (r : FilterRecord) : List Char → Prop
  | object {members : List (String × List Char)} {cs : List Char} (layout : ObjectText members cs)
      (texts : ∀ m ∈ members, r.MemberText m.1 m.2)
      (once : ∀ name ∈ fieldNames, (members.map Prod.fst).count name ≤ 1)
      (complete : r.Complete (members.map Prod.fst)) : Document r cs
  | list {names : List String} {items : List (List Char)} {cs : List Char}
      (layout : Enclosed '[' ']' items cs) (texts : List.Forall₂ r.FieldText names items)
      (order : names <+: fieldNames) (complete : r.Complete names) : Document r cs

/-- The text holds a document of the record. -/
def Spells (r : FilterRecord) (s : String) : Prop :=
  Holds r.Document s

/-! ## Drafts -/

/-- The draft that holds the fields of some names. -/
def draftOf (r : FilterRecord) (names : List String) : Draft where
  eventTypes := if "eventTypes" ∈ names then some r.eventTypes else none
  absPath := if "absPath" ∈ names then some r.absPath else none
  isDeep := if "isDeep" ∈ names then some r.isDeep else none
  uuids := if "uuids" ∈ names then some r.uuids else none
  nodeTypeNames := if "nodeTypeNames" ∈ names then some r.nodeTypeNames else none
  noLocal := if "noLocal" ∈ names then some r.noLocal else none

section Draft

variable {r : FilterRecord} {name : String} {names : List String} {cs : List Char}

/-- A field that is not among some names has its default anyway. -/
theorem getD_ite_mem {α : Type} {a default : α} (h : name ∉ names → a = default) :
    (if name ∈ names then some a else none).getD default = a := by
  split
  · rfl
  · next hmem => exact (h hmem).symm

/-- A draft of enough fields is the record. -/
theorem build_draftOf (h : r.Complete names) : (r.draftOf names).build = .ok r := by
  have heventTypes : (r.draftOf names).eventTypes = some r.eventTypes := if_pos h.eventTypes
  have habsPath : (r.draftOf names).absPath = some r.absPath := if_pos h.absPath
  have hisDeep : (r.draftOf names).isDeep.getD false = r.isDeep := getD_ite_mem h.isDeep
  have huuids : (r.draftOf names).uuids.getD none = r.uuids := getD_ite_mem h.uuids
  have hnodeTypeNames : (r.draftOf names).nodeTypeNames.getD none = r.nodeTypeNames :=
    getD_ite_mem h.nodeTypeNames
  have hnoLocal : (r.draftOf names).noLocal.getD false = r.noLocal := getD_ite_mem h.noLocal
  unfold Draft.build
  rw [heventTypes, habsPath, hisDeep, huuids, hnodeTypeNames, hnoLocal]
  rfl

theorem SetText.starts {o : Option (List String)} (h : SetText o cs) : Starts cs := by
  cases h with
  | absent => exact ValueText.null.starts
  | present list => exact list.starts

theorem SetText.readsText {o : Option (List String)} (h : SetText o cs) :
    ReadsText (optional (listOf text)) cs o := by
  cases h with
  | absent => exact readsText_null _
  | present list => exact (reads_optional (reads_texts _)).readsText list

/-- A name of no field says nothing about a draft. -/
theorem draftOf_unknown (h : name ∉ fieldNames) :
    r.draftOf (names ++ [name]) = r.draftOf names := by
  simp only [fieldNames, fields, Field.required, Field.defaulted, List.map_cons, List.map_nil,
    List.mem_cons, List.not_mem_nil, or_false, not_or] at h
  simp [draftOf, h, eq_comm]

theorem find?_unknown (h : name ∉ fieldNames) :
    fields.find? (fun f => f.name == name) = none := by
  rw [List.find?_eq_none]
  intro f hf heq
  rw [beq_iff_eq] at heq
  exact h (List.mem_map.2 ⟨f, hf, heq⟩)

theorem find?_name : ∀ f ∈ fields, fields.find? (fun g => g.name == f.name) = some f := by
  intro f hf
  simp only [fields, List.mem_cons, List.not_mem_nil, or_false] at hf
  rcases hf with rfl | rfl | rfl | rfl | rfl | rfl <;> rfl

theorem name_of_isRequired :
    ∀ f ∈ fields, f.isRequired = true → f.name ∈ ["eventTypes", "absPath"] := by
  simp [fields, Field.required, Field.defaulted]

theorem FieldText.name_mem (h : r.FieldText name cs) : name ∈ fieldNames := by
  cases h <;> decide

theorem FieldText.starts (h : r.FieldText name cs) : Starts cs := by
  cases h with
  | eventTypes text => exact text.starts
  | absPath text => exact text.starts
  | isDeep text => exact text.starts
  | uuids text => exact text.starts
  | nodeTypeNames text => exact text.starts
  | noLocal text => exact text.starts

/-- A field reads its value and puts it into the draft. -/
theorem exists_field {f : Json.Field Draft} {d d' : Draft} {α : Type} {value : Reader α} {a : α}
    {set : α → Draft} (hfind : fields.find? (fun f => f.name == name) = some f)
    (hempty : f.isFilled d = false) (hfill : f.fill d = do return set (← value))
    (hset : set a = d') (hvalue : ReadsText value cs a) :
    ∃ f, fields.find? (fun f => f.name == name) = some f ∧ f.isFilled d = false ∧
      ReadsText (f.fill d) cs d' := by
  refine ⟨f, hfind, hempty, ?_⟩
  rw [hfill, ← hset]
  exact readsText_set hvalue set

/-- The text of a field fills that field, if it is not filled yet. -/
theorem FieldText.exists_fills (h : r.FieldText name cs) (hname : name ∉ names) :
    ∃ f, fields.find? (fun f => f.name == name) = some f ∧
      f.isFilled (r.draftOf names) = false ∧
      ReadsText (f.fill (r.draftOf names)) cs (r.draftOf (names ++ [name])) := by
  cases h with
  | eventTypes text =>
    have hempty : (r.draftOf names).eventTypes = none := if_neg hname
    exact exists_field rfl (by simp [Field.required, hempty]) rfl (by simp [draftOf])
      ((reads_word _).readsText text)
  | absPath text =>
    have hempty : (r.draftOf names).absPath = none := if_neg hname
    exact exists_field rfl (by simp [Field.required, hempty]) rfl (by simp [draftOf])
      ((reads_text _).readsText text)
  | isDeep text =>
    have hempty : (r.draftOf names).isDeep = none := if_neg hname
    exact exists_field rfl (by simp [Field.defaulted, hempty]) rfl (by simp [draftOf])
      ((reads_flag _).readsText text)
  | uuids text =>
    have hempty : (r.draftOf names).uuids = none := if_neg hname
    exact exists_field rfl (by simp [Field.defaulted, hempty]) rfl (by simp [draftOf])
      text.readsText
  | nodeTypeNames text =>
    have hempty : (r.draftOf names).nodeTypeNames = none := if_neg hname
    exact exists_field rfl (by simp [Field.defaulted, hempty]) rfl (by simp [draftOf])
      text.readsText
  | noLocal text =>
    have hempty : (r.draftOf names).noLocal = none := if_neg hname
    exact exists_field rfl (by simp [Field.defaulted, hempty]) rfl (by simp [draftOf])
      ((reads_flag _).readsText text)

end Draft

/-! ## Reading -/

section Reading

variable {r : FilterRecord} {cs : List Char}

/-- Members of any names, in any order, fill the fields that they are about. -/
theorem fillsText_members {members : List (String × List Char)} (names : List String)
    (htexts : ∀ m ∈ members, r.MemberText m.1 m.2)
    (honce : ∀ name ∈ fieldNames, (names ++ members.map Prod.fst).count name ≤ 1) :
    FillsText fields (r.draftOf names) members (r.draftOf (names ++ members.map Prod.fst)) := by
  induction members generalizing names with
  | nil =>
    rw [List.map_nil, List.append_nil]
    exact .nil _
  | cons m members ih =>
    obtain ⟨name, text⟩ := m
    obtain ⟨htext, htexts⟩ := List.forall_mem_cons.1 htexts
    have hnames : names ++ ((name, text) :: members).map Prod.fst =
        (names ++ [name]) ++ members.map Prod.fst := by
      simp
    rw [hnames] at honce ⊢
    have htail := ih (names ++ [name]) htexts honce
    refine .cons ?_ htail
    cases htext with
    | field htext =>
      have hknown := htext.name_mem
      have hnew : name ∉ names := by
        intro hmem
        have hcount := honce name hknown
        have hpos := List.count_pos_iff.2 hmem
        simp only [List.count_append, List.count_cons_self, List.count_nil] at hcount
        omega
      obtain ⟨f, hfind, hempty, hreads⟩ := htext.exists_fills hnew
      exact .field hfind hempty hreads
    | other hunknown hvalue =>
      rw [draftOf_unknown hunknown]
      exact .other (find?_unknown hunknown) hvalue

/-- No field that is left has the name of one that is done. -/
theorem name_notMem_of_left {done left : List (Json.Field Draft)} (hfields : done ++ left = fields)
    {f : Json.Field Draft} (hf : f ∈ left) : f.name ∉ done.map Field.name := by
  have hnodup : (done.map Field.name ++ left.map Field.name).Nodup := by
    rw [← List.map_append, hfields]
    decide
  intro hdone
  exact List.disjoint_of_nodup_append hnodup hdone (List.mem_map_of_mem hf)

/-- Items in the order of the fields fill the first of them. -/
theorem fillsInOrder_items {names : List String} {items : List (List Char)}
    {done left : List (Json.Field Draft)} (hfields : done ++ left = fields)
    (htexts : List.Forall₂ r.FieldText names items) (horder : names <+: left.map Field.name)
    (hcomplete : r.Complete (done.map Field.name ++ names)) :
    FillsInOrder left (r.draftOf (done.map Field.name)) items
      (r.draftOf (done.map Field.name ++ names)) := by
  induction htexts generalizing done left with
  | nil =>
    rw [List.append_nil] at hcomplete ⊢
    refine .nil fun f hf => ?_
    -- A field that has to be there is among those that are done.
    by_contra hrequired
    have hfield : f ∈ fields := hfields ▸ List.mem_append_right done hf
    have hname := name_of_isRequired f hfield (by simpa using hrequired)
    have hdone : f.name ∈ done.map Field.name := by
      simp only [List.mem_cons, List.not_mem_nil, or_false] at hname
      rcases hname with hname | hname
      · exact hname ▸ hcomplete.eventTypes
      · exact hname ▸ hcomplete.absPath
    exact name_notMem_of_left hfields hf hdone
  | @cons name cs names items head tail ih =>
    cases left with
    | nil => simp at horder
    | cons f left =>
      rw [List.map_cons, List.cons_prefix_cons] at horder
      obtain ⟨rfl, horder⟩ := horder
      have hfield : f ∈ fields := hfields ▸ List.mem_append_right done List.mem_cons_self
      have hnew := name_notMem_of_left hfields List.mem_cons_self
      obtain ⟨g, hfind, -, hreads⟩ := head.exists_fills hnew
      rw [find?_name f hfield, Option.some.injEq] at hfind
      subst hfind
      have hfields' : (done ++ [f]) ++ left = fields := by simpa using hfields
      have hnames : done.map Field.name ++ f.name :: names =
          (done ++ [f]).map Field.name ++ names := by
        simp
      have hmap : done.map Field.name ++ [f.name] = (done ++ [f]).map Field.name := by
        simp
      rw [hnames] at hcomplete ⊢
      rw [hmap] at hreads
      exact .cons head.starts hreads (ih hfields' horder hcomplete)

/-- A document is read as its record. -/
theorem readsText_document (h : r.Document cs) : ReadsText reader cs r := by
  cases h with
  | @object members _ layout texts once complete =>
    have hfills := fillsText_members [] texts (by simpa using once)
    exact readsText_object _ hfills (build_draftOf complete) layout
  | @list names items _ layout texts order complete =>
    have hfills := fillsInOrder_items (List.nil_append fields) texts order complete
    exact readsText_list hfills (build_draftOf complete) layout

theorem ofJson_document {s : String} (h : r.Spells s) : ofJson s = .ok r :=
  document_of_holds h fun _ => readsText_document

end Reading

end FilterRecord

/-! ## Filters -/

/-- What is decoded of a document, a filter or an error, is what its record decodes to. -/
theorem EventFilter.ofJson_of_spells {r : FilterRecord} {s : String} (h : r.Spells s) :
    ofJson s = r.toFilter := by
  unfold ofJson
  rw [FilterRecord.ofJson_document h]
  rfl

namespace FilterRecord

/-- A record of nothing but what has to be there. -/
def bare : FilterRecord where
  eventTypes := 3
  absPath := "/"
  isDeep := false
  uuids := none
  nodeTypeNames := none
  noLocal := false

/-- A member of another name, nested, before all others; the slash escaped, an absent set null, and
blanks in between. -/
def bareText : String :=
  "\x7b\"x\":[null], \"absPath\":\"\\/\",\"uuids\":null,\"eventTypes\":3\x7d\n"

/-- The first fields in their order, the others left off. -/
def bareList : String :=
  "[3,\"/\",false,null]"

theorem fieldText_eventTypes_bare : bare.FieldText "eventTypes" "3".toList := by
  have hdigits : intChars 3 = "3".toList := by decide
  exact .eventTypes (hdigits ▸ .number 3)

theorem namedMember_escape (name : String) (cs : List Char) :
    NamedMember (name, cs) ('"' :: (name.toList.flatMap escapeChar ++ '"' :: ':' :: cs)) :=
  ⟨_, stringSpelling_escape _, .mk blanks_nil blanks_nil⟩

theorem spells_bareText : bare.Spells bareText := by
  let members : List (String × List Char) :=
    [("x", "[null]".toList), ("absPath", "\"\\/\"".toList), ("uuids", "null".toList),
      ("eventTypes", "3".toList)]
  have hblank : Blanks [' '] := by simp [Blanks, isBlank]
  have hbreak : Blanks ['\n'] := by simp [Blanks, isBlank]
  have hx : bare.MemberText "x" "[null]".toList :=
    .other (by decide)
      (.list (List.forall_mem_singleton.2 .null) (.cons blanks_nil (.nil blanks_nil)))
  have hroot : StringSpelling "/".toList ['\\', '/'] := .cons (.short rfl) .nil
  have hpath : bare.MemberText "absPath" "\"\\/\"".toList := .field (.absPath (.text hroot))
  have huuids : bare.MemberText "uuids" "null".toList := .field (.uuids .absent)
  have htypes : bare.MemberText "eventTypes" "3".toList := .field fieldText_eventTypes_bare
  have hlayout : ObjectText members _ :=
    ⟨_, .cons (namedMember_escape _ _) (.cons (namedMember_escape _ _)
      (.cons (namedMember_escape _ _) (.cons (namedMember_escape _ _) .nil))),
      .cons blanks_nil (.cons blanks_nil hblank (.cons blanks_nil blanks_nil
        (.cons blanks_nil blanks_nil (.nil blanks_nil))))⟩
  have htexts : ∀ m ∈ members, bare.MemberText m.1 m.2 :=
    List.forall_mem_cons.2 ⟨hx, List.forall_mem_cons.2 ⟨hpath,
      List.forall_mem_cons.2 ⟨huuids, List.forall_mem_singleton.2 htypes⟩⟩⟩
  have hcomplete : bare.Complete (members.map Prod.fst) :=
    ⟨by decide, by decide, fun _ => rfl, fun _ => rfl, fun _ => rfl, fun _ => rfl⟩
  have hdocument := Document.object hlayout htexts (by decide) hcomplete
  exact ⟨[], _, ['\n'], blanks_nil, hbreak, hdocument, rfl⟩

theorem spells_bareList : bare.Spells bareList := by
  let items : List (List Char) :=
    ["3".toList, "\"/\"".toList, "false".toList, "null".toList]
  have hroot : StringSpelling "/".toList ['/'] := stringSpelling_escape _
  have htexts : List.Forall₂ bare.FieldText ["eventTypes", "absPath", "isDeep", "uuids"] items :=
    .cons fieldText_eventTypes_bare (.cons (.absPath (.text hroot))
      (.cons (.isDeep (.boolean false)) (.cons (.uuids .absent) .nil)))
  have hlayout : Enclosed '[' ']' items _ :=
    .cons blanks_nil (.cons blanks_nil blanks_nil (.cons blanks_nil blanks_nil
      (.cons blanks_nil blanks_nil (.nil blanks_nil))))
  have hcomplete : bare.Complete ["eventTypes", "absPath", "isDeep", "uuids"] :=
    ⟨by decide, by decide, fun _ => rfl, fun _ => rfl, fun _ => rfl, fun _ => rfl⟩
  have hdocument := Document.list hlayout htexts (by decide) hcomplete
  exact ⟨[], _, [], blanks_nil, blanks_nil, hdocument, rfl⟩

end FilterRecord

/-- An object and a list that hold the same record. -/
theorem EventFilter.ofJson_bareText :
    (FilterRecord.bare.Spells FilterRecord.bareText ∧
      ofJson FilterRecord.bareText = FilterRecord.bare.toFilter) ∧
    FilterRecord.bare.Spells FilterRecord.bareList ∧
      ofJson FilterRecord.bareList = FilterRecord.bare.toFilter :=
  ⟨⟨FilterRecord.spells_bareText, ofJson_of_spells FilterRecord.spells_bareText⟩,
    FilterRecord.spells_bareList, ofJson_of_spells FilterRecord.spells_bareList⟩

end Observation
