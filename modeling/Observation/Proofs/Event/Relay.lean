import Observation.Event.Record
import Observation.Proofs.Json.Compact
import Observation.Proofs.Json.Records
import Observation.Proofs.OrderedSet
import Observation.Proofs.Path.Text
import Observation.Text.Blank

/-!
# Events handed on

An event is written on one line, and is read back from there unchanged.

* `EventType.reads_reader`, `Parent.reads_reader` and others - the parts of an event.
* `Event.fills_draft` - the members of an event in JSON fill its fields.
* `Event.ofJson_toJson` - what is written is read back.
* `Event.isBlankText_toJson`, `Event.uncontrolled_toJson` - it is one line, and not a blank one.
* `Event.toJson_faithful` - there is one text for each event.
-/

namespace Observation

open Json

/-! ## Parts -/

theorem QualifiedName.reads_reader (n : QualifiedName) : Reads reader (.text n.text) n := by
  apply reads_mapped (reads_text n.text)
  rw [parse_text]
  rfl

theorem ItemPath.reads_reader (p : ItemPath) : Reads reader (.text p.text) p := by
  apply reads_mapped (reads_text p.text)
  rw [parse_text]
  rfl

theorem EventType.reads_reader (t : EventType) : Reads reader t.toValue t := by
  apply reads_tagged_bare
  unfold ofName
  rw [ofKey?_key]

theorem Parent.reads_reader (parent : Parent) : Reads reader parent.toValue parent := by
  cases parent with
  | identified id => exact reads_tagged_object rfl (reads_map (reads_text id) identified)
  | located path => exact reads_tagged_object rfl (reads_map path.reads_reader located)

theorem QualifiedName.reads_texts (names : List QualifiedName) :
    Reads (listOf reader) (.texts (names.map text)) names := by
  apply reads_listOf
  rw [List.map_map, List.forall₂_map_left_iff, List.forall₂_same]
  exact fun n _ => n.reads_reader

/-! ## Events in JSON -/

namespace Event

/-- The draft that holds an event. -/
def draft (e : Event) : Draft where
  type := some e.type
  parent := some e.parent
  path := some e.path
  primaryType := some e.primaryType
  mixinTypes := some e.mixinTypes.toList

theorem build_draft (e : Event) : e.draft.build = .ok e := by
  show Except.ok (make e.type e.parent e.path e.primaryType e.mixinTypes.toList) = .ok e
  unfold make
  rw [OrderedSet.ofList_toList]

/-- The members of an event are read into its fields, from the first one to the last. -/
theorem fills_draft (e : Event) : ∃ ms, e.toValue = .object ms ∧ Fills fields {} ms e.draft := by
  refine ⟨_, rfl, ?_⟩
  refine .cons rfl rfl (reads_set e.type.reads_reader _) ?_
  refine .cons rfl rfl (reads_set e.parent.reads_reader _) ?_
  refine .cons rfl rfl (reads_set e.path.reads_reader _) ?_
  refine .cons rfl rfl (reads_set e.primaryType.reads_reader _) ?_
  exact .single rfl rfl (reads_set (QualifiedName.reads_texts e.mixinTypes.toList) _)

theorem reads_reader (e : Event) : Reads reader e.toValue e := by
  obtain ⟨ms, hms, hfills⟩ := e.fills_draft
  rw [hms]
  exact reads_record _ hfills e.build_draft

/-- What is written of an event is read as that event. -/
theorem ofJson_toJson (e : Event) : ofJson e.toJson = .ok e :=
  document_of_written e.reads_reader e.toValue.holds_compact

/-! ## The line of an event -/

theorem exists_toJson_eq (e : Event) : ∃ cs, e.toJson.toList = '{' :: cs := by
  unfold toJson toValue Value.compact
  rw [String.toList_ofList, Value.compactChars]
  exact ⟨_, rfl⟩

/-- The line of an event opens an object, so it is not blank. -/
theorem isBlankText_toJson (e : Event) : Text.isBlankText e.toJson = false := by
  obtain ⟨cs, hcs⟩ := e.exists_toJson_eq
  have hopen : Text.isBlank '{' = false := by decide
  unfold Text.isBlankText
  rw [hcs, List.all_cons, hopen, Bool.false_and]

theorem uncontrolled_toJson (e : Event) : Uncontrolled e.toJson.toList :=
  e.toValue.uncontrolled_compact

/-! ## One text for each event -/

theorem toJson_injective : Function.Injective toJson := by
  intro e e' h
  have he := e.ofJson_toJson
  rw [h, e'.ofJson_toJson, Except.ok.injEq] at he
  exact he.symm

/-- Lists of the same mixin types make the same event, and only these do. -/
theorem make_eq_make_iff {type : EventType} {parent : Parent} {path : ItemPath}
    {primaryType : QualifiedName} {mixins mixins' : List QualifiedName} :
    make type parent path primaryType mixins = make type parent path primaryType mixins' ↔
      ∀ n, n ∈ mixins ↔ n ∈ mixins' := by
  unfold make
  rw [Event.mk.injEq, OrderedSet.ofList_eq_ofList_iff]
  simp

/-- An event is read back from its text, which holds no raw control character.  Two events have the
same text if they are equal, and only then; so order and repetition of the mixin types leave no
trace in it. -/
theorem toJson_faithful (e : Event) :
    ofJson e.toJson = .ok e ∧ (∀ c ∈ e.toJson.toList, 0x20 ≤ c.toNat) ∧
      (∀ e' : Event, e.toJson = e'.toJson ↔ e = e') ∧
      ∀ type parent path primaryType mixins mixins',
        (make type parent path primaryType mixins).toJson =
            (make type parent path primaryType mixins').toJson ↔
          ∀ n, n ∈ mixins ↔ n ∈ mixins' := by
  refine ⟨e.ofJson_toJson, ?_, fun e' => toJson_injective.eq_iff, ?_⟩
  · intro c hc
    exact Nat.le_of_not_lt (of_decide_eq_false (e.uncontrolled_toJson c hc))
  · intro type parent path primaryType mixins mixins'
    rw [toJson_injective.eq_iff]
    exact make_eq_make_iff

end Event

end Observation
