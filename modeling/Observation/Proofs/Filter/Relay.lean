import Observation.Filter.Record
import Observation.Proofs.Json.Records
import Observation.Proofs.Path.Text

/-!
# Filters handed on

A filter travels as a record or as JSON text, from one party to the next and any number of times.

* `FilterRecord.fills_draft` - the members of a record in JSON fill its fields.
* `EventFilter.toFilter_toRecord`, `EventFilter.ofJson_toJson` - one hop.
* `EventFilter.relay`, `EventFilter.relay_faithful` - any number of them.
-/

namespace Observation

/-! ## Records -/

/-- Names that are written are read again, in their order. -/
theorem QualifiedName.mapM_parse_text (names : List QualifiedName) :
    (names.map text).mapM parse = .ok names := by
  rw [Except.mapM_eq_ok_iff, List.forall₂_map_left_iff, List.forall₂_same]
  exact fun n _ => n.parse_text

theorem FilterRecord.readNames_text (names : Option (List QualifiedName)) :
    readNames (names.map fun ns => ns.map QualifiedName.text) = .ok names := by
  cases names with
  | none => rfl
  | some ns =>
    rw [Option.map_some, readNames, Except.map_eq_ok_iff]
    exact ⟨ns, QualifiedName.mapM_parse_text ns, rfl⟩

theorem OrderedSet.map_ofList_map_toList {α : Type} [Ord α] [Std.TransOrd α] [Std.LawfulEqOrd α]
    (s : Option (OrderedSet α)) : (s.map toList).map ofList = s := by
  cases s with
  | none => rfl
  | some s => rw [Option.map_some, Option.map_some, ofList_toList]

theorem EventFilter.toFilter_toRecord (f : EventFilter) : f.toRecord.toFilter = .ok f := by
  have hnames := FilterRecord.readNames_text (f.nodeTypes.map OrderedSet.toList)
  have hrecord : f.toRecord.nodeTypeNames =
      (f.nodeTypes.map OrderedSet.toList).map fun ns => ns.map QualifiedName.text := by
    rw [Option.map_map]
    rfl
  rw [← hrecord] at hnames
  unfold FilterRecord.toFilter
  simp only [Except.bind_eq_ok_iff, Except.mapError_eq_ok_iff, Except.pure_eq_ok_iff]
  refine ⟨f.path, f.path.parse_text, _, hnames, ?_⟩
  unfold make
  rw [OrderedSet.map_ofList_map_toList]
  show EventFilter.mk _ _ _ ((f.parents.map OrderedSet.toList).map OrderedSet.ofList) _ _ = f
  rw [OrderedSet.map_ofList_map_toList]
  rfl

/-! ## Records in JSON -/

namespace FilterRecord

open Json

/-- The draft that holds a record; an absent set leaves its field empty. -/
def draft (r : FilterRecord) : Draft where
  eventTypes := some r.eventTypes
  absPath := some r.absPath
  isDeep := some r.isDeep
  uuids := r.uuids.map some
  nodeTypeNames := r.nodeTypeNames.map some
  noLocal := some r.noLocal

theorem build_draft (r : FilterRecord) : r.draft.build = .ok r := by
  obtain ⟨eventTypes, absPath, isDeep, uuids, nodeTypeNames, noLocal⟩ := r
  cases uuids <;> cases nodeTypeNames <;> rfl

/-- The members of a record are read into its fields, from the first one to the last. -/
theorem fills_draft (r : FilterRecord) :
    ∃ ms, r.toValue = .object ms ∧ Fills fields {} ms r.draft := by
  let typed : Draft := { eventTypes := some r.eventTypes }
  let placed : Draft := { typed with absPath := some r.absPath }
  let deepened : Draft := { placed with isDeep := some r.isDeep }
  let owned : Draft := { deepened with uuids := r.uuids.map some }
  let named : Draft := { owned with nodeTypeNames := r.nodeTypeNames.map some }
  have heventTypes : Fills fields {} [("eventTypes", .number r.eventTypes.toNat)] typed :=
    .single rfl rfl (reads_set (reads_word r.eventTypes) _)
  have habsPath : Fills fields typed [("absPath", .text r.absPath)] placed :=
    .single rfl rfl (reads_set (reads_text r.absPath) _)
  have hisDeep : Fills fields placed [("isDeep", .boolean r.isDeep)] deepened :=
    .single rfl rfl (reads_set (reads_flag r.isDeep) _)
  have huuids : Fills fields deepened
      (r.uuids.map fun ts => ("uuids", Value.texts ts)).toList owned :=
    .ofOption (fun ts => { deepened with uuids := ts.map some }) rfl rfl
      (fun ts => reads_set (reads_optional (reads_texts ts)) _) rfl r.uuids
  have hnames : Fills fields owned
      (r.nodeTypeNames.map fun ts => ("nodeTypeNames", Value.texts ts)).toList named :=
    .ofOption (fun ts => { owned with nodeTypeNames := ts.map some }) rfl rfl
      (fun ts => reads_set (reads_optional (reads_texts ts)) _) rfl r.nodeTypeNames
  have hnoLocal : Fills fields named [("noLocal", .boolean r.noLocal)] r.draft :=
    .single rfl rfl (reads_set (reads_flag r.noLocal) _)
  have hrequired := (heventTypes.append habsPath).append hisDeep
  exact ⟨_, rfl, ((hrequired.append huuids).append hnames).append hnoLocal⟩

theorem reads_reader (r : FilterRecord) : Reads reader r.toValue r := by
  obtain ⟨ms, hms, hfills⟩ := r.fills_draft
  rw [hms]
  exact reads_record _ hfills r.build_draft

theorem ofJson_compact (r : FilterRecord) : ofJson r.toValue.compact = .ok r :=
  document_of_written r.reads_reader r.toValue.holds_compact

end FilterRecord

theorem EventFilter.ofJson_toJson (f : EventFilter) : ofJson f.toJson = .ok f := by
  unfold ofJson toJson
  rw [FilterRecord.ofJson_compact]
  exact f.toFilter_toRecord

/-! ## From hop to hop -/

/-- How a filter gets from one party to the next. -/
inductive Hop where
  | record
  | json
  deriving DecidableEq, Repr

/-- What arrives when a filter is sent. -/
def Hop.send : Hop → EventFilter → Except Failure EventFilter
  | record, f => f.toRecord.toFilter
  | json, f => EventFilter.ofJson f.toJson

theorem Hop.send_eq (hop : Hop) (f : EventFilter) : hop.send f = .ok f := by
  cases hop with
  | record => exact f.toFilter_toRecord
  | json => exact f.ofJson_toJson

namespace EventFilter

/-- What arrives after some hops, at each of which the filter is decoded and encoded again. -/
def relay (hops : List Hop) (f : EventFilter) : Except Failure EventFilter :=
  hops.foldlM (fun g hop => hop.send g) f

theorem relay_eq (hops : List Hop) (f : EventFilter) : relay hops f = .ok f := by
  unfold relay
  induction hops with
  | nil => rfl
  | cons hop hops ih =>
    rw [List.foldlM_cons, hop.send_eq]
    exact ih

/-- A filter arrives unchanged, after one hop or many: its bits and its sets, absent or not, are
the same, and so is what it decides and reports. -/
theorem relay_faithful (f : EventFilter) :
    f.toRecord.toFilter = .ok f ∧ ofJson f.toJson = .ok f ∧
      ∀ hops, relay hops f = .ok f ∧ ∀ g, relay hops f = .ok g →
        g.types.bits = f.types.bits ∧ g.parents = f.parents ∧ g.nodeTypes = f.nodeTypes ∧
        ∀ {σ : Type} (e : Event) (isLocal : Bool) (sink : DiagnosticSink σ) (state : σ),
          g.acceptWith e isLocal sink state = f.acceptWith e isLocal sink state := by
  refine ⟨f.toFilter_toRecord, f.ofJson_toJson, fun hops => ⟨relay_eq hops f, ?_⟩⟩
  intro g hg
  rw [relay_eq, Except.ok.injEq] at hg
  subst hg
  refine ⟨rfl, rfl, rfl, ?_⟩
  intro σ e isLocal sink state
  rfl

end EventFilter

end Observation
