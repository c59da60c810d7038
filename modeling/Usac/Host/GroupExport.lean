import Usac.Host.CaptureRecords
import Usac.Library.Snapshot

namespace Usac.Host

open Library

/-!
# The export of a group

`write_group_export` reads the captures of a group one by one from the snapshot
that `group_export_snapshot` has pinned, while the store goes on. The archive it
writes is that of the group as it was when the export began, and every file in
it comes from a frame that has been delivered.
-/

/-- `_group_object`. -/
structure GroupObject extends ExperimentGroup where
  archivedCount : Nat
  deriving DecidableEq

/-- What the manifest and each file of metadata say of the group. -/
structure ExportHeader where
  group : GroupObject
  experiment : Experiment
  deriving DecidableEq

namespace Catalogue

/-- The captures of a group, in the order of their row ids. -/
def groupRows
    (catalogue : Catalogue)
    (groupId : GroupId) :
    List ArchivedCapture :=
  (catalogue.store.captures.rows.filter fun row =>
    row.groupId = some groupId).insertionSort
      fun first second => first.rowId ≤ second.rowId

/-- A group with the number of its captures. -/
def groupObject
    (catalogue : Catalogue)
    (group : ExperimentGroup) :
    GroupObject where
  toExperimentGroup := group
  archivedCount :=
    catalogue.store.captures.rows.countP fun row =>
      row.groupId = some group.groupId

/-- The queries with which `group_export_snapshot` begins. -/
def groupExportSnapshot
    (catalogue : Catalogue)
    (groupId : String) :
    Except Raised (ExportHeader × List ArchivedCapture) := do
  let groupId ← validateEntityId groupId "group_id"
  match found : catalogue.groups groupId with
  | none => .error (unknownEntity groupId)
  | some group =>
      let experiment :=
        (catalogue.experiments group.experimentId).get
          (catalogue.owned groupId group found)
      pure (⟨catalogue.groupObject group, experiment⟩,
        catalogue.groupRows groupId)

/-- `group_export_snapshot`, with the records of its iterator. -/
def groupExport :
    Query Catalogue String ExportHeader ArchivedCapture CaptureRecord
      Raised where
  find := groupExportSnapshot
  item catalogue _ row := catalogue.captureRecordFromRow row

end Catalogue

/-- A file of the archive. The metadata are those of a record, of its group and
of its experiment. -/
inductive ExportFile where
  | frame (captureId : Bytes 16) (bytes : List UInt8)
  | samples (captureId : Bytes 16) (bytes : List UInt8)
  | metadata
      (captureId : Bytes 16)
      (record : CaptureRecord)
      (header : ExportHeader)
  | manifest
      (header : ExportHeader)
      (captureIds : List (Bytes 16))
      (captureCount : Nat)
  deriving DecidableEq

namespace ExportFile

/-- The name of a file. -/
def name : ExportFile → String
  | frame captureId _ => hex captureId.toList ++ ".usac"
  | samples captureId _ => hex captureId.toList ++ ".u16le"
  | metadata captureId _ _ => hex captureId.toList ++ ".json"
  | manifest _ _ _ => "manifest.json"

end ExportFile

/-- The files of one record. -/
def recordFiles
    (header : ExportHeader)
    (record : CaptureRecord) :
    List ExportFile :=
  [.frame record.captureId record.wireFrame,
    .samples record.captureId record.sampleBlob,
    .metadata record.captureId record header]

/-- What `write_group_export` writes for the records it has read. -/
def writeGroupExport
    (header : ExportHeader)
    (records : List CaptureRecord) :
    List ExportFile :=
  records.flatMap (recordFiles header) ++
    [.manifest header (records.map CaptureRecord.captureId) records.length]

namespace Catalogue

/-- One recorded turn of the store and of an export. -/
abbrev ExportTurn :=
  Query.Recorded Catalogue Operation Answer String ExportHeader ArchivedCapture
    CaptureRecord Raised

/-- The delivery has been submitted at one of the turns. -/
def Written
    (record : List ExportTurn)
    (delivery : BridgeCaptureDelivery) :
    Prop :=
  ∃ turn ∈ record, ∃ operation,
    turn.input = .write operation ∧ operation.delivery? = some delivery

/-- The record of a row is that of a frame that has been delivered, under the
group of the export. -/
structure RecordOf
    (submitted : BridgeCaptureDelivery → Prop)
    (groupId : GroupId)
    (header : ExportHeader)
    (row : ArchivedCapture)
    (record : CaptureRecord) :
    Prop where
  told :
    ∃ delivery capture,
      submitted delivery ∧
        CaptureStore.deliveredCapture delivery = .ok capture ∧
          row.identity = capture.identity ∧
            record =
              .told delivery.innerFrame capture row.columns.texts
                { groupId := some groupId
                  experimentId := some header.group.experimentId
                  groupName := some header.group.name
                  experimentName := some header.experiment.name
                  cellId := some header.group.cellId }

/-- The export of a group of a catalogue: all of its captures in the order of
their rows, and no others. -/
structure Exported
    (submitted : BridgeCaptureDelivery → Prop)
    (catalogue : Catalogue)
    (groupId : GroupId)
    (header : ExportHeader)
    (records : List CaptureRecord) :
    Prop where
  group :
    catalogue.groups groupId = some header.group.toExperimentGroup
  experiment :
    catalogue.experiments header.group.experimentId = some header.experiment
  counted : header.group.archivedCount = records.length
  records :
    List.Forall₂ (RecordOf submitted groupId header)
      (catalogue.groupRows groupId) records

/-- The groups of a catalogue are stored under their ids. -/
def Keyed (catalogue : Catalogue) : Prop :=
  ∀ groupId group,
    catalogue.groups groupId = some group → group.groupId = groupId

variable {submitted : BridgeCaptureDelivery → Prop} {catalogue : Catalogue}

/-- The rows of a group are counted. -/
theorem length_groupRows (groupId : GroupId) :
    (catalogue.groupRows groupId).length =
      catalogue.store.captures.rows.countP fun row =>
        row.groupId = some groupId := by
  unfold groupRows
  rw [List.length_insertionSort, List.countP_eq_length_filter]

/-- The rows of a group are those under it. -/
theorem mem_groupRows
    {groupId : GroupId}
    {row : ArchivedCapture} :
    row ∈ catalogue.groupRows groupId ↔
      row ∈ catalogue.store.captures.rows ∧ row.groupId = some groupId := by
  unfold groupRows
  rw [List.mem_insertionSort, List.mem_filter, decide_eq_true_eq]

/-- A group stored under its id keeps the groups keyed. -/
theorem Keyed.update
    (keyed : catalogue.Keyed)
    {next : Catalogue}
    {groupId : GroupId}
    {group : ExperimentGroup}
    (stored :
      next.groups = Function.update catalogue.groups groupId (some group))
    (named : group.groupId = groupId) :
    next.Keyed := by
  intro other found finds
  rw [stored] at finds
  by_cases same : other = groupId
  · rw [same, Function.update_self] at finds
    obtain rfl := Option.some.inj finds
    exact named.trans same.symm
  · rw [Function.update_of_ne same] at finds
    exact keyed other found finds

/-- Every call keeps the groups keyed. -/
theorem keyed_step
    (keyed : catalogue.Keyed)
    (operation : Operation) :
    (machine.step catalogue operation).1.Keyed := by
  have altered := catalogue.alters operation
  generalize (machine.step catalogue operation).1 = next at altered ⊢
  cases altered with
  | unaltered => exact keyed
  | experiment => exact keyed
  | group => exact keyed.update rfl rfl
  | regroup _ groupId old found =>
      exact keyed.update rfl (keyed groupId old found)
  | assigned => exact keyed
  | transacted => exact keyed

/-- What the snapshot of a group is. -/
theorem groupExportSnapshot_eq_ok
    {text : String}
    {header : ExportHeader}
    {rows : List ArchivedCapture}
    (found : catalogue.groupExportSnapshot text = .ok (header, rows)) :
    ∃ groupId,
      validateEntityId text "group_id" = .ok groupId ∧
        catalogue.groups groupId = some header.group.toExperimentGroup ∧
          catalogue.experiments header.group.experimentId =
              some header.experiment ∧
            header.group =
                catalogue.groupObject header.group.toExperimentGroup ∧
              rows = catalogue.groupRows groupId := by
  obtain ⟨groupId, valid, found⟩ := bind_eq_ok.1 found
  refine ⟨groupId, valid, ?_⟩
  split at found
  · cases found
  · rename_i group known
    cases found
    exact ⟨known, (Option.some_get _).symm, rfl, rfl⟩

/-- The row of a group is told under the group. -/
theorem recordOf_row
    (curated : CaptureStore.Curated submitted catalogue.store)
    {groupId : GroupId}
    {header : ExportHeader}
    (known : catalogue.groups groupId = some header.group.toExperimentGroup)
    (owner :
      catalogue.experiments header.group.experimentId =
        some header.experiment)
    {row : ArchivedCapture}
    (among : row ∈ catalogue.groupRows groupId) :
    ∃ record,
      catalogue.captureRecordFromRow row = .ok record ∧
        RecordOf submitted groupId header row record := by
  obtain ⟨member, grouped⟩ := mem_groupRows.1 among
  obtain ⟨delivery, capture, submits, holds, events⟩ := curated.told row member
  refine ⟨_, captureRecordFromRow_told holds events, delivery, capture, submits,
    holds.delivered, holds.identity, ?_⟩
  unfold grouping
  rw [grouped]
  simp only [Option.bind_some, known, Option.map_some, owner]

/-- What there is for each element there is for all of them in order. -/
theorem exists_forall₂
    {First Second : Type}
    {related : First → Second → Prop} :
    {elements : List First} →
      (∀ element ∈ elements, ∃ other, related element other) →
        ∃ others, List.Forall₂ related elements others
  | [], _ => ⟨[], .nil⟩
  | element :: rest, each => by
      obtain ⟨other, here⟩ := each element List.mem_cons_self
      obtain ⟨others, behind⟩ :=
        exists_forall₂ fun later member =>
          each later (List.mem_cons_of_mem element member)
      exact ⟨other :: others, .cons here behind⟩

/-- The records made of the rows of a group are those of its export. -/
theorem exported_of_records
    (curated : CaptureStore.Curated submitted catalogue.store)
    (keyed : catalogue.Keyed)
    {text : String}
    {header : ExportHeader}
    {rows : List ArchivedCapture}
    (found : catalogue.groupExportSnapshot text = .ok (header, rows)) :
    ∃ groupId records,
      validateEntityId text "group_id" = .ok groupId ∧
        rows.mapM catalogue.captureRecordFromRow = .ok records ∧
          catalogue.Exported submitted groupId header records := by
  obtain ⟨groupId, valid, known, owner, whole, rfl⟩ :=
    groupExportSnapshot_eq_ok found
  have made :
      ∀ row ∈ catalogue.groupRows groupId,
        ∃ record,
          catalogue.captureRecordFromRow row = .ok record ∧
            RecordOf submitted groupId header row record :=
    fun row among => recordOf_row curated known owner among
  obtain ⟨records, told⟩ := exists_forall₂ made
  refine ⟨groupId, records, valid,
    mapM_eq_ok.2 (told.imp fun _ _ both => both.1), known, owner, ?_,
    told.imp fun _ _ both => both.2⟩
  rw [whole, ← told.length_eq, length_groupRows]
  unfold groupObject
  rw [keyed groupId _ known]

/-- The records of an export are under the ids of its rows. -/
theorem captureIds_of_records
    {groupId : GroupId}
    {header : ExportHeader}
    {rows : List ArchivedCapture}
    {records : List CaptureRecord}
    (told : List.Forall₂ (RecordOf submitted groupId header) rows records) :
    records.map CaptureRecord.captureId =
      rows.map fun row => row.identity.captureId := by
  induction told with
  | nil => rfl
  | cons here _ inductionHypothesis =>
      obtain ⟨delivery, capture, -, -, identity, rfl⟩ := here.told
      rw [List.map_cons, List.map_cons, inductionHypothesis, identity]
      rfl

/-- The files of an export, with the manifest of the group. -/
theorem Exported.files
    {groupId : GroupId}
    {header : ExportHeader}
    {records : List CaptureRecord}
    (exported : catalogue.Exported submitted groupId header records) :
    writeGroupExport header records =
      records.flatMap (recordFiles header) ++
        [.manifest header
          ((catalogue.groupRows groupId).map fun row => row.identity.captureId)
          header.group.archivedCount] := by
  unfold writeGroupExport
  rw [captureIds_of_records exported.records, exported.counted]

/-- What is known of the catalogue at a turn. -/
structure Kept
    (submitted : BridgeCaptureDelivery → Prop)
    (catalogue : Catalogue) :
    Prop where
  curated : CaptureStore.Curated submitted catalogue.store
  keyed : catalogue.Keyed

/-- An export ends with the files of a group as it was when the export began,
each of them those of a frame that has been delivered, and it never fails once
it has begun. -/
structure Exports (record : List ExportTurn) (turn : ExportTurn) : Prop where
  finished :
    ∀ header records,
      turn.output = .finished header records →
        ∃ begun ∈ record,
          ∃ text groupId,
            begun.input = .start text ∧
              validateEntityId text "group_id" = .ok groupId ∧
                begun.source.store.Exported (Written record) groupId header
                    records ∧
                  writeGroupExport header records =
                    records.flatMap (recordFiles header) ++
                      [.manifest header
                        ((begun.source.store.groupRows groupId).map
                          fun row => row.identity.captureId)
                        header.group.archivedCount]
  unfailing :
    ∀ raised, turn.input = .next → turn.output ≠ .failed raised

/-- The catalogue is kept now, and was at every turn. -/
structure Exporting
    (record : List ExportTurn)
    (catalogue : Catalogue) :
    Prop where
  now : Kept (Written record) catalogue
  earlier : ∀ turn ∈ record, Kept (Written record) turn.source.store

section Turns

variable {record : List ExportTurn}

/-- More turns have been taken. -/
theorem Kept.concat
    (kept : Kept (Written record) catalogue)
    (last : ExportTurn) :
    Kept (Written (record ++ [last])) catalogue where
  curated := kept.curated.mono fun _ ⟨turn, member, written⟩ =>
    ⟨turn, List.mem_append_left _ member, written⟩
  keyed := kept.keyed

/-- Every turn keeps the catalogue. -/
theorem Exporting.step
    {state : Watched Catalogue ExportHeader ArchivedCapture CaptureRecord}
    (exporting : Exporting record state.store)
    (turn : Query.Turn Operation String) :
    Exporting (record ++ [(groupExport.watch machine).event state turn])
      ((groupExport.watch machine).event state turn).target.store := by
  have before :=
    exporting.now.concat ((groupExport.watch machine).event state turn)
  refine ⟨?_, fun other member => ?_⟩
  · cases turn with
    | write operation =>
        have submits :
            ∀ delivery ∈ operation.delivery?,
              Written
                (record ++
                  [(groupExport.watch machine).event state (.write operation)])
                delivery :=
          fun delivery submits =>
            ⟨_, List.mem_append_right _ List.mem_cons_self, operation, rfl,
              submits⟩
        exact ⟨curated_step before.curated operation submits,
          keyed_step before.keyed operation⟩
    | start request =>
        show Kept _ ((groupExport.watch machine).step state _).1.store
        rw [groupExport.store_start machine]
        exact before
    | next =>
        show Kept _ ((groupExport.watch machine).step state _).1.store
        rw [groupExport.store_next machine]
        exact before
  · rcases List.mem_append.1 member with old | new
    · exact (exporting.earlier other old).concat _
    · obtain rfl := List.mem_singleton.1 new
      exact before

/-- What is known at a turn makes an export. -/
theorem Exporting.exports
    (exporting : Exporting record catalogue)
    {turn : ExportTurn}
    (asBegun : groupExport.AsBegun record turn) :
    Exports record turn := by
  constructor
  · intro header records ends
    obtain ⟨begun, member, text, rows, starts, found, made⟩ :=
      asBegun.finished header records ends
    have kept := exporting.earlier begun member
    obtain ⟨groupId, all, valid, makes, exported⟩ :=
      exported_of_records kept.curated kept.keyed found
    obtain rfl := Except.ok.inj (makes.symm.trans made)
    exact ⟨begun, member, text, groupId, starts, valid, exported,
      exported.files⟩
  · intro raised asks fails
    obtain ⟨header, begun, member, text, rows, starts, found, made⟩ :=
      asBegun.failed raised asks fails
    have kept := exporting.earlier begun member
    obtain ⟨groupId, all, valid, makes, exported⟩ :=
      exported_of_records kept.curated kept.keyed found
    cases makes.symm.trans made

end Turns

/-- In every run of the store and of the exports from it, an export is that of
its group as it was when the export began. -/
theorem everyStep_exports (turns : List (Query.Turn Operation String)) :
    EveryStep Exports
      ((groupExport.watch machine).trace ⟨empty, none⟩ turns) := by
  refine (groupExport.watch machine).everyStep_of_invariant
    (fun record state => Exporting record state.store) ?_
    (fun _ _ turn exporting _ => exporting.step turn)
    (fun _ _ turn exporting asBegun => exporting.exports asBegun) turns
    (Query.everyStep_asBegun empty turns)
  refine ⟨⟨CaptureStore.curated_empty _, fun _ _ held => ?_⟩,
    fun _ member => ?_⟩
  · cases held
  · cases member

end Catalogue

end Usac.Host
