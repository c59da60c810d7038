import Usac.Host.ArchiveFidelity
import Usac.Host.CaptureDataFormat

namespace Usac.Host

open Library

/-!
# What the archive tells about a capture

A record is put together from the columns of a row, from its stored frame, which
is decoded once more, and from the tables of events, groups and experiments. All
of these say the same, so a record can be read off the frame alone.
-/

/-- The group of a capture and its experiment, as `grouping_metadata` names
them. -/
structure Grouping where
  groupId : Option GroupId
  experimentId : Option ExperimentId
  groupName : Option String
  experimentName : Option String
  cellId : Option String
  deriving DecidableEq

/-- `CaptureEventRecord`. -/
structure CaptureEventRecord extends CaptureEvent where
  ordinal : Nat
  deriving DecidableEq

/-- `CaptureRecord`. The configurations and the run plan are JSON texts. -/
structure CaptureRecord extends Grouping where
  captureId : Bytes 16
  deviceId : Bytes 16
  bootId : Bytes 16
  requestId : Bytes 16
  profileSha256 : Bytes 32
  deviceConfigCrc32 : UInt32
  captureSequence : UInt32
  sampleIntervalTicks : UInt16
  burstPeriodTicks : UInt16
  sampleCount : UInt16
  pretriggerCount : UInt16
  adcBits : UInt8
  sampleEncoding : UInt8
  vrefMv : UInt16
  smclkNominalHz : UInt32
  smclkCalibratedHz : UInt32
  frameStartTick48 : UInt64
  tTriggerOffsetTicks : UInt32
  adc0HoldOffsetTicks : Int32
  adcApertureNs : UInt32
  triggerToTxOutputNs : UInt32
  calibrationVersion : UInt32
  qualityFlags : UInt32
  tussDevStat : UInt8
  out3StartLevel : UInt8
  out4StartLevel : UInt8
  transportCrc32 : UInt32
  wireFrame : List UInt8
  sampleBlob : List UInt8
  texts : ConfigurationTexts
  adcClipping : Bool
  interpolated : Bool
  events : List CaptureEventRecord
  deriving DecidableEq

/-- What is told of an event. -/
def CaptureEventRow.record (row : CaptureEventRow) : CaptureEventRecord where
  toCaptureEvent := row.event
  ordinal := row.ordinal

/-- `ORDER BY ordinal`. -/
def orderedEvents (rows : List CaptureEventRow) : List CaptureEventRecord :=
  (rows.insertionSort fun first second =>
    first.ordinal ≤ second.ordinal).map CaptureEventRow.record

/-- `_capture_events_for_row`. -/
def CaptureStore.captureEventsForRow
    (store : CaptureStore)
    (rowId : Nat) :
    List CaptureEventRecord :=
  orderedEvents (store.eventsOf rowId)

namespace Catalogue

/-- The groups and the experiments joined to a capture of a group. -/
def grouping (catalogue : Catalogue) (groupId : Option GroupId) : Grouping :=
  let group := groupId.bind catalogue.groups
  { groupId := groupId
    experimentId := group.map ExperimentGroup.experimentId
    groupName := group.map ExperimentGroup.name
    experimentName :=
      (group.bind fun group =>
        catalogue.experiments group.experimentId).map Experiment.name
    cellId := group.map ExperimentGroup.cellId }

/-- `_capture_record_from_row`. -/
def captureRecordFromRow
    (catalogue : Catalogue)
    (row : ArchivedCapture) :
    Except Raised CaptureRecord := do
  let frame ← Frame.decode row.wireFrame
  let capture ← CaptureData.decode frame.payload
  pure {
    toGrouping := catalogue.grouping row.groupId
    captureId := row.identity.captureId
    deviceId := row.identity.device.deviceId
    bootId := row.identity.device.bootId
    requestId := row.columns.requestId
    profileSha256 := row.columns.profileSha256
    deviceConfigCrc32 := row.columns.deviceConfigCrc32
    captureSequence := row.columns.captureSequence
    sampleIntervalTicks := row.columns.sampleIntervalTicks
    burstPeriodTicks := row.columns.burstPeriodTicks
    sampleCount := row.columns.sampleCount
    pretriggerCount := row.columns.pretriggerCount
    adcBits := capture.adcBits
    sampleEncoding := capture.sampleEncoding
    vrefMv := capture.vrefMv
    smclkNominalHz := capture.smclkNominalHz
    smclkCalibratedHz := capture.smclkCalibratedHz
    frameStartTick48 := capture.frameStartTick48
    tTriggerOffsetTicks := capture.tTriggerOffsetTicks
    adc0HoldOffsetTicks := capture.adc0HoldOffsetTicks
    adcApertureNs := capture.adcApertureNs
    triggerToTxOutputNs := capture.triggerToTxOutputNs
    calibrationVersion := capture.calibrationVersion
    qualityFlags := row.columns.qualityFlags
    tussDevStat := row.columns.tussDevStat
    out3StartLevel := capture.out3StartLevel
    out4StartLevel := capture.out4StartLevel
    transportCrc32 := row.innerFrameCrc32
    wireFrame := row.wireFrame
    sampleBlob := row.columns.sampleBlob
    texts := row.columns.texts
    adcClipping := row.columns.adcClipping
    interpolated := false
    events := catalogue.store.captureEventsForRow row.rowId
  }

/-- `get_capture`. -/
def getCapture
    (catalogue : Catalogue)
    (captureId : Bytes 16) :
    Except Raised CaptureRecord :=
  match catalogue.store.captures.rows.filter
      (fun row => row.identity.captureId = captureId) with
  | [row] => catalogue.captureRecordFromRow row
  | _ => .error (CaptureStore.notFoundUniquely captureId)

/-- `get_capture_events`. -/
def getCaptureEvents
    (catalogue : Catalogue)
    (captureId : Bytes 16) :
    List CaptureEventRecord :=
  orderedEvents (catalogue.store.captureEvents.filter fun event =>
    ∃ row ∈ catalogue.store.captures.rows,
      row.rowId = event.captureRowId ∧ row.identity.captureId = captureId)

end Catalogue

/-! ## The record of a frame -/

/-- The record of a capture and of the frame it came in. -/
def CaptureRecord.told
    (innerFrame : List UInt8)
    (capture : CaptureData)
    (texts : ConfigurationTexts)
    (grouping : Grouping) :
    CaptureRecord where
  toGrouping := grouping
  captureId := capture.captureId
  deviceId := capture.deviceId
  bootId := capture.bootId
  requestId := capture.requestId
  profileSha256 := capture.profileSha256
  deviceConfigCrc32 := capture.deviceConfigCrc32
  captureSequence := capture.captureSequence
  sampleIntervalTicks := capture.sampleIntervalTicks
  burstPeriodTicks := capture.burstPeriodTicks
  sampleCount := capture.sampleCount
  pretriggerCount := capture.pretriggerCount
  adcBits := capture.adcBits
  sampleEncoding := capture.sampleEncoding
  vrefMv := capture.vrefMv
  smclkNominalHz := capture.smclkNominalHz
  smclkCalibratedHz := capture.smclkCalibratedHz
  frameStartTick48 := capture.frameStartTick48
  tTriggerOffsetTicks := capture.tTriggerOffsetTicks
  adc0HoldOffsetTicks := capture.adc0HoldOffsetTicks
  adcApertureNs := capture.adcApertureNs
  triggerToTxOutputNs := capture.triggerToTxOutputNs
  calibrationVersion := capture.calibrationVersion
  qualityFlags := capture.qualityFlags
  tussDevStat := capture.tussDevStat
  out3StartLevel := capture.out3StartLevel
  out4StartLevel := capture.out4StartLevel
  transportCrc32 := Frame.crc32IsoHdlc innerFrame
  wireFrame := innerFrame
  sampleBlob := capture.samples.flatMap writeU16
  texts := texts
  adcClipping := CaptureStore.adcClipping capture
  interpolated := false
  events := capture.events.mapIdx fun ordinal event => ⟨event, ordinal⟩

/-- The samples at the end of a frame are those of its capture. -/
theorem CaptureStore.sampleBlob_eq
    {delivery : BridgeCaptureDelivery}
    {capture : CaptureData}
    (delivered : CaptureStore.deliveredCapture delivery = .ok capture) :
    CaptureStore.sampleBlob delivery capture =
      capture.samples.flatMap writeU16 := by
  obtain ⟨frame, framed, decoded⟩ :=
    bind_eq_ok.1 (CaptureStore.storedCapture_of_delivered delivered)
  have encoded := CaptureData.encode_of_decode decoded
  obtain ⟨⟨⟩, valid, encoded⟩ := bind_eq_ok.1 encoded
  obtain ⟨count, -⟩ := CaptureData.counts_of_validate valid
  have payload := Except.ok.inj encoded
  have length :=
    @length_flatMap_records _ writeU16 2 length_writeU16 capture.samples
  unfold CaptureStore.sampleBlob
  rw [framed]
  dsimp only
  rw [← payload]
  unfold CaptureData.variableBytes
  simp only [← List.append_assoc]
  rw [List.length_append, length, count, Nat.add_sub_cancel,
    List.drop_left]

/-- The events of a row in the order of their ordinals. -/
theorem orderedEvents_eventRows
    (rowId : Nat)
    (capture : CaptureData) :
    orderedEvents (CaptureStore.eventRows rowId capture) =
      capture.events.mapIdx fun ordinal event => ⟨event, ordinal⟩ := by
  have ordered :
      (CaptureStore.eventRows rowId capture).Pairwise
        fun first second => first.ordinal ≤ second.ordinal := by
    refine List.pairwise_iff_getElem.2 fun first second before inside less => ?_
    simpa [CaptureStore.eventRows] using less.le
  unfold orderedEvents
  rw [ordered.insertionSort_eq]
  apply List.ext_getElem
  · simp [CaptureStore.eventRows]
  · intro index here there
    simp [CaptureStore.eventRows, CaptureEventRow.record]

namespace Catalogue

variable {submitted : BridgeCaptureDelivery → Prop} {catalogue : Catalogue}

/-- The record of a row is that of its frame. -/
theorem captureRecordFromRow_told
    {row : ArchivedCapture}
    {delivery : BridgeCaptureDelivery}
    {capture : CaptureData}
    (holds : row.Holds delivery capture)
    (events :
      catalogue.store.eventsOf row.rowId =
        CaptureStore.eventRows row.rowId capture) :
    catalogue.captureRecordFromRow row =
      .ok (.told delivery.innerFrame capture row.columns.texts
        (catalogue.grouping row.groupId)) := by
  obtain ⟨frame, framed, decoded⟩ :=
    bind_eq_ok.1 (CaptureStore.storedCapture_of_delivered holds.delivered)
  obtain ⟨staged, columns⟩ := holds.columns
  have samples := CaptureStore.sampleBlob_eq holds.delivered
  unfold captureRecordFromRow CaptureStore.captureEventsForRow
  rw [holds.wireFrame, framed, ok_bind, decoded, ok_bind, events,
    orderedEvents_eventRows, holds.identity, holds.innerFrameCrc32, columns]
  refine congrArg Except.ok ?_
  simp only [CaptureStore.archiveColumns, samples]
  rfl

/-- What there is to be read under a capture id. -/
inductive Tells
    (submitted : BridgeCaptureDelivery → Prop)
    (catalogue : Catalogue)
    (captureId : Bytes 16) :
    Except Raised CaptureRecord → Prop where
  | ambiguous
      (notOne :
        ¬∃! row, row ∈ catalogue.store.captures.rows ∧
          row.identity.captureId = captureId) :
      Tells submitted catalogue captureId
        (.error (CaptureStore.notFoundUniquely captureId))
  | told
      (row : ArchivedCapture)
      (member : row ∈ catalogue.store.captures.rows)
      (named : row.identity.captureId = captureId)
      (delivery : BridgeCaptureDelivery)
      (known : submitted delivery)
      (capture : CaptureData)
      (delivered : CaptureStore.deliveredCapture delivery = .ok capture)
      (identity : row.identity = capture.identity)
      (events :
        catalogue.getCaptureEvents captureId =
          capture.events.mapIdx fun ordinal event => ⟨event, ordinal⟩) :
      Tells submitted catalogue captureId
        (.ok (.told delivery.innerFrame capture row.columns.texts
          (catalogue.grouping row.groupId)))

/-- The only row of a capture id is the only one the filter finds. -/
theorem filter_eq_singleton
    {captureId : Bytes 16}
    {row : ArchivedCapture}
    (only :
      catalogue.store.captures.rows.filter
          (fun row => row.identity.captureId = captureId) =
        [row])
    (other : ArchivedCapture) :
    other ∈ catalogue.store.captures.rows ∧
        other.identity.captureId = captureId ↔
      other = row := by
  have members := congrArg (other ∈ ·) only
  rw [List.mem_filter, decide_eq_true_eq, List.mem_singleton] at members
  exact iff_of_eq members

/-- What a curated archive tells. -/
theorem getCapture_tells
    (curated : CaptureStore.Curated submitted catalogue.store)
    (captureId : Bytes 16) :
    Tells submitted catalogue captureId (catalogue.getCapture captureId) := by
  unfold getCapture
  split
  · rename_i row only
    have members := filter_eq_singleton only
    obtain ⟨member, named⟩ := (members row).2 rfl
    obtain ⟨delivery, capture, known, holds, events⟩ := curated.told row member
    rw [captureRecordFromRow_told holds events]
    refine .told row member named delivery known capture holds.delivered
      holds.identity ?_
    rw [← orderedEvents_eventRows row.rowId, ← events]
    refine congrArg orderedEvents (List.filter_congr fun event among => ?_)
    refine decide_eq_decide.2 ⟨?_, fun own => ⟨row, member, own.symm, named⟩⟩
    rintro ⟨other, present, own, same⟩
    rw [← own, (members other).1 ⟨present, same⟩]
  · rename_i several
    refine .ambiguous fun ⟨row, ⟨member, named⟩, only⟩ => ?_
    have nodup :
        (catalogue.store.captures.rows.filter
          (fun row => row.identity.captureId = captureId)).Nodup :=
      (List.Nodup.of_map _ catalogue.store.captures.uniqueId).filter _
    refine several row (List.perm_singleton.1 ?_)
    refine (List.perm_ext_iff_of_nodup nodup (List.nodup_singleton _)).2
      fun other => ?_
    rw [List.mem_filter, decide_eq_true_eq, List.mem_singleton]
    refine ⟨only other, ?_⟩
    rintro rfl
    exact ⟨member, named⟩

/-- In every run, what can be read under a capture id is what the frame of that
capture says, one that has been delivered in the run. -/
theorem getCapture_after
    (operations : List Operation)
    (captureId : Bytes 16) :
    Tells (Submitted operations) (machine.after empty operations) captureId
      ((machine.after empty operations).getCapture captureId) :=
  getCapture_tells (curated_after operations) captureId

end Catalogue

end Usac.Host
