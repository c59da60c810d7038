import Usac.Host.BridgeMessages
import Usac.Library.Sha256
import Usac.Library.Table

namespace Usac.Host

open Library

/-!
# The capture store of the core

The tables of `core_store.py` that take part in the decision about a capture,
and the operations on them. Each operation is one SQLite transaction: it
changes the tables as a whole or, when it raises, not at all.

A table whose only key is its primary key is a partial function from it.
-/

/-- A session id as `_normalize_session_id` returns it. The empty text is
`none`. -/
abbrev SessionId := Bytes 16

/-- The id of an experiment group. -/
abbrev GroupId := Bytes 16

/-- `SavePolicy`. -/
inductive SavePolicy where
  | saveNone
  | saveAll
  | saveLast
  deriving Repr, DecidableEq

/-- `CaptureResolution`. -/
inductive CaptureResolution where
  | rawArchived
  | rollingLatest
  | discardedByPolicy
  deriving Repr, DecidableEq

/-- The states of an acquisition session. -/
inductive SessionState where
  | running
  | stopping
  | completed
  | failed
  | stopped
  | interrupted
  deriving Repr, DecidableEq

namespace SessionState

/-- Whether a session in the state is closed. -/
def isTerminal : SessionState → Bool
  | running => false
  | stopping => false
  | _ => true

end SessionState

/-- One boot of a device. -/
structure DeviceBoot where
  deviceId : Bytes 16
  bootId : Bytes 16
  deriving DecidableEq

/-- The identity of a capture. -/
structure CaptureIdentity where
  device : DeviceBoot
  captureId : Bytes 16
  deriving DecidableEq

namespace CaptureData

/-- The boot a capture has been taken in. -/
def device (capture : CaptureData) : DeviceBoot :=
  ⟨capture.deviceId, capture.bootId⟩

/-- The identity of a capture. -/
def identity (capture : CaptureData) : CaptureIdentity :=
  ⟨capture.device, capture.captureId⟩

end CaptureData

/-- The key of `configuration_contexts`. -/
structure ConfigurationKey where
  profileSha256 : Bytes 32
  deviceConfigCrc32 : UInt32
  requestId : Bytes 16
  deriving DecidableEq

/-- The key under which the context of a capture is staged. -/
def ConfigurationKey.ofCapture (capture : CaptureData) : ConfigurationKey :=
  ⟨capture.profileSha256, capture.deviceConfigCrc32, capture.requestId⟩

/-- A row of `delivery_policy_contexts`. -/
structure DeliveryPolicyContext where
  rowId : Nat
  device : DeviceBoot
  sessionId : Option SessionId
  savePolicy : SavePolicy
  groupId : Option GroupId
  deriving DecidableEq

/-- A row of `capture_resolution_tombstones`. -/
structure ResolutionTombstone where
  rowId : Nat
  identity : CaptureIdentity
  innerFrameCrc32 : UInt32
  innerFrameSha256 : Bytes 32
  resolution : CaptureResolution
  sessionId : Option SessionId
  resolvedUtcNs : UInt64
  deriving DecidableEq

/-- The JSON texts of a configuration, with the run plan. -/
structure ConfigurationTexts where
  requested : String
  encoded : String
  readback : String
  actual : String
  runPlan : String
  deriving DecidableEq

/-- A row of `configuration_contexts`, with the session its run plan names. -/
structure ConfigurationContext where
  texts : ConfigurationTexts
  planSession : Option SessionId
  deriving DecidableEq

/-- The JSON texts of a snapshot and of the run plan it is used in. -/
structure PlanTexts where
  requested : String
  readback : String
  actual : String
  runPlan : String
  deriving DecidableEq

/-- The columns of `captures` that are copied from the frame, the delivery and
the staged configuration. -/
structure CaptureColumns where
  requestId : Bytes 16
  scheduleId : Bytes 16
  profileSha256 : Bytes 32
  deviceConfigCrc32 : UInt32
  captureSequence : UInt32
  sampleIntervalTicks : UInt16
  burstPeriodTicks : UInt16
  sampleCount : UInt16
  pretriggerCount : UInt16
  qualityFlags : UInt32
  tussDevStat : UInt8
  sourceConnectionId : UInt64
  sourceFirstStreamOffset : UInt64
  sourceLastStreamOffset : UInt64
  bridgeSpoolRecordId : UInt64
  sampleBlob : List UInt8
  configurationJson : String
  texts : ConfigurationTexts
  adcClipping : Bool
  storedUtcNs : UInt64
  deriving DecidableEq

/-- A row of `captures`. -/
structure ArchivedCapture where
  rowId : Nat
  identity : CaptureIdentity
  innerFrameCrc32 : UInt32
  wireFrame : List UInt8
  columns : CaptureColumns
  sessionId : Option SessionId
  groupId : Option GroupId
  deriving DecidableEq

/-- A row of `capture_events`. -/
structure CaptureEventRow where
  captureRowId : Nat
  ordinal : Nat
  event : CaptureEvent
  deriving DecidableEq

/-- A row of `session_latest_captures`. -/
structure RollingCapture where
  delivery : BridgeCaptureDelivery
  groupId : Option GroupId
  deriving DecidableEq

/-- A row of `session_delivery_stats`. -/
structure DeliveryStats where
  acquiredCount : Nat
  lastCaptureId : Option (Bytes 16)
  deriving DecidableEq

/-- A session summary, the row of `acquisition_sessions`. -/
structure SessionSummary where
  sessionId : SessionId
  state : SessionState
  savePolicy : SavePolicy
  acquiredCount : Nat
  savedCount : Nat
  discardedByPolicyCount : Nat
  lastCaptureId : Option (Bytes 16)
  lastSavedCaptureId : Option (Bytes 16)
  deriving DecidableEq

/-- `CoreCommitResult`. -/
structure CoreCommitResult where
  receipt : CaptureCommittedRequest
  inserted : Bool
  resolution : CaptureResolution
  deriving DecidableEq

/-- `CaptureStore`. The counters are those behind `AUTOINCREMENT`. -/
structure CaptureStore where
  groups : List GroupId
  contexts :
    Table DeliveryPolicyContext Nat DeviceBoot DeliveryPolicyContext.rowId
      DeliveryPolicyContext.device
  tombstones :
    Table ResolutionTombstone Nat CaptureIdentity ResolutionTombstone.rowId
      ResolutionTombstone.identity
  captures :
    Table ArchivedCapture Nat CaptureIdentity ArchivedCapture.rowId
      ArchivedCapture.identity
  captureEvents : List CaptureEventRow
  lastTombstoneId : Nat
  lastCaptureRowId : Nat
  latest : Option SessionId → Option RollingCapture
  sessions : SessionId → Option SessionSummary
  stats : Option SessionId → Option DeliveryStats
  configurations : ConfigurationKey → Option ConfigurationContext

namespace CaptureStore

/-- The store on a new file. -/
def empty : CaptureStore where
  groups := []
  contexts := .empty
  tombstones := .empty
  captures := .empty
  captureEvents := []
  lastTombstoneId := 0
  lastCaptureRowId := 0
  latest := fun _ => none
  sessions := fun _ => none
  stats := fun _ => none
  configurations := fun _ => none

/-! ## Groups and delivery policies -/

/-- `create_group`, for a group that gets a new id. -/
def createGroup (store : CaptureStore) (groupId : GroupId) : CaptureStore :=
  { store with groups := store.groups ++ [groupId] }

/-- A group that is not in the store. -/
def unknownGroup (groupId : GroupId) : Raised :=
  ⟨.keyError, hex groupId.toList⟩

/-- `_validate_group_target`. -/
def validateGroupTarget
    (store : CaptureStore)
    (groupId : Option GroupId) :
    Except Raised Unit :=
  match groupId with
  | none => .ok ()
  | some groupId => require (groupId ∈ store.groups) (unknownGroup groupId)

/-- The number of contexts that are kept. -/
def contextLimit : Nat := 256

/-- `register_delivery_policy`. -/
def registerDeliveryPolicy
    (store : CaptureStore)
    (device : DeviceBoot)
    (sessionId : Option SessionId)
    (savePolicy : SavePolicy)
    (groupId : Option GroupId) :
    Except Raised CaptureStore := do
  store.validateGroupTarget groupId
  let contexts := store.contexts.upsert device
    (fun rowId => ⟨rowId, device, sessionId, savePolicy, groupId⟩)
    (fun _ => rfl) (fun _ => rfl)
  pure { store with contexts := contexts.keepNewest contextLimit }

/-- `unregister_delivery_policy`. -/
def unregisterDeliveryPolicy
    (store : CaptureStore)
    (device : DeviceBoot)
    (sessionId : Option SessionId) :
    CaptureStore :=
  { store with
    contexts := store.contexts.delete fun row =>
      row.device = device ∧ row.sessionId = sessionId }

/-- The context of a boot. -/
def context?
    (store : CaptureStore)
    (device : DeviceBoot) :
    Option DeliveryPolicyContext :=
  store.contexts.selectKey device

/-! ## Session summaries -/

/-- `save_session_summary`. -/
def saveSessionSummary
    (store : CaptureStore)
    (summary : SessionSummary) :
    CaptureStore :=
  { store with
    sessions := Function.update store.sessions summary.sessionId
      (some summary) }

/-- `save_configuration_context`. -/
def saveConfigurationContext
    (store : CaptureStore)
    (capture : CaptureData)
    (context : ConfigurationContext) :
    CaptureStore :=
  { store with
    configurations :=
      Function.update store.configurations (.ofCapture capture)
        (some context) }

/-- The store without the staged context of a capture. -/
def dropConfiguration
    (store : CaptureStore)
    (capture : CaptureData) :
    CaptureStore :=
  { store with
    configurations :=
      Function.update store.configurations (.ofCapture capture) none }

/-! ## Decisions -/

/-- The same identity with other bytes. -/
def conflict : Raised :=
  ⟨.storageConflictError,
    "capture identity already exists with a different frame"⟩

/-- The violation of the identity of a table. -/
def integrity (table : String) : Raised where
  kind := .sqliteIntegrityError
  text :=
    "UNIQUE constraint failed: " ++ table ++ ".device_id, " ++ table ++
      ".boot_id, " ++ table ++ ".capture_id"

/-- `_receipt`. -/
def receipt
    (delivery : BridgeCaptureDelivery)
    (capture : CaptureData) :
    CaptureCommittedRequest where
  connectionId := delivery.connectionId
  spoolRecordId := delivery.spoolRecordId
  deviceId := capture.deviceId
  bootId := capture.bootId
  captureId := capture.captureId
  innerFrameCrc32 := Frame.crc32IsoHdlc delivery.innerFrame

/-- The capture in a delivery that passes the checks of the bridge. -/
def deliveredCapture
    (delivery : BridgeCaptureDelivery) :
    Except Raised CaptureData := do
  delivery.validate
  let frame ← Frame.decode delivery.innerFrame
  CaptureData.decode frame.payload

/-- The JSON text of an empty object. -/
def emptyJson : String := "\x7b\x7d"

/-- The JSON text of register pairs. -/
def registerPairsJson (registerPairs : List (UInt8 × UInt8)) : String :=
  "[" ++
    String.intercalate "," (registerPairs.map fun pair =>
      "[" ++ toString pair.1.toNat ++ "," ++ toString pair.2.toNat ++ "]") ++
    "]"

/-- The JSON text of what a capture says of its own configuration. -/
def encodedJson (capture : CaptureData) : String :=
  "\x7b\"burst_period_ticks\":" ++ toString capture.burstPeriodTicks.toNat ++
    ",\"register_pairs\":" ++ registerPairsJson capture.registerPairs ++
    ",\"sample_interval_ticks\":" ++
    toString capture.sampleIntervalTicks.toNat ++ "\x7d"

/-- The context `_persist_capture` stages for a capture of a session. -/
def planContext
    (texts : PlanTexts)
    (capture : CaptureData)
    (sessionId : SessionId) :
    ConfigurationContext where
  texts := {
    requested := texts.requested
    encoded := encodedJson capture
    readback := texts.readback
    actual := texts.actual
    runPlan := texts.runPlan
  }
  planSession := some sessionId

/-- `_configuration_json`. -/
def configurationJson (capture : CaptureData) : String :=
  "\x7b\"burst_period_ticks\":" ++ toString capture.burstPeriodTicks.toNat ++
    ",\"device_config_crc32\":" ++ toString capture.deviceConfigCrc32.toNat ++
    ",\"pretrigger_count\":" ++ toString capture.pretriggerCount.toNat ++
    ",\"profile_sha256\":\"" ++ hex capture.profileSha256.toList ++
    "\",\"register_pairs\":" ++ registerPairsJson capture.registerPairs ++
    ",\"sample_count\":" ++ toString capture.sampleCount.toNat ++
    ",\"sample_interval_ticks\":" ++
    toString capture.sampleIntervalTicks.toNat ++ "\x7d"

/-- The texts of a capture whose configuration has not been staged. -/
def unstagedTexts (capture : CaptureData) : ConfigurationTexts where
  requested := emptyJson
  encoded := configurationJson capture
  readback := emptyJson
  actual := emptyJson
  runPlan := emptyJson

/-- The samples at the end of a payload. -/
def sampleBlob
    (delivery : BridgeCaptureDelivery)
    (capture : CaptureData) :
    List UInt8 :=
  match Frame.decode delivery.innerFrame with
  | .ok frame =>
      frame.payload.drop
        (frame.payload.length - 2 * capture.sampleCount.toNat)
  | .error _ => []

/-- A sample at one end of the range of the converter. -/
def adcClipping (capture : CaptureData) : Bool :=
  capture.samples.any fun sample =>
    sample.toNat = 0 ∨ sample.toNat = 2 ^ capture.adcBits.toNat - 1

/-- The columns `_archive_delivery` fills. -/
def archiveColumns
    (store : CaptureStore)
    (delivery : BridgeCaptureDelivery)
    (capture : CaptureData) :
    CaptureColumns where
  requestId := capture.requestId
  scheduleId := capture.scheduleId
  profileSha256 := capture.profileSha256
  deviceConfigCrc32 := capture.deviceConfigCrc32
  captureSequence := capture.captureSequence
  sampleIntervalTicks := capture.sampleIntervalTicks
  burstPeriodTicks := capture.burstPeriodTicks
  sampleCount := capture.sampleCount
  pretriggerCount := capture.pretriggerCount
  qualityFlags := capture.qualityFlags
  tussDevStat := capture.tussDevStat
  sourceConnectionId := delivery.sourceConnectionId
  sourceFirstStreamOffset := delivery.sourceFirstStreamOffset
  sourceLastStreamOffset := delivery.sourceLastStreamOffset
  bridgeSpoolRecordId := delivery.spoolRecordId
  sampleBlob := sampleBlob delivery capture
  configurationJson := configurationJson capture
  texts :=
    ((store.configurations (.ofCapture capture)).map
      ConfigurationContext.texts).getD (unstagedTexts capture)
  adcClipping := adcClipping capture
  storedUtcNs := delivery.storedUtcNs

/-- The row `_archive_delivery` inserts. -/
def archiveRow
    (store : CaptureStore)
    (delivery : BridgeCaptureDelivery)
    (capture : CaptureData)
    (forcedSessionId : Option SessionId)
    (groupId : Option GroupId) :
    ArchivedCapture where
  rowId := store.lastCaptureRowId + 1
  identity := capture.identity
  innerFrameCrc32 := Frame.crc32IsoHdlc delivery.innerFrame
  wireFrame := delivery.innerFrame
  columns := store.archiveColumns delivery capture
  sessionId :=
    forcedSessionId.or
      ((store.configurations (.ofCapture capture)).bind
        ConfigurationContext.planSession)
  groupId := groupId

/-- The rows of the events of a capture. -/
def eventRows (rowId : Nat) (capture : CaptureData) : List CaptureEventRow :=
  capture.events.mapIdx fun ordinal event => ⟨rowId, ordinal, event⟩

/-- The violation of the key of the events. -/
def eventIntegrity : Raised where
  kind := .sqliteIntegrityError
  text :=
    "UNIQUE constraint failed: capture_events.capture_row_id, " ++
      "capture_events.ordinal"

/-- The insertion of the events of a capture. -/
def insertEvents
    (store : CaptureStore)
    (rowId : Nat)
    (capture : CaptureData) :
    Except Raised CaptureStore := do
  let rows := eventRows rowId capture
  require (∀ row ∈ rows, ∀ old ∈ store.captureEvents,
      (old.captureRowId, old.ordinal) ≠ (row.captureRowId, row.ordinal))
    eventIntegrity
  pure { store with captureEvents := store.captureEvents ++ rows }

/-- `_archive_delivery`. -/
def archiveDelivery
    (store : CaptureStore)
    (delivery : BridgeCaptureDelivery)
    (capture : CaptureData)
    (forcedSessionId : Option SessionId)
    (groupId : Option GroupId) :
    Except Raised (CaptureStore × Bool) := do
  store.validateGroupTarget groupId
  match store.captures.selectKey capture.identity with
  | some existing =>
      require (existing.innerFrameCrc32 =
            Frame.crc32IsoHdlc delivery.innerFrame ∧
          existing.wireFrame = delivery.innerFrame)
        conflict
      pure (store, false)
  | none =>
      let row := store.archiveRow delivery capture forcedSessionId groupId
      match store.captures.insert? row with
      | none => .error (integrity "captures")
      | some captures => do
          let archived ←
            { store with
              captures := captures
              lastCaptureRowId := row.rowId }.insertEvents row.rowId capture
          pure (archived, true)

/-- The number of tombstones that are kept. -/
def tombstoneLimit : Nat := 4096

/-- The insertion of a tombstone, with the accounting of its session and
`_prune_resolutions`. -/
def insertResolution
    (store : CaptureStore)
    (delivery : BridgeCaptureDelivery)
    (capture : CaptureData)
    (resolution : CaptureResolution)
    (sessionId : Option SessionId) :
    Except Raised CaptureStore :=
  let row : ResolutionTombstone := {
    rowId := store.lastTombstoneId + 1
    identity := capture.identity
    innerFrameCrc32 := Frame.crc32IsoHdlc delivery.innerFrame
    innerFrameSha256 := Sha256.digest delivery.innerFrame
    resolution := resolution
    sessionId := sessionId
    resolvedUtcNs := delivery.storedUtcNs
  }
  match store.tombstones.insert? row with
  | none => .error (integrity "capture_resolution_tombstones")
  | some tombstones =>
      let acquired := ((store.stats sessionId).map
        DeliveryStats.acquiredCount).getD 0
      .ok { store with
        tombstones := tombstones.keepNewest tombstoneLimit
        lastTombstoneId := row.rowId
        stats :=
          if sessionId.isSome then
            Function.update store.stats sessionId
              (some ⟨acquired + 1, some capture.captureId⟩)
          else
            store.stats }

/-- The prior decision about a capture. -/
def priorDecision
    (delivery : BridgeCaptureDelivery)
    (capture : CaptureData)
    (existing : ResolutionTombstone) :
    Except Raised CoreCommitResult := do
  require (existing.innerFrameCrc32 =
        Frame.crc32IsoHdlc delivery.innerFrame ∧
      existing.innerFrameSha256 = Sha256.digest delivery.innerFrame)
    conflict
  pure ⟨receipt delivery capture, false, existing.resolution⟩

/-- The row `SAVE_LAST` keeps, in the place of the previous one. -/
def keepLatest
    (store : CaptureStore)
    (delivery : BridgeCaptureDelivery)
    (capture : CaptureData)
    (sessionId : Option SessionId)
    (groupId : Option GroupId) :
    Except Raised CaptureStore :=
  let kept := { store with
    latest := Function.update store.latest sessionId
      (some ⟨delivery, groupId⟩) }
  match store.latest sessionId with
  | none => .ok kept
  | some previous => do
      let frame ← Frame.decode previous.delivery.innerFrame
      let superseded ← CaptureData.decode frame.payload
      if ConfigurationKey.ofCapture superseded = .ofCapture capture then
        pure kept
      else
        pure (kept.dropConfiguration superseded)

/-- What each policy does with a capture that has not been decided. -/
def applyPolicy
    (store : CaptureStore)
    (delivery : BridgeCaptureDelivery)
    (capture : CaptureData)
    (savePolicy : SavePolicy)
    (sessionId : Option SessionId)
    (groupId : Option GroupId) :
    Except Raised (CaptureStore × Bool × CaptureResolution) :=
  match savePolicy with
  | .saveAll => do
      let (archived, inserted) ←
        store.archiveDelivery delivery capture sessionId groupId
      pure (archived, inserted, .rawArchived)
  | .saveLast => do
      let kept ← store.keepLatest delivery capture sessionId groupId
      pure (kept, true, .rollingLatest)
  | .saveNone => .ok (store, true, .discardedByPolicy)

/-- The staged context is dropped unless its capture is rolling. -/
def dropStaged
    (store : CaptureStore)
    (capture : CaptureData)
    (resolution : CaptureResolution) :
    CaptureStore :=
  if resolution = .rollingLatest then
    store
  else
    store.dropConfiguration capture

/-- The transaction of `commit_delivery`. -/
def commitCapture
    (store : CaptureStore)
    (delivery : BridgeCaptureDelivery)
    (capture : CaptureData)
    (savePolicy : SavePolicy)
    (sessionId : Option SessionId)
    (groupId : Option GroupId) :
    Except Raised (CaptureStore × CoreCommitResult) := do
  store.validateGroupTarget groupId
  match store.tombstones.selectKey capture.identity with
  | some existing =>
      let prior ← priorDecision delivery capture existing
      pure (store.dropStaged capture prior.resolution, prior)
  | none =>
      let (kept, inserted, resolution) ←
        store.applyPolicy delivery capture savePolicy sessionId groupId
      let resolved ←
        kept.insertResolution delivery capture resolution sessionId
      pure (resolved.dropStaged capture resolution,
        ⟨receipt delivery capture, inserted, resolution⟩)

/-- `commit_delivery`. -/
def commitDelivery
    (store : CaptureStore)
    (delivery : BridgeCaptureDelivery)
    (savePolicy : SavePolicy)
    (sessionId : Option SessionId)
    (groupId : Option GroupId) :
    Except Raised (CaptureStore × CoreCommitResult) := do
  require (savePolicy = .saveAll ∨ sessionId.isSome)
    (.valueError "SAVE_NONE and SAVE_LAST require a session_id")
  let capture ← deliveredCapture delivery
  store.commitCapture delivery capture savePolicy sessionId groupId

/-! ## Finished sessions -/

/-- The store with the decision about a capture reclassified. -/
def resolveAs
    (store : CaptureStore)
    (chosen : ResolutionTombstone → Bool)
    (resolution : CaptureResolution) :
    CaptureStore :=
  { store with
    tombstones := store.tombstones.modify
      (fun row => if chosen row then { row with resolution := resolution } else row)
      (by intro row; split_ifs <;> rfl)
      (by intro row; split_ifs <;> rfl) }

/-- `_finalize_latest_capture_in_connection`. -/
def finalizeLatestCapture
    (store : CaptureStore)
    (sessionId : SessionId) :
    Except Raised CaptureStore :=
  match store.latest (some sessionId) with
  | none => .ok store
  | some rolling => do
      let frame ← Frame.decode rolling.delivery.innerFrame
      let capture ← CaptureData.decode frame.payload
      let (archived, _) ← store.archiveDelivery rolling.delivery capture
        (some sessionId) rolling.groupId
      let moved := archived.dropConfiguration capture
      let cleared := { moved with
        latest := Function.update moved.latest (some sessionId) none }
      pure (cleared.resolveAs (fun row => row.identity = capture.identity)
        .rawArchived)

/-- The accounting of `_finalize_session_summary_in_connection` over the
decisions of a session. -/
def acquiredBy
    (store : CaptureStore)
    (summary : SessionSummary) :
    SessionSummary :=
  let resolved := store.tombstones.rows.filter fun row =>
    row.sessionId = some summary.sessionId
  let stats := store.stats (some summary.sessionId)
  let last := (stats.bind DeliveryStats.lastCaptureId).or
    (resolved.getLast?.map fun row => row.identity.captureId)
  { summary with
    acquiredCount := (stats.map DeliveryStats.acquiredCount).getD
      resolved.length
    lastCaptureId := last.or summary.lastCaptureId }

/-- The accounting over the archive of a session. -/
def savedBy
    (store : CaptureStore)
    (summary : SessionSummary) :
    SessionSummary :=
  let archived := store.captures.rows.filter fun row =>
    row.sessionId = some summary.sessionId
  { summary with
    savedCount := archived.length
    discardedByPolicyCount := summary.acquiredCount - archived.length
    lastSavedCaptureId :=
      archived.getLast?.map fun row => row.identity.captureId }

/-- Only `SAVE_LAST` keeps a rolling capture to be finalized. -/
def finalizeRolling
    (store : CaptureStore)
    (savePolicy : SavePolicy)
    (sessionId : SessionId) :
    Except Raised CaptureStore :=
  if savePolicy = .saveLast then
    store.finalizeLatestCapture sessionId
  else
    .ok store

/-- `_finalize_session_summary_in_connection`. -/
def finalizeInConnection
    (store : CaptureStore)
    (summary : SessionSummary)
    (savePolicy : SavePolicy) :
    Except Raised CaptureStore := do
  let finalized ← store.finalizeRolling savePolicy summary.sessionId
  pure (finalized.saveSessionSummary
    (finalized.savedBy (store.acquiredBy summary)))

/-- `finalize_session_summary`. -/
def finalizeSessionSummary
    (store : CaptureStore)
    (summary : SessionSummary) :
    Except Raised CaptureStore := do
  require (summary.state.isTerminal = true)
    (.valueError "final session summary requires a terminal state")
  store.finalizeInConnection summary summary.savePolicy

/-- One session of `reconcile_interrupted_sessions`, for the summary that has
been read. -/
def reconcileInterruptedSession
    (store : CaptureStore)
    (summary : SessionSummary) :
    Except Raised CaptureStore :=
  store.finalizeSessionSummary { summary with state := .interrupted }

/-! ## Groups of archived captures -/

/-- A capture id that is not in the archive exactly once. -/
def notFoundUniquely (captureId : Bytes 16) : Raised :=
  ⟨.keyError, "capture_id " ++ hex captureId.toList ++
    " was not found uniquely"⟩

/-- The transaction of `assign_capture_group`. -/
def assignCaptureGroup
    (store : CaptureStore)
    (captureIds : List (Bytes 16))
    (groupId : Option GroupId) :
    Except Raised CaptureStore := do
  store.validateGroupTarget groupId
  captureIds.forM fun captureId =>
    require
      ((store.captures.rows.countP fun row =>
        row.identity.captureId = captureId) = 1)
      (notFoundUniquely captureId)
  pure { store with
    captures := store.captures.modify
      (fun row =>
        if row.identity.captureId ∈ captureIds then
          { row with groupId := groupId }
        else
          row)
      (by intro row; split_ifs <;> rfl)
      (by intro row; split_ifs <;> rfl) }

/-! ## Replayed captures -/

/-- The archive without the captures of a session and their events. -/
def deleteArchived
    (store : CaptureStore)
    (sessionId : Option SessionId) :
    CaptureStore :=
  { store with
    captures := store.captures.delete (·.sessionId = sessionId)
    captureEvents := store.captureEvents.filter fun event =>
      ¬∃ row ∈ store.captures.rows,
        row.rowId = event.captureRowId ∧ row.sessionId = sessionId }

/-- A late frame of a `SAVE_LAST` session is newer than the one kept. -/
def supersede
    (store : CaptureStore)
    (savePolicy : SavePolicy)
    (sessionId : Option SessionId) :
    CaptureStore :=
  if savePolicy = .saveLast then
    (store.deleteArchived sessionId).resolveAs
      (fun row => row.sessionId = sessionId) .discardedByPolicy
  else
    store

/-- What each policy does with a late frame of a closed session. -/
def applyLatePolicy
    (store : CaptureStore)
    (delivery : BridgeCaptureDelivery)
    (capture : CaptureData)
    (savePolicy : SavePolicy)
    (sessionId : Option SessionId)
    (groupId : Option GroupId) :
    Except Raised (CaptureStore × CaptureResolution) :=
  if savePolicy = .saveNone then
    .ok (store, .discardedByPolicy)
  else do
    let (archived, _) ←
      store.archiveDelivery delivery capture sessionId groupId
    pure (archived, .rawArchived)

/-- `_commit_terminal_replay`, for a capture without a decision. -/
def commitTerminalReplay
    (store : CaptureStore)
    (delivery : BridgeCaptureDelivery)
    (capture : CaptureData)
    (savePolicy : SavePolicy)
    (sessionId : Option SessionId)
    (groupId : Option GroupId)
    (summary : SessionSummary) :
    Except Raised (CaptureStore × CoreCommitResult) := do
  let superseded := store.supersede savePolicy sessionId
  let (archived, resolution) ←
    superseded.applyLatePolicy delivery capture savePolicy sessionId groupId
  let resolved ←
    archived.insertResolution delivery capture resolution sessionId
  let finalized ← (resolved.dropConfiguration capture).finalizeInConnection
    summary savePolicy
  pure (finalized, ⟨receipt delivery capture, true, resolution⟩)

/-- The summary of a session, once it is closed. -/
def closedSession?
    (store : CaptureStore)
    (sessionId : Option SessionId) :
    Option SessionSummary :=
  (sessionId.bind store.sessions).filter fun summary =>
    summary.state.isTerminal

/-- The decision of `commit_replayed_delivery` about a capture that has none,
under a policy, a session and a group. -/
def decideReplay
    (store : CaptureStore)
    (delivery : BridgeCaptureDelivery)
    (capture : CaptureData)
    (savePolicy : SavePolicy)
    (sessionId : Option SessionId)
    (groupId : Option GroupId) :
    Except Raised (CaptureStore × CoreCommitResult) :=
  match store.closedSession? sessionId with
  | some summary =>
      store.commitTerminalReplay delivery capture savePolicy sessionId groupId
        summary
  | none => store.commitDelivery delivery savePolicy sessionId groupId

/-- A replayed capture of a boot nobody registered. -/
def noContext : Raised :=
  .runtimeError
    ("replayed capture has no registered save-policy context; " ++
      "bridge spool must remain pending")

/-- `commit_replayed_delivery`. -/
def commitReplayedDelivery
    (store : CaptureStore)
    (delivery : BridgeCaptureDelivery) :
    Except Raised (CaptureStore × CoreCommitResult) := do
  let capture ← deliveredCapture delivery
  match store.tombstones.selectKey capture.identity with
  | some _ => store.commitDelivery delivery .saveAll none none
  | none =>
      match store.context? capture.device with
      | none => .error noContext
      | some context =>
          store.decideReplay delivery capture context.savePolicy
            context.sessionId context.groupId

/-! ## What the operations raise

Among them only the replay of a capture of an unregistered boot raises a plain
`RuntimeError`. -/

section NeverRaises

variable (store : CaptureStore) (delivery : BridgeCaptureDelivery)
  (capture : CaptureData) (savePolicy : SavePolicy)
  (sessionId : Option SessionId) (groupId : Option GroupId)

/-- The checks of a delivery raise what their decoders raise. -/
theorem deliveredCapture_neverRaises :
    NeverRaises .runtimeError (deliveredCapture delivery) := by
  refine .bind ?_ fun _ => ?_
  · refine .bind (.require (by decide)) fun _ => ?_
    refine .bind (.require (by decide)) fun _ => ?_
    refine .bind (Frame.decode_neverRaises _) fun _ => ?_
    exact .require (by decide)
  · exact .bind (Frame.decode_neverRaises _) fun _ =>
      CaptureData.decode_neverRaises _

/-- An unknown group raises a `KeyError`. -/
theorem validateGroupTarget_neverRaises :
    NeverRaises .runtimeError (store.validateGroupTarget groupId) := by
  cases groupId with
  | none => exact .ok _
  | some groupId => exact .require (by simp [unknownGroup])

/-- What an archive raises. -/
theorem archiveDelivery_neverRaises :
    NeverRaises .runtimeError
      (store.archiveDelivery delivery capture sessionId groupId) := by
  refine .bind (store.validateGroupTarget_neverRaises groupId) fun _ => ?_
  split
  · exact .bind (.require (by decide)) fun _ => .ok _
  · dsimp only
    split
    · exact .error (by simp [integrity])
    · refine .bind ?_ fun _ => .ok _
      exact .bind (.require (by decide)) fun _ => .ok _

/-- What a tombstone raises. -/
theorem insertResolution_neverRaises (resolution : CaptureResolution) :
    NeverRaises .runtimeError
      (store.insertResolution delivery capture resolution sessionId) := by
  unfold insertResolution
  dsimp only
  split
  · exact .error (by simp [integrity])
  · exact .ok _

/-- What a policy raises. -/
theorem applyPolicy_neverRaises :
    NeverRaises .runtimeError
      (store.applyPolicy delivery capture savePolicy sessionId groupId) := by
  cases savePolicy with
  | saveNone =>
      exact .ok _
  | saveAll =>
      exact .bind (store.archiveDelivery_neverRaises _ _ _ _) fun _ => .ok _
  | saveLast =>
      refine .bind ?_ fun _ => .ok _
      unfold keepLatest
      dsimp only
      split
      · exact .ok _
      · refine .bind (Frame.decode_neverRaises _) fun _ => ?_
        refine .bind (CaptureData.decode_neverRaises _) fun _ => ?_
        split_ifs
        · exact .ok _
        · exact .ok _

/-- What a commit raises. -/
theorem commitDelivery_neverRaises :
    NeverRaises .runtimeError
      (store.commitDelivery delivery savePolicy sessionId groupId) := by
  refine .bind (.require (by decide)) fun _ => ?_
  refine .bind (deliveredCapture_neverRaises delivery) fun capture => ?_
  refine .bind (store.validateGroupTarget_neverRaises groupId) fun _ => ?_
  split
  · refine .bind ?_ fun _ => .ok _
    exact .bind (.require (by decide)) fun _ => .ok _
  · refine .bind (store.applyPolicy_neverRaises _ _ _ _ _) fun kept => ?_
    exact .bind (insertResolution_neverRaises _ _ _ _ _) fun _ => .ok _

/-- What the end of a session raises. -/
theorem finalizeInConnection_neverRaises (summary : SessionSummary) :
    NeverRaises .runtimeError
      (store.finalizeInConnection summary savePolicy) := by
  refine .bind ?_ fun _ => .ok _
  unfold finalizeRolling
  split_ifs
  · unfold finalizeLatestCapture
    split
    · exact .ok _
    · refine .bind (Frame.decode_neverRaises _) fun _ => ?_
      refine .bind (CaptureData.decode_neverRaises _) fun _ => ?_
      exact .bind (store.archiveDelivery_neverRaises _ _ _ _) fun _ => .ok _
  · exact .ok _

/-- What the decision about a replayed capture raises. -/
theorem decideReplay_neverRaises :
    NeverRaises .runtimeError
      (store.decideReplay delivery capture savePolicy sessionId groupId) := by
  unfold decideReplay
  split
  · refine .bind ?_ fun archived => ?_
    · unfold applyLatePolicy
      split_ifs
      · exact .ok _
      · exact .bind (archiveDelivery_neverRaises _ _ _ _ _) fun _ => .ok _
    · refine .bind (insertResolution_neverRaises _ _ _ _ _) fun _ => ?_
      exact .bind (finalizeInConnection_neverRaises _ _ _) fun _ => .ok _
  · exact store.commitDelivery_neverRaises _ _ _ _

/-- A replayed capture of a registered boot has a context. -/
theorem commitReplayedDelivery_ne_noContext
    {capture : CaptureData}
    (delivered : deliveredCapture delivery = .ok capture)
    (registered : (store.context? capture.device).isSome = true) :
    store.commitReplayedDelivery delivery ≠ .error noContext := by
  obtain ⟨context, found⟩ := Option.isSome_iff_exists.1 registered
  have never :
      NeverRaises .runtimeError (store.commitReplayedDelivery delivery) := by
    unfold commitReplayedDelivery
    simp only [delivered, ok_bind, found]
    split
    · exact store.commitDelivery_neverRaises _ _ _ _
    · exact store.decideReplay_neverRaises _ _ _ _ _
  intro raised
  exact never noContext raised rfl

end NeverRaises

end CaptureStore

end Usac.Host
