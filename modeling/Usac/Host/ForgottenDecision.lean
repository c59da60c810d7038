import Usac.Host.ArchiveImmutability
import Usac.Host.CaptureDataFormat
import Usac.Library.Recency

namespace Usac.Host

open Library

/-!
# Decisions that are forgotten

The log of decisions keeps the newest ones only. Captures that are discarded
change nothing but the log and the statistics, so after enough of them the log
has forgotten every older decision, and a delivery repeated then is decided
anew. When it is a late frame of a `SAVE_LAST` session, the row that its first
delivery left goes, and with it the group a user has assigned it to.
-/

/-! ## Deliveries of given captures -/

/-- The frame of a capture. -/
def frameOf (capture : CaptureData) : Frame where
  messageType := .captureData
  sequence := 1
  payload := capture.wireBytes
  flags := Flags.response
  protocolVersion := Frame.currentVersion

/-- The bytes of the frame of a capture. -/
def frameBytesOf (capture : CaptureData) : List UInt8 :=
  Frame.magic ++ (frameOf capture).header ++ capture.wireBytes ++
    writeU32 (Frame.crc32IsoHdlc ((frameOf capture).header ++ capture.wireBytes))

/-- The delivery of a capture. -/
def deliveryOf (capture : CaptureData) : BridgeCaptureDelivery where
  connectionId := 1
  spoolRecordId := 1
  sourceConnectionId := 1
  sourceFirstStreamOffset := 0
  sourceLastStreamOffset := ((frameBytesOf capture).length - 1).toUInt64
  storedUtcNs := 0
  innerFrame := frameBytesOf capture

/-- A capture that a frame can hold. -/
structure Deliverable (capture : CaptureData) : Prop where
  valid : capture.validate = .ok ()
  large : 188 ≤ capture.wireBytes.length
  small : capture.wireBytes.length ≤ 4632

/-- A delivery of a capture is accepted and holds it. -/
theorem Deliverable.delivered
    {capture : CaptureData}
    (deliverable : Deliverable capture) :
    CaptureStore.deliveredCapture (deliveryOf capture) = .ok capture := by
  have encoded : (frameOf capture).encode = .ok (frameBytesOf capture) := by
    have flags : Flags.response &&& ~~~Frame.validFlagsMask = 0 := by
      decide
    have fields : (frameOf capture).validateFields = .ok () := by
      simp only [Frame.validateFields, bind_eq_ok, require_eq_ok]
      exact ⟨(), rfl, (), flags, deliverable.small.trans (by decide)⟩
    rw [Frame.encode, fields]
    rfl
  have framed := Frame.decode_of_encode encoded
  have length :
      (frameBytesOf capture).length = capture.wireBytes.length + 20 := by
    simp [frameBytesOf, Frame.magic, Frame.header]
    omega
  have decoded : CaptureData.decode capture.wireBytes = .ok capture := by
    refine CaptureData.decode_of_encode ?_
    rw [CaptureData.encode, deliverable.valid]
    rfl
  have large := deliverable.large
  have small := deliverable.small
  have offsets :
      (((deliveryOf capture).sourceLastStreamOffset.toNat : Int) -
          (deliveryOf capture).sourceFirstStreamOffset.toNat + 1) =
        (frameBytesOf capture).length := by
    simp only [deliveryOf, length, Nat.toUInt64_eq, UInt64.toNat_ofNat']
    simp
    omega
  have checks : (deliveryOf capture).validate = .ok () := by
    rw [BridgeCaptureDelivery.validate]
    simp only [bind_eq_ok, require_eq_ok]
    exact ⟨(), ⟨by simp [deliveryOf, length]; omega,
      by simp [deliveryOf, length]; omega⟩, (), offsets, frameOf capture,
      framed, rfl⟩
  rw [CaptureStore.deliveredCapture, checks]
  simp only [ok_bind, deliveryOf, framed]
  exact decoded

namespace CaptureStore

/-! ## The log of decisions -/

/-- The decisions are numbered in order, as far as the counter, and not too
many. -/
structure Chronicled (store : CaptureStore) : Prop where
  ascending : store.tombstones.Ascending
  within : store.tombstones.rows.length ≤ tombstoneLimit
  issued :
    ∀ row ∈ store.tombstones.rows, row.rowId ≤ store.lastTombstoneId

/-- The identities of the decisions. -/
def decisions (store : CaptureStore) : List CaptureIdentity :=
  store.tombstones.rows.map ResolutionTombstone.identity

/-- What a discarded capture changes: one more decision, and the oldest ones
go. -/
structure Discards (store next : CaptureStore) (decided : List CaptureIdentity) :
    Prop where
  archive : LeavesArchive store next
  policies : SamePolicies store next
  latest : next.latest = store.latest
  sessions : next.sessions = store.sessions
  decisions :
    next.decisions =
      (store.decisions ++ decided).drop
        ((store.decisions ++ decided).length - tombstoneLimit)

section Log

variable {store next : CaptureStore} {delivery : BridgeCaptureDelivery}
  {capture : CaptureData} {sessionId : Option SessionId}

/-- A capture without a decision gets one. -/
theorem insertResolution_ok
    (issued :
      ∀ row ∈ store.tombstones.rows, row.rowId ≤ store.lastTombstoneId)
    (fresh : capture.identity ∉ store.decisions)
    (resolution : CaptureResolution) :
    ∃ next,
      store.insertResolution delivery capture resolution sessionId =
        .ok next := by
  unfold insertResolution
  dsimp only
  split
  · rename_i refused
    rcases store.tombstones.insert?_eq_none.1 refused with number | identity
    · obtain ⟨row, member, same⟩ := List.mem_map.1 number
      have := issued row member
      dsimp only at same
      omega
    · exact absurd identity fresh
  · exact ⟨_, rfl⟩

/-- A decision follows the others, and the oldest ones go. -/
theorem Records.chronicled
    {resolution : CaptureResolution}
    (records : Records store delivery capture resolution sessionId next)
    (chronicled : store.Chronicled) :
    next.Chronicled ∧
      next.decisions =
        (store.decisions ++ [capture.identity]).drop
          ((store.decisions ++ [capture.identity]).length -
            tombstoneLimit) := by
  cases records with
  | recorded tombstones fresh rows =>
      have ascending : tombstones.Ascending := by
        unfold Table.Ascending
        rw [rows]
        refine List.pairwise_append.2
          ⟨chronicled.ascending, List.pairwise_singleton _ _, ?_⟩
        intro old member new last
        rw [List.mem_singleton.1 last]
        exact Nat.lt_succ_of_le (chronicled.issued old member)
      refine ⟨⟨ascending.keepNewest _, ?_, ?_⟩, ?_⟩
      · rw [ascending.keepNewest_rows, List.length_drop]
        generalize tombstoneLimit = limit
        omega
      · intro row member
        have among := Table.mem_of_mem_keepNewest _ member
        rw [rows, List.mem_append, List.mem_singleton] at among
        rcases among with old | rfl
        · exact (chronicled.issued row old).trans (Nat.le_succ _)
        · exact le_rfl
      · simp only [decisions, ascending.keepNewest_rows, rows,
          List.map_drop, List.map_append, List.map_cons, List.map_nil,
          List.length_append, List.length_map, List.length_cons,
          List.length_nil, resolutionRow]

/-- A capture is discarded, once. -/
theorem commitDelivery_discards
    (chronicled : store.Chronicled)
    (delivered : deliveredCapture delivery = .ok capture)
    (fresh : capture.identity ∉ store.decisions)
    (session : SessionId) :
    ∃ next result,
      store.commitDelivery delivery .saveNone (some session) none =
          .ok (next, result) ∧
        next.Chronicled ∧ Discards store next [capture.identity] := by
  have undecided : store.tombstones.selectKey capture.identity = none :=
    store.tombstones.selectKey_eq_none.2 fresh
  obtain ⟨resolved, resolves⟩ :
      ∃ resolved,
        store.insertResolution delivery capture .discardedByPolicy
          (some session) = .ok resolved :=
    insertResolution_ok chronicled.issued fresh _
  have committed :
      ∃ next result,
        store.commitDelivery delivery .saveNone (some session) none =
          .ok (next, result) := by
    simp [commitDelivery, delivered, commitCapture, validateGroupTarget,
      undecided, applyPolicy, resolves, pure, Except.pure]
  obtain ⟨next, result, committed⟩ := committed
  refine ⟨next, result, committed, ?_⟩
  obtain ⟨again, redelivered, commits⟩ := commitDelivery_commits committed
  obtain rfl := Except.ok.inj (delivered.symm.trans redelivered)
  have policies := commits.policies
  cases commits with
  | repeated existing found =>
      cases undecided.symm.trans found
  | decided undecided named keeps records configurations =>
      cases keeps with
      | discarded =>
          obtain ⟨log, decided⟩ := records.chronicled chronicled
          exact ⟨⟨log.ascending, log.within, log.issued⟩,
            ⟨records.frame.captures, records.frame.captureEvents,
              records.frame.lastCaptureRowId⟩,
            policies, records.frame.latest, records.frame.sessions, decided⟩

end Log

/-- One list of discarded captures after the other. -/
theorem Discards.trans
    {first second third : CaptureStore}
    {before after : List CaptureIdentity}
    (discards : Discards first second before)
    (rest : Discards second third after) :
    Discards first third (before ++ after) where
  archive :=
    ⟨rest.archive.captures.trans discards.archive.captures,
      rest.archive.captureEvents.trans discards.archive.captureEvents,
      rest.archive.lastCaptureRowId.trans discards.archive.lastCaptureRowId⟩
  policies := discards.policies.trans rest.policies
  latest := rest.latest.trans discards.latest
  sessions := rest.sessions.trans discards.sessions
  decisions := by
    generalize all : first.decisions ++ before = log
    have kept := discards.decisions
    rw [all] at kept
    rw [rest.decisions, kept, ← List.append_assoc, all]
    have inside : log.length - tombstoneLimit ≤ log.length := Nat.sub_le _ _
    have count :
        log.length - tombstoneLimit +
            ((log.drop (log.length - tombstoneLimit) ++ after).length -
              tombstoneLimit) =
          (log ++ after).length - tombstoneLimit := by
      simp only [List.length_drop, List.length_append]
      generalize tombstoneLimit = limit
      omega
    rw [← List.drop_append_of_le_length inside, List.drop_drop,
      List.drop_append_of_le_length inside, count]

/-! ## Late frames that are archived -/

section Late

variable {store : CaptureStore} {delivery : BridgeCaptureDelivery}
  {capture : CaptureData} {sessionId : Option SessionId}

/-- A capture without events that is not in the archive is archived. -/
theorem archiveDelivery_ok
    (issued : store.Issued)
    (absent : ∀ row ∈ store.captures.rows, row.identity ≠ capture.identity)
    (plain : capture.events = []) :
    ∃ next,
      store.archiveDelivery delivery capture sessionId none =
        .ok (next, true) := by
  have unknown : store.captures.selectKey capture.identity = none := by
    refine store.captures.selectKey_eq_none.2 fun taken => ?_
    obtain ⟨row, member, same⟩ := List.mem_map.1 taken
    exact absent row member same
  unfold archiveDelivery
  simp only [validateGroupTarget, ok_bind, unknown]
  split
  · rename_i refused
    rcases store.captures.insert?_eq_none.1 refused with number | identity
    · obtain ⟨row, member, same⟩ := List.mem_map.1 number
      have upTo := (issued row member).2
      simp only [archiveRow] at same
      omega
    · obtain ⟨row, member, same⟩ := List.mem_map.1 identity
      exact absurd same (absent row member)
  · simp [insertEvents, eventRows, plain, pure, Except.pure]

/-- A late frame of a session without a rolling capture is archived, when the
archive holds it for that session only. -/
theorem commitTerminalReplay_ok
    (issued : store.Issued)
    (chronicled : store.Chronicled)
    (forgotten : capture.identity ∉ store.decisions)
    (plain : capture.events = [])
    {summary : SessionSummary}
    (unrolled : store.latest (some summary.sessionId) = none)
    (own :
      ∀ row ∈ store.captures.rows, row.identity = capture.identity →
        row.sessionId = sessionId) :
    ∃ next result,
      store.commitTerminalReplay delivery capture .saveLast sessionId none
        summary = .ok (next, result) := by
  have superseded :
      (store.supersede .saveLast sessionId).Issued :=
    issued.extends extends_supersede
  obtain ⟨archived, archives⟩ :
      ∃ archived,
        (store.supersede .saveLast sessionId).archiveDelivery delivery capture
          sessionId none = .ok (archived, true) := by
    refine archiveDelivery_ok superseded (fun row member same => ?_) plain
    exact sessionId_ne_of_mem_supersede member
      (own row (mem_of_mem_supersede member) same)
  have frame := (archiveDelivery_archives archives).frame
  have log :
      ∀ row ∈ archived.tombstones.rows, ∃ old ∈ store.tombstones.rows,
        row.rowId = old.rowId ∧ row.identity = old.identity := by
    intro row member
    rw [frame.tombstones, supersede, if_pos rfl] at member
    obtain ⟨old, known, rfl⟩ := List.mem_map.1 member
    refine ⟨old, known, ?_⟩
    dsimp only
    split_ifs <;> exact ⟨rfl, rfl⟩
  have counter : archived.lastTombstoneId = store.lastTombstoneId :=
    frame.lastTombstoneId.trans (by rw [supersede, if_pos rfl]; rfl)
  obtain ⟨resolved, resolves⟩ :
      ∃ resolved,
        archived.insertResolution delivery capture .rawArchived sessionId =
          .ok resolved := by
    refine insertResolution_ok ?_ ?_ _
    · intro row member
      obtain ⟨old, known, number, -⟩ := log row member
      rw [number, counter]
      exact chronicled.issued old known
    · intro decided
      obtain ⟨row, member, same⟩ := List.mem_map.1 decided
      obtain ⟨old, known, -, identity⟩ := log row member
      exact forgotten (List.mem_map.2 ⟨old, known, identity.symm.trans same⟩)
  have latest :
      (resolved.dropConfiguration capture).latest (some summary.sessionId) =
        none := by
    have recorded := (insertResolution_records resolves).frame.latest
    show resolved.latest _ = none
    rw [recorded, frame.latest, supersede, if_pos rfl]
    exact unrolled
  simp [commitTerminalReplay, applyLatePolicy, archives, resolves,
    finalizeInConnection, finalizeRolling, finalizeLatestCapture, latest, pure,
    Except.pure]

end Late

end CaptureStore

namespace Catalogue

open CaptureStore

/-! ## Captures discarded one after another -/

/-- A delivery that is discarded. -/
def discard
    (session : SessionId)
    (delivery : BridgeCaptureDelivery) :
    Operation :=
  .transact (.commitDelivery delivery .saveNone (some session) none) rfl

/-- A transaction that succeeds leaves its store. -/
theorem store_transact
    {catalogue : Catalogue}
    {transaction : Transaction}
    {next : CaptureStore}
    {result : Option CoreCommitResult}
    (performed : transaction.perform catalogue.store = .ok (next, result))
    (other : transaction.isCatalogued = false) :
    (machine.step catalogue (.transact transaction other)).1.store = next := by
  have step :
      machine.step catalogue (.transact transaction other) =
        catalogue.transact transaction other := by
    rw [machine]
  rw [step, transact]
  split
  · rename_i same
    exact (Prod.mk.inj (Except.ok.inj (same.symm.trans performed))).1
  · rename_i same
    cases same.symm.trans performed

/-- Captures that are discarded, each for the first time, change the log
only, of which the newest part is kept. -/
theorem after_discards
    (session : SessionId)
    {captures : List CaptureData}
    (deliverable : ∀ capture ∈ captures, Deliverable capture)
    {catalogue : Catalogue}
    (chronicled : catalogue.store.Chronicled)
    (distinct :
      (catalogue.store.decisions ++
        captures.map CaptureData.identity).Nodup) :
    let next := machine.after catalogue
      (captures.map fun capture => discard session (deliveryOf capture))
    next.store.Chronicled ∧
      Discards catalogue.store next.store
        (captures.map CaptureData.identity) := by
  induction captures generalizing catalogue with
  | nil =>
      refine ⟨chronicled, ⟨rfl, rfl, rfl⟩, .refl _, rfl, rfl, ?_⟩
      have within : catalogue.store.decisions.length ≤ tombstoneLimit := by
        simpa [CaptureStore.decisions] using chronicled.within
      simp [Nat.sub_eq_zero_of_le within, Machine.after]
  | cons capture rest inductionHypothesis =>
      obtain ⟨deliverableFirst, deliverableRest⟩ :=
        List.forall_mem_cons.1 deliverable
      have delivered := deliverableFirst.delivered
      rw [List.map_cons, List.append_cons] at distinct
      have once : capture.identity ∉ catalogue.store.decisions := by
        intro known
        obtain ⟨-, -, apart⟩ := List.nodup_append.1 (List.nodup_append.1 distinct).1
        exact apart _ known _ List.mem_cons_self rfl
      obtain ⟨store, result, committed, storeChronicled, discards⟩ :=
        commitDelivery_discards chronicled delivered once session
      have performed :
          (Transaction.commitDelivery (deliveryOf capture) .saveNone
            (some session) none).perform catalogue.store =
              .ok (store, some result) := by
        rw [Transaction.perform, committed]
        rfl
      have first :
          (machine.step catalogue
            (discard session (deliveryOf capture))).1.store = store :=
        store_transact performed rfl
      rw [List.map_cons, Machine.after]
      generalize (machine.step catalogue
        (discard session (deliveryOf capture))).1 = next at first
      obtain rfl := first
      have apart :
          (next.store.decisions ++ rest.map CaptureData.identity).Nodup := by
        refine distinct.sublist (List.Sublist.append ?_ (List.Sublist.refl _))
        rw [discards.decisions]
        exact List.drop_sublist _ _
      obtain ⟨finallyChronicled, others⟩ :=
        inductionHypothesis deliverableRest storeChronicled apart
      exact ⟨finallyChronicled, discards.trans others⟩

/-- A late frame that is archived again leaves its row under the group of its
policy. -/
theorem not_keepsGroups_of_late
    {catalogue : Catalogue}
    {delivery : BridgeCaptureDelivery}
    {capture : CaptureData}
    {context : DeliveryPolicyContext}
    {summary : SessionSummary}
    (issued : catalogue.store.Issued)
    (chronicled : catalogue.store.Chronicled)
    (superseding :
      catalogue.store.superseding? delivery =
        some (capture, context, summary))
    (ungrouped : context.groupId = none)
    (plain : capture.events = [])
    (unrolled : catalogue.store.latest (some summary.sessionId) = none)
    {row : ArchivedCapture}
    (known : row ∈ catalogue.store.captures.rows)
    (identity : row.identity = capture.identity)
    (session : row.sessionId = context.sessionId)
    (grouped : row.groupId ≠ none) :
    ¬KeepsGroups
      (machine.event catalogue
        (.transact (.commitReplayedDelivery delivery) rfl)) := by
  intro keeps
  obtain ⟨delivered, registered, closed, undecided, last⟩ :=
    superseding?_eq_some.1 superseding
  obtain ⟨next, result, committed⟩ :
      ∃ next result,
        catalogue.store.commitTerminalReplay delivery capture .saveLast
          context.sessionId none summary = .ok (next, result) := by
    refine commitTerminalReplay_ok issued chronicled
      (catalogue.store.tombstones.selectKey_eq_none.1 undecided) plain unrolled
      fun other present same => ?_
    rw [List.inj_on_of_nodup_map catalogue.store.captures.uniqueKey present
      known (same.trans identity.symm)]
    exact session
  have performed :
      (Transaction.commitReplayedDelivery delivery).perform catalogue.store =
        .ok (next, some result) := by
    simp [Transaction.perform, commitReplayedDelivery, delivered, undecided,
      registered, decideReplay, closed, last, ungrouped, committed, pure,
      Except.pure]
  have late :
      Late catalogue.store delivery
        (machine.event catalogue
          (.transact (.commitReplayedDelivery delivery) rfl)).target.store := by
    have target :
        (machine.event catalogue
          (.transact (.commitReplayedDelivery delivery) rfl)).target.store =
            next :=
      store_transact performed rfl
    rw [target]
    refine ⟨capture, context, summary, result, superseding, ?_⟩
    rw [ungrouped]
    exact commitTerminalReplay_commitsLate committed
  have spares := spares_of_keepsGroups late keeps capture context summary
    superseding row known session
  exact grouped ((spares.1 identity).trans ungrouped)

/-! ## A capture that is archived again -/

/-- A numbered capture id. -/
def captureIdOf (number : Nat) : Bytes 16 :=
  ((Bytes.zero 16).set 0 number.toUInt8).set 1 (number / 256).toUInt8

/-- A capture of one sample under a numbered id. -/
def countedCapture (number : Nat) : CaptureData :=
  { numberedCapture 0 with captureId := captureIdOf number }

/-- The group a user assigns captures to. -/
def userGroup : GroupId := (Bytes.zero 16).set 0 1

/-- The last capture of a session is archived and assigned to a group. -/
def assignedCapture : List Operation :=
  [.createExperiment (Bytes.zero 16) 0 "experiment" "",
    .createGroup "00000000000000000000000000000000" userGroup 0 "group" "" "",
    .transact (.registerDeliveryPolicy (countedCapture 0).device
      (some oneSession) .saveLast none) rfl,
    .transact (.commitReplayedDelivery (deliveryOf (countedCapture 0))) rfl,
    .transact (.finalizeSessionSummary
      (summaryOf oneSession .completed .saveLast)) rfl,
    .assignCaptureGroup [(captureIdOf 0).toList]
      (some "01000000000000000000000000000000")]

/-- As many captures as decisions are kept. -/
def otherCaptures : List CaptureData :=
  (List.range tombstoneLimit).map fun number => countedCapture (number + 1)

/-- The captures that are discarded in between. -/
def discardedCaptures : List Operation :=
  otherCaptures.map fun capture => discard oneSession (deliveryOf capture)

/-- Captures of different numbers differ. -/
theorem identity_countedCapture
    {first second : Nat}
    (firstBound : first < 65536)
    (secondBound : second < 65536)
    (same :
      (countedCapture first).identity = (countedCapture second).identity) :
    first = second := by
  have captureIds := congrArg CaptureIdentity.captureId same
  have low : first.toUInt8 = second.toUInt8 :=
    congrArg (fun bytes : Bytes 16 => bytes.get 0) captureIds
  have high : (first / 256).toUInt8 = (second / 256).toUInt8 :=
    congrArg (fun bytes : Bytes 16 => bytes.get 1) captureIds
  have lowNat := congrArg UInt8.toNat low
  have highNat := congrArg UInt8.toNat high
  simp only [Nat.toUInt8_eq, UInt8.toNat_ofNat'] at lowNat highNat
  omega

/-- A frame can hold a capture of one sample. -/
theorem deliverable_countedCapture (number : Nat) :
    Deliverable (countedCapture number) := by
  have valid : (numberedCapture 0).validate = .ok () := by
    decide +kernel
  have variable_ : (countedCapture number).variableBytes.length = 2 := by
    have same :
        (countedCapture number).variableBytes =
          (numberedCapture 0).variableBytes :=
      rfl
    rw [same]
    decide +kernel
  refine ⟨valid, ?_, ?_⟩ <;>
    simp [CaptureData.wireBytes, variable_]

/-- The log after the first capture and the others. -/
theorem nodup_counted :
    ([(countedCapture 0).identity] ++
      otherCaptures.map CaptureData.identity).Nodup := by
  have all :
      [(countedCapture 0).identity] ++
          otherCaptures.map CaptureData.identity =
        (List.range (tombstoneLimit + 1)).map
          fun number => (countedCapture number).identity := by
    rw [List.range_succ_eq_map, otherCaptures]
    simp [List.map_map, Function.comp_def]
  rw [all]
  refine List.nodup_range.map_on fun first firstMember second secondMember
    same => ?_
  have firstBound := List.mem_range.1 firstMember
  have secondBound := List.mem_range.1 secondMember
  rw [tombstoneLimit] at firstBound secondBound
  exact identity_countedCapture (by omega) (by omega) same

set_option maxRecDepth 100000 in
/-- The store when the capture has been assigned. -/
theorem after_assignedCapture :
    let store := (machine.after empty assignedCapture).store
    (∃ row ∈ store.captures.rows,
        row.identity = (countedCapture 0).identity ∧
          row.sessionId = some oneSession ∧ row.groupId = some userGroup) ∧
      store.tombstones.rows.map ResolutionTombstone.rowId = [1] ∧
      store.lastTombstoneId = 1 ∧
      store.decisions = [(countedCapture 0).identity] ∧
      (∀ row ∈ store.captures.rows,
        0 < row.rowId ∧ row.rowId ≤ store.lastCaptureRowId) ∧
      store.latest (some oneSession) = none ∧
      (∃ context ∈ store.context? (countedCapture 0).device,
        context.sessionId = some oneSession ∧ context.savePolicy = .saveLast ∧
          context.groupId = none) ∧
      ∃ summary ∈ store.closedSession? (some oneSession),
        summary.sessionId = oneSession := by
  decide +kernel

/-- A session only matters under its own id. -/
theorem closedSession?_congr
    {store next : CaptureStore}
    (sessions : next.sessions = store.sessions)
    (sessionId : Option SessionId) :
    next.closedSession? sessionId = store.closedSession? sessionId := by
  rw [closedSession?, closedSession?, sessions]

/-- The calls up to the repeated delivery. -/
def beforeReplay : List Operation :=
  assignedCapture ++ discardedCaptures

/-- The delivery of the capture, once more. -/
def replayAgain : Operation :=
  .transact (.commitReplayedDelivery (deliveryOf (countedCapture 0))) rfl

/-- A repeated delivery takes a capture out of the group a user has assigned it
to, once its decision has been forgotten. -/
theorem not_keepsGroups_replayedAgain :
    ¬EveryStep (fun _ call => KeepsGroups call)
      (machine.trace empty (beforeReplay ++ [replayAgain])) := by
  intro every
  rw [Machine.trace_concat] at every
  have keeps := ((EveryStep.concat_iff _ _).1 every).2
  rw [beforeReplay, Machine.after_append] at keeps
  obtain ⟨⟨row, known, identity, session, group⟩, numbers, counter, decided,
    issued, unrolled, ⟨context, registered, own, last, ungrouped⟩,
    summary, closed, named⟩ := after_assignedCapture
  generalize machine.after empty assignedCapture = assigned at *
  have chronicled : assigned.store.Chronicled := by
    obtain ⟨only, one, number⟩ := List.map_eq_singleton_iff.1 numbers
    refine ⟨?_, ?_, ?_⟩
    · rw [Table.Ascending, one]
      exact List.pairwise_singleton _ _
    · rw [one, List.length_singleton, tombstoneLimit]
      omega
    · intro tombstone member
      rw [one, List.mem_singleton] at member
      rw [member, number, counter]
  have distinct :
      (assigned.store.decisions ++
        otherCaptures.map CaptureData.identity).Nodup := by
    rw [decided]
    exact nodup_counted
  have deliverable :
      ∀ capture ∈ otherCaptures, Deliverable capture := by
    intro capture member
    obtain ⟨number, -, rfl⟩ := List.mem_map.1 member
    exact deliverable_countedCapture _
  obtain ⟨finallyChronicled, discards⟩ :=
    after_discards oneSession deliverable chronicled distinct
  have replayed :
      KeepsGroups
        (machine.event
          (machine.after assigned
            (otherCaptures.map fun capture =>
              discard oneSession (deliveryOf capture)))
          (.transact (.commitReplayedDelivery
            (deliveryOf (countedCapture 0))) rfl)) :=
    keeps
  generalize machine.after assigned
    (otherCaptures.map fun capture =>
      discard oneSession (deliveryOf capture)) = final at *
  have forgotten : (countedCapture 0).identity ∉ final.store.decisions := by
    have count :
        ([(countedCapture 0).identity] ++
          otherCaptures.map CaptureData.identity).length - tombstoneLimit =
            1 := by
      simp [otherCaptures]
    rw [discards.decisions, decided, count]
    exact (List.nodup_cons.1 nodup_counted).1
  have superseding :
      final.store.superseding? (deliveryOf (countedCapture 0)) =
        some (countedCapture 0, context, summary) := by
    refine superseding?_eq_some.2
      ⟨(deliverable_countedCapture 0).delivered, ?_, ?_, ?_, last⟩
    · rw [context?, discards.policies.contexts]
      exact registered
    · rw [closedSession?_congr discards.sessions, own]
      exact closed
    · exact final.store.tombstones.selectKey_eq_none.2 forgotten
  have present : row ∈ final.store.captures.rows := by
    rw [discards.archive.captures]
    exact known
  refine not_keepsGroups_of_late ?_ finallyChronicled superseding ungrouped rfl ?_
    present identity (session.trans own.symm) (by simp [group]) replayed
  · intro other member
    rw [discards.archive.captures] at member
    rw [discards.archive.lastCaptureRowId]
    exact issued other member
  · rw [discards.latest, named]
    exact unrolled

/-- Whether a call is a late frame that supersedes. -/
def supersedes (call : Call) : Bool :=
  match call.input with
  | .transact (.commitReplayedDelivery delivery) _ =>
      (call.source.store.superseding? delivery).isSome
  | _ => false

/-- What does not supersede archives nothing again. -/
theorem sparesArchived_of_supersedes
    {call : Call}
    (direct : supersedes call = false) :
    SparesArchived call := by
  intro delivery other input capture context summary found
  simp [supersedes, input, found] at direct

set_option maxRecDepth 100000 in
/-- A capture is archived and assigned to a group. -/
theorem archive_immutable_assignedOnce :
    EveryStep (fun _ call => KeepsGroups call)
      (machine.trace empty assignedCapture) := by
  have direct :
      EveryStep (fun _ call => supersedes call = false)
        (machine.trace empty assignedCapture) := by
    decide +kernel
  exact (archive_immutable assignedCapture).2
    (direct.imp fun _ _ => sparesArchived_of_supersedes)

end Catalogue

end Usac.Host
