import Usac.Host.CaptureStore

namespace Usac.Host.CaptureStore

open Library

/-!
# What the operations of the capture store do

For each operation a relation with everything it does when it succeeds. Where
an operation only drops staged configuration contexts, the relation leaves open
which.
-/

/-- The capture in a frame that the store has kept. -/
def storedCapture (delivery : BridgeCaptureDelivery) : Except Raised CaptureData :=
  do
    let frame ← Frame.decode delivery.innerFrame
    CaptureData.decode frame.payload

/-- A delivery that passes the checks of the bridge holds its capture. -/
theorem storedCapture_of_delivered
    {delivery : BridgeCaptureDelivery}
    {capture : CaptureData}
    (delivered : deliveredCapture delivery = .ok capture) :
    storedCapture delivery = .ok capture := by
  obtain ⟨⟨⟩, -, decoded⟩ := bind_eq_ok.1 delivered
  exact decoded

section Effects

variable (store : CaptureStore) (delivery : BridgeCaptureDelivery)
  (capture : CaptureData)

/-! ## Archiving -/

/-- What archiving a capture does: the frame is there already, or it is added
with its events. -/
inductive Archives
    (sessionId : Option SessionId)
    (groupId : Option GroupId) :
    CaptureStore → Bool → Prop where
  | kept
      (existing : ArchivedCapture)
      (member : existing ∈ store.captures.rows)
      (same : existing.identity = capture.identity)
      (bytes : existing.wireFrame = delivery.innerFrame) :
      Archives sessionId groupId store false
  | added
      (captures : Table ArchivedCapture Nat CaptureIdentity
        ArchivedCapture.rowId ArchivedCapture.identity)
      (fresh : ∀ row ∈ store.captures.rows, row.identity ≠ capture.identity)
      (rows :
        captures.rows =
          store.captures.rows ++
            [store.archiveRow delivery capture sessionId groupId]) :
      Archives sessionId groupId
        { store with
          captures := captures
          captureEvents :=
            store.captureEvents ++
              eventRows (store.lastCaptureRowId + 1) capture
          lastCaptureRowId := store.lastCaptureRowId + 1 }
        true

/-! ## Decisions -/

/-- The row in which a decision is recorded. -/
def resolutionRow
    (resolution : CaptureResolution)
    (sessionId : Option SessionId) :
    ResolutionTombstone where
  rowId := store.lastTombstoneId + 1
  identity := capture.identity
  innerFrameCrc32 := Frame.crc32IsoHdlc delivery.innerFrame
  innerFrameSha256 := Sha256.digest delivery.innerFrame
  resolution := resolution
  sessionId := sessionId
  resolvedUtcNs := delivery.storedUtcNs

/-- The number of captures decided for a session. -/
def acquiredCount (sessionId : Option SessionId) : Nat :=
  ((store.stats sessionId).map DeliveryStats.acquiredCount).getD 0

/-- The statistics with one more capture of a session. -/
def counted
    (sessionId : Option SessionId) :
    Option SessionId → Option DeliveryStats :=
  if sessionId.isSome then
    Function.update store.stats sessionId
      (some ⟨store.acquiredCount sessionId + 1, some capture.captureId⟩)
  else
    store.stats

/-- What recording a decision does. -/
inductive Records
    (resolution : CaptureResolution)
    (sessionId : Option SessionId) :
    CaptureStore → Prop where
  | recorded
      (tombstones : Table ResolutionTombstone Nat CaptureIdentity
        ResolutionTombstone.rowId ResolutionTombstone.identity)
      (fresh :
        ∀ row ∈ store.tombstones.rows, row.identity ≠ capture.identity)
      (rows :
        tombstones.rows =
          store.tombstones.rows ++
            [store.resolutionRow delivery capture resolution sessionId]) :
      Records resolution sessionId
        { store with
          tombstones := tombstones.keepNewest tombstoneLimit
          lastTombstoneId := store.lastTombstoneId + 1
          stats := store.counted capture sessionId }

/-- What a policy does with a capture that has not been decided. -/
inductive Keeps
    (sessionId : Option SessionId)
    (groupId : Option GroupId) :
    SavePolicy → CaptureStore → Bool → CaptureResolution → Prop where
  | archived
      {next : CaptureStore}
      {inserted : Bool}
      (archives :
        Archives store delivery capture sessionId groupId next inserted) :
      Keeps sessionId groupId .saveAll next inserted .rawArchived
  | rolling
      (configurations : ConfigurationKey → Option ConfigurationContext) :
      Keeps sessionId groupId .saveLast
        { store with
          latest :=
            Function.update store.latest sessionId (some ⟨delivery, groupId⟩)
          configurations := configurations }
        true .rollingLatest
  | discarded :
      Keeps sessionId groupId .saveNone store true .discardedByPolicy

/-- What `commit_delivery` does. -/
inductive Commits
    (savePolicy : SavePolicy)
    (sessionId : Option SessionId)
    (groupId : Option GroupId) :
    CaptureStore → CoreCommitResult → Prop where
  | repeated
      (existing : ResolutionTombstone)
      (found : store.tombstones.selectKey capture.identity = some existing)
      (configurations : ConfigurationKey → Option ConfigurationContext) :
      Commits savePolicy sessionId groupId
        { store with configurations := configurations }
        ⟨receipt delivery capture, false, existing.resolution⟩
  | decided
      (undecided : store.tombstones.selectKey capture.identity = none)
      (named : savePolicy = .saveAll ∨ sessionId.isSome = true)
      {kept recorded : CaptureStore}
      {inserted : Bool}
      {resolution : CaptureResolution}
      (keeps :
        Keeps store delivery capture sessionId groupId savePolicy kept inserted
          resolution)
      (records : Records kept delivery capture resolution sessionId recorded)
      (configurations : ConfigurationKey → Option ConfigurationContext) :
      Commits savePolicy sessionId groupId
        { recorded with configurations := configurations }
        ⟨receipt delivery capture, inserted, resolution⟩

/-! ## Finished sessions -/

/-- The rolling capture of a session has been archived: its row is gone, and
its decision says so. -/
structure Moved
    (archived : CaptureStore)
    (capture : CaptureData)
    (sessionId : SessionId)
    (next : CaptureStore) :
    Prop where
  tombstones :
    next.tombstones =
      (archived.resolveAs (fun row => row.identity = capture.identity)
        .rawArchived).tombstones
  latest :
    next.latest = Function.update archived.latest (some sessionId) none
  captures : next.captures = archived.captures
  captureEvents : next.captureEvents = archived.captureEvents
  lastTombstoneId : next.lastTombstoneId = archived.lastTombstoneId
  lastCaptureRowId : next.lastCaptureRowId = archived.lastCaptureRowId
  sessions : next.sessions = archived.sessions
  stats : next.stats = archived.stats
  contexts : next.contexts = archived.contexts
  groups : next.groups = archived.groups

/-- What moving the rolling capture of a session does. -/
inductive Moves (sessionId : SessionId) : CaptureStore → Prop where
  | unmoved
      (nothing : store.latest (some sessionId) = none) :
      Moves sessionId store
  | moved
      (rolling : RollingCapture)
      (held : store.latest (some sessionId) = some rolling)
      (capture : CaptureData)
      (stored : storedCapture rolling.delivery = .ok capture)
      {archived : CaptureStore}
      {inserted : Bool}
      (archives :
        Archives store rolling.delivery capture (some sessionId)
          rolling.groupId archived inserted)
      {next : CaptureStore}
      (moved : Moved archived capture sessionId next) :
      Moves sessionId next

/-- What finalizing a session does. -/
inductive Finalizes
    (summary : SessionSummary)
    (savePolicy : SavePolicy) :
    CaptureStore → Prop where
  | finalized
      {moved : CaptureStore}
      (moves :
        savePolicy = .saveLast → Moves store summary.sessionId moved)
      (stays : savePolicy ≠ .saveLast → moved = store) :
      Finalizes summary savePolicy
        (moved.saveSessionSummary (moved.savedBy (store.acquiredBy summary)))

/-! ## Replayed captures -/

/-- What a policy does with a late frame of a closed session. -/
inductive KeepsLate
    (sessionId : Option SessionId)
    (groupId : Option GroupId) :
    SavePolicy → CaptureStore → CaptureResolution → Prop where
  | archived
      {savePolicy : SavePolicy}
      {next : CaptureStore}
      {inserted : Bool}
      (kept : savePolicy ≠ .saveNone)
      (archives :
        Archives store delivery capture sessionId groupId next inserted) :
      KeepsLate sessionId groupId savePolicy next .rawArchived
  | discarded :
      KeepsLate sessionId groupId .saveNone store .discardedByPolicy

/-- What `_commit_terminal_replay` does with an undecided capture. -/
inductive CommitsLate
    (savePolicy : SavePolicy)
    (sessionId : Option SessionId)
    (groupId : Option GroupId)
    (summary : SessionSummary) :
    CaptureStore → CoreCommitResult → Prop where
  | decided
      {kept recorded next : CaptureStore}
      {resolution : CaptureResolution}
      (keeps :
        KeepsLate (store.supersede savePolicy sessionId) delivery capture
          sessionId groupId savePolicy kept resolution)
      (records : Records kept delivery capture resolution sessionId recorded)
      (configurations : ConfigurationKey → Option ConfigurationContext)
      (finalizes :
        Finalizes { recorded with configurations := configurations } summary
          savePolicy next) :
      CommitsLate savePolicy sessionId groupId summary next
        ⟨receipt delivery capture, true, resolution⟩

/-- What `commit_replayed_delivery` does. -/
inductive Replays : CaptureStore → CoreCommitResult → Prop where
  | repeated
      (existing : ResolutionTombstone)
      (found : store.tombstones.selectKey capture.identity = some existing)
      (configurations : ConfigurationKey → Option ConfigurationContext) :
      Replays { store with configurations := configurations }
        ⟨receipt delivery capture, false, existing.resolution⟩
  | direct
      (undecided : store.tombstones.selectKey capture.identity = none)
      (context : DeliveryPolicyContext)
      (registered : store.context? capture.device = some context)
      (isOpen : store.closedSession? context.sessionId = none)
      {next : CaptureStore}
      {result : CoreCommitResult}
      (commits :
        Commits store delivery capture context.savePolicy context.sessionId
          context.groupId next result) :
      Replays next result
  | late
      (undecided : store.tombstones.selectKey capture.identity = none)
      (context : DeliveryPolicyContext)
      (registered : store.context? capture.device = some context)
      (summary : SessionSummary)
      (closed : store.closedSession? context.sessionId = some summary)
      {next : CaptureStore}
      {result : CoreCommitResult}
      (commits :
        CommitsLate store delivery capture context.savePolicy context.sessionId
          context.groupId summary next result) :
      Replays next result

end Effects

section Inversions

variable {store next : CaptureStore} {delivery : BridgeCaptureDelivery}
  {capture : CaptureData} {savePolicy : SavePolicy}
  {sessionId : Option SessionId} {groupId : Option GroupId}

/-- A group passes when there is none to check, or it is in the store. -/
theorem validateGroupTarget_eq_ok :
    store.validateGroupTarget groupId = .ok () ↔
      ∀ group ∈ groupId, group ∈ store.groups := by
  cases groupId with
  | none => exact iff_of_true rfl nofun
  | some group =>
      simp only [validateGroupTarget, require_eq_ok, Option.mem_some_iff,
        forall_eq']

/-- What a successful `_archive_delivery` has done. -/
theorem archiveDelivery_archives
    {inserted : Bool}
    (archived :
      store.archiveDelivery delivery capture sessionId groupId =
        .ok (next, inserted)) :
    Archives store delivery capture sessionId groupId next inserted := by
  obtain ⟨⟨⟩, -, decided⟩ := bind_eq_ok.1 archived
  rcases found : store.captures.selectKey capture.identity with _ | existing
  · simp only [found] at decided
    split at decided
    · cases decided
    · next captures insertion =>
        obtain ⟨added, events, final⟩ := bind_eq_ok.1 decided
        obtain ⟨⟨⟩, -, rows⟩ := bind_eq_ok.1 events
        obtain ⟨rfl, rfl⟩ := Prod.mk.inj (Except.ok.inj final)
        obtain rfl := Except.ok.inj rows
        exact .added captures
          (fun _ => store.captures.key_ne_of_selectKey found)
          (store.captures.rows_of_insert? insertion)
  · simp only [found] at decided
    obtain ⟨⟨⟩, same, final⟩ := bind_eq_ok.1 decided
    obtain ⟨rfl, rfl⟩ := Prod.mk.inj (Except.ok.inj final)
    obtain ⟨member, identity⟩ := store.captures.selectKey_eq_some.1 found
    exact .kept existing member identity (require_eq_ok.1 same).2

/-- What a recorded decision has done. -/
theorem insertResolution_records
    {resolution : CaptureResolution}
    (inserted :
      store.insertResolution delivery capture resolution sessionId =
        .ok next) :
    Records store delivery capture resolution sessionId next := by
  unfold insertResolution at inserted
  dsimp only at inserted
  split at inserted
  · cases inserted
  · next tombstones insertion =>
      obtain rfl := Except.ok.inj inserted
      exact .recorded tombstones
        (fun _ => store.tombstones.key_ne_of_insert? insertion)
        (store.tombstones.rows_of_insert? insertion)

/-- What a policy that succeeds has done. -/
theorem applyPolicy_keeps
    {inserted : Bool}
    {resolution : CaptureResolution}
    (applied :
      store.applyPolicy delivery capture savePolicy sessionId groupId =
        .ok (next, inserted, resolution)) :
    Keeps store delivery capture sessionId groupId savePolicy next inserted
      resolution := by
  cases savePolicy with
  | saveNone =>
      obtain ⟨rfl, result⟩ := Prod.mk.inj (Except.ok.inj applied)
      obtain ⟨rfl, rfl⟩ := Prod.mk.inj result
      exact .discarded
  | saveAll =>
      obtain ⟨⟨archived, _⟩, done, final⟩ := bind_eq_ok.1 applied
      obtain ⟨rfl, result⟩ := Prod.mk.inj (Except.ok.inj final)
      obtain ⟨rfl, rfl⟩ := Prod.mk.inj result
      exact .archived (archiveDelivery_archives done)
  | saveLast =>
      obtain ⟨kept, done, final⟩ := bind_eq_ok.1 applied
      obtain ⟨rfl, result⟩ := Prod.mk.inj (Except.ok.inj final)
      obtain ⟨rfl, rfl⟩ := Prod.mk.inj result
      unfold keepLatest at done
      dsimp only at done
      split at done
      · obtain rfl := Except.ok.inj done
        exact .rolling store.configurations
      · obtain ⟨frame, -, decoded⟩ := bind_eq_ok.1 done
        obtain ⟨superseded, -, dropped⟩ := bind_eq_ok.1 decoded
        split_ifs at dropped
        · obtain rfl := Except.ok.inj dropped
          exact .rolling store.configurations
        · obtain rfl := Except.ok.inj dropped
          exact .rolling _

/-- Dropping a staged context changes the contexts only. -/
theorem dropStaged_eq
    (store : CaptureStore)
    (capture : CaptureData)
    (resolution : CaptureResolution) :
    ∃ configurations,
      store.dropStaged capture resolution =
        { store with configurations := configurations } := by
  unfold dropStaged
  split_ifs
  · exact ⟨store.configurations, rfl⟩
  · exact ⟨_, rfl⟩

/-- What the transaction of `commit_delivery` has done. -/
theorem commitCapture_commits
    {result : CoreCommitResult}
    (named : savePolicy = .saveAll ∨ sessionId.isSome = true)
    (committed :
      store.commitCapture delivery capture savePolicy sessionId groupId =
        .ok (next, result)) :
    Commits store delivery capture savePolicy sessionId groupId next
      result := by
  obtain ⟨⟨⟩, -, decided⟩ := bind_eq_ok.1 committed
  rcases found : store.tombstones.selectKey capture.identity with _ | existing
  · simp only [found] at decided
    obtain ⟨⟨kept, inserted, resolution⟩, applied, resolving⟩ :=
      bind_eq_ok.1 decided
    obtain ⟨recorded, records, final⟩ := bind_eq_ok.1 resolving
    obtain ⟨rfl, rfl⟩ := Prod.mk.inj (Except.ok.inj final)
    obtain ⟨configurations, dropped⟩ :=
      recorded.dropStaged_eq capture resolution
    rw [dropped]
    exact .decided found named (applyPolicy_keeps applied)
      (insertResolution_records records) configurations
  · simp only [found] at decided
    obtain ⟨prior, checked, final⟩ := bind_eq_ok.1 decided
    obtain ⟨rfl, rfl⟩ := Prod.mk.inj (Except.ok.inj final)
    obtain ⟨⟨⟩, -, same⟩ := bind_eq_ok.1 checked
    obtain rfl := Except.ok.inj same
    obtain ⟨configurations, dropped⟩ :=
      store.dropStaged_eq capture existing.resolution
    rw [dropped]
    exact .repeated existing found configurations

/-- What a successful `commit_delivery` has done. -/
theorem commitDelivery_commits
    {result : CoreCommitResult}
    (committed :
      store.commitDelivery delivery savePolicy sessionId groupId =
        .ok (next, result)) :
    ∃ capture, deliveredCapture delivery = .ok capture ∧
      Commits store delivery capture savePolicy sessionId groupId next
        result := by
  obtain ⟨⟨⟩, named, delivers⟩ := bind_eq_ok.1 committed
  obtain ⟨capture, delivered, commits⟩ := bind_eq_ok.1 delivers
  exact ⟨capture, delivered,
    commitCapture_commits (require_eq_ok.1 named) commits⟩

/-- What a successful `_finalize_latest_capture_in_connection` has done. -/
theorem finalizeLatestCapture_moves
    {sessionId : SessionId}
    (finalized : store.finalizeLatestCapture sessionId = .ok next) :
    Moves store sessionId next := by
  unfold finalizeLatestCapture at finalized
  rcases held : store.latest (some sessionId) with _ | rolling
  · simp only [held] at finalized
    obtain rfl := Except.ok.inj finalized
    exact .unmoved held
  · simp only [held] at finalized
    obtain ⟨frame, framed, decoded⟩ := bind_eq_ok.1 finalized
    obtain ⟨capture, captured, archives⟩ := bind_eq_ok.1 decoded
    obtain ⟨⟨archived, inserted⟩, done, final⟩ := bind_eq_ok.1 archives
    obtain rfl := Except.ok.inj final
    have stored : storedCapture rolling.delivery = .ok capture :=
      bind_eq_ok.2 ⟨frame, framed, captured⟩
    exact .moved rolling held capture stored (archiveDelivery_archives done)
      ⟨rfl, rfl, rfl, rfl, rfl, rfl, rfl, rfl, rfl, rfl⟩

/-- What the end of a session has done. -/
theorem finalizeInConnection_finalizes
    {summary : SessionSummary}
    (finalized : store.finalizeInConnection summary savePolicy = .ok next) :
    Finalizes store summary savePolicy next := by
  obtain ⟨moved, moves, final⟩ := bind_eq_ok.1 finalized
  obtain rfl := Except.ok.inj final
  unfold finalizeRolling at moves
  split_ifs at moves with last
  · exact .finalized (fun _ => finalizeLatestCapture_moves moves)
      fun other => absurd last other
  · obtain rfl := Except.ok.inj moves
    exact .finalized (fun other => absurd other last) fun _ => rfl

/-- What a successful `finalize_session_summary` has done. -/
theorem finalizeSessionSummary_finalizes
    {summary : SessionSummary}
    (finalized : store.finalizeSessionSummary summary = .ok next) :
    summary.state.isTerminal = true ∧
      Finalizes store summary summary.savePolicy next := by
  obtain ⟨⟨⟩, terminal, final⟩ := bind_eq_ok.1 finalized
  exact ⟨require_eq_ok.1 terminal, finalizeInConnection_finalizes final⟩

/-- What a successful `_commit_terminal_replay` has done. -/
theorem commitTerminalReplay_commitsLate
    {summary : SessionSummary}
    {result : CoreCommitResult}
    (committed :
      store.commitTerminalReplay delivery capture savePolicy sessionId groupId
          summary =
        .ok (next, result)) :
    CommitsLate store delivery capture savePolicy sessionId groupId summary
      next result := by
  obtain ⟨⟨kept, resolution⟩, applied, recording⟩ := bind_eq_ok.1 committed
  obtain ⟨recorded, records, finalizing⟩ := bind_eq_ok.1 recording
  obtain ⟨finalized, finalizes, final⟩ := bind_eq_ok.1 finalizing
  obtain ⟨rfl, rfl⟩ := Prod.mk.inj (Except.ok.inj final)
  have keeps :
      KeepsLate (store.supersede savePolicy sessionId) delivery capture
        sessionId groupId savePolicy kept resolution := by
    unfold applyLatePolicy at applied
    split_ifs at applied with discards
    · obtain ⟨rfl, rfl⟩ := Prod.mk.inj (Except.ok.inj applied)
      rw [discards]
      exact .discarded
    · obtain ⟨⟨archived, _⟩, archives, done⟩ := bind_eq_ok.1 applied
      obtain ⟨rfl, rfl⟩ := Prod.mk.inj (Except.ok.inj done)
      exact .archived discards (archiveDelivery_archives archives)
  exact .decided keeps (insertResolution_records records) _
    (finalizeInConnection_finalizes finalizes)

/-- What a successful `commit_replayed_delivery` has done. -/
theorem commitReplayedDelivery_replays
    {result : CoreCommitResult}
    (committed :
      store.commitReplayedDelivery delivery = .ok (next, result)) :
    ∃ capture, deliveredCapture delivery = .ok capture ∧
      Replays store delivery capture next result := by
  obtain ⟨capture, delivered, decides⟩ := bind_eq_ok.1 committed
  refine ⟨capture, delivered, ?_⟩
  rcases found : store.tombstones.selectKey capture.identity with _ | existing
  · simp only [found] at decides
    rcases registered : store.context? capture.device with _ | context
    · simp [registered] at decides
    · simp only [registered] at decides
      unfold decideReplay at decides
      rcases closed : store.closedSession? context.sessionId with _ | summary
      · simp only [closed] at decides
        obtain ⟨same, redelivered, commits⟩ := commitDelivery_commits decides
        obtain rfl := Except.ok.inj (delivered.symm.trans redelivered)
        exact .direct found context registered closed commits
      · simp only [closed] at decides
        exact .late found context registered summary closed
          (commitTerminalReplay_commitsLate decides)
  · simp only [found] at decides
    obtain ⟨same, redelivered, commits⟩ := commitDelivery_commits decides
    obtain rfl := Except.ok.inj (delivered.symm.trans redelivered)
    cases commits with
    | repeated existing found configurations =>
        exact .repeated existing found configurations
    | decided undecided => cases found.symm.trans undecided

end Inversions

/-! ## What the operations leave -/

/-- The tables that archiving leaves. -/
structure ArchiveFrame (store next : CaptureStore) : Prop where
  tombstones : next.tombstones = store.tombstones
  latest : next.latest = store.latest
  sessions : next.sessions = store.sessions
  stats : next.stats = store.stats
  contexts : next.contexts = store.contexts
  groups : next.groups = store.groups
  lastTombstoneId : next.lastTombstoneId = store.lastTombstoneId

/-- Archiving leaves the other tables. -/
theorem Archives.frame
    {store next : CaptureStore}
    {delivery : BridgeCaptureDelivery}
    {capture : CaptureData}
    {sessionId : Option SessionId}
    {groupId : Option GroupId}
    {inserted : Bool}
    (archives :
      Archives store delivery capture sessionId groupId next inserted) :
    ArchiveFrame store next := by
  cases archives with
  | kept => exact ⟨rfl, rfl, rfl, rfl, rfl, rfl, rfl⟩
  | added => exact ⟨rfl, rfl, rfl, rfl, rfl, rfl, rfl⟩

/-- The tables that recording a decision leaves. -/
structure RecordFrame (store next : CaptureStore) : Prop where
  captures : next.captures = store.captures
  captureEvents : next.captureEvents = store.captureEvents
  latest : next.latest = store.latest
  sessions : next.sessions = store.sessions
  contexts : next.contexts = store.contexts
  groups : next.groups = store.groups
  lastCaptureRowId : next.lastCaptureRowId = store.lastCaptureRowId

/-- Recording a decision leaves the other tables. -/
theorem Records.frame
    {store next : CaptureStore}
    {delivery : BridgeCaptureDelivery}
    {capture : CaptureData}
    {resolution : CaptureResolution}
    {sessionId : Option SessionId}
    (records : Records store delivery capture resolution sessionId next) :
    RecordFrame store next := by
  cases records with
  | recorded => exact ⟨rfl, rfl, rfl, rfl, rfl, rfl, rfl⟩

/-- A retained decision was there before, or is the recorded one. -/
theorem Records.mem
    {store next : CaptureStore}
    {delivery : BridgeCaptureDelivery}
    {capture : CaptureData}
    {resolution : CaptureResolution}
    {sessionId : Option SessionId}
    (records : Records store delivery capture resolution sessionId next)
    {row : ResolutionTombstone}
    (member : row ∈ next.tombstones.rows) :
    row ∈ store.tombstones.rows ∨
      row = store.resolutionRow delivery capture resolution sessionId := by
  cases records with
  | recorded tombstones fresh rows =>
      have among := Table.mem_of_mem_keepNewest _ member
      rw [rows] at among
      rcases List.mem_append.1 among with old | new
      · exact .inl old
      · exact .inr (List.mem_singleton.1 new)

/-- Only a capture without a decision gets one. -/
theorem Records.fresh
    {store next : CaptureStore}
    {delivery : BridgeCaptureDelivery}
    {capture : CaptureData}
    {resolution : CaptureResolution}
    {sessionId : Option SessionId}
    (records : Records store delivery capture resolution sessionId next) :
    ∀ row ∈ store.tombstones.rows, row.identity ≠ capture.identity := by
  cases records with
  | recorded tombstones fresh => exact fresh

/-! ## The sessions under the operations

Only a saved summary and the end of a session change a session. -/

section Sessions

variable {store next : CaptureStore} {delivery : BridgeCaptureDelivery}
  {capture : CaptureData} {savePolicy : SavePolicy}
  {sessionId : Option SessionId} {groupId : Option GroupId}

/-- A session that is closed, under its id. -/
theorem closedSession?_eq_some {summary : SessionSummary} :
    store.closedSession? sessionId = some summary ↔
      ∃ session, sessionId = some session ∧
        store.sessions session = some summary ∧
          summary.state.isTerminal = true := by
  rw [closedSession?, Option.filter_eq_some_iff, Option.bind_eq_some_iff]
  constructor
  · rintro ⟨⟨session, named, found⟩, terminal⟩
    exact ⟨session, named, found, terminal⟩
  · rintro ⟨session, named, found, terminal⟩
    exact ⟨⟨session, named, found⟩, terminal⟩

/-- A policy leaves the sessions. -/
theorem Keeps.sessions
    {inserted : Bool}
    {resolution : CaptureResolution}
    (keeps :
      Keeps store delivery capture sessionId groupId savePolicy next inserted
        resolution) :
    next.sessions = store.sessions := by
  cases keeps with
  | archived archives => exact archives.frame.sessions
  | rolling => rfl
  | discarded => rfl

/-- `commit_delivery` leaves the sessions. -/
theorem Commits.sessions
    {result : CoreCommitResult}
    (commits :
      Commits store delivery capture savePolicy sessionId groupId next
        result) :
    next.sessions = store.sessions := by
  cases commits with
  | repeated => rfl
  | decided undecided named keeps records configurations =>
      exact records.frame.sessions.trans keeps.sessions

/-- The end of a rolling capture leaves the sessions. -/
theorem Moves.sessions
    {sessionId : SessionId}
    (moves : Moves store sessionId next) :
    next.sessions = store.sessions := by
  cases moves with
  | unmoved => rfl
  | moved rolling held capture stored archives moved =>
      exact moved.sessions.trans archives.frame.sessions

/-- The end of a session saves its summary. -/
theorem Finalizes.sessions
    {summary : SessionSummary}
    (finalizes : Finalizes store summary savePolicy next) :
    ∃ saved : SessionSummary, saved.sessionId = summary.sessionId ∧
      saved.state = summary.state ∧
        next.sessions =
          Function.update store.sessions summary.sessionId (some saved) := by
  cases finalizes with
  | @finalized moved moves stays =>
      have same : moved.sessions = store.sessions := by
        by_cases last : savePolicy = .saveLast
        · exact (moves last).sessions
        · rw [stays last]
      refine ⟨moved.savedBy (store.acquiredBy summary), rfl, rfl, ?_⟩
      rw [← same]
      rfl

/-- The frames superseded leave the sessions. -/
theorem sessions_supersede :
    (store.supersede savePolicy sessionId).sessions = store.sessions := by
  unfold supersede
  split_ifs <;> rfl

/-- A late replay saves the summary of its session. -/
theorem CommitsLate.sessions
    {summary : SessionSummary}
    {result : CoreCommitResult}
    (commits :
      CommitsLate store delivery capture savePolicy sessionId groupId summary
        next result) :
    ∃ saved : SessionSummary, saved.sessionId = summary.sessionId ∧
      saved.state = summary.state ∧
        next.sessions =
          Function.update store.sessions summary.sessionId (some saved) := by
  cases commits with
  | @decided kept recorded _ _ keeps records configurations finalizes =>
      obtain ⟨saved, named, state, sessions⟩ := finalizes.sessions
      refine ⟨saved, named, state, ?_⟩
      have same : recorded.sessions = store.sessions :=
        calc recorded.sessions
          _ = kept.sessions := records.frame.sessions
          _ = (store.supersede savePolicy sessionId).sessions := by
              cases keeps with
              | archived _ archives => exact archives.frame.sessions
              | discarded => rfl
          _ = store.sessions := sessions_supersede
      rw [← same]
      exact sessions

end Sessions

/-! ## The delivery policies under the operations

Only the operations on groups and on delivery policies change the groups and
the contexts. -/

/-- The groups and the contexts are left alone. -/
structure SamePolicies (store next : CaptureStore) : Prop where
  contexts : next.contexts = store.contexts
  groups : next.groups = store.groups

namespace SamePolicies

/-- Nothing has happened. -/
theorem refl (store : CaptureStore) : SamePolicies store store :=
  ⟨rfl, rfl⟩

/-- One operation after the other. -/
theorem trans
    {first second third : CaptureStore}
    (before : SamePolicies first second)
    (after : SamePolicies second third) :
    SamePolicies first third where
  contexts := after.contexts.trans before.contexts
  groups := after.groups.trans before.groups

end SamePolicies

section Policies

variable {store next : CaptureStore} {delivery : BridgeCaptureDelivery}
  {capture : CaptureData} {savePolicy : SavePolicy}
  {sessionId : Option SessionId} {groupId : Option GroupId}

/-- Archiving leaves the policies. -/
theorem Archives.policies
    {inserted : Bool}
    (archives :
      Archives store delivery capture sessionId groupId next inserted) :
    SamePolicies store next :=
  ⟨archives.frame.contexts, archives.frame.groups⟩

/-- Recording a decision leaves the policies. -/
theorem Records.policies
    {resolution : CaptureResolution}
    (records : Records store delivery capture resolution sessionId next) :
    SamePolicies store next :=
  ⟨records.frame.contexts, records.frame.groups⟩

/-- `commit_delivery` leaves the policies. -/
theorem Commits.policies
    {result : CoreCommitResult}
    (commits :
      Commits store delivery capture savePolicy sessionId groupId next
        result) :
    SamePolicies store next := by
  cases commits with
  | repeated => exact ⟨rfl, rfl⟩
  | @decided _ _ kept recorded _ _ keeps records configurations =>
      have policy : SamePolicies store kept := by
        cases keeps with
        | archived archives => exact archives.policies
        | rolling => exact ⟨rfl, rfl⟩
        | discarded => exact .refl store
      exact (policy.trans records.policies).trans ⟨rfl, rfl⟩

/-- The end of a rolling capture leaves the policies. -/
theorem Moves.policies
    {sessionId : SessionId}
    (moves : Moves store sessionId next) :
    SamePolicies store next := by
  cases moves with
  | unmoved => exact .refl store
  | moved rolling held capture stored archives moved =>
      exact archives.policies.trans ⟨moved.contexts, moved.groups⟩

/-- A final summary leaves the policies. -/
theorem Finalizes.policies
    {summary : SessionSummary}
    (finalizes : Finalizes store summary savePolicy next) :
    SamePolicies store next := by
  cases finalizes with
  | @finalized moved moves stays =>
      have same : SamePolicies store moved := by
        by_cases last : savePolicy = .saveLast
        · exact (moves last).policies
        · rw [stays last]
          exact .refl store
      exact same.trans ⟨rfl, rfl⟩

/-- The frames superseded leave the policies. -/
theorem policies_supersede :
    SamePolicies store (store.supersede savePolicy sessionId) := by
  unfold supersede
  split_ifs
  · exact ⟨rfl, rfl⟩
  · exact .refl store

/-- `_commit_terminal_replay` leaves the policies. -/
theorem CommitsLate.policies
    {summary : SessionSummary}
    {result : CoreCommitResult}
    (commits :
      CommitsLate store delivery capture savePolicy sessionId groupId summary
        next result) :
    SamePolicies store next := by
  cases commits with
  | @decided kept recorded _ _ keeps records configurations finalizes =>
      have late :
          SamePolicies (store.supersede savePolicy sessionId) kept := by
        cases keeps with
        | archived _ archives => exact archives.policies
        | discarded => exact .refl _
      have dropped :
          SamePolicies recorded
            { recorded with configurations := configurations } :=
        ⟨rfl, rfl⟩
      exact (((policies_supersede.trans late).trans records.policies).trans
        dropped).trans finalizes.policies

/-- `commit_replayed_delivery` leaves the policies. -/
theorem Replays.policies
    {result : CoreCommitResult}
    (replays : Replays store delivery capture next result) :
    SamePolicies store next := by
  cases replays with
  | repeated => exact ⟨rfl, rfl⟩
  | direct _ _ _ _ commits => exact commits.policies
  | late _ _ _ _ _ commits => exact commits.policies

end Policies

/-! ## Registered contexts -/

section Register

variable {store next : CaptureStore} {device : DeviceBoot}
  {sessionId : Option SessionId} {savePolicy : SavePolicy}
  {groupId : Option GroupId}

/-- What a registration adds. -/
theorem mem_registered
    (registered :
      store.registerDeliveryPolicy device sessionId savePolicy groupId =
        .ok next)
    {row : DeliveryPolicyContext}
    (member : row ∈ next.contexts.rows) :
    row ∈ store.contexts.rows ∧ row.device ≠ device ∨
      ∃ rowId, row = ⟨rowId, device, sessionId, savePolicy, groupId⟩ := by
  obtain ⟨_, -, final⟩ := bind_eq_ok.1 registered
  obtain rfl := Except.ok.inj final
  exact Table.mem_upsert _ (Table.mem_of_mem_keepNewest _ member)

/-- Among at most as many boots as are kept, a registration drops nothing. -/
theorem mem_registered_of_among
    (registered :
      store.registerDeliveryPolicy device sessionId savePolicy groupId =
        .ok next)
    {pairs : List DeviceBoot}
    (few : pairs.length ≤ contextLimit)
    (registers : device ∈ pairs)
    (among : ∀ row ∈ store.contexts.rows, row.device ∈ pairs) :
    (∃ row ∈ next.contexts.rows, row.device = device) ∧
      ∀ row ∈ store.contexts.rows, row.device ≠ device →
        row ∈ next.contexts.rows := by
  obtain ⟨_, -, final⟩ := bind_eq_ok.1 registered
  obtain rfl := Except.ok.inj final
  have within :=
    (Table.length_rows_le
      (store.contexts.upsert device
        (fun rowId => ⟨rowId, device, sessionId, savePolicy, groupId⟩)
        (fun _ => rfl) (fun _ => rfl))
      (by
        intro row member
        rcases Table.mem_upsert _ member with ⟨old, -⟩ | ⟨rowId, rfl⟩
        · exact among row old
        · exact registers)).trans few
  constructor
  · have inserted :
        ∃ rowId,
          DeliveryPolicyContext.mk rowId device sessionId savePolicy groupId ∈
            (store.contexts.upsert device
              (fun rowId => ⟨rowId, device, sessionId, savePolicy, groupId⟩)
              (fun _ => rfl) (fun _ => rfl)).rows :=
      store.contexts.exists_mem_upsert
    obtain ⟨rowId, member⟩ := inserted
    exact ⟨_, (Table.mem_keepNewest_of_length_le _ within).2 member, rfl⟩
  · intro row old other
    exact (Table.mem_keepNewest_of_length_le _ within).2
      (Table.mem_upsert_of_ne _ old other)

/-- A context that is selected has the boot it is selected for. -/
theorem context?_eq_some {row : DeliveryPolicyContext} :
    store.context? device = some row ↔
      row ∈ store.contexts.rows ∧ row.device = device :=
  store.contexts.selectKey_eq_some

end Register

/-- A replayed capture without a decision is decided under the context of its
boot. -/
theorem commitReplayedDelivery_ok
    {store next : CaptureStore}
    {delivery : BridgeCaptureDelivery}
    {capture : CaptureData}
    {result : CoreCommitResult}
    (delivered : deliveredCapture delivery = .ok capture)
    (undecided : store.tombstones.selectKey capture.identity = none)
    (committed :
      store.commitReplayedDelivery delivery = .ok (next, result)) :
    ∃ context ∈ store.context? capture.device,
      store.decideReplay delivery capture context.savePolicy context.sessionId
          context.groupId =
        .ok (next, result) := by
  unfold commitReplayedDelivery at committed
  simp only [delivered, ok_bind, undecided] at committed
  rcases registered : store.context? capture.device with _ | context
  · simp [registered] at committed
  · simp only [registered] at committed
    exact ⟨context, rfl, committed⟩

end Usac.Host.CaptureStore
