import Usac.Host.DecisionHistory

namespace Usac.Host.CaptureStore

open Library

/-!
# Redelivered captures

A bridge delivers a capture until it has a receipt, so the store sees the same
capture again and again. A capture that has a decision gets that decision once
more. A capture whose decision has been pruned is recognised in the archive.
-/

/-- A delivery of a capture, by any path that is open to it. -/
inductive Redelivers
    (store : CaptureStore)
    (delivery : BridgeCaptureDelivery) :
    Transaction → Prop where
  | direct
      (savePolicy : SavePolicy)
      (sessionId : Option SessionId)
      (groupId : Option GroupId)
      (named : savePolicy = .saveAll ∨ sessionId.isSome = true)
      (knownGroup : ∀ group ∈ groupId, group ∈ store.groups) :
      Redelivers store delivery
        (.commitDelivery delivery savePolicy sessionId groupId)
  | replayed : Redelivers store delivery (.commitReplayedDelivery delivery)

/-- A delivery of a capture under `SAVE_ALL`. -/
inductive RedeliversToArchive
    (store : CaptureStore)
    (delivery : BridgeCaptureDelivery)
    (capture : CaptureData) :
    Transaction → Prop where
  | direct
      (sessionId : Option SessionId)
      (groupId : Option GroupId)
      (knownGroup : ∀ group ∈ groupId, group ∈ store.groups) :
      RedeliversToArchive store delivery capture
        (.commitDelivery delivery .saveAll sessionId groupId)
  | replayed
      (context : DeliveryPolicyContext)
      (registered : store.context? capture.device = some context)
      (policy : context.savePolicy = .saveAll) :
      RedeliversToArchive store delivery capture
        (.commitReplayedDelivery delivery)

/-- Both checksums of two frames are the same. -/
def ChecksumsCollide (first second : List UInt8) : Prop :=
  Frame.crc32IsoHdlc first = Frame.crc32IsoHdlc second ∧
    Sha256.digest first = Sha256.digest second

/-- Every retained decision is the answer to its frame, and the only one. -/
def AnswersAsDecided
    (history : List StoreEvent)
    (store : CaptureStore) :
    Prop :=
  ∀ row ∈ store.tombstones.rows,
    ∃ event ∈ history, ∃ decision ∈ newDecision? event,
      RecordOf event.source decision row ∧
        ∀ delivery capture,
          deliveredCapture delivery = .ok capture →
          capture.identity = row.identity →
          ∀ redelivery, Redelivers store delivery redelivery →
            (delivery.innerFrame = decision.delivery.innerFrame →
              ∃ next,
                machine.step store redelivery =
                    (next,
                      .ok (some
                        ⟨receipt delivery capture, false, row.resolution⟩)) ∧
                  Prepares store next) ∧
              (delivery.innerFrame ≠ decision.delivery.innerFrame →
                machine.step store redelivery = (store, .error conflict) ∨
                  ChecksumsCollide delivery.innerFrame
                    decision.delivery.innerFrame)

/-- Every archived capture is recognised, with or without its decision. -/
def AnswersAsArchived (store : CaptureStore) : Prop :=
  ∀ archived ∈ store.captures.rows,
    ∀ delivery capture,
      deliveredCapture delivery = .ok capture →
      capture.identity = archived.identity →
      ∀ redelivery, RedeliversToArchive store delivery capture redelivery →
        (delivery.innerFrame = archived.wireFrame →
          (machine.step store redelivery).1.captures = store.captures ∧
            (machine.step store redelivery).1.captureEvents =
              store.captureEvents) ∧
          (store.tombstones.selectKey capture.identity = none →
            (delivery.innerFrame = archived.wireFrame →
              ∃ result,
                (machine.step store redelivery).2 = .ok (some result)) ∧
              (delivery.innerFrame ≠ archived.wireFrame →
                machine.step store redelivery = (store, .error conflict)))

/-! ## Captures with a decision -/

section Decided

variable {store : CaptureStore} {delivery : BridgeCaptureDelivery}
  {capture : CaptureData} {row : ResolutionTombstone}

/-- A valid delivery whose session passes is committed. -/
theorem commitDelivery_of_delivered
    {savePolicy : SavePolicy}
    {sessionId : Option SessionId}
    {groupId : Option GroupId}
    (delivered : deliveredCapture delivery = .ok capture)
    (named : savePolicy = .saveAll ∨ sessionId.isSome = true) :
    store.commitDelivery delivery savePolicy sessionId groupId =
      store.commitCapture delivery capture savePolicy sessionId groupId := by
  have required :
      require (savePolicy = .saveAll ∨ sessionId.isSome = true)
          (.valueError "SAVE_NONE and SAVE_LAST require a session_id") =
        .ok () :=
    require_eq_ok.2 named
  unfold commitDelivery
  rw [required, delivered]
  rfl

/-- The answer to a capture that has been decided. -/
theorem commitDelivery_of_decided
    {savePolicy : SavePolicy}
    {sessionId : Option SessionId}
    {groupId : Option GroupId}
    (delivered : deliveredCapture delivery = .ok capture)
    (found : store.tombstones.selectKey capture.identity = some row)
    (named : savePolicy = .saveAll ∨ sessionId.isSome = true)
    (knownGroup : ∀ group ∈ groupId, group ∈ store.groups) :
    store.commitDelivery delivery savePolicy sessionId groupId =
      (priorDecision delivery capture row).map fun prior =>
        (store.dropStaged capture prior.resolution, prior) := by
  rw [commitDelivery_of_delivered delivered named]
  unfold commitCapture
  rw [validateGroupTarget_eq_ok.2 knownGroup]
  simp only [ok_bind, found]
  rcases priorDecision delivery capture row with raised | prior <;> rfl

/-- The prior decision, for the frame it is about. -/
theorem priorDecision_of_same
    (crc : row.innerFrameCrc32 = Frame.crc32IsoHdlc delivery.innerFrame)
    (digest : row.innerFrameSha256 = Sha256.digest delivery.innerFrame) :
    priorDecision delivery capture row =
      .ok ⟨receipt delivery capture, false, row.resolution⟩ := by
  have checked :
      require
          (row.innerFrameCrc32 = Frame.crc32IsoHdlc delivery.innerFrame ∧
            row.innerFrameSha256 = Sha256.digest delivery.innerFrame)
          conflict =
        .ok () :=
    require_eq_ok.2 ⟨crc, digest⟩
  unfold priorDecision
  rw [checked]
  rfl

/-- Another frame is a conflict. -/
theorem priorDecision_of_other
    (other :
      ¬(row.innerFrameCrc32 = Frame.crc32IsoHdlc delivery.innerFrame ∧
        row.innerFrameSha256 = Sha256.digest delivery.innerFrame)) :
    priorDecision delivery capture row = .error conflict := by
  unfold priorDecision require
  rw [if_neg other]
  rfl

/-- Whatever the path, a decided capture gets its prior decision. -/
theorem Redelivers.perform
    {redelivery : Transaction}
    (redelivers : Redelivers store delivery redelivery)
    (delivered : deliveredCapture delivery = .ok capture)
    (found : store.tombstones.selectKey capture.identity = some row) :
    redelivery.perform store =
      (priorDecision delivery capture row).map fun prior =>
        (store.dropStaged capture prior.resolution, some prior) := by
  cases redelivers with
  | direct savePolicy sessionId groupId named knownGroup =>
      simp only [Transaction.perform,
        commitDelivery_of_decided delivered found named knownGroup]
      rcases priorDecision delivery capture row with raised | prior <;> rfl
  | replayed =>
      have anyGroup : ∀ group ∈ (none : Option GroupId), group ∈ store.groups :=
        fun group member => absurd member (Option.not_mem_none group)
      simp only [Transaction.perform, commitReplayedDelivery, delivered,
        ok_bind, found,
        commitDelivery_of_decided delivered found (.inl rfl) anyGroup]
      rcases priorDecision delivery capture row with raised | prior <;> rfl

/-- The frame of a decision gets it again, and nothing else changes. -/
theorem Redelivers.same
    {redelivery : Transaction}
    (redelivers : Redelivers store delivery redelivery)
    (delivered : deliveredCapture delivery = .ok capture)
    (found : store.tombstones.selectKey capture.identity = some row)
    (crc : row.innerFrameCrc32 = Frame.crc32IsoHdlc delivery.innerFrame)
    (digest : row.innerFrameSha256 = Sha256.digest delivery.innerFrame) :
    ∃ next,
      machine.step store redelivery =
          (next,
            .ok (some ⟨receipt delivery capture, false, row.resolution⟩)) ∧
        Prepares store next := by
  obtain ⟨configurations, dropped⟩ :=
    store.dropStaged_eq capture row.resolution
  refine ⟨store.dropStaged capture row.resolution, ?_, ?_⟩
  · simp only [machine, redelivers.perform delivered found,
      priorDecision_of_same crc digest, Except.map]
  · rw [dropped]
    exact ⟨rfl, rfl, rfl, rfl, rfl, rfl, rfl, rfl⟩

/-- Another frame under the same identity is refused. -/
theorem Redelivers.other
    {redelivery : Transaction}
    (redelivers : Redelivers store delivery redelivery)
    (delivered : deliveredCapture delivery = .ok capture)
    (found : store.tombstones.selectKey capture.identity = some row)
    (other :
      ¬(row.innerFrameCrc32 = Frame.crc32IsoHdlc delivery.innerFrame ∧
        row.innerFrameSha256 = Sha256.digest delivery.innerFrame)) :
    machine.step store redelivery = (store, .error conflict) := by
  simp only [machine, redelivers.perform delivered found,
    priorDecision_of_other other, Except.map]

/-- A decided capture never reaches the archive again. -/
theorem Redelivers.archive
    {redelivery : Transaction}
    (redelivers : Redelivers store delivery redelivery)
    (delivered : deliveredCapture delivery = .ok capture)
    (found : store.tombstones.selectKey capture.identity = some row) :
    (machine.step store redelivery).1.captures = store.captures ∧
      (machine.step store redelivery).1.captureEvents =
        store.captureEvents := by
  by_cases same :
      row.innerFrameCrc32 = Frame.crc32IsoHdlc delivery.innerFrame ∧
        row.innerFrameSha256 = Sha256.digest delivery.innerFrame
  · obtain ⟨next, answered, prepares⟩ :=
      redelivers.same delivered found same.1 same.2
    rw [answered]
    exact ⟨prepares.captures, prepares.captureEvents⟩
  · rw [redelivers.other delivered found same]
    exact ⟨rfl, rfl⟩

end Decided

/-! ## Captures in the archive -/

/-- The checksum of every archived frame is its own. -/
def ArchiveChecked (store : CaptureStore) : Prop :=
  ∀ row ∈ store.captures.rows,
    row.innerFrameCrc32 = Frame.crc32IsoHdlc row.wireFrame

section Archived

variable {store : CaptureStore} {delivery : BridgeCaptureDelivery}
  {capture : CaptureData} {archived : ArchivedCapture}
  {sessionId : Option SessionId} {groupId : Option GroupId}

/-- An archived frame is found in the archive. -/
theorem archiveDelivery_of_same
    (knownGroup : ∀ group ∈ groupId, group ∈ store.groups)
    (found : store.captures.selectKey capture.identity = some archived)
    (crc : archived.innerFrameCrc32 = Frame.crc32IsoHdlc archived.wireFrame)
    (same : delivery.innerFrame = archived.wireFrame) :
    store.archiveDelivery delivery capture sessionId groupId =
      .ok (store, false) := by
  have checked :
      require
          (archived.innerFrameCrc32 =
              Frame.crc32IsoHdlc delivery.innerFrame ∧
            archived.wireFrame = delivery.innerFrame)
          conflict =
        .ok () :=
    require_eq_ok.2 ⟨same ▸ crc, same.symm⟩
  unfold archiveDelivery
  rw [validateGroupTarget_eq_ok.2 knownGroup]
  simp only [ok_bind, found, checked]
  rfl

/-- Another frame in the place of an archived one is a conflict. -/
theorem archiveDelivery_of_other
    (knownGroup : ∀ group ∈ groupId, group ∈ store.groups)
    (found : store.captures.selectKey capture.identity = some archived)
    (other : delivery.innerFrame ≠ archived.wireFrame) :
    store.archiveDelivery delivery capture sessionId groupId =
      .error conflict := by
  have refused :
      ¬(archived.innerFrameCrc32 = Frame.crc32IsoHdlc delivery.innerFrame ∧
        archived.wireFrame = delivery.innerFrame) :=
    fun same => other same.2.symm
  unfold archiveDelivery require
  rw [validateGroupTarget_eq_ok.2 knownGroup]
  simp only [ok_bind, found, if_neg refused]
  rfl

/-- A capture without a decision gets one. -/
theorem insertResolution_of_undecided
    (numbered : store.Numbered)
    (undecided : store.tombstones.selectKey capture.identity = none)
    (delivery : BridgeCaptureDelivery)
    (resolution : CaptureResolution)
    (sessionId : Option SessionId) :
    ∃ next,
      store.insertResolution delivery capture resolution sessionId =
        .ok next := by
  unfold insertResolution
  dsimp only
  split
  · next refused =>
      rcases store.tombstones.insert?_eq_none.1 refused with taken | taken
      · obtain ⟨row, member, same⟩ := List.mem_map.1 taken
        have below := numbered row member
        dsimp only at same
        omega
      · exact absurd taken (store.tombstones.selectKey_eq_none.1 undecided)
  · exact ⟨_, rfl⟩

/-- The archive and its events are the same. -/
structure SameArchive (store next : CaptureStore) : Prop where
  captures : next.captures = store.captures
  captureEvents : next.captureEvents = store.captureEvents

/-- An archived frame that has lost its decision is decided again. -/
theorem commitDelivery_of_same
    (sessionId : Option SessionId)
    (delivered : deliveredCapture delivery = .ok capture)
    (knownGroup : ∀ group ∈ groupId, group ∈ store.groups)
    (numbered : store.Numbered)
    (undecided : store.tombstones.selectKey capture.identity = none)
    (found : store.captures.selectKey capture.identity = some archived)
    (crc : archived.innerFrameCrc32 = Frame.crc32IsoHdlc archived.wireFrame)
    (same : delivery.innerFrame = archived.wireFrame) :
    ∃ next result,
      store.commitDelivery delivery .saveAll sessionId groupId =
          .ok (next, result) ∧
        SameArchive store next := by
  obtain ⟨recorded, records⟩ :=
    insertResolution_of_undecided numbered undecided delivery .rawArchived
      sessionId
  have frame := (insertResolution_records records).frame
  obtain ⟨configurations, dropped⟩ :=
    recorded.dropStaged_eq capture .rawArchived
  refine ⟨recorded.dropStaged capture .rawArchived,
    ⟨receipt delivery capture, false, .rawArchived⟩, ?_, ?_⟩
  · rw [commitDelivery_of_delivered delivered (.inl rfl)]
    unfold commitCapture applyPolicy
    rw [validateGroupTarget_eq_ok.2 knownGroup]
    simp only [ok_bind, undecided,
      archiveDelivery_of_same knownGroup found crc same, pure, Except.pure,
      records]
  · rw [dropped]
    exact ⟨frame.captures, frame.captureEvents⟩

/-- Another frame in the place of an archived one is refused. -/
theorem commitDelivery_of_other
    (delivered : deliveredCapture delivery = .ok capture)
    (knownGroup : ∀ group ∈ groupId, group ∈ store.groups)
    (undecided : store.tombstones.selectKey capture.identity = none)
    (found : store.captures.selectKey capture.identity = some archived)
    (other : delivery.innerFrame ≠ archived.wireFrame) :
    store.commitDelivery delivery .saveAll sessionId groupId =
      .error conflict := by
  rw [commitDelivery_of_delivered delivered (.inl rfl)]
  unfold commitCapture applyPolicy
  rw [validateGroupTarget_eq_ok.2 knownGroup]
  simp only [ok_bind, undecided,
    archiveDelivery_of_other knownGroup found other]
  rfl

/-- A late replay of an archived frame that has lost its decision decides it
again. -/
theorem commitTerminalReplay_of_same
    (sessionId : Option SessionId)
    (knownGroup : ∀ group ∈ groupId, group ∈ store.groups)
    (numbered : store.Numbered)
    (undecided : store.tombstones.selectKey capture.identity = none)
    (found : store.captures.selectKey capture.identity = some archived)
    (crc : archived.innerFrameCrc32 = Frame.crc32IsoHdlc archived.wireFrame)
    (same : delivery.innerFrame = archived.wireFrame)
    (summary : SessionSummary) :
    ∃ next result,
      store.commitTerminalReplay delivery capture .saveAll sessionId groupId
            summary =
          .ok (next, result) ∧
        SameArchive store next := by
  obtain ⟨recorded, records⟩ :=
    insertResolution_of_undecided numbered undecided delivery .rawArchived
      sessionId
  have frame := (insertResolution_records records).frame
  refine ⟨(recorded.dropConfiguration capture).saveSessionSummary
      ((recorded.dropConfiguration capture).savedBy
        ((recorded.dropConfiguration capture).acquiredBy summary)),
    ⟨receipt delivery capture, true, .rawArchived⟩, ?_, ?_⟩
  · unfold commitTerminalReplay applyLatePolicy supersede
    simp only [reduceCtorEq, if_false,
      archiveDelivery_of_same knownGroup found crc same, ok_bind, pure,
      Except.pure, records, finalizeInConnection, finalizeRolling]
  · exact ⟨frame.captures, frame.captureEvents⟩

/-- A late replay of another frame in the place of an archived one is
refused. -/
theorem commitTerminalReplay_of_other
    (knownGroup : ∀ group ∈ groupId, group ∈ store.groups)
    (found : store.captures.selectKey capture.identity = some archived)
    (other : delivery.innerFrame ≠ archived.wireFrame)
    (summary : SessionSummary) :
    store.commitTerminalReplay delivery capture .saveAll sessionId groupId
        summary =
      .error conflict := by
  unfold commitTerminalReplay applyLatePolicy supersede
  simp only [reduceCtorEq, if_false,
    archiveDelivery_of_other knownGroup found other]
  rfl

/-- The path of a replayed capture without a decision. -/
theorem commitReplayedDelivery_of_undecided
    {context : DeliveryPolicyContext}
    (delivered : deliveredCapture delivery = .ok capture)
    (undecided : store.tombstones.selectKey capture.identity = none)
    (registered : store.context? capture.device = some context) :
    store.commitReplayedDelivery delivery =
      store.decideReplay delivery capture context.savePolicy context.sessionId
        context.groupId := by
  unfold commitReplayedDelivery
  simp only [delivered, ok_bind, undecided, registered]

/-- A delivery to the archive is a delivery. -/
theorem RedeliversToArchive.redelivers
    {redelivery : Transaction}
    (redelivers : RedeliversToArchive store delivery capture redelivery) :
    Redelivers store delivery redelivery := by
  cases redelivers with
  | direct sessionId groupId knownGroup =>
      exact .direct .saveAll sessionId groupId (.inl rfl) knownGroup
  | replayed => exact .replayed

/-- An archived frame is not archived twice. -/
theorem RedeliversToArchive.same
    {redelivery : Transaction}
    (redelivers : RedeliversToArchive store delivery capture redelivery)
    (delivered : deliveredCapture delivery = .ok capture)
    (numbered : store.Numbered)
    (grouped :
      ∀ row ∈ store.contexts.rows, ∀ group ∈ row.groupId,
        group ∈ store.groups)
    (undecided : store.tombstones.selectKey capture.identity = none)
    (found : store.captures.selectKey capture.identity = some archived)
    (crc : archived.innerFrameCrc32 = Frame.crc32IsoHdlc archived.wireFrame)
    (same : delivery.innerFrame = archived.wireFrame) :
    ∃ next result,
      redelivery.perform store = .ok (next, some result) ∧
        SameArchive store next := by
  cases redelivers with
  | direct sessionId groupId knownGroup =>
      obtain ⟨next, result, committed, archive⟩ :=
        commitDelivery_of_same sessionId delivered knownGroup numbered
          undecided found crc same
      refine ⟨next, result, ?_, archive⟩
      simp only [Transaction.perform, committed]
      rfl
  | replayed context registered policy =>
      have knownGroup :=
        grouped context (context?_eq_some.1 registered).1
      simp only [Transaction.perform,
        commitReplayedDelivery_of_undecided delivered undecided registered,
        policy, decideReplay]
      rcases store.closedSession? context.sessionId with _ | summary
      · obtain ⟨next, result, committed, archive⟩ :=
          commitDelivery_of_same context.sessionId delivered knownGroup
            numbered undecided found crc same
        refine ⟨next, result, ?_, archive⟩
        simp only [committed]
        rfl
      · obtain ⟨next, result, committed, archive⟩ :=
          commitTerminalReplay_of_same context.sessionId knownGroup numbered
            undecided found crc same summary
        refine ⟨next, result, ?_, archive⟩
        simp only [committed]
        rfl

/-- Another frame in the place of an archived one is refused. -/
theorem RedeliversToArchive.other
    {redelivery : Transaction}
    (redelivers : RedeliversToArchive store delivery capture redelivery)
    (delivered : deliveredCapture delivery = .ok capture)
    (grouped :
      ∀ row ∈ store.contexts.rows, ∀ group ∈ row.groupId,
        group ∈ store.groups)
    (undecided : store.tombstones.selectKey capture.identity = none)
    (found : store.captures.selectKey capture.identity = some archived)
    (other : delivery.innerFrame ≠ archived.wireFrame) :
    redelivery.perform store = .error conflict := by
  cases redelivers with
  | direct sessionId groupId knownGroup =>
      simp only [Transaction.perform,
        commitDelivery_of_other delivered knownGroup undecided found other]
      rfl
  | replayed context registered policy =>
      have knownGroup :=
        grouped context (context?_eq_some.1 registered).1
      simp only [Transaction.perform,
        commitReplayedDelivery_of_undecided delivered undecided registered,
        policy, decideReplay]
      rcases store.closedSession? context.sessionId with _ | summary
      · simp only [commitDelivery_of_other delivered knownGroup undecided found
          other]
        rfl
      · simp only [commitTerminalReplay_of_other knownGroup found other summary]
        rfl

end Archived

/-! ## What a run keeps -/

/-- Every archived capture was archived before, or is archived now. -/
def OnlyArchives (store next : CaptureStore) : Prop :=
  ∀ row ∈ next.captures.rows,
    row ∈ store.captures.rows ∨
      ∃ origin delivery capture sessionId groupId,
        row = archiveRow origin delivery capture sessionId groupId

section OnlyArchives

variable {store middle next : CaptureStore} {delivery : BridgeCaptureDelivery}
  {capture : CaptureData} {savePolicy : SavePolicy}
  {sessionId : Option SessionId} {groupId : Option GroupId}

/-- The archive is left alone. -/
theorem OnlyArchives.of_same
    (captures : next.captures = store.captures) :
    OnlyArchives store next := by
  intro row member
  exact .inl (captures ▸ member)

/-- One operation after the other. -/
theorem OnlyArchives.trans
    (before : OnlyArchives store middle)
    (after : OnlyArchives middle next) :
    OnlyArchives store next := by
  intro row member
  rcases after row member with old | new
  · exact before row old
  · exact .inr new

/-- Archiving adds its row. -/
theorem Archives.onlyArchives
    {inserted : Bool}
    (archives :
      Archives store delivery capture sessionId groupId next inserted) :
    OnlyArchives store next := by
  cases archives with
  | kept => exact .of_same rfl
  | added captures fresh rows =>
      intro row member
      rw [rows] at member
      rcases List.mem_append.1 member with old | new
      · exact .inl old
      · exact .inr ⟨_, _, _, _, _, List.mem_singleton.1 new⟩

/-- A policy archives at most its capture. -/
theorem Keeps.onlyArchives
    {inserted : Bool}
    {resolution : CaptureResolution}
    (keeps :
      Keeps store delivery capture sessionId groupId savePolicy next inserted
        resolution) :
    OnlyArchives store next := by
  cases keeps with
  | archived archives => exact archives.onlyArchives
  | rolling => exact .of_same rfl
  | discarded => exact .of_same rfl

/-- `commit_delivery` archives at most its capture. -/
theorem Commits.onlyArchives
    {result : CoreCommitResult}
    (commits :
      Commits store delivery capture savePolicy sessionId groupId next
        result) :
    OnlyArchives store next := by
  cases commits with
  | repeated => exact .of_same rfl
  | decided _ _ keeps records =>
      exact keeps.onlyArchives.trans (.of_same records.frame.captures)

/-- The end of a rolling capture archives at most that capture. -/
theorem Moves.onlyArchives
    {session : SessionId}
    (moves : Moves store session next) :
    OnlyArchives store next := by
  cases moves with
  | unmoved => exact .of_same rfl
  | moved rolling held capture stored archives moved =>
      exact archives.onlyArchives.trans (.of_same moved.captures)

/-- The end of a session archives at most its rolling capture. -/
theorem Finalizes.onlyArchives
    {summary : SessionSummary}
    (finalizes : Finalizes store summary savePolicy next) :
    OnlyArchives store next := by
  cases finalizes with
  | @finalized moved moves stays =>
      by_cases last : savePolicy = .saveLast
      · exact (moves last).onlyArchives.trans (.of_same rfl)
      · rw [stays last]
        exact .of_same rfl

/-- `_commit_terminal_replay` archives at most its capture and the rolling
one. -/
theorem CommitsLate.onlyArchives
    {summary : SessionSummary}
    {result : CoreCommitResult}
    (commits :
      CommitsLate store delivery capture savePolicy sessionId groupId summary
        next result) :
    OnlyArchives store next := by
  cases commits with
  | @decided kept recorded _ _ keeps records configurations finalizes =>
      have superseded :
          OnlyArchives store (store.supersede savePolicy sessionId) := by
        intro row member
        unfold supersede at member
        split_ifs at member
        · exact .inl (Table.mem_delete _ |>.1 member).1
        · exact .inl member
      have late :
          OnlyArchives (store.supersede savePolicy sessionId) kept := by
        cases keeps with
        | archived _ archives => exact archives.onlyArchives
        | discarded => exact .of_same rfl
      have dropped :
          OnlyArchives kept
            { recorded with configurations := configurations } :=
        .of_same records.frame.captures
      exact ((superseded.trans late).trans dropped).trans
        finalizes.onlyArchives

/-- `commit_replayed_delivery` archives at most its capture and the rolling
one. -/
theorem Replays.onlyArchives
    {result : CoreCommitResult}
    (replays : Replays store delivery capture next result) :
    OnlyArchives store next := by
  cases replays with
  | repeated => exact .of_same rfl
  | direct _ _ _ _ commits => exact commits.onlyArchives
  | late _ _ _ _ _ commits => exact commits.onlyArchives

/-- Archived now or before, a frame has its checksum. -/
theorem ArchiveChecked.onlyArchives
    (checked : store.ArchiveChecked)
    (archives : OnlyArchives store next) :
    next.ArchiveChecked := by
  intro row member
  rcases archives row member with old | ⟨origin, _, _, _, _, rfl⟩
  · exact checked row old
  · rfl

/-- A transaction keeps the checksums of the archive. -/
theorem ArchiveChecked.performs
    {transaction : Transaction}
    {result : Option CoreCommitResult}
    (checked : store.ArchiveChecked)
    (performs : Performs store transaction next result) :
    next.ArchiveChecked := by
  cases performs with
  | prepares _ prepares _ _ =>
      exact checked.onlyArchives (.of_same prepares.captures)
  | saves => exact checked
  | commits _ _ commits => exact checked.onlyArchives commits.onlyArchives
  | replays _ _ replays => exact checked.onlyArchives replays.onlyArchives
  | moves moves => exact checked.onlyArchives moves.onlyArchives
  | finalizes _ _ _ finalizes =>
      exact checked.onlyArchives finalizes.onlyArchives
  | regroups change regroups =>
      intro row member
      obtain ⟨old, oldMember, rfl⟩ := List.mem_map.1 member
      rw [regroups.innerFrameCrc32, regroups.wireFrame]
      exact checked old oldMember

end OnlyArchives

/-- Every context names a group of the store. -/
def Grouped (store : CaptureStore) : Prop :=
  ∀ row ∈ store.contexts.rows, ∀ group ∈ row.groupId, group ∈ store.groups

/-- Operations that leave the policies keep the groups of the contexts. -/
theorem Grouped.of_policies
    {store next : CaptureStore}
    (grouped : store.Grouped)
    (same : SamePolicies store next) :
    next.Grouped := by
  intro row member
  rw [same.groups]
  rw [same.contexts] at member
  exact grouped row member

/-- A transaction keeps the groups of the contexts. -/
theorem Grouped.performs
    {store next : CaptureStore}
    {transaction : Transaction}
    {result : Option CoreCommitResult}
    (grouped : store.Grouped)
    (performs : Performs store transaction next result) :
    next.Grouped := by
  cases performs with
  | prepares _ _ contexts groups =>
      intro row member group named
      apply groups
      rcases contexts row member with old | known
      · exact grouped row old group named
      · exact known group named
  | saves => exact grouped
  | commits _ _ commits => exact grouped.of_policies commits.policies
  | replays _ _ replays => exact grouped.of_policies replays.policies
  | moves moves => exact grouped.of_policies moves.policies
  | finalizes _ _ _ finalizes => exact grouped.of_policies finalizes.policies
  | regroups => exact grouped

/-- What the answer to a redelivery rests on. -/
structure Answerable
    (history : List StoreEvent)
    (store : CaptureStore) :
    Prop where
  numbered : store.Numbered
  remembered :
    ∀ row ∈ store.tombstones.rows,
      ∃ event ∈ history, ∃ decision ∈ newDecision? event,
        RecordOf event.source decision row
  checked : store.ArchiveChecked
  grouped : store.Grouped

/-- Every transaction keeps what the answers rest on. -/
theorem Answerable.step
    {history : List StoreEvent}
    {store : CaptureStore}
    (answerable : Answerable history store)
    (transaction : Transaction) :
    Answerable (history ++ [machine.event store transaction])
      (machine.event store transaction).target := by
  have logs := step_logs answerable.numbered transaction
  refine ⟨answerable.numbered.logs logs, ?_, ?_, ?_⟩
  · intro row member
    have before :
        ∀ old ∈ store.tombstones.rows, Reclassified old row →
          ∃ event ∈ history ++ [machine.event store transaction],
            ∃ decision ∈ newDecision? event,
              RecordOf event.source decision row := by
      rintro old oldMember ⟨resolution, rfl⟩
      obtain ⟨event, earlier, decision, new, _, rfl⟩ :=
        answerable.remembered old oldMember
      exact ⟨event, List.mem_append_left _ earlier, decision, new, resolution,
        rfl⟩
    generalize newly : newDecision? (machine.event store transaction) = new
      at logs
    cases logs with
    | unchanged reclassifies =>
        obtain ⟨old, oldMember, same⟩ := reclassifies.known row member
        exact before old oldMember same
    | decided decision decides =>
        rcases decides.known row member with ⟨old, oldMember, same⟩ | record
        · exact before old oldMember same
        · exact ⟨machine.event store transaction,
            List.mem_append_right _ (List.mem_singleton_self _), decision,
            newly, record⟩
  · exact step_keeps transaction answerable.checked
      fun _ _ => answerable.checked.performs
  · exact step_keeps transaction answerable.grouped
      fun _ _ => answerable.grouped.performs

/-- A store with what the answers rest on answers as it has decided. -/
theorem Answerable.answersAsDecided
    {history : List StoreEvent}
    {store : CaptureStore}
    (answerable : Answerable history store) :
    AnswersAsDecided history store := by
  intro row member
  obtain ⟨event, earlier, decision, new, resolution, record⟩ :=
    answerable.remembered row member
  refine ⟨event, earlier, decision, new, ⟨resolution, record⟩, ?_⟩
  intro delivery capture delivered named redelivery redelivers
  have found : store.tombstones.selectKey capture.identity = some row :=
    store.tombstones.selectKey_eq_some.2 ⟨member, named.symm⟩
  have crc :
      row.innerFrameCrc32 =
        Frame.crc32IsoHdlc decision.delivery.innerFrame := by
    rw [record]
    rfl
  have digest :
      row.innerFrameSha256 = Sha256.digest decision.delivery.innerFrame := by
    rw [record]
    rfl
  constructor
  · intro same
    rw [← same] at crc digest
    exact redelivers.same delivered found crc digest
  · intro _
    by_cases collide :
        ChecksumsCollide delivery.innerFrame decision.delivery.innerFrame
    · exact .inr collide
    · refine .inl (redelivers.other delivered found ?_)
      rw [crc, digest]
      exact fun same => collide ⟨same.1.symm, same.2.symm⟩

/-- A store with what the answers rest on recognises what it has archived. -/
theorem Answerable.answersAsArchived
    {history : List StoreEvent}
    {store : CaptureStore}
    (answerable : Answerable history store) :
    store.AnswersAsArchived := by
  intro archived member delivery capture delivered named redelivery redelivers
  have found : store.captures.selectKey capture.identity = some archived :=
    store.captures.selectKey_eq_some.2 ⟨member, named.symm⟩
  have crc := answerable.checked archived member
  rcases decided : store.tombstones.selectKey capture.identity with _ | row
  · refine ⟨fun same => ?_, fun _ => ⟨fun same => ?_, fun other => ?_⟩⟩
    · obtain ⟨next, result, performed, archive⟩ :=
        redelivers.same delivered answerable.numbered answerable.grouped
          decided found crc same
      simp only [machine, performed]
      exact ⟨archive.captures, archive.captureEvents⟩
    · obtain ⟨next, result, performed, -⟩ :=
        redelivers.same delivered answerable.numbered answerable.grouped
          decided found crc same
      exact ⟨result, by simp only [machine, performed]⟩
    · simp only [machine,
        redelivers.other delivered answerable.grouped decided found other]
  · exact ⟨fun _ => redelivers.redelivers.archive delivered decided,
      by rintro ⟨⟩⟩

/-- After every run, a capture that is delivered again is answered as it was
decided, or recognised in the archive. -/
theorem redelivery_idempotent (transactions : List Transaction) :
    AnswersAsDecided (machine.trace empty transactions)
        (machine.after empty transactions) ∧
      (machine.after empty transactions).AnswersAsArchived := by
  have initially : Answerable [] empty := ⟨nofun, nofun, nofun, nofun⟩
  have every :
      EveryStep (fun _ _ => True) (machine.trace empty transactions) :=
    fun _ _ _ _ => trivial
  have answerable :=
    machine.invariant_after Answerable initially
      (fun _ _ transaction invariant _ => invariant.step transaction)
      transactions every
  exact ⟨answerable.answersAsDecided, answerable.answersAsArchived⟩

end Usac.Host.CaptureStore
