import Usac.Host.StoreRun

namespace Usac.Host.CaptureStore

open Library

/-!
# New decisions

A capture is decided anew when the store has no decision about it. Which
decision a transaction makes is read off the store before it, so a run has a
history of new decisions, and the log and the statistics of the store follow
it.
-/

/-- One recorded transaction. -/
abbrev StoreEvent :=
  Event CaptureStore Transaction (Except Raised (Option CoreCommitResult))

/-- A decision about a capture that had none. -/
structure NewDecision where
  delivery : BridgeCaptureDelivery
  capture : CaptureData
  sessionId : Option SessionId

/-- The capture in a delivery, as long as it has no decision. -/
def undecided?
    (store : CaptureStore)
    (delivery : BridgeCaptureDelivery) :
    Option CaptureData :=
  (deliveredCapture delivery).toOption.filter fun capture =>
    (store.tombstones.selectKey capture.identity).isNone

/-- The decision a transaction makes, if it succeeds. -/
def decides? (store : CaptureStore) : Transaction → Option NewDecision
  | .commitDelivery delivery _ sessionId _ =>
      (store.undecided? delivery).map fun capture =>
        ⟨delivery, capture, sessionId⟩
  | .commitReplayedDelivery delivery =>
      (store.undecided? delivery).bind fun capture =>
        (store.context? capture.device).map fun context =>
          ⟨delivery, capture, context.sessionId⟩
  | _ => none

/-- The decision a recorded transaction has made. -/
def newDecision? (event : StoreEvent) : Option NewDecision :=
  match event.output with
  | .ok _ => event.source.decides? event.input
  | .error _ => none

/-- The decisions made for a session, in their order. -/
def newlyDecided
    (history : List StoreEvent)
    (sessionId : SessionId) :
    List NewDecision :=
  (history.filterMap newDecision?).filter fun decision =>
    decision.sessionId = some sessionId

/-- The decisions for a session after one more transaction. -/
theorem newlyDecided_concat
    (history : List StoreEvent)
    (event : StoreEvent)
    (sessionId : SessionId) :
    newlyDecided (history ++ [event]) sessionId =
      newlyDecided history sessionId ++
        (newDecision? event).toList.filter fun decision =>
          decision.sessionId = some sessionId := by
  rcases decided : newDecision? event with _ | decision
  · simp [newlyDecided, decided]
  · simp [newlyDecided, decided, List.filter_append]

section Undecided

variable {store : CaptureStore} {delivery : BridgeCaptureDelivery}
  {capture : CaptureData}

/-- A delivered capture without a decision. -/
theorem undecided?_of_none
    (delivered : deliveredCapture delivery = .ok capture)
    (undecided : store.tombstones.selectKey capture.identity = none) :
    store.undecided? delivery = some capture := by
  simp [undecided?, delivered, Except.toOption, undecided]

/-- A delivered capture with a decision. -/
theorem undecided?_of_some
    {existing : ResolutionTombstone}
    (delivered : deliveredCapture delivery = .ok capture)
    (found : store.tombstones.selectKey capture.identity = some existing) :
    store.undecided? delivery = none := by
  simp [undecided?, delivered, Except.toOption, found]

end Undecided

/-! ## Decisions that are reclassified -/

/-- The same decision, perhaps with another resolution. -/
def Reclassified (old row : ResolutionTombstone) : Prop :=
  ∃ resolution, row = { old with resolution := resolution }

namespace Reclassified

/-- A decision that is left alone. -/
theorem refl (row : ResolutionTombstone) : Reclassified row row :=
  ⟨row.resolution, rfl⟩

/-- Reclassified twice. -/
theorem trans
    {first second third : ResolutionTombstone}
    (once : Reclassified first second)
    (again : Reclassified second third) :
    Reclassified first third := by
  obtain ⟨_, rfl⟩ := once
  obtain ⟨resolution, rfl⟩ := again
  exact ⟨resolution, rfl⟩

variable {old row : ResolutionTombstone}

theorem rowId (same : Reclassified old row) : row.rowId = old.rowId := by
  obtain ⟨_, rfl⟩ := same
  rfl

theorem identity (same : Reclassified old row) :
    row.identity = old.identity := by
  obtain ⟨_, rfl⟩ := same
  rfl

theorem sessionId (same : Reclassified old row) :
    row.sessionId = old.sessionId := by
  obtain ⟨_, rfl⟩ := same
  rfl

end Reclassified

/-- The log is the same, but for resolutions. -/
structure Reclassifies (store next : CaptureStore) : Prop where
  known :
    ∀ row ∈ next.tombstones.rows,
      ∃ old ∈ store.tombstones.rows, Reclassified old row
  kept :
    ∀ old ∈ store.tombstones.rows,
      ∃ row ∈ next.tombstones.rows, Reclassified old row
  stats : next.stats = store.stats
  lastTombstoneId : next.lastTombstoneId = store.lastTombstoneId

namespace Reclassifies

variable {store next : CaptureStore}

/-- The log is left alone. -/
theorem of_same
    (tombstones : next.tombstones = store.tombstones)
    (stats : next.stats = store.stats)
    (lastTombstoneId : next.lastTombstoneId = store.lastTombstoneId) :
    Reclassifies store next where
  known row member := ⟨row, tombstones ▸ member, .refl row⟩
  kept row member := ⟨row, tombstones ▸ member, .refl row⟩
  stats := stats
  lastTombstoneId := lastTombstoneId

/-- One operation after the other. -/
theorem trans
    {first second third : CaptureStore}
    (before : Reclassifies first second)
    (after : Reclassifies second third) :
    Reclassifies first third where
  known row member := by
    obtain ⟨middle, middleMember, again⟩ := after.known row member
    obtain ⟨old, oldMember, once⟩ := before.known middle middleMember
    exact ⟨old, oldMember, once.trans again⟩
  kept old member := by
    obtain ⟨middle, middleMember, once⟩ := before.kept old member
    obtain ⟨row, rowMember, again⟩ := after.kept middle middleMember
    exact ⟨row, rowMember, once.trans again⟩
  stats := after.stats.trans before.stats
  lastTombstoneId := after.lastTombstoneId.trans before.lastTombstoneId

/-- Some decisions are given another resolution. -/
theorem of_resolveAs
    {archived : CaptureStore}
    {chosen : ResolutionTombstone → Bool}
    {resolution : CaptureResolution}
    (tombstones :
      next.tombstones = (archived.resolveAs chosen resolution).tombstones)
    (same : archived.tombstones = store.tombstones)
    (stats : next.stats = store.stats)
    (lastTombstoneId : next.lastTombstoneId = store.lastTombstoneId) :
    Reclassifies store next := by
  have reclassified (old : ResolutionTombstone) :
      Reclassified old
        (if chosen old then { old with resolution := resolution }
          else old) := by
    split_ifs
    · exact ⟨resolution, rfl⟩
    · exact .refl old
  refine ⟨?_, ?_, stats, lastTombstoneId⟩
  · intro row member
    rw [tombstones] at member
    obtain ⟨old, oldMember, rfl⟩ := List.mem_map.1 member
    exact ⟨old, same ▸ oldMember, reclassified old⟩
  · intro old member
    refine ⟨_, ?_, reclassified old⟩
    rw [tombstones]
    exact List.mem_map.2 ⟨old, same ▸ member, rfl⟩

end Reclassifies

/-! ## Decisions that are made -/

/-- No decision has a number that has not been given out. -/
def Numbered (store : CaptureStore) : Prop :=
  ∀ row ∈ store.tombstones.rows, row.rowId ≤ store.lastTombstoneId

/-- The row is the record of a new decision. -/
def RecordOf
    (store : CaptureStore)
    (decision : NewDecision)
    (row : ResolutionTombstone) :
    Prop :=
  ∃ resolution,
    row =
      store.resolutionRow decision.delivery decision.capture resolution
        decision.sessionId

/-- The log has one more decision, and may have lost old ones. -/
structure Decides
    (store : CaptureStore)
    (decision : NewDecision)
    (next : CaptureStore) :
    Prop where
  undecided :
    ∀ row ∈ store.tombstones.rows, row.identity ≠ decision.capture.identity
  known :
    ∀ row ∈ next.tombstones.rows,
      (∃ old ∈ store.tombstones.rows, Reclassified old row) ∨
        RecordOf store decision row
  recorded : ∃ row ∈ next.tombstones.rows, RecordOf store decision row
  stats : next.stats = store.counted decision.capture decision.sessionId
  lastTombstoneId : next.lastTombstoneId = store.lastTombstoneId + 1

/-- What a transaction does to the log, with the decision it makes. -/
inductive Logs
    (store next : CaptureStore) :
    Option NewDecision → Prop where
  | unchanged (reclassifies : Reclassifies store next) :
      Logs store next none
  | decided (decision : NewDecision) (decides : Decides store decision next) :
      Logs store next (some decision)

section Logs

variable {store middle next : CaptureStore} {delivery : BridgeCaptureDelivery}
  {capture : CaptureData} {savePolicy : SavePolicy}
  {sessionId : Option SessionId} {groupId : Option GroupId}

/-- A reclassification keeps the numbers. -/
theorem Numbered.reclassifies
    (numbered : store.Numbered)
    (reclassifies : Reclassifies store next) :
    next.Numbered := by
  intro row member
  obtain ⟨old, oldMember, same⟩ := reclassifies.known row member
  rw [same.rowId, reclassifies.lastTombstoneId]
  exact numbered old oldMember

/-- The statistics count from those of the store. -/
theorem counted_of_stats
    (stats : next.stats = store.stats)
    (capture : CaptureData)
    (sessionId : Option SessionId) :
    next.counted capture sessionId = store.counted capture sessionId := by
  unfold counted acquiredCount
  rw [stats]

/-- The record of a decision has the next number. -/
theorem RecordOf.of_lastTombstoneId
    {decision : NewDecision}
    {row : ResolutionTombstone}
    (record : RecordOf store decision row)
    (lastTombstoneId : next.lastTombstoneId = store.lastTombstoneId) :
    RecordOf next decision row := by
  obtain ⟨resolution, rfl⟩ := record
  refine ⟨resolution, ?_⟩
  unfold resolutionRow
  rw [lastTombstoneId]

/-- A decision that is recorded is made. -/
theorem Records.decides
    {resolution : CaptureResolution}
    (records : Records store delivery capture resolution sessionId next)
    (numbered : store.Numbered) :
    Decides store ⟨delivery, capture, sessionId⟩ next where
  undecided := records.fresh
  known row member := by
    rcases records.mem member with old | rfl
    · exact .inl ⟨row, old, .refl row⟩
    · exact .inr ⟨resolution, rfl⟩
  recorded := by
    refine ⟨_, ?_, resolution, rfl⟩
    cases records with
    | recorded tombstones fresh rows =>
        apply tombstones.mem_keepNewest_of_newest (by decide)
        · rw [rows]
          exact List.mem_append_right _ (List.mem_singleton_self _)
        · intro other member
          rw [rows] at member
          rcases List.mem_append.1 member with old | new
          · exact (numbered other old).trans (Nat.le_succ _)
          · rw [List.mem_singleton.1 new]
  stats := by
    cases records with
    | recorded => rfl
  lastTombstoneId := by
    cases records with
    | recorded => rfl

/-- Decisions may be reclassified before one is made. -/
theorem Decides.after
    {decision : NewDecision}
    (decides : Decides middle decision next)
    (before : Reclassifies store middle) :
    Decides store decision next where
  undecided row member := by
    obtain ⟨kept, keptMember, same⟩ := before.kept row member
    rw [← same.identity]
    exact decides.undecided kept keptMember
  known row member := by
    rcases decides.known row member with ⟨old, oldMember, again⟩ | record
    · obtain ⟨first, firstMember, once⟩ := before.known old oldMember
      exact .inl ⟨first, firstMember, once.trans again⟩
    · exact .inr (record.of_lastTombstoneId before.lastTombstoneId.symm)
  recorded := by
    obtain ⟨row, member, record⟩ := decides.recorded
    exact ⟨row, member,
      record.of_lastTombstoneId before.lastTombstoneId.symm⟩
  stats := decides.stats.trans (counted_of_stats before.stats _ _)
  lastTombstoneId := by
    rw [decides.lastTombstoneId, before.lastTombstoneId]

/-- Decisions may be reclassified after one is made. -/
theorem Decides.followedBy
    {decision : NewDecision}
    (decides : Decides store decision middle)
    (after : Reclassifies middle next) :
    Decides store decision next where
  undecided := decides.undecided
  known row member := by
    obtain ⟨old, oldMember, same⟩ := after.known row member
    rcases decides.known old oldMember with ⟨first, firstMember, once⟩ | record
    · exact .inl ⟨first, firstMember, once.trans same⟩
    · obtain ⟨_, rfl⟩ := record
      obtain ⟨resolution, rfl⟩ := same
      exact .inr ⟨resolution, rfl⟩
  recorded := by
    obtain ⟨old, oldMember, _, rfl⟩ := decides.recorded
    obtain ⟨row, member, resolution, rfl⟩ := after.kept _ oldMember
    exact ⟨_, member, resolution, rfl⟩
  stats := after.stats.trans decides.stats
  lastTombstoneId := after.lastTombstoneId.trans decides.lastTombstoneId

/-- A transaction keeps the numbers. -/
theorem Numbered.logs
    {new : Option NewDecision}
    (numbered : store.Numbered)
    (logs : Logs store next new) :
    next.Numbered := by
  cases logs with
  | unchanged reclassifies => exact numbered.reclassifies reclassifies
  | decided decision decides =>
      intro row member
      rw [decides.lastTombstoneId]
      rcases decides.known row member with ⟨old, oldMember, same⟩ | record
      · rw [same.rowId]
        exact (numbered old oldMember).trans (Nat.le_succ _)
      · obtain ⟨_, rfl⟩ := record
        exact le_refl _

/-! ## What each operation logs -/

/-- Archiving leaves the log. -/
theorem Archives.reclassifies
    {inserted : Bool}
    (archives :
      Archives store delivery capture sessionId groupId next inserted) :
    Reclassifies store next :=
  .of_same archives.frame.tombstones archives.frame.stats
    archives.frame.lastTombstoneId

/-- A policy leaves the log. -/
theorem Keeps.reclassifies
    {inserted : Bool}
    {resolution : CaptureResolution}
    (keeps :
      Keeps store delivery capture sessionId groupId savePolicy next inserted
        resolution) :
    Reclassifies store next := by
  cases keeps with
  | archived archives => exact archives.reclassifies
  | rolling => exact .of_same rfl rfl rfl
  | discarded => exact .of_same rfl rfl rfl

/-- `commit_delivery` makes one decision, about a capture that had none. -/
theorem Commits.logs
    {result : CoreCommitResult}
    (commits :
      Commits store delivery capture savePolicy sessionId groupId next result)
    (numbered : store.Numbered)
    (delivered : deliveredCapture delivery = .ok capture) :
    Logs store next
      ((store.undecided? delivery).map fun capture =>
        ⟨delivery, capture, sessionId⟩) := by
  cases commits with
  | repeated existing found configurations =>
      rw [undecided?_of_some delivered found]
      exact .unchanged (.of_same rfl rfl rfl)
  | @decided _ _ kept recorded _ _ keeps records configurations =>
      rw [undecided?_of_none delivered ‹_›]
      have decides :=
        (records.decides (numbered.reclassifies keeps.reclassifies)).after
          keeps.reclassifies
      exact .decided _ (decides.followedBy (.of_same rfl rfl rfl))

/-- The end of a rolling capture reclassifies its decision. -/
theorem Moves.reclassifies
    {session : SessionId}
    (moves : Moves store session next) :
    Reclassifies store next := by
  cases moves with
  | unmoved => exact .of_same rfl rfl rfl
  | moved rolling held capture stored archives moved =>
      exact .of_resolveAs moved.tombstones archives.frame.tombstones
        (moved.stats.trans archives.frame.stats)
        (moved.lastTombstoneId.trans archives.frame.lastTombstoneId)

/-- The end of a session reclassifies the decision about its rolling
capture. -/
theorem Finalizes.reclassifies
    {summary : SessionSummary}
    (finalizes : Finalizes store summary savePolicy next) :
    Reclassifies store next := by
  cases finalizes with
  | @finalized moved moves stays =>
      have moving : Reclassifies store moved := by
        by_cases last : savePolicy = .saveLast
        · exact (moves last).reclassifies
        · rw [stays last]
          exact .of_same rfl rfl rfl
      exact moving.trans (.of_same rfl rfl rfl)

/-- The frames superseded are reclassified. -/
theorem reclassifies_supersede :
    Reclassifies store (store.supersede savePolicy sessionId) := by
  unfold supersede
  split_ifs
  · exact .of_resolveAs rfl rfl rfl rfl
  · exact .of_same rfl rfl rfl

/-- `_commit_terminal_replay` makes one decision. -/
theorem CommitsLate.decides
    {summary : SessionSummary}
    {result : CoreCommitResult}
    (commits :
      CommitsLate store delivery capture savePolicy sessionId groupId summary
        next result)
    (numbered : store.Numbered) :
    Decides store ⟨delivery, capture, sessionId⟩ next := by
  cases commits with
  | @decided kept recorded _ _ keeps records configurations finalizes =>
      have late :
          Reclassifies (store.supersede savePolicy sessionId) kept := by
        cases keeps with
        | archived _ archives => exact archives.reclassifies
        | discarded => exact .of_same rfl rfl rfl
      have before := reclassifies_supersede.trans late
      have decides :=
        (records.decides (numbered.reclassifies before)).after before
      have dropped :
          Reclassifies recorded
            { recorded with configurations := configurations } :=
        .of_same rfl rfl rfl
      exact decides.followedBy (dropped.trans finalizes.reclassifies)

/-- `commit_replayed_delivery` makes one decision, about a capture that had
none. -/
theorem Replays.logs
    {result : CoreCommitResult}
    (replays : Replays store delivery capture next result)
    (numbered : store.Numbered)
    (delivered : deliveredCapture delivery = .ok capture) :
    Logs store next (store.decides? (.commitReplayedDelivery delivery)) := by
  change
    Logs store next
      ((store.undecided? delivery).bind fun capture =>
        (store.context? capture.device).map fun context =>
          ⟨delivery, capture, context.sessionId⟩)
  cases replays with
  | repeated existing found configurations =>
      rw [undecided?_of_some delivered found]
      exact .unchanged (.of_same rfl rfl rfl)
  | direct undecided context registered isOpen commits =>
      have logs := commits.logs numbered delivered
      rw [undecided?_of_none delivered undecided] at logs ⊢
      rw [Option.bind_some, registered]
      exact logs
  | late undecided context registered summary closed commits =>
      rw [undecided?_of_none delivered undecided, Option.bind_some, registered]
      exact .decided _ (commits.decides numbered)

/-- What a transaction does to the log is the decision it makes. -/
theorem Performs.logs
    {transaction : Transaction}
    {result : Option CoreCommitResult}
    (performs : Performs store transaction next result)
    (numbered : store.Numbered) :
    Logs store next (store.decides? transaction) := by
  cases performs with
  | prepares preparation prepares _ _ =>
      have undecided : store.decides? transaction = none := by
        cases transaction <;> first | rfl | exact nomatch preparation
      rw [undecided]
      exact .unchanged
        (.of_same prepares.tombstones prepares.stats prepares.lastTombstoneId)
  | saves summary => exact .unchanged (.of_same rfl rfl rfl)
  | commits capture delivered commits => exact commits.logs numbered delivered
  | replays capture delivered replays => exact replays.logs numbered delivered
  | moves moves => exact .unchanged moves.reclassifies
  | finalizes summary closing terminal finalizes =>
      have undecided : store.decides? transaction = none := by
        cases transaction <;> first | rfl | exact nomatch closing
      rw [undecided]
      exact .unchanged finalizes.reclassifies
  | regroups => exact .unchanged (.of_same rfl rfl rfl)

end Logs

/-- What a step does to the log is the new decision of its event. -/
theorem step_logs
    {store : CaptureStore}
    (numbered : store.Numbered)
    (transaction : Transaction) :
    Logs store (machine.event store transaction).target
      (newDecision? (machine.event store transaction)) := by
  unfold newDecision? Machine.event
  rcases step_cases store transaction with
    ⟨raised, failed⟩ | ⟨next, result, done, performs⟩
  · rw [failed]
    exact .unchanged (.of_same rfl rfl rfl)
  · rw [done]
    exact performs.logs numbered

/-- A decision is made about the capture in its delivery. -/
theorem newDecision?_delivered
    {event : StoreEvent}
    {decision : NewDecision}
    (new : newDecision? event = some decision) :
    deliveredCapture decision.delivery = .ok decision.capture := by
  have decides : event.source.decides? event.input = some decision := by
    unfold newDecision? at new
    split at new
    · exact new
    · cases new
  have delivered
      {delivery : BridgeCaptureDelivery}
      {capture : CaptureData}
      (undecided : event.source.undecided? delivery = some capture) :
      deliveredCapture delivery = .ok capture := by
    unfold undecided? at undecided
    have found := (Option.filter_eq_some_iff.1 undecided).1
    rcases decoded : deliveredCapture delivery with raised | same
    · rw [decoded] at found
      exact nomatch found
    · rw [decoded] at found
      exact congrArg Except.ok (Option.some.inj found)
  cases shape : event.input with
  | commitDelivery delivery savePolicy sessionId groupId =>
      rw [shape] at decides
      obtain ⟨capture, undecided, rfl⟩ := Option.map_eq_some_iff.1 decides
      exact delivered undecided
  | commitReplayedDelivery delivery =>
      rw [shape] at decides
      obtain ⟨capture, undecided, found⟩ := Option.bind_eq_some_iff.1 decides
      obtain ⟨context, registered, rfl⟩ := Option.map_eq_some_iff.1 found
      exact delivered undecided
  | _ =>
      rw [shape] at decides
      exact nomatch decides

/-- A decision that is not pruned keeps its session. -/
theorem Logs.retained
    {store next : CaptureStore}
    {new : Option NewDecision}
    (logs : Logs store next new)
    {old row : ResolutionTombstone}
    (oldMember : old ∈ store.tombstones.rows)
    (rowMember : row ∈ next.tombstones.rows)
    (same : row.identity = old.identity) :
    row.sessionId = old.sessionId := by
  have own :
      ∀ first ∈ store.tombstones.rows, Reclassified first row →
        row.sessionId = old.sessionId := by
    intro first firstMember reclassified
    have selected :=
      store.tombstones.selectKey_eq_some.2
        ⟨firstMember, reclassified.identity.symm.trans same⟩
    have selectedOld :=
      store.tombstones.selectKey_eq_some.2 ⟨oldMember, rfl⟩
    obtain rfl := Option.some.inj (selected.symm.trans selectedOld)
    exact reclassified.sessionId
  cases logs with
  | unchanged reclassifies =>
      obtain ⟨first, firstMember, reclassified⟩ :=
        reclassifies.known row rowMember
      exact own first firstMember reclassified
  | decided decision decides =>
      rcases decides.known row rowMember with
        ⟨first, firstMember, reclassified⟩ | record
      · exact own first firstMember reclassified
      · obtain ⟨_, rfl⟩ := record
        exact absurd same.symm (decides.undecided old oldMember)

end Usac.Host.CaptureStore
