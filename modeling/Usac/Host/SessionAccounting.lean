import Usac.Host.DecisionHistory
import Mathlib.Data.Finset.Card

namespace Usac.Host.CaptureStore

open Library

/-!
# Session accounting

The summary of a session counts its decisions in one table and its captures in
another. A session never has more captures than decisions, since each capture
it keeps, in the archive or as the rolling one, has been decided for it.
-/

/-- The number of archived captures of a session. -/
def archivedCount (store : CaptureStore) (sessionId : SessionId) : Nat :=
  store.captures.rows.countP (·.sessionId = some sessionId)

/-- The session whose summary a recorded transaction has written from the
tables. -/
def accountedSession? (event : StoreEvent) : Option SessionId :=
  match event.output, event.input with
  | .ok _, .finalizeSessionSummary summary => some summary.sessionId
  | .ok _, .reconcileInterruptedSession summary => some summary.sessionId
  | .ok _, .commitReplayedDelivery _ =>
      (event.source.decides? event.input).bind fun decision =>
        if (event.source.closedSession? decision.sessionId).isSome then
          decision.sessionId
        else
          none
  | _, _ => none

/-- No decision of a session has been pruned. -/
def NeverPruned (history : List StoreEvent) (sessionId : SessionId) : Prop :=
  ∀ event ∈ history, ∀ old ∈ event.source.tombstones.rows,
    old.sessionId = some sessionId →
      ∃ row ∈ event.target.tombstones.rows, row.identity = old.identity

/-- The summary of a session adds up. The count of the discarded captures is a
difference that is cut off at zero, so that it is not cut off is a part of
it. -/
structure AddsUp
    (history : List StoreEvent)
    (store : CaptureStore)
    (sessionId : SessionId)
    (summary : SessionSummary) :
    Prop where
  saved : summary.savedCount = store.archivedCount sessionId
  sum :
    summary.acquiredCount =
      summary.savedCount + summary.discardedByPolicyCount
  uncut : summary.savedCount ≤ summary.acquiredCount
  acquired :
    NeverPruned history sessionId →
      summary.acquiredCount =
        ((newlyDecided history sessionId).map fun decision =>
          decision.capture.identity).toFinset.card

/-- Whatever transaction writes a summary from the tables, it adds up. -/
def AccountsForSession (earlier : List StoreEvent) (event : StoreEvent) : Prop :=
  ∀ sessionId ∈ accountedSession? event,
    ∃ summary ∈ event.target.sessions sessionId,
      AddsUp (earlier ++ [event]) event.target sessionId summary

/-- A commit names its session, and the context of a capture that is replayed
names one. -/
def NamesSession (store : CaptureStore) : Transaction → Prop
  | .commitDelivery _ _ sessionId _ => sessionId.isSome = true
  | .commitReplayedDelivery delivery =>
      ∀ decision ∈ store.decides? (.commitReplayedDelivery delivery),
        decision.sessionId.isSome = true
  | _ => True

instance (store : CaptureStore) :
    ∀ transaction, Decidable (store.NamesSession transaction)
  | .commitDelivery _ _ _ _ => inferInstanceAs (Decidable (_ = true))
  | .commitReplayedDelivery _ =>
      inferInstanceAs (Decidable (∀ decision ∈ _, _ = true))
  | .createGroup _ | .registerDeliveryPolicy _ _ _ _
  | .unregisterDeliveryPolicy _ _ | .saveConfigurationContext _ _
  | .saveSessionSummary _ | .finalizeLatestCapture _
  | .finalizeSessionSummary _ | .reconcileInterruptedSession _
  | .assignCaptureGroup _ _ => .isTrue trivial

/-! ## Captures that a session keeps -/

/-- The number of captures a session keeps, in the archive or as the rolling
one. -/
def keptCount (store : CaptureStore) (sessionId : SessionId) : Nat :=
  store.archivedCount sessionId +
    if (store.latest (some sessionId)).isSome then 1 else 0

section Kept

variable {store next : CaptureStore} {delivery : BridgeCaptureDelivery}
  {capture : CaptureData} {savePolicy : SavePolicy} {session : SessionId}
  {groupId : Option GroupId}

/-- One more capture for a session. -/
def countFor (session other : SessionId) : Nat :=
  if other = session then 1 else 0

/-- The number of decisions a transaction makes for a session. -/
def decidedCount
    (new : Option NewDecision)
    (sessionId : SessionId) :
    Nat :=
  (new.toList.filter fun decision =>
    decision.sessionId = some sessionId).length

/-- A decision counts for its session. -/
theorem decidedCount_some
    (delivery : BridgeCaptureDelivery)
    (capture : CaptureData)
    (session other : SessionId) :
    decidedCount (some ⟨delivery, capture, some session⟩) other =
      countFor session other := by
  unfold decidedCount countFor
  by_cases same : other = session
  · simp [same]
  · simp [same, Ne.symm same]

/-- The same archive counts the same. -/
theorem archivedCount_of_captures
    (captures : next.captures = store.captures)
    (other : SessionId) :
    next.archivedCount other = store.archivedCount other := by
  unfold archivedCount
  rw [captures]

/-- The same archive and the same rolling captures count the same. -/
theorem keptCount_of_same
    (captures : next.captures = store.captures)
    (latest : next.latest = store.latest)
    (other : SessionId) :
    next.keptCount other = store.keptCount other := by
  unfold keptCount
  rw [archivedCount_of_captures captures, latest]

/-- Archiving adds at most one capture to its session. -/
theorem Archives.archivedCount_le
    {inserted : Bool}
    (archives :
      Archives store delivery capture (some session) groupId next inserted)
    (other : SessionId) :
    next.archivedCount other ≤
      store.archivedCount other + countFor session other := by
  cases archives with
  | kept => exact Nat.le_add_right _ _
  | added captures fresh rows =>
      unfold archivedCount countFor
      rw [rows, List.countP_append, List.countP_singleton]
      apply Nat.add_le_add_left
      by_cases same : other = session
      · simp [archiveRow, same]
      · simp [archiveRow, Ne.symm same]

/-- Archiving adds at most one capture to what its session keeps. -/
theorem Archives.keptCount_le
    {inserted : Bool}
    (archives :
      Archives store delivery capture (some session) groupId next inserted)
    (other : SessionId) :
    next.keptCount other ≤ store.keptCount other + countFor session other := by
  have count := archives.archivedCount_le other
  unfold keptCount
  rw [archives.frame.latest]
  omega

/-- Replacing a rolling capture adds at most one to what its session keeps. -/
theorem keptCount_le_of_rolling
    (rolling : Option RollingCapture)
    (captures : next.captures = store.captures)
    (latest :
      next.latest = Function.update store.latest (some session) rolling)
    (other : SessionId) :
    next.keptCount other ≤ store.keptCount other + countFor session other := by
  unfold keptCount countFor
  rw [archivedCount_of_captures captures, latest]
  by_cases same : other = session
  · rw [if_pos same]
    split_ifs <;> omega
  · have elsewhere : some other ≠ some session :=
      fun named => same (Option.some.inj named)
    rw [Function.update_of_ne elsewhere]
    exact Nat.le_add_right _ _

/-- A policy adds at most one capture to what its session keeps. -/
theorem Keeps.keptCount_le
    {inserted : Bool}
    {resolution : CaptureResolution}
    (keeps :
      Keeps store delivery capture (some session) groupId savePolicy next
        inserted resolution)
    (other : SessionId) :
    next.keptCount other ≤ store.keptCount other + countFor session other := by
  cases keeps with
  | archived archives => exact archives.keptCount_le other
  | rolling =>
      refine keptCount_le_of_rolling (some ⟨delivery, groupId⟩) ?_ ?_ other
      · rfl
      · rfl
  | discarded => exact Nat.le_add_right _ _

/-- The rolling capture of a session moves to the archive. -/
theorem Moves.keptCount_le
    (moves : Moves store session next)
    (other : SessionId) :
    next.keptCount other ≤ store.keptCount other := by
  cases moves with
  | unmoved => exact le_refl _
  | @moved rolling held _ _ archived _ archives _ moved =>
      have count := archives.archivedCount_le other
      unfold keptCount
      rw [archivedCount_of_captures moved.captures, moved.latest]
      unfold countFor at count
      by_cases own : other = session
      · rw [own] at count ⊢
        rw [Function.update_self, held]
        rw [if_pos rfl] at count
        simpa using count
      · have elsewhere : some other ≠ some session :=
          fun named => own (Option.some.inj named)
        rw [Function.update_of_ne elsewhere, archives.frame.latest]
        rw [if_neg own] at count
        omega

/-- The end of a session adds nothing to what the sessions keep. -/
theorem Finalizes.keptCount_le
    {summary : SessionSummary}
    (finalizes : Finalizes store summary savePolicy next)
    (other : SessionId) :
    next.keptCount other ≤ store.keptCount other := by
  cases finalizes with
  | @finalized moved moves stays =>
      have saved :
          (moved.saveSessionSummary
              (moved.savedBy (store.acquiredBy summary))).keptCount other =
            moved.keptCount other :=
        keptCount_of_same rfl rfl other
      rw [saved]
      by_cases last : savePolicy = .saveLast
      · exact (moves last).keptCount_le other
      · rw [stays last]

/-- Superseding captures adds nothing to what the sessions keep. -/
theorem keptCount_supersede_le
    (sessionId : Option SessionId)
    (other : SessionId) :
    (store.supersede savePolicy sessionId).keptCount other ≤
      store.keptCount other := by
  unfold supersede
  split_ifs
  · exact Nat.add_le_add_right
      (List.Sublist.countP_le List.filter_sublist) _
  · exact le_refl _

/-- A late policy adds at most one capture to what its session keeps. -/
theorem KeepsLate.keptCount_le
    {resolution : CaptureResolution}
    (keeps :
      KeepsLate store delivery capture (some session) groupId savePolicy next
        resolution)
    (other : SessionId) :
    next.keptCount other ≤ store.keptCount other + countFor session other := by
  cases keeps with
  | archived _ archives => exact archives.keptCount_le other
  | discarded => exact Nat.le_add_right _ _

/-- A recorded decision adds nothing to what the sessions keep. -/
theorem Records.keptCount_eq
    {resolution : CaptureResolution}
    {sessionId : Option SessionId}
    (records : Records store delivery capture resolution sessionId next)
    (other : SessionId) :
    next.keptCount other = store.keptCount other :=
  keptCount_of_same records.frame.captures records.frame.latest other

/-- `commit_delivery` keeps at most one capture more, for the session of its
decision. -/
theorem Commits.keptCount_le
    {result : CoreCommitResult}
    (commits :
      Commits store delivery capture savePolicy (some session) groupId next
        result)
    (delivered : deliveredCapture delivery = .ok capture)
    (other : SessionId) :
    next.keptCount other ≤
      store.keptCount other +
        decidedCount
          ((store.undecided? delivery).map fun capture =>
            ⟨delivery, capture, some session⟩) other := by
  cases commits with
  | repeated => exact Nat.le_add_right _ _
  | @decided undecided _ kept recorded _ _ keeps records configurations =>
      have dropped :
          keptCount { recorded with configurations := configurations } other =
            recorded.keptCount other :=
        keptCount_of_same rfl rfl other
      rw [dropped, records.keptCount_eq other,
        undecided?_of_none delivered undecided, Option.map_some,
        decidedCount_some]
      exact keeps.keptCount_le other

/-- `_commit_terminal_replay` keeps at most one capture more. -/
theorem CommitsLate.keptCount_le
    {summary : SessionSummary}
    {result : CoreCommitResult}
    (commits :
      CommitsLate store delivery capture savePolicy (some session) groupId
        summary next result)
    (other : SessionId) :
    next.keptCount other ≤ store.keptCount other + countFor session other := by
  cases commits with
  | @decided kept recorded _ _ keeps records configurations finalizes =>
      have dropped :
          keptCount { recorded with configurations := configurations } other =
            recorded.keptCount other :=
        keptCount_of_same rfl rfl other
      calc next.keptCount other
        _ ≤ keptCount { recorded with configurations := configurations }
              other := finalizes.keptCount_le other
        _ = kept.keptCount other := dropped.trans (records.keptCount_eq other)
        _ ≤ (store.supersede savePolicy (some session)).keptCount other +
              countFor session other := keeps.keptCount_le other
        _ ≤ store.keptCount other + countFor session other :=
            Nat.add_le_add_right (keptCount_supersede_le _ other) _

/-- A transaction whose commit names its session keeps at most one capture
more for each decision it makes. -/
theorem Performs.keptCount_le
    {transaction : Transaction}
    {result : Option CoreCommitResult}
    (performs : Performs store transaction next result)
    (names : store.NamesSession transaction)
    (other : SessionId) :
    next.keptCount other ≤
      store.keptCount other +
        decidedCount (store.decides? transaction) other := by
  cases performs with
  | prepares _ prepares _ _ =>
      rw [keptCount_of_same prepares.captures prepares.latest]
      exact Nat.le_add_right _ _
  | saves => exact Nat.le_add_right _ _
  | @commits delivery _ sessionId _ _ _ capture delivered commits =>
      obtain ⟨session, rfl⟩ := Option.isSome_iff_exists.1 names
      exact commits.keptCount_le delivered other
  | @replays delivery _ _ capture delivered replays =>
      cases replays with
      | repeated => exact Nat.le_add_right _ _
      | direct undecided context registered isOpen commits =>
          have decides :
              store.decides? (.commitReplayedDelivery delivery) =
                (store.undecided? delivery).map fun capture =>
                  ⟨delivery, capture, context.sessionId⟩ := by
            simp only [decides?, undecided?_of_none delivered undecided,
              Option.bind_some, registered, Option.map_some]
          rw [decides]
          rw [NamesSession, decides, undecided?_of_none delivered undecided]
            at names
          obtain ⟨session, named⟩ :=
            Option.isSome_iff_exists.1 (names _ rfl)
          dsimp only at named
          rw [named] at commits ⊢
          exact commits.keptCount_le delivered other
      | late undecided context registered summary closed commits =>
          obtain ⟨session, named, -⟩ := closedSession?_eq_some.1 closed
          have decides :
              store.decides? (.commitReplayedDelivery delivery) =
                some ⟨delivery, capture, some session⟩ := by
            simp only [decides?, undecided?_of_none delivered undecided,
              Option.bind_some, registered, Option.map_some, named]
          rw [decides, decidedCount_some]
          rw [named] at commits
          exact commits.keptCount_le other
  | moves moves =>
      exact (moves.keptCount_le other).trans (Nat.le_add_right _ _)
  | finalizes _ _ _ finalizes =>
      exact (finalizes.keptCount_le other).trans (Nat.le_add_right _ _)
  | regroups change regroups =>
      have same :
          keptCount
              { store with
                captures :=
                  store.captures.modify change regroups.rowId
                    regroups.identity } other =
            store.keptCount other := by
        simp only [keptCount, archivedCount, Table.modify, List.countP_map,
          Function.comp_def, regroups.sessionId]
      rw [same]
      exact Nat.le_add_right _ _

end Kept

/-! ## Decisions that are counted -/

section Counted

variable {store next : CaptureStore} {new : Option NewDecision}

/-- A session with a decision has statistics. -/
def Logged (store : CaptureStore) : Prop :=
  ∀ row ∈ store.tombstones.rows, ∀ sessionId,
    row.sessionId = some sessionId →
      (store.stats (some sessionId)).isSome = true

/-- The statistics count the decisions. -/
theorem Logs.acquiredCount
    (logs : Logs store next new)
    (sessionId : SessionId) :
    next.acquiredCount (some sessionId) =
      store.acquiredCount (some sessionId) + decidedCount new sessionId := by
  cases logs with
  | unchanged reclassifies =>
      unfold CaptureStore.acquiredCount
      rw [reclassifies.stats]
      rfl
  | decided decision decides =>
      obtain ⟨delivery, capture, named⟩ := decision
      unfold CaptureStore.acquiredCount
      rw [decides.stats]
      cases named with
      | none => rfl
      | some session =>
          rw [decidedCount_some]
          unfold counted countFor
          simp only [Option.isSome_some, if_true]
          by_cases same : sessionId = session
          · rw [if_pos same, same, Function.update_self]
            rfl
          · have elsewhere : some sessionId ≠ some session :=
              fun other => same (Option.some.inj other)
            rw [if_neg same, Function.update_of_ne elsewhere]
            rfl

/-- A session keeps its statistics. -/
theorem Logs.stats_isSome
    (logs : Logs store next new)
    {sessionId : SessionId}
    (counted : (store.stats (some sessionId)).isSome = true) :
    (next.stats (some sessionId)).isSome = true := by
  cases logs with
  | unchanged reclassifies =>
      rw [reclassifies.stats]
      exact counted
  | decided decision decides =>
      rw [decides.stats]
      unfold CaptureStore.counted
      split_ifs
      · by_cases same : some sessionId = decision.sessionId
        · rw [same, Function.update_self]
          rfl
        · rw [Function.update_of_ne same]
          exact counted
      · exact counted

/-- A transaction keeps the statistics of every decision. -/
theorem Logged.logs
    (logged : store.Logged)
    (logs : Logs store next new) :
    next.Logged := by
  intro row member sessionId named
  have before :
      ∀ old ∈ store.tombstones.rows, Reclassified old row →
        (next.stats (some sessionId)).isSome = true := by
    intro old oldMember same
    rw [same.sessionId] at named
    exact logs.stats_isSome (logged old oldMember sessionId named)
  cases logs with
  | unchanged reclassifies =>
      obtain ⟨old, oldMember, same⟩ := reclassifies.known row member
      exact before old oldMember same
  | decided decision decides =>
      rcases decides.known row member with ⟨old, oldMember, same⟩ | record
      · exact before old oldMember same
      · obtain ⟨_, rfl⟩ := record
        change decision.sessionId = some sessionId at named
        rw [decides.stats]
        unfold counted
        rw [named]
        simp only [Option.isSome_some, if_true, Function.update_self]

/-- With statistics for every decision, the summary counts from them. -/
theorem Logged.acquiredBy
    (logged : store.Logged)
    (summary : SessionSummary) :
    (store.acquiredBy summary).acquiredCount =
      store.acquiredCount (some summary.sessionId) := by
  unfold CaptureStore.acquiredBy CaptureStore.acquiredCount
  dsimp only
  rcases counted : store.stats (some summary.sessionId) with _ | stats
  · have nothing :
        (store.tombstones.rows.filter fun row =>
          row.sessionId = some summary.sessionId) = [] := by
      rw [List.filter_eq_nil_iff]
      intro row member named
      have present :=
        logged row member summary.sessionId (of_decide_eq_true named)
      rw [counted] at present
      exact nomatch present
    rw [nothing]
    rfl
  · rfl

/-- The end of a session writes a summary from the tables. -/
theorem Finalizes.accounted
    {summary : SessionSummary}
    {savePolicy : SavePolicy}
    (finalizes : Finalizes store summary savePolicy next)
    (logged : next.Logged) :
    ∃ saved ∈ next.sessions summary.sessionId,
      saved.savedCount = next.archivedCount summary.sessionId ∧
        saved.acquiredCount = next.acquiredCount (some summary.sessionId) ∧
          saved.discardedByPolicyCount =
            saved.acquiredCount - saved.savedCount := by
  have reclassifies := finalizes.reclassifies
  have loggedBefore : store.Logged := by
    intro old member sessionId named
    obtain ⟨row, rowMember, same⟩ := reclassifies.kept old member
    rw [← reclassifies.stats]
    exact logged row rowMember sessionId (same.sessionId.trans named)
  have counts :
      next.acquiredCount (some summary.sessionId) =
        store.acquiredCount (some summary.sessionId) := by
    unfold CaptureStore.acquiredCount
    rw [reclassifies.stats]
  rw [counts, ← loggedBefore.acquiredBy]
  cases finalizes with
  | @finalized moved moves stays =>
      refine ⟨moved.savedBy (store.acquiredBy summary), ?_, ?_, rfl, ?_⟩
      · exact Function.update_self _ _ _
      · exact (List.countP_eq_length_filter).symm
      · rfl

end Counted

/-! ## What a run keeps -/

/-- What the accounting of the sessions rests on. -/
structure Accounted
    (history : List StoreEvent)
    (store : CaptureStore) :
    Prop where
  numbered : store.Numbered
  keyed : store.SessionsKeyed
  logged : store.Logged
  counted :
    ∀ sessionId,
      store.acquiredCount (some sessionId) =
        (newlyDecided history sessionId).length
  kept :
    ∀ sessionId,
      store.keptCount sessionId ≤ store.acquiredCount (some sessionId)
  retained :
    ∀ sessionId, NeverPruned history sessionId →
      ∀ decision ∈ newlyDecided history sessionId,
        ∃ row ∈ store.tombstones.rows,
          row.identity = decision.capture.identity ∧
            row.sessionId = some sessionId
  distinct :
    ∀ sessionId, NeverPruned history sessionId →
      ((newlyDecided history sessionId).map fun decision =>
        decision.capture.identity).Nodup

section Step

variable {history : List StoreEvent} {store : CaptureStore}

/-- A step keeps at most one capture more for each decision it makes. -/
theorem step_keptCount_le
    {transaction : Transaction}
    (names : store.NamesSession transaction)
    (sessionId : SessionId) :
    (machine.event store transaction).target.keptCount sessionId ≤
      store.keptCount sessionId +
        decidedCount (newDecision? (machine.event store transaction))
          sessionId := by
  unfold newDecision? Machine.event
  rcases step_cases store transaction with
    ⟨raised, failed⟩ | ⟨next, result, done, performs⟩
  · rw [failed]
    exact Nat.le_add_right _ _
  · rw [done]
    exact performs.keptCount_le names sessionId

/-- What has not been pruned after a step was not pruned before. -/
theorem NeverPruned.before
    {event : StoreEvent}
    {sessionId : SessionId}
    (never : NeverPruned (history ++ [event]) sessionId) :
    NeverPruned history sessionId :=
  fun earlier member => never earlier (List.mem_append_left _ member)

/-- A step whose commit names its session keeps the accounting. -/
theorem Accounted.step
    (accounted : Accounted history store)
    {transaction : Transaction}
    (names : store.NamesSession transaction) :
    Accounted (history ++ [machine.event store transaction])
      (machine.event store transaction).target := by
  have logs := step_logs accounted.numbered transaction
  have decided (sessionId : SessionId) :=
    newlyDecided_concat history (machine.event store transaction) sessionId
  have retainedBefore :
      ∀ sessionId,
        NeverPruned (history ++ [machine.event store transaction]) sessionId →
        ∀ decision ∈ newlyDecided history sessionId,
          ∃ row ∈ (machine.event store transaction).target.tombstones.rows,
            row.identity = decision.capture.identity ∧
              row.sessionId = some sessionId := by
    intro sessionId never decision earlier
    obtain ⟨old, oldMember, identity, session⟩ :=
      accounted.retained sessionId never.before decision earlier
    obtain ⟨row, member, same⟩ :=
      never _ (List.mem_append_right _ (List.mem_singleton_self _)) old
        oldMember session
    exact ⟨row, member, same.trans identity,
      (logs.retained oldMember member same).trans session⟩
  refine ⟨accounted.numbered.logs logs, ?_, accounted.logged.logs logs, ?_, ?_,
    ?_, ?_⟩
  · exact step_keeps transaction accounted.keyed
      fun _ _ => accounted.keyed.performs
  · intro sessionId
    rw [logs.acquiredCount, accounted.counted, decided, List.length_append]
    rfl
  · intro sessionId
    rw [logs.acquiredCount]
    exact (step_keptCount_le names sessionId).trans
      (Nat.add_le_add_right (accounted.kept sessionId) _)
  · intro sessionId never decision member
    rw [decided] at member
    rcases List.mem_append.1 member with earlier | now
    · exact retainedBefore sessionId never decision earlier
    · obtain ⟨new, named⟩ := List.mem_filter.1 now
      have session := of_decide_eq_true named
      generalize newly : newDecision? (machine.event store transaction) =
        found at logs new
      cases logs with
      | unchanged => exact absurd new List.not_mem_nil
      | decided made decides =>
          obtain rfl := List.mem_singleton.1 new
          obtain ⟨row, rowMember, _, rfl⟩ := decides.recorded
          exact ⟨_, rowMember, rfl, session⟩
  · intro sessionId never
    rw [decided, List.map_append, List.nodup_append]
    refine ⟨accounted.distinct sessionId never.before, ?_, ?_⟩
    · generalize newDecision? (machine.event store transaction) = found
      cases found with
      | none => exact List.nodup_nil
      | some made =>
          simp only [Option.toList_some, List.filter_cons, List.filter_nil]
          split_ifs
          · exact List.nodup_singleton _
          · exact List.nodup_nil
    · rintro first firstMember second secondMember rfl
      obtain ⟨earlier, earlierMember, identity⟩ := List.mem_map.1 firstMember
      obtain ⟨now, nowMember, same⟩ := List.mem_map.1 secondMember
      obtain ⟨old, oldMember, oldIdentity, -⟩ :=
        accounted.retained sessionId never.before earlier earlierMember
      have new := (List.mem_filter.1 nowMember).1
      generalize newly : newDecision? (machine.event store transaction) =
        found at logs new
      cases logs with
      | unchanged => exact absurd new List.not_mem_nil
      | decided made decides =>
          obtain rfl := List.mem_singleton.1 new
          exact decides.undecided old oldMember
            (oldIdentity.trans (identity.trans same.symm))

/-- A summary that is written from the tables is written by the end of a
session. -/
theorem accountedSession?_finalizes
    {transaction : Transaction}
    {sessionId : SessionId}
    (keyed : store.SessionsKeyed)
    (accounts :
      accountedSession? (machine.event store transaction) = some sessionId) :
    ∃ before summary savePolicy,
      summary.sessionId = sessionId ∧
        Finalizes before summary savePolicy
          (machine.event store transaction).target := by
  unfold accountedSession? Machine.event at accounts
  unfold Machine.event
  rcases step_cases store transaction with
    ⟨raised, failed⟩ | ⟨next, result, done, performs⟩
  · rw [failed] at accounts
    exact nomatch accounts
  · rw [done] at accounts ⊢
    cases performs with
    | prepares preparation =>
        cases transaction with
        | createGroup | registerDeliveryPolicy | unregisterDeliveryPolicy
        | saveConfigurationContext => exact nomatch accounts
        | _ => exact nomatch preparation
    | saves => exact nomatch accounts
    | commits => exact nomatch accounts
    | @replays delivery _ _ capture delivered replays =>
        obtain ⟨decision, decides, session⟩ :=
          Option.bind_eq_some_iff.1 accounts
        cases replays with
        | repeated existing found =>
            rw [decides?, undecided?_of_some delivered found] at decides
            exact nomatch decides
        | direct undecided context registered isOpen commits =>
            simp only [decides?, undecided?_of_none delivered undecided,
              Option.bind_some, registered, Option.map_some,
              Option.some.injEq] at decides
            rw [← decides] at session
            simp [isOpen] at session
        | late undecided context registered summary closed commits =>
            simp only [decides?, undecided?_of_none delivered undecided,
              Option.bind_some, registered, Option.map_some,
              Option.some.injEq] at decides
            rw [← decides] at session
            simp only [closed, Option.isSome_some, if_true] at session
            obtain ⟨named, isNamed, found, -⟩ :=
              closedSession?_eq_some.1 closed
            obtain rfl := Option.some.inj (session.symm.trans isNamed)
            cases commits with
            | decided _ _ _ finalizes =>
                exact ⟨_, summary, _, keyed _ summary found, finalizes⟩
    | moves => exact nomatch accounts
    | finalizes summary closing terminal finalizes =>
        refine ⟨store, summary, summary.savePolicy, ?_, finalizes⟩
        cases transaction with
        | finalizeSessionSummary closed =>
            obtain rfl := Option.some.inj closing
            exact Option.some.inj accounts
        | reconcileInterruptedSession closed =>
            obtain rfl := Option.some.inj closing
            exact Option.some.inj accounts
        | _ => exact nomatch closing
    | regroups => exact nomatch accounts

/-- With accounted sessions, every summary that is written adds up. -/
theorem Accounted.accountsForSession
    (accounted : Accounted history store)
    {transaction : Transaction}
    (names : store.NamesSession transaction) :
    AccountsForSession history (machine.event store transaction) := by
  intro sessionId accounts
  obtain ⟨before, summary, savePolicy, rfl, finalizes⟩ :=
    accountedSession?_finalizes accounted.keyed accounts
  have after := accounted.step names
  obtain ⟨saved, found, archived, acquired, discarded⟩ :=
    finalizes.accounted after.logged
  have uncut : saved.savedCount ≤ saved.acquiredCount := by
    rw [archived, acquired]
    exact (Nat.le_add_right _ _).trans (after.kept summary.sessionId)
  refine ⟨saved, found, archived, ?_, uncut, ?_⟩
  · rw [discarded]
    exact (Nat.add_sub_cancel' uncut).symm
  · intro never
    rw [acquired, after.counted,
      List.toFinset_card_of_nodup (after.distinct _ never), List.length_map]

end Step

/-- In every run whose commits all name their session, every summary that is
written from the tables adds up. -/
theorem accountsForSession_of_namesSession
    (transactions : List Transaction)
    (names :
      EveryStep (fun _ event => event.source.NamesSession event.input)
        (machine.trace empty transactions)) :
    EveryStep AccountsForSession (machine.trace empty transactions) := by
  have initially : Accounted [] empty :=
    ⟨nofun, nofun, nofun, fun _ => rfl, fun _ => le_refl _, nofun,
      fun _ _ => List.nodup_nil⟩
  exact
    machine.everyStep_of_invariant Accounted initially
      (fun _ _ _ invariant condition => invariant.step condition)
      (fun _ _ _ invariant condition =>
        invariant.accountsForSession condition)
      transactions names

/-- A `SAVE_LAST` session is closed, and one more of its captures is
replayed. -/
def replayedLate : List Transaction :=
  [.commitDelivery (numberedDelivery 1) .saveLast (some oneSession) none,
    .finalizeSessionSummary (summaryOf oneSession .completed .saveLast),
    .registerDeliveryPolicy (numberedCapture 2).device (some oneSession)
      .saveLast none,
    .commitReplayedDelivery (numberedDelivery 2)]

set_option maxRecDepth 100000 in
/-- Both captures are decided for the session. -/
theorem accountsForSession_replayedLate :
    EveryStep AccountsForSession (machine.trace empty replayedLate) :=
  accountsForSession_of_namesSession replayedLate (by decide +kernel)

/-! ## A capture that is archived without being counted -/

/-- A direct commit names its session. -/
def DirectNamesSession : Transaction → Prop
  | .commitDelivery _ _ sessionId _ => sessionId.isSome = true
  | _ => True

/-- A capture is replayed under a context without a session, while its staged
configuration names one. -/
def stagedElsewhere : List Transaction :=
  [.registerDeliveryPolicy (numberedCapture 1).device none .saveAll none,
    .saveConfigurationContext (numberedCapture 1)
      (planContext ⟨"", "", "", ""⟩ (numberedCapture 1) oneSession),
    .commitReplayedDelivery (numberedDelivery 1)]

/-- The end of the session of the staged configuration. -/
def closesElsewhere : Transaction :=
  .finalizeSessionSummary (summaryOf oneSession .completed .saveAll)

set_option maxRecDepth 100000 in
/-- The session has one archived capture, and none that was decided for it. -/
theorem not_accountsForSession_stagedElsewhere :
    EveryStep (fun _ event => DirectNamesSession event.input)
        (machine.trace empty (stagedElsewhere ++ [closesElsewhere])) ∧
      ¬EveryStep AccountsForSession
        (machine.trace empty (stagedElsewhere ++ [closesElsewhere])) := by
  constructor
  · rw [EveryStep.forall_iff]
    intro event member
    have input := machine.input_mem_of_mem_trace member
    simp only [stagedElsewhere, closesElsewhere, List.cons_append,
      List.nil_append, List.mem_cons, List.not_mem_nil, or_false] at input
    rcases input with same | same | same | same <;> rw [same] <;> trivial
  · intro every
    rw [machine.trace_concat] at every
    have last := ((EveryStep.concat_iff _ _).1 every).2
    have accounts :
        accountedSession?
            (machine.event (machine.after empty stagedElsewhere)
              closesElsewhere) =
          some oneSession := by
      decide +kernel
    have uncounted :
        ∀ summary ∈
            (machine.event (machine.after empty stagedElsewhere)
              closesElsewhere).target.sessions oneSession,
          summary.acquiredCount ≠
            summary.savedCount + summary.discardedByPolicyCount := by
      decide +kernel
    obtain ⟨summary, found, addsUp⟩ := last oneSession accounts
    exact uncounted summary found addsUp.sum

end Usac.Host.CaptureStore
