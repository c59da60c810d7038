import Usac.Host.StoreEffect
import Usac.Library.Machine

namespace Usac.Host

open Library

/-!
# Runs of the capture store

Every public operation of the store is one transaction, so whatever the threads
and the processes of the core do, the database sees some sequence of them.
`reconcile_interrupted_sessions` is one transaction for each session it closes.
-/

/-- One transaction on the store. -/
inductive Transaction where
  | createGroup (groupId : GroupId)
  | registerDeliveryPolicy
      (device : DeviceBoot)
      (sessionId : Option SessionId)
      (savePolicy : SavePolicy)
      (groupId : Option GroupId)
  | unregisterDeliveryPolicy
      (device : DeviceBoot)
      (sessionId : Option SessionId)
  | saveConfigurationContext
      (capture : CaptureData)
      (context : ConfigurationContext)
  | saveSessionSummary (summary : SessionSummary)
  | commitDelivery
      (delivery : BridgeCaptureDelivery)
      (savePolicy : SavePolicy)
      (sessionId : Option SessionId)
      (groupId : Option GroupId)
  | commitReplayedDelivery (delivery : BridgeCaptureDelivery)
  | finalizeLatestCapture (sessionId : SessionId)
  | finalizeSessionSummary (summary : SessionSummary)
  | reconcileInterruptedSession (summary : SessionSummary)
  | assignCaptureGroup
      (captureIds : List (Bytes 16))
      (groupId : Option GroupId)

namespace Transaction

/-- The store afterwards, with the result of a commit. -/
def perform (store : CaptureStore) :
    Transaction → Except Raised (CaptureStore × Option CoreCommitResult)
  | createGroup groupId => .ok (store.createGroup groupId, none)
  | registerDeliveryPolicy device sessionId savePolicy groupId => do
      let next ←
        store.registerDeliveryPolicy device sessionId savePolicy groupId
      pure (next, none)
  | unregisterDeliveryPolicy device sessionId =>
      .ok (store.unregisterDeliveryPolicy device sessionId, none)
  | saveConfigurationContext capture context =>
      .ok (store.saveConfigurationContext capture context, none)
  | saveSessionSummary summary => .ok (store.saveSessionSummary summary, none)
  | commitDelivery delivery savePolicy sessionId groupId => do
      let (next, result) ←
        store.commitDelivery delivery savePolicy sessionId groupId
      pure (next, some result)
  | commitReplayedDelivery delivery => do
      let (next, result) ← store.commitReplayedDelivery delivery
      pure (next, some result)
  | finalizeLatestCapture sessionId => do
      let next ← store.finalizeLatestCapture sessionId
      pure (next, none)
  | finalizeSessionSummary summary => do
      let next ← store.finalizeSessionSummary summary
      pure (next, none)
  | reconcileInterruptedSession summary => do
      let next ← store.reconcileInterruptedSession summary
      pure (next, none)
  | assignCaptureGroup captureIds groupId => do
      let next ← store.assignCaptureGroup captureIds groupId
      pure (next, none)

/-- Whether a transaction only prepares decisions. -/
def isPreparation : Transaction → Bool
  | createGroup _ => true
  | registerDeliveryPolicy _ _ _ _ => true
  | unregisterDeliveryPolicy _ _ => true
  | saveConfigurationContext _ _ => true
  | _ => false

/-- The summary with which a transaction closes a session. -/
def closing? : Transaction → Option SessionSummary
  | finalizeSessionSummary summary => some summary
  | reconcileInterruptedSession summary =>
      some { summary with state := .interrupted }
  | _ => none

end Transaction

namespace CaptureStore

/-- The store as a machine. A transaction that raises changes nothing. -/
def machine :
    Machine CaptureStore Transaction
      (Except Raised (Option CoreCommitResult)) where
  step store transaction :=
    match transaction.perform store with
    | .ok (next, result) => (next, .ok result)
    | .error raised => (store, .error raised)

/-- Everything that records what has been decided is left alone. -/
structure Prepares (store next : CaptureStore) : Prop where
  tombstones : next.tombstones = store.tombstones
  captures : next.captures = store.captures
  captureEvents : next.captureEvents = store.captureEvents
  lastTombstoneId : next.lastTombstoneId = store.lastTombstoneId
  lastCaptureRowId : next.lastCaptureRowId = store.lastCaptureRowId
  latest : next.latest = store.latest
  sessions : next.sessions = store.sessions
  stats : next.stats = store.stats

/-- Archived captures change their group only. -/
structure Regroups (change : ArchivedCapture → ArchivedCapture) : Prop where
  rowId : ∀ row, (change row).rowId = row.rowId
  identity : ∀ row, (change row).identity = row.identity
  innerFrameCrc32 : ∀ row, (change row).innerFrameCrc32 = row.innerFrameCrc32
  wireFrame : ∀ row, (change row).wireFrame = row.wireFrame
  columns : ∀ row, (change row).columns = row.columns
  sessionId : ∀ row, (change row).sessionId = row.sessionId

/-- What a transaction that succeeds does. -/
inductive Performs (store : CaptureStore) :
    Transaction → CaptureStore → Option CoreCommitResult → Prop where
  | prepares
      {transaction : Transaction}
      {next : CaptureStore}
      (preparation : transaction.isPreparation = true)
      (prepares : Prepares store next)
      (contexts :
        ∀ row ∈ next.contexts.rows, row ∈ store.contexts.rows ∨
          ∀ groupId ∈ row.groupId, groupId ∈ store.groups)
      (groups : ∀ groupId ∈ store.groups, groupId ∈ next.groups) :
      Performs store transaction next none
  | saves (summary : SessionSummary) :
      Performs store (.saveSessionSummary summary)
        (store.saveSessionSummary summary) none
  | commits
      {delivery : BridgeCaptureDelivery}
      {savePolicy : SavePolicy}
      {sessionId : Option SessionId}
      {groupId : Option GroupId}
      {next : CaptureStore}
      {result : CoreCommitResult}
      (capture : CaptureData)
      (delivered : deliveredCapture delivery = .ok capture)
      (commits :
        Commits store delivery capture savePolicy sessionId groupId next
          result) :
      Performs store (.commitDelivery delivery savePolicy sessionId groupId)
        next (some result)
  | replays
      {delivery : BridgeCaptureDelivery}
      {next : CaptureStore}
      {result : CoreCommitResult}
      (capture : CaptureData)
      (delivered : deliveredCapture delivery = .ok capture)
      (replays : Replays store delivery capture next result) :
      Performs store (.commitReplayedDelivery delivery) next (some result)
  | moves
      {sessionId : SessionId}
      {next : CaptureStore}
      (moves : Moves store sessionId next) :
      Performs store (.finalizeLatestCapture sessionId) next none
  | finalizes
      {transaction : Transaction}
      {next : CaptureStore}
      (summary : SessionSummary)
      (closing : transaction.closing? = some summary)
      (terminal : summary.state.isTerminal = true)
      (finalizes : Finalizes store summary summary.savePolicy next) :
      Performs store transaction next none
  | regroups
      {captureIds : List (Bytes 16)}
      {groupId : Option GroupId}
      (change : ArchivedCapture → ArchivedCapture)
      (regroups : Regroups change) :
      Performs store (.assignCaptureGroup captureIds groupId)
        { store with
          captures :=
            store.captures.modify change regroups.rowId regroups.identity }
        none

/-- Every transaction that succeeds does one of these. -/
theorem perform_performs
    {store next : CaptureStore}
    {transaction : Transaction}
    {result : Option CoreCommitResult}
    (performed : transaction.perform store = .ok (next, result)) :
    Performs store transaction next result := by
  cases transaction with
  | createGroup groupId =>
      obtain ⟨rfl, rfl⟩ := Prod.mk.inj (Except.ok.inj performed)
      exact .prepares rfl ⟨rfl, rfl, rfl, rfl, rfl, rfl, rfl, rfl⟩
        (fun _ => .inl) fun _ => List.mem_append_left _
  | registerDeliveryPolicy device sessionId savePolicy groupId =>
      obtain ⟨registered, registers, final⟩ := bind_eq_ok.1 performed
      obtain ⟨rfl, rfl⟩ := Prod.mk.inj (Except.ok.inj final)
      have rows :=
        fun row (member : row ∈ registered.contexts.rows) =>
          mem_registered registers member
      obtain ⟨⟨⟩, validated, done⟩ := bind_eq_ok.1 registers
      obtain rfl := Except.ok.inj done
      refine .prepares rfl ⟨rfl, rfl, rfl, rfl, rfl, rfl, rfl, rfl⟩ ?_
        fun _ => id
      intro row member
      rcases rows row member with ⟨old, -⟩ | ⟨rowId, rfl⟩
      · exact .inl old
      · exact .inr (validateGroupTarget_eq_ok.1 validated)
  | unregisterDeliveryPolicy device sessionId =>
      obtain ⟨rfl, rfl⟩ := Prod.mk.inj (Except.ok.inj performed)
      exact .prepares rfl ⟨rfl, rfl, rfl, rfl, rfl, rfl, rfl, rfl⟩
        (fun row member => .inl (Table.mem_delete _ |>.1 member).1) fun _ => id
  | saveConfigurationContext capture context =>
      obtain ⟨rfl, rfl⟩ := Prod.mk.inj (Except.ok.inj performed)
      exact .prepares rfl ⟨rfl, rfl, rfl, rfl, rfl, rfl, rfl, rfl⟩
        (fun _ => .inl) fun _ => id
  | saveSessionSummary summary =>
      obtain ⟨rfl, rfl⟩ := Prod.mk.inj (Except.ok.inj performed)
      exact .saves summary
  | commitDelivery delivery savePolicy sessionId groupId =>
      obtain ⟨⟨committed, _⟩, commits, final⟩ := bind_eq_ok.1 performed
      obtain ⟨rfl, rfl⟩ := Prod.mk.inj (Except.ok.inj final)
      obtain ⟨capture, delivered, done⟩ := commitDelivery_commits commits
      exact .commits capture delivered done
  | commitReplayedDelivery delivery =>
      obtain ⟨⟨committed, _⟩, commits, final⟩ := bind_eq_ok.1 performed
      obtain ⟨rfl, rfl⟩ := Prod.mk.inj (Except.ok.inj final)
      obtain ⟨capture, delivered, done⟩ :=
        commitReplayedDelivery_replays commits
      exact .replays capture delivered done
  | finalizeLatestCapture sessionId =>
      obtain ⟨moved, moves, final⟩ := bind_eq_ok.1 performed
      obtain ⟨rfl, rfl⟩ := Prod.mk.inj (Except.ok.inj final)
      exact .moves (finalizeLatestCapture_moves moves)
  | finalizeSessionSummary summary =>
      obtain ⟨finalized, finalizes, final⟩ := bind_eq_ok.1 performed
      obtain ⟨rfl, rfl⟩ := Prod.mk.inj (Except.ok.inj final)
      obtain ⟨terminal, done⟩ := finalizeSessionSummary_finalizes finalizes
      exact .finalizes summary rfl terminal done
  | reconcileInterruptedSession summary =>
      obtain ⟨finalized, finalizes, final⟩ := bind_eq_ok.1 performed
      obtain ⟨rfl, rfl⟩ := Prod.mk.inj (Except.ok.inj final)
      obtain ⟨terminal, done⟩ := finalizeSessionSummary_finalizes finalizes
      exact .finalizes _ rfl terminal done
  | assignCaptureGroup captureIds groupId =>
      obtain ⟨assigned, assigns, final⟩ := bind_eq_ok.1 performed
      obtain ⟨rfl, rfl⟩ := Prod.mk.inj (Except.ok.inj final)
      obtain ⟨⟨⟩, -, checked⟩ := bind_eq_ok.1 assigns
      obtain ⟨⟨⟩, -, done⟩ := bind_eq_ok.1 checked
      obtain rfl := Except.ok.inj done
      refine .regroups _ ⟨?_, ?_, ?_, ?_, ?_, ?_⟩ <;> intro row <;> split_ifs <;>
        rfl

/-- A step performs its transaction, or raises and changes nothing. -/
theorem step_cases (store : CaptureStore) (transaction : Transaction) :
    (∃ raised, (machine.step store transaction) = (store, .error raised)) ∨
      ∃ next result, machine.step store transaction = (next, .ok result) ∧
        Performs store transaction next result := by
  rcases performed : transaction.perform store with raised | ⟨next, result⟩
  · exact .inl ⟨raised, by simp only [machine, performed]⟩
  · exact .inr ⟨next, result, by simp only [machine, performed],
      perform_performs performed⟩

/-- What every step that performs its transaction keeps, every step keeps. -/
theorem step_keeps
    {store : CaptureStore}
    {holds : CaptureStore → Prop}
    (transaction : Transaction)
    (start : holds store)
    (kept :
      ∀ next result, Performs store transaction next result → holds next) :
    holds (machine.step store transaction).1 := by
  rcases step_cases store transaction with
    ⟨raised, failed⟩ | ⟨next, result, done, performs⟩
  · rw [failed]
    exact start
  · rw [done]
    exact kept next result performs

/-- Every session is stored under its id. -/
def SessionsKeyed (store : CaptureStore) : Prop :=
  ∀ session summary,
    store.sessions session = some summary → summary.sessionId = session

/-- Saving a summary under its id keeps the sessions keyed. -/
theorem SessionsKeyed.update
    {store next : CaptureStore}
    (keyed : store.SessionsKeyed)
    {saved : SessionSummary}
    {session : SessionId}
    (named : saved.sessionId = session)
    (sessions :
      next.sessions = Function.update store.sessions session (some saved)) :
    next.SessionsKeyed := by
  intro other summary found
  rw [sessions] at found
  by_cases same : other = session
  · rw [same, Function.update_self] at found
    obtain rfl := Option.some.inj found
    exact named.trans same.symm
  · rw [Function.update_of_ne same] at found
    exact keyed other summary found

/-- A transaction keeps the sessions keyed. -/
theorem SessionsKeyed.performs
    {store next : CaptureStore}
    {transaction : Transaction}
    {result : Option CoreCommitResult}
    (keyed : store.SessionsKeyed)
    (performs : Performs store transaction next result) :
    next.SessionsKeyed := by
  cases performs with
  | prepares _ prepares _ _ =>
      rw [SessionsKeyed, prepares.sessions]
      exact keyed
  | saves summary => exact keyed.update rfl rfl
  | commits capture delivered commits =>
      rw [SessionsKeyed, commits.sessions]
      exact keyed
  | replays capture delivered replays =>
      cases replays with
      | repeated => exact keyed
      | direct _ _ _ _ commits =>
          rw [SessionsKeyed, commits.sessions]
          exact keyed
      | late _ _ _ _ _ commits =>
          obtain ⟨saved, named, -, sessions⟩ := commits.sessions
          exact keyed.update named sessions
  | moves moves =>
      rw [SessionsKeyed, moves.sessions]
      exact keyed
  | finalizes summary _ _ finalizes =>
      obtain ⟨saved, named, -, sessions⟩ := finalizes.sessions
      exact keyed.update named sessions
  | regroups => exact keyed

/-- The session of the examples. -/
def oneSession : SessionId := (Bytes.zero 16).set 0 1

/-- A capture of one sample by a numbered device. -/
def numberedCapture (number : UInt8) : CaptureData :=
  CaptureData.readFields (CaptureData.numberedPayload number)

/-- The delivery of a capture of one sample by a numbered device. -/
def numberedDelivery (number : UInt8) : BridgeCaptureDelivery where
  connectionId := 1
  spoolRecordId := number.toUInt64
  sourceConnectionId := 1
  sourceFirstStreamOffset := 0
  sourceLastStreamOffset := 209
  storedUtcNs := 0
  innerFrame := CaptureData.numberedFrame number

/-- The summary of a session in a state. -/
def summaryOf
    (sessionId : SessionId)
    (state : SessionState)
    (savePolicy : SavePolicy) :
    SessionSummary where
  sessionId := sessionId
  state := state
  savePolicy := savePolicy
  acquiredCount := 0
  savedCount := 0
  discardedByPolicyCount := 0
  lastCaptureId := none
  lastSavedCaptureId := none

end CaptureStore

end Usac.Host
