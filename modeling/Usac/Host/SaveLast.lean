import Usac.Host.DecisionHistory

namespace Usac.Host.CaptureStore

open Library

/-!
# Sessions that save their last capture

A `SAVE_LAST` session holds its last capture in a rolling row while it is open,
and in the archive once it is closed. A capture that comes late replaces the
one in the archive.
-/

/-- Whether a recorded transaction has closed a session. -/
def closes (session : SessionId) (event : StoreEvent) : Bool :=
  match event.output with
  | .ok _ => event.input.closing?.any (·.sessionId = session)
  | .error _ => false

/-- The session has been closed. -/
def Closed (history : List StoreEvent) (session : SessionId) : Prop :=
  ∃ event ∈ history, closes session event = true

/-- The archived captures of a session. -/
def archivedOf
    (store : CaptureStore)
    (session : SessionId) :
    List ArchivedCapture :=
  store.captures.rows.filter (·.sessionId = some session)

/-- A session keeps exactly the last capture that was decided for it. -/
structure KeepsLast
    (history : List StoreEvent)
    (store : CaptureStore)
    (session : SessionId) :
    Prop where
  opened :
    ¬Closed history session →
      store.archivedOf session = [] ∧
        (store.latest (some session)).map RollingCapture.delivery =
          (newlyDecided history session).getLast?.map NewDecision.delivery
  closed :
    Closed history session →
      store.latest (some session) = none ∧
        ∀ last ∈ (newlyDecided history session).getLast?,
          ∃ row, store.archivedOf session = [row] ∧
            row.identity = last.capture.identity ∧
              row.wireFrame = last.delivery.innerFrame
  events :
    ∀ event ∈ store.captureEvents,
      ∃ row ∈ store.captures.rows, row.rowId = event.captureRowId

/-! ## The transactions of a `SAVE_LAST` session -/

/-- A decision under a session and a policy is a `SAVE_LAST` decision of the
session, or does not concern it. -/
def AgreesWithSaveLast
    (store : CaptureStore)
    (session : SessionId)
    (capture : CaptureData)
    (savePolicy : SavePolicy)
    (sessionId : Option SessionId) :
    Prop :=
  (sessionId = some session → savePolicy = .saveLast) ∧
    (sessionId = none →
      (store.configurations (.ofCapture capture)).bind
          ConfigurationContext.planSession ≠ some session)

/-- What a transaction may do for a `SAVE_LAST` session. -/
def ActsAsSaveLast
    (store : CaptureStore)
    (session : SessionId)
    (closed : Prop) :
    Transaction → Prop
  | .commitDelivery delivery savePolicy sessionId _ =>
      ∀ capture ∈ store.undecided? delivery,
        store.AgreesWithSaveLast session capture savePolicy sessionId ∧
          (sessionId = some session → ¬closed)
  | .commitReplayedDelivery delivery =>
      ∀ capture ∈ store.undecided? delivery,
        ∀ context ∈ store.context? capture.device,
          store.AgreesWithSaveLast session capture context.savePolicy
            context.sessionId
  | .saveSessionSummary summary =>
      summary.sessionId = session →
        ¬closed ∧ summary.state.isTerminal = false
  | .finalizeLatestCapture other => other ≠ session
  | .finalizeSessionSummary summary
  | .reconcileInterruptedSession summary =>
      summary.sessionId = session → summary.savePolicy = .saveLast
  | _ => True

/-- A step of a `SAVE_LAST` session, which prunes no decision. -/
structure SaveLastStep
    (session : SessionId)
    (earlier : List StoreEvent)
    (event : StoreEvent) :
    Prop where
  acts :
    event.source.ActsAsSaveLast session (Closed earlier session) event.input
  unpruned :
    ∀ old ∈ event.source.tombstones.rows,
      ∃ row ∈ event.target.tombstones.rows, row.identity = old.identity

section Decidable

variable (store : CaptureStore) (session : SessionId)

instance (history : List StoreEvent) : Decidable (Closed history session) :=
  inferInstanceAs (Decidable (∃ event ∈ history, _ = true))

instance
    (capture : CaptureData)
    (savePolicy : SavePolicy)
    (sessionId : Option SessionId) :
    Decidable
      (store.AgreesWithSaveLast session capture savePolicy sessionId) :=
  inferInstanceAs (Decidable ((_ = _ → _ = _) ∧ (_ = _ → _ ≠ _)))

instance (closed : Prop) [Decidable closed] :
    ∀ transaction, Decidable (store.ActsAsSaveLast session closed transaction)
  | .commitDelivery _ _ _ _ =>
      inferInstanceAs
        (Decidable
          (∀ capture ∈ _, store.AgreesWithSaveLast _ _ _ _ ∧ (_ = _ → ¬closed)))
  | .commitReplayedDelivery _ =>
      inferInstanceAs
        (Decidable
          (∀ capture ∈ _, ∀ context ∈ _, store.AgreesWithSaveLast _ _ _ _))
  | .saveSessionSummary _ =>
      inferInstanceAs (Decidable (_ = _ → ¬closed ∧ _ = false))
  | .finalizeLatestCapture _ => inferInstanceAs (Decidable (_ ≠ _))
  | .finalizeSessionSummary _ | .reconcileInterruptedSession _ =>
      inferInstanceAs (Decidable (_ = _ → _ = _))
  | .createGroup _ | .registerDeliveryPolicy _ _ _ _
  | .unregisterDeliveryPolicy _ _ | .saveConfigurationContext _ _
  | .assignCaptureGroup _ _ => .isTrue trivial

instance (earlier : List StoreEvent) (event : StoreEvent) :
    Decidable (SaveLastStep session earlier event) :=
  decidable_of_iff
    (event.source.ActsAsSaveLast session (Closed earlier session) event.input ∧
      ∀ old ∈ event.source.tombstones.rows,
        ∃ row ∈ event.target.tombstones.rows, row.identity = old.identity)
    ⟨fun both => ⟨both.1, both.2⟩, fun step => ⟨step.acts, step.unpruned⟩⟩

end Decidable

/-! ## What the store remembers of the captures it holds -/

/-- The store has a decision about a capture, for a session. -/
def Remembers
    (store : CaptureStore)
    (identity : CaptureIdentity)
    (sessionId : Option SessionId) :
    Prop :=
  ∃ row ∈ store.tombstones.rows,
    row.identity = identity ∧ row.sessionId = sessionId

/-- Every capture the store holds is remembered with its session, and every
event belongs to an archived capture. -/
structure HoldsRemembered
    (remembers : CaptureIdentity → Option SessionId → Prop)
    (session : SessionId)
    (store : CaptureStore) :
    Prop where
  archive :
    ∀ row ∈ store.captures.rows,
      ∃ sessionId, remembers row.identity sessionId ∧
        (row.sessionId = some session ↔ sessionId = some session)
  rolling :
    ∀ other rolling, store.latest (some other) = some rolling →
      ∃ capture, storedCapture rolling.delivery = .ok capture ∧
        remembers capture.identity (some other)
  events :
    ∀ event ∈ store.captureEvents,
      ∃ row ∈ store.captures.rows, row.rowId = event.captureRowId

namespace HoldsRemembered

variable {remembers : CaptureIdentity → Option SessionId → Prop}
  {session : SessionId} {store next : CaptureStore}
  {delivery : BridgeCaptureDelivery} {capture : CaptureData}
  {savePolicy : SavePolicy} {sessionId : Option SessionId}
  {groupId : Option GroupId}

/-- What is remembered may become more. -/
theorem mono
    {more : CaptureIdentity → Option SessionId → Prop}
    (holds : HoldsRemembered remembers session store)
    (implies : ∀ identity sessionId,
      remembers identity sessionId → more identity sessionId) :
    HoldsRemembered more session store where
  archive row member := by
    obtain ⟨sessionId, known, same⟩ := holds.archive row member
    exact ⟨sessionId, implies _ _ known, same⟩
  rolling other rolling held := by
    obtain ⟨capture, stored, known⟩ := holds.rolling other rolling held
    exact ⟨capture, stored, implies _ _ known⟩
  events := holds.events

/-- The same captures are remembered. -/
theorem of_same
    (holds : HoldsRemembered remembers session store)
    (captures : next.captures = store.captures)
    (latest : next.latest = store.latest)
    (captureEvents : next.captureEvents = store.captureEvents) :
    HoldsRemembered remembers session next where
  archive := by
    rw [captures]
    exact holds.archive
  rolling := by
    rw [latest]
    exact holds.rolling
  events := by
    rw [captures, captureEvents]
    exact holds.events

/-- A capture that is archived is remembered. -/
theorem archives
    {inserted : Bool}
    (holds : HoldsRemembered remembers session store)
    (archives :
      Archives store delivery capture sessionId groupId next inserted)
    (known : remembers capture.identity sessionId)
    (staged :
      sessionId = none →
        (store.configurations (.ofCapture capture)).bind
          ConfigurationContext.planSession ≠ some session) :
    HoldsRemembered remembers session next := by
  cases archives with
  | kept => exact holds
  | added captures fresh rows =>
      refine ⟨?_, holds.rolling, ?_⟩
      · intro row member
        rw [rows] at member
        rcases List.mem_append.1 member with old | new
        · exact holds.archive row old
        · obtain rfl := List.mem_singleton.1 new
          refine ⟨sessionId, known, ?_⟩
          cases sessionId with
          | none => exact iff_of_false (staged rfl) nofun
          | some named => exact Iff.rfl
      · intro event member
        rw [rows]
        rcases List.mem_append.1 member with old | new
        · obtain ⟨row, rowMember, same⟩ := holds.events event old
          exact ⟨row, List.mem_append_left _ rowMember, same⟩
        · refine ⟨_, List.mem_append_right _ (List.mem_singleton_self _), ?_⟩
          obtain ⟨ordinal, event, rfl⟩ := List.mem_mapIdx.1 new
          rfl

/-- The rolling capture of a session moves to the archive. -/
theorem moves
    {other : SessionId}
    (holds : HoldsRemembered remembers session store)
    (moves : Moves store other next) :
    HoldsRemembered remembers session next := by
  cases moves with
  | unmoved => exact holds
  | moved rolling held capture stored archives moved =>
      obtain ⟨same, restored, known⟩ := holds.rolling other rolling held
      obtain rfl := Except.ok.inj (stored.symm.trans restored)
      have archived := holds.archives archives known nofun
      refine ⟨?_, ?_, ?_⟩
      · rw [moved.captures]
        exact archived.archive
      · intro another kept shown
        rw [moved.latest] at shown
        by_cases own : some another = some other
        · rw [own, Function.update_self] at shown
          exact nomatch shown
        · rw [Function.update_of_ne own] at shown
          exact archived.rolling another kept shown
      · rw [moved.captures, moved.captureEvents]
        exact archived.events

/-- The end of a session keeps what is remembered. -/
theorem finalizes
    {summary : SessionSummary}
    (holds : HoldsRemembered remembers session store)
    (finalizes : Finalizes store summary savePolicy next) :
    HoldsRemembered remembers session next := by
  cases finalizes with
  | @finalized moved moves stays =>
      have moving : HoldsRemembered remembers session moved := by
        by_cases last : savePolicy = .saveLast
        · exact holds.moves (moves last)
        · rw [stays last]
          exact holds
      exact moving.of_same rfl rfl rfl

/-- The frames superseded leave with their events. -/
theorem supersede (holds : HoldsRemembered remembers session store) :
    HoldsRemembered remembers session
      (store.supersede savePolicy sessionId) := by
  unfold CaptureStore.supersede
  split_ifs
  · refine ⟨?_, holds.rolling, ?_⟩
    · intro row member
      exact holds.archive row (Table.mem_delete _ |>.1 member).1
    · intro event member
      obtain ⟨old, kept⟩ := List.mem_filter.1 member
      obtain ⟨row, rowMember, same⟩ := holds.events event old
      refine ⟨row, Table.mem_delete _ |>.2 ⟨rowMember, ?_⟩, same⟩
      apply decide_eq_false
      intro own
      exact of_decide_eq_true kept ⟨row, rowMember, same, own⟩
  · exact holds

/-- A policy keeps what is remembered. -/
theorem keeps
    {inserted : Bool}
    {resolution : CaptureResolution}
    (holds : HoldsRemembered remembers session store)
    (keeps :
      Keeps store delivery capture sessionId groupId savePolicy next inserted
        resolution)
    (stored : storedCapture delivery = .ok capture)
    (known : remembers capture.identity sessionId)
    (agrees :
      store.AgreesWithSaveLast session capture savePolicy sessionId) :
    HoldsRemembered remembers session next := by
  cases keeps with
  | archived archives => exact holds.archives archives known agrees.2
  | rolling =>
      refine ⟨holds.archive, ?_, holds.events⟩
      intro other rolling shown
      dsimp only at shown
      by_cases own : some other = sessionId
      · rw [own, Function.update_self] at shown
        obtain rfl := Option.some.inj shown
        exact ⟨capture, stored, own ▸ known⟩
      · rw [Function.update_of_ne own] at shown
        exact holds.rolling other rolling shown
  | discarded => exact holds

/-- `commit_delivery` keeps what is remembered. -/
theorem commits
    {result : CoreCommitResult}
    (holds : HoldsRemembered remembers session store)
    (commits :
      Commits store delivery capture savePolicy sessionId groupId next result)
    (stored : storedCapture delivery = .ok capture)
    (decided :
      store.tombstones.selectKey capture.identity = none →
        remembers capture.identity sessionId ∧
          store.AgreesWithSaveLast session capture savePolicy sessionId) :
    HoldsRemembered remembers session next := by
  cases commits with
  | repeated => exact holds.of_same rfl rfl rfl
  | decided undecided _ keeps records =>
      obtain ⟨known, agrees⟩ := decided undecided
      have kept := holds.keeps keeps stored known agrees
      exact kept.of_same records.frame.captures records.frame.latest
        records.frame.captureEvents

/-- `_commit_terminal_replay` keeps what is remembered. -/
theorem commitsLate
    {summary : SessionSummary}
    {result : CoreCommitResult}
    (holds : HoldsRemembered remembers session store)
    (commits :
      CommitsLate store delivery capture savePolicy sessionId groupId summary
        next result)
    (known : remembers capture.identity sessionId)
    (named : sessionId.isSome = true) :
    HoldsRemembered remembers session next := by
  have forced :
      sessionId = none →
        ((store.supersede savePolicy sessionId).configurations
            (.ofCapture capture)).bind ConfigurationContext.planSession ≠
          some session := by
    rintro rfl
    exact nomatch named
  cases commits with
  | @decided kept recorded _ _ keeps records configurations finalizes =>
      have late : HoldsRemembered remembers session kept := by
        cases keeps with
        | archived _ archives =>
            exact holds.supersede.archives archives known forced
        | discarded => exact holds.supersede
      have recording :
          HoldsRemembered remembers session
            { recorded with configurations := configurations } :=
        late.of_same records.frame.captures records.frame.latest
          records.frame.captureEvents
      exact recording.finalizes finalizes

/-- A transaction of a `SAVE_LAST` session keeps what is remembered. -/
theorem performs
    {closed : Prop}
    {transaction : Transaction}
    {result : Option CoreCommitResult}
    (holds : HoldsRemembered remembers session store)
    (performs : Performs store transaction next result)
    (known :
      ∀ decision ∈ store.decides? transaction,
        remembers decision.capture.identity decision.sessionId)
    (acts : store.ActsAsSaveLast session closed transaction) :
    HoldsRemembered remembers session next := by
  cases performs with
  | prepares _ prepares _ _ =>
      exact holds.of_same prepares.captures prepares.latest
        prepares.captureEvents
  | saves => exact holds.of_same rfl rfl rfl
  | @commits delivery _ sessionId _ _ _ capture delivered commits =>
      apply holds.commits commits (storedCapture_of_delivered delivered)
      intro undecided
      have found := undecided?_of_none delivered undecided
      exact ⟨known ⟨delivery, capture, sessionId⟩
          (Option.map_eq_some_iff.2 ⟨capture, found, rfl⟩),
        (acts capture found).1⟩
  | @replays delivery _ _ capture delivered replays =>
      have decided
          (undecided : store.tombstones.selectKey capture.identity = none)
          {context : DeliveryPolicyContext}
          (registered : store.context? capture.device = some context) :
          remembers capture.identity context.sessionId ∧
            store.AgreesWithSaveLast session capture context.savePolicy
              context.sessionId := by
        have found := undecided?_of_none delivered undecided
        refine ⟨known ⟨delivery, capture, context.sessionId⟩ ?_,
          acts capture found context registered⟩
        exact Option.bind_eq_some_iff.2
          ⟨capture, found, Option.map_eq_some_iff.2 ⟨context, registered, rfl⟩⟩
      cases replays with
      | repeated => exact holds.of_same rfl rfl rfl
      | direct _ context registered _ commits =>
          exact holds.commits commits (storedCapture_of_delivered delivered)
            fun undecided => decided undecided registered
      | late undecided context registered summary closed commits =>
          obtain ⟨named, isNamed, -⟩ := closedSession?_eq_some.1 closed
          exact holds.commitsLate commits (decided undecided registered).1
            (by rw [isNamed]; rfl)
  | moves moves => exact holds.moves moves
  | finalizes _ _ _ finalizes => exact holds.finalizes finalizes
  | regroups change regroups =>
      refine ⟨?_, holds.rolling, ?_⟩
      · intro row member
        obtain ⟨old, oldMember, rfl⟩ := List.mem_map.1 member
        rw [regroups.identity, regroups.sessionId]
        exact holds.archive old oldMember
      · intro event member
        obtain ⟨row, rowMember, same⟩ := holds.events event member
        exact ⟨change row, List.mem_map_of_mem rowMember,
          (regroups.rowId row).trans same⟩

end HoldsRemembered

/-! ## Where the captures of one session are -/

/-- The frames of a session in the archive. -/
def frames
    (store : CaptureStore)
    (session : SessionId) :
    List (CaptureIdentity × List UInt8) :=
  (store.archivedOf session).map fun row => (row.identity, row.wireFrame)

/-- The session is closed, as far as its summary says. -/
def IsClosed (store : CaptureStore) (session : SessionId) : Prop :=
  (store.closedSession? (some session)).isSome = true

/-- Nothing happens to the captures of a session. -/
structure Untouched
    (session : SessionId)
    (store next : CaptureStore) :
    Prop where
  frames : next.frames session = store.frames session
  latest : next.latest (some session) = store.latest (some session)

section Untouched

variable {session other : SessionId} {store middle next : CaptureStore}
  {delivery : BridgeCaptureDelivery} {capture : CaptureData}
  {savePolicy : SavePolicy} {sessionId : Option SessionId}
  {groupId : Option GroupId}

/-- The archive and the rolling rows are the same. -/
theorem Untouched.of_same
    (captures : next.captures = store.captures)
    (latest : next.latest = store.latest) :
    Untouched session store next where
  frames := by
    unfold CaptureStore.frames archivedOf
    rw [captures]
  latest := by rw [latest]

/-- One operation after the other. -/
theorem Untouched.trans
    (before : Untouched session store middle)
    (after : Untouched session middle next) :
    Untouched session store next where
  frames := after.frames.trans before.frames
  latest := after.latest.trans before.latest

/-- The frames of a session after one more row. -/
theorem frames_of_append
    {row : ArchivedCapture}
    (rows : next.captures.rows = store.captures.rows ++ [row])
    (session : SessionId) :
    next.frames session =
      store.frames session ++
        if row.sessionId = some session then
          [(row.identity, row.wireFrame)]
        else
          [] := by
  unfold frames archivedOf
  rw [rows, List.filter_append, List.map_append]
  congr 1
  by_cases own : row.sessionId = some session
  · simp [own]
  · simp [own]

/-- Archiving a capture elsewhere. -/
theorem Archives.untouched
    {inserted : Bool}
    (archives :
      Archives store delivery capture sessionId groupId next inserted)
    (elsewhere : sessionId ≠ some session)
    (staged :
      sessionId = none →
        (store.configurations (.ofCapture capture)).bind
          ConfigurationContext.planSession ≠ some session) :
    Untouched session store next := by
  refine ⟨?_, by rw [archives.frame.latest]⟩
  cases archives with
  | kept => rfl
  | added captures fresh rows =>
      have foreign :
          (store.archiveRow delivery capture sessionId groupId).sessionId ≠
            some session := by
        cases sessionId with
        | none => exact staged rfl
        | some named => exact elsewhere
      refine (frames_of_append rows session).trans ?_
      rw [if_neg foreign, List.append_nil]

/-- The rolling capture of another session is moved. -/
theorem Moves.untouched
    (moves : Moves store other next)
    (elsewhere : other ≠ session) :
    Untouched session store next := by
  have named : some other ≠ some session :=
    fun same => elsewhere (Option.some.inj same)
  cases moves with
  | unmoved => exact .of_same rfl rfl
  | @moved _ _ _ _ archived _ archives _ moved =>
      apply (archives.untouched named nofun).trans
      refine ⟨?_, ?_⟩
      · unfold frames archivedOf
        rw [moved.captures]
      · rw [moved.latest, Function.update_of_ne named.symm]

/-- Another session ends. -/
theorem Finalizes.untouched
    {summary : SessionSummary}
    (finalizes : Finalizes store summary savePolicy next)
    (elsewhere : summary.sessionId ≠ session) :
    Untouched session store next := by
  cases finalizes with
  | @finalized moved moves stays =>
      have moving : Untouched session store moved := by
        by_cases last : savePolicy = .saveLast
        · exact (moves last).untouched elsewhere
        · rw [stays last]
          exact .of_same rfl rfl
      exact moving.trans (.of_same rfl rfl)

/-- The captures of another session are superseded. -/
theorem untouched_supersede
    (elsewhere : sessionId ≠ some session) :
    Untouched session store (store.supersede savePolicy sessionId) := by
  unfold supersede
  split_ifs
  · refine ⟨?_, rfl⟩
    have kept :
        (store.captures.rows.filter fun row =>
            !decide (row.sessionId = sessionId)).filter
              (·.sessionId = some session) =
          store.captures.rows.filter (·.sessionId = some session) := by
      rw [List.filter_filter]
      apply List.filter_congr
      intro row _
      by_cases own : row.sessionId = some session
      · simp [own, elsewhere.symm]
      · simp [own]
    exact congrArg
      (List.map fun row => (row.identity, row.wireFrame)) kept
  · exact .of_same rfl rfl

/-- A decision for another session. -/
theorem Keeps.untouched
    {inserted : Bool}
    {resolution : CaptureResolution}
    (keeps :
      Keeps store delivery capture sessionId groupId savePolicy next inserted
        resolution)
    (elsewhere : sessionId ≠ some session)
    (staged :
      sessionId = none →
        (store.configurations (.ofCapture capture)).bind
          ConfigurationContext.planSession ≠ some session) :
    Untouched session store next := by
  cases keeps with
  | archived archives => exact archives.untouched elsewhere staged
  | rolling => exact ⟨rfl, Function.update_of_ne elsewhere.symm _ _⟩
  | discarded => exact .of_same rfl rfl

/-- A late decision for another session. -/
theorem CommitsLate.untouched
    {summary : SessionSummary}
    {result : CoreCommitResult}
    (commits :
      CommitsLate store delivery capture savePolicy (some other) groupId
        summary next result)
    (elsewhere : other ≠ session)
    (own : summary.sessionId = other) :
    Untouched session store next := by
  have named : some other ≠ some session :=
    fun same => elsewhere (Option.some.inj same)
  cases commits with
  | @decided kept recorded _ _ keeps records configurations finalizes =>
      have late :
          Untouched session (store.supersede savePolicy (some other)) kept := by
        cases keeps with
        | archived _ archives => exact archives.untouched named nofun
        | discarded => exact .of_same rfl rfl
      have recording :
          Untouched session kept
            { recorded with configurations := configurations } :=
        .of_same records.frame.captures records.frame.latest
      exact ((untouched_supersede named).trans late).trans
        (recording.trans (finalizes.untouched (own ▸ elsewhere)))

end Untouched

section Closing

variable {session : SessionId} {store next : CaptureStore}

/-- Whether a session is closed depends on its summary only. -/
theorem isClosed_of_sessions
    (same : next.sessions session = store.sessions session) :
    next.IsClosed session ↔ store.IsClosed session := by
  simp only [IsClosed, closedSession?, Option.bind_some, same]

/-- A summary that is saved says whether its session is closed. -/
theorem isClosed_of_saved
    {saved : SessionSummary}
    (sessions :
      next.sessions = Function.update store.sessions session (some saved)) :
    next.IsClosed session ↔ saved.state.isTerminal = true := by
  simp only [IsClosed, closedSession?, Option.bind_some, sessions,
    Function.update_self, Option.isSome_filter, Option.any_some]

/-- A summary that is saved leaves the other sessions. -/
theorem isClosed_of_other
    {saved : SessionSummary}
    {other : SessionId}
    (sessions :
      next.sessions = Function.update store.sessions other (some saved))
    (elsewhere : other ≠ session) :
    next.IsClosed session ↔ store.IsClosed session := by
  apply isClosed_of_sessions
  rw [sessions, Function.update_of_ne elsewhere.symm]

end Closing

/-! ## The captures of the session itself -/

section Own

variable {session : SessionId} {store next : CaptureStore}
  {delivery : BridgeCaptureDelivery} {capture : CaptureData}
  {groupId : Option GroupId}

/-- A decision is for one session. -/
theorem Remembers.unique
    {identity : CaptureIdentity}
    {first second : Option SessionId}
    (one : store.Remembers identity first)
    (another : store.Remembers identity second) :
    first = second := by
  obtain ⟨row, member, same, rfl⟩ := one
  obtain ⟨other, otherMember, otherSame, rfl⟩ := another
  have selected := store.tombstones.selectKey_eq_some.2 ⟨member, same⟩
  have otherSelected :=
    store.tombstones.selectKey_eq_some.2 ⟨otherMember, otherSame⟩
  obtain rfl := Option.some.inj (selected.symm.trans otherSelected)
  rfl

/-- A new frame is added to the archive of the session. -/
theorem Archives.frames
    {inserted : Bool}
    (archives :
      Archives store delivery capture (some session) groupId next inserted)
    (fresh : ∀ row ∈ store.captures.rows, row.identity ≠ capture.identity) :
    next.frames session =
      store.frames session ++ [(capture.identity, delivery.innerFrame)] := by
  cases archives with
  | kept existing member same => exact absurd same (fresh existing member)
  | added captures _ rows =>
      refine (frames_of_append rows session).trans ?_
      rw [if_pos]
      · rfl
      · rfl

/-- The rolling capture of an open session is not in the archive. -/
theorem HoldsRemembered.fresh
    (holds : HoldsRemembered store.Remembers session store)
    (nothing : store.frames session = [])
    {rolling : RollingCapture}
    (held : store.latest (some session) = some rolling)
    (stored : storedCapture rolling.delivery = .ok capture) :
    ∀ row ∈ store.captures.rows, row.identity ≠ capture.identity := by
  intro row member same
  obtain ⟨rolled, restored, known⟩ := holds.rolling session rolling held
  obtain rfl := Except.ok.inj (stored.symm.trans restored)
  obtain ⟨sessionId, archived, own⟩ := holds.archive row member
  rw [same] at archived
  have named := own.2 (archived.unique known)
  have listed : row ∈ store.archivedOf session :=
    List.mem_filter.2 ⟨member, decide_eq_true named⟩
  rw [List.map_eq_nil_iff.1 nothing] at listed
  exact List.not_mem_nil listed

/-- The rolling capture of a session is the only one of its archive. -/
theorem Moves.ends
    (moves : Moves store session next)
    (holds : HoldsRemembered store.Remembers session store) :
    next.latest (some session) = none ∧
      (store.latest (some session) = none →
        next.frames session = store.frames session) ∧
      (store.frames session = [] →
        ∀ rolling ∈ store.latest (some session),
          ∃ capture, storedCapture rolling.delivery = .ok capture ∧
            next.frames session =
              [(capture.identity, rolling.delivery.innerFrame)]) := by
  cases moves with
  | unmoved nothing =>
      refine ⟨nothing, fun _ => rfl, fun _ rolling held => ?_⟩
      exact nomatch nothing.symm.trans held
  | @moved rolling held capture stored archived _ archives _ moved =>
      have same : next.frames session = archived.frames session := by
        unfold CaptureStore.frames archivedOf
        rw [moved.captures]
      refine ⟨?_, ?_, ?_⟩
      · rw [moved.latest, Function.update_self]
      · intro nothing
        exact nomatch nothing.symm.trans held
      · intro nothing other otherHeld
        obtain rfl := Option.some.inj (held.symm.trans otherHeld)
        refine ⟨capture, stored, ?_⟩
        rw [same, archives.frames (holds.fresh nothing held stored), nothing]
        rfl

/-- Nothing of a session is left in the archive when it is superseded. -/
theorem frames_supersede :
    (store.supersede .saveLast (some session)).frames session = [] := by
  unfold frames archivedOf supersede
  rw [if_pos rfl, List.map_eq_nil_iff, List.filter_eq_nil_iff]
  intro row member own
  have other := (Table.mem_delete _ |>.1 member).2
  exact of_decide_eq_false other (of_decide_eq_true own)

/-- A late capture is the only one in the archive of its session. -/
theorem CommitsLate.replaces
    {summary : SessionSummary}
    {result : CoreCommitResult}
    (commits :
      CommitsLate store delivery capture .saveLast (some session) groupId
        summary next result)
    (own : summary.sessionId = session)
    (fresh : ∀ row ∈ store.captures.rows, row.identity ≠ capture.identity)
    (nothing : store.latest (some session) = none) :
    next.frames session = [(capture.identity, delivery.innerFrame)] ∧
      next.latest (some session) = none := by
  subst own
  cases commits with
  | @decided kept recorded _ _ keeps records configurations finalizes =>
      cases keeps with
      | archived _ archives =>
          have added := archives.frames fun row member =>
            fresh row (Table.mem_delete _ |>.1 member).1
          rw [frames_supersede] at added
          have latest : recorded.latest (some summary.sessionId) = none := by
            rw [records.frame.latest, archives.frame.latest]
            exact nothing
          have recording :
              Untouched summary.sessionId kept
                { recorded with configurations := configurations } :=
            .of_same records.frame.captures records.frame.latest
          cases finalizes with
          | @finalized moved moves stays =>
              have unmoved :
                  moved = { recorded with configurations := configurations } := by
                cases moves rfl with
                | unmoved => rfl
                | moved rolling held =>
                    exact nomatch latest.symm.trans held
              rw [unmoved]
              exact ⟨recording.frames.trans added, latest⟩

end Own

/-- What a transaction does for one session: it concerns another one, it
replaces the rolling capture, it replaces the archived capture, or it ends the
session. -/
inductive Turns
    (session : SessionId)
    (store next : CaptureStore) :
    Option NewDecision → Bool → Prop where
  | elsewhere
      {new : Option NewDecision}
      (foreign : ∀ decision ∈ new, decision.sessionId ≠ some session)
      (untouched : Untouched session store next)
      (same : next.IsClosed session ↔ store.IsClosed session) :
      Turns session store next new false
  | rolls
      {decision : NewDecision}
      (own : decision.sessionId = some session)
      (isOpen : ¬store.IsClosed session)
      (frames : next.frames session = store.frames session)
      (latest :
        (next.latest (some session)).map RollingCapture.delivery =
          some decision.delivery)
      (stillOpen : ¬next.IsClosed session) :
      Turns session store next (some decision) false
  | replaces
      {decision : NewDecision}
      (own : decision.sessionId = some session)
      (wasClosed : store.IsClosed session)
      (replaced :
        store.latest (some session) = none →
          next.frames session =
              [(decision.capture.identity, decision.delivery.innerFrame)] ∧
            next.latest (some session) = none)
      (stillClosed : next.IsClosed session) :
      Turns session store next (some decision) false
  | ends
      (latest : next.latest (some session) = none)
      (unrolled :
        store.latest (some session) = none →
          next.frames session = store.frames session)
      (rolled :
        store.frames session = [] →
          ∀ rolling ∈ store.latest (some session),
            ∃ capture, storedCapture rolling.delivery = .ok capture ∧
              next.frames session =
                [(capture.identity, rolling.delivery.innerFrame)])
      (nowClosed : next.IsClosed session) :
      Turns session store next none true

section Turns

variable {session : SessionId} {store next : CaptureStore}
  {delivery : BridgeCaptureDelivery} {capture : CaptureData}
  {savePolicy : SavePolicy} {sessionId : Option SessionId}
  {groupId : Option GroupId}

/-- `commit_delivery` concerns another session, or replaces the rolling
capture. -/
theorem Commits.turns
    {result : CoreCommitResult}
    (commits :
      Commits store delivery capture savePolicy sessionId groupId next result)
    (delivered : deliveredCapture delivery = .ok capture)
    (agrees :
      store.tombstones.selectKey capture.identity = none →
        store.AgreesWithSaveLast session capture savePolicy sessionId)
    (isOpen :
      store.tombstones.selectKey capture.identity = none →
        sessionId = some session → ¬store.IsClosed session) :
    Turns session store next
      ((store.undecided? delivery).map fun capture =>
        ⟨delivery, capture, sessionId⟩)
      false := by
  have same : next.IsClosed session ↔ store.IsClosed session :=
    isClosed_of_sessions (congrFun commits.sessions session)
  cases commits with
  | repeated existing found =>
      rw [undecided?_of_some delivered found]
      exact .elsewhere nofun (.of_same rfl rfl) Iff.rfl
  | @decided undecided _ kept recorded _ _ keeps records configurations =>
      rw [undecided?_of_none delivered undecided]
      have recording :
          Untouched session kept
            { recorded with configurations := configurations } :=
        .of_same records.frame.captures records.frame.latest
      by_cases own : sessionId = some session
      · have last := (agrees undecided).1 own
        have wasOpen := isOpen undecided own
        subst own last
        cases keeps with
        | rolling =>
            refine .rolls rfl wasOpen recording.frames ?_ (same.not.2 wasOpen)
            rw [recording.latest]
            dsimp only
            rw [Function.update_self]
            rfl
      · refine .elsewhere ?_ ?_ same
        · rintro decision ⟨⟩
          exact own
        · exact (keeps.untouched own (agrees undecided).2).trans recording

/-- A late replay concerns another session, or replaces the archived
capture. -/
theorem CommitsLate.turns
    {other : SessionId}
    {summary : SessionSummary}
    {result : CoreCommitResult}
    (commits :
      CommitsLate store delivery capture savePolicy (some other) groupId
        summary next result)
    (named : summary.sessionId = other)
    (found : store.sessions other = some summary)
    (terminal : summary.state.isTerminal = true)
    (last : other = session → savePolicy = .saveLast)
    (fresh : ∀ row ∈ store.captures.rows, row.identity ≠ capture.identity) :
    Turns session store next (some ⟨delivery, capture, some other⟩) false := by
  obtain ⟨saved, savedName, savedState, sessions⟩ := commits.sessions
  rw [named] at sessions
  by_cases own : other = session
  · have policy := last own
    subst own policy
    refine .replaces rfl ?_ (commits.replaces named fresh) ?_
    · rw [IsClosed, closedSession?_eq_some.2 ⟨other, rfl, found, terminal⟩]
      rfl
    · rw [isClosed_of_saved sessions, savedState]
      exact terminal
  · refine .elsewhere ?_ (commits.untouched own named)
      (isClosed_of_other sessions own)
    rintro decision ⟨⟩ same
    exact own (Option.some.inj same)

/-- `commit_replayed_delivery` concerns another session, or replaces the
capture of the session. -/
theorem Replays.turns
    {result : CoreCommitResult}
    (replays : Replays store delivery capture next result)
    (delivered : deliveredCapture delivery = .ok capture)
    (keyed : store.SessionsKeyed)
    (agrees :
      ∀ found ∈ store.undecided? delivery,
        ∀ context ∈ store.context? found.device,
          store.AgreesWithSaveLast session found context.savePolicy
            context.sessionId)
    (fresh :
      store.tombstones.selectKey capture.identity = none →
        ∀ row ∈ store.captures.rows, row.identity ≠ capture.identity) :
    Turns session store next
      (store.decides? (.commitReplayedDelivery delivery)) false := by
  cases replays with
  | repeated existing found =>
      rw [decides?, undecided?_of_some delivered found]
      exact .elsewhere nofun (.of_same rfl rfl) Iff.rfl
  | direct undecided context registered isOpen commits =>
      have among := undecided?_of_none delivered undecided
      have turns :=
        commits.turns delivered
          (fun _ => agrees capture among context registered)
          (by
            intro _ own
            rw [IsClosed, ← own, isOpen]
            exact nofun)
      rw [among] at turns
      rw [decides?, among, Option.bind_some, registered]
      exact turns
  | late undecided context registered summary closed commits =>
      have among := undecided?_of_none delivered undecided
      have agreed := agrees capture among context registered
      rw [decides?, among, Option.bind_some, registered, Option.map_some]
      obtain ⟨other, named, found, terminal⟩ := closedSession?_eq_some.1 closed
      rw [named] at commits agreed ⊢
      exact commits.turns (keyed other summary found) found terminal
        (fun own => agreed.1 (congrArg some own)) (fresh undecided)

/-- The end of a session concerns another one, or moves the rolling
capture. -/
theorem Finalizes.turns
    {summary : SessionSummary}
    (finalizes : Finalizes store summary savePolicy next)
    (holds : HoldsRemembered store.Remembers session store)
    (terminal : summary.state.isTerminal = true)
    (last : summary.sessionId = session → savePolicy = .saveLast) :
    Turns session store next none (decide (summary.sessionId = session)) := by
  obtain ⟨saved, savedName, savedState, sessions⟩ := finalizes.sessions
  by_cases own : summary.sessionId = session
  · have policy := last own
    subst own policy
    rw [decide_eq_true rfl]
    have nowClosed : next.IsClosed summary.sessionId := by
      rw [isClosed_of_saved sessions, savedState]
      exact terminal
    cases finalizes with
    | @finalized moved moves stays =>
        obtain ⟨latest, unrolled, rolled⟩ := (moves rfl).ends holds
        exact .ends latest unrolled rolled nowClosed
  · rw [decide_eq_false own]
    exact .elsewhere nofun (finalizes.untouched own)
      (isClosed_of_other sessions own)

/-- A transaction of a `SAVE_LAST` session does one of these. -/
theorem Performs.turns
    {closed : Prop}
    {transaction : Transaction}
    {result : Option CoreCommitResult}
    (performs : Performs store transaction next result)
    (acts : store.ActsAsSaveLast session closed transaction)
    (agree : store.IsClosed session → closed)
    (keyed : store.SessionsKeyed)
    (holds : HoldsRemembered store.Remembers session store) :
    Turns session store next (store.decides? transaction)
      (transaction.closing?.any (·.sessionId = session)) := by
  cases performs with
  | prepares preparation prepares _ _ =>
      have undecided : store.decides? transaction = none := by
        cases transaction <;> first | rfl | exact nomatch preparation
      have unclosing : transaction.closing? = none := by
        cases transaction <;> first | rfl | exact nomatch preparation
      rw [undecided, unclosing]
      exact .elsewhere nofun (.of_same prepares.captures prepares.latest)
        (isClosed_of_sessions (congrFun prepares.sessions session))
  | saves summary =>
      refine .elsewhere nofun (.of_same rfl rfl) ?_
      by_cases own : summary.sessionId = session
      · obtain ⟨unclosed, state⟩ := acts own
        have sessions :
            (store.saveSessionSummary summary).sessions =
              Function.update store.sessions session (some summary) :=
          own ▸ rfl
        refine iff_of_false ?_ (fun was => unclosed (agree was))
        rw [isClosed_of_saved sessions, state]
        exact nofun
      · exact isClosed_of_other rfl own
  | @commits delivery _ sessionId _ _ _ capture delivered commits =>
      apply commits.turns delivered
      · intro undecided
        exact (acts capture (undecided?_of_none delivered undecided)).1
      · intro undecided own was
        exact (acts capture (undecided?_of_none delivered undecided)).2 own
          (agree was)
  | @replays delivery _ _ capture delivered replays =>
      apply replays.turns delivered keyed acts
      intro undecided row member same
      obtain ⟨_, ⟨decision, decided, identity, -⟩, -⟩ :=
        holds.archive row member
      exact store.tombstones.key_ne_of_selectKey undecided decided
        (identity.trans same)
  | moves moves =>
      exact .elsewhere nofun (moves.untouched acts)
        (isClosed_of_sessions (congrFun moves.sessions session))
  | finalizes summary closing terminal finalizes =>
      have undecided : store.decides? transaction = none := by
        cases transaction <;> first | rfl | exact nomatch closing
      rw [undecided, closing]
      apply finalizes.turns holds terminal
      cases transaction with
      | finalizeSessionSummary other =>
          obtain rfl := Option.some.inj closing
          exact acts
      | reconcileInterruptedSession other =>
          obtain rfl := Option.some.inj closing
          exact acts
      | _ => exact nomatch closing
  | regroups change regroups =>
      refine .elsewhere nofun ⟨?_, rfl⟩ Iff.rfl
      simp [frames, archivedOf, Table.modify, List.filter_map,
        Function.comp_def, regroups.identity, regroups.wireFrame,
        regroups.sessionId]

end Turns

/-! ## What a run keeps -/

/-- The last capture decided for a session, as it stands in the archive. -/
def lastFrame (decisions : List NewDecision) : List (CaptureIdentity × List UInt8) :=
  decisions.getLast?.toList.map fun decision =>
    (decision.capture.identity, decision.delivery.innerFrame)

/-- Where the captures of a `SAVE_LAST` session are. -/
structure LastInvariant
    (session : SessionId)
    (history : List StoreEvent)
    (store : CaptureStore) :
    Prop where
  numbered : store.Numbered
  keyed : store.SessionsKeyed
  holds : HoldsRemembered store.Remembers session store
  delivered :
    ∀ decision ∈ newlyDecided history session,
      deliveredCapture decision.delivery = .ok decision.capture
  isClosed : store.IsClosed session ↔ Closed history session
  opened :
    ¬Closed history session →
      store.frames session = [] ∧
        (store.latest (some session)).map RollingCapture.delivery =
          (newlyDecided history session).getLast?.map NewDecision.delivery
  closed :
    Closed history session →
      store.latest (some session) = none ∧
        store.frames session = lastFrame (newlyDecided history session)

section Step

variable {session : SessionId} {history : List StoreEvent}
  {store : CaptureStore} {event : StoreEvent}

/-- A session is closed by the events of its history. -/
theorem closed_concat :
    Closed (history ++ [event]) session ↔
      Closed history session ∨ closes session event = true := by
  simp only [Closed, List.mem_append, List.mem_singleton]
  constructor
  · rintro ⟨found, earlier | rfl, closing⟩
    · exact .inl ⟨found, earlier, closing⟩
    · exact .inr closing
  · rintro (⟨found, earlier, closing⟩ | closing)
    · exact ⟨found, .inl earlier, closing⟩
    · exact ⟨event, .inr rfl, closing⟩

/-- Decisions for other sessions do not count. -/
theorem newlyDecided_foreign
    (history : List StoreEvent)
    (event : StoreEvent)
    (foreign :
      ∀ decision ∈ newDecision? event, decision.sessionId ≠ some session) :
    newlyDecided (history ++ [event]) session =
      newlyDecided history session := by
  have nothing :
      ((newDecision? event).toList.filter fun decision =>
        decision.sessionId = some session) = [] := by
    rw [List.filter_eq_nil_iff]
    intro decision member own
    exact foreign decision (Option.mem_toList.1 member)
      (of_decide_eq_true own)
  rw [newlyDecided_concat, nothing, List.append_nil]

/-- A decision for the session is the last one. -/
theorem newlyDecided_own
    (history : List StoreEvent)
    {decision : NewDecision}
    (new : newDecision? event = some decision)
    (own : decision.sessionId = some session) :
    newlyDecided (history ++ [event]) session =
      newlyDecided history session ++ [decision] := by
  rw [newlyDecided_concat, new]
  simp [own]

/-- What a step does for the session. -/
theorem LastInvariant.turns
    (invariant : LastInvariant session history store)
    {transaction : Transaction}
    (acts :
      store.ActsAsSaveLast session (Closed history session) transaction) :
    Turns session store (machine.event store transaction).target
      (newDecision? (machine.event store transaction))
      (closes session (machine.event store transaction)) := by
  unfold newDecision? closes Machine.event
  rcases step_cases store transaction with
    ⟨raised, failed⟩ | ⟨next, result, done, performs⟩
  · rw [failed]
    exact .elsewhere nofun (.of_same rfl rfl) Iff.rfl
  · rw [done]
    exact performs.turns acts invariant.isClosed.1 invariant.keyed
      invariant.holds

/-- A step that prunes nothing keeps what the store remembers. -/
theorem LastInvariant.remembers
    (invariant : LastInvariant session history store)
    {transaction : Transaction}
    (step : SaveLastStep session history (machine.event store transaction)) :
    HoldsRemembered (machine.event store transaction).target.Remembers session
      (machine.event store transaction).target := by
  have logs := step_logs invariant.numbered transaction
  have kept :
      ∀ identity sessionId, store.Remembers identity sessionId →
        (machine.event store transaction).target.Remembers identity
          sessionId := by
    rintro identity sessionId ⟨old, member, rfl, rfl⟩
    obtain ⟨row, rowMember, same⟩ := step.unpruned old member
    exact ⟨row, rowMember, same, logs.retained member rowMember same⟩
  have before := invariant.holds.mono kept
  have acts := step.acts
  unfold newDecision? Machine.event at logs
  unfold Machine.event at acts before ⊢
  rcases step_cases store transaction with
    ⟨raised, failed⟩ | ⟨next, result, done, performs⟩
  · rw [failed] at before ⊢
    exact before
  · rw [done] at before logs ⊢
    refine before.performs performs ?_ acts
    intro decision decides
    rw [decides] at logs
    cases logs with
    | decided _ decided =>
        obtain ⟨row, member, _, rfl⟩ := decided.recorded
        exact ⟨_, member, rfl, rfl⟩

/-- A new decision is about the capture in its delivery. -/
theorem LastInvariant.deliveredAfter
    (invariant : LastInvariant session history store)
    (event : StoreEvent) :
    ∀ decision ∈ newlyDecided (history ++ [event]) session,
      deliveredCapture decision.delivery = .ok decision.capture := by
  intro decision member
  rw [newlyDecided_concat] at member
  rcases List.mem_append.1 member with earlier | now
  · exact invariant.delivered decision earlier
  · exact newDecision?_delivered
      (Option.mem_toList.1 (List.mem_filter.1 now).1)

/-- A step of a `SAVE_LAST` session keeps its captures where they belong. -/
theorem LastInvariant.step
    (invariant : LastInvariant session history store)
    {transaction : Transaction}
    (step : SaveLastStep session history (machine.event store transaction)) :
    LastInvariant session (history ++ [machine.event store transaction])
      (machine.event store transaction).target := by
  have numbered := invariant.numbered.logs (step_logs invariant.numbered transaction)
  have keyed : (machine.event store transaction).target.SessionsKeyed :=
    step_keeps transaction invariant.keyed
      fun _ _ => invariant.keyed.performs
  have holds := invariant.remembers step
  have delivered :=
    invariant.deliveredAfter (machine.event store transaction)
  have acts :
      store.ActsAsSaveLast session (Closed history session) transaction :=
    step.acts
  have turns := invariant.turns acts
  have closedAfter :=
    @closed_concat session history (machine.event store transaction)
  obtain ⟨new, newly⟩ :
      ∃ new, newDecision? (machine.event store transaction) = new :=
    ⟨_, rfl⟩
  obtain ⟨closesNow, closing⟩ :
      ∃ closesNow,
        closes session (machine.event store transaction) = closesNow :=
    ⟨_, rfl⟩
  rw [newly, closing] at turns
  rw [closing] at closedAfter
  cases turns with
  | elsewhere foreign untouched same =>
      have decided :=
        newlyDecided_foreign history (machine.event store transaction)
          (newly ▸ foreign)
      have unclosed := closedAfter.trans (or_iff_left nofun)
      refine ⟨numbered, keyed, holds, delivered, ?_, ?_, ?_⟩
      · rw [same, unclosed]
        exact invariant.isClosed
      · rw [unclosed, decided, untouched.frames, untouched.latest]
        exact invariant.opened
      · rw [unclosed, decided, untouched.frames, untouched.latest]
        exact invariant.closed
  | @rolls decision own isOpen frames latest stillOpen =>
      have decided := newlyDecided_own history newly own
      have unclosed := closedAfter.trans (or_iff_left nofun)
      have wasOpen := invariant.isClosed.not.1 isOpen
      refine ⟨numbered, keyed, holds, delivered, ?_, ?_, ?_⟩
      · rw [unclosed]
        exact iff_of_false stillOpen wasOpen
      · intro _
        rw [decided, frames, latest, List.getLast?_concat]
        exact ⟨(invariant.opened wasOpen).1, rfl⟩
      · intro closed
        exact absurd (unclosed.1 closed) wasOpen
  | @replaces decision own wasClosed replaced stillClosed =>
      have decided := newlyDecided_own history newly own
      have unclosed := closedAfter.trans (or_iff_left nofun)
      have closed := invariant.isClosed.1 wasClosed
      obtain ⟨frames, latest⟩ := replaced (invariant.closed closed).1
      refine ⟨numbered, keyed, holds, delivered, ?_, ?_, ?_⟩
      · rw [unclosed]
        exact iff_of_true stillClosed closed
      · intro opened
        exact absurd (unclosed.2 closed) opened
      · intro _
        rw [decided, frames, lastFrame, List.getLast?_concat]
        exact ⟨latest, rfl⟩
  | ends latest unrolled rolled nowClosed =>
      have nothing :
          ∀ decision ∈ newDecision? (machine.event store transaction),
            decision.sessionId ≠ some session := by
        rw [newly]
        exact nofun
      have undecided :=
        newlyDecided_foreign history (machine.event store transaction) nothing
      have closed := closedAfter.2 (.inr rfl)
      refine ⟨numbered, keyed, holds, delivered, iff_of_true nowClosed closed,
        fun opened => absurd closed opened, fun _ => ⟨latest, ?_⟩⟩
      rw [undecided]
      by_cases before : Closed history session
      · obtain ⟨nothing, frames⟩ := invariant.closed before
        rw [unrolled nothing, frames]
      · obtain ⟨nothing, last⟩ := invariant.opened before
        rcases held : store.latest (some session) with _ | rolling
        · rw [held] at last
          have none := Option.map_eq_none_iff.1 last.symm
          rw [unrolled held, nothing, lastFrame, none]
          rfl
        · rw [held] at last
          obtain ⟨decision, isLast, same⟩ :=
            Option.map_eq_some_iff.1 last.symm
          obtain ⟨capture, stored, frames⟩ := rolled nothing rolling held
          have own := storedCapture_of_delivered
            (invariant.delivered decision (List.mem_of_getLast? isLast))
          rw [same] at own
          obtain rfl := Except.ok.inj (stored.symm.trans own)
          rw [frames, lastFrame, isLast, ← same]
          rfl

end Step

/-- In every run of a `SAVE_LAST` session that prunes no decision, the session
keeps exactly the last capture that was decided for it. -/
theorem keepsLast_of_saveLastStep
    (session : SessionId)
    (transactions : List Transaction)
    (steps :
      EveryStep (SaveLastStep session) (machine.trace empty transactions)) :
    KeepsLast (machine.trace empty transactions)
      (machine.after empty transactions) session := by
  have unclosed : ¬Closed [] session :=
    fun ⟨_, member, _⟩ => List.not_mem_nil member
  have isOpen : ¬empty.IsClosed session := Bool.false_ne_true
  have nothing : ∀ decision ∈ newlyDecided [] session,
      deliveredCapture decision.delivery = .ok decision.capture :=
    fun _ member => absurd member List.not_mem_nil
  have initially : LastInvariant session [] empty :=
    ⟨nofun, nofun, ⟨nofun, nofun, nofun⟩, nothing,
      iff_of_false isOpen unclosed, fun _ => ⟨rfl, rfl⟩,
      fun closed => absurd closed unclosed⟩
  have invariant :=
    machine.invariant_after (LastInvariant session) initially
      (fun _ _ _ invariant step => invariant.step step) transactions steps
  refine ⟨?_, ?_, invariant.holds.events⟩
  · intro opened
    obtain ⟨nothing, latest⟩ := invariant.opened opened
    exact ⟨List.map_eq_nil_iff.1 nothing, latest⟩
  · intro closed
    obtain ⟨latest, kept⟩ := invariant.closed closed
    refine ⟨latest, fun last isLast => ?_⟩
    rw [lastFrame, isLast] at kept
    obtain ⟨row, only, same⟩ := List.map_eq_singleton_iff.1 kept
    obtain ⟨identity, wireFrame⟩ := Prod.mk.inj same
    exact ⟨row, only, identity, wireFrame⟩

/-- A session is closed with its second capture, and a third one comes late. -/
def lateCapture : List Transaction :=
  [.commitDelivery (numberedDelivery 1) .saveLast (some oneSession) none,
    .commitDelivery (numberedDelivery 2) .saveLast (some oneSession) none,
    .finalizeSessionSummary (summaryOf oneSession .completed .saveLast),
    .registerDeliveryPolicy (numberedCapture 3).device (some oneSession)
      .saveLast none,
    .commitReplayedDelivery (numberedDelivery 3)]

set_option maxRecDepth 100000 in
/-- The late capture is the one that is kept. -/
theorem keepsLast_lateCapture :
    KeepsLast (machine.trace empty lateCapture)
      (machine.after empty lateCapture) oneSession :=
  keepsLast_of_saveLastStep oneSession lateCapture (by decide +kernel)

end Usac.Host.CaptureStore
