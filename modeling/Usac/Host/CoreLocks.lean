import Usac.Host.CaptureStore
import Usac.Library.LockProgram

namespace Usac.Host

open Library

/-!
# The locks of the core

The calls of the application and its threads, as the programs of locks they
run: the session lock of the application, the lock of the executor, that of the
reconnecting client, and the control lock of each session. The store has no
lock among these, so a step that only uses the store is an `act`.
-/

/-- The locks. The control lock of a periodic session is an `RLock`, that of a
sweep is not. -/
inductive CoreLock where
  | session
  | executor
  | client
  | periodicControl (sessionId : SessionId)
  | sweepControl (sessionId : SessionId)
  deriving DecidableEq

/-- A program of the core. A family of programs is one for each session. -/
abbrev CoreProgram := LockProgram CoreLock SessionId

namespace CoreLock

/-- The locks made with `threading.RLock`. -/
def isReentrant : CoreLock → Bool
  | session => false
  | executor => true
  | client => true
  | periodicControl _ => true
  | sweepControl _ => false

/-- The order in which the locks are nested. -/
def level : CoreLock → Nat
  | session => 0
  | executor => 1
  | client => 2
  | periodicControl _ => 3
  | sweepControl _ => 3

/-- The discipline of the core. -/
def discipline : LockDiscipline CoreLock Nat where
  reentrant := isReentrant
  rank := level

end CoreLock

namespace CoreProgram

open LockProgram

/-- Statements one after the other. -/
def statements : List CoreProgram → CoreProgram
  | [] => act
  | [statement] => statement
  | statement :: rest => sequence statement (statements rest)

/-- A statement that may be passed over. -/
def optional (statement : CoreProgram) : CoreProgram :=
  branch act statement

/-! ## The reconnecting client -/

/-- `__getattr__`. -/
def getAttribute : CoreProgram :=
  locked .client act

/-- A method of the client, called through `invoke`. -/
def invoke (method : CoreProgram) : CoreProgram :=
  statements [getAttribute, locked .client method]

/-- `replace` and `close`. -/
def replace : CoreProgram :=
  statements [locked .client act, act]

/-! ## Captures -/

/-- `_persist_capture`. Every caller passes its snapshot, so the executor is not
asked for one. -/
def persistCapture (onResolved : CoreProgram) : CoreProgram :=
  statements [act, invoke act, invoke act, act, onResolved, invoke act,
    invoke act]

/-- `record_resolved` of a session. -/
def recordResolved (control : CoreLock) : CoreProgram :=
  locked control act

/-- `persist_interleaved` of a periodic session. -/
def persistInterleaved (sessionId : SessionId) : CoreProgram :=
  optional (persistCapture (recordResolved (.periodicControl sessionId)))

/-- `_response`, with the handler of any periodic session. -/
def response : CoreProgram :=
  loop (branch act (family persistInterleaved))

/-- A method of the client that waits for a response. -/
def deviceCall : CoreProgram :=
  invoke (statements [act, response])

/-! ## The executor -/

/-- `snapshot`, `update_draft`, `preview_changes`, `applied_etag` and
`require_applied_identity`. -/
def executorState : CoreProgram :=
  locked .executor act

/-- `status`, `apply_changes`, `start_periodic`, `renew_periodic` and
`stop_periodic` of the executor. -/
def executorCommand : CoreProgram :=
  locked .executor (statements [act, deviceCall, act])

/-- `try_device_view`, which only refreshes when the executor is free. -/
def tryDeviceView : CoreProgram :=
  statements [act, optional (attempted .executor
    (caught (statements [act, deviceCall, invoke act]) act))]

/-- `capture_once` of the executor. -/
def executorCaptureOnce (onCapture : CoreProgram) : CoreProgram :=
  locked .executor (statements [act, deviceCall, onCapture])

/-- `poll_captures` of the executor. -/
def executorPollCaptures (onCapture : CoreProgram) : CoreProgram :=
  locked .executor (statements [act, invoke act, loop onCapture])

/-- `execute_run_plan`. -/
def executeRunPlan (onCapture : CoreProgram) : CoreProgram :=
  locked .executor (statements [act,
    ensured
      (loop (statements
        [act, optional deviceCall, deviceCall, act, onCapture, act]))
      (optional deviceCall)])

/-! ## The application -/

/-- A use of the session lock that only looks at, or sets, what is behind it. -/
def sessionState : CoreProgram :=
  locked .session act

/-- `device`. -/
def device : CoreProgram :=
  statements [sessionState, tryDeviceView]

/-- `config`, `validate_config` and `etag`. -/
def config : CoreProgram :=
  executorState

/-- `save_draft`. -/
def saveDraft : CoreProgram :=
  statements [sessionState, executorState]

/-- `apply_config`. -/
def applyConfig : CoreProgram :=
  statements [act, sessionState, executorState, sessionState,
    ensured executorCommand sessionState]

/-- `capture_once`. -/
def captureOnce : CoreProgram :=
  statements [act, sessionState, act, sessionState,
    ensured
      (caught (executorCaptureOnce (statements [act, persistCapture act])) act)
      sessionState,
    act]

/-- `_clear_async_capture_handler`. -/
def clearAsyncCaptureHandler : CoreProgram :=
  statements [getAttribute, optional (locked .client act)]

/-- `start_periodic`. -/
def startPeriodic : CoreProgram :=
  statements [act,
    locked .session (statements [act, getAttribute, act, executorState,
      act, getAttribute,
      caught
        (statements [optional (locked .client act), executorCommand])
        (statements [clearAsyncCaptureHandler, act]),
      act]),
    act]

/-- `start_sweep`. -/
def startSweep : CoreProgram :=
  statements [act, executorState, act, executorState, act,
    locked .session act, act]

/-- `_sweep_worker`. -/
def sweepWorker (sessionId : SessionId) : CoreProgram :=
  statements [
    caught
      (executeRunPlan (statements
        [act, persistCapture (recordResolved (.sweepControl sessionId))]))
      (locked (.sweepControl sessionId) act),
    optional (locked (.sweepControl sessionId) act)]

/-- `sweep` and `stop_sweep`. -/
def sweep (sessionId : SessionId) : CoreProgram :=
  statements [act, sessionState, locked (.sweepControl sessionId) act]

/-- One turn of the loop of `_periodic_worker`. -/
def periodicTurn (sessionId : SessionId) : CoreProgram :=
  statements [act, locked (.periodicControl sessionId) act,
    optional executorCommand, act,
    executorPollCaptures (persistInterleaved sessionId),
    optional (locked (.periodicControl sessionId) act)]

/-- The `except` clause of `_periodic_worker`. -/
def periodicFailure (sessionId : SessionId) : CoreProgram :=
  statements [locked (.periodicControl sessionId) act,
    optional (caught executorCommand act),
    locked (.periodicControl sessionId) act]

/-- `_periodic_worker`. -/
def periodicWorker (sessionId : SessionId) : CoreProgram :=
  ensured
    (caught (loop (periodicTurn sessionId)) (periodicFailure sessionId))
    (statements [locked (.periodicControl sessionId) act,
      optional clearAsyncCaptureHandler])

/-- `stop_periodic`. -/
def stopPeriodic (sessionId : SessionId) : CoreProgram :=
  statements [act, sessionState, act,
    locked (.periodicControl sessionId) act,
    optional (ensured
      (statements [
        caught executorCommand
          (statements [locked (.periodicControl sessionId) act, act]),
        optional (locked (.periodicControl sessionId) act)])
      clearAsyncCaptureHandler),
    locked (.periodicControl sessionId) act]

/-- `session`, which may find either kind of session. -/
def sessionView (sessionId : SessionId) : CoreProgram :=
  statements [act, sessionState,
    branch
      (locked (.periodicControl sessionId) act)
      (locked (.sweepControl sessionId) act)]

end CoreProgram

/-- The calls and the threads of the core. -/
inductive CoreThread where
  | device
  | config
  | saveDraft
  | applyConfig
  | captureOnce
  | startPeriodic
  | stopPeriodic (sessionId : SessionId)
  | startSweep
  | sweep (sessionId : SessionId)
  | sessionView (sessionId : SessionId)
  | periodicWorker (sessionId : SessionId)
  | sweepWorker (sessionId : SessionId)
  | replace

namespace CoreThread

/-- The program of a thread. -/
def program : CoreThread → CoreProgram
  | device => CoreProgram.device
  | config => CoreProgram.config
  | saveDraft => CoreProgram.saveDraft
  | applyConfig => CoreProgram.applyConfig
  | captureOnce => CoreProgram.captureOnce
  | startPeriodic => CoreProgram.startPeriodic
  | stopPeriodic sessionId => CoreProgram.stopPeriodic sessionId
  | startSweep => CoreProgram.startSweep
  | sweep sessionId => CoreProgram.sweep sessionId
  | sessionView sessionId => CoreProgram.sessionView sessionId
  | periodicWorker sessionId => CoreProgram.periodicWorker sessionId
  | sweepWorker sessionId => CoreProgram.sweepWorker sessionId
  | replace => CoreProgram.replace

/-- A thread together with what it does. -/
abbrev Started := (thread : CoreThread) × thread.program.Behaviour

/-- The threads of the core as a machine. -/
def machine :
    Machine (LockState CoreLock) (LockInput Started) Unit :=
  lockMachine CoreLock.isReentrant fun started => started.2.actions

end CoreThread

namespace CoreProgram

open LockProgram

/-- A program of the core keeps the order of the locks. -/
abbrev Keeps (held : List CoreLock) (program : CoreProgram) : Prop :=
  program.Respects CoreLock.discipline held

/-- Every lock held is below a level. -/
def Below (level : Nat) (held : List CoreLock) : Prop :=
  ∀ lock ∈ held, lock.level < level

/-- The client can be used: it is held, or everything held is below it. -/
def ClientReady (held : List CoreLock) : Prop :=
  Below 3 held ∧ (.client ∈ held ∨ Below 2 held)

variable {held : List CoreLock} {lower higher : Nat}

theorem Below.nil : Below lower [] := by
  intro lock member
  cases member

theorem Below.cons
    {lock : CoreLock}
    (below : Below higher held)
    (under : lock.level < higher) :
    Below higher (lock :: held) := by
  intro other member
  rcases List.mem_cons.1 member with rfl | rest
  · exact under
  · exact below other rest

theorem Below.mono
    (below : Below lower held)
    (raised : lower ≤ higher) :
    Below higher held :=
  fun lock member => (below lock member).trans_le raised

theorem ClientReady.of_below (below : Below 2 held) : ClientReady held :=
  ⟨below.mono (by decide), .inr below⟩

theorem ClientReady.hold (ready : ClientReady held) :
    ClientReady (.client :: held) :=
  ⟨ready.1.cons (by decide), .inl List.mem_cons_self⟩

/-- A block on a lock above all others. -/
theorem keeps_locked
    {lock : CoreLock}
    {body : CoreProgram}
    (below : Below lock.level held)
    (inside : Keeps (lock :: held) body) :
    Keeps held (locked lock body) :=
  ⟨.inr below, inside⟩

theorem keeps_optional
    {program : CoreProgram}
    (keeps : Keeps held program) :
    Keeps held (optional program) :=
  ⟨trivial, keeps⟩

section Client

variable (ready : ClientReady held)

include ready

/-- A block on the client, which may be held already. -/
theorem keeps_client
    {method : CoreProgram}
    (inside : Keeps (.client :: held) method) :
    Keeps held (locked .client method) := by
  refine ⟨?_, inside⟩
  rcases ready.2 with already | below
  · exact .inl ⟨already, rfl⟩
  · exact .inr below

theorem keeps_invoke
    {method : CoreProgram}
    (inside : Keeps (.client :: held) method) :
    Keeps held (invoke method) :=
  ⟨keeps_client ready trivial, keeps_client ready inside⟩

/-- A capture is persisted in order when its accounting is. -/
theorem keeps_persistCapture
    {onResolved : CoreProgram}
    (resolved : Keeps held onResolved) :
    Keeps held (persistCapture onResolved) := by
  have called := @keeps_invoke _ ready act trivial
  exact ⟨trivial, called, called, trivial, resolved, called, called⟩

theorem keeps_recordResolved (control : CoreLock) (top : control.level = 3) :
    Keeps held (recordResolved control) :=
  keeps_locked (top ▸ ready.1) trivial

theorem keeps_persistInterleaved (sessionId : SessionId) :
    Keeps held (persistInterleaved sessionId) :=
  keeps_optional
    (keeps_persistCapture ready (keeps_recordResolved ready _ rfl))

/-- A handler runs under the lock of the client, and takes only what is above
it. -/
theorem keeps_deviceCall : Keeps held deviceCall := by
  refine keeps_invoke ready ⟨trivial, trivial, fun sessionId => ?_⟩
  exact keeps_persistInterleaved ready.hold sessionId

theorem keeps_clearAsyncCaptureHandler :
    Keeps held clearAsyncCaptureHandler :=
  ⟨keeps_client ready trivial, trivial, keeps_client ready trivial⟩

end Client

section Executor

variable (below : Below 1 held)

include below

theorem ready_in_executor : ClientReady (.executor :: held) :=
  .of_below ((below.mono (by decide)).cons (by decide))

theorem keeps_executorState : Keeps held executorState :=
  keeps_locked below trivial

theorem keeps_executorCommand : Keeps held executorCommand :=
  keeps_locked below
    ⟨trivial, keeps_deviceCall (ready_in_executor below), trivial⟩

theorem keeps_tryDeviceView : Keeps held tryDeviceView := by
  have ready := ready_in_executor below
  exact ⟨trivial, trivial,
    ⟨trivial, keeps_deviceCall ready, keeps_invoke ready trivial⟩, trivial⟩

theorem keeps_executorCaptureOnce
    {onCapture : CoreProgram}
    (captured : Keeps (.executor :: held) onCapture) :
    Keeps held (executorCaptureOnce onCapture) :=
  keeps_locked below
    ⟨trivial, keeps_deviceCall (ready_in_executor below), captured⟩

theorem keeps_executorPollCaptures
    {onCapture : CoreProgram}
    (captured : Keeps (.executor :: held) onCapture) :
    Keeps held (executorPollCaptures onCapture) :=
  keeps_locked below
    ⟨trivial, keeps_invoke (ready_in_executor below) trivial, captured⟩

theorem keeps_executeRunPlan
    {onCapture : CoreProgram}
    (captured : Keeps (.executor :: held) onCapture) :
    Keeps held (executeRunPlan onCapture) := by
  have called := keeps_deviceCall (ready_in_executor below)
  exact keeps_locked below
    ⟨trivial,
      ⟨trivial, keeps_optional called, called, trivial, captured, trivial⟩,
      keeps_optional called⟩

end Executor

/-! ## The calls and the threads -/

theorem keeps_sessionState : Keeps [] sessionState :=
  keeps_locked Below.nil trivial

theorem keeps_applyConfig : Keeps [] applyConfig :=
  ⟨trivial, keeps_sessionState, keeps_executorState Below.nil,
    keeps_sessionState, keeps_executorCommand Below.nil, keeps_sessionState⟩

theorem keeps_captureOnce : Keeps [] captureOnce := by
  have persisted :=
    @keeps_persistCapture _ (ready_in_executor Below.nil) act trivial
  exact ⟨trivial, keeps_sessionState, trivial, keeps_sessionState,
    ⟨⟨keeps_executorCaptureOnce Below.nil ⟨trivial, persisted⟩, trivial⟩,
      keeps_sessionState⟩, trivial⟩

/-- A schedule is started under the session lock, which is below all others. -/
theorem keeps_startPeriodic : Keeps [] startPeriodic := by
  have inside : Below 1 [.session] := Below.nil.cons (by decide)
  have ready : ClientReady [.session] := .of_below (inside.mono (by decide))
  have looked : Keeps [.session] (locked .client act) :=
    keeps_client ready trivial
  refine ⟨trivial, keeps_locked Below.nil ?_, trivial⟩
  exact ⟨trivial, looked, trivial, keeps_executorState inside, trivial, looked,
    ⟨⟨keeps_optional looked, keeps_executorCommand inside⟩,
      keeps_clearAsyncCaptureHandler ready, trivial⟩, trivial⟩

theorem keeps_startSweep : Keeps [] startSweep := by
  have state := keeps_executorState Below.nil
  exact ⟨trivial, state, trivial, state, trivial,
    keeps_locked Below.nil trivial, trivial⟩

theorem keeps_control (control : CoreLock) : Keeps [] (locked control act) :=
  keeps_locked (fun _ member => absurd member List.not_mem_nil) trivial

theorem keeps_sweepWorker (sessionId : SessionId) :
    Keeps [] (sweepWorker sessionId) := by
  have ready := ready_in_executor Below.nil
  have persisted :=
    keeps_persistCapture ready
      (keeps_recordResolved ready (.sweepControl sessionId) rfl)
  have finished := keeps_control (.sweepControl sessionId)
  exact ⟨⟨keeps_executeRunPlan Below.nil ⟨trivial, persisted⟩, finished⟩,
    keeps_optional finished⟩

theorem keeps_periodicWorker (sessionId : SessionId) :
    Keeps [] (periodicWorker sessionId) := by
  have control := keeps_control (.periodicControl sessionId)
  have command := keeps_executorCommand Below.nil
  have polled :=
    keeps_executorPollCaptures Below.nil
      (keeps_persistInterleaved (ready_in_executor Below.nil) sessionId)
  have cleared :=
    keeps_clearAsyncCaptureHandler
      (.of_below (Below.nil : Below 2 []))
  refine ⟨⟨?_, ?_⟩, control, keeps_optional cleared⟩
  · exact ⟨trivial, control, keeps_optional command, trivial, polled,
      keeps_optional control⟩
  · exact ⟨control, keeps_optional ⟨command, trivial⟩, control⟩

theorem keeps_stopPeriodic (sessionId : SessionId) :
    Keeps [] (stopPeriodic sessionId) := by
  have control := keeps_control (.periodicControl sessionId)
  have cleared :=
    keeps_clearAsyncCaptureHandler
      (.of_below (Below.nil : Below 2 []))
  exact ⟨trivial, keeps_sessionState, trivial, control,
    keeps_optional
      ⟨⟨⟨keeps_executorCommand Below.nil, control, trivial⟩,
        keeps_optional control⟩, cleared⟩,
    control⟩

end CoreProgram

namespace CoreThread

open CoreProgram

/-- Every call and every thread of the core keeps the order of the locks. -/
theorem keeps_program (thread : CoreThread) : Keeps [] thread.program := by
  cases thread with
  | device => exact ⟨keeps_sessionState, keeps_tryDeviceView Below.nil⟩
  | config => exact keeps_executorState Below.nil
  | saveDraft => exact ⟨keeps_sessionState, keeps_executorState Below.nil⟩
  | applyConfig => exact keeps_applyConfig
  | captureOnce => exact keeps_captureOnce
  | startPeriodic => exact keeps_startPeriodic
  | stopPeriodic sessionId => exact keeps_stopPeriodic sessionId
  | startSweep => exact keeps_startSweep
  | sweep sessionId =>
      exact ⟨trivial, keeps_sessionState, keeps_control _⟩
  | sessionView sessionId =>
      exact ⟨trivial, keeps_sessionState, keeps_control _, keeps_control _⟩
  | periodicWorker sessionId => exact keeps_periodicWorker sessionId
  | sweepWorker sessionId => exact keeps_sweepWorker sessionId
  | replace => exact ⟨keeps_control _, trivial⟩

/-- However the threads of the core interleave, none of them ever waits, through
any number of others, for a lock it holds itself. -/
theorem core_never_deadlocks
    (inputs : List (LockInput Started))
    (thread : Nat) :
    ¬Relation.TransGen
      (LockState.WaitsFor CoreLock.isReentrant (machine.after [] inputs))
      thread thread := by
  have ordered :
      ∀ started : Started,
        CoreLock.discipline.Ordered [] started.2.actions :=
    fun started =>
      (LockProgram.Respects.ordered started.2.runs
        (keeps_program started.1)).1
  exact (LockDiscipline.keeps_after ordered inputs).no_circle thread

end CoreThread

end Usac.Host
