import Usac.Host.CaptureStore
import Usac.Library.Machine

namespace Usac.Host

open Library

/-!
# The threads of a session

The worker of a periodic session, the calls that stop it and the captures that
are recorded for it, with a step for each section under the control lock and
for each call of the device between two of them. The device may fail at every
call. The worker of a sweep is stopped by its own calls, which only ask.
-/

/-- What a session says of its end: `state`, `terminal_reason` and `error`. -/
structure Verdict where
  state : SessionState
  terminalReason : Option String
  error : Option String
  deriving Repr, DecidableEq

namespace Verdict

/-- The session runs. -/
def running : Verdict :=
  ⟨.running, none, none⟩

/-- The requested captures have been taken. -/
def completed : Verdict :=
  ⟨.completed, some "COMPLETED", none⟩

/-- The session has been stopped. -/
def stopped : Verdict :=
  ⟨.stopped, some "STOPPED_BY_USER", none⟩

/-- The session has failed. -/
def failed (error : String) : Verdict :=
  ⟨.failed, some "FAILED", some error⟩

end Verdict

/-- What the threads of a session share: its fields, the summary that the store
holds of it, the count of its decided captures, and the verdicts with which it
has been finalized. -/
structure SessionControl where
  verdict : Verdict
  stopEvent : Bool
  captureCount : Nat
  acquired : Nat
  summary : Verdict
  finalizations : List Verdict
  deriving Repr, DecidableEq

namespace SessionControl

/-- A session that has been saved for the first time. -/
def started : SessionControl where
  verdict := .running
  stopEvent := false
  captureCount := 0
  acquired := 0
  summary := .running
  finalizations := []

/-- A capture of the session is decided in the store. -/
def commit (control : SessionControl) : SessionControl :=
  { control with acquired := control.acquired + 1 }

/-- `record_resolved`: `_record_capture` and `_save_session`. -/
def record (control : SessionControl) : SessionControl :=
  { control with
    captureCount := control.captureCount + 1
    summary := control.verdict }

/-- The state and the event that a stop sets together. -/
def requestStop (control : SessionControl) : SessionControl :=
  { control with
    verdict := { control.verdict with state := .stopping }
    stopEvent := true }

/-- `_finish_session_locked`. The count becomes the one the store has. -/
def finish (control : SessionControl) (verdict : Verdict) : SessionControl :=
  { control with
    verdict := verdict
    captureCount := control.acquired
    summary := verdict
    finalizations := control.finalizations ++ [verdict] }

end SessionControl

/-- What a step of a thread does to the session. -/
inductive ControlEffect where
  | keep
  | requestStop
  | finish (verdict : Verdict)
  deriving Repr, DecidableEq

/-- The session after a step of one of its threads. -/
def SessionControl.apply (control : SessionControl) :
    ControlEffect → SessionControl
  | .keep => control
  | .requestStop => control.requestStop
  | .finish verdict => control.finish verdict

namespace PeriodicSession

/-- Where `_periodic_worker` stands. -/
inductive WorkerStage where
  | waiting
  | entering
  | renewing
  | renewed
  | polling
  | polled
  | completing
  | caught (error : String)
  | stoppingDevice (error : String)
  | concluding (stopped : Bool) (error : String)
  | leaving
  | finished
  deriving Repr, DecidableEq

/-- Where a call of `stop_periodic` stands. -/
inductive StopStage where
  | entering
  | commanding
  | concluding (failure : Option String)
  | clearing
  | finished
  deriving Repr, DecidableEq

/-- Whether the requested count is a finite one that has been reached. -/
def Reached (requestedCount : Nat) (control : SessionControl) : Prop :=
  requestedCount ≠ 0 ∧ requestedCount ≤ control.captureCount
  deriving Decidable

/-- A step of `_periodic_worker`. The failure is what a call of the device
raises. -/
def workerStep
    (requestedCount : Nat)
    (control : SessionControl)
    (failure : Option String) :
    WorkerStage → WorkerStage × ControlEffect
  | .waiting =>
      (if control.stopEvent then .leaving else .entering, .keep)
  | .entering =>
      -- Under the control lock.
      if control.verdict.state ≠ .running then
        (.leaving, .keep)
      else if Reached requestedCount control then
        (.leaving, .finish .completed)
      else
        (.renewing, .keep)
  | .renewing =>
      match failure with
      | none => (.renewed, .keep)
      | some error => (.caught error, .keep)
  | .renewed => (if control.stopEvent then .leaving else .polling, .keep)
  | .polling =>
      match failure with
      | none => (.polled, .keep)
      | some error => (.caught error, .keep)
  | .polled =>
      (if Reached requestedCount control then .completing else .waiting, .keep)
  | .completing =>
      -- Under the control lock, without a look at the state.
      (.leaving, .finish .completed)
  | .caught error =>
      -- Under the control lock.
      if control.stopEvent = false ∧ Reached requestedCount control then
        (.leaving, .finish .completed)
      else if control.stopEvent then
        (.concluding true error, .keep)
      else
        (.stoppingDevice error, .keep)
  | .stoppingDevice error =>
      -- What `controller.stop` raises is passed over.
      (.concluding false error, .keep)
  | .concluding stopped error =>
      -- Under the control lock, with what was read before.
      (.leaving, .finish (if stopped then .stopped else .failed error))
  | .leaving => (.finished, .keep)
  | .finished => (.finished, .keep)

/-- A step of a call of `stop_periodic`. -/
def stopStep
    (control : SessionControl)
    (failure : Option String) :
    StopStage → StopStage × ControlEffect
  | .entering =>
      if control.verdict.state = .running then
        (.commanding, .requestStop)
      else
        (.finished, .keep)
  | .commanding => (.concluding failure, .keep)
  | .concluding none => (.clearing, .finish .stopped)
  | .concluding (some error) => (.clearing, .finish (.failed error))
  | .clearing => (.finished, .keep)
  | .finished => (.finished, .keep)

end PeriodicSession

/-- A periodic session with its worker and the calls that stop it. -/
structure PeriodicSession where
  control : SessionControl
  worker : PeriodicSession.WorkerStage
  calls : List PeriodicSession.StopStage
  deriving Repr, DecidableEq

namespace PeriodicSession

/-- What happens next: a thread takes a step, a call begins, or a thread that
reads the device stream commits or records a capture of the session. -/
inductive Input where
  | worker (failure : Option String)
  | call
  | stop (index : Nat) (failure : Option String)
  | commit
  | record
  deriving Repr, DecidableEq

/-- A session whose worker has been started. -/
def started : PeriodicSession where
  control := .started
  worker := .waiting
  calls := []

/-- A step of one of the calls that stop the session. -/
def stepCall
    (session : PeriodicSession)
    (index : Nat)
    (failure : Option String) :
    PeriodicSession :=
  match session.calls[index]? with
  | none => session
  | some stage =>
      let stepped := stopStep session.control failure stage
      { session with
        control := session.control.apply stepped.2
        calls := session.calls.set index stepped.1 }

/-- A periodic session as a machine. -/
def machine (requestedCount : Nat) : Machine PeriodicSession Input Unit where
  step session
    | .worker failure =>
        let stepped :=
          workerStep requestedCount session.control failure session.worker
        ({ session with
            control := session.control.apply stepped.2
            worker := stepped.1 },
          ())
    | .call => ({ session with calls := session.calls ++ [.entering] }, ())
    | .stop index failure => (session.stepCall index failure, ())
    | .commit => ({ session with control := session.control.commit }, ())
    | .record => ({ session with control := session.control.record }, ())

end PeriodicSession

namespace SweepSession

/-- How `execute_run_plan` ends. -/
inductive PlanEnd where
  | returned
  | runtimeError (error : String)
  | otherError (error : String)
  deriving Repr, DecidableEq

/-- Where `_sweep_worker` stands. -/
inductive WorkerStage where
  | executing
  | concluding (planEnd : PlanEnd)
  | finished
  deriving Repr, DecidableEq

/-- A step of `_sweep_worker`. -/
def workerStep
    (control : SessionControl)
    (planEnd : PlanEnd) :
    WorkerStage → WorkerStage × ControlEffect
  | .executing => (.concluding planEnd, .keep)
  | .concluding .returned => (.finished, .finish .completed)
  | .concluding (.runtimeError error) =>
      (.finished,
        .finish (if control.stopEvent then .stopped else .failed error))
  | .concluding (.otherError error) => (.finished, .finish (.failed error))
  | .finished => (.finished, .keep)

/-- `stop_sweep`, all of it under the control lock. -/
def stop (control : SessionControl) : ControlEffect :=
  if control.verdict.state = .running then .requestStop else .keep

end SweepSession

/-- A sweep with its worker. -/
structure SweepSession where
  control : SessionControl
  worker : SweepSession.WorkerStage
  deriving Repr, DecidableEq

namespace SweepSession

/-- What happens next. -/
inductive Input where
  | worker (planEnd : PlanEnd)
  | stop
  | commit
  | record
  deriving Repr, DecidableEq

/-- A sweep whose worker has been started. -/
def started : SweepSession where
  control := .started
  worker := .executing

/-- A sweep as a machine. -/
def machine : Machine SweepSession Input Unit where
  step session
    | .worker planEnd =>
        let stepped := workerStep session.control planEnd session.worker
        ({ control := session.control.apply stepped.2
           worker := stepped.1 },
          ())
    | .stop =>
        ({ session with
            control := session.control.apply (stop session.control) },
          ())
    | .commit => ({ session with control := session.control.commit }, ())
    | .record => ({ session with control := session.control.record }, ())

end SweepSession

end Usac.Host
