import Usac.Host.Messages
import Usac.Host.ParameterService

namespace Usac.Host

open Library

/-!
# The single-device executor

The operations of `SingleDeviceExecutor` that send commands, over the client
that is replaced behind its back. An operation holds the lock of the executor
from its first check to its end, but the client has a lock of its own, which is
held for one call only. So an operation is a sequence of steps, and a client
can be replaced or lost between any two of them.
-/

/-- `ConfigurationSnapshot`: its state and the values it has been asked for. -/
structure ConfigurationSnapshot (Requested : Type) where
  state : Parameters.ConfigState
  requested : Requested
  deriving DecidableEq

/-- What the executor needs of a parameter service: how changes are merged into
the requested values, which values are unsafe, what they are compiled to,
whether the board may run it, whether it decodes, and whether a field can be
swept, if there is one of that name. -/
structure ExecutorService (Requested Changes : Type) where
  defaults : Requested
  noChanges : Changes
  change : String → Parameters.Value → Changes
  update : Requested → Changes → Except Raised Requested
  safetyErrors : Requested → Except Raised (List FieldValidationError)
  compile : Requested → Except Raised AcquisitionConfigV2
  checkApplied : Requested → AcquisitionConfigV2 → Except Raised Unit
  decodeFields : AcquisitionConfigV2 → Except Raised Unit
  sweepable? : String → Option Bool

namespace ExecutorService

variable {Requested Changes : Type}
  (service : ExecutorService Requested Changes)

/-- `new_draft`. -/
def newDraft : ConfigurationSnapshot Requested :=
  ⟨.draft, service.defaults⟩

/-- `update_draft`. -/
def updateDraft
    (snapshot : ConfigurationSnapshot Requested)
    (changes : Changes) :
    Except Raised (ConfigurationSnapshot Requested) := do
  let requested ← service.update snapshot.requested changes
  pure ⟨.draft, requested⟩

/-- `validate`. -/
def validate (snapshot : ConfigurationSnapshot Requested) :
    Except Raised (ValidationResult (ConfigurationSnapshot Requested)) := do
  match ← service.safetyErrors snapshot.requested with
  | [] =>
      let compiled ← service.compile snapshot.requested
      service.checkApplied snapshot.requested compiled
      pure ⟨{ snapshot with state := .validated }, [], some compiled⟩
  | errors => pure ⟨{ snapshot with state := .draft }, errors, none⟩

/-- `mark_applied`. -/
def markApplied
    (snapshot : ConfigurationSnapshot Requested)
    (readback : AcquisitionConfigV2) :
    Except Raised (ConfigurationSnapshot Requested) := do
  require (snapshot.state = .validated)
    (.valueError "only a VALIDATED configuration can become APPLIED")
  let compiled ← service.compile snapshot.requested
  require (readback = compiled)
    (.valueError "configuration readback does not match the validated target")
  service.decodeFields readback
  pure { snapshot with state := .applied }

end ExecutorService

/-- `PeriodicSchedule`. -/
structure PeriodicSchedule where
  bootId : Bytes 16
  scheduleId : Bytes 16
  profileSha256 : Bytes 32
  deviceConfigCrc32 : UInt32
  periodUs : UInt32
  captureCount : UInt32
  leaseTimeoutMs : UInt32
  deriving DecidableEq

/-- `SweepPlan`: the values a field takes, one after the other. -/
structure SweepPlan where
  field : String
  values : List Parameters.Value

/-- `RunPlanV1`. -/
structure RunPlanV1 where
  loops : Nat
  startDelayMs : Nat
  loopDelayMs : Nat
  sweep : Option SweepPlan
  triggerSource : TriggerSource
  syncTimeoutMs : Nat

/-- A `RunPlanError`. -/
def runPlanError (text : String) : Raised :=
  ⟨.runPlanError, text⟩

/-- `_bounded_integer`. -/
def boundedInteger (name : String) (value maximum : Nat) :
    Except Raised Unit :=
  require (value ≤ maximum)
    (runPlanError (name ++ " must be an integer in 0.." ++ toString maximum))

/-- `_validate_plan`. -/
def RunPlanV1.validate (plan : RunPlanV1) : Except Raised Unit := do
  boundedInteger "Loops" plan.loops 0xFFFFFFFF
  boundedInteger "Start Delay" plan.startDelayMs 3600000
  boundedInteger "Loop Delay" plan.loopDelayMs 3600000
  require (plan.loops ≠ 0)
    (runPlanError "Loops=0 requires the firmware periodic lease path")
  if plan.triggerSource = .externalSyncSlave then
    require (1 ≤ plan.syncTimeoutMs ∧ plan.syncTimeoutMs ≤ 60000)
      (runPlanError "Sync Timeout must be in 1..60000 ms for Slave")
  else
    require (plan.syncTimeoutMs = 0)
      (runPlanError "Sync Timeout must be zero outside Slave mode")

/-- `RunStep`: a validated snapshot with what it is compiled to. -/
structure RunStep (Requested : Type) where
  snapshot : ConfigurationSnapshot Requested
  compiled : AcquisitionConfigV2
  deriving DecidableEq

namespace ExecutorService

variable {Requested Changes : Type}
  (service : ExecutorService Requested Changes)

/-- A snapshot that validates, with what it is compiled to: `_validated_target`,
and the same check in the executor. -/
def validatedTarget
    (snapshot : ConfigurationSnapshot Requested)
    (invalid : List FieldValidationError → Raised) :
    Except Raised (RunStep Requested) := do
  let result ← service.validate snapshot
  match result.errors, result.compiled with
  | [], some compiled => pure ⟨result.snapshot, compiled⟩
  | errors, _ => .error (invalid errors)

/-- What `_validated_target` raises. -/
def cannotBeApplied
    (description : String)
    (errors : List FieldValidationError) :
    Raised :=
  let detail := ", ".intercalate
    (errors.map fun error => error.field ++ ":" ++ error.code)
  runPlanError (description ++ " cannot be applied: " ++ detail)

/-- A point of a sweep, by its index. -/
def sweepPoint (index : Nat) : String :=
  "Sweep point " ++ toString index

/-- The draft of a sweep point. Only a `ValueError` is the plan's own. -/
def sweepDraft
    (baseline : ConfigurationSnapshot Requested)
    (field : String)
    (point : Parameters.Value × Nat) :
    Except Raised (ConfigurationSnapshot Requested) :=
  match service.updateDraft baseline (service.change field point.1) with
  | .ok draft => .ok draft
  | .error raised =>
      if raised.isA .valueError then
        .error (runPlanError
          (sweepPoint point.2 ++ " is invalid: " ++ raised.text))
      else
        .error raised

/-- One point of a sweep, with its index. -/
def sweepTarget
    (baseline : ConfigurationSnapshot Requested)
    (field : String)
    (point : Parameters.Value × Nat) :
    Except Raised (RunStep Requested) := do
  let draft ← service.sweepDraft baseline field point
  service.validatedTarget draft (cannotBeApplied (sweepPoint point.2))

/-- The check that a field can be swept. -/
def requireSweepable (field : String) : Except Raised Unit :=
  match service.sweepable? field with
  | none => .error (runPlanError ("unknown Sweep field " ++ field))
  | some sweepable =>
      require (sweepable = true)
        (runPlanError (field ++ " is not sweepable"))

/-- The targets of a plan. -/
def planTargets
    (baseline : ConfigurationSnapshot Requested)
    (sweep : Option SweepPlan) :
    Except Raised (List (RunStep Requested)) :=
  match sweep with
  | none => do
      pure [← service.validatedTarget baseline (cannotBeApplied "baseline")]
  | some sweep => do
      require (1 ≤ sweep.values.length ∧ sweep.values.length ≤ 256)
        (runPlanError "Sweep must contain 1..256 discrete points")
      service.requireSweepable sweep.field
      sweep.values.zipIdx.mapM (service.sweepTarget baseline sweep.field)

/-- `compile_run_steps`. -/
def compileRunSteps
    (baseline : ConfigurationSnapshot Requested)
    (plan : RunPlanV1) :
    Except Raised (List (RunStep Requested)) := do
  plan.validate
  let targets ← service.planTargets baseline plan.sweep
  pure (targets.flatMap (List.replicate plan.loops))

end ExecutorService

/-- The state behind the lock of a `SingleDeviceExecutor`. -/
structure Executor (Requested : Type) where
  snapshot : ConfigurationSnapshot Requested
  appliedConfig : Option AcquisitionConfigV2
  sessionGeneration : Nat
  deriving DecidableEq

namespace Executor

variable {Requested Changes : Type}
  (service : ExecutorService Requested Changes)

/-- `_refresh_session_unlocked`, for the generation the client publishes. -/
def refreshSession
    (executor : Executor Requested)
    (generation : Nat) :
    Except Raised (Executor Requested) :=
  if generation = executor.sessionGeneration then
    .ok executor
  else do
    let snapshot ← service.updateDraft executor.snapshot service.noChanges
    pure ⟨snapshot, none, generation⟩

/-- The conflict of a caller with the applied configuration. -/
def conflict (text : String) : Raised :=
  ⟨.configConflictError, text⟩

/-- The configuration in force, if there is one. -/
def requireApplied
    (executor : Executor Requested) :
    Except Raised AcquisitionConfigV2 :=
  match executor.snapshot.state, executor.appliedConfig with
  | .applied, some config => .ok config
  | _, _ => .error (conflict "no APPLIED configuration is available")

/-- `_require_applied_identity_unlocked`. -/
def requireAppliedIdentity
    (executor : Executor Requested)
    (profileSha256 : String)
    (deviceConfigCrc32 : UInt32) :
    Except Raised AcquisitionConfigV2 := do
  let config ← executor.requireApplied
  require (hex config.profileSha256.toList = profileSha256)
    (conflict "expected profile does not match APPLIED profile")
  require (config.deviceConfigCrc32 = deviceConfigCrc32)
    (conflict "expected configuration CRC does not match APPLIED profile")
  pure config

/-- `_validate_trigger`. -/
def validateTrigger
    (triggerSource : TriggerSource)
    (syncTimeoutMs : Nat) :
    Except Raised Unit :=
  if triggerSource = .externalSyncSlave then
    require (1 ≤ syncTimeoutMs ∧ syncTimeoutMs ≤ 60000)
      (.valueError "slave sync_timeout_ms must be in 1..60000")
  else
    require (syncTimeoutMs = 0)
      (.valueError "sync_timeout_ms must be zero outside slave mode")

/-- The end of `_apply_validated`, once the readback is there. -/
def publishApplied
    (executor : Executor Requested)
    (target : RunStep Requested)
    (readback : AcquisitionConfigV2)
    (generation : Nat) :
    Except Raised (Executor Requested) := do
  let applied ← service.markApplied target.snapshot readback
  pure {
    executor with
    snapshot := applied
    appliedConfig := some target.compiled
    sessionGeneration := generation
  }

end Executor

/-! ## Operations as steps -/

/-- What is left of a run plan, with the configuration it restores. -/
structure PlanRest (Requested : Type) where
  steps : List (RunStep Requested)
  baselineSnapshot : ConfigurationSnapshot Requested
  baselineConfig : AcquisitionConfigV2
  deriving DecidableEq

/-- Where the operation stands that holds the lock of the executor. A
configuration that is applied for a plan is followed by a capture; one that is
applied for `apply_changes`, or to restore the baseline of a plan, by nothing.
`session` is the generation of the client whose `apply_config` has returned. -/
inductive Work (Requested : Type) where
  | applying (target : RunStep Requested) (plan : Option (PlanRest Requested))
  | recording
      (target : RunStep Requested)
      (readback : AcquisitionConfigV2)
      (session : Nat)
      (plan : Option (PlanRest Requested))
  | capturing
      (config : AcquisitionConfigV2)
      (plan : Option (PlanRest Requested))
  | starting (schedule : PeriodicSchedule)
  | pausing (plan : PlanRest Requested)
  deriving DecidableEq

/-- The executor with the operation in its lock, and the client behind it:
whether a session is there, and its generation. -/
structure ExecutorRun (Requested : Type) where
  executor : Executor Requested
  connected : Bool
  generation : Nat
  work : Option (Work Requested)

/-- An operation of the executor that looks at its configuration. -/
inductive ExecutorCall (Changes : Type) where
  | snapshot
  | updateDraft (changes : Changes)
  | applyChanges (changes : Changes)
  | applyDraft
  | captureOnce
      (expectedProfileSha256 : String)
      (expectedDeviceConfigCrc32 : UInt32)
      (triggerSource : TriggerSource)
      (syncTimeoutMs : Nat)
  | startPeriodic (schedule : PeriodicSchedule)
  | executeRunPlan (plan : RunPlanV1)

/-- How a call of the client ends. `apply_config` returns a readback. A call
that raises is over, a call that loses the connection retires the client. -/
inductive CallEnd where
  | returns (readback : AcquisitionConfigV2)
  | raises
  | loses
  deriving DecidableEq

/-- What happens next: a new client is published, the client is retired, an
operation enters the lock, the client call of the operation ends, or the
operation goes on by itself. -/
inductive ExecutorInput (Changes : Type) where
  | replace
  | close
  | call (operation : ExecutorCall Changes)
  | answer (ending : CallEnd)
  | proceed (cancelled : Bool)

/-- What a step sends, and to which client. A SET_CONFIG that has been answered
has its readback. -/
inductive SentCommand where
  | nothing
  | setConfig
      (session : Nat)
      (config : AcquisitionConfigV2)
      (readback : Option AcquisitionConfigV2)
  | captureOnce (session : Nat) (config : AcquisitionConfigV2)
  | startPeriodic (session : Nat) (schedule : PeriodicSchedule)
  deriving DecidableEq

namespace ExecutorRun

variable {Requested Changes : Type}
  (service : ExecutorService Requested Changes)

/-- What an executor raises for a configuration that does not validate. Its text
leaves out the errors. -/
def notValidated (_ : List FieldValidationError) : Raised :=
  ⟨.configValidationError,
    "configuration did not pass semantic and hardware validation"⟩

/-- The work an operation begins once the session has been refreshed, with the
executor it leaves. -/
def enter
    (executor : Executor Requested) :
    ExecutorCall Changes →
      Except Raised (Executor Requested × Option (Work Requested))
  | .snapshot => pure (executor, none)
  | .updateDraft changes => do
      let snapshot ← service.updateDraft executor.snapshot changes
      pure ({ executor with snapshot := snapshot }, none)
  | .applyChanges changes => do
      let draft ← service.updateDraft executor.snapshot changes
      let target ← service.validatedTarget draft notValidated
      pure (executor, some (.applying target none))
  | .applyDraft => do
      let target ← service.validatedTarget executor.snapshot notValidated
      pure (executor, some (.applying target none))
  | .captureOnce profileSha256 deviceConfigCrc32 triggerSource
      syncTimeoutMs => do
      let config ←
        executor.requireAppliedIdentity profileSha256 deviceConfigCrc32
      Executor.validateTrigger triggerSource syncTimeoutMs
      pure (executor, some (.capturing config none))
  | .startPeriodic schedule => do
      let _ ← executor.requireAppliedIdentity
        (hex schedule.profileSha256.toList) schedule.deviceConfigCrc32
      pure (executor, some (.starting schedule))
  | .executeRunPlan plan => do
      let baselineConfig ← executor.requireApplied
      let steps ← service.compileRunSteps executor.snapshot plan
      pure (executor,
        some (.pausing ⟨steps, executor.snapshot, baselineConfig⟩))

/-- The `finally` clause of `execute_run_plan`. -/
def restore
    (executor : Executor Requested)
    (plan : PlanRest Requested) :
    Option (Work Requested) :=
  if executor.appliedConfig = some plan.baselineConfig then
    none
  else
    match service.validatedTarget plan.baselineSnapshot notValidated with
    | .ok baseline => some (.applying baseline none)
    | .error _ => none

/-- What follows an exception in an operation. -/
def afterFailure
    (executor : Executor Requested)
    (plan : Option (PlanRest Requested)) :
    Option (Work Requested) :=
  plan.bind (restore service executor)

/-- The next step of a plan: a configuration, or the capture it is applied for,
or the end. -/
def nextStep
    (executor : Executor Requested)
    (plan : PlanRest Requested)
    (cancelled : Bool) :
    Option (Work Requested) :=
  match plan.steps with
  | [] => restore service executor plan
  | step :: rest =>
      if cancelled then
        restore service executor plan
      else if executor.appliedConfig ≠ some step.compiled then
        some (.applying step (some { plan with steps := rest }))
      else
        some (.capturing step.compiled (some { plan with steps := rest }))

/-- The client once its connection is lost. -/
def disconnect (run : ExecutorRun Requested) : ExecutorRun Requested :=
  if run.connected then
    { run with connected := false, generation := run.generation + 1 }
  else
    run

/-- The run once an operation has entered the lock, or has been refused. -/
def accept
    (run : ExecutorRun Requested)
    (operation : ExecutorCall Changes) :
    ExecutorRun Requested :=
  match run.executor.refreshSession service run.generation with
  | .error _ => run
  | .ok executor =>
      match enter service executor operation with
      | .error _ => { run with executor := executor }
      | .ok (entered, work) => { run with executor := entered, work := work }

/-- The run after a client call that has failed. -/
def fail
    (run : ExecutorRun Requested)
    (plan : Option (PlanRest Requested)) :
    ExecutorRun Requested :=
  { run with work := afterFailure service run.executor plan }

/-- A call of the client ends. Without a client nothing is sent. -/
def answer
    (run : ExecutorRun Requested)
    (work : Work Requested)
    (ending : CallEnd) :
    ExecutorRun Requested × SentCommand :=
  match work, ending with
  | .applying target plan, .returns readback =>
      if run.connected then
        ({ run with
            work := some (.recording target readback run.generation plan) },
          .setConfig run.generation target.compiled (some readback))
      else
        (run.fail service plan, .nothing)
  | .applying target plan, ending =>
      if run.connected then
        ((if ending = .loses then run.disconnect else run).fail service plan,
          .setConfig run.generation target.compiled none)
      else
        (run.fail service plan, .nothing)
  | .capturing config plan, ending =>
      if run.connected then
        (match ending, plan with
          | .returns _, some plan => { run with work := some (.pausing plan) }
          | .returns _, none => { run with work := none }
          | .raises, plan => run.fail service plan
          | .loses, plan => run.disconnect.fail service plan,
          .captureOnce run.generation config)
      else
        (run.fail service plan, .nothing)
  | .starting schedule, ending =>
      if run.connected then
        ({ (if ending = .loses then run.disconnect else run) with
            work := none },
          .startPeriodic run.generation schedule)
      else
        ({ run with work := none }, .nothing)
  | _, _ => (run, .nothing)

/-- The operation goes on by itself: it publishes what it has applied, or takes
the next step of its plan. -/
def proceed
    (run : ExecutorRun Requested)
    (work : Work Requested)
    (cancelled : Bool) :
    ExecutorRun Requested :=
  match work with
  | .recording target readback _ plan =>
      match run.executor.publishApplied service target readback
          run.generation with
      | .error _ => run.fail service plan
      | .ok executor =>
          { run with
            executor := executor
            work :=
              plan.map fun rest => .capturing target.compiled (some rest) }
  | .pausing plan =>
      { run with work := nextStep service run.executor plan cancelled }
  | _ => run

/-- The executor and its client as a machine. -/
def machine :
    Machine (ExecutorRun Requested) (ExecutorInput Changes) SentCommand where
  step run
    | .replace =>
        ({ run with connected := true, generation := run.generation + 1 },
          .nothing)
    | .close => (run.disconnect, .nothing)
    | .call operation =>
        match run.work with
        | none => (run.accept service operation, .nothing)
        | some _ => (run, .nothing)
    | .answer ending =>
        match run.work with
        | some work => run.answer service work ending
        | none => (run, .nothing)
    | .proceed cancelled =>
        match run.work with
        | some work => (run.proceed service work cancelled, .nothing)
        | none => (run, .nothing)

/-- An executor that has just been built, over a client. -/
def started (connected : Bool) : ExecutorRun Requested where
  executor := ⟨service.newDraft, none, 0⟩
  connected := connected
  generation := 0
  work := none

end ExecutorRun

end Usac.Host
