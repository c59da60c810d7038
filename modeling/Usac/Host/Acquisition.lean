import Usac.Host.CaptureStore
import Usac.Library.Machine

namespace Usac.Host

open Library

/-!
# Acquisition tasks

The tasks of the application (`capture_once`, `start_periodic`, `start_sweep`)
over the capture store, with the device that captures for them and the bridge
that replays what the core has not acknowledged. A task is a thread of atomic
steps, and a run is any interleaving of the steps of all tasks with those of
the device and the bridge.
-/

/-- The `kind` of a session. -/
inductive TaskKind where
  | single
  | periodic
  | sweep
  deriving Repr, DecidableEq

/-- The arguments of a task that its captures are decided under. -/
structure TaskPlan where
  kind : TaskKind
  sessionId : SessionId
  savePolicy : SavePolicy
  groupId : Option GroupId
  texts : PlanTexts
  deriving DecidableEq

/-- The policy a task stores its captures under. A single capture is its own
latest, so it is archived at once. -/
def TaskPlan.storagePolicy (plan : TaskPlan) : SavePolicy :=
  if plan.kind = .single ∧ plan.savePolicy = .saveLast then
    .saveAll
  else
    plan.savePolicy

/-- Where a task stands. -/
inductive TaskStage where
  | entered
  | checked
  | ready
  | identified (device : DeviceBoot)
  | registered (device : DeviceBoot)
  | running
  | cleaningUp (device : DeviceBoot)
  | finished
  deriving DecidableEq

/-- A task, with the boots its commands have reached. -/
structure Task where
  plan : TaskPlan
  stage : TaskStage
  summary : SessionSummary
  commanded : List DeviceBoot
  deriving DecidableEq

namespace Task

/-- A task that has just been called. -/
def new (plan : TaskPlan) : Task where
  plan := plan
  stage := .entered
  summary := {
    sessionId := plan.sessionId
    state := .running
    savePolicy := plan.savePolicy
    acquiredCount := 0
    savedCount := 0
    discardedByPolicyCount := 0
    lastCaptureId := none
    lastSavedCaptureId := none
  }
  commanded := []

/-- Whether the task is an active session of the application. -/
def isActive (task : Task) : Bool :=
  task.stage = .running && task.plan.kind ≠ .single

/-- Whether the task is at its call of the device. -/
def callsDevice (task : Task) : Bool :=
  match task.plan.kind, task.stage with
  | .periodic, .registered _ => true
  | .single, .running => true
  | .sweep, .running => true
  | _, _ => false

/-- Whether the task takes the captures that reach it. A periodic task does so
from the moment its handler is installed, before it is started. -/
def takesCaptures (task : Task) : Bool :=
  task.stage = .running || task.callsDevice

/-- The accounting of `_record_capture`. -/
def record
    (task : Task)
    (captureId : Bytes 16)
    (resolution : CaptureResolution) :
    Task :=
  let counted := { task.summary with
    acquiredCount := task.summary.acquiredCount + 1
    lastCaptureId := some captureId }
  { task with
    summary :=
      match resolution with
      | .rawArchived =>
          { counted with
            savedCount := counted.savedCount + 1
            lastSavedCaptureId := some captureId }
      | .discardedByPolicy =>
          { counted with
            discardedByPolicyCount := counted.discardedByPolicyCount + 1 }
      | .rollingLatest =>
          { counted with
            discardedByPolicyCount := counted.acquiredCount - 1 } }

end Task

/-- A capture the device has taken for a task. The bridge may hold it, and
deliver it any number of times, until the core has decided it. -/
structure Produced where
  identity : CaptureIdentity
  producer : Nat
  decided : Bool
  deriving DecidableEq

/-- The application, its store, the boot of the published device session, and
what the device has captured. -/
structure Acquisition where
  store : CaptureStore
  published : Option DeviceBoot
  sessionLock : Option Nat
  tasks : List Task
  captures : List Produced

namespace Acquisition

/-- What a step returns or raises. -/
abbrev Output := Option (Except Raised CoreCommitResult)

/-- The application before its first call, over a new store. -/
def started : Acquisition where
  store := .empty
  published := none
  sessionLock := none
  tasks := []
  captures := []

/-- A change of one task. -/
def changeTask
    (acquisition : Acquisition)
    (index : Nat)
    (change : Task → Task) :
    Acquisition :=
  { acquisition with tasks := acquisition.tasks.modify index change }

/-- A task at its next stage. -/
def moveTo
    (acquisition : Acquisition)
    (index : Nat)
    (stage : TaskStage) :
    Acquisition :=
  acquisition.changeTask index fun task => { task with stage := stage }

/-- The session lock, given up by the task that holds it. -/
def release (acquisition : Acquisition) (index : Nat) : Acquisition :=
  { acquisition with
    sessionLock :=
      if acquisition.sessionLock = some index then
        none
      else
        acquisition.sessionLock }

/-- A task that raises. -/
def raise
    (acquisition : Acquisition)
    (index : Nat)
    (raised : Raised) :
    Acquisition × Output :=
  ((acquisition.moveTo index .finished).release index, some (.error raised))

/-- What `_require_device` raises. -/
def notConnected : Raised :=
  ⟨.deviceUnavailable, "device is not connected"⟩

/-- What a second active session raises. -/
def activeSession : Raised :=
  ⟨.sessionConflict, "the device already has an active run session"⟩

/-- The checks of the group and of the device, which come first in a task and
again before it registers. -/
def checkTarget
    (acquisition : Acquisition)
    (plan : TaskPlan) :
    Except Raised DeviceBoot := do
  acquisition.store.validateGroupTarget plan.groupId
  match acquisition.published with
  | none => .error notConnected
  | some device => pure device

/-- The check for an active session. A single capture only looks, the other
tasks keep the session lock. -/
def enterSession
    (acquisition : Acquisition)
    (index : Nat)
    (plan : TaskPlan) :
    Acquisition × Output :=
  if acquisition.sessionLock.isSome then
    (acquisition, none)
  else if acquisition.tasks.any Task.isActive then
    acquisition.raise index activeSession
  else if plan.kind = .single then
    (acquisition.moveTo index .ready, none)
  else
    ({ acquisition.moveTo index .ready with sessionLock := some index }, none)

/-- `register_delivery_policy` for a task. -/
def register
    (acquisition : Acquisition)
    (index : Nat)
    (plan : TaskPlan)
    (device : DeviceBoot) :
    Acquisition × Output :=
  match acquisition.store.registerDeliveryPolicy device (some plan.sessionId)
      plan.storagePolicy plan.groupId with
  | .error raised => acquisition.raise index raised
  | .ok store =>
      ({ acquisition with store := store }.moveTo index (.registered device),
        none)

/-- A session that is published and saved. -/
def publishSession
    (acquisition : Acquisition)
    (index : Nat)
    (task : Task) :
    Acquisition :=
  ({ acquisition with
      store := acquisition.store.saveSessionSummary task.summary }.moveTo index
    .running).release index

/-- The clean-up of a start that failed. -/
def cleanUp
    (acquisition : Acquisition)
    (index : Nat)
    (plan : TaskPlan)
    (device : DeviceBoot) :
    Acquisition :=
  ({ acquisition with
      store := acquisition.store.unregisterDeliveryPolicy device
        (some plan.sessionId) }.moveTo index .finished).release index

/-- The next step of a task that does not depend on the device. -/
def advance
    (acquisition : Acquisition)
    (index : Nat)
    (task : Task) :
    Acquisition × Output :=
  match task.stage with
  | .entered =>
      match acquisition.checkTarget task.plan with
      | .error raised => acquisition.raise index raised
      | .ok _ => (acquisition.moveTo index .checked, none)
  | .checked => acquisition.enterSession index task.plan
  | .ready =>
      match acquisition.checkTarget task.plan with
      | .error raised => acquisition.raise index raised
      | .ok device => (acquisition.moveTo index (.identified device), none)
  | .identified device => acquisition.register index task.plan device
  | .registered _ =>
      if task.plan.kind = .periodic then
        (acquisition, none)
      else
        (acquisition.publishSession index task, none)
  | .cleaningUp device => (acquisition.cleanUp index task.plan device, none)
  | .running => (acquisition, none)
  | .finished => (acquisition, none)

/-- A check of a task before it registers raises. -/
def reject
    (acquisition : Acquisition)
    (index : Nat)
    (task : Task)
    (raised : Raised) :
    Acquisition × Output :=
  match task.stage with
  | .entered => acquisition.raise index raised
  | .checked => acquisition.raise index raised
  | .ready => acquisition.raise index raised
  | _ => (acquisition, none)

/-- A command of a task reaches the device of the published session. -/
def command
    (acquisition : Acquisition)
    (index : Nat)
    (task : Task) :
    Acquisition :=
  match acquisition.published with
  | none => acquisition
  | some device =>
      if task.callsDevice then
        acquisition.changeTask index fun task =>
          { task with commanded := device :: task.commanded }
      else
        acquisition

/-- `controller.start` returns or raises. -/
def answerStart
    (acquisition : Acquisition)
    (index : Nat)
    (task : Task)
    (failure : Option Raised) :
    Acquisition × Output :=
  match task.plan.kind, task.stage, failure with
  | .periodic, .registered _, none =>
      (acquisition.publishSession index task, none)
  | .periodic, .registered device, some raised =>
      (acquisition.moveTo index (.cleaningUp device), some (.error raised))
  | _, _, _ => (acquisition, none)

/-- `finalize_session_summary` for a task that ends. -/
def finish
    (acquisition : Acquisition)
    (index : Nat)
    (task : Task)
    (state : SessionState) :
    Acquisition × Output :=
  if task.stage = .running then
    match acquisition.store.finalizeSessionSummary
        { task.summary with state := state } with
    | .error raised =>
        (acquisition.moveTo index .finished, some (.error raised))
    | .ok store =>
        ({ acquisition with store := store }.moveTo index .finished, none)
  else
    (acquisition, none)

/-- The device can take a capture for a task whose command has reached it. Every
capture has an identity of its own. -/
def canProduce
    (acquisition : Acquisition)
    (task : Task)
    (identity : CaptureIdentity) :
    Prop :=
  identity.device ∈ task.commanded ∧
    ∀ produced ∈ acquisition.captures, produced.identity ≠ identity
  deriving Decidable

/-- The device takes a capture for a task. -/
def produce
    (acquisition : Acquisition)
    (index : Nat)
    (task : Task)
    (identity : CaptureIdentity) :
    Acquisition :=
  if acquisition.canProduce task identity then
    { acquisition with
      captures := acquisition.captures ++ [⟨identity, index, false⟩] }
  else
    acquisition

/-- The captures once the core has decided one of them. -/
def decide
    (acquisition : Acquisition)
    (identity : CaptureIdentity) :
    Acquisition :=
  { acquisition with
    captures := acquisition.captures.map fun produced =>
      if produced.identity = identity then
        { produced with decided := true }
      else
        produced }

/-- The commit of a capture that reaches the task it has been taken for. -/
def commit
    (acquisition : Acquisition)
    (index : Nat)
    (task : Task)
    (delivery : BridgeCaptureDelivery) :
    Acquisition × Output :=
  match CaptureStore.deliveredCapture delivery with
  | .error raised => (acquisition, some (.error raised))
  | .ok capture =>
      if task.takesCaptures ∧
          ∃ produced ∈ acquisition.captures,
            produced.identity = capture.identity ∧
              produced.producer = index then
        let staged :=
          acquisition.store.saveConfigurationContext capture
            (CaptureStore.planContext task.plan.texts capture
              task.plan.sessionId)
        match staged.commitDelivery delivery task.plan.storagePolicy
            (some task.plan.sessionId) task.plan.groupId with
        | .error raised =>
            ({ acquisition with store := staged }, some (.error raised))
        | .ok (store, result) =>
            (({ acquisition with store := store }.changeTask index
                fun task => task.record capture.captureId result.resolution
              ).decide capture.identity,
              some (.ok result))
      else
        (acquisition, none)

/-- The bridge replays a capture the device has taken. -/
def replay
    (acquisition : Acquisition)
    (delivery : BridgeCaptureDelivery) :
    Acquisition × Output :=
  match CaptureStore.deliveredCapture delivery with
  | .error raised => (acquisition, some (.error raised))
  | .ok capture =>
      if ∃ produced ∈ acquisition.captures,
          produced.identity = capture.identity then
        match acquisition.store.commitReplayedDelivery delivery with
        | .error raised => (acquisition, some (.error raised))
        | .ok (store, result) =>
            ({ acquisition with store := store }.decide capture.identity,
              some (.ok result))
      else
        (acquisition, none)

/-- What happens next. -/
inductive Input where
  | call (plan : TaskPlan)
  | advance (index : Nat)
  | reject (index : Nat) (raised : Raised)
  | command (index : Nat)
  | answerStart (index : Nat) (failure : Option Raised)
  | stop (index : Nat)
  | save (index : Nat)
  | finish (index : Nat) (state : SessionState)
  | produce (index : Nat) (identity : CaptureIdentity)
  | commit (index : Nat) (delivery : BridgeCaptureDelivery)
  | replay (delivery : BridgeCaptureDelivery)
  | publish (device : Option DeviceBoot)
  | createGroup (groupId : GroupId)

/-- A new task, under a session id that `uuid4` has not drawn before. -/
def call (acquisition : Acquisition) (plan : TaskPlan) : Acquisition :=
  if ∀ task ∈ acquisition.tasks, task.plan.sessionId ≠ plan.sessionId then
    { acquisition with tasks := acquisition.tasks ++ [.new plan] }
  else
    acquisition

/-- A step of a task. -/
def stepTask
    (acquisition : Acquisition)
    (index : Nat)
    (step : Task → Acquisition × Output) :
    Acquisition × Output :=
  match acquisition.tasks[index]? with
  | none => (acquisition, none)
  | some task => step task

/-- The application, the device and the bridge as a machine. -/
def machine : Machine Acquisition Input Output where
  step acquisition
    | .call plan => (acquisition.call plan, none)
    | .advance index =>
        acquisition.stepTask index (acquisition.advance index)
    | .reject index raised =>
        acquisition.stepTask index fun task =>
          acquisition.reject index task raised
    | .command index =>
        acquisition.stepTask index fun task =>
          (acquisition.command index task, none)
    | .answerStart index failure =>
        acquisition.stepTask index fun task =>
          acquisition.answerStart index task failure
    | .stop index =>
        acquisition.stepTask index fun task =>
          if task.isActive then
            (acquisition.changeTask index fun task =>
              { task with
                summary := { task.summary with state := .stopping } },
              none)
          else
            (acquisition, none)
    | .save index =>
        acquisition.stepTask index fun task =>
          if task.takesCaptures then
            ({ acquisition with
                store := acquisition.store.saveSessionSummary task.summary },
              none)
          else
            (acquisition, none)
    | .finish index state =>
        acquisition.stepTask index fun task =>
          acquisition.finish index task state
    | .produce index identity =>
        acquisition.stepTask index fun task =>
          (acquisition.produce index task identity, none)
    | .commit index delivery =>
        acquisition.stepTask index fun task =>
          acquisition.commit index task delivery
    | .replay delivery => acquisition.replay delivery
    | .publish device => ({ acquisition with published := device }, none)
    | .createGroup groupId =>
        ({ acquisition with
            store := acquisition.store.createGroup groupId },
          none)

end Acquisition

end Usac.Host
