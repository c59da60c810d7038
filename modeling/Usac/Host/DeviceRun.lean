import Usac.Host.SessionBinding

namespace Usac.Host

open Library

/-!
# The executor and the device behind its client

The executor publishes a configuration once it has been read back, and never
takes one back: when `apply_config` fails it keeps what it has published. So
what it says of the device depends on how far the failed call had come. Here
the device is part of the run, with the configuration it has, and every failure
of `apply_config` says where the call stopped. A new session can find another
configuration than the last one left.

The run also keeps the record of the plan in the lock: its steps, the baseline
it is to restore, the captures it has sent and the last step it has applied.
-/

/-- How far an `apply_config` that fails has come: not to its SET_CONFIG; to a
device that refuses it before it touches the hardware; to hardware that rejects
it; or to a device that has taken it, so that the answer or the readback is
missing. -/
inductive ApplyFate where
  | unsent
  | refused
  | rejected
  | taken
  deriving Repr, DecidableEq

/-- What a failed `apply_config` leaves on the device. -/
def ApplyFate.leaves
    (fate : ApplyFate)
    (target : AcquisitionConfigV2)
    (before : Option AcquisitionConfigV2) :
    Option AcquisitionConfigV2 :=
  match fate with
  | .unsent | .refused => before
  | .rejected => none
  | .taken => some target

/-- The record of a plan in the lock. -/
structure PlanRecord (Requested : Type) where
  steps : List (RunStep Requested)
  baselineSnapshot : ConfigurationSnapshot Requested
  baselineConfig : AcquisitionConfigV2
  captured : List AcquisitionConfigV2
  lastApplied : Option (RunStep Requested)
  deriving DecidableEq

/-- The executor, its client, and the configuration of the device behind
them. -/
structure DeviceRun (Requested : Type) where
  run : ExecutorRun Requested
  device : Option AcquisitionConfigV2
  plan : Option (PlanRecord Requested)

/-- What happens next: as for the executor alone, with what becomes of the
device. -/
inductive DeviceInput (Changes : Type) where
  | replace (found : Option AcquisitionConfigV2)
  | close (left : Option AcquisitionConfigV2)
  | call (operation : ExecutorCall Changes)
  | returns (readback : AcquisitionConfigV2)
  | fails (fate : ApplyFate) (loses : Bool)
  | proceed (cancelled : Bool)

/-- The input is the end of a client call. -/
def DeviceInput.Answers {Changes : Type} : DeviceInput Changes → Prop
  | .returns _ | .fails _ _ => True
  | _ => False

/-- What happens to the executor. -/
def DeviceInput.executorInput {Changes : Type} :
    DeviceInput Changes → ExecutorInput Changes
  | .replace _ => .replace
  | .close _ => .close
  | .call operation => .call operation
  | .returns readback => .answer (.returns readback)
  | .fails _ loses => .answer (if loses then .loses else .raises)
  | .proceed cancelled => .proceed cancelled

/-- The plan the work belongs to, while it takes its steps. -/
def Work.plan? {Requested : Type} :
    Work Requested → Option (PlanRest Requested)
  | .applying _ plan => plan
  | .recording _ _ _ plan => plan
  | .capturing _ plan => plan
  | .starting _ => none
  | .pausing plan => some plan

namespace PlanRecord

variable {Requested : Type}

/-- The record of a plan that begins. -/
def begin (plan : PlanRest Requested) : PlanRecord Requested where
  steps := plan.steps
  baselineSnapshot := plan.baselineSnapshot
  baselineConfig := plan.baselineConfig
  captured := []
  lastApplied := none

/-- The record once a command has been sent. -/
def send (record : PlanRecord Requested) :
    SentCommand → PlanRecord Requested
  | .captureOnce _ config =>
      { record with captured := record.captured ++ [config] }
  | _ => record

/-- The record once the work has gone from one stage to the next: a step whose
readback is followed by its capture has been applied. -/
def advance
    (record : PlanRecord Requested) :
    Option (Work Requested) → Option (Work Requested) → PlanRecord Requested
  | some (.recording target _ _ (some _)), some (.capturing _ _) =>
      { record with lastApplied := some target }
  | _, _ => record

end PlanRecord

namespace DeviceRun

variable {Requested Changes : Type}
  (service : ExecutorService Requested Changes)

/-- The configuration of the device after the input. It changes with the
session, or when a SET_CONFIG reaches the device. -/
def deviceAfter (before : DeviceRun Requested) :
    DeviceInput Changes → Option AcquisitionConfigV2
  | .replace found => found
  | .close left => if before.run.connected then left else before.device
  | .returns readback =>
      match before.run.work with
      | some (.applying _ _) =>
          if before.run.connected then some readback else before.device
      | _ => before.device
  | .fails fate _ =>
      match before.run.work with
      | some (.applying target _) =>
          if before.run.connected then
            fate.leaves target.compiled before.device
          else
            before.device
      | _ => before.device
  | .call _ | .proceed _ => before.device

/-- The record of the plan after a step that has left the given run. -/
def planAfter
    (before : DeviceRun Requested)
    (after : ExecutorRun Requested)
    (sent : SentCommand) :
    Option (PlanRecord Requested) :=
  match before.run.work, after.work with
  | _, none => none
  | none, some (.pausing plan) => some (.begin plan)
  | from_, some work =>
      before.plan.map fun record =>
        (record.send sent).advance from_ (some work)

/-- The executor over a device as a machine. -/
def machine :
    Machine (DeviceRun Requested) (DeviceInput Changes) SentCommand where
  step before input :=
    let (after, sent) :=
      (ExecutorRun.machine service).step before.run input.executorInput
    (⟨after, before.deviceAfter input, before.planAfter after sent⟩, sent)

/-- An executor that has just been built, over a client and a device. -/
def started
    (connected : Bool)
    (device : Option AcquisitionConfigV2) :
    DeviceRun Requested where
  run := ExecutorRun.started service connected
  device := device
  plan := none

/-- A step of the executor over a device. -/
abbrev Step (Requested Changes : Type) :=
  Event (DeviceRun Requested) (DeviceInput Changes) SentCommand

/-- Whether the work waits for a call of the client that can fail. -/
def Waits {Requested : Type} : Work Requested → Prop
  | .applying _ _ | .capturing _ _ => True
  | _ => False

/-- What one input can do to the executor and the device, and what it sends. -/
inductive Happens
    (service : ExecutorService Requested Changes)
    (run : ExecutorRun Requested)
    (device : Option AcquisitionConfigV2) :
    DeviceInput Changes → ExecutorRun Requested →
      Option AcquisitionConfigV2 → SentCommand → Prop where
  | nothing (input : DeviceInput Changes) :
      Happens service run device input run device .nothing
  | replaced (found : Option AcquisitionConfigV2) :
      Happens service run device (.replace found)
        { run with connected := true, generation := run.generation + 1 }
        found .nothing
  | closed
      (left : Option AcquisitionConfigV2)
      (connected : run.connected = true) :
      Happens service run device (.close left) run.disconnect left .nothing
  | admitted
      (operation : ExecutorCall Changes)
      (free : run.work = none) :
      Happens service run device (.call operation)
        (run.accept service operation) device .nothing
  | readBack
      (target : RunStep Requested)
      (plan : Option (PlanRest Requested))
      (readback : AcquisitionConfigV2)
      (working : run.work = some (.applying target plan))
      (connected : run.connected = true) :
      Happens service run device (.returns readback)
        { run with
          work := some (.recording target readback run.generation plan) }
        (some readback)
        (.setConfig run.generation target.compiled (some readback))
  | applyFailed
      (target : RunStep Requested)
      (plan : Option (PlanRest Requested))
      (fate : ApplyFate)
      (loses : Bool)
      (working : run.work = some (.applying target plan))
      (connected : run.connected = true) :
      Happens service run device (.fails fate loses)
        ((if loses then run.disconnect else run).fail service plan)
        (fate.leaves target.compiled device)
        (.setConfig run.generation target.compiled none)
  | unheard
      (input : DeviceInput Changes)
      (work : Work Requested)
      (working : run.work = some work)
      (waits : Waits work)
      (answers : input.Answers)
      (disconnected : run.connected ≠ true) :
      Happens service run device input (run.fail service work.plan?) device
        .nothing
  | captured
      (config : AcquisitionConfigV2)
      (plan : Option (PlanRest Requested))
      (readback : AcquisitionConfigV2)
      (working : run.work = some (.capturing config plan))
      (connected : run.connected = true) :
      Happens service run device (.returns readback)
        { run with work := plan.map .pausing } device
        (.captureOnce run.generation config)
  | captureFailed
      (config : AcquisitionConfigV2)
      (plan : Option (PlanRest Requested))
      (fate : ApplyFate)
      (loses : Bool)
      (working : run.work = some (.capturing config plan))
      (connected : run.connected = true) :
      Happens service run device (.fails fate loses)
        ((if loses then run.disconnect else run).fail service plan) device
        (.captureOnce run.generation config)
  | startEnded
      (schedule : PeriodicSchedule)
      (input : DeviceInput Changes)
      (loses : Bool)
      (sent : SentCommand)
      (working : run.work = some (.starting schedule))
      (sends :
        sent = .nothing ∨ sent = .startPeriodic run.generation schedule) :
      Happens service run device input
        { (if loses then run.disconnect else run) with work := none } device
        sent
  | published
      (target : RunStep Requested)
      (readback : AcquisitionConfigV2)
      (session : Nat)
      (plan : Option (PlanRest Requested))
      (cancelled : Bool)
      (executor : Executor Requested)
      (working : run.work = some (.recording target readback session plan))
      (publishes :
        run.executor.publishApplied service target readback run.generation =
          .ok executor) :
      Happens service run device (.proceed cancelled)
        { run with
          executor := executor
          work :=
            plan.map fun rest => .capturing target.compiled (some rest) }
        device .nothing
  | unpublished
      (target : RunStep Requested)
      (readback : AcquisitionConfigV2)
      (session : Nat)
      (plan : Option (PlanRest Requested))
      (cancelled : Bool)
      (raised : Raised)
      (working : run.work = some (.recording target readback session plan))
      (refuses :
        run.executor.publishApplied service target readback run.generation =
          .error raised) :
      Happens service run device (.proceed cancelled) (run.fail service plan)
        device .nothing
  | advanced
      (plan : PlanRest Requested)
      (cancelled : Bool)
      (working : run.work = some (.pausing plan)) :
      Happens service run device (.proceed cancelled)
        { run with
          work := ExecutorRun.nextStep service run.executor plan cancelled }
        device .nothing

variable {service}

/-- Every step is one of the cases. -/
theorem machine_happens
    (before : DeviceRun Requested)
    (input : DeviceInput Changes) :
    Happens service before.run before.device input
      ((machine service).event before input).target.run
      ((machine service).event before input).target.device
      ((machine service).event before input).output := by
  obtain ⟨run, device, record⟩ := before
  cases input with
  | replace found => exact .replaced found
  | close left =>
      by_cases connected : run.connected = true
      · simp only [machine, Machine.event, DeviceInput.executorInput,
          ExecutorRun.machine, deviceAfter, if_pos connected]
        exact .closed left connected
      · simp only [machine, Machine.event, DeviceInput.executorInput,
          ExecutorRun.machine, deviceAfter, if_neg connected,
          ExecutorRun.disconnect]
        exact .nothing _
  | call operation =>
      simp only [machine, Machine.event, DeviceInput.executorInput,
        ExecutorRun.machine, deviceAfter]
      cases working : run.work with
      | none => exact .admitted operation working
      | some work => exact .nothing _
  | returns readback =>
      simp only [machine, Machine.event, DeviceInput.executorInput,
        ExecutorRun.machine, deviceAfter]
      cases working : run.work with
      | none => exact .nothing _
      | some work =>
          by_cases connected : run.connected = true
          · cases work with
            | applying target plan =>
                simp only [ExecutorRun.answer, if_pos connected]
                exact .readBack target plan readback working connected
            | capturing config plan =>
                simp only [ExecutorRun.answer, if_pos connected]
                cases plan <;> exact .captured config _ readback working
                  connected
            | starting schedule =>
                simp only [ExecutorRun.answer, if_pos connected]
                exact .startEnded schedule _ false _ working (.inr rfl)
            | recording | pausing => exact .nothing _
          · cases work with
            | applying target plan =>
                simp only [ExecutorRun.answer, if_neg connected]
                exact .unheard _ _ working trivial trivial connected
            | capturing config plan =>
                simp only [ExecutorRun.answer, if_neg connected]
                exact .unheard _ _ working trivial trivial connected
            | starting schedule =>
                simp only [ExecutorRun.answer, if_neg connected]
                exact .startEnded schedule _ false _ working (.inl rfl)
            | recording | pausing => exact .nothing _
  | fails fate loses =>
      simp only [machine, Machine.event, DeviceInput.executorInput,
        ExecutorRun.machine, deviceAfter]
      cases working : run.work with
      | none => exact .nothing _
      | some work =>
          by_cases connected : run.connected = true
          · cases work with
            | applying target plan =>
                cases loses <;>
                  simp only [Bool.false_eq_true, if_false, if_true,
                    ExecutorRun.answer, if_pos connected, reduceCtorEq]
                · exact .applyFailed target plan fate false working connected
                · exact .applyFailed target plan fate true working connected
            | capturing config plan =>
                cases loses <;>
                  simp only [Bool.false_eq_true, if_false, if_true,
                    ExecutorRun.answer, if_pos connected]
                · exact .captureFailed config plan fate false working connected
                · exact .captureFailed config plan fate true working connected
            | starting schedule =>
                cases loses <;>
                  simp only [Bool.false_eq_true, if_false, if_true,
                    ExecutorRun.answer, if_pos connected, reduceCtorEq]
                · exact .startEnded schedule _ false _ working (.inr rfl)
                · exact .startEnded schedule _ true _ working (.inr rfl)
            | recording | pausing => exact .nothing _
          · cases work with
            | applying target plan =>
                simp only [ExecutorRun.answer, if_neg connected]
                cases loses <;>
                  exact .unheard _ _ working trivial trivial connected
            | capturing config plan =>
                simp only [ExecutorRun.answer, if_neg connected]
                cases loses <;>
                  exact .unheard _ _ working trivial trivial connected
            | starting schedule =>
                simp only [ExecutorRun.answer, if_neg connected]
                exact .startEnded schedule _ false _ working (.inl rfl)
            | recording | pausing => exact .nothing _
  | proceed cancelled =>
      simp only [machine, Machine.event, DeviceInput.executorInput,
        ExecutorRun.machine, deviceAfter]
      cases working : run.work with
      | none => exact .nothing _
      | some work =>
          cases work with
          | recording target readback session plan =>
              cases publishes :
                  run.executor.publishApplied service target readback
                    run.generation with
              | ok executor =>
                  simp only [ExecutorRun.proceed, publishes]
                  exact .published target readback session plan cancelled
                    executor working publishes
              | error raised =>
                  simp only [ExecutorRun.proceed, publishes]
                  exact .unpublished target readback session plan cancelled
                    raised working publishes
          | pausing plan => exact .advanced plan cancelled working
          | applying | capturing | starting => exact .nothing _

end DeviceRun

end Usac.Host
