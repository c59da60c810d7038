import Usac.Firmware.Request

namespace Usac.Firmware

open Library

/-!
# When the transducer may be driven

The capture callback drives the transducer. It must run only in an established
session, with a valid configuration that the same step has just applied, in
IDLE_SAFE and without a clock fault.

The commanded path checks all of this. The periodic path checks the schedule,
the clock and the profile, and relies on an active schedule implying the rest.
A SET_CONFIG that the hardware refuses breaks that implication: it leaves FAULT
and an invalid configuration, but also the schedule.
-/

/-- The call drives the transducer. -/
def Call.isCapture : Call → Bool
  | .capture .. => true
  | _ => false

namespace App

/-- The part of safety that concerns the state alone. -/
structure ReadyToCapture (app : App) : Prop where
  established : app.helloEstablished = true
  valid : app.configValid = true
  idle : app.state = .idleSafe
  clock : app.clockFaultFlags = 0

/-- The transducer may be driven at this moment, after these callbacks of the
same step. -/
structure SafeToCapture
    (before : List Invocation)
    (moment : App) :
    Prop where
  ready : moment.ReadyToCapture
  applied :
    ∃ earlier applying,
      before =
        earlier ++
          [Invocation.mk applying
            (.applyProfile moment.config.profile .ok)]

/-- Every capture among the callbacks of a step is made when it is safe. -/
def CapturesSafely (calls : List Invocation) : Prop :=
  ∀ before invocation after,
    calls = before ++ invocation :: after →
    invocation.call.isCapture = true →
    SafeToCapture before invocation.moment

/-- A SET_CONFIG that reaches the hardware while a schedule is active has its
profile applied. -/
def AppliesUnderSchedule (event : Event App Input Output) : Prop :=
  ∀ request hardware candidate,
    event.input = .handle request hardware →
    event.source.Configures request.val candidate →
    event.source.periodic.active = true →
    hardware.applyResult = .ok

/-- An active schedule stands on a state that is ready to capture. -/
def ScheduleReady (app : App) : Prop :=
  app.periodic.active = true → app.ReadyToCapture

/-- Callbacks without a capture are safe. -/
theorem CapturesSafely.of_none
    {calls : List Invocation}
    (none : ∀ invocation ∈ calls, invocation.call.isCapture = false) :
    CapturesSafely calls := by
  intro before invocation after shape isCapture
  have absent := none invocation (by simp [shape])
  simp [absent] at isCapture

/-- A capture between its applied profile and the safe transition is safe in a
state that is ready. -/
theorem CapturesSafely.of_applied
    {applying moment : App}
    {call : Call}
    {last : Invocation}
    (ready : moment.ReadyToCapture)
    (passive : last.call.isCapture = false) :
    CapturesSafely
      [Invocation.mk applying (.applyProfile moment.config.profile .ok),
        Invocation.mk moment call, last] := by
  intro before invocation after shape isCapture
  rcases before with _ | ⟨first, _ | ⟨second, _ | ⟨third, rest⟩⟩⟩
  · obtain ⟨rfl, -⟩ := List.cons.inj shape
    simp [Call.isCapture] at isCapture
  · obtain ⟨rfl, tail⟩ := List.cons.inj shape
    obtain ⟨rfl, -⟩ := List.cons.inj tail
    exact ⟨ready, [], applying, rfl⟩
  · obtain ⟨-, tail⟩ := List.cons.inj shape
    obtain ⟨-, tail⟩ := List.cons.inj tail
    obtain ⟨rfl, -⟩ := List.cons.inj tail
    simp [passive] at isCapture
  · simp at shape

/-- A request keeps an active schedule on a state that is ready to capture, as
long as it does not lose the configuration under the schedule. -/
theorem ScheduleReady.handleEffect
    {app next : App}
    {request : Mcu.FrameView}
    {hardware : Hardware}
    {calls : List Invocation}
    (scheduled : app.ScheduleReady)
    (applies :
      ∀ candidate, app.Configures request candidate →
        app.periodic.active = true → hardware.applyResult = .ok)
    (effect : HandleEffect app request hardware next calls) :
    next.ScheduleReady := by
  cases effect with
  | answered | configRefused | loopedBack | captureReplayed |
    captureDeclined | captureNotApplied | captureFailed | captureTaken =>
      intro active
      obtain ⟨established, valid, idle, clock⟩ := scheduled active
      exact ⟨established, valid, idle, clock⟩
  | greeted =>
      intro active
      obtain ⟨-, valid, idle, clock⟩ := scheduled active
      exact ⟨rfl, valid, by simp [greeted, idle], clock⟩
  | restarted | stopped =>
      intro active
      simp [greeted, endSession, cleared, apply_ite App.periodic] at active
  | configFailed candidate reply fits configures failed =>
      intro active
      exact absurd (applies candidate configures active) failed
  | configApplied =>
      intro active
      obtain ⟨established, -, -, clock⟩ := scheduled active
      exact ⟨established, rfl, rfl, clock⟩
  | started schedule starts =>
      intro _
      exact ⟨starts.dispatched.established, starts.valid, starts.idle,
        starts.clock⟩
  | renewed dispatched leaseSequence leaseTimeoutMs =>
      intro active
      have sameActivity :=
        (app.periodic.renew_frame (slice request.payload 16 16)
          leaseSequence leaseTimeoutMs).1
      obtain ⟨established, valid, idle, clock⟩ :=
        scheduled (sameActivity.symm.trans active)
      exact ⟨established, valid, idle, clock⟩

/-- Every operation keeps an active schedule on a ready state. -/
theorem ScheduleReady.effect
    {app next : App}
    {input : Input}
    {calls : List Invocation}
    (scheduled : app.ScheduleReady)
    (applies :
      ∀ request hardware candidate,
        input = .handle request hardware →
        app.Configures request.val candidate →
        app.periodic.active = true → hardware.applyResult = .ok)
    (effect : Effect app input next calls) :
    next.ScheduleReady := by
  cases effect with
  | handled handled =>
      exact scheduled.handleEffect
        (fun candidate => applies _ _ candidate rfl) handled
  | timePassed schedule sameActivity sameId =>
      intro active
      obtain ⟨established, valid, idle, clock⟩ :=
        scheduled (sameActivity.symm.trans active)
      exact ⟨established, valid, idle, clock⟩
  | leaseExpired | periodicNotApplied | periodicFailed =>
      intro active
      simp at active
  | clockQuiet | periodicIdle =>
      exact scheduled
  | clockLatched schedule inactive =>
      intro active
      simp [inactive] at active
  | periodicTaken due =>
      intro _
      simp only [periodicDue, Bool.and_eq_true] at due
      obtain ⟨established, valid, idle, clock⟩ := scheduled due.1.1.1
      exact ⟨established, valid, idle, clock⟩
  | ended =>
      intro active
      simp [endSession, cleared, apply_ite App.periodic] at active

/-- A commanded capture is made in a state that is ready. -/
theorem Captures.ready
    {app : App}
    {request : Mcu.FrameView}
    (captures : app.Captures request) :
    (app.consumed.withProfile true).ReadyToCapture :=
  ⟨captures.dispatched.established, captures.valid, captures.idle,
    captures.clock⟩

/-- The callbacks of a commanded capture are safe. -/
theorem captureCalls_safe
    {app : App}
    {request : Mcu.FrameView}
    {hardware : Hardware}
    (captures : app.Captures request)
    (applied : hardware.applyResult = .ok) :
    CapturesSafely (app.captureCalls request hardware) := by
  simp only [captureCalls, applyProfile, applied]
  exact CapturesSafely.of_applied captures.ready rfl

/-- Over a state whose active schedule is ready, every operation captures
safely. -/
theorem ScheduleReady.capturesSafely
    {app next : App}
    {input : Input}
    {calls : List Invocation}
    (scheduled : app.ScheduleReady)
    (effect : Effect app input next calls) :
    CapturesSafely calls := by
  cases effect with
  | handled handled =>
      cases handled with
      | captureFailed captures applied =>
          exact captureCalls_safe captures applied
      | captureTaken ack fits captures applied =>
          exact captureCalls_safe captures applied
      | _ =>
          exact CapturesSafely.of_none (by
            simp [Call.isCapture, applyProfile, forceSafe, endSession])
  | periodicFailed lastError due applied | periodicTaken due applied =>
      simp only [periodicDue, Bool.and_eq_true] at due
      simp only [applyProfile, applied]
      exact CapturesSafely.of_applied (scheduled due.1.1.1) rfl
  | _ =>
      exact CapturesSafely.of_none (by
        simp [Call.isCapture, applyProfile, forceSafe, endSession])

/-- No schedule is active in the state a run starts in. -/
theorem started_scheduleReady
    (deviceId bootId : Id16)
    (resetReason : UInt8)
    (initialState : FirmwareState)
    (result : ConfigResult)
    (devStat : UInt8) :
    (started deviceId bootId resetReason initialState result
      devStat).ScheduleReady := by
  intro active
  simp [started, init, recordBootConfig] at active

/--
In a run in which the hardware takes every SET_CONFIG that reaches it while a
schedule is active, the transducer is only ever driven when it is safe.
-/
theorem capturesSafely_of_appliesUnderSchedule
    (deviceId bootId : Id16)
    (resetReason : UInt8)
    (initialState : FirmwareState)
    (result : ConfigResult)
    (devStat : UInt8)
    (inputs : List Input)
    (applies :
      EveryStep (fun _ event => AppliesUnderSchedule event)
        (machine.trace
          (started deviceId bootId resetReason initialState result devStat)
          inputs)) :
    EveryStep (fun _ event => CapturesSafely event.output.calls)
      (machine.trace
        (started deviceId bootId resetReason initialState result devStat)
        inputs) :=
  machine.everyStep_of_invariant
    (fun _ app => app.ScheduleReady)
    (started_scheduleReady deviceId bootId resetReason initialState result
      devStat)
    (fun _ app input scheduled applies =>
      scheduled.effect applies (perform_effect app input))
    (fun _ app input scheduled _ =>
      scheduled.capturesSafely (perform_effect app input))
    inputs applies

/-- The application after a successful boot. -/
def booted : App :=
  started (Bytes.zero 16) (Bytes.zero 16) 0 .sessionWait .ok 0

/-- A schedule starts, the hardware answers the next configuration with the
given result, and the schedule comes due. -/
def configuredUnderSchedule (applyResult : ConfigResult) : List Input :=
  [.handle (Request.hello 1 (Bytes.zero 16)) Hardware.nominal,
    .handle Request.startDefault Hardware.nominal,
    .handle
      (Request.setConfig 3 (Id16.ofByte 3) ConfigV2.initD10x4.profileSha256
        ConfigV2.initD10x4)
      { Hardware.nominal with applyResult := applyResult },
    .advanceTime 100000 Hardware.nominal]

/-- When the hardware takes the configuration, the due capture is safe. -/
theorem capturesSafely_configuredUnderSchedule :
    (machine.after booted
        (configuredUnderSchedule .ok ++
          [.runPeriodicCapture Hardware.nominal])).capturePending = true ∧
      EveryStep (fun _ event => CapturesSafely event.output.calls)
        (machine.trace booted
          (configuredUnderSchedule .ok ++
            [.runPeriodicCapture Hardware.nominal])) := by
  refine ⟨by decide +kernel,
    capturesSafely_of_appliesUnderSchedule
      (Bytes.zero 16) (Bytes.zero 16) 0 .sessionWait .ok 0
      (configuredUnderSchedule .ok ++
        [Input.runPeriodicCapture Hardware.nominal])
      ((EveryStep.forall_iff _ _).2 ?_)⟩
  intro event member request hardware candidate input _ _
  have listed := machine.input_mem_of_mem_trace member
  rw [input] at listed
  simp only [configuredUnderSchedule, List.cons_append, List.nil_append,
    List.mem_cons, Input.handle.injEq, reduceCtorEq, List.not_mem_nil,
    or_false] at listed
  rcases listed with ⟨-, rfl⟩ | ⟨-, rfl⟩ | ⟨-, rfl⟩ <;> rfl

/-- A refused configuration leaves the schedule due. -/
theorem configuredUnderSchedule_bus_due :
    let app := machine.after booted (configuredUnderSchedule .bus)
    app.periodicDue = true ∧ app.configValid = false := by
  decide +kernel

/-- A due periodic capture whose profile is applied drives the transducer. -/
theorem runPeriodicCapture_calls
    {app : App}
    {hardware : Hardware}
    (due : app.periodicDue = true)
    (applied : hardware.applyResult = .ok) :
    ∃ last,
      (app.runPeriodicCapture hardware).calls =
        [app.applyProfile app.config.profile hardware,
          app.capture 0 0 hardware, last] := by
  unfold runPeriodicCapture
  simp only [due, applied, Bool.true_eq_false, if_false, ne_eq,
    not_true_eq_false]
  split <;> exact ⟨_, rfl⟩

/-- After a refused configuration the due capture drives the transducer
without a valid configuration. -/
theorem not_capturesSafely_configuredUnderSchedule :
    ¬EveryStep (fun _ event => CapturesSafely event.output.calls)
      (machine.trace booted
        (configuredUnderSchedule .bus ++
          [.runPeriodicCapture Hardware.nominal])) := by
  intro safe
  rw [Machine.trace_concat, EveryStep.concat_iff] at safe
  obtain ⟨due, invalid⟩ := configuredUnderSchedule_bus_due
  generalize machine.after booted (configuredUnderSchedule .bus) = app at *
  obtain ⟨last, calls⟩ :=
    runPeriodicCapture_calls due
      (rfl : Hardware.nominal.applyResult = .ok)
  have driven :=
    safe.2 [app.applyProfile app.config.profile Hardware.nominal]
      (app.capture 0 0 Hardware.nominal) [last] calls rfl
  have valid := driven.ready.valid
  simp [capture, invalid] at valid

end App

end Usac.Firmware
