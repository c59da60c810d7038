import Usac.Firmware.Effect
import Usac.Library.Machine

namespace Usac.Firmware

open Library

/-!
# Runs of the application

The five operations of the application as one machine. A request is a frame
the parser emits, and every input carries the results of the hardware callbacks
the operation may invoke, so every behaviour of the hardware is some run.
-/

/-- Callbacks that all succeed, with a complete capture of silence. -/
def Hardware.nominal : Hardware where
  applyResult := .ok
  applyReport := ⟨0xB9, 0x02, 0x08⟩
  forceSafeResult := .ok
  loopbackRan := true
  loopbackReport := {
    captureTicks := List.Vector.replicate loopbackEdgeCount 0
    minimumIntervalTicks := 50
    maximumIntervalTicks := 50
    capturedEdges := 8
    resultFlags := loopbackPass
    preSpiStatus := 0
    preDevStat := 0x08
    preTofConfig := 0
    preVdrvCtrl := 0
    postSpiStatus := 0
    postDevStat := 0x08
    postTofConfig := 0
    postVdrvCtrl := 0
    finalIo2Level := 1
  }
  captureRan := true
  captureReport := {
    CaptureReport.zero with
    capturedSamples := 2048
    triggerSampleIndex := 64
    burstCompleted := true
    tussDevStat := 0x08
  }
  captureSamples := List.Vector.replicate captureSampleCount 0

/-- The call forces the hardware safe. -/
def Call.isForceSafe : Call → Bool
  | .forceSafe _ => true
  | _ => false

namespace App

/-- One operation of the application, with the results of its callbacks. -/
inductive Input where
  | handle (request : Mcu.ParsedFrame) (hardware : Hardware)
  | advanceTime (elapsedUs : UInt32) (hardware : Hardware)
  | updateClockFaults (flags : UInt16) (hardware : Hardware)
  | runPeriodicCapture (hardware : Hardware)
  | endSession (hardware : Hardware)

/-- What an operation shows to the outside. -/
structure Output where
  response : Option (List UInt8)
  calls : List Invocation
  deriving DecidableEq

/-- The outcome of one operation. -/
def perform (app : App) : Input → Outcome
  | .handle request hardware =>
      app.handle request.val responseCapacity hardware
  | .advanceTime elapsedUs hardware => app.advanceTime elapsedUs hardware
  | .updateClockFaults flags hardware =>
      app.updateClockFaults flags hardware
  | .runPeriodicCapture hardware => app.runPeriodicCapture hardware
  | .endSession hardware => app.endSession hardware

/-- The application as a machine. -/
def machine : Machine App Input Output where
  step app input :=
    let outcome := app.perform input
    (outcome.app, ⟨outcome.response, outcome.calls⟩)

/-- The state a run starts in: initialized and told the boot result. -/
def started
    (deviceId bootId : Id16)
    (resetReason : UInt8)
    (initialState : FirmwareState)
    (result : ConfigResult)
    (devStat : UInt8) :
    App :=
  (init deviceId bootId resetReason initialState).recordBootConfig
    result devStat

/-- The effects of one operation on the state and the hardware. -/
inductive Effect (app : App) : Input → App → List Invocation → Prop where
  | handled
      {request : Mcu.ParsedFrame}
      {hardware : Hardware}
      {next : App}
      {calls : List Invocation}
      (effect : HandleEffect app request.val hardware next calls) :
      Effect app (.handle request hardware) next calls
  | timePassed
      {elapsedUs : UInt32}
      {hardware : Hardware}
      (schedule : CaptureSchedule)
      (sameActivity : schedule.active = app.periodic.active)
      (sameId : schedule.scheduleId = app.periodic.scheduleId)
      (advanced : (app.periodic.advance elapsedUs).1 = schedule) :
      Effect app (.advanceTime elapsedUs hardware)
        { app with periodic := schedule } []
  | leaseExpired
      {elapsedUs : UInt32}
      {hardware : Hardware} :
      Effect app (.advanceTime elapsedUs hardware)
        { app with
          periodic := CaptureSchedule.init
          lastError := ErrorCode.leaseExpired }
        [{ app with
            periodic := CaptureSchedule.init
            lastError := ErrorCode.leaseExpired }.forceSafe hardware]
  | clockQuiet
      {flags : UInt16}
      {hardware : Hardware}
      (quiet : flags = 0 ∨ app.clockFaultFlags ≠ 0) :
      Effect app (.updateClockFaults flags hardware) app []
  | clockLatched
      {flags : UInt16}
      {hardware : Hardware}
      (schedule : CaptureSchedule)
      (inactive : schedule.active = false)
      (fault : flags ≠ 0)
      (first : app.clockFaultFlags = 0) :
      Effect app (.updateClockFaults flags hardware)
        { app with
          periodic := schedule
          clockFaultFlags := flags
          lastError := ErrorCode.timingUncalibrated }
        [{ app with
            periodic := schedule
            clockFaultFlags := flags
            lastError :=
              ErrorCode.timingUncalibrated }.forceSafe hardware]
  | periodicIdle
      {hardware : Hardware} :
      Effect app (.runPeriodicCapture hardware) app []
  | periodicNotApplied
      {hardware : Hardware}
      (due : app.periodicDue = true)
      (failed : hardware.applyResult ≠ .ok) :
      Effect app (.runPeriodicCapture hardware)
        { app with
          periodic := CaptureSchedule.init
          lastError := ErrorCode.tussDriverFault }
        [app.applyProfile app.config.profile hardware,
          { app with
            periodic := CaptureSchedule.init
            lastError := ErrorCode.tussDriverFault }.forceSafe hardware]
  | periodicFailed
      {hardware : Hardware}
      (lastError : UInt16)
      (due : app.periodicDue = true)
      (applied : hardware.applyResult = .ok) :
      Effect app (.runPeriodicCapture hardware)
        { app with
          periodic := CaptureSchedule.init
          lastError := lastError }
        [app.applyProfile app.config.profile hardware,
          app.capture 0 0 hardware,
          { app with
            periodic := CaptureSchedule.init
            lastError := lastError }.forceSafe hardware]
  | periodicTaken
      {hardware : Hardware}
      (due : app.periodicDue = true)
      (applied : hardware.applyResult = .ok)
      (ran : hardware.captureRan = true)
      (complete :
        hardware.captureReport.isComplete app.config.pretriggerCount =
          true) :
      Effect app (.runPeriodicCapture hardware)
        (app.capturedPeriodic hardware.captureReport)
        [app.applyProfile app.config.profile hardware,
          app.capture 0 0 hardware, app.forceSafe hardware]
  | ended
      {hardware : Hardware} :
      Effect app (.endSession hardware)
        (app.endSession hardware).app (app.endSession hardware).calls

/-- Time passes over the schedule, or ends it with its lease. -/
theorem advanceTime_effect
    (app : App)
    (elapsedUs : UInt32)
    (hardware : Hardware) :
    Effect app (.advanceTime elapsedUs hardware)
      (app.advanceTime elapsedUs hardware).app
      (app.advanceTime elapsedUs hardware).calls := by
  unfold advanceTime
  split_ifs with inactive
  · have still : (app.periodic.advance elapsedUs).1 = app.periodic := by
      simp [CaptureSchedule.advance, inactive]
    exact .timePassed app.periodic rfl rfl still
  · split
    · rename_i advanced expired
      have ended := CaptureSchedule.advance_expired expired
      subst ended
      exact .leaseExpired
    · rename_i advanced result notExpired shape
      obtain ⟨sameActivity, sameId⟩ :=
        CaptureSchedule.advance_of_ne_expired shape notExpired
      exact .timePassed advanced sameActivity sameId (by rw [shape])

/-- The first clock fault is latched and ends the schedule. -/
theorem updateClockFaults_effect
    (app : App)
    (flags : UInt16)
    (hardware : Hardware) :
    Effect app (.updateClockFaults flags hardware)
      (app.updateClockFaults flags hardware).app
      (app.updateClockFaults flags hardware).calls := by
  unfold updateClockFaults
  by_cases quiet : flags = 0 ∨ app.clockFaultFlags ≠ 0
  · rw [if_pos quiet]
    exact .clockQuiet quiet
  · rw [if_neg quiet]
    push Not at quiet
    dsimp only
    by_cases active : app.periodic.active = true
    · rw [if_pos active]
      simpa only [stopOwnSchedule, CaptureSchedule.stop_own] using
        Effect.clockLatched CaptureSchedule.init rfl quiet.1 quiet.2
    · rw [if_neg active]
      exact .clockLatched app.periodic (by simpa using active)
        quiet.1 quiet.2

/-- A due periodic capture is taken, or ends its schedule. -/
theorem runPeriodicCapture_effect
    (app : App)
    (hardware : Hardware) :
    Effect app (.runPeriodicCapture hardware)
      (app.runPeriodicCapture hardware).app
      (app.runPeriodicCapture hardware).calls := by
  unfold runPeriodicCapture
  dsimp only
  split_ifs with idle failed incomplete
  · exact .periodicIdle
  · simpa only [stopOwnSchedule, CaptureSchedule.stop_own] using
      Effect.periodicNotApplied (by simpa using idle) failed
  · simpa only [stopOwnSchedule, CaptureSchedule.stop_own] using
      Effect.periodicFailed _ (by simpa using idle) (by simpa using failed)
  · obtain ⟨ran, complete⟩ := not_or.1 incomplete
    exact .periodicTaken (by simpa using idle) (by simpa using failed)
      (by simpa using ran) (by simpa using complete)

/-- Every operation has one of the effects. -/
theorem perform_effect
    (app : App)
    (input : Input) :
    Effect app input (app.perform input).app (app.perform input).calls := by
  cases input with
  | handle request hardware =>
      exact .handled (handle_effect app request.val hardware)
  | advanceTime elapsedUs hardware =>
      exact advanceTime_effect app elapsedUs hardware
  | updateClockFaults flags hardware =>
      exact updateClockFaults_effect app flags hardware
  | runPeriodicCapture hardware =>
      exact runPeriodicCapture_effect app hardware
  | endSession hardware =>
      exact .ended

/-- An active schedule belongs to an established session. -/
def ScheduleOpen (app : App) : Prop :=
  app.periodic.active = true → app.helloEstablished = true

/-- A request keeps an active schedule within its session. -/
theorem ScheduleOpen.handleEffect
    {app next : App}
    {request : Mcu.FrameView}
    {hardware : Hardware}
    {calls : List Invocation}
    (scheduled : app.ScheduleOpen)
    (effect : HandleEffect app request hardware next calls) :
    next.ScheduleOpen := by
  cases effect with
  | answered | configRefused | configFailed | configApplied | loopedBack |
    captureReplayed | captureDeclined | captureNotApplied | captureFailed |
    captureTaken =>
      exact scheduled
  | greeted | restarted =>
      exact fun _ => rfl
  | started schedule starts =>
      exact fun _ => starts.dispatched.established
  | renewed dispatched | stopped dispatched =>
      exact fun _ => dispatched.established

/-- Every operation keeps an active schedule within its session. -/
theorem ScheduleOpen.effect
    {app next : App}
    {input : Input}
    {calls : List Invocation}
    (scheduled : app.ScheduleOpen)
    (effect : Effect app input next calls) :
    next.ScheduleOpen := by
  cases effect with
  | handled handled =>
      exact scheduled.handleEffect handled
  | timePassed schedule sameActivity =>
      exact fun active => scheduled (sameActivity.symm.trans active)
  | leaseExpired | periodicNotApplied | periodicFailed =>
      intro active
      simp at active
  | clockQuiet | periodicIdle =>
      exact scheduled
  | clockLatched schedule inactive =>
      intro active
      simp [inactive] at active
  | periodicTaken due =>
      simp only [periodicDue, Bool.and_eq_true] at due
      exact fun _ => scheduled due.1.1.1
  | ended =>
      intro active
      simp [endSession, cleared, apply_ite App.periodic] at active

end App

end Usac.Firmware
