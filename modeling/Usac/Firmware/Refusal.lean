import Usac.Firmware.Answer
import Usac.Firmware.SafeTransition

namespace Usac.Firmware

open Library

/-!
# Refused requests

A request that is answered with an error before any callback has run changes
nothing, but for two fields: the reply to a SET_CONFIG is kept for its
retransmissions, and a declined CAPTURE_ONCE uses up the loopback
authorization. The schedule module returns the schedule it was given whenever
it fails, so a refused command leaves a running schedule as it was.
-/

namespace CaptureSchedule

/-- A schedule that does not start is not touched. -/
theorem start_refused
    {schedule : CaptureSchedule}
    {scheduleId : Id16}
    {periodUs captureCount : UInt32}
    {leaseTimeoutMs : UInt16}
    (refused :
      (schedule.start scheduleId periodUs captureCount leaseTimeoutMs).2 ≠
        .ok) :
    (schedule.start scheduleId periodUs captureCount leaseTimeoutMs).1 =
      schedule := by
  unfold start at refused ⊢
  split_ifs at refused ⊢ with active invalid
  · rfl
  · rfl
  · exact absurd rfl refused

/-- A lease that is not renewed is not touched. -/
theorem renew_refused
    {schedule : CaptureSchedule}
    {scheduleId : Id16}
    {leaseSequence : UInt32}
    {leaseTimeoutMs : UInt16}
    (refused :
      (schedule.renew scheduleId leaseSequence leaseTimeoutMs).2 ≠ .ok) :
    (schedule.renew scheduleId leaseSequence leaseTimeoutMs).1 = schedule := by
  unfold renew at refused ⊢
  split_ifs at refused ⊢
  · rfl
  · rfl
  · exact absurd rfl refused
  · rfl
  · rfl
  · exact absurd rfl refused

/-- A schedule that is not stopped is not touched. -/
theorem stop_refused
    {schedule : CaptureSchedule}
    {scheduleId : Id16}
    (refused : (schedule.stop scheduleId).2 ≠ .ok) :
    (schedule.stop scheduleId).1 = schedule := by
  unfold stop at refused ⊢
  split_ifs at refused ⊢
  · rfl
  · exact absurd rfl refused

/-- What refuses to change the schedule leaves the object it was given, so
that a handler which answers with an error has nothing to restore. -/
structure KeptByRefusal (schedule : CaptureSchedule) : Prop where
  start
      (scheduleId : Id16)
      (periodUs captureCount : UInt32)
      (leaseTimeoutMs : UInt16) :
      (schedule.start scheduleId periodUs captureCount leaseTimeoutMs).2 ≠
          .ok →
        (schedule.start scheduleId periodUs captureCount leaseTimeoutMs).1 =
          schedule
  renew
      (scheduleId : Id16)
      (leaseSequence : UInt32)
      (leaseTimeoutMs : UInt16) :
      (schedule.renew scheduleId leaseSequence leaseTimeoutMs).2 ≠ .ok →
        (schedule.renew scheduleId leaseSequence leaseTimeoutMs).1 = schedule
  stop (scheduleId : Id16) :
      (schedule.stop scheduleId).2 ≠ .ok →
        (schedule.stop scheduleId).1 = schedule

/-- The schedule module leaves every schedule it refuses to change. -/
theorem keptByRefusal (schedule : CaptureSchedule) :
    schedule.KeptByRefusal where
  start _ _ _ _ refused := start_refused refused
  renew _ _ _ refused := renew_refused refused
  stop _ refused := stop_refused refused

end CaptureSchedule

namespace App

/-- The response reports an error. -/
def reportsError (response : Option (List UInt8)) : Bool :=
  response.any fun frame => byteAt frame 5 == Message.error

/-- Nothing has changed but the reply kept for a SET_CONFIG and the loopback
authorization. -/
structure Unmoved
    (app : App)
    (request : Mcu.FrameView)
    (response : Option (List UInt8))
    (next : App) :
    Prop where
  kept :
    next.setCache = app.setCache ∨
      request.messageType = Message.setConfig ∧
        ∃ reply, response = some reply ∧
          next.setCache = ReplyCache.store request reply
  authorized :
    next.loopbackAuthorized = app.loopbackAuthorized ∨
      next.loopbackAuthorized = false
  same :
    next =
      { app with
        setCache := next.setCache
        loopbackAuthorized := next.loopbackAuthorized }

/-- What a request comes to: a callback, an answer that is no error, or
nothing. -/
inductive Reaction (app : App) (request : Mcu.FrameView) : Outcome → Prop where
  | acted
      {outcome : Outcome}
      (calls : outcome.calls ≠ []) :
      Reaction app request outcome
  | confirmed
      {outcome : Outcome}
      (reply : reportsError outcome.response = false) :
      Reaction app request outcome
  | unmoved
      {outcome : Outcome}
      (unmoved : app.Unmoved request outcome.response outcome.app) :
      Reaction app request outcome

/-- What is kept of a capture is its acknowledgement. -/
def KeepsAck (app : App) : Prop :=
  app.captureCache.valid = true →
    byteAt app.captureCache.reply 5 = Message.ack

variable {app : App} {request : Mcu.FrameView} {hardware : Hardware}

/-- An answer that leaves the state. -/
theorem answer_reaction (response : Option (List UInt8)) :
    Reaction app request (app.answer response) :=
  .unmoved ⟨.inl rfl, .inl rfl, rfl⟩

/-- A refusal leaves the state. -/
theorem refuse_reaction (errorCode : UInt16) (detail0 detail1 : UInt32) :
    Reaction app request
      (app.refuse request errorCode detail0 detail1 responseCapacity) :=
  answer_reaction _

/-- A response of another type is no error. -/
theorem reportsError_respond
    {messageType : UInt8}
    {payload : List UInt8}
    (fits : payload.length ≤ 108)
    (other : messageType ≠ Message.error) :
    reportsError (respond request messageType payload responseCapacity) =
      false := by
  rw [respond_fits fits, reportsError, Option.any_some,
    Board.byteAt_reply_type]
  exact beq_false_of_ne other

/-- A HELLO is not answered with an error. -/
theorem handleHello_reaction :
    Reaction app request
      (app.handleHello request responseCapacity hardware) := by
  unfold handleHello
  apply Reaction.confirmed
  dsimp only
  exact reportsError_respond (by simp [helloPayload]) (by decide)

/-- A SET_CONFIG reaches the hardware, or its refusal is kept. -/
theorem handleSetConfig_reaction
    (type : request.messageType = Message.setConfig) :
    Reaction app request
      (app.handleSetConfig request responseCapacity hardware) := by
  have recorded (errorCode : UInt16) (detail0 detail1 : UInt32) :
      Reaction app request
        { app.refuse request errorCode detail0 detail1 responseCapacity with
          app :=
            { app with
              setCache :=
                ReplyCache.store request
                  (reply request Message.error
                    (app.errorPayload request errorCode detail0
                      detail1)) } } :=
    .unmoved
      ⟨.inr ⟨type, _, encodeError_fits app request errorCode detail0 detail1,
        rfl⟩, .inl rfl, rfl⟩
  unfold handleSetConfig
  split
  · exact answer_reaction _
  · exact answer_reaction _
  · unfold executeSetConfig
    split
    · simp only [refuse, encodeError_fits, answer]
      rw [if_neg (not_lt.2 (reply_le (by simp [setCacheSize])))]
      simpa only [refuse, encodeError_fits, answer] using recorded _ _ _
    · split
      · simp only [refuse, encodeError_fits, answer]
        rw [if_neg (not_lt.2 (reply_le (by simp [setCacheSize])))]
        simpa only [refuse, encodeError_fits, answer] using recorded _ _ _
      · apply Reaction.acted
        dsimp only
        split
        · split <;> simp
        · split_ifs <;> simp

/-- A loopback test runs, or its request is refused. -/
theorem handleIo2Loopback_reaction :
    Reaction app request
      (app.handleIo2Loopback request responseCapacity hardware) := by
  unfold handleIo2Loopback
  split
  · exact answer_reaction _
  · exact answer_reaction _
  · split_ifs
    · exact answer_reaction _
    · exact answer_reaction _
    · exact answer_reaction _
    · exact answer_reaction _
    · exact .acted (List.cons_ne_nil _ _)
    · apply Reaction.acted
      dsimp only
      split
      · exact List.cons_ne_nil _ _
      · split_ifs <;> exact List.cons_ne_nil _ _

/-- A CAPTURE_ONCE runs, is acknowledged once more or is refused. -/
theorem handleCaptureOnce_reaction
    (keeps : app.KeepsAck) :
    Reaction app request
      (app.handleCaptureOnce request responseCapacity hardware) := by
  unfold handleCaptureOnce
  split
  · next cached =>
      split_ifs
      · exact answer_reaction _
      · have acknowledged := keeps (matches_of_lookup cached).1
        apply Reaction.confirmed
        rw [answer, reportsError, Option.any_some, acknowledged]
        rfl
  · exact answer_reaction _
  · split_ifs
    · exact answer_reaction _
    · exact answer_reaction _
    · exact .unmoved ⟨.inl rfl, .inr rfl, rfl⟩
    · exact .unmoved ⟨.inl rfl, .inr rfl, rfl⟩
    · exact .acted (executeCaptureOnce_calls_ne_nil app request hardware)

/-- A START_PERIODIC is acknowledged or refused. -/
theorem handleStartPeriodic_reaction :
    Reaction app request
      (app.handleStartPeriodic request responseCapacity) := by
  unfold handleStartPeriodic
  split_ifs
  · exact answer_reaction _
  · exact answer_reaction _
  · split
    · apply Reaction.confirmed
      dsimp only [answer, encodeAck]
      exact reportsError_respond (by simp) (by decide)
    · exact answer_reaction _

/-- A renewal is confirmed or refused. -/
theorem handleRenewPeriodic_reaction :
    Reaction app request
      (app.handleRenewPeriodic request responseCapacity) := by
  unfold handleRenewPeriodic
  split_ifs
  · exact answer_reaction _
  · split
    · exact .confirmed (reportsError_respond (by simp) (by decide))
    · exact answer_reaction _

/-- A STOP forces the hardware safe or is refused. -/
theorem handleStop_reaction :
    Reaction app request
      (app.handleStop request responseCapacity hardware) := by
  unfold handleStop
  split
  · exact answer_reaction _
  · exact .acted (List.cons_ne_nil _ _)

/-- A request runs a callback, is answered without an error, or changes
nothing. -/
theorem handle_reaction
    (keeps : app.KeepsAck)
    (request : Mcu.FrameView)
    (hardware : Hardware) :
    Reaction app request
      (app.handle request responseCapacity hardware) := by
  apply @handle_rule app request hardware responseCapacity
  · exact refuse_reaction
  · exact fun _ _ => handleHello_reaction
  · exact fun _ => answer_reaction _
  · exact fun _ => answer_reaction _
  · intro _
    unfold handleGetConfig
    split_ifs
    · exact answer_reaction _
    · split <;> exact answer_reaction _
  · exact fun dispatched => handleSetConfig_reaction dispatched.messageType
  · exact fun _ => handleIo2Loopback_reaction
  · exact fun _ => handleCaptureOnce_reaction keeps
  · exact fun _ => handleStartPeriodic_reaction
  · exact fun _ => handleRenewPeriodic_reaction
  · exact fun _ => handleStop_reaction

/-! ## The acknowledgement that is kept -/

/-- A capture that is not replaced keeps its acknowledgement. -/
theorem KeepsAck.of_same
    {next : App}
    (keeps : app.KeepsAck)
    (same :
      next.captureCache = app.captureCache ∨
        next.captureCache.valid = false) :
    next.KeepsAck := by
  intro valid
  rcases same with same | invalid
  · rw [same] at valid ⊢
    exact keeps valid
  · rw [invalid] at valid
    cases valid

/-- A CAPTURE_ONCE keeps the acknowledgement of the capture it takes. -/
theorem KeepsAck.handleCaptureOnce
    (keeps : app.KeepsAck) :
    (app.handleCaptureOnce request responseCapacity hardware).app.KeepsAck
      := by
  unfold App.handleCaptureOnce
  split
  · split_ifs <;> exact keeps
  · exact keeps
  · split_ifs
    · exact keeps
    · exact keeps
    · exact keeps
    · exact keeps
    · unfold App.executeCaptureOnce
      dsimp only
      split_ifs
      · exact keeps
      · exact keeps
      · rw [respond_fits (by simp)]
        dsimp only
        split_ifs
        · exact keeps
        · exact fun _ => Board.byteAt_reply_type _ _ _

/-- The end of a session drops the acknowledgement. -/
theorem KeepsAck.endSession
    (keeps : app.KeepsAck)
    (hardware : Hardware) :
    (app.endSession hardware).app.KeepsAck := by
  apply keeps.of_same
  right
  simp [App.endSession, cleared, apply_ite App.captureCache,
    ReplyCache.invalidate]

/-- A request keeps the acknowledgement of a capture. -/
theorem KeepsAck.handle
    (keeps : app.KeepsAck)
    (request : Mcu.FrameView)
    (hardware : Hardware) :
    (app.handle request responseCapacity hardware).app.KeepsAck := by
  by_cases capture : app.Dispatched request Message.captureOnce
  · rw [handle_dispatched_captureOnce capture]
    exact keeps.handleCaptureOnce
  have effect := handle_effect app request hardware
  generalize (app.handle request responseCapacity hardware).app = next
    at effect ⊢
  generalize (app.handle request responseCapacity hardware).calls = calls
    at effect
  cases effect with
  | answered | greeted | configRefused | configFailed | loopedBack | started
  | renewed | stopped =>
      exact keeps
  | restarted =>
      exact keeps.endSession hardware
  | configApplied =>
      exact keeps.of_same (.inr rfl)
  | captureReplayed dispatched | captureDeclined dispatched =>
      exact keeps
  | captureNotApplied captures | captureFailed captures
  | captureTaken ack fits captures =>
      exact absurd captures.dispatched capture

/-- Every operation keeps the acknowledgement of a capture. -/
theorem KeepsAck.perform
    (keeps : app.KeepsAck)
    (input : Input) :
    (app.perform input).app.KeepsAck := by
  cases input with
  | handle request hardware =>
      exact keeps.handle request.val hardware
  | advanceTime elapsedUs hardware =>
      apply keeps.of_same
      left
      simp only [App.perform, advanceTime]
      split
      · rfl
      · split <;> rfl
  | updateClockFaults flags hardware =>
      apply keeps.of_same
      left
      simp only [App.perform, updateClockFaults]
      split
      · rfl
      · split <;> rfl
  | runPeriodicCapture hardware =>
      apply keeps.of_same
      left
      simp only [App.perform, runPeriodicCapture]
      split_ifs <;> rfl
  | endSession hardware =>
      exact keeps.endSession hardware

/--
In every state a run reaches, a request that is answered with an error before
any callback has run leaves the state as it was, but for the kept reply to a
SET_CONFIG and the loopback authorization, and the schedule with it. Where the
schedule module refuses a command, it leaves the schedule it was given.
-/
theorem refused_unmoved
    (deviceId bootId : Id16)
    (resetReason : UInt8)
    (initialState : FirmwareState)
    (result : ConfigResult)
    (devStat : UInt8)
    (inputs : List Input)
    (request : Mcu.FrameView)
    (hardware : Hardware) :
    let app :=
      machine.after
        (started deviceId bootId resetReason initialState result devStat)
        inputs
    let outcome := app.handle request responseCapacity hardware
    outcome.calls = [] →
      reportsError outcome.response = true →
        app.Unmoved request outcome.response outcome.app ∧
          outcome.app.periodic = app.periodic ∧
            app.periodic.KeptByRefusal := by
  intro app outcome quiet error
  have keeps : app.KeepsAck :=
    machine.invariant_of_step KeepsAck
      (fun valid => absurd valid Bool.false_ne_true)
      (fun _ input keeps => keeps.perform input) inputs
  have reaction := handle_reaction keeps request hardware
  cases reaction with
  | acted calls => exact absurd quiet calls
  | confirmed reply => exact absurd error (by simp [outcome, reply])
  | unmoved unmoved =>
      refine ⟨unmoved, ?_, app.periodic.keptByRefusal⟩
      rw [unmoved.same]

/-- A session opens and a schedule starts. -/
def scheduleRuns : List Input :=
  [.handle (Request.hello 1 (Bytes.zero 16)) Hardware.nominal,
    .handle Request.startDefault Hardware.nominal]

/-- A second START_PERIODIC, while the schedule runs. -/
def secondStart : Mcu.FrameView :=
  Request.startPeriodicFrame 3 (Id16.ofByte 4) (Id16.ofByte 5)
    ConfigV2.initD10x4 200000 7 2000

/-- The application that a second START_PERIODIC finds. -/
def scheduleRunning : App :=
  machine.after
    (started (Bytes.zero 16) (Bytes.zero 16) 0 .sessionWait .ok 0)
    scheduleRuns

/-- The second START_PERIODIC is refused with an error. -/
theorem secondStart_refused :
    scheduleRunning.periodic.active = true ∧
      (scheduleRunning.handle secondStart responseCapacity
          Hardware.nominal).calls = [] ∧
        reportsError
            (scheduleRunning.handle secondStart responseCapacity
              Hardware.nominal).response = true := by
  decide +kernel

/-- The second START_PERIODIC leaves the schedule. -/
theorem refused_unmoved_secondStart :
    scheduleRunning.periodic.active = true ∧
      (scheduleRunning.handle secondStart responseCapacity
          Hardware.nominal).app.periodic = scheduleRunning.periodic := by
  obtain ⟨active, quiet, error⟩ := secondStart_refused
  refine ⟨active, ?_⟩
  rw [scheduleRunning] at quiet error ⊢
  exact
    (refused_unmoved (Bytes.zero 16) (Bytes.zero 16) 0 .sessionWait .ok 0
      scheduleRuns secondStart Hardware.nominal quiet error).2.1

end App

end Usac.Firmware
