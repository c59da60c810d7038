import Usac.Firmware.Run

namespace Usac.Firmware

open Library

/-!
# Every request is answered

With the response buffer of `main.c` no handler ever fails to encode its
response: the built responses fit by their length, and the replayed ones fit
because only short replies are ever stored.
-/

namespace App

/-- Every stored reply fits the response buffer. -/
structure Responsive (app : App) : Prop where
  set : app.setCache.reply.length ≤ responseCapacity
  loopback : app.loopbackCache.reply.length ≤ responseCapacity
  capture : app.captureCache.reply.length ≤ responseCapacity

/-- The caches a run starts with are empty. -/
theorem started_responsive
    (deviceId bootId : Id16)
    (resetReason : UInt8)
    (initialState : FirmwareState)
    (result : ConfigResult)
    (devStat : UInt8) :
    (started deviceId bootId resetReason initialState result
      devStat).Responsive :=
  ⟨Nat.zero_le _, Nat.zero_le _, Nat.zero_le _⟩

/-- Ending a session stores nothing. -/
theorem Responsive.endSession
    {app : App}
    (responsive : app.Responsive)
    (hardware : Hardware) :
    (app.endSession hardware).app.Responsive := by
  simp only [App.endSession]
  split_ifs <;>
    exact ⟨responsive.set, responsive.loopback, responsive.capture⟩

/-- A request stores only replies that fit. -/
theorem Responsive.handleEffect
    {app next : App}
    {request : Mcu.FrameView}
    {hardware : Hardware}
    {calls : List Invocation}
    (responsive : app.Responsive)
    (effect : HandleEffect app request hardware next calls) :
    next.Responsive := by
  obtain ⟨set, loopback, capture⟩ := responsive
  cases effect with
  | configRefused reply fits =>
      exact ⟨fits.trans (by decide), loopback, capture⟩
  | configFailed candidate reply fits =>
      exact ⟨fits.trans (by decide), loopback, capture⟩
  | configApplied candidate reply fits =>
      exact ⟨fits.trans (by decide), loopback, capture⟩
  | loopedBack authorized cache fits =>
      refine ⟨set, ?_, capture⟩
      rcases fits with rfl | fits
      · exact loopback
      · exact fits.trans (by decide)
  | captureTaken ack fits =>
      exact ⟨set, loopback, fits.trans (by decide)⟩
  | restarted =>
      have ended :=
        Responsive.endSession ⟨set, loopback, capture⟩ hardware
      exact ⟨ended.set, ended.loopback, ended.capture⟩
  | _ =>
      exact ⟨set, loopback, capture⟩

/-- Every operation stores only replies that fit. -/
theorem Responsive.effect
    {app next : App}
    {input : Input}
    {calls : List Invocation}
    (responsive : app.Responsive)
    (effect : Effect app input next calls) :
    next.Responsive := by
  cases effect with
  | handled handled =>
      exact responsive.handleEffect handled
  | ended =>
      exact responsive.endSession _
  | _ =>
      exact ⟨responsive.set, responsive.loopback, responsive.capture⟩

/-- A refusal is a response. -/
theorem refuse_responds
    (app : App)
    (request : Mcu.FrameView)
    (errorCode : UInt16)
    (detail0 detail1 : UInt32) :
    (app.refuse request errorCode detail0 detail1
      responseCapacity).response.isSome := by
  simp [refuse, answer, encodeError_fits]

/-- A stored reply that fits is a response. -/
theorem cachedReply_responds
    {cache : ReplyCache}
    (fits : cache.reply.length ≤ responseCapacity) :
    (cachedReply cache responseCapacity).isSome := by
  simp [cachedReply, fits]

variable {app : App} {request : Mcu.FrameView}

/-- A SET_CONFIG is answered. -/
theorem handleSetConfig_responds
    (responsive : app.Responsive)
    (hardware : Hardware) :
    (app.handleSetConfig request responseCapacity
      hardware).response.isSome := by
  have executed :
      (app.executeSetConfig request responseCapacity
        hardware).response.isSome := by
    unfold executeSetConfig
    split
    · exact refuse_responds ..
    · split
      · exact refuse_responds ..
      · dsimp only
        split_ifs
        · simp [encodeError_fits]
        · rw [respond_fits (by simp)]
          rfl
  unfold handleSetConfig
  split
  · exact cachedReply_responds responsive.set
  · exact refuse_responds ..
  · dsimp only
    split
    · exact executed
    · split_ifs <;> exact executed

/-- A loopback test is answered. -/
theorem handleIo2Loopback_responds
    (responsive : app.Responsive)
    (hardware : Hardware) :
    (app.handleIo2Loopback request responseCapacity
      hardware).response.isSome := by
  unfold handleIo2Loopback
  split
  · exact cachedReply_responds responsive.loopback
  · exact refuse_responds ..
  · dsimp only
    rw [respond_fits (by simp)]
    dsimp only
    split_ifs <;> simp [refuse_responds, encodeError_fits]

/-- A CAPTURE_ONCE is answered. -/
theorem handleCaptureOnce_responds
    (responsive : app.Responsive)
    (hardware : Hardware) :
    (app.handleCaptureOnce request responseCapacity
      hardware).response.isSome := by
  have executed :
      (app.executeCaptureOnce request responseCapacity
        hardware).response.isSome := by
    unfold executeCaptureOnce
    dsimp only
    rw [respond_fits (by simp)]
    dsimp only
    split_ifs <;> simp [encodeError_fits]
  unfold handleCaptureOnce
  split
  · rw [if_neg (not_lt.2 responsive.capture)]
    rfl
  · exact refuse_responds ..
  · split_ifs <;> first | exact refuse_responds .. | exact executed

/-- A payload within the bound of `respond_fits` is a response. -/
theorem respond_responds
    {payload : List UInt8}
    (fits : payload.length ≤ 108)
    (messageType : UInt8) :
    (respond request messageType payload responseCapacity).isSome := by
  rw [respond_fits fits]
  rfl

/-- An acknowledgement is a response. -/
theorem encodeAck_responds
    (app : App)
    (request : Mcu.FrameView)
    (ackedType : UInt8) :
    (app.encodeAck request ackedType responseCapacity).isSome :=
  respond_responds (by simp) Message.ack

/-- A GET_CONFIG is answered. -/
theorem handleGetConfig_responds :
    (app.handleGetConfig request responseCapacity).response.isSome := by
  unfold handleGetConfig
  split
  · exact refuse_responds ..
  · split
    · exact refuse_responds ..
    · rename_i payload encoded
      have length := ConfigV2.length_of_encode encoded
      exact respond_responds (by rw [length]; decide) Message.getConfig

/-- A START_PERIODIC is answered. -/
theorem handleStartPeriodic_responds :
    (app.handleStartPeriodic request responseCapacity).response.isSome := by
  unfold handleStartPeriodic
  split
  · exact refuse_responds ..
  · split
    · exact refuse_responds ..
    · split
      · exact encodeAck_responds ..
      · exact refuse_responds ..

/-- A lease renewal is answered. -/
theorem handleRenewPeriodic_responds :
    (app.handleRenewPeriodic request responseCapacity).response.isSome := by
  unfold handleRenewPeriodic
  split
  · exact refuse_responds ..
  · split
    · exact respond_responds (by simp) Message.renewPeriodicLease
    · exact refuse_responds ..

/-- A STOP is answered. -/
theorem handleStop_responds
    (hardware : Hardware) :
    (app.handleStop request responseCapacity hardware).response.isSome := by
  unfold handleStop
  split
  · exact refuse_responds ..
  · exact encodeAck_responds ..

/-- The length of every status payload. -/
theorem length_statusPayload (app : App) :
    app.statusPayload.length = 100 := by
  unfold statusPayload
  by_cases active : app.periodic.active = true
  · simp [active]
  · simp [active]

/-- Every request is answered. -/
theorem handle_responds
    (responsive : app.Responsive)
    (hardware : Hardware) :
    (app.handle request responseCapacity hardware).response.isSome := by
  let law (outcome : Outcome) : Prop := outcome.response.isSome
  apply @handle_rule app request hardware responseCapacity law
  · exact refuse_responds app request
  · intro _ _
    show (App.handleHello ..).response.isSome
    unfold handleHello
    exact respond_responds (by simp [helloPayload]) Message.hello
  · intro _
    show (App.handleGetCapabilities ..).response.isSome
    simp only [handleGetCapabilities, answer]
    apply respond_responds
    simp
  · intro _
    have length := length_statusPayload app
    exact respond_responds (by omega) Message.getStatus
  · exact fun _ => handleGetConfig_responds
  · exact fun _ => handleSetConfig_responds responsive hardware
  · exact fun _ => handleIo2Loopback_responds responsive hardware
  · exact fun _ => handleCaptureOnce_responds responsive hardware
  · exact fun _ => handleStartPeriodic_responds
  · exact fun _ => handleRenewPeriodic_responds
  · exact fun _ => handleStop_responds hardware

end App

end Usac.Firmware
