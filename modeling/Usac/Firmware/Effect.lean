import Usac.Firmware.App

namespace Usac.Firmware

open Library

/-!
# What one request can do

Every request falls into one of a few cases: it is answered without an effect,
it opens a session, it configures, captures, or works on the schedule.
`HandleEffect` lists the cases with the checks that led to each, the state each
leaves and the callbacks each invoked. Invariants of the application are proved
from these cases and never from the handlers themselves.

All cases are for the response buffer of `main.c`, which every response fits.
-/

namespace App

/-- The response frame to a request. -/
def reply
    (request : Mcu.FrameView)
    (messageType : UInt8)
    (payload : List UInt8) :
    List UInt8 :=
  Mcu.frameBytes messageType Flag.response request.sequence payload

/-- A response frame is 20 bytes longer than its payload. -/
theorem reply_le
    {request : Mcu.FrameView}
    {messageType : UInt8}
    {payload : List UInt8}
    {bound : Nat}
    (fits : payload.length + 20 ≤ bound) :
    (reply request messageType payload).length ≤ bound := by
  rw [reply, Mcu.length_frameBytes, Mcu.headerSize, Mcu.crcSize]
  omega

/-- Every payload the application builds fits the response buffer. -/
theorem respond_fits
    {payload : List UInt8}
    (fits : payload.length ≤ 108)
    (request : Mcu.FrameView)
    (messageType : UInt8) :
    respond request messageType payload responseCapacity =
      some (reply request messageType payload) := by
  have small : ¬(Mcu.maxCommandPayload < payload.length ∨
      responseCapacity < Mcu.headerSize + payload.length + Mcu.crcSize ∨
      Flag.response &&& ~~~7 ≠ 0) := by
    simp only [Mcu.maxCommandPayload, responseCapacity, Mcu.headerSize,
      Mcu.crcSize, not_or, not_lt]
    exact ⟨by omega, by omega, by decide⟩
  simp [respond, Mcu.encodeFrame, small, reply]

@[simp] theorem length_ackPayload
    (app : App)
    (request : Mcu.FrameView)
    (ackedType : UInt8)
    (crc32 : UInt32) :
    (app.ackPayload request ackedType crc32).length = 24 := by
  simp [ackPayload]

@[simp] theorem length_errorPayload
    (app : App)
    (request : Mcu.FrameView)
    (errorCode : UInt16)
    (detail0 detail1 : UInt32) :
    (app.errorPayload request errorCode detail0 detail1).length = 29 := by
  simp [errorPayload]

@[simp] theorem length_loopbackPayload
    (app : App)
    (request : Mcu.FrameView)
    (report : LoopbackReport) :
    (app.loopbackPayload request report).length = 86 := by
  have ticks : report.captureTicks.toList.length = 8 :=
    report.captureTicks.toList_length
  simp only [loopbackPayload, List.length_append, List.length_flatMap,
    List.length_cons, List.length_nil, length_writeU16, length_writeU32,
    List.Vector.toList_length, List.map_const', List.sum_replicate, ticks]
  rfl

/-- An error response always fits. -/
theorem encodeError_fits
    (app : App)
    (request : Mcu.FrameView)
    (errorCode : UInt16)
    (detail0 detail1 : UInt32) :
    app.encodeError request errorCode detail0 detail1 responseCapacity =
      some (reply request Message.error
        (app.errorPayload request errorCode detail0 detail1)) :=
  respond_fits (by simp) request Message.error

/-- The request is dispatched to the handler of its type. -/
structure Dispatched
    (app : App)
    (request : Mcu.FrameView)
    (messageType : UInt8) :
    Prop where
  flags : request.flags = 0
  established : app.helloEstablished = true
  messageType : request.messageType = messageType

/-- A SET_CONFIG that reaches the hardware with the decoded configuration. -/
structure Configures
    (app : App)
    (request : Mcu.FrameView)
    (candidate : ConfigV2) :
    Prop where
  dispatched : app.Dispatched request Message.setConfig
  fresh : app.setCache.lookup request = .miss
  matching : app.hashMismatch? request = none
  decoded :
    ConfigV2.decode (slice request.payload 48 ConfigV2.wireLength).toList =
      .ok candidate

/-- A CAPTURE_ONCE that passes every check before the hardware is driven. -/
structure Captures (app : App) (request : Mcu.FrameView) : Prop where
  dispatched : app.Dispatched request Message.captureOnce
  fresh : app.captureCache.lookup request = .miss
  idle : app.state = .idleSafe
  valid : app.configValid = true
  clock : app.clockFaultFlags = 0
  named : app.namesConfig request 16 = true

/-- A START_PERIODIC that starts the given schedule. -/
structure Starts
    (app : App)
    (request : Mcu.FrameView)
    (started : CaptureSchedule) :
    Prop where
  dispatched : app.Dispatched request Message.startPeriodic
  idle : app.state = .idleSafe
  valid : app.configValid = true
  free : app.capturePending = false
  clock : app.clockFaultFlags = 0
  named : app.namesConfig request 32 = true
  accepted :
    app.periodic.start (slice request.payload 16 16)
        (readU32 request.payload 68) (readU32 request.payload 72)
        (readU32 request.payload 76).toUInt16 =
      (started, .ok)

/-- The effects of one request on the state and the hardware. -/
inductive HandleEffect
    (app : App)
    (request : Mcu.FrameView)
    (hardware : Hardware) :
    App → List Invocation → Prop where
  | answered : HandleEffect app request hardware app []
  | greeted
      (flags : request.flags = 0)
      (hello : request.messageType = Message.hello)
      (sameHost :
        app.helloEstablished = true → app.hostNonce = requestId request) :
      HandleEffect app request hardware
        (app.greeted (requestId request)) []
  | restarted
      (flags : request.flags = 0)
      (hello : request.messageType = Message.hello)
      (established : app.helloEstablished = true)
      (otherHost : app.hostNonce ≠ requestId request) :
      HandleEffect app request hardware
        ((app.endSession hardware).app.greeted (requestId request))
        (app.endSession hardware).calls
  | configRefused
      (reply : List UInt8)
      (fits : reply.length ≤ setCacheSize)
      (dispatched : app.Dispatched request Message.setConfig) :
      HandleEffect app request hardware
        { app with setCache := ReplyCache.store request reply } []
  | configFailed
      (candidate : ConfigV2)
      (reply : List UInt8)
      (fits : reply.length ≤ setCacheSize)
      (configures : app.Configures request candidate)
      (failed : hardware.applyResult ≠ .ok) :
      HandleEffect app request hardware
        { app.configFailed with setCache := ReplyCache.store request reply }
        [{ app with state := .configuring }.applyProfile
          candidate.profile hardware]
  | configApplied
      (candidate : ConfigV2)
      (reply : List UInt8)
      (fits : reply.length ≤ setCacheSize)
      (configures : app.Configures request candidate)
      (applied : hardware.applyResult = .ok) :
      HandleEffect app request hardware
        { app.configApplied candidate hardware.applyReport with
          setCache := ReplyCache.store request reply }
        [{ app with state := .configuring }.applyProfile
          candidate.profile hardware]
  | loopedBack
      (authorized : Bool)
      (cache : ReplyCache)
      (fits :
        cache = app.loopbackCache ∨ cache.reply.length ≤ loopbackCacheSize)
      (dispatched : app.Dispatched request Message.runIo2LoopbackTest)
      (clock : app.clockFaultFlags = 0) :
      HandleEffect app request hardware
        { app with
          loopbackAuthorized := authorized
          profileActive := false
          loopbackCache := cache }
        [Invocation.mk { app with loopbackAuthorized := false }
          (.runIo2Loopback app.config.profile.burstPeriodTicks
            hardware.loopbackRan hardware.loopbackReport)]
  | captureReplayed
      (dispatched : app.Dispatched request Message.captureOnce)
      (cached : app.captureCache.lookup request = .replay) :
      HandleEffect app request hardware
        { app with capturePending := true } []
  | captureDeclined
      (dispatched : app.Dispatched request Message.captureOnce) :
      HandleEffect app request hardware app.consumed []
  | captureNotApplied
      (captures : app.Captures request)
      (failed : hardware.applyResult ≠ .ok) :
      HandleEffect app request hardware (app.consumed.withProfile false)
        [app.consumed.applyProfile app.config.profile hardware,
          (app.consumed.withProfile false).forceSafe hardware]
  | captureFailed
      (captures : app.Captures request)
      (applied : hardware.applyResult = .ok) :
      HandleEffect app request hardware (app.consumed.withProfile false)
        (app.captureCalls request hardware)
  | captureTaken
      (ack : List UInt8)
      (fits : ack.length ≤ captureCacheSize)
      (captures : app.Captures request)
      (applied : hardware.applyResult = .ok)
      (ran : hardware.captureRan = true)
      (complete :
        (securedReport hardware).isComplete app.config.pretriggerCount =
          true) :
      HandleEffect app request hardware
        { (app.consumed.withProfile false).captured request
            (securedReport hardware) with
          captureCache := ReplyCache.store request ack }
        (app.captureCalls request hardware)
  | started
      (schedule : CaptureSchedule)
      (starts : app.Starts request schedule) :
      HandleEffect app request hardware
        { app with
          periodic := schedule
          periodicRequestId := requestId request
          lastError := 0 }
        []
  | renewed
      (dispatched : app.Dispatched request Message.renewPeriodicLease)
      (leaseSequence : UInt32)
      (leaseTimeoutMs : UInt16) :
      HandleEffect app request hardware
        { app with
          periodic :=
            (app.periodic.renew (slice request.payload 16 16)
              leaseSequence leaseTimeoutMs).1 }
        []
  | stopped
      (dispatched : app.Dispatched request Message.stop) :
      HandleEffect app request hardware
        { app with periodic := CaptureSchedule.init, lastError := 0 }
        [{ app with periodic := CaptureSchedule.init }.forceSafe hardware]

variable {app : App} {request : Mcu.FrameView} {hardware : Hardware}

/-- A refusal has no effect. -/
theorem refuse_effect
    (errorCode : UInt16)
    (detail0 detail1 : UInt32) :
    HandleEffect app request hardware
      (app.refuse request errorCode detail0 detail1 responseCapacity).app
      (app.refuse request errorCode detail0 detail1 responseCapacity).calls :=
  .answered

/-- A HELLO opens a session, after it has closed that of another host. -/
theorem handleHello_effect
    (flags : request.flags = 0)
    (hello : request.messageType = Message.hello) :
    HandleEffect app request hardware
      (app.handleHello request responseCapacity hardware).app
      (app.handleHello request responseCapacity hardware).calls := by
  by_cases ending :
      app.helloEstablished = true ∧ app.hostNonce ≠ requestId request
  · simp only [handleHello, if_pos ending]
    exact .restarted flags hello ending.1 ending.2
  · simp only [handleHello, if_neg ending]
    refine .greeted flags hello fun established => ?_
    by_contra otherHost
    exact ending ⟨established, otherHost⟩

/-- A SET_CONFIG is refused before the hardware, or applied to it. -/
theorem handleSetConfig_effect
    (dispatched : app.Dispatched request Message.setConfig) :
    HandleEffect app request hardware
      (app.handleSetConfig request responseCapacity hardware).app
      (app.handleSetConfig request responseCapacity hardware).calls := by
  unfold handleSetConfig
  split
  · exact .answered
  · exact .answered
  · rename_i fresh
    unfold executeSetConfig
    split
    · simp only [refuse, encodeError_fits, answer]
      rw [if_neg (not_lt.2 (reply_le (by simp [setCacheSize])))]
      exact .configRefused _ (reply_le (by simp [setCacheSize])) dispatched
    · rename_i matching
      split
      · simp only [refuse, encodeError_fits, answer]
        rw [if_neg (not_lt.2 (reply_le (by simp [setCacheSize])))]
        exact .configRefused _ (reply_le (by simp [setCacheSize])) dispatched
      · rename_i candidate decoded
        have configures : app.Configures request candidate :=
          ⟨dispatched, fresh, matching, decoded⟩
        by_cases applied : hardware.applyResult = .ok
        · simp only [applied, ne_eq, not_true_eq_false, if_false]
          rw [respond_fits (by simp)]
          dsimp only
          rw [if_neg (not_lt.2 (reply_le (by simp [setCacheSize])))]
          exact .configApplied candidate _
            (reply_le (by simp [setCacheSize])) configures applied
        · simp only [applied, ne_eq, not_false_eq_true, if_true,
            encodeError_fits]
          rw [if_neg (not_lt.2 (reply_le (by simp [setCacheSize])))]
          exact .configFailed candidate _
            (reply_le (by simp [setCacheSize])) configures applied

/-- A loopback test works on its own cache and authorization only. -/
theorem handleIo2Loopback_effect
    (dispatched : app.Dispatched request Message.runIo2LoopbackTest) :
    HandleEffect app request hardware
      (app.handleIo2Loopback request responseCapacity hardware).app
      (app.handleIo2Loopback request responseCapacity hardware).calls := by
  unfold handleIo2Loopback
  split
  · exact .answered
  · exact .answered
  · split_ifs with busy clock
    · exact .answered
    · exact .answered
    · exact .answered
    · exact .answered
    · exact .loopedBack false app.loopbackCache (.inl rfl) dispatched
        (not_not.1 clock)
    · dsimp only
      rw [respond_fits (by simp)]
      dsimp only
      rw [if_neg (not_lt.2 (reply_le (by simp [loopbackCacheSize])))]
      exact .loopedBack _ _
        (.inr (reply_le (by simp [loopbackCacheSize]))) dispatched
        (not_not.1 clock)

/-- A commanded capture that passed its checks drives the hardware. -/
theorem executeCaptureOnce_effect
    (captures : app.Captures request) :
    HandleEffect app request hardware
      (app.executeCaptureOnce request responseCapacity hardware).app
      (app.executeCaptureOnce request responseCapacity hardware).calls := by
  unfold executeCaptureOnce
  dsimp only
  split_ifs with failed incomplete
  · exact .captureNotApplied captures failed
  · exact .captureFailed captures (by simpa using failed)
  · simp only [not_or, Bool.not_eq_false] at incomplete
    rw [respond_fits (by simp)]
    dsimp only
    rw [if_neg (not_lt.2 (reply_le (by simp [captureCacheSize])))]
    exact .captureTaken _ (reply_le (by simp [captureCacheSize])) captures
      (by simpa using failed) incomplete.1 incomplete.2

/-- A CAPTURE_ONCE is replayed, declined or executed. -/
theorem handleCaptureOnce_effect
    (dispatched : app.Dispatched request Message.captureOnce) :
    HandleEffect app request hardware
      (app.handleCaptureOnce request responseCapacity hardware).app
      (app.handleCaptureOnce request responseCapacity hardware).calls := by
  unfold handleCaptureOnce
  split
  · rename_i cached
    split_ifs
    · exact .answered
    · exact .captureReplayed dispatched cached
  · exact .answered
  · rename_i fresh
    split_ifs with busy clock named unsafeRequest
    · exact .answered
    · exact .answered
    · exact .captureDeclined dispatched
    · exact .captureDeclined dispatched
    · push Not at busy clock
      exact executeCaptureOnce_effect
        ⟨dispatched, fresh, busy.1, by simpa using busy.2, clock,
          by simpa using named⟩

/-- A START_PERIODIC starts a schedule or changes nothing. -/
theorem handleStartPeriodic_effect
    (dispatched : app.Dispatched request Message.startPeriodic) :
    HandleEffect app request hardware
      (app.handleStartPeriodic request responseCapacity).app
      (app.handleStartPeriodic request responseCapacity).calls := by
  unfold handleStartPeriodic
  split_ifs with busy named
  · exact .answered
  · exact .answered
  · split
    · rename_i started accepted
      push Not at busy
      exact .started started
        ⟨dispatched, busy.1, by simpa using busy.2.1,
          by simpa using busy.2.2.1, busy.2.2.2, by simpa using named,
          accepted⟩
    · exact .answered

/-- A renewal works on the lease only. -/
theorem handleRenewPeriodic_effect
    (dispatched : app.Dispatched request Message.renewPeriodicLease) :
    HandleEffect app request hardware
      (app.handleRenewPeriodic request responseCapacity).app
      (app.handleRenewPeriodic request responseCapacity).calls := by
  unfold handleRenewPeriodic
  split_ifs
  · exact .answered
  · split
    · rename_i renewed accepted
      have effect : HandleEffect app request hardware _ [] :=
        .renewed dispatched (readU32 request.payload 32)
          (readU32 request.payload 36).toUInt16
      simpa only [accepted, answer] using effect
    · exact .answered

/-- A STOP ends the schedule it names. -/
theorem handleStop_effect
    (dispatched : app.Dispatched request Message.stop) :
    HandleEffect app request hardware
      (app.handleStop request responseCapacity hardware).app
      (app.handleStop request responseCapacity hardware).calls := by
  unfold handleStop CaptureSchedule.stop
  split_ifs
  · exact .answered
  · exact .stopped dispatched

/--
What holds of the outcome of every handler, for the requests that reach it, and
of every refusal, holds of the outcome of a request.
-/
theorem handle_rule
    {capacity : Nat}
    {law : Outcome → Prop}
    (refused :
      ∀ errorCode detail0 detail1,
        law (app.refuse request errorCode detail0 detail1 capacity))
    (hello :
      request.flags = 0 →
        request.messageType = Message.hello →
          law (app.handleHello request capacity hardware))
    (capabilities :
      app.Dispatched request Message.getCapabilities →
        law (app.handleGetCapabilities request capacity))
    (status :
      app.Dispatched request Message.getStatus →
        law (app.handleGetStatus request capacity))
    (config :
      app.Dispatched request Message.getConfig →
        law (app.handleGetConfig request capacity))
    (setConfig :
      app.Dispatched request Message.setConfig →
        law (app.handleSetConfig request capacity hardware))
    (loopback :
      app.Dispatched request Message.runIo2LoopbackTest →
        law (app.handleIo2Loopback request capacity hardware))
    (captureOnce :
      app.Dispatched request Message.captureOnce →
        law (app.handleCaptureOnce request capacity hardware))
    (startPeriodic :
      app.Dispatched request Message.startPeriodic →
        law (app.handleStartPeriodic request capacity))
    (renewPeriodic :
      app.Dispatched request Message.renewPeriodicLease →
        law (app.handleRenewPeriodic request capacity))
    (stop :
      app.Dispatched request Message.stop →
        law (app.handleStop request capacity hardware)) :
    law (app.handle request capacity hardware) := by
  have chosen
      {condition : Prop}
      [Decidable condition]
      {first second : Outcome}
      (atFirst : condition → law first)
      (atSecond : ¬condition → law second) :
      law (if condition then first else second) := by
    split
    · exact atFirst ‹_›
    · exact atSecond ‹_›
  unfold handle
  refine chosen (fun _ => refused ..) fun flagged => ?_
  have flags := not_not.1 flagged
  refine chosen (fun type => hello flags type) fun _ => ?_
  refine chosen (fun _ => refused ..) fun unestablished => ?_
  have established : app.helloEstablished = true := by
    simpa using unestablished
  refine chosen (fun type => capabilities ⟨flags, established, type⟩)
    fun _ => ?_
  refine chosen (fun type => status ⟨flags, established, type⟩) fun _ => ?_
  refine chosen (fun type => config ⟨flags, established, type⟩) fun _ => ?_
  refine chosen (fun type => setConfig ⟨flags, established, type⟩) fun _ => ?_
  refine chosen (fun type => loopback ⟨flags, established, type⟩) fun _ => ?_
  refine chosen (fun type => captureOnce ⟨flags, established, type⟩)
    fun _ => ?_
  refine chosen (fun type => startPeriodic ⟨flags, established, type⟩)
    fun _ => ?_
  refine chosen (fun type => renewPeriodic ⟨flags, established, type⟩)
    fun _ => ?_
  exact chosen (fun type => stop ⟨flags, established, type⟩)
    fun _ => refused ..

/-- Every request has one of the effects. -/
theorem handle_effect
    (app : App)
    (request : Mcu.FrameView)
    (hardware : Hardware) :
    HandleEffect app request hardware
      (app.handle request responseCapacity hardware).app
      (app.handle request responseCapacity hardware).calls := by
  let law (outcome : Outcome) : Prop :=
    HandleEffect app request hardware outcome.app outcome.calls
  apply @handle_rule app request hardware responseCapacity law
  · exact refuse_effect
  · exact handleHello_effect
  · exact fun _ => .answered
  · exact fun _ => .answered
  · intro _
    unfold handleGetConfig
    split_ifs
    · exact .answered
    · split <;> exact .answered
  · exact handleSetConfig_effect
  · exact handleIo2Loopback_effect
  · exact handleCaptureOnce_effect
  · exact handleStartPeriodic_effect
  · exact handleRenewPeriodic_effect
  · exact handleStop_effect

end App

end Usac.Firmware
