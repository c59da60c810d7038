import Usac.Firmware.CaptureSafety

namespace Usac.Firmware

open Library

/-!
# The same session of the application

Much of a session survives in memory when it ends: replies, the description of
the last capture, the identity of the last schedule. Only flags keep it from the
next session. Two applications are in the same session when they agree on
everything but what a flag hides; every operation then answers both alike and
leaves them in the same session, and sessions that open alike are the same.
-/

/-- Two caches that answer alike: what an invalid one holds does not count. -/
structure ReplyCache.Same (left right : ReplyCache) : Prop where
  valid : left.valid = right.valid
  held : right.valid = true → left = right

namespace App

/-- The description of the last capture is in use. -/
def Described (app : App) : Prop :=
  app.capturePending = true ∨ app.captureCache.valid = true

/-- The description of the last capture. -/
def description (app : App) : Id16 × Id16 × Bool × UInt32 × CaptureReport :=
  (app.captureRequestId, app.captureScheduleId, app.captureIsAsync,
    app.captureRequestSequence, app.captureReport)

/-- Two applications that agree on everything but what a flag hides. -/
structure SameSession (left right : App) : Prop where
  state : left.state = right.state
  config : left.config = right.config
  deviceId : left.deviceId = right.deviceId
  bootId : left.bootId = right.bootId
  hostNonce : left.hostNonce = right.hostNonce
  resetReason : left.resetReason = right.resetReason
  helloEstablished : left.helloEstablished = right.helloEstablished
  configValid : left.configValid = right.configValid
  setCache : left.setCache.Same right.setCache
  loopbackCache : left.loopbackCache.Same right.loopbackCache
  loopbackAuthorized : left.loopbackAuthorized = right.loopbackAuthorized
  capturePending : left.capturePending = right.capturePending
  description : right.Described → left.description = right.description
  captureSequence : left.captureSequence = right.captureSequence
  captureCache : left.captureCache.Same right.captureCache
  periodic : left.periodic = right.periodic
  periodicRequestId :
    right.periodic.active = true →
      left.periodicRequestId = right.periodicRequestId
  lastError : left.lastError = right.lastError
  lastTussDevStat : left.lastTussDevStat = right.lastTussDevStat
  clockFaultFlags : left.clockFaultFlags = right.clockFaultFlags

/-- Two outcomes that look alike to the host and to the hardware, in the same
session. -/
structure SameOutcome (left right : Outcome) : Prop where
  response : left.response = right.response
  calls : left.calls.map Invocation.call = right.calls.map Invocation.call
  session : SameSession left.app right.app

end App

/-- Caches that answer alike look a request up alike. -/
theorem ReplyCache.Same.lookup
    {left right : ReplyCache}
    (same : left.Same right)
    (request : Mcu.FrameView) :
    left.lookup request = right.lookup request := by
  cases valid : right.valid with
  | true => rw [same.held valid]
  | false => simp [ReplyCache.lookup, same.valid, valid]

/-- Only a valid cache knows a request. -/
theorem ReplyCache.valid_of_lookup
    {cache : ReplyCache}
    {request : Mcu.FrameView}
    (known : cache.lookup request ≠ .miss) :
    cache.valid = true := by
  by_contra invalid
  exact known (by simp [ReplyCache.lookup, invalid])

/-- Caches that answer alike and know a request are the same. -/
theorem ReplyCache.Same.eq_of_lookup
    {left right : ReplyCache}
    {request : Mcu.FrameView}
    {answer : CacheAnswer}
    (same : left.Same right)
    (known : right.lookup request = answer)
    (hit : answer ≠ .miss) :
    left = right :=
  same.held (valid_of_lookup (known.trans_ne hit))

/-- A cache answers like itself. -/
theorem ReplyCache.Same.refl (cache : ReplyCache) : cache.Same cache :=
  ⟨rfl, fun _ => rfl⟩

/-- Caches that hold nothing answer alike. -/
theorem ReplyCache.Same.of_invalid
    {left right : ReplyCache}
    (leftInvalid : left.valid = false)
    (rightInvalid : right.valid = false) :
    left.Same right := by
  refine ⟨leftInvalid.trans rightInvalid.symm, fun valid => ?_⟩
  simp [rightInvalid] at valid

/-- Invalidated caches answer alike. -/
theorem ReplyCache.Same.invalidate (left right : ReplyCache) :
    left.invalidate.Same right.invalidate :=
  .of_invalid rfl rfl

namespace App

section SameSession

variable {left right : App} {request : Mcu.FrameView} {capacity : Nat}
  {hardware : Hardware}

/-- Outcomes chosen alike. -/
theorem SameOutcome.ite
    {leftCondition rightCondition : Prop}
    [Decidable leftCondition]
    [Decidable rightCondition]
    {leftThen leftElse rightThen rightElse : Outcome}
    (alike : leftCondition ↔ rightCondition)
    (thenSame : SameOutcome leftThen rightThen)
    (elseSame : SameOutcome leftElse rightElse) :
    SameOutcome (if leftCondition then leftThen else leftElse)
      (if rightCondition then rightThen else rightElse) := by
  by_cases holds : rightCondition
  · rw [if_pos holds, if_pos (alike.2 holds)]
    exact thenSame
  · rw [if_neg holds, if_neg (mt alike.1 holds)]
    exact elseSame

/-- Applications chosen alike. -/
theorem SameSession.ite
    {leftCondition rightCondition : Prop}
    [Decidable leftCondition]
    [Decidable rightCondition]
    {leftThen leftElse rightThen rightElse : App}
    (alike : leftCondition ↔ rightCondition)
    (thenSame : SameSession leftThen rightThen)
    (elseSame : SameSession leftElse rightElse) :
    SameSession (if leftCondition then leftThen else leftElse)
      (if rightCondition then rightThen else rightElse) := by
  by_cases holds : rightCondition
  · rw [if_pos holds, if_pos (alike.2 holds)]
    exact thenSame
  · rw [if_neg holds, if_neg (mt alike.1 holds)]
    exact elseSame

/-- The same answer in the same session. -/
theorem SameSession.answer
    (same : SameSession left right)
    (response : Option (List UInt8)) :
    SameOutcome (left.answer response) (right.answer response) :=
  ⟨rfl, rfl, same⟩

/-- An error names the operating state only. -/
theorem SameSession.encodeError
    (same : SameSession left right)
    (errorCode : UInt16)
    (detail0 detail1 : UInt32) :
    left.encodeError request errorCode detail0 detail1 capacity =
      right.encodeError request errorCode detail0 detail1 capacity := by
  simp only [App.encodeError, errorPayload, same.state]

/-- The same refusal in the same session. -/
theorem SameSession.refuse
    (same : SameSession left right)
    (errorCode : UInt16)
    (detail0 detail1 : UInt32) :
    SameOutcome
      (left.refuse request errorCode detail0 detail1 capacity)
      (right.refuse request errorCode detail0 detail1 capacity) :=
  ⟨same.encodeError errorCode detail0 detail1, rfl, same⟩

/-- An acknowledgement names the operating state and the configuration. -/
theorem SameSession.encodeAck
    (same : SameSession left right)
    (ackedType : UInt8) :
    left.encodeAck request ackedType capacity =
      right.encodeAck request ackedType capacity := by
  simp only [App.encodeAck, ackPayload, same.state, same.config,
    same.configValid]

/-- Whether a request names the stored configuration is seen alike. -/
theorem SameSession.namesConfig
    (same : SameSession left right)
    (offset : Nat) :
    left.namesConfig request offset = right.namesConfig request offset := by
  simp only [App.namesConfig, same.config]

/-- Without a capture in this session there is nothing to describe. -/
theorem not_described
    {app : App}
    (idle : app.capturePending = false)
    (uncached : app.captureCache.valid = false) :
    ¬app.Described := by
  simp [Described, idle, uncached]

/-- Cleared session state is the same session. -/
theorem SameSession.cleared
    (same : SameSession left right) :
    SameSession left.cleared right.cleared :=
  { same with
    helloEstablished := rfl
    setCache := .invalidate _ _
    loopbackCache := .invalidate _ _
    loopbackAuthorized := rfl
    capturePending := rfl
    description := fun described =>
      absurd described (not_described rfl rfl)
    captureCache := .invalidate _ _
    periodic := rfl
    periodicRequestId := fun active => absurd active Bool.false_ne_true }

/-- A session is left alike. -/
theorem SameSession.endSession
    (same : SameSession left right)
    (hardware : Hardware) :
    SameOutcome (left.endSession hardware) (right.endSession hardware) := by
  refine ⟨rfl, rfl, ?_⟩
  have cleared := same.cleared
  by_cases failed : hardware.forceSafeResult ≠ .ok
  · simp only [App.endSession, if_pos failed]
    exact
      { cleared with
        state := rfl
        configValid := rfl
        bootId := rfl
        hostNonce := rfl }
  · simp only [App.endSession, if_neg failed]
    exact
      { cleared with
        state := by simp only [cleared.state]
        bootId := rfl
        hostNonce := rfl }

/-- A session is opened alike. -/
theorem SameSession.greeted
    (same : SameSession left right)
    (hostNonce : Id16) :
    SameSession (left.greeted hostNonce) (right.greeted hostNonce) :=
  { same with
    bootId := by simp only [App.greeted, same.deviceId]
    hostNonce := rfl
    helloEstablished := rfl
    state := by simp only [App.greeted, same.state] }

/-- A HELLO is answered alike. -/
theorem SameSession.handleHello
    (same : SameSession left right) :
    SameOutcome (left.handleHello request capacity hardware)
      (right.handleHello request capacity hardware) := by
  have ended :
      SameOutcome
        (if left.helloEstablished ∧ left.hostNonce ≠ requestId request then
          left.endSession hardware
        else
          left.answer none)
        (if right.helloEstablished ∧
            right.hostNonce ≠ requestId request then
          right.endSession hardware
        else
          right.answer none) := by
    rw [same.helloEstablished, same.hostNonce]
    split_ifs
    · exact same.endSession hardware
    · exact same.answer none
  have greeted := ended.session.greeted (requestId request)
  refine ⟨?_, ended.calls, greeted⟩
  dsimp only [App.handleHello]
  simp only [helloPayload, greeted.bootId, greeted.deviceId,
    greeted.resetReason, greeted.state]

/-- A GET_CONFIG is answered alike. -/
theorem SameSession.handleGetConfig
    (same : SameSession left right) :
    SameOutcome (left.handleGetConfig request capacity)
      (right.handleGetConfig request capacity) := by
  unfold App.handleGetConfig
  rw [same.configValid, same.config]
  split_ifs
  · exact same.refuse ..
  · split
    · exact same.refuse ..
    · exact same.answer _

/-- A GET_STATUS is answered alike. -/
theorem SameSession.handleGetStatus
    (same : SameSession left right) :
    SameOutcome (left.handleGetStatus request capacity)
      (right.handleGetStatus request capacity) := by
  have payload : left.statusPayload = right.statusPayload := by
    simp only [statusPayload, currentHash, same.bootId, same.state,
      same.lastError, same.configValid, same.config, same.captureSequence,
      same.periodic, same.lastTussDevStat, same.clockFaultFlags]
  unfold App.handleGetStatus
  rw [payload]
  exact same.answer _

/-- A SET_CONFIG is executed alike. -/
theorem SameSession.executeSetConfig
    (same : SameSession left right) :
    SameOutcome (left.executeSetConfig request capacity hardware)
      (right.executeSetConfig request capacity hardware) := by
  have mismatch :
      left.hashMismatch? request = right.hashMismatch? request := by
    simp only [hashMismatch?, currentHash, same.configValid, same.config]
  unfold App.executeSetConfig
  rw [mismatch]
  split
  · exact same.refuse ..
  · split
    · exact same.refuse ..
    · dsimp only
      split_ifs
      · have failed :
            SameSession
              { left with state := .configuring }.configFailed
              { right with state := .configuring }.configFailed :=
          { same with configValid := rfl, state := rfl }
        exact ⟨failed.encodeError .., rfl, failed⟩
      · rename_i candidate _ _
        have applied :
            SameSession
              ({ left with state := .configuring }.configApplied candidate
                hardware.applyReport)
              ({ right with state := .configuring }.configApplied candidate
                hardware.applyReport) :=
          { same with
            config := rfl
            configValid := rfl
            lastTussDevStat := rfl
            loopbackAuthorized := rfl
            loopbackCache := .invalidate _ _
            captureCache := .invalidate _ _
            description := fun described =>
              same.description (described.imp_right nofun)
            state := rfl }
        exact ⟨rfl, rfl, applied⟩

/-- A SET_CONFIG is answered alike. -/
theorem SameSession.handleSetConfig
    (same : SameSession left right) :
    SameOutcome (left.handleSetConfig request capacity hardware)
      (right.handleSetConfig request capacity hardware) := by
  unfold App.handleSetConfig
  rw [same.setCache.lookup]
  cases cached : right.setCache.lookup request with
  | replay =>
      rw [same.setCache.eq_of_lookup cached (by decide)]
      exact same.answer _
  | conflict =>
      rw [same.setCache.eq_of_lookup cached (by decide)]
      exact same.refuse ..
  | miss =>
      have executed :
          SameOutcome (left.executeSetConfig request capacity hardware)
            (right.executeSetConfig request capacity hardware) :=
        same.executeSetConfig
      dsimp only
      rw [executed.response]
      cases right.executeSetConfig request capacity hardware |>.response with
      | none =>
          exact executed
      | some reply =>
          dsimp only
          split_ifs
          · exact executed
          · exact ⟨rfl, executed.calls,
              { executed.session with setCache := .refl _ }⟩

/-- A loopback test is answered alike. -/
theorem SameSession.handleIo2Loopback
    (same : SameSession left right) :
    SameOutcome (left.handleIo2Loopback request capacity hardware)
      (right.handleIo2Loopback request capacity hardware) := by
  unfold App.handleIo2Loopback
  rw [same.loopbackCache.lookup]
  cases cached : right.loopbackCache.lookup request with
  | replay =>
      rw [same.loopbackCache.eq_of_lookup cached (by decide)]
      exact same.answer _
  | conflict =>
      rw [same.loopbackCache.eq_of_lookup cached (by decide)]
      exact same.refuse ..
  | miss =>
      have inactive (authorized : Bool) (cache : ReplyCache) :
          SameSession
            { left with
              loopbackAuthorized := authorized
              profileActive := false
              loopbackCache := cache }
            { right with
              loopbackAuthorized := authorized
              profileActive := false
              loopbackCache := cache } :=
        { same with
          loopbackAuthorized := rfl
          loopbackCache := .refl cache }
      have untouched :
          SameSession
            { left with
              loopbackAuthorized := false
              profileActive := false }
            { right with
              loopbackAuthorized := false
              profileActive := false } :=
        { same with loopbackAuthorized := rfl }
      have payload :
          { left with
              loopbackAuthorized := false
              profileActive := false }.loopbackPayload request
                hardware.loopbackReport =
            { right with
              loopbackAuthorized := false
              profileActive := false }.loopbackPayload request
                hardware.loopbackReport := by
        simp only [loopbackPayload, same.config]
      have calls (ran : Bool) :
          [Call.runIo2Loopback left.config.profile.burstPeriodTicks ran
              hardware.loopbackReport] =
            [Call.runIo2Loopback right.config.profile.burstPeriodTicks ran
              hardware.loopbackReport] := by
        rw [same.config]
      refine .ite (by rw [same.state, same.configValid]) (same.refuse ..) ?_
      refine .ite (by rw [same.clockFaultFlags]) ?_ ?_
      · rw [same.clockFaultFlags]
        exact same.refuse ..
      refine .ite (by rw [same.namesConfig]) (same.refuse ..) ?_
      refine .ite (by rw [same.config]) ?_ ?_
      · rw [same.config]
        exact same.refuse ..
      refine .ite Iff.rfl ⟨untouched.encodeError .., calls _, untouched⟩ ?_
      rw [payload]
      cases respond request Message.runIo2LoopbackTest _ capacity with
      | none =>
          exact ⟨rfl, calls _, untouched⟩
      | some reply =>
          exact .ite Iff.rfl ⟨rfl, calls _, untouched⟩
            ⟨rfl, calls _, inactive _ _⟩

/-- The authorization is consumed alike. -/
theorem SameSession.consumed
    (same : SameSession left right) :
    SameSession left.consumed right.consumed :=
  { same with loopbackAuthorized := rfl }

/-- The profile mark is nothing a session sees. -/
theorem SameSession.withProfile
    (same : SameSession left right)
    (active : Bool) :
    SameSession (left.withProfile active) (right.withProfile active) :=
  { same with }

/-- A commanded capture is described alike. -/
theorem SameSession.captured
    (same : SameSession left right)
    (request : Mcu.FrameView)
    (report : CaptureReport) :
    SameSession (left.captured request report)
      (right.captured request report) :=
  { same with
    description := fun _ => rfl
    captureSequence := by
      simp only [App.captured, same.captureSequence]
    capturePending := rfl }

/-- A commanded capture makes the same calls. -/
theorem SameSession.captureCalls
    (same : SameSession left right) :
    (left.captureCalls request hardware).map Invocation.call =
      (right.captureCalls request hardware).map Invocation.call := by
  simp [App.captureCalls, applyProfile, capture, forceSafe, App.consumed,
    App.withProfile, same.config]

/-- A commanded capture is executed alike. -/
theorem SameSession.executeCaptureOnce
    (same : SameSession left right) :
    SameOutcome (left.executeCaptureOnce request capacity hardware)
      (right.executeCaptureOnce request capacity hardware) := by
  have inactive := same.consumed.withProfile false
  have calls : (left.captureCalls request hardware).map Invocation.call = _ :=
    same.captureCalls
  unfold App.executeCaptureOnce
  refine .ite Iff.rfl ⟨inactive.encodeError .., ?_, inactive⟩ ?_
  · simp [applyProfile, forceSafe, same.config]
  refine .ite (by rw [same.config]) ⟨inactive.encodeError .., calls, inactive⟩
    ?_
  have captured := inactive.captured request (securedReport hardware)
  have payload :
      ((left.consumed.withProfile false).captured request
          (securedReport hardware)).ackPayload request Message.captureOnce
            ((left.consumed.withProfile false).captured request
              (securedReport hardware)).config.deviceConfigCrc32 =
        ((right.consumed.withProfile false).captured request
          (securedReport hardware)).ackPayload request Message.captureOnce
            ((right.consumed.withProfile false).captured request
              (securedReport hardware)).config.deviceConfigCrc32 := by
    simp only [ackPayload, captured.state, captured.config]
  have forgotten :
      SameSession
        { (left.consumed.withProfile false).captured request
            (securedReport hardware) with capturePending := false }
        { (right.consumed.withProfile false).captured request
            (securedReport hardware) with capturePending := false } :=
    { captured with
      capturePending := rfl
      description := fun _ => rfl }
  dsimp only
  rw [payload]
  cases respond request Message.ack _ capacity with
  | none =>
      exact ⟨rfl, calls, forgotten⟩
  | some ack =>
      exact .ite Iff.rfl ⟨rfl, calls, forgotten⟩
        ⟨rfl, calls,
          { captured with
            captureCache := .refl _
            description := fun _ => rfl }⟩

/-- A CAPTURE_ONCE is answered alike. -/
theorem SameSession.handleCaptureOnce
    (same : SameSession left right) :
    SameOutcome (left.handleCaptureOnce request capacity hardware)
      (right.handleCaptureOnce request capacity hardware) := by
  unfold App.handleCaptureOnce
  rw [same.captureCache.lookup]
  cases cached : right.captureCache.lookup request with
  | replay =>
      have held := same.captureCache.eq_of_lookup cached (by decide)
      have valid : right.captureCache.valid = true :=
        ReplyCache.valid_of_lookup (by rw [cached]; decide)
      have pending :
          SameSession { left with capturePending := true }
            { right with capturePending := true } :=
        { same with
          capturePending := rfl
          description := fun _ => same.description (.inr valid) }
      have reply : left.captureCache.reply = right.captureCache.reply := by
        rw [held]
      refine .ite (by rw [reply]) (same.answer none) ?_
      rw [reply]
      exact pending.answer _
  | conflict =>
      rw [same.captureCache.eq_of_lookup cached (by decide)]
      exact same.refuse ..
  | miss =>
      have unsafeRequest :
          left.captureOnceUnsafe request =
            right.captureOnceUnsafe request := by
        simp only [captureOnceUnsafe, same.config]
      refine .ite (by rw [same.state, same.configValid]) (same.refuse ..) ?_
      refine .ite (by rw [same.clockFaultFlags]) ?_ ?_
      · rw [same.clockFaultFlags]
        exact same.refuse ..
      refine .ite (by rw [same.namesConfig]) (same.consumed.refuse ..) ?_
      refine .ite (by rw [unsafeRequest]) (same.consumed.refuse ..) ?_
      exact same.executeCaptureOnce

/-- A START_PERIODIC is answered alike. -/
theorem SameSession.handleStartPeriodic
    (same : SameSession left right) :
    SameOutcome (left.handleStartPeriodic request capacity)
      (right.handleStartPeriodic request capacity) := by
  unfold App.handleStartPeriodic
  refine .ite ?_ (same.refuse ..) ?_
  · rw [same.state, same.configValid, same.capturePending,
      same.clockFaultFlags]
  refine .ite (by rw [same.namesConfig]) (same.refuse ..) ?_
  obtain ⟨⟨started, result⟩, shape⟩ :
      ∃ pair,
        right.periodic.start (slice request.payload 16 16)
            (readU32 request.payload 68) (readU32 request.payload 72)
            (readU32 request.payload 76).toUInt16 =
          pair :=
    ⟨_, rfl⟩
  rw [same.periodic, shape]
  cases result with
  | ok =>
      have running :
          SameSession
            { left with
              periodic := started
              periodicRequestId := requestId request
              lastError := 0 }
            { right with
              periodic := started
              periodicRequestId := requestId request
              lastError := 0 } :=
        { same with
          periodic := rfl
          periodicRequestId := fun _ => rfl
          lastError := rfl }
      dsimp only
      rw [running.encodeAck]
      exact running.answer _
  | invalid | conflict | expired =>
      exact same.refuse ..

/-- A schedule that is active only if the old one was belongs to the same
session. -/
theorem SameSession.withPeriodic
    (same : SameSession left right)
    {schedule : CaptureSchedule}
    (active : schedule.active = true → right.periodic.active = true) :
    SameSession { left with periodic := schedule }
      { right with periodic := schedule } :=
  { same with
    periodic := rfl
    periodicRequestId := fun running =>
      same.periodicRequestId (active running) }

/-- The last error is noted alike. -/
theorem SameSession.withLastError
    (same : SameSession left right)
    (lastError : UInt16) :
    SameSession { left with lastError := lastError }
      { right with lastError := lastError } :=
  { same with lastError := rfl }

/-- A schedule that has ended belongs to the same session. -/
theorem SameSession.withoutPeriodic
    (same : SameSession left right) :
    SameSession { left with periodic := CaptureSchedule.init }
      { right with periodic := CaptureSchedule.init } :=
  same.withPeriodic fun active => absurd active Bool.false_ne_true

/-- A renewal is answered alike. -/
theorem SameSession.handleRenewPeriodic
    (same : SameSession left right) :
    SameOutcome (left.handleRenewPeriodic request capacity)
      (right.handleRenewPeriodic request capacity) := by
  unfold App.handleRenewPeriodic
  refine .ite (by rw [same.bootId]) (same.refuse ..) ?_
  obtain ⟨⟨renewed, result⟩, shape⟩ :
      ∃ pair,
        right.periodic.renew (slice request.payload 16 16)
            (readU32 request.payload 32)
            (readU32 request.payload 36).toUInt16 =
          pair :=
    ⟨_, rfl⟩
  have frame :=
    right.periodic.renew_frame (slice request.payload 16 16)
      (readU32 request.payload 32) (readU32 request.payload 36).toUInt16
  rw [shape] at frame
  rw [same.periodic, shape]
  cases result with
  | ok =>
      have kept :=
        same.withPeriodic fun active => frame.1.symm.trans active
      refine ⟨?_, rfl, kept⟩
      dsimp only [App.answer]
      rw [same.bootId]
  | invalid | conflict | expired =>
      exact same.refuse ..

/-- A STOP is answered alike. -/
theorem SameSession.handleStop
    (same : SameSession left right) :
    SameOutcome (left.handleStop request capacity hardware)
      (right.handleStop request capacity hardware) := by
  unfold App.handleStop CaptureSchedule.stop
  rw [same.periodic]
  split_ifs
  · exact same.refuse ..
  · have finished := same.withoutPeriodic.withLastError 0
    dsimp only
    rw [finished.encodeAck]
    exact ⟨rfl, rfl, finished⟩

/-- Every request is answered alike. -/
theorem SameSession.handle
    (same : SameSession left right) :
    SameOutcome (left.handle request capacity hardware)
      (right.handle request capacity hardware) := by
  unfold App.handle
  refine .ite Iff.rfl (same.refuse ..) ?_
  refine .ite Iff.rfl same.handleHello ?_
  refine .ite (by rw [same.helloEstablished]) (same.refuse ..) ?_
  refine .ite Iff.rfl (same.answer _) ?_
  refine .ite Iff.rfl same.handleGetStatus ?_
  refine .ite Iff.rfl same.handleGetConfig ?_
  refine .ite Iff.rfl same.handleSetConfig ?_
  refine .ite Iff.rfl same.handleIo2Loopback ?_
  refine .ite Iff.rfl same.handleCaptureOnce ?_
  refine .ite Iff.rfl same.handleStartPeriodic ?_
  refine .ite Iff.rfl same.handleRenewPeriodic ?_
  exact .ite Iff.rfl same.handleStop (same.refuse ..)

/-- Time passes alike. -/
theorem SameSession.advanceTime
    (same : SameSession left right)
    (elapsedUs : UInt32) :
    SameOutcome (left.advanceTime elapsedUs hardware)
      (right.advanceTime elapsedUs hardware) := by
  unfold App.advanceTime
  refine .ite (by rw [same.periodic]) (same.answer none) ?_
  obtain ⟨⟨advanced, result⟩, shape⟩ :
      ∃ pair, right.periodic.advance elapsedUs = pair :=
    ⟨_, rfl⟩
  rw [same.periodic, shape]
  have within (notExpired : result = .expired → False) :
      SameOutcome
        ({ left with periodic := advanced }.answer none)
        ({ right with periodic := advanced }.answer none) := by
    have kept := CaptureSchedule.advance_of_ne_expired shape notExpired
    exact (same.withPeriodic fun active =>
      kept.1.symm.trans active).answer none
  cases result with
  | expired =>
      obtain rfl := CaptureSchedule.advance_expired shape
      have expired :=
        same.withoutPeriodic.withLastError ErrorCode.leaseExpired
      exact ⟨rfl, rfl, expired⟩
  | ok | invalid | conflict =>
      exact within (by decide)

/-- A schedule is stopped alike. -/
theorem SameSession.stopOwnSchedule
    (same : SameSession left right) :
    SameSession left.stopOwnSchedule right.stopOwnSchedule := by
  simp only [App.stopOwnSchedule, CaptureSchedule.stop_own]
  exact same.withoutPeriodic

/-- A clock fault is taken alike. -/
theorem SameSession.updateClockFaults
    (same : SameSession left right)
    (flags : UInt16) :
    SameOutcome (left.updateClockFaults flags hardware)
      (right.updateClockFaults flags hardware) := by
  unfold App.updateClockFaults
  refine .ite (by rw [same.clockFaultFlags]) (same.answer none) ?_
  have latched :
      SameSession
        { left with
          clockFaultFlags := flags
          lastError := ErrorCode.timingUncalibrated }
        { right with
          clockFaultFlags := flags
          lastError := ErrorCode.timingUncalibrated } :=
    { same with clockFaultFlags := rfl, lastError := rfl }
  exact ⟨rfl, rfl,
    .ite (by rw [same.periodic]) latched.stopOwnSchedule latched⟩

/-- A periodic capture is described alike. -/
theorem SameSession.capturedPeriodic
    (same : SameSession left right)
    (active : right.periodic.active = true)
    (report : CaptureReport) :
    SameSession (left.capturedPeriodic report)
      (right.capturedPeriodic report) := by
  have requestId := same.periodicRequestId active
  exact
    { same with
      captureSequence := by
        simp only [App.capturedPeriodic, same.captureSequence]
      description := fun _ => by
        simp only [App.description, App.capturedPeriodic, requestId,
          same.periodic, same.captureSequence]
      lastTussDevStat := rfl
      capturePending := rfl
      lastError := rfl
      periodic := by simp only [App.capturedPeriodic, same.periodic]
      periodicRequestId := fun _ => requestId }

/-- A periodic capture is run alike. -/
theorem SameSession.runPeriodicCapture
    (same : SameSession left right) :
    SameOutcome (left.runPeriodicCapture hardware)
      (right.runPeriodicCapture hardware) := by
  have due : left.periodicDue = right.periodicDue := by
    simp only [periodicDue, same.periodic, same.clockFaultFlags,
      same.capturePending]
  have applied :
      (left.applyProfile left.config.profile hardware).call =
        (right.applyProfile right.config.profile hardware).call := by
    simp only [applyProfile, same.config]
  have captured :
      (left.capture 0 0 hardware).call =
        (right.capture 0 0 hardware).call := by
    simp only [capture, same.config]
  unfold App.runPeriodicCapture
  by_cases active : right.periodicDue = false
  · rw [due, if_pos active, if_pos active]
    exact same.answer none
  rw [due, if_neg active, if_neg active]
  simp only [Bool.not_eq_false, periodicDue, Bool.and_eq_true] at active
  refine .ite Iff.rfl ⟨rfl, ?_, ?_⟩ ?_
  · simp only [List.map_cons, applied]
    rfl
  · exact (same.withLastError _).stopOwnSchedule
  refine .ite (by rw [same.config]) ⟨rfl, ?_, ?_⟩ ⟨rfl, ?_, ?_⟩
  · simp only [List.map_cons, applied, captured]
    rfl
  · exact (same.withLastError _).stopOwnSchedule
  · simp only [List.map_cons, applied, captured]
    rfl
  · exact same.capturedPeriodic active.1.1.1 _

/-- Every operation is performed alike. -/
theorem SameSession.perform
    (same : SameSession left right)
    (input : Input) :
    SameOutcome (left.perform input) (right.perform input) := by
  cases input with
  | handle request hardware => exact same.handle
  | advanceTime elapsedUs hardware => exact same.advanceTime elapsedUs
  | updateClockFaults flags hardware => exact same.updateClockFaults flags
  | runPeriodicCapture hardware => exact same.runPeriodicCapture
  | endSession hardware => exact same.endSession hardware

end SameSession

/-- A description comes into use with a capture, or was in use before. -/
theorem HandleEffect.described
    {app next : App}
    {request : Mcu.FrameView}
    {hardware : Hardware}
    {calls : List Invocation}
    (effect : HandleEffect app request hardware next calls)
    (described : next.Described) :
    app.Described ∨
      (calls.any fun invocation => invocation.call.isCapture) = true := by
  cases effect with
  | restarted =>
      refine absurd described (not_described ?_ ?_)
      · simp [App.greeted, App.endSession, App.cleared,
          apply_ite App.capturePending]
      · simp [App.greeted, App.endSession, App.cleared,
          apply_ite App.captureCache, ReplyCache.invalidate]
  | configApplied =>
      exact .inl (described.imp_right fun valid =>
        absurd valid Bool.false_ne_true)
  | captureReplayed dispatched cached =>
      exact .inl (.inr (ReplyCache.valid_of_lookup (by rw [cached]; decide)))
  | captureTaken =>
      exact .inr (by simp [App.captureCalls, capture, Call.isCapture])
  | _ =>
      exact .inl described

/-- A description comes into use with a capture, or was in use before. -/
theorem Effect.described
    {app next : App}
    {input : Input}
    {calls : List Invocation}
    (effect : Effect app input next calls)
    (described : next.Described) :
    app.Described ∨
      (calls.any fun invocation => invocation.call.isCapture) = true := by
  cases effect with
  | handled handled =>
      exact handled.described described
  | periodicTaken =>
      exact .inr (by simp [applyProfile, capture, Call.isCapture])
  | ended =>
      refine absurd described (not_described ?_ ?_)
      · simp [App.endSession, App.cleared, apply_ite App.capturePending]
      · simp [App.endSession, App.cleared, apply_ite App.captureCache,
          ReplyCache.invalidate]
  | _ =>
      exact .inl described

/-- Nothing of a session is left. -/
structure Blank (app : App) : Prop where
  setCache : app.setCache.valid = false
  loopbackCache : app.loopbackCache.valid = false
  loopbackAuthorized : app.loopbackAuthorized = false
  capturePending : app.capturePending = false
  captureCache : app.captureCache.valid = false
  periodic : app.periodic = CaptureSchedule.init

/-- Nothing is left of a session that has ended. -/
theorem endSession_blank
    (app : App)
    (hardware : Hardware) :
    (app.endSession hardware).app.Blank := by
  simp only [App.endSession]
  split_ifs <;> exact ⟨rfl, rfl, rfl, rfl, rfl, rfl⟩

/-- Without a session nothing of one is left. -/
def BlankOutside (app : App) : Prop :=
  app.helloEstablished = false → app.Blank

/-- A request leaves nothing behind outside a session. -/
theorem BlankOutside.handleEffect
    {app next : App}
    {request : Mcu.FrameView}
    {hardware : Hardware}
    {calls : List Invocation}
    (blank : app.BlankOutside)
    (effect : HandleEffect app request hardware next calls) :
    next.BlankOutside := by
  intro outside
  have within (established : app.helloEstablished = true) :
      next.helloEstablished = app.helloEstablished → next.Blank := by
    intro kept
    exact absurd (outside.symm.trans (kept.trans established))
      Bool.false_ne_true
  cases effect with
  | answered =>
      exact blank outside
  | greeted | restarted =>
      exact absurd outside.symm Bool.false_ne_true
  | configRefused reply fits dispatched =>
      exact within dispatched.established rfl
  | configFailed candidate reply fits configures =>
      exact within configures.dispatched.established rfl
  | configApplied candidate reply fits configures =>
      exact within configures.dispatched.established rfl
  | loopedBack authorized cache fits dispatched =>
      exact within dispatched.established rfl
  | captureReplayed dispatched =>
      exact within dispatched.established rfl
  | captureDeclined dispatched =>
      exact within dispatched.established rfl
  | captureNotApplied captures =>
      exact within captures.dispatched.established rfl
  | captureFailed captures =>
      exact within captures.dispatched.established rfl
  | captureTaken ack fits captures =>
      exact within captures.dispatched.established rfl
  | started schedule starts =>
      exact within starts.dispatched.established rfl
  | renewed dispatched =>
      exact within dispatched.established rfl
  | stopped dispatched =>
      exact within dispatched.established rfl

/-- Every operation leaves nothing behind outside a session. -/
theorem BlankOutside.perform
    {app : App}
    (blank : app.BlankOutside)
    (input : Input) :
    (app.perform input).app.BlankOutside := by
  cases input with
  | handle request hardware =>
      exact blank.handleEffect (handle_effect app request.val hardware)
  | advanceTime elapsedUs hardware =>
      intro outside
      by_cases inactive : app.periodic.active = false
      · simp only [App.perform, App.advanceTime, if_pos inactive] at outside ⊢
        exact blank outside
      · have effect := perform_effect app (.advanceTime elapsedUs hardware)
        refine absurd ?_ inactive
        have established :
            (app.perform (.advanceTime elapsedUs hardware)).app.helloEstablished =
              app.helloEstablished := by
          simp only [App.perform, App.advanceTime, if_neg inactive]
          split <;> rfl
        rw [(blank (established.symm.trans outside)).periodic]
        rfl
  | updateClockFaults flags hardware =>
      intro outside
      simp only [App.perform, App.updateClockFaults] at outside ⊢
      by_cases quiet : flags = 0 ∨ app.clockFaultFlags ≠ 0
      · rw [if_pos quiet] at outside ⊢
        exact blank outside
      · rw [if_neg quiet] at outside ⊢
        dsimp only at outside ⊢
        split_ifs at outside ⊢ with active
        · have before := blank outside
          rw [before.periodic] at active
          exact absurd active Bool.false_ne_true
        · have before := blank outside
          exact ⟨before.setCache, before.loopbackCache,
            before.loopbackAuthorized, before.capturePending,
            before.captureCache, before.periodic⟩
  | runPeriodicCapture hardware =>
      intro outside
      by_cases due : app.periodicDue = false
      · simp only [App.perform, App.runPeriodicCapture, if_pos due]
          at outside ⊢
        exact blank outside
      · refine absurd ?_ due
        have established :
            (app.perform (.runPeriodicCapture hardware)).app.helloEstablished =
              app.helloEstablished := by
          simp only [App.perform, App.runPeriodicCapture, if_neg due]
          split_ifs <;> rfl
        simp only [periodicDue,
          (blank (established.symm.trans outside)).periodic]
        rfl
  | endSession hardware =>
      exact fun _ => endSession_blank app hardware

/-- The HELLO opens a session: there is none yet, or that of another host. -/
structure OpensSession (app : App) (request : Mcu.FrameView) : Prop where
  flags : request.flags = 0
  hello : request.messageType = Message.hello
  other :
    app.helloEstablished = true → app.hostNonce ≠ requestId request

/-- What two hosts may have in common when their sessions open. -/
structure OpenAlike (left right : App) : Prop where
  hostNonce : left.hostNonce = right.hostNonce
  deviceId : left.deviceId = right.deviceId
  resetReason : left.resetReason = right.resetReason
  config : left.config = right.config
  configValid : left.configValid = right.configValid
  state : left.state = right.state
  captureSequence : left.captureSequence = right.captureSequence
  lastError : left.lastError = right.lastError
  lastTussDevStat : left.lastTussDevStat = right.lastTussDevStat
  clockFaultFlags : left.clockFaultFlags = right.clockFaultFlags

/-- A session that has just been opened: nothing but its identity is in it. -/
structure Opened (app : App) : Prop where
  blank : app.Blank
  established : app.helloEstablished = true
  bootId : app.bootId = bootIdDerive app.deviceId app.hostNonce

/-- A HELLO that opens a session opens a blank one. -/
theorem BlankOutside.opened
    {app : App}
    {request : Mcu.FrameView}
    (blank : app.BlankOutside)
    (opens : app.OpensSession request)
    (hardware : Hardware) :
    (app.handle request responseCapacity hardware).app.Opened := by
  have greets :
      app.handle request responseCapacity hardware =
        app.handleHello request responseCapacity hardware := by
    rw [App.handle, if_neg (not_not.2 opens.flags), if_pos opens.hello]
  rw [greets, App.handleHello]
  dsimp only
  split_ifs with ending
  · have ended := app.endSession_blank hardware
    exact ⟨⟨ended.setCache, ended.loopbackCache, ended.loopbackAuthorized,
      ended.capturePending, ended.captureCache, ended.periodic⟩, rfl, rfl⟩
  · have outside : app.helloEstablished = false := by
      by_contra established
      have established : app.helloEstablished = true := by
        simpa using established
      exact ending ⟨established, opens.other established⟩
    have before := blank outside
    exact ⟨⟨before.setCache, before.loopbackCache,
      before.loopbackAuthorized, before.capturePending,
      before.captureCache, before.periodic⟩, rfl, rfl⟩

/-- Two sessions that open alike are the same session. -/
theorem Opened.sameSession
    {left right : App}
    (leftOpened : left.Opened)
    (rightOpened : right.Opened)
    (alike : OpenAlike left right) :
    SameSession left right where
  state := alike.state
  config := alike.config
  deviceId := alike.deviceId
  bootId := by
    rw [leftOpened.bootId, rightOpened.bootId, alike.deviceId,
      alike.hostNonce]
  hostNonce := alike.hostNonce
  resetReason := alike.resetReason
  helloEstablished :=
    leftOpened.established.trans rightOpened.established.symm
  configValid := alike.configValid
  setCache :=
    .of_invalid leftOpened.blank.setCache rightOpened.blank.setCache
  loopbackCache :=
    .of_invalid leftOpened.blank.loopbackCache
      rightOpened.blank.loopbackCache
  loopbackAuthorized :=
    leftOpened.blank.loopbackAuthorized.trans
      rightOpened.blank.loopbackAuthorized.symm
  capturePending :=
    leftOpened.blank.capturePending.trans
      rightOpened.blank.capturePending.symm
  description := fun described =>
    absurd described
      (not_described rightOpened.blank.capturePending
        rightOpened.blank.captureCache)
  captureSequence := alike.captureSequence
  captureCache :=
    .of_invalid leftOpened.blank.captureCache
      rightOpened.blank.captureCache
  periodic :=
    leftOpened.blank.periodic.trans rightOpened.blank.periodic.symm
  periodicRequestId := fun active => by
    rw [rightOpened.blank.periodic] at active
    exact absurd active Bool.false_ne_true
  lastError := alike.lastError
  lastTussDevStat := alike.lastTussDevStat
  clockFaultFlags := alike.clockFaultFlags

end App

end Usac.Firmware
