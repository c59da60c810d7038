import Usac.Firmware.Request
import Usac.Firmware.ScheduleBinding

namespace Usac.Firmware

open Library

/-!
# Retransmitted requests

A host that misses a response sends the same frame again. Three handlers keep
the last reply to answer the second frame from, each with its own idea of when
a reply is kept: a SET_CONFIG always, a loopback test only if it ran, a
CAPTURE_ONCE only if it succeeded. A START_PERIODIC keeps none.
-/

/-- A cache answers the request whose reply it has just taken. -/
@[simp] theorem ReplyCache.lookup_store
    (request : Mcu.FrameView)
    (reply : List UInt8) :
    (ReplyCache.store request reply).lookup request = .replay := by
  simp [ReplyCache.lookup, ReplyCache.store]

namespace App

/-- The requests that act on the hardware or start a schedule. -/
def sideEffecting (request : Mcu.FrameView) : Bool :=
  request.messageType == Message.setConfig ||
    request.messageType == Message.captureOnce ||
    request.messageType == Message.runIo2LoopbackTest ||
    request.messageType == Message.startPeriodic

/-- The operation, performed again right away, invokes nothing and answers the
same. -/
structure Repeats
    (operation : App → Hardware → Outcome)
    (app : App)
    (first second : Hardware) :
    Prop where
  quiet : (operation (operation app first).app second).calls = []
  same :
    (operation (operation app first).app second).response =
      (operation app first).response

/-- The request, retransmitted in the very next step, invokes no callback and
gets the same response. -/
def RetransmitsSafely
    (app : App)
    (request : Mcu.FrameView)
    (first second : Hardware) :
    Prop :=
  Repeats (fun app hardware => app.handle request responseCapacity hardware)
    app first second

/-- A RUN_IO2_LOOPBACK_TEST that passes every check before the hardware is
driven. -/
structure LoopsBack (app : App) (request : Mcu.FrameView) : Prop where
  dispatched : app.Dispatched request Message.runIo2LoopbackTest
  fresh : app.loopbackCache.lookup request = .miss
  idle : app.state = .idleSafe
  valid : app.configValid = true
  clock : app.clockFaultFlags = 0
  named : app.namesConfig request 16 = true
  baseline :
    app.config.profileSha256 = ConfigV2.initD10x4.profileSha256 ∧
      app.config.deviceConfigCrc32 = ConfigV2.initD10x4.deviceConfigCrc32

/-- The hardware does not complete a commanded capture. -/
def captureIncomplete (app : App) (hardware : Hardware) : Bool :=
  hardware.applyResult != .ok || !hardware.captureRan ||
    !(securedReport hardware).isComplete app.config.pretriggerCount

/-- The request acts and leaves no reply for its retransmission. -/
inductive ActsUncached
    (app : App)
    (request : Mcu.FrameView)
    (hardware : Hardware) :
    Prop where
  | captureFailed
      (captures : app.Captures request)
      (admissible : app.captureOnceUnsafe request = false)
      (incomplete : app.captureIncomplete hardware = true)
  | loopbackFailed
      (loopsBack : app.LoopsBack request)
      (failed : hardware.loopbackRan = false)
  | scheduleStarted
      (schedule : CaptureSchedule)
      (starts : app.Starts request schedule)

section Operations

variable {app : App} {request : Mcu.FrameView} {first second : Hardware}
  {operation : App → Hardware → Outcome}

/-- An operation that answers the same whatever the hardware does, and leaves
the state alone, repeats. -/
theorem Repeats.of_answer
    (response : Option (List UInt8))
    (answers : ∀ hardware, operation app hardware = app.answer response) :
    Repeats operation app first second := by
  constructor
  · rw [answers first]
    exact congrArg Outcome.calls (answers second)
  · rw [answers first]
    exact congrArg Outcome.response (answers second)

/-- An operation whose second run only answers, with the first response,
repeats. -/
theorem Repeats.of_replay
    {next : App}
    (replays :
      operation (operation app first).app second =
        next.answer (operation app first).response) :
    Repeats operation app first second :=
  ⟨congrArg Outcome.calls replays, by rw [replays]; rfl⟩

/-- A request that does not open a session keeps the one there is. -/
theorem HandleEffect.sameSession
    {next : App}
    {hardware : Hardware}
    {calls : List Invocation}
    (effect : HandleEffect app request hardware next calls)
    (noHello : request.messageType ≠ Message.hello) :
    next.helloEstablished = app.helloEstablished := by
  cases effect with
  | greeted flags hello | restarted flags hello =>
      exact absurd hello noHello
  | _ =>
      rfl

/-- A request that does not reach its handler is refused without effect. -/
theorem handle_undispatched
    {messageType : UInt8}
    (type : request.messageType = messageType)
    (noHello : messageType ≠ Message.hello)
    (undispatched : ¬app.Dispatched request messageType) :
    ∃ response,
      ∀ hardware,
        app.handle request responseCapacity hardware = app.answer response := by
  by_cases flags : request.flags = 0
  · have unestablished : app.helloEstablished = false := by
      by_contra established
      exact undispatched ⟨flags, by simpa using established, type⟩
    refine ⟨app.encodeError request ErrorCode.invalidState 0 0
      responseCapacity, fun hardware => ?_⟩
    rw [handle, if_neg (not_not.2 flags), if_neg (type ▸ noHello),
      if_pos unestablished]
    rfl
  · refine ⟨app.encodeError request ErrorCode.invalidMessage
      request.flags.toUInt32 0 responseCapacity, fun hardware => ?_⟩
    rw [handle, if_pos flags]
    rfl

/-- A request that reaches its handler repeats exactly when the handler
does. -/
theorem retransmitsSafely_iff_repeats
    {messageType : UInt8}
    (reaches :
      ∀ (app : App) hardware,
        app.Dispatched request messageType →
          app.handle request responseCapacity hardware =
            operation app hardware)
    (noHello : messageType ≠ Message.hello)
    (dispatched : app.Dispatched request messageType) :
    app.RetransmitsSafely request first second ↔
      Repeats operation app first second := by
  have once := reaches app first dispatched
  have session :=
    (handle_effect app request first).sameSession
      (dispatched.messageType.symm ▸ noHello)
  have again := reaches (operation app first).app second
    ⟨dispatched.flags, by rw [← once, session, dispatched.established],
      dispatched.messageType⟩
  constructor
  · rintro ⟨quiet, same⟩
    rw [once, again] at quiet same
    exact ⟨quiet, same⟩
  · rintro ⟨quiet, same⟩
    constructor
    · rw [once, again]
      exact quiet
    · rw [once, again]
      exact same

/-- A SET_CONFIG that reaches the configuration is answered, and the answer is
one its cache takes. -/
theorem executeSetConfig_reply
    (app : App)
    (request : Mcu.FrameView)
    (hardware : Hardware) :
    ∃ reply,
      (app.executeSetConfig request responseCapacity hardware).response =
          some reply ∧
        reply.length ≤ setCacheSize := by
  unfold executeSetConfig
  split
  · exact ⟨_, encodeError_fits .., reply_le (by simp [setCacheSize])⟩
  · split
    · exact ⟨_, encodeError_fits .., reply_le (by simp [setCacheSize])⟩
    · dsimp only
      split_ifs
      · exact ⟨_, encodeError_fits .., reply_le (by simp [setCacheSize])⟩
      · rw [respond_fits (by simp)]
        exact ⟨_, rfl, reply_le (by simp [setCacheSize])⟩

/-- A reply that its cache took fits the response buffer again. -/
theorem cachedReply_store
    {reply : List UInt8}
    (fits : reply.length ≤ responseCapacity)
    (request : Mcu.FrameView) :
    cachedReply (ReplyCache.store request reply) responseCapacity =
      some reply :=
  if_neg (not_lt.2 fits)

/-- A SET_CONFIG whose reply is kept is answered with it. -/
theorem handleSetConfig_replay
    (cached : app.setCache.lookup request = .replay)
    (hardware : Hardware) :
    app.handleSetConfig request responseCapacity hardware =
      app.answer (cachedReply app.setCache responseCapacity) := by
  simp only [handleSetConfig, cached]

/-- Every SET_CONFIG keeps its reply. -/
theorem handleSetConfig_repeats :
    Repeats
      (fun app hardware =>
        app.handleSetConfig request responseCapacity hardware)
      app first second := by
  cases cached : app.setCache.lookup request with
  | replay =>
      exact .of_answer _ (handleSetConfig_replay cached)
  | conflict =>
      refine .of_answer
        (app.encodeError request ErrorCode.invalidMessage
          app.setCache.sequence request.sequence responseCapacity)
        fun hardware => ?_
      simp only [handleSetConfig, cached, refuse]
  | miss =>
      obtain ⟨reply, replied, fits⟩ :=
        executeSetConfig_reply app request first
      have once :
          app.handleSetConfig request responseCapacity first =
            { app.executeSetConfig request responseCapacity first with
              app :=
                { (app.executeSetConfig request responseCapacity
                    first).app with
                  setCache := ReplyCache.store request reply } } := by
        simp only [handleSetConfig, cached, replied]
        rw [if_neg (not_lt.2 fits)]
      apply Repeats.of_replay
      rw [once]
      exact (handleSetConfig_replay (ReplyCache.lookup_store ..) second).trans
        (congrArg _ ((cachedReply_store (fits.trans (by decide)) request).trans
          replied.symm))

/-- A loopback test whose reply is kept is answered with it. -/
theorem handleIo2Loopback_replay
    (cached : app.loopbackCache.lookup request = .replay)
    (hardware : Hardware) :
    app.handleIo2Loopback request responseCapacity hardware =
      app.answer (cachedReply app.loopbackCache responseCapacity) := by
  simp only [handleIo2Loopback, cached]

/-- What a loopback test that passes its checks does to the hardware. -/
theorem LoopsBack.handleIo2Loopback
    (loopsBack : app.LoopsBack request)
    (hardware : Hardware) :
    ∃ reply,
      reply.length ≤ loopbackCacheSize ∧
        app.handleIo2Loopback request responseCapacity hardware =
          { app :=
              { app with
                loopbackAuthorized :=
                  hardware.loopbackRan &&
                    hardware.loopbackReport.resultFlags == loopbackPass
                profileActive := false
                loopbackCache :=
                  if hardware.loopbackRan then
                    ReplyCache.store request reply
                  else
                    app.loopbackCache }
            response := some reply
            calls :=
              [Invocation.mk { app with loopbackAuthorized := false }
                (.runIo2Loopback app.config.profile.burstPeriodTicks
                  hardware.loopbackRan hardware.loopbackReport)] } := by
  obtain ⟨-, fresh, idle, valid, clock, named, hash, crc⟩ := loopsBack
  unfold App.handleIo2Loopback
  rw [fresh]
  dsimp only
  rw [if_neg (by simp [idle, valid]), if_neg (by simp [clock]),
    if_neg (by simp [named]), if_neg (by simp [hash, crc])]
  cases ran : hardware.loopbackRan with
  | false =>
      refine ⟨reply request Message.error
        (app.errorPayload request ErrorCode.io2LoopbackFailed 0 0),
        reply_le (by simp [loopbackCacheSize]), ?_⟩
      simp only [encodeError_fits, if_true, Bool.false_and,
        Bool.false_eq_true, if_false]
      rfl
  | true =>
      refine ⟨reply request Message.runIo2LoopbackTest
        (app.loopbackPayload request hardware.loopbackReport),
        reply_le (by simp [loopbackCacheSize]), ?_⟩
      rw [if_neg (by simp), respond_fits (by simp)]
      dsimp only
      rw [if_neg (not_lt.2 (reply_le (by simp [loopbackCacheSize])))]
      simp only [Bool.true_and, if_true, beq_eq_decide]
      rfl

/-- A loopback test that does not reach the hardware only answers. -/
theorem handleIo2Loopback_refused
    (dispatched : app.Dispatched request Message.runIo2LoopbackTest)
    (fresh : app.loopbackCache.lookup request = .miss)
    (stays : ¬app.LoopsBack request) :
    ∃ response,
      ∀ hardware,
        app.handleIo2Loopback request responseCapacity hardware =
          app.answer response := by
  unfold App.handleIo2Loopback
  simp only [fresh]
  split_ifs with busy clock named baseline
  · exact ⟨_, fun _ => rfl⟩
  · exact ⟨_, fun _ => rfl⟩
  · exact ⟨_, fun _ => rfl⟩
  · exact ⟨_, fun _ => rfl⟩
  · push Not at busy clock baseline
    exact absurd
      ⟨dispatched, fresh, busy.1, by simpa using busy.2, clock,
        by simpa using named, baseline⟩
      stays

/-- A loopback test repeats unless it reached the hardware and did not run. -/
theorem handleIo2Loopback_repeats_iff
    (dispatched : app.Dispatched request Message.runIo2LoopbackTest) :
    Repeats
        (fun app hardware =>
          app.handleIo2Loopback request responseCapacity hardware)
        app first second ↔
      ¬(app.LoopsBack request ∧ first.loopbackRan = false) := by
  by_cases loopsBack : app.LoopsBack request
  · obtain ⟨reply, fits, once⟩ := loopsBack.handleIo2Loopback first
    cases ran : first.loopbackRan with
    | false =>
        refine iff_of_false ?_ (not_not.2 ⟨loopsBack, rfl⟩)
        rintro ⟨quiet, -⟩
        rw [ran] at once
        have again : (app.handleIo2Loopback request responseCapacity
            first).app.LoopsBack request := by
          rw [once]
          exact ⟨⟨loopsBack.dispatched.flags,
            loopsBack.dispatched.established,
            loopsBack.dispatched.messageType⟩, loopsBack.fresh,
            loopsBack.idle, loopsBack.valid, loopsBack.clock,
            loopsBack.named, loopsBack.baseline⟩
        obtain ⟨_, _, twice⟩ := again.handleIo2Loopback second
        rw [twice] at quiet
        exact List.cons_ne_nil _ _ quiet
    | true =>
        refine iff_of_true ?_ (by simp)
        rw [ran] at once
        apply Repeats.of_replay
        rw [once]
        exact (handleIo2Loopback_replay
          (ReplyCache.lookup_store request reply) second).trans
          (congrArg _ (cachedReply_store
            (fits.trans (by decide)) request))
  · refine iff_of_true ?_ fun failed => loopsBack failed.1
    cases cached : app.loopbackCache.lookup request with
    | replay =>
        exact .of_answer _ (handleIo2Loopback_replay cached)
    | conflict =>
        refine .of_answer
          (app.encodeError request ErrorCode.invalidMessage
            app.loopbackCache.sequence request.sequence responseCapacity)
          fun hardware => ?_
        simp only [App.handleIo2Loopback, cached, refuse]
    | miss =>
        obtain ⟨response, refused⟩ :=
          handleIo2Loopback_refused dispatched cached loopsBack
        exact .of_answer response refused

/-- A CAPTURE_ONCE whose reply is kept is answered with it. -/
theorem handleCaptureOnce_replay
    (cached : app.captureCache.lookup request = .replay)
    (fits : app.captureCache.reply.length ≤ responseCapacity)
    (hardware : Hardware) :
    app.handleCaptureOnce request responseCapacity hardware =
      { app with capturePending := true }.answer
        (some app.captureCache.reply) := by
  simp only [handleCaptureOnce, cached, if_neg (not_lt.2 fits)]

/-- A CAPTURE_ONCE that passes its checks drives the hardware. -/
theorem Captures.handleCaptureOnce
    (captures : app.Captures request)
    (admissible : app.captureOnceUnsafe request = false)
    (hardware : Hardware) :
    app.handleCaptureOnce request responseCapacity hardware =
      app.executeCaptureOnce request responseCapacity hardware := by
  obtain ⟨-, fresh, idle, valid, clock, named⟩ := captures
  unfold App.handleCaptureOnce
  rw [fresh]
  dsimp only
  rw [if_neg (by simp [idle, valid]), if_neg (by simp [clock]),
    if_neg (by simp [named]), if_neg (by simp [admissible])]

/-- A commanded capture invokes at least the configuration callback. -/
theorem executeCaptureOnce_calls_ne_nil
    (app : App)
    (request : Mcu.FrameView)
    (hardware : Hardware) :
    (app.executeCaptureOnce request responseCapacity hardware).calls ≠
      [] := by
  unfold executeCaptureOnce
  dsimp only
  split_ifs
  · exact List.cons_ne_nil _ _
  · exact List.cons_ne_nil _ _
  · rw [respond_fits (by simp)]
    dsimp only
    split_ifs <;> exact List.cons_ne_nil _ _

/-- A commanded capture that is not completed consumes the authorization and
changes nothing else that its checks read. -/
theorem executeCaptureOnce_incomplete
    (request : Mcu.FrameView)
    (incomplete : app.captureIncomplete first = true) :
    (app.executeCaptureOnce request responseCapacity first).app =
      app.consumed.withProfile false := by
  unfold executeCaptureOnce
  dsimp only
  split_ifs with failed unfinished
  · rfl
  · rfl
  · simp only [captureIncomplete, Bool.or_eq_true, bne_iff_ne,
      Bool.not_eq_true'] at incomplete
    push Not at failed unfinished
    simp only [failed, unfinished] at incomplete
    simp at incomplete

/-- A commanded capture that is completed keeps its reply. -/
theorem executeCaptureOnce_complete
    (complete : app.captureIncomplete first = false) :
    ∃ ack,
      ack.length ≤ captureCacheSize ∧
        (app.executeCaptureOnce request responseCapacity first).response =
            some ack ∧
          (app.executeCaptureOnce request responseCapacity
              first).app.captureCache =
            ReplyCache.store request ack := by
  simp only [captureIncomplete, Bool.or_eq_false_iff, bne_eq_false_iff_eq,
    Bool.not_eq_false'] at complete
  obtain ⟨⟨applied, ran⟩, finished⟩ := complete
  unfold executeCaptureOnce
  dsimp only
  rw [if_neg (by simp [applied]), if_neg (by simp [ran, finished]),
    respond_fits (by simp)]
  dsimp only
  rw [if_neg (not_lt.2 (reply_le (by simp [captureCacheSize])))]
  exact ⟨_, reply_le (by simp [captureCacheSize]), rfl, rfl⟩

section Declined

variable
  (fresh : app.captureCache.lookup request = .miss)
  (free : ¬(app.state ≠ .idleSafe ∨ app.configValid = false))
  (clock : ¬app.clockFaultFlags ≠ 0)
  (hardware : Hardware)

include fresh free clock

/-- A CAPTURE_ONCE for another configuration is declined. -/
theorem handleCaptureOnce_mismatch
    (named : app.namesConfig request 16 = false) :
    app.handleCaptureOnce request responseCapacity hardware =
      app.consumed.refuse request ErrorCode.configMismatch 0 0
        responseCapacity := by
  simp only [handleCaptureOnce, fresh, if_neg free, if_neg clock, named,
    if_true]

/-- A CAPTURE_ONCE with unsafe parameters is declined. -/
theorem handleCaptureOnce_inadmissible
    (named : app.namesConfig request 16 = true)
    (unsafeRequest : app.captureOnceUnsafe request = true) :
    app.handleCaptureOnce request responseCapacity hardware =
      app.consumed.refuse request ErrorCode.unsafeConfig 0 0
        responseCapacity := by
  simp only [handleCaptureOnce, fresh, if_neg free, if_neg clock, named,
    Bool.true_eq_false, if_false, unsafeRequest, if_true]

end Declined

/-- A CAPTURE_ONCE whose checks fail is refused, and refused again in the state
it leaves. -/
theorem handleCaptureOnce_refused
    (dispatched : app.Dispatched request Message.captureOnce)
    (fresh : app.captureCache.lookup request = .miss)
    (stays :
      ¬(app.Captures request ∧ app.captureOnceUnsafe request = false)) :
    ∃ next response,
      (∀ hardware,
        app.handleCaptureOnce request responseCapacity hardware =
          answer next response) ∧
      ∀ hardware,
        App.handleCaptureOnce next request responseCapacity hardware =
          answer next response := by
  by_cases busy : app.state ≠ .idleSafe ∨ app.configValid = false
  · have refused (hardware : Hardware) :
        app.handleCaptureOnce request responseCapacity hardware =
          app.refuse request ErrorCode.invalidState 0 0
            responseCapacity := by
      simp only [handleCaptureOnce, fresh, if_pos busy]
    exact ⟨_, _, refused, refused⟩
  by_cases clock : app.clockFaultFlags ≠ 0
  · have refused (hardware : Hardware) :
        app.handleCaptureOnce request responseCapacity hardware =
          app.refuse request ErrorCode.timingUncalibrated
            app.clockFaultFlags.toUInt32 0 responseCapacity := by
      simp only [handleCaptureOnce, fresh, if_neg busy, if_pos clock]
    exact ⟨_, _, refused, refused⟩
  -- From here on the refusal consumes the loopback authorization, which no
  -- check reads.
  cases named : app.namesConfig request 16 with
  | false =>
      have again (hardware : Hardware) :
          app.consumed.handleCaptureOnce request responseCapacity hardware =
            app.consumed.refuse request ErrorCode.configMismatch 0 0
              responseCapacity :=
        @handleCaptureOnce_mismatch app.consumed request fresh busy clock
          hardware named
      exact ⟨_, _, fun hardware =>
        handleCaptureOnce_mismatch fresh busy clock hardware named, again⟩
  | true =>
      have unsafeRequest : app.captureOnceUnsafe request = true := by
        by_contra admissible
        push Not at busy clock
        exact stays
          ⟨⟨dispatched, fresh, busy.1, by simpa using busy.2, clock, named⟩,
            by simpa using admissible⟩
      have again (hardware : Hardware) :
          app.consumed.handleCaptureOnce request responseCapacity hardware =
            app.consumed.refuse request ErrorCode.unsafeConfig 0 0
              responseCapacity :=
        @handleCaptureOnce_inadmissible app.consumed request fresh busy clock
          hardware named unsafeRequest
      exact ⟨_, _, fun hardware =>
        handleCaptureOnce_inadmissible fresh busy clock hardware named
          unsafeRequest, again⟩

/-- A CAPTURE_ONCE repeats unless it drove the hardware without completing its
capture. -/
theorem handleCaptureOnce_repeats_iff
    (dispatched : app.Dispatched request Message.captureOnce) :
    Repeats
        (fun app hardware =>
          app.handleCaptureOnce request responseCapacity hardware)
        app first second ↔
      ¬((app.Captures request ∧ app.captureOnceUnsafe request = false) ∧
        app.captureIncomplete first = true) := by
  by_cases executes :
      app.Captures request ∧ app.captureOnceUnsafe request = false
  · obtain ⟨captures, admissible⟩ := executes
    have once := captures.handleCaptureOnce admissible first
    cases incomplete : app.captureIncomplete first with
    | true =>
        refine iff_of_false ?_ (not_not.2 ⟨⟨captures, admissible⟩, rfl⟩)
        rintro ⟨quiet, -⟩
        have next := executeCaptureOnce_incomplete request incomplete
        rw [once, next] at quiet
        have again :
            (app.consumed.withProfile false).Captures request :=
          ⟨⟨dispatched.flags, dispatched.established,
            dispatched.messageType⟩, captures.fresh, captures.idle,
            captures.valid, captures.clock, captures.named⟩
        rw [again.handleCaptureOnce admissible second] at quiet
        exact executeCaptureOnce_calls_ne_nil _ _ _ quiet
    | false =>
        refine iff_of_true ?_ (by simp)
        obtain ⟨ack, fits, replied, cached⟩ :=
          executeCaptureOnce_complete incomplete
        have stored :
            (app.executeCaptureOnce request responseCapacity
                first).app.captureCache.lookup request =
              .replay := by
          rw [cached]
          exact ReplyCache.lookup_store request ack
        have room :
            (app.executeCaptureOnce request responseCapacity
                first).app.captureCache.reply.length ≤
              responseCapacity := by
          rw [cached]
          exact fits.trans (by decide)
        have again := handleCaptureOnce_replay stored room second
        rw [cached] at again
        apply Repeats.of_replay
        rw [once, replied]
        exact again
  · refine iff_of_true ?_ fun failed => executes failed.1
    cases cached : app.captureCache.lookup request with
    | replay =>
        by_cases fits :
            app.captureCache.reply.length ≤ responseCapacity
        · have again :=
            @handleCaptureOnce_replay { app with capturePending := true }
              request cached fits second
          apply Repeats.of_replay
          rw [handleCaptureOnce_replay cached fits]
          exact again
        · refine .of_answer none fun hardware => ?_
          simp only [handleCaptureOnce, cached, if_pos (not_le.1 fits)]
    | conflict =>
        refine .of_answer
          (app.encodeError request ErrorCode.invalidMessage
            app.captureCache.sequence request.sequence responseCapacity)
          fun hardware => ?_
        simp only [handleCaptureOnce, cached, refuse]
    | miss =>
        obtain ⟨next, response, once, again⟩ :=
          handleCaptureOnce_refused dispatched cached executes
        apply Repeats.of_replay
        rw [once first]
        exact again second

/-- A START_PERIODIC that starts nothing only answers. -/
theorem handleStartPeriodic_refused
    (dispatched : app.Dispatched request Message.startPeriodic)
    (stays : ¬∃ schedule, app.Starts request schedule) :
    ∃ response,
      app.handleStartPeriodic request responseCapacity =
        app.answer response := by
  unfold handleStartPeriodic
  split_ifs with busy named
  · exact ⟨_, rfl⟩
  · exact ⟨_, rfl⟩
  · split
    · rename_i started accepted
      push Not at busy
      exact absurd
        ⟨started, dispatched, busy.1, by simpa using busy.2.1,
          by simpa using busy.2.2.1, busy.2.2.2, by simpa using named,
          accepted⟩
        stays
    · exact ⟨_, rfl⟩

/-- A schedule that has been started is not started again. -/
theorem Starts.not_repeats
    {schedule : CaptureSchedule}
    (starts : app.Starts request schedule) :
    ¬app.RetransmitsSafely request first second := by
  rintro ⟨-, same⟩
  have start := starts.dispatched.messageType
  have acked :=
    (Board.acknowledged_start_iff start first).2 ⟨schedule, starts⟩
  rw [← same, Board.acknowledged_start_iff start second,
    Board.handle_starts starts first] at acked
  obtain ⟨schedule', starts'⟩ := acked
  have inactive := (CaptureSchedule.start_ok starts'.accepted).1
  have active := (CaptureSchedule.start_ok starts.accepted).2.1
  exact Bool.false_ne_true (inactive.symm.trans active)

/-- A START_PERIODIC repeats unless it starts a schedule. -/
theorem retransmitsSafely_start_iff
    (dispatched : app.Dispatched request Message.startPeriodic) :
    app.RetransmitsSafely request first second ↔
      ¬∃ schedule, app.Starts request schedule := by
  constructor
  · rintro safe ⟨schedule, starts⟩
    exact starts.not_repeats safe
  · intro stays
    obtain ⟨response, refused⟩ :=
      handleStartPeriodic_refused dispatched stays
    refine .of_answer response fun hardware => ?_
    rw [Board.handle_dispatched_start dispatched, refused]

/-- A request that reaches no handler leaves nothing behind to repeat. -/
theorem ActsUncached.dispatched
    {hardware : Hardware}
    (acts : app.ActsUncached request hardware) :
    app.Dispatched request request.messageType := by
  cases acts with
  | captureFailed captures =>
      exact ⟨captures.dispatched.flags, captures.dispatched.established, rfl⟩
  | loopbackFailed loopsBack =>
      exact ⟨loopsBack.dispatched.flags, loopsBack.dispatched.established,
        rfl⟩
  | scheduleStarted schedule starts =>
      exact ⟨starts.dispatched.flags, starts.dispatched.established, rfl⟩

end Operations

section Types

variable {app : App} {request : Mcu.FrameView} {hardware : Hardware}

/-- No SET_CONFIG acts without keeping its reply. -/
theorem not_actsUncached_of_setConfig
    (type : request.messageType = Message.setConfig) :
    ¬app.ActsUncached request hardware := by
  intro acts
  cases acts with
  | captureFailed captures =>
      exact absurd (type.symm.trans captures.dispatched.messageType)
        (by decide)
  | loopbackFailed loopsBack =>
      exact absurd (type.symm.trans loopsBack.dispatched.messageType)
        (by decide)
  | scheduleStarted schedule starts =>
      exact absurd (type.symm.trans starts.dispatched.messageType)
        (by decide)

/-- The way in which a CAPTURE_ONCE acts without keeping its reply. -/
theorem actsUncached_iff_of_captureOnce
    (type : request.messageType = Message.captureOnce) :
    app.ActsUncached request hardware ↔
      (app.Captures request ∧ app.captureOnceUnsafe request = false) ∧
        app.captureIncomplete hardware = true := by
  refine ⟨fun acts => ?_, fun acts => .captureFailed acts.1.1 acts.1.2 acts.2⟩
  cases acts with
  | captureFailed captures admissible incomplete =>
      exact ⟨⟨captures, admissible⟩, incomplete⟩
  | loopbackFailed loopsBack =>
      exact absurd (type.symm.trans loopsBack.dispatched.messageType)
        (by decide)
  | scheduleStarted schedule starts =>
      exact absurd (type.symm.trans starts.dispatched.messageType)
        (by decide)

/-- The way in which a loopback test acts without keeping its reply. -/
theorem actsUncached_iff_of_loopback
    (type : request.messageType = Message.runIo2LoopbackTest) :
    app.ActsUncached request hardware ↔
      app.LoopsBack request ∧ hardware.loopbackRan = false := by
  refine ⟨fun acts => ?_, fun acts => .loopbackFailed acts.1 acts.2⟩
  cases acts with
  | captureFailed captures =>
      exact absurd (type.symm.trans captures.dispatched.messageType)
        (by decide)
  | loopbackFailed loopsBack failed =>
      exact ⟨loopsBack, failed⟩
  | scheduleStarted schedule starts =>
      exact absurd (type.symm.trans starts.dispatched.messageType)
        (by decide)

/-- The way in which a START_PERIODIC acts without keeping its reply. -/
theorem actsUncached_iff_of_startPeriodic
    (type : request.messageType = Message.startPeriodic) :
    app.ActsUncached request hardware ↔
      ∃ schedule, app.Starts request schedule := by
  refine ⟨fun acts => ?_, fun ⟨schedule, starts⟩ =>
    .scheduleStarted schedule starts⟩
  cases acts with
  | captureFailed captures =>
      exact absurd (type.symm.trans captures.dispatched.messageType)
        (by decide)
  | loopbackFailed loopsBack =>
      exact absurd (type.symm.trans loopsBack.dispatched.messageType)
        (by decide)
  | scheduleStarted schedule starts =>
      exact ⟨schedule, starts⟩

end Types

/-- A side-effecting request can be retransmitted safely unless it acted and
kept no reply: a CAPTURE_ONCE that drove the hardware without completing its
capture, a loopback test that did not run, or a START_PERIODIC that started its
schedule. -/
theorem retransmitsSafely_iff
    (app : App)
    (request : Mcu.ParsedFrame)
    (first second : Hardware)
    (acting : sideEffecting request.val = true) :
    app.RetransmitsSafely request.val first second ↔
      ¬app.ActsUncached request.val first := by
  by_cases dispatched : app.Dispatched request.val request.val.messageType
  swap
  · refine iff_of_true ?_ fun acts => dispatched acts.dispatched
    have noHello : request.val.messageType ≠ Message.hello := by
      intro hello
      rw [sideEffecting, hello] at acting
      exact absurd acting (by decide)
    obtain ⟨response, refused⟩ :=
      handle_undispatched rfl noHello dispatched
    exact .of_answer response refused
  simp only [sideEffecting, Bool.or_eq_true, beq_iff_eq] at acting
  rcases acting with ((type | type) | type) | type
  · rw [type] at dispatched
    refine iff_of_true ?_ (not_actsUncached_of_setConfig type)
    refine (retransmitsSafely_iff_repeats ?_ (by decide) dispatched).2
      (@handleSetConfig_repeats app request.val first second)
    intro app hardware dispatched
    simp [handle, dispatched.flags, dispatched.established,
      dispatched.messageType, Message.setConfig, Message.hello,
      Message.getCapabilities, Message.getStatus, Message.getConfig]
  · rw [type] at dispatched
    rw [actsUncached_iff_of_captureOnce type,
      ← handleCaptureOnce_repeats_iff dispatched]
    refine retransmitsSafely_iff_repeats ?_ (by decide) dispatched
    intro app hardware dispatched
    simp [handle, dispatched.flags, dispatched.established,
      dispatched.messageType, Message.setConfig, Message.hello,
      Message.getCapabilities, Message.getStatus, Message.getConfig,
      Message.runIo2LoopbackTest, Message.captureOnce]
  · rw [type] at dispatched
    rw [actsUncached_iff_of_loopback type,
      ← handleIo2Loopback_repeats_iff dispatched]
    refine retransmitsSafely_iff_repeats ?_ (by decide) dispatched
    intro app hardware dispatched
    simp [handle, dispatched.flags, dispatched.established,
      dispatched.messageType, Message.setConfig, Message.hello,
      Message.getCapabilities, Message.getStatus, Message.getConfig,
      Message.runIo2LoopbackTest]
  · rw [type] at dispatched
    rw [actsUncached_iff_of_startPeriodic type]
    exact retransmitsSafely_start_iff dispatched

/-- A HELLO after a successful boot. -/
def opened : List Input :=
  [.handle (Request.hello 1 (Bytes.zero 16)) Hardware.nominal]

/-- A CAPTURE_ONCE for the default configuration. -/
def captureRequest : Mcu.ParsedFrame :=
  Request.captureOnce 2 (Id16.ofByte 1) ConfigV2.initD10x4

/-- A completed capture is retransmitted safely. -/
theorem retransmitsSafely_completedCapture :
    (machine.after booted opened).RetransmitsSafely captureRequest.val
      Hardware.nominal Hardware.nominal := by
  have complete :
      (machine.after booted opened).captureIncomplete Hardware.nominal =
        false := by
    decide +kernel
  refine (retransmitsSafely_iff (machine.after booted opened) captureRequest
    Hardware.nominal Hardware.nominal rfl).2 ?_
  rw [actsUncached_iff_of_captureOnce rfl, complete]
  exact fun acts => Bool.false_ne_true acts.2

/-- The retransmission of a capture that the hardware did not complete drives
the hardware again. -/
theorem not_retransmitsSafely_failedCapture :
    ¬∀ (inputs : List Input) (request : Mcu.ParsedFrame)
        (first second : Hardware),
      sideEffecting request.val = true →
        (machine.after booted inputs).RetransmitsSafely request.val first
          second := by
  intro safe
  have quiet :=
    (safe opened captureRequest
      { Hardware.nominal with captureRan := false } Hardware.nominal
      rfl).quiet
  have driven :
      (((machine.after booted opened).handle captureRequest.val
          responseCapacity
          { Hardware.nominal with captureRan := false }).app.handle
        captureRequest.val responseCapacity
          Hardware.nominal).calls.length = 3 := by
    decide +kernel
  rw [quiet] at driven
  exact absurd driven (by decide)

end App

end Usac.Firmware
