import Usac.Firmware.Response

namespace Usac.Firmware

open Library

/-!
# What a response says

A response is built from the state the request leaves behind, or it is the
reply a cache has kept for this very request. Built responses are listed by
their content. A cache changes only by dropping its reply or by taking the
response that was just built.
-/

namespace App

/-- What a built response reports of the state it was built in. -/
inductive Content where
  | hello
  | capabilities
  | status
  | config
  | lease
  | ack
  | error (errorCode : UInt16) (detail0 detail1 : UInt32)
  | loopback (report : LoopbackReport)

namespace Content

/-- The message type of a response. -/
def messageType : Content → UInt8
  | hello => Message.hello
  | capabilities => Message.getCapabilities
  | status => Message.getStatus
  | config => Message.getConfig
  | lease => Message.renewPeriodicLease
  | ack => Message.ack
  | error _ _ _ => Message.error
  | loopback _ => Message.runIo2LoopbackTest

/-- The capabilities of the production build. -/
def capabilitiesPayload : List UInt8 :=
  writeU32 0x0000007F ++ writeU16 Mcu.maxCommandPayload.toUInt16 ++
    writeU16 captureSampleCount.toUInt16 ++ writeU16 120 ++
    writeU16 960 ++ writeU16 24 ++ writeU16 800 ++
    [registerCount.toUInt8, 1, 16, 12, 0x0F, 0, 0, 0]

/-- The payload of a renewed lease. -/
def leasePayload (app : App) : List UInt8 :=
  app.bootId.toList ++ app.periodic.scheduleId.toList ++
    writeU32 app.periodic.leaseSequence ++
    writeU32 app.periodic.leaseRemainingMs.toUInt32

/-- The payload of a response to a request. -/
def payload (app : App) (request : Mcu.FrameView) : Content → List UInt8
  | hello => app.helloPayload request
  | capabilities => capabilitiesPayload
  | status => app.statusPayload
  | config => app.config.wireForm
  | lease => leasePayload app
  | ack =>
      app.ackPayload request request.messageType
        (if app.configValid then app.config.deviceConfigCrc32 else 0)
  | error errorCode detail0 detail1 =>
      app.errorPayload request errorCode detail0 detail1
  | loopback report => app.loopbackPayload request report

/-- The frame of a response. -/
def frame (content : Content) (app : App) (request : Mcu.FrameView) :
    List UInt8 :=
  reply request content.messageType (content.payload app request)

/-- What holds of the state when a response is built. -/
def Sound (app : App) (hardware : Hardware) : Content → Prop
  | config => app.configValid = true ∧ app.config.Identified
  | lease =>
      app.helloEstablished = true ∧ app.periodic.active = true ∧
        app.periodic.leaseSequence ≠ 0
  | loopback report => report = hardware.loopbackReport
  | _ => True

/-- The types of request a response of this kind answers. An error answers any
request. -/
def Answers (requested : UInt8) : Content → Prop
  | hello => requested = Message.hello
  | capabilities => requested = Message.getCapabilities
  | status => requested = Message.getStatus
  | config => requested = Message.getConfig
  | lease => requested = Message.renewPeriodicLease
  | ack =>
      requested = Message.setConfig ∨ requested = Message.captureOnce ∨
        requested = Message.startPeriodic ∨ requested = Message.stop
  | error _ _ _ => True
  | loopback _ => requested = Message.runIo2LoopbackTest

/-- The length of every built payload. -/
theorem length_payload_le
    (content : Content)
    (app : App)
    (request : Mcu.FrameView) :
    (content.payload app request).length ≤ 108 := by
  cases content with
  | hello => simp [payload, helloPayload]
  | capabilities => simp [payload, capabilitiesPayload]
  | status =>
      have length := length_statusPayload app
      rw [payload]
      omega
  | config =>
      rw [payload, ConfigV2.length_wireForm]
      decide
  | lease => simp [payload, leasePayload]
  | ack => simp [payload]
  | error => simp [payload]
  | loopback => simp [payload]

/-- Every built response fits the response buffer. -/
theorem length_frame_le
    (content : Content)
    (app : App)
    (request : Mcu.FrameView) :
    (content.frame app request).length ≤ responseCapacity := by
  apply reply_le
  have short := length_payload_le content app request
  rw [responseCapacity]
  omega

end Content

/-- A reply that is replayed was kept for the same request. -/
theorem matches_of_lookup
    {cache : ReplyCache}
    {request : Mcu.FrameView}
    (cached : cache.lookup request = .replay) :
    cache.valid = true ∧ requestId request = cache.requestId ∧
      request.sequence = cache.sequence := by
  unfold ReplyCache.lookup at cached
  split_ifs at cached with known same
  exact ⟨known.1, known.2, same.1⟩

/-- A cache keeps its reply, drops it, or takes a new response to a request of
its type. -/
def CacheStep
    (request : Mcu.FrameView)
    (response : List UInt8)
    (requested : UInt8)
    (before after : ReplyCache) :
    Prop :=
  after = before ∨ after.valid = false ∨
    request.messageType = requested ∧
      after = ReplyCache.store request response

/-- How the caches change with a response. -/
structure CachesStep
    (request : Mcu.FrameView)
    (response : List UInt8)
    (app next : App) :
    Prop where
  set :
    CacheStep request response Message.setConfig app.setCache next.setCache
  loopback :
    CacheStep request response Message.runIo2LoopbackTest app.loopbackCache
      next.loopbackCache
  capture :
    CacheStep request response Message.captureOnce app.captureCache
      next.captureCache

/-- The caches stay as they are. -/
theorem CachesStep.same
    (request : Mcu.FrameView)
    (response : List UInt8)
    (app : App) :
    CachesStep request response app app :=
  ⟨.inl rfl, .inl rfl, .inl rfl⟩

/-- Whether a cache is the application's for requests of a type. -/
def Holds (app : App) (requested : UInt8) (cache : ReplyCache) : Prop :=
  requested = Message.setConfig ∧ cache = app.setCache ∨
    requested = Message.runIo2LoopbackTest ∧ cache = app.loopbackCache ∨
    requested = Message.captureOnce ∧ cache = app.captureCache

/-- A response that is built for the state the request leaves behind. -/
structure Built
    (app : App)
    (request : Mcu.FrameView)
    (hardware : Hardware)
    (next : App)
    (response : Option (List UInt8)) :
    Prop where
  reports :
    ∃ content : Content,
      content.Sound next hardware ∧
        content.Answers request.messageType ∧
        response = some (content.frame next request) ∧
        CachesStep request (content.frame next request) app next

/-- The response to a request. -/
inductive Answer
    (app : App)
    (request : Mcu.FrameView)
    (hardware : Hardware)
    (next : App) :
    Option (List UInt8) → Prop where
  | built
      {response : Option (List UInt8)}
      (built : Built app request hardware next response) :
      Answer app request hardware next response
  | replayed
      (cache : ReplyCache)
      (held : app.Holds request.messageType cache)
      (cached : cache.lookup request = .replay)
      (kept :
        ∀ requested other, next.Holds requested other →
          app.Holds requested other) :
      Answer app request hardware next (some cache.reply)

variable {app : App} {request : Mcu.FrameView} {hardware : Hardware}

/-- A refusal is answered with an error. -/
theorem refuse_built
    (errorCode : UInt16)
    (detail0 detail1 : UInt32) :
    Built app request hardware
      (app.refuse request errorCode detail0 detail1 responseCapacity).app
      (app.refuse request errorCode detail0 detail1
        responseCapacity).response := by
  simp only [refuse, answer, encodeError_fits]
  exact ⟨.error errorCode detail0 detail1, trivial, trivial, rfl,
    .same request _ app⟩

/-- A stored reply that fits is replayed. -/
theorem cachedReply_answer
    {cache : ReplyCache}
    (held : app.Holds request.messageType cache)
    (cached : cache.lookup request = .replay)
    (fits : cache.reply.length ≤ responseCapacity) :
    Answer app request hardware app
      (cachedReply cache responseCapacity) := by
  rw [cachedReply, if_neg (not_lt.2 fits)]
  exact .replayed cache held cached fun _ _ same => same

/-- A built response is sent as it is. -/
theorem respond_built
    {next : App}
    (content : Content)
    (sound : content.Sound next hardware)
    (answers : content.Answers request.messageType)
    (caches : CachesStep request (content.frame next request) app next) :
    Built app request hardware next
      (respond request content.messageType (content.payload next request)
        responseCapacity) := by
  rw [respond_fits (content.length_payload_le next request)]
  exact ⟨content, sound, answers, rfl, caches⟩

/-- An error built in the next state is sent as it is. -/
theorem encodeError_built
    {next : App}
    (caches : ∀ response, CachesStep request response app next)
    (errorCode : UInt16)
    (detail0 detail1 : UInt32) :
    Built app request hardware next
      (next.encodeError request errorCode detail0 detail1
        responseCapacity) :=
  respond_built (.error errorCode detail0 detail1) trivial trivial (caches _)

/-- An acknowledgement built in the next state is sent as it is. -/
theorem encodeAck_built
    {next : App}
    {ackedType : UInt8}
    (asked : request.messageType = ackedType)
    (acked : Content.ack.Answers ackedType)
    (caches : ∀ response, CachesStep request response app next) :
    Built app request hardware next
      (next.encodeAck request ackedType responseCapacity) := by
  subst asked
  exact respond_built .ack trivial acked (caches _)

/-- Ending a session drops every stored reply. -/
theorem endSession_caches
    (app : App)
    (hardware : Hardware)
    (response : List UInt8) :
    CachesStep request response app (app.endSession hardware).app := by
  simp only [endSession]
  split_ifs <;>
    exact ⟨.inr (.inl rfl), .inr (.inl rfl), .inr (.inl rfl)⟩

/-- A HELLO is answered with the session it opens. -/
theorem handleHello_built
    (asked : request.messageType = Message.hello) :
    Built app request hardware
      (app.handleHello request responseCapacity hardware).app
      (app.handleHello request responseCapacity hardware).response := by
  unfold handleHello
  dsimp only
  refine respond_built .hello trivial asked ?_
  split_ifs
  · obtain ⟨set, loopback, capture⟩ :=
      endSession_caches app hardware
        (Content.frame .hello
          ((app.endSession hardware).app.greeted (requestId request)) request)
    exact ⟨set, loopback, capture⟩
  · exact ⟨.inl rfl, .inl rfl, .inl rfl⟩

/-- A GET_CONFIG is answered with the stored configuration. -/
theorem handleGetConfig_built
    (asked : request.messageType = Message.getConfig) :
    Built app request hardware
      (app.handleGetConfig request responseCapacity).app
      (app.handleGetConfig request responseCapacity).response := by
  unfold handleGetConfig
  split
  · exact refuse_built ..
  · rename_i valid
    split
    · exact refuse_built ..
    · rename_i payload encoded
      obtain ⟨identified, rfl⟩ := ConfigV2.identified_of_encode encoded
      have stored : app.configValid = true := by simpa using valid
      exact respond_built .config ⟨stored, identified⟩ asked
        (.same request _ app)

/-- What a SET_CONFIG answers before it is stored. -/
theorem executeSetConfig_built
    (asked : request.messageType = Message.setConfig) :
    Built app request hardware
      (app.executeSetConfig request responseCapacity hardware).app
      (app.executeSetConfig request responseCapacity hardware).response := by
  unfold executeSetConfig
  split
  · exact refuse_built ..
  · split
    · exact refuse_built ..
    · dsimp only
      split_ifs
      · refine encodeError_built ?_ _ _ _
        exact fun _ => ⟨.inl rfl, .inl rfl, .inl rfl⟩
      · rw [← asked]
        exact respond_built .ack trivial (.inl asked)
          ⟨.inl rfl, .inr (.inl rfl), .inr (.inl rfl)⟩

/-- A response that is stored is the response all the same. -/
theorem Built.storeSet
    {next : App}
    {response : List UInt8}
    (asked : request.messageType = Message.setConfig)
    (built : Built app request hardware next (some response)) :
    Built app request hardware
      { next with setCache := ReplyCache.store request response }
      (some response) := by
  obtain ⟨content, sound, answers, same, caches⟩ := built
  obtain rfl := Option.some.inj same
  refine ⟨content, ?_, answers, ?_,
    .inr (.inr ⟨asked, ?_⟩), caches.loopback, caches.capture⟩ <;>
    cases content <;> first | exact sound | rfl

/-- A SET_CONFIG is answered. -/
theorem handleSetConfig_answer
    (asked : request.messageType = Message.setConfig)
    (responsive : app.Responsive) :
    Answer app request hardware
      (app.handleSetConfig request responseCapacity hardware).app
      (app.handleSetConfig request responseCapacity hardware).response := by
  have executed : Built app request hardware
      (app.executeSetConfig request responseCapacity hardware).app
      (app.executeSetConfig request responseCapacity hardware).response :=
    executeSetConfig_built asked
  unfold handleSetConfig
  split
  · rename_i cached
    exact cachedReply_answer (.inl ⟨asked, rfl⟩) cached responsive.set
  · exact .built (refuse_built ..)
  · dsimp only
    split
    · exact .built executed
    · rename_i response responded
      rw [responded] at executed
      split_ifs
      · rw [responded]
        exact .built executed
      · rw [responded]
        exact .built (executed.storeSet asked)

/-- A loopback test is answered. -/
theorem handleIo2Loopback_answer
    (asked : request.messageType = Message.runIo2LoopbackTest)
    (responsive : app.Responsive) :
    Answer app request hardware
      (app.handleIo2Loopback request responseCapacity hardware).app
      (app.handleIo2Loopback request responseCapacity hardware).response := by
  unfold handleIo2Loopback
  split
  · rename_i cached
    exact cachedReply_answer (.inr (.inl ⟨asked, rfl⟩)) cached
      responsive.loopback
  · exact .built (refuse_built ..)
  · dsimp only
    rw [respond_fits (by simp)]
    dsimp only
    split_ifs
    · exact .built (refuse_built ..)
    · exact .built (refuse_built ..)
    · exact .built (refuse_built ..)
    · exact .built (refuse_built ..)
    · refine .built (encodeError_built ?_ _ _ _)
      exact fun _ => ⟨.inl rfl, .inl rfl, .inl rfl⟩
    · exact .built ⟨.loopback hardware.loopbackReport, rfl, asked, rfl,
        .inl rfl, .inl rfl, .inl rfl⟩
    · exact .built ⟨.loopback hardware.loopbackReport, rfl, asked, rfl,
        .inl rfl, .inr (.inr ⟨asked, rfl⟩), .inl rfl⟩

/-- A commanded capture that reaches the hardware is answered. -/
theorem executeCaptureOnce_built
    (asked : request.messageType = Message.captureOnce)
    (valid : app.configValid = true) :
    Built app request hardware
      (app.executeCaptureOnce request responseCapacity hardware).app
      (app.executeCaptureOnce request responseCapacity hardware).response := by
  unfold executeCaptureOnce
  dsimp only
  split_ifs
  · refine encodeError_built ?_ _ _ _
    exact fun _ => ⟨.inl rfl, .inl rfl, .inl rfl⟩
  · refine encodeError_built ?_ _ _ _
    exact fun _ => ⟨.inl rfl, .inl rfl, .inl rfl⟩
  · let taken :=
      (app.consumed.withProfile false).captured request
        (securedReport hardware)
    have crc :
        (if taken.configValid = true then taken.config.deviceConfigCrc32
          else 0) = taken.config.deviceConfigCrc32 :=
      if_pos valid
    have same : Content.ack.frame taken request =
        reply request Message.ack
          (taken.ackPayload request Message.captureOnce
            taken.config.deviceConfigCrc32) := by
      rw [Content.frame, Content.payload, crc, asked]
      rfl
    have built : Built app request hardware
        { taken with
          captureCache :=
            ReplyCache.store request (Content.ack.frame taken request) }
        (some (Content.ack.frame taken request)) :=
      ⟨.ack, trivial, .inr (.inl asked), rfl, .inl rfl, .inl rfl,
        .inr (.inr ⟨asked, rfl⟩)⟩
    rw [respond_fits (by simp)]
    dsimp only
    rw [if_neg (not_lt.2 (reply_le (by simp [captureCacheSize])))]
    rw [same] at built
    exact built

/-- A CAPTURE_ONCE is answered. -/
theorem handleCaptureOnce_answer
    (asked : request.messageType = Message.captureOnce)
    (responsive : app.Responsive) :
    Answer app request hardware
      (app.handleCaptureOnce request responseCapacity hardware).app
      (app.handleCaptureOnce request responseCapacity hardware).response := by
  unfold handleCaptureOnce
  split
  · rename_i cached
    rw [if_neg (not_lt.2 responsive.capture)]
    exact .replayed app.captureCache (.inr (.inr ⟨asked, rfl⟩)) cached
      fun _ _ same => same
  · exact .built (refuse_built ..)
  · split_ifs with busy
    · exact .built (refuse_built ..)
    · exact .built (refuse_built ..)
    · refine .built (encodeError_built ?_ _ _ _)
      exact fun _ => ⟨.inl rfl, .inl rfl, .inl rfl⟩
    · refine .built (encodeError_built ?_ _ _ _)
      exact fun _ => ⟨.inl rfl, .inl rfl, .inl rfl⟩
    · push Not at busy
      exact .built (executeCaptureOnce_built asked (by simpa using busy.2))

/-- A START_PERIODIC is answered. -/
theorem handleStartPeriodic_built
    (asked : request.messageType = Message.startPeriodic) :
    Built app request hardware
      (app.handleStartPeriodic request responseCapacity).app
      (app.handleStartPeriodic request responseCapacity).response := by
  unfold handleStartPeriodic
  split
  · exact refuse_built ..
  · split
    · exact refuse_built ..
    · split
      · refine encodeAck_built asked (.inr (.inr (.inl rfl))) ?_
        exact fun _ => ⟨.inl rfl, .inl rfl, .inl rfl⟩
      · exact refuse_built ..

/-- A lease renewal is answered with the lease it renewed. -/
theorem handleRenewPeriodic_built
    (asked : request.messageType = Message.renewPeriodicLease)
    (established : app.helloEstablished = true) :
    Built app request hardware
      (app.handleRenewPeriodic request responseCapacity).app
      (app.handleRenewPeriodic request responseCapacity).response := by
  unfold handleRenewPeriodic
  split
  · exact refuse_built ..
  · split
    · rename_i renewed accepted
      obtain ⟨active, sequence⟩ := CaptureSchedule.renew_running accepted
      exact respond_built .lease ⟨established, active, sequence⟩ asked
        ⟨.inl rfl, .inl rfl, .inl rfl⟩
    · exact refuse_built ..

/-- A STOP is answered. -/
theorem handleStop_built
    (asked : request.messageType = Message.stop) :
    Built app request hardware
      (app.handleStop request responseCapacity hardware).app
      (app.handleStop request responseCapacity hardware).response := by
  unfold handleStop
  split
  · exact refuse_built ..
  · refine encodeAck_built asked (.inr (.inr (.inr rfl))) ?_
    exact fun _ => ⟨.inl rfl, .inl rfl, .inl rfl⟩

/-- Every request is answered. -/
theorem handle_answer
    (responsive : app.Responsive)
    (hardware : Hardware) :
    Answer app request hardware
      (app.handle request responseCapacity hardware).app
      (app.handle request responseCapacity hardware).response := by
  let law (outcome : Outcome) : Prop :=
    Answer app request hardware outcome.app outcome.response
  apply @handle_rule app request hardware responseCapacity law
  · exact fun _ _ _ => .built (refuse_built ..)
  · exact fun _ asked => .built (handleHello_built asked)
  · intro dispatched
    apply Answer.built
    simp only [handleGetCapabilities, answer]
    exact respond_built .capabilities trivial dispatched.messageType
      (.same request _ app)
  · intro dispatched
    apply Answer.built
    simp only [handleGetStatus, answer]
    exact respond_built .status trivial dispatched.messageType
      (.same request _ app)
  · exact fun dispatched =>
      .built (handleGetConfig_built dispatched.messageType)
  · exact fun dispatched =>
      handleSetConfig_answer dispatched.messageType responsive
  · exact fun dispatched =>
      handleIo2Loopback_answer dispatched.messageType responsive
  · exact fun dispatched =>
      handleCaptureOnce_answer dispatched.messageType responsive
  · exact fun dispatched =>
      .built (handleStartPeriodic_built dispatched.messageType)
  · exact fun dispatched =>
      .built (handleRenewPeriodic_built dispatched.messageType
        dispatched.established)
  · exact fun dispatched => .built (handleStop_built dispatched.messageType)

end App

end Usac.Firmware
