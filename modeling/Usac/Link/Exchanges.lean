import Usac.Firmware.Request
import Usac.Link.Reconfiguration

namespace Usac.Link

open Library
open Firmware (App Hardware ConfigResult ConfigV2)
open Host (AcquisitionConfigV2 Frame MessageType Raised ErrorResponse Ack
  SetConfigRequest bind_eq_ok require_eq_ok ok_bind error_bind require)

/-!
# Exchanges that configure

What the firmware keeps while no command arrives, and everything a GET_CONFIG
and a SET_CONFIG of the client can do to both sides.
-/

namespace Method

variable {First Second : Type}

/-- A method from a state that satisfies the precondition returns in one that
satisfies the postcondition, or raises in one the last predicate allows. -/
def Ensures
    (method : Method First)
    (before : Call → Prop)
    (after : First → Call → Prop)
    (raises : Raised → Call → Prop) :
    Prop :=
  ∀ call, before call →
    match method.perform call with
    | (.ok result, next) => after result next
    | (.error raised, next) => raises raised next

/-- One method after the other. -/
theorem perform_bind
    (first : Method First)
    (second : First → Method Second)
    (call : Call) :
    (first >>= second).perform call =
      match first.perform call with
      | (.ok result, next) => (second result).perform next
      | (.error raised, next) => (.error raised, next) := by
  simp only [perform, ExceptT.run_bind, StateT.run_bind]
  rcases (ExceptT.run first).run call with ⟨_ | _, _⟩ <;> rfl

/-- A computation that may raise leaves the state as it is. -/
theorem perform_lift
    (computation : Except Raised First)
    (call : Call) :
    perform (liftM computation) call = (computation, call) := by
  cases computation <;> rfl

namespace Ensures

variable
  {before : Call → Prop}
  {raises : Raised → Call → Prop}

/-- Methods in sequence meet in the state between them. -/
theorem bind
    {first : Method First}
    {second : First → Method Second}
    {between : First → Call → Prop}
    {after : Second → Call → Prop}
    (atFirst : Ensures first before between raises)
    (atSecond : ∀ result, Ensures (second result) (between result) after raises) :
    Ensures (first >>= second) before after raises := by
  intro call holds
  have reached := atFirst call holds
  rw [perform_bind]
  rcases outcome : first.perform call with ⟨raised | result, next⟩
  · rw [outcome] at reached
    exact reached
  · rw [outcome] at reached
    exact atSecond result next reached

/-- Stronger preconditions and weaker postconditions. -/
theorem imp
    {method : Method First}
    {before' : Call → Prop}
    {after after' : First → Call → Prop}
    {raises' : Raised → Call → Prop}
    (ensured : Ensures method before after raises)
    (stronger : ∀ call, before' call → before call)
    (returned : ∀ result call, after result call → after' result call)
    (raised : ∀ error call, raises error call → raises' error call) :
    Ensures method before' after' raises' := by
  intro call holds
  have reached := ensured call (stronger call holds)
  rcases outcome : method.perform call with ⟨error | result, next⟩
  · rw [outcome] at reached
    exact raised error next reached
  · rw [outcome] at reached
    exact returned result next reached

/-- A result leaves the state as it is. -/
theorem pure
    {after : First → Call → Prop}
    (result : First)
    (holds : ∀ call, before call → after result call) :
    Ensures (Pure.pure result) before after raises :=
  fun call start => holds call start

/-- A computation returns or raises. -/
theorem lift
    {after : First → Call → Prop}
    (computation : Except Raised First)
    (returned :
      ∀ result call, computation = .ok result → before call →
        after result call)
    (raised :
      ∀ error call, computation = .error error → before call →
        raises error call) :
    Ensures (liftM computation) before after raises := by
  intro call start
  rw [perform_lift]
  cases computation with
  | error error => exact raised error call rfl start
  | ok result => exact returned result call rfl start

end Ensures

end Method

/-! ## What the firmware does by itself -/

/-- The firmware keeps what a configuration depends on. -/
structure Steady (app next : App) : Prop where
  config : next.config = app.config
  configValid : next.configValid = app.configValid
  established : next.helloEstablished = app.helloEstablished
  setCache : next.setCache = app.setCache
  state : next.state = app.state

namespace Steady

/-- Nothing has happened. -/
theorem refl (app : App) : Steady app app :=
  ⟨rfl, rfl, rfl, rfl, rfl⟩

/-- One thing after the other. -/
theorem trans
    {first second third : App}
    (before : Steady first second)
    (after : Steady second third) :
    Steady first third where
  config := after.config.trans before.config
  configValid := after.configValid.trans before.configValid
  established := after.established.trans before.established
  setCache := after.setCache.trans before.setCache
  state := after.state.trans before.state

/-- A SET_CONFIG has to name the same hash as before. -/
theorem currentHash
    {app next : App}
    (steady : Steady app next) :
    next.currentHash = app.currentHash := by
  rw [App.currentHash, App.currentHash, steady.config, steady.configValid]

end Steady

/-- The configuration, while it is valid, carries its identifiers. -/
def Hashed (app : App) : Prop :=
  app.configValid = true → app.config.Identified

/-- Without a configuration there is nothing to identify. -/
theorem hashed_of_invalid
    {app : App}
    (invalid : app.configValid = false) :
    Hashed app :=
  fun valid => absurd (valid.symm.trans invalid) (by decide)

/-- A board starts with a configuration that carries its identifiers. -/
theorem boot_hashed
    (deviceId : Bytes 16)
    (result : ConfigResult)
    (devStat : UInt8) :
    Hashed (App.boot deviceId result devStat) :=
  fun _ => ConfigV2.initD10x4_identified

/-- What the firmware does by itself keeps an established session steady. -/
theorem perform_steady
    (app : App)
    {event : Background}
    (kept : event.keepsSession = true) :
    Steady app (event.perform app) := by
  cases event with
  | advanceTime elapsedUs hardware =>
      have effect := App.advanceTime_effect app elapsedUs hardware
      simp only [Background.perform]
      generalize (app.advanceTime elapsedUs hardware).app = next at effect
      generalize (app.advanceTime elapsedUs hardware).calls = calls at effect
      cases effect <;> exact ⟨rfl, rfl, rfl, rfl, rfl⟩
  | updateClockFaults flags hardware =>
      have effect := App.updateClockFaults_effect app flags hardware
      simp only [Background.perform]
      generalize (app.updateClockFaults flags hardware).app = next at effect
      generalize (app.updateClockFaults flags hardware).calls = calls at effect
      cases effect <;> exact ⟨rfl, rfl, rfl, rfl, rfl⟩
  | runPeriodicCapture hardware =>
      have effect := App.runPeriodicCapture_effect app hardware
      simp only [Background.perform]
      generalize (app.runPeriodicCapture hardware).app = next at effect
      generalize (app.runPeriodicCapture hardware).calls = calls at effect
      cases effect <;> exact ⟨rfl, rfl, rfl, rfl, rfl⟩
  | captureStreamed => exact ⟨rfl, rfl, rfl, rfl, rfl⟩
  | endSession | restart => cases kept

/-- The fields of the application after the end of a session. -/
theorem endSession_fields (app : App) (hardware : Hardware) :
    (app.endSession hardware).app.config = app.config ∧
      (app.endSession hardware).app.helloEstablished = false ∧
      ((app.endSession hardware).app.configValid = true →
        app.configValid = true) := by
  unfold App.endSession
  dsimp only
  split_ifs <;> exact ⟨rfl, rfl, by simp [App.cleared]⟩

/-- An established session was there before, and has been kept steady. -/
theorem perform_of_established
    {app : App}
    {event : Background}
    (established : (event.perform app).helloEstablished = true) :
    Steady app (event.perform app) := by
  by_cases kept : event.keepsSession = true
  · exact perform_steady app kept
  · cases event with
    | endSession hardware =>
        have ended := (endSession_fields app hardware).2.1
        exact absurd (established.symm.trans ended) (by decide)
    | restart => cases established
    | _ => exact absurd rfl kept

/-- What the firmware does by itself keeps the identifiers. -/
theorem perform_hashed
    {app : App}
    (hashed : Hashed app)
    (event : Background) :
    Hashed (event.perform app) := by
  by_cases kept : event.keepsSession = true
  · have steady := perform_steady app kept
    intro valid
    rw [steady.config]
    exact hashed (steady.configValid.symm.trans valid)
  · cases event with
    | endSession hardware =>
        obtain ⟨config, -, before⟩ := endSession_fields app hardware
        intro valid
        rw [Background.perform, config]
        exact hashed (before valid)
    | restart => exact boot_hashed _ _ _
    | _ => exact absurd rfl kept

/-- A board that stays powered gets no configuration by itself. -/
theorem perform_invalid
    {app : App}
    (invalid : app.configValid = false)
    {event : Background}
    (powered : event.keepsPower = true) :
    (event.perform app).configValid = false := by
  by_cases kept : event.keepsSession = true
  · exact (perform_steady app kept).configValid.trans invalid
  · cases event with
    | endSession hardware =>
        have before := (endSession_fields app hardware).2.2
        exact Bool.eq_false_iff.2 fun valid =>
          Bool.eq_false_iff.1 invalid (before valid)
    | restart => cases powered
    | _ => exact absurd rfl kept

namespace Exchange

/-- An exchange that nothing disturbs: the session is kept, and the hardware
takes a profile. -/
structure Nominal (exchange : Exchange) : Prop where
  kept : ∀ event ∈ exchange.before, event.keepsSession = true
  applies : exchange.hardware.applyResult = .ok

/-- An exchange that begins after some event. -/
theorem reached_cons
    (event : Background)
    (events : List Background)
    (hardware : Hardware)
    (app : App) :
    (Exchange.mk (event :: events) hardware).reached app =
      (Exchange.mk events hardware).reached (event.perform app) :=
  rfl

variable {exchange : Exchange} {app : App}

/-- A session that is established when a command arrives was kept. -/
theorem reached_of_established
    (established : (exchange.reached app).helloEstablished = true) :
    Steady app (exchange.reached app) := by
  obtain ⟨events, hardware⟩ := exchange
  induction events generalizing app with
  | nil => exact .refl app
  | cons event events inductionHypothesis =>
      rw [reached_cons] at established ⊢
      have following := inductionHypothesis established
      have first := following.established.symm.trans established
      exact (perform_of_established first).trans following

/-- Nothing before a nominal exchange disturbs the session. -/
theorem Nominal.reached
    (nominal : exchange.Nominal) :
    Steady app (exchange.reached app) := by
  obtain ⟨events, hardware⟩ := exchange
  have kept := nominal.kept
  clear nominal
  dsimp only at kept
  induction events generalizing app with
  | nil => exact .refl app
  | cons event events inductionHypothesis =>
      obtain ⟨first, others⟩ := List.forall_mem_cons.1 kept
      rw [reached_cons]
      exact (perform_steady app first).trans (inductionHypothesis others)

/-- The identifiers are kept until a command arrives. -/
theorem reached_hashed
    (hashed : Hashed app) :
    Hashed (exchange.reached app) := by
  obtain ⟨events, hardware⟩ := exchange
  induction events generalizing app with
  | nil => exact hashed
  | cons event events inductionHypothesis =>
      rw [reached_cons]
      exact inductionHypothesis (perform_hashed hashed event)

/-- A board that stays powered has no configuration when a command arrives. -/
theorem reached_invalid
    (invalid : app.configValid = false)
    (powered : ∀ event ∈ exchange.before, event.keepsPower = true) :
    (exchange.reached app).configValid = false := by
  obtain ⟨events, hardware⟩ := exchange
  dsimp only at powered
  induction events generalizing app with
  | nil => exact invalid
  | cons event events inductionHypothesis =>
      obtain ⟨first, others⟩ := List.forall_mem_cons.1 powered
      rw [reached_cons]
      exact inductionHypothesis (perform_invalid invalid first) others

end Exchange

/-! ## Responses of the firmware -/

/-- Decoding an error response raises a `ValueError`. -/
theorem decode_error_kind
    {data : List UInt8}
    {raised : Raised}
    (fails : ErrorResponse.decode data = .error raised) :
    raised.kind = .valueError := by
  unfold ErrorResponse.decode at fails
  by_cases length :
      ErrorResponse.prefixSize ≤ data.length ∧
        data.length ≤ ErrorResponse.prefixSize + 63
  · by_cases exact : data.length = ErrorResponse.prefixSize + (byteAt data 28).toNat
    · simp only [require, if_pos length, if_pos exact, ok_bind] at fails
      split at fails
      · rw [← Except.error.inj fails]
        rfl
      · cases fails
    · simp only [require, if_pos length, if_neg exact, ok_bind, error_bind] at fails
      rw [← Except.error.inj fails]
      rfl
  · simp only [require, if_neg length, error_bind] at fails
    rw [← Except.error.inj fails]
    rfl

namespace Method

/-- An error response raises in the client, which keeps its session. -/
theorem checked_error
    {payload : List UInt8}
    (short : payload.length ≤ Frame.hostMaxPayloadLength)
    (request : Firmware.Mcu.FrameView)
    (sequence : UInt32)
    (messageType : MessageType) :
    ∃ raised,
      checked sequence messageType
          (some (App.reply request Firmware.Message.error payload)) =
        .error raised ∧ raised.isA .osError = false := by
  have decoded :
      Frame.decode (App.reply request Firmware.Message.error payload) =
        .ok (responseFrame .error request.sequence payload) :=
    decode_frameBytes short .error request.sequence
  have failed :
      (responseFrame .error request.sequence payload).messageType = .error :=
    rfl
  rw [checked, decoded, ok_bind, Host.Session.checkResponse,
    Host.Session.raiseDeviceError, if_pos failed]
  rcases content : ErrorResponse.decode
      (responseFrame .error request.sequence payload).payload with
    raised | error
  · refine ⟨raised, rfl, ?_⟩
    rw [Raised.isA, decode_error_kind content]
    rfl
  · exact ⟨error.raised, rfl, rfl⟩

/-- A refusal raises in the client. -/
theorem checked_refusal
    (app : App)
    (request : Firmware.Mcu.FrameView)
    (errorCode : UInt16)
    (detail0 detail1 : UInt32)
    (sequence : UInt32)
    (messageType : MessageType) :
    ∃ raised,
      checked sequence messageType
          (app.encodeError request errorCode detail0 detail1
            App.responseCapacity) =
        .error raised ∧ raised.isA .osError = false := by
  have short :
      (app.errorPayload request errorCode detail0 detail1).length ≤
        Frame.hostMaxPayloadLength := by
    rw [App.length_errorPayload]
    decide
  rw [App.encodeError_fits]
  exact checked_error short request sequence messageType

/-- The response to a command is taken. -/
theorem checked_reply
    {payload : List UInt8}
    (short : payload.length ≤ Frame.hostMaxPayloadLength)
    (request : Firmware.Mcu.FrameView)
    (messageType : MessageType)
    (regular : messageType ≠ .error) :
    checked request.sequence messageType
        (some (App.reply request messageType.code payload)) =
      .ok (responseFrame messageType request.sequence payload) := by
  have decoded :
      Frame.decode (App.reply request messageType.code payload) =
        .ok (responseFrame messageType request.sequence payload) :=
    decode_frameBytes short messageType request.sequence
  have flagged : Host.Flags.response &&& Host.Flags.response ≠ 0 := by decide
  have kept :
      (responseFrame messageType request.sequence payload).messageType ≠
        .error :=
    regular
  rw [checked, decoded, ok_bind, Host.Session.checkResponse,
    Host.Session.raiseDeviceError, if_neg kept, ok_bind]
  exact bind_eq_ok.2 ⟨(), require_eq_ok.2 ⟨rfl, rfl, flagged⟩, rfl⟩

end Method

/-! ## GET_CONFIG -/

/-- Whether the firmware has a session and a configuration. -/
def Configured (app : App) : Prop :=
  app.helloEstablished = true ∧ app.configValid = true

/-- A firmware without a valid configuration is not configured. -/
theorem not_configured_of_invalid
    {app : App}
    (invalid : app.configValid = false) :
    ¬Configured app :=
  fun configured => absurd (configured.2.symm.trans invalid) (by decide)

/-- A GET_CONFIG is answered with the configuration, or refused. -/
theorem handle_getConfig
    {request : Firmware.Mcu.FrameView}
    (flags : request.flags = 0)
    (type : request.messageType = Firmware.Message.getConfig)
    (app : App)
    (hardware : Hardware) :
    app.handle request App.responseCapacity hardware =
      if app.helloEstablished = false then
        app.refuse request Firmware.ErrorCode.invalidState 0 0
          App.responseCapacity
      else
        app.handleGetConfig request App.responseCapacity := by
  simp [App.handle, flags, type, Firmware.Message.getConfig,
    Firmware.Message.hello, Firmware.Message.getCapabilities,
    Firmware.Message.getStatus]

/-- The parser accepts every GET_CONFIG. -/
theorem getConfig_accepted (sequence : UInt32) :
    (received (.command .getConfig sequence [])).Accepted where
  flags := UInt16.zero_and
  bounded := Nat.zero_le _
  length := rfl
  payload := rfl

/-- A GET_CONFIG leaves the firmware as it is. -/
theorem deliver_getConfig_app
    (exchange : Exchange)
    (app : App)
    (sequence : UInt32) :
    (exchange.deliver app (.command .getConfig sequence [])).1 =
      exchange.reached app := by
  rw [Exchange.deliver, if_pos (getConfig_accepted sequence)]
  dsimp only
  rw [handle_getConfig rfl rfl]
  split_ifs
  · rfl
  · unfold App.handleGetConfig
    split_ifs
    · rfl
    · split <;> rfl

/-- A configured firmware answers with its configuration. -/
theorem checked_getConfig
    {exchange : Exchange}
    {app : App}
    (configured : Configured (exchange.reached app))
    (hashed : Hashed (exchange.reached app))
    (sequence : UInt32) :
    Method.checked sequence .getConfig
        (exchange.deliver app (.command .getConfig sequence [])).2 =
      .ok (responseFrame .getConfig sequence
        (exchange.reached app).config.wireForm) := by
  obtain ⟨established, valid⟩ := configured
  have short :
      (exchange.reached app).config.wireForm.length ≤
        Frame.hostMaxPayloadLength := by
    rw [ConfigV2.length_wireForm]
    decide
  have fits : (exchange.reached app).config.wireForm.length ≤ 108 := by
    rw [ConfigV2.length_wireForm]
    decide
  rw [Exchange.deliver, if_pos (getConfig_accepted sequence)]
  dsimp only
  rw [handle_getConfig rfl rfl, if_neg (by simp [established]),
    App.handleGetConfig, if_neg (by simp [valid]), (hashed valid).encode]
  dsimp only [App.answer]
  rw [App.respond_fits fits]
  exact Method.checked_reply short
    (received (.command .getConfig sequence [])) .getConfig (by decide)

/-- Any other firmware refuses. -/
theorem checked_getConfig_refused
    {exchange : Exchange}
    {app : App}
    (unconfigured : ¬Configured (exchange.reached app))
    (sequence : UInt32) :
    ∃ raised,
      Method.checked sequence .getConfig
          (exchange.deliver app (.command .getConfig sequence [])).2 =
        .error raised ∧ raised.isA .osError = false := by
  have refused (errorCode : UInt16) :=
    Method.checked_refusal (exchange.reached app)
      (received (.command .getConfig sequence [])) errorCode 0 0 sequence
      .getConfig
  rw [Exchange.deliver, if_pos (getConfig_accepted sequence)]
  dsimp only
  rw [handle_getConfig rfl rfl]
  by_cases established : (exchange.reached app).helloEstablished = true
  · have invalid : (exchange.reached app).configValid = false :=
      Bool.eq_false_iff.2 fun valid => unconfigured ⟨established, valid⟩
    rw [if_neg (by simp [established]), App.handleGetConfig, if_pos invalid]
    exact refused _
  · rw [if_pos (by simpa using established)]
    exact refused _

/-! ## SET_CONFIG -/

/-- A SET_CONFIG needs a session. -/
theorem handle_setConfig
    {request : Firmware.Mcu.FrameView}
    (flags : request.flags = 0)
    (type : request.messageType = Firmware.Message.setConfig)
    (app : App)
    (hardware : Hardware) :
    app.handle request App.responseCapacity hardware =
      if app.helloEstablished = false then
        app.refuse request Firmware.ErrorCode.invalidState 0 0
          App.responseCapacity
      else
        app.handleSetConfig request App.responseCapacity hardware := by
  simp [App.handle, flags, type, Firmware.Message.getConfig,
    Firmware.Message.hello, Firmware.Message.getCapabilities,
    Firmware.Message.getStatus, Firmware.Message.setConfig]

/-- The firmware compares the named hash with the current one. -/
theorem hashMismatch?_eq_none
    {app : App}
    {request : Firmware.Mcu.FrameView} :
    app.hashMismatch? request = none ↔
      slice request.payload 16 32 = app.currentHash := by
  have bytes (index : Nat) (inside : index < 32) :
      byteAt app.currentHash.toList index =
        byteAt (slice app.currentHash.toList 0 32).toList index := by
    rw [slice_toList]
  rw [App.hashMismatch?, List.find?_eq_none]
  constructor
  · intro same
    rw [← slice_toList app.currentHash]
    apply List.Vector.eq
    simp only [slice, List.Vector.toList_mk, List.map_inj_left,
      List.mem_range]
    intro index inside
    simpa using same index (List.mem_range.2 inside)
  · intro same index member
    rw [← same]
    have inside := List.mem_range.1 member
    simp [slice, byteAt, inside]

/-- What a SET_CONFIG can do to the firmware, with the response. -/
inductive Sets
    (app : App)
    (request : Firmware.Mcu.FrameView)
    (hardware : Hardware) :
    App × Option (List UInt8) → Prop where
  | refused
      (cache : Firmware.ReplyCache)
      (errorCode : UInt16)
      (detail0 detail1 : UInt32) :
      Sets app request hardware
        ({ app with setCache := cache },
          app.encodeError request errorCode detail0 detail1
            App.responseCapacity)
  | replayed
      (reply : Option (List UInt8))
      (cached : app.setCache.lookup request = .replay) :
      Sets app request hardware (app, reply)
  | failed
      (cache : Firmware.ReplyCache)
      (errorCode : UInt16)
      (detail0 detail1 : UInt32)
      (failure : hardware.applyResult ≠ .ok) :
      Sets app request hardware
        ({ app.configFailed with setCache := cache },
          app.configFailed.encodeError request errorCode detail0 detail1
            App.responseCapacity)
  | applied
      (candidate : ConfigV2)
      (cache : Firmware.ReplyCache)
      (configures : app.Configures request candidate)
      (applies : hardware.applyResult = .ok) :
      Sets app request hardware
        ({ app.configApplied candidate hardware.applyReport with
            setCache := cache },
          some (App.reply request Firmware.Message.ack
            ((app.configApplied candidate hardware.applyReport).ackPayload
              request Firmware.Message.setConfig
              candidate.deviceConfigCrc32)))

/-- A SET_CONFIG that configures, and which the hardware takes. -/
theorem handleSetConfig_applied
    {app : App}
    {request : Firmware.Mcu.FrameView}
    {candidate : ConfigV2}
    {hardware : Hardware}
    (configures : app.Configures request candidate)
    (applies : hardware.applyResult = .ok) :
    let reply :=
      App.reply request Firmware.Message.ack
        ((app.configApplied candidate hardware.applyReport).ackPayload
          request Firmware.Message.setConfig candidate.deviceConfigCrc32)
    let outcome :=
      app.handleSetConfig request App.responseCapacity hardware
    outcome.app =
        { app.configApplied candidate hardware.applyReport with
          setCache := Firmware.ReplyCache.store request reply } ∧
      outcome.response = some reply := by
  dsimp only
  unfold App.handleSetConfig
  rw [configures.fresh]
  dsimp only
  unfold App.executeSetConfig
  rw [configures.matching]
  dsimp only
  rw [configures.decoded]
  simp only [applies, ne_eq, not_true_eq_false, if_false]
  rw [App.respond_fits (by simp)]
  dsimp only
  rw [if_neg (not_lt.2 (App.reply_le (by simp [App.setCacheSize])))]
  exact ⟨rfl, rfl⟩

/-- Every SET_CONFIG does one of these. -/
theorem handleSetConfig_sets
    {app : App}
    {request : Firmware.Mcu.FrameView}
    (dispatched : app.Dispatched request Firmware.Message.setConfig)
    (hardware : Hardware) :
    Sets app request hardware
      ((app.handleSetConfig request App.responseCapacity hardware).app,
        (app.handleSetConfig request App.responseCapacity
          hardware).response) := by
  rcases cached : app.setCache.lookup request with _ | _ | _
  · rcases matching : app.hashMismatch? request with _ | index
    · rcases decoded : ConfigV2.decode
          (slice request.payload 48 ConfigV2.wireLength).toList with
        reason | candidate
      · unfold App.handleSetConfig
        rw [cached]
        dsimp only
        unfold App.executeSetConfig
        rw [matching]
        dsimp only
        rw [decoded]
        simp only [App.refuse, App.encodeError_fits, App.answer]
        rw [if_neg (not_lt.2 (App.reply_le (by simp [App.setCacheSize]))),
          ← App.encodeError_fits]
        exact .refused _ _ _ _
      · have configures : app.Configures request candidate :=
          ⟨dispatched, cached, matching, decoded⟩
        by_cases applies : hardware.applyResult = .ok
        · obtain ⟨next, response⟩ :=
            handleSetConfig_applied configures applies
          rw [next, response]
          exact .applied candidate _ configures applies
        · unfold App.handleSetConfig
          rw [cached]
          dsimp only
          unfold App.executeSetConfig
          rw [matching]
          dsimp only
          rw [decoded]
          simp only [applies, ne_eq, not_false_eq_true, if_true,
            App.encodeError_fits]
          rw [if_neg (not_lt.2 (App.reply_le (by simp [App.setCacheSize]))),
            ← App.encodeError_fits]
          exact .failed _ _ _ _ applies
    · unfold App.handleSetConfig
      rw [cached]
      dsimp only
      unfold App.executeSetConfig
      rw [matching]
      simp only [App.refuse, App.encodeError_fits, App.answer]
      rw [if_neg (not_lt.2 (App.reply_le (by simp [App.setCacheSize]))),
        ← App.encodeError_fits]
      exact .refused _ _ _ _
  · unfold App.handleSetConfig
    rw [cached]
    exact .replayed _ cached
  · unfold App.handleSetConfig
    rw [cached]
    exact .refused app.setCache _ _ _

/-! ## Methods of the client -/

namespace Method

variable
  {before : Call → Prop}
  {raises : Raised → Call → Prop}

/-- The call after one exchange. -/
def answered
    (call : Call)
    (exchange : Exchange)
    (rest : List Exchange)
    (frame : Frame) :
    Call :=
  { call with
    app := (exchange.deliver call.app frame).1
    exchanges := rest }

/-- A request raises, or consumes one exchange. -/
theorem perform_request_cases
    (frame : Frame)
    (responseType : MessageType)
    (call : Call) :
    (request frame responseType).perform call =
      match frame.encode with
      | .error raised => (.error raised, call)
      | .ok _ =>
          match call.exchanges with
          | [] => (.error Host.Session.disconnected, call)
          | exchange :: rest =>
              (checked frame.sequence responseType
                  (exchange.deliver call.app frame).2,
                answered call exchange rest frame) := by
  obtain ⟨app, client, exchanges⟩ := call
  unfold request
  rw [perform_bind, perform_lift]
  cases frame.encode with
  | error raised => rfl
  | ok bytes =>
      cases exchanges with
      | nil => rfl
      | cons exchange rest =>
          simp only [perform_bind]
          rfl

/-- A command with a short payload consumes one exchange, or loses the
connection. -/
theorem perform_request
    {payload : List UInt8}
    (short : payload.length ≤ Frame.hostMaxPayloadLength)
    (messageType responseType : MessageType)
    (sequence : UInt32)
    (call : Call) :
    (request (.command messageType sequence payload) responseType).perform
        call =
      match call.exchanges with
      | [] => (.error Host.Session.disconnected, call)
      | exchange :: rest =>
          (checked sequence responseType
              (exchange.deliver call.app
                (.command messageType sequence payload)).2,
            answered call exchange rest
              (.command messageType sequence payload)) := by
  rw [perform_request_cases,
    Frame.encode_command short messageType sequence]
  rfl

/-- The call after one request with a new sequence number. -/
def requested (call : Call) (app : App) (rest : List Exchange) : Call where
  app := app
  client := { call.client with sequence := call.client.sequence + 1 }
  exchanges := rest

/-- What reading the configuration can do. -/
inductive Reads (call : Call) :
    Except Raised AcquisitionConfigV2 × Call → Prop where
  | lost
      (silent : call.exchanges = []) :
      Reads call
        (.error Host.Session.disconnected, requested call call.app [])
  | read
      (exchange : Exchange)
      (rest : List Exchange)
      (met : call.exchanges = exchange :: rest)
      (configured : Configured (exchange.reached call.app)) :
      Reads call
        (.ok (hostConfig (exchange.reached call.app).config),
          requested call (exchange.reached call.app) rest)
  | refused
      (exchange : Exchange)
      (rest : List Exchange)
      (met : call.exchanges = exchange :: rest)
      (unconfigured : ¬Configured (exchange.reached call.app))
      (raised : Raised)
      (kept : raised.isA .osError = false) :
      Reads call
        (.error raised, requested call (exchange.reached call.app) rest)

/-- Reading returns the configuration of the firmware, when it has one. -/
theorem perform_readConfig
    {call : Call}
    (hashed : Hashed call.app) :
    Reads call (readConfig.perform call) := by
  have empty : ([] : List UInt8).length ≤ Frame.hostMaxPayloadLength :=
    Nat.zero_le _
  unfold readConfig
  rw [perform_bind, show nextSequence.perform call =
    (.ok (call.client.sequence + 1),
      requested call call.app call.exchanges) from rfl]
  dsimp only
  rw [perform_bind, perform_request empty]
  rcases met : call.exchanges with _ | ⟨exchange, rest⟩
  · exact .lost met
  · simp only [requested, answered, deliver_getConfig_app, perform_lift]
    by_cases configured : Configured (exchange.reached call.app)
    · have reachedHashed := exchange.reached_hashed hashed
      rw [checked_getConfig configured reachedHashed]
      dsimp only
      rw [responseFrame, decode_hostConfig (reachedHashed configured.2)]
      exact .read exchange rest met configured
    · obtain ⟨raised, refused, kept⟩ :=
        checked_getConfig_refused configured (call.client.sequence + 1)
      rw [refused]
      exact .refused exchange rest met configured raised kept

/-- The client reads an acknowledgement of the firmware. -/
theorem decode_ackPayload
    (app : App)
    (request : Firmware.Mcu.FrameView)
    (ackedType : UInt8)
    (crc : UInt32) :
    ∃ ack, Ack.decode (app.ackPayload request ackedType crc) = .ok ack ∧
      ack.requestId = App.requestId request ∧ ack.ackedType = ackedType := by
  have shape :
      app.ackPayload request ackedType crc =
        (App.requestId request).toList ++
          ([ackedType, app.state.code] ++ (writeU16 0 ++ writeU32 crc)) := by
    simp [App.ackPayload]
  have identity :
      slice (app.ackPayload request ackedType crc) 0 16 =
        App.requestId request := by
    rw [shape]
    exact slice_append_left _ _
  have type : byteAt (app.ackPayload request ackedType crc) 16 = ackedType := by
    rw [shape, byteAt_append_right (by simp)]
    simp [byteAt]
  have status : readU16 (app.ackPayload request ackedType crc) 18 = 0 := by
    rw [shape, readU16_append_right (by simp), List.Vector.toList_length]
    exact readU16_writeU16 0 []
  refine ⟨⟨slice (app.ackPayload request ackedType crc) 0 16,
    byteAt (app.ackPayload request ackedType crc) 16,
    byteAt (app.ackPayload request ackedType crc) 17,
    readU16 (app.ackPayload request ackedType crc) 18,
    readU32 (app.ackPayload request ackedType crc) 20⟩, ?_, identity, type⟩
  unfold Ack.decode
  rw [App.length_ackPayload]
  exact bind_eq_ok.2 ⟨(), require_eq_ok.2 rfl,
    bind_eq_ok.2 ⟨(), require_eq_ok.2 status, rfl⟩⟩

/-- The result of `_ack` for a response. -/
def acknowledged
    (requestId : Bytes 16)
    (messageType : MessageType)
    (response : Except Raised Frame) :
    Except Raised Unit := do
  let frame ← response
  let ack ← Ack.decode frame.payload
  require (ack.requestId = requestId ∧ ack.ackedType = messageType.code)
    (.runtimeError ("device ACK does not match " ++ messageType.name))

/-- The client takes the acknowledgement of its own SET_CONFIG. -/
theorem acknowledged_reply
    (request : Firmware.Mcu.FrameView)
    {requestId : Bytes 16}
    (identity : slice request.payload 0 16 = requestId)
    (sequence : UInt32)
    (answers : request.sequence = sequence)
    (app : App)
    (crc : UInt32) :
    acknowledged requestId .setConfig
        (checked sequence .ack
          (some (App.reply request Firmware.Message.ack
            (app.ackPayload request Firmware.Message.setConfig crc)))) =
      .ok () := by
  subst answers
  have short :
      (app.ackPayload request Firmware.Message.setConfig crc).length ≤
        Frame.hostMaxPayloadLength := by
    rw [App.length_ackPayload]
    decide
  have taken := checked_reply short request .ack (by decide)
  obtain ⟨ack, decoded, sameId, sameType⟩ :=
    decode_ackPayload app request Firmware.Message.setConfig crc
  change acknowledged requestId .setConfig
    (checked request.sequence .ack
      (some (App.reply request MessageType.ack.code _))) = _
  rw [taken, acknowledged, ok_bind, responseFrame, decoded, ok_bind]
  exact require_eq_ok.2 ⟨sameId.trans identity, sameType⟩

/-- The payload of the SET_CONFIG that `apply_config` sends. -/
theorem encode_setConfig
    {config : AcquisitionConfigV2}
    {requestId : Bytes 16}
    {expected : Bytes 32}
    {payload : List UInt8}
    (encoded :
      SetConfigRequest.encode ⟨requestId, expected, config⟩ = .ok payload) :
    config.Consistent ∧
      payload =
        requestId.toList ++ expected.toList ++ config.wireForm ∧
      payload.length ≤ Frame.hostMaxPayloadLength := by
  obtain ⟨wire, encodedConfig, same⟩ := bind_eq_ok.1 encoded
  obtain ⟨consistent, rfl⟩ :=
    AcquisitionConfigV2.encode_eq_ok.1 encodedConfig
  obtain rfl := Except.ok.inj same
  refine ⟨consistent, rfl, ?_⟩
  have pairs : config.registerPairs.length ≤ 10 := by
    have values := consistent.values
    simp only [AcquisitionConfigV2.validateValues, bind_eq_ok,
      require_eq_ok] at values
    obtain ⟨-, -, -, -, -, -, -, -, -, -, -, -, -, -, -, -, -, count, -⟩ :=
      values
    exact count
  have bytes : config.pairBytes.length = 2 * config.registerPairs.length := by
    simp [AcquisitionConfigV2.pairBytes, List.length_flatMap, Nat.mul_comm]
  simp [AcquisitionConfigV2.wireForm, bytes, Frame.hostMaxPayloadLength]
  omega

/-- Sending a SET_CONFIG is one request. -/
theorem perform_setConfig
    (config : AcquisitionConfigV2)
    (requestId : Bytes 16)
    (expected : Bytes 32)
    (call : Call) :
    (setConfig config requestId expected).perform call =
      match SetConfigRequest.encode ⟨requestId, expected, config⟩ with
      | .error raised =>
          (.error raised, requested call call.app call.exchanges)
      | .ok payload =>
          match call.exchanges with
          | [] =>
              (.error Host.Session.disconnected, requested call call.app [])
          | exchange :: rest =>
              let frame :=
                Frame.command .setConfig (call.client.sequence + 1) payload
              (acknowledged requestId .setConfig
                  (checked (call.client.sequence + 1) .ack
                    (exchange.deliver call.app frame).2),
                requested call (exchange.deliver call.app frame).1 rest) := by
  unfold setConfig
  rw [perform_bind, show nextSequence.perform call =
    (.ok (call.client.sequence + 1),
      requested call call.app call.exchanges) from rfl]
  dsimp only
  rw [perform_bind, perform_lift]
  rcases encoded : SetConfigRequest.encode ⟨requestId, expected, config⟩ with
    raised | payload
  · rfl
  · dsimp only
    unfold ack
    simp only [perform_bind, perform_lift,
      perform_request (encode_setConfig encoded).2.2]
    rcases met : call.exchanges with _ | ⟨exchange, rest⟩
    · rfl
    · simp only [requested, answered]
      rcases checked (call.client.sequence + 1) .ack
          (exchange.deliver call.app
            (.command .setConfig (call.client.sequence + 1) payload)).2 with
        raised | frame
      · rfl
      · simp only [acknowledged, ok_bind]
        rcases Ack.decode frame.payload with raised | ack
        · rfl
        · rfl

/-- A request identity that the firmware does not answer from its cache. -/
def Fresh (app : App) (requestId : Bytes 16) : Prop :=
  app.setCache.valid = true → requestId ≠ app.setCache.requestId

/-- What sending a SET_CONFIG can do. -/
inductive Sends
    (call : Call)
    (requestId : Bytes 16)
    (expected : Bytes 32) :
    Except Raised Unit × Call → Prop where
  | unsent
      (raised : Raised) :
      Sends call requestId expected
        (.error raised, requested call call.app call.exchanges)
  | lost
      (silent : call.exchanges = []) :
      Sends call requestId expected
        (.error Host.Session.disconnected, requested call call.app [])
  | unanswered
      (exchange : Exchange)
      (rest : List Exchange)
      (met : call.exchanges = exchange :: rest) :
      Sends call requestId expected
        (.error Host.Session.timedOut,
          requested call (exchange.reached call.app) rest)
  | unchanged
      (exchange : Exchange)
      (rest : List Exchange)
      (met : call.exchanges = exchange :: rest)
      (cache : Firmware.ReplyCache)
      (result : Except Raised Unit)
      (refused :
        Fresh (exchange.reached call.app) requestId →
          ∃ raised, result = .error raised) :
      Sends call requestId expected
        (result,
          requested call
            { exchange.reached call.app with setCache := cache } rest)
  | failed
      (exchange : Exchange)
      (rest : List Exchange)
      (met : call.exchanges = exchange :: rest)
      (failure : exchange.hardware.applyResult ≠ .ok)
      (cache : Firmware.ReplyCache)
      (raised : Raised) :
      Sends call requestId expected
        (.error raised,
          requested call
            { (exchange.reached call.app).configFailed with
              setCache := cache }
            rest)
  | applied
      (exchange : Exchange)
      (rest : List Exchange)
      (met : call.exchanges = exchange :: rest)
      (established : (exchange.reached call.app).helloEstablished = true)
      (matching : expected = (exchange.reached call.app).currentHash)
      (candidate : ConfigV2)
      (identified : candidate.Identified)
      (cache : Firmware.ReplyCache) :
      Sends call requestId expected
        (.ok (),
          requested call
            { (exchange.reached call.app).configApplied candidate
                exchange.hardware.applyReport with
              setCache := cache }
            rest)

/-- The fields of the SET_CONFIG that reaches the firmware. -/
theorem received_setConfig
    {requestId : Bytes 16}
    {expected : Bytes 32}
    {wire payload : List UInt8}
    (shape : payload = requestId.toList ++ expected.toList ++ wire) :
    slice payload 0 16 = requestId ∧ slice payload 16 32 = expected := by
  rw [shape, List.append_assoc]
  constructor
  · exact slice_append_left requestId _
  · rw [slice_append_right (by simp), List.Vector.toList_length]
    exact slice_append_left expected _

/-- An answer from the cache repeats a request identity. -/
theorem lookup_ne_replay
    {app : App}
    {request : Firmware.Mcu.FrameView}
    (fresh : Fresh app (slice request.payload 0 16)) :
    app.setCache.lookup request = .miss := by
  unfold Firmware.ReplyCache.lookup
  rw [if_neg]
  rintro ⟨valid, same⟩
  exact fresh valid same

/-- Sending a SET_CONFIG does one of these. -/
theorem setConfig_sends
    (config : AcquisitionConfigV2)
    (requestId : Bytes 16)
    (expected : Bytes 32)
    (call : Call) :
    Sends call requestId expected
      ((setConfig config requestId expected).perform call) := by
  rw [perform_setConfig]
  rcases encoded : SetConfigRequest.encode ⟨requestId, expected, config⟩ with
    raised | payload
  · exact .unsent raised
  obtain ⟨-, shape, -⟩ := encode_setConfig encoded
  obtain ⟨identity, named⟩ := received_setConfig shape
  rcases met : call.exchanges with _ | ⟨exchange, rest⟩
  · exact .lost met
  dsimp only
  let frame := Frame.command .setConfig (call.client.sequence + 1) payload
  by_cases accepted : (received frame).Accepted
  swap
  · rw [Exchange.deliver, if_neg accepted]
    exact .unanswered exchange rest met
  rw [Exchange.deliver, if_pos accepted]
  dsimp only
  rw [handle_setConfig rfl rfl]
  by_cases established : (exchange.reached call.app).helloEstablished = true
  swap
  · rw [if_pos (by simpa using established)]
    obtain ⟨raised, refused, -⟩ :=
      checked_refusal (exchange.reached call.app) (received frame)
        Firmware.ErrorCode.invalidState 0 0 (call.client.sequence + 1) .ack
    have result :
        acknowledged requestId .setConfig
            (checked (call.client.sequence + 1) .ack
              ((exchange.reached call.app).refuse (received frame)
                Firmware.ErrorCode.invalidState 0 0
                App.responseCapacity).response) =
          .error raised := by
      rw [App.refuse, App.answer, refused]
      rfl
    rw [result]
    exact .unchanged exchange rest met (exchange.reached call.app).setCache _
      fun _ => ⟨raised, rfl⟩
  rw [if_neg (by simp [established])]
  have dispatched :
      (exchange.reached call.app).Dispatched (received frame)
        Firmware.Message.setConfig :=
    ⟨rfl, established, rfl⟩
  have sets := handleSetConfig_sets dispatched exchange.hardware
  generalize outcome :
    (exchange.reached call.app).handleSetConfig (received frame)
      App.responseCapacity exchange.hardware = handled at sets
  change Sends call requestId expected
    (acknowledged requestId .setConfig
        (checked (call.client.sequence + 1) .ack handled.response),
      requested call handled.app rest)
  obtain ⟨app, response, calls⟩ := handled
  dsimp only at sets ⊢
  cases sets with
  | refused cache errorCode detail0 detail1 =>
      obtain ⟨raised, refused, -⟩ :=
        checked_refusal (exchange.reached call.app) (received frame) errorCode
          detail0 detail1 (call.client.sequence + 1) .ack
      rw [refused]
      exact .unchanged exchange rest met cache _ fun _ => ⟨raised, rfl⟩
  | replayed reply cached =>
      refine .unchanged exchange rest met
        (exchange.reached call.app).setCache _ fun fresh => ?_
      rw [← identity] at fresh
      exact absurd (cached.symm.trans (lookup_ne_replay fresh)) (by decide)
  | failed cache errorCode detail0 detail1 failure =>
      obtain ⟨raised, refused, -⟩ :=
        checked_refusal (exchange.reached call.app).configFailed
          (received frame) errorCode detail0 detail1
          (call.client.sequence + 1) .ack
      rw [refused]
      exact .failed exchange rest met failure cache raised
  | applied candidate cache configures applies =>
      have result :=
        acknowledged_reply (received frame) identity
          (call.client.sequence + 1) rfl
          ((exchange.reached call.app).configApplied candidate
            exchange.hardware.applyReport)
          candidate.deviceConfigCrc32
      have matching :
          slice (received frame).payload 16 32 =
            (exchange.reached call.app).currentHash :=
        hashMismatch?_eq_none.1 configures.matching
      rw [result]
      exact .applied exchange rest met established (named.symm.trans matching)
        candidate (ConfigV2.identified_of_decode configures.decoded) cache

end Method

end Usac.Link
