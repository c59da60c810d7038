import Usac.Firmware.ScheduleBinding
import Usac.Link.RequestReception
import Usac.Link.SimulatorReport

namespace Usac.Link

open Library
open Firmware (App Hardware)
open Host (Frame MessageType Raised SimulatedDevice require_eq_ok
  require_eq_error require_pos bind_eq_ok ok_bind)

/-!
# A command at the simulator and at the firmware

One lemma for each command: both sides refuse it, or both serve it and still
have everything in common.
-/

namespace Pair

/-- What an input keeps. -/
structure Keeps (pair : Pair) (input : Input) : Prop where
  paired : (pair.step input).1.Paired
  alike : ∀ verdict ∈ (pair.step input).2,
    verdict.simulator = verdict.firmware ∧ (pair.step input).1.Polled

variable
  {pair : Pair}
  {request : PeriodicRequest}
  {hardware : Hardware}

/-- The clock of the simulator is never negative. -/
theorem nowUs_natCast (now : Nat) :
    SimulatedDevice.nowUs now = .ok now := by
  unfold SimulatedDevice.nowUs
  rw [require_pos (Int.natCast_nonneg now)]
  rfl

/-- Both sides are in the same session. -/
theorem Paired.requireHello (paired : pair.Paired) :
    pair.device.requireHello = .ok pair.app.bootId := by
  unfold SimulatedDevice.requireHello
  rw [paired.boot]

/-- Both sides have the same configuration. -/
theorem Paired.requireConfig (paired : pair.Paired) :
    pair.device.requireConfig = .ok (hostConfig pair.app.config) := by
  unfold SimulatedDevice.requireConfig
  rw [paired.config]

/-- A schedule the firmware runs is run by the simulator too. -/
theorem Paired.running
    (paired : pair.Paired)
    (active : pair.app.periodic.active = true) :
    ∃ held periods,
      pair.device.schedule = some held ∧
        Running pair.clockUs pair.device.missedCaptureCount periods held
          pair.app.periodic := by
  have scheduled := paired.scheduled
  generalize schedule : pair.device.schedule = simulated at scheduled
  cases scheduled with
  | resting inactive => rw [inactive] at active; cases active
  | running running => exact ⟨_, _, rfl, running⟩

/-- Without a schedule in the firmware, one of the simulator is late. -/
theorem Paired.late
    (paired : pair.Paired)
    (inactive : pair.app.periodic.active = false) :
    ∀ held ∈ pair.device.schedule, held.leaseDeadlineUs ≤ pair.clockUs := by
  have scheduled := paired.scheduled
  generalize pair.device.schedule = simulated at scheduled
  cases scheduled with
  | resting _ _ late => exact late
  | running running => rw [running.active] at inactive; cases inactive

/-! ## Answers of the firmware -/

/-- The parser drops a frame it does not accept. -/
theorem answer_dropped
    {app : App}
    {frame : Frame}
    (dropped : ¬(received frame).Accepted) :
    answer app frame hardware = (app, false) :=
  if_neg dropped

/-- An error response accepts nothing. -/
theorem answer_refused
    {app : App}
    {frame : Frame}
    {errorCode : UInt16}
    {detail0 detail1 : UInt32}
    (accepted : (received frame).Accepted)
    (refused :
      app.handle (received frame) App.responseCapacity hardware =
        app.refuse (received frame) errorCode detail0 detail1
          App.responseCapacity) :
    answer app frame hardware = (app, false) := by
  unfold answer
  dsimp only
  rw [if_pos accepted, refused]
  dsimp only [App.refuse, App.answer]
  rw [App.encodeError_fits, acceptance, Option.any_some,
    Firmware.Board.byteAt_reply_type]
  rfl

/-- A response of another type accepts. -/
theorem answer_served
    {app : App}
    {frame : Frame}
    {outcome : Firmware.Outcome}
    {messageType : UInt8}
    {payload : List UInt8}
    (accepted : (received frame).Accepted)
    (served :
      app.handle (received frame) App.responseCapacity hardware = outcome)
    (responds :
      outcome.response =
        App.respond (received frame) messageType payload App.responseCapacity)
    (fits : payload.length ≤ 108)
    (positive : messageType ≠ Firmware.Message.error) :
    answer app frame hardware = (outcome.app, true) := by
  unfold answer
  dsimp only
  rw [if_pos accepted, served, responds, App.respond_fits fits, acceptance,
    Option.any_some, Firmware.Board.byteAt_reply_type]
  exact congrArg (Prod.mk _) (bne_iff_ne.2 positive)

/-- An acknowledgement accepts. -/
theorem answer_acknowledged
    {app acknowledging : App}
    {frame : Frame}
    {outcome : Firmware.Outcome}
    {ackedType : UInt8}
    (accepted : (received frame).Accepted)
    (served :
      app.handle (received frame) App.responseCapacity hardware = outcome)
    (responds :
      outcome.response =
        acknowledging.encodeAck (received frame) ackedType
          App.responseCapacity) :
    answer app frame hardware = (outcome.app, true) :=
  answer_served accepted served responds (by simp) (by decide)

/-! ## Commands the simulator has answered before -/

/-- The simulator repeats what it has kept. -/
theorem keeps_of_kept
    {frames : List Frame}
    {app : App}
    (kept : pair.device.completed.lookup (key request) = some frames)
    (answered : answer pair.app request.frame hardware = (app, true))
    (paired : Paired { pair with app := app })
    (polled : pair.Polled) :
    pair.Keeps (.command request hardware) := by
  have handled :
      pair.device.handle pair.clockUs request.frame =
        (.ok frames, pair.device) := by
    unfold SimulatedDevice.handle
    dsimp only
    rw [show pair.device.completed.lookup
      (request.frame.messageType, request.frame.sequence,
        request.frame.payload) = some frames from kept]
  constructor
  · simp only [step, handled, answered]
    exact paired
  · intro verdict given
    simp only [step, handled, answered] at given ⊢
    cases given
    exact ⟨rfl, polled⟩

/-! ## Commands the simulator serves -/

/-- A request the simulator has not answered is dispatched. -/
theorem handle_fresh
    (fresh : pair.device.completed.lookup (key request) = none) :
    pair.device.handle pair.clockUs request.frame =
      match pair.device.dispatch pair.clockUs request.frame with
      | (.error raised, next) => (.error raised, next)
      | (.ok frames, next) =>
          (.ok frames,
            { next with
              completed := (key request, frames) :: next.completed }) := by
  unfold SimulatedDevice.handle
  dsimp only
  rw [show pair.device.completed.lookup
    (request.frame.messageType, request.frame.sequence,
      request.frame.payload) = none from fresh]
  dsimp only
  rw [if_neg (by exact not_not.2 rfl)]
  rfl

/-- Both sides serve a command. -/
theorem keeps_of_served
    {frames : List Frame}
    {device : SimulatedDevice}
    {app : App}
    (fresh : pair.device.completed.lookup (key request) = none)
    (served :
      pair.device.dispatch pair.clockUs request.frame = (.ok frames, device))
    (answered : answer pair.app request.frame hardware = (app, true))
    (paired : Paired ⟨device, app, pair.clockUs⟩)
    (polled : Polled ⟨device, app, pair.clockUs⟩) :
    pair.Keeps (.command request hardware) := by
  have handled := handle_fresh fresh
  rw [served] at handled
  constructor
  · simp only [step, handled, answered]
    exact { paired with }
  · intro verdict given
    simp only [step, handled, answered] at given ⊢
    cases given
    exact ⟨rfl, polled⟩

/-- Both sides refuse a command. -/
theorem keeps_of_refused
    {raised : Raised}
    {device : SimulatedDevice}
    (fresh : pair.device.completed.lookup (key request) = none)
    (refused :
      pair.device.dispatch pair.clockUs request.frame =
        (.error raised, device))
    (answered : answer pair.app request.frame hardware = (pair.app, false))
    (paired : Paired { pair with device := device })
    (polled : Polled { pair with device := device }) :
    pair.Keeps (.command request hardware) := by
  have handled := handle_fresh fresh
  rw [refused] at handled
  constructor
  · simp only [step, handled, answered]
    exact paired
  · intro verdict given
    simp only [step, handled, answered] at given ⊢
    cases given
    exact ⟨rfl, polled⟩

/-! ## GET_STATUS -/

/-- The firmware serves every GET_STATUS and keeps its state. -/
theorem answer_status
    (paired : pair.Paired)
    (status : request.command = .status)
    (hardware : Hardware) :
    answer pair.app request.frame hardware = (pair.app, true) := by
  obtain ⟨sequence, command, payload, encoded⟩ := request
  cases status
  cases encoded
  have accepted : (received (Frame.command .getStatus sequence [])).Accepted :=
    accepted_inquiry _ (.inr (.inr rfl)) sequence
  have handled :
      pair.app.handle (received (Frame.command .getStatus sequence []))
          App.responseCapacity hardware =
        pair.app.handleGetStatus
          (received (Frame.command .getStatus sequence []))
          App.responseCapacity := by
    simp [App.handle, received, Frame.command, MessageType.code,
      Host.Flags.none, paired.established, Firmware.Message.hello,
      Firmware.Message.getCapabilities, Firmware.Message.getStatus]
  have small : pair.app.statusPayload.length ≤ 108 := by
    rw [Firmware.App.length_statusPayload]
    decide
  exact answer_served accepted handled rfl small (by decide)

/-- A device that is asked for its status gives a late schedule up. -/
theorem Paired.expireLate
    (paired : pair.Paired)
    (polled : pair.Polled) :
    let current := pair.device.expireLate pair.clockUs
    Paired { pair with device := current } ∧
      Polled { pair with device := current } := by
  have scheduled := paired.scheduled
  unfold SimulatedDevice.expireLate
  cases held : pair.device.schedule with
  | none => exact ⟨paired, polled⟩
  | some schedule =>
      rw [held] at scheduled
      dsimp only
      split
      · next late =>
        cases scheduled with
        | resting inactive counted _ =>
            refine ⟨{ paired with scheduled := ?_ }, ?_⟩
            · exact .resting inactive counted (by rintro held ⟨⟩)
            · rintro held ⟨⟩
        | running running => exact absurd running.early (Nat.not_lt.2 late)
      · exact ⟨paired, polled⟩

/-- The simulator serves a GET_STATUS. -/
theorem keeps_status
    (paired : pair.Paired)
    (polled : pair.Polled)
    (status : request.command = .status)
    (fresh : pair.device.completed.lookup (key request) = none) :
    pair.Keeps (.command request hardware) := by
  have answered := answer_status paired status hardware
  obtain ⟨current, stillPolled⟩ := paired.expireLate polled
  obtain ⟨bootId, hello, reported⟩ := bind_eq_ok.1 (paired.reports polled)
  obtain ⟨status, made, reported⟩ := bind_eq_ok.1 reported
  obtain ⟨payload, encodes, -⟩ := bind_eq_ok.1 reported
  obtain ⟨sequence, command, empty, encoded⟩ := request
  cases status
  cases encoded
  have served :
      pair.device.dispatch pair.clockUs (Frame.command .getStatus sequence []) =
        (.ok [SimulatedDevice.response .getStatus sequence payload],
          pair.device.expireLate pair.clockUs) := by
    show pair.device.getStatus pair.clockUs _ = _
    have empty :
        SimulatedDevice.requireEmptyPayload
          (Frame.command .getStatus sequence []) = .ok () :=
      rfl
    simp only [SimulatedDevice.getStatus, hello, empty, nowUs_natCast, ok_bind,
      pure, Except.pure, made, encodes]
    rfl
  exact keeps_of_served fresh served answered current stillPolled

/-! ## STOP -/

/-- The identity a STOP names. -/
theorem scheduleId_stop (message : Host.StopRequest) :
    slice message.encode 16 16 = message.scheduleId := by
  simp [Host.StopRequest.encode, slice_append_right, slice_toList]

/-- A STOP reaches its handler. -/
theorem handle_stop
    (paired : pair.Paired)
    (sequence : UInt32)
    (payload : List UInt8)
    (hardware : Hardware) :
    pair.app.handle (received (Frame.command .stop sequence payload))
        App.responseCapacity hardware =
      pair.app.handleStop (received (Frame.command .stop sequence payload))
        App.responseCapacity hardware := by
  simp [App.handle, received, Frame.command, MessageType.code,
    Host.Flags.none, paired.established, Firmware.Message.hello,
    Firmware.Message.getCapabilities, Firmware.Message.getStatus,
    Firmware.Message.getConfig, Firmware.Message.setConfig,
    Firmware.Message.runIo2LoopbackTest, Firmware.Message.captureOnce,
    Firmware.Message.startPeriodic, Firmware.Message.renewPeriodicLease,
    Firmware.Message.stop]

/-- The firmware refuses a STOP of another schedule. -/
theorem answer_stop_refused
    (paired : pair.Paired)
    {message : Host.StopRequest}
    (foreign : ¬pair.Stops message)
    (sequence : UInt32)
    (hardware : Hardware) :
    answer pair.app (Frame.command .stop sequence message.encode) hardware =
      (pair.app, false) := by
  have conflict :
      pair.app.periodic.stop
          (slice (received
            (Frame.command .stop sequence message.encode)).payload 16 16) =
        (pair.app.periodic, .conflict) := by
    show pair.app.periodic.stop (slice message.encode 16 16) = _
    rw [scheduleId_stop]
    exact if_pos (Classical.not_imp.1 foreign)
  have handled := handle_stop paired sequence message.encode hardware
  unfold App.handleStop at handled
  rw [conflict] at handled
  exact answer_refused (accepted_stopPeriodic message sequence) handled

/-- The firmware serves a STOP of its schedule, or of none. -/
theorem answer_stop_served
    (paired : pair.Paired)
    {message : Host.StopRequest}
    (stops : pair.Stops message)
    (sequence : UInt32)
    (hardware : Hardware) :
    answer pair.app (Frame.command .stop sequence message.encode) hardware =
      ({ pair.app with periodic := .init, lastError := 0 }, true) := by
  have cleared :
      pair.app.periodic.stop
          (slice (received
            (Frame.command .stop sequence message.encode)).payload 16 16) =
        (.init, .ok) := by
    show pair.app.periodic.stop (slice message.encode 16 16) = _
    rw [scheduleId_stop]
    exact if_neg fun ⟨active, other⟩ => other (stops active)
  have handled := handle_stop paired sequence message.encode hardware
  unfold App.handleStop at handled
  rw [cleared] at handled
  exact answer_acknowledged (accepted_stopPeriodic message sequence) handled rfl

/-- What both sides have after a STOP that is accepted. -/
theorem Paired.stopped
    (paired : pair.Paired)
    (missed : pair.device.missedCaptureCount = 0) :
    Paired {
      device := { pair.device with schedule := none, lastError := 0 }
      app := { pair.app with periodic := .init, lastError := 0 }
      clockUs := pair.clockUs
    } := by
  refine { paired with scheduled := ?_ }
  rw [missed]
  exact .cleared (by rintro held ⟨⟩)

/-- Both sides stop, or both refuse to. -/
theorem keeps_stop
    (paired : pair.Paired)
    {message : Host.StopRequest}
    (stop : request.command = .stop message)
    (polled : ¬pair.Ends request.command → pair.Polled)
    (fresh : pair.device.completed.lookup (key request) = none)
    (alike : pair.ServedAlike hardware request.command) :
    pair.Keeps (.command request hardware) := by
  obtain ⟨sequence, command, payload, encoded⟩ := request
  cases stop
  cases encoded
  have decoded : Host.StopRequest.decode message.encode = .ok message :=
    (Host.StopRequest.exact _ message).2 rfl
  by_cases stops : pair.Stops message
  · obtain ⟨missed, own⟩ := alike stops
    have served :
        ∃ frames,
          pair.device.dispatch pair.clockUs
              (Frame.command .stop sequence message.encode) =
            (.ok frames,
              { pair.device with schedule := none, lastError := 0 }) := by
      show ∃ frames, pair.device.stop _ = _
      unfold SimulatedDevice.stop SimulatedDevice.attempt
      dsimp only [Frame.command]
      rw [paired.requireHello, ok_bind, decoded, ok_bind, require_pos own,
        ok_bind]
      exact ⟨_, rfl⟩
    obtain ⟨frames, served⟩ := served
    exact keeps_of_served fresh served
      (answer_stop_served paired stops sequence hardware)
      (paired.stopped missed) (by rintro held ⟨⟩)
  · obtain ⟨active, foreign⟩ := Classical.not_imp.1 stops
    obtain ⟨held, periods, schedule, running⟩ := paired.running active
    have other : held.scheduleId ≠ message.scheduleId := by
      rw [running.identity]
      exact foreign
    have refused :
        ∃ raised,
          pair.device.dispatch pair.clockUs
              (Frame.command .stop sequence message.encode) =
            (.error raised, pair.device) := by
      show ∃ raised, pair.device.stop _ = _
      unfold SimulatedDevice.stop SimulatedDevice.attempt
      dsimp only [Frame.command]
      rw [paired.requireHello, ok_bind, decoded, ok_bind,
        require_eq_error.2 ⟨fun own => other (own held schedule), rfl⟩]
      exact ⟨_, rfl⟩
    obtain ⟨raised, refused⟩ := refused
    exact keeps_of_refused fresh refused
      (answer_stop_refused paired stops sequence hardware) paired
      (polled fun ends => stops ends.2)

/-! ## HELLO -/

/-- Both sides derive the same boot identity. -/
theorem deriveBootId_eq (deviceId hostNonce : Bytes 16) :
    SimulatedDevice.deriveBootId deviceId hostNonce =
      Firmware.bootIdDerive deviceId hostNonce := by
  unfold SimulatedDevice.deriveBootId Firmware.bootIdDerive
  dsimp only
  rw [Firmware.sha256_eq_digest (by simp)]

/-- The payload of a HELLO. -/
theorem payload_hello
    {message : Host.HelloRequest}
    {payload : List UInt8}
    (encoded : message.encode = .ok payload) :
    message.minVersion ≤ message.maxVersion ∧
      payload =
        message.hostNonce.toList ++
          [message.minVersion, message.maxVersion] ++ writeU16 0 := by
  obtain ⟨⟨⟩, valid, encoded⟩ := bind_eq_ok.1 encoded
  cases encoded
  exact ⟨require_eq_ok.1 valid, rfl⟩

/-- The parser takes a HELLO exactly when it admits the version. -/
theorem accepted_hello_iff
    {message : Host.HelloRequest}
    {payload : List UInt8}
    (encoded : message.encode = .ok payload)
    (sequence : UInt32) :
    (received (Frame.command .hello sequence payload)).Accepted ↔
      Overlaps message := by
  obtain ⟨ordered, rfl⟩ := payload_hello encoded
  have zeros : writeU16 0 = [0, 0] := rfl
  have positive : 1 ≤ message.maxVersion ↔ ¬message.maxVersion = 0 := by
    rw [UInt8.le_iff_toNat_le, ← UInt8.toNat_inj]
    exact Nat.one_le_iff_ne_zero
  have allowed :
      Firmware.Mcu.payloadAllowed MessageType.hello.code
          (message.hostNonce.toList ++
            [message.minVersion, message.maxVersion] ++ writeU16 0) = true ↔
        Overlaps message := by
    simp [Firmware.Mcu.payloadAllowed, MessageType.code,
      Firmware.Message.hello, Firmware.Mcu.protocolVersion, Overlaps,
      byteAt_append_right, byteAt_cons_zero, byteAt_cons_succ, ordered, zeros,
      positive]
  constructor
  · intro accepted
    exact allowed.1 accepted.payload
  · intro overlaps
    exact accepted_command sequence (by simp [Firmware.Mcu.maxCommandPayload])
      (by simp [Firmware.Mcu.lengthAllowed]; decide) (allowed.2 overlaps)

/-- A HELLO reaches its handler. -/
theorem handle_hello
    (app : App)
    (sequence : UInt32)
    (payload : List UInt8)
    (hardware : Hardware) :
    app.handle (received (Frame.command .hello sequence payload))
        App.responseCapacity hardware =
      app.handleHello (received (Frame.command .hello sequence payload))
        App.responseCapacity hardware := by
  simp [App.handle, received, Frame.command, MessageType.code,
    Host.Flags.none, Firmware.Message.hello]

/-- The session a HELLO leaves. -/
def greetedApp (app : App) (hostNonce : Bytes 16) (hardware : Hardware) : App :=
  if app.helloEstablished = true ∧ app.hostNonce ≠ hostNonce then
    (app.endSession hardware).app.greeted hostNonce
  else
    app.greeted hostNonce

/-- The firmware serves a HELLO that admits its version. -/
theorem answer_hello
    (app : App)
    {message : Host.HelloRequest}
    {payload : List UInt8}
    (encoded : message.encode = .ok payload)
    (overlaps : Overlaps message)
    (sequence : UInt32)
    (hardware : Hardware) :
    answer app (Frame.command .hello sequence payload) hardware =
      (greetedApp app message.hostNonce hardware, true) := by
  have accepted := (accepted_hello_iff encoded sequence).2 overlaps
  obtain ⟨-, rfl⟩ := payload_hello encoded
  have nonce :
      App.requestId
          (received
            (Frame.command .hello sequence
              (message.hostNonce.toList ++
                [message.minVersion, message.maxVersion] ++ writeU16 0))) =
        message.hostNonce := by
    simp [App.requestId, received, Frame.command, slice_append_left]
  have handled :=
    handle_hello app sequence
      (message.hostNonce.toList ++
        [message.minVersion, message.maxVersion] ++ writeU16 0)
      hardware
  unfold App.handleHello at handled
  rw [nonce] at handled
  have greeted :
      (if app.helloEstablished = true ∧ app.hostNonce ≠ message.hostNonce then
          app.endSession hardware
        else
          app.answer none).app.greeted message.hostNonce =
        greetedApp app message.hostNonce hardware := by
    unfold greetedApp
    split <;> rfl
  dsimp only at handled
  rw [greeted] at handled
  refine answer_served accepted handled rfl ?_ (by decide)
  simp [App.helloPayload]

/-- A HELLO of the session changes nothing in the firmware. -/
theorem Paired.greetedApp_same
    (paired : pair.Paired)
    (hardware : Hardware) :
    greetedApp pair.app pair.app.hostNonce hardware = pair.app := by
  have waits : ¬pair.app.state = .sessionWait := by
    rw [paired.idle]
    decide
  unfold greetedApp
  rw [if_neg (fun other => other.2 rfl), App.greeted, ← paired.session,
    if_neg waits, ← paired.established]

/-- A HELLO of another session opens it on both sides. -/
theorem Paired.greeted
    (paired : pair.Paired)
    {hostNonce : Bytes 16}
    (other : hostNonce ≠ pair.app.hostNonce)
    (inactive : pair.app.periodic.active = false)
    (missed : pair.device.missedCaptureCount = 0)
    (secured : hardware.forceSafeResult = .ok) :
    Paired {
      device :=
        { pair.device with
          bootId :=
            some (SimulatedDevice.deriveBootId pair.device.deviceId hostNonce) }
      app := greetedApp pair.app hostNonce hardware
      clockUs := pair.clockUs
    } := by
  have idle := paired.idle
  have ends :
      pair.app.helloEstablished = true ∧ pair.app.hostNonce ≠ hostNonce :=
    ⟨paired.established, other.symm⟩
  unfold greetedApp
  rw [if_pos ends]
  unfold App.endSession
  dsimp only
  rw [if_neg (not_not.2 secured)]
  have working : pair.app.cleared.state ≠ .fault := by
    show pair.app.state ≠ .fault
    rw [idle]
    decide
  rw [if_pos working]
  exact {
    established := rfl
    idle := rfl
    configValid := paired.configValid
    free := rfl
    clock := paired.clock
    device := paired.device
    session := rfl
    boot := by
      dsimp only
      rw [deriveBootId_eq, paired.device]
      rfl
    config := paired.config
    captures := paired.captures
    missed := paired.missed
    scheduled := by
      dsimp only
      rw [missed]
      exact .cleared (paired.late inactive)
  }

/-- A HELLO of the session leaves the simulator in it. -/
theorem Paired.same_boot
    (paired : pair.Paired) :
    some
        (SimulatedDevice.deriveBootId pair.device.deviceId
          pair.app.hostNonce) =
      pair.device.bootId := by
  rw [deriveBootId_eq, paired.device, ← paired.session, paired.boot]

/-- Both sides serve a HELLO, or the versions do not overlap. -/
theorem keeps_hello
    (paired : pair.Paired)
    (polled : pair.Polled)
    {message : Host.HelloRequest}
    (hello : request.command = .hello message)
    (fresh : pair.device.completed.lookup (key request) = none)
    (alike : pair.ServedAlike hardware request.command) :
    pair.Keeps (.command request hardware) := by
  obtain ⟨sequence, command, payload, encoded⟩ := request
  cases hello
  have decoded : Host.HelloRequest.decode payload = .ok message :=
    (Host.HelloRequest.exact _ message).2 encoded
  by_cases overlaps : message.minVersion ≤ 1 ∧ 1 ≤ message.maxVersion
  · have served :
        ∃ frames,
          pair.device.dispatch pair.clockUs
              (Frame.command .hello sequence payload) =
            (.ok frames,
              { pair.device with
                bootId :=
                  some (SimulatedDevice.deriveBootId pair.device.deviceId
                    message.hostNonce) }) := by
      show ∃ frames, pair.device.hello _ = _
      unfold SimulatedDevice.hello SimulatedDevice.attempt
      dsimp only [Frame.command]
      rw [decoded, ok_bind, require_pos overlaps, ok_bind]
      exact ⟨_, rfl⟩
    obtain ⟨frames, served⟩ := served
    have answered := answer_hello pair.app encoded overlaps sequence hardware
    by_cases same : message.hostNonce = pair.app.hostNonce
    · rw [same, paired.same_boot] at served
      rw [same, paired.greetedApp_same] at answered
      exact keeps_of_served fresh served answered paired polled
    · obtain ⟨inactive, missed, secured⟩ := alike overlaps same
      exact keeps_of_served fresh served answered
        (paired.greeted same inactive missed secured) polled
  · have refused :
        ∃ raised,
          pair.device.dispatch pair.clockUs
              (Frame.command .hello sequence payload) =
            (.error raised, pair.device) := by
      show ∃ raised, pair.device.hello _ = _
      unfold SimulatedDevice.hello SimulatedDevice.attempt
      dsimp only [Frame.command]
      rw [decoded, ok_bind, require_eq_error.2 ⟨overlaps, rfl⟩]
      exact ⟨_, rfl⟩
    obtain ⟨raised, refused⟩ := refused
    exact keeps_of_refused fresh refused
      (answer_dropped (mt (accepted_hello_iff encoded sequence).1 overlaps))
      paired polled

/-! ## START_PERIODIC -/

/-- An operation that assigns nothing before its last check returns, or leaves
the device alone. -/
theorem attempt_cases
    (device : SimulatedDevice)
    (operation : Except Raised (List Frame × SimulatedDevice)) :
    (∃ frames next, operation = .ok (frames, next)) ∨
      ∃ raised, device.attempt operation = (.error raised, device) := by
  cases operation with
  | error raised => exact .inr ⟨raised, rfl⟩
  | ok result => exact .inl ⟨result.1, result.2, rfl⟩

/-- The fields of a START_PERIODIC as the firmware reads them. -/
structure StartFields
    (message : Host.StartPeriodicRequest)
    (payload : List UInt8) :
    Prop where
  requestId : slice payload 0 16 = message.requestId
  scheduleId : slice payload 16 16 = message.scheduleId
  profile : slice payload 32 32 = message.expectedProfileSha256
  crc : readU32 payload 64 = message.expectedDeviceConfigCrc32
  period : readU32 payload 68 = message.periodUs
  count : readU32 payload 72 = message.captureCount
  lease : readU32 payload 76 = message.leaseTimeoutMs
  named : message.scheduleId ≠ Bytes.zero 16
  long : 1000 ≤ message.leaseTimeoutMs
  short : message.leaseTimeoutMs ≤ 10000

theorem startFields
    {message : Host.StartPeriodicRequest}
    {payload : List UInt8}
    (encoded : message.encode = .ok payload) :
    StartFields message payload := by
  have decoded := (Host.StartPeriodicRequest.exact payload message).2 encoded
  obtain ⟨⟨⟩, -, decoded⟩ := bind_eq_ok.1 decoded
  obtain ⟨_, -, decoded⟩ := bind_eq_ok.1 decoded
  cases decoded
  obtain ⟨⟨⟩, named, encoded⟩ := bind_eq_ok.1 encoded
  obtain ⟨⟨⟩, -, encoded⟩ := bind_eq_ok.1 encoded
  obtain ⟨⟨⟩, leased, -⟩ := bind_eq_ok.1 encoded
  obtain ⟨long, short⟩ := require_eq_ok.1 leased
  exact ⟨rfl, rfl, rfl, rfl, rfl, rfl, rfl, require_eq_ok.1 named, long, short⟩

/-- The parser takes a START_PERIODIC whose period it allows. -/
theorem slow_of_accepted
    {message : Host.StartPeriodicRequest}
    {payload : List UInt8}
    (fields : StartFields message payload)
    {sequence : UInt32}
    (accepted :
      (received (Frame.command .startPeriodic sequence payload)).Accepted) :
    100000 ≤ message.periodUs := by
  have allowed :
      Firmware.Mcu.payloadAllowed MessageType.startPeriodic.code payload =
        true :=
    accepted.payload
  have checked :
      ((slice payload 16 16 ≠ Bytes.zero 16 ∧
        100000 ≤ readU32 payload 68) ∧ 1000 ≤ readU32 payload 76) ∧
        readU32 payload 76 ≤ 10000 := by
    simpa [Firmware.Mcu.payloadAllowed, MessageType.code,
      Firmware.Message.hello, Firmware.Message.setConfig,
      Firmware.Message.captureOnce, Firmware.Message.runIo2LoopbackTest,
      Firmware.Message.startPeriodic] using allowed
  rw [← fields.period]
  exact checked.1.1.2

/-- A START_PERIODIC names the configuration of the firmware. -/
theorem namesConfig_iff
    {message : Host.StartPeriodicRequest}
    {payload : List UInt8}
    (fields : StartFields message payload)
    (app : App)
    (sequence : UInt32) :
    app.namesConfig
        (received (Frame.command .startPeriodic sequence payload)) 32 = true ↔
      message.expectedProfileSha256 = app.config.profileSha256 ∧
        message.expectedDeviceConfigCrc32 = app.config.deviceConfigCrc32 := by
  rw [← fields.profile, ← fields.crc]
  simp [App.namesConfig, received, Frame.command]

/-- A START_PERIODIC reaches the check of the configuration. -/
theorem handle_start
    (paired : pair.Paired)
    {message : Host.StartPeriodicRequest}
    {payload : List UInt8}
    (fields : StartFields message payload)
    (sequence : UInt32)
    (hardware : Hardware) :
    let request := received (Frame.command .startPeriodic sequence payload)
    pair.app.handle request App.responseCapacity hardware =
      if pair.app.namesConfig request 32 = false then
        pair.app.refuse request Firmware.ErrorCode.configMismatch 0 0
          App.responseCapacity
      else
        match pair.app.periodic.start message.scheduleId message.periodUs
            message.captureCount message.leaseTimeoutMs.toUInt16 with
        | (started, .ok) =>
            let running :=
              { pair.app with
                periodic := started
                periodicRequestId := message.requestId
                lastError := 0 }
            running.answer
              (running.encodeAck request Firmware.Message.startPeriodic
                App.responseCapacity)
        | (_, result) =>
            pair.app.refuse request
              (if result = .conflict then
                Firmware.ErrorCode.invalidState
              else
                Firmware.ErrorCode.unsafeConfig)
              0 0 App.responseCapacity := by
  intro request
  have dispatched :
      pair.app.Dispatched request Firmware.Message.startPeriodic :=
    ⟨rfl, paired.established, rfl⟩
  have free :
      ¬(pair.app.state ≠ .idleSafe ∨ pair.app.configValid = false ∨
        pair.app.capturePending = true ∨ pair.app.clockFaultFlags ≠ 0) := by
    simp [paired.idle, paired.configValid, paired.free, paired.clock]
  rw [Firmware.Board.handle_dispatched_start dispatched]
  unfold App.handleStartPeriodic
  rw [if_neg free, ← fields.scheduleId, ← fields.period, ← fields.count,
    ← fields.lease, ← fields.requestId]
  rfl

/-- The firmware starts what a START_PERIODIC asks for. -/
theorem answer_start_served
    (paired : pair.Paired)
    {message : Host.StartPeriodicRequest}
    {payload : List UInt8}
    (encoded : message.encode = .ok payload)
    (starts : pair.Starts message)
    (sequence : UInt32)
    (hardware : Hardware) :
    ∃ started,
      pair.app.periodic.start message.scheduleId message.periodUs
          message.captureCount message.leaseTimeoutMs.toUInt16 =
        (started, .ok) ∧
      answer pair.app (Frame.command .startPeriodic sequence payload)
          hardware =
        ({ pair.app with
            periodic := started
            periodicRequestId := message.requestId
            lastError := 0 },
          true) := by
  obtain ⟨inactive, profile, crc, slow⟩ := starts
  have fields := startFields encoded
  have accepted := accepted_startPeriodic slow encoded sequence
  have lease := toNat_lease fields.short
  have long : 1000 ≤ message.leaseTimeoutMs.toUInt16 := by
    rw [UInt16.le_iff_toNat_le, lease]
    exact UInt32.le_iff_toNat_le.1 fields.long
  have short : message.leaseTimeoutMs.toUInt16 ≤ 10000 := by
    rw [UInt16.le_iff_toNat_le, lease]
    exact UInt32.le_iff_toNat_le.1 fields.short
  obtain ⟨started, begins⟩ :
      ∃ started,
        pair.app.periodic.start message.scheduleId message.periodUs
            message.captureCount message.leaseTimeoutMs.toUInt16 =
          (started, .ok) := by
    unfold Firmware.CaptureSchedule.start
    rw [if_neg (by simp [inactive]), if_neg]
    · exact ⟨_, rfl⟩
    · rintro (unnamed | fast | brief | endless)
      · exact fields.named unnamed
      · exact UInt32.not_lt.2 slow fast
      · exact UInt16.not_lt.2 long brief
      · exact UInt16.not_lt.2 short endless
  have handled := handle_start paired fields sequence hardware
  dsimp only at handled
  rw [begins, if_neg (by
    simp [(namesConfig_iff fields pair.app sequence).2 ⟨profile, crc⟩])]
    at handled
  exact ⟨started, begins, answer_acknowledged accepted handled rfl⟩

/-- The firmware refuses a START_PERIODIC that starts nothing. -/
theorem answer_start_refused
    (paired : pair.Paired)
    {message : Host.StartPeriodicRequest}
    {payload : List UInt8}
    (encoded : message.encode = .ok payload)
    (idle : ¬pair.Starts message)
    (sequence : UInt32)
    (hardware : Hardware) :
    answer pair.app (Frame.command .startPeriodic sequence payload) hardware =
      (pair.app, false) := by
  have fields := startFields encoded
  by_cases accepted :
      (received (Frame.command .startPeriodic sequence payload)).Accepted
  · have slow := slow_of_accepted fields accepted
    have handled := handle_start paired fields sequence hardware
    dsimp only at handled
    by_cases named :
        pair.app.namesConfig
          (received (Frame.command .startPeriodic sequence payload)) 32 = true
    · obtain ⟨profile, crc⟩ := (namesConfig_iff fields pair.app sequence).1 named
      have active : pair.app.periodic.active = true := by
        by_contra inactive
        exact idle ⟨by simpa using inactive, profile, crc, slow⟩
      have conflict :
          pair.app.periodic.start message.scheduleId message.periodUs
              message.captureCount message.leaseTimeoutMs.toUInt16 =
            (pair.app.periodic, .conflict) :=
        if_pos active
      rw [if_neg (by simp [named]), conflict] at handled
      exact answer_refused accepted handled
    · rw [if_pos (by simpa using named)] at handled
      exact answer_refused accepted handled
  · exact answer_dropped accepted

/-- The simulator starts only where the firmware does. -/
theorem dispatch_start_cases
    (paired : pair.Paired)
    {message : Host.StartPeriodicRequest}
    {payload : List UInt8}
    (encoded : message.encode = .ok payload)
    (sequence : UInt32) :
    pair.Starts message ∨
      ∃ raised,
        pair.device.dispatch pair.clockUs
            (Frame.command .startPeriodic sequence payload) =
          (.error raised, pair.device) := by
  have decoded : Host.StartPeriodicRequest.decode payload = .ok message :=
    (Host.StartPeriodicRequest.exact _ message).2 encoded
  rcases attempt_cases pair.device _ with ⟨frames, next, returned⟩ | refused
  rotate_left
  · exact .inr refused
  · obtain ⟨_, -, returned⟩ := bind_eq_ok.1 returned
    obtain ⟨config, configured, returned⟩ := bind_eq_ok.1 returned
    obtain ⟨⟨⟩, unscheduled, returned⟩ := bind_eq_ok.1 returned
    obtain ⟨request, same, returned⟩ := bind_eq_ok.1 returned
    obtain ⟨⟨⟩, profile, returned⟩ := bind_eq_ok.1 returned
    obtain ⟨⟨⟩, crc, returned⟩ := bind_eq_ok.1 returned
    obtain ⟨⟨⟩, slow, returned⟩ := bind_eq_ok.1 returned
    cases decoded.symm.trans same
    cases paired.requireConfig.symm.trans configured
    refine .inl ⟨?_, require_eq_ok.1 profile, require_eq_ok.1 crc,
      require_eq_ok.1 slow⟩
    by_contra active
    obtain ⟨held, periods, schedule, -⟩ :=
      paired.running (by simpa using active)
    rw [require_eq_ok.1 unscheduled] at schedule
    cases schedule

/-- Both sides start a schedule, or both refuse to. -/
theorem keeps_start
    (paired : pair.Paired)
    (polled : pair.Polled)
    {message : Host.StartPeriodicRequest}
    (start : request.command = .startPeriodic message)
    (fresh : pair.device.completed.lookup (key request) = none)
    (alike : pair.ServedAlike hardware request.command) :
    pair.Keeps (.command request hardware) := by
  obtain ⟨sequence, command, payload, encoded⟩ := request
  cases start
  have decoded : Host.StartPeriodicRequest.decode payload = .ok message :=
    (Host.StartPeriodicRequest.exact _ message).2 encoded
  by_cases starts : pair.Starts message
  · obtain ⟨unscheduled, missed⟩ := alike starts
    obtain ⟨started, begins, answered⟩ :=
      answer_start_served paired encoded starts sequence hardware
    obtain ⟨inactive, profile, crc, slow⟩ := starts
    have running := Running.start begins pair.clockUs message.requestId
    rw [toNat_lease (startFields encoded).short] at running
    have served :
        ∃ frames,
          pair.device.dispatch pair.clockUs
              (Frame.command .startPeriodic sequence payload) =
            (.ok frames,
              { pair.device with
                schedule :=
                  some {
                    requestId := message.requestId
                    scheduleId := message.scheduleId
                    periodUs := message.periodUs
                    captureCount := message.captureCount
                    leaseDeadlineUs :=
                      pair.clockUs + message.leaseTimeoutMs.toNat * 1000
                    nextCaptureUs := pair.clockUs + message.periodUs.toNat
                    completedCount := 0
                    leaseSequence := 0
                  }
                lastError := 0 }) := by
      show ∃ frames, pair.device.startPeriodic _ _ = _
      unfold SimulatedDevice.startPeriodic SimulatedDevice.attempt
      dsimp only [Frame.command]
      rw [paired.requireHello, ok_bind, paired.requireConfig, ok_bind,
        require_pos unscheduled, ok_bind, decoded, ok_bind,
        require_pos (by exact profile), ok_bind, require_pos (by exact crc),
        ok_bind, require_pos slow, ok_bind, nowUs_natCast, ok_bind]
      exact ⟨_, rfl⟩
    obtain ⟨frames, served⟩ := served
    refine keeps_of_served fresh served answered ?_ ?_
    · refine { paired with scheduled := ?_ }
      dsimp only
      rw [missed]
      exact .running running
    · rintro held ⟨⟩ -
      show pair.clockUs < pair.clockUs + message.periodUs.toNat +
        message.periodUs.toNat
      have positive : 100000 ≤ message.periodUs.toNat :=
        UInt32.le_iff_toNat_le.1 slow
      omega
  · obtain ⟨raised, refused⟩ :=
      (dispatch_start_cases paired encoded sequence).resolve_left starts
    exact keeps_of_refused fresh refused
      (answer_start_refused paired encoded starts sequence hardware) paired
      polled

/-! ## RENEW_PERIODIC_LEASE -/

/-- The fields of a renewal as the firmware reads them. -/
structure RenewFields
    (message : Host.RenewPeriodicLease)
    (payload : List UInt8) :
    Prop where
  bootId : slice payload 0 16 = message.bootId
  scheduleId : slice payload 16 16 = message.scheduleId
  sequence : readU32 payload 32 = message.leaseSequence
  lease : readU32 payload 36 = message.leaseTimeoutOrRemainingMs
  named : ¬(message.bootId = Bytes.zero 16 ∨
    message.scheduleId = Bytes.zero 16)
  later : 1 ≤ message.leaseSequence
  short : message.leaseTimeoutOrRemainingMs ≤ 10000

theorem renewFields
    {message : Host.RenewPeriodicLease}
    {payload : List UInt8}
    (encoded : message.encode = .ok payload) :
    RenewFields message payload := by
  have decoded := (Host.RenewPeriodicLease.exact payload message).2 encoded
  obtain ⟨⟨⟩, -, decoded⟩ := bind_eq_ok.1 decoded
  obtain ⟨⟨⟩, valid, decoded⟩ := bind_eq_ok.1 decoded
  cases decoded
  obtain ⟨⟨⟩, named, valid⟩ := bind_eq_ok.1 valid
  obtain ⟨⟨⟩, later, valid⟩ := bind_eq_ok.1 valid
  exact ⟨rfl, rfl, rfl, rfl, require_eq_ok.1 named, require_eq_ok.1 later,
    require_eq_ok.1 valid⟩

/-- A renewal reaches its handler. -/
theorem handle_renew
    (paired : pair.Paired)
    {message : Host.RenewPeriodicLease}
    {payload : List UInt8}
    (fields : RenewFields message payload)
    (sequence : UInt32)
    (hardware : Hardware) :
    let request := received (Frame.command .renewPeriodicLease sequence payload)
    pair.app.handle request App.responseCapacity hardware =
      if message.bootId ≠ pair.app.bootId then
        pair.app.refuse request Firmware.ErrorCode.bootSessionMismatch 0 0
          App.responseCapacity
      else
        match pair.app.periodic.renew message.scheduleId message.leaseSequence
            message.leaseTimeoutOrRemainingMs.toUInt16 with
        | (renewed, .ok) =>
            { pair.app with periodic := renewed }.answer
              (App.respond request Firmware.Message.renewPeriodicLease
                (pair.app.bootId.toList ++ renewed.scheduleId.toList ++
                  writeU32 renewed.leaseSequence ++
                  writeU32 renewed.leaseRemainingMs.toUInt32)
                App.responseCapacity)
        | (_, result) =>
            pair.app.refuse request
              (if result = .conflict then
                Firmware.ErrorCode.invalidState
              else
                Firmware.ErrorCode.invalidMessage)
              0 0 App.responseCapacity := by
  intro request
  have dispatched :
      pair.app.handle request App.responseCapacity hardware =
        pair.app.handleRenewPeriodic request App.responseCapacity := by
    simp [App.handle, request, received, Frame.command, MessageType.code,
      Host.Flags.none, paired.established, Firmware.Message.hello,
      Firmware.Message.getCapabilities, Firmware.Message.getStatus,
      Firmware.Message.getConfig, Firmware.Message.setConfig,
      Firmware.Message.runIo2LoopbackTest, Firmware.Message.captureOnce,
      Firmware.Message.startPeriodic, Firmware.Message.renewPeriodicLease]
  rw [dispatched, ← fields.bootId, ← fields.scheduleId, ← fields.sequence,
    ← fields.lease]
  rfl

/-- The firmware refuses a renewal that does not name its schedule. -/
theorem answer_renew_refused
    (paired : pair.Paired)
    {message : Host.RenewPeriodicLease}
    {payload : List UInt8}
    (encoded : message.encode = .ok payload)
    (foreign : ¬pair.Names message)
    (sequence : UInt32)
    (hardware : Hardware) :
    answer pair.app (Frame.command .renewPeriodicLease sequence payload)
        hardware =
      (pair.app, false) := by
  by_cases accepted :
      (received
        (Frame.command .renewPeriodicLease sequence payload)).Accepted
  · have handled :=
      handle_renew paired (renewFields encoded) sequence hardware
    dsimp only at handled
    by_cases boot : message.bootId = pair.app.bootId
    · have other :
          pair.app.periodic.active = false ∨
            pair.app.periodic.scheduleId ≠ message.scheduleId := by
        by_contra own
        rw [not_or, not_not] at own
        exact foreign ⟨by simpa using own.1, boot, own.2.symm⟩
      have conflict :
          pair.app.periodic.renew message.scheduleId message.leaseSequence
              message.leaseTimeoutOrRemainingMs.toUInt16 =
            (pair.app.periodic, .conflict) :=
        if_pos other
      rw [if_neg (not_not.2 boot), conflict] at handled
      exact answer_refused accepted handled
    · rw [if_pos boot] at handled
      exact answer_refused accepted handled
  · exact answer_dropped accepted

/-- The firmware serves a renewal of its schedule. -/
theorem answer_renew_served
    (paired : pair.Paired)
    {message : Host.RenewPeriodicLease}
    {payload : List UInt8}
    (encoded : message.encode = .ok payload)
    (long : 1000 ≤ message.leaseTimeoutOrRemainingMs)
    (boot : message.bootId = pair.app.bootId)
    {renewed : Firmware.CaptureSchedule}
    (renews :
      pair.app.periodic.renew message.scheduleId message.leaseSequence
          message.leaseTimeoutOrRemainingMs.toUInt16 =
        (renewed, .ok))
    (sequence : UInt32)
    (hardware : Hardware) :
    answer pair.app (Frame.command .renewPeriodicLease sequence payload)
        hardware =
      ({ pair.app with periodic := renewed }, true) := by
  have accepted := accepted_renewPeriodic long encoded sequence
  have handled := handle_renew paired (renewFields encoded) sequence hardware
  dsimp only at handled
  rw [if_neg (not_not.2 boot), renews] at handled
  exact answer_served accepted handled rfl (by simp) (by decide)

/-- The simulator refuses a renewal that does not name the schedule of the
firmware, and gives up a late schedule of that name. -/
theorem dispatch_renew_refused
    (paired : pair.Paired)
    (polled : pair.Polled)
    {message : Host.RenewPeriodicLease}
    {payload : List UInt8}
    (encoded : message.encode = .ok payload)
    (foreign : ¬pair.Names message)
    (sequence : UInt32) :
    ∃ raised device,
      pair.device.dispatch pair.clockUs
          (Frame.command .renewPeriodicLease sequence payload) =
        (.error raised, device) ∧
      Paired { pair with device := device } ∧
      Polled { pair with device := device } := by
  have decoded : Host.RenewPeriodicLease.decode payload = .ok message :=
    (Host.RenewPeriodicLease.exact _ message).2 encoded
  show ∃ raised device, pair.device.renewPeriodic _ _ = _ ∧ _
  unfold SimulatedDevice.renewPeriodic SimulatedDevice.renewal
  dsimp only [Frame.command]
  rw [paired.requireHello, ok_bind, decoded, ok_bind, nowUs_natCast]
  cases schedule : pair.device.schedule with
  | none => exact ⟨_, _, rfl, paired, polled⟩
  | some held =>
      dsimp only
      by_cases own :
          message.bootId = pair.app.bootId ∧
            message.scheduleId = held.scheduleId
      · have inactive : pair.app.periodic.active = false := by
          by_contra active
          obtain ⟨other, periods, same, running⟩ :=
            paired.running (by simpa using active)
          cases schedule.symm.trans same
          exact foreign ⟨running.active, own.1, own.2.trans running.identity⟩
        have late := paired.late inactive held schedule
        rw [require_pos own, ok_bind, ok_bind]
        dsimp only [pure, Except.pure]
        rw [if_pos late]
        have resting := paired.scheduled
        rw [schedule] at resting
        refine ⟨_, _, rfl, { paired with scheduled := ?_ }, ?_⟩
        · cases resting with
          | resting _ counted _ =>
              exact .resting inactive counted (by rintro held ⟨⟩)
          | running running => exact absurd running.early (Nat.not_lt.2 late)
        · rintro held ⟨⟩
      · rw [require_eq_error.2 ⟨own, rfl⟩]
        exact ⟨_, _, rfl, paired, polled⟩

/-- The simulator serves a renewal of a running schedule. -/
theorem dispatch_renew_served
    (paired : pair.Paired)
    {message : Host.RenewPeriodicLease}
    {payload : List UInt8}
    (encoded : message.encode = .ok payload)
    (boot : message.bootId = pair.app.bootId)
    {held renewed : Host.SimulatedSchedule}
    (schedule : pair.device.schedule = some held)
    (own : message.scheduleId = held.scheduleId)
    (early : pair.clockUs < held.leaseDeadlineUs)
    (renews : held.renew message pair.clockUs = renewed)
    {periods : Nat}
    {firmware : Firmware.CaptureSchedule}
    (running :
      Running pair.clockUs pair.device.missedCaptureCount periods renewed
        firmware)
    (sequence : UInt32) :
    ∃ frames,
      pair.device.dispatch pair.clockUs
          (Frame.command .renewPeriodicLease sequence payload) =
        (.ok frames, { pair.device with schedule := some renewed }) := by
  have decoded : Host.RenewPeriodicLease.decode payload = .ok message :=
    (Host.RenewPeriodicLease.exact _ message).2 encoded
  have fields := renewFields encoded
  have remaining := running.leaseRemainingMs
  have short := Content.leaseRemainingMs_le running.leased
  have packed :
      SimulatedDevice.packWord32 (renewed.leaseRemainingMs pair.clockUs) =
        .ok firmware.leaseRemainingMs.toUInt32 := by
    rw [remaining, packWord32_eq (UInt32.toNat_lt _), Nat.toUInt32_eq,
      UInt32.ofNat_toNat]
  have encodes :
      ∃ bytes,
        Host.RenewPeriodicLease.encode {
          bootId := pair.app.bootId
          scheduleId := renewed.scheduleId
          leaseSequence := renewed.leaseSequence
          leaseTimeoutOrRemainingMs := firmware.leaseRemainingMs.toUInt32
        } = .ok bytes := by
    have named : ¬(pair.app.bootId = Bytes.zero 16 ∨
        renewed.scheduleId = Bytes.zero 16) := by
      rw [← boot, running.identity]
      rintro (unbooted | unnamed)
      · exact fields.named (.inl unbooted)
      · exact running.leased.named running.active unnamed
    have later : 1 ≤ renewed.leaseSequence := by
      rw [← renews]
      unfold Host.SimulatedSchedule.renew
      split
      · exact fields.later
      · next below =>
        exact UInt32.le_trans fields.later (UInt32.not_lt.1 below)
    exact ⟨_, bind_eq_ok.2 ⟨(), bind_eq_ok.2 ⟨(), require_eq_ok.2 named,
      bind_eq_ok.2 ⟨(), require_eq_ok.2 later, require_eq_ok.2 short⟩⟩,
      rfl⟩⟩
  obtain ⟨bytes, encodes⟩ := encodes
  show ∃ frames, pair.device.renewPeriodic _ _ = _
  unfold SimulatedDevice.renewPeriodic SimulatedDevice.renewal
  dsimp only [Frame.command]
  rw [paired.requireHello, ok_bind, decoded, ok_bind, nowUs_natCast, schedule]
  dsimp only
  rw [require_pos ⟨boot, own⟩, ok_bind, ok_bind]
  dsimp only [pure, Except.pure]
  rw [if_neg (Nat.not_le.2 early), renews, packed, ok_bind, encodes]
  exact ⟨_, rfl⟩

/-- Both sides renew the lease, or both refuse to. -/
theorem keeps_renew
    (paired : pair.Paired)
    (polled : pair.Polled)
    {message : Host.RenewPeriodicLease}
    (renew : request.command = .renewPeriodic message)
    (fresh : pair.device.completed.lookup (key request) = none)
    (alike : pair.ServedAlike hardware request.command) :
    pair.Keeps (.command request hardware) := by
  obtain ⟨sequence, command, payload, encoded⟩ := request
  cases renew
  by_cases names : pair.Names message
  · obtain ⟨long, later⟩ := alike names
    obtain ⟨active, boot, own⟩ := names
    obtain ⟨held, periods, schedule, running⟩ := paired.running active
    have fields := renewFields encoded
    obtain ⟨renews, renewed⟩ :=
      running.renewed fields.later long fields.short own later
    have served :=
      dispatch_renew_served paired encoded boot schedule
        (own.trans running.identity.symm) running.early rfl renewed sequence
    obtain ⟨frames, served⟩ := served
    refine keeps_of_served fresh served
      (answer_renew_served paired encoded long boot renews sequence hardware)
      { paired with scheduled := .running renewed } ?_
    rintro _ ⟨⟩ -
    have before := polled held schedule running.early
    unfold Host.SimulatedSchedule.renew
    split
    · exact before
    · exact before
  · obtain ⟨raised, device, refused, stillPaired, stillPolled⟩ :=
      dispatch_renew_refused paired polled encoded names sequence
    exact keeps_of_refused fresh refused
      (answer_renew_refused paired encoded names sequence hardware)
      stillPaired stillPolled

end Pair

end Usac.Link
