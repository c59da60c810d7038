import Usac.Host.BridgeDeviceClient
import Usac.Host.CaptureStore
import Usac.Library.Machine

namespace Usac.Host

open Library

/-!
# Device operations of the core

The operations of `BridgeDeviceClient` behind its constructor, with the part of
the executor and of the application that resolves the captures they meet: the
handler of a periodic session (`persist_interleaved`), the resolver of a single
capture, and the store for captures that no handler takes.
-/

/-- A client in use, with the store of its application. -/
structure ClientState where
  session : Session
  store : CaptureStore

/-- What `_persist_capture` stores a capture under. `onResolved` is the callback
that accounts for it. -/
structure CaptureOwner where
  sessionId : SessionId
  savePolicy : SavePolicy
  groupId : Option GroupId
  texts : PlanTexts
  onResolved : CoreCommitResult → CaptureStore → Except Raised CaptureStore

/-- The handler a periodic session installs for the captures of its schedule. -/
structure AsyncHandler where
  scheduleId : Bytes 16
  owner : CaptureOwner

namespace ClientState

/-- An operation on the client, which is given up when it raises. -/
abbrev Operation := StateT ClientState (Except Raised)

/-- An operation on the session alone. -/
def onSession
    {Result : Type}
    (operation : Session.Operation Result) :
    Operation Result := fun state => do
  let (result, session) ← operation state.session
  pure (result, { state with session := session })

/-- An operation on the store alone. -/
def onStore
    {Result : Type}
    (operation : CaptureStore → Except Raised (CaptureStore × Result)) :
    Operation Result := fun state => do
  let (store, result) ← operation state.store
  pure (result, { state with store := store })

/-- What is raised for a capture that is not the pending one. -/
def noPendingDelivery (captureId : Bytes 16) : Raised :=
  ⟨.keyError,
    "capture " ++ hex captureId.toList ++ " has no pending bridge delivery"⟩

/-- `capture_delivery`. -/
def captureDelivery (captureId : Bytes 16) : Operation BridgeCaptureDelivery :=
  fun state =>
    match state.session.pending with
    | some (_, delivery, capture) =>
        if capture.captureId = captureId then
          pure (delivery, state)
        else
          .error (noPendingDelivery captureId)
    | none => .error (noPendingDelivery captureId)

/-- `release_capture`. -/
def releaseCapture (captureId : Bytes 16) : Operation Unit := fun state =>
  match state.session.pending with
  | some (_, _, capture) =>
      if capture.captureId = captureId then
        .error (.runtimeError
          "pending bridge delivery cannot be released before confirmation")
      else
        pure ((), state)
  | none => pure ((), state)

/-- `_persist_capture`. -/
def persistCapture
    (owner : CaptureOwner)
    (capture : CaptureData) :
    Operation Unit := do
  onStore fun store =>
    pure (store.saveConfigurationContext capture
      (CaptureStore.planContext owner.texts capture owner.sessionId), ())
  let delivery ← captureDelivery capture.captureId
  let result ← onStore fun store =>
    store.commitDelivery delivery owner.savePolicy (some owner.sessionId)
      owner.groupId
  onStore fun store => do
    pure (← owner.onResolved result store, ())
  onSession (Session.confirmCapture result.receipt)
  releaseCapture capture.captureId

/-- `persist_interleaved`. -/
def persistInterleaved
    (handler : AsyncHandler)
    (capture : CaptureData) :
    Operation Bool :=
  if capture.scheduleId ≠ handler.scheduleId then
    pure false
  else do
    persistCapture handler.owner capture
    pure true

/-- The capture handler of a client, while one is installed. -/
def callHandler
    (handler : Option AsyncHandler)
    (capture : CaptureData) :
    Operation Bool :=
  match handler with
  | none => pure false
  | some handler => persistInterleaved handler capture

/-- The capture of a stale or foreign delivery goes to the store. -/
def replay (hasReplayStore : Bool) (capture : CaptureData) : Operation Unit := do
  require hasReplayStore
    (.runtimeError "bridge replay arrived without configured core storage")
  let delivery ← captureDelivery capture.captureId
  let result ← onStore fun store => store.commitReplayedDelivery delivery
  onSession (Session.confirmCapture result.receipt)
  releaseCapture capture.captureId

/-- The branch of `_response` for a capture. -/
def resolve
    (hasReplayStore : Bool)
    (handler : Option AsyncHandler)
    (frame : Frame) :
    Operation Unit := do
  let capture ← onSession (Session.acceptDelivery frame)
  if ← callHandler handler capture then
    require ((← get).session.pending = none)
      (.runtimeError "async capture handler did not finish the delivery")
  else
    replay hasReplayStore capture

/-- The loop of `_response`, for at most a number of frames. -/
def responseWithin
    (hasReplayStore : Bool)
    (handler : Option AsyncHandler)
    (sequence : UInt32)
    (messageType : MessageType) :
    Nat → Operation Frame
  | 0 => throw Session.timedOut
  | frames + 1 => do
      let frame ← onSession Session.receive
      if frame.messageType = .bridgeCaptureDelivery then
        resolve hasReplayStore handler frame
        responseWithin hasReplayStore handler sequence messageType frames
      else
        Session.checkResponse sequence messageType frame

end ClientState

/-- What a device operation runs under: whether the client has a replay store,
and the handler that is installed. -/
structure Attendance where
  hasReplayStore : Bool
  handler : Option AsyncHandler

namespace ClientState

variable (attendance : Attendance)

/-- `_response`. A frame takes bytes from the script, so there are no more
frames than bytes. -/
def response (sequence : UInt32) (messageType : MessageType) :
    Operation Frame := do
  let state ← get
  responseWithin attendance.hasReplayStore attendance.handler sequence
    messageType (Session.available state.session.connection.incoming + 1)

/-- `_ack`. -/
def ack
    (sequence : UInt32)
    (requestId : Bytes 16)
    (messageType : MessageType) :
    Operation Unit := do
  let frame ← response attendance sequence .ack
  let ack ← Ack.decode frame.payload
  require (ack.requestId = requestId ∧ ack.ackedType = messageType.code)
    (.runtimeError ("device ACK does not match " ++ messageType.name))

/-- A command with a sequence number of its own. -/
def sendCommand (messageType : MessageType) (payload : List UInt8) :
    Operation UInt32 :=
  onSession do
    let sequence ← Session.nextSequence
    Session.send (.command messageType sequence payload)
    return sequence

/-- `status`. -/
def status : Operation StatusResponse := do
  let sequence ← sendCommand .getStatus []
  let frame ← response attendance sequence .getStatus
  StatusResponse.decode frame.payload

/-- `_read_config`. -/
def readConfig : Operation AcquisitionConfigV2 := do
  let sequence ← sendCommand .getConfig []
  let frame ← response attendance sequence .getConfig
  AcquisitionConfigV2.decode frame.payload

/-- `apply_config`, given what the client knows of the configuration of the
device. -/
def applyConfig
    (deviceConfig : Option AcquisitionConfigV2)
    (requestId : Bytes 16)
    (config : AcquisitionConfigV2) :
    Operation AcquisitionConfigV2 := do
  let known ←
    match deviceConfig with
    | some known => pure known
    | none => readConfig attendance
  let request : SetConfigRequest := ⟨requestId, known.profileSha256, config⟩
  let sequence ← sendCommand .setConfig (← request.encode)
  ack attendance sequence requestId .setConfig
  readConfig attendance

/-- `start_periodic`. -/
def startPeriodic (request : StartPeriodicRequest) : Operation Unit := do
  let sequence ← sendCommand .startPeriodic (← request.encode)
  ack attendance sequence request.requestId .startPeriodic

/-- `renew_periodic`. -/
def renewPeriodic (renewal : RenewPeriodicLease) :
    Operation RenewPeriodicLease := do
  let sequence ← sendCommand .renewPeriodicLease (← renewal.encode)
  let frame ← response attendance sequence .renewPeriodicLease
  RenewPeriodicLease.decode frame.payload

/-- `stop_periodic`. -/
def stopPeriodic (request : StopRequest) : Operation Unit := do
  let sequence ← sendCommand .stop request.encode
  ack attendance sequence request.requestId .stop

/-- `capture_once`. -/
def captureOnce (request : CaptureOnceRequest) : Operation CaptureData := do
  let sequence ← sendCommand .captureOnce (← request.encode)
  ack attendance sequence request.requestId .captureOnce
  let delivery ← onSession Session.receive
  let capture ← onSession (Session.acceptDelivery delivery)
  require (capture.requestId = request.requestId)
    (.runtimeError "capture delivery request_id does not match CAPTURE_ONCE")
  return capture

/-- `capture_once` of the executor, with the resolver of the application. -/
def captureResolved (request : CaptureOnceRequest) (owner : CaptureOwner) :
    Operation Unit := do
  let capture ← captureOnce attendance request
  persistCapture owner capture

/-- `poll_captures`. `readable` is what `select` says of the socket. -/
def pollCaptures (readable : Bool) : Operation (List CaptureData) := do
  if (← get).session.pending ≠ none then
    return []
  else if readable then
    let frame ← onSession Session.receive
    return [← onSession (Session.acceptDelivery frame)]
  else
    return []

/-- `poll_captures` of the executor, with the handler of a session. -/
def pollResolved (readable : Bool) (onCapture : AsyncHandler) :
    Operation Unit := do
  let captures ← pollCaptures readable
  captures.forM fun capture => do
    let _ ← persistInterleaved onCapture capture

end ClientState

/-- The device operations of the application. -/
inductive DeviceOperation where
  | status
  | applyConfig
      (deviceConfig : Option AcquisitionConfigV2)
      (requestId : Bytes 16)
      (config : AcquisitionConfigV2)
  | startPeriodic (request : StartPeriodicRequest)
  | renewPeriodic (renewal : RenewPeriodicLease)
  | stopPeriodic (request : StopRequest)
  | captureOnce (request : CaptureOnceRequest) (owner : CaptureOwner)
  | pollCaptures (readable : Bool) (onCapture : AsyncHandler)

namespace DeviceOperation

open ClientState

/-- What an operation does to the client. -/
def perform (attendance : Attendance) : DeviceOperation → Operation Unit
  | status => do
      let _ ← ClientState.status attendance
  | applyConfig deviceConfig requestId config => do
      let _ ← ClientState.applyConfig attendance deviceConfig requestId config
  | startPeriodic request => ClientState.startPeriodic attendance request
  | renewPeriodic renewal => do
      let _ ← ClientState.renewPeriodic attendance renewal
  | stopPeriodic request => ClientState.stopPeriodic attendance request
  | captureOnce request owner =>
      ClientState.captureResolved attendance request owner
  | pollCaptures readable onCapture =>
      ClientState.pollResolved readable onCapture

end DeviceOperation

namespace ClientState

/-- One operation of a run. The client that is there after an operation has
raised, the same one or a replacement, is up to the environment. -/
structure Call where
  operation : DeviceOperation
  attendance : Attendance
  left : ClientState

/-- The client over a sequence of operations. -/
def machine : Machine ClientState Call (Except Raised Unit) where
  step state call :=
    match call.operation.perform call.attendance state with
    | .ok (_, after) => (after, .ok ())
    | .error raised => (call.left, .error raised)

end ClientState

end Usac.Host
