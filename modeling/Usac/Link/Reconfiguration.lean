import Usac.Firmware.Run
import Usac.Host.BridgeDeviceClient
import Usac.Link.Codec

namespace Usac.Link

open Library
open Firmware (App Hardware ConfigResult)
open Host (AcquisitionConfigV2 Frame HelloResponse CapabilitiesResponse Ack
  MessageType Raised SetConfigRequest require)

/-!
# A client that configures the device

`BridgeDeviceClient` and the firmware application joined by a link that
delivers every command and every response. Between two commands the firmware
goes on by itself: time passes, captures are taken and streamed, the session
ends, the board restarts. Captures reach the core beside the responses and are
resolved before them, so they are left out here.
-/

/-- What happens to the firmware without a command of the client. -/
inductive Background where
  | advanceTime (elapsedUs : UInt32) (hardware : Hardware)
  | updateClockFaults (flags : UInt16) (hardware : Hardware)
  | runPeriodicCapture (hardware : Hardware)
  | captureStreamed
  | endSession (hardware : Hardware)
  | restart (result : ConfigResult) (devStat : UInt8)

namespace Background

/-- The application afterwards. -/
def perform (app : App) : Background → App
  | .advanceTime elapsedUs hardware => (app.advanceTime elapsedUs hardware).app
  | .updateClockFaults flags hardware =>
      (app.updateClockFaults flags hardware).app
  | .runPeriodicCapture hardware => (app.runPeriodicCapture hardware).app
  | .captureStreamed => { app with capturePending := false }
  | .endSession hardware => (app.endSession hardware).app
  | .restart result devStat => App.boot app.deviceId result devStat

/-- Whether an established session survives. -/
def keepsSession : Background → Bool
  | .endSession _ | .restart _ _ => false
  | _ => true

/-- Whether the board stays powered. -/
def keepsPower : Background → Bool
  | .restart _ _ => false
  | _ => true

end Background

/-- What a command meets: the events before it arrives, and the results of the
hardware callbacks while it is handled. -/
structure Exchange where
  before : List Background
  hardware : Hardware

namespace Exchange

/-- The application a command reaches. -/
def reached (exchange : Exchange) (app : App) : App :=
  exchange.before.foldl Background.perform app

/-- A command delivered to the firmware, and the bytes it answers. A frame the
parser rejects is not answered. -/
def deliver
    (exchange : Exchange)
    (app : App)
    (frame : Frame) :
    App × Option (List UInt8) :=
  if (received frame).Accepted then
    let outcome :=
      (exchange.reached app).handle (received frame) App.responseCapacity
        exchange.hardware
    (outcome.app, outcome.response)
  else
    (exchange.reached app, none)

end Exchange

/-- The part of a `BridgeDeviceClient` that a configuration reads. -/
structure Client where
  sequence : UInt32
  deviceConfig : Option AcquisitionConfigV2
  deriving DecidableEq

/-- A method call in progress. When the exchanges run out the connection is
lost. -/
structure Call where
  app : App
  client : Client
  exchanges : List Exchange

/-- A method of the client. What it did before it raises stays done. -/
abbrev Method := ExceptT Raised (StateM Call)

namespace Method

/-- `_next_sequence`. -/
def nextSequence : Method UInt32 := do
  modify fun call =>
    { call with
      client := { call.client with sequence := call.client.sequence + 1 } }
  return (← get).client.sequence

/-- The check of a response by `_response`. -/
def checked
    (sequence : UInt32)
    (messageType : MessageType) :
    Option (List UInt8) → Except Raised Frame
  | none => .error Host.Session.timedOut
  | some bytes => do
      let frame ← Frame.decode bytes
      Host.Session.checkResponse sequence messageType frame

/-- `_send` and the `_response` to it. -/
def request (frame : Frame) (messageType : MessageType) : Method Frame := do
  let _ ← frame.encode
  let call ← get
  match call.exchanges with
  | [] => throw Host.Session.disconnected
  | exchange :: rest =>
      let (app, response) := exchange.deliver call.app frame
      set { call with app := app, exchanges := rest }
      checked frame.sequence messageType response

/-- `_hello`, for the nonce the session draws. -/
def hello (nonce : Bytes 16) : Method HelloResponse := do
  let sequence ← nextSequence
  let frame ←
    request (.command .hello sequence (Host.encodeHelloRequest nonce)) .hello
  let hello ← HelloResponse.decode frame.payload
  require (hello.hostNonce = nonce)
    (.runtimeError "device HELLO nonce does not match")
  return hello

/-- `_query_capabilities`. -/
def queryCapabilities : Method CapabilitiesResponse := do
  let sequence ← nextSequence
  let frame ←
    request (.command .getCapabilities sequence []) .getCapabilities
  CapabilitiesResponse.decode frame.payload

/-- `BridgeDeviceClient.__init__`. -/
def init (nonce : Bytes 16) : Method Unit := do
  let _ ← hello nonce
  let _ ← queryCapabilities

/-- `_read_config`. -/
def readConfig : Method AcquisitionConfigV2 := do
  let sequence ← nextSequence
  let frame ← request (.command .getConfig sequence []) .getConfig
  AcquisitionConfigV2.decode frame.payload

/-- The assignment of `_device_config`. -/
def cache (config : AcquisitionConfigV2) : Method Unit :=
  modify fun call =>
    { call with client := { call.client with deviceConfig := some config } }

/-- The configuration `apply_config` takes for the current one. -/
def currentConfig : Method AcquisitionConfigV2 := do
  match (← get).client.deviceConfig with
  | some config => return config
  | none =>
      let config ← readConfig
      cache config
      return config

/-- `_ack`. -/
def ack
    (frame : Frame)
    (requestId : Bytes 16) :
    Method Unit := do
  let response ← request frame .ack
  let ack ← Ack.decode response.payload
  require (ack.requestId = requestId ∧ ack.ackedType = frame.messageType.code)
    (.runtimeError ("device ACK does not match " ++ frame.messageType.name))

/-- The SET_CONFIG of `apply_config`, for the request identity it draws. -/
def setConfig
    (config : AcquisitionConfigV2)
    (requestId : Bytes 16)
    (expected : Bytes 32) :
    Method Unit := do
  let sequence ← nextSequence
  let payload ← SetConfigRequest.encode ⟨requestId, expected, config⟩
  ack (.command .setConfig sequence payload) requestId

/-- `apply_config`. -/
def applyConfig
    (config : AcquisitionConfigV2)
    (requestId : Bytes 16) :
    Method AcquisitionConfigV2 := do
  let current ← currentConfig
  setConfig config requestId current.profileSha256
  let readback ← readConfig
  cache readback
  return readback

/-- The command of any other method of the client. -/
def command
    (messageType responseType : MessageType)
    (payload : List UInt8) :
    Method Unit := do
  let sequence ← nextSequence
  let _ ← request (.command messageType sequence payload) responseType

/-- What a method returns, and what it leaves. -/
def perform
    {Result : Type}
    (method : Method Result)
    (call : Call) :
    Except Raised Result × Call :=
  (ExceptT.run method).run call

end Method

/-- The message types of the methods that neither open a session nor
configure. -/
abbrev OtherCommand :=
  {messageType : MessageType //
    messageType ≠ .hello ∧ messageType ≠ .setConfig}

/-- The host and the board. There is a client while the reconnecting client
publishes a session. -/
structure Joint where
  app : App
  client : Option Client

namespace Joint

/-- What happens to the host and the board. -/
inductive Input where
  | background (event : Background)
  | disconnect
  | connect (nonce : Bytes 16) (exchanges : List Exchange)
  | applyConfig
      (config : AcquisitionConfigV2)
      (requestId : Bytes 16)
      (exchanges : List Exchange)
  | command
      (messageType : OtherCommand)
      (responseType : MessageType)
      (payload : List UInt8)
      (exchanges : List Exchange)

/-- Whether `ReconnectableBridgeDeviceClient` gives the session up. -/
def lost {Result : Type} : Except Raised Result → Bool
  | .error raised => raised.isA .osError
  | .ok _ => false

/-- What `ReconnectableBridgeDeviceClient` returns for a method. -/
def invoked {Result : Type} (result : Except Raised Result) :
    Except Raised Result :=
  if lost result then
    .error ⟨.deviceUnavailable, "bridge session was lost"⟩
  else
    result

/-- A method invoked on the published session. -/
def invoke
    {Result : Type}
    (joint : Joint)
    (method : Method Result)
    (exchanges : List Exchange) :
    Joint × Except Raised Result :=
  match joint.client with
  | none =>
      (joint, .error ⟨.deviceUnavailable, "bridge device is not connected"⟩)
  | some client =>
      let (result, call) := method.perform ⟨joint.app, client, exchanges⟩
      ({ app := call.app
         client := if lost result then none else some call.client },
        invoked result)

/-- A new session, which replaces the one before it when its client has been
built. A bridge keeps one connection, so that of the client before it is
closed. -/
def connect
    (joint : Joint)
    (nonce : Bytes 16)
    (exchanges : List Exchange) :
    Joint :=
  match (Method.init nonce).perform ⟨joint.app, ⟨0, none⟩, exchanges⟩ with
  | (.ok _, call) => { app := call.app, client := some call.client }
  | (.error _, call) => { app := call.app, client := none }

/-- The host and the board as a machine, with the result of `apply_config`. -/
def machine : Machine Joint Input (Option (Except Raised AcquisitionConfigV2))
    where
  step joint
    | .background event =>
        ({ joint with app := event.perform joint.app }, none)
    | .disconnect => ({ joint with client := none }, none)
    | .connect nonce exchanges => (joint.connect nonce exchanges, none)
    | .applyConfig config requestId exchanges =>
        let (next, result) :=
          joint.invoke (Method.applyConfig config requestId) exchanges
        (next, some result)
    | .command messageType responseType payload exchanges =>
        ((joint.invoke (Method.command messageType.val responseType payload)
          exchanges).1, none)

/-- The host before any session, and the board after its boot. -/
def started
    (deviceId : Bytes 16)
    (result : ConfigResult)
    (devStat : UInt8) :
    Joint where
  app := App.boot deviceId result devStat
  client := none

end Joint

end Usac.Link
