import Mathlib.Algebra.GroupWithZero.Nat
import Usac.Host.BridgeMessages
import Usac.Host.Messages

namespace Usac.Host

open Library

/-!
# The bridge session of the core

The constructor of `BridgeDeviceClient`: it says HELLO, drains the captures the
bridge replays, and asks for the capabilities. The socket is a script of what
its calls will meet, so every way a bridge can behave or die is some script.
-/

/-- What one `recv` meets: bytes, of which none means the end of the stream, or
an exception. -/
inductive Incoming where
  | bytes (chunk : List UInt8)
  | raises (raised : Raised)
  deriving Repr, DecidableEq

/-- A socket. A `sendall` raises the first entry of `sendFailures`, if it is an
exception, and a `recv` that nothing answers times out. -/
structure Connection where
  incoming : List Incoming
  sendFailures : List (Option Raised)
  sent : List (List UInt8)
  deriving Repr, DecidableEq

/-- The resolution of replayed captures: `CaptureStore.commit_replayed_delivery`
as the client uses it. -/
structure ReplayStore where
  commitReplayedDelivery :
    BridgeCaptureDelivery → Except Raised CaptureCommittedRequest

/-- The state of a session that is being set up. -/
structure Session where
  connection : Connection
  sequence : UInt32
  pending : Option (UInt32 × BridgeCaptureDelivery × CaptureData)
  deriving DecidableEq

/-- A `BridgeDeviceClient` whose constructor has returned. -/
structure BridgeDeviceClient where
  session : Session
  hello : HelloResponse
  capabilities : CapabilitiesResponse
  deriving DecidableEq

namespace Session

/-- An operation on the session, which is given up when it raises. -/
abbrev Operation := StateT Session (Except Raised)

/-- The end of a `recv` that nothing answers. -/
def timedOut : Raised := ⟨.timeoutError, "timed out"⟩

/-- The end of a stream within a frame. -/
def disconnected : Raised :=
  ⟨.connectionError, "bridge disconnected during a protocol frame"⟩

/-- The loop of `_read_exact` over the script. -/
def readScript :
    Nat → List Incoming → Except Raised (List UInt8 × List Incoming)
  | 0, incoming => .ok ([], incoming)
  | _ + 1, [] => .error timedOut
  | _ + 1, .raises raised :: _ => .error raised
  | _ + 1, .bytes [] :: _ => .error disconnected
  | size + 1, .bytes chunk :: rest =>
      if size + 1 < chunk.length then
        .ok (chunk.take (size + 1), .bytes (chunk.drop (size + 1)) :: rest)
      else do
        let (more, left) ← readScript (size + 1 - chunk.length) rest
        pure (chunk ++ more, left)

/-- `_read_exact`. -/
def readExact (size : Nat) : Operation (List UInt8) := fun session => do
  let (bytes, left) ← readScript size session.connection.incoming
  pure (bytes,
    { session with
      connection := { session.connection with incoming := left } })

/-- `_receive`. -/
def receive : Operation Frame := do
  let header ← readExact Frame.headerSize
  let payloadLength := (readU32 header 12).toNat
  require (payloadLength ≤ Frame.hostMaxPayloadLength)
    (.valueError "bridge frame exceeds host payload limit")
  let rest ← readExact (payloadLength + Frame.crcSize)
  Frame.decode (header ++ rest)

/-- `sendall`. -/
def sendAll (bytes : List UInt8) : Operation Unit := fun session =>
  match session.connection.sendFailures with
  | some raised :: _ => .error raised
  | failures =>
      pure ((),
        { session with
          connection := {
            session.connection with
            sendFailures := failures.tail
            sent := session.connection.sent ++ [bytes] } })

/-- On an open socket everything is sent. -/
theorem sendAll_run
    {session : Session}
    (opened : session.connection.sendFailures = [])
    (bytes : List UInt8) :
    (sendAll bytes).run session =
      .ok ((),
        { session with
          connection := {
            session.connection with
            sendFailures := []
            sent := session.connection.sent ++ [bytes] } }) := by
  simp only [sendAll, StateT.run, opened]
  rfl

/-- `_send`. -/
def send (frame : Frame) : Operation Unit := do
  let session ← get
  require (session.pending = none ∨ frame.messageType = .captureCommitted)
    (.runtimeError "capture delivery must be committed before another command")
  sendAll (← frame.encode)

/-- `_next_sequence`. -/
def nextSequence : Operation UInt32 := do
  modify fun session => { session with sequence := session.sequence + 1 }
  return (← get).sequence

/-- `_raise_device_error`. -/
def raiseDeviceError (frame : Frame) : Except Raised Unit :=
  if frame.messageType = .error then do
    let error ← ErrorResponse.decode frame.payload
    .error error.raised
  else
    .ok ()

/-- `_accept_delivery`. -/
def acceptDelivery (frame : Frame) : Operation CaptureData := do
  let session ← get
  require (session.pending = none)
    (.runtimeError "a second capture arrived before the first was committed")
  if frame.messageType ≠ .bridgeCaptureDelivery ∨
      frame.flags ≠ Flags.async then
    raiseDeviceError frame
    require False
      (.runtimeError "bridge did not return a durable capture delivery")
  let delivery ← BridgeCaptureDelivery.decode frame.payload
  let inner ← Frame.decode delivery.innerFrame
  let capture ← CaptureData.decode inner.payload
  set { session with pending := some (frame.sequence, delivery, capture) }
  return capture

/-- `_confirm_delivery`. -/
def confirmDelivery
    (sequence : UInt32)
    (delivery : BridgeCaptureDelivery)
    (receipt : CaptureCommittedRequest) :
    Operation Unit := do
  sendAll (← (Frame.command .captureCommitted sequence receipt.encode).encode)
  let frame ← receive
  require (frame.messageType = .captureCommitted ∧
      frame.flags = Flags.response ∧ frame.sequence = sequence)
    (.runtimeError "bridge returned an invalid commit response")
  let response ← CaptureCommittedResponse.decode frame.payload
  require (response.connectionId = delivery.connectionId ∧
      response.spoolRecordId = delivery.spoolRecordId)
    (.runtimeError "bridge commit response does not match pending delivery")

/-- `confirm_capture`. -/
def confirmCapture (receipt : CaptureCommittedRequest) : Operation Unit := do
  match (← get).pending with
  | none =>
      throw (.runtimeError "no bridge capture delivery is pending")
  | some (sequence, delivery, capture) =>
      require (receipt.captureId = capture.captureId)
        (.runtimeError "commit receipt does not match pending capture")
      confirmDelivery sequence delivery receipt
      modify fun session => { session with pending := none }

/-- The branch of `_response` for a replayed capture. The constructor has no
handler for captures of a running acquisition yet. -/
def replay (store : Option ReplayStore) (frame : Frame) : Operation Unit := do
  let _ ← acceptDelivery frame
  match store, (← get).pending with
  | some store, some (_, delivery, _) =>
      confirmCapture (← store.commitReplayedDelivery delivery)
  | _, _ =>
      throw (.runtimeError
        "bridge replay arrived without configured core storage")

/-- The part of `_response` behind the loop. -/
def checkResponse
    (sequence : UInt32)
    (messageType : MessageType)
    (frame : Frame) :
    Except Raised Frame := do
  raiseDeviceError frame
  require (frame.sequence = sequence ∧ frame.messageType = messageType ∧
      frame.flags &&& Flags.response ≠ 0)
    (.runtimeError
      ("bridge returned an unexpected " ++ messageType.name ++ " response"))
  pure frame

/-- The loop of `_response`, for at most a number of frames. -/
def responseWithin
    (store : Option ReplayStore)
    (sequence : UInt32)
    (messageType : MessageType) :
    Nat → Operation Frame
  | 0 => throw timedOut
  | frames + 1 => do
      let frame ← receive
      if frame.messageType = .bridgeCaptureDelivery then
        replay store frame
        responseWithin store sequence messageType frames
      else
        checkResponse sequence messageType frame

/-- The number of bytes a script holds. -/
def available (incoming : List Incoming) : Nat :=
  (incoming.map fun
    | .bytes chunk => chunk.length
    | .raises _ => 0).sum

/-- `_response`. A frame takes bytes from the script, so there are no more
frames than bytes. -/
def response
    (store : Option ReplayStore)
    (sequence : UInt32)
    (messageType : MessageType) :
    Operation Frame := do
  let session ← get
  responseWithin store sequence messageType
    (available session.connection.incoming + 1)

/-- `_hello`, for the nonce the session draws. -/
def hello
    (store : Option ReplayStore)
    (nonce : Bytes 16) :
    Operation HelloResponse := do
  let sequence ← nextSequence
  send (.command .hello sequence (encodeHelloRequest nonce))
  let frame ← response store sequence .hello
  let hello ← HelloResponse.decode frame.payload
  require (hello.hostNonce = nonce)
    (.runtimeError "device HELLO nonce does not match")
  return hello

/-- `_query_capabilities`. -/
def queryCapabilities
    (store : Option ReplayStore) :
    Operation CapabilitiesResponse := do
  let sequence ← nextSequence
  send (.command .getCapabilities sequence [])
  let frame ← response store sequence .getCapabilities
  CapabilitiesResponse.decode frame.payload

end Session

namespace BridgeDeviceClient

/-- `BridgeDeviceClient.__init__` on a connection. -/
def init
    (store : Option ReplayStore)
    (nonce : Bytes 16)
    (connection : Connection) :
    Except Raised BridgeDeviceClient := do
  let fresh : Session := {
    connection := connection
    sequence := 0
    pending := none
  }
  let (hello, greeted) ← (Session.hello store nonce).run fresh
  let (capabilities, session) ←
    (Session.queryCapabilities store).run greeted
  pure {
    session := session
    hello := hello
    capabilities := capabilities
  }

end BridgeDeviceClient

end Usac.Host
