import Usac.Bridge.Spool
import Usac.Host.BridgeMessages

namespace Usac.Bridge

open Library Host

/-!
# A bridge session

`proxy_bridge_session`: the serial loop and the core reader, two threads that
share the spool, a stop flag, the events of the deliveries in flight and the
queue of deferred commands. A step of the session is one step of one thread, and
what the call in that step meets is part of the scheduling choice, so every
interleaving with every device, every core and every failure is a list of
choices.

The sections under `send_lock`, `pending_lock` and `forwarding_lock` make at
most one call and are one step each. The section under `serial_write_lock`
writes a frame in several calls, so this lock has an owner.
-/

/-- The threads of a session. -/
inductive Thread where
  | serialLoop
  | coreReader
  deriving Repr, DecidableEq

/-- What the call of a step meets. A write takes some bytes and returns, or
takes some and raises. -/
inductive Meets where
  | returns
  | reads (chunk : List UInt8)
  | writes (count : Nat)
  | clock (utcNs : Int)
  | expires
  | raises (raised : Raised) (count : Nat)
  deriving Repr, DecidableEq

/-- The thread that takes the next step, and what it meets. -/
structure Choice where
  thread : Thread
  meets : Meets
  deriving Repr, DecidableEq

/-- A call of `deliver_pending`. In a replay `rest` is what is left of the
batch. -/
structure Delivery where
  pending : PendingCapture
  sequence : UInt32
  rest : Option (List PendingCapture)
  deriving DecidableEq

/-- Where the serial loop is. -/
inductive SerialLoop where
  | looping
  | assembling (raw : List UInt8)
  | reading (raw : List UInt8)
  | forwarding (frame : Frame)
  | storing (frame : Frame) (raw : List UInt8) (firstOffset : Int)
  | draining
  | registering (delivery : Delivery)
  | handing (delivery : Delivery) (event : Nat)
  | awaiting (delivery : Delivery) (event : Nat)
  | releasing (delivery : Delivery)
  | acquiring
  | enabling
  | flushing (offset : Nat) (queued : List (List UInt8))
  | unwinding (raised : Option Raised)
  | ended
  deriving DecidableEq

/-- Where the core reader is. -/
inductive CoreReader where
  | looping
  | receiving (raw : List UInt8)
  | committing (sequence : UInt32) (receipt : CaptureCommittedRequest)
  | responding
      (sequence : UInt32)
      (receipt : CaptureCommittedRequest)
      (disposition : Disposition)
  | finding (recordId : Int)
  | setting (event : Nat)
  | offering (raw : List UInt8)
  | acquiring (raw : List UInt8)
  | writing (raw : List UInt8) (offset : Nat)
  | failing (raised : Raised)
  | ended
  deriving DecidableEq

/-- The local variables of `proxy_bridge_session`. An event is a number, and
`setEvents` holds those that are set. -/
structure ProxySession where
  connectionId : Int
  sourceConnectionId : Int
  spool : Spool
  streamOffset : Int
  stop : Bool
  pendingEvents : List (Int × Nat)
  nextEvent : Nat
  setEvents : List Nat
  forwardingEnabled : Bool
  deferredCommands : List (List UInt8)
  serialWriteLock : Option Thread
  workerError : List Raised
  serialLoop : SerialLoop
  coreReader : CoreReader

/-- A part of a frame that has reached the port. -/
structure Chunk where
  frame : List UInt8
  offset : Nat
  count : Nat
  deriving Repr, DecidableEq

/-- What a step shows outside. -/
inductive Shown where
  | silent
  | heard (frame : Frame)
  | drained
  | received (frame : Frame) (raw : List UInt8)
  | sent (frame : Frame)
  | marked (receipt : Receipt) (disposition : Disposition)
  | wrote (chunk : Chunk) (failed : Bool)
  deriving DecidableEq

/-- `_DEVICE_REQUESTS`. -/
def deviceRequests : List MessageType :=
  [.hello, .getCapabilities, .getConfig, .setConfig, .captureOnce,
    .startPeriodic, .stop, .getStatus, .renewPeriodicLease]

/-- The bytes of a frame, as far as what has been read of it tells. -/
def expectedSize (raw : List UInt8) : Nat :=
  if raw.length < Frame.headerSize then
    Frame.headerSize
  else
    Frame.headerSize + (readU32 raw 12).toNat + Frame.crcSize

/-- One round of the loops in `_socket_frame` and `_serial_frame`: the bytes
read so far, and the frame once it is complete. -/
def assemble
    (source : String)
    (raw chunk : List UInt8) :
    Except Raised (List UInt8 × Option Frame) := do
  let raw := raw ++ chunk.take (expectedSize raw - raw.length)
  require (raw.length < Frame.headerSize ∨
      (readU32 raw 12).toNat ≤ Frame.hostMaxPayloadLength)
    (.valueError (source ++ " frame exceeds host payload limit"))
  if raw.length < expectedSize raw then
    pure (raw, none)
  else do
    let frame ← Frame.decode raw
    pure (raw, some frame)

/-- `struct.pack` of an integer as an unsigned 64-bit word. -/
def packWord (value : Int) : Except Raised UInt64 := do
  require (0 ≤ value ∧ value < 2 ^ 64)
    ⟨.structError, "argument out of range"⟩
  pure value.toNat.toUInt64

/-- The code of a disposition on the wire. -/
def Disposition.code : Disposition → UInt8
  | .deleted => 1
  | .alreadyCommitted => 2

/-- The receipt a request carries to the spool. -/
def receiptOf (request : CaptureCommittedRequest) : Receipt where
  recordId := request.spoolRecordId.toNat
  key := {
    deviceId := request.deviceId.toList
    bootId := request.bootId.toList
    captureId := request.captureId.toList
  }
  innerFrameCrc32 := request.innerFrameCrc32.toNat

/-- The frame `core_reader` answers a receipt with. -/
def commitResponse
    (sequence : UInt32)
    (receipt : CaptureCommittedRequest)
    (disposition : Disposition) :
    Except Raised Frame := do
  let payload ← (CaptureCommittedResponse.mk
    receipt.connectionId receipt.spoolRecordId disposition.code).encode
  pure {
    messageType := .captureCommitted
    sequence := sequence
    payload := payload
    flags := Flags.response
    protocolVersion := Frame.currentVersion
  }

/-- The frame `deliver_pending` hands to the core. -/
def deliveryFrame
    (connectionId : Int)
    (pending : PendingCapture)
    (sequence : UInt32) :
    Except Raised Frame := do
  let delivery : BridgeCaptureDelivery := {
    connectionId := ← packWord connectionId
    spoolRecordId := ← packWord pending.recordId
    sourceConnectionId := ← packWord pending.sourceConnectionId
    sourceFirstStreamOffset := ← packWord pending.sourceFirstStreamOffset
    sourceLastStreamOffset := ← packWord pending.sourceLastStreamOffset
    storedUtcNs := ← packWord pending.storedUtcNs
    innerFrame := pending.innerFrame
  }
  let payload ← delivery.encode
  pure {
    messageType := .bridgeCaptureDelivery
    sequence := sequence
    payload := payload
    flags := Flags.async
    protocolVersion := Frame.currentVersion
  }

namespace ProxySession

/-- A session that has just started its reader. -/
def start
    (spool : Spool)
    (connectionId sourceConnectionId : Int) :
    ProxySession where
  connectionId := connectionId
  sourceConnectionId := sourceConnectionId
  spool := spool
  streamOffset := 0
  stop := false
  pendingEvents := []
  nextEvent := 0
  setEvents := []
  forwardingEnabled := false
  deferredCommands := []
  serialWriteLock := none
  workerError := []
  serialLoop := .looping
  coreReader := .looping

variable (session : ProxySession)

/-- The serial loop goes on elsewhere. -/
def toSerial (next : SerialLoop) : ProxySession :=
  { session with serialLoop := next }

/-- The core reader goes on elsewhere. -/
def toReader (next : CoreReader) : ProxySession :=
  { session with coreReader := next }

/-- `send_core`: the frame is sent, unless encoding it raises. -/
def sendCore
    (frame : Except Raised Frame)
    (sent : ProxySession)
    (failed : Raised → ProxySession) :
    ProxySession × Shown :=
  match frame >>= fun frame => frame.encode.map fun _ => frame with
  | .error raised => (failed raised, .silent)
  | .ok frame => (sent, .sent frame)

/-- One call of `write` in `_write_serial`. A call that takes nothing ends the
loop like one that raises. -/
def writeSerial
    (frame : List UInt8)
    (offset : Nat)
    (meets : Meets)
    (written : Nat → ProxySession)
    (failed : Raised → ProxySession) :
    ProxySession × Shown :=
  let chunk (count : Nat) : Chunk :=
    ⟨frame, offset, min count (frame.length - offset)⟩
  match meets with
  | .writes 0 =>
      (failed ⟨.connectionError, "serial write made no progress"⟩,
        .wrote (chunk 0) true)
  | .writes (count + 1) =>
      (written (offset + (chunk (count + 1)).count),
        .wrote (chunk (count + 1)) false)
  | .raises raised count => (failed raised, .wrote (chunk count) true)
  | _ => (session, .silent)

/-- The next delivery of a replay, or the next look at the spool. -/
def continueReplay : List PendingCapture → SerialLoop
  | [] => .draining
  | pending :: rest =>
      .registering ⟨pending, (pending.recordId % 2 ^ 32).toNat.toUInt32,
        some rest⟩

/-- The serial loop's call of `pending_records`. -/
def drain : ProxySession × Shown :=
  match session.spool.pendingRecords 64 with
  | .error raised => (session.toSerial (.unwinding (some raised)), .silent)
  | .ok [] => (session.toSerial .acquiring, .drained)
  | .ok batch => (session.toSerial (continueReplay batch), .silent)

/-- The serial loop's call of `store_capture`. -/
def storeSerial (sequence : UInt32) (request : StoreRequest) : ProxySession :=
  match session.spool.storeCapture request with
  | .error raised => session.toSerial (.unwinding (some raised))
  | .ok (spool, pending) =>
      { session with
        spool := spool
        serialLoop := .registering ⟨pending, sequence, none⟩ }

/-- The end of a round of the serial loop's reading. -/
def readSerial :
    Except Raised (List UInt8 × Option Frame) → ProxySession × Shown
  | .error raised => (session.toSerial (.unwinding (some raised)), .silent)
  | .ok (raw, none) => (session.toSerial (.assembling raw), .silent)
  | .ok (raw, some frame) =>
      ({ session with
          streamOffset := session.streamOffset + raw.length
          serialLoop :=
            if frame.messageType = .captureData then
              .storing frame raw session.streamOffset
            else
              .forwarding frame },
        .heard frame)

/-- A step of the serial loop. -/
def stepSerial (meets : Meets) : ProxySession × Shown :=
  let fail (raised : Raised) := session.toSerial (.unwinding (some raised))
  let release (next : SerialLoop) : ProxySession :=
    { session with serialWriteLock := none, serialLoop := next }
  match session.serialLoop, meets with
  | .looping, _ =>
      (session.toSerial
        (if session.stop then .unwinding none else .assembling []), .silent)
  | .assembling raw, _ =>
      (session.toSerial
        (if session.stop then .unwinding none else .reading raw), .silent)
  | .reading raw, .reads [] => (session.toSerial (.assembling raw), .silent)
  | .reading raw, .reads chunk =>
      session.readSerial (assemble "serial" raw chunk)
  | .reading [], .expires => (session.toSerial (.assembling []), .silent)
  | .reading _, .expires =>
      (fail ⟨.timeoutError, "serial frame assembly timed out"⟩, .silent)
  | .reading _, .raises raised _ => (fail raised, .silent)
  | .forwarding frame, .returns =>
      sendCore (.ok frame)
        (session.toSerial
          (if frame.messageType = .hello ∧
              frame.flags &&& Flags.response ≠ 0 then
            .draining
          else
            .looping))
        fail
  | .forwarding _, .raises raised _ => (fail raised, .silent)
  | .storing frame raw firstOffset, .clock utcNs =>
      (session.storeSerial frame.sequence {
          innerFrame := raw
          sourceConnectionId := session.sourceConnectionId
          sourceFirstStreamOffset := firstOffset
          sourceLastStreamOffset := session.streamOffset - 1
          storedUtcNs := utcNs },
        .silent)
  | .storing _ _ _, .raises raised _ => (fail raised, .silent)
  | .draining, .returns => session.drain
  | .draining, .raises raised _ => (fail raised, .silent)
  | .registering delivery, _ =>
      ({ session with
          pendingEvents :=
            (delivery.pending.recordId, session.nextEvent) ::
              session.pendingEvents.filter fun entry =>
                entry.1 ≠ delivery.pending.recordId
          nextEvent := session.nextEvent + 1
          serialLoop := .handing delivery session.nextEvent },
        .silent)
  | .handing delivery event, .returns =>
      sendCore
        (deliveryFrame session.connectionId delivery.pending delivery.sequence)
        (session.toSerial (.awaiting delivery event))
        fail
  | .handing _ _, .raises raised _ => (fail raised, .silent)
  | .awaiting delivery event, meets =>
      if event ∈ session.setEvents then
        (session.toSerial (.releasing delivery), .silent)
      else if meets = .expires then
        (fail ⟨.timeoutError,
          "core did not confirm the capture before timeout"⟩, .silent)
      else
        (session, .silent)
  | .releasing delivery, _ =>
      ({ session with
          pendingEvents := session.pendingEvents.filter fun entry =>
            entry.1 ≠ delivery.pending.recordId
          serialLoop :=
            match delivery.rest with
            | none => .looping
            | some rest => continueReplay rest },
        .silent)
  | .acquiring, _ =>
      if session.serialWriteLock = none then
        ({ session with
            serialWriteLock := some .serialLoop
            serialLoop := .enabling },
          .silent)
      else
        (session, .silent)
  | .enabling, _ =>
      ({ session with
          forwardingEnabled := true
          deferredCommands := []
          serialLoop := .flushing 0 session.deferredCommands },
        .silent)
  | .flushing _ [], _ => (release .looping, .silent)
  | .flushing offset (command :: queued), meets =>
      if offset < command.length then
        session.writeSerial command offset meets
          (fun next => session.toSerial (.flushing next (command :: queued)))
          (fun raised => release (.unwinding (some raised)))
      else
        (session.toSerial (.flushing 0 queued), .silent)
  | .unwinding _, _ =>
      ({ session with stop := true, serialLoop := .ended }, .silent)
  | _, _ => (session, .silent)

/-- Where the core reader goes with a frame it has received. -/
def dispatch (frame : Frame) (raw : List UInt8) : CoreReader :=
  if frame.messageType = .captureCommitted then
    if frame.flags ≠ Flags.none then
      .failing (.valueError "CAPTURE_COMMITTED request has invalid flags")
    else
      match CaptureCommittedRequest.decode frame.payload with
      | .error raised => .failing raised
      | .ok receipt => .committing frame.sequence receipt
  else if frame.flags ≠ Flags.none ∨ frame.messageType ∉ deviceRequests then
    .failing (.valueError "core sent a frame that cannot be forwarded to the MCU")
  else if frame.messageType ≠ .hello then
    .offering raw
  else
    .acquiring raw

/-- The end of a round of the core reader's reading. -/
def readCore :
    Except Raised (List UInt8 × Option Frame) → ProxySession × Shown
  | .error raised => (session.toReader (.failing raised), .silent)
  | .ok (raw, none) => (session.toReader (.receiving raw), .silent)
  | .ok (raw, some frame) =>
      (session.toReader (dispatch frame raw), .received frame raw)

/-- The core reader's call of `mark_committed`. -/
def commitReader
    (sequence : UInt32)
    (receipt : CaptureCommittedRequest) :
    ProxySession × Shown :=
  match session.spool.markCommitted (receiptOf receipt) with
  | .error raised => (session.toReader (.failing raised), .silent)
  | .ok (spool, disposition) =>
      ({ session with
          spool := spool
          coreReader := .responding sequence receipt disposition },
        .marked (receiptOf receipt) disposition)

/-- Where the core reader goes with the event of a record. -/
def find : Option Nat → CoreReader
  | none =>
      .failing (.valueError
        "commit receipt does not match an in-flight delivery")
  | some event => .setting event

/-- The end of a session with too many deferred commands. -/
def tooManyCommands : Raised :=
  .runtimeError "too many commands arrived during spool replay"

/-- A step of the core reader. -/
def stepReader (meets : Meets) : ProxySession × Shown :=
  let fail (raised : Raised) := session.toReader (.failing raised)
  let release (next : CoreReader) : ProxySession :=
    { session with serialWriteLock := none, coreReader := next }
  match session.coreReader, meets with
  | .looping, _ =>
      (session.toReader (if session.stop then .ended else .receiving []),
        .silent)
  | .receiving _, .reads [] =>
      (fail ⟨.connectionError, "core closed the bridge connection"⟩, .silent)
  | .receiving raw, .reads chunk =>
      session.readCore (assemble "core" raw chunk)
  | .receiving _, .raises raised _ => (fail raised, .silent)
  | .committing sequence receipt, .returns =>
      session.commitReader sequence receipt
  | .committing _ _, .raises raised _ => (fail raised, .silent)
  | .responding sequence receipt disposition, .returns =>
      sendCore (commitResponse sequence receipt disposition)
        (session.toReader (.finding (receiptOf receipt).recordId))
        fail
  | .responding _ _ _, .raises raised _ => (fail raised, .silent)
  | .finding recordId, _ =>
      (session.toReader (find (session.pendingEvents.lookup recordId)),
        .silent)
  | .setting event, _ =>
      ({ session with
          setEvents := event :: session.setEvents
          coreReader := .looping },
        .silent)
  | .offering raw, _ =>
      if session.forwardingEnabled then
        (session.toReader (.acquiring raw), .silent)
      else if 8 ≤ session.deferredCommands.length then
        (fail tooManyCommands, .silent)
      else
        ({ session with
            deferredCommands := session.deferredCommands ++ [raw]
            coreReader := .looping },
          .silent)
  | .acquiring raw, _ =>
      if session.serialWriteLock = none then
        ({ session with
            serialWriteLock := some .coreReader
            coreReader := .writing raw 0 },
          .silent)
      else
        (session, .silent)
  | .writing raw offset, meets =>
      if offset < raw.length then
        session.writeSerial raw offset meets
          (fun next => session.toReader (.writing raw next))
          (fun raised => release (.failing raised))
      else
        (release .looping, .silent)
  | .failing raised, _ =>
      ({ session with
          workerError :=
            if raised.isA .connectionError then
              session.workerError
            else
              session.workerError ++ [raised]
          stop := true
          coreReader := .ended },
        .silent)
  | _, _ => (session, .silent)

/-- The session as a machine. -/
def machine : Machine ProxySession Choice Shown where
  step session choice :=
    match choice.thread with
    | .serialLoop => session.stepSerial choice.meets
    | .coreReader => session.stepReader choice.meets

/-- A frame without a payload on the wire. -/
def wire
    (messageType : MessageType)
    (sequence : UInt32)
    (flags : UInt16) :
    List UInt8 :=
  (Frame.mk messageType sequence [] flags
    Frame.currentVersion).encode.toOption.getD []

/-- An event of a session. -/
abbrev Step := Event ProxySession Choice Shown

end ProxySession

end Usac.Bridge
