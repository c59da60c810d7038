import Usac.Host.Raised
import Usac.Library.Crc32

namespace Usac.Host

open Library

/-!
# Frames of the host

The complete-frame codec of `frame.py`. The host accepts longer payloads than
the microcontroller and names the message types, so a frame of an unknown type
is refused here already.
-/

/-- `MessageType`. -/
inductive MessageType where
  | hello
  | getCapabilities
  | getConfig
  | setConfig
  | captureOnce
  | startPeriodic
  | stop
  | getStatus
  | readRegister
  | writeRegister
  | resetDevice
  | renewPeriodicLease
  | runIo2LoopbackTest
  | captureData
  | bridgeHello
  | bridgeHeartbeat
  | coreChallenge
  | bridgeDiagnostic
  | bridgeCaptureDelivery
  | captureCommitted
  | bridgeSpoolStatus
  | requestAttached
  | ack
  | error
  deriving Repr, DecidableEq

namespace MessageType

/-- The code of a message type on the wire. -/
def code : MessageType → UInt8
  | hello => 0x01
  | getCapabilities => 0x02
  | getConfig => 0x03
  | setConfig => 0x04
  | captureOnce => 0x05
  | startPeriodic => 0x06
  | stop => 0x07
  | getStatus => 0x08
  | readRegister => 0x09
  | writeRegister => 0x0A
  | resetDevice => 0x0B
  | renewPeriodicLease => 0x0C
  | runIo2LoopbackTest => 0x0E
  | captureData => 0x40
  | bridgeHello => 0x70
  | bridgeHeartbeat => 0x71
  | coreChallenge => 0x72
  | bridgeDiagnostic => 0x73
  | bridgeCaptureDelivery => 0x74
  | captureCommitted => 0x75
  | bridgeSpoolStatus => 0x76
  | requestAttached => 0x7D
  | ack => 0x7E
  | error => 0x7F

/-- The name of a message type. -/
def name : MessageType → String
  | hello => "HELLO"
  | getCapabilities => "GET_CAPABILITIES"
  | getConfig => "GET_CONFIG"
  | setConfig => "SET_CONFIG"
  | captureOnce => "CAPTURE_ONCE"
  | startPeriodic => "START_PERIODIC"
  | stop => "STOP"
  | getStatus => "GET_STATUS"
  | readRegister => "READ_REGISTER"
  | writeRegister => "WRITE_REGISTER"
  | resetDevice => "RESET_DEVICE"
  | renewPeriodicLease => "RENEW_PERIODIC_LEASE"
  | runIo2LoopbackTest => "RUN_IO2_LOOPBACK_TEST"
  | captureData => "CAPTURE_DATA"
  | bridgeHello => "BRIDGE_HELLO"
  | bridgeHeartbeat => "BRIDGE_HEARTBEAT"
  | coreChallenge => "CORE_CHALLENGE"
  | bridgeDiagnostic => "BRIDGE_DIAGNOSTIC"
  | bridgeCaptureDelivery => "BRIDGE_CAPTURE_DELIVERY"
  | captureCommitted => "CAPTURE_COMMITTED"
  | bridgeSpoolStatus => "BRIDGE_SPOOL_STATUS"
  | requestAttached => "REQUEST_ATTACHED"
  | ack => "ACK"
  | error => "ERROR"

/-- Every message type. -/
def all : List MessageType :=
  [hello, getCapabilities, getConfig, setConfig, captureOnce, startPeriodic,
    stop, getStatus, readRegister, writeRegister, resetDevice,
    renewPeriodicLease, runIo2LoopbackTest, captureData, bridgeHello,
    bridgeHeartbeat, coreChallenge, bridgeDiagnostic, bridgeCaptureDelivery,
    captureCommitted, bridgeSpoolStatus, requestAttached, ack, error]

/-- `MessageType(raw_type)`. -/
def ofCode? (raw : UInt8) : Option MessageType :=
  all.find? fun messageType => messageType.code == raw

/-- Every message type is found under its code. -/
@[simp] theorem ofCode?_code (messageType : MessageType) :
    ofCode? messageType.code = some messageType := by
  cases messageType <;> rfl

end MessageType

namespace Flags

/-! The members of `Flags`. -/

def none : UInt16 := 0
def response : UInt16 := 0x0001
def async : UInt16 := 0x0002
def warning : UInt16 := 0x0004

end Flags

/-- `Frame`. -/
structure Frame where
  messageType : MessageType
  sequence : UInt32
  payload : List UInt8
  flags : UInt16
  protocolVersion : UInt8
  deriving Repr, DecidableEq

/-- The two hexadecimal digits of a byte. -/
def hexByte (byte : UInt8) : List Char :=
  [Nat.digitChar (byte.toNat / 16), Nat.digitChar (byte.toNat % 16)]

/-- `bytes.hex`. -/
def hex (bytes : List UInt8) : String :=
  String.ofList (bytes.flatMap hexByte)

/-- A number in upper-case hexadecimal, padded with zeros to a width. -/
def upperHex (width value : Nat) : String :=
  let digits := (Nat.toDigits 16 value).map Char.toUpper
  String.ofList (List.replicate (width - digits.length) '0' ++ digits)

namespace Frame

/-- `HEADER_SIZE`. -/
def headerSize : Nat := 16

/-- `CRC_SIZE`. -/
def crcSize : Nat := 4

/-- `HOST_MAX_PAYLOAD_LENGTH`. -/
def hostMaxPayloadLength : Nat := 8192

/-- `VALID_FLAGS_MASK`. -/
def validFlagsMask : UInt16 := 0x0007

/-- `MAGIC`. -/
def magic : List UInt8 := [0x55, 0x53, 0x41, 0x43]

/-- `PROTOCOL_VERSION`. -/
def currentVersion : UInt8 := 1

/-- A frame without flags. -/
def command
    (messageType : MessageType)
    (sequence : UInt32)
    (payload : List UInt8) :
    Frame where
  messageType := messageType
  sequence := sequence
  payload := payload
  flags := Flags.none
  protocolVersion := currentVersion

/-- `crc32_iso_hdlc`. -/
def crc32IsoHdlc (data : List UInt8) : UInt32 :=
  Crc32.checksum data

/-- `_validate_frame_fields`. The type of a sequence bounds it already. -/
def validateFields (frame : Frame) : Except Raised Unit := do
  require (frame.protocolVersion = currentVersion)
    (.valueError "unsupported protocol version")
  require (frame.flags &&& ~~~validFlagsMask = 0)
    (.valueError "reserved flag bits must be zero")
  require (frame.payload.length ≤ hostMaxPayloadLength)
    (.valueError "payload exceeds host maximum")

/-- The header of a frame behind its magic. -/
def header (frame : Frame) : List UInt8 :=
  [frame.protocolVersion, frame.messageType.code] ++ writeU16 frame.flags ++
    writeU32 frame.sequence ++ writeU32 frame.payload.length.toUInt32

/-- `encode_frame`. -/
def encode (frame : Frame) : Except Raised (List UInt8) := do
  frame.validateFields
  pure (magic ++ frame.header ++ frame.payload ++
    writeU32 (crc32IsoHdlc (frame.header ++ frame.payload)))

/-- A command with a short payload is encoded. -/
theorem encode_command
    {payload : List UInt8}
    (short : payload.length ≤ hostMaxPayloadLength)
    (messageType : MessageType)
    (sequence : UInt32) :
    (command messageType sequence payload).encode =
      .ok (magic ++ (command messageType sequence payload).header ++ payload ++
        writeU32 (crc32IsoHdlc
          ((command messageType sequence payload).header ++ payload))) := by
  have valid :
      (command messageType sequence payload).validateFields = .ok () := by
    simp only [validateFields, bind_eq_ok, require_eq_ok]
    exact ⟨(), rfl, (), UInt16.zero_and, short⟩
  rw [encode, valid]
  rfl

/-- The `CrcMismatchError` of a frame. -/
def crcMismatch (expectedCrc actualCrc : UInt32) : Raised where
  kind := .crcMismatchError
  text :=
    "CRC mismatch: expected 0x" ++ upperHex 8 expectedCrc.toNat ++
      ", calculated 0x" ++ upperHex 8 actualCrc.toNat

/-- `decode_frame`. -/
def decode (data : List UInt8) : Except Raised Frame := do
  require (headerSize + crcSize ≤ data.length)
    (.protocolError "frame is truncated")
  require (data.take 4 = magic) (.protocolError "invalid magic")
  let payloadLength := (readU32 data 12).toNat
  require (payloadLength ≤ hostMaxPayloadLength)
    (.protocolError "payload exceeds host maximum")
  require (data.length = headerSize + payloadLength + crcSize)
    (.protocolError "frame length does not match header")
  match MessageType.ofCode? (byteAt data 5) with
  | none => .error (.protocolError "unsupported message type")
  | some messageType =>
      let frame : Frame := {
        messageType := messageType
        sequence := readU32 data 8
        payload := (data.drop headerSize).take payloadLength
        flags := readU16 data 6
        protocolVersion := byteAt data 4
      }
      frame.validateFields
      let expectedCrc := readU32 data (headerSize + payloadLength)
      let actualCrc := crc32IsoHdlc ((data.drop 4).take (12 + payloadLength))
      require (actualCrc = expectedCrc) (crcMismatch expectedCrc actualCrc)
      pure frame

/-- The field checks raise a `ValueError`. -/
theorem validateFields_neverRaises (frame : Frame) :
    NeverRaises .runtimeError frame.validateFields :=
  .bind (.require (by decide)) fun _ =>
    .bind (.require (by decide)) fun _ => .require (by decide)

/-- Decoding raises a `ProtocolError` or a `ValueError`. -/
theorem decode_neverRaises (data : List UInt8) :
    NeverRaises .runtimeError (decode data) := by
  refine .bind (.require (by decide)) fun _ => ?_
  refine .bind (.require (by decide)) fun _ => ?_
  refine .bind (.require (by decide)) fun _ => ?_
  refine .bind (.require (by decide)) fun _ => ?_
  rcases MessageType.ofCode? (byteAt data 5) with _ | messageType
  · exact .error (by decide)
  · refine .bind (validateFields_neverRaises _) fun _ => ?_
    refine .bind (.require ?_) fun _ => .ok _
    simp [crcMismatch]

/-- A frame that can be encoded is decoded to itself. -/
theorem decode_of_encode
    {frame : Frame}
    {data : List UInt8}
    (encoded : frame.encode = .ok data) :
    decode data = .ok frame := by
  obtain ⟨⟨⟩, valid, encoded⟩ := bind_eq_ok.1 encoded
  obtain rfl := Except.ok.inj encoded
  have checks := valid
  obtain ⟨⟨⟩, -, checks⟩ := bind_eq_ok.1 checks
  obtain ⟨⟨⟩, -, checks⟩ := bind_eq_ok.1 checks
  have short : frame.payload.length ≤ 8192 := require_eq_ok.1 checks
  have announced : frame.payload.length.toUInt32.toNat =
      frame.payload.length := by
    rw [Nat.toUInt32_eq, UInt32.toNat_ofNat']
    omega
  let head := magic ++ frame.header
  let checksum := writeU32 (crc32IsoHdlc (frame.header ++ frame.payload))
  have headLength : head.length = 16 := by simp [head, magic, header]
  have headerLength : frame.header.length = 12 := by simp [header]
  have fields (rest : List UInt8) :
      byteAt (head ++ rest) 4 = frame.protocolVersion ∧
        byteAt (head ++ rest) 5 = frame.messageType.code ∧
        readU16 (head ++ rest) 6 = frame.flags ∧
        readU32 (head ++ rest) 8 = frame.sequence ∧
        readU32 (head ++ rest) 12 = frame.payload.length.toUInt32 := by
    refine ⟨rfl, rfl, readU16_writeU16 _ [], readU32_writeU32 _ [], ?_⟩
    exact readU32_writeU32 _ rest
  obtain ⟨version, type, flags, number, size⟩ :=
    fields (frame.payload ++ checksum)
  have length : (head ++ (frame.payload ++ checksum)).length =
      16 + frame.payload.length + 4 := by
    simp only [List.length_append, headLength, checksum, length_writeU32]
    omega
  have opened : (head ++ (frame.payload ++ checksum)).take 4 = magic := rfl
  have payload : ((head ++ (frame.payload ++ checksum)).drop 16).take
      frame.payload.length = frame.payload := by
    rw [List.drop_left' headLength]
    exact List.take_left' rfl
  have covered : ((head ++ (frame.payload ++ checksum)).drop 4).take
      (12 + frame.payload.length) = frame.header ++ frame.payload := by
    have dropped : (head ++ (frame.payload ++ checksum)).drop 4 =
        (frame.header ++ frame.payload) ++ checksum := by
      simp only [head, List.append_assoc]
      exact List.drop_left' rfl
    rw [dropped]
    refine List.take_left' ?_
    rw [List.length_append, headerLength]
  have sealed : readU32 (head ++ (frame.payload ++ checksum))
      (16 + frame.payload.length) =
        crc32IsoHdlc (frame.header ++ frame.payload) := by
    rw [readU32_append_right (by omega), headLength, Nat.add_sub_cancel_left,
      readU32_append_right le_rfl, Nat.sub_self]
    exact readU32_writeU32_last _
  have whole : magic ++ frame.header ++ frame.payload ++ checksum =
      head ++ (frame.payload ++ checksum) := by
    simp only [head, List.append_assoc]
  show decode (magic ++ frame.header ++ frame.payload ++ checksum) = .ok frame
  rw [whole]
  have enough : 16 + 4 ≤ 16 + frame.payload.length + 4 := by omega
  simp only [decode, headerSize, crcSize, hostMaxPayloadLength, length, opened,
    size, announced, type, MessageType.ofCode?_code, version, flags, number,
    payload, covered, sealed, enough, short, require_true, ok_bind, valid]
  rfl

end Frame

end Usac.Host
