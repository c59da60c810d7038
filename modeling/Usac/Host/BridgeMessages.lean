import Usac.Host.CaptureData

namespace Usac.Host

open Library

/-!
# Bridge messages

The codecs of `bridge_messages.py`: the delivery of one spooled capture from
the bridge to the core, and the receipt the core returns for it.
-/

/-- `BridgeCaptureDelivery`. -/
structure BridgeCaptureDelivery where
  connectionId : UInt64
  spoolRecordId : UInt64
  sourceConnectionId : UInt64
  sourceFirstStreamOffset : UInt64
  sourceLastStreamOffset : UInt64
  storedUtcNs : UInt64
  innerFrame : List UInt8
  deriving Repr, DecidableEq

namespace BridgeCaptureDelivery

/-- The size of the fields before the inner frame. -/
def prefixSize : Nat := 56

/-- The checks of `encode_bridge_capture_delivery`. The first and the last
stream offset are compared as the integers they are in Python. -/
def validate (message : BridgeCaptureDelivery) : Except Raised Unit := do
  require (208 ≤ message.innerFrame.length ∧ message.innerFrame.length ≤ 4652)
    (.valueError "delivery inner frame length is outside CAPTURE_DATA bounds")
  require
    ((message.sourceLastStreamOffset.toNat : Int) -
        message.sourceFirstStreamOffset.toNat + 1 =
      message.innerFrame.length)
    (.valueError "delivery source offsets do not cover the inner frame")
  let inner ← Frame.decode message.innerFrame
  require (inner.messageType = .captureData)
    (.valueError "delivery inner frame must be CAPTURE_DATA")

/-- `encode_bridge_capture_delivery`. -/
def encode (message : BridgeCaptureDelivery) : Except Raised (List UInt8) := do
  message.validate
  pure (writeU64 message.connectionId ++ writeU64 message.spoolRecordId ++
    writeU64 message.sourceConnectionId ++
    writeU64 message.sourceFirstStreamOffset ++
    writeU64 message.sourceLastStreamOffset ++
    writeU64 message.storedUtcNs ++
    writeU32 message.innerFrame.length.toUInt32 ++
    writeU32 (Frame.crc32IsoHdlc message.innerFrame) ++ message.innerFrame)

/-- `decode_bridge_capture_delivery`. -/
def decode (data : List UInt8) : Except Raised BridgeCaptureDelivery := do
  require (prefixSize ≤ data.length)
    (.valueError "BRIDGE_CAPTURE_DELIVERY payload is truncated")
  require (data.length = prefixSize + (readU32 data 48).toNat)
    (.valueError "delivery inner_frame_length does not match payload")
  let inner := data.drop prefixSize
  require (Frame.crc32IsoHdlc inner = readU32 data 52)
    (.valueError "delivery inner frame CRC does not match")
  let message : BridgeCaptureDelivery := {
    connectionId := readU64 data 0
    spoolRecordId := readU64 data 8
    sourceConnectionId := readU64 data 16
    sourceFirstStreamOffset := readU64 data 24
    sourceLastStreamOffset := readU64 data 32
    storedUtcNs := readU64 data 40
    innerFrame := inner
  }
  message.validate
  pure message

/-- A delivery that can be encoded is decoded to itself. -/
theorem decode_of_encode
    {message : BridgeCaptureDelivery}
    {data : List UInt8}
    (encoded : message.encode = .ok data) :
    decode data = .ok message := by
  obtain ⟨⟨⟩, valid, encoded⟩ := bind_eq_ok.1 encoded
  obtain rfl := Except.ok.inj encoded
  have checks := valid
  obtain ⟨⟨⟩, bounds, -⟩ := bind_eq_ok.1 checks
  have short : message.innerFrame.length < 2 ^ 32 := by
    have := require_eq_ok.1 bounds
    omega
  have announced : message.innerFrame.length.toUInt32.toNat =
      message.innerFrame.length := by
    rw [Nat.toUInt32_eq, UInt32.toNat_ofNat', Nat.mod_eq_of_lt short]
  let head :=
    writeU64 message.connectionId ++ writeU64 message.spoolRecordId ++
      writeU64 message.sourceConnectionId ++
      writeU64 message.sourceFirstStreamOffset ++
      writeU64 message.sourceLastStreamOffset ++
      writeU64 message.storedUtcNs ++
      writeU32 message.innerFrame.length.toUInt32 ++
      writeU32 (Frame.crc32IsoHdlc message.innerFrame)
  have headLength : head.length = 56 := by simp [head]
  have dropped : (head ++ message.innerFrame).drop 56 = message.innerFrame :=
    List.drop_left' headLength
  have length :
      (head ++ message.innerFrame).length = 56 + message.innerFrame.length := by
    rw [List.length_append, headLength]
  have fields :
      readU64 (head ++ message.innerFrame) 0 = message.connectionId ∧
        readU64 (head ++ message.innerFrame) 8 = message.spoolRecordId ∧
        readU64 (head ++ message.innerFrame) 16 = message.sourceConnectionId ∧
        readU64 (head ++ message.innerFrame) 24 =
          message.sourceFirstStreamOffset ∧
        readU64 (head ++ message.innerFrame) 32 =
          message.sourceLastStreamOffset ∧
        readU64 (head ++ message.innerFrame) 40 = message.storedUtcNs ∧
        readU32 (head ++ message.innerFrame) 48 =
          message.innerFrame.length.toUInt32 ∧
        readU32 (head ++ message.innerFrame) 52 =
          Frame.crc32IsoHdlc message.innerFrame := by
    simp [head, readU64_append_right, readU64_writeU64, readU32_append_right,
      readU32_writeU32]
  obtain ⟨connection, record, source, first, last, stored, size, crc⟩ := fields
  have reaches : 56 ≤ 56 + message.innerFrame.length := by omega
  show decode (head ++ message.innerFrame) = .ok message
  simp only [decode, prefixSize, dropped, length, connection, record, source,
    first, last, stored, size, crc, announced, reaches, require_true, ok_bind,
    valid]
  rfl

end BridgeCaptureDelivery

/-- `CaptureCommittedRequest`. -/
structure CaptureCommittedRequest where
  connectionId : UInt64
  spoolRecordId : UInt64
  deviceId : Bytes 16
  bootId : Bytes 16
  captureId : Bytes 16
  innerFrameCrc32 : UInt32
  deriving DecidableEq

namespace CaptureCommittedRequest

/-- `encode_capture_committed_request`. -/
def encode (message : CaptureCommittedRequest) : List UInt8 :=
  writeU64 message.connectionId ++ writeU64 message.spoolRecordId ++
    message.deviceId.toList ++ message.bootId.toList ++
    message.captureId.toList ++ writeU32 message.innerFrameCrc32

/-- `decode_capture_committed_request`. -/
def decode (data : List UInt8) : Except Raised CaptureCommittedRequest := do
  require (data.length = 68)
    (.valueError "CAPTURE_COMMITTED request payload must be 68 bytes")
  pure {
    connectionId := readU64 data 0
    spoolRecordId := readU64 data 8
    deviceId := slice data 16 16
    bootId := slice data 32 16
    captureId := slice data 48 16
    innerFrameCrc32 := readU32 data 64
  }

/-- A receipt is decoded to itself. -/
theorem decode_encode (message : CaptureCommittedRequest) :
    decode message.encode = .ok message := by
  simp [decode, encode, readU64_append_right, readU64_writeU64,
    slice_append_right, slice_append_left, readU32_append_right,
    readU32_writeU32_last]

end CaptureCommittedRequest

/-- `CaptureCommittedResponse`. -/
structure CaptureCommittedResponse where
  connectionId : UInt64
  spoolRecordId : UInt64
  disposition : UInt8
  deriving DecidableEq

namespace CaptureCommittedResponse

/-- `encode_capture_committed_response`. -/
def encode (message : CaptureCommittedResponse) : Except Raised (List UInt8) := do
  require (message.disposition = 1 ∨ message.disposition = 2)
    (.valueError "CAPTURE_COMMITTED disposition must be 1 or 2")
  pure (writeU64 message.connectionId ++ writeU64 message.spoolRecordId ++
    [message.disposition] ++ List.replicate 7 0)

/-- `decode_capture_committed_response`. -/
def decode (data : List UInt8) : Except Raised CaptureCommittedResponse := do
  require (data.length = 24)
    (.valueError "CAPTURE_COMMITTED response payload must be 24 bytes")
  require (slice data 17 7 = Bytes.zero 7)
    (.valueError "CAPTURE_COMMITTED response reserved bytes must be zero")
  pure {
    connectionId := readU64 data 0
    spoolRecordId := readU64 data 8
    disposition := byteAt data 16
  }

/-- A response that can be encoded is decoded to itself. -/
theorem decode_of_encode
    {message : CaptureCommittedResponse}
    {data : List UInt8}
    (encoded : message.encode = .ok data) :
    decode data = .ok message := by
  obtain ⟨⟨⟩, -, encoded⟩ := bind_eq_ok.1 encoded
  obtain rfl := Except.ok.inj encoded
  have reserved :
      slice [message.disposition, 0, 0, 0, 0, 0, 0, 0] 1 7 = Bytes.zero 7 :=
    rfl
  simp [decode, readU64_append_right, readU64_writeU64, slice_append_right,
    byteAt_append_right, reserved]
  rfl

end CaptureCommittedResponse

end Usac.Host
