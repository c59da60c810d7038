import Usac.Host.Frame
import Usac.Library.Segments

namespace Usac.Host

open Library

/-!
# The frame format

Decoding a frame and encoding it are inverse to each other: every byte of a
frame that is accepted is determined by the frame it is decoded to.
-/

/-- A byte string is decoded to a message exactly when the message is encoded
to it. -/
def Exact
    {Message : Type}
    (encode : Message → Except Raised (List UInt8))
    (decode : List UInt8 → Except Raised Message)
    (data : List UInt8) :
    Prop :=
  ∀ message, decode data = .ok message ↔ encode message = .ok data

namespace MessageType

/-- A message type is found under its own code only. -/
theorem code_of_ofCode?
    {raw : UInt8}
    {messageType : MessageType}
    (known : ofCode? raw = some messageType) :
    messageType.code = raw := by
  unfold ofCode? at known
  have same := List.find?_some known
  exact beq_iff_eq.1 same

end MessageType

namespace Frame

/-- The fields a frame is read from. -/
def read (data : List UInt8) (messageType : MessageType) : Frame where
  messageType := messageType
  sequence := readU32 data 8
  payload := (data.drop headerSize).take (readU32 data 12).toNat
  flags := readU16 data 6
  protocolVersion := byteAt data 4

/-- What has been checked of a frame that is decoded. -/
structure Accepted (data : List UInt8) (frame : Frame) : Prop where
  opens : data.take 4 = magic
  sized :
    data.length = headerSize + (readU32 data 12).toNat + crcSize
  read : ∃ messageType,
    MessageType.ofCode? (byteAt data 5) = some messageType ∧
      frame = read data messageType
  valid : frame.validateFields = .ok ()
  crc :
    crc32IsoHdlc ((data.drop 4).take (12 + (readU32 data 12).toNat)) =
      readU32 data (headerSize + (readU32 data 12).toNat)

theorem accepted_of_decode
    {data : List UInt8}
    {frame : Frame}
    (decoded : decode data = .ok frame) :
    Accepted data frame := by
  obtain ⟨⟨⟩, _, decoded⟩ := bind_eq_ok.1 decoded
  obtain ⟨⟨⟩, opens, decoded⟩ := bind_eq_ok.1 decoded
  obtain ⟨⟨⟩, _, decoded⟩ := bind_eq_ok.1 decoded
  obtain ⟨⟨⟩, sized, decoded⟩ := bind_eq_ok.1 decoded
  split at decoded
  · cases decoded
  · next messageType known =>
      obtain ⟨⟨⟩, valid, decoded⟩ := bind_eq_ok.1 decoded
      obtain ⟨⟨⟩, crc, decoded⟩ := bind_eq_ok.1 decoded
      cases decoded
      exact {
        opens := require_eq_ok.1 opens
        sized := require_eq_ok.1 sized
        read := ⟨messageType, known, rfl⟩
        valid := valid
        crc := require_eq_ok.1 crc
      }

/-- A frame that is decoded is encoded to the same bytes. -/
theorem encode_of_decode
    {data : List UInt8}
    {frame : Frame}
    (decoded : decode data = .ok frame) :
    frame.encode = .ok data := by
  obtain ⟨opens, sized, ⟨messageType, known, rfl⟩, valid, crc⟩ :=
    accepted_of_decode decoded
  have total : data.length = 16 + (readU32 data 12).toNat + 4 := sized
  have payload :
      (read data messageType).payload =
        segment data 16 (readU32 data 12).toNat :=
    rfl
  have payloadLength :
      (read data messageType).payload.length.toUInt32 = readU32 data 12 := by
    rw [payload, length_segment (by omega)]
    exact UInt32.ofNat_toNat
  have code : messageType.code = byteAt data 5 :=
    MessageType.code_of_ofCode? known
  have header : (read data messageType).header = segment data 4 12 := by
    unfold Frame.header
    rw [payloadLength]
    show [byteAt data 4, messageType.code] ++ writeU16 (readU16 data 6) ++
      writeU32 (readU32 data 8) ++ writeU32 (readU32 data 12) = _
    rw [code, writeU16_readU16 (by omega), writeU32_readU32 (by omega),
      writeU32_readU32 (by omega)]
    show [byteAt data 4] ++ [byteAt data 5] ++ _ ++ _ ++ _ = _
    rw [singleton_byteAt (by omega), singleton_byteAt (by omega),
      segment_append 1 rfl, segment_append 2 rfl, segment_append 4 rfl,
      segment_append 4 rfl]
  have covered :
      (read data messageType).header ++ (read data messageType).payload =
        (data.drop 4).take (12 + (readU32 data 12).toNat) := by
    rw [header, payload, segment_append _ rfl]
    rfl
  unfold encode
  rw [valid, ok_bind, covered, crc]
  refine congrArg Except.ok ?_
  show magic ++ _ ++ _ ++ writeU32 (readU32 data (16 + _)) = data
  rw [← opens, header, payload, writeU32_readU32 (by omega)]
  show segment data 0 4 ++ _ ++ _ ++ _ = data
  rw [segment_append _ rfl, segment_append _ rfl,
    segment_append _ (by omega), segment_all (by omega)]

/-- Decoding and encoding are inverse to each other. -/
theorem exact (data : List UInt8) : Exact encode decode data :=
  fun _ => ⟨encode_of_decode, decode_of_encode⟩

end Frame

end Usac.Host
