import Usac.Library.Crc32

namespace Usac.Firmware

open Library

/-!
# Bounded frames of the microcontroller

The command frames of `usac_mcu_protocol.c`: the encoder with its capacity
check and the byte-incremental parser. Parser storage is modelled by the bytes
it holds, so `count` is the length of `buffer`; the bytes above `count` are
never read before they are written again.
-/

namespace Message

/-! The message types of the wire protocol. -/

def hello : UInt8 := 0x01
def getCapabilities : UInt8 := 0x02
def getConfig : UInt8 := 0x03
def setConfig : UInt8 := 0x04
def captureOnce : UInt8 := 0x05
def startPeriodic : UInt8 := 0x06
def stop : UInt8 := 0x07
def getStatus : UInt8 := 0x08
def renewPeriodicLease : UInt8 := 0x0C
def runIo2LoopbackTest : UInt8 := 0x0E
def captureData : UInt8 := 0x40
def ack : UInt8 := 0x7E
def error : UInt8 := 0x7F

end Message

namespace Flag

/-! The frame flags of the wire protocol. -/

def response : UInt16 := 0x0001
def async : UInt16 := 0x0002

end Flag

namespace Mcu

/-- `USAC_MCU_RX_RING_SIZE`. -/
def rxRingSize : Nat := 256

/-- `USAC_MCU_MAX_COMMAND_PAYLOAD`. -/
def maxCommandPayload : Nat := 192

/-- `USAC_MCU_HEADER_SIZE`. -/
def headerSize : Nat := 16

/-- `USAC_MCU_CRC_SIZE`. -/
def crcSize : Nat := 4

/-- The four bytes that open every frame. -/
def magic : List UInt8 := [0x55, 0x53, 0x41, 0x43]

/-- `USAC_PROTOCOL_VERSION`. -/
def protocolVersion : UInt8 := 1

/-- `usac_mcu_crc32`. -/
def crc32 (data : List UInt8) : UInt32 :=
  Crc32.checksum data

/-- The bytes of a frame under its checksum. -/
def frameBody
    (messageType : UInt8)
    (flags : UInt16)
    (sequence : UInt32)
    (payload : List UInt8) :
    List UInt8 :=
  [protocolVersion, messageType] ++ writeU16 flags ++ writeU32 sequence ++
    writeU32 payload.length.toUInt32 ++ payload

/-- A frame with its magic and its checksum. -/
def frameBytes
    (messageType : UInt8)
    (flags : UInt16)
    (sequence : UInt32)
    (payload : List UInt8) :
    List UInt8 :=
  let body := frameBody messageType flags sequence payload
  magic ++ body ++ writeU32 (crc32 body)

/-- `usac_mcu_encode_frame`, which refuses what it cannot encode. -/
def encodeFrame
    (messageType : UInt8)
    (flags : UInt16)
    (sequence : UInt32)
    (payload : List UInt8)
    (capacity : Nat) :
    Option (List UInt8) :=
  if maxCommandPayload < payload.length ∨
      capacity < headerSize + payload.length + crcSize ∨
      flags &&& ~~~7 ≠ 0 then
    none
  else
    some (frameBytes messageType flags sequence payload)

/-- The length of a frame. -/
@[simp] theorem length_frameBytes
    (messageType : UInt8)
    (flags : UInt16)
    (sequence : UInt32)
    (payload : List UInt8) :
    (frameBytes messageType flags sequence payload).length =
      headerSize + payload.length + crcSize := by
  simp [frameBytes, frameBody, magic, headerSize, crcSize]
  omega

/-- `usac_mcu_frame_view_t`, with the payload it borrows. -/
structure FrameView where
  messageType : UInt8
  flags : UInt16
  sequence : UInt32
  payload : List UInt8
  deriving Repr, DecidableEq

/-- `usac_mcu_parse_result_t`; a complete frame carries its view. -/
inductive ParseResult where
  | incomplete
  | frame (view : FrameView)
  | invalidLength
  | badCrc
  | invalidHeader
  | invalidPayload
  | timeout
  deriving Repr, DecidableEq

/-- The frame of a complete candidate. -/
def ParseResult.frame? : ParseResult → Option FrameView
  | .frame view => some view
  | _ => none

/-- `usac_mcu_parser_t`. -/
structure Parser where
  buffer : List UInt8
  expectedTotal : Nat
  deriving Repr, DecidableEq

namespace Parser

/-- `usac_mcu_parser_init` and `reset_parser`. -/
def init : Parser where
  buffer := []
  expectedTotal := 0

/-- The number of buffered bytes. -/
def count (parser : Parser) : Nat :=
  parser.buffer.length

end Parser

/-- The payload length a message type requires, where it requires one. -/
def requiredLength? (messageType : UInt8) : Option Nat :=
  if messageType = Message.hello then some 20
  else if messageType = Message.getCapabilities then some 0
  else if messageType = Message.getConfig then some 0
  else if messageType = Message.captureOnce then some 60
  else if messageType = Message.runIo2LoopbackTest then some 56
  else if messageType = Message.startPeriodic then some 80
  else if messageType = Message.stop then some 32
  else if messageType = Message.getStatus then some 0
  else if messageType = Message.renewPeriodicLease then some 40
  else if messageType = Message.setConfig then some 120
  else none

/-- The type-specific length comparison of `validate_header`. -/
def lengthAllowed (messageType : UInt8) (length : Nat) : Bool :=
  match requiredLength? messageType with
  | some required => length == required
  | none => true

/-- `validate_header`: the rejection, or `none` when the header stands. -/
def validateHeader
    (buffer : List UInt8)
    (payloadLength : Nat) :
    Option ParseResult :=
  if byteAt buffer 4 ≠ protocolVersion ∨
      readU16 buffer 6 &&& ~~~7 ≠ 0 then
    some .invalidHeader
  else if maxCommandPayload < payloadLength then
    some .invalidLength
  else if lengthAllowed (byteAt buffer 5) payloadLength then
    none
  else
    some .invalidLength

/-- `validate_payload`: whether the fixed fields of a payload are allowed. -/
def payloadAllowed (messageType : UInt8) (payload : List UInt8) : Bool :=
  if messageType = Message.hello then
    !(byteAt payload 16 > byteAt payload 17 || byteAt payload 18 != 0 ||
      byteAt payload 19 != 0 || byteAt payload 16 > protocolVersion ||
      byteAt payload 17 < protocolVersion)
  else if messageType = Message.setConfig then
    byteAt payload 62 == 10
  else if messageType = Message.captureOnce then
    !(byteAt payload 53 != 0 || byteAt payload 54 != 0 ||
      byteAt payload 55 != 0 || byteAt payload 52 > 2)
  else if messageType = Message.runIo2LoopbackTest then
    !(byteAt payload 52 != 8 || byteAt payload 53 != 0 ||
      byteAt payload 54 != 0 || byteAt payload 55 != 0)
  else if messageType = Message.startPeriodic then
    !(slice payload 16 16 == Bytes.zero 16 ||
      readU32 payload 68 < 100000 || readU32 payload 76 < 1000 ||
      readU32 payload 76 > 10000)
  else if messageType = Message.renewPeriodicLease then
    !(readU32 payload 32 == 0 || readU32 payload 36 < 1000 ||
      readU32 payload 36 > 10000)
  else
    true

namespace FrameView

/-- What the parser has checked of a frame it emits. -/
structure Accepted (view : FrameView) : Prop where
  flags : view.flags &&& ~~~7 = 0
  bounded : view.payload.length ≤ maxCommandPayload
  length : lengthAllowed view.messageType view.payload.length = true
  payload : payloadAllowed view.messageType view.payload = true

instance (view : FrameView) : Decidable view.Accepted :=
  decidable_of_iff
    (view.flags &&& ~~~7 = 0 ∧
      view.payload.length ≤ maxCommandPayload ∧
      lengthAllowed view.messageType view.payload.length = true ∧
      payloadAllowed view.messageType view.payload = true)
    ⟨fun ⟨flags, bounded, length, payload⟩ =>
        ⟨flags, bounded, length, payload⟩,
      fun accepted =>
        ⟨accepted.flags, accepted.bounded, accepted.length,
          accepted.payload⟩⟩

end FrameView

/-- A frame as the parser emits it. -/
abbrev ParsedFrame := {view : FrameView // view.Accepted}

namespace Parser

/-- The checks of a candidate whose last byte has arrived. -/
def complete (buffer : List UInt8) : Parser × ParseResult :=
  let payloadLength := (readU32 buffer 12).toNat
  let body := (buffer.drop 4).take (12 + payloadLength)
  let payload := (buffer.drop headerSize).take payloadLength
  if readU32 buffer (16 + payloadLength) ≠ crc32 body then
    (init, .badCrc)
  else if payloadAllowed (byteAt buffer 5) payload then
    (init, .frame {
      messageType := byteAt buffer 5
      flags := readU16 buffer 6
      sequence := readU32 buffer 8
      payload := payload
    })
  else
    (init, .invalidPayload)

/-- The part of `usac_mcu_parser_feed` after the byte has been stored. -/
def advance (parser : Parser) : Parser × ParseResult :=
  if parser.expectedTotal = 0 ∨ parser.count < parser.expectedTotal then
    (parser, .incomplete)
  else
    complete parser.buffer

/-- `usac_mcu_parser_feed`. -/
def feed (parser : Parser) (byte : UInt8) : Parser × ParseResult :=
  if parser.count < 4 ∧ byte ≠ byteAt magic parser.count then
    ({ parser with
        buffer := if byte = byteAt magic 0 then [byte] else [] },
      .incomplete)
  else if rxRingSize ≤ parser.count then
    (init, .invalidLength)
  else
    let stored := { parser with buffer := parser.buffer ++ [byte] }
    if stored.count = headerSize then
      let payloadLength := (readU32 stored.buffer 12).toNat
      match validateHeader stored.buffer payloadLength with
      | some rejection => (init, rejection)
      | none =>
          advance { stored with
            expectedTotal := headerSize + payloadLength + crcSize }
    else
      advance stored

/-- `usac_mcu_parser_expire`. -/
def expire (_ : Parser) : Parser × ParseResult :=
  (init, .timeout)

/-- The frames emitted while a list of bytes is fed. -/
def framesOf (parser : Parser) : List UInt8 → Parser × List FrameView
  | [] => (parser, [])
  | byte :: rest =>
      let fed := parser.feed byte
      let following := framesOf fed.1 rest
      (following.1, fed.2.frame?.toList ++ following.2)

/-- Feeding two lists one after the other. -/
theorem framesOf_append
    (parser : Parser)
    (first second : List UInt8) :
    framesOf parser (first ++ second) =
      ((framesOf (framesOf parser first).1 second).1,
        (framesOf parser first).2 ++
          (framesOf (framesOf parser first).1 second).2) := by
  induction first generalizing parser with
  | nil =>
      rfl
  | cons byte rest inductionHypothesis =>
      simp only [List.cons_append, framesOf, inductionHypothesis,
        List.append_assoc]

/-- The payload length the buffered header announces. -/
def announced (buffer : List UInt8) : Nat :=
  (readU32 buffer 12).toNat

/-- What a parser holds between two bytes: part of a header, or a validated
header and less than the frame it announces. -/
structure WellFormed (parser : Parser) : Prop where
  opening : parser.count < headerSize → parser.expectedTotal = 0
  incomplete :
    headerSize ≤ parser.count → parser.count < parser.expectedTotal
  expected :
    headerSize ≤ parser.count →
      parser.expectedTotal = headerSize + announced parser.buffer + crcSize
  validated :
    headerSize ≤ parser.count →
      validateHeader parser.buffer (announced parser.buffer) = none

/-- An empty parser holds part of a header. -/
theorem init_wellFormed : init.WellFormed where
  opening _ := rfl
  incomplete long := by simp [count, init, headerSize] at long
  expected long := by simp [count, init, headerSize] at long
  validated long := by simp [count, init, headerSize] at long

/-- A header is not read again once more bytes follow. -/
theorem validateHeader_append
    {buffer rest : List UInt8}
    (long : headerSize ≤ buffer.length)
    (payloadLength : Nat) :
    validateHeader (buffer ++ rest) payloadLength =
      validateHeader buffer payloadLength := by
  rw [headerSize] at long
  simp only [validateHeader]
  rw [byteAt_append_left (by omega), byteAt_append_left (by omega),
    readU16_append_left (by omega)]

/-- Nor is the length it announces. -/
theorem announced_append
    {buffer rest : List UInt8}
    (long : headerSize ≤ buffer.length) :
    announced (buffer ++ rest) = announced buffer := by
  rw [headerSize] at long
  rw [announced, readU32_append_left (by omega), announced]

/-- A frame with a validated header leaves the parser only when accepted. -/
theorem complete_accepted
    {buffer : List UInt8}
    {view : FrameView}
    (validated : validateHeader buffer (announced buffer) = none)
    (length : buffer.length = headerSize + announced buffer + crcSize)
    (emitted : (complete buffer).2 = .frame view) :
    view.Accepted := by
  have payloadLength :
      ((buffer.drop headerSize).take (announced buffer)).length =
        announced buffer := by
    simp
    omega
  unfold validateHeader at validated
  split_ifs at validated with fixed long allowed
  unfold complete at emitted
  dsimp only at emitted
  split_ifs at emitted with checksum payload
  obtain rfl := ParseResult.frame.inj emitted
  push Not at fixed long
  exact {
    flags := fixed.2
    bounded := payloadLength.trans_le long
    length := by rw [announced] at payloadLength; rwa [payloadLength]
    payload := payload
  }

/-- A completed candidate leaves an empty parser. -/
theorem complete_init (buffer : List UInt8) :
    (complete buffer).1 = init := by
  unfold complete
  dsimp only
  split_ifs <;> rfl

/-- What one byte can do to a well formed parser. -/
structure Fed (outcome : Parser × ParseResult) : Prop where
  wellFormed : outcome.1.WellFormed
  accepted : ∀ view, outcome.2 = .frame view → view.Accepted

/-- Only a complete candidate carries a frame. -/
theorem frame?_eq_some
    {result : ParseResult}
    {view : FrameView} :
    result.frame? = some view ↔ result = .frame view := by
  cases result <;> simp [ParseResult.frame?]

/-- A rejection leaves an empty parser and no frame. -/
theorem fed_init
    {result : ParseResult}
    (rejected : ∀ view, result ≠ .frame view) :
    Fed (init, result) where
  wellFormed := init_wellFormed
  accepted view emitted := absurd emitted (rejected view)

/-- A stored byte extends a validated frame or completes it. -/
theorem advance_fed
    {parser : Parser}
    (long : headerSize ≤ parser.count)
    (expected :
      parser.expectedTotal = headerSize + announced parser.buffer + crcSize)
    (bounded : parser.count ≤ parser.expectedTotal)
    (validated :
      validateHeader parser.buffer (announced parser.buffer) = none) :
    Fed parser.advance := by
  unfold advance
  split_ifs with partly
  · have positive : parser.expectedTotal ≠ 0 := by
      rw [expected, headerSize]
      omega
    have shorter := partly.resolve_left positive
    exact {
      wellFormed := {
        opening := fun short => absurd short (not_lt.2 long)
        incomplete := fun _ => shorter
        expected := fun _ => expected
        validated := fun _ => validated
      }
      accepted := by simp
    }
  · have length : parser.buffer.length = parser.expectedTotal := by
      simp only [count] at *
      omega
    exact {
      wellFormed := by rw [complete_init]; exact init_wellFormed
      accepted := fun view =>
        complete_accepted validated (length.trans expected)
    }

/-- Part of a header is a well formed parser, and no frame. -/
theorem fed_header
    {buffer : List UInt8}
    {expectedTotal : Nat}
    (short : buffer.length < headerSize)
    (opened : expectedTotal = 0) :
    Fed ({ buffer := buffer, expectedTotal := expectedTotal }, .incomplete)
    where
  wellFormed := {
    opening := fun _ => opened
    incomplete := fun long => absurd short (not_lt.2 long)
    expected := fun long => absurd short (not_lt.2 long)
    validated := fun long => absurd short (not_lt.2 long)
  }
  accepted := by simp

/-- The checks of a header reject it or let it stand. -/
theorem validateHeader_ne_frame
    {buffer : List UInt8}
    {payloadLength : Nat}
    {rejection : ParseResult}
    (rejected : validateHeader buffer payloadLength = some rejection)
    (view : FrameView) :
    rejection ≠ .frame view := by
  unfold validateHeader at rejected
  split_ifs at rejected <;>
    simp [← Option.some.inj rejected]

/-- Every byte keeps the parser well formed and emits only accepted frames. -/
theorem feed_fed
    {parser : Parser}
    (wellFormed : parser.WellFormed)
    (byte : UInt8) :
    Fed (parser.feed byte) := by
  unfold feed
  by_cases mismatch : parser.count < 4 ∧ byte ≠ byteAt magic parser.count
  · rw [if_pos mismatch]
    have opened := wellFormed.opening (mismatch.1.trans (by decide))
    split
    · exact fed_header (by simp [headerSize]) opened
    · exact fed_header (by simp [headerSize]) opened
  rw [if_neg mismatch]
  by_cases full : rxRingSize ≤ parser.count
  · rw [if_pos full]
    exact fed_init (by simp)
  rw [if_neg full]
  have grown :
      ({ parser with buffer := parser.buffer ++ [byte] } : Parser).count =
        parser.count + 1 := by
    simp [count]
  dsimp only
  rcases Nat.lt_trichotomy (parser.count + 1) headerSize with
    short | exact | long
  · rw [if_neg (grown.trans_ne short.ne)]
    have opened := wellFormed.opening (Nat.lt_of_succ_lt short)
    rw [advance, if_pos (Or.inl opened)]
    exact fed_header (grown.trans_lt short) opened
  · rw [if_pos (grown.trans exact)]
    split
    · rename_i rejection rejected
      exact fed_init (validateHeader_ne_frame rejected)
    · rename_i validated
      have length : (parser.buffer ++ [byte]).length = headerSize :=
        grown.trans exact
      exact advance_fed length.ge rfl
        (by simp only [count]; omega) validated
  · rw [if_neg (grown.trans_ne long.ne')]
    have before : headerSize ≤ parser.count := Nat.le_of_lt_succ long
    have expected := wellFormed.expected before
    have incomplete := wellFormed.incomplete before
    have validated := wellFormed.validated before
    refine advance_fed (grown.symm ▸ long.le) ?_ (grown.symm ▸ incomplete) ?_
    · rwa [announced_append before]
    · rwa [announced_append before, validateHeader_append before]

/-- The frames a parser emits have been accepted. -/
theorem framesOf_accepted
    {parser : Parser}
    (wellFormed : parser.WellFormed)
    (bytes : List UInt8) :
    (framesOf parser bytes).1.WellFormed ∧
      ∀ view ∈ (framesOf parser bytes).2, view.Accepted := by
  induction bytes generalizing parser with
  | nil =>
      exact ⟨wellFormed, by simp [framesOf]⟩
  | cons byte rest inductionHypothesis =>
      have fed := feed_fed wellFormed byte
      obtain ⟨last, others⟩ := inductionHypothesis fed.wellFormed
      refine ⟨last, ?_⟩
      intro view member
      rcases List.mem_append.1 member with first | later
      · exact fed.accepted view (frame?_eq_some.1 (by simpa using first))
      · exact others view later

end Parser

end Mcu

end Usac.Firmware
