import Usac.Firmware.App
import Usac.Firmware.FrameReception
import Usac.Library.InBounds
import Mathlib.Data.List.Find

namespace Usac.Firmware

open Library

/-!
# What the parser and the handlers read

The parser never holds more than the longest command frame, and every read of
its buffer lies among the bytes that have arrived: the parser agrees with a
form of it whose reads are checked. The handler of a frame reads ranges of the
payload that end before the payload does.
-/

namespace Mcu

/-- `validate_header` with checked reads. -/
def validateHeader?
    (buffer : List UInt8)
    (payloadLength : Nat) :
    Option (Option ParseResult) := do
  let messageType ← byteAt? buffer 5
  let flags ← readU16? buffer 6
  let version ← byteAt? buffer 4
  pure (
    if version ≠ protocolVersion ∨ flags &&& ~~~7 ≠ 0 then
      some .invalidHeader
    else if maxCommandPayload < payloadLength then
      some .invalidLength
    else if lengthAllowed messageType payloadLength then
      none
    else
      some .invalidLength)

/-- `validate_payload` with checked reads of the buffer. -/
def payloadAllowed? (messageType : UInt8) (buffer : List UInt8) :
    Option Bool :=
  let payload (index : Nat) := byteAt? buffer (headerSize + index)
  if messageType = Message.hello then do
    let minimum ← payload 16
    let maximum ← payload 17
    let reserved0 ← payload 18
    let reserved1 ← payload 19
    pure !(minimum > maximum || reserved0 != 0 || reserved1 != 0 ||
      minimum > protocolVersion || maximum < protocolVersion)
  else if messageType = Message.setConfig then do
    let registerCount ← payload 62
    pure (registerCount == 10)
  else if messageType = Message.captureOnce then do
    let reserved0 ← payload 53
    let reserved1 ← payload 54
    let reserved2 ← payload 55
    let triggerSource ← payload 52
    pure !(reserved0 != 0 || reserved1 != 0 || reserved2 != 0 ||
      triggerSource > 2)
  else if messageType = Message.runIo2LoopbackTest then do
    let edges ← payload 52
    let reserved0 ← payload 53
    let reserved1 ← payload 54
    let reserved2 ← payload 55
    pure !(edges != 8 || reserved0 != 0 || reserved1 != 0 || reserved2 != 0)
  else if messageType = Message.startPeriodic then do
    let periodUs ← readU32? buffer (headerSize + 68)
    let leaseTimeoutMs ← readU32? buffer (headerSize + 76)
    let scheduleId ← slice? buffer (headerSize + 16) 16
    pure !(scheduleId == Bytes.zero 16 || periodUs < 100000 ||
      leaseTimeoutMs < 1000 || leaseTimeoutMs > 10000)
  else if messageType = Message.renewPeriodicLease then do
    let leaseSequence ← readU32? buffer (headerSize + 32)
    let leaseTimeoutMs ← readU32? buffer (headerSize + 36)
    pure !(leaseSequence == 0 || leaseTimeoutMs < 1000 ||
      leaseTimeoutMs > 10000)
  else
    pure true

namespace Parser

/-- The checks of a complete candidate with checked reads. -/
def complete? (buffer : List UInt8) : Option (Parser × ParseResult) := do
  let payloadLength := (← readU32? buffer 12).toNat
  let expectedCrc ← readU32? buffer (16 + payloadLength)
  let body ← range? buffer 4 (12 + payloadLength)
  if expectedCrc ≠ crc32 body then
    pure (init, .badCrc)
  else do
    let messageType ← byteAt? buffer 5
    if ← payloadAllowed? messageType buffer then do
      let flags ← readU16? buffer 6
      let sequence ← readU32? buffer 8
      let payload ← range? buffer headerSize payloadLength
      pure (init, .frame {
        messageType := messageType
        flags := flags
        sequence := sequence
        payload := payload
      })
    else
      pure (init, .invalidPayload)

/-- The part of `usac_mcu_parser_feed` after the byte has been stored, with
checked reads. -/
def advance? (parser : Parser) : Option (Parser × ParseResult) :=
  if parser.expectedTotal = 0 ∨ parser.count < parser.expectedTotal then
    pure (parser, .incomplete)
  else
    complete? parser.buffer

/-- `usac_mcu_parser_feed` with checked reads. -/
def feed? (parser : Parser) (byte : UInt8) : Option (Parser × ParseResult) :=
  if parser.count < 4 ∧ byte ≠ byteAt magic parser.count then
    pure ({ parser with
        buffer := if byte = byteAt magic 0 then [byte] else [] },
      .incomplete)
  else if rxRingSize ≤ parser.count then
    pure (init, .invalidLength)
  else
    let stored := { parser with buffer := parser.buffer ++ [byte] }
    if stored.count = headerSize then do
      let payloadLength := (← readU32? stored.buffer 12).toNat
      match ← validateHeader? stored.buffer payloadLength with
      | some rejection => pure (init, rejection)
      | none =>
          advance? { stored with
            expectedTotal := headerSize + payloadLength + crcSize }
    else
      advance? stored

/-- The header is checked within its sixteen bytes. -/
theorem validateHeader?_eq
    {buffer : List UInt8}
    (long : headerSize ≤ buffer.length)
    (payloadLength : Nat) :
    validateHeader? buffer payloadLength =
      some (validateHeader buffer payloadLength) := by
  rw [headerSize] at long
  unfold validateHeader?
  rw [byteAt?_eq (by omega), readU16?_eq (by omega), byteAt?_eq (by omega)]
  rfl

/-- The length a type requires is the length the table allows. -/
theorem length_of_lengthAllowed
    {messageType : UInt8}
    {length required : Nat}
    (allowed : lengthAllowed messageType length = true)
    (listed : requiredLength? messageType = some required) :
    length = required := by
  unfold lengthAllowed at allowed
  rw [listed] at allowed
  exact beq_iff_eq.1 allowed

/-- The fixed fields of a payload are checked within its length. -/
theorem payloadAllowed?_eq
    {messageType : UInt8}
    {buffer : List UInt8}
    {length : Nat}
    (allowed : lengthAllowed messageType length = true)
    (long : headerSize + length ≤ buffer.length) :
    payloadAllowed? messageType buffer =
      some (payloadAllowed messageType
        ((buffer.drop headerSize).take length)) := by
  have required (size : Nat)
      (listed : requiredLength? messageType = some size) : length = size :=
    length_of_lengthAllowed allowed listed
  unfold payloadAllowed? payloadAllowed
  dsimp only
  split_ifs with hello setConfig captureOnce loopback start renew
  · have size := required 20 (by rw [hello]; rfl)
    rw [byteAt?_eq (by omega), byteAt?_eq (by omega), byteAt?_eq (by omega),
      byteAt?_eq (by omega), byteAt_window (by omega),
      byteAt_window (by omega), byteAt_window (by omega),
      byteAt_window (by omega)]
    rfl
  · have size := required 120 (by rw [setConfig]; rfl)
    rw [byteAt?_eq (by omega), byteAt_window (by omega)]
    rfl
  · have size := required 60 (by rw [captureOnce]; rfl)
    rw [byteAt?_eq (by omega), byteAt?_eq (by omega), byteAt?_eq (by omega),
      byteAt?_eq (by omega), byteAt_window (by omega),
      byteAt_window (by omega), byteAt_window (by omega),
      byteAt_window (by omega)]
    rfl
  · have size := required 56 (by rw [loopback]; rfl)
    rw [byteAt?_eq (by omega), byteAt?_eq (by omega), byteAt?_eq (by omega),
      byteAt?_eq (by omega), byteAt_window (by omega),
      byteAt_window (by omega), byteAt_window (by omega),
      byteAt_window (by omega)]
    rfl
  · have size := required 80 (by rw [start]; rfl)
    rw [readU32?_eq (by omega), readU32?_eq (by omega), slice?_eq (by omega),
      slice_window (by omega), readU32_window (by omega),
      readU32_window (by omega)]
    rfl
  · have size := required 40 (by rw [renew]; rfl)
    rw [readU32?_eq (by omega), readU32?_eq (by omega),
      readU32_window (by omega), readU32_window (by omega)]
    rfl
  · rfl

/-- A header that stands allows its length. -/
theorem allowed_of_validateHeader
    {buffer : List UInt8}
    {payloadLength : Nat}
    (validated : validateHeader buffer payloadLength = none) :
    payloadLength ≤ maxCommandPayload ∧
      lengthAllowed (byteAt buffer 5) payloadLength = true := by
  unfold validateHeader at validated
  split_ifs at validated with fixed long allowed
  exact ⟨Nat.le_of_not_lt long, allowed⟩

/-- A complete candidate is checked within its bytes. -/
theorem complete?_eq
    {buffer : List UInt8}
    (validated : validateHeader buffer (announced buffer) = none)
    (sized : buffer.length = headerSize + announced buffer + crcSize) :
    complete? buffer = some (complete buffer) := by
  obtain ⟨-, allowed⟩ := allowed_of_validateHeader validated
  have payload : payloadAllowed? (byteAt buffer 5) buffer =
      some (payloadAllowed (byteAt buffer 5)
        ((buffer.drop headerSize).take (readU32 buffer 12).toNat)) :=
    payloadAllowed?_eq allowed (by rw [sized]; exact Nat.le_add_right _ _)
  have length : buffer.length = 16 + (readU32 buffer 12).toNat + 4 := sized
  have whole : headerSize + (readU32 buffer 12).toNat ≤ buffer.length := by
    rw [headerSize]
    omega
  unfold complete? complete
  rw [readU32?_eq (by omega)]
  dsimp only [Option.bind_eq_bind, Option.bind_some]
  rw [readU32?_eq (by omega), range?_eq (by omega)]
  dsimp only [Option.bind_some]
  by_cases checksum :
      readU32 buffer (16 + (readU32 buffer 12).toNat) ≠
        crc32 ((buffer.drop 4).take (12 + (readU32 buffer 12).toNat))
  · rw [if_pos checksum, if_pos checksum]
    rfl
  · rw [if_neg checksum, if_neg checksum, byteAt?_eq (by omega)]
    dsimp only [Option.bind_some]
    rw [payload]
    dsimp only [Option.bind_some]
    split_ifs
    · rw [readU16?_eq (by omega), readU32?_eq (by omega), range?_eq whole]
      rfl
    · rfl

/-- A stored byte is judged within the bytes that have arrived. -/
theorem advance?_eq
    {parser : Parser}
    (complete :
      parser.expectedTotal ≠ 0 → parser.expectedTotal ≤ parser.count →
        validateHeader parser.buffer (announced parser.buffer) = none ∧
          parser.count = headerSize + announced parser.buffer + crcSize) :
    parser.advance? = some parser.advance := by
  unfold advance? advance
  split_ifs with partly
  · rfl
  · obtain ⟨opened, whole⟩ := not_or.1 partly
    obtain ⟨validated, sized⟩ := complete opened (Nat.le_of_not_lt whole)
    exact complete?_eq validated sized

/-- A well formed parser reads nothing but what has arrived. -/
theorem WellFormed.feed?_eq
    {parser : Parser}
    (wellFormed : parser.WellFormed)
    (byte : UInt8) :
    parser.feed? byte = some (parser.feed byte) := by
  have grown : (parser.buffer ++ [byte]).length = parser.count + 1 := by
    simp [count]
  unfold feed? feed
  by_cases mismatch : parser.count < 4 ∧ byte ≠ byteAt magic parser.count
  · rw [if_pos mismatch, if_pos mismatch]
    rfl
  rw [if_neg mismatch, if_neg mismatch]
  by_cases full : rxRingSize ≤ parser.count
  · rw [if_pos full, if_pos full]
    rfl
  rw [if_neg full, if_neg full]
  dsimp only
  by_cases header :
      ({ parser with buffer := parser.buffer ++ [byte] } : Parser).count =
        headerSize
  · -- The byte completes the header.
    have length : (parser.buffer ++ [byte]).length = headerSize := header
    rw [if_pos header, if_pos header,
      readU32?_eq (by rw [length, headerSize])]
    dsimp only [Option.bind_eq_bind, Option.bind_some]
    rw [validateHeader?_eq length.ge]
    dsimp only [Option.bind_some]
    cases validated : validateHeader (parser.buffer ++ [byte])
        (readU32 (parser.buffer ++ [byte]) 12).toNat with
    | some rejection =>
        rfl
    | none =>
        apply advance?_eq
        intro _ whole
        refine ⟨validated, ?_⟩
        change headerSize + announced (parser.buffer ++ [byte]) + crcSize ≤
          (parser.buffer ++ [byte]).length at whole
        rw [length, crcSize] at whole
        omega
  · -- The byte follows a part of a header, or a whole one.
    rw [if_neg header, if_neg header]
    apply advance?_eq
    intro opened whole
    have before : headerSize ≤ parser.count := by
      by_contra short
      exact opened (wellFormed.opening (Nat.lt_of_not_le short))
    have expected := wellFormed.expected before
    have incomplete := wellFormed.incomplete before
    have validated := wellFormed.validated before
    have whole : parser.expectedTotal ≤ parser.count + 1 :=
      whole.trans_eq grown
    constructor
    · change validateHeader (parser.buffer ++ [byte])
        (announced (parser.buffer ++ [byte])) = none
      rwa [announced_append before, validateHeader_append before]
    · change (parser.buffer ++ [byte]).length =
        headerSize + announced (parser.buffer ++ [byte]) + crcSize
      rw [announced_append before, ← expected, grown]
      omega

/-- What a parser holds between two bytes: less than the longest command frame,
and a total that is not set yet or that of the frame it announces. -/
structure Bounded (parser : Parser) : Prop where
  room : parser.count < 212
  expected :
    parser.expectedTotal = 0 ∨
      parser.expectedTotal = 20 + announced parser.buffer ∧
        parser.count < parser.expectedTotal ∧ parser.expectedTotal ≤ 212
  notFull : ¬rxRingSize ≤ parser.count

/-- A well formed parser is bounded. -/
theorem WellFormed.bounded
    {parser : Parser}
    (wellFormed : parser.WellFormed) :
    parser.Bounded := by
  rcases Nat.lt_or_ge parser.count headerSize with short | long
  · have room : parser.count < 212 := short.trans (by decide)
    exact ⟨room, Or.inl (wellFormed.opening short),
      Nat.not_le.2 (room.trans (by decide))⟩
  · have expected := wellFormed.expected long
    have incomplete := wellFormed.incomplete long
    obtain ⟨limit, -⟩ := allowed_of_validateHeader (wellFormed.validated long)
    rw [maxCommandPayload] at limit
    rw [headerSize, crcSize] at expected
    have room : parser.count < 212 := by omega
    exact ⟨room, Or.inr ⟨by omega, incomplete, by omega⟩,
      Nat.not_le.2 (room.trans (by decide))⟩

end Parser

end Mcu

namespace App

/-- The ranges of the payload that the handler of a type reads, each an offset
and a length. -/
def handlerReads (messageType : UInt8) : List (Nat × Nat) :=
  if messageType = Message.hello then
    [(0, 16)]
  else if messageType = Message.setConfig then
    [(0, 16), (16, 32), (48, 72)]
  else if messageType = Message.runIo2LoopbackTest then
    [(0, 16), (16, 32), (48, 4)]
  else if messageType = Message.captureOnce then
    [(0, 16), (16, 32), (48, 4), (52, 1), (56, 4)]
  else if messageType = Message.startPeriodic then
    [(0, 16), (16, 16), (32, 32), (64, 4), (68, 4), (72, 4), (76, 4)]
  else if messageType = Message.renewPeriodicLease then
    [(0, 16), (16, 16), (32, 4), (36, 4)]
  else if messageType = Message.stop then
    [(0, 16), (16, 16)]
  else
    []

/-- The ranges of the payload that are read for a request. An error response
copies the request identity when the payload has one. -/
def payloadReads (request : Mcu.FrameView) : List (Nat × Nat) :=
  (if 16 ≤ request.payload.length then [(0, 16)] else []) ++
    handlerReads request.messageType

/-- Requests that cannot be told apart by what is read of them: the header, the
ranges of the payload, the comparison of its length in an error response and
the checksum, which is taken over the length of the payload. -/
structure SameReads (left right : Mcu.FrameView) : Prop where
  messageType : left.messageType = right.messageType
  flags : left.flags = right.flags
  sequence : left.sequence = right.sequence
  identified : 16 ≤ left.payload.length ↔ 16 ≤ right.payload.length
  checksum : Mcu.crc32 left.payload = Mcu.crc32 right.payload
  payload : Agree (payloadReads left) left.payload right.payload

namespace SameReads

variable {left right : Mcu.FrameView}

/-- The ranges of a handler. -/
theorem reads
    (same : SameReads left right) :
    Agree (handlerReads left.messageType) left.payload right.payload :=
  fun range member => same.payload range (List.mem_append_right _ member)

/-- A response carries the sequence number of the request. -/
theorem respond
    (same : SameReads left right)
    (messageType : UInt8)
    (payload : List UInt8)
    (capacity : Nat) :
    App.respond left messageType payload capacity =
      App.respond right messageType payload capacity := by
  rw [App.respond, App.respond, same.sequence]

/-- An error response is the same. -/
theorem encodeError
    (same : SameReads left right)
    (app : App)
    (errorCode : UInt16)
    (detail0 detail1 : UInt32)
    (capacity : Nat) :
    app.encodeError left errorCode detail0 detail1 capacity =
      app.encodeError right errorCode detail0 detail1 capacity := by
  have payload :
      app.errorPayload left errorCode detail0 detail1 =
        app.errorPayload right errorCode detail0 detail1 := by
    unfold errorPayload
    rw [same.messageType]
    by_cases long : 16 ≤ left.payload.length
    · have identity : requestId left = requestId right := by
        apply same.payload.slice
        rw [payloadReads, if_pos long]
        exact List.mem_cons_self
      rw [if_pos long, if_pos (same.identified.1 long), identity]
    · rw [if_neg long, if_neg fun other => long (same.identified.2 other)]
  rw [App.encodeError, App.encodeError, payload, same.respond]

/-- A refusal is the same. -/
theorem refuse
    (same : SameReads left right)
    (app : App)
    (errorCode : UInt16)
    (detail0 detail1 : UInt32)
    (capacity : Nat) :
    app.refuse left errorCode detail0 detail1 capacity =
      app.refuse right errorCode detail0 detail1 capacity := by
  rw [App.refuse, App.refuse, same.encodeError]

/-- A cache says the same of requests with one identity. -/
theorem lookup
    (same : SameReads left right)
    (identity : requestId left = requestId right)
    (cache : ReplyCache) :
    cache.lookup left = cache.lookup right := by
  have field : slice left.payload 0 16 = slice right.payload 0 16 := identity
  rw [ReplyCache.lookup, ReplyCache.lookup, field, same.sequence,
    same.checksum]

/-- A cache is filled the same for requests with one identity. -/
theorem store
    (same : SameReads left right)
    (identity : requestId left = requestId right) :
    ReplyCache.store left = ReplyCache.store right := by
  funext reply
  have field : slice left.payload 0 16 = slice right.payload 0 16 := identity
  rw [ReplyCache.store, ReplyCache.store, field, same.sequence, same.checksum]

/-- The hash a SET_CONFIG names is compared the same. -/
theorem hashMismatch?
    (same : SameReads left right)
    (app : App)
    (named : (16, 32) ∈ handlerReads left.messageType) :
    app.hashMismatch? left = app.hashMismatch? right := by
  apply List.find?_congr
  intro index member
  rw [same.reads.byteAt named (List.mem_range.1 member)]

/-- The configuration a request names is compared the same. -/
theorem namesConfig
    (same : SameReads left right)
    (app : App)
    {offset : Nat}
    (hash : (offset, 32) ∈ handlerReads left.messageType)
    (checksum : (offset + 32, 4) ∈ handlerReads left.messageType) :
    app.namesConfig left offset = app.namesConfig right offset := by
  rw [App.namesConfig, App.namesConfig, same.reads.slice hash,
    same.reads.readU32 checksum]

/-- The identity of a request whose handler reads it. -/
theorem requestId
    (same : SameReads left right)
    (identified : (0, 16) ∈ handlerReads left.messageType) :
    App.requestId left = App.requestId right :=
  same.reads.slice identified

/-- A HELLO is handled the same. -/
theorem handleHello
    (same : SameReads left right)
    (type : left.messageType = Message.hello)
    (app : App)
    (capacity : Nat)
    (hardware : Hardware) :
    app.handleHello left capacity hardware =
      app.handleHello right capacity hardware := by
  have identity := same.requestId (by rw [type]; decide)
  simp only [App.handleHello, helloPayload, identity, same.respond]

/-- A SET_CONFIG is handled the same. -/
theorem handleSetConfig
    (same : SameReads left right)
    (type : left.messageType = Message.setConfig)
    (app : App)
    (capacity : Nat)
    (hardware : Hardware) :
    app.handleSetConfig left capacity hardware =
      app.handleSetConfig right capacity hardware := by
  have identity := same.requestId (by rw [type]; decide)
  have mismatch (app : App) := same.hashMismatch? app (by rw [type]; decide)
  have wire : slice left.payload 48 ConfigV2.wireLength =
      slice right.payload 48 ConfigV2.wireLength :=
    same.reads.slice (by rw [type]; decide)
  simp only [App.handleSetConfig, executeSetConfig, ackPayload, identity,
    mismatch, wire, same.lookup identity, same.store identity, same.refuse,
    same.respond, same.encodeError, same.sequence]

/-- A loopback is handled the same. -/
theorem handleIo2Loopback
    (same : SameReads left right)
    (type : left.messageType = Message.runIo2LoopbackTest)
    (app : App)
    (capacity : Nat)
    (hardware : Hardware) :
    app.handleIo2Loopback left capacity hardware =
      app.handleIo2Loopback right capacity hardware := by
  have identity := same.requestId (by rw [type]; decide)
  have named (app : App) :
      app.namesConfig left 16 = app.namesConfig right 16 :=
    same.namesConfig app (by rw [type]; decide) (by rw [type]; decide)
  simp only [App.handleIo2Loopback, loopbackPayload, identity, named,
    same.lookup identity, same.store identity, same.refuse, same.respond,
    same.encodeError, same.sequence]

/-- A commanded capture drives the hardware the same. -/
theorem executeCaptureOnce
    (same : SameReads left right)
    (identity : App.requestId left = App.requestId right)
    (trigger : byteAt left.payload 52 = byteAt right.payload 52)
    (timeout : readU32 left.payload 56 = readU32 right.payload 56)
    (app : App)
    (capacity : Nat)
    (hardware : Hardware) :
    app.executeCaptureOnce left capacity hardware =
      app.executeCaptureOnce right capacity hardware := by
  have calls :
      app.captureCalls left hardware = app.captureCalls right hardware := by
    rw [captureCalls, captureCalls, trigger, timeout]
  have captured (app : App) (report : CaptureReport) :
      app.captured left report = app.captured right report := by
    rw [App.captured, App.captured, identity, same.sequence]
  have ack (app : App) (messageType : UInt8) (checksum : UInt32) :
      app.ackPayload left messageType checksum =
        app.ackPayload right messageType checksum := by
    rw [ackPayload, ackPayload, identity]
  unfold App.executeCaptureOnce
  simp only [same.encodeError, same.respond, same.store identity, calls,
    captured, ack]

/-- A CAPTURE_ONCE is handled the same. -/
theorem handleCaptureOnce
    (same : SameReads left right)
    (type : left.messageType = Message.captureOnce)
    (app : App)
    (capacity : Nat)
    (hardware : Hardware) :
    app.handleCaptureOnce left capacity hardware =
      app.handleCaptureOnce right capacity hardware := by
  have identity := same.requestId (by rw [type]; decide)
  have named (app : App) :
      app.namesConfig left 16 = app.namesConfig right 16 :=
    same.namesConfig app (by rw [type]; decide) (by rw [type]; decide)
  have trigger : byteAt left.payload 52 = byteAt right.payload 52 :=
    @Agree.byteAt _ _ _ 52 1 same.reads (by rw [type]; decide) 0 (by decide)
  have timeout : readU32 left.payload 56 = readU32 right.payload 56 :=
    same.reads.readU32 (by rw [type]; decide)
  have unsafeCapture :
      app.captureOnceUnsafe left = app.captureOnceUnsafe right := by
    rw [captureOnceUnsafe, captureOnceUnsafe, trigger, timeout]
  simp only [App.handleCaptureOnce, same.lookup identity, same.refuse, named,
    unsafeCapture, same.sequence,
    same.executeCaptureOnce identity trigger timeout]

/-- A START_PERIODIC is handled the same. -/
theorem handleStartPeriodic
    (same : SameReads left right)
    (type : left.messageType = Message.startPeriodic)
    (app : App)
    (capacity : Nat) :
    app.handleStartPeriodic left capacity =
      app.handleStartPeriodic right capacity := by
  have identity := same.requestId (by rw [type]; decide)
  have named (app : App) :
      app.namesConfig left 32 = app.namesConfig right 32 :=
    same.namesConfig app (by rw [type]; decide) (by rw [type]; decide)
  have schedule : slice left.payload 16 16 = slice right.payload 16 16 :=
    same.reads.slice (by rw [type]; decide)
  have word (offset : Nat)
      (member : (offset, 4) ∈ handlerReads left.messageType) :
      readU32 left.payload offset = readU32 right.payload offset :=
    same.reads.readU32 member
  simp only [App.handleStartPeriodic, encodeAck, ackPayload, identity, named,
    schedule, word 68 (by rw [type]; decide), word 72 (by rw [type]; decide),
    word 76 (by rw [type]; decide), same.refuse, same.respond]

/-- A RENEW_PERIODIC_LEASE is handled the same. -/
theorem handleRenewPeriodic
    (same : SameReads left right)
    (type : left.messageType = Message.renewPeriodicLease)
    (app : App)
    (capacity : Nat) :
    app.handleRenewPeriodic left capacity =
      app.handleRenewPeriodic right capacity := by
  have field (offset : Nat)
      (member : (offset, 16) ∈ handlerReads left.messageType) :
      slice left.payload offset 16 = slice right.payload offset 16 :=
    same.reads.slice member
  have word (offset : Nat)
      (member : (offset, 4) ∈ handlerReads left.messageType) :
      readU32 left.payload offset = readU32 right.payload offset :=
    same.reads.readU32 member
  simp only [App.handleRenewPeriodic, field 0 (by rw [type]; decide),
    field 16 (by rw [type]; decide), word 32 (by rw [type]; decide),
    word 36 (by rw [type]; decide), same.refuse, same.respond]

/-- A STOP is handled the same. -/
theorem handleStop
    (same : SameReads left right)
    (type : left.messageType = Message.stop)
    (app : App)
    (capacity : Nat)
    (hardware : Hardware) :
    app.handleStop left capacity hardware =
      app.handleStop right capacity hardware := by
  have identity := same.requestId (by rw [type]; decide)
  have schedule : slice left.payload 16 16 = slice right.payload 16 16 :=
    same.reads.slice (by rw [type]; decide)
  simp only [App.handleStop, encodeAck, ackPayload, identity, schedule,
    same.refuse, same.respond]

/-- Requests that cannot be told apart by what is read are handled the
same. -/
theorem handle
    (same : SameReads left right)
    (app : App)
    (capacity : Nat)
    (hardware : Hardware) :
    app.handle left capacity hardware = app.handle right capacity hardware := by
  unfold App.handle
  rw [← same.flags, ← same.messageType]
  refine ite_congr rfl (fun _ => same.refuse ..) fun _ => ?_
  refine ite_congr rfl (fun type => same.handleHello type ..) fun _ => ?_
  refine ite_congr rfl (fun _ => same.refuse ..) fun _ => ?_
  refine ite_congr rfl (fun _ => ?_) fun _ => ?_
  · rw [handleGetCapabilities, handleGetCapabilities, same.respond]
  refine ite_congr rfl (fun _ => ?_) fun _ => ?_
  · rw [handleGetStatus, handleGetStatus, same.respond]
  refine ite_congr rfl (fun _ => ?_) fun _ => ?_
  · simp only [handleGetConfig, same.respond, same.refuse]
  refine ite_congr rfl (fun type => same.handleSetConfig type ..) fun _ => ?_
  refine ite_congr rfl (fun type => same.handleIo2Loopback type ..)
    fun _ => ?_
  refine ite_congr rfl (fun type => same.handleCaptureOnce type ..)
    fun _ => ?_
  refine ite_congr rfl (fun type => same.handleStartPeriodic type ..)
    fun _ => ?_
  refine ite_congr rfl (fun type => same.handleRenewPeriodic type ..)
    fun _ => ?_
  exact ite_congr rfl (fun type => same.handleStop type ..) fun _ =>
    same.refuse ..

end SameReads

/-- A handler reads only of types whose length is listed, and within that
length. -/
theorem handlerReads_within
    {messageType : UInt8}
    {range : Nat × Nat}
    (member : range ∈ handlerReads messageType) :
    ∃ required, Mcu.requiredLength? messageType = some required ∧
      range.1 + range.2 ≤ required := by
  unfold handlerReads at member
  split_ifs at member with hello setConfig loopback captureOnce start renew
    stop
  · exact ⟨20, by rw [hello]; rfl, by revert range; decide⟩
  · exact ⟨120, by rw [setConfig]; rfl, by revert range; decide⟩
  · exact ⟨56, by rw [loopback]; rfl, by revert range; decide⟩
  · exact ⟨60, by rw [captureOnce]; rfl, by revert range; decide⟩
  · exact ⟨80, by rw [start]; rfl, by revert range; decide⟩
  · exact ⟨40, by rw [renew]; rfl, by revert range; decide⟩
  · exact ⟨32, by rw [stop]; rfl, by revert range; decide⟩
  · exact absurd member List.not_mem_nil

end App

namespace Mcu

/-- What holds of a frame that a handler receives: a listed type has the
length it requires, what the handler sees of the payload lies within it, and a
lease timeout fits the sixteen bits it is cast to. -/
structure FrameBounds (view : FrameView) : Prop where
  length :
    ∀ required, requiredLength? view.messageType = some required →
      view.payload.length = required
  reads :
    ∀ range ∈ App.payloadReads view,
      range.1 + range.2 ≤ view.payload.length
  handled :
    ∀ (app : App) (capacity : Nat) (hardware : Hardware) (other : FrameView),
      App.SameReads view other →
        app.handle view capacity hardware = app.handle other capacity hardware
  startLease :
    view.messageType = Message.startPeriodic →
      (readU32 view.payload 76).toUInt16.toNat =
        (readU32 view.payload 76).toNat
  renewedLease :
    view.messageType = Message.renewPeriodicLease →
      (readU32 view.payload 36).toUInt16.toNat =
        (readU32 view.payload 36).toNat

/-- A timeout of at most ten seconds fits sixteen bits. -/
theorem toUInt16_of_le
    {timeout : UInt32}
    (short : ¬timeout > 10000) :
    timeout.toUInt16.toNat = timeout.toNat := by
  have bound : timeout.toNat ≤ 10000 := by
    have := UInt32.le_iff_toNat_le.1 (UInt32.not_lt.1 short)
    simpa using this
  rw [UInt32.toNat_toUInt16]
  exact Nat.mod_eq_of_lt (by omega)

/-- A frame that the parser accepts is read within its bounds. -/
theorem FrameView.Accepted.frameBounds
    {view : FrameView}
    (accepted : view.Accepted) :
    FrameBounds view where
  length _ listed := Parser.length_of_lengthAllowed accepted.length listed
  reads range member := by
    rcases List.mem_append.1 member with identity | member
    · split_ifs at identity with long
      · rw [List.mem_singleton.1 identity]
        exact long
      · exact absurd identity List.not_mem_nil
    · obtain ⟨required, listed, within⟩ := App.handlerReads_within member
      rwa [Parser.length_of_lengthAllowed accepted.length listed]
  handled app capacity hardware _ same := same.handle app capacity hardware
  startLease type := by
    apply toUInt16_of_le
    intro long
    have payload := accepted.payload
    rw [type] at payload
    simp [payloadAllowed, Message.hello, Message.setConfig,
      Message.captureOnce, Message.runIo2LoopbackTest, Message.startPeriodic,
      long] at payload
  renewedLease type := by
    apply toUInt16_of_le
    intro long
    have payload := accepted.payload
    rw [type] at payload
    simp [payloadAllowed, Message.hello, Message.setConfig,
      Message.captureOnce, Message.runIo2LoopbackTest, Message.startPeriodic,
      Message.renewPeriodicLease, long] at payload

namespace Parser

/-- After any bytes and timeouts the parser holds less than the longest command
frame and has room for the next byte, whose checks read nothing but the bytes
that have arrived, and a frame it emits is read within its bounds. -/
theorem after_bounded
    (signals : List Signal) :
    (after signals).Bounded ∧
      ∀ byte,
        (after signals).feed? byte = some ((after signals).feed byte) ∧
          ∀ view, ((after signals).feed byte).2 = .frame view →
            FrameBounds view := by
  have wellFormed := after_wellFormed signals
  refine ⟨wellFormed.bounded, fun byte => ⟨wellFormed.feed?_eq byte, ?_⟩⟩
  intro view emitted
  exact ((feed_fed wellFormed byte).accepted view emitted).frameBounds

end Parser

end Mcu

end Usac.Firmware
