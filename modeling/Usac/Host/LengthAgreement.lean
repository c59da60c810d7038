import Usac.Host.MessageTable
import Usac.Host.StreamAccounting

namespace Usac.Host

open Library

/-!
# The encoders and the length policy

What the payload encoders write, in a frame with the flags of its direction,
passes the policy of the stream parser. Only a capture can be longer than the
policy admits: its encoder has no limit on the number of samples.
-/

/-- Which way a message goes, and whether it answers a request. -/
inductive Direction where
  | request
  | response
  | async
  deriving DecidableEq

/-- The flags a frame of a direction may carry. -/
def Direction.flags : Direction → List UInt16
  | request => [Flags.none]
  | response => responseFlags
  | async => asyncFlags

/-- The requests without a payload. -/
inductive Inquiry where
  | capabilities
  | config
  | status
  deriving DecidableEq

/-- What a frame carries. -/
inductive Content where
  | formatted (format : MessageFormat) (message : format.Message)
  | inquiry (about : Inquiry)
  | appliedConfig (config : AcquisitionConfigV2)
  | captured (capture : CaptureData)

namespace MessageFormat

/-- The message type of a format. -/
def messageType : MessageFormat → MessageType
  | helloRequest | helloResponse => .hello
  | setConfigRequest => .setConfig
  | captureOnceRequest => .captureOnce
  | capabilitiesResponse => .getCapabilities
  | startPeriodicRequest => .startPeriodic
  | renewPeriodicLease => .renewPeriodicLease
  | stopRequest => .stop
  | statusResponse => .getStatus
  | io2LoopbackRequest | io2LoopbackResult => .runIo2LoopbackTest
  | ack => .ack
  | error => .error
  | bridgeCaptureDelivery => .bridgeCaptureDelivery
  | captureCommittedRequest | captureCommittedResponse => .captureCommitted

/-- The directions a format goes. -/
def directions : MessageFormat → List Direction
  | helloRequest | setConfigRequest | captureOnceRequest
  | startPeriodicRequest | stopRequest | io2LoopbackRequest
  | captureCommittedRequest => [.request]
  | helloResponse | capabilitiesResponse | statusResponse | io2LoopbackResult
  | ack | error | captureCommittedResponse => [.response]
  | renewPeriodicLease => [.request, .response]
  | bridgeCaptureDelivery => [.async]

end MessageFormat

namespace Content

/-- The message type that carries a content. -/
def messageType : Content → MessageType
  | formatted format _ => format.messageType
  | inquiry .capabilities => .getCapabilities
  | inquiry .config => .getConfig
  | inquiry .status => .getStatus
  | appliedConfig _ => .getConfig
  | captured _ => .captureData

/-- The directions a content goes. -/
def directions : Content → List Direction
  | formatted format _ => format.directions
  | inquiry _ => [.request]
  | appliedConfig _ => [.response]
  | captured _ => [.response, .async]

/-- The payload of a content. -/
def payload : Content → Except Raised (List UInt8)
  | formatted format message => format.encode message
  | inquiry _ => .ok []
  | appliedConfig config => config.encode
  | captured capture => capture.encode

/-- A capture is no longer than the longest the policy admits. -/
def Short : Content → Prop
  | captured capture =>
      188 + 2 * capture.registerPairs.length + 16 * capture.events.length +
        2 * capture.samples.length ≤ 4576
  | _ => True

end Content

/-- A frame can be encoded, breaks no rule on flags and lengths, and is returned
by a parser that is fed nothing else. -/
structure Passes (frame : Frame) : Prop where
  allowed : StreamScan.Allowed frame
  returned : ∃ bytes,
    frame.encode = .ok bytes ∧
      ∀ (parser : HostStreamParser) (nowMs : Int),
        parser.buffer = [] →
          parser.candidateStartedMs = none →
            ∃ after,
              parser.feed bytes nowMs = .ok ([frame], after) ∧
                after.buffer = [] ∧
                after.diagnostics = parser.diagnostics

/-! ## Flags -/

/-- The flags of a direction say whether the frame is a response. -/
theorem Direction.response_iff
    {direction : Direction}
    {flags : UInt16}
    (flagged : flags ∈ direction.flags) :
    (flags &&& Flags.response != 0) = (direction == .response) := by
  cases direction with
  | request =>
      rw [List.mem_singleton.1 flagged]
      rfl
  | response =>
      rcases List.mem_pair.1 flagged with rfl | rfl <;> rfl
  | async =>
      rcases List.mem_pair.1 flagged with rfl | rfl <;> rfl

/-- What is checked of each flag of each direction holds of all of them. -/
theorem everyFlag
    {directions : List Direction}
    {admits : UInt16 → Bool}
    (checked :
      (directions.all fun direction => direction.flags.all admits) = true) :
    ∀ direction ∈ directions, ∀ flags ∈ direction.flags,
      admits flags = true := by
  intro direction goes
  exact List.all_eq_true.1 (List.all_eq_true.1 checked direction goes)

/-- The flags of a direction are admitted for the messages that go there. -/
theorem Content.flags_valid (content : Content) :
    ∀ direction ∈ content.directions, ∀ flags ∈ direction.flags,
      flagsAreValidForMessage content.messageType flags = true := by
  apply everyFlag
  cases content with
  | formatted format message => cases format <;> rfl
  | inquiry about => cases about <;> rfl
  | appliedConfig config => rfl
  | captured capture => rfl

/-- The flags of a direction are among those a frame can have. -/
theorem Direction.flags_known (direction : Direction) :
    ∀ flags ∈ direction.flags, flags &&& ~~~Frame.validFlagsMask = 0 := by
  intro flags flagged
  have checked : ([direction].all fun direction =>
      direction.flags.all
        fun flags => flags &&& ~~~Frame.validFlagsMask == 0) = true := by
    cases direction <;> rfl
  exact beq_iff_eq.1 (everyFlag checked direction
    (List.mem_singleton_self _) flags flagged)

/-! ## Lengths -/

/-- A decoder that first checks the size accepts nothing of another size. -/
theorem length_of_sized
    {Message : Type}
    {size : Nat}
    {data : List UInt8}
    {raised : Raised}
    {rest : Unit → Except Raised Message}
    {message : Message}
    (decoded :
      (require (data.length = size) raised >>= rest) = .ok message) :
    data.length = size := by
  obtain ⟨⟨⟩, checked, -⟩ := bind_eq_ok.1 decoded
  exact require_eq_ok.1 checked

/-- The size of the payloads of a format, where it is fixed. -/
def MessageFormat.size? : MessageFormat → Option Nat
  | helloRequest => some 20
  | helloResponse => some 64
  | captureOnceRequest => some 60
  | capabilitiesResponse => some 24
  | startPeriodicRequest => some 80
  | renewPeriodicLease => some 40
  | stopRequest => some 32
  | statusResponse => some 100
  | io2LoopbackRequest => some 56
  | io2LoopbackResult => some 86
  | ack => some 24
  | captureCommittedRequest => some 68
  | captureCommittedResponse => some 24
  | setConfigRequest | error | bridgeCaptureDelivery => none

theorem MessageFormat.length_of_size
    {format : MessageFormat}
    {message : format.Message}
    {payload : List UInt8}
    {size : Nat}
    (encoded : format.encode message = .ok payload)
    (fixed : format.size? = some size) :
    payload.length = size := by
  have decoded := format.decode_of_encode encoded
  cases format with
  | setConfigRequest => cases fixed
  | error => cases fixed
  | bridgeCaptureDelivery => cases fixed
  | _ =>
      cases fixed
      exact length_of_sized decoded

/-- The policy knows the fixed sizes. -/
theorem MessageFormat.size_valid
    {format : MessageFormat}
    {size : Nat}
    (fixed : format.size? = some size) :
    ∀ direction ∈ format.directions, ∀ flags ∈ direction.flags,
      payloadLengthIsValid format.messageType flags size = true := by
  apply everyFlag
  cases format with
  | setConfigRequest => cases fixed
  | error => cases fixed
  | bridgeCaptureDelivery => cases fixed
  | _ =>
      cases fixed
      rfl

/-- An applied configuration has up to ten register pairs. -/
theorem AcquisitionConfigV2.length_of_encode
    {config : AcquisitionConfigV2}
    {payload : List UInt8}
    (encoded : config.encode = .ok payload) :
    payload.length = 52 + 2 * config.registerPairs.length ∧
      config.registerPairs.length ≤ 10 := by
  obtain ⟨consistent, rfl⟩ := encode_eq_ok.1 encoded
  obtain ⟨few, -⟩ := count_of_values consistent.values
  refine ⟨?_, few⟩
  rw [wireForm_eq_head]
  simp [length_pairBytes]
  omega

theorem SetConfigRequest.length_of_encode
    {message : SetConfigRequest}
    {payload : List UInt8}
    (encoded : message.encode = .ok payload) :
    payload.length = 100 + 2 * message.config.registerPairs.length ∧
      message.config.registerPairs.length ≤ 10 := by
  obtain ⟨config, inner, encoded⟩ := bind_eq_ok.1 encoded
  cases encoded
  obtain ⟨length, few⟩ := AcquisitionConfigV2.length_of_encode inner
  refine ⟨?_, few⟩
  simp [length]
  omega

/-- The text of an error has up to 63 bytes. -/
theorem ErrorResponse.length_of_encode
    {message : ErrorResponse}
    {payload : List UInt8}
    (encoded : message.encode = .ok payload) :
    29 ≤ payload.length ∧ payload.length ≤ 92 := by
  obtain ⟨⟨⟩, short, encoded⟩ := bind_eq_ok.1 encoded
  cases encoded
  have few := require_eq_ok.1 short
  generalize message.message.toUTF8.data.toList = text at few ⊢
  simp
  omega

/-- A delivery holds the frame of a capture. -/
theorem BridgeCaptureDelivery.length_of_encode
    {message : BridgeCaptureDelivery}
    {payload : List UInt8}
    (encoded : message.encode = .ok payload) :
    264 ≤ payload.length ∧ payload.length ≤ 4708 := by
  obtain ⟨⟨⟩, valid, encoded⟩ := bind_eq_ok.1 encoded
  cases encoded
  obtain ⟨⟨⟩, bounds, -⟩ := bind_eq_ok.1 valid
  have inner := require_eq_ok.1 bounds
  simp
  omega

/-- A capture is as long as its counts say. -/
theorem CaptureData.length_of_encode
    {capture : CaptureData}
    {payload : List UInt8}
    (encoded : capture.encode = .ok payload) :
    payload.length =
      188 + 2 * capture.registerPairs.length + 16 * capture.events.length +
        2 * capture.samples.length := by
  obtain ⟨⟨⟩, -, encoded⟩ := bind_eq_ok.1 encoded
  cases encoded
  have registers :=
    @length_flatMap_records _ (fun pair : UInt8 × UInt8 => [pair.1, pair.2]) 2
      (fun _ => rfl) capture.registerPairs
  have events :=
    @length_flatMap_records _ CaptureEvent.bytes 16 length_bytes capture.events
  have samples :=
    @length_flatMap_records _ writeU16 2 length_writeU16 capture.samples
  unfold variableBytes
  simp only [List.length_append, length_identityBytes, length_numberBytes,
    length_countBytes, registers, events, samples]
  omega

/-- The policy admits the lengths a format can have. -/
theorem MessageFormat.length_valid
    {format : MessageFormat}
    {message : format.Message}
    {payload : List UInt8}
    (encoded : format.encode message = .ok payload)
    {direction : Direction}
    (goes : direction ∈ format.directions)
    {flags : UInt16}
    (flagged : flags ∈ direction.flags) :
    payloadLengthIsValid format.messageType flags payload.length = true := by
  have answers := Direction.response_iff flagged
  cases fixed : format.size? with
  | some size =>
      rw [length_of_size encoded fixed]
      exact size_valid fixed direction goes flags flagged
  | none =>
      cases format with
      | setConfigRequest =>
          cases List.mem_singleton.1 goes
          obtain ⟨length, few⟩ := SetConfigRequest.length_of_encode encoded
          simp [messageType, payloadLengthIsValid, answers, evenRange, length]
          omega
      | error =>
          obtain ⟨long, short⟩ := ErrorResponse.length_of_encode encoded
          simp [messageType, payloadLengthIsValid, long, short]
      | bridgeCaptureDelivery =>
          obtain ⟨long, short⟩ :=
            BridgeCaptureDelivery.length_of_encode encoded
          simp [messageType, payloadLengthIsValid, long, short]
      | _ => cases fixed

/-- The policy admits the length of a content exactly when it is short. -/
theorem Content.length_valid
    {content : Content}
    {payload : List UInt8}
    (encoded : content.payload = .ok payload)
    {direction : Direction}
    (goes : direction ∈ content.directions)
    {flags : UInt16}
    (flagged : flags ∈ direction.flags) :
    payloadLengthIsValid content.messageType flags payload.length = true ↔
      content.Short := by
  have answers := Direction.response_iff flagged
  cases content with
  | formatted format message =>
      exact iff_true_intro (format.length_valid encoded goes flagged)
  | inquiry about =>
      cases List.mem_singleton.1 goes
      cases encoded
      refine iff_true_intro ?_
      cases about <;>
        simp [messageType, payloadLengthIsValid, answers]
  | appliedConfig config =>
      cases List.mem_singleton.1 goes
      obtain ⟨length, few⟩ := AcquisitionConfigV2.length_of_encode encoded
      refine iff_true_intro ?_
      simp [messageType, payloadLengthIsValid, answers, evenRange, length]
      omega
  | captured capture =>
      have length := CaptureData.length_of_encode encoded
      simp [messageType, payloadLengthIsValid, Short, length]
      omega

/-! ## Agreement -/

/-- No admitted payload exceeds the limit of a frame. -/
theorem short_of_payloadLengthIsValid
    {messageType : MessageType}
    {flags : UInt16}
    {length : Nat}
    (valid : payloadLengthIsValid messageType flags length = true) :
    length ≤ Frame.hostMaxPayloadLength := by
  suffices bounded : length ≤ 4708 from Nat.le_trans bounded (by decide)
  cases messageType <;>
    grind [payloadLengthIsValid, evenRange]

/-- An allowed frame with the flags of a direction can be encoded. -/
theorem encode_of_allowed
    {frame : Frame}
    (allowed : StreamScan.Allowed frame)
    {direction : Direction}
    (flagged : frame.flags ∈ direction.flags)
    (current : frame.protocolVersion = Frame.currentVersion) :
    ∃ bytes, frame.encode = .ok bytes := by
  have known : frame.flags &&& ~~~Frame.validFlagsMask = 0 :=
    Direction.flags_known direction frame.flags flagged
  have valid : frame.validateFields = .ok () := by
    unfold Frame.validateFields
    rw [require_pos current, ok_bind, require_pos known, ok_bind,
      require_pos (short_of_payloadLengthIsValid allowed.length)]
  unfold Frame.encode
  rw [valid, ok_bind]
  exact ⟨_, rfl⟩

/-- A parser with nothing in its buffer returns an allowed frame. -/
theorem passes_of_allowed
    {frame : Frame}
    {bytes : List UInt8}
    (allowed : StreamScan.Allowed frame)
    (encoded : frame.encode = .ok bytes)
    (short : bytes.length ≤ hostRxBufferLimit) :
    Passes frame := by
  refine ⟨allowed, bytes, encoded, fun parser nowMs empty fresh => ?_⟩
  have judged := StreamScan.judge_of_encode encoded allowed []
  rw [List.append_nil] at judged
  have nothing : streamScanner.judge [] = .wait := rfl
  have scanned :
      streamScanner.scan bytes = ([.item frame], []) := by
    rw [Scanner.scan_found judged, List.drop_length, Scanner.scan_wait nothing]
  have fits :
      (parser.buffer ++ bytes).length ≤ hostRxBufferLimit := by
    rw [empty]
    exact short
  obtain ⟨after, fed, -, left, counted⟩ :=
    HostStreamParser.feed_scans (.inl fresh) fits
  rw [empty, List.nil_append, scanned] at fed left counted
  exact ⟨after, fed, left, counted⟩

/--
A frame with what a payload encoder writes and the flags of its direction
passes exactly when it does not hold a capture that is too long.
-/
theorem encoders_keep_policy
    {content : Content}
    {payload : List UInt8}
    (encoded : content.payload = .ok payload)
    {direction : Direction}
    (goes : direction ∈ content.directions)
    {flags : UInt16}
    (flagged : flags ∈ direction.flags)
    (sequence : UInt32) :
    Passes {
        messageType := content.messageType
        sequence := sequence
        payload := payload
        flags := flags
        protocolVersion := Frame.currentVersion
      } ↔
      content.Short := by
  have admitted := Content.length_valid encoded goes flagged
  constructor
  · intro passes
    exact admitted.1 passes.allowed.length
  · intro short
    have allowed : StreamScan.Allowed {
        messageType := content.messageType
        sequence := sequence
        payload := payload
        flags := flags
        protocolVersion := Frame.currentVersion
      } :=
      ⟨content.flags_valid direction goes flags flagged, admitted.2 short⟩
    obtain ⟨bytes, written⟩ := encode_of_allowed allowed flagged rfl
    refine passes_of_allowed allowed written ?_
    have limit := short_of_payloadLengthIsValid allowed.length
    rw [Frame.length_encode written]
    exact Nat.le_trans
      (Nat.add_le_add_right (Nat.add_le_add_left limit _) _) (by decide)

/-- A capture that passes its checks is written part by part. -/
theorem Content.payload_captured
    {capture : CaptureData}
    (valid : capture.validate = .ok ()) :
    (Content.captured capture).payload =
      .ok (capture.identityBytes ++ (capture.numberBytes ++
        (capture.countBytes ++ capture.variableBytes))) := by
  show CaptureData.encode capture = _
  rw [CaptureData.encode, valid, ok_bind]
  rfl

/-- A capture with registers, an event on either line and some samples. -/
def recordedCapture : CaptureData :=
  { CaptureData.readFields CaptureData.smallestPayload with
    sampleIntervalTicks := 120
    sampleCount := 6
    pretriggerCount := 2
    adc0HoldOffsetTicks := -3
    registerPairs := [(0x10, 0x3F), (0x11, 0x00), (0x16, 0x01)]
    events := [⟨3, 1, 1, 1, 0, 17, 2, 137⟩, ⟨4, 2, 2, 0, -1, 119, 2, 0⟩]
    samples := [0, 4095, 2048, 17, 1023, 4094] }

/-- A capture with registers and events is short enough. -/
theorem encoders_keep_policy_recordedCapture :
    ∃ payload, recordedCapture.encode = .ok payload ∧
      Passes {
        messageType := .captureData
        sequence := 1
        payload := payload
        flags := Flags.async
        protocolVersion := Frame.currentVersion
      } := by
  have encoded := Content.payload_captured
    (show recordedCapture.validate = .ok () by decide +kernel)
  have goes :
      Direction.async ∈ (Content.captured recordedCapture).directions :=
    List.mem_cons_of_mem _ List.mem_cons_self
  exact ⟨_, encoded,
    (encoders_keep_policy encoded goes List.mem_cons_self 1).2
      (show _ ≤ 4576 by decide +kernel)⟩

/-- A capture of 3000 samples. -/
def longCapture : CaptureData :=
  { CaptureData.readFields CaptureData.smallestPayload with
    sampleCount := 3000
    samples := List.replicate 3000 0 }

/-- The encoder accepts a capture that the policy does not admit. -/
theorem not_keep_policy_longCapture :
    ¬∀ (content : Content) (payload : List UInt8),
      content.payload = .ok payload →
        ∀ direction ∈ content.directions, ∀ flags ∈ direction.flags,
          ∀ sequence : UInt32,
            Passes {
              messageType := content.messageType
              sequence := sequence
              payload := payload
              flags := flags
              protocolVersion := Frame.currentVersion
            } := by
  intro keeps
  have encoded := Content.payload_captured
    (show longCapture.validate = .ok () by decide +kernel)
  have passes :=
    keeps _ _ encoded .async (List.mem_cons_of_mem _ List.mem_cons_self)
      Flags.async List.mem_cons_self 0
  have short :=
    (Content.length_valid encoded (List.mem_cons_of_mem _ List.mem_cons_self)
      List.mem_cons_self).1 passes.allowed.length
  exact absurd short (show ¬_ ≤ 4576 by decide +kernel)

end Usac.Host
