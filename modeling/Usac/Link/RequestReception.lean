import Usac.Firmware.FrameReception
import Usac.Firmware.Request
import Usac.Host.ClientRequests
import Usac.Host.LengthAgreement
import Usac.Link.Codec

namespace Usac.Link

open Library
open Firmware (ConfigV2)
open Host (AcquisitionConfigV2 ClientRequest Frame MessageFormat
  require_eq_ok bind_eq_ok)

/-!
# The requests of the host at the microcontroller

Every request of the bridge client is a frame the parser of the
microcontroller takes, and the configuration of a SET_CONFIG is stored and
reported as it has been sent.
-/

/-- The parser takes the bytes of a frame whose view it accepts. -/
theorem whole_of_encode
    {frame : Frame}
    {bytes : List UInt8}
    (encoded : frame.encode = .ok bytes)
    (accepted : (received frame).Accepted) :
    Firmware.Mcu.Parser.Whole bytes (received frame) := by
  have passed :=
    Frame.accepted_of_decode (Frame.decode_of_encode encoded)
  obtain ⟨known, flags, length, version, reserved, -⟩ :=
    Host.StreamScan.fields_of_accepted passed
  have code := Host.MessageType.code_of_ofCode? known
  have announced :
      Firmware.Mcu.Parser.announced bytes = frame.payload.length :=
    length.symm
  obtain ⟨opens, sized, ⟨messageType, -, read⟩, -, crc⟩ := passed
  have short : ¬Firmware.Mcu.maxCommandPayload < frame.payload.length :=
    Nat.not_lt.2 accepted.bounded
  have fixed :
      ¬(byteAt bytes 4 ≠ Firmware.Mcu.protocolVersion ∨
        readU16 bytes 6 &&& ~~~7 ≠ 0) := by
    rw [not_or, not_not, not_not]
    exact ⟨version, reserved⟩
  have lengthAllowed :
      Firmware.Mcu.lengthAllowed (byteAt bytes 5) frame.payload.length =
        true := by
    rw [← code]
    exact accepted.length
  have payload :
      (bytes.drop 16).take (readU32 bytes 12).toNat = frame.payload := by
    rw [read]
    rfl
  have payloadAllowed :
      Firmware.Mcu.payloadAllowed (byteAt bytes 5) frame.payload = true := by
    rw [← code]
    exact accepted.payload
  have sequence : readU32 bytes 8 = frame.sequence := by
    rw [read]
    rfl
  exact {
    opens := opens
    sized := sized
    short := by rw [announced]; exact accepted.bounded
    validated := by
      rw [announced]
      unfold Firmware.Mcu.validateHeader
      rw [if_neg fixed, if_neg short, if_pos lengthAllowed]
    completes := by
      unfold Firmware.Mcu.Parser.complete
      dsimp only
      rw [Firmware.Mcu.headerSize, payload, if_pos payloadAllowed, if_neg]
      · rw [← code, ← flags, sequence]
        rfl
      · exact not_not.2 crc.symm
  }

/-! ## What the parser checks -/

/-- A command is accepted when its length and its fixed fields are allowed. -/
theorem accepted_command
    {messageType : Host.MessageType}
    {payload : List UInt8}
    (sequence : UInt32)
    (bounded : payload.length ≤ Firmware.Mcu.maxCommandPayload)
    (length :
      Firmware.Mcu.lengthAllowed messageType.code payload.length = true)
    (allowed :
      Firmware.Mcu.payloadAllowed messageType.code payload = true) :
    (received (Frame.command messageType sequence payload)).Accepted where
  flags := UInt16.zero_and
  bounded := bounded
  length := length
  payload := allowed

/-- A request without a payload is accepted. -/
theorem accepted_inquiry
    (messageType : Host.MessageType)
    (inquires :
      messageType = .getCapabilities ∨ messageType = .getConfig ∨
        messageType = .getStatus)
    (sequence : UInt32) :
    (received (Frame.command messageType sequence [])).Accepted := by
  rcases inquires with rfl | rfl | rfl <;>
    exact accepted_command sequence (by decide) (by decide) (by decide)

theorem accepted_hello
    {nonce : Bytes 16}
    {payload : List UInt8}
    (encoded : Host.HelloRequest.encode ⟨nonce, 1, 1⟩ = .ok payload)
    (sequence : UInt32) :
    (received (Frame.command .hello sequence payload)).Accepted := by
  obtain ⟨⟨⟩, -, encoded⟩ := bind_eq_ok.1 encoded
  cases encoded
  have same :
      nonce.toList ++ [1, 1] ++ writeU16 0 = nonce.toList ++ [1, 1, 0, 0] :=
    List.append_assoc _ _ _
  rw [same]
  exact Firmware.Request.helloFrame_accepted sequence nonce

theorem accepted_captureOnce
    {message : Host.CaptureOnceRequest}
    {payload : List UInt8}
    (encoded : message.encode = .ok payload)
    (sequence : UInt32) :
    (received (Frame.command .captureOnce sequence payload)).Accepted := by
  have length : payload.length = 60 :=
    MessageFormat.length_of_size
      (show MessageFormat.captureOnceRequest.encode message = _ from encoded)
      rfl
  obtain ⟨-, rfl⟩ := Host.CaptureOnceRequest.encode_eq_ok.1 encoded
  refine accepted_command sequence (by rw [length]; decide)
    (by rw [length]; decide) ?_
  have known : message.triggerSource.code ≤ 2 := by
    cases message.triggerSource <;> decide
  simp [Firmware.Mcu.payloadAllowed, Host.MessageType.code,
    Firmware.Message.hello, Firmware.Message.setConfig,
    Firmware.Message.captureOnce, byteAt_append_right, byteAt_cons_zero,
    byteAt_cons_succ, known]

theorem accepted_startPeriodic
    {message : Host.StartPeriodicRequest}
    {payload : List UInt8}
    (slow : 100000 ≤ message.periodUs)
    (encoded : message.encode = .ok payload)
    (sequence : UInt32) :
    (received (Frame.command .startPeriodic sequence payload)).Accepted := by
  have decoded := (Host.StartPeriodicRequest.exact payload message).2 encoded
  obtain ⟨⟨⟩, sized, decoded⟩ := bind_eq_ok.1 decoded
  obtain ⟨_, -, decoded⟩ := bind_eq_ok.1 decoded
  cases decoded
  obtain ⟨⟨⟩, named, encoded⟩ := bind_eq_ok.1 encoded
  obtain ⟨⟨⟩, -, encoded⟩ := bind_eq_ok.1 encoded
  obtain ⟨⟨⟩, leased, -⟩ := bind_eq_ok.1 encoded
  have length := require_eq_ok.1 sized
  obtain ⟨long, short⟩ := require_eq_ok.1 leased
  refine accepted_command sequence (by rw [length]; decide)
    (by rw [length]; decide) ?_
  simp [Firmware.Mcu.payloadAllowed, Host.MessageType.code,
    Firmware.Message.hello, Firmware.Message.setConfig,
    Firmware.Message.captureOnce, Firmware.Message.runIo2LoopbackTest,
    Firmware.Message.startPeriodic, require_eq_ok.1 named, slow, long, short]

theorem accepted_renewPeriodic
    {message : Host.RenewPeriodicLease}
    {payload : List UInt8}
    (long : 1000 ≤ message.leaseTimeoutOrRemainingMs)
    (encoded : message.encode = .ok payload)
    (sequence : UInt32) :
    (received
      (Frame.command .renewPeriodicLease sequence payload)).Accepted := by
  have decoded := (Host.RenewPeriodicLease.exact payload message).2 encoded
  obtain ⟨⟨⟩, sized, decoded⟩ := bind_eq_ok.1 decoded
  obtain ⟨⟨⟩, valid, decoded⟩ := bind_eq_ok.1 decoded
  cases decoded
  obtain ⟨⟨⟩, -, valid⟩ := bind_eq_ok.1 valid
  obtain ⟨⟨⟩, numbered, valid⟩ := bind_eq_ok.1 valid
  have length := require_eq_ok.1 sized
  have short := require_eq_ok.1 valid
  refine accepted_command sequence (by rw [length]; decide)
    (by rw [length]; decide) ?_
  have later : readU32 payload 32 ≠ 0 := by
    intro zero
    have one := require_eq_ok.1 numbered
    dsimp only at one
    rw [zero] at one
    exact absurd one (by decide)
  simp [Firmware.Mcu.payloadAllowed, Host.MessageType.code,
    Firmware.Message.hello, Firmware.Message.setConfig,
    Firmware.Message.captureOnce, Firmware.Message.runIo2LoopbackTest,
    Firmware.Message.startPeriodic, Firmware.Message.renewPeriodicLease,
    later, long, short]

theorem accepted_stopPeriodic
    (message : Host.StopRequest)
    (sequence : UInt32) :
    (received
      (Frame.command .stop sequence message.encode)).Accepted := by
  have length : message.encode.length = 32 :=
    @MessageFormat.length_of_size .stopRequest message _ _ rfl rfl
  refine accepted_command sequence (by rw [length]; decide)
    (by rw [length]; decide) ?_
  rfl

/-- A safe configuration is sent as the frame of a firmware configuration. -/
theorem applyConfig_frame
    {requestId : Bytes 16}
    {expected : Bytes 32}
    {config : AcquisitionConfigV2}
    {payload : List UInt8}
    (approved : config.validateBoostxlDirectAppliedConfig = .ok ())
    (encoded :
      Host.SetConfigRequest.encode ⟨requestId, expected, config⟩ =
        .ok payload) :
    ∃ firmware : ConfigV2,
      firmware.Identified ∧
        hostConfig firmware = config ∧
        payload =
          requestId.toList ++ expected.toList ++ firmware.wireForm := by
  obtain ⟨wire, inner, encoded⟩ := bind_eq_ok.1 encoded
  cases encoded
  obtain ⟨consistent, rfl⟩ := AcquisitionConfigV2.encode_eq_ok.1 inner
  obtain ⟨firmware, identified, same⟩ :=
    exists_firmwareConfig ⟨consistent, approved⟩
  refine ⟨firmware, identified, same, ?_⟩
  rw [← wireForm_hostConfig, same]

/-- The firmware stores the configuration of a SET_CONFIG as it has been sent,
and what it reports of it is decoded to the same configuration. -/
def StoredAsSent (config : AcquisitionConfigV2) (payload : List UInt8) : Prop :=
  ∃ firmware wire,
    ConfigV2.decode (payload.drop 48) = .ok firmware ∧
      hostConfig firmware = config ∧
      firmware.encode ConfigV2.wireLength = .ok wire ∧
      AcquisitionConfigV2.decode wire = .ok config

theorem stored_applyConfig
    {requestId : Bytes 16}
    {expected : Bytes 32}
    {config : AcquisitionConfigV2}
    {payload : List UInt8}
    (approved : config.validateBoostxlDirectAppliedConfig = .ok ())
    (encoded :
      Host.SetConfigRequest.encode ⟨requestId, expected, config⟩ =
        .ok payload) :
    StoredAsSent config payload := by
  obtain ⟨firmware, identified, same, rfl⟩ :=
    applyConfig_frame approved encoded
  have behind :
      (requestId.toList ++ expected.toList ++ firmware.wireForm).drop 48 =
        firmware.wireForm :=
    List.drop_left' (by simp)
  refine ⟨firmware, firmware.wireForm, ?_, same, identified.encode, ?_⟩
  · rw [behind]
    exact decode_wireForm identified
  · rw [← same]
    exact decode_hostConfig identified

/-! ## All requests -/

/-- Every approved request is a frame the parser accepts. -/
theorem accepted_request
    {request : ClientRequest}
    (approved : request.Approved)
    {payload : List UInt8}
    (encoded : request.payload = .ok payload)
    (sequence : UInt32) :
    (received
      (Frame.command request.messageType sequence payload)).Accepted := by
  cases request with
  | hello nonce => exact accepted_hello encoded sequence
  | capabilities =>
      cases encoded
      exact accepted_inquiry _ (.inl rfl) sequence
  | status =>
      cases encoded
      exact accepted_inquiry _ (.inr (.inr rfl)) sequence
  | readConfig =>
      cases encoded
      exact accepted_inquiry _ (.inr (.inl rfl)) sequence
  | applyConfig requestId expected config =>
      obtain ⟨firmware, -, -, rfl⟩ := applyConfig_frame approved encoded
      exact Firmware.Request.setConfigFrame_accepted sequence requestId
        expected firmware
  | captureOnce requestId config triggerSource syncTimeoutMs =>
      exact accepted_captureOnce encoded sequence
  | startPeriodic requestId schedule =>
      obtain ⟨⟨⟩, -, valid⟩ := bind_eq_ok.1 approved
      obtain ⟨⟨⟩, -, valid⟩ := bind_eq_ok.1 valid
      obtain ⟨⟨⟩, slow, -⟩ := bind_eq_ok.1 valid
      exact accepted_startPeriodic (require_eq_ok.1 slow) encoded sequence
  | renewPeriodic renewal =>
      exact accepted_renewPeriodic approved.2.1 encoded sequence
  | stopPeriodic requestId scheduleId =>
      cases encoded
      exact accepted_stopPeriodic ⟨requestId, scheduleId⟩ sequence

/-- What becomes of a request at the microcontroller. -/
structure Understood
    (parser : Firmware.Mcu.Parser)
    (request : ClientRequest)
    (sequence : UInt32)
    (payload : List UInt8) :
    Prop where
  taken : ∃ bytes,
    (Frame.command request.messageType sequence payload).encode = .ok bytes ∧
      parser.answers bytes =
        (.init,
          List.replicate (bytes.length - 1) .incomplete ++
            [.frame {
              messageType := request.messageType.code
              flags := 0
              sequence := sequence
              payload := payload
            }])
  stored : ∀ requestId expected config,
    request = .applyConfig requestId expected config → StoredAsSent config payload

/--
Every request of the client that its callers approve is understood, whatever
the parser has heard before, unless it holds a whole magic.
-/
theorem every_request_understood
    {request : ClientRequest}
    (approved : request.Approved)
    {payload : List UInt8}
    (encoded : request.payload = .ok payload)
    (sequence : UInt32)
    {signals : List Firmware.Mcu.Parser.Signal}
    (waiting : (Firmware.Mcu.Parser.after signals).count < 4) :
    Understood (.after signals) request sequence payload := by
  have accepted := accepted_request approved encoded sequence
  have short : payload.length ≤ Frame.hostMaxPayloadLength :=
    Nat.le_trans accepted.bounded (by decide)
  have written := Frame.encode_command short request.messageType sequence
  have whole := whole_of_encode written accepted
  constructor
  · exact ⟨_, written,
      whole.answers_whole (Firmware.Mcu.Parser.after_wellFormed signals)
        waiting⟩
  · rintro requestId expected config rfl
    exact stored_applyConfig approved encoded

/-- A SET_CONFIG with the configuration of the boot profile. -/
def bootProfileRequest : ClientRequest :=
  .applyConfig (Bytes.zero 16) (Bytes.zero 32) (hostConfig ConfigV2.initD10x4)

/-- It is understood behind half a magic. -/
theorem every_request_understood_bootProfile :
    Understood (.after [.byte 0x55, .byte 0x53]) bootProfileRequest 7
      ((Bytes.zero 16).toList ++ (Bytes.zero 32).toList ++
        (hostConfig ConfigV2.initD10x4).wireForm) := by
  have approved : bootProfileRequest.Approved := by
    show AcquisitionConfigV2.validateBoostxlDirectAppliedConfig _ = _
    rfl
  have encoded :
      bootProfileRequest.payload =
        .ok ((Bytes.zero 16).toList ++ (Bytes.zero 32).toList ++
          (hostConfig ConfigV2.initD10x4).wireForm) := by
    have inner :=
      AcquisitionConfigV2.encode_eq_ok.2
        ⟨consistent_hostConfig ConfigV2.initD10x4_identified, rfl⟩
    show Host.SetConfigRequest.encode _ = _
    unfold Host.SetConfigRequest.encode
    rw [inner]
    rfl
  exact every_request_understood approved encoded 7 (by decide)

end Usac.Link
