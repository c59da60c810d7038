import Usac.Host.MessageFormat

namespace Usac.Host

open Library

/-!
# All message codecs

The codecs of `messages.py` and `bridge_messages.py` as one family. Every
decoder inverts its encoder. An encoder inverts its decoder where the decoder
has looked at every byte.
-/

/-- The message formats of `messages.py` and `bridge_messages.py`. -/
inductive MessageFormat where
  | helloRequest
  | helloResponse
  | setConfigRequest
  | captureOnceRequest
  | capabilitiesResponse
  | startPeriodicRequest
  | renewPeriodicLease
  | stopRequest
  | statusResponse
  | io2LoopbackRequest
  | io2LoopbackResult
  | ack
  | error
  | bridgeCaptureDelivery
  | captureCommittedRequest
  | captureCommittedResponse
  deriving DecidableEq

namespace MessageFormat

/-- The messages of a format. -/
def Message : MessageFormat → Type
  | helloRequest => HelloRequest
  | helloResponse => HelloResponse
  | setConfigRequest => SetConfigRequest
  | captureOnceRequest => CaptureOnceRequest
  | capabilitiesResponse => CapabilitiesResponse
  | startPeriodicRequest => StartPeriodicRequest
  | renewPeriodicLease => RenewPeriodicLease
  | stopRequest => StopRequest
  | statusResponse => StatusResponse
  | io2LoopbackRequest => Io2LoopbackRequest
  | io2LoopbackResult => Io2LoopbackResult
  | ack => Ack
  | error => ErrorResponse
  | bridgeCaptureDelivery => BridgeCaptureDelivery
  | captureCommittedRequest => CaptureCommittedRequest
  | captureCommittedResponse => CaptureCommittedResponse

/-- The encoder of a format. -/
def encode :
    (format : MessageFormat) → format.Message → Except Raised (List UInt8)
  | helloRequest => HelloRequest.encode
  | helloResponse => HelloResponse.encode
  | setConfigRequest => SetConfigRequest.encode
  | captureOnceRequest => CaptureOnceRequest.encode
  | capabilitiesResponse => CapabilitiesResponse.encode
  | startPeriodicRequest => StartPeriodicRequest.encode
  | renewPeriodicLease => RenewPeriodicLease.encode
  | stopRequest => fun message => .ok (StopRequest.encode message)
  | statusResponse => StatusResponse.encode
  | io2LoopbackRequest => Io2LoopbackRequest.encode
  | io2LoopbackResult => Io2LoopbackResult.encode
  | ack => Ack.encode
  | error => ErrorResponse.encode
  | bridgeCaptureDelivery => BridgeCaptureDelivery.encode
  | captureCommittedRequest =>
      fun message => .ok (CaptureCommittedRequest.encode message)
  | captureCommittedResponse => CaptureCommittedResponse.encode

/-- The decoder of a format. -/
def decode :
    (format : MessageFormat) → List UInt8 → Except Raised format.Message
  | helloRequest => HelloRequest.decode
  | helloResponse => HelloResponse.decode
  | setConfigRequest => SetConfigRequest.decode
  | captureOnceRequest => CaptureOnceRequest.decode
  | capabilitiesResponse => CapabilitiesResponse.decode
  | startPeriodicRequest => StartPeriodicRequest.decode
  | renewPeriodicLease => RenewPeriodicLease.decode
  | stopRequest => StopRequest.decode
  | statusResponse => StatusResponse.decode
  | io2LoopbackRequest => Io2LoopbackRequest.decode
  | io2LoopbackResult => Io2LoopbackResult.decode
  | ack => Ack.decode
  | error => ErrorResponse.decode
  | bridgeCaptureDelivery => BridgeCaptureDelivery.decode
  | captureCommittedRequest => CaptureCommittedRequest.decode
  | captureCommittedResponse => CaptureCommittedResponse.decode

/-- The decoder has looked at every byte that matters to the encoder. -/
def Unambiguous : MessageFormat → List UInt8 → Prop
  | captureOnceRequest => CaptureOnceRequest.Unambiguous
  | captureCommittedResponse => CaptureCommittedResponse.Unambiguous
  | _ => fun _ => True

/-- The codec of a format is exact on the unambiguous payloads. -/
theorem exact_iff (format : MessageFormat) (data : List UInt8) :
    Exact format.encode format.decode data ↔ format.Unambiguous data := by
  cases format with
  | helloRequest => exact iff_true_intro (HelloRequest.exact data)
  | helloResponse => exact iff_true_intro (HelloResponse.exact data)
  | setConfigRequest => exact iff_true_intro (SetConfigRequest.exact data)
  | captureOnceRequest => exact CaptureOnceRequest.exact_iff data
  | capabilitiesResponse =>
      exact iff_true_intro (CapabilitiesResponse.exact data)
  | startPeriodicRequest =>
      exact iff_true_intro (StartPeriodicRequest.exact data)
  | renewPeriodicLease => exact iff_true_intro (RenewPeriodicLease.exact data)
  | stopRequest => exact iff_true_intro (StopRequest.exact data)
  | statusResponse => exact iff_true_intro (StatusResponse.exact data)
  | io2LoopbackRequest => exact iff_true_intro (Io2LoopbackRequest.exact data)
  | io2LoopbackResult => exact iff_true_intro (Io2LoopbackResult.exact data)
  | ack => exact iff_true_intro (Ack.exact data)
  | error => exact iff_true_intro (ErrorResponse.exact data)
  | bridgeCaptureDelivery =>
      exact iff_true_intro (BridgeCaptureDelivery.exact data)
  | captureCommittedRequest =>
      exact iff_true_intro (CaptureCommittedRequest.exact data)
  | captureCommittedResponse => exact CaptureCommittedResponse.exact_iff data

/-- Every decoder inverts its encoder. -/
theorem decode_of_encode
    (format : MessageFormat)
    {message : format.Message}
    {data : List UInt8}
    (encoded : format.encode message = .ok data) :
    format.decode data = .ok message := by
  by_cases clear : format.Unambiguous data
  · exact ((format.exact_iff data).2 clear message).2 encoded
  · cases format with
    | captureOnceRequest => exact CaptureOnceRequest.decode_of_encode encoded
    | captureCommittedResponse =>
        exact CaptureCommittedResponse.decode_of_encode encoded
    | _ => exact absurd trivial clear

/-- A decoder that accepts nothing but what its encoder writes is exact. -/
theorem exact_of_image
    (format : MessageFormat)
    {data : List UInt8}
    (image :
      (∃ message, format.decode data = .ok message) →
        ∃ message, format.encode message = .ok data) :
    Exact format.encode format.decode data := by
  intro message
  refine ⟨fun decoded => ?_, format.decode_of_encode⟩
  obtain ⟨other, encoded⟩ := image ⟨message, decoded⟩
  have same := (format.decode_of_encode encoded).symm.trans decoded
  cases same
  exact encoded

/-- Decoding inverts encoding. Encoding inverts decoding, and a decoder accepts
exactly what its encoder writes, on the unambiguous payloads and on no
others. -/
theorem message_codecs_exact (format : MessageFormat) (data : List UInt8) :
    (∀ message,
        format.encode message = .ok data →
          format.decode data = .ok message) ∧
      ((∀ message,
          format.decode data = .ok message →
            format.encode message = .ok data) ↔
        format.Unambiguous data) ∧
      (((∃ message, format.decode data = .ok message) ↔
          ∃ message, format.encode message = .ok data) ↔
        format.Unambiguous data) := by
  refine ⟨fun _ => format.decode_of_encode, ?_, ?_⟩
  · rw [← format.exact_iff data]
    exact ⟨fun inverse message =>
        ⟨inverse message, format.decode_of_encode⟩,
      fun exact message => (exact message).1⟩
  · rw [← format.exact_iff data]
    refine ⟨fun image => format.exact_of_image image.1, fun exact => ?_⟩
    exact ⟨fun ⟨message, decoded⟩ => ⟨message, (exact message).1 decoded⟩,
      fun ⟨message, encoded⟩ => ⟨message, (exact message).2 encoded⟩⟩

/-- A CAPTURE_ONCE with a byte set behind its trigger source. -/
def scribbledCapture : List UInt8 :=
  List.replicate 52 0 ++ [0, 1, 0, 0] ++ List.replicate 4 0

/-- The decoder accepts a reserved byte that is set. -/
theorem not_exact_scribbledCapture :
    ¬∀ (format : MessageFormat) (data : List UInt8) (message : format.Message),
      format.decode data = .ok message →
        format.encode message = .ok data := by
  intro inverse
  have decoded :
      CaptureOnceRequest.decode scribbledCapture =
        .ok ⟨Bytes.zero 16, Bytes.zero 32, 0, .software, 0⟩ := by
    decide +kernel
  have encoded := inverse captureOnceRequest _ _ decoded
  have other :
      CaptureOnceRequest.encode
          ⟨Bytes.zero 16, Bytes.zero 32, 0, .software, 0⟩ ≠
        .ok scribbledCapture := by
    decide +kernel
  exact other encoded

end MessageFormat

end Usac.Host
