import Usac.Host.Frame

namespace Usac.Host

/-!
# Directions and lengths of messages

The policy of `message_lengths.py`: which flags a message type may carry and
which payload lengths it may announce with them. The stream parser of the host
refuses a header that breaks it before it buffers a payload.
-/

/-- `_even_range`. -/
def evenRange (length minimum maximum : Nat) : Bool :=
  decide (minimum ≤ length) && decide (length ≤ maximum) &&
    (length - minimum) % 2 == 0

/-- `response_flags`. -/
def responseFlags : List UInt16 :=
  [Flags.response, Flags.response ||| Flags.warning]

/-- `async_flags`. -/
def asyncFlags : List UInt16 :=
  [Flags.async, Flags.async ||| Flags.warning]

/-- `flags_are_valid_for_message`. -/
def flagsAreValidForMessage (messageType : MessageType) (flags : UInt16) :
    Bool :=
  match messageType with
  | .ack | .error | .requestAttached => responseFlags.contains flags
  | .bridgeDiagnostic | .bridgeCaptureDelivery | .bridgeSpoolStatus =>
      asyncFlags.contains flags
  | .captureData => (responseFlags ++ asyncFlags).contains flags
  | .runIo2LoopbackTest => flags == 0 || responseFlags.contains flags
  | .setConfig | .captureOnce | .startPeriodic | .stop | .writeRegister
  | .resetDevice | .coreChallenge => flags == 0
  | .hello | .getCapabilities | .getConfig | .getStatus | .readRegister
  | .renewPeriodicLease | .bridgeHello | .bridgeHeartbeat
  | .captureCommitted => flags == 0 || responseFlags.contains flags

/-- `payload_length_is_valid`. -/
def payloadLengthIsValid
    (messageType : MessageType)
    (flags : UInt16)
    (length : Nat) :
    Bool :=
  let response := flags &&& Flags.response != 0
  match messageType with
  | .hello => length == if response then 64 else 20
  | .getCapabilities => length == if response then 24 else 0
  | .getConfig => if response then evenRange length 52 72 else length == 0
  | .setConfig => !response && evenRange length 100 120
  | .captureOnce => !response && length == 60
  | .runIo2LoopbackTest => length == if response then 86 else 56
  | .startPeriodic => !response && length == 80
  | .stop => !response && length == 32
  | .getStatus => length == if response then 100 else 0
  | .readRegister => length == 4
  | .writeRegister => !response && length == 20
  | .resetDevice => !response && length == 20
  | .renewPeriodicLease => length == 40
  | .captureData => decide (188 ≤ length) && decide (length ≤ 4576)
  | .bridgeHello => length == if response then 16 else 112
  | .bridgeHeartbeat => length == 24
  | .coreChallenge => !response && length == 44
  | .bridgeDiagnostic => decide (64 ≤ length) && decide (length ≤ 128)
  | .bridgeCaptureDelivery => decide (264 ≤ length) && decide (length ≤ 4708)
  | .captureCommitted => length == if response then 24 else 68
  | .bridgeSpoolStatus => length == 64
  | .requestAttached => length == 26
  | .ack => length == 24
  | .error => decide (29 ≤ length) && decide (length ≤ 92)

end Usac.Host
