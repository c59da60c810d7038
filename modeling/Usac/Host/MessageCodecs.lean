import Usac.Host.BridgeMessages
import Usac.Host.Messages

namespace Usac.Host

open Library

/-!
# The other halves of the message codecs

The encoders and decoders of `messages.py` that the runtime itself does not
call. The simulator and the protocol tests use them.
-/

/-- `HelloRequest`. -/
structure HelloRequest where
  hostNonce : Bytes 16
  minVersion : UInt8
  maxVersion : UInt8
  deriving DecidableEq

namespace HelloRequest

/-- The check of `encode_hello_request`. -/
def validate (message : HelloRequest) : Except Raised Unit :=
  require (message.minVersion ≤ message.maxVersion)
    (.valueError "HELLO version range is invalid")

/-- `encode_hello_request`. -/
def encode (message : HelloRequest) : Except Raised (List UInt8) := do
  message.validate
  pure (message.hostNonce.toList ++ [message.minVersion, message.maxVersion] ++
    writeU16 0)

/-- `decode_hello_request`. -/
def decode (data : List UInt8) : Except Raised HelloRequest := do
  require (data.length = 20)
    (.valueError "HELLO request payload must be 20 bytes")
  require (readU16 data 18 = 0)
    (.valueError "HELLO reserved field must be zero")
  let message : HelloRequest := {
    hostNonce := slice data 0 16
    minVersion := byteAt data 16
    maxVersion := byteAt data 17
  }
  message.validate
  pure message

end HelloRequest

/-- `encode_hello_response`. -/
def HelloResponse.encode (message : HelloResponse) :
    Except Raised (List UInt8) :=
  .ok (message.hostNonce.toList ++ message.bootId.toList ++
    message.deviceId.toList ++
    [message.negotiatedVersion, message.resetReason] ++
    writeU16 message.fwMajor ++ writeU16 message.fwMinor ++
    writeU16 message.fwPatch ++ writeU32 message.fwBuild ++
    [message.deviceState] ++ (Bytes.zero 3).toList)

/-- `decode_set_config_request`. -/
def SetConfigRequest.decode (data : List UInt8) :
    Except Raised SetConfigRequest := do
  require (100 ≤ data.length) (.valueError "SET_CONFIG payload is truncated")
  let config ← AcquisitionConfigV2.decode (data.drop 48)
  pure ⟨slice data 0 16, slice data 16 32, config⟩

/-- The trigger source of a code. -/
def TriggerSource.ofCode? (code : UInt8) : Option TriggerSource :=
  [software, externalSyncSlave, externalSyncMaster].find? fun source =>
    source.code == code

/-- `decode_capture_once_request`. The bytes behind the trigger source are not
looked at. -/
def CaptureOnceRequest.decode (data : List UInt8) :
    Except Raised CaptureOnceRequest := do
  require (data.length = 60)
    (.valueError "CAPTURE_ONCE payload must be 60 bytes")
  match TriggerSource.ofCode? (byteAt data 52) with
  | none => .error (.valueError "trigger_source must be 0, 1, or 2")
  | some triggerSource =>
      let message : CaptureOnceRequest := {
        requestId := slice data 0 16
        expectedProfileSha256 := slice data 16 32
        expectedDeviceConfigCrc32 := readU32 data 48
        triggerSource := triggerSource
        syncTimeoutMs := readU32 data 56
      }
      let _ ← message.encode
      pure message

/-- `encode_capabilities_response`. -/
def CapabilitiesResponse.encode (message : CapabilitiesResponse) :
    Except Raised (List UInt8) := do
  message.validate
  pure (writeU32 message.capabilityFlags ++
    writeU16 message.mcuMaxCommandPayload ++ writeU16 message.maxSamples ++
    writeU16 message.minSampleIntervalTicks ++
    writeU16 message.maxSampleIntervalTicks ++
    writeU16 message.minBurstPeriodTicks ++
    writeU16 message.maxBurstPeriodTicks ++
    [message.maxRegisterPairs, message.maxOut3Events, message.maxOut4Events,
      message.adcBits, message.supportedIoModes] ++ (Bytes.zero 3).toList)

/-- `decode_start_periodic_request`. -/
def StartPeriodicRequest.decode (data : List UInt8) :
    Except Raised StartPeriodicRequest := do
  require (data.length = 80)
    (.valueError "START_PERIODIC payload must be 80 bytes")
  let message : StartPeriodicRequest := {
    requestId := slice data 0 16
    scheduleId := slice data 16 16
    expectedProfileSha256 := slice data 32 32
    expectedDeviceConfigCrc32 := readU32 data 64
    periodUs := readU32 data 68
    captureCount := readU32 data 72
    leaseTimeoutMs := readU32 data 76
  }
  let _ ← message.encode
  pure message

/-- `decode_stop_request`. -/
def StopRequest.decode (data : List UInt8) : Except Raised StopRequest := do
  require (data.length = 32) (.valueError "STOP payload must be 32 bytes")
  pure ⟨slice data 0 16, slice data 16 16⟩

/-- `encode_status_response`. -/
def StatusResponse.encode (message : StatusResponse) :
    Except Raised (List UInt8) := do
  message.validate
  pure (message.bootId.toList ++ [message.deviceState, 0] ++
    writeU16 message.lastError ++ message.profileSha256.toList ++
    writeU32 message.deviceConfigCrc32 ++ writeU32 message.captureSequence ++
    writeU32 message.missedCaptureCount ++ writeU32 message.qualityFlags ++
    [message.tussDevStat, message.vdrvReady, message.out3Enabled,
      message.out4Enabled] ++ writeU16 message.clockFaultFlags ++
    (Bytes.zero 2).toList ++ message.activeScheduleId.toList ++
    writeU32 message.leaseSequence ++ writeU32 message.leaseRemainingMs)

/-- `Io2LoopbackRequest`. -/
structure Io2LoopbackRequest where
  requestId : Bytes 16
  expectedProfileSha256 : Bytes 32
  expectedDeviceConfigCrc32 : UInt32
  edgeCount : UInt8
  deriving DecidableEq

namespace Io2LoopbackRequest

/-- The check of `encode_io2_loopback_request`. -/
def validate (message : Io2LoopbackRequest) : Except Raised Unit :=
  require (message.edgeCount = 8)
    (.valueError "IO2 loopback edge_count must be 8")

/-- `encode_io2_loopback_request`. -/
def encode (message : Io2LoopbackRequest) : Except Raised (List UInt8) := do
  message.validate
  pure (message.requestId.toList ++ message.expectedProfileSha256.toList ++
    writeU32 message.expectedDeviceConfigCrc32 ++ [message.edgeCount] ++
    (Bytes.zero 3).toList)

/-- `decode_io2_loopback_request`. -/
def decode (data : List UInt8) : Except Raised Io2LoopbackRequest := do
  require (data.length = 56)
    (.valueError "RUN_IO2_LOOPBACK_TEST request payload must be 56 bytes")
  require (slice data 53 3 = Bytes.zero 3)
    (.valueError
      "RUN_IO2_LOOPBACK_TEST request reserved bytes must be zero")
  let message : Io2LoopbackRequest := {
    requestId := slice data 0 16
    expectedProfileSha256 := slice data 16 32
    expectedDeviceConfigCrc32 := readU32 data 48
    edgeCount := byteAt data 52
  }
  message.validate
  pure message

end Io2LoopbackRequest

/-- `encode_io2_loopback_result`. -/
def Io2LoopbackResult.encode (message : Io2LoopbackResult) :
    Except Raised (List UInt8) := do
  message.validate
  pure (message.requestId.toList ++ message.profileSha256.toList ++
    writeU32 message.deviceConfigCrc32 ++ writeU16 message.burstPeriodTicks ++
    [message.capturedEdges, message.resultFlags] ++
    message.captureTicks.flatMap writeU16 ++
    writeU16 message.minimumIntervalTicks ++
    writeU16 message.maximumIntervalTicks ++
    [message.preSpiStatus, message.preDevStat, message.preTofConfig,
      message.preVdrvCtrl, message.postSpiStatus, message.postDevStat,
      message.postTofConfig, message.postVdrvCtrl, message.finalIo2Level, 0])

/-- `encode_ack`. -/
def Ack.encode (message : Ack) : Except Raised (List UInt8) := do
  require (message.statusCode = 0)
    (.valueError "ACK status_code must be zero")
  pure (message.requestId.toList ++
    [message.ackedType, message.resultingState] ++
    writeU16 message.statusCode ++ writeU32 message.deviceConfigCrc32)

/-- `encode_error`. -/
def ErrorResponse.encode (message : ErrorResponse) :
    Except Raised (List UInt8) := do
  let encoded := message.message.toUTF8.data.toList
  require (encoded.length ≤ 63)
    (.valueError "ERROR message must be at most 63 UTF-8 bytes")
  pure (message.requestId.toList ++
    [message.failedType, message.currentState] ++ writeU16 message.errorCode ++
    writeU32 message.detailArg0 ++ writeU32 message.detailArg1 ++
    [encoded.length.toUInt8] ++ encoded)

end Usac.Host
