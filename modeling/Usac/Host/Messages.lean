import Usac.Host.ConfigV2

namespace Usac.Host

open Library

/-!
# Command and response payloads

The codecs of `messages.py` that a bridge session uses.
-/

/-- The payload of a HELLO: `encode_hello_request` for the one version the
client speaks. -/
def encodeHelloRequest (hostNonce : Bytes 16) : List UInt8 :=
  hostNonce.toList ++ [1, 1] ++ writeU16 0

/-- `SetConfigRequest`. -/
structure SetConfigRequest where
  requestId : Bytes 16
  expectedProfileSha256 : Bytes 32
  config : AcquisitionConfigV2
  deriving DecidableEq

/-- `encode_set_config_request`. -/
def SetConfigRequest.encode
    (message : SetConfigRequest) :
    Except Raised (List UInt8) := do
  let config ← message.config.encode
  pure (message.requestId.toList ++ message.expectedProfileSha256.toList ++
    config)

/-- `HelloResponse`. -/
structure HelloResponse where
  hostNonce : Bytes 16
  bootId : Bytes 16
  deviceId : Bytes 16
  negotiatedVersion : UInt8
  resetReason : UInt8
  fwMajor : UInt16
  fwMinor : UInt16
  fwPatch : UInt16
  fwBuild : UInt32
  deviceState : UInt8
  deriving DecidableEq

namespace HelloResponse

/-- `decode_hello_response`. -/
def decode (data : List UInt8) : Except Raised HelloResponse := do
  require (data.length = 64)
    (.valueError "HELLO response payload must be 64 bytes")
  require (slice data 61 3 = Bytes.zero 3)
    (.valueError "HELLO response reserved bytes must be zero")
  pure {
    hostNonce := slice data 0 16
    bootId := slice data 16 16
    deviceId := slice data 32 16
    negotiatedVersion := byteAt data 48
    resetReason := byteAt data 49
    fwMajor := readU16 data 50
    fwMinor := readU16 data 52
    fwPatch := readU16 data 54
    fwBuild := readU32 data 56
    deviceState := byteAt data 60
  }

end HelloResponse

/-- `CapabilitiesResponse`. -/
structure CapabilitiesResponse where
  capabilityFlags : UInt32
  mcuMaxCommandPayload : UInt16
  maxSamples : UInt16
  minSampleIntervalTicks : UInt16
  maxSampleIntervalTicks : UInt16
  minBurstPeriodTicks : UInt16
  maxBurstPeriodTicks : UInt16
  maxRegisterPairs : UInt8
  maxOut3Events : UInt8
  maxOut4Events : UInt8
  adcBits : UInt8
  supportedIoModes : UInt8
  deriving DecidableEq

namespace CapabilitiesResponse

/-- The checks of `encode_capabilities_response`. -/
def validate (message : CapabilitiesResponse) : Except Raised Unit := do
  require (message.capabilityFlags &&& ~~~0x1FF = 0)
    (.valueError "capability_flags contains an unknown first-version bit")
  require (message.minSampleIntervalTicks ≤ message.maxSampleIntervalTicks)
    (.valueError "sample interval capability range is inverted")
  require (message.minBurstPeriodTicks ≤ message.maxBurstPeriodTicks)
    (.valueError "burst period capability range is inverted")
  require (message.supportedIoModes &&& ~~~0x0F = 0)
    (.valueError "supported_io_modes contains an unknown mode bit")

/-- `decode_capabilities_response`. -/
def decode (data : List UInt8) : Except Raised CapabilitiesResponse := do
  require (data.length = 24)
    (.valueError "GET_CAPABILITIES response payload must be 24 bytes")
  require (slice data 21 3 = Bytes.zero 3)
    (.valueError "GET_CAPABILITIES reserved bytes must be zero")
  let message : CapabilitiesResponse := {
    capabilityFlags := readU32 data 0
    mcuMaxCommandPayload := readU16 data 4
    maxSamples := readU16 data 6
    minSampleIntervalTicks := readU16 data 8
    maxSampleIntervalTicks := readU16 data 10
    minBurstPeriodTicks := readU16 data 12
    maxBurstPeriodTicks := readU16 data 14
    maxRegisterPairs := byteAt data 16
    maxOut3Events := byteAt data 17
    maxOut4Events := byteAt data 18
    adcBits := byteAt data 19
    supportedIoModes := byteAt data 20
  }
  message.validate
  pure message

end CapabilitiesResponse

/-- `RenewPeriodicLease`. -/
structure RenewPeriodicLease where
  bootId : Bytes 16
  scheduleId : Bytes 16
  leaseSequence : UInt32
  leaseTimeoutOrRemainingMs : UInt32
  deriving DecidableEq

namespace RenewPeriodicLease

/-- The checks of `encode_renew_periodic_lease`. -/
def validate (message : RenewPeriodicLease) : Except Raised Unit := do
  require (¬(message.bootId = Bytes.zero 16 ∨
      message.scheduleId = Bytes.zero 16))
    (.valueError "boot_id and schedule_id must not be all zero")
  require (1 ≤ message.leaseSequence)
    (.valueError "lease_sequence must be in 1..u32_max")
  require (message.leaseTimeoutOrRemainingMs ≤ 10000)
    (.valueError "lease timeout/remaining value must be in 0..10000 ms")

/-- `encode_renew_periodic_lease`. -/
def encode (message : RenewPeriodicLease) : Except Raised (List UInt8) := do
  message.validate
  pure (message.bootId.toList ++ message.scheduleId.toList ++
    writeU32 message.leaseSequence ++
    writeU32 message.leaseTimeoutOrRemainingMs)

/-- `decode_renew_periodic_lease`. -/
def decode (data : List UInt8) : Except Raised RenewPeriodicLease := do
  require (data.length = 40)
    (.valueError "RENEW_PERIODIC_LEASE payload must be 40 bytes")
  let message : RenewPeriodicLease := {
    bootId := slice data 0 16
    scheduleId := slice data 16 16
    leaseSequence := readU32 data 32
    leaseTimeoutOrRemainingMs := readU32 data 36
  }
  message.validate
  pure message

end RenewPeriodicLease

/-- What starts a capture. -/
inductive TriggerSource where
  | software
  | externalSyncSlave
  | externalSyncMaster
  deriving Repr, DecidableEq

/-- `_TRIGGER_CODES`. -/
def TriggerSource.code : TriggerSource → UInt8
  | software => 0
  | externalSyncSlave => 1
  | externalSyncMaster => 2

/-- `CaptureOnceRequest`. -/
structure CaptureOnceRequest where
  requestId : Bytes 16
  expectedProfileSha256 : Bytes 32
  expectedDeviceConfigCrc32 : UInt32
  triggerSource : TriggerSource
  syncTimeoutMs : UInt32
  deriving DecidableEq

/-- `encode_capture_once_request`. -/
def CaptureOnceRequest.encode
    (message : CaptureOnceRequest) :
    Except Raised (List UInt8) := do
  if message.triggerSource = .externalSyncSlave then
    require (1 ≤ message.syncTimeoutMs ∧ message.syncTimeoutMs ≤ 60000)
      (.valueError "slave sync_timeout_ms must be in 1..60000")
  else
    require (message.syncTimeoutMs = 0)
      (.valueError "sync_timeout_ms must be zero unless trigger source is slave")
  pure (message.requestId.toList ++ message.expectedProfileSha256.toList ++
    writeU32 message.expectedDeviceConfigCrc32 ++
    [message.triggerSource.code, 0, 0, 0] ++ writeU32 message.syncTimeoutMs)

/-- `StartPeriodicRequest`. -/
structure StartPeriodicRequest where
  requestId : Bytes 16
  scheduleId : Bytes 16
  expectedProfileSha256 : Bytes 32
  expectedDeviceConfigCrc32 : UInt32
  periodUs : UInt32
  captureCount : UInt32
  leaseTimeoutMs : UInt32
  deriving DecidableEq

/-- `encode_start_periodic_request`. -/
def StartPeriodicRequest.encode
    (message : StartPeriodicRequest) :
    Except Raised (List UInt8) := do
  require (message.scheduleId ≠ Bytes.zero 16)
    (.valueError "schedule_id must not be all zero")
  require (1 ≤ message.periodUs)
    (.valueError "period_us must be a positive u32")
  require (1000 ≤ message.leaseTimeoutMs ∧ message.leaseTimeoutMs ≤ 10000)
    (.valueError "lease_timeout_ms must be in 1000..10000")
  pure (message.requestId.toList ++ message.scheduleId.toList ++
    message.expectedProfileSha256.toList ++
    writeU32 message.expectedDeviceConfigCrc32 ++ writeU32 message.periodUs ++
    writeU32 message.captureCount ++ writeU32 message.leaseTimeoutMs)

/-- `StopRequest`. -/
structure StopRequest where
  requestId : Bytes 16
  scheduleId : Bytes 16
  deriving DecidableEq

/-- `encode_stop_request`. -/
def StopRequest.encode (message : StopRequest) : List UInt8 :=
  message.requestId.toList ++ message.scheduleId.toList

/-- `StatusResponse`. -/
structure StatusResponse where
  bootId : Bytes 16
  deviceState : UInt8
  lastError : UInt16
  profileSha256 : Bytes 32
  deviceConfigCrc32 : UInt32
  captureSequence : UInt32
  missedCaptureCount : UInt32
  qualityFlags : UInt32
  tussDevStat : UInt8
  vdrvReady : UInt8
  out3Enabled : UInt8
  out4Enabled : UInt8
  clockFaultFlags : UInt16
  activeScheduleId : Bytes 16
  leaseSequence : UInt32
  leaseRemainingMs : UInt32
  deriving DecidableEq

namespace StatusResponse

/-- The checks of `encode_status_response`. -/
def validate (message : StatusResponse) : Except Raised Unit := do
  require (∀ level ∈
      [message.vdrvReady, message.out3Enabled, message.out4Enabled],
      level = 0 ∨ level = 1)
    (.valueError "status boolean fields must be 0 or 1")
  require (message.clockFaultFlags &&& ~~~0x0F = 0)
    (.valueError "clock_fault_flags contains a reserved bit")
  require (¬(message.activeScheduleId = Bytes.zero 16 ∧
      (message.leaseSequence ≠ 0 ∨ message.leaseRemainingMs ≠ 0)))
    (.valueError "inactive schedule must report zero lease state")

/-- `decode_status_response`. -/
def decode (data : List UInt8) : Except Raised StatusResponse := do
  require (data.length = 100)
    (.valueError "GET_STATUS response payload must be 100 bytes")
  require (byteAt data 17 = 0 ∧ slice data 74 2 = Bytes.zero 2)
    (.valueError "GET_STATUS reserved bytes must be zero")
  let message : StatusResponse := {
    bootId := slice data 0 16
    deviceState := byteAt data 16
    lastError := readU16 data 18
    profileSha256 := slice data 20 32
    deviceConfigCrc32 := readU32 data 52
    captureSequence := readU32 data 56
    missedCaptureCount := readU32 data 60
    qualityFlags := readU32 data 64
    tussDevStat := byteAt data 68
    vdrvReady := byteAt data 69
    out3Enabled := byteAt data 70
    out4Enabled := byteAt data 71
    clockFaultFlags := readU16 data 72
    activeScheduleId := slice data 76 16
    leaseSequence := readU32 data 92
    leaseRemainingMs := readU32 data 96
  }
  message.validate
  pure message

end StatusResponse

/-- `Io2LoopbackResult`. -/
structure Io2LoopbackResult where
  requestId : Bytes 16
  profileSha256 : Bytes 32
  deviceConfigCrc32 : UInt32
  burstPeriodTicks : UInt16
  capturedEdges : UInt8
  resultFlags : UInt8
  captureTicks : List UInt16
  minimumIntervalTicks : UInt16
  maximumIntervalTicks : UInt16
  preSpiStatus : UInt8
  preDevStat : UInt8
  preTofConfig : UInt8
  preVdrvCtrl : UInt8
  postSpiStatus : UInt8
  postDevStat : UInt8
  postTofConfig : UInt8
  postVdrvCtrl : UInt8
  finalIo2Level : UInt8
  deriving DecidableEq

namespace Io2LoopbackResult

/-- The checks of `encode_io2_loopback_result`. -/
def validate (message : Io2LoopbackResult) : Except Raised Unit := do
  require (message.captureTicks.length = 8)
    (.valueError
      "IO2 loopback result must contain exactly 8 capture ticks")
  require (message.resultFlags &&& ~~~0x3F = 0)
    (.valueError "IO2 loopback result has reserved result flag bits set")

/-- `decode_io2_loopback_result`. -/
def decode (data : List UInt8) : Except Raised Io2LoopbackResult := do
  require (data.length = 86)
    (.valueError "RUN_IO2_LOOPBACK_TEST response payload must be 86 bytes")
  require (byteAt data 85 = 0)
    (.valueError
      "RUN_IO2_LOOPBACK_TEST response reserved byte must be zero")
  let message : Io2LoopbackResult := {
    requestId := slice data 0 16
    profileSha256 := slice data 16 32
    deviceConfigCrc32 := readU32 data 48
    burstPeriodTicks := readU16 data 52
    capturedEdges := byteAt data 54
    resultFlags := byteAt data 55
    captureTicks :=
      (List.range 8).map fun index => readU16 data (56 + 2 * index)
    minimumIntervalTicks := readU16 data 72
    maximumIntervalTicks := readU16 data 74
    preSpiStatus := byteAt data 76
    preDevStat := byteAt data 77
    preTofConfig := byteAt data 78
    preVdrvCtrl := byteAt data 79
    postSpiStatus := byteAt data 80
    postDevStat := byteAt data 81
    postTofConfig := byteAt data 82
    postVdrvCtrl := byteAt data 83
    finalIo2Level := byteAt data 84
  }
  message.validate
  pure message

end Io2LoopbackResult

/-- `Ack`. -/
structure Ack where
  requestId : Bytes 16
  ackedType : UInt8
  resultingState : UInt8
  statusCode : UInt16
  deviceConfigCrc32 : UInt32
  deriving DecidableEq

namespace Ack

/-- `decode_ack`. -/
def decode (data : List UInt8) : Except Raised Ack := do
  require (data.length = 24) (.valueError "ACK payload must be 24 bytes")
  require (readU16 data 18 = 0) (.valueError "ACK status_code must be zero")
  pure {
    requestId := slice data 0 16
    ackedType := byteAt data 16
    resultingState := byteAt data 17
    statusCode := readU16 data 18
    deviceConfigCrc32 := readU32 data 20
  }

end Ack

/-- `ErrorResponse`. -/
structure ErrorResponse where
  requestId : Bytes 16
  failedType : UInt8
  currentState : UInt8
  errorCode : UInt16
  detailArg0 : UInt32
  detailArg1 : UInt32
  message : String
  deriving DecidableEq

namespace ErrorResponse

/-- The size of the fields before the message. -/
def prefixSize : Nat := 29

/-- `decode_error`. -/
def decode (data : List UInt8) : Except Raised ErrorResponse := do
  require (prefixSize ≤ data.length ∧ data.length ≤ prefixSize + 63)
    (.valueError "ERROR payload length is invalid")
  require (data.length = prefixSize + (byteAt data 28).toNat)
    (.valueError "ERROR message_length does not match payload")
  match String.fromUTF8? (data.drop prefixSize).toByteArray with
  | none => .error (.valueError "ERROR message is not valid UTF-8")
  | some message =>
      pure {
        requestId := slice data 0 16
        failedType := byteAt data 16
        currentState := byteAt data 17
        errorCode := readU16 data 18
        detailArg0 := readU32 data 20
        detailArg1 := readU32 data 24
        message := message
      }

/-- The `RuntimeError` of `_raise_device_error`. -/
def raised (error : ErrorResponse) : Raised :=
  .runtimeError
    ("device ERROR " ++ toString error.errorCode.toNat ++ " for type 0x" ++
      upperHex 2 error.failedType.toNat ++ ": detail0=" ++
      toString error.detailArg0.toNat ++ ", detail1=" ++
      toString error.detailArg1.toNat ++
      (if error.message = "" then "" else ", message=" ++ error.message))

end ErrorResponse

end Usac.Host
