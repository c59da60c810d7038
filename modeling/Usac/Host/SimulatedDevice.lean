import Usac.Host.CaptureDataFormat
import Usac.Host.MessageCodecs

namespace Usac.Host

open Library

/-!
# The simulated device

`simulator.py`: the software device the host tests talk to. An operation gives
what it returns or raises together with the device it leaves, since an
exception does not undo what has been assigned before it.
-/

/-- `_PeriodicSchedule`. -/
structure SimulatedSchedule where
  requestId : Bytes 16
  scheduleId : Bytes 16
  periodUs : UInt32
  captureCount : UInt32
  leaseDeadlineUs : Nat
  nextCaptureUs : Nat
  completedCount : Nat
  leaseSequence : UInt32
  deriving DecidableEq

namespace SimulatedSchedule

/-- The lease a schedule has left, in whole milliseconds. -/
def leaseRemainingMs
    (schedule : SimulatedSchedule)
    (now : Nat) :
    Nat :=
  (schedule.leaseDeadlineUs - now) / 1000

/-- The lease of a schedule after a renewal. -/
def renew
    (schedule : SimulatedSchedule)
    (request : RenewPeriodicLease)
    (now : Nat) :
    SimulatedSchedule :=
  if schedule.leaseSequence < request.leaseSequence then
    { schedule with
      leaseSequence := request.leaseSequence
      leaseDeadlineUs := now + request.leaseTimeoutOrRemainingMs.toNat * 1000 }
  else
    schedule

end SimulatedSchedule

/-- The key of a completed request: its type, its sequence and its payload. -/
abbrev RequestKey := MessageType × UInt32 × List UInt8

/-- `SimulatedDevice`. -/
structure SimulatedDevice where
  deviceId : Bytes 16
  bootId : Option (Bytes 16)
  config : Option AcquisitionConfigV2
  captureSequence : Nat
  missedCaptureCount : Nat
  lastError : UInt16
  schedule : Option SimulatedSchedule
  completed : List (RequestKey × List Frame)

namespace SimulatedDevice

/-- The device `SimulatedDevice` creates. -/
def init : SimulatedDevice where
  deviceId :=
    slice (Sha256.digest "USAC-SIMULATOR-DEVICE-V1".toUTF8.data.toList).toList
      0 16
  bootId := none
  config := none
  captureSequence := 0
  missedCaptureCount := 0
  lastError := 0
  schedule := none
  completed := []

/-- `CONFIGURED_STATE`. -/
def configuredState : UInt8 := 2

/-- `PERIODIC_STATE`. -/
def periodicState : UInt8 := 6

/-- `LEASE_EXPIRED_ERROR`. -/
def leaseExpiredError : UInt16 := 18

/-- What an operation returns or raises, and the device after it. -/
abbrev Outcome := Except Raised (List Frame) × SimulatedDevice

/-- An operation that assigns nothing before its last check. -/
def attempt
    (device : SimulatedDevice)
    (operation : Except Raised (List Frame × SimulatedDevice)) :
    Outcome :=
  match operation with
  | .error raised => (.error raised, device)
  | .ok (frames, next) => (.ok frames, next)

/-- A response to a request. -/
def response
    (messageType : MessageType)
    (sequence : UInt32)
    (payload : List UInt8) :
    Frame where
  messageType := messageType
  sequence := sequence
  payload := payload
  flags := Flags.response
  protocolVersion := Frame.currentVersion

/-- `_now_us`. -/
def nowUs (clockUs : Int) : Except Raised Nat := do
  require (0 ≤ clockUs) (.valueError "simulator clock must not be negative")
  pure clockUs.toNat

/-- `_require_hello`, with the boot identity. -/
def requireHello (device : SimulatedDevice) : Except Raised (Bytes 16) :=
  match device.bootId with
  | none => .error (.valueError "HELLO is required before this command")
  | some bootId => .ok bootId

/-- `_require_config`, with the configuration. -/
def requireConfig (device : SimulatedDevice) :
    Except Raised AcquisitionConfigV2 :=
  match device.config with
  | none => .error (.valueError "SET_CONFIG is required before this command")
  | some config => .ok config

/-- `_require_empty_payload`. -/
def requireEmptyPayload (frame : Frame) : Except Raised Unit :=
  require (frame.payload = [])
    (.valueError (frame.messageType.name ++ " request payload must be empty"))

/-- `_expire_schedule`. -/
def expireSchedule (device : SimulatedDevice) : SimulatedDevice :=
  { device with schedule := none, lastError := leaseExpiredError }

/-- `struct.pack` of an integer as an unsigned 32-bit word. -/
def packWord32 (value : Nat) : Except Raised UInt32 := do
  require (value < 2 ^ 32) ⟨.structError, "argument out of range"⟩
  pure value.toUInt32

/-- `_ack`. -/
def ack
    (frame : Frame)
    (requestId : Bytes 16)
    (state : UInt8)
    (crc : UInt32) :
    Except Raised (List Frame) := do
  let payload ← Ack.encode {
    requestId := requestId
    ackedType := frame.messageType.code
    resultingState := state
    statusCode := 0
    deviceConfigCrc32 := crc
  }
  pure [response .ack frame.sequence payload]

/-- The boot identity derived from the nonce of a HELLO. -/
def deriveBootId (deviceId hostNonce : Bytes 16) : Bytes 16 :=
  let domain : List UInt8 :=
    [0x55, 0x53, 0x41, 0x43, 0x2D, 0x42, 0x4F, 0x4F, 0x54, 0x2D,
      0x49, 0x44, 0x2D, 0x56, 0x31]
  slice (Sha256.digest (domain ++ deviceId.toList ++ hostNonce.toList)).toList
    0 16

/-- `_hello`. -/
def hello (device : SimulatedDevice) (frame : Frame) : Outcome :=
  device.attempt do
    let request ← HelloRequest.decode frame.payload
    require (request.minVersion ≤ 1 ∧ 1 ≤ request.maxVersion)
      (.valueError "simulator and host protocol versions do not overlap")
    let bootId := deriveBootId device.deviceId request.hostNonce
    let payload ← HelloResponse.encode {
      hostNonce := request.hostNonce
      bootId := bootId
      deviceId := device.deviceId
      negotiatedVersion := 1
      resetReason := 0
      fwMajor := 0
      fwMinor := 1
      fwPatch := 0
      fwBuild := 1
      deviceState := 0
    }
    pure ([response .hello frame.sequence payload],
      { device with bootId := some bootId })

/-- `_get_capabilities`. -/
def getCapabilities (device : SimulatedDevice) (frame : Frame) : Outcome :=
  device.attempt do
    requireEmptyPayload frame
    let payload ← CapabilitiesResponse.encode {
      capabilityFlags := 0x7F
      mcuMaxCommandPayload := 192
      maxSamples := 2048
      minSampleIntervalTicks := 120
      maxSampleIntervalTicks := 960
      minBurstPeriodTicks := 24
      maxBurstPeriodTicks := 800
      maxRegisterPairs := 10
      maxOut3Events := 8
      maxOut4Events := 8
      adcBits := 12
      supportedIoModes := 0x0F
    }
    pure ([response .getCapabilities frame.sequence payload], device)

/-- `_set_config`. -/
def setConfig (device : SimulatedDevice) (frame : Frame) : Outcome :=
  device.attempt do
    let _ ← device.requireHello
    let request ← SetConfigRequest.decode frame.payload
    match device.config with
    | none =>
        require (request.expectedProfileSha256 = Bytes.zero 32)
          (.valueError
            "first configuration must expect an unconfigured device")
    | some config =>
        require (request.expectedProfileSha256 = config.profileSha256)
          (.valueError
            "expected profile does not match simulator configuration")
    request.config.validateBoostxlDirectAppliedConfig
    let frames ←
      ack frame request.requestId 2 request.config.deviceConfigCrc32
    pure (frames, { device with config := some request.config })

/-- `_get_config`. -/
def getConfig (device : SimulatedDevice) (frame : Frame) : Outcome :=
  device.attempt do
    let config ← device.requireConfig
    let payload ← config.encode
    pure ([response .getConfig frame.sequence payload], device)

/-- `_event`. -/
def event
    (config : AcquisitionConfigV2)
    (channel : UInt8)
    (sampleIndex : UInt32)
    (edge levelAfter : UInt8) :
    CaptureEvent :=
  let subsampleTick := config.sampleIntervalTicks / 2
  { channel := channel
    edge := edge
    captureMethod := 1
    levelAfter := levelAfter
    sampleIndex := sampleIndex.toInt32
    subsampleTick := subsampleTick
    uncertaintyTicks := 1
    frameOffsetTicks :=
      sampleIndex * config.sampleIntervalTicks.toUInt32 +
        subsampleTick.toUInt32 }

/-- The start of the level of an output that may be switched off. -/
def startLevel (config : AcquisitionConfigV2) (mask : UInt8) : UInt8 :=
  if config.auxFlags &&& mask ≠ 0 then 0 else 0xFF

/-- What `_make_capture` returns for a sequence that has four bytes. -/
def captureData
    (device : SimulatedDevice)
    (config : AcquisitionConfigV2)
    (bootId requestId scheduleId : Bytes 16)
    (sequence : UInt32) :
    CaptureData where
  requestId := requestId
  scheduleId := scheduleId
  captureId :=
    slice (Sha256.digest ("USAC-SIM-CAPTURE-V1".toUTF8.data.toList ++
      bootId.toList ++ requestId.toList ++ writeU32 sequence)).toList 0 16
  bootId := bootId
  deviceId := device.deviceId
  profileSha256 := config.profileSha256
  deviceConfigCrc32 := config.deviceConfigCrc32
  captureSequence := sequence
  sampleIntervalTicks := config.sampleIntervalTicks
  burstPeriodTicks := config.burstPeriodTicks
  sampleCount := config.sampleCount
  pretriggerCount := config.pretriggerCount
  adcBits := config.adcBits
  sampleEncoding := 1
  vrefMv := config.vrefMv
  smclkNominalHz := 24000000
  smclkCalibratedHz := 24000000
  frameStartTick48 := 1000000 + sequence.toUInt64 * 10000
  tTriggerOffsetTicks := 300
  adc0HoldOffsetTicks := -180
  adcApertureNs := 1000
  triggerToTxOutputNs := 125
  calibrationVersion := 1
  qualityFlags := 0
  tussDevStat := 0x08
  out3StartLevel := startLevel config 0x01
  out4StartLevel := startLevel config 0x02
  registerPairs := config.registerPairs
  events :=
    (if config.auxFlags &&& 0x01 ≠ 0 then [event config 3 96 1 1] else []) ++
      if config.auxFlags &&& 0x02 ≠ 0 then [event config 4 128 2 0] else []
  samples :=
    (List.range config.sampleCount.toNat).map fun index =>
      ((index * 37 + 211) &&& 0x0FFF).toUInt16

/-- `_make_capture`, with the device whose capture sequence has grown. What it
asserts its callers have checked. -/
def makeCapture
    (device : SimulatedDevice)
    (requestId scheduleId : Bytes 16) :
    Except Raised CaptureData × SimulatedDevice :=
  let counted :=
    { device with captureSequence := device.captureSequence + 1 }
  let capture := do
    let config ← device.requireConfig
    let bootId ← device.requireHello
    require (counted.captureSequence < 2 ^ 32)
      ⟨.overflowError, "int too big to convert"⟩
    pure (device.captureData config bootId requestId scheduleId
      counted.captureSequence.toUInt32)
  (capture, counted)

/-- The frame of a capture. -/
def captureFrame
    (flags : UInt16)
    (sequence : UInt32)
    (capture : CaptureData) :
    Except Raised Frame := do
  let payload ← capture.encode
  pure {
    messageType := .captureData
    sequence := sequence
    payload := payload
    flags := flags
    protocolVersion := Frame.currentVersion
  }

/-- `_capture_once`. -/
def captureOnce (device : SimulatedDevice) (frame : Frame) : Outcome :=
  let checked := do
    let _ ← device.requireHello
    let config ← device.requireConfig
    let request ← CaptureOnceRequest.decode frame.payload
    require (request.expectedProfileSha256 = config.profileSha256)
      (.valueError "capture profile hash does not match")
    require (request.expectedDeviceConfigCrc32 = config.deviceConfigCrc32)
      (.valueError "capture configuration CRC does not match")
    pure (request.requestId, config.deviceConfigCrc32)
  match checked with
  | .error raised => (.error raised, device)
  | .ok (requestId, crc) =>
      let (captured, counted) := device.makeCapture requestId (Bytes.zero 16)
      let frames := do
        let capture ← captured
        let acked ← ack frame requestId 2 crc
        let data ← captureFrame Flags.response frame.sequence capture
        pure (acked ++ [data])
      (frames, counted)

/-- `_start_periodic`. -/
def startPeriodic
    (device : SimulatedDevice)
    (clockUs : Int)
    (frame : Frame) :
    Outcome :=
  device.attempt do
    let _ ← device.requireHello
    let config ← device.requireConfig
    require (device.schedule = none)
      (.valueError "a periodic schedule is already active")
    let request ← StartPeriodicRequest.decode frame.payload
    require (request.expectedProfileSha256 = config.profileSha256)
      (.valueError "periodic profile hash does not match")
    require (request.expectedDeviceConfigCrc32 = config.deviceConfigCrc32)
      (.valueError "periodic configuration CRC does not match")
    require (100000 ≤ request.periodUs)
      (.valueError "period_us must respect the 10 Hz first-version limit")
    let now ← nowUs clockUs
    let schedule : SimulatedSchedule := {
      requestId := request.requestId
      scheduleId := request.scheduleId
      periodUs := request.periodUs
      captureCount := request.captureCount
      leaseDeadlineUs := now + request.leaseTimeoutMs.toNat * 1000
      nextCaptureUs := now + request.periodUs.toNat
      completedCount := 0
      leaseSequence := 0
    }
    let frames ←
      ack frame request.requestId periodicState config.deviceConfigCrc32
    pure (frames,
      { device with schedule := some schedule, lastError := 0 })

/-- The checks of `_renew_periodic` before the lease is looked at. -/
def renewal
    (device : SimulatedDevice)
    (clockUs : Int)
    (frame : Frame) :
    Except Raised (Bytes 16 × RenewPeriodicLease × SimulatedSchedule × Nat) :=
  do
    let bootId ← device.requireHello
    let request ← RenewPeriodicLease.decode frame.payload
    match device.schedule with
    | none => .error (.valueError "no periodic schedule is active")
    | some schedule =>
        require (request.bootId = bootId ∧
            request.scheduleId = schedule.scheduleId)
          (.valueError
            "renewal does not match the active boot and schedule")
        let now ← nowUs clockUs
        pure (bootId, request, schedule, now)

/-- `_renew_periodic`. -/
def renewPeriodic
    (device : SimulatedDevice)
    (clockUs : Int)
    (frame : Frame) :
    Outcome :=
  match device.renewal clockUs frame with
  | .error raised => (.error raised, device)
  | .ok (bootId, request, schedule, now) =>
      if schedule.leaseDeadlineUs ≤ now then
        (.error (.valueError "periodic lease has expired"),
          device.expireSchedule)
      else
        let renewed := schedule.renew request now
        let frames := do
          let remaining ← packWord32 (renewed.leaseRemainingMs now)
          let payload ← RenewPeriodicLease.encode {
            bootId := bootId
            scheduleId := renewed.scheduleId
            leaseSequence := renewed.leaseSequence
            leaseTimeoutOrRemainingMs := remaining
          }
          pure [response .renewPeriodicLease frame.sequence payload]
        (frames, { device with schedule := some renewed })

/-- `_stop`. -/
def stop (device : SimulatedDevice) (frame : Frame) : Outcome :=
  device.attempt do
    let _ ← device.requireHello
    let request ← StopRequest.decode frame.payload
    require (∀ schedule ∈ device.schedule,
        schedule.scheduleId = request.scheduleId)
      (.valueError "STOP schedule_id does not match the active schedule")
    let frames ←
      ack frame request.requestId configuredState
        ((device.config.map (·.deviceConfigCrc32)).getD 0)
    pure (frames, { device with schedule := none, lastError := 0 })

/-- A device whose lease has run out by now gives its schedule up. -/
def expireLate (device : SimulatedDevice) (now : Nat) : SimulatedDevice :=
  match device.schedule with
  | none => device
  | some schedule =>
      if schedule.leaseDeadlineUs ≤ now then
        device.expireSchedule
      else
        device

/-- Whether a configuration switches an output on. -/
def outputEnabled (config : Option AcquisitionConfigV2) (mask : UInt8) :
    UInt8 :=
  if config.any fun config => config.auxFlags &&& mask != 0 then 1 else 0

/-- The response of `_get_status` by a device that is not late. -/
def status
    (device : SimulatedDevice)
    (bootId : Bytes 16)
    (now : Nat) :
    Except Raised StatusResponse := do
  let captureSequence ← packWord32 device.captureSequence
  let missedCaptureCount ← packWord32 device.missedCaptureCount
  let leaseRemainingMs ←
    packWord32
      ((device.schedule.map fun schedule : SimulatedSchedule =>
        schedule.leaseRemainingMs now).getD 0)
  pure {
    bootId := bootId
    deviceState :=
      if device.schedule.isSome then periodicState else configuredState
    lastError := device.lastError
    profileSha256 :=
      (device.config.map (·.profileSha256)).getD (Bytes.zero 32)
    deviceConfigCrc32 := (device.config.map (·.deviceConfigCrc32)).getD 0
    captureSequence := captureSequence
    missedCaptureCount := missedCaptureCount
    qualityFlags := 0
    tussDevStat := 0x08
    vdrvReady := 1
    out3Enabled := outputEnabled device.config 0x01
    out4Enabled := outputEnabled device.config 0x02
    clockFaultFlags := 0
    activeScheduleId :=
      (device.schedule.map (·.scheduleId)).getD (Bytes.zero 16)
    leaseSequence := (device.schedule.map (·.leaseSequence)).getD 0
    leaseRemainingMs := leaseRemainingMs
  }

/-- `_get_status`. -/
def getStatus
    (device : SimulatedDevice)
    (clockUs : Int)
    (frame : Frame) :
    Outcome :=
  let checked := do
    let bootId ← device.requireHello
    requireEmptyPayload frame
    let now ← nowUs clockUs
    pure (bootId, now)
  match checked with
  | .error raised => (.error raised, device)
  | .ok (bootId, now) =>
      let current := device.expireLate now
      let frames := do
        let status ← current.status bootId now
        let payload ← status.encode
        pure [response .getStatus frame.sequence payload]
      (frames, current)

/-- The operation a request asks for. -/
def dispatch
    (device : SimulatedDevice)
    (clockUs : Int)
    (frame : Frame) :
    Outcome :=
  match frame.messageType with
  | .hello => device.hello frame
  | .getCapabilities => device.getCapabilities frame
  | .setConfig => device.setConfig frame
  | .getConfig => device.getConfig frame
  | .captureOnce => device.captureOnce frame
  | .startPeriodic => device.startPeriodic clockUs frame
  | .renewPeriodicLease => device.renewPeriodic clockUs frame
  | .stop => device.stop frame
  | .getStatus => device.getStatus clockUs frame
  | other =>
      (.error (.valueError ("simulator does not support " ++ other.name)),
        device)

/-- `handle`. -/
def handle
    (device : SimulatedDevice)
    (clockUs : Int)
    (frame : Frame) :
    Outcome :=
  let key := (frame.messageType, frame.sequence, frame.payload)
  match device.completed.lookup key with
  | some frames => (.ok frames, device)
  | none =>
      if frame.flags ≠ Flags.none then
        (.error (.valueError "simulator accepts requests with Flags=0 only"),
          device)
      else
        match device.dispatch clockUs frame with
        | (.error raised, next) => (.error raised, next)
        | (.ok frames, next) =>
            (.ok frames,
              { next with completed := (key, frames) :: next.completed })

/-- `poll`. -/
def poll (device : SimulatedDevice) (clockUs : Int) : Outcome :=
  match device.schedule with
  | none => (.ok [], device)
  | some schedule =>
      match nowUs clockUs with
      | .error raised => (.error raised, device)
      | .ok now =>
          if schedule.leaseDeadlineUs ≤ now then
            (.ok [], device.expireSchedule)
          else if now < schedule.nextCaptureUs then
            (.ok [], device)
          else
            let overdue :=
              (now - schedule.nextCaptureUs) / schedule.periodUs.toNat
            let rearmed :=
              { schedule with
                nextCaptureUs :=
                  schedule.nextCaptureUs +
                    (overdue + 1) * schedule.periodUs.toNat }
            let missed :=
              { device with
                missedCaptureCount := device.missedCaptureCount + overdue
                schedule := some rearmed }
            match missed.makeCapture schedule.requestId schedule.scheduleId with
            | (.error raised, counted) => (.error raised, counted)
            | (.ok capture, counted) =>
                let completed :=
                  { rearmed with
                    completedCount := schedule.completedCount + 1 }
                let finished :=
                  schedule.captureCount ≠ 0 ∧
                    schedule.captureCount.toNat ≤ completed.completedCount
                let frames := do
                  let data ←
                    captureFrame Flags.async capture.captureSequence capture
                  pure [data]
                (frames,
                  { counted with
                    schedule := if finished then none else some completed })

end SimulatedDevice

end Usac.Host
