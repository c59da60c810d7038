import Usac.Firmware.Capture
import Usac.Firmware.Configurator

namespace Usac.Firmware

open Library

/-!
# The firmware application

The command dispatcher of `usac_firmware_app.c` in its production build. A
handler is a function of the application state, the request, the capacity of
the response buffer and the results of the hardware callbacks; it returns the
next state, the encoded response when there is one, and the callbacks it
invoked. Each invocation carries the application state at that moment, so what
held when a callback ran can be stated of the record.

The callbacks are always installed in production, so their null checks are
left out.
-/

/-- `usac_firmware_state_t`. -/
inductive FirmwareState where
  | resetSafe
  | usbDetachHold
  | selfTest
  | enumerating
  | sessionWait
  | configuring
  | idleSafe
  | fault
  deriving Repr, DecidableEq

/-- The byte a state has on the wire. -/
def FirmwareState.code : FirmwareState → UInt8
  | .resetSafe => 0
  | .usbDetachHold => 1
  | .selfTest => 2
  | .enumerating => 3
  | .sessionWait => 4
  | .configuring => 5
  | .idleSafe => 6
  | .fault => 7

/-- `USAC_LOOPBACK_EDGE_COUNT`. -/
def loopbackEdgeCount : Nat := 8

/-- `USAC_LOOPBACK_PASS`. -/
def loopbackPass : UInt8 := 0x01

/-- `usac_loopback_report_t`. -/
structure LoopbackReport where
  captureTicks : List.Vector UInt16 loopbackEdgeCount
  minimumIntervalTicks : UInt16
  maximumIntervalTicks : UInt16
  capturedEdges : UInt8
  resultFlags : UInt8
  preSpiStatus : UInt8
  preDevStat : UInt8
  preTofConfig : UInt8
  preVdrvCtrl : UInt8
  postSpiStatus : UInt8
  postDevStat : UInt8
  postTofConfig : UInt8
  postVdrvCtrl : UInt8
  finalIo2Level : UInt8
  deriving DecidableEq

/-- The stored reply of one replayable command. -/
structure ReplyCache where
  valid : Bool
  requestId : Id16
  sequence : UInt32
  payloadCrc32 : UInt32
  reply : List UInt8
  deriving DecidableEq

/-- `usac_firmware_app_t`. -/
structure App where
  state : FirmwareState
  config : ConfigV2
  deviceId : Id16
  bootId : Id16
  hostNonce : Id16
  resetReason : UInt8
  helloEstablished : Bool
  configValid : Bool
  profileActive : Bool
  setCache : ReplyCache
  loopbackCache : ReplyCache
  loopbackAuthorized : Bool
  capturePending : Bool
  captureRequestId : Id16
  captureScheduleId : Id16
  captureIsAsync : Bool
  captureRequestSequence : UInt32
  captureSequence : UInt32
  captureReport : CaptureReport
  captureCache : ReplyCache
  periodic : CaptureSchedule
  periodicRequestId : Id16
  lastError : UInt16
  lastTussDevStat : UInt8
  clockFaultFlags : UInt16
  deriving DecidableEq

/-- The results the hardware callbacks return within one step. Every handler
invokes each callback at most once. -/
structure Hardware where
  applyResult : ConfigResult
  applyReport : ConfigReport
  forceSafeResult : ConfigResult
  loopbackRan : Bool
  loopbackReport : LoopbackReport
  captureRan : Bool
  captureReport : CaptureReport
  captureSamples : Waveform

/-- One hardware callback with its arguments and what it returned. -/
inductive Call where
  | applyProfile (profile : Profile) (result : ConfigResult)
  | forceSafe (result : ConfigResult)
  | runIo2Loopback
      (burstPeriodTicks : UInt16)
      (ran : Bool)
      (report : LoopbackReport)
  | capture
      (config : ConfigV2)
      (triggerSource : UInt8)
      (syncTimeoutMs : UInt32)
      (ran : Bool)
      (report : CaptureReport)
      (samples : Waveform)
  deriving DecidableEq

/-- A callback and the application state it was invoked in. -/
structure Invocation where
  moment : App
  call : Call
  deriving DecidableEq

/-- What one operation of the application leaves behind. -/
structure Outcome where
  app : App
  response : Option (List UInt8)
  calls : List Invocation
  deriving DecidableEq

namespace ErrorCode

/-! The error codes of the wire protocol. -/

def invalidMessage : UInt16 := 1
def unsupportedType : UInt16 := 4
def invalidState : UInt16 := 5
def configMismatch : UInt16 := 6
def vdrvNotReady : UInt16 := 9
def tussDriverFault : UInt16 := 10
def adcDmaTimeout : UInt16 := 11
def internal : UInt16 := 15
def timingUncalibrated : UInt16 := 16
def leaseExpired : UInt16 := 18
def bootSessionMismatch : UInt16 := 20
def unsafeConfig : UInt16 := 25
def syncTimeout : UInt16 := 26
def unsupportedHardware : UInt16 := 27
def io2LoopbackFailed : UInt16 := 28

end ErrorCode

/-- `map_config_error`. -/
def mapConfigError : ConfigResult → UInt16
  | .vdrvTimeout => ErrorCode.vdrvNotReady
  | .driverFault | .readback | .bus => ErrorCode.tussDriverFault
  | .identity => ErrorCode.unsupportedHardware
  | .ok | .invalidProfile => ErrorCode.unsafeConfig

/-- `usac_identity_derive`. -/
def identityDerive (dieRecord : Bytes 10) : Id16 :=
  let domain : List UInt8 :=
    [0x55, 0x53, 0x41, 0x43, 0x2D, 0x44, 0x45, 0x56, 0x49, 0x43, 0x45, 0x2D,
      0x49, 0x44, 0x2D, 0x56, 0x31]
  slice (sha256 (domain ++ dieRecord.toList)).toList 0 16

/-- `usac_boot_id_derive`. -/
def bootIdDerive (deviceId hostNonce : Id16) : Id16 :=
  let domain : List UInt8 :=
    [0x55, 0x53, 0x41, 0x43, 0x2D, 0x42, 0x4F, 0x4F, 0x54, 0x2D,
      0x49, 0x44, 0x2D, 0x56, 0x31]
  slice (sha256 (domain ++ deviceId.toList ++ hostNonce.toList)).toList 0 16

/-- What a cache says about a request. -/
inductive CacheAnswer where
  | miss
  | replay
  | conflict
  deriving Repr, DecidableEq

namespace ReplyCache

/-- A cache that holds nothing. -/
def empty : ReplyCache where
  valid := false
  requestId := Bytes.zero 16
  sequence := 0
  payloadCrc32 := 0
  reply := []

/-- The comparison at the head of every replayable command. -/
def lookup (cache : ReplyCache) (request : Mcu.FrameView) : CacheAnswer :=
  if cache.valid ∧ slice request.payload 0 16 = cache.requestId then
    if request.sequence = cache.sequence ∧
        Mcu.crc32 request.payload = cache.payloadCrc32 then
      .replay
    else
      .conflict
  else
    .miss

/-- The cache filled with the reply to a request. -/
def store (request : Mcu.FrameView) (reply : List UInt8) : ReplyCache where
  valid := true
  requestId := slice request.payload 0 16
  sequence := request.sequence
  payloadCrc32 := Mcu.crc32 request.payload
  reply := reply

/-- The cache with its flag cleared. -/
def invalidate (cache : ReplyCache) : ReplyCache :=
  { cache with valid := false }

end ReplyCache

namespace App

/-- The size of `response_buffer` in `main.c`. -/
def responseCapacity : Nat := 128

/-- `usac_firmware_app_init`. -/
def init
    (deviceId bootId : Id16)
    (resetReason : UInt8)
    (initialState : FirmwareState) :
    App where
  state := initialState
  config := ConfigV2.initD10x4
  deviceId := deviceId
  bootId := bootId
  hostNonce := Bytes.zero 16
  resetReason := resetReason
  helloEstablished := false
  configValid := initialState = .sessionWait ∨ initialState = .idleSafe
  profileActive := initialState = .sessionWait ∨ initialState = .idleSafe
  setCache := ReplyCache.empty
  loopbackCache := ReplyCache.empty
  loopbackAuthorized := false
  capturePending := false
  captureRequestId := Bytes.zero 16
  captureScheduleId := Bytes.zero 16
  captureIsAsync := false
  captureRequestSequence := 0
  captureSequence := 0
  captureReport := CaptureReport.zero
  captureCache := ReplyCache.empty
  periodic := CaptureSchedule.init
  periodicRequestId := Bytes.zero 16
  lastError := 0
  lastTussDevStat := 0
  clockFaultFlags := 0

/-- `usac_firmware_app_record_boot_config`. -/
def recordBootConfig
    (app : App)
    (result : ConfigResult)
    (devStat : UInt8) :
    App :=
  { app with
    lastTussDevStat := devStat
    lastError := if result = .ok then 0 else mapConfigError result }

/-- The application as `main` starts it, after the boot configuration. -/
def boot
    (deviceId : Id16)
    (result : ConfigResult)
    (devStat : UInt8) :
    App :=
  (init deviceId (Bytes.zero 16) 0
    (if result = .ok then .sessionWait else .fault)).recordBootConfig
      result devStat

/-- An operation that invokes nothing and leaves the state as given. -/
def answer (app : App) (response : Option (List UInt8)) : Outcome where
  app := app
  response := response
  calls := []

/-- The request identity at the head of a payload. -/
def requestId (request : Mcu.FrameView) : Id16 :=
  slice request.payload 0 16

/-- A response frame. -/
def respond
    (request : Mcu.FrameView)
    (messageType : UInt8)
    (payload : List UInt8)
    (capacity : Nat) :
    Option (List UInt8) :=
  Mcu.encodeFrame messageType Flag.response request.sequence payload capacity

/-- The payload of an acknowledgement. -/
def ackPayload
    (app : App)
    (request : Mcu.FrameView)
    (ackedType : UInt8)
    (crc32 : UInt32) :
    List UInt8 :=
  (requestId request).toList ++ [ackedType, app.state.code] ++ writeU16 0 ++
    writeU32 crc32

/-- `encode_ack`. -/
def encodeAck
    (app : App)
    (request : Mcu.FrameView)
    (ackedType : UInt8)
    (capacity : Nat) :
    Option (List UInt8) :=
  respond request Message.ack
    (app.ackPayload request ackedType
      (if app.configValid then app.config.deviceConfigCrc32 else 0))
    capacity

/-- The payload of an error response. -/
def errorPayload
    (app : App)
    (request : Mcu.FrameView)
    (errorCode : UInt16)
    (detail0 detail1 : UInt32) :
    List UInt8 :=
  (if 16 ≤ request.payload.length then
      requestId request
    else
      Bytes.zero 16).toList ++
    [request.messageType, app.state.code] ++ writeU16 errorCode ++
    writeU32 detail0 ++ writeU32 detail1 ++ [0]

/-- `encode_error`. -/
def encodeError
    (app : App)
    (request : Mcu.FrameView)
    (errorCode : UInt16)
    (detail0 detail1 : UInt32)
    (capacity : Nat) :
    Option (List UInt8) :=
  respond request Message.error
    (app.errorPayload request errorCode detail0 detail1) capacity

/-- An error response that changes nothing. -/
def refuse
    (app : App)
    (request : Mcu.FrameView)
    (errorCode : UInt16)
    (detail0 detail1 : UInt32)
    (capacity : Nat) :
    Outcome :=
  app.answer (app.encodeError request errorCode detail0 detail1 capacity)

/-- The invocation of `force_safe` in a given state. -/
def forceSafe (app : App) (hardware : Hardware) : Invocation where
  moment := app
  call := .forceSafe hardware.forceSafeResult

/-- The invocation of `apply_profile` with the given profile. -/
def applyProfile
    (app : App)
    (profile : Profile)
    (hardware : Hardware) :
    Invocation where
  moment := app
  call := .applyProfile profile hardware.applyResult

/-- The invocation of `capture` with the stored configuration. -/
def capture
    (app : App)
    (triggerSource : UInt8)
    (syncTimeoutMs : UInt32)
    (hardware : Hardware) :
    Invocation where
  moment := app
  call :=
    .capture app.config triggerSource syncTimeoutMs hardware.captureRan
      hardware.captureReport hardware.captureSamples

/-- The session state `usac_firmware_app_end_session` clears before it forces
the hardware safe. -/
def cleared (app : App) : App :=
  { app with
    helloEstablished := false
    setCache := app.setCache.invalidate
    loopbackCache := app.loopbackCache.invalidate
    loopbackAuthorized := false
    capturePending := false
    captureCache := app.captureCache.invalidate
    profileActive := false
    periodic := CaptureSchedule.init }

/-- `usac_firmware_app_end_session`. -/
def endSession (app : App) (hardware : Hardware) : Outcome :=
  let cleared := app.cleared
  let secured :=
    if hardware.forceSafeResult ≠ .ok then
      { cleared with configValid := false, state := .fault }
    else
      cleared
  { app :=
      { secured with
        bootId := Bytes.zero 16
        hostNonce := Bytes.zero 16
        state := if secured.state ≠ .fault then .sessionWait else .fault }
    response := none
    calls := [cleared.forceSafe hardware] }

/-- The payload of the HELLO response. -/
def helloPayload (app : App) (request : Mcu.FrameView) : List UInt8 :=
  (requestId request).toList ++ app.bootId.toList ++ app.deviceId.toList ++
    [1, app.resetReason] ++ writeU16 0 ++ writeU16 2 ++ writeU16 0 ++
    writeU32 2 ++ [app.state.code, 0, 0, 0]

/-- The session a HELLO opens. -/
def greeted (app : App) (hostNonce : Id16) : App :=
  { app with
    bootId := bootIdDerive app.deviceId hostNonce
    hostNonce := hostNonce
    helloEstablished := true
    state := if app.state = .sessionWait then .idleSafe else app.state }

/-- `handle_hello`. -/
def handleHello
    (app : App)
    (request : Mcu.FrameView)
    (capacity : Nat)
    (hardware : Hardware) :
    Outcome :=
  let hostNonce := requestId request
  let ended :=
    if app.helloEstablished ∧ app.hostNonce ≠ hostNonce then
      app.endSession hardware
    else
      app.answer none
  let greeted := ended.app.greeted hostNonce
  { app := greeted
    response :=
      respond request Message.hello (greeted.helloPayload request) capacity
    calls := ended.calls }

/-- `handle_get_config`. -/
def handleGetConfig
    (app : App)
    (request : Mcu.FrameView)
    (capacity : Nat) :
    Outcome :=
  if app.configValid = false then
    app.refuse request ErrorCode.invalidState 0 0 capacity
  else
    match app.config.encode ConfigV2.wireLength with
    | .error _ => app.refuse request ErrorCode.internal 0 0 capacity
    | .ok payload =>
        app.answer (respond request Message.getConfig payload capacity)

/-- The hash a SET_CONFIG must name as the current one. -/
def currentHash (app : App) : Bytes 32 :=
  if app.configValid then app.config.profileSha256 else Bytes.zero 32

/-- The first byte in which the named current hash is wrong. -/
def hashMismatch? (app : App) (request : Mcu.FrameView) : Option Nat :=
  (List.range 32).find? fun index =>
    byteAt request.payload (16 + index) !=
      byteAt app.currentHash.toList index

/-- The state after a configuration that the hardware refused. -/
def configFailed (app : App) : App :=
  { app with
    configValid := false
    profileActive := false
    state := .fault }

/-- The state after a configuration that the hardware took. -/
def configApplied
    (app : App)
    (candidate : ConfigV2)
    (report : ConfigReport) :
    App :=
  { app with
    config := candidate
    configValid := true
    profileActive := true
    lastTussDevStat := report.devStat
    loopbackAuthorized := false
    loopbackCache := app.loopbackCache.invalidate
    captureCache := app.captureCache.invalidate
    state := .idleSafe }

/-- `execute_set_config`. -/
def executeSetConfig
    (app : App)
    (request : Mcu.FrameView)
    (capacity : Nat)
    (hardware : Hardware) :
    Outcome :=
  match app.hashMismatch? request with
  | some index =>
      app.refuse request ErrorCode.configMismatch index.toUInt32 0 capacity
  | none =>
      match ConfigV2.decode
          (slice request.payload 48 ConfigV2.wireLength).toList with
      | .error _ => app.refuse request ErrorCode.unsafeConfig 0 0 capacity
      | .ok candidate =>
          let configuring := { app with state := .configuring }
          let calls := [configuring.applyProfile candidate.profile hardware]
          if hardware.applyResult ≠ .ok then
            let failed := configuring.configFailed
            { app := failed
              response :=
                failed.encodeError request
                  (mapConfigError hardware.applyResult)
                  hardware.applyReport.devStat.toUInt32 0 capacity
              calls := calls }
          else
            let applied :=
              configuring.configApplied candidate hardware.applyReport
            { app := applied
              response :=
                respond request Message.ack
                  (applied.ackPayload request Message.setConfig
                    candidate.deviceConfigCrc32)
                  capacity
              calls := calls }

/-- The reply a cache holds, when the response buffer takes it. -/
def cachedReply (cache : ReplyCache) (capacity : Nat) : Option (List UInt8) :=
  if capacity < cache.reply.length then none else some cache.reply

/-- The size of `set_cache_response`. -/
def setCacheSize : Nat := 64

/-- `handle_set_config`. -/
def handleSetConfig
    (app : App)
    (request : Mcu.FrameView)
    (capacity : Nat)
    (hardware : Hardware) :
    Outcome :=
  match app.setCache.lookup request with
  | .replay => app.answer (cachedReply app.setCache capacity)
  | .conflict =>
      app.refuse request ErrorCode.invalidMessage app.setCache.sequence
        request.sequence capacity
  | .miss =>
      let executed := app.executeSetConfig request capacity hardware
      match executed.response with
      | none => executed
      | some response =>
          if setCacheSize < response.length then
            executed
          else
            { executed with
              app :=
                { executed.app with
                  setCache := ReplyCache.store request response } }

/-- The payload of a loopback result. -/
def loopbackPayload
    (app : App)
    (request : Mcu.FrameView)
    (report : LoopbackReport) :
    List UInt8 :=
  (requestId request).toList ++ app.config.profileSha256.toList ++
    writeU32 app.config.deviceConfigCrc32 ++
    writeU16 app.config.profile.burstPeriodTicks ++
    [report.capturedEdges, report.resultFlags] ++
    report.captureTicks.toList.flatMap writeU16 ++
    writeU16 report.minimumIntervalTicks ++
    writeU16 report.maximumIntervalTicks ++
    [report.preSpiStatus, report.preDevStat, report.preTofConfig,
      report.preVdrvCtrl, report.postSpiStatus, report.postDevStat,
      report.postTofConfig, report.postVdrvCtrl, report.finalIo2Level, 0]

/-- The size of `loopback_cache_response`. -/
def loopbackCacheSize : Nat := 128

/-- Whether a payload names the stored configuration by hash and checksum. -/
def namesConfig (app : App) (request : Mcu.FrameView) (offset : Nat) : Bool :=
  slice request.payload offset 32 == app.config.profileSha256 &&
    readU32 request.payload (offset + 32) == app.config.deviceConfigCrc32

/-- `handle_io2_loopback`. -/
def handleIo2Loopback
    (app : App)
    (request : Mcu.FrameView)
    (capacity : Nat)
    (hardware : Hardware) :
    Outcome :=
  match app.loopbackCache.lookup request with
  | .replay => app.answer (cachedReply app.loopbackCache capacity)
  | .conflict =>
      app.refuse request ErrorCode.invalidMessage app.loopbackCache.sequence
        request.sequence capacity
  | .miss =>
      if app.state ≠ .idleSafe ∨ app.configValid = false then
        app.refuse request ErrorCode.invalidState 0 0 capacity
      else if app.clockFaultFlags ≠ 0 then
        app.refuse request ErrorCode.timingUncalibrated
          app.clockFaultFlags.toUInt32 0 capacity
      else if app.namesConfig request 16 = false then
        app.refuse request ErrorCode.configMismatch 0 0 capacity
      else if
          app.config.profileSha256 ≠ ConfigV2.initD10x4.profileSha256 ∨
            app.config.deviceConfigCrc32 ≠
              ConfigV2.initD10x4.deviceConfigCrc32 then
        app.refuse request ErrorCode.unsupportedHardware
          app.config.profile.burstPeriodTicks.toUInt32 0 capacity
      else
        let running := { app with loopbackAuthorized := false }
        let calls :=
          [Invocation.mk running
            (.runIo2Loopback app.config.profile.burstPeriodTicks
              hardware.loopbackRan hardware.loopbackReport)]
        let inactive := { running with profileActive := false }
        if hardware.loopbackRan = false then
          { app := inactive
            response :=
              inactive.encodeError request ErrorCode.io2LoopbackFailed 0 0
                capacity
            calls := calls }
        else
          let response :=
            respond request Message.runIo2LoopbackTest
              (inactive.loopbackPayload request hardware.loopbackReport)
              capacity
          match response with
          | none => { app := inactive, response := none, calls := calls }
          | some reply =>
              if loopbackCacheSize < reply.length then
                { app := inactive, response := some reply, calls := calls }
              else
                { app :=
                    { inactive with
                      loopbackAuthorized :=
                        hardware.loopbackReport.resultFlags = loopbackPass
                      loopbackCache := ReplyCache.store request reply }
                  response := some reply
                  calls := calls }

/-- `++sequence`, stepping over zero. -/
def nextCaptureSequence (sequence : UInt32) : UInt32 :=
  if sequence + 1 = 0 then 1 else sequence + 1

/-- The capture fields after a commanded capture. -/
def captured
    (app : App)
    (request : Mcu.FrameView)
    (report : CaptureReport) :
    App :=
  { app with
    captureRequestId := requestId request
    captureScheduleId := Bytes.zero 16
    captureIsAsync := false
    captureRequestSequence := request.sequence
    captureSequence := nextCaptureSequence app.captureSequence
    captureReport := report
    capturePending := true }

/-- The size of `capture_cache_ack`. -/
def captureCacheSize : Nat := 44

/-- The error that reports an incomplete commanded capture. -/
def captureError (report : CaptureReport) : UInt16 :=
  if report.syncTimedOut then
    ErrorCode.syncTimeout
  else if report.hardwareFault then
    ErrorCode.tussDriverFault
  else
    ErrorCode.adcDmaTimeout

/-- The checks of `handle_capture_once` behind the cache and the state. -/
def captureOnceUnsafe (app : App) (request : Mcu.FrameView) : Bool :=
  decide (byteAt request.payload 52 > 2) ||
    (byteAt request.payload 52 != 1 && readU32 request.payload 56 != 0) ||
    decide (captureSampleCount ≤ app.config.pretriggerCount.toNat)

/-- The report of a commanded capture. A failed safe transition afterwards
counts as a hardware fault. -/
def securedReport (hardware : Hardware) : CaptureReport :=
  if hardware.forceSafeResult ≠ .ok then
    { hardware.captureReport with hardwareFault := true }
  else
    hardware.captureReport

/-- The authorization is consumed before any hardware side effect. -/
def consumed (app : App) : App :=
  { app with loopbackAuthorized := false }

/-- The state in which a profile has been applied, or no longer is. -/
def withProfile (app : App) (active : Bool) : App :=
  { app with profileActive := active }

/-- The callbacks of a commanded capture whose profile was applied. -/
def captureCalls
    (app : App)
    (request : Mcu.FrameView)
    (hardware : Hardware) :
    List Invocation :=
  [app.consumed.applyProfile app.config.profile hardware,
    (app.consumed.withProfile true).capture (byteAt request.payload 52)
      (readU32 request.payload 56) hardware,
    (app.consumed.withProfile false).forceSafe hardware]

/-- The part of `handle_capture_once` that drives the hardware. -/
def executeCaptureOnce
    (app : App)
    (request : Mcu.FrameView)
    (capacity : Nat)
    (hardware : Hardware) :
    Outcome :=
  let inactive := app.consumed.withProfile false
  let report := securedReport hardware
  if hardware.applyResult ≠ .ok then
    { app := inactive
      response :=
        inactive.encodeError request (mapConfigError hardware.applyResult)
          hardware.applyReport.devStat.toUInt32 0 capacity
      calls :=
        [app.consumed.applyProfile app.config.profile hardware,
          inactive.forceSafe hardware] }
  else if hardware.captureRan = false ∨
      report.isComplete app.config.pretriggerCount = false then
    { app := inactive
      response :=
        inactive.encodeError request (captureError report)
          (report.capturedSamples.toUInt32 |||
            (report.diagnosticFlags.toUInt32 <<< 16))
          (report.dmaRemaining.toUInt32 |||
            (report.diagnosticTimerTick.toUInt32 <<< 16))
          capacity
      calls := app.captureCalls request hardware }
  else
    let captured := inactive.captured request report
    let response :=
      respond request Message.ack
        (captured.ackPayload request Message.captureOnce
          captured.config.deviceConfigCrc32)
        capacity
    match response with
    | none =>
        { app := { captured with capturePending := false }
          response := none
          calls := app.captureCalls request hardware }
    | some ack =>
        if captureCacheSize < ack.length then
          { app := { captured with capturePending := false }
            response := some ack
            calls := app.captureCalls request hardware }
        else
          { app :=
              { captured with captureCache := ReplyCache.store request ack }
            response := some ack
            calls := app.captureCalls request hardware }

/-- `handle_capture_once`. -/
def handleCaptureOnce
    (app : App)
    (request : Mcu.FrameView)
    (capacity : Nat)
    (hardware : Hardware) :
    Outcome :=
  match app.captureCache.lookup request with
  | .replay =>
      if capacity < app.captureCache.reply.length then
        app.answer none
      else
        { app with capturePending := true }.answer
          (some app.captureCache.reply)
  | .conflict =>
      app.refuse request ErrorCode.invalidMessage app.captureCache.sequence
        request.sequence capacity
  | .miss =>
      if app.state ≠ .idleSafe ∨ app.configValid = false then
        app.refuse request ErrorCode.invalidState 0 0 capacity
      else if app.clockFaultFlags ≠ 0 then
        app.refuse request ErrorCode.timingUncalibrated
          app.clockFaultFlags.toUInt32 0 capacity
      else if app.namesConfig request 16 = false then
        app.consumed.refuse request ErrorCode.configMismatch 0 0 capacity
      else if app.captureOnceUnsafe request then
        app.consumed.refuse request ErrorCode.unsafeConfig 0 0 capacity
      else
        app.executeCaptureOnce request capacity hardware

/-- `handle_get_capabilities`. -/
def handleGetCapabilities
    (app : App)
    (request : Mcu.FrameView)
    (capacity : Nat) :
    Outcome :=
  app.answer
    (respond request Message.getCapabilities
      (writeU32 0x0000007F ++ writeU16 Mcu.maxCommandPayload.toUInt16 ++
        writeU16 captureSampleCount.toUInt16 ++ writeU16 120 ++
        writeU16 960 ++ writeU16 24 ++ writeU16 800 ++
        [registerCount.toUInt8, 1, 16, 12, 0x0F, 0, 0, 0])
      capacity)

/-- `TUSS4470_DEV_STAT_VDRV_READY`. -/
def devStatVdrvReady : UInt8 := 0x08

/-- `USAC_QUALITY_TIMING_UNCALIBRATED`. -/
def qualityTimingUncalibrated : UInt32 := 0x00000020

/-- The payload of the status response. -/
def statusPayload (app : App) : List UInt8 :=
  let auxBit (mask : UInt8) : UInt8 :=
    if app.configValid ∧ app.config.auxFlags &&& mask ≠ 0 then 1 else 0
  app.bootId.toList ++ [app.state.code, 0] ++ writeU16 app.lastError ++
    app.currentHash.toList ++
    writeU32 (if app.configValid then app.config.deviceConfigCrc32 else 0) ++
    writeU32 app.captureSequence ++ writeU32 app.periodic.missedCount ++
    writeU32 qualityTimingUncalibrated ++
    [app.lastTussDevStat,
      if app.lastTussDevStat &&& devStatVdrvReady ≠ 0 then 1 else 0,
      auxBit 0x01, auxBit 0x02] ++
    writeU16 app.clockFaultFlags ++ [0, 0] ++
    (if app.periodic.active then
      app.periodic.scheduleId.toList ++
        writeU32 app.periodic.leaseSequence ++
        writeU32 app.periodic.leaseRemainingMs.toUInt32
    else
      List.replicate 24 0)

/-- `handle_get_status`. -/
def handleGetStatus
    (app : App)
    (request : Mcu.FrameView)
    (capacity : Nat) :
    Outcome :=
  app.answer (respond request Message.getStatus app.statusPayload capacity)

/-- `handle_start_periodic`. -/
def handleStartPeriodic
    (app : App)
    (request : Mcu.FrameView)
    (capacity : Nat) :
    Outcome :=
  if app.state ≠ .idleSafe ∨ app.configValid = false ∨
      app.capturePending ∨ app.clockFaultFlags ≠ 0 then
    app.refuse request ErrorCode.invalidState 0 0 capacity
  else if app.namesConfig request 32 = false then
    app.refuse request ErrorCode.configMismatch 0 0 capacity
  else
    match app.periodic.start (slice request.payload 16 16)
        (readU32 request.payload 68) (readU32 request.payload 72)
        (readU32 request.payload 76).toUInt16 with
    | (started, .ok) =>
        let running :=
          { app with
            periodic := started
            periodicRequestId := requestId request
            lastError := 0 }
        running.answer
          (running.encodeAck request Message.startPeriodic capacity)
    | (_, result) =>
        app.refuse request
          (if result = .conflict then
            ErrorCode.invalidState
          else
            ErrorCode.unsafeConfig)
          0 0 capacity

/-- `handle_renew_periodic`. -/
def handleRenewPeriodic
    (app : App)
    (request : Mcu.FrameView)
    (capacity : Nat) :
    Outcome :=
  if slice request.payload 0 16 ≠ app.bootId then
    app.refuse request ErrorCode.bootSessionMismatch 0 0 capacity
  else
    match app.periodic.renew (slice request.payload 16 16)
        (readU32 request.payload 32)
        (readU32 request.payload 36).toUInt16 with
    | (renewed, .ok) =>
        { app with periodic := renewed }.answer
          (respond request Message.renewPeriodicLease
            (app.bootId.toList ++ renewed.scheduleId.toList ++
              writeU32 renewed.leaseSequence ++
              writeU32 renewed.leaseRemainingMs.toUInt32)
            capacity)
    | (_, result) =>
        app.refuse request
          (if result = .conflict then
            ErrorCode.invalidState
          else
            ErrorCode.invalidMessage)
          0 0 capacity

/-- `handle_stop`. -/
def handleStop
    (app : App)
    (request : Mcu.FrameView)
    (capacity : Nat)
    (hardware : Hardware) :
    Outcome :=
  match app.periodic.stop (slice request.payload 16 16) with
  | (_, .conflict) =>
      app.refuse request ErrorCode.invalidState 0 0 capacity
  | (stopped, _) =>
      let halted := { app with periodic := stopped }
      let finished := { halted with lastError := 0 }
      { app := finished
        response := finished.encodeAck request Message.stop capacity
        calls := [halted.forceSafe hardware] }

/-- `usac_firmware_app_handle`. -/
def handle
    (app : App)
    (request : Mcu.FrameView)
    (capacity : Nat)
    (hardware : Hardware) :
    Outcome :=
  if request.flags ≠ 0 then
    app.refuse request ErrorCode.invalidMessage request.flags.toUInt32 0
      capacity
  else if request.messageType = Message.hello then
    app.handleHello request capacity hardware
  else if app.helloEstablished = false then
    app.refuse request ErrorCode.invalidState 0 0 capacity
  else if request.messageType = Message.getCapabilities then
    app.handleGetCapabilities request capacity
  else if request.messageType = Message.getStatus then
    app.handleGetStatus request capacity
  else if request.messageType = Message.getConfig then
    app.handleGetConfig request capacity
  else if request.messageType = Message.setConfig then
    app.handleSetConfig request capacity hardware
  else if request.messageType = Message.runIo2LoopbackTest then
    app.handleIo2Loopback request capacity hardware
  else if request.messageType = Message.captureOnce then
    app.handleCaptureOnce request capacity hardware
  else if request.messageType = Message.startPeriodic then
    app.handleStartPeriodic request capacity
  else if request.messageType = Message.renewPeriodicLease then
    app.handleRenewPeriodic request capacity
  else if request.messageType = Message.stop then
    app.handleStop request capacity hardware
  else
    app.refuse request ErrorCode.unsupportedType 0 0 capacity

/-- `usac_firmware_app_advance_time`. -/
def advanceTime
    (app : App)
    (elapsedUs : UInt32)
    (hardware : Hardware) :
    Outcome :=
  if app.periodic.active = false then
    app.answer none
  else
    match app.periodic.advance elapsedUs with
    | (advanced, .expired) =>
        let expired :=
          { app with
            periodic := advanced
            lastError := ErrorCode.leaseExpired }
        { app := expired
          response := none
          calls := [expired.forceSafe hardware] }
    | (advanced, _) => { app with periodic := advanced }.answer none

/-- The schedule stopped under its own identity. -/
def stopOwnSchedule (app : App) : App :=
  { app with periodic := (app.periodic.stop app.periodic.scheduleId).1 }

/-- `usac_firmware_app_update_clock_faults`. -/
def updateClockFaults
    (app : App)
    (flags : UInt16)
    (hardware : Hardware) :
    Outcome :=
  if flags = 0 ∨ app.clockFaultFlags ≠ 0 then
    app.answer none
  else
    let latched :=
      { app with
        clockFaultFlags := flags
        lastError := ErrorCode.timingUncalibrated }
    let stopped :=
      if latched.periodic.active then latched.stopOwnSchedule else latched
    { app := stopped
      response := none
      calls := [stopped.forceSafe hardware] }

/-- `usac_firmware_app_periodic_due`. -/
def periodicDue (app : App) : Bool :=
  app.periodic.active && app.periodic.due && app.clockFaultFlags == 0 &&
    !app.capturePending

/-- The capture fields after a periodic capture. -/
def capturedPeriodic (app : App) (report : CaptureReport) : App :=
  let sequence := nextCaptureSequence app.captureSequence
  let claimed := app.periodic.claimDue
  { app with
    captureSequence := sequence
    captureRequestId := app.periodicRequestId
    captureScheduleId := app.periodic.scheduleId
    captureRequestSequence := sequence
    captureIsAsync := true
    captureReport := report
    lastTussDevStat := report.tussDevStat
    capturePending := true
    lastError := 0
    periodic :=
      if claimed.active then
        claimed
      else
        { claimed with scheduleId := Bytes.zero 16 } }

/-- The error an incomplete periodic capture leaves for the status. -/
def periodicError (report : CaptureReport) : UInt16 :=
  if report.hardwareFault then
    ErrorCode.tussDriverFault
  else
    ErrorCode.adcDmaTimeout

/-- `usac_firmware_app_run_periodic_capture`. -/
def runPeriodicCapture (app : App) (hardware : Hardware) : Outcome :=
  if app.periodicDue = false then
    app.answer none
  else
    let applied := app.applyProfile app.config.profile hardware
    if hardware.applyResult ≠ .ok then
      let stopped :=
        { app with lastError := ErrorCode.tussDriverFault }.stopOwnSchedule
      { app := stopped
        response := none
        calls := [applied, stopped.forceSafe hardware] }
    else
      let captured := app.capture 0 0 hardware
      let report := hardware.captureReport
      if hardware.captureRan = false ∨
          report.isComplete app.config.pretriggerCount = false then
        let stopped :=
          { app with lastError := periodicError report }.stopOwnSchedule
        { app := stopped
          response := none
          calls := [applied, captured, stopped.forceSafe hardware] }
      else
        { app := app.capturedPeriodic report
          response := none
          calls := [applied, captured, app.forceSafe hardware] }

end App

end Usac.Firmware
