import Usac.Firmware.Answer
import Usac.Firmware.ClockLatch
import Usac.Firmware.Request
import Usac.Host.MessageLengths
import Usac.Host.Messages
import Usac.Link.Codec

namespace Usac.Link

open Library
open Firmware (App)
open Firmware.App (Content)
open Host (Ack AcquisitionConfigV2 CapabilitiesResponse ErrorResponse Frame
  HelloResponse Io2LoopbackResult MessageType Raised RenewPeriodicLease
  StatusResponse bind_eq_ok ok_bind require_eq_ok require_true)

/-!
# The host understands every response

Each response the firmware builds is decoded by the codec the host has for its
type, and to the values the firmware holds. Where a decoder asks more than a
well formed payload, the state of the firmware has it: a lease belongs to a
named schedule, its remaining time is bounded, and no reserved bit is set.
-/

/-- What the host reads from a response. -/
inductive Reading where
  | hello (message : HelloResponse)
  | capabilities (message : CapabilitiesResponse)
  | status (message : StatusResponse)
  | config (message : AcquisitionConfigV2)
  | lease (message : RenewPeriodicLease)
  | ack (message : Ack)
  | error (message : ErrorResponse)
  | loopback (message : Io2LoopbackResult)

/-- The decoder that matches the type of a response. -/
def decodeResponse (frame : Frame) : Except Raised Reading :=
  match frame.messageType with
  | .hello => return .hello (← HelloResponse.decode frame.payload)
  | .getCapabilities =>
      return .capabilities (← CapabilitiesResponse.decode frame.payload)
  | .getStatus => return .status (← StatusResponse.decode frame.payload)
  | .getConfig => return .config (← AcquisitionConfigV2.decode frame.payload)
  | .renewPeriodicLease =>
      return .lease (← RenewPeriodicLease.decode frame.payload)
  | .ack => return .ack (← Ack.decode frame.payload)
  | .error => return .error (← ErrorResponse.decode frame.payload)
  | .runIo2LoopbackTest =>
      return .loopback (← Io2LoopbackResult.decode frame.payload)
  | _ => .error (.valueError "the message type has no response")

namespace Content

/-- The type of a response in the host's words. -/
def hostType : Content → MessageType
  | .hello => .hello
  | .capabilities => .getCapabilities
  | .status => .getStatus
  | .config => .getConfig
  | .lease => .renewPeriodicLease
  | .ack => .ack
  | .error _ _ _ => .error
  | .loopback _ => .runIo2LoopbackTest

/-- Both sides use the same code for a type. -/
theorem code_hostType (content : Content) :
    (hostType content).code = content.messageType := by
  cases content <;> rfl

section Values

variable (app : App) (request : Firmware.Mcu.FrameView)

/-- The session a HELLO reports. -/
def helloValues : HelloResponse where
  hostNonce := App.requestId request
  bootId := app.bootId
  deviceId := app.deviceId
  negotiatedVersion := 1
  resetReason := app.resetReason
  fwMajor := 0
  fwMinor := 2
  fwPatch := 0
  fwBuild := 2
  deviceState := app.state.code

/-- The capabilities of the production build. -/
def capabilitiesValues : CapabilitiesResponse where
  capabilityFlags := 0x7F
  mcuMaxCommandPayload := Firmware.Mcu.maxCommandPayload.toUInt16
  maxSamples := 2048
  minSampleIntervalTicks := 120
  maxSampleIntervalTicks := 960
  minBurstPeriodTicks := 24
  maxBurstPeriodTicks := 800
  maxRegisterPairs := 10
  maxOut3Events := 1
  maxOut4Events := 16
  adcBits := 12
  supportedIoModes := 0x0F

/-- Whether an auxiliary line is enabled by the stored configuration. -/
def auxEnabled (mask : UInt8) : UInt8 :=
  if app.configValid ∧ app.config.auxFlags &&& mask ≠ 0 then 1 else 0

/-- The status the firmware holds. An inactive schedule has no lease. -/
def statusValues : StatusResponse where
  bootId := app.bootId
  deviceState := app.state.code
  lastError := app.lastError
  profileSha256 := app.currentHash
  deviceConfigCrc32 :=
    if app.configValid then app.config.deviceConfigCrc32 else 0
  captureSequence := app.captureSequence
  missedCaptureCount := app.periodic.missedCount
  qualityFlags := App.qualityTimingUncalibrated
  tussDevStat := app.lastTussDevStat
  vdrvReady :=
    if app.lastTussDevStat &&& App.devStatVdrvReady ≠ 0 then 1 else 0
  out3Enabled := auxEnabled app 0x01
  out4Enabled := auxEnabled app 0x02
  clockFaultFlags := app.clockFaultFlags
  activeScheduleId :=
    if app.periodic.active then app.periodic.scheduleId else Bytes.zero 16
  leaseSequence :=
    if app.periodic.active then app.periodic.leaseSequence else 0
  leaseRemainingMs :=
    if app.periodic.active then app.periodic.leaseRemainingMs.toUInt32 else 0

/-- The lease the firmware holds. -/
def leaseValues : RenewPeriodicLease where
  bootId := app.bootId
  scheduleId := app.periodic.scheduleId
  leaseSequence := app.periodic.leaseSequence
  leaseTimeoutOrRemainingMs := app.periodic.leaseRemainingMs.toUInt32

/-- The acknowledgement of a request. -/
def ackValues : Ack where
  requestId := App.requestId request
  ackedType := request.messageType
  resultingState := app.state.code
  statusCode := 0
  deviceConfigCrc32 :=
    if app.configValid then app.config.deviceConfigCrc32 else 0

/-- The error that answers a request. -/
def errorValues (errorCode : UInt16) (detail0 detail1 : UInt32) :
    ErrorResponse where
  requestId :=
    if 16 ≤ request.payload.length then
      App.requestId request
    else
      Bytes.zero 16
  failedType := request.messageType
  currentState := app.state.code
  errorCode := errorCode
  detailArg0 := detail0
  detailArg1 := detail1
  message := ""

/-- The result of a loopback test. -/
def loopbackValues (report : Firmware.LoopbackReport) :
    Io2LoopbackResult where
  requestId := App.requestId request
  profileSha256 := app.config.profileSha256
  deviceConfigCrc32 := app.config.deviceConfigCrc32
  burstPeriodTicks := app.config.profile.burstPeriodTicks
  capturedEdges := report.capturedEdges
  resultFlags := report.resultFlags
  captureTicks := report.captureTicks.toList
  minimumIntervalTicks := report.minimumIntervalTicks
  maximumIntervalTicks := report.maximumIntervalTicks
  preSpiStatus := report.preSpiStatus
  preDevStat := report.preDevStat
  preTofConfig := report.preTofConfig
  preVdrvCtrl := report.preVdrvCtrl
  postSpiStatus := report.postSpiStatus
  postDevStat := report.postDevStat
  postTofConfig := report.postTofConfig
  postVdrvCtrl := report.postVdrvCtrl
  finalIo2Level := report.finalIo2Level

/-- The values of the firmware a response reports. -/
def values : Content → Reading
  | .hello => .hello (helloValues app request)
  | .capabilities => .capabilities capabilitiesValues
  | .status => .status (statusValues app)
  | .config => .config (hostConfig app.config)
  | .lease => .lease (leaseValues app)
  | .ack => .ack (ackValues app request)
  | .error errorCode detail0 detail1 =>
      .error (errorValues app request errorCode detail0 detail1)
  | .loopback report => .loopback (loopbackValues app request report)

end Values

/-- What the state of the firmware must have for the host's decoders. -/
structure Legible (app : App) : Prop where
  clock : app.clockFaultFlags &&& ~~~0x0F = 0
  session : app.helloEstablished = true → app.bootId ≠ Bytes.zero 16
  schedule : app.periodic.WellLeased

variable {app : App} {request : Firmware.Mcu.FrameView}

/-- The remaining time of a lease within its bound. -/
theorem leaseRemainingMs_le
    {schedule : Firmware.CaptureSchedule}
    (leased : schedule.WellLeased) :
    schedule.leaseRemainingMs.toUInt32 ≤ 10000 := by
  unfold Firmware.CaptureSchedule.leaseRemainingMs
  rw [UInt32.le_iff_toNat_le, UInt16.toNat_toUInt32]
  split
  · exact Nat.zero_le _
  · rename_i active
    have bound : schedule.leaseRemainingUs.toNat ≤ 10000000 :=
      UInt32.le_iff_toNat_le.1 (leased.bounded (by simpa using active))
    rw [UInt32.toNat_toUInt16, UInt32.toNat_div]
    show schedule.leaseRemainingUs.toNat / 1000 % 65536 ≤ 10000
    omega

/-- The host decodes the HELLO response. -/
theorem decode_helloPayload :
    HelloResponse.decode (app.helloPayload request) =
      .ok (helloValues app request) := by
  have zeros : slice [0, 0, 0] 0 3 = Bytes.zero 3 := rfl
  simp [HelloResponse.decode, App.helloPayload, helloValues,
    slice_append_right, slice_append_left, slice_cons_succ, zeros,
    byteAt_append_right, byteAt_cons_zero, byteAt_cons_succ,
    readU16_append_right, readU16_cons_succ, readU16_writeU16,
    readU32_append_right, readU32_cons_succ, readU32_writeU32]

/-- The host decodes the capabilities. -/
theorem decode_capabilitiesPayload :
    CapabilitiesResponse.decode Content.capabilitiesPayload =
      .ok capabilitiesValues := by
  decide

/-- The lease of the status, or the zeros of an inactive schedule. -/
theorem statusPayload_eq (app : App) :
    app.statusPayload =
      app.bootId.toList ++ ([app.state.code, 0] ++ (writeU16 app.lastError ++
        (app.currentHash.toList ++
        (writeU32 (statusValues app).deviceConfigCrc32 ++
        (writeU32 app.captureSequence ++
        (writeU32 app.periodic.missedCount ++
        (writeU32 App.qualityTimingUncalibrated ++
        ([app.lastTussDevStat, (statusValues app).vdrvReady,
          auxEnabled app 0x01, auxEnabled app 0x02] ++
        (writeU16 app.clockFaultFlags ++ ([0, 0] ++
        ((statusValues app).activeScheduleId.toList ++
        (writeU32 (statusValues app).leaseSequence ++
        writeU32 (statusValues app).leaseRemainingMs)))))))))))) := by
  have zeros : List.replicate 24 (0 : UInt8) =
      (Bytes.zero 16).toList ++ (writeU32 0 ++ writeU32 0) := by decide
  by_cases active : app.periodic.active = true
  · simp [App.statusPayload, statusValues, auxEnabled, active]
  · simp only [Bool.not_eq_true] at active
    simp [App.statusPayload, statusValues, auxEnabled, active, zeros]

/-- The host decodes the status. -/
theorem Legible.decode_statusPayload
    (legible : Legible app) :
    StatusResponse.decode app.statusPayload = .ok (statusValues app) := by
  have zeros (rest : List UInt8) :
      slice (0 :: 0 :: rest) 0 2 = Bytes.zero 2 := rfl
  have last (value : UInt32) : readU32 (writeU32 value) 0 = value :=
    readU32_writeU32_last value
  have levels : ∀ level ∈
      [(statusValues app).vdrvReady, (statusValues app).out3Enabled,
        (statusValues app).out4Enabled], level = 0 ∨ level = 1 := by
    have bit (condition : Prop) [Decidable condition] :
        (if condition then (1 : UInt8) else 0) = 0 ∨
          (if condition then (1 : UInt8) else 0) = 1 := by
      split
      · exact .inr rfl
      · exact .inl rfl
    simp only [List.forall_mem_cons, List.not_mem_nil, false_implies,
      implies_true, and_true]
    exact ⟨bit _, bit _, bit _⟩
  have idle : ¬((statusValues app).activeScheduleId = Bytes.zero 16 ∧
      ((statusValues app).leaseSequence ≠ 0 ∨
        (statusValues app).leaseRemainingMs ≠ 0)) := by
    by_cases active : app.periodic.active = true
    · simp [statusValues, active, legible.schedule.named active]
    · simp [statusValues, active]
  have valid : (statusValues app).validate = .ok () :=
    bind_eq_ok.2 ⟨(), require_eq_ok.2 levels,
      bind_eq_ok.2 ⟨(), require_eq_ok.2 legible.clock,
        require_eq_ok.2 idle⟩⟩
  rw [statusPayload_eq]
  simp [StatusResponse.decode, slice_append_right, slice_append_left,
    slice_cons_succ, zeros, byteAt_append_right, byteAt_cons_zero,
    byteAt_cons_succ, readU16_append_right, readU16_cons_succ,
    readU16_writeU16, readU32_append_right, readU32_cons_succ,
    readU32_writeU32, last]
  exact bind_eq_ok.2 ⟨(), valid, rfl⟩

/-- The host decodes a renewed lease. -/
theorem Legible.decode_leasePayload
    (legible : Legible app)
    (established : app.helloEstablished = true)
    (active : app.periodic.active = true)
    (renewed : app.periodic.leaseSequence ≠ 0) :
    RenewPeriodicLease.decode (Content.leasePayload app) =
      .ok (leaseValues app) := by
  have positive : 1 ≤ app.periodic.leaseSequence :=
    UInt32.le_iff_toNat_le.2 (Nat.one_le_iff_ne_zero.2
      fun zero => renewed (UInt32.toNat_inj.1 zero))
  have named : ¬(app.bootId = Bytes.zero 16 ∨
      app.periodic.scheduleId = Bytes.zero 16) :=
    not_or.2 ⟨legible.session established, legible.schedule.named active⟩
  have bounded : app.periodic.leaseRemainingMs.toUInt32 ≤ 10000 :=
    leaseRemainingMs_le legible.schedule
  have valid : (leaseValues app).validate = .ok () :=
    bind_eq_ok.2 ⟨(), require_eq_ok.2 named,
      bind_eq_ok.2 ⟨(), require_eq_ok.2 positive, require_eq_ok.2 bounded⟩⟩
  simp [RenewPeriodicLease.decode, Content.leasePayload,
    slice_append_right, slice_append_left, readU32_append_right,
    readU32_writeU32, readU32_writeU32_last]
  exact bind_eq_ok.2 ⟨(), valid, rfl⟩

/-- The host decodes an acknowledgement. -/
theorem decode_ackPayload (app : App) (request : Firmware.Mcu.FrameView) :
    Ack.decode (Content.ack.payload app request) =
      .ok (ackValues app request) := by
  simp [Ack.decode, Content.payload, App.ackPayload, ackValues,
    slice_append_left, byteAt_append_right, byteAt_cons_zero,
    byteAt_cons_succ, readU16_append_right, readU16_cons_succ,
    readU16_writeU16, readU32_append_right, readU32_cons_succ,
    readU32_writeU32_last]

/-- The host decodes an error. Its message is empty. -/
theorem decode_errorPayload
    (app : App)
    (request : Firmware.Mcu.FrameView)
    (errorCode : UInt16)
    (detail0 detail1 : UInt32) :
    ErrorResponse.decode
        (app.errorPayload request errorCode detail0 detail1) =
      .ok (errorValues app request errorCode detail0 detail1) := by
  let head :=
    (errorValues app request errorCode detail0 detail1).requestId.toList ++
      [request.messageType, app.state.code] ++ writeU16 errorCode ++
      writeU32 detail0 ++ writeU32 detail1
  have shape : app.errorPayload request errorCode detail0 detail1 =
      head ++ [0] := rfl
  have length : (head ++ [0]).length = 29 := by simp [head]
  have rest : (head ++ [0]).drop ErrorResponse.prefixSize = [] :=
    List.drop_eq_nil_of_le (by rw [length]; decide)
  have empty : String.fromUTF8? ([] : List UInt8).toByteArray = some "" := by
    rfl
  have fields :
      slice (head ++ [0]) 0 16 =
          (errorValues app request errorCode detail0 detail1).requestId ∧
        byteAt (head ++ [0]) 16 = request.messageType ∧
        byteAt (head ++ [0]) 17 = app.state.code ∧
        readU16 (head ++ [0]) 18 = errorCode ∧
        readU32 (head ++ [0]) 20 = detail0 ∧
        readU32 (head ++ [0]) 24 = detail1 ∧
        byteAt (head ++ [0]) 28 = 0 := by
    simp [head, slice_append_left, byteAt_append_right, byteAt_cons_zero,
      byteAt_cons_succ, readU16_append_right, readU16_cons_succ,
      readU16_writeU16, readU32_append_right, readU32_cons_succ,
      readU32_writeU32]
  obtain ⟨requestId, failed, state, code, first, second, size⟩ := fields
  have announced : (29 : Nat) = ErrorResponse.prefixSize + (0 : UInt8).toNat := rfl
  rw [shape]
  simp only [ErrorResponse.decode, length, rest, empty, requestId, failed,
    state, code, first, second, size, announced, require_true, ok_bind]
  rfl

/-- The ticks of a loopback test stand between the other fields. -/
theorem loopbackPayload_eq
    (app : App)
    (request : Firmware.Mcu.FrameView)
    (report : Firmware.LoopbackReport) :
    app.loopbackPayload request report =
      ((App.requestId request).toList ++ (app.config.profileSha256.toList ++
        (writeU32 app.config.deviceConfigCrc32 ++
        (writeU16 app.config.profile.burstPeriodTicks ++
        [report.capturedEdges, report.resultFlags])))) ++
      (report.captureTicks.toList.flatMap writeU16 ++
        (writeU16 report.minimumIntervalTicks ++
        (writeU16 report.maximumIntervalTicks ++
        [report.preSpiStatus, report.preDevStat, report.preTofConfig,
          report.preVdrvCtrl, report.postSpiStatus, report.postDevStat,
          report.postTofConfig, report.postVdrvCtrl, report.finalIo2Level,
          0]))) := by
  simp only [App.loopbackPayload, List.append_assoc]

/-- The host decodes the result of a loopback test. -/
theorem decode_loopbackPayload
    {report : Firmware.LoopbackReport}
    (flags : report.resultFlags &&& ~~~0x3F = 0)
    (app : App)
    (request : Firmware.Mcu.FrameView) :
    Io2LoopbackResult.decode (app.loopbackPayload request report) =
      .ok (loopbackValues app request report) := by
  have count : report.captureTicks.toList.length = 8 :=
    report.captureTicks.toList_length
  have ticksLength : (report.captureTicks.toList.flatMap writeU16).length =
      16 := by
    simp [List.length_flatMap, count]
  have length := App.length_loopbackPayload app request report
  have ticks (rest : List UInt8) :
      (List.range 8).map (fun index =>
          readU16 (report.captureTicks.toList.flatMap writeU16 ++ rest)
            (2 * index)) =
        report.captureTicks.toList := by
    have read := (map_read_records length_writeU16
      (fun _ _ _ behind => readU16_append_right behind) readU16_writeU16
      report.captureTicks.toList rest).trans (List.map_id _)
    rwa [count] at read
  have shifted (first second : List UInt8) (opening : first.length = 56) :
      (List.range 8).map (fun index =>
          readU16 (first ++ second) (56 + 2 * index)) =
        (List.range 8).map fun index => readU16 second (2 * index) := by
    refine List.map_congr_left fun index _ => ?_
    rw [readU16_append_right (by omega), opening, Nat.add_sub_cancel_left]
  have valid : (loopbackValues app request report).validate = .ok () :=
    bind_eq_ok.2 ⟨(), require_eq_ok.2 count, require_eq_ok.2 flags⟩
  rw [loopbackPayload_eq] at length ⊢
  rw [Io2LoopbackResult.decode, length, shifted _ _ (by simp), ticks]
  simp [ticksLength, slice_append_right, slice_append_left,
    byteAt_append_right, byteAt_cons_zero, byteAt_cons_succ,
    readU16_append_right, readU16_cons_succ, readU16_writeU16,
    readU32_append_right, readU32_writeU32]
  exact bind_eq_ok.2 ⟨(), valid, rfl⟩

end Content

/-- The host takes a response to a request, and reads it so. -/
structure Accepted
    (request : Firmware.Mcu.FrameView)
    (response : List UInt8)
    (reading : Reading) :
    Prop where
  short : response.length ≤ 128
  understood :
    ∃ frame,
      Frame.decode response = .ok frame ∧
        frame.sequence = request.sequence ∧
        frame.flags = Host.Flags.response ∧
        Host.flagsAreValidForMessage frame.messageType frame.flags = true ∧
        Host.payloadLengthIsValid frame.messageType frame.flags
          frame.payload.length = true ∧
        decodeResponse frame = .ok reading

namespace Content

variable {app : App} {request : Firmware.Mcu.FrameView}

/-- The lengths the host expects are those the firmware writes. -/
theorem payloadLengthIsValid
    (content : Content)
    (app : App)
    (request : Firmware.Mcu.FrameView) :
    Host.payloadLengthIsValid (hostType content) Host.Flags.response
      (content.payload app request).length = true := by
  have response : Host.Flags.response ≠ 0 := by decide
  cases content with
  | hello =>
      simp [Host.payloadLengthIsValid, hostType, response, Content.payload,
        App.helloPayload]
  | capabilities =>
      simp [Host.payloadLengthIsValid, hostType, response, Content.payload,
        Content.capabilitiesPayload]
  | status =>
      simp [Host.payloadLengthIsValid, hostType, response, Content.payload,
        App.length_statusPayload]
  | config =>
      rw [Content.payload, Firmware.ConfigV2.length_wireForm]
      rfl
  | lease =>
      simp [Host.payloadLengthIsValid, hostType, Content.payload,
        Content.leasePayload]
  | ack =>
      simp [Host.payloadLengthIsValid, hostType, Content.payload]
  | error =>
      simp [Host.payloadLengthIsValid, hostType, Content.payload]
  | loopback =>
      simp [Host.payloadLengthIsValid, hostType, response, Content.payload]

/-- The matching decoder reads the values of the firmware. -/
theorem Legible.decodeResponse_content
    {hardware : Firmware.Hardware}
    {content : Content}
    (legible : Legible app)
    (flags : hardware.loopbackReport.resultFlags &&& ~~~0x3F = 0)
    (sound : content.Sound app hardware)
    (request : Firmware.Mcu.FrameView) :
    decodeResponse
        (responseFrame (hostType content) request.sequence
          (content.payload app request)) =
      .ok (values app request content) := by
  cases content with
  | hello =>
      exact bind_eq_ok.2 ⟨_, decode_helloPayload, rfl⟩
  | capabilities =>
      exact bind_eq_ok.2 ⟨_, decode_capabilitiesPayload, rfl⟩
  | status =>
      exact bind_eq_ok.2 ⟨_, legible.decode_statusPayload, rfl⟩
  | config =>
      exact bind_eq_ok.2 ⟨_, decode_hostConfig sound.2, rfl⟩
  | lease =>
      obtain ⟨established, active, renewed⟩ := sound
      exact bind_eq_ok.2
        ⟨_, legible.decode_leasePayload established active renewed, rfl⟩
  | ack =>
      exact bind_eq_ok.2 ⟨_, decode_ackPayload app request, rfl⟩
  | error errorCode detail0 detail1 =>
      exact bind_eq_ok.2
        ⟨_, decode_errorPayload app request errorCode detail0 detail1, rfl⟩
  | loopback report =>
      obtain rfl : report = hardware.loopbackReport := sound
      exact bind_eq_ok.2 ⟨_, decode_loopbackPayload flags app request, rfl⟩

/-- The host takes every response the firmware builds. -/
theorem Legible.accepted
    {hardware : Firmware.Hardware}
    {content : Content}
    (legible : Legible app)
    (flags : hardware.loopbackReport.resultFlags &&& ~~~0x3F = 0)
    (sound : content.Sound app hardware)
    (request : Firmware.Mcu.FrameView) :
    Accepted request (content.frame app request)
      (values app request content) := by
  have short : (content.payload app request).length ≤
      Frame.hostMaxPayloadLength :=
    (content.length_payload_le app request).trans (by decide)
  have decoded : Frame.decode (content.frame app request) =
      .ok (responseFrame (hostType content) request.sequence
        (content.payload app request)) := by
    have bytes := decode_frameBytes short (hostType content) request.sequence
    rwa [code_hostType] at bytes
  have directed : Host.flagsAreValidForMessage (hostType content)
      Host.Flags.response = true := by
    cases content <;> rfl
  exact ⟨content.length_frame_le app request, _, decoded, rfl, rfl, directed,
    payloadLengthIsValid content app request,
    legible.decodeResponse_content flags sound request⟩

end Content

/-- The request was answered with a response built for it, of a kind that
answers its type, and the response reports the state the answer left behind. -/
def Reports
    (operation : App.Operation)
    (request : Firmware.Mcu.ParsedFrame)
    (response : List UInt8)
    (reading : Reading) :
    Prop :=
  ∃ hardware content,
    operation.input = .handle request hardware ∧
      operation.output.response = some response ∧
      content.Sound operation.target hardware ∧
      content.Answers request.val.messageType ∧
      response = content.frame operation.target request.val ∧
      reading = Content.values operation.target request.val content

/-- The host understands the response to a request: it reads the values the
firmware holds, or, of a reply that was kept for this very request, the values
it held when it first answered. -/
def UnderstoodByHost
    (earlier : List App.Operation)
    (operation : App.Operation) :
    Prop :=
  ∀ request hardware,
    operation.input = .handle request hardware →
    ∃ response reading,
      operation.output.response = some response ∧
        Accepted request.val response reading ∧
        (Reports operation request response reading ∨
          ∃ previous ∈ earlier, ∃ first,
            Reports previous first response reading ∧
              first.val.messageType = request.val.messageType ∧
              first.val.sequence = request.val.sequence ∧
              App.requestId first.val = App.requestId request.val)

/-- What the surroundings of the firmware promise: no session identity is zero,
and neither the loopback test nor the clock reports a reserved bit. -/
def Promised (deviceId : Bytes 16) : App.Input → Prop
  | .handle request hardware =>
      (request.val.messageType = Firmware.Message.hello →
        Firmware.bootIdDerive deviceId (App.requestId request.val) ≠
          Bytes.zero 16) ∧
        hardware.loopbackReport.resultFlags &&& ~~~0x3F = 0
  | .updateClockFaults flags _ => flags &&& ~~~0x0F = 0
  | _ => True

/-- A kept reply was the response to the request it was kept for. -/
def Stored
    (earlier : List App.Operation)
    (requested : UInt8)
    (cache : Firmware.ReplyCache) :
    Prop :=
  ∃ previous ∈ earlier, ∃ request reading,
    Reports previous request cache.reply reading ∧
      Accepted request.val cache.reply reading ∧
      request.val.messageType = requested ∧
      App.requestId request.val = cache.requestId ∧
      request.val.sequence = cache.sequence

/-- The state of a firmware the host understands. -/
structure Conversant
    (deviceId : Bytes 16)
    (earlier : List App.Operation)
    (app : App) :
    Prop where
  device : app.deviceId = deviceId
  legible : Content.Legible app
  responsive : app.Responsive
  stored :
    ∀ requested cache, app.Holds requested cache → cache.valid = true →
      Stored earlier requested cache

namespace Conversant

variable {deviceId : Bytes 16} {earlier : List App.Operation} {app : App}

/-- A longer history holds what a kept reply needs. -/
theorem stored_concat
    {requested : UInt8}
    {cache : Firmware.ReplyCache}
    (stored : Stored earlier requested cache)
    (last : App.Operation) :
    Stored (earlier ++ [last]) requested cache := by
  obtain ⟨previous, member, kept⟩ := stored
  exact ⟨previous, List.mem_append_left _ member, kept⟩

end Conversant

/-- No operation changes the identity of the device. -/
theorem deviceId_of_effect
    {app next : App}
    {input : App.Input}
    {calls : List Firmware.Invocation}
    (effect : App.Effect app input next calls) :
    next.deviceId = app.deviceId := by
  have ended (hardware : Firmware.Hardware) :
      (app.endSession hardware).app.deviceId = app.deviceId := by
    simp only [App.endSession]
    split_ifs <;> rfl
  cases effect with
  | handled handled =>
      cases handled with
      | restarted =>
          exact ended _
      | _ => rfl
  | ended =>
      exact ended _
  | _ => rfl

namespace Content.Legible

variable {app next : App}

/-- A session that has ended leaves nothing a decoder would refuse. -/
theorem endSession
    (legible : Legible app)
    (hardware : Firmware.Hardware) :
    Legible (app.endSession hardware).app := by
  simp only [App.endSession]
  split_ifs <;>
    exact ⟨legible.clock,
      fun established => absurd established Bool.false_ne_true,
      .of_inactive rfl⟩

/-- A session opens with an identity that is not zero. -/
theorem greeted
    {hostNonce : Bytes 16}
    (legible : Legible app)
    (identified :
      Firmware.bootIdDerive app.deviceId hostNonce ≠ Bytes.zero 16) :
    Legible (app.greeted hostNonce) :=
  ⟨legible.clock, fun _ => identified, legible.schedule⟩

/-- A request keeps the state legible. -/
theorem handleEffect
    {request : Firmware.Mcu.FrameView}
    {hardware : Firmware.Hardware}
    {calls : List Firmware.Invocation}
    (legible : Legible app)
    (identified : request.messageType = Firmware.Message.hello →
      Firmware.bootIdDerive app.deviceId (App.requestId request) ≠
        Bytes.zero 16)
    (effect : App.HandleEffect app request hardware next calls) :
    Legible next := by
  have kept := legible
  obtain ⟨clock, session, schedule⟩ := legible
  cases effect with
  | greeted flags hello =>
      exact kept.greeted (identified hello)
  | restarted flags hello =>
      have device : (app.endSession hardware).app.deviceId = app.deviceId :=
        deviceId_of_effect .ended
      refine (kept.endSession hardware).greeted ?_
      rw [device]
      exact identified hello
  | started started starts =>
      exact ⟨clock, session,
        Firmware.CaptureSchedule.start_wellLeased starts.accepted⟩
  | renewed =>
      exact ⟨clock, session, schedule.renew _ _ _⟩
  | stopped =>
      exact ⟨clock, session, .of_inactive rfl⟩
  | _ =>
      exact ⟨clock, session, schedule⟩

/-- Every operation keeps the state legible. -/
theorem effect
    {input : App.Input}
    {calls : List Firmware.Invocation}
    (legible : Legible app)
    (promised : Promised app.deviceId input)
    (effect : App.Effect app input next calls) :
    Legible next := by
  obtain ⟨clock, session, schedule⟩ := legible
  cases effect with
  | handled handled =>
      exact handleEffect ⟨clock, session, schedule⟩ promised.1 handled
  | timePassed advanced sameActivity sameId shape =>
      exact ⟨clock, session, shape ▸ schedule.advance _⟩
  | clockLatched stopped inactive =>
      exact ⟨promised, session, .of_inactive inactive⟩
  | periodicTaken =>
      refine ⟨clock, session, ?_⟩
      simp only [App.capturedPeriodic]
      split_ifs with running
      · exact schedule.claimDue
      · exact .of_inactive (by simpa using running)
  | leaseExpired | periodicNotApplied | periodicFailed =>
      exact ⟨clock, session, .of_inactive rfl⟩
  | ended =>
      exact endSession ⟨clock, session, schedule⟩ _
  | clockQuiet | periodicIdle =>
      exact ⟨clock, session, schedule⟩

end Content.Legible

namespace Conversant

variable {deviceId : Bytes 16} {earlier : List App.Operation} {app : App}

/-- The caches after an operation that is not a request hold no new reply. -/
theorem caches_of_effect
    {next : App}
    {input : App.Input}
    {calls : List Firmware.Invocation}
    (unasked : ∀ request hardware, input ≠ .handle request hardware)
    (effect : App.Effect app input next calls)
    {requested : UInt8}
    {cache : Firmware.ReplyCache}
    (held : next.Holds requested cache)
    (valid : cache.valid = true) :
    app.Holds requested cache := by
  cases effect with
  | handled =>
      exact absurd rfl (unasked _ _)
  | ended =>
      simp only [App.endSession] at held
      split_ifs at held <;>
        rcases held with ⟨-, rfl⟩ | ⟨-, rfl⟩ | ⟨-, rfl⟩ <;> cases valid
  | _ =>
      exact held

/-- A response that is built is taken and read to the state it left. -/
theorem built
    {request : Firmware.Mcu.ParsedFrame}
    {hardware : Firmware.Hardware}
    (conversant : Conversant deviceId earlier app)
    (promised : Promised deviceId (.handle request hardware))
    (built : App.Built app request.val hardware
      (app.perform (.handle request hardware)).app
      (app.perform (.handle request hardware)).response) :
    ∃ response reading,
      Reports (App.machine.event app (.handle request hardware)) request
          response reading ∧
        Accepted request.val response reading ∧
        App.CachesStep request.val response app
          (app.perform (.handle request hardware)).app := by
  obtain ⟨content, sound, answers, same, caches⟩ := built
  have legible : Content.Legible (app.perform (.handle request hardware)).app := by
    refine conversant.legible.effect ?_ (App.perform_effect app _)
    rw [conversant.device]
    exact promised
  exact ⟨_, _, ⟨hardware, content, rfl, same, sound, answers, rfl, rfl⟩,
    legible.accepted promised.2 sound request.val, caches⟩

/-- A cache that took the response of a request has it stored. -/
theorem stored_of_cacheStep
    {request : Firmware.Mcu.ParsedFrame}
    {last : App.Operation}
    {response : List UInt8}
    {reading : Reading}
    {requested : UInt8}
    {before after : Firmware.ReplyCache}
    (conversant : Conversant deviceId earlier app)
    (reports : Reports last request response reading)
    (accepted : Accepted request.val response reading)
    (held : app.Holds requested before)
    (step : App.CacheStep request.val response requested before after)
    (valid : after.valid = true) :
    Stored (earlier ++ [last]) requested after := by
  rcases step with rfl | invalid | ⟨asked, rfl⟩
  · exact stored_concat (conversant.stored requested after held valid) last
  · rw [invalid] at valid
    cases valid
  · exact ⟨last, List.mem_append_right _ (List.mem_singleton.2 rfl), request,
      reading, reports, accepted, asked, rfl, rfl⟩

/-- Every kept reply stays the response to the request it was kept for. -/
theorem stored_step
    (conversant : Conversant deviceId earlier app)
    {input : App.Input}
    (promised : Promised deviceId input)
    {requested : UInt8}
    {cache : Firmware.ReplyCache}
    (held : (app.perform input).app.Holds requested cache)
    (valid : cache.valid = true) :
    Stored (earlier ++ [App.machine.event app input]) requested cache := by
  by_cases asked : ∃ request hardware, input = .handle request hardware
  · obtain ⟨request, hardware, rfl⟩ := asked
    have answer : App.Answer app request.val hardware
        (app.perform (.handle request hardware)).app
        (app.perform (.handle request hardware)).response :=
      App.handle_answer conversant.responsive hardware
    generalize responded :
      (app.perform (.handle request hardware)).response = responded at answer
    cases answer with
    | built built =>
        rw [← responded] at built
        obtain ⟨response, reading, reports, accepted, caches⟩ :=
          conversant.built promised built
        rcases held with ⟨rfl, rfl⟩ | ⟨rfl, rfl⟩ | ⟨rfl, rfl⟩
        · exact conversant.stored_of_cacheStep reports accepted
            (.inl ⟨rfl, rfl⟩) caches.set valid
        · exact conversant.stored_of_cacheStep reports accepted
            (.inr (.inl ⟨rfl, rfl⟩)) caches.loopback valid
        · exact conversant.stored_of_cacheStep reports accepted
            (.inr (.inr ⟨rfl, rfl⟩)) caches.capture valid
    | replayed kept heldBefore cached same =>
        exact stored_concat
          (conversant.stored requested cache (same requested cache held) valid)
          _
  · push Not at asked
    have before : app.Holds requested cache :=
      caches_of_effect asked (App.perform_effect app input) held valid
    exact stored_concat (conversant.stored requested cache before valid) _

/-- Every promised operation keeps the firmware conversant. -/
theorem step
    (conversant : Conversant deviceId earlier app)
    {input : App.Input}
    (promised : Promised deviceId input) :
    Conversant deviceId (earlier ++ [App.machine.event app input])
      (App.machine.event app input).target := by
  have effect := App.perform_effect app input
  refine ⟨(deviceId_of_effect effect).trans conversant.device, ?_,
    conversant.responsive.effect effect,
    fun _ _ held valid => conversant.stored_step promised held valid⟩
  refine conversant.legible.effect ?_ effect
  rw [conversant.device]
  exact promised

/-- A request to a conversant firmware has a response the host understands. -/
theorem understood
    (conversant : Conversant deviceId earlier app)
    {input : App.Input}
    (promised : Promised deviceId input) :
    UnderstoodByHost earlier (App.machine.event app input) := by
  intro request hardware asked
  obtain rfl : input = .handle request hardware := asked
  have answer : App.Answer app request.val hardware
      (app.perform (.handle request hardware)).app
      (app.perform (.handle request hardware)).response :=
    App.handle_answer conversant.responsive hardware
  generalize responded :
    (app.perform (.handle request hardware)).response = responded at answer
  cases answer with
  | built built =>
      rw [← responded] at built
      obtain ⟨response, reading, reports, accepted, -⟩ :=
        conversant.built promised built
      have reported := reports
      obtain ⟨_, _, _, answered, _⟩ := reported
      exact ⟨response, reading, answered, accepted, .inl reports⟩
  | replayed cache held cached kept =>
      obtain ⟨valid, identity, sequence⟩ := App.matches_of_lookup cached
      obtain ⟨previous, member, first, reading, reports, accepted, sameType,
          sameId, sameSequence⟩ :=
        conversant.stored request.val.messageType cache held valid
      have again : first.val.sequence = request.val.sequence :=
        sameSequence.trans sequence.symm
      obtain ⟨short, frame, decoded, numbered, rest⟩ := accepted
      exact ⟨cache.reply, reading, responded,
        ⟨short, frame, decoded, numbered.trans again, rest⟩,
        .inr ⟨previous, member, first, reports, sameType, again,
          sameId.trans identity.symm⟩⟩

end Conversant

/-- Every response of the firmware is understood by the host. -/
theorem everyResponse_understood
    (deviceId bootId : Bytes 16)
    (resetReason : UInt8)
    (initialState : Firmware.FirmwareState)
    (result : Firmware.ConfigResult)
    (devStat : UInt8)
    (inputs : List App.Input)
    (promised : ∀ input ∈ inputs, Promised deviceId input) :
    EveryStep UnderstoodByHost
      (App.machine.trace
        (App.started deviceId bootId resetReason initialState result devStat)
        inputs) := by
  let start :=
    App.started deviceId bootId resetReason initialState result devStat
  have empty
      (requested : UInt8)
      (cache : Firmware.ReplyCache)
      (held : start.Holds requested cache) :
      cache.valid = false := by
    rcases held with ⟨-, rfl⟩ | ⟨-, rfl⟩ | ⟨-, rfl⟩ <;> rfl
  have conversant : Conversant deviceId [] start :=
    ⟨rfl, ⟨UInt16.zero_and, nofun, .of_inactive rfl⟩,
      App.started_responsive ..,
      fun requested cache held valid => by
        simp [empty requested cache held] at valid⟩
  have conditioned : EveryStep (fun _ event => Promised deviceId event.input)
      (App.machine.trace start inputs) :=
    (EveryStep.forall_iff _ _).2 fun event member =>
      promised event.input (App.machine.input_mem_of_mem_trace member)
  exact
    App.machine.everyStep_of_invariant (Conversant deviceId) conversant
      (fun _ _ _ conversant promised => conversant.step promised)
      (fun _ _ _ conversant promised => conversant.understood promised)
      inputs conditioned

/-- A host opens a session, configures the device and repeats the request. -/
def configuredTwice : List App.Input :=
  let configure : App.Input :=
    .handle
      (Firmware.Request.setConfig 2 (Firmware.Id16.ofByte 3)
        Firmware.ConfigV2.initD10x4.profileSha256
        Firmware.ConfigV2.initD10x4)
      Firmware.Hardware.nominal
  [.handle (Firmware.Request.hello 1 (Bytes.zero 16))
      Firmware.Hardware.nominal,
    configure, configure, .updateClockFaults 0x08 Firmware.Hardware.nominal]

/-- The host understands the repeated answer as well. -/
theorem everyResponse_understood_twice :
    EveryStep UnderstoodByHost
      (App.machine.trace
        (App.started (Bytes.zero 16) (Bytes.zero 16) 0 .sessionWait .ok 0)
        configuredTwice) := by
  have identified : Firmware.bootIdDerive (Bytes.zero 16) (Bytes.zero 16) ≠
      Bytes.zero 16 := by
    decide +kernel
  have greeted : App.requestId
      (Firmware.Request.hello 1 (Bytes.zero 16)).val = Bytes.zero 16 :=
    slice_append_left _ _
  refine everyResponse_understood (Bytes.zero 16) (Bytes.zero 16) 0
    .sessionWait .ok 0 configuredTwice ?_
  simp only [configuredTwice, List.forall_mem_cons, List.not_mem_nil,
    false_implies, implies_true, and_true]
  refine ⟨⟨fun _ => ?_, rfl⟩, ⟨nofun, rfl⟩, ⟨nofun, rfl⟩, rfl⟩
  rw [greeted]
  exact identified

end Usac.Link
