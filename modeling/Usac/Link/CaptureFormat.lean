import Usac.Firmware.Board
import Usac.Firmware.CaptureSegments
import Usac.Firmware.EventCapture
import Usac.Host.BridgeMessages
import Usac.Host.MessageLengths
import Usac.Link.Codec

namespace Usac.Link

open Library
open Firmware (CaptureDescriptor ConfigV2 EventCapture Waveform)
open Firmware.CaptureStream (Segments)
open Host (BridgeCaptureDelivery CaptureData Frame MessageType Raised ok_bind
  require_true)

/-!
# Captures on the wire

The firmware writes a capture segment after segment, the host reads the frame
as a whole. Every field of the descriptor, each register, event and sample has
one place in the payload, and the host finds it there.
-/

/-- An event of the firmware as the host reads it. -/
def eventOf (event : Firmware.CaptureEvent) : Host.CaptureEvent where
  channel := event.channel
  edge := event.edge
  captureMethod := event.captureMethod
  levelAfter := event.levelAfter
  sampleIndex := event.sampleIndex
  subsampleTick := event.subsampleTick
  uncertaintyTicks := event.uncertaintyTicks
  frameOffsetTicks := event.frameOffsetTicks

/-- The ticks before the trigger. -/
def pretriggerTicks (descriptor : CaptureDescriptor) : UInt32 :=
  descriptor.pretriggerCount.toUInt32 *
    descriptor.sampleIntervalTicks.toUInt32

/-- The capture a descriptor and its samples stand for. -/
def capturedData
    (descriptor : CaptureDescriptor)
    (samples : Waveform) :
    CaptureData where
  requestId := descriptor.requestId
  scheduleId := descriptor.scheduleId
  captureId :=
    Firmware.CaptureStream.captureId descriptor.bootId descriptor.requestId
      descriptor.captureSequence
  bootId := descriptor.bootId
  deviceId := descriptor.deviceId
  profileSha256 := descriptor.profileSha256
  deviceConfigCrc32 := descriptor.deviceConfigCrc32
  captureSequence := descriptor.captureSequence
  sampleIntervalTicks := descriptor.sampleIntervalTicks
  burstPeriodTicks := descriptor.burstPeriodTicks
  sampleCount := 2048
  pretriggerCount := descriptor.pretriggerCount
  adcBits := 12
  sampleEncoding := 1
  vrefMv := 3300
  smclkNominalHz := 24000000
  smclkCalibratedHz := 0
  frameStartTick48 := 0
  tTriggerOffsetTicks := pretriggerTicks descriptor
  adc0HoldOffsetTicks := (0 - pretriggerTicks descriptor).toInt32
  adcApertureNs := 1000
  triggerToTxOutputNs := 0
  calibrationVersion := 0
  qualityFlags := descriptor.qualityFlags
  tussDevStat := descriptor.tussDevStat
  out3StartLevel := descriptor.out3StartLevel
  out4StartLevel := descriptor.out4StartLevel
  registerPairs := descriptor.registerPairs.toList.map pairOf
  events := descriptor.events.val.map eventOf
  samples := samples.toList

section Payload

variable (descriptor : CaptureDescriptor) (samples : Waveform)

/-- The payload of the frame of a capture. -/
def capturePayload : List UInt8 :=
  Firmware.CaptureStream.metadata descriptor ++
    Firmware.CaptureStream.sampleBytes samples

/-- The quality, the levels and the counts of a capture. -/
def metadataCounts : List UInt8 :=
  writeU32 descriptor.qualityFlags ++
    ([descriptor.tussDevStat, descriptor.out3StartLevel,
      descriptor.out4StartLevel, descriptor.events.val.length.toUInt8,
      10, 0, 0, 0] ++ writeU32 4096)

/-- The registers, the events and the samples of a capture. -/
def variableParts : List UInt8 :=
  (descriptor.registerPairs.toList.map pairOf).flatMap
      (fun pair => [pair.1, pair.2]) ++
    (descriptor.events.val.flatMap Firmware.CaptureStream.eventBytes ++
      Firmware.CaptureStream.sampleBytes samples)

/-- The parts of fixed length stand in front of those of variable length. -/
theorem capturePayload_eq :
    capturePayload descriptor samples =
      Firmware.CaptureStream.metadataHead descriptor ++
        (Firmware.CaptureStream.metadataTiming descriptor ++
          (metadataCounts descriptor ++ variableParts descriptor samples)) := by
  have registers :
      (descriptor.registerPairs.toList.map pairOf).flatMap
          (fun pair => [pair.1, pair.2]) =
        descriptor.registerPairs.toList.flatMap
          fun pair => [pair.address, pair.value] := by
    rw [List.flatMap_map]
    rfl
  have samplesLength :
      Firmware.captureSampleCount.toUInt32 * 2 = 4096 := by decide
  have count : Firmware.registerCount.toUInt8 = 10 := rfl
  rw [capturePayload, Firmware.CaptureStream.metadata, variableParts,
    metadataCounts, registers, Firmware.CaptureStream.metadataTail,
    samplesLength, count]
  simp only [List.append_assoc]

/-- The identities are read back from the payload. -/
theorem payload_head (rest : List UInt8) :
    let data := Firmware.CaptureStream.metadataHead descriptor ++ rest
    readU16 data 0 = 1 ∧ readU16 data 2 = 188 ∧
      slice data 4 16 = descriptor.requestId ∧
      slice data 20 16 = descriptor.scheduleId ∧
      slice data 36 16 =
        Firmware.CaptureStream.captureId descriptor.bootId
          descriptor.requestId descriptor.captureSequence ∧
      slice data 52 16 = descriptor.bootId ∧
      slice data 68 16 = descriptor.deviceId ∧
      slice data 84 32 = descriptor.profileSha256 ∧
      readU32 data 116 = descriptor.deviceConfigCrc32 := by
  simp [Firmware.CaptureStream.metadataHead, readU16_append_right,
    readU16_writeU16, slice_append_right, slice_append_left,
    readU32_append_right, readU32_writeU32]

/-- The timing and the shape are read back from the payload. -/
theorem payload_timing (rest : List UInt8) :
    let data := Firmware.CaptureStream.metadataTiming descriptor ++ rest
    readU32 data 0 = descriptor.captureSequence ∧
      readU16 data 4 = descriptor.sampleIntervalTicks ∧
      readU16 data 6 = descriptor.burstPeriodTicks ∧
      readU16 data 8 = 2048 ∧
      readU16 data 10 = descriptor.pretriggerCount ∧
      byteAt data 12 = 12 ∧ byteAt data 13 = 1 ∧ readU16 data 14 = 3300 ∧
      readU32 data 16 = 24000000 ∧ readU32 data 20 = 0 ∧
      readU64 data 24 = 0 ∧
      readU32 data 32 = pretriggerTicks descriptor ∧
      readU32 data 36 = 0 - pretriggerTicks descriptor ∧
      readU32 data 40 = 1000 ∧ readU32 data 44 = 0 ∧
      readU32 data 48 = 0 := by
  have zeros : List.replicate 8 0 = writeU64 0 := by decide
  have count : Firmware.captureSampleCount.toUInt16 = 2048 := rfl
  simp [Firmware.CaptureStream.metadataTiming, zeros, count, pretriggerTicks,
    readU16_append_right, readU16_writeU16, readU32_append_right,
    readU32_writeU32, readU64_append_right, readU64_writeU64,
    byteAt_append_right, byteAt_cons_zero, byteAt_cons_succ,
    readU16_cons_succ, readU32_cons_succ, readU64_cons_succ]

/-- The quality, the levels and the counts are read back from the payload. -/
theorem payload_counts (rest : List UInt8) :
    let data := metadataCounts descriptor ++ rest
    readU32 data 0 = descriptor.qualityFlags ∧
      byteAt data 4 = descriptor.tussDevStat ∧
      byteAt data 5 = descriptor.out3StartLevel ∧
      byteAt data 6 = descriptor.out4StartLevel ∧
      byteAt data 7 = descriptor.events.val.length.toUInt8 ∧
      byteAt data 8 = 10 ∧ slice data 9 3 = Bytes.zero 3 ∧
      readU32 data 12 = 4096 := by
  have zeros (rest : List UInt8) :
      slice (0 :: 0 :: 0 :: rest) 0 3 = Bytes.zero 3 := rfl
  simp [metadataCounts, readU32_append_right, readU32_writeU32,
    byteAt_append_right, byteAt_cons_zero, byteAt_cons_succ,
    slice_append_right, slice_cons_succ, readU32_cons_succ, zeros]

/-- The counts fit the bytes that announce them. -/
theorem eventCount_announced :
    (descriptor.events.val.length.toUInt8).toNat =
      descriptor.events.val.length := by
  have count : descriptor.events.val.length ≤ 17 := descriptor.events.property
  rw [Nat.toUInt8_eq, UInt8.toNat_ofNat']
  omega

/-- The registers take twenty bytes. -/
theorem length_registerBytes :
    ((descriptor.registerPairs.toList.map pairOf).flatMap
      (fun pair => [pair.1, pair.2])).length = 20 := by
  rw [List.flatMap_map, List.length_flatMap]
  show (descriptor.registerPairs.toList.map fun _ => 2).sum = 20
  rw [List.map_const', descriptor.registerPairs.toList_length]
  rfl

/-- The events take sixteen bytes each. -/
theorem length_eventsBytes :
    (descriptor.events.val.flatMap Firmware.CaptureStream.eventBytes).length =
      16 * descriptor.events.val.length := by
  simp [List.length_flatMap, Nat.mul_comm]

/-- The samples take two bytes each. -/
theorem length_sampleBytes :
    (Firmware.CaptureStream.sampleBytes samples).length = 4096 := by
  rw [Firmware.CaptureStream.sampleBytes, List.length_flatMap]
  simp only [length_writeU16, List.map_const', List.sum_replicate,
    samples.toList_length]
  rfl

/-- An event is read back from its sixteen bytes. -/
theorem readEvent_eventBytes
    (event : Firmware.CaptureEvent)
    (rest : List UInt8) :
    CaptureData.readEvent
      (Firmware.CaptureStream.eventBytes event ++ rest) 0 = eventOf event := by
  simp [CaptureData.readEvent, Firmware.CaptureStream.eventBytes, eventOf,
    readU32_append_right, readU32_writeU32, readU16_append_right,
    readU16_writeU16, byteAt_cons_zero, byteAt_cons_succ, readU32_cons_succ,
    readU16_cons_succ]

/-- Reading an event passes over what lies in front of it. -/
theorem readEvent_append_right
    (first second : List UInt8)
    (offset : Nat)
    (behind : first.length ≤ offset) :
    CaptureData.readEvent (first ++ second) offset =
      CaptureData.readEvent second (offset - first.length) := by
  have shift (index : Nat) :
      offset + index - first.length = offset - first.length + index := by
    omega
  rw [CaptureData.readEvent, CaptureData.readEvent,
    byteAt_append_right behind, byteAt_append_right (by omega),
    byteAt_append_right (by omega), byteAt_append_right (by omega),
    readU32_append_right (by omega), readU16_append_right (by omega),
    readU16_append_right (by omega), readU32_append_right (by omega)]
  simp only [shift]

/-- The registers are read back from the parts of variable length. -/
theorem readPairs_variableParts :
    CaptureData.readPairs (variableParts descriptor samples) 0 10 =
      descriptor.registerPairs.toList.map pairOf := by
  have count : (descriptor.registerPairs.toList.map pairOf).length = 10 := by
    simp
  have read := map_byteAt_pairs (descriptor.registerPairs.toList.map pairOf)
    (descriptor.events.val.flatMap Firmware.CaptureStream.eventBytes ++
      Firmware.CaptureStream.sampleBytes samples)
  rw [count] at read
  simpa only [CaptureData.readPairs, variableParts, Nat.zero_add] using read

/-- The events are read back from the parts of variable length. -/
theorem readEvents_variableParts :
    (List.range descriptor.events.val.length).map (fun index =>
        CaptureData.readEvent (variableParts descriptor samples)
          (20 + 16 * index)) =
      descriptor.events.val.map eventOf := by
  have read := map_read_records Firmware.CaptureStream.length_eventBytes
    readEvent_append_right readEvent_eventBytes descriptor.events.val
    (Firmware.CaptureStream.sampleBytes samples)
  refine Eq.trans (List.map_congr_left fun index _ => ?_) read
  have registers := length_registerBytes descriptor
  rw [variableParts, readEvent_append_right _ _ _ (by omega), registers,
    Nat.add_sub_cancel_left]

/-- Reading pairs passes over what lies in front of them. -/
theorem readPairs_append_right
    {first second : List UInt8}
    {offset : Nat}
    (behind : first.length ≤ offset)
    (count : Nat) :
    CaptureData.readPairs (first ++ second) offset count =
      CaptureData.readPairs second (offset - first.length) count := by
  refine List.map_congr_left fun index _ => ?_
  have shift (index : Nat) :
      offset + index - first.length = offset - first.length + index := by
    omega
  rw [byteAt_append_right (by omega), byteAt_append_right (by omega),
    Nat.add_assoc, Nat.add_assoc, shift, shift]

/-- Reading samples passes over what lies in front of them. -/
theorem readSamples_append_right
    {first second : List UInt8}
    {offset : Nat}
    (behind : first.length ≤ offset)
    (count : Nat) :
    CaptureData.readSamples (first ++ second) offset count =
      CaptureData.readSamples second (offset - first.length) count := by
  refine List.map_congr_left fun index _ => ?_
  have shift :
      offset + 2 * index - first.length =
        offset - first.length + 2 * index := by
    omega
  rw [readU16_append_right (by omega), shift]

/-- The samples are read back from the parts of variable length. -/
theorem readSamples_variableParts :
    CaptureData.readSamples (variableParts descriptor samples)
        (20 + 16 * descriptor.events.val.length) 2048 =
      samples.toList := by
  have count : samples.toList.length = 2048 := samples.toList_length
  have read := (map_read_records length_writeU16
    (fun _ _ _ behind => readU16_append_right behind) readU16_writeU16
    samples.toList []).trans (List.map_id samples.toList)
  have registers := length_registerBytes descriptor
  have events := length_eventsBytes descriptor
  have behind :
      20 + 16 * descriptor.events.val.length - 20 -
        16 * descriptor.events.val.length = 0 := by omega
  rw [variableParts, readSamples_append_right (by omega), registers,
    readSamples_append_right (by omega), events, behind]
  rw [count, List.append_nil] at read
  simpa only [CaptureData.readSamples, Firmware.CaptureStream.sampleBytes,
    Nat.zero_add] using read

/-- The length of the counts. -/
@[simp] theorem length_metadataCounts :
    (metadataCounts descriptor).length = 16 := by
  simp [metadataCounts]

/-- The events stand behind the registers of the payload. -/
theorem payload_events :
    (List.range descriptor.events.val.length).map (fun index =>
        CaptureData.readEvent (capturePayload descriptor samples)
          (208 + 16 * index)) =
      descriptor.events.val.map eventOf := by
  refine Eq.trans (List.map_congr_left fun index _ => ?_)
    (readEvents_variableParts descriptor samples)
  have shift : 208 + 16 * index - 120 - 52 - 16 = 20 + 16 * index := by omega
  rw [capturePayload_eq,
    readEvent_append_right _ _ _ (by simp; omega),
    readEvent_append_right _ _ _ (by simp; omega),
    readEvent_append_right _ _ _ (by simp; omega),
    Firmware.CaptureStream.length_metadataHead,
    Firmware.CaptureStream.length_metadataTiming, length_metadataCounts, shift]

/-- The samples stand behind the events of the payload. -/
theorem payload_samples :
    CaptureData.readSamples (capturePayload descriptor samples)
        (208 + 16 * descriptor.events.val.length) 2048 =
      samples.toList := by
  have shift :
      208 + 16 * descriptor.events.val.length - 120 - 52 - 16 =
        20 + 16 * descriptor.events.val.length := by omega
  rw [capturePayload_eq, readSamples_append_right (by simp; omega),
    readSamples_append_right (by simp; omega),
    readSamples_append_right (by simp; omega),
    Firmware.CaptureStream.length_metadataHead,
    Firmware.CaptureStream.length_metadataTiming, length_metadataCounts, shift]
  exact readSamples_variableParts descriptor samples

/-- The host reads every field of the descriptor from the payload. -/
theorem readFields_capturePayload :
    CaptureData.readFields (capturePayload descriptor samples) =
      capturedData descriptor samples := by
  obtain ⟨-, -, request, schedule, capture, boot, device, profile, crc⟩ :=
    payload_head descriptor
      (Firmware.CaptureStream.metadataTiming descriptor ++
        (metadataCounts descriptor ++ variableParts descriptor samples))
  obtain ⟨sequence, interval, burst, sampleCount, pretrigger, bits, encoding,
      vref, nominal, calibrated, frameStart, trigger, hold, aperture, delay,
      calibration⟩ :=
    payload_timing descriptor
      (metadataCounts descriptor ++ variableParts descriptor samples)
  obtain ⟨quality, status, out3, out4, events, registers, -, -⟩ :=
    payload_counts descriptor (variableParts descriptor samples)
  have announced := eventCount_announced descriptor
  have pairs := readPairs_variableParts descriptor samples
  have recorded := payload_events descriptor samples
  have sampled := payload_samples descriptor samples
  rw [capturePayload_eq] at recorded sampled ⊢
  simp [CaptureData.readFields, CaptureData.fixedHeaderLength,
    CaptureData.eventSize, capturedData, readU16_append_right,
    readU32_append_right, readU64_append_right, byteAt_append_right,
    readPairs_append_right, *]

/-- The length of the payload. -/
theorem length_capturePayload :
    (capturePayload descriptor samples).length =
      188 + 2 * 10 + 16 * descriptor.events.val.length + 4096 := by
  rw [capturePayload, List.length_append,
    Firmware.CaptureStream.length_metadata, length_sampleBytes]

end Payload

/-- A recorded event has a channel, an edge and a level the host knows, and
its ticks lie within the sample interval. -/
theorem validateEvent_of_recorded
    {sampleInterval : UInt16}
    {event : Firmware.CaptureEvent}
    (positive : 0 < sampleInterval)
    (recorded : EventCapture.Recorded sampleInterval event) :
    CaptureData.validateEvent sampleInterval (eventOf event) = .ok () := by
  have within (offset : UInt32) :
      (offset % sampleInterval.toUInt32).toUInt16 < sampleInterval := by
    have divisor : 0 < sampleInterval.toNat := UInt16.lt_iff_toNat_lt.1 positive
    have bound := sampleInterval.toNat_lt
    have remainder := Nat.mod_lt offset.toNat divisor
    rw [UInt16.lt_iff_toNat_lt, UInt32.toNat_toUInt16, UInt32.toNat_mod,
      UInt16.toNat_toUInt32]
    omega
  cases recorded with
  | out4 level offset =>
      cases level <;>
        simp [CaptureData.validateEvent, eventOf,
          EventCapture.recordedEvent, EventCapture.levelByte,
          within offset, Host.require]
  | out3 offset =>
      simp [CaptureData.validateEvent, eventOf, EventCapture.recordedEvent,
        within offset, Host.require]

section Accepted

variable {descriptor : CaptureDescriptor}

/-- What the configuration of a capture and its interrupts promise. -/
structure Describable (descriptor : CaptureDescriptor) : Prop where
  interval :
    0 < descriptor.sampleIntervalTicks ∧ descriptor.sampleIntervalTicks ≤ 960
  pretrigger : descriptor.pretriggerCount < 2048
  addresses :
    descriptor.registerPairs.toList.map Firmware.RegisterPair.address =
      Firmware.Profile.registerAddresses
  events :
    ∀ event ∈ descriptor.events.val,
      EventCapture.Recorded descriptor.sampleIntervalTicks event

/-- The checks of the host hold of the capture. -/
theorem Describable.validate
    (describable : Describable descriptor)
    (samples : Waveform) :
    (capturedData descriptor samples).validate = .ok () := by
  have count : samples.toList.length = 2048 := samples.toList_length
  have events : descriptor.events.val.length ≤ 17 := descriptor.events.property
  have addresses :
      (descriptor.registerPairs.toList.map pairOf).map Prod.fst =
        Firmware.Profile.registerAddresses := by
    rw [List.map_map]
    exact describable.addresses
  have ordered : CaptureData.registersOrdered
      (descriptor.registerPairs.toList.map pairOf) = true := by
    have fits : ((descriptor.registerPairs.toList.map pairOf).map
        Prod.fst).all (· ≤ 0x3F) = true := by
      rw [addresses]
      decide
    rw [List.all_map] at fits
    rw [CaptureData.registersOrdered, addresses, Bool.and_eq_true]
    exact ⟨fits, by decide⟩
  have validEvents : (descriptor.events.val.map eventOf).forM
      (CaptureData.validateEvent descriptor.sampleIntervalTicks) =
        .ok () := by
    apply Host.forM_eq_ok.2
    intro event member
    obtain ⟨source, recorded, rfl⟩ := List.mem_map.1 member
    exact validateEvent_of_recorded describable.interval.1
      (describable.events source recorded)
  have sampleCount : (2048 : UInt16).toNat = samples.toList.length :=
    count.symm
  have registerBound :
      (descriptor.registerPairs.toList.map pairOf).length ≤ 10 := by
    simp
  have eventBound : (descriptor.events.val.map eventOf).length ≤ 17 := by
    simpa using events
  have encoding : (1 : UInt8) = CaptureData.sampleEncodingUint16Le := rfl
  have clock : (0 : UInt64) >>> 48 = 0 := rfl
  simp only [CaptureData.validate, capturedData, sampleCount,
    describable.pretrigger, encoding, clock, registerBound, eventBound,
    ordered, and_self, require_true, ok_bind]
  exact validEvents

/-- The host decodes the payload to the capture it stands for. -/
theorem Describable.decode
    (describable : Describable descriptor)
    (samples : Waveform) :
    CaptureData.decode (capturePayload descriptor samples) =
      .ok (capturedData descriptor samples) := by
  obtain ⟨schema, header, -⟩ :=
    payload_head descriptor
      (Firmware.CaptureStream.metadataTiming descriptor ++
        (metadataCounts descriptor ++ variableParts descriptor samples))
  obtain ⟨-, -, -, sampleCount, -⟩ :=
    payload_timing descriptor
      (metadataCounts descriptor ++ variableParts descriptor samples)
  obtain ⟨-, -, -, -, events, registers, reserved, sampleBytes⟩ :=
    payload_counts descriptor (variableParts descriptor samples)
  have announced := eventCount_announced descriptor
  have length := length_capturePayload descriptor samples
  have fields := readFields_capturePayload descriptor samples
  have valid := describable.validate samples
  have enough :
      188 ≤ 188 + 2 * 10 + 16 * descriptor.events.val.length + 4096 := by
    omega
  rw [capturePayload_eq] at length fields ⊢
  simp [CaptureData.decode, CaptureData.payloadSchemaVersion,
    CaptureData.fixedHeaderLength, CaptureData.eventSize,
    readU16_append_right, readU32_append_right, byteAt_append_right,
    slice_append_right, *]

/-- The ticks before the trigger fit a signed word, with either sign. -/
theorem Describable.triggerOffsets
    (describable : Describable descriptor) :
    ((pretriggerTicks descriptor).toNat =
        descriptor.pretriggerCount.toNat *
          descriptor.sampleIntervalTicks.toNat) ∧
      (0 - pretriggerTicks descriptor).toInt32.toInt =
        -((descriptor.pretriggerCount.toNat *
          descriptor.sampleIntervalTicks.toNat : Nat) : Int) := by
  have pretrigger : descriptor.pretriggerCount.toNat ≤ 2047 :=
    Nat.le_of_lt_succ (UInt16.lt_iff_toNat_lt.1 describable.pretrigger)
  have interval : descriptor.sampleIntervalTicks.toNat ≤ 960 :=
    UInt16.le_iff_toNat_le.1 describable.interval.2
  have bound := Nat.mul_le_mul pretrigger interval
  have ticks : (pretriggerTicks descriptor).toNat =
      descriptor.pretriggerCount.toNat *
        descriptor.sampleIntervalTicks.toNat := by
    rw [pretriggerTicks, UInt32.toNat_mul, UInt16.toNat_toUInt32,
      UInt16.toNat_toUInt32]
    exact Nat.mod_eq_of_lt (by omega)
  refine ⟨ticks, ?_⟩
  rw [← ticks] at bound ⊢
  have negated : (0 - pretriggerTicks descriptor).toBitVec.toNat =
      (2 ^ 32 - (pretriggerTicks descriptor).toNat + 0) % 2 ^ 32 :=
    UInt32.toNat_sub 0 (pretriggerTicks descriptor)
  show (0 - pretriggerTicks descriptor).toBitVec.toInt = _
  rw [BitVec.toInt_eq_toNat_cond, negated]
  omega

end Accepted

/-- The frame of a capture. -/
def captureFrame
    (descriptor : CaptureDescriptor)
    (samples : Waveform) :
    Frame where
  messageType := .captureData
  sequence := descriptor.frameSequence
  payload := capturePayload descriptor samples
  flags :=
    if descriptor.asyncCapture then Host.Flags.async else Host.Flags.response
  protocolVersion := Frame.currentVersion

/-- The segments of a capture are what the host itself would encode. -/
theorem encode_captureFrame
    (descriptor : CaptureDescriptor)
    (samples : Waveform) :
    (captureFrame descriptor samples).encode =
      .ok (Firmware.CaptureStream.frame descriptor samples) := by
  have count : descriptor.events.val.length ≤ 17 := descriptor.events.property
  have length := length_capturePayload descriptor samples
  have valid : (captureFrame descriptor samples).validateFields = .ok () := by
    have reserved : (captureFrame descriptor samples).flags &&&
        ~~~Frame.validFlagsMask = 0 := by
      unfold captureFrame
      dsimp only
      split <;> rfl
    have short : (captureFrame descriptor samples).payload.length ≤ 8192 := by
      rw [captureFrame, length]
      omega
    simp only [Frame.validateFields, Frame.hostMaxPayloadLength, reserved,
      short, require_true, ok_bind]
    rfl
  have announced :
      (Firmware.CaptureStream.metadata descriptor).length.toUInt32 +
          Firmware.captureSampleCount.toUInt32 * 2 =
        (capturePayload descriptor samples).length.toUInt32 := by
    have sampleBytes : Firmware.captureSampleCount.toUInt32 * 2 =
        (4096 : Nat).toUInt32 := by decide
    rw [sampleBytes, capturePayload, List.length_append, length_sampleBytes]
    simp
  have header : (captureFrame descriptor samples).header =
      Firmware.CaptureStream.frameHeader descriptor := by
    rw [Frame.header, Firmware.CaptureStream.frameHeader, announced]
    rfl
  have checksum : Frame.crc32IsoHdlc
      (Firmware.CaptureStream.frameHeader descriptor ++
        capturePayload descriptor samples) =
        Firmware.CaptureStream.frameCrc descriptor samples := by
    rw [Frame.crc32IsoHdlc, Crc32.checksum, Crc32.update_append,
      capturePayload, Crc32.update_append]
    rfl
  rw [Frame.encode, valid, header]
  show Except.ok (Frame.magic ++ Firmware.CaptureStream.frameHeader descriptor ++
    capturePayload descriptor samples ++ writeU32 (Frame.crc32IsoHdlc
      (Firmware.CaptureStream.frameHeader descriptor ++
        capturePayload descriptor samples))) = _
  rw [checksum, capturePayload, Firmware.CaptureStream.frame]
  simp only [List.append_assoc]
  rfl

/-- A configuration the firmware accepts describes every capture of it whose
events were recorded for its sample interval. -/
theorem describable_of_decode
    {app : Firmware.App}
    {wire : List UInt8}
    (accepted : ConfigV2.decode wire = .ok app.config)
    (recorded : EventCapture.AllRecorded
      app.config.profile.sampleIntervalTicks app.captureReport) :
    Describable (Firmware.Board.descriptor app) := by
  have valid := (ConfigV2.identified_of_decode accepted).valid
  simp only [ConfigV2.validate, Bool.and_eq_true, beq_iff_eq,
    decide_eq_true_eq] at valid
  obtain ⟨⟨⟨⟨⟨sampleCount, pretrigger⟩, -⟩, -⟩, -⟩, profile⟩ := valid
  have profile := Firmware.Profile.valid_of_validate profile
  have positive : (0 : UInt16) < 120 := by decide
  rw [sampleCount] at pretrigger
  exact ⟨⟨UInt16.lt_of_lt_of_le positive profile.interval.1,
      profile.interval.2⟩, pretrigger, profile.addresses, recorded⟩

/-- The segments the firmware sends for a capture are one frame the host
accepts. Its payload is decoded to the descriptor's own values, and a bridge
can deliver it. -/
theorem captureStream_is_host_format
    {app : Firmware.App}
    {wire : List UInt8}
    (accepted : ConfigV2.decode wire = .ok app.config)
    (recorded : EventCapture.AllRecorded
      app.config.profile.sampleIntervalTicks app.captureReport)
    (samples : Waveform)
    (further : Nat) :
    let descriptor := Firmware.Board.descriptor app
    let stream := (Segments.init descriptor samples).sent (4 + further)
    let capture := capturedData descriptor samples
    (Firmware.CaptureStream.metadata descriptor).length ≤
        Firmware.CaptureStream.metadataMaxLength ∧
      (∃ frame,
        Frame.decode stream = .ok frame ∧
          frame.messageType = .captureData ∧
          frame.sequence = descriptor.frameSequence ∧
          Host.flagsAreValidForMessage frame.messageType frame.flags = true ∧
          Host.payloadLengthIsValid frame.messageType frame.flags
            frame.payload.length = true ∧
          CaptureData.decode frame.payload = .ok capture) ∧
      (capture.tTriggerOffsetTicks.toNat =
          descriptor.pretriggerCount.toNat *
            descriptor.sampleIntervalTicks.toNat ∧
        capture.adc0HoldOffsetTicks.toInt =
          -((descriptor.pretriggerCount.toNat *
            descriptor.sampleIntervalTicks.toNat : Nat) : Int)) ∧
      ∀ delivery : BridgeCaptureDelivery,
        delivery.innerFrame = stream →
        (delivery.sourceLastStreamOffset.toNat : Int) -
            delivery.sourceFirstStreamOffset.toNat + 1 = stream.length →
        ∃ data, delivery.encode = .ok data := by
  intro descriptor stream capture
  have describable : Describable descriptor :=
    describable_of_decode accepted recorded
  have count : descriptor.events.val.length ≤ 17 := descriptor.events.property
  have sent : stream = Firmware.CaptureStream.frame descriptor samples :=
    Segments.sent_init descriptor samples further
  have decoded : Frame.decode stream = .ok (captureFrame descriptor samples) := by
    rw [sent]
    exact Frame.decode_of_encode (encode_captureFrame descriptor samples)
  have payloadLength := length_capturePayload descriptor samples
  have flags : Host.flagsAreValidForMessage .captureData
      (captureFrame descriptor samples).flags = true := by
    unfold captureFrame
    dsimp only
    split <;> rfl
  have length : Host.payloadLengthIsValid .captureData
      (captureFrame descriptor samples).flags
        (capturePayload descriptor samples).length = true := by
    rw [payloadLength]
    simp only [Host.payloadLengthIsValid, Bool.and_eq_true, decide_eq_true_eq]
    omega
  have streamLength : stream.length =
      4324 + 16 * descriptor.events.val.length := by
    rw [sent, Firmware.CaptureStream.frame]
    simp only [List.length_append, Firmware.CaptureStream.length_metadata,
      length_sampleBytes, length_writeU32, Firmware.Mcu.magic,
      Firmware.CaptureStream.frameHeader, length_writeU16, List.length_cons,
      List.length_nil]
    omega
  refine ⟨Firmware.CaptureStream.length_metadata_le descriptor,
    ⟨captureFrame descriptor samples, decoded, rfl, rfl, flags, length,
      describable.decode samples⟩, describable.triggerOffsets, ?_⟩
  intro delivery inner offsets
  have bounds :
      208 ≤ delivery.innerFrame.length ∧ delivery.innerFrame.length ≤ 4652 := by
    rw [inner, streamLength]
    omega
  have covered :
      (delivery.sourceLastStreamOffset.toNat : Int) -
          delivery.sourceFirstStreamOffset.toNat + 1 =
        delivery.innerFrame.length := by
    rw [inner]
    exact offsets
  have valid : delivery.validate = .ok () := by
    refine Host.bind_eq_ok.2 ⟨(), Host.require_eq_ok.2 bounds, ?_⟩
    refine Host.bind_eq_ok.2 ⟨(), Host.require_eq_ok.2 covered, ?_⟩
    rw [inner]
    exact Host.bind_eq_ok.2 ⟨_, decoded, Host.require_eq_ok.2 rfl⟩
  exact ⟨_, Host.bind_eq_ok.2 ⟨(), valid, rfl⟩⟩

/-- A capture of the default configuration with an edge on each line. -/
def edgedApp : Firmware.App :=
  { Firmware.App.init (Bytes.zero 16) (Bytes.zero 16) 0 .sessionWait with
    captureReport :=
      (((EventCapture.arm 3 120 Firmware.CaptureReport.zero).start false true
        ).runInterrupts
        [.out4 ⟨0x8001, false, false, false⟩, .overflow,
          .out3 ⟨7, false, true, true⟩]).report }

/-- The frame of that capture carries both edges to the host. -/
theorem captureStream_is_host_format_edged :
    edgedApp.captureReport.events.val.length = 2 ∧
      ∃ frame,
        Frame.decode
            ((Segments.init (Firmware.Board.descriptor edgedApp)
              (List.Vector.replicate _ 0)).sent 4) = .ok frame ∧
          CaptureData.decode frame.payload =
            .ok (capturedData (Firmware.Board.descriptor edgedApp)
              (List.Vector.replicate _ 0)) := by
  have accepted : ConfigV2.decode ConfigV2.initD10x4.wireForm =
      .ok edgedApp.config :=
    decode_wireForm ConfigV2.initD10x4_identified
  have recorded : EventCapture.AllRecorded
      edgedApp.config.profile.sampleIntervalTicks edgedApp.captureReport :=
    EventCapture.recorded_of_capture 3 120 _ _ _ _
  obtain ⟨-, ⟨frame, decoded, -, -, -, -, read⟩, -⟩ :=
    captureStream_is_host_format accepted recorded
      (List.Vector.replicate _ 0) 0
  exact ⟨rfl, frame, decoded, read⟩

end Usac.Link
