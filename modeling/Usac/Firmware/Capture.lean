import Usac.Firmware.Config
import Usac.Firmware.CaptureSchedule

namespace Usac.Firmware

open Library

/-!
# Capture reports and the CAPTURE_DATA frame

A capture leaves a report and 2048 samples. The stream of
`usac_capture_stream.c` describes it in metadata built from a descriptor and
sends header, metadata, samples and checksum; here the segments are one list
of bytes.
-/

/-- `USAC_CAPTURE_SAMPLE_COUNT`. -/
def captureSampleCount : Nat := 2048

/-- `USAC_MAX_CAPTURE_EVENTS`. -/
def maxCaptureEvents : Nat := 17

/-- The contents of the waveform buffer. -/
abbrev Waveform := List.Vector UInt16 captureSampleCount

/-- `usac_capture_event_t`. -/
structure CaptureEvent where
  channel : UInt8
  edge : UInt8
  captureMethod : UInt8
  levelAfter : UInt8
  sampleIndex : Int32
  subsampleTick : UInt16
  uncertaintyTicks : UInt16
  frameOffsetTicks : UInt32
  deriving DecidableEq

/-- The recorded events, which `event_count` counts. -/
abbrev CaptureEvents :=
  {events : List CaptureEvent // events.length ≤ maxCaptureEvents}

/-- `usac_capture_report_t`. -/
structure CaptureReport where
  capturedSamples : UInt16
  triggerSampleIndex : UInt16
  dmaRemaining : UInt16
  burstCompleted : Bool
  timedOut : Bool
  syncTimedOut : Bool
  tussDevStat : UInt8
  hardwareFault : Bool
  out3StartLevel : UInt8
  out4StartLevel : UInt8
  diagnosticFlags : UInt16
  diagnosticTimerTick : UInt16
  qualityFlags : UInt32
  events : CaptureEvents
  deriving DecidableEq

namespace CaptureReport

/-- The report with every field zero. -/
def zero : CaptureReport where
  capturedSamples := 0
  triggerSampleIndex := 0
  dmaRemaining := 0
  burstCompleted := false
  timedOut := false
  syncTimedOut := false
  tussDevStat := 0
  hardwareFault := false
  out3StartLevel := 0
  out4StartLevel := 0
  diagnosticFlags := 0
  diagnosticTimerTick := 0
  qualityFlags := 0
  events := ⟨[], Nat.zero_le _⟩

/-- `usac_capture_report_is_complete`. -/
def isComplete
    (report : CaptureReport)
    (expectedTriggerSampleIndex : UInt16) :
    Bool :=
  decide (expectedTriggerSampleIndex.toNat ≤ captureSampleCount) &&
    report.capturedSamples.toNat == captureSampleCount &&
    report.triggerSampleIndex == expectedTriggerSampleIndex &&
    report.dmaRemaining == 0 &&
    report.burstCompleted &&
    !report.timedOut &&
    !report.syncTimedOut &&
    !report.hardwareFault

end CaptureReport

/-- `usac_capture_descriptor_t`. -/
structure CaptureDescriptor where
  requestId : Id16
  scheduleId : Id16
  bootId : Id16
  deviceId : Id16
  profileSha256 : Bytes 32
  deviceConfigCrc32 : UInt32
  frameSequence : UInt32
  captureSequence : UInt32
  asyncCapture : Bool
  sampleIntervalTicks : UInt16
  burstPeriodTicks : UInt16
  pretriggerCount : UInt16
  tussDevStat : UInt8
  out3StartLevel : UInt8
  out4StartLevel : UInt8
  qualityFlags : UInt32
  events : CaptureEvents
  registerPairs : List.Vector RegisterPair registerCount
  deriving DecidableEq

namespace CaptureStream

/-- The bytes a capture identity is derived from. -/
def captureIdMaterial
    (bootId requestId : Id16)
    (captureSequence : UInt32) :
    List UInt8 :=
  bootId.toList ++ requestId.toList ++ writeU32 captureSequence

/-- `build_capture_id`. -/
def captureId (bootId requestId : Id16) (captureSequence : UInt32) : Id16 :=
  slice (sha256 (captureIdMaterial bootId requestId captureSequence)).toList
    0 16

/-- One event of the metadata. -/
def eventBytes (event : CaptureEvent) : List UInt8 :=
  [event.channel, event.edge, event.captureMethod, event.levelAfter] ++
    writeU32 event.sampleIndex.toUInt32 ++ writeU16 event.subsampleTick ++
    writeU16 event.uncertaintyTicks ++ writeU32 event.frameOffsetTicks

/-- The metadata up to the configuration of the capture. -/
def metadataHead (descriptor : CaptureDescriptor) : List UInt8 :=
  writeU16 1 ++ (writeU16 188 ++
    (descriptor.requestId.toList ++
    (descriptor.scheduleId.toList ++
    ((captureId descriptor.bootId descriptor.requestId
        descriptor.captureSequence).toList ++
    (descriptor.bootId.toList ++
    (descriptor.deviceId.toList ++
    (descriptor.profileSha256.toList ++
    writeU32 descriptor.deviceConfigCrc32)))))))

/-- The sequence, the timing and the shape of the capture. -/
def metadataTiming (descriptor : CaptureDescriptor) : List UInt8 :=
  let pretriggerTicks :=
    descriptor.pretriggerCount.toUInt32 *
      descriptor.sampleIntervalTicks.toUInt32
  writeU32 descriptor.captureSequence ++
    writeU16 descriptor.sampleIntervalTicks ++
    writeU16 descriptor.burstPeriodTicks ++
    writeU16 captureSampleCount.toUInt16 ++
    writeU16 descriptor.pretriggerCount ++
    [12, 1] ++ writeU16 3300 ++ writeU32 24000000 ++ writeU32 0 ++
    List.replicate 8 0 ++
    writeU32 pretriggerTicks ++ writeU32 (0 - pretriggerTicks) ++
    writeU32 1000 ++ writeU32 0 ++ writeU32 0

/-- The quality, the registers and the events of the capture. -/
def metadataTail (descriptor : CaptureDescriptor) : List UInt8 :=
  writeU32 descriptor.qualityFlags ++
    [descriptor.tussDevStat, descriptor.out3StartLevel,
      descriptor.out4StartLevel,
      descriptor.events.val.length.toUInt8,
      registerCount.toUInt8, 0, 0, 0] ++
    writeU32 (captureSampleCount.toUInt32 * 2) ++
    (descriptor.registerPairs.toList.flatMap
      fun pair => [pair.address, pair.value]) ++
    descriptor.events.val.flatMap eventBytes

/-- `build_metadata`. -/
def metadata (descriptor : CaptureDescriptor) : List UInt8 :=
  metadataHead descriptor ++ metadataTiming descriptor ++
    metadataTail descriptor

/-- The sample buffer as it lies in memory. -/
def sampleBytes (samples : Waveform) : List UInt8 :=
  samples.toList.flatMap writeU16

/-- The frame header of `usac_capture_stream_init`, without its magic. -/
def frameHeader (descriptor : CaptureDescriptor) : List UInt8 :=
  [Mcu.protocolVersion, Message.captureData] ++
    writeU16 (if descriptor.asyncCapture then Flag.async else Flag.response) ++
    writeU32 descriptor.frameSequence ++
    writeU32 ((metadata descriptor).length.toUInt32 +
      captureSampleCount.toUInt32 * 2)

/-- `usac_crc32_begin`. -/
def crc32Begin : UInt32 := 0xFFFFFFFF

/-- `usac_crc32_update`. -/
def crc32Update (crc : UInt32) (data : List UInt8) : UInt32 :=
  Crc32.update crc data

/-- `usac_crc32_finish`. -/
def crc32Finish (crc : UInt32) : UInt32 :=
  crc ^^^ 0xFFFFFFFF

/-- The checksum accumulated over the segments. -/
def frameCrc (descriptor : CaptureDescriptor) (samples : Waveform) : UInt32 :=
  crc32Finish
    (crc32Update
      (crc32Update
        (crc32Update crc32Begin (frameHeader descriptor))
        (metadata descriptor))
      (sampleBytes samples))

/-- The frame `usac_capture_stream_init` prepares, segment after segment. -/
def frame (descriptor : CaptureDescriptor) (samples : Waveform) : List UInt8 :=
  Mcu.magic ++ frameHeader descriptor ++ metadata descriptor ++
    sampleBytes samples ++ writeU32 (frameCrc descriptor samples)

/-- The identities and the configuration a frame carries, read back from its
bytes. -/
theorem frame_fields
    (descriptor : CaptureDescriptor)
    (samples : Waveform) :
    slice (frame descriptor samples) 36 16 = descriptor.scheduleId ∧
      slice (frame descriptor samples) 52 16 =
        captureId descriptor.bootId descriptor.requestId
          descriptor.captureSequence ∧
      slice (frame descriptor samples) 68 16 = descriptor.bootId ∧
      slice (frame descriptor samples) 84 16 = descriptor.deviceId ∧
      slice (frame descriptor samples) 100 32 = descriptor.profileSha256 ∧
      readU32 (frame descriptor samples) 132 =
        descriptor.deviceConfigCrc32 := by
  have opening : (Mcu.magic ++ frameHeader descriptor).length = 16 := by
    simp [Mcu.magic, frameHeader]
  simp only [frame, metadata, List.append_assoc]
  rw [← List.append_assoc Mcu.magic]
  generalize Mcu.magic ++ frameHeader descriptor = front at opening
  simp only [metadataHead, List.append_assoc]
  refine ⟨?_, ?_, ?_, ?_, ?_, ?_⟩
  · iterate 4 rw [slice_append_right (by simp [opening])]
    simp [opening, slice_append_left]
  · iterate 5 rw [slice_append_right (by simp [opening])]
    simp [opening, slice_append_left]
  · iterate 6 rw [slice_append_right (by simp [opening])]
    simp [opening, slice_append_left]
  · iterate 7 rw [slice_append_right (by simp [opening])]
    simp [opening, slice_append_left]
  · iterate 8 rw [slice_append_right (by simp [opening])]
    simp [opening, slice_append_left]
  · iterate 9 rw [readU32_append_right (by simp [opening])]
    simp [opening, readU32_writeU32]

/-- The flags of a frame tell a periodic capture from a commanded one. -/
theorem frame_flags
    (descriptor : CaptureDescriptor)
    (samples : Waveform) :
    readU16 (frame descriptor samples) 6 =
      if descriptor.asyncCapture then Flag.async else Flag.response := by
  simp only [frame, frameHeader, List.append_assoc]
  iterate 2 rw [readU16_append_right (by simp [Mcu.magic])]
  simp [Mcu.magic, readU16_writeU16]

end CaptureStream

end Usac.Firmware
