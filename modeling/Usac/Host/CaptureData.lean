import Usac.Host.Frame

namespace Usac.Host

open Library

/-!
# CAPTURE_DATA on the host

The decoder of `capture_data.py`. It reads the fixed header first, compares the
announced counts with the length of the payload, and only then reads the parts
of variable length, so no read is ever short.
-/

/-- `CaptureEvent`. -/
structure CaptureEvent where
  channel : UInt8
  edge : UInt8
  captureMethod : UInt8
  levelAfter : UInt8
  sampleIndex : Int32
  subsampleTick : UInt16
  uncertaintyTicks : UInt16
  frameOffsetTicks : UInt32
  deriving DecidableEq

/-- `CaptureData`. -/
structure CaptureData where
  requestId : Bytes 16
  scheduleId : Bytes 16
  captureId : Bytes 16
  bootId : Bytes 16
  deviceId : Bytes 16
  profileSha256 : Bytes 32
  deviceConfigCrc32 : UInt32
  captureSequence : UInt32
  sampleIntervalTicks : UInt16
  burstPeriodTicks : UInt16
  sampleCount : UInt16
  pretriggerCount : UInt16
  adcBits : UInt8
  sampleEncoding : UInt8
  vrefMv : UInt16
  smclkNominalHz : UInt32
  smclkCalibratedHz : UInt32
  frameStartTick48 : UInt64
  tTriggerOffsetTicks : UInt32
  adc0HoldOffsetTicks : Int32
  adcApertureNs : UInt32
  triggerToTxOutputNs : UInt32
  calibrationVersion : UInt32
  qualityFlags : UInt32
  tussDevStat : UInt8
  out3StartLevel : UInt8
  out4StartLevel : UInt8
  registerPairs : List (UInt8 × UInt8)
  events : List CaptureEvent
  samples : List UInt16
  deriving DecidableEq

namespace CaptureData

/-- `PAYLOAD_SCHEMA_VERSION`. -/
def payloadSchemaVersion : UInt16 := 1

/-- `FIXED_HEADER_LENGTH`. -/
def fixedHeaderLength : Nat := 188

/-- `SAMPLE_ENCODING_UINT16_LE`. -/
def sampleEncodingUint16Le : UInt8 := 1

/-- The bytes of one event on the wire. -/
def eventSize : Nat := 16

/-- Whether the register addresses increase and fit. -/
def registersOrdered (registerPairs : List (UInt8 × UInt8)) : Bool :=
  registerPairs.all (fun pair => pair.1 ≤ 0x3F) &&
    (registerPairs.map Prod.fst).Pairwise (· < ·)

/-- The checks of `_validate` on one event. -/
def validateEvent
    (sampleIntervalTicks : UInt16)
    (event : CaptureEvent) :
    Except Raised Unit := do
  require ((event.channel = 3 ∨ event.channel = 4) ∧
      (event.edge = 1 ∨ event.edge = 2))
    (.valueError "event channel or edge is invalid")
  require ((event.captureMethod = 1 ∨ event.captureMethod = 2) ∧
      (event.levelAfter = 0 ∨ event.levelAfter = 1))
    (.valueError "event capture method or level is invalid")
  require (event.subsampleTick < sampleIntervalTicks)
    (.valueError "event subsample_tick is outside sample interval")

/-- `_validate`. The types of the fields carry the checks of their ranges. -/
def validate (capture : CaptureData) : Except Raised Unit := do
  require (capture.sampleCount.toNat = capture.samples.length)
    (.valueError "sample_count does not match samples")
  require (capture.pretriggerCount < capture.sampleCount)
    (.valueError "pretrigger_count does not match sample range")
  require (capture.adcBits = 12) (.valueError "adc_bits must be 12")
  require (capture.sampleEncoding = sampleEncodingUint16Le)
    (.valueError "sample_encoding must be uint16 little-endian")
  require (capture.frameStartTick48 >>> 48 = 0)
    (.valueError "frame_start_tick48 has non-zero upper bits")
  require (capture.registerPairs.length ≤ 10 ∧ capture.events.length ≤ 17)
    (.valueError "register or event count exceeds first-version maximum")
  require (registersOrdered capture.registerPairs)
    (.valueError "register pairs must be ordered valid bytes")
  capture.events.forM (validateEvent capture.sampleIntervalTicks)

/-- The register pairs on the wire. -/
def readPairs
    (data : List UInt8)
    (offset count : Nat) :
    List (UInt8 × UInt8) :=
  (List.range count).map fun index =>
    (byteAt data (offset + 2 * index), byteAt data (offset + 2 * index + 1))

/-- One event on the wire. -/
def readEvent (data : List UInt8) (offset : Nat) : CaptureEvent where
  channel := byteAt data offset
  edge := byteAt data (offset + 1)
  captureMethod := byteAt data (offset + 2)
  levelAfter := byteAt data (offset + 3)
  sampleIndex := (readU32 data (offset + 4)).toInt32
  subsampleTick := readU16 data (offset + 8)
  uncertaintyTicks := readU16 data (offset + 10)
  frameOffsetTicks := readU32 data (offset + 12)

/-- The samples on the wire. -/
def readSamples
    (data : List UInt8)
    (offset count : Nat) :
    List UInt16 :=
  (List.range count).map fun index => readU16 data (offset + 2 * index)

/-- The fields `decode` reads once the counts are known to match. -/
def readFields (data : List UInt8) : CaptureData :=
  let registerCount := (byteAt data 180).toNat
  let eventCount := (byteAt data 179).toNat
  let eventOffset := fixedHeaderLength + 2 * registerCount
  { requestId := slice data 4 16
    scheduleId := slice data 20 16
    captureId := slice data 36 16
    bootId := slice data 52 16
    deviceId := slice data 68 16
    profileSha256 := slice data 84 32
    deviceConfigCrc32 := readU32 data 116
    captureSequence := readU32 data 120
    sampleIntervalTicks := readU16 data 124
    burstPeriodTicks := readU16 data 126
    sampleCount := readU16 data 128
    pretriggerCount := readU16 data 130
    adcBits := byteAt data 132
    sampleEncoding := byteAt data 133
    vrefMv := readU16 data 134
    smclkNominalHz := readU32 data 136
    smclkCalibratedHz := readU32 data 140
    frameStartTick48 := readU64 data 144
    tTriggerOffsetTicks := readU32 data 152
    adc0HoldOffsetTicks := (readU32 data 156).toInt32
    adcApertureNs := readU32 data 160
    triggerToTxOutputNs := readU32 data 164
    calibrationVersion := readU32 data 168
    qualityFlags := readU32 data 172
    tussDevStat := byteAt data 176
    out3StartLevel := byteAt data 177
    out4StartLevel := byteAt data 178
    registerPairs := readPairs data fixedHeaderLength registerCount
    events := (List.range eventCount).map fun index =>
      readEvent data (eventOffset + eventSize * index)
    samples := readSamples data (eventOffset + eventSize * eventCount)
      (readU16 data 128).toNat }

/-- `decode_capture_data`. -/
def decode (data : List UInt8) : Except Raised CaptureData := do
  require (fixedHeaderLength ≤ data.length)
    (.valueError "CAPTURE_DATA payload is truncated")
  require (readU16 data 0 = payloadSchemaVersion ∧
      (readU16 data 2).toNat = fixedHeaderLength)
    (.valueError
      "CAPTURE_DATA schema version or fixed header length is invalid")
  require (slice data 181 3 = Bytes.zero 3)
    (.valueError "CAPTURE_DATA reserved bytes must be zero")
  let sampleBytes := (readU32 data 184).toNat
  let registerCount := (byteAt data 180).toNat
  let eventCount := (byteAt data 179).toNat
  require (data.length =
        fixedHeaderLength + 2 * registerCount + eventSize * eventCount +
          sampleBytes ∧
      sampleBytes = 2 * (readU16 data 128).toNat)
    (.valueError "CAPTURE_DATA counts do not match payload length")
  let capture := readFields data
  capture.validate
  pure capture

/-- The checks raise a `ValueError`. -/
theorem validate_neverRaises (capture : CaptureData) :
    NeverRaises .runtimeError capture.validate := by
  refine .bind (.require (by decide)) fun _ => ?_
  refine .bind (.require (by decide)) fun _ => ?_
  refine .bind (.require (by decide)) fun _ => ?_
  refine .bind (.require (by decide)) fun _ => ?_
  refine .bind (.require (by decide)) fun _ => ?_
  refine .bind (.require (by decide)) fun _ => ?_
  refine .bind (.require (by decide)) fun _ => ?_
  refine .forM (fun event => ?_) _
  refine .bind (.require (by decide)) fun _ => ?_
  exact .bind (.require (by decide)) fun _ => .require (by decide)

/-- Decoding raises a `ValueError`. -/
theorem decode_neverRaises (data : List UInt8) :
    NeverRaises .runtimeError (decode data) := by
  refine .bind (.require (by decide)) fun _ => ?_
  refine .bind (.require (by decide)) fun _ => ?_
  refine .bind (.require (by decide)) fun _ => ?_
  refine .bind (.require (by decide)) fun _ => ?_
  exact .bind (validate_neverRaises _) fun _ => .ok _

/-- The payload of a capture of one sample by a numbered device, under a
numbered profile. -/
def numberedPayload (number : UInt8) : List UInt8 :=
  [1, 0, 188, 0] ++ List.replicate 64 0 ++ [number] ++ List.replicate 15 0 ++
    [number] ++ List.replicate 43 0 ++ [1, 0, 0, 0, 12, 1] ++
    List.replicate 50 0 ++ [2, 0, 0, 0, 0, 0]

/-- The frame of that capture. -/
def numberedFrame (number : UInt8) : List UInt8 :=
  ({ Frame.command .captureData 1 (numberedPayload number) with
    flags := Flags.response } : Frame).encode.toOption.getD []

/-- The payload of a capture of one sample. -/
def smallestPayload : List UInt8 :=
  [1, 0, 188, 0] ++ List.replicate 124 0 ++ [1, 0, 0, 0, 12, 1] ++
    List.replicate 50 0 ++ [2, 0, 0, 0, 0, 0]

/-- The frame of a capture of one sample. -/
def smallestFrame : List UInt8 :=
  ({ Frame.command .captureData 1 smallestPayload with
    flags := Flags.response } : Frame).encode.toOption.getD []

end CaptureData

end Usac.Host
