import Usac.Host.CaptureData
import Usac.Host.FrameFormat

namespace Usac.Host

open Library

/-!
# The capture format

The encoder of `capture_data.py`, and that it is inverse to the decoder. The
counts in the fixed header are those of the parts behind it.
-/

/-- `_EVENT.pack`. -/
def CaptureEvent.bytes (event : CaptureEvent) : List UInt8 :=
  [event.channel, event.edge, event.captureMethod, event.levelAfter] ++
    writeU32 event.sampleIndex.toUInt32 ++ writeU16 event.subsampleTick ++
    writeU16 event.uncertaintyTicks ++ writeU32 event.frameOffsetTicks

namespace CaptureData

/-- The identifiers at the head of the fixed header. -/
def identityBytes (capture : CaptureData) : List UInt8 :=
  writeU16 payloadSchemaVersion ++ writeU16 188 ++ capture.requestId.toList ++
    capture.scheduleId.toList ++ capture.captureId.toList ++
    capture.bootId.toList ++ capture.deviceId.toList ++
    capture.profileSha256.toList

/-- The numbers behind the identifiers. -/
def numberBytes (capture : CaptureData) : List UInt8 :=
  writeU32 capture.deviceConfigCrc32 ++ writeU32 capture.captureSequence ++
    writeU16 capture.sampleIntervalTicks ++ writeU16 capture.burstPeriodTicks ++
    writeU16 capture.sampleCount ++ writeU16 capture.pretriggerCount ++
    [capture.adcBits, capture.sampleEncoding] ++ writeU16 capture.vrefMv ++
    writeU32 capture.smclkNominalHz ++ writeU32 capture.smclkCalibratedHz ++
    writeU64 capture.frameStartTick48

/-- The timing and the counts at the end of the fixed header. -/
def countBytes (capture : CaptureData) : List UInt8 :=
  writeU32 capture.tTriggerOffsetTicks ++
    writeU32 capture.adc0HoldOffsetTicks.toUInt32 ++
    writeU32 capture.adcApertureNs ++ writeU32 capture.triggerToTxOutputNs ++
    writeU32 capture.calibrationVersion ++ writeU32 capture.qualityFlags ++
    [capture.tussDevStat, capture.out3StartLevel, capture.out4StartLevel,
      capture.events.length.toUInt8, capture.registerPairs.length.toUInt8] ++
    (Bytes.zero 3).toList ++ writeU32 (capture.samples.length * 2).toUInt32

/-- The parts of variable length. -/
def variableBytes (capture : CaptureData) : List UInt8 :=
  capture.registerPairs.flatMap (fun pair => [pair.1, pair.2]) ++
    (capture.events.flatMap CaptureEvent.bytes ++
      capture.samples.flatMap writeU16)

/-- `encode_capture_data`. -/
def encode (capture : CaptureData) : Except Raised (List UInt8) := do
  capture.validate
  pure (capture.identityBytes ++ (capture.numberBytes ++
    (capture.countBytes ++ capture.variableBytes)))

/-! ## What is decoded is encoded to the same bytes -/

/-- What has been checked of a capture that is decoded. -/
structure Accepted (data : List UInt8) (capture : CaptureData) : Prop where
  schema : readU16 data 0 = payloadSchemaVersion
  header : readU16 data 2 = 188
  reserved : slice data 181 3 = Bytes.zero 3
  sized :
    data.length =
      188 + 2 * (byteAt data 180).toNat + 16 * (byteAt data 179).toNat +
        2 * (readU16 data 128).toNat
  samples : (readU32 data 184).toNat = 2 * (readU16 data 128).toNat
  read : capture = readFields data
  valid : capture.validate = .ok ()

theorem accepted_of_decode
    {data : List UInt8}
    {capture : CaptureData}
    (decoded : decode data = .ok capture) :
    Accepted data capture := by
  obtain ⟨⟨⟩, _, decoded⟩ := bind_eq_ok.1 decoded
  obtain ⟨⟨⟩, opening, decoded⟩ := bind_eq_ok.1 decoded
  obtain ⟨⟨⟩, reserved, decoded⟩ := bind_eq_ok.1 decoded
  obtain ⟨⟨⟩, counts, decoded⟩ := bind_eq_ok.1 decoded
  obtain ⟨⟨⟩, valid, decoded⟩ := bind_eq_ok.1 decoded
  cases decoded
  obtain ⟨schema, header⟩ := require_eq_ok.1 opening
  obtain ⟨sized, samples⟩ := require_eq_ok.1 counts
  exact {
    schema := schema
    header := UInt16.toNat_inj.1 header
    reserved := require_eq_ok.1 reserved
    sized := samples ▸ sized
    samples := samples
    read := rfl
    valid := valid
  }

/-- An event that is read is written back. -/
theorem bytes_readEvent
    {data : List UInt8}
    {offset : Nat}
    (inside : offset + 16 ≤ data.length) :
    (readEvent data offset).bytes = segment data offset 16 := by
  unfold CaptureEvent.bytes readEvent
  dsimp only
  rw [UInt32.toUInt32_toInt32]
  simp (disch := omega) only [cons_byteAt, writeU16_readU16, writeU32_readU32,
    List.append_nil, segment_append]

/-- The parts of variable length are written back. -/
theorem variableBytes_readFields
    {data : List UInt8}
    {capture : CaptureData}
    (accepted : Accepted data capture) :
    capture.variableBytes =
      segment data 188
        (2 * (byteAt data 180).toNat + (16 * (byteAt data 179).toNat +
          2 * (readU16 data 128).toNat)) := by
  have sized := accepted.sized
  rw [accepted.read]
  unfold variableBytes
  have pairs :
      (readFields data).registerPairs.flatMap
          (fun pair => [pair.1, pair.2]) =
        segment data 188 (2 * (byteAt data 180).toNat) := by
    refine flatMap_map_segments fun index inside => ?_
    show [byteAt data (188 + 2 * index), byteAt data (188 + 2 * index + 1)] = _
    simp (disch := omega) only [cons_byteAt, List.append_nil, segment_append]
  have events :
      (readFields data).events.flatMap CaptureEvent.bytes =
        segment data (188 + 2 * (byteAt data 180).toNat)
          (16 * (byteAt data 179).toNat) := by
    refine flatMap_map_segments fun index inside => ?_
    exact bytes_readEvent (by
      show 188 + 2 * (byteAt data 180).toNat + 16 * index + 16 ≤ _
      omega)
  have samples :
      (readFields data).samples.flatMap writeU16 =
        segment data
          (188 + 2 * (byteAt data 180).toNat + 16 * (byteAt data 179).toNat)
          (2 * (readU16 data 128).toNat) := by
    refine flatMap_map_segments fun index inside => ?_
    exact writeU16_readU16 (by
      show 188 + 2 * (byteAt data 180).toNat + 16 * (byteAt data 179).toNat +
        2 * index + 2 ≤ _
      omega)
  rw [pairs, events, samples, segment_append _ rfl, segment_append _ rfl]

/-- A capture that is decoded is encoded to the same bytes. -/
theorem encode_of_decode
    {data : List UInt8}
    {capture : CaptureData}
    (decoded : decode data = .ok capture) :
    capture.encode = .ok data := by
  have accepted := accepted_of_decode decoded
  have sized := accepted.sized
  have variableParts := variableBytes_readFields accepted
  obtain ⟨schema, header, reserved, -, samples, rfl, valid⟩ := accepted
  have identity : (readFields data).identityBytes = segment data 0 116 := by
    unfold identityBytes
    rw [← schema, ← header]
    unfold readFields
    dsimp only
    simp (disch := omega) only [toList_slice, writeU16_readU16, segment_append]
  have numbers : (readFields data).numberBytes = segment data 116 36 := by
    unfold numberBytes readFields
    dsimp only
    simp (disch := omega) only [cons_byteAt, writeU16_readU16,
      writeU32_readU32, writeU64_readU64, List.append_nil, segment_append]
  have registerCount :
      (readFields data).registerPairs.length.toUInt8 = byteAt data 180 := by
    unfold readFields readPairs
    rw [List.length_map, List.length_range]
    exact UInt8.ofNat_toNat
  have eventCount :
      (readFields data).events.length.toUInt8 = byteAt data 179 := by
    unfold readFields
    rw [List.length_map, List.length_range]
    exact UInt8.ofNat_toNat
  have sampleBytes :
      ((readFields data).samples.length * 2).toUInt32 = readU32 data 184 := by
    unfold readFields readSamples
    rw [List.length_map, List.length_range, Nat.mul_comm, ← samples]
    exact UInt32.ofNat_toNat
  have counts : (readFields data).countBytes = segment data 152 36 := by
    unfold countBytes
    rw [registerCount, eventCount, sampleBytes, ← reserved]
    unfold readFields
    dsimp only
    rw [UInt32.toUInt32_toInt32]
    simp (disch := omega) only [toList_slice, cons_byteAt, writeU32_readU32,
      List.append_nil, segment_append]
  rw [encode, valid, ok_bind, identity, numbers, counts, variableParts]
  refine congrArg Except.ok ?_
  simp (disch := omega) only [segment_append, segment_all]

/-! ## What is encoded is decoded to the same capture -/

@[simp] theorem length_identityBytes (capture : CaptureData) :
    capture.identityBytes.length = 116 := by
  simp [identityBytes]

@[simp] theorem length_numberBytes (capture : CaptureData) :
    capture.numberBytes.length = 36 := by
  simp [numberBytes]

@[simp] theorem length_countBytes (capture : CaptureData) :
    capture.countBytes.length = 36 := by
  simp [countBytes]

/-- The identifiers are read back. -/
theorem read_identityBytes (capture : CaptureData) (rest : List UInt8) :
    readU16 (capture.identityBytes ++ rest) 0 = payloadSchemaVersion ∧
      readU16 (capture.identityBytes ++ rest) 2 = 188 ∧
      slice (capture.identityBytes ++ rest) 4 16 = capture.requestId ∧
      slice (capture.identityBytes ++ rest) 20 16 = capture.scheduleId ∧
      slice (capture.identityBytes ++ rest) 36 16 = capture.captureId ∧
      slice (capture.identityBytes ++ rest) 52 16 = capture.bootId ∧
      slice (capture.identityBytes ++ rest) 68 16 = capture.deviceId ∧
      slice (capture.identityBytes ++ rest) 84 32 =
        capture.profileSha256 := by
  simp [identityBytes, readU16_append_right, readU16_writeU16,
    slice_append_right, slice_append_left]

/-- The numbers are read back. -/
theorem read_numberBytes (capture : CaptureData) (rest : List UInt8) :
    readU32 (capture.numberBytes ++ rest) 0 = capture.deviceConfigCrc32 ∧
      readU32 (capture.numberBytes ++ rest) 4 = capture.captureSequence ∧
      readU16 (capture.numberBytes ++ rest) 8 =
        capture.sampleIntervalTicks ∧
      readU16 (capture.numberBytes ++ rest) 10 = capture.burstPeriodTicks ∧
      readU16 (capture.numberBytes ++ rest) 12 = capture.sampleCount ∧
      readU16 (capture.numberBytes ++ rest) 14 = capture.pretriggerCount ∧
      byteAt (capture.numberBytes ++ rest) 16 = capture.adcBits ∧
      byteAt (capture.numberBytes ++ rest) 17 = capture.sampleEncoding ∧
      readU16 (capture.numberBytes ++ rest) 18 = capture.vrefMv ∧
      readU32 (capture.numberBytes ++ rest) 20 = capture.smclkNominalHz ∧
      readU32 (capture.numberBytes ++ rest) 24 = capture.smclkCalibratedHz ∧
      readU64 (capture.numberBytes ++ rest) 28 =
        capture.frameStartTick48 := by
  simp [numberBytes, readU16_append_right, readU16_cons_succ,
    readU16_writeU16, readU32_append_right, readU32_cons_succ,
    readU32_writeU32, readU64_append_right, readU64_cons_succ,
    readU64_writeU64, byteAt_append_right, byteAt_cons_zero, byteAt_cons_succ]

/-- The timing and the counts are read back. -/
theorem read_countBytes (capture : CaptureData) (rest : List UInt8) :
    readU32 (capture.countBytes ++ rest) 0 = capture.tTriggerOffsetTicks ∧
      readU32 (capture.countBytes ++ rest) 4 =
        capture.adc0HoldOffsetTicks.toUInt32 ∧
      readU32 (capture.countBytes ++ rest) 8 = capture.adcApertureNs ∧
      readU32 (capture.countBytes ++ rest) 12 = capture.triggerToTxOutputNs ∧
      readU32 (capture.countBytes ++ rest) 16 = capture.calibrationVersion ∧
      readU32 (capture.countBytes ++ rest) 20 = capture.qualityFlags ∧
      byteAt (capture.countBytes ++ rest) 24 = capture.tussDevStat ∧
      byteAt (capture.countBytes ++ rest) 25 = capture.out3StartLevel ∧
      byteAt (capture.countBytes ++ rest) 26 = capture.out4StartLevel ∧
      byteAt (capture.countBytes ++ rest) 27 =
        capture.events.length.toUInt8 ∧
      byteAt (capture.countBytes ++ rest) 28 =
        capture.registerPairs.length.toUInt8 ∧
      slice (capture.countBytes ++ rest) 29 3 = Bytes.zero 3 ∧
      readU32 (capture.countBytes ++ rest) 32 =
        (capture.samples.length * 2).toUInt32 := by
  simp [countBytes, readU32_append_right, readU32_cons_succ,
    readU32_writeU32, byteAt_append_right, byteAt_cons_zero, byteAt_cons_succ,
    slice_append_right, slice_cons_succ, slice_append_left]

@[simp] theorem length_bytes (event : CaptureEvent) :
    event.bytes.length = 16 := by
  simp [CaptureEvent.bytes]

/-- An event is read back from its sixteen bytes. -/
theorem readEvent_bytes (event : CaptureEvent) (rest : List UInt8) :
    readEvent (event.bytes ++ rest) 0 = event := by
  simp [readEvent, CaptureEvent.bytes, readU32_append_right,
    readU32_writeU32, readU16_append_right, readU16_writeU16,
    byteAt_cons_zero, byteAt_cons_succ, readU32_cons_succ, readU16_cons_succ]

/-- Reading an event passes over what lies in front of it. -/
theorem readEvent_append_right
    (first second : List UInt8)
    (offset : Nat)
    (behind : first.length ≤ offset) :
    readEvent (first ++ second) offset =
      readEvent second (offset - first.length) := by
  have shift (index : Nat) :
      offset + index - first.length = offset - first.length + index := by
    omega
  rw [readEvent, readEvent, byteAt_append_right behind,
    byteAt_append_right (by omega), byteAt_append_right (by omega),
    byteAt_append_right (by omega), readU32_append_right (by omega),
    readU16_append_right (by omega), readU16_append_right (by omega),
    readU32_append_right (by omega)]
  simp only [shift]

/-- Reading pairs passes over what lies in front of them. -/
theorem readPairs_append_right
    {first second : List UInt8}
    {offset : Nat}
    (behind : first.length ≤ offset)
    (count : Nat) :
    readPairs (first ++ second) offset count =
      readPairs second (offset - first.length) count := by
  refine List.map_congr_left fun index _ => ?_
  have shift (index : Nat) :
      offset + index - first.length = offset - first.length + index := by
    omega
  rw [byteAt_append_right (by omega), byteAt_append_right (by omega),
    Nat.add_assoc, Nat.add_assoc, shift, shift]

/-- Reading samples passes over what lies in front of them. -/
theorem readSamples_append_right
    {first second : List UInt8}
    {offset : Nat}
    (behind : first.length ≤ offset)
    (count : Nat) :
    readSamples (first ++ second) offset count =
      readSamples second (offset - first.length) count := by
  refine List.map_congr_left fun index _ => ?_
  have shift :
      offset + 2 * index - first.length =
        offset - first.length + 2 * index := by
    omega
  rw [readU16_append_right (by omega), shift]

/-- The parts of variable length are read back. -/
theorem read_variableBytes (capture : CaptureData) :
    readPairs capture.variableBytes 0 capture.registerPairs.length =
        capture.registerPairs ∧
      (List.range capture.events.length).map (fun index =>
          readEvent capture.variableBytes
            (2 * capture.registerPairs.length + 16 * index)) =
        capture.events ∧
      readSamples capture.variableBytes
          (2 * capture.registerPairs.length + 16 * capture.events.length)
          capture.samples.length =
        capture.samples := by
  have registers :
      (capture.registerPairs.flatMap fun pair =>
          [pair.1, pair.2]).length =
        2 * capture.registerPairs.length :=
    @length_flatMap_records _ (fun pair : UInt8 × UInt8 => [pair.1, pair.2]) 2
      (fun _ => rfl) _
  have events :
      (capture.events.flatMap CaptureEvent.bytes).length =
        16 * capture.events.length :=
    length_flatMap_records length_bytes _
  unfold variableBytes
  refine ⟨?_, ?_, ?_⟩
  · have read := map_byteAt_pairs capture.registerPairs
      (capture.events.flatMap CaptureEvent.bytes ++
        capture.samples.flatMap writeU16)
    simpa only [readPairs, Nat.zero_add] using read
  · have read := (map_read_records length_bytes readEvent_append_right
      readEvent_bytes capture.events
      (capture.samples.flatMap writeU16)).trans (List.map_id _)
    refine Eq.trans (List.map_congr_left fun index _ => ?_) read
    rw [readEvent_append_right _ _ _ (by omega), registers,
      Nat.add_sub_cancel_left]
  · have read := (map_read_records length_writeU16
      (fun _ _ _ behind => readU16_append_right behind) readU16_writeU16
      capture.samples []).trans (List.map_id _)
    rw [List.append_nil] at read
    rw [readSamples_append_right (by omega), registers,
      readSamples_append_right (by omega), events, Nat.add_sub_cancel_left,
      Nat.sub_self]
    simpa only [readSamples, Nat.zero_add] using read

/-- What a capture that passes the checks says of its counts. -/
theorem counts_of_validate
    {capture : CaptureData}
    (valid : capture.validate = .ok ()) :
    capture.sampleCount.toNat = capture.samples.length ∧
      capture.registerPairs.length ≤ 10 ∧ capture.events.length ≤ 17 := by
  obtain ⟨⟨⟩, samples, valid⟩ := bind_eq_ok.1 valid
  obtain ⟨⟨⟩, _, valid⟩ := bind_eq_ok.1 valid
  obtain ⟨⟨⟩, _, valid⟩ := bind_eq_ok.1 valid
  obtain ⟨⟨⟩, _, valid⟩ := bind_eq_ok.1 valid
  obtain ⟨⟨⟩, _, valid⟩ := bind_eq_ok.1 valid
  obtain ⟨⟨⟩, few, _⟩ := bind_eq_ok.1 valid
  exact ⟨require_eq_ok.1 samples, require_eq_ok.1 few⟩

/-- The bytes of a capture. -/
def wireBytes (capture : CaptureData) : List UInt8 :=
  capture.identityBytes ++ (capture.numberBytes ++
    (capture.countBytes ++ capture.variableBytes))

/-- The counts a capture announces are its own. -/
theorem announced_counts
    {capture : CaptureData}
    (valid : capture.validate = .ok ()) :
    (byteAt capture.wireBytes 179).toNat = capture.events.length ∧
      (byteAt capture.wireBytes 180).toNat = capture.registerPairs.length ∧
      readU16 capture.wireBytes 128 = capture.sampleCount ∧
      (readU32 capture.wireBytes 184).toNat = capture.samples.length * 2 := by
  obtain ⟨samples, registers, events⟩ := counts_of_validate valid
  obtain ⟨-, -, -, -, count, -⟩ :=
    capture.read_numberBytes (capture.countBytes ++ capture.variableBytes)
  obtain ⟨-, -, -, -, -, -, -, -, -, eventCount, registerCount, -, sampleBytes⟩ :=
    capture.read_countBytes capture.variableBytes
  have few := capture.sampleCount.toNat_lt
  refine ⟨?_, ?_, ?_, ?_⟩
  · simp only [wireBytes, byteAt_append_right, length_identityBytes,
      length_numberBytes, Nat.reduceLeDiff, Nat.reduceSub, eventCount,
      Nat.toUInt8_eq, UInt8.toNat_ofNat']
    omega
  · simp only [wireBytes, byteAt_append_right, length_identityBytes,
      length_numberBytes, Nat.reduceLeDiff, Nat.reduceSub, registerCount,
      Nat.toUInt8_eq, UInt8.toNat_ofNat']
    omega
  · simp only [wireBytes, readU16_append_right, length_identityBytes,
      Nat.reduceLeDiff, Nat.reduceSub, count]
  · simp only [wireBytes, readU32_append_right, length_identityBytes,
      length_numberBytes, Nat.reduceLeDiff, Nat.reduceSub, sampleBytes,
      Nat.toUInt32_eq, UInt32.toNat_ofNat']
    omega

/-- A capture that passes the checks is read back. -/
theorem readFields_wireBytes
    {capture : CaptureData}
    (valid : capture.validate = .ok ()) :
    readFields capture.wireBytes = capture := by
  obtain ⟨eventCount, registerCount, samples, -⟩ := announced_counts valid
  obtain ⟨total, -⟩ := counts_of_validate valid
  obtain ⟨pairs, events, values⟩ := capture.read_variableBytes
  have identity :=
    capture.read_identityBytes
      (capture.numberBytes ++ (capture.countBytes ++ capture.variableBytes))
  have numbers :=
    capture.read_numberBytes (capture.countBytes ++ capture.variableBytes)
  have counts := capture.read_countBytes capture.variableBytes
  have shape : capture.wireBytes =
      (capture.identityBytes ++ capture.numberBytes ++ capture.countBytes) ++
        capture.variableBytes := by
    simp only [wireBytes, List.append_assoc]
  have front :
      (capture.identityBytes ++ capture.numberBytes ++
        capture.countBytes).length = 188 := by
    simp
  have samplePart :
      readSamples capture.wireBytes
          (188 + 2 * capture.registerPairs.length +
            16 * capture.events.length)
          capture.samples.length =
        capture.samples := by
    rw [shape, readSamples_append_right (by omega), front, Nat.add_assoc,
      Nat.add_sub_cancel_left]
    exact values
  have eventPart :
      (List.range capture.events.length).map (fun index =>
          readEvent capture.wireBytes
            (188 + 2 * capture.registerPairs.length + 16 * index)) =
        capture.events := by
    refine Eq.trans (List.map_congr_left fun index _ => ?_) events
    rw [shape, readEvent_append_right _ _ _ (by omega), front, Nat.add_assoc,
      Nat.add_sub_cancel_left]
  have pairPart :
      readPairs capture.wireBytes 188 capture.registerPairs.length =
        capture.registerPairs := by
    rw [shape, readPairs_append_right (by omega), front]
    exact pairs
  have fields :
      readFields capture.wireBytes =
        { capture with
          registerPairs :=
            readPairs capture.wireBytes 188 capture.registerPairs.length
          events := (List.range capture.events.length).map fun index =>
            readEvent capture.wireBytes
              (188 + 2 * capture.registerPairs.length + 16 * index)
          samples := readSamples capture.wireBytes
            (188 + 2 * capture.registerPairs.length +
              16 * capture.events.length)
            capture.samples.length } := by
    unfold readFields
    dsimp only
    rw [registerCount, eventCount, samples, total]
    simp only [fixedHeaderLength, eventSize, CaptureData.mk.injEq, and_true]
    simp only [wireBytes, readU16_append_right, readU32_append_right,
      readU64_append_right, byteAt_append_right, length_identityBytes,
      length_numberBytes, Nat.reduceLeDiff, Nat.reduceSub, identity, numbers,
      counts, Int32.toInt32_toUInt32, and_self]
  rw [fields, pairPart, eventPart, samplePart]

/-- A capture that can be encoded is decoded to itself. -/
theorem decode_of_encode
    {data : List UInt8}
    {capture : CaptureData}
    (encoded : capture.encode = .ok data) :
    decode data = .ok capture := by
  obtain ⟨⟨⟩, valid, encoded⟩ := bind_eq_ok.1 encoded
  have same : capture.wireBytes = data := Except.ok.inj encoded
  obtain ⟨eventCount, registerCount, samples, sampleBytes⟩ :=
    announced_counts valid
  obtain ⟨total, -⟩ := counts_of_validate valid
  have fields := readFields_wireBytes valid
  obtain ⟨schema, header, -⟩ :=
    capture.read_identityBytes
      (capture.numberBytes ++ (capture.countBytes ++ capture.variableBytes))
  have counts := capture.read_countBytes capture.variableBytes
  have reserved : slice capture.wireBytes 181 3 = Bytes.zero 3 := by
    simp only [wireBytes, slice_append_right, length_identityBytes,
      length_numberBytes, Nat.reduceLeDiff, Nat.reduceSub, counts]
  have pairLength :=
    @length_flatMap_records _ (fun pair : UInt8 × UInt8 => [pair.1, pair.2]) 2
      (fun _ => rfl) capture.registerPairs
  have eventLength :=
    @length_flatMap_records _ CaptureEvent.bytes 16 length_bytes capture.events
  have sampleLength :=
    @length_flatMap_records _ writeU16 2 length_writeU16 capture.samples
  have length : capture.wireBytes.length =
      fixedHeaderLength + 2 * capture.registerPairs.length +
        eventSize * capture.events.length + capture.samples.length * 2 := by
    simp only [wireBytes, variableBytes, List.length_append,
      length_identityBytes, length_numberBytes, length_countBytes, pairLength,
      eventLength, sampleLength, fixedHeaderLength, eventSize]
    omega
  have enough : fixedHeaderLength ≤ capture.wireBytes.length := by omega
  rw [← same]
  unfold decode
  rw [require_pos enough, ok_bind, require_pos ⟨schema, by
    show (readU16 capture.wireBytes 2).toNat = 188
    rw [show readU16 capture.wireBytes 2 = 188 from header]
    rfl⟩, ok_bind, require_pos reserved, ok_bind]
  dsimp only
  rw [eventCount, registerCount, samples, sampleBytes,
    require_pos ⟨length, by rw [total, Nat.mul_comm]⟩, ok_bind, fields, valid]
  rfl

theorem exact (data : List UInt8) : Exact encode decode data :=
  fun _ => ⟨encode_of_decode, decode_of_encode⟩

end CaptureData

end Usac.Host
