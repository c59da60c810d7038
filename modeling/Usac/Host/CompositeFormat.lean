import Usac.Host.BridgeMessages
import Usac.Host.CaptureDataFormat
import Usac.Host.ConfigV2

namespace Usac.Host

open Library

/-!
# The composite formats

Configurations, captures and deliveries announce the lengths of their variable
parts in front of them. What is decoded is encoded to the same bytes, so the
announced counts, the reserved bytes, the hash and the CRC are those the
encoder writes.
-/

namespace AcquisitionConfigV2

/-- The fields a configuration is read from. -/
def read (data : List UInt8) : AcquisitionConfigV2 where
  profileSchemaVersion := readU16 data 0
  sampleIntervalTicks := readU16 data 2
  sampleCount := readU16 data 4
  pretriggerCount := readU16 data 6
  adcBits := byteAt data 8
  auxFlags := byteAt data 9
  vrefMv := readU16 data 10
  burstPeriodTicks := readU16 data 12
  registerPairs := (List.range (byteAt data 14).toNat).map fun index =>
    (byteAt data (prefixSize + 2 * index),
      byteAt data (prefixSize + 2 * index + 1))
  profileSha256 := slice data (prefixSize + 2 * (byteAt data 14).toNat) 32
  deviceConfigCrc32 :=
    readU32 data (prefixSize + 2 * (byteAt data 14).toNat + 32)

/-- What has been checked of a configuration that is decoded. -/
structure Accepted (data : List UInt8) (config : AcquisitionConfigV2) :
    Prop where
  reserved : byteAt data 15 = 0
  sized :
    data.length = prefixSize + 2 * (byteAt data 14).toNat + 32 + 4
  read : config = read data
  consistent : config.Consistent

theorem accepted_of_decode
    {data : List UInt8}
    {config : AcquisitionConfigV2}
    (decoded : decode data = .ok config) :
    Accepted data config := by
  obtain ⟨⟨⟩, _, decoded⟩ := bind_eq_ok.1 decoded
  obtain ⟨⟨⟩, reserved, decoded⟩ := bind_eq_ok.1 decoded
  obtain ⟨⟨⟩, sized, decoded⟩ := bind_eq_ok.1 decoded
  obtain ⟨created, creates, decoded⟩ := bind_eq_ok.1 decoded
  obtain ⟨⟨⟩, supplied, decoded⟩ := bind_eq_ok.1 decoded
  cases decoded
  obtain ⟨⟨⟩, values, creates⟩ := bind_eq_ok.1 creates
  obtain ⟨canonical, formed, creates⟩ := bind_eq_ok.1 creates
  obtain ⟨⟨⟩, _, formed⟩ := bind_eq_ok.1 formed
  cases formed
  cases creates
  obtain ⟨hash, crc⟩ := require_eq_ok.1 supplied
  have same : read data = _ :=
    congrArg₂
      (fun hash crc => { read data with
        profileSha256 := hash
        deviceConfigCrc32 := crc }) hash.symm crc.symm
  exact {
    reserved := require_eq_ok.1 reserved
    sized := require_eq_ok.1 sized
    read := same.symm
    consistent := ⟨values, rfl, rfl⟩
  }

/-- A configuration that is decoded is encoded to the same bytes. -/
theorem encode_of_decode
    {data : List UInt8}
    {config : AcquisitionConfigV2}
    (decoded : decode data = .ok config) :
    config.encode = .ok data := by
  obtain ⟨reserved, sized, rfl, consistent⟩ := accepted_of_decode decoded
  refine encode_eq_ok.2 ⟨consistent, ?_⟩
  have total :
      data.length = 16 + 2 * (byteAt data 14).toNat + 32 + 4 :=
    sized
  have pairs : (read data).pairBytes =
      segment data 16 (2 * (byteAt data 14).toNat) := by
    refine flatMap_map_segments fun index inside => ?_
    show [byteAt data (16 + 2 * index), byteAt data (16 + 2 * index + 1)] = _
    simp (disch := omega) only [cons_byteAt, List.append_nil, segment_append]
  have count :
      (read data).registerPairs.length.toUInt8 = byteAt data 14 := by
    unfold read
    rw [List.length_map, List.length_range]
    exact UInt8.ofNat_toNat
  unfold wireForm
  rw [pairs, count, ← reserved]
  unfold read prefixSize
  simp (disch := omega) only [toList_slice, cons_byteAt, writeU16_readU16,
    writeU32_readU32, List.append_nil, segment_append, segment_all]

/-- The number of registers is announced in a byte. -/
theorem count_of_values
    {config : AcquisitionConfigV2}
    (values : config.validateValues = .ok ()) :
    config.registerPairs.length ≤ 10 ∧
      config.registerPairs.length.toUInt8.toNat =
        config.registerPairs.length := by
  simp only [validateValues, bind_eq_ok, require_eq_ok] at values
  obtain ⟨-, -, -, -, -, -, -, -, -, -, -, -, -, -, -, -, -, few, -⟩ := values
  refine ⟨few, ?_⟩
  rw [Nat.toUInt8_eq, UInt8.toNat_ofNat']
  omega

/-- The bytes of the pairs are two for each. -/
theorem length_pairBytes (config : AcquisitionConfigV2) :
    config.pairBytes.length = 2 * config.registerPairs.length :=
  @length_flatMap_records _ (fun pair : UInt8 × UInt8 => [pair.1, pair.2]) 2
    (fun _ => rfl) _

/-- The fixed part of a configuration on the wire. -/
def wireHead (config : AcquisitionConfigV2) : List UInt8 :=
  writeU16 config.profileSchemaVersion ++ writeU16 config.sampleIntervalTicks ++
    writeU16 config.sampleCount ++ writeU16 config.pretriggerCount ++
    [config.adcBits, config.auxFlags] ++ writeU16 config.vrefMv ++
    writeU16 config.burstPeriodTicks ++
    [config.registerPairs.length.toUInt8, 0]

@[simp] theorem length_wireHead (config : AcquisitionConfigV2) :
    config.wireHead.length = 16 := by
  simp [wireHead]

theorem wireForm_eq_head (config : AcquisitionConfigV2) :
    config.wireForm =
      config.wireHead ++ (config.pairBytes ++
        (config.profileSha256.toList ++
          writeU32 config.deviceConfigCrc32)) := by
  unfold wireForm wireHead
  simp only [List.append_assoc]

/-- The fixed part is read back, whatever follows. -/
theorem read_wireHead (config : AcquisitionConfigV2) (rest : List UInt8) :
    readU16 (config.wireHead ++ rest) 0 = config.profileSchemaVersion ∧
      readU16 (config.wireHead ++ rest) 2 = config.sampleIntervalTicks ∧
      readU16 (config.wireHead ++ rest) 4 = config.sampleCount ∧
      readU16 (config.wireHead ++ rest) 6 = config.pretriggerCount ∧
      byteAt (config.wireHead ++ rest) 8 = config.adcBits ∧
      byteAt (config.wireHead ++ rest) 9 = config.auxFlags ∧
      readU16 (config.wireHead ++ rest) 10 = config.vrefMv ∧
      readU16 (config.wireHead ++ rest) 12 = config.burstPeriodTicks ∧
      byteAt (config.wireHead ++ rest) 14 =
        config.registerPairs.length.toUInt8 ∧
      byteAt (config.wireHead ++ rest) 15 = 0 := by
  simp [wireHead, readU16_append_right, readU16_cons_succ, readU16_writeU16,
    byteAt_append_right, byteAt_cons_zero, byteAt_cons_succ]

/-- A configuration with its few registers is read back. -/
theorem read_wireForm
    {config : AcquisitionConfigV2}
    (values : config.validateValues = .ok ()) :
    read config.wireForm = config := by
  obtain ⟨few, announced⟩ := count_of_values values
  obtain ⟨version, interval, samples, pretrigger, bits, flags, vref, burst,
    count, -⟩ :=
    read_wireHead config (config.pairBytes ++
      (config.profileSha256.toList ++ writeU32 config.deviceConfigCrc32))
  have pairs : (List.range config.registerPairs.length).map (fun index =>
      (byteAt (config.wireHead ++ (config.pairBytes ++
          (config.profileSha256.toList ++
            writeU32 config.deviceConfigCrc32))) (16 + 2 * index),
        byteAt (config.wireHead ++ (config.pairBytes ++
          (config.profileSha256.toList ++
            writeU32 config.deviceConfigCrc32))) (16 + 2 * index + 1))) =
      config.registerPairs := by
    refine Eq.trans (List.map_congr_left fun index _ => ?_)
      (map_byteAt_pairs config.registerPairs
        (config.profileSha256.toList ++ writeU32 config.deviceConfigCrc32))
    have behind (rest : List UInt8) (offset : Nat) :
        byteAt (config.wireHead ++ rest) (16 + offset) =
          byteAt rest offset := by
      rw [byteAt_append_right (by simp), length_wireHead,
        Nat.add_sub_cancel_left]
    exact congrArg₂ Prod.mk (behind _ (2 * index)) (behind _ (2 * index + 1))
  have hash : slice (config.wireHead ++ (config.pairBytes ++
      (config.profileSha256.toList ++ writeU32 config.deviceConfigCrc32)))
        (16 + 2 * config.registerPairs.length) 32 =
      config.profileSha256 := by
    rw [← List.append_assoc, slice_append_right (by simp [length_pairBytes])]
    simp [length_pairBytes, slice_append_left]
  have crc : readU32 (config.wireHead ++ (config.pairBytes ++
      (config.profileSha256.toList ++ writeU32 config.deviceConfigCrc32)))
        (16 + 2 * config.registerPairs.length + 32) =
      config.deviceConfigCrc32 := by
    have front :
        (config.wireHead ++ config.pairBytes ++
            config.profileSha256.toList).length =
          16 + 2 * config.registerPairs.length + 32 := by
      rw [List.length_append, List.length_append, length_wireHead,
        length_pairBytes, List.Vector.toList_length]
    rw [← List.append_assoc, ← List.append_assoc,
      readU32_append_right (Nat.le_of_eq front), front, Nat.sub_self]
    exact readU32_writeU32_last _
  rw [wireForm_eq_head]
  unfold read prefixSize
  rw [version, interval, samples, pretrigger, bits, flags, vref, burst, count,
    announced, pairs, hash, crc]

/-- A configuration that can be encoded is decoded to itself. -/
theorem decode_of_encode
    {data : List UInt8}
    {config : AcquisitionConfigV2}
    (encoded : config.encode = .ok data) :
    decode data = .ok config := by
  obtain ⟨consistent, rfl⟩ := encode_eq_ok.1 encoded
  obtain ⟨few, announced⟩ := count_of_values consistent.values
  have shape := wireForm_eq_head config
  obtain ⟨-, -, -, -, -, -, -, -, count, reserved⟩ :=
    read_wireHead config (config.pairBytes ++
      (config.profileSha256.toList ++ writeU32 config.deviceConfigCrc32))
  rw [← shape] at count reserved
  have length :
      config.wireForm.length =
        prefixSize + 2 * (byteAt config.wireForm 14).toNat + 32 + 4 := by
    rw [count, announced, shape]
    simp [length_pairBytes, prefixSize]
    omega
  have enough : prefixSize + 32 + 4 ≤ config.wireForm.length := by omega
  have fields := read_wireForm consistent.values
  unfold decode
  rw [require_pos enough, ok_bind, require_pos reserved, ok_bind]
  dsimp only
  rw [require_pos length, ok_bind]
  show (create (read config.wireForm) >>= fun created =>
    require
        (created.profileSha256 = (read config.wireForm).profileSha256 ∧
          created.deviceConfigCrc32 =
            (read config.wireForm).deviceConfigCrc32) _ >>= fun _ =>
      .ok created) = _
  rw [fields, consistent.create, ok_bind, require_pos ⟨rfl, rfl⟩]
  rfl

theorem exact (data : List UInt8) : Exact encode decode data :=
  fun _ => ⟨encode_of_decode, decode_of_encode⟩

end AcquisitionConfigV2

namespace BridgeCaptureDelivery

/-- The fields a delivery is read from. -/
def read (data : List UInt8) : BridgeCaptureDelivery where
  connectionId := readU64 data 0
  spoolRecordId := readU64 data 8
  sourceConnectionId := readU64 data 16
  sourceFirstStreamOffset := readU64 data 24
  sourceLastStreamOffset := readU64 data 32
  storedUtcNs := readU64 data 40
  innerFrame := data.drop prefixSize

/-- What has been checked of a delivery that is decoded. -/
structure Accepted (data : List UInt8) (message : BridgeCaptureDelivery) :
    Prop where
  sized : data.length = prefixSize + (readU32 data 48).toNat
  crc : Frame.crc32IsoHdlc (data.drop prefixSize) = readU32 data 52
  read : message = read data
  valid : message.validate = .ok ()

theorem accepted_of_decode
    {data : List UInt8}
    {message : BridgeCaptureDelivery}
    (decoded : decode data = .ok message) :
    Accepted data message := by
  obtain ⟨⟨⟩, _, decoded⟩ := bind_eq_ok.1 decoded
  obtain ⟨⟨⟩, sized, decoded⟩ := bind_eq_ok.1 decoded
  obtain ⟨⟨⟩, crc, decoded⟩ := bind_eq_ok.1 decoded
  obtain ⟨⟨⟩, valid, decoded⟩ := bind_eq_ok.1 decoded
  cases decoded
  exact ⟨require_eq_ok.1 sized, require_eq_ok.1 crc, rfl, valid⟩

/-- A delivery that is decoded is encoded to the same bytes. -/
theorem encode_of_decode
    {data : List UInt8}
    {message : BridgeCaptureDelivery}
    (decoded : decode data = .ok message) :
    message.encode = .ok data := by
  obtain ⟨sized, crc, rfl, valid⟩ := accepted_of_decode decoded
  have total : data.length = 56 + (readU32 data 48).toNat := sized
  have length : (read data).innerFrame.length.toUInt32 = readU32 data 48 := by
    unfold read prefixSize
    rw [List.length_drop, total, Nat.add_sub_cancel_left]
    exact UInt32.ofNat_toNat
  have checksum :
      Frame.crc32IsoHdlc (read data).innerFrame = readU32 data 52 :=
    crc
  have inner :
      (read data).innerFrame = segment data 56 (readU32 data 48).toNat :=
    drop_eq_segment total
  rw [encode, valid, ok_bind, length, checksum, inner]
  refine congrArg Except.ok ?_
  unfold read
  simp (disch := omega) only [writeU32_readU32, writeU64_readU64,
    segment_append, segment_all]

theorem exact (data : List UInt8) : Exact encode decode data :=
  fun _ => ⟨encode_of_decode, decode_of_encode⟩

end BridgeCaptureDelivery

/-! ## The formats together -/

/-- Decoding a format is inverse to encoding it, tells byte strings apart, and
accepts no beginning of what it accepts. What is accepted has passed the
checks. -/
structure ExactFormat
    {Value : Type}
    (encode : Value → Except Raised (List UInt8))
    (decode : List UInt8 → Except Raised Value)
    (Accepted : List UInt8 → Value → Prop) :
    Prop where
  inverse : ∀ data, Exact encode decode data
  injective :
    ∀ first second value,
      decode first = .ok value → decode second = .ok value → first = second
  prefixFree :
    ∀ data more value other,
      decode data = .ok value → decode (data ++ more) = .ok other → more = []
  checked : ∀ data value, decode data = .ok value → Accepted data value

/-- A format that announces the lengths of its parts is exact. -/
theorem ExactFormat.of_announced
    {Value : Type}
    {encode : Value → Except Raised (List UInt8)}
    {decode : List UInt8 → Except Raised Value}
    {Accepted : List UInt8 → Value → Prop}
    (announced : List UInt8 → Nat)
    (inverse : ∀ data, Exact encode decode data)
    (checked : ∀ data value, decode data = .ok value → Accepted data value)
    (sized : ∀ data value, Accepted data value → data.length = announced data)
    (stable :
      ∀ data more,
        data.length = announced data →
          announced (data ++ more) = announced data) :
    ExactFormat encode decode Accepted where
  inverse := inverse
  injective first second value one two :=
    Except.ok.inj
      (((inverse first value).1 one).symm.trans ((inverse second value).1 two))
  prefixFree data more value other short long := by
    have front := sized data value (checked data value short)
    have whole := sized _ other (checked _ other long)
    rw [stable data more front, ← front, List.length_append] at whole
    exact List.length_eq_zero_iff.1 (Nat.add_eq_left.1 whole)
  checked := checked

theorem Frame.exactFormat :
    ExactFormat Frame.encode Frame.decode Frame.Accepted := by
  refine .of_announced
    (fun data => headerSize + (readU32 data 12).toNat + crcSize)
    Frame.exact (fun _ _ => accepted_of_decode) (fun _ _ passed => passed.sized)
    fun data more sized => ?_
  have total : data.length = 16 + (readU32 data 12).toNat + 4 := sized
  rw [readU32_append_left (by omega)]

theorem AcquisitionConfigV2.exactFormat :
    ExactFormat AcquisitionConfigV2.encode AcquisitionConfigV2.decode
      AcquisitionConfigV2.Accepted := by
  refine .of_announced
    (fun data => prefixSize + 2 * (byteAt data 14).toNat + 32 + 4)
    AcquisitionConfigV2.exact (fun _ _ => accepted_of_decode)
    (fun _ _ passed => passed.sized) fun data more sized => ?_
  have total : data.length = 16 + 2 * (byteAt data 14).toNat + 32 + 4 := sized
  rw [byteAt_append_left (by omega)]

theorem CaptureData.exactFormat :
    ExactFormat CaptureData.encode CaptureData.decode CaptureData.Accepted := by
  refine .of_announced
    (fun data =>
      188 + 2 * (byteAt data 180).toNat + 16 * (byteAt data 179).toNat +
        2 * (readU16 data 128).toNat)
    CaptureData.exact (fun _ _ => accepted_of_decode)
    (fun _ _ passed => passed.sized) fun data more sized => ?_
  rw [byteAt_append_left (by omega), byteAt_append_left (by omega),
    readU16_append_left (by omega)]

theorem BridgeCaptureDelivery.exactFormat :
    ExactFormat BridgeCaptureDelivery.encode BridgeCaptureDelivery.decode
      BridgeCaptureDelivery.Accepted := by
  refine .of_announced (fun data => prefixSize + (readU32 data 48).toNat)
    BridgeCaptureDelivery.exact (fun _ _ => accepted_of_decode)
    (fun _ _ passed => passed.sized) fun data more sized => ?_
  have total : data.length = 56 + (readU32 data 48).toNat := sized
  rw [readU32_append_left (by omega)]

/-- The composite formats are exact. -/
theorem composite_formats_exact :
    ExactFormat AcquisitionConfigV2.encode AcquisitionConfigV2.decode
        AcquisitionConfigV2.Accepted ∧
      ExactFormat CaptureData.encode CaptureData.decode CaptureData.Accepted ∧
      ExactFormat BridgeCaptureDelivery.encode BridgeCaptureDelivery.decode
        BridgeCaptureDelivery.Accepted ∧
      ExactFormat Frame.encode Frame.decode Frame.Accepted :=
  ⟨AcquisitionConfigV2.exactFormat, CaptureData.exactFormat,
    BridgeCaptureDelivery.exactFormat, Frame.exactFormat⟩

end Usac.Host
