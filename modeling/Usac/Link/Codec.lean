import Usac.Firmware.Effect
import Usac.Host.ConfigV2

namespace Usac.Link

open Library
open Firmware (ConfigV2)
open Host (AcquisitionConfigV2 Frame MessageType require_eq_ok bind_eq_ok
  forM_eq_ok)

/-!
# Both codecs of one wire format

The host and the firmware each have their own codec of the frames and of the
configuration. What one of them encodes the other decodes to the same fields,
and both derive the same identifiers.
-/

/-- The frame the firmware's parser emits for a frame of the host. -/
def received (frame : Frame) : Firmware.Mcu.FrameView where
  messageType := frame.messageType.code
  flags := frame.flags
  sequence := frame.sequence
  payload := frame.payload

/-- A response of the firmware as the host reads it. -/
def responseFrame
    (messageType : MessageType)
    (sequence : UInt32)
    (payload : List UInt8) :
    Frame where
  messageType := messageType
  sequence := sequence
  payload := payload
  flags := Host.Flags.response
  protocolVersion := Frame.currentVersion

/-- The header of a response with its magic. -/
def responseHeader
    (messageType : UInt8)
    (sequence : UInt32)
    (length : Nat) :
    List UInt8 :=
  [0x55, 0x53, 0x41, 0x43, 1, messageType, 1, 0] ++ writeU32 sequence ++
    writeU32 length.toUInt32

/-- A response is its header, its payload and the checksum of both. -/
theorem frameBytes_eq
    (messageType : UInt8)
    (sequence : UInt32)
    (payload : List UInt8) :
    Firmware.Mcu.frameBytes messageType Firmware.Flag.response sequence
        payload =
      responseHeader messageType sequence payload.length ++ (payload ++
        writeU32 (Firmware.Mcu.crc32
          (Firmware.Mcu.frameBody messageType Firmware.Flag.response
            sequence payload))) := by
  have flags : writeU16 Firmware.Flag.response = [1, 0] := rfl
  simp [Firmware.Mcu.frameBytes, Firmware.Mcu.frameBody, Firmware.Mcu.magic,
    Firmware.Mcu.protocolVersion, flags, responseHeader]

/-- The fields of a response header. -/
theorem responseHeader_fields
    {payload : List UInt8}
    (short : payload.length ≤ Frame.hostMaxPayloadLength)
    (messageType : UInt8)
    (sequence : UInt32)
    (rest : List UInt8) :
    let data := responseHeader messageType sequence payload.length ++ rest
    byteAt data 4 = 1 ∧ byteAt data 5 = messageType ∧ readU16 data 6 = 1 ∧
      readU32 data 8 = sequence ∧ (readU32 data 12).toNat = payload.length := by
  rw [Frame.hostMaxPayloadLength] at short
  refine ⟨rfl, rfl, readU16_writeU16 1 [], readU32_writeU32 sequence [], ?_⟩
  have length :
      readU32 (responseHeader messageType sequence payload.length ++ rest)
          12 =
        payload.length.toUInt32 :=
    readU32_writeU32 payload.length.toUInt32 rest
  rw [length, Nat.toUInt32_eq, UInt32.toNat_ofNat']
  omega

/-- The host decodes every response of the firmware. -/
theorem decode_frameBytes
    {payload : List UInt8}
    (short : payload.length ≤ Frame.hostMaxPayloadLength)
    (messageType : MessageType)
    (sequence : UInt32) :
    Frame.decode
        (Firmware.Mcu.frameBytes messageType.code Firmware.Flag.response
          sequence payload) =
      .ok (responseFrame messageType sequence payload) := by
  let body :=
    Firmware.Mcu.frameBody messageType.code Firmware.Flag.response sequence
      payload
  let header := responseHeader messageType.code sequence payload.length
  have headerLength : header.length = 16 := rfl
  have bodyLength : body.length = 12 + payload.length := by
    simp [body, Firmware.Mcu.frameBody]
    omega
  have shape := frameBytes_eq messageType.code sequence payload
  have length :
      (Firmware.Mcu.frameBytes messageType.code Firmware.Flag.response
        sequence payload).length = 16 + payload.length + 4 :=
    Firmware.Mcu.length_frameBytes ..
  have checked :
      ((Firmware.Mcu.frameBytes messageType.code Firmware.Flag.response
        sequence payload).drop 4).take (12 + payload.length) = body := by
    rw [Firmware.Mcu.frameBytes, List.append_assoc]
    exact List.take_left' bodyLength
  obtain ⟨version, type, flags, number, announced⟩ :=
    responseHeader_fields short messageType.code sequence
      (payload ++ writeU32 (Firmware.Mcu.crc32 body))
  have payloadRead :
      ((header ++ (payload ++ writeU32 (Firmware.Mcu.crc32 body))).drop
        16).take payload.length = payload := by
    rw [List.drop_left' headerLength]
    exact List.take_left' rfl
  have checksum :
      readU32 (header ++ (payload ++ writeU32 (Firmware.Mcu.crc32 body)))
          (16 + payload.length) =
        Firmware.Mcu.crc32 body := by
    rw [readU32_append_right (by omega), headerLength, Nat.add_sub_cancel_left,
      readU32_append_right le_rfl, Nat.sub_self]
    exact readU32_writeU32 _ []
  rw [shape] at length checked ⊢
  have reserved : Host.Flags.response &&& ~~~Frame.validFlagsMask = 0 := by
    decide
  have valid :
      (responseFrame messageType sequence payload).validateFields =
        .ok () := by
    simp only [Frame.validateFields, bind_eq_ok, require_eq_ok]
    exact ⟨(), rfl, (), reserved, short⟩
  unfold Frame.decode
  refine bind_eq_ok.2 ⟨(), require_eq_ok.2 ?_, ?_⟩
  · rw [length, Frame.headerSize, Frame.crcSize]
    omega
  refine bind_eq_ok.2 ⟨(), require_eq_ok.2 rfl, ?_⟩
  refine bind_eq_ok.2 ⟨(), require_eq_ok.2 (announced.trans_le short), ?_⟩
  refine bind_eq_ok.2 ⟨(), require_eq_ok.2 ?_, ?_⟩
  · rw [length, announced, Frame.headerSize, Frame.crcSize]
  rw [type, MessageType.ofCode?_code]
  dsimp only
  rw [version, flags, number, announced, Frame.headerSize, payloadRead]
  refine bind_eq_ok.2 ⟨(), valid, ?_⟩
  refine bind_eq_ok.2 ⟨(), require_eq_ok.2 ?_, rfl⟩
  rw [checksum, checked]
  rfl

/-- The pair of bytes of a register. -/
def pairOf (pair : Firmware.RegisterPair) : UInt8 × UInt8 :=
  (pair.address, pair.value)

/-- A configuration of the firmware as the host writes it. -/
def hostConfig (config : ConfigV2) : AcquisitionConfigV2 where
  profileSchemaVersion := ConfigV2.schemaVersion
  sampleIntervalTicks := config.profile.sampleIntervalTicks
  sampleCount := config.sampleCount
  pretriggerCount := config.pretriggerCount
  adcBits := config.adcBits
  auxFlags := config.auxFlags
  vrefMv := config.vrefMv
  burstPeriodTicks := config.profile.burstPeriodTicks
  registerPairs := config.profile.registers.toList.map pairOf
  profileSha256 := config.profileSha256
  deviceConfigCrc32 := config.deviceConfigCrc32

variable (config : ConfigV2)

@[simp] theorem length_registerPairs :
    (hostConfig config).registerPairs.length = 10 := by
  simp [hostConfig]

/-- Both sides write the registers as the same bytes. -/
theorem pairBytes_hostConfig :
    (hostConfig config).pairBytes = config.profile.registerBytes := by
  simp only [AcquisitionConfigV2.pairBytes, hostConfig, List.flatMap_map]
  rfl

/-- Both sides hash the same canonical form. -/
theorem canonicalForm_hostConfig :
    (hostConfig config).canonicalForm = config.canonicalForm := by
  rw [AcquisitionConfigV2.canonicalForm, length_registerPairs,
    pairBytes_hostConfig]
  rfl

/-- Both sides write the same wire form. -/
theorem wireForm_hostConfig :
    (hostConfig config).wireForm = config.wireForm := by
  rw [AcquisitionConfigV2.wireForm, length_registerPairs,
    pairBytes_hostConfig]
  rfl

/-- The canonical form is short. -/
theorem length_canonicalForm : config.canonicalForm.length = 35 := by
  have pairs : config.profile.registers.toList.length = 10 :=
    config.profile.registers.toList_length
  simp only [ConfigV2.canonicalForm, Firmware.Profile.registerBytes,
    List.length_append, List.length_flatMap, List.length_cons,
    List.length_nil, length_writeU16, List.map_const', List.sum_replicate,
    pairs]
  rfl

/-- Both sides derive the same hash. -/
theorem sha256_canonicalForm :
    Firmware.sha256 config.canonicalForm =
      Sha256.digest (hostConfig config).canonicalForm := by
  rw [canonicalForm_hostConfig]
  apply Firmware.sha256_eq_digest
  rw [length_canonicalForm]
  decide

/-- The fields of the wire form before the registers. -/
def wirePrefix (config : ConfigV2) : List UInt8 :=
  writeU16 ConfigV2.schemaVersion ++
    writeU16 config.profile.sampleIntervalTicks ++
    writeU16 config.sampleCount ++ writeU16 config.pretriggerCount ++
    [config.adcBits, config.auxFlags] ++ writeU16 config.vrefMv ++
    writeU16 config.profile.burstPeriodTicks ++ [10, 0]

/-- The fields of the wire form behind the registers. -/
def wireSuffix (config : ConfigV2) : List UInt8 :=
  config.profileSha256.toList ++ writeU32 config.deviceConfigCrc32

/-- The registers stand between the other fields. -/
theorem wireForm_eq :
    config.wireForm =
      wirePrefix config ++
        ((config.profile.registers.toList.map pairOf).flatMap
          (fun pair => [pair.1, pair.2]) ++ wireSuffix config) := by
  have registers :
      (config.profile.registers.toList.map pairOf).flatMap
          (fun pair => [pair.1, pair.2]) =
        config.profile.registerBytes :=
    pairBytes_hostConfig config
  rw [registers]
  simp only [ConfigV2.wireForm, wirePrefix, wireSuffix, List.append_assoc]
  rfl

/-- The register pairs are read back from the wire form. -/
theorem wireForm_pairs :
    (List.range 10).map (fun index =>
        (byteAt config.wireForm (16 + 2 * index),
          byteAt config.wireForm (16 + 2 * index + 1))) =
      config.profile.registers.toList.map pairOf := by
  let pairs := config.profile.registers.toList.map pairOf
  have count : pairs.length = 10 := by simp [pairs]
  have behind (index : Nat) :
      byteAt config.wireForm (16 + index) =
        byteAt (pairs.flatMap (fun pair => [pair.1, pair.2]) ++
          wireSuffix config) index := by
    have length : (wirePrefix config).length = 16 := rfl
    rw [wireForm_eq, byteAt_append_right (by omega), length,
      Nat.add_sub_cancel_left]
  have written := map_byteAt_pairs pairs (wireSuffix config)
  rw [count] at written
  refine Eq.trans (List.map_congr_left fun index _ => ?_) written
  rw [Nat.add_assoc, behind, behind]

/-- The identifiers are read back from the wire form. -/
theorem wireForm_identity :
    slice config.wireForm 36 32 = config.profileSha256 ∧
      readU32 config.wireForm 68 = config.deviceConfigCrc32 := by
  have prefixLength : (wirePrefix config).length = 16 := rfl
  have registersLength :
      ((config.profile.registers.toList.map pairOf).flatMap
        (fun pair => [pair.1, pair.2])).length = 20 := by
    rw [List.flatMap_map, List.length_flatMap]
    show (config.profile.registers.toList.map fun _ => 2).sum = 20
    rw [List.map_const', config.profile.registers.toList_length]
    rfl
  constructor
  · rw [wireForm_eq, slice_append_right (by omega), prefixLength,
      slice_append_right (by omega), registersLength]
    exact slice_append_left config.profileSha256 _
  · rw [wireForm_eq, readU32_append_right (by omega), prefixLength,
      readU32_append_right (by omega), registersLength, wireSuffix,
      readU32_append_right (by simp)]
    simpa using readU32_writeU32 config.deviceConfigCrc32 []

/-- Reading the wire form returns the configuration. -/
theorem readWire_wireForm : ConfigV2.readWire config.wireForm = config := by
  obtain ⟨hash, crc⟩ := wireForm_identity config
  have pairs := wireForm_pairs config
  have registers :
      (List.range Firmware.registerCount).map (fun index =>
          Firmware.RegisterPair.mk (byteAt config.wireForm (16 + 2 * index))
            (byteAt config.wireForm (17 + 2 * index))) =
        config.profile.registers.toList := by
    have mapped :=
      congrArg (List.map fun pair : UInt8 × UInt8 =>
        Firmware.RegisterPair.mk pair.1 pair.2) pairs
    rw [List.map_map, List.map_map] at mapped
    refine Eq.trans (List.map_congr_left fun index _ => ?_)
      (mapped.trans (List.map_id _))
    have odd : 17 + 2 * index = 16 + 2 * index + 1 := by omega
    rw [odd]
    rfl
  have fixed (rest : List UInt8) :
      readU16 (wirePrefix config ++ rest) 2 =
          config.profile.sampleIntervalTicks ∧
        readU16 (wirePrefix config ++ rest) 4 = config.sampleCount ∧
        readU16 (wirePrefix config ++ rest) 6 = config.pretriggerCount ∧
        readU16 (wirePrefix config ++ rest) 10 = config.vrefMv ∧
        readU16 (wirePrefix config ++ rest) 12 =
          config.profile.burstPeriodTicks :=
    ⟨readU16_writeU16 _ [], readU16_writeU16 _ [], readU16_writeU16 _ [],
      readU16_writeU16 _ [], readU16_writeU16 _ []⟩
  obtain ⟨interval, count, pretrigger, vref, burst⟩ :=
    fixed ((config.profile.registers.toList.map pairOf).flatMap
      (fun pair => [pair.1, pair.2]) ++ wireSuffix config)
  rw [← wireForm_eq] at interval count pretrigger vref burst
  have profile :
      (ConfigV2.readWire config.wireForm).profile = config.profile := by
    have vector :
        (ConfigV2.readWire config.wireForm).profile.registers =
          config.profile.registers :=
      List.Vector.eq _ _ registers
    calc (ConfigV2.readWire config.wireForm).profile
      _ = ⟨readU16 config.wireForm 2, readU16 config.wireForm 12,
            (ConfigV2.readWire config.wireForm).profile.registers⟩ := rfl
      _ = config.profile := by rw [interval, burst, vector]
  calc ConfigV2.readWire config.wireForm
    _ = ⟨(ConfigV2.readWire config.wireForm).profile,
          readU16 config.wireForm 4, readU16 config.wireForm 6,
          config.adcBits, config.auxFlags, readU16 config.wireForm 10,
          slice config.wireForm 36 32, readU32 config.wireForm 68⟩ := rfl
    _ = config := by rw [profile, count, pretrigger, vref, hash, crc]

variable {config}

/-- The fields the wire form opens with. -/
theorem wireForm_opening (config : ConfigV2) :
    readU16 config.wireForm 0 = ConfigV2.schemaVersion ∧
      byteAt config.wireForm 14 = 10 ∧ byteAt config.wireForm 15 = 0 := by
  rw [wireForm_eq]
  exact ⟨readU16_writeU16 _ [], rfl, rfl⟩

/-- The firmware decodes a configuration that carries its identifiers. -/
theorem decode_wireForm
    (identified : config.Identified) :
    ConfigV2.decode config.wireForm = .ok config := by
  obtain ⟨schema, count, reserved⟩ := wireForm_opening config
  have opening :
      ¬(readU16 config.wireForm 0 ≠ ConfigV2.schemaVersion ∨
        byteAt config.wireForm 14 ≠ Firmware.registerCount.toUInt8 ∨
        byteAt config.wireForm 15 ≠ 0) := by
    simp only [not_or, not_not]
    exact ⟨schema, count, reserved⟩
  unfold ConfigV2.decode
  rw [if_neg (not_not.2 (ConfigV2.length_wireForm config)), if_neg opening]
  dsimp only
  rw [readWire_wireForm, ConfigV2.canonicalBytes?_of_valid identified.valid]
  dsimp only
  rw [if_neg (not_not.2 identified.hash), if_neg (not_not.2 identified.crc)]

/-- The host accepts the values of a valid configuration. -/
theorem validateValues_hostConfig
    (valid : config.validate = true) :
    (hostConfig config).validateValues = .ok () := by
  simp only [ConfigV2.validate, Bool.and_eq_true, decide_eq_true_eq,
    beq_iff_eq] at valid
  obtain ⟨⟨⟨⟨⟨count, pretrigger⟩, bits⟩, flags⟩, vref⟩, passed⟩ := valid
  have profile := Firmware.Profile.valid_of_validate passed
  have addresses :
      (hostConfig config).registerPairs.map Prod.fst =
        Firmware.Profile.registerAddresses := by
    rw [← profile.addresses]
    simp [hostConfig, pairOf, Function.comp_def]
  simp only [AcquisitionConfigV2.validateValues, bind_eq_ok, require_eq_ok]
  refine ⟨(), rfl, (), profile.interval, (), ?_, (), pretrigger, (), bits, (),
    flags, (), vref, (), profile.burst, (), ?_, ?_⟩
  · show 1 ≤ config.sampleCount ∧ config.sampleCount ≤ 2048
    rw [count]
    decide
  · rw [length_registerPairs]
  · rw [AcquisitionConfigV2.validatePairs_eq_ok, addresses]
    decide

/-- A configuration of the firmware is consistent for the host. -/
theorem consistent_hostConfig
    (identified : config.Identified) :
    (hostConfig config).Consistent where
  values := validateValues_hostConfig identified.valid
  hash := by
    rw [← sha256_canonicalForm, identified.hash]
    rfl
  crc := by
    rw [canonicalForm_hostConfig]
    exact identified.crc.symm

/-- The host decodes the configuration of the firmware. -/
theorem decode_hostConfig
    (identified : config.Identified) :
    AcquisitionConfigV2.decode config.wireForm = .ok (hostConfig config) := by
  obtain ⟨schema, count, reserved⟩ := wireForm_opening config
  have registerCount : (byteAt config.wireForm 14).toNat = 10 := by
    rw [count]
    rfl
  have length : config.wireForm.length = 72 := ConfigV2.length_wireForm config
  have fields :
      AcquisitionConfigV2.mk (readU16 config.wireForm 0)
          (readU16 config.wireForm 2) (readU16 config.wireForm 4)
          (readU16 config.wireForm 6) (byteAt config.wireForm 8)
          (byteAt config.wireForm 9) (readU16 config.wireForm 10)
          (readU16 config.wireForm 12)
          ((List.range 10).map fun index =>
            (byteAt config.wireForm (16 + 2 * index),
              byteAt config.wireForm (16 + 2 * index + 1)))
          (slice config.wireForm 36 32) (readU32 config.wireForm 68) =
        hostConfig config := by
    rw [schema, wireForm_pairs]
    calc _
      _ = { hostConfig (ConfigV2.readWire config.wireForm) with
            registerPairs := config.profile.registers.toList.map pairOf } :=
          rfl
      _ = hostConfig config := by rw [readWire_wireForm]; rfl
  have created := (consistent_hostConfig identified).create
  unfold AcquisitionConfigV2.decode
  refine bind_eq_ok.2 ⟨(), require_eq_ok.2 ?_, ?_⟩
  · rw [length]
    decide
  refine bind_eq_ok.2 ⟨(), require_eq_ok.2 reserved, ?_⟩
  rw [registerCount]
  refine bind_eq_ok.2 ⟨(), require_eq_ok.2 length, ?_⟩
  obtain ⟨hash, crc⟩ := wireForm_identity config
  refine bind_eq_ok.2 ⟨hostConfig config, ?_, ?_⟩
  · rw [← created]
    exact congrArg AcquisitionConfigV2.create fields
  · exact bind_eq_ok.2 ⟨(), require_eq_ok.2 ⟨hash.symm, crc.symm⟩, rfl⟩

/-- Pairs at the addresses of the profile differ in their values only. -/
theorem exists_values
    {pairs : List (UInt8 × UInt8)}
    (placed : pairs.map Prod.fst = Firmware.Profile.registerAddresses) :
    ∃ v0 v1 v2 v3 v4 v5 v6 v7 v8 v9,
      pairs =
        [(0x10, v0), (0x11, v1), (0x12, v2), (0x13, v3), (0x14, v4),
          (0x16, v5), (0x17, v6), (0x18, v7), (0x1A, v8), (0x1B, v9)] := by
  simp only [Firmware.Profile.registerAddresses, List.map_eq_cons_iff,
    List.map_eq_nil_iff] at placed
  obtain ⟨⟨_, v0⟩, _, rfl, rfl, ⟨_, v1⟩, _, rfl, rfl, ⟨_, v2⟩, _, rfl, rfl,
    ⟨_, v3⟩, _, rfl, rfl, ⟨_, v4⟩, _, rfl, rfl, ⟨_, v5⟩, _, rfl, rfl,
    ⟨_, v6⟩, _, rfl, rfl, ⟨_, v7⟩, _, rfl, rfl, ⟨_, v8⟩, _, rfl, rfl,
    ⟨_, v9⟩, _, rfl, rfl, rfl⟩ := placed
  exact ⟨v0, v1, v2, v3, v4, v5, v6, v7, v8, v9, rfl⟩

/-- The firmware configuration with the fields of a host configuration. -/
def firmwareConfig
    (config : AcquisitionConfigV2)
    (registers : List.Vector Firmware.RegisterPair Firmware.registerCount) :
    ConfigV2 where
  profile := {
    sampleIntervalTicks := config.sampleIntervalTicks
    burstPeriodTicks := config.burstPeriodTicks
    registers := registers
  }
  sampleCount := config.sampleCount
  pretriggerCount := config.pretriggerCount
  adcBits := config.adcBits
  auxFlags := config.auxFlags
  vrefMv := config.vrefMv
  profileSha256 := config.profileSha256
  deviceConfigCrc32 := config.deviceConfigCrc32

/-- The registers the safety policy passes are valid for the firmware. -/
theorem validate_firmwareConfig
    {config : AcquisitionConfigV2}
    (safe : config.Safe) :
    ∃ registers, (firmwareConfig config registers).profile.validate = .ok ∧
      registers.toList.map pairOf = config.registerPairs := by
  have values := safe.consistent.values
  have approved := safe.approved
  obtain ⟨v0, v1, v2, v3, v4, v5, v6, v7, v8, v9, pairs⟩ :=
    exists_values safe.addresses
  simp only [AcquisitionConfigV2.validateValues, bind_eq_ok,
    require_eq_ok] at values
  obtain ⟨-, -, -, interval, -, -, -, -, -, -, -, -, -, -, -, burst, -⟩ :=
    values
  simp only [AcquisitionConfigV2.validateBoostxlDirectAppliedConfig,
    bind_eq_ok, require_eq_ok, forM_eq_ok, AcquisitionConfigV2.requireMask,
    AcquisitionConfigV2.boostxlDirectWriteMasks, List.forall_mem_cons,
    AcquisitionConfigV2.register, pairs] at approved
  obtain ⟨-, -, -, reserved, -, -, -, -, -, continuous, -, driver, -, vout, -,
    current, -, voltage, -, -, stateful⟩ := approved
  obtain ⟨m0, m1, m2, m3, m4, m5, m6, m7, m8, m9, -⟩ := reserved
  refine ⟨⟨[⟨0x10, v0⟩, ⟨0x11, v1⟩, ⟨0x12, v2⟩, ⟨0x13, v3⟩, ⟨0x14, v4⟩,
    ⟨0x16, v5⟩, ⟨0x17, v6⟩, ⟨0x18, v7⟩, ⟨0x1A, v8⟩, ⟨0x1B, v9⟩], rfl⟩, ?_,
    pairs.symm⟩
  have faultless :
      Firmware.Profile.registerFault?
          [⟨0x10, v0⟩, ⟨0x11, v1⟩, ⟨0x12, v2⟩, ⟨0x13, v3⟩, ⟨0x14, v4⟩,
            ⟨0x16, v5⟩, ⟨0x17, v6⟩, ⟨0x18, v7⟩, ⟨0x1A, v8⟩, ⟨0x1B, v9⟩]
          Firmware.Profile.registerAddresses
          Firmware.Profile.registerMasks =
        none := by
    change v0 &&& ~~~0xFF = 0 at m0
    change v1 &&& ~~~0x3F = 0 at m1
    change v2 &&& ~~~0xFF = 0 at m2
    change v3 &&& ~~~0xC7 = 0 at m3
    change v4 &&& ~~~0x1F = 0 at m4
    change v5 &&& ~~~0x7F = 0 at m5
    change v6 &&& ~~~0x1F = 0 at m6
    change v7 &&& ~~~0xFF = 0 at m7
    change v8 &&& ~~~0xFF = 0 at m8
    change v9 &&& ~~~0xC3 = 0 at m9
    simp only [Firmware.Profile.registerFault?,
      Firmware.Profile.registerAddresses, Firmware.Profile.registerMasks,
      m0, m1, m2, m3, m4, m5, m6, m7, m8, m9, ne_eq, not_true_eq_false,
      if_false]
  have vdrv : v5 &&& (0x10 ||| 0x0F) = 0 := by
    have split :
        v5 &&& (0x10 ||| 0x0F) = (v5 &&& 0x10) ||| (v5 &&& 0x0F) :=
      UInt8.eq_of_toBitVec_eq BitVec.and_or_distrib_left
    rw [split, show v5 &&& 0x10 = 0 from current,
      show v5 &&& 0x0F = 0 from voltage]
    rfl
  exact Firmware.Profile.validate_eq_ok interval burst faultless continuous
    driver vout vdrv stateful

/-- Every safe configuration is one of the firmware. -/
theorem exists_firmwareConfig
    {config : AcquisitionConfigV2}
    (safe : config.Safe) :
    ∃ firmware : ConfigV2,
      firmware.Identified ∧ hostConfig firmware = config := by
  obtain ⟨registers, passed, pairs⟩ := validate_firmwareConfig safe
  have values := safe.consistent.values
  simp only [AcquisitionConfigV2.validateValues, bind_eq_ok,
    require_eq_ok] at values
  obtain ⟨-, schema, -, -, -, -, -, pretrigger, -, bits, -, flags, -, vref,
    -⟩ := values
  have same : hostConfig (firmwareConfig config registers) = config := by
    calc hostConfig (firmwareConfig config registers)
      _ = { config with
            profileSchemaVersion := ConfigV2.schemaVersion
            registerPairs := registers.toList.map pairOf } := rfl
      _ = config := by rw [pairs, ← show _ = ConfigV2.schemaVersion from schema]
  refine ⟨firmwareConfig config registers, ⟨?_, ?_, ?_⟩, same⟩
  · simp only [ConfigV2.validate, Bool.and_eq_true, decide_eq_true_eq,
      beq_iff_eq]
    exact ⟨⟨⟨⟨⟨safe.sampleCount, pretrigger⟩, bits⟩, flags⟩, vref⟩, passed⟩
  · rw [sha256_canonicalForm, same]
    exact safe.consistent.hash.symm
  · rw [← canonicalForm_hostConfig, same]
    exact safe.consistent.crc.symm

end Usac.Link
