import Usac.Firmware.Protocol
import Usac.Firmware.Sha256

namespace Usac.Firmware

open Library

/-!
# Register profiles and the configuration of the device

The TUSS4470 profile with its validation, and the configuration of
`usac_config_v2.c`: its canonical form, the two identifiers derived from it
and the wire form. A configuration that `decode` accepts is one whose
identifiers agree with its own canonical form.
-/

/-- `tuss4470_register_pair_t`. -/
structure RegisterPair where
  address : UInt8
  value : UInt8
  deriving Repr, DecidableEq

/-- `TUSS4470_PROFILE_REGISTER_COUNT`. -/
abbrev registerCount : Nat := 10

/-- A profile has a first register. -/
instance neZeroRegisterCount : @NeZero Nat Zero.ofOfNat0 registerCount :=
  Nat.instNeZeroSucc

/-- `tuss4470_profile_t`. -/
structure Profile where
  sampleIntervalTicks : UInt16
  burstPeriodTicks : UInt16
  registers : List.Vector RegisterPair registerCount
  deriving DecidableEq

/-- `tuss4470_profile_result_t`. -/
inductive ProfileResult where
  | ok
  | registerLayout
  | reservedBit
  | invalidTiming
  | continuousBurst
  | wrongDriver
  | voutRange
  | vdrvRange
  | statefulBit
  deriving Repr, DecidableEq

namespace Profile

def registerAddresses : List UInt8 :=
  [0x10, 0x11, 0x12, 0x13, 0x14, 0x16, 0x17, 0x18, 0x1A, 0x1B]

def registerMasks : List UInt8 :=
  [0xFF, 0x3F, 0xFF, 0xC7, 0x1F, 0x7F, 0x1F, 0xFF, 0xFF, 0xC3]

def d10x4Values : List UInt8 :=
  [0x2E, 0x00, 0x00, 0x00, 0x03, 0x40, 0x07, 0x14, 0x01, 0x02]

/-- `tuss4470_profile_init_d10x4`. -/
def initD10x4 : Profile where
  sampleIntervalTicks := 120
  burstPeriodTicks := 50
  registers := ⟨registerAddresses.zipWith RegisterPair.mk d10x4Values, rfl⟩

/-- The value of the register at an index. -/
def value (profile : Profile) (index : Fin registerCount) : UInt8 :=
  (profile.registers.get index).value

/-- The loop over the registers: the first one that is out of place or has a
reserved bit set. -/
def registerFault? :
    List RegisterPair → List UInt8 → List UInt8 → Option ProfileResult
  | pair :: pairs, address :: addresses, mask :: masks =>
      if pair.address ≠ address then
        some .registerLayout
      else if pair.value &&& ~~~mask ≠ 0 then
        some .reservedBit
      else
        registerFault? pairs addresses masks
  | _, _, _ => none

/-- `tuss4470_profile_validate`. -/
def validate (profile : Profile) : ProfileResult :=
  if profile.sampleIntervalTicks < 120 ∨ profile.sampleIntervalTicks > 960 ∨
      profile.burstPeriodTicks < 24 ∨ profile.burstPeriodTicks > 800 then
    .invalidTiming
  else
    match registerFault? profile.registers.toList
        registerAddresses registerMasks with
    | some fault => fault
    | none =>
        if profile.value 8 &&& 0x3F = 0 then
          .continuousBurst
        else if profile.value 8 &&& 0x40 ≠ 0 then
          .wrongDriver
        else if profile.value 3 &&& 0x04 ≠ 0 then
          .voutRange
        else if profile.value 5 &&& (0x10 ||| 0x0F) ≠ 0 then
          .vdrvRange
        else if profile.value 9 &&& (0x01 ||| 0x40 ||| 0x80) ≠ 0 then
          .statefulBit
        else
          .ok

/-- The address and value bytes of every register, in order. -/
def registerBytes (profile : Profile) : List UInt8 :=
  profile.registers.toList.flatMap fun pair => [pair.address, pair.value]

end Profile

/-- `usac_config_v2_t`. -/
structure ConfigV2 where
  profile : Profile
  sampleCount : UInt16
  pretriggerCount : UInt16
  adcBits : UInt8
  auxFlags : UInt8
  vrefMv : UInt16
  profileSha256 : Bytes 32
  deviceConfigCrc32 : UInt32
  deriving DecidableEq

/-- The failures of `usac_config_v2_result_t`. -/
inductive ConfigV2Error where
  | invalidLength
  | invalidValue
  | hashMismatch
  | crcMismatch
  | outputTooSmall
  deriving Repr, DecidableEq

namespace ConfigV2

/-- `USAC_CONFIG_V2_WIRE_LENGTH`. -/
def wireLength : Nat := 72

/-- `PROFILE_SCHEMA_VERSION`. -/
def schemaVersion : UInt16 := 2

/-- `validate`. -/
def validate (config : ConfigV2) : Bool :=
  config.sampleCount == 2048 &&
    decide (config.pretriggerCount < config.sampleCount) &&
    config.adcBits == 12 &&
    config.auxFlags &&& 0xFC == 0 &&
    config.vrefMv == 3300 &&
    config.profile.validate == .ok

/-- The canonical form of the semantic fields. -/
def canonicalForm (config : ConfigV2) : List UInt8 :=
  writeU16 schemaVersion ++ writeU16 config.profile.sampleIntervalTicks ++
    writeU16 config.sampleCount ++ writeU16 config.pretriggerCount ++
    [config.adcBits] ++ writeU16 config.vrefMv ++ [config.auxFlags] ++
    writeU16 config.profile.burstPeriodTicks ++ [registerCount.toUInt8] ++
    config.profile.registerBytes

/-- `canonical_bytes`, which has none for an invalid configuration. -/
def canonicalBytes? (config : ConfigV2) : Option (List UInt8) :=
  if config.validate then some config.canonicalForm else none

/-- `usac_config_v2_rehash`. -/
def rehash (config : ConfigV2) : ConfigV2 :=
  match config.canonicalBytes? with
  | some canonical =>
      { config with
        profileSha256 := sha256 canonical
        deviceConfigCrc32 := Mcu.crc32 canonical }
  | none => config

/-- `usac_config_v2_init_d10x4`. -/
def initD10x4 : ConfigV2 :=
  rehash {
    profile := Profile.initD10x4
    sampleCount := 2048
    pretriggerCount := 64
    adcBits := 12
    auxFlags := 0
    vrefMv := 3300
    profileSha256 := Bytes.zero 32
    deviceConfigCrc32 := 0
  }

/-- The wire form of a configuration and its identifiers. -/
def wireForm (config : ConfigV2) : List UInt8 :=
  writeU16 schemaVersion ++ writeU16 config.profile.sampleIntervalTicks ++
    writeU16 config.sampleCount ++ writeU16 config.pretriggerCount ++
    [config.adcBits, config.auxFlags] ++ writeU16 config.vrefMv ++
    writeU16 config.profile.burstPeriodTicks ++
    [registerCount.toUInt8, 0] ++ config.profile.registerBytes ++
    config.profileSha256.toList ++ writeU32 config.deviceConfigCrc32

/-- The length of every wire form. -/
@[simp] theorem length_wireForm (config : ConfigV2) :
    config.wireForm.length = wireLength := by
  have pairs : config.profile.registers.toList.length = 10 :=
    config.profile.registers.toList_length
  simp only [wireForm, Profile.registerBytes, List.length_append,
    List.length_flatMap, List.length_cons, List.length_nil, length_writeU16,
    length_writeU32, List.Vector.toList_length, List.map_const',
    List.sum_replicate, pairs]
  rfl

/-- `usac_config_v2_encode`. -/
def encode
    (config : ConfigV2)
    (capacity : Nat) :
    Except ConfigV2Error (List UInt8) :=
  if capacity < wireLength then
    .error .outputTooSmall
  else
    match config.canonicalBytes? with
    | none => .error .invalidValue
    | some canonical =>
        if sha256 canonical ≠ config.profileSha256 then
          .error .hashMismatch
        else if Mcu.crc32 canonical ≠ config.deviceConfigCrc32 then
          .error .crcMismatch
        else
          .ok config.wireForm

/-- What `encode` returns is the wire form. -/
theorem length_of_encode
    {config : ConfigV2}
    {capacity : Nat}
    {payload : List UInt8}
    (encoded : config.encode capacity = .ok payload) :
    payload.length = wireLength := by
  unfold encode at encoded
  split at encoded
  · simp at encoded
  · split at encoded
    · simp at encoded
    · split_ifs at encoded
      obtain rfl := Except.ok.inj encoded
      exact length_wireForm config

/-- The fields `decode` reads before it has checked them. -/
def readWire (wire : List UInt8) : ConfigV2 where
  profile := {
    sampleIntervalTicks := readU16 wire 2
    burstPeriodTicks := readU16 wire 12
    registers :=
      ⟨(List.range registerCount).map fun index =>
          ⟨byteAt wire (16 + 2 * index), byteAt wire (17 + 2 * index)⟩,
        by simp⟩
  }
  sampleCount := readU16 wire 4
  pretriggerCount := readU16 wire 6
  adcBits := byteAt wire 8
  auxFlags := byteAt wire 9
  vrefMv := readU16 wire 10
  profileSha256 := slice wire 36 32
  deviceConfigCrc32 := readU32 wire 68

/-- `usac_config_v2_decode`. -/
def decode (wire : List UInt8) : Except ConfigV2Error ConfigV2 :=
  if wire.length ≠ wireLength then
    .error .invalidLength
  else if readU16 wire 0 ≠ schemaVersion ∨
      byteAt wire 14 ≠ registerCount.toUInt8 ∨ byteAt wire 15 ≠ 0 then
    .error .invalidValue
  else
    let config := readWire wire
    match config.canonicalBytes? with
    | none => .error .invalidValue
    | some canonical =>
        if sha256 canonical ≠ config.profileSha256 then
          .error .hashMismatch
        else if Mcu.crc32 canonical ≠ config.deviceConfigCrc32 then
          .error .crcMismatch
        else
          .ok config

/-- The two identifiers by which commands name a configuration. -/
def identity (config : ConfigV2) : Bytes 32 × UInt32 :=
  (config.profileSha256, config.deviceConfigCrc32)

/-- The identifiers of a configuration agree with its canonical form. -/
structure Identified (config : ConfigV2) : Prop where
  valid : config.validate = true
  hash : sha256 config.canonicalForm = config.profileSha256
  crc : Mcu.crc32 config.canonicalForm = config.deviceConfigCrc32

/-- A valid configuration has a canonical form. -/
theorem canonicalBytes?_of_valid
    {config : ConfigV2}
    (valid : config.validate = true) :
    config.canonicalBytes? = some config.canonicalForm :=
  if_pos valid

/-- Hashing a valid configuration gives it its identifiers. -/
theorem rehash_identified
    {config : ConfigV2}
    (valid : config.validate = true) :
    config.rehash.Identified := by
  rw [rehash, canonicalBytes?_of_valid valid]
  exact ⟨valid, rfl, rfl⟩

/-- The default configuration carries its identifiers. -/
theorem initD10x4_identified : initD10x4.Identified := by
  unfold initD10x4
  exact rehash_identified rfl

/-- What `decode` accepts carries its identifiers. -/
theorem identified_of_decode
    {wire : List UInt8}
    {config : ConfigV2}
    (decoded : decode wire = .ok config) :
    config.Identified := by
  unfold decode at decoded
  dsimp only at decoded
  split_ifs at decoded
  by_cases valid : (readWire wire).validate = true
  · rw [canonicalBytes?_of_valid valid] at decoded
    dsimp only at decoded
    split_ifs at decoded with hash crc
    obtain rfl := Except.ok.inj decoded
    exact ⟨valid, not_not.1 hash, not_not.1 crc⟩
  · rw [canonicalBytes?, if_neg valid] at decoded
    cases decoded

/-- A configuration with its identifiers is encoded. -/
theorem Identified.encode
    {config : ConfigV2}
    (identified : config.Identified) :
    config.encode wireLength = .ok config.wireForm := by
  rw [ConfigV2.encode, if_neg (lt_irrefl _),
    canonicalBytes?_of_valid identified.valid]
  dsimp only
  rw [if_neg (not_not.2 identified.hash), if_neg (not_not.2 identified.crc)]

/-- What `encode` returns is the wire form of a configuration with its
identifiers. -/
theorem identified_of_encode
    {config : ConfigV2}
    {capacity : Nat}
    {payload : List UInt8}
    (encoded : config.encode capacity = .ok payload) :
    config.Identified ∧ config.wireForm = payload := by
  unfold encode at encoded
  split_ifs at encoded
  by_cases valid : config.validate = true
  · rw [canonicalBytes?_of_valid valid] at encoded
    dsimp only at encoded
    split_ifs at encoded with hash crc
    exact ⟨⟨valid, not_not.1 hash, not_not.1 crc⟩, Except.ok.inj encoded⟩
  · rw [canonicalBytes?, if_neg valid] at encoded
    cases encoded

end ConfigV2

namespace Profile

/-- Registers without a fault are in their places. -/
theorem addresses_of_registerFault?_eq_none
    {pairs : List RegisterPair}
    {addresses masks : List UInt8}
    (faultless : registerFault? pairs addresses masks = none)
    (complete : pairs.length = addresses.length)
    (masked : addresses.length = masks.length) :
    pairs.map RegisterPair.address = addresses := by
  induction pairs generalizing addresses masks with
  | nil =>
      exact (List.length_eq_zero_iff.1 complete.symm).symm
  | cons pair others inductionHypothesis =>
      cases addresses with
      | nil => cases complete
      | cons address addresses =>
          cases masks with
          | nil => cases masked
          | cons mask masks =>
              rw [registerFault?] at faultless
              split_ifs at faultless with place reserved
              rw [List.map_cons, not_not.1 place,
                inductionHypothesis faultless (Nat.succ.inj complete)
                  (Nat.succ.inj masked)]

/-- A fault of a register is no success. -/
theorem registerFault?_ne_ok
    (pairs : List RegisterPair)
    (addresses masks : List UInt8) :
    registerFault? pairs addresses masks ≠ some .ok := by
  fun_induction registerFault? pairs addresses masks with
  | case1 | case2 | case4 => simp
  | case3 _ _ _ _ _ _ _ _ inductionHypothesis => exact inductionHypothesis

/-- What a profile that passes validation satisfies. -/
structure Valid (profile : Profile) : Prop where
  interval :
    120 ≤ profile.sampleIntervalTicks ∧ profile.sampleIntervalTicks ≤ 960
  burst : 24 ≤ profile.burstPeriodTicks ∧ profile.burstPeriodTicks ≤ 800
  addresses :
    profile.registers.toList.map RegisterPair.address = registerAddresses

/-- Validation checks the timing and the places of the registers. -/
theorem valid_of_validate
    {profile : Profile}
    (passed : profile.validate = .ok) :
    profile.Valid := by
  unfold validate at passed
  by_cases timing :
      profile.sampleIntervalTicks < 120 ∨ profile.sampleIntervalTicks > 960 ∨
        profile.burstPeriodTicks < 24 ∨ profile.burstPeriodTicks > 800
  · rw [if_pos timing] at passed
    cases passed
  · rw [if_neg timing] at passed
    simp only [not_or, UInt16.not_lt] at timing
    cases faulty : registerFault? profile.registers.toList registerAddresses
        registerMasks with
    | some fault =>
        simp only [faulty] at passed
        exact absurd (passed ▸ faulty) (registerFault?_ne_ok _ _ _)
    | none =>
        exact ⟨⟨timing.1, timing.2.1⟩, timing.2.2,
          addresses_of_registerFault?_eq_none faulty (by simp; rfl) rfl⟩

/-- A profile that passes every check passes validation. -/
theorem validate_eq_ok
    {profile : Profile}
    (interval :
      120 ≤ profile.sampleIntervalTicks ∧ profile.sampleIntervalTicks ≤ 960)
    (burst : 24 ≤ profile.burstPeriodTicks ∧ profile.burstPeriodTicks ≤ 800)
    (faultless :
      registerFault? profile.registers.toList registerAddresses registerMasks =
        none)
    (finite : profile.value 8 &&& 0x3F ≠ 0)
    (driver : profile.value 8 &&& 0x40 = 0)
    (vout : profile.value 3 &&& 0x04 = 0)
    (vdrv : profile.value 5 &&& (0x10 ||| 0x0F) = 0)
    (stateless : profile.value 9 &&& (0x01 ||| 0x40 ||| 0x80) = 0) :
    profile.validate = .ok := by
  have timing :
      ¬(profile.sampleIntervalTicks < 120 ∨
        profile.sampleIntervalTicks > 960 ∨ profile.burstPeriodTicks < 24 ∨
        profile.burstPeriodTicks > 800) := by
    simp only [not_or, UInt16.not_lt]
    exact ⟨interval.1, interval.2, burst⟩
  unfold validate
  rw [if_neg timing, faultless]
  dsimp only
  rw [if_neg finite, if_neg (not_not.2 driver), if_neg (not_not.2 vout),
    if_neg (not_not.2 vdrv), if_neg (not_not.2 stateless)]

end Profile

end Usac.Firmware
