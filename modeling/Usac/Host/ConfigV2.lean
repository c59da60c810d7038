import Usac.Host.Frame
import Usac.Library.Sha256
import Mathlib.Data.List.Sort

namespace Usac.Host

open Library

/-!
# The configuration on the host

The acquisition configuration of `config_v2.py` with its two identifiers, and
the safety policy of `safety.py` for what may become APPLIED on the board.
-/

/-- `AcquisitionConfigV2`. -/
structure AcquisitionConfigV2 where
  profileSchemaVersion : UInt16
  sampleIntervalTicks : UInt16
  sampleCount : UInt16
  pretriggerCount : UInt16
  adcBits : UInt8
  auxFlags : UInt8
  vrefMv : UInt16
  burstPeriodTicks : UInt16
  registerPairs : List (UInt8 × UInt8)
  profileSha256 : Bytes 32
  deviceConfigCrc32 : UInt32
  deriving DecidableEq

namespace AcquisitionConfigV2

/-- `PROFILE_SCHEMA_VERSION`. -/
def currentSchemaVersion : UInt16 := 2

/-- The loop over the register pairs in `_validate_values`. -/
def validatePairs (previousAddress : Int) :
    List (UInt8 × UInt8) → Except Raised Unit
  | [] => .ok ()
  | (address, _) :: rest => do
      require (previousAddress < address.toNat)
        (.valueError "register addresses must be strictly increasing")
      require (address ≤ 0x3F)
        (.valueError "register address or value is outside wire range")
      validatePairs address.toNat rest

/-- `_validate_values`. -/
def validateValues (config : AcquisitionConfigV2) : Except Raised Unit := do
  require (config.profileSchemaVersion = currentSchemaVersion)
    (.valueError "profile_schema_version must be 2")
  require (120 ≤ config.sampleIntervalTicks ∧ config.sampleIntervalTicks ≤ 960)
    (.valueError "sample_interval_ticks must be in 120..960")
  require (1 ≤ config.sampleCount ∧ config.sampleCount ≤ 2048)
    (.valueError "sample_count must be in 1..2048")
  require (config.pretriggerCount < config.sampleCount)
    (.valueError "pretrigger_count must be less than sample_count")
  require (config.adcBits = 12) (.valueError "adc_bits must be 12")
  require (config.auxFlags &&& ~~~0x03 = 0)
    (.valueError "aux_flags contains reserved bits")
  require (config.vrefMv = 3300) (.valueError "vref_mv must be 3300")
  require (24 ≤ config.burstPeriodTicks ∧ config.burstPeriodTicks ≤ 800)
    (.valueError "burst_period_ticks must be in 24..800")
  require (config.registerPairs.length ≤ 10)
    (.valueError "register_count must not exceed 10")
  validatePairs (-1) config.registerPairs

/-- The bytes of the register pairs. -/
def pairBytes (config : AcquisitionConfigV2) : List UInt8 :=
  config.registerPairs.flatMap fun pair => [pair.1, pair.2]

/-- The bytes `canonical_profile_bytes` returns for valid values. -/
def canonicalForm (config : AcquisitionConfigV2) : List UInt8 :=
  writeU16 config.profileSchemaVersion ++ writeU16 config.sampleIntervalTicks ++
    writeU16 config.sampleCount ++ writeU16 config.pretriggerCount ++
    [config.adcBits] ++ writeU16 config.vrefMv ++ [config.auxFlags] ++
    writeU16 config.burstPeriodTicks ++
    [config.registerPairs.length.toUInt8] ++ config.pairBytes

/-- `canonical_profile_bytes`. -/
def canonicalProfileBytes (config : AcquisitionConfigV2) :
    Except Raised (List UInt8) := do
  config.validateValues
  pure config.canonicalForm

/-- `AcquisitionConfigV2.create`, for the fields of a configuration whose
identifiers are not set yet. -/
def create (fields : AcquisitionConfigV2) :
    Except Raised AcquisitionConfigV2 := do
  fields.validateValues
  let canonical ← fields.canonicalProfileBytes
  pure { fields with
    profileSha256 := Sha256.digest canonical
    deviceConfigCrc32 := Frame.crc32IsoHdlc canonical }

/-- The bytes `encode_config_v2` returns for a consistent configuration. -/
def wireForm (config : AcquisitionConfigV2) : List UInt8 :=
  writeU16 config.profileSchemaVersion ++ writeU16 config.sampleIntervalTicks ++
    writeU16 config.sampleCount ++ writeU16 config.pretriggerCount ++
    [config.adcBits, config.auxFlags] ++ writeU16 config.vrefMv ++
    writeU16 config.burstPeriodTicks ++
    [config.registerPairs.length.toUInt8, 0] ++ config.pairBytes ++
    config.profileSha256.toList ++ writeU32 config.deviceConfigCrc32

/-- `encode_config_v2`. -/
def encode (config : AcquisitionConfigV2) : Except Raised (List UInt8) := do
  let canonical ← config.canonicalProfileBytes
  require (config.profileSha256 = Sha256.digest canonical ∧
      config.deviceConfigCrc32 = Frame.crc32IsoHdlc canonical)
    (.valueError
      "configuration hash or CRC does not match canonical fields")
  pure config.wireForm

/-- The size of the fields before the register pairs. -/
def prefixSize : Nat := 16

/-- `decode_config_v2`. -/
def decode (data : List UInt8) : Except Raised AcquisitionConfigV2 := do
  require (prefixSize + 32 + 4 ≤ data.length)
    (.valueError "AcquisitionConfigV2 is truncated")
  require (byteAt data 15 = 0)
    (.valueError "AcquisitionConfigV2 reserved byte must be zero")
  let registerCount := (byteAt data 14).toNat
  require (data.length = prefixSize + 2 * registerCount + 32 + 4)
    (.valueError "AcquisitionConfigV2 length does not match register_count")
  let digestOffset := prefixSize + 2 * registerCount
  let suppliedHash : Bytes 32 := slice data digestOffset 32
  let suppliedCrc := readU32 data (digestOffset + 32)
  let config ← create {
    profileSchemaVersion := readU16 data 0
    sampleIntervalTicks := readU16 data 2
    sampleCount := readU16 data 4
    pretriggerCount := readU16 data 6
    adcBits := byteAt data 8
    auxFlags := byteAt data 9
    vrefMv := readU16 data 10
    burstPeriodTicks := readU16 data 12
    registerPairs := (List.range registerCount).map fun index =>
      (byteAt data (prefixSize + 2 * index),
        byteAt data (prefixSize + 2 * index + 1))
    profileSha256 := suppliedHash
    deviceConfigCrc32 := suppliedCrc
  }
  require (config.profileSha256 = suppliedHash ∧
      config.deviceConfigCrc32 = suppliedCrc)
    (.valueError "AcquisitionConfigV2 hash or CRC mismatch")
  pure config

/-- `BOOSTXL_DIRECT_WRITE_MASKS`. -/
def boostxlDirectWriteMasks : List (UInt8 × UInt8) :=
  [(0x10, 0xFF), (0x11, 0x3F), (0x12, 0xFF), (0x13, 0xC7), (0x14, 0x1F),
    (0x16, 0x7F), (0x17, 0x1F), (0x18, 0xFF), (0x1A, 0xFF), (0x1B, 0xC3)]

/-- The value of a register in the image of a configuration. -/
def register (config : AcquisitionConfigV2) (address : UInt8) : UInt8 :=
  (config.registerPairs.lookup address).getD 0

/-- The check of one register against the reserved bits of its address. -/
def requireMask
    (config : AcquisitionConfigV2)
    (allowed : UInt8 × UInt8) :
    Except Raised Unit :=
  require (config.register allowed.1 &&& ~~~allowed.2 = 0)
    (.valueError
      ("register 0x" ++ upperHex 2 allowed.1.toNat ++ " sets a reserved bit"))

/-- `validate_boostxl_direct_applied_config`. -/
def validateBoostxlDirectAppliedConfig (config : AcquisitionConfigV2) :
    Except Raised Unit := do
  require
    ((∀ pair ∈ config.registerPairs,
        pair.1 ∈ boostxlDirectWriteMasks.map Prod.fst) ∧
      ∀ allowed ∈ boostxlDirectWriteMasks,
        allowed.1 ∈ config.registerPairs.map Prod.fst)
    (.valueError "APPLIED config must contain the complete 10-register image")
  boostxlDirectWriteMasks.forM config.requireMask
  require (config.sampleCount = 2048)
    (.valueError "APPLIED config must capture exactly 2048 real samples")
  require (120 ≤ config.sampleIntervalTicks ∧ config.sampleIntervalTicks ≤ 960)
    (.valueError "sample_interval_ticks is outside the approved range")
  require (config.register 0x1A &&& 0x3F ≠ 0)
    (.valueError "continuous Burst cannot become APPLIED")
  require (config.register 0x1A &&& 0x40 = 0)
    (.valueError "pre-driver mode requires another hardware profile")
  require (config.register 0x13 &&& 0x04 = 0)
    (.valueError "5 V VOUT exceeds the approved 3.3 V ADC path")
  require (config.register 0x16 &&& 0x10 = 0)
    (.valueError "20 mA VDRV is outside the approved hardware profile")
  require (config.register 0x16 &&& 0x0F = 0)
    (.valueError "VDRV above 5 V is outside the approved hardware profile")
  require (config.register 0x16 &&& 0x20 = 0)
    (.valueError "external or Hi-Z VDRV requires another hardware profile")
  require (config.register 0x1B &&& (0x01 ||| 0x40 ||| 0x80) = 0)
    (.valueError
      "trigger, standby, or sleep bit cannot enter stable APPLIED config")

/-- The pairs pass when their addresses are in order and in range. -/
theorem validatePairs_eq_ok
    {previousAddress : Int}
    {pairs : List (UInt8 × UInt8)} :
    validatePairs previousAddress pairs = .ok () ↔
      (pairs.map Prod.fst).Pairwise (· < ·) ∧
        ∀ address ∈ pairs.map Prod.fst,
          previousAddress < address.toNat ∧ address ≤ 0x3F := by
  induction pairs generalizing previousAddress with
  | nil =>
      simp [validatePairs]
  | cons pair rest inductionHypothesis =>
      simp only [validatePairs, bind_eq_ok, require_eq_ok, List.map_cons,
        List.pairwise_cons, List.forall_mem_cons, inductionHypothesis,
        Int.ofNat_lt, ← UInt8.lt_iff_toNat_lt]
      constructor
      · rintro ⟨-, above, -, inRange, ordered, others⟩
        refine ⟨⟨fun address member => (others address member).1, ordered⟩,
          ⟨above, inRange⟩, fun address member => ⟨?_, (others _ member).2⟩⟩
        have later := UInt8.lt_iff_toNat_lt.1 (others address member).1
        omega
      · rintro ⟨⟨first, ordered⟩, ⟨above, inRange⟩, others⟩
        exact ⟨(), above, (), inRange, ordered, fun address member =>
          ⟨first address member, (others address member).2⟩⟩

/-- A configuration carries the identifiers of its canonical form. -/
structure Consistent (config : AcquisitionConfigV2) : Prop where
  values : config.validateValues = .ok ()
  hash : config.profileSha256 = Sha256.digest config.canonicalForm
  crc : config.deviceConfigCrc32 = Frame.crc32IsoHdlc config.canonicalForm

/-- Exactly the consistent configurations are encoded. -/
theorem encode_eq_ok
    {config : AcquisitionConfigV2}
    {bytes : List UInt8} :
    config.encode = .ok bytes ↔
      config.Consistent ∧ config.wireForm = bytes := by
  simp only [encode, canonicalProfileBytes, bind_eq_ok, require_eq_ok]
  constructor
  · rintro ⟨canonical, ⟨⟨⟩, values, same⟩, -, ⟨hash, crc⟩, wire⟩
    obtain rfl := Except.ok.inj same
    exact ⟨⟨values, hash, crc⟩, Except.ok.inj wire⟩
  · rintro ⟨consistent, rfl⟩
    exact ⟨_, ⟨(), consistent.values, rfl⟩, (),
      ⟨consistent.hash, consistent.crc⟩, rfl⟩

/-- Creating a consistent configuration again changes nothing. -/
theorem Consistent.create
    {config : AcquisitionConfigV2}
    (consistent : config.Consistent) :
    create config = .ok config := by
  have canonical :
      config.canonicalProfileBytes = .ok config.canonicalForm := by
    rw [canonicalProfileBytes, consistent.values]
    rfl
  rw [AcquisitionConfigV2.create, consistent.values, ok_bind, canonical,
    ok_bind, ← consistent.hash, ← consistent.crc]
  rfl

/-- A configuration that may be applied: consistent, and passed by the safety
policy. -/
structure Safe (config : AcquisitionConfigV2) : Prop where
  consistent : config.Consistent
  approved : config.validateBoostxlDirectAppliedConfig = .ok ()

/-- A safe configuration has the ten registers of the policy, in order. -/
theorem Safe.addresses
    {config : AcquisitionConfigV2}
    (safe : config.Safe) :
    config.registerPairs.map Prod.fst =
      boostxlDirectWriteMasks.map Prod.fst := by
  have values := safe.consistent.values
  simp only [validateValues, bind_eq_ok, require_eq_ok] at values
  obtain ⟨-, -, -, -, -, -, -, -, -, -, -, -, -, -, -, -, -, -, pairs⟩ := values
  obtain ⟨⟨⟩, complete, -⟩ := bind_eq_ok.1 safe.approved
  obtain ⟨known, present⟩ := require_eq_ok.1 complete
  have ordered := (validatePairs_eq_ok.1 pairs).1
  have policy :
      (boostxlDirectWriteMasks.map Prod.fst).Pairwise (· < ·) := by
    decide
  apply ordered.eq_of_mem_iff policy
  intro address
  constructor
  · intro member
    obtain ⟨pair, pairMember, rfl⟩ := List.mem_map.1 member
    exact known pair pairMember
  · intro member
    obtain ⟨allowed, allowedMember, rfl⟩ := List.mem_map.1 member
    exact present allowed allowedMember

/-- A safe configuration captures the whole waveform. -/
theorem Safe.sampleCount
    {config : AcquisitionConfigV2}
    (safe : config.Safe) :
    config.sampleCount = 2048 := by
  obtain ⟨⟨⟩, -, masked⟩ := bind_eq_ok.1 safe.approved
  obtain ⟨⟨⟩, -, counted⟩ := bind_eq_ok.1 masked
  obtain ⟨⟨⟩, count, -⟩ := bind_eq_ok.1 counted
  exact require_eq_ok.1 count

end AcquisitionConfigV2

end Usac.Host
