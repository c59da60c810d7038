import Usac.Host.ApplyConfig
import Usac.Host.Parameters
import Mathlib.Data.Rat.Floor
import Mathlib.Data.List.Dedup
import Mathlib.Data.String.Basic

namespace Usac.Host.Parameters

open Library

/-!
# The parameter service

`parameter_service.py`: the draft of requested values, the ticks it derives
from requested rates, the register image it compiles, and the readback of an
applied configuration. A float is the exact value of a double, and what Python
computes with doubles is rounded to the nearest one.
-/

/-- `round` of a float: the nearest integer, the even one of two. -/
def roundEven (number : ℚ) : Int :=
  let below := number.floor
  if number - below < 1 / 2 then
    below
  else if 1 / 2 < number - below then
    below + 1
  else if below % 2 = 0 then
    below
  else
    below + 1

/-- A power of two. -/
def twoPow : Int → ℚ
  | .ofNat exponent => (2 ^ exponent : Nat)
  | .negSucc exponent => mkRat 1 (2 ^ (exponent + 1))

/-- The value of the last place of the double nearest to a number: it has 53
places, and none below the last of a subnormal. -/
def lastPlace (number : ℚ) : ℚ :=
  let guess : Int := (Nat.log2 number.num.natAbs : Int) - Nat.log2 number.den
  let exponent := if |number| < twoPow guess then guess - 1 else guess
  twoPow (max (exponent - 52) (-1074))

/-- The double nearest to a number. A number beyond the doubles raises. -/
def toDouble (text : String) (number : ℚ) : Except Raised ℚ := do
  let place := lastPlace number
  let rounded := roundEven (number / place) * place
  require (|rounded| < twoPow 1024) ⟨.overflowError, text⟩
  pure rounded

/-- `/` on integers. -/
def trueDivide (numerator denominator : Int) : Except Raised ℚ := do
  require (denominator ≠ 0) ⟨.arithmeticError, "division by zero"⟩
  toDouble "integer division result too large for a float"
    (numerator / denominator)

/-- How `int` and `float` read a text. -/
structure TextConversions where
  toInt : String → Except Raised Int
  toFloat : String → Except Raised ℚ

/-- The name of the type of a value. -/
def typeName : Value → String
  | .none => "NoneType"
  | .boolean _ => "bool"
  | .integer _ => "int"
  | .float _ => "float"
  | .text _ => "str"
  | .array _ => "list"
  | .object _ => "dict"

/-- `int` of a value. -/
def toInt (conversions : TextConversions) : Value → Except Raised Int
  | .boolean value => .ok (if value then 1 else 0)
  | .integer value => .ok value
  | .float value => .ok (value.num.tdiv value.den)
  | .text value => conversions.toInt value
  | value =>
      .error ⟨.typeError,
        "int() argument must be a string, a bytes-like object or a real number, not "
          ++ quoted (typeName value)⟩

/-- `float` of a value. -/
def toFloat (conversions : TextConversions) : Value → Except Raised ℚ
  | .boolean value => .ok (if value then 1 else 0)
  | .integer value => toDouble "int too large to convert to float" value
  | .float value => .ok value
  | .text value => conversions.toFloat value
  | value =>
      .error ⟨.typeError,
        "float() argument must be a string or a real number, not "
          ++ quoted (typeName value)⟩

/-- `bool` of a value. -/
def truth : Value → Bool
  | .none => false
  | .boolean value => value
  | .integer value => value ≠ 0
  | .float value => value ≠ 0
  | .text value => value ≠ ""
  | .array items => !items.isEmpty
  | .object members => !members.isEmpty

/-- `ConfigState`. -/
inductive ConfigState where
  | draft
  | validated
  | applied
  deriving Repr, DecidableEq

/-- The dictionary of requested values. -/
abbrev Requested := String → Option Value

/-- The entry of a dictionary. -/
def item (requested : Requested) (name : String) : Except Raised Value :=
  match requested name with
  | some value => .ok value
  | none => .error ⟨.keyError, quoted name⟩

/-- The dictionary with one entry set. -/
def assign (requested : Requested) (name : String) (value : Value) :
    Requested :=
  fun other => if other = name then some value else requested other

/-- The `actual` part of a snapshot. A validated one also names its image and
its identifiers. -/
structure ActualValues where
  sampleRateHz : ℚ
  recordMs : ℚ
  burstFrequencyHz : ℚ
  smclkHz : Int
  registerPairs : Option (List (UInt8 × UInt8))
  profileSha256 : Option (Bytes 32)
  deviceConfigCrc32 : Option UInt32

/-- The `readback` part of an applied snapshot. -/
structure Readback where
  registerPairs : List (UInt8 × UInt8)
  sampleIntervalTicks : Int
  burstPeriodTicks : Int
  fields : Requested
  hostOnlyFields : List String

/-- `ConfigurationSnapshot`. -/
structure ConfigurationSnapshot where
  state : ConfigState
  requested : Requested
  actual : ActualValues
  readback : Option Readback

/-- `ParameterService`. Its clock is positive, as its constructor checks. -/
structure ParameterService where
  schema : ParameterSchema
  smclkHz : Int
  conversions : TextConversions
  positive : 0 < smclkHz

/-- The value a field starts with. -/
def initialValue? (field : NonregisterField) : Option Value :=
  match field.kind with
  | .constant value => some value
  | _ => field.default?

/-- The values `new_draft` requests. -/
def initialRequested (schema : ParameterSchema) : Requested := fun name =>
  match (schema.nonregisterFields.lookup name).bind initialValue? with
  | some value => some value
  | none => (schema.registerFields.lookup name).map RegisterField.default

namespace ParameterService

variable (service : ParameterService)

/-- `int` of a requested value. -/
def requestedInt (requested : Requested) (name : String) :
    Except Raised Int := do
  let value ← item requested name
  toInt service.conversions value

/-- The checks of `_validate_datasheet_value` on a field outside the
registers. -/
def validateNonregister
    (name : String)
    (field : NonregisterField)
    (value : Value) :
    Except Raised Unit := do
  require (field.readOnly = false) (.valueError (name ++ " is read-only"))
  match field.kind with
  | .bool =>
      match value with
      | .boolean _ => pure ()
      | _ => .error (.valueError (name ++ " requires a boolean"))
  | .integer minimum maximum =>
      match value with
      | .integer number =>
          require (minimum ≤ number ∧ number ≤ maximum)
            (.valueError (name ++ " is outside its legal range"))
      | _ => .error (.valueError (name ++ " requires an integer"))
  | .number minimum maximum =>
      match value with
      | .integer number =>
          require (minimum ≤ number ∧ number ≤ maximum)
            (.valueError (name ++ " is outside its legal range"))
      | .float number =>
          require (minimum ≤ number ∧ number ≤ maximum)
            (.valueError (name ++ " is outside its legal range"))
      | _ => .error (.valueError (name ++ " requires a number"))
  | .enum values =>
      require (values.any fun known => known.equals value)
        (.valueError (name ++ " has an unknown enum value"))
  | .object =>
      match value with
      | .object _ => pure ()
      | _ => .error (.valueError (name ++ " requires an object"))
  | .constant _ => pure ()
  | .other _ => pure ()

/-- `_validate_datasheet_value`. -/
def validateDatasheetValue (name : String) (value : Value) :
    Except Raised Unit :=
  match service.schema.registerFields.lookup name with
  | some field => do
      let _ ← field.encode value
      pure ()
  | none =>
      match service.schema.nonregisterFields.lookup name with
      | some field => validateNonregister name field value
      | none => .error ⟨.keyError, quoted name⟩

/-- `_actual_values`. -/
def actualValues (requested : Requested) : Except Raised ActualValues := do
  let sampleTicks ← service.requestedInt requested "sample_interval_ticks"
  let burstTicks ← service.requestedInt requested "burst_period_ticks"
  let sampleCount ← service.requestedInt requested "sample_count"
  let sampleRate ← trueDivide service.smclkHz sampleTicks
  let record ← trueDivide (sampleCount * sampleTicks * 1000) service.smclkHz
  let burstFrequency ← trueDivide service.smclkHz burstTicks
  pure {
    sampleRateHz := sampleRate
    recordMs := record
    burstFrequencyHz := burstFrequency
    smclkHz := service.smclkHz
    registerPairs := none
    profileSha256 := none
    deviceConfigCrc32 := none
  }

/-- `_draft_snapshot`. -/
def draftSnapshot (requested : Requested) :
    Except Raised ConfigurationSnapshot := do
  let actual ← service.actualValues requested
  pure ⟨.draft, requested, actual, none⟩

/-- `new_draft`. -/
def newDraft : Except Raised ConfigurationSnapshot :=
  service.draftSnapshot (initialRequested service.schema)

/-- The names of the schema. -/
def Known (name : String) : Prop :=
  name ∈ service.schema.registerFields.map Prod.fst ∨
    name ∈ service.schema.nonregisterFields.map Prod.fst

instance (name : String) : Decidable (service.Known name) :=
  inferInstanceAs (Decidable (_ ∨ _))

/-- The names that are no parameters, sorted. -/
def unknownNames (names : List String) : List String :=
  (names.filter fun name => ¬service.Known name).dedup.mergeSort

/-- The inputs of the sampling rate. -/
def samplingInputs : List String :=
  ["requested_sample_rate_hz", "requested_record_ms", "sample_interval_ticks"]

/-- The inputs of the burst frequency. -/
def frequencyInputs : List String :=
  ["requested_burst_frequency_hz", "burst_period_ticks"]

/-- The loop over the changes in `update_draft`. -/
def applyChange (requested : Requested) (change : String × Value) :
    Except Raised Requested := do
  service.validateDatasheetValue change.1 change.2
  pure (assign requested change.1 change.2)

/-- The sample ticks a changed rate or record time asks for. -/
def deriveSampleTicks (names : List String) (requested : Requested) :
    Except Raised Requested :=
  if "requested_sample_rate_hz" ∈ names then do
    let rate ← service.requestedInt requested "requested_sample_rate_hz"
    let ticks ← trueDivide service.smclkHz rate
    pure (assign requested "sample_interval_ticks" (.integer (roundEven ticks)))
  else if "requested_record_ms" ∈ names then do
    let value ← item requested "requested_record_ms"
    let record ← toFloat service.conversions value
    let clock ← toDouble "int too large to convert to float" service.smclkHz
    -- An infinite product stays infinite until it is rounded, and raises there.
    let product ← toDouble "cannot convert float infinity to integer"
      (record * clock)
    let samples ← service.requestedInt requested "sample_count"
    let divisor ← toDouble "int too large to convert to float"
      (samples * 1000 : Int)
    require (divisor ≠ 0) ⟨.arithmeticError, "float division by zero"⟩
    let ticks ← toDouble "cannot convert float infinity to integer"
      (product / divisor)
    pure (assign requested "sample_interval_ticks" (.integer (roundEven ticks)))
  else
    pure requested

/-- The rate the ticks give, unless it was what changed. -/
def deriveSampleRate
    (names : List String)
    (ticks : Int)
    (requested : Requested) :
    Except Raised Requested :=
  if "requested_sample_rate_hz" ∈ names then
    pure requested
  else do
    let rate ← trueDivide service.smclkHz ticks
    pure (assign requested "requested_sample_rate_hz"
      (.integer (roundEven rate)))

/-- The record time the ticks give, unless it was what changed. -/
def deriveRecord
    (names : List String)
    (ticks : Int)
    (requested : Requested) :
    Except Raised Requested :=
  if "requested_record_ms" ∈ names then
    pure requested
  else do
    let samples ← service.requestedInt requested "sample_count"
    let record ← trueDivide (samples * ticks * 1000) service.smclkHz
    pure (assign requested "requested_record_ms" (.float record))

/-- The sampling part of `update_draft`. -/
def deriveSampling (names : List String) (requested : Requested) :
    Except Raised Requested := do
  let requested ← service.deriveSampleTicks names requested
  if samplingInputs.any (· ∈ names) then do
    let ticks ← service.requestedInt requested "sample_interval_ticks"
    service.validateDatasheetValue "sample_interval_ticks" (.integer ticks)
    let requested ← service.deriveSampleRate names ticks requested
    service.deriveRecord names ticks requested
  else
    pure requested

/-- The burst ticks a changed frequency asks for. -/
def deriveBurstTicks (names : List String) (requested : Requested) :
    Except Raised Requested :=
  if "requested_burst_frequency_hz" ∈ names then do
    let frequency ←
      service.requestedInt requested "requested_burst_frequency_hz"
    let ticks ← trueDivide service.smclkHz frequency
    pure (assign requested "burst_period_ticks" (.integer (roundEven ticks)))
  else
    pure requested

/-- The frequency the ticks give, unless it was what changed. -/
def deriveBurstFrequency
    (names : List String)
    (ticks : Int)
    (requested : Requested) :
    Except Raised Requested :=
  if "requested_burst_frequency_hz" ∈ names then
    pure requested
  else do
    let frequency ← trueDivide service.smclkHz ticks
    pure (assign requested "requested_burst_frequency_hz"
      (.integer (roundEven frequency)))

/-- The burst part of `update_draft`. -/
def deriveBurst (names : List String) (requested : Requested) :
    Except Raised Requested := do
  let requested ← service.deriveBurstTicks names requested
  if frequencyInputs.any (· ∈ names) then do
    let ticks ← service.requestedInt requested "burst_period_ticks"
    service.validateDatasheetValue "burst_period_ticks" (.integer ticks)
    service.deriveBurstFrequency names ticks requested
  else
    pure requested

/-- `update_draft`. -/
def updateDraft
    (snapshot : ConfigurationSnapshot)
    (changes : List (String × Value)) :
    Except Raised ConfigurationSnapshot := do
  let names := changes.map Prod.fst
  let unknown := service.unknownNames names
  require (unknown = [])
    (.valueError ("unknown parameter(s): " ++ ", ".intercalate unknown))
  require ((samplingInputs.filter (· ∈ names)).length ≤ 1)
    (.valueError
      "change only one sampling-rate, Record, or sample-tick input at a time")
  require ((frequencyInputs.filter (· ∈ names)).length ≤ 1)
    (.valueError "change only one frequency or burst-tick input at a time")
  let requested ← changes.foldlM service.applyChange snapshot.requested
  let requested ← service.deriveSampling names requested
  let requested ← service.deriveBurst names requested
  service.draftSnapshot requested

/-- What the host alone uses, and the device never reads back. -/
def hostOnlyFields : List String :=
  ["loops", "start_delay_ms", "loop_delay_ms", "sweep", "trigger_source",
    "sync_timeout_ms"]

/-- What `AcquisitionConfigV2.create` is called with, besides its constants. -/
structure ConfigArguments where
  sampleIntervalTicks : Int
  sampleCount : Int
  pretriggerCount : Int
  auxFlags : Int
  burstPeriodTicks : Int
  registerPairs : List (Int × Int)

/-- The loop over the register pairs in `_validate_values`. -/
def validatePairs (previousAddress : Int) :
    List (Int × Int) → Except Raised Unit
  | [] => .ok ()
  | (address, value) :: rest => do
      require (previousAddress < address)
        (.valueError "register addresses must be strictly increasing")
      require ((0 ≤ address ∧ address ≤ 0x3F) ∧ 0 ≤ value ∧ value ≤ 0xFF)
        (.valueError "register address or value is outside wire range")
      validatePairs address rest

/-- `_validate_values` on the integers of the arguments. The constants pass. -/
def validateArguments (arguments : ConfigArguments) : Except Raised Unit := do
  require (120 ≤ arguments.sampleIntervalTicks ∧
      arguments.sampleIntervalTicks ≤ 960)
    (.valueError "sample_interval_ticks must be in 120..960")
  require (1 ≤ arguments.sampleCount ∧ arguments.sampleCount ≤ 2048)
    (.valueError "sample_count must be in 1..2048")
  require (0 ≤ arguments.pretriggerCount ∧
      arguments.pretriggerCount < arguments.sampleCount)
    (.valueError "pretrigger_count must be less than sample_count")
  require (arguments.auxFlags.land (Int.lnot 0x03) = 0)
    (.valueError "aux_flags contains reserved bits")
  require (24 ≤ arguments.burstPeriodTicks ∧
      arguments.burstPeriodTicks ≤ 800)
    (.valueError "burst_period_ticks must be in 24..800")
  require (arguments.registerPairs.length ≤ 10)
    (.valueError "register_count must not exceed 10")
  validatePairs (-1) arguments.registerPairs

/-- The bytes of a pair that is in range. -/
def narrowPair (pair : Int × Int) : UInt8 × UInt8 :=
  (UInt8.ofNat pair.1.toNat, UInt8.ofNat pair.2.toNat)

/-- `AcquisitionConfigV2.create`: the values in range have the widths of the
wire. -/
def createConfig (arguments : ConfigArguments) :
    Except Raised AcquisitionConfigV2 := do
  validateArguments arguments
  AcquisitionConfigV2.create {
    profileSchemaVersion := AcquisitionConfigV2.currentSchemaVersion
    sampleIntervalTicks := UInt16.ofNat arguments.sampleIntervalTicks.toNat
    sampleCount := UInt16.ofNat arguments.sampleCount.toNat
    pretriggerCount := UInt16.ofNat arguments.pretriggerCount.toNat
    adcBits := 12
    auxFlags := UInt8.ofNat arguments.auxFlags.toNat
    vrefMv := 3300
    burstPeriodTicks := UInt16.ofNat arguments.burstPeriodTicks.toNat
    registerPairs := arguments.registerPairs.map narrowPair
    profileSha256 := Bytes.zero 32
    deviceConfigCrc32 := 0
  }

/-- The value of a register in an image. -/
def registerValue (image : List (Int × Int)) (address : Int) :
    Except Raised Int :=
  match image.lookup address with
  | some value => .ok value
  | none => .error ⟨.keyError, toString address⟩

/-- One turn of the loop over the register fields in `_compile`. -/
def placeField
    (requested : Requested)
    (registers : List (Int × Int))
    (entry : String × RegisterField) :
    Except Raised (List (Int × Int)) := do
  let value ← item requested entry.1
  let before ← registerValue registers entry.2.address
  let after ← service.schema.encodeField entry.1 value before
  pure (registers.map fun register =>
    if register.1 = entry.2.address then (register.1, after) else register)

/-- The register image of `_compile`. -/
def compileImage (requested : Requested) : Except Raised (List (Int × Int)) :=
  service.schema.registerFields.foldlM (service.placeField requested)
    (service.schema.registerWriteMasks.map fun entry => (entry.1, 0))

/-- The auxiliary flags of the two outputs. -/
def auxFlagsOf (out3 out4 : Bool) : Int :=
  (out3.toInt).lor (out4.toInt <<< 1)

/-- `_compile`. -/
def compile (requested : Requested) : Except Raised AcquisitionConfigV2 := do
  let registers ← service.compileImage requested
  let out3 ← item requested "out3_enabled"
  let out4 ← item requested "out4_enabled"
  let sampleIntervalTicks ←
    service.requestedInt requested "sample_interval_ticks"
  let sampleCount ← service.requestedInt requested "sample_count"
  let pretriggerCount ← service.requestedInt requested "pretrigger_count"
  let burstPeriodTicks ← service.requestedInt requested "burst_period_ticks"
  createConfig {
    sampleIntervalTicks, sampleCount, pretriggerCount,
    auxFlags := auxFlagsOf (truth out3) (truth out4),
    burstPeriodTicks, registerPairs := registers
  }

/-- The checks of `_safety_errors`: the field, whether its value fails, the
code and the message. -/
def safetyChecks : List (String × (Value → Bool) × String × String) :=
  [("BURST_PULSE", (·.equals (.integer 0)), "UNSAFE_CONFIG",
      "continuous Burst is prohibited"),
    ("PRE_DRIVER_MODE", (· = .boolean true), "UNSUPPORTED_HARDWARE_PROFILE",
      "pre-driver requires an external-driver hardware profile"),
    ("VOUT_SCALE_SEL", (·.equals (.text "5.0_v")), "UNSAFE_CONFIG",
      "5 V VOUT exceeds the 3.3 V ADC path"),
    ("VDRV_CURRENT_LEVEL", (·.equals (.text "20_ma")), "UNSAFE_CONFIG",
      "20 mA VDRV is not approved for this profile"),
    ("VDRV_VOLTAGE_LEVEL", (!·.equals (.integer 0)), "UNSAFE_CONFIG",
      "only internal 5 V VDRV is approved"),
    ("VDRV_HI_Z", (· = .boolean true), "UNSAFE_CONFIG",
      "stable APPLIED configuration must leave VDRV enabled"),
    ("CMD_TRIGGER", (· = .boolean true), "UNSAFE_CONFIG",
      "CMD_TRIGGER is state-machine controlled"),
    ("STDBY_MODE_EN", (· = .boolean true), "UNSAFE_CONFIG",
      "standby is a state transition, not a stable profile bit"),
    ("SLEEP_MODE_EN", (· = .boolean true), "UNSAFE_CONFIG",
      "sleep is a state transition, not a stable profile bit")]

/-- `_safety_errors`. -/
def safetyErrors (requested : Requested) :
    Except Raised (List FieldValidationError) := do
  let checked ← safetyChecks.mapM fun (field, fails, code, message) => do
    let value ← item requested field
    pure (if fails value then some ⟨field, code, message⟩ else none)
  pure (checked.filterMap id)

/-- `validate`. -/
def validate (snapshot : ConfigurationSnapshot) :
    Except Raised (ValidationResult ConfigurationSnapshot) := do
  let errors ← safetyErrors snapshot.requested
  if errors ≠ [] then
    pure ⟨{ snapshot with state := .draft }, errors, none⟩
  else do
    let compiled ← service.compile snapshot.requested
    compiled.validateBoostxlDirectAppliedConfig
    let actual ← service.actualValues snapshot.requested
    let identified := { actual with
      registerPairs := some compiled.registerPairs
      profileSha256 := some compiled.profileSha256
      deviceConfigCrc32 := some compiled.deviceConfigCrc32 }
    pure ⟨⟨.validated, snapshot.requested, identified, none⟩, [],
      some compiled⟩

/-- The registers of a configuration as integers. -/
def registerImage (config : AcquisitionConfigV2) : List (Int × Int) :=
  config.registerPairs.map fun pair => (pair.1.toNat, pair.2.toNat)

/-- The register fields of an image, decoded. -/
def decodeImage (image : List (Int × Int)) :
    Except Raised (List (String × Value)) :=
  service.schema.registerFields.mapM fun entry => do
    let value ← registerValue image entry.2.address
    let decoded ← service.schema.decodeField entry.1 value
    pure (entry.1, decoded)

/-- The readback of the fields outside the registers. -/
def nonregisterReadback
    (config : AcquisitionConfigV2)
    (frequency rate record : ℚ) :
    List (String × Value) :=
  [("requested_burst_frequency_hz", .integer (roundEven frequency)),
    ("burst_period_ticks", .integer config.burstPeriodTicks.toNat),
    ("requested_sample_rate_hz", .integer (roundEven rate)),
    ("requested_record_ms", .float record),
    ("sample_interval_ticks", .integer config.sampleIntervalTicks.toNat),
    ("sample_count", .integer config.sampleCount.toNat),
    ("pretrigger_count", .integer config.pretriggerCount.toNat),
    ("out3_enabled", .boolean (config.auxFlags &&& 0x01 ≠ 0)),
    ("out4_enabled", .boolean (config.auxFlags &&& 0x02 ≠ 0))]

/-- `mark_applied`. -/
def markApplied
    (snapshot : ConfigurationSnapshot)
    (configReadback : AcquisitionConfigV2) :
    Except Raised ConfigurationSnapshot := do
  require (snapshot.state = .validated)
    (.valueError "only a VALIDATED configuration can become APPLIED")
  let compiled ← service.compile snapshot.requested
  require (configReadback = compiled)
    (.valueError "configuration readback does not match the validated target")
  let decoded ← service.decodeImage (registerImage configReadback)
  let frequency ← trueDivide service.smclkHz
    configReadback.burstPeriodTicks.toNat
  let rate ← trueDivide service.smclkHz
    configReadback.sampleIntervalTicks.toNat
  let record ← trueDivide
    (configReadback.sampleCount.toNat *
      configReadback.sampleIntervalTicks.toNat * 1000)
    service.smclkHz
  let updates := nonregisterReadback configReadback frequency rate record
  pure { snapshot with
    state := .applied
    readback := some {
      registerPairs := configReadback.registerPairs
      sampleIntervalTicks := configReadback.sampleIntervalTicks.toNat
      burstPeriodTicks := configReadback.burstPeriodTicks.toNat
      fields := fun name => (updates.lookup name).or (decoded.lookup name)
      hostOnlyFields := hostOnlyFields
    } }

/-- The service of the core: the shipped registry on a clock of 24 MHz. -/
def tuss4470Service (conversions : TextConversions) : ParameterService where
  schema := tuss4470Parameters
  smclkHz := 24000000
  conversions := conversions
  positive := by decide

/-- Conversions that refuse every text. -/
def refusing : TextConversions where
  toInt text := .error (.valueError text)
  toFloat text := .error (.valueError text)

end ParameterService

end Usac.Host.Parameters
