import Usac.Host.ParameterService

namespace Usac.Host.Parameters

open Library

/-!
# What a compiled configuration says about its draft

The image that is compiled from a draft decodes to what the draft requests,
field by field, and so does the readback of the applied configuration. The
three requests that are rounded to ticks are recomputed from the ticks.
-/

namespace ParameterService

variable (service : ParameterService)

/-- A configuration carries the arguments it was created with. -/
structure Carries
    (config : AcquisitionConfigV2)
    (arguments : ConfigArguments) :
    Prop where
  sampleIntervalTicks :
    (config.sampleIntervalTicks.toNat : Int) = arguments.sampleIntervalTicks
  sampleCount : (config.sampleCount.toNat : Int) = arguments.sampleCount
  pretriggerCount :
    (config.pretriggerCount.toNat : Int) = arguments.pretriggerCount
  auxFlags : config.auxFlags = UInt8.ofNat arguments.auxFlags.toNat
  burstPeriodTicks :
    (config.burstPeriodTicks.toNat : Int) = arguments.burstPeriodTicks
  registerPairs : registerImage config = arguments.registerPairs

/-- A count below the range of its width is kept. -/
theorem toNat_ofNat_toNat
    {count : Int}
    (bounds : 0 ≤ count ∧ count < 65536) :
    ((UInt16.ofNat count.toNat).toNat : Int) = count := by
  rw [UInt16.toNat_ofNat_of_lt' (by change count.toNat < 65536; omega)]
  omega

/-- Pairs that pass are kept. -/
theorem map_narrowPair
    {previousAddress : Int}
    {pairs : List (Int × Int)}
    (passed : validatePairs previousAddress pairs = .ok ()) :
    (pairs.map narrowPair).map
        (fun pair => ((pair.1.toNat : Int), (pair.2.toNat : Int))) =
      pairs := by
  induction pairs generalizing previousAddress with
  | nil =>
      rfl
  | cons pair rest inductionHypothesis =>
      obtain ⟨address, value⟩ := pair
      obtain ⟨⟨⟩, -, passed⟩ := bind_eq_ok.1 passed
      obtain ⟨⟨⟩, inRange, others⟩ := bind_eq_ok.1 passed
      obtain ⟨⟨_, _⟩, _, _⟩ := require_eq_ok.1 inRange
      have byteKept (byte : Int) (lower : 0 ≤ byte) (upper : byte ≤ 0xFF) :
          ((UInt8.ofNat byte.toNat).toNat : Int) = byte := by
        rw [UInt8.toNat_ofNat_of_lt' (by change byte.toNat < 256; omega)]
        omega
      rw [List.map_cons, List.map_cons, inductionHypothesis others, narrowPair,
        byteKept address (by omega) (by omega),
        byteKept value (by omega) (by omega)]

/-- What is created carries its arguments. -/
theorem carries_of_createConfig
    {arguments : ConfigArguments}
    {config : AcquisitionConfigV2}
    (created : createConfig arguments = .ok config) :
    Carries config arguments := by
  obtain ⟨⟨⟩, validated, created⟩ := bind_eq_ok.1 created
  simp only [validateArguments, bind_eq_ok, require_eq_ok] at validated
  obtain ⟨⟨⟩, interval, ⟨⟩, count, ⟨⟩, pretrigger, ⟨⟩, -, ⟨⟩, period, ⟨⟩, -,
    pairs⟩ := validated
  obtain ⟨⟨⟩, -, created⟩ := bind_eq_ok.1 created
  obtain ⟨canonical, -, created⟩ := bind_eq_ok.1 created
  obtain rfl := Except.ok.inj created
  exact {
    sampleIntervalTicks := toNat_ofNat_toNat (by omega)
    sampleCount := toNat_ofNat_toNat (by omega)
    pretriggerCount := toNat_ofNat_toNat (by omega)
    auxFlags := rfl
    burstPeriodTicks := toNat_ofNat_toNat (by omega)
    registerPairs := map_narrowPair pairs
  }

/-- The two outputs are read back from the auxiliary flags. -/
theorem auxFlags_bits (out3 out4 : Bool) :
    (decide (UInt8.ofNat (auxFlagsOf out3 out4).toNat &&& 0x01 ≠ 0) = out3) ∧
      decide (UInt8.ofNat (auxFlagsOf out3 out4).toNat &&& 0x02 ≠ 0) =
        out4 := by
  cases out3 <;> cases out4 <;> decide

/-- An image holds an entry: its register is there, and the name decodes to
what was requested. -/
def Holds
    (requested : Requested)
    (registers : List (Int × Int))
    (entry : String × RegisterField) :
    Prop :=
  ∃ value decoded registerValue,
    requested entry.1 = some value ∧
      registers.lookup entry.2.address = some registerValue ∧
      service.schema.decodeField entry.1 registerValue = .ok decoded ∧
      decoded.equals value = true

/-- An image stores an entry: the code of what was requested is in the field of
its register. -/
def Stores
    (requested : Requested)
    (registers : List (Int × Int))
    (entry : String × RegisterField) :
    Prop :=
  ∃ value code registerValue,
    requested entry.1 = some value ∧
      entry.2.encode value = .ok code ∧
      registers.lookup entry.2.address = some registerValue ∧
      Packing.unpack registerValue entry.2.mask entry.2.shift = code

/-- What a turn of the loop places. -/
theorem placeField_eq_ok
    {requested : Requested}
    {registers after : List (Int × Int)}
    {entry : String × RegisterField}
    (placed : service.placeField requested registers entry = .ok after) :
    ∃ value before packed,
      requested entry.1 = some value ∧
        registers.lookup entry.2.address = some before ∧
        service.schema.encodeField entry.1 value before = .ok packed ∧
        ∀ address, after.lookup address =
          (registers.lookup address).map
            (if address = entry.2.address then fun _ => packed else id) := by
  obtain ⟨value, found, placed⟩ := bind_eq_ok.1 placed
  obtain ⟨before, looked, placed⟩ := bind_eq_ok.1 placed
  obtain ⟨packed, encoded, placed⟩ := bind_eq_ok.1 placed
  obtain rfl := Except.ok.inj placed
  refine ⟨value, before, packed, ?_, ?_, encoded, ?_⟩
  · unfold item at found
    cases present : requested entry.1 with
    | none =>
        rw [present] at found
        cases found
    | some other =>
        rw [present] at found
        exact congrArg some (Except.ok.inj found)
  · unfold registerValue at looked
    cases present : registers.lookup entry.2.address with
    | none =>
        rw [present] at looked
        cases looked
    | some other =>
        rw [present] at looked
        exact congrArg some (Except.ok.inj looked)
  · intro address
    exact @ParameterSchema.lookup_map_entry registers entry.2.address address
      fun _ => packed

variable {service}

/-- What is stored is held. -/
theorem Stores.holds
    {requested : Requested}
    {registers : List (Int × Int)}
    {entry : String × RegisterField}
    (member : entry ∈ service.schema.registerFields)
    (distinct : entry.2.DistinctCodes)
    (stores : Stores requested registers entry) :
    service.Holds requested registers entry := by
  obtain ⟨value, code, registerValue, wanted, encoded, found, rfl⟩ := stores
  obtain ⟨decoded, decodes, same⟩ :=
    RegisterField.decode_encode distinct encoded
  refine ⟨value, decoded, registerValue, wanted, found, ?_, same⟩
  rw [ParameterSchema.decodeField_eq member]
  exact decodes

/-- A turn of the loop keeps what the image stores and places one entry
more. -/
theorem stores_placeField
    {combined : List (Int × Int)}
    (placed : ParameterSchema.Placed
      (service.schema.registerFields.map Prod.snd) combined)
    {requested : Requested}
    {registers after : List (Int × Int)}
    {entry : String × RegisterField}
    (member : entry ∈ service.schema.registerFields)
    (turned : service.placeField requested registers entry = .ok after) :
    Stores requested after entry ∧
      ∀ other ∈ service.schema.registerFields, other.1 ≠ entry.1 →
        Stores requested registers other →
        Stores requested after other := by
  obtain ⟨value, before, packed, wanted, found, encoded, written⟩ :=
    service.placeField_eq_ok turned
  obtain ⟨code, accepted, fits, rfl⟩ :=
    (ParameterSchema.encodeField_eq_ok member).1 encoded
  constructor
  · have aligned :=
      placed.aligned entry.2 (List.mem_map_of_mem member)
    refine ⟨value, code, Packing.pack before entry.2.mask entry.2.shift code,
      wanted, accepted, ?_, Packing.unpack_pack aligned fits⟩
    rw [written, found, if_pos rfl]
    rfl
  · intro other otherMember different stored
    obtain ⟨otherValue, otherCode, registerValue, otherWanted, otherAccepted,
      otherFound, unpacked⟩ := stored
    by_cases together : other.2.address = entry.2.address
    · rw [together, found] at otherFound
      obtain rfl := Option.some.inj otherFound
      refine ⟨otherValue, otherCode,
        Packing.pack before entry.2.mask entry.2.shift code, otherWanted,
        otherAccepted, ?_, ?_⟩
      · rw [written, together, found, if_pos rfl]
        rfl
      · rw [Packing.unpack_pack_of_disjoint
          (placed.disjoint member otherMember different together)]
        exact unpacked
    · refine ⟨otherValue, otherCode, registerValue, otherWanted,
        otherAccepted, ?_, unpacked⟩
      rw [written, otherFound, if_neg together]
      rfl

/-- The loop over the register fields leaves an image that stores all of
them. -/
theorem stores_foldlM
    {combined : List (Int × Int)}
    (placed : ParameterSchema.Placed
      (service.schema.registerFields.map Prod.snd) combined)
    {requested : Requested}
    {done rest : List (String × RegisterField)}
    (split : done ++ rest = service.schema.registerFields)
    {registers after : List (Int × Int)}
    (stored : ∀ entry ∈ done, Stores requested registers entry)
    (looped : rest.foldlM (service.placeField requested) registers =
      .ok after) :
    ∀ entry ∈ service.schema.registerFields,
      Stores requested after entry := by
  induction rest generalizing done registers with
  | nil =>
      obtain rfl := Except.ok.inj looped
      rw [List.append_nil] at split
      rwa [← split]
  | cons entry rest inductionHypothesis =>
      obtain ⟨between, turned, others⟩ := bind_eq_ok.1 looped
      have member : entry ∈ service.schema.registerFields := by
        rw [← split]
        exact List.mem_append_right _ List.mem_cons_self
      obtain ⟨here, kept⟩ := stores_placeField placed member turned
      have names := service.schema.fieldNames
      rw [← split, List.map_append, List.map_cons] at names
      have further : (done ++ [entry]) ++ rest =
          service.schema.registerFields := by
        rw [List.append_assoc]
        exact split
      apply inductionHypothesis further _ others
      intro other member
      rcases List.mem_append.1 member with earlier | last
      · apply kept other _ _ (stored other earlier)
        · rw [← split]
          exact List.mem_append_left _ earlier
        · exact (List.nodup_append.1 names).2.2 _
            (List.mem_map_of_mem earlier) _ List.mem_cons_self
      · obtain rfl := List.mem_singleton.1 last
        exact here

/-- What `_compile` makes of the requested values. -/
structure CompilesTo
    (service : ParameterService)
    (requested : Requested)
    (config : AcquisitionConfigV2) :
    Prop where
  image : service.compileImage requested = .ok (registerImage config)
  burstPeriodTicks :
    service.requestedInt requested "burst_period_ticks" =
      .ok config.burstPeriodTicks.toNat
  sampleIntervalTicks :
    service.requestedInt requested "sample_interval_ticks" =
      .ok config.sampleIntervalTicks.toNat
  sampleCount :
    service.requestedInt requested "sample_count" =
      .ok config.sampleCount.toNat
  pretriggerCount :
    service.requestedInt requested "pretrigger_count" =
      .ok config.pretriggerCount.toNat
  out3 : ∃ value, requested "out3_enabled" = some value ∧
    decide (config.auxFlags &&& 0x01 ≠ 0) = truth value
  out4 : ∃ value, requested "out4_enabled" = some value ∧
    decide (config.auxFlags &&& 0x02 ≠ 0) = truth value

/-- An item of a dictionary. -/
theorem item_eq_ok
    {requested : Requested}
    {name : String}
    {value : Value} :
    item requested name = .ok value ↔ requested name = some value := by
  unfold item
  cases requested name with
  | none => simp
  | some other => simp

/-- The fields of a compiled configuration. -/
theorem compilesTo_of_compile
    {requested : Requested}
    {config : AcquisitionConfigV2}
    (compiled : service.compile requested = .ok config) :
    CompilesTo service requested config := by
  obtain ⟨registers, image, compiled⟩ := bind_eq_ok.1 compiled
  obtain ⟨out3, wanted3, compiled⟩ := bind_eq_ok.1 compiled
  obtain ⟨out4, wanted4, compiled⟩ := bind_eq_ok.1 compiled
  obtain ⟨interval, sampled, compiled⟩ := bind_eq_ok.1 compiled
  obtain ⟨count, counted, compiled⟩ := bind_eq_ok.1 compiled
  obtain ⟨pretrigger, before, compiled⟩ := bind_eq_ok.1 compiled
  obtain ⟨period, burst, created⟩ := bind_eq_ok.1 compiled
  have carries := carries_of_createConfig created
  have outputs := auxFlags_bits (truth out3) (truth out4)
  rw [← carries.auxFlags] at outputs
  exact {
    image := by rw [image, carries.registerPairs]
    burstPeriodTicks := by rw [burst, carries.burstPeriodTicks]
    sampleIntervalTicks := by rw [sampled, carries.sampleIntervalTicks]
    sampleCount := by rw [counted, carries.sampleCount]
    pretriggerCount := by rw [before, carries.pretriggerCount]
    out3 := ⟨out3, item_eq_ok.1 wanted3, outputs.1⟩
    out4 := ⟨out4, item_eq_ok.1 wanted4, outputs.2⟩
  }

/-- The image of a compiled configuration stores every register field. -/
theorem stores_of_compile
    {combined : List (Int × Int)}
    (passed : service.schema.combinedMasks = .ok combined)
    {requested : Requested}
    {config : AcquisitionConfigV2}
    (compiled : service.compile requested = .ok config) :
    ∀ entry ∈ service.schema.registerFields,
      Stores requested (registerImage config) entry := by
  apply stores_foldlM (ParameterSchema.placed_of_combinedMasks passed)
    (List.nil_append _)
  · intro entry member
    cases member
  · exact (compilesTo_of_compile compiled).image

/-- The image of a compiled configuration holds every register field. -/
theorem holds_of_compile
    {combined : List (Int × Int)}
    (passed : service.schema.combinedMasks = .ok combined)
    (codes : ∀ entry ∈ service.schema.registerFields, entry.2.DistinctCodes)
    {requested : Requested}
    {config : AcquisitionConfigV2}
    (compiled : service.compile requested = .ok config) :
    ∀ entry ∈ service.schema.registerFields,
      service.Holds requested (registerImage config) entry := by
  intro entry member
  exact (stores_of_compile passed compiled entry member).holds member
    (codes entry member)

/-- The counts that are read back as they are. -/
def countNames : List String :=
  ["burst_period_ticks", "sample_interval_ticks", "sample_count",
    "pretrigger_count"]

/-- The outputs that are read back as they are. -/
def outputNames : List String :=
  ["out3_enabled", "out4_enabled"]

/-- The requests that are recomputed from the ticks. -/
def recomputedNames : List String :=
  ["requested_burst_frequency_hz", "requested_sample_rate_hz",
    "requested_record_ms"]

/-- A field outside the registers that only ever holds an integer. -/
def IsCount (schema : ParameterSchema) (name : String) : Prop :=
  ∃ field, schema.nonregisterFields.lookup name = some field ∧
    ((∃ minimum maximum start, field.kind = .integer minimum maximum ∧
        field.default? = some (.integer start)) ∨
      ∃ value, field.kind = .constant (.integer value) ∧
        field.readOnly = true)

/-- A field outside the registers that only ever holds a boolean. -/
def IsOutput (schema : ParameterSchema) (name : String) : Prop :=
  ∃ field start, schema.nonregisterFields.lookup name = some field ∧
    field.kind = .bool ∧ field.default? = some (.boolean start)

/-- The fields the service reads by name are declared as the shipped registry
declares them, and none of them is a register field. -/
structure Declared (schema : ParameterSchema) : Prop where
  counts : ∀ name ∈ countNames, IsCount schema name
  outputs : ∀ name ∈ outputNames, IsOutput schema name
  apart : ∀ name ∈ countNames ++ outputNames ++ recomputedNames,
    schema.registerFields.lookup name = none

/-- The counts and the outputs hold what they are declared to hold. -/
structure Typed (requested : Requested) : Prop where
  counts : ∀ name ∈ countNames, ∃ count,
    requested name = some (.integer count)
  outputs : ∀ name ∈ outputNames, ∃ output,
    requested name = some (.boolean output)

/-- Assigning a value of the declared type. -/
theorem Typed.assign
    {requested : Requested}
    (typed : Typed requested)
    {name : String}
    {value : Value}
    (count : name ∈ countNames → ∃ count, value = .integer count)
    (output : name ∈ outputNames → ∃ output, value = .boolean output) :
    Typed (Parameters.assign requested name value) := by
  constructor
  · intro other member
    unfold Parameters.assign
    by_cases same : other = name
    · subst same
      obtain ⟨number, rfl⟩ := count member
      exact ⟨number, if_pos rfl⟩
    · rw [if_neg same]
      exact typed.counts other member
  · intro other member
    unfold Parameters.assign
    by_cases same : other = name
    · subst same
      obtain ⟨flag, rfl⟩ := output member
      exact ⟨flag, if_pos rfl⟩
    · rw [if_neg same]
      exact typed.outputs other member

/-- The initial values are of the declared types. -/
theorem Declared.typed_initialRequested
    {schema : ParameterSchema}
    (declared : Declared schema) :
    Typed (initialRequested schema) := by
  constructor
  · intro name member
    obtain ⟨field, found, ⟨minimum, maximum, start, kind, first⟩ |
      ⟨value, kind, -⟩⟩ := declared.counts name member
    · refine ⟨start, ?_⟩
      simp [initialRequested, found, initialValue?, kind, first]
    · refine ⟨value, ?_⟩
      simp [initialRequested, found, initialValue?, kind]
  · intro name member
    obtain ⟨field, start, found, kind, first⟩ := declared.outputs name member
    refine ⟨start, ?_⟩
    simp [initialRequested, found, initialValue?, kind, first]

/-- A change that passes is of the declared type. -/
theorem Declared.typed_applyChange
    (declared : Declared service.schema)
    {requested after : Requested}
    {change : String × Value}
    (typed : Typed requested)
    (applied : service.applyChange requested change = .ok after) :
    Typed after := by
  obtain ⟨name, value⟩ := change
  obtain ⟨⟨⟩, validated, same⟩ := bind_eq_ok.1 applied
  obtain rfl := Except.ok.inj same
  unfold validateDatasheetValue at validated
  apply typed.assign
  · intro member
    have outside := declared.apart name (by simp [member])
    obtain ⟨field, found, ⟨minimum, maximum, start, kind, -⟩ |
      ⟨constant, -, readOnly⟩⟩ := declared.counts name member
    · simp only [outside, found, validateNonregister, kind] at validated
      obtain ⟨⟨⟩, -, checked⟩ := bind_eq_ok.1 validated
      cases value with
      | integer number => exact ⟨number, rfl⟩
      | _ => cases checked
    · simp only [outside, found, validateNonregister] at validated
      obtain ⟨⟨⟩, writable, -⟩ := bind_eq_ok.1 validated
      rw [require_eq_ok, readOnly] at writable
      cases writable
  · intro member
    have outside := declared.apart name (by simp [member])
    obtain ⟨field, start, found, kind, -⟩ := declared.outputs name member
    simp only [outside, found, validateNonregister, kind] at validated
    obtain ⟨⟨⟩, -, checked⟩ := bind_eq_ok.1 validated
    cases value with
    | boolean flag => exact ⟨flag, rfl⟩
    | _ => cases checked

/-- Assigning an integer to a field that is no output. -/
theorem Typed.assign_integer
    {requested : Requested}
    (typed : Typed requested)
    {name : String}
    (other : name ∉ outputNames)
    (number : Int) :
    Typed (Parameters.assign requested name (.integer number)) :=
  typed.assign (fun _ => ⟨number, rfl⟩) fun member => absurd member other

/-- The derived sample ticks are an integer. -/
theorem Typed.deriveSampleTicks
    {requested after : Requested}
    (typed : Typed requested)
    {names : List String}
    (derived : service.deriveSampleTicks names requested = .ok after) :
    Typed after := by
  unfold ParameterService.deriveSampleTicks at derived
  split at derived
  · obtain ⟨rate, -, derived⟩ := bind_eq_ok.1 derived
    obtain ⟨ticks, -, derived⟩ := bind_eq_ok.1 derived
    obtain rfl := Except.ok.inj derived
    exact typed.assign_integer (by decide) _
  · split at derived
    · simp only [bind_eq_ok] at derived
      obtain ⟨_, -, _, -, _, -, _, -, _, -, _, -, ⟨⟩, -, ticks, -, same⟩ :=
        derived
      obtain rfl := Except.ok.inj same
      exact typed.assign_integer (by decide) _
    · obtain rfl := Except.ok.inj derived
      exact typed

/-- The sampling part of an update keeps the declared types. -/
theorem Typed.deriveSampling
    {requested after : Requested}
    (typed : Typed requested)
    {names : List String}
    (derived : service.deriveSampling names requested = .ok after) :
    Typed after := by
  obtain ⟨ticked, first, derived⟩ := bind_eq_ok.1 derived
  have typedTicks := typed.deriveSampleTicks first
  split at derived
  · obtain ⟨ticks, -, derived⟩ := bind_eq_ok.1 derived
    obtain ⟨⟨⟩, -, derived⟩ := bind_eq_ok.1 derived
    obtain ⟨rated, rate, record⟩ := bind_eq_ok.1 derived
    have typedRate : Typed rated := by
      unfold deriveSampleRate at rate
      split at rate
      · obtain rfl := Except.ok.inj rate
        exact typedTicks
      · obtain ⟨_, -, same⟩ := bind_eq_ok.1 rate
        obtain rfl := Except.ok.inj same
        exact typedTicks.assign_integer (by decide) _
    unfold deriveRecord at record
    split at record
    · obtain rfl := Except.ok.inj record
      exact typedRate
    · obtain ⟨_, -, record⟩ := bind_eq_ok.1 record
      obtain ⟨_, -, same⟩ := bind_eq_ok.1 record
      obtain rfl := Except.ok.inj same
      exact typedRate.assign (fun member => absurd member (by decide))
        fun member => absurd member (by decide)
  · obtain rfl := Except.ok.inj derived
    exact typedTicks

/-- The burst part of an update keeps the declared types. -/
theorem Typed.deriveBurst
    {requested after : Requested}
    (typed : Typed requested)
    {names : List String}
    (derived : service.deriveBurst names requested = .ok after) :
    Typed after := by
  obtain ⟨ticked, first, derived⟩ := bind_eq_ok.1 derived
  have typedTicks : Typed ticked := by
    unfold deriveBurstTicks at first
    split at first
    · obtain ⟨_, -, first⟩ := bind_eq_ok.1 first
      obtain ⟨_, -, same⟩ := bind_eq_ok.1 first
      obtain rfl := Except.ok.inj same
      exact typed.assign_integer (by decide) _
    · obtain rfl := Except.ok.inj first
      exact typed
  split at derived
  · obtain ⟨ticks, -, derived⟩ := bind_eq_ok.1 derived
    obtain ⟨⟨⟩, -, frequency⟩ := bind_eq_ok.1 derived
    unfold deriveBurstFrequency at frequency
    split at frequency
    · obtain rfl := Except.ok.inj frequency
      exact typedTicks
    · obtain ⟨_, -, same⟩ := bind_eq_ok.1 frequency
      obtain rfl := Except.ok.inj same
      exact typedTicks.assign_integer (by decide) _
  · obtain rfl := Except.ok.inj derived
    exact typedTicks

/-- The changes of an update keep the declared types. -/
theorem Declared.typed_foldlM
    (declared : Declared service.schema)
    {requested after : Requested}
    {changes : List (String × Value)}
    (typed : Typed requested)
    (applied : changes.foldlM service.applyChange requested = .ok after) :
    Typed after := by
  induction changes generalizing requested with
  | nil =>
      obtain rfl := Except.ok.inj applied
      exact typed
  | cons change rest inductionHypothesis =>
      obtain ⟨between, first, others⟩ := bind_eq_ok.1 applied
      exact inductionHypothesis (declared.typed_applyChange typed first) others

/-- The snapshots of a service, from a new draft on. -/
inductive Reachable (service : ParameterService) :
    ConfigurationSnapshot → Prop where
  | newDraft {draft : ConfigurationSnapshot}
      (created : service.newDraft = .ok draft) :
      Reachable service draft
  | updateDraft {snapshot draft : ConfigurationSnapshot}
      {changes : List (String × Value)}
      (before : Reachable service snapshot)
      (updated : service.updateDraft snapshot changes = .ok draft) :
      Reachable service draft
  | validate {snapshot : ConfigurationSnapshot}
      {result : ValidationResult ConfigurationSnapshot}
      (before : Reachable service snapshot)
      (validated : service.validate snapshot = .ok result) :
      Reachable service result.snapshot
  | markApplied {snapshot applied : ConfigurationSnapshot}
      {configReadback : AcquisitionConfigV2}
      (before : Reachable service snapshot)
      (marked : service.markApplied snapshot configReadback = .ok applied) :
      Reachable service applied

/-- What holds of a snapshot: the declared types, and behind a validated one a
configuration it is compiled to and its actual values. -/
structure Sound (service : ParameterService)
    (snapshot : ConfigurationSnapshot) : Prop where
  typed : Declared service.schema → Typed snapshot.requested
  validated : snapshot.state = .validated →
    (∃ config, service.compile snapshot.requested = .ok config) ∧
      ∃ actual, service.actualValues snapshot.requested = .ok actual

/-- A draft that is made of typed values is sound. -/
theorem sound_draftSnapshot
    {requested : Requested}
    {draft : ConfigurationSnapshot}
    (typed : Declared service.schema → Typed requested)
    (drafted : service.draftSnapshot requested = .ok draft) :
    Sound service draft := by
  obtain ⟨actual, -, same⟩ := bind_eq_ok.1 drafted
  obtain rfl := Except.ok.inj same
  refine ⟨typed, ?_⟩
  intro state
  cases state

/-- Validation keeps the requested values. -/
theorem Sound.validate
    {snapshot : ConfigurationSnapshot}
    {result : ValidationResult ConfigurationSnapshot}
    (sound : Sound service snapshot)
    (validated : service.validate snapshot = .ok result) :
    Sound service result.snapshot := by
  obtain ⟨errors, -, validated⟩ := bind_eq_ok.1 validated
  split at validated
  · obtain rfl := Except.ok.inj validated
    refine ⟨sound.typed, ?_⟩
    intro state
    cases state
  · obtain ⟨config, compiled, validated⟩ := bind_eq_ok.1 validated
    obtain ⟨⟨⟩, -, validated⟩ := bind_eq_ok.1 validated
    obtain ⟨actual, actualValues, validated⟩ := bind_eq_ok.1 validated
    obtain rfl := Except.ok.inj validated
    exact ⟨sound.typed, fun _ => ⟨⟨config, compiled⟩, actual, actualValues⟩⟩

/-- Every snapshot of a service is sound. -/
theorem Reachable.sound
    {snapshot : ConfigurationSnapshot}
    (reachable : Reachable service snapshot) :
    Sound service snapshot := by
  induction reachable with
  | newDraft created =>
      exact sound_draftSnapshot (fun declared =>
        declared.typed_initialRequested) created
  | updateDraft before updated inductionHypothesis =>
      obtain ⟨⟨⟩, -, updated⟩ := bind_eq_ok.1 updated
      obtain ⟨⟨⟩, -, updated⟩ := bind_eq_ok.1 updated
      obtain ⟨⟨⟩, -, updated⟩ := bind_eq_ok.1 updated
      obtain ⟨changed, changes, updated⟩ := bind_eq_ok.1 updated
      obtain ⟨sampled, sampling, updated⟩ := bind_eq_ok.1 updated
      obtain ⟨bursted, burst, drafted⟩ := bind_eq_ok.1 updated
      apply sound_draftSnapshot _ drafted
      intro declared
      have typed := declared.typed_foldlM (inductionHypothesis.typed declared)
        changes
      exact (typed.deriveSampling sampling).deriveBurst burst
  | validate before validated inductionHypothesis =>
      exact inductionHypothesis.validate validated
  | markApplied before marked inductionHypothesis =>
      simp only [ParameterService.markApplied, bind_eq_ok] at marked
      obtain ⟨⟨⟩, -, _, -, ⟨⟩, -, _, -, _, -, _, -, _, -, same⟩ := marked
      obtain rfl := Except.ok.inj same
      refine ⟨inductionHypothesis.typed, ?_⟩
      intro state
      cases state

/-- An item of a register image. -/
theorem registerValue_eq_ok
    {image : List (Int × Int)}
    {address value : Int} :
    registerValue image address = .ok value ↔
      image.lookup address = some value := by
  unfold registerValue
  cases image.lookup address with
  | none => simp
  | some other => simp

/-- The entry of a register field in the decoded image. -/
def DecodesTo
    (service : ParameterService)
    (image : List (Int × Int))
    (entry : String × RegisterField)
    (decoded : String × Value) :
    Prop :=
  decoded.1 = entry.1 ∧ ∃ value,
    image.lookup entry.2.address = some value ∧
      service.schema.decodeField entry.1 value = .ok decoded.2

/-- The decoded image has one entry for each register field. -/
theorem decodeImage_eq_ok
    {image : List (Int × Int)}
    {decoded : List (String × Value)} :
    service.decodeImage image = .ok decoded ↔
      List.Forall₂ (service.DecodesTo image) service.schema.registerFields
        decoded := by
  rw [decodeImage, mapM_eq_ok]
  apply Iff.of_eq
  congr 1
  funext entry result
  apply propext
  constructor
  · intro turned
    obtain ⟨value, found, turned⟩ := bind_eq_ok.1 turned
    obtain ⟨_, decodes, same⟩ := bind_eq_ok.1 turned
    obtain rfl := Except.ok.inj same
    exact ⟨rfl, value, registerValue_eq_ok.1 found, decodes⟩
  · rintro ⟨same, value, found, decodes⟩
    obtain ⟨name, decodedValue⟩ := result
    obtain rfl := same
    exact bind_eq_ok.2 ⟨value, registerValue_eq_ok.2 found,
      bind_eq_ok.2 ⟨_, decodes, rfl⟩⟩

/-- An image that holds every register field is decoded. -/
theorem exists_decodeImage
    {requested : Requested}
    {image : List (Int × Int)}
    (holds : ∀ entry ∈ service.schema.registerFields,
      service.Holds requested image entry) :
    ∃ decoded, service.decodeImage image = .ok decoded := by
  simp only [decodeImage_eq_ok]
  generalize service.schema.registerFields = entries at holds
  induction entries with
  | nil =>
      exact ⟨[], .nil⟩
  | cons entry rest inductionHypothesis =>
      obtain ⟨first, others⟩ := List.forall_mem_cons.1 holds
      obtain ⟨decoded, tail⟩ := inductionHypothesis others
      obtain ⟨_, value, registerValue, -, found, decodes, -⟩ := first
      exact ⟨(entry.1, value) :: decoded,
        .cons ⟨rfl, registerValue, found, decodes⟩ tail⟩

/-- Looking up a name in the decoded image. -/
theorem lookup_of_decodesTo
    {image : List (Int × Int)}
    {entries : List (String × RegisterField)}
    {decoded : List (String × Value)}
    (names : (entries.map Prod.fst).Nodup)
    (decodes : List.Forall₂ (service.DecodesTo image) entries decoded)
    {entry : String × RegisterField}
    (member : entry ∈ entries) :
    ∃ value registerValue, decoded.lookup entry.1 = some value ∧
      image.lookup entry.2.address = some registerValue ∧
      service.schema.decodeField entry.1 registerValue = .ok value := by
  induction decodes with
  | nil =>
      cases member
  | @cons head headDecoded rest restDecoded first others inductionHypothesis =>
      obtain ⟨sameName, registerValue, found, decodes⟩ := first
      obtain ⟨fresh, names⟩ := List.nodup_cons.1 names
      rcases List.mem_cons.1 member with rfl | later
      · refine ⟨_, registerValue, ?_, found, decodes⟩
        rw [← sameName]
        exact List.lookup_cons_self
      · obtain ⟨value, otherValue, present, otherFound, otherDecodes⟩ :=
          inductionHypothesis names later
        refine ⟨value, otherValue, ?_, otherFound, otherDecodes⟩
        have different : (entry.1 == headDecoded.1) = false := by
          rw [sameName]
          apply beq_eq_false_iff_ne.2
          intro same
          exact fresh (same ▸ List.mem_map_of_mem later)
        rw [List.lookup_cons, different]
        exact present

/-- The readback of an applied configuration agrees with what was requested:
the register fields, the counts and the outputs as they were, and the rates
recomputed from the ticks. -/
structure AsRequested
    (service : ParameterService)
    (requested : Requested)
    (fields : Requested) :
    Prop where
  registers : ∀ entry ∈ service.schema.registerFields, ∃ value decoded,
    requested entry.1 = some value ∧ fields entry.1 = some decoded ∧
      decoded.equals value = true
  counts : ∀ name ∈ countNames, ∃ count,
    requested name = some (.integer count) ∧
      fields name = some (.integer count)
  outputs : ∀ name ∈ outputNames, ∃ output,
    requested name = some (.boolean output) ∧
      fields name = some (.boolean output)
  frequency : ∃ ticks ratio,
    requested "burst_period_ticks" = some (.integer ticks) ∧
      trueDivide service.smclkHz ticks = .ok ratio ∧
      fields "requested_burst_frequency_hz" =
        some (.integer (roundEven ratio))
  rate : ∃ ticks ratio,
    requested "sample_interval_ticks" = some (.integer ticks) ∧
      trueDivide service.smclkHz ticks = .ok ratio ∧
      fields "requested_sample_rate_hz" = some (.integer (roundEven ratio))
  record : ∃ ticks count ratio,
    requested "sample_interval_ticks" = some (.integer ticks) ∧
      requested "sample_count" = some (.integer count) ∧
      trueDivide (count * ticks * 1000) service.smclkHz = .ok ratio ∧
      fields "requested_record_ms" = some (.float ratio)

/-- The integer of a typed count is the value itself. -/
theorem Typed.eq_integer
    {requested : Requested}
    (typed : Typed requested)
    {name : String}
    (member : name ∈ countNames)
    {count : Int}
    (read : service.requestedInt requested name = .ok count) :
    requested name = some (.integer count) := by
  obtain ⟨number, wanted⟩ := typed.counts name member
  obtain ⟨value, found, converted⟩ := bind_eq_ok.1 read
  rw [item_eq_ok, wanted] at found
  obtain rfl := Option.some.inj found
  obtain rfl := Except.ok.inj converted
  exact wanted

/-- The boolean of a typed output is the value itself. -/
theorem Typed.eq_boolean
    {requested : Requested}
    (typed : Typed requested)
    {name : String}
    (member : name ∈ outputNames)
    {flag : Bool}
    (read : ∃ value, requested name = some value ∧ flag = truth value) :
    ∃ output, requested name = some (.boolean output) ∧
      some (Value.boolean flag) = some (.boolean output) := by
  obtain ⟨output, wanted⟩ := typed.outputs name member
  obtain ⟨value, found, rfl⟩ := read
  rw [wanted] at found
  obtain rfl := Option.some.inj found
  exact ⟨output, wanted, rfl⟩

/-- A register field has none of the names the service reads. -/
theorem Declared.notMem_of_registerField
    {schema : ParameterSchema}
    (declared : Declared schema)
    {entry : String × RegisterField}
    (member : entry ∈ schema.registerFields) :
    entry.1 ∉ countNames ++ outputNames ++ recomputedNames := by
  intro reserved
  have absent := declared.apart entry.1 reserved
  rw [(ParameterSchema.lookup_eq_some_iff_mem schema.fieldNames).2 member]
    at absent
  cases absent

/-- The readback outside the registers has no other names. -/
theorem lookup_nonregisterReadback
    (config : AcquisitionConfigV2)
    (frequency rate record : ℚ)
    {name : String}
    (other : name ∉ countNames ++ outputNames ++ recomputedNames) :
    (nonregisterReadback config frequency rate record).lookup name = none := by
  rw [List.lookup_eq_none_iff]
  intro pair member
  apply bne_iff_ne.2
  rintro rfl
  apply other
  have named :
      pair.1 ∈ (nonregisterReadback config frequency rate record).map
        Prod.fst :=
    List.mem_map_of_mem member
  have listed :
      ∀ name ∈ (nonregisterReadback config frequency rate record).map
        Prod.fst, name ∈ countNames ++ outputNames ++ recomputedNames := by
    change ∀ name ∈ ["requested_burst_frequency_hz", "burst_period_ticks",
      "requested_sample_rate_hz", "requested_record_ms",
      "sample_interval_ticks", "sample_count", "pretrigger_count",
      "out3_enabled", "out4_enabled"], _
    decide
  exact listed _ named

/-- Applying a validated snapshot of a service succeeds with the configuration
it is compiled to. -/
theorem Sound.exists_markApplied
    {snapshot : ConfigurationSnapshot}
    (sound : Sound service snapshot)
    {combined : List (Int × Int)}
    (passed : service.schema.combinedMasks = .ok combined)
    (codes : ∀ entry ∈ service.schema.registerFields, entry.2.DistinctCodes)
    (state : snapshot.state = .validated) :
    ∃ config applied, service.compile snapshot.requested = .ok config ∧
      service.markApplied snapshot config = .ok applied := by
  obtain ⟨⟨config, compiled⟩, actual, values⟩ := sound.validated state
  have fields := compilesTo_of_compile compiled
  obtain ⟨decoded, decodes⟩ :=
    exists_decodeImage (holds_of_compile passed codes compiled)
  simp only [actualValues, fields.sampleIntervalTicks,
    fields.burstPeriodTicks, fields.sampleCount, ok_bind] at values
  obtain ⟨rate, rated, values⟩ := bind_eq_ok.1 values
  obtain ⟨record, recorded, values⟩ := bind_eq_ok.1 values
  obtain ⟨frequency, burst, -⟩ := bind_eq_ok.1 values
  have marked : ∃ applied,
      service.markApplied snapshot config = .ok applied := by
    simp only [markApplied, bind_eq_ok, require_eq_ok]
    exact ⟨_, (), state, config, compiled, (), rfl, decoded, decodes,
      frequency, burst, rate, rated, record, recorded, rfl⟩
  obtain ⟨applied, marked⟩ := marked
  exact ⟨config, applied, compiled, marked⟩

/-- The readback of an applied snapshot is what was requested. -/
theorem Sound.asRequested
    {snapshot applied : ConfigurationSnapshot}
    (sound : Sound service snapshot)
    {combined : List (Int × Int)}
    (passed : service.schema.combinedMasks = .ok combined)
    (codes : ∀ entry ∈ service.schema.registerFields, entry.2.DistinctCodes)
    (declared : Declared service.schema)
    {configReadback : AcquisitionConfigV2}
    (marked : service.markApplied snapshot configReadback = .ok applied) :
    ∃ readback, applied.readback = some readback ∧
      AsRequested service snapshot.requested readback.fields := by
  have typed := sound.typed declared
  simp only [markApplied, bind_eq_ok] at marked
  obtain ⟨⟨⟩, -, config, compiled, ⟨⟩, checked, decoded, decodes, frequency,
    burst, rate, rated, record, recorded, same⟩ := marked
  obtain rfl := require_eq_ok.1 checked
  obtain rfl := Except.ok.inj same
  have fields := compilesTo_of_compile compiled
  have period := typed.eq_integer (by decide) fields.burstPeriodTicks
  have interval := typed.eq_integer (by decide) fields.sampleIntervalTicks
  have count := typed.eq_integer (by decide) fields.sampleCount
  have pretrigger := typed.eq_integer (by decide) fields.pretriggerCount
  refine ⟨_, rfl, ?_, ?_, ?_, ?_, ?_, ?_⟩
  · intro entry member
    obtain ⟨value, registerValue, present, found, decodesTo⟩ :=
      lookup_of_decodesTo service.schema.fieldNames
        (decodeImage_eq_ok.1 decodes) member
    obtain ⟨requested, other, otherValue, wanted, otherFound, otherDecodes,
      equal⟩ := holds_of_compile passed codes compiled entry member
    rw [found] at otherFound
    obtain rfl := Option.some.inj otherFound
    rw [decodesTo] at otherDecodes
    obtain rfl := Except.ok.inj otherDecodes
    refine ⟨requested, value, wanted, ?_, equal⟩
    have outside := lookup_nonregisterReadback configReadback frequency rate
      record (declared.notMem_of_registerField member)
    rw [← present]
    exact congrArg (Option.or · (decoded.lookup entry.1)) outside
  · intro name member
    simp only [countNames, List.mem_cons, List.not_mem_nil, or_false] at member
    rcases member with rfl | rfl | rfl | rfl
    · exact ⟨_, period, rfl⟩
    · exact ⟨_, interval, rfl⟩
    · exact ⟨_, count, rfl⟩
    · exact ⟨_, pretrigger, rfl⟩
  · intro name member
    simp only [outputNames, List.mem_cons, List.not_mem_nil, or_false] at member
    rcases member with rfl | rfl
    · exact typed.eq_boolean (by decide) fields.out3
    · exact typed.eq_boolean (by decide) fields.out4
  · exact ⟨_, _, period, burst, rfl⟩
  · exact ⟨_, _, interval, rated, rfl⟩
  · exact ⟨_, _, _, interval, count, recorded, rfl⟩

/-- For a schema that passes `combined_masks` and whose codes are distinct and
fit their masks, every value a field encodes is decoded again, and nothing else
in the register changes. Every image compiled from a snapshot of a service
decodes to what the snapshot requests. A validated snapshot can be applied, and
the readback is what it requests, but for the three requests that are
recomputed from the ticks. -/
theorem registry_faithful
    {schema : ParameterSchema}
    {combined : List (Int × Int)}
    (passed : schema.combinedMasks = .ok combined)
    (codes : ∀ entry ∈ schema.registerFields, entry.2.DistinctCodes)
    (fits : ∀ entry ∈ schema.registerFields, entry.2.RangeFits) :
    (∀ name field, (name, field) ∈ schema.registerFields →
      ∀ value code registerValue, field.encode value = .ok code →
        ∃ result decoded,
          schema.encodeField name value registerValue = .ok result ∧
            schema.decodeField name result = .ok decoded ∧
            decoded.equals value = true ∧
            (∀ other otherField,
              (other, otherField) ∈ schema.registerFields → other ≠ name →
              otherField.address = field.address →
              schema.decodeField other result =
                schema.decodeField other registerValue) ∧
            result.land field.mask.lnot =
              registerValue.land field.mask.lnot) ∧
      ∀ service : ParameterService, service.schema = schema →
        ∀ snapshot, Reachable service snapshot →
          (∀ config, service.compile snapshot.requested = .ok config →
            ∀ entry ∈ schema.registerFields,
              service.Holds snapshot.requested (registerImage config)
                entry) ∧
          (snapshot.state = .validated →
            ∃ config applied,
              service.compile snapshot.requested = .ok config ∧
                service.markApplied snapshot config = .ok applied) ∧
          (Declared schema →
            ∀ configReadback applied,
              service.markApplied snapshot configReadback = .ok applied →
              ∃ readback, applied.readback = some readback ∧
                AsRequested service snapshot.requested readback.fields) := by
  have placed := ParameterSchema.placed_of_combinedMasks passed
  constructor
  · intro name field member value code registerValue accepted
    obtain ⟨result, encoded⟩ := ParameterSchema.exists_encodeField member
      (fits _ member) accepted registerValue
    obtain ⟨decoded, decodes, equal⟩ :=
      placed.decodeField_encodeField member (codes _ member) encoded
    refine ⟨result, decoded, encoded, decodes, equal, ?_, ?_⟩
    · intro other otherField otherMember different sameAddress
      exact placed.decodeField_other member otherMember different sameAddress
        encoded
    · exact ParameterSchema.land_lnot_encodeField member encoded
  · rintro service rfl snapshot reachable
    have sound := reachable.sound
    refine ⟨?_, ?_, ?_⟩
    · intro config compiled
      exact holds_of_compile passed codes compiled
    · exact sound.exists_markApplied passed codes
    · intro declared configReadback applied marked
      exact sound.asRequested passed codes declared marked

/-- The shipped registry declares what the service reads by name. -/
theorem declared_tuss4470Parameters : Declared tuss4470Parameters := by
  constructor
  · intro name member
    simp only [countNames, List.mem_cons, List.not_mem_nil, or_false] at member
    rcases member with rfl | rfl | rfl | rfl
    · exact ⟨_, rfl, Or.inl ⟨24, 800, 50, rfl, rfl⟩⟩
    · exact ⟨_, rfl, Or.inl ⟨120, 960, 120, rfl, rfl⟩⟩
    · exact ⟨_, rfl, Or.inr ⟨2048, rfl, rfl⟩⟩
    · exact ⟨_, rfl, Or.inl ⟨0, 2047, 64, rfl, rfl⟩⟩
  · intro name member
    simp only [outputNames, List.mem_cons, List.not_mem_nil, or_false] at member
    rcases member with rfl | rfl
    · exact ⟨_, false, rfl, rfl, rfl⟩
    · exact ⟨_, false, rfl, rfl, rfl⟩
  · decide +kernel

/-- Sixteen pulses fit beside the two modes of their register, and what a
snapshot of the core requests is read back. -/
theorem registry_faithful_tuss4470 :
    (∃ result decoded,
      tuss4470Parameters.encodeField "BURST_PULSE" (.integer 16) 0xC0 =
          .ok result ∧
        tuss4470Parameters.decodeField "BURST_PULSE" result = .ok decoded ∧
        decoded.equals (.integer 16) = true ∧
        tuss4470Parameters.decodeField "HALF_BRG_MODE" result =
          tuss4470Parameters.decodeField "HALF_BRG_MODE" 0xC0) ∧
      ∀ snapshot, Reachable (tuss4470Service refusing) snapshot →
        ∀ configReadback applied,
          (tuss4470Service refusing).markApplied snapshot configReadback =
            .ok applied →
          ∃ readback, applied.readback = some readback ∧
            AsRequested (tuss4470Service refusing) snapshot.requested
              readback.fields := by
  obtain ⟨packing, services⟩ :=
    registry_faithful combinedMasks_tuss4470Parameters
      distinctCodes_tuss4470Parameters rangeFits_tuss4470Parameters
  constructor
  · have member (name : String) (field : RegisterField)
        (found : tuss4470Parameters.registerFields.lookup name =
          some field) :
        (name, field) ∈ tuss4470Parameters.registerFields :=
      (ParameterSchema.lookup_eq_some_iff_mem
        tuss4470Parameters.fieldNames).1 found
    obtain ⟨result, decoded, encoded, decodes, equal, others, -⟩ :=
      packing "BURST_PULSE" _ (member _ _ rfl) (.integer 16) 16 0xC0
        (by decide +kernel)
    exact ⟨result, decoded, encoded, decodes, equal,
      others "HALF_BRG_MODE" _ (member _ _ rfl) (by decide) rfl⟩
  · intro snapshot reachable
    exact (services _ rfl snapshot reachable).2.2 declared_tuss4470Parameters

/-- A new draft with one change, validated and marked as applied: what it
requests under a name, and what it reads back. -/
def appliedWith
    (service : ParameterService)
    (change : String × Value)
    (name : String) :
    Except Raised (Option Value × Option Value) := do
  let draft ← service.newDraft
  let updated ← service.updateDraft draft [change]
  let result ← service.validate updated
  match result.compiled with
  | none => .error (.valueError "refused")
  | some config => do
      let applied ← service.markApplied result.snapshot config
      pure (result.snapshot.requested name,
        applied.readback.bind (·.fields name))

/-- The snapshot that is applied is a reachable one. -/
theorem reachable_of_appliedWith
    {service : ParameterService}
    {change : String × Value}
    {name : String}
    {wanted read : Value}
    (run : appliedWith service change name = .ok (some wanted, some read)) :
    ∃ snapshot configReadback applied readback,
      Reachable service snapshot ∧
        service.markApplied snapshot configReadback = .ok applied ∧
        applied.readback = some readback ∧
        snapshot.requested name = some wanted ∧
        readback.fields name = some read := by
  obtain ⟨draft, created, run⟩ := bind_eq_ok.1 run
  obtain ⟨updated, update, run⟩ := bind_eq_ok.1 run
  obtain ⟨result, validated, run⟩ := bind_eq_ok.1 run
  cases compiled : result.compiled with
  | none =>
      rw [compiled] at run
      cases run
  | some config =>
      rw [compiled] at run
      obtain ⟨applied, marked, run⟩ := bind_eq_ok.1 run
      obtain ⟨requested, fields⟩ := Prod.mk.inj (Except.ok.inj run)
      obtain ⟨readback, present, same⟩ := Option.bind_eq_some_iff.1 fields
      exact ⟨result.snapshot, config, applied, readback,
        ((Reachable.newDraft created).updateDraft update).validate validated,
        marked, present, requested, same⟩

/-- The frequency that was requested is rounded to ticks, and the readback is
the frequency of the ticks. -/
theorem readback_roundedFrequency :
    ∃ snapshot configReadback applied readback,
      Reachable (tuss4470Service refusing) snapshot ∧
        (tuss4470Service refusing).markApplied snapshot configReadback =
          .ok applied ∧
        applied.readback = some readback ∧
        snapshot.requested "requested_burst_frequency_hz" =
          some (.integer 479400) ∧
        readback.fields "requested_burst_frequency_hz" =
          some (.integer 480000) :=
  @reachable_of_appliedWith _
    ("requested_burst_frequency_hz", .integer 479400) _ _ _
    (by decide +kernel)

/-- The shipped registry, but with a number for the first output. -/
def numberedOutput : ParameterSchema where
  registerFields := tuss4470Parameters.registerFields
  nonregisterFields :=
    tuss4470Parameters.nonregisterFields.map fun entry =>
      if entry.1 = "out3_enabled" then
        (entry.1, ⟨.integer 0 9, some (.integer 0), false, true⟩)
      else
        entry
  registerWriteMasks := tuss4470Parameters.registerWriteMasks
  fieldNames := tuss4470Parameters.fieldNames
  nonregisterNames := by decide
  addresses := tuss4470Parameters.addresses

/-- The service of a registry that passes every check of its registers and
declares the first output as a number reads the number back as a boolean. -/
theorem readback_numberedOutput :
    numberedOutput.combinedMasks = .ok numberedOutput.registerWriteMasks ∧
      (∀ entry ∈ numberedOutput.registerFields, entry.2.DistinctCodes) ∧
      (∀ entry ∈ numberedOutput.registerFields, entry.2.RangeFits) ∧
      ∃ snapshot configReadback applied readback,
        Reachable { tuss4470Service refusing with schema := numberedOutput }
            snapshot ∧
          ParameterService.markApplied
              { tuss4470Service refusing with schema := numberedOutput }
              snapshot configReadback =
            .ok applied ∧
          applied.readback = some readback ∧
          snapshot.requested "out3_enabled" = some (.integer 2) ∧
          readback.fields "out3_enabled" = some (.boolean true) :=
  ⟨combinedMasks_tuss4470Parameters, distinctCodes_tuss4470Parameters,
    rangeFits_tuss4470Parameters,
    @reachable_of_appliedWith _ ("out3_enabled", .integer 2) _ _ _
      (by decide +kernel)⟩

end ParameterService

end Usac.Host.Parameters
