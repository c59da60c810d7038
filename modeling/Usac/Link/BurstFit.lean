import Usac.Firmware.BurstPlan
import Usac.Firmware.FailClosed
import Usac.Host.ParameterReadback
import Usac.Link.Codec

namespace Usac.Link

open Library
open Firmware (ConfigV2)
open Host (AcquisitionConfigV2 Raised require_eq_ok bind_eq_ok ValidationResult)
open Host.Parameters

/-!
# Accepted configurations and their bursts

Both sides check the fields of a configuration one by one. The plan of the
burst relates four of them, and no check does. So a configuration can be
accepted whose burst ends behind the last sample, and every capture with it is
refused before the first.
-/

/-- What is created carries the identifiers of its canonical form. -/
theorem consistent_of_create
    {fields config : AcquisitionConfigV2}
    (created : AcquisitionConfigV2.create fields = .ok config) :
    config.Consistent := by
  obtain ⟨⟨⟩, values, created⟩ := bind_eq_ok.1 created
  obtain ⟨canonical, formed, created⟩ := bind_eq_ok.1 created
  obtain ⟨⟨⟩, -, formed⟩ := bind_eq_ok.1 formed
  obtain rfl := Except.ok.inj formed
  obtain rfl := Except.ok.inj created
  exact ⟨values, rfl, rfl⟩

/-- What a draft is validated to is safe, and compiled from it. -/
theorem safe_of_validate
    {service : ParameterService}
    {snapshot : ConfigurationSnapshot}
    {result : ValidationResult ConfigurationSnapshot}
    {compiled : AcquisitionConfigV2}
    (validated : service.validate snapshot = .ok result)
    (compiles : result.compiled = some compiled) :
    compiled.Safe ∧ service.compile snapshot.requested = .ok compiled := by
  obtain ⟨errors, -, validated⟩ := bind_eq_ok.1 validated
  split at validated
  · obtain rfl := Except.ok.inj validated
    cases compiles
  · obtain ⟨config, compile, validated⟩ := bind_eq_ok.1 validated
    obtain ⟨⟨⟩, approved, validated⟩ := bind_eq_ok.1 validated
    obtain ⟨actual, -, validated⟩ := bind_eq_ok.1 validated
    obtain rfl := Except.ok.inj validated
    obtain rfl := Option.some.inj compiles
    refine ⟨⟨?_, approved⟩, compile⟩
    simp only [ParameterService.compile, bind_eq_ok] at compile
    obtain ⟨_, -, _, -, _, -, _, -, _, -, _, -, _, -, created⟩ := compile
    obtain ⟨⟨⟩, -, created⟩ := bind_eq_ok.1 created
    exact consistent_of_create created

/-- What a draft is compiled to reaches the device as a configuration that it
decodes. -/
theorem exists_decoded_of_validate
    {service : ParameterService}
    {snapshot : ConfigurationSnapshot}
    {result : ValidationResult ConfigurationSnapshot}
    {compiled : AcquisitionConfigV2}
    (validated : service.validate snapshot = .ok result)
    (compiles : result.compiled = some compiled) :
    ∃ config : ConfigV2, config.Identified ∧ hostConfig config = compiled ∧
      compiled.encode = .ok config.wireForm ∧
      ConfigV2.decode config.wireForm = .ok config ∧
      service.compile snapshot.requested = .ok (hostConfig config) := by
  obtain ⟨safe, compile⟩ := safe_of_validate validated compiles
  obtain ⟨config, identified, rfl⟩ := exists_firmwareConfig safe
  refine ⟨config, identified, rfl, ?_, decode_wireForm identified, compile⟩
  exact AcquisitionConfigV2.encode_eq_ok.2
    ⟨safe.consistent, wireForm_hostConfig config⟩

/-- The burst a draft requests ends inside the window behind the trigger. -/
def DraftFits (service : ParameterService) (requested : Requested) : Prop :=
  ∃ value pulses period pretrigger interval,
    requested "BURST_PULSE" = some value ∧
      value.equals (.integer pulses) = true ∧
      service.requestedInt requested "burst_period_ticks" = .ok period ∧
      service.requestedInt requested "pretrigger_count" = .ok pretrigger ∧
      service.requestedInt requested "sample_interval_ticks" = .ok interval ∧
      pulses * period < (2048 - pretrigger) * interval

/-- The burst register in the image of a configuration of the firmware. -/
theorem burstRegister_image
    {config : ConfigV2}
    (identified : config.Identified) :
    (ParameterService.registerImage (hostConfig config)).lookup 0x1A =
      some ((config.profile.value 8).toNat : Int) := by
  obtain ⟨-, -, passed⟩ := identified.capturable
  have registers := Firmware.Tuss4470.registers_of_valid
    (Firmware.Profile.valid_of_validate passed)
  unfold ParameterService.registerImage hostConfig
  rw [registers]
  rfl

/-- A value that equals an integer is that number. -/
theorem number?_of_equals_integer
    {value : Value}
    {number : Int}
    (equal : value.equals (.integer number) = true) :
    value.number? = some (number : ℚ) := by
  unfold Value.equals at equal
  cases known : value.number? with
  | none =>
      rw [known] at equal
      cases equal
  | some other =>
      rw [known] at equal
      exact congrArg some (of_decide_eq_true equal)

/-- The pulses of the shipped registry are the pulses of the plan. -/
theorem pulses_of_compile
    {service : ParameterService}
    (shipped : service.schema = tuss4470Parameters)
    {requested : Requested}
    {config : ConfigV2}
    (identified : config.Identified)
    (compile : service.compile requested = .ok (hostConfig config)) :
    ∃ value, requested "BURST_PULSE" = some value ∧
      value.equals (.integer config.pulseCount.toNat) = true := by
  have member :
      ("BURST_PULSE",
        (⟨"BURST_PULSE", 0x1A, 63, 0, .uint 0 63, .integer 1, true⟩ :
          RegisterField)) ∈ service.schema.registerFields := by
    rw [shipped]
    exact (ParameterSchema.lookup_eq_some_iff_mem
      tuss4470Parameters.fieldNames).1 rfl
  have passed : service.schema.combinedMasks =
      .ok tuss4470Parameters.registerWriteMasks := by
    rw [shipped]
    exact combinedMasks_tuss4470Parameters
  have codes : ∀ entry ∈ service.schema.registerFields,
      entry.2.DistinctCodes := by
    rw [shipped]
    exact distinctCodes_tuss4470Parameters
  obtain ⟨value, decoded, registerValue, wanted, found, decodes, equal⟩ :=
    ParameterService.holds_of_compile passed codes compile _ member
  rw [burstRegister_image identified] at found
  obtain rfl := Option.some.inj found
  rw [ParameterSchema.decodeField_eq member] at decodes
  obtain ⟨⟨⟩, -, same⟩ := bind_eq_ok.1 decodes
  obtain rfl := Except.ok.inj same
  refine ⟨value, wanted, ?_⟩
  rw [Value.equals_comm]
  have masked :
      Packing.unpack (config.profile.value 8).toNat 63 0 =
        (config.pulseCount.toNat : Int) := by
    rw [ConfigV2.pulseCount, UInt8.toNat_and]
    exact Int.shiftRight_zero _
  rwa [masked] at equal

/-- The burst of a compiled draft fits when the draft requests one that
does. -/
theorem burstFits_iff_draftFits
    {service : ParameterService}
    (shipped : service.schema = tuss4470Parameters)
    {requested : Requested}
    {config : ConfigV2}
    (identified : config.Identified)
    (compile : service.compile requested = .ok (hostConfig config)) :
    config.BurstFits ↔ DraftFits service requested := by
  obtain ⟨value, wanted, equal⟩ := pulses_of_compile shipped identified compile
  have fields := ParameterService.compilesTo_of_compile compile
  obtain ⟨-, pretrigger, -⟩ := identified.capturable
  have before : config.pretriggerCount.toNat ≤ 2048 :=
    Nat.le_of_lt (UInt16.lt_iff_toNat_lt.1 pretrigger)
  have numbers :
      config.BurstFits ↔
        (config.pulseCount.toNat : Int) *
            config.profile.burstPeriodTicks.toNat <
          (2048 - config.pretriggerCount.toNat) *
            config.profile.sampleIntervalTicks.toNat := by
    unfold ConfigV2.BurstFits
    rw [← Int.ofNat_lt, Int.natCast_mul, Int.natCast_mul,
      Int.natCast_sub before]
    rfl
  rw [numbers]
  constructor
  · intro fits
    exact ⟨value, _, _, _, _, wanted, equal, fields.burstPeriodTicks,
      fields.pretriggerCount, fields.sampleIntervalTicks, fits⟩
  · rintro ⟨other, pulses, period, start, interval, otherWanted, otherEqual,
      isPeriod, isStart, isInterval, fits⟩
    obtain rfl := Option.some.inj (wanted.symm.trans otherWanted)
    have samePulses := Option.some.inj
      ((number?_of_equals_integer equal).symm.trans
        (number?_of_equals_integer otherEqual))
    obtain rfl := Except.ok.inj (fields.burstPeriodTicks.symm.trans isPeriod)
    obtain rfl := Except.ok.inj (fields.pretriggerCount.symm.trans isStart)
    obtain rfl :=
      Except.ok.inj (fields.sampleIntervalTicks.symm.trans isInterval)
    rw [Int.cast_injective samePulses]
    exact fits

/-- A configuration the device decodes, and the wire form of what a draft is
compiled to, have a plan for their burst exactly when the burst ends inside the
window behind the trigger. -/
theorem planned_iff_fits
    (service : ParameterService) :
    (∀ wire config, ConfigV2.decode wire = .ok config →
      (config.burstPlan.isSome = true ↔ config.BurstFits)) ∧
      ∀ snapshot result compiled,
        service.validate snapshot = .ok result →
        result.compiled = some compiled →
        ∃ wire config, compiled.encode = .ok wire ∧
          ConfigV2.decode wire = .ok config ∧ hostConfig config = compiled ∧
          (config.burstPlan.isSome = true ↔ config.BurstFits) ∧
          (service.schema = tuss4470Parameters →
            (config.burstPlan.isSome = true ↔
              DraftFits service snapshot.requested)) := by
  constructor
  · intro wire config decoded
    exact (ConfigV2.identified_of_decode decoded).isSome_burstPlan
  · intro snapshot result compiled validated compiles
    obtain ⟨config, identified, rfl, encoded, decoded, compile⟩ :=
      exists_decoded_of_validate validated compiles
    refine ⟨config.wireForm, config, encoded, decoded, rfl,
      identified.isSome_burstPlan, ?_⟩
    intro shipped
    rw [identified.isSome_burstPlan,
      burstFits_iff_draftFits shipped identified compile]

/-- The service of the core. -/
def core : ParameterService :=
  ParameterService.tuss4470Service ParameterService.refusing

/-- The default configuration has a plan. -/
theorem planned_initD10x4 : ConfigV2.initD10x4.burstPlan.isSome = true :=
  ((planned_iff_fits core).1 _ _
    (decode_wireForm ConfigV2.initD10x4_identified)).2
    (by decide +kernel)

/-- The default configuration with sixteen pulses, all samples but one of it
before the trigger. -/
def crowded : ConfigV2 :=
  ConfigV2.rehash { ConfigV2.initD10x4 with
    pretriggerCount := 2047
    profile := { Firmware.Profile.initD10x4 with
      registers :=
        Firmware.Profile.initD10x4.registers.set 8 ⟨0x1A, 16⟩ } }

/-- The core compiles a draft of sixteen pulses behind 2047 samples. -/
theorem exists_crowdedDraft :
    ∃ snapshot result compiled,
      ParameterService.Reachable core snapshot ∧
        core.validate snapshot = .ok result ∧
        result.compiled = some compiled ∧
        ¬DraftFits core snapshot.requested := by
  have run :
      (core.newDraft >>= fun draft =>
        core.updateDraft draft
          [("pretrigger_count", .integer 2047), ("BURST_PULSE", .integer 16)]
          >>= fun updated =>
        core.validate updated >>= fun result =>
        pure (result.compiled.isSome, updated.requested "BURST_PULSE",
          updated.requested "burst_period_ticks",
          updated.requested "pretrigger_count",
          updated.requested "sample_interval_ticks")) =
        .ok (true, some (.integer 16), some (.integer 50),
          some (.integer 2047), some (.integer 120)) := by
    decide +kernel
  obtain ⟨draft, created, run⟩ := bind_eq_ok.1 run
  obtain ⟨updated, update, run⟩ := bind_eq_ok.1 run
  obtain ⟨result, validated, run⟩ := bind_eq_ok.1 run
  obtain ⟨compiles, pulse, period, pretrigger, interval⟩ := by
    simpa only [Prod.mk.injEq] using Except.ok.inj run
  obtain ⟨compiled, compiles⟩ := Option.isSome_iff_exists.1 compiles
  refine ⟨updated, result, compiled,
    (ParameterService.Reachable.newDraft created).updateDraft update,
    validated, compiles, ?_⟩
  rintro ⟨value, pulses, ticks, start, sample, wanted, equal, isPeriod,
    isStart, isInterval, fits⟩
  have read (name : String) (number : Int)
      (held : updated.requested name = some (.integer number)) :
      core.requestedInt updated.requested name = .ok number :=
    bind_eq_ok.2 ⟨_, ParameterService.item_eq_ok.2 held, rfl⟩
  rw [pulse] at wanted
  obtain rfl := Option.some.inj wanted
  have sixteen : (16 : Int) = pulses :=
    Int.cast_injective (Option.some.inj (number?_of_equals_integer equal))
  have isFifty := Except.ok.inj ((read _ _ period).symm.trans isPeriod)
  have isLast := Except.ok.inj ((read _ _ pretrigger).symm.trans isStart)
  have isDefault := Except.ok.inj ((read _ _ interval).symm.trans isInterval)
  subst sixteen isFifty isLast isDefault
  exact absurd fits (by decide)

/-- The device accepts a configuration without a plan, and the core compiles a
draft to one. -/
theorem unplanned_crowded :
    (∃ wire config, ConfigV2.decode wire = .ok config ∧
      config.burstPlan = none) ∧
      ∃ snapshot result compiled,
        ParameterService.Reachable core snapshot ∧
          core.validate snapshot = .ok result ∧
          result.compiled = some compiled ∧
          ∃ wire config, compiled.encode = .ok wire ∧
            ConfigV2.decode wire = .ok config ∧ config.burstPlan = none := by
  constructor
  · have identified : crowded.Identified :=
      ConfigV2.rehash_identified (by decide +kernel)
    exact ⟨crowded.wireForm, crowded, decode_wireForm identified,
      by decide +kernel⟩
  · obtain ⟨snapshot, result, compiled, reachable, validated, compiles,
      crowds⟩ := exists_crowdedDraft
    obtain ⟨config, identified, rfl, encoded, decoded, compile⟩ :=
      exists_decoded_of_validate validated compiles
    refine ⟨snapshot, result, hostConfig config, reachable, validated,
      compiles, config.wireForm, config, encoded, decoded, ?_⟩
    rw [← Option.not_isSome_iff_eq_none, identified.isSome_burstPlan,
      burstFits_iff_draftFits rfl identified compile]
    exact crowds

end Usac.Link
