import Usac.Host.ParameterReadback

namespace Usac.Host.Parameters

open Library

/-!
# The two safety gates

`_safety_errors` looks at the values a draft requests, and
`validate_boostxl_direct_applied_config` at the registers they are compiled to.
A draft only ever requests values that their fields accept, so it is always
compiled, and what the first gate finds in the values are the bits the second
one finds in the registers.
-/

/-- The value is one that the field encodes. -/
def RegisterField.Accepts (field : RegisterField) (value : Value) : Prop :=
  ∃ code, field.encode value = .ok code

/-- The value passes the checks of an update, or a read-only field starts with
it. -/
def NonregisterField.Accepts
    (field : NonregisterField)
    (name : String)
    (value : Value) :
    Prop :=
  ParameterService.validateNonregister name field value = .ok () ∨
    field.readOnly = true ∧ initialValue? field = some value

namespace ParameterService

/-! ## What a draft requests -/

/-- Every register field requests a value that it encodes, and the fields that
are compiled besides the registers request values that they accept. -/
structure Accepted (schema : ParameterSchema) (requested : Requested) :
    Prop where
  registers :
    ∀ entry ∈ schema.registerFields, ∃ value,
      requested entry.1 = some value ∧ entry.2.Accepts value
  settings :
    ∀ name ∈ countNames ++ outputNames, ∃ field value,
      schema.nonregisterFields.lookup name = some field ∧
        requested name = some value ∧ field.Accepts name value

variable {service : ParameterService}

/-- A change that passes is accepted by its field. -/
theorem Accepted.applyChange
    (declared : Declared service.schema)
    {requested after : Requested}
    {change : String × Value}
    (accepted : Accepted service.schema requested)
    (applied : service.applyChange requested change = .ok after) :
    Accepted service.schema after := by
  obtain ⟨⟨⟩, validated, same⟩ := bind_eq_ok.1 applied
  obtain rfl := Except.ok.inj same
  unfold validateDatasheetValue at validated
  constructor
  · intro entry member
    unfold assign
    by_cases here : entry.1 = change.1
    · have found : service.schema.registerFields.lookup change.1 =
          some entry.2 :=
        (ParameterSchema.lookup_eq_some_iff_mem
          service.schema.fieldNames).2 (here ▸ member)
      simp only [found] at validated
      obtain ⟨code, encoded, -⟩ := bind_eq_ok.1 validated
      exact ⟨change.2, if_pos here, code, encoded⟩
    · rw [if_neg here]
      exact accepted.registers entry member
  · intro name member
    unfold assign
    by_cases here : name = change.1
    · subst here
      obtain ⟨field, value, found, -, -⟩ := accepted.settings _ member
      have outside := declared.apart change.1
        (List.mem_append_left _ member)
      simp only [outside, found] at validated
      exact ⟨field, change.2, found, if_pos rfl, .inl validated⟩
    · rw [if_neg here]
      exact accepted.settings name member

/-- The changes of an update are accepted by their fields. -/
theorem Accepted.foldlM
    (declared : Declared service.schema)
    {requested after : Requested}
    {changes : List (String × Value)}
    (accepted : Accepted service.schema requested)
    (applied : changes.foldlM service.applyChange requested = .ok after) :
    Accepted service.schema after := by
  induction changes generalizing requested with
  | nil =>
      obtain rfl := Except.ok.inj applied
      exact accepted
  | cons change rest inductionHypothesis =>
      obtain ⟨between, first, others⟩ := bind_eq_ok.1 applied
      exact inductionHypothesis (accepted.applyChange declared first) others

/-- Ticks are derived from their inputs: nothing else changes, and the ticks are
what they were or have been checked. -/
structure Rederived
    (service : ParameterService)
    (inputs : List String)
    (ticksName : String)
    (before after : Requested) :
    Prop where
  frame : ∀ name ∉ inputs, after name = before name
  ticks :
    after ticksName = before ticksName ∨
      ∃ ticks, after ticksName = some (.integer ticks) ∧
        service.validateDatasheetValue ticksName (.integer ticks) = .ok ()

/-- An assignment leaves the other names. -/
theorem assign_of_ne
    {requested : Requested}
    {name other : String}
    {value : Value}
    (different : other ≠ name) :
    assign requested name value other = requested other :=
  if_neg different

/-- A derivation of the sample ticks assigns nothing else. -/
theorem deriveSampleTicks_frame
    {names : List String}
    {requested after : Requested}
    (derived : service.deriveSampleTicks names requested = .ok after)
    {name : String}
    (other : name ≠ "sample_interval_ticks") :
    after name = requested name := by
  unfold deriveSampleTicks at derived
  split at derived
  · obtain ⟨_, -, derived⟩ := bind_eq_ok.1 derived
    obtain ⟨_, -, derived⟩ := bind_eq_ok.1 derived
    obtain rfl := Except.ok.inj derived
    exact assign_of_ne other
  · split at derived
    · simp only [bind_eq_ok] at derived
      obtain ⟨_, -, _, -, _, -, _, -, _, -, _, -, ⟨⟩, -, _, -, same⟩ := derived
      obtain rfl := Except.ok.inj same
      exact assign_of_ne other
    · obtain rfl := Except.ok.inj derived
      rfl

/-- The sampling part of an update. -/
theorem Typed.rederived_sampling
    {names : List String}
    {requested after : Requested}
    (typed : Typed requested)
    (derived : service.deriveSampling names requested = .ok after) :
    Rederived service samplingInputs "sample_interval_ticks" requested
      after := by
  obtain ⟨ticked, first, derived⟩ := bind_eq_ok.1 derived
  have typedTicks := typed.deriveSampleTicks first
  have frame :
      ∀ name ∉ samplingInputs, ticked name = requested name := by
    intro name other
    refine deriveSampleTicks_frame first ?_
    rintro rfl
    exact other (by decide)
  split at derived
  · obtain ⟨ticks, read, derived⟩ := bind_eq_ok.1 derived
    obtain ⟨⟨⟩, checked, derived⟩ := bind_eq_ok.1 derived
    obtain ⟨rated, rate, record⟩ := bind_eq_ok.1 derived
    have ratedFrame :
        ∀ name, name ≠ "requested_sample_rate_hz" →
          rated name = ticked name := by
      intro name other
      unfold deriveSampleRate at rate
      split at rate
      · obtain rfl := Except.ok.inj rate
        rfl
      · obtain ⟨_, -, same⟩ := bind_eq_ok.1 rate
        obtain rfl := Except.ok.inj same
        exact assign_of_ne other
    have recordFrame :
        ∀ name, name ≠ "requested_record_ms" → after name = rated name := by
      intro name other
      unfold deriveRecord at record
      split at record
      · obtain rfl := Except.ok.inj record
        rfl
      · obtain ⟨_, -, record⟩ := bind_eq_ok.1 record
        obtain ⟨_, -, same⟩ := bind_eq_ok.1 record
        obtain rfl := Except.ok.inj same
        exact assign_of_ne other
    constructor
    · intro name other
      rw [recordFrame name (by rintro rfl; exact other (by decide)),
        ratedFrame name (by rintro rfl; exact other (by decide)),
        frame name other]
    · refine .inr ⟨ticks, ?_, checked⟩
      rw [recordFrame _ (by decide), ratedFrame _ (by decide)]
      exact typedTicks.eq_integer (by decide) read
  · next idle =>
      obtain rfl := Except.ok.inj derived
      refine ⟨frame, .inl ?_⟩
      have unasked :
          "requested_sample_rate_hz" ∉ names ∧
            "requested_record_ms" ∉ names := by
        simp only [samplingInputs, List.any_cons, List.any_nil,
          Bool.or_eq_true, decide_eq_true_eq, not_or] at idle
        exact ⟨idle.1, idle.2.1⟩
      unfold ParameterService.deriveSampleTicks at first
      rw [if_neg unasked.1, if_neg unasked.2] at first
      obtain rfl := Except.ok.inj first
      rfl

/-- The burst part of an update. -/
theorem Typed.rederived_burst
    {names : List String}
    {requested after : Requested}
    (typed : Typed requested)
    (derived : service.deriveBurst names requested = .ok after) :
    Rederived service frequencyInputs "burst_period_ticks" requested
      after := by
  obtain ⟨ticked, first, derived⟩ := bind_eq_ok.1 derived
  unfold deriveBurstTicks at first
  split at first
  · next asked =>
      obtain ⟨frequency, -, first⟩ := bind_eq_ok.1 first
      obtain ⟨period, -, same⟩ := bind_eq_ok.1 first
      obtain rfl := Except.ok.inj same
      have driven : frequencyInputs.any (· ∈ names) = true := by
        simp [frequencyInputs, asked]
      rw [if_pos driven] at derived
      obtain ⟨ticks, read, derived⟩ := bind_eq_ok.1 derived
      obtain ⟨⟨⟩, checked, derived⟩ := bind_eq_ok.1 derived
      unfold deriveBurstFrequency at derived
      rw [if_pos asked] at derived
      obtain rfl := Except.ok.inj derived
      constructor
      · intro name other
        exact assign_of_ne (by rintro rfl; exact other (by decide))
      · exact .inr ⟨ticks,
          (typed.assign_integer (by decide) _).eq_integer (by decide) read,
          checked⟩
  · next unasked =>
      obtain rfl := Except.ok.inj first
      split at derived
      · obtain ⟨ticks, read, derived⟩ := bind_eq_ok.1 derived
        obtain ⟨⟨⟩, checked, derived⟩ := bind_eq_ok.1 derived
        unfold deriveBurstFrequency at derived
        rw [if_neg unasked] at derived
        obtain ⟨_, -, same⟩ := bind_eq_ok.1 derived
        obtain rfl := Except.ok.inj same
        constructor
        · intro name other
          exact assign_of_ne (by rintro rfl; exact other (by decide))
        · refine .inr ⟨ticks, ?_, checked⟩
          rw [assign_of_ne (by decide)]
          exact typed.eq_integer (by decide) read
      · obtain rfl := Except.ok.inj derived
        exact ⟨fun _ _ => rfl, .inl rfl⟩

/-- Derived ticks are accepted by their field. -/
theorem Accepted.rederived
    (declared : Declared service.schema)
    {inputs : List String}
    {ticksName : String}
    {requested after : Requested}
    (accepted : Accepted service.schema requested)
    (derived : Rederived service inputs ticksName requested after)
    (reserved :
      ∀ name ∈ inputs, name ∈ countNames ++ outputNames ++ recomputedNames)
    (only :
      ∀ name ∈ inputs, name ∈ countNames ++ outputNames → name = ticksName) :
    Accepted service.schema after := by
  constructor
  · intro entry member
    rw [derived.frame entry.1 fun input =>
      declared.notMem_of_registerField member (reserved entry.1 input)]
    exact accepted.registers entry member
  · intro name member
    obtain ⟨field, value, found, wanted, accepts⟩ :=
      accepted.settings name member
    by_cases input : name ∈ inputs
    · obtain rfl := only name input member
      rcases derived.ticks with same | ⟨ticks, rederived, checked⟩
      · exact ⟨field, value, found, same.trans wanted, accepts⟩
      · have outside := declared.apart name (List.mem_append_left _ member)
        simp only [validateDatasheetValue, outside, found] at checked
        exact ⟨field, .integer ticks, found, rederived, .inl checked⟩
    · exact ⟨field, value, found, (derived.frame name input).trans wanted,
        accepts⟩

/-- What holds of the values of a snapshot: they are accepted, and the service
has computed what they amount to. -/
structure Drafted (service : ParameterService) (requested : Requested) :
    Prop where
  accepted : Accepted service.schema requested
  actual : ∃ actual, service.actualValues requested = .ok actual

/-- Every snapshot of a service requests accepted values, if a new draft
does. -/
theorem Reachable.drafted
    (declared : Declared service.schema)
    (defaults : Accepted service.schema (initialRequested service.schema))
    {snapshot : ConfigurationSnapshot}
    (reachable : Reachable service snapshot) :
    Drafted service snapshot.requested := by
  induction reachable with
  | newDraft created =>
      obtain ⟨actual, computed, same⟩ := bind_eq_ok.1 created
      obtain rfl := Except.ok.inj same
      exact ⟨defaults, actual, computed⟩
  | updateDraft before updated inductionHypothesis =>
      obtain ⟨⟨⟩, -, updated⟩ := bind_eq_ok.1 updated
      obtain ⟨⟨⟩, -, updated⟩ := bind_eq_ok.1 updated
      obtain ⟨⟨⟩, -, updated⟩ := bind_eq_ok.1 updated
      obtain ⟨changed, changes, updated⟩ := bind_eq_ok.1 updated
      obtain ⟨sampled, sampling, updated⟩ := bind_eq_ok.1 updated
      obtain ⟨bursted, burst, drafted⟩ := bind_eq_ok.1 updated
      obtain ⟨actual, computed, same⟩ := bind_eq_ok.1 drafted
      obtain rfl := Except.ok.inj same
      have typed := declared.typed_foldlM (before.sound.typed declared) changes
      have accepted := inductionHypothesis.accepted.foldlM declared changes
      have acceptedTicks := accepted.rederived declared
        (typed.rederived_sampling sampling) (by decide) (by decide)
      exact ⟨acceptedTicks.rederived declared
        ((typed.deriveSampling sampling).rederived_burst burst) (by decide)
        (by decide), actual, computed⟩
  | validate before validated inductionHypothesis =>
      obtain ⟨errors, -, validated⟩ := bind_eq_ok.1 validated
      split at validated
      · obtain rfl := Except.ok.inj validated
        exact inductionHypothesis
      · obtain ⟨config, -, validated⟩ := bind_eq_ok.1 validated
        obtain ⟨⟨⟩, -, validated⟩ := bind_eq_ok.1 validated
        obtain ⟨actual, -, validated⟩ := bind_eq_ok.1 validated
        obtain rfl := Except.ok.inj validated
        exact inductionHypothesis
  | markApplied before marked inductionHypothesis =>
      simp only [ParameterService.markApplied, bind_eq_ok] at marked
      obtain ⟨⟨⟩, -, _, -, ⟨⟩, -, _, -, _, -, _, -, _, -, same⟩ := marked
      obtain rfl := Except.ok.inj same
      exact inductionHypothesis

/-! ## Every accepted draft is compiled -/

/-- A register image within its write masks. -/
structure Clean (schema : ParameterSchema) (registers : List (Int × Int)) :
    Prop where
  addresses :
    registers.map Prod.fst = schema.registerWriteMasks.map Prod.fst
  within :
    ∀ register ∈ registers, ∃ mask,
      schema.registerWriteMasks.lookup register.1 = some mask ∧
        Packing.Within register.2 mask

/-- A declared register is looked up. -/
theorem exists_lookup
    {registers : List (Int × Int)}
    {address : Int}
    (declared : address ∈ registers.map Prod.fst) :
    ∃ value, registers.lookup address = some value := by
  cases found : registers.lookup address with
  | none =>
      obtain ⟨register, member, rfl⟩ := List.mem_map.1 declared
      simpa using List.lookup_eq_none_iff.1 found register member
  | some value => exact ⟨value, rfl⟩

/-- What is looked up is there. -/
theorem mem_of_lookup
    {registers : List (Int × Int)}
    {address value : Int}
    (found : registers.lookup address = some value) :
    (address, value) ∈ registers := by
  obtain ⟨before, after, rfl, -⟩ := List.lookup_eq_some_iff.1 found
  simp

/-- An image of zeros is within every mask. -/
theorem clean_zero (schema : ParameterSchema) :
    Clean schema (schema.registerWriteMasks.map fun entry => (entry.1, 0)) := by
  constructor
  · simp
  · intro register member
    obtain ⟨entry, declared, rfl⟩ := List.mem_map.1 member
    obtain ⟨mask, found⟩ := exists_lookup (List.mem_map_of_mem declared)
    exact ⟨mask, found, Packing.within_zero _⟩

section Compile

variable {requested : Requested}
  (passed : service.schema.combinedMasks =
    .ok service.schema.registerWriteMasks)

include passed

/-- A turn of the loop leaves a clean image. -/
theorem Clean.placeField
    {registers after : List (Int × Int)}
    {entry : String × RegisterField}
    (clean : Clean service.schema registers)
    (member : entry ∈ service.schema.registerFields)
    (turned : service.placeField requested registers entry = .ok after) :
    Clean service.schema after := by
  have placed := ParameterSchema.placed_of_combinedMasks passed
  obtain ⟨value, -, turned⟩ := bind_eq_ok.1 turned
  obtain ⟨before, found, turned⟩ := bind_eq_ok.1 turned
  obtain ⟨packed, encoded, same⟩ := bind_eq_ok.1 turned
  obtain rfl := Except.ok.inj same
  obtain ⟨code, -, -, rfl⟩ :=
    (ParameterSchema.encodeField_eq_ok member).1 encoded
  constructor
  · rw [← clean.addresses, List.map_map]
    refine List.map_congr_left fun register _ => ?_
    dsimp only [Function.comp]
    split_ifs <;> rfl
  · intro register written
    obtain ⟨old, known, rfl⟩ := List.mem_map.1 written
    split_ifs with here
    · obtain ⟨mask, declared, within⟩ :=
        clean.within _ (mem_of_lookup (registerValue_eq_ok.1 found))
      obtain ⟨whole, covered, own⟩ :=
        placed.covered entry.2 (List.mem_map_of_mem member)
      obtain rfl := Option.some.inj (declared.symm.trans covered)
      exact ⟨mask, here ▸ declared, within.pack own⟩
    · exact clean.within old known

variable
  (fits : ∀ entry ∈ service.schema.registerFields, entry.2.RangeFits)

include fits

/-- A turn of the loop places a value that its field accepts. -/
theorem Clean.exists_placeField
    {registers : List (Int × Int)}
    {entry : String × RegisterField}
    (clean : Clean service.schema registers)
    (member : entry ∈ service.schema.registerFields)
    (accepts :
      ∃ value, requested entry.1 = some value ∧ entry.2.Accepts value) :
    ∃ after, service.placeField requested registers entry = .ok after := by
  have placed := ParameterSchema.placed_of_combinedMasks passed
  obtain ⟨value, wanted, code, encoded⟩ := accepts
  obtain ⟨mask, covered, -⟩ :=
    placed.covered entry.2 (List.mem_map_of_mem member)
  obtain ⟨before, found⟩ :=
    exists_lookup
      (clean.addresses ▸ List.mem_map_of_mem (mem_of_lookup covered))
  obtain ⟨packed, fitted⟩ := ParameterSchema.exists_encodeField member
    (fits entry member) encoded before
  exact ⟨_, bind_eq_ok.2 ⟨value, item_eq_ok.2 wanted,
    bind_eq_ok.2 ⟨before, registerValue_eq_ok.2 found,
      bind_eq_ok.2 ⟨packed, fitted, rfl⟩⟩⟩⟩

/-- The loop places every value that its field accepts. -/
theorem Clean.exists_foldlM
    {entries : List (String × RegisterField)}
    {registers : List (Int × Int)}
    (clean : Clean service.schema registers)
    (known : ∀ entry ∈ entries, entry ∈ service.schema.registerFields)
    (accepts : ∀ entry ∈ entries, ∃ value,
      requested entry.1 = some value ∧ entry.2.Accepts value) :
    ∃ after,
      entries.foldlM (service.placeField requested) registers = .ok after ∧
        Clean service.schema after := by
  induction entries generalizing registers with
  | nil =>
      exact ⟨registers, rfl, clean⟩
  | cons entry rest inductionHypothesis =>
      obtain ⟨member, others⟩ := List.forall_mem_cons.1 known
      obtain ⟨first, remaining⟩ := List.forall_mem_cons.1 accepts
      obtain ⟨between, turned⟩ :=
        clean.exists_placeField passed fits member first
      obtain ⟨after, looped, final⟩ := inductionHypothesis
        (clean.placeField passed member turned) others remaining
      exact ⟨after, bind_eq_ok.2 ⟨between, turned, looped⟩, final⟩

/-- The image of an accepted draft. -/
theorem Accepted.exists_compileImage
    (accepted : Accepted service.schema requested) :
    ∃ image, service.compileImage requested = .ok image ∧
      Clean service.schema image :=
  (clean_zero service.schema).exists_foldlM passed fits (fun _ => id)
    accepted.registers

end Compile

/-! ## Creating a configuration -/

/-- Pairs that pass as integers pass as bytes. -/
theorem validatePairs_narrowPair
    {previousAddress : Int}
    {pairs : List (Int × Int)}
    (passed : validatePairs previousAddress pairs = .ok ()) :
    AcquisitionConfigV2.validatePairs previousAddress
        (pairs.map narrowPair) = .ok () := by
  induction pairs generalizing previousAddress with
  | nil =>
      rfl
  | cons pair rest inductionHypothesis =>
      obtain ⟨⟨⟩, above, passed⟩ := bind_eq_ok.1 passed
      obtain ⟨⟨⟩, inRange, others⟩ := bind_eq_ok.1 passed
      obtain ⟨⟨lower, upper⟩, -⟩ := require_eq_ok.1 inRange
      have kept : ((UInt8.ofNat pair.1.toNat).toNat : Int) = pair.1 := by
        rw [UInt8.toNat_ofNat_of_lt' (by change pair.1.toNat < 256; omega)]
        omega
      refine bind_eq_ok.2 ⟨(), require_eq_ok.2 ?_,
        bind_eq_ok.2 ⟨(), require_eq_ok.2 ?_, ?_⟩⟩
      · rw [kept]
        exact require_eq_ok.1 above
      · rw [UInt8.le_iff_toNat_le]
        change (UInt8.ofNat pair.1.toNat).toNat ≤ 0x3F
        omega
      · rw [kept]
        exact inductionHypothesis others

/-- Arguments that pass the checks are created. -/
theorem exists_createConfig
    {arguments : ConfigArguments}
    (passed : validateArguments arguments = .ok ()) :
    ∃ config, createConfig arguments = .ok config := by
  have checked := passed
  simp only [validateArguments, bind_eq_ok, require_eq_ok] at checked
  obtain ⟨⟨⟩, interval, ⟨⟩, count, ⟨⟩, pretrigger, ⟨⟩, flags, ⟨⟩, period, ⟨⟩,
    few, pairs⟩ := checked
  have intervalKept :=
    toNat_ofNat_toNat (show 0 ≤ arguments.sampleIntervalTicks ∧ _ by omega)
  have countKept :=
    toNat_ofNat_toNat (show 0 ≤ arguments.sampleCount ∧ _ by omega)
  have pretriggerKept :=
    toNat_ofNat_toNat (show 0 ≤ arguments.pretriggerCount ∧ _ by omega)
  have periodKept :=
    toNat_ofNat_toNat (show 0 ≤ arguments.burstPeriodTicks ∧ _ by omega)
  have two : 0 ≤ arguments.auxFlags ∧ arguments.auxFlags ≤ (3 : Nat) :=
    (Packing.within_of_land_lnot flags).bounds
  have auxFlags : UInt8.ofNat arguments.auxFlags.toNat &&& ~~~0x03 = 0 := by
    have listed : arguments.auxFlags = 0 ∨ arguments.auxFlags = 1 ∨
        arguments.auxFlags = 2 ∨ arguments.auxFlags = 3 := by
      omega
    rcases listed with flags | flags | flags | flags <;>
      rw [flags] <;> decide
  rw [createConfig, passed, ok_bind]
  refine ⟨_, bind_eq_ok.2 ⟨(), ?_, bind_eq_ok.2 ⟨_, bind_eq_ok.2 ⟨(), ?_, rfl⟩,
    rfl⟩⟩⟩
  all_goals
    simp only [AcquisitionConfigV2.validateValues, bind_eq_ok, require_eq_ok,
      UInt16.le_iff_toNat_le, UInt16.lt_iff_toNat_lt, List.length_map]
    refine ⟨(), trivial, (), ?_, (), ?_, (), ?_, (), trivial, (), auxFlags, (),
      trivial, (), ?_, (), few, validatePairs_narrowPair pairs⟩
    · change 120 ≤ _ ∧ _ ≤ 960
      omega
    · change 1 ≤ _ ∧ _ ≤ 2048
      omega
    · omega
    · change 24 ≤ _ ∧ _ ≤ 800
      omega

/-- Ordered pairs in range pass. -/
theorem validatePairs_of_ordered
    {previousAddress : Int}
    {pairs : List (Int × Int)}
    (ordered : (pairs.map Prod.fst).Pairwise (· < ·))
    (above : ∀ address ∈ pairs.map Prod.fst, previousAddress < address)
    (inRange : ∀ pair ∈ pairs,
      (0 ≤ pair.1 ∧ pair.1 ≤ 0x3F) ∧ 0 ≤ pair.2 ∧ pair.2 ≤ 0xFF) :
    validatePairs previousAddress pairs = .ok () := by
  induction pairs generalizing previousAddress with
  | nil =>
      rfl
  | cons pair rest inductionHypothesis =>
      obtain ⟨later, others⟩ := List.pairwise_cons.1 ordered
      obtain ⟨here, remaining⟩ := List.forall_mem_cons.1 inRange
      exact bind_eq_ok.2
        ⟨(), require_eq_ok.2 (above pair.1 List.mem_cons_self),
          bind_eq_ok.2 ⟨(), require_eq_ok.2 here,
            inductionHypothesis others later remaining⟩⟩

/-- An accepted integer is in its range. -/
theorem integer_of_accepts
    {field : NonregisterField}
    {name : String}
    {value : Value}
    {minimum maximum : Int}
    (kind : field.kind = .integer minimum maximum)
    (writable : field.readOnly = false)
    (accepts : field.Accepts name value) :
    ∃ number, value = .integer number ∧ minimum ≤ number ∧
      number ≤ maximum := by
  rcases accepts with validated | ⟨readOnly, -⟩
  · obtain ⟨⟨⟩, -, checked⟩ := bind_eq_ok.1 validated
    rw [kind] at checked
    cases value with
    | integer number => exact ⟨number, rfl, require_eq_ok.1 checked⟩
    | _ => cases checked
  · rw [writable] at readOnly
    cases readOnly

/-- A constant is accepted only as it is. -/
theorem constant_of_accepts
    {field : NonregisterField}
    {name : String}
    {value constant : Value}
    (kind : field.kind = .constant constant)
    (readOnly : field.readOnly = true)
    (accepts : field.Accepts name value) :
    value = constant := by
  rcases accepts with validated | ⟨-, initial⟩
  · obtain ⟨⟨⟩, writable, -⟩ := bind_eq_ok.1 validated
    rw [require_eq_ok, readOnly] at writable
    cases writable
  · rw [initialValue?, kind] at initial
    exact (Option.some.inj initial).symm

/-- The value of a setting that is declared. -/
theorem Accepted.setting
    {schema : ParameterSchema}
    {requested : Requested}
    (accepted : Accepted schema requested)
    {name : String}
    {field : NonregisterField}
    (declared : schema.nonregisterFields.lookup name = some field)
    (member : name ∈ countNames ++ outputNames) :
    ∃ value, requested name = some value ∧ field.Accepts name value := by
  obtain ⟨other, value, found, wanted, accepts⟩ :=
    accepted.settings name member
  obtain rfl := Option.some.inj (found.symm.trans declared)
  exact ⟨value, wanted, accepts⟩

/-- A new draft of the shipped registry requests accepted values. -/
theorem accepted_initialRequested :
    Accepted tuss4470Parameters (initialRequested tuss4470Parameters) := by
  constructor
  · have encoded :
        ∀ entry ∈ tuss4470Parameters.registerFields,
          ((initialRequested tuss4470Parameters entry.1).any fun value =>
            (entry.2.encode value).toBool) = true := by
      decide +kernel
    intro entry member
    obtain ⟨value, wanted, encodes⟩ :=
      (Option.any_eq_true _ _).1 (encoded entry member)
    refine ⟨value, wanted, ?_⟩
    cases result : entry.2.encode value with
    | error raised =>
        rw [result] at encodes
        cases encodes
    | ok code => exact ⟨code, result⟩
  · intro name member
    simp only [countNames, outputNames, List.cons_append, List.nil_append,
      List.mem_cons, List.not_mem_nil, or_false] at member
    rcases member with rfl | rfl | rfl | rfl | rfl | rfl
    · exact ⟨_, _, rfl, rfl, .inl (by decide +kernel)⟩
    · exact ⟨_, _, rfl, rfl, .inl (by decide +kernel)⟩
    · exact ⟨_, _, rfl, rfl, .inr ⟨rfl, rfl⟩⟩
    · exact ⟨_, _, rfl, rfl, .inl (by decide +kernel)⟩
    · exact ⟨_, _, rfl, rfl, .inl (by decide +kernel)⟩
    · exact ⟨_, _, rfl, rfl, .inl (by decide +kernel)⟩

section Shipped

variable {requested : Requested}
  (shipped : service.schema = tuss4470Parameters)

/-- The pairs of a clean image of the shipped registry pass. -/
theorem Clean.validatePairs
    {image : List (Int × Int)}
    (clean : Clean tuss4470Parameters image) :
    validatePairs (-1) image = .ok () := by
  have addresses :
      ∀ address ∈ tuss4470Parameters.registerWriteMasks.map Prod.fst,
        -1 < address ∧ 0 ≤ address ∧ address ≤ 0x3F := by
    decide
  have masks :
      ∀ entry ∈ tuss4470Parameters.registerWriteMasks,
        0 ≤ entry.2 ∧ entry.2 ≤ 0xFF := by
    decide
  have known :
      ∀ register ∈ image,
        register.1 ∈ tuss4470Parameters.registerWriteMasks.map Prod.fst :=
    fun register member => clean.addresses ▸ List.mem_map_of_mem member
  apply validatePairs_of_ordered
  · rw [clean.addresses]
    decide
  · rw [clean.addresses]
    exact fun address member => (addresses address member).1
  · intro register member
    obtain ⟨mask, found, within⟩ := clean.within register member
    obtain ⟨lower, upper⟩ := masks _ (mem_of_lookup found)
    obtain ⟨whole, rfl⟩ := Int.eq_ofNat_of_zero_le lower
    have bounds := within.bounds
    exact ⟨(addresses _ (known register member)).2, bounds.1,
      bounds.2.trans upper⟩

include shipped

/-- An accepted draft of the shipped registry is compiled, to a clean image with
a whole capture and an approved sample interval. -/
theorem Accepted.exists_compile
    (accepted : Accepted service.schema requested) :
    ∃ config, service.compile requested = .ok config ∧
      Clean tuss4470Parameters (registerImage config) ∧
      config.sampleCount = 2048 ∧
      120 ≤ config.sampleIntervalTicks ∧ config.sampleIntervalTicks ≤ 960 := by
  obtain ⟨image, built, clean⟩ :=
    accepted.exists_compileImage (shipped ▸ combinedMasks_tuss4470Parameters)
      (shipped ▸ rangeFits_tuss4470Parameters)
  rw [shipped] at accepted clean
  obtain ⟨_, wantedInterval, accepts⟩ :=
    accepted.setting rfl (show "sample_interval_ticks" ∈ _ by decide)
  obtain ⟨interval, rfl, intervalRange⟩ :=
    integer_of_accepts rfl rfl accepts
  obtain ⟨_, wantedPeriod, accepts⟩ :=
    accepted.setting rfl (show "burst_period_ticks" ∈ _ by decide)
  obtain ⟨period, rfl, periodRange⟩ := integer_of_accepts rfl rfl accepts
  obtain ⟨_, wantedPretrigger, accepts⟩ :=
    accepted.setting rfl (show "pretrigger_count" ∈ _ by decide)
  obtain ⟨pretrigger, rfl, pretriggerRange⟩ :=
    integer_of_accepts rfl rfl accepts
  obtain ⟨_, wantedCount, accepts⟩ :=
    accepted.setting rfl (show "sample_count" ∈ _ by decide)
  obtain rfl := constant_of_accepts rfl rfl accepts
  obtain ⟨out3, wanted3, -⟩ :=
    accepted.setting rfl (show "out3_enabled" ∈ _ by decide)
  obtain ⟨out4, wanted4, -⟩ :=
    accepted.setting rfl (show "out4_enabled" ∈ _ by decide)
  have read {name : String} {number : Int}
      (wanted : requested name = some (.integer number)) :
      service.requestedInt requested name = .ok number :=
    bind_eq_ok.2 ⟨_, item_eq_ok.2 wanted, rfl⟩
  have passed : validateArguments {
      sampleIntervalTicks := interval
      sampleCount := 2048
      pretriggerCount := pretrigger
      auxFlags := auxFlagsOf (truth out3) (truth out4)
      burstPeriodTicks := period
      registerPairs := image } = .ok () := by
    have flags (first second : Bool) :
        (auxFlagsOf first second).land (Int.lnot 0x03) = 0 := by
      cases first <;> cases second <;> decide +kernel
    have few : image.length ≤ 10 := by
      have sameLength := congrArg List.length clean.addresses
      rw [List.length_map, List.length_map] at sameLength
      exact sameLength.le
    simp only [validateArguments, bind_eq_ok, require_eq_ok]
    exact ⟨(), intervalRange, (), by decide, (), by omega, (), flags _ _, (),
      periodRange, (), few, clean.validatePairs⟩
  obtain ⟨config, created⟩ := exists_createConfig passed
  have compiled : service.compile requested = .ok config :=
    bind_eq_ok.2 ⟨image, built,
      bind_eq_ok.2 ⟨out3, item_eq_ok.2 wanted3,
      bind_eq_ok.2 ⟨out4, item_eq_ok.2 wanted4,
      bind_eq_ok.2 ⟨_, read wantedInterval,
      bind_eq_ok.2 ⟨_, read wantedCount,
      bind_eq_ok.2 ⟨_, read wantedPretrigger,
      bind_eq_ok.2 ⟨_, read wantedPeriod, created⟩⟩⟩⟩⟩⟩⟩
  have carries := carries_of_createConfig created
  refine ⟨config, compiled, carries.registerPairs ▸ clean, ?_, ?_, ?_⟩
  · have count := carries.sampleCount
    exact UInt16.toNat_inj.1 (Int.ofNat.inj count)
  · have ticks : (config.sampleIntervalTicks.toNat : Int) = interval :=
      carries.sampleIntervalTicks
    rw [UInt16.le_iff_toNat_le]
    change 120 ≤ _
    omega
  · have ticks : (config.sampleIntervalTicks.toNat : Int) = interval :=
      carries.sampleIntervalTicks
    rw [UInt16.le_iff_toNat_le]
    change _ ≤ 960
    omega

end Shipped

/-! ## What the second gate finds in the registers -/

/-- A register of a configuration is the one of its image. -/
theorem lookup_registerImage
    (config : AcquisitionConfigV2)
    (address : UInt8) :
    (registerImage config).lookup (address.toNat : Int) =
      (config.registerPairs.lookup address).map fun value =>
        (value.toNat : Int) := by
  unfold registerImage
  induction config.registerPairs with
  | nil =>
      rfl
  | cons pair rest inductionHypothesis =>
      have agree : ((address.toNat : Int) == (pair.1.toNat : Int)) =
          (address == pair.1) := by
        rw [Bool.eq_iff_iff, beq_iff_eq, beq_iff_eq, Int.ofNat_inj,
          UInt8.toNat_inj]
      rw [List.map_cons, List.lookup_cons, List.lookup_cons, agree,
        inductionHypothesis]
      cases address == pair.1 <;> rfl

/-- A byte within a mask has no bit outside it. -/
theorem and_not_eq_zero
    {value mask : UInt8}
    (within : Packing.Within value.toNat mask.toNat) :
    value &&& ~~~mask = 0 := by
  have same : value &&& mask = value := by
    apply UInt8.toNat_inj.1
    rw [UInt8.toNat_and]
    exact Int.ofNat.inj within
  rw [← same, UInt8.and_assoc]
  simp

/-- The registers are in a state that the hardware may stay in. -/
structure Approved (config : AcquisitionConfigV2) : Prop where
  burst : config.register 0x1A &&& 0x3F ≠ 0
  preDriver : config.register 0x1A &&& 0x40 = 0
  vout : config.register 0x13 &&& 0x04 = 0
  current : config.register 0x16 &&& 0x10 = 0
  voltage : config.register 0x16 &&& 0x0F = 0
  hiZ : config.register 0x16 &&& 0x20 = 0
  trigger : config.register 0x1B &&& 0x01 = 0
  standby : config.register 0x1B &&& 0x40 = 0
  sleep : config.register 0x1B &&& 0x80 = 0

/-- The three bits that change the state of the device. -/
theorem stateBits_eq_zero (tof : UInt8) :
    tof &&& (0x01 ||| 0x40 ||| 0x80) = 0 ↔
      tof &&& 0x01 = 0 ∧ tof &&& 0x40 = 0 ∧ tof &&& 0x80 = 0 := by
  have distributes (first second : UInt8) :
      tof &&& (first ||| second) = tof &&& first ||| tof &&& second :=
    UInt8.toBitVec_inj.1 BitVec.and_or_distrib_left
  rw [distributes, distributes, UInt8.or_eq_zero_iff, UInt8.or_eq_zero_iff,
    and_assoc]

/-- A clean image of the shipped registry is complete and sets no reserved
bit. -/
theorem Clean.complete
    {config : AcquisitionConfigV2}
    (clean : Clean tuss4470Parameters (registerImage config)) :
    config.registerPairs.map Prod.fst =
        AcquisitionConfigV2.boostxlDirectWriteMasks.map Prod.fst ∧
      ∀ allowed ∈ AcquisitionConfigV2.boostxlDirectWriteMasks,
        config.register allowed.1 &&& ~~~allowed.2 = 0 := by
  have addresses :
      config.registerPairs.map Prod.fst =
        AcquisitionConfigV2.boostxlDirectWriteMasks.map Prod.fst := by
    have injective :
        Function.Injective fun address : UInt8 => (address.toNat : Int) :=
      fun _ _ same => UInt8.toNat_inj.1 (Int.ofNat.inj same)
    apply List.map_injective_iff.2 injective
    have image := clean.addresses
    rw [registerImage, List.map_map] at image
    rw [List.map_map]
    exact image
  refine ⟨addresses, ?_⟩
  intro allowed member
  have masks :
      ∀ allowed ∈ AcquisitionConfigV2.boostxlDirectWriteMasks,
        tuss4470Parameters.registerWriteMasks.lookup (allowed.1.toNat : Int) =
          some (allowed.2.toNat : Int) := by
    decide
  cases found : config.registerPairs.lookup allowed.1 with
  | none =>
      rw [AcquisitionConfigV2.register, found]
      exact UInt8.zero_and
  | some value =>
      have image := lookup_registerImage config allowed.1
      rw [found] at image
      obtain ⟨mask, declared, within⟩ :=
        clean.within _ (mem_of_lookup image)
      obtain rfl :=
        Option.some.inj ((masks allowed member).symm.trans declared)
      rw [AcquisitionConfigV2.register, found]
      exact and_not_eq_zero within

/-- What the second gate asks of a clean image. -/
theorem Clean.approved_iff
    {config : AcquisitionConfigV2}
    (clean : Clean tuss4470Parameters (registerImage config))
    (count : config.sampleCount = 2048)
    (interval :
      120 ≤ config.sampleIntervalTicks ∧ config.sampleIntervalTicks ≤ 960) :
    config.validateBoostxlDirectAppliedConfig = .ok () ↔ Approved config := by
  obtain ⟨addresses, masks⟩ := clean.complete
  have whole :
      (∀ pair ∈ config.registerPairs,
        pair.1 ∈ AcquisitionConfigV2.boostxlDirectWriteMasks.map Prod.fst) ∧
      ∀ allowed ∈ AcquisitionConfigV2.boostxlDirectWriteMasks,
        allowed.1 ∈ config.registerPairs.map Prod.fst := by
    rw [addresses]
    exact ⟨fun pair member => addresses ▸ List.mem_map_of_mem member,
      fun allowed member => List.mem_map_of_mem member⟩
  simp only [AcquisitionConfigV2.validateBoostxlDirectAppliedConfig,
    bind_eq_ok, require_eq_ok, forM_eq_ok, AcquisitionConfigV2.requireMask,
    stateBits_eq_zero]
  constructor
  · rintro ⟨-, -, -, -, -, -, -, -, -, burst, -, preDriver, -, vout, -,
      current, -, voltage, -, hiZ, trigger, standby, sleep⟩
    exact ⟨burst, preDriver, vout, current, voltage, hiZ, trigger, standby,
      sleep⟩
  · rintro ⟨burst, preDriver, vout, current, voltage, hiZ, trigger, standby,
      sleep⟩
    exact ⟨(), whole, (), masks, (), count, (), interval, (), burst, (),
      preDriver, (), vout, (), current, (), voltage, (), hiZ, trigger,
      standby, sleep⟩

/-! ## What the first gate finds in the values -/

/-- The first gate finds nothing exactly when no check fails. -/
theorem exists_safetyErrors
    {requested : Requested}
    (present :
      ∀ check ∈ safetyChecks, ∃ value, requested check.1 = some value) :
    ∃ errors, safetyErrors requested = .ok errors ∧
      (errors = [] ↔
        ∀ check ∈ safetyChecks, ∀ value, requested check.1 = some value →
          check.2.1 value = false) := by
  unfold safetyErrors
  generalize safetyChecks = checks at present
  induction checks with
  | nil =>
      exact ⟨[], rfl, by simp⟩
  | cons check rest inductionHypothesis =>
      obtain ⟨field, fails, code, message⟩ := check
      obtain ⟨⟨value, wanted⟩, others⟩ := List.forall_mem_cons.1 present
      obtain ⟨errors, found, same⟩ := inductionHypothesis others
      obtain ⟨checked, mapped, final⟩ := bind_eq_ok.1 found
      obtain rfl := Except.ok.inj final
      have read : item requested field = .ok value := item_eq_ok.2 wanted
      have judged :
          (∀ other, requested field = some other → fails other = false) ↔
            fails value = false := by
        rw [wanted]
        exact ⟨fun all => all value rfl, fun holds _ found =>
          Option.some.inj found ▸ holds⟩
      rw [List.mapM_cons, List.forall_mem_cons, judged, ← same]
      dsimp only
      rw [read, ok_bind]
      cases fault : fails value with
      | true =>
          refine ⟨⟨field, code, message⟩ :: checked.filterMap id,
            bind_eq_ok.2 ⟨some ⟨field, code, message⟩ :: checked,
              bind_eq_ok.2 ⟨_, rfl, bind_eq_ok.2 ⟨checked, mapped, rfl⟩⟩,
              rfl⟩, ?_⟩
          simp
      | false =>
          refine ⟨checked.filterMap id,
            bind_eq_ok.2 ⟨none :: checked,
              bind_eq_ok.2 ⟨_, rfl, bind_eq_ok.2 ⟨checked, mapped, rfl⟩⟩,
              rfl⟩, ?_⟩
          simp

/-- A check on a value agrees with a condition on the registers. -/
def Judged
    (requested : Requested)
    (field : String)
    (fails : Value → Bool)
    (condition : Prop) :
    Prop :=
  ∃ value, requested field = some value ∧ (fails value = false ↔ condition)

/-- The value a check looks at is the only one. -/
theorem Judged.iff
    {requested : Requested}
    {field : String}
    {fails : Value → Bool}
    {condition : Prop}
    (judged : Judged requested field fails condition) :
    (∀ value, requested field = some value → fails value = false) ↔
      condition := by
  obtain ⟨value, wanted, same⟩ := judged
  rw [← same, wanted]
  exact ⟨fun all => all value rfl,
    fun holds _ found => Option.some.inj found ▸ holds⟩

section Judging

variable {requested : Requested} {config : AcquisitionConfigV2}
  {name : String} {field : RegisterField} (address mask : UInt8)

/-- A field of a register is zero when the code of its value is. -/
theorem Stores.register_and
    (stores : Stores requested (registerImage config) (name, field))
    (at_ : field.address = address.toNat)
    (under : field.mask = mask.toNat)
    (aligned : Packing.Aligned field.mask field.shift) :
    ∃ value code, requested name = some value ∧
      field.encode value = .ok code ∧
      (config.register address &&& mask = 0 ↔ code = 0) := by
  obtain ⟨value, code, registerValue, wanted, encoded, found, rfl⟩ := stores
  refine ⟨value, _, wanted, encoded, ?_⟩
  dsimp only at found ⊢
  rw [at_, lookup_registerImage] at found
  obtain ⟨byte, held, rfl⟩ := Option.map_eq_some_iff.1 found
  rw [← Packing.land_eq_zero_iff aligned, under, AcquisitionConfigV2.register,
    held, ← UInt8.toNat_inj, UInt8.toNat_and]
  exact Int.ofNat_inj.symm

variable
  (stores : Stores requested (registerImage config) (name, field))
  (at_ : field.address = address.toNat)
  (under : field.mask = mask.toNat)
  (aligned : Packing.Aligned field.mask field.shift)

include stores at_ under aligned

/-- A switch must be off. -/
theorem Stores.judged_switch
    (kind : field.encoding = .bool) :
    Judged requested name (· = .boolean true)
      (config.register address &&& mask = 0) := by
  obtain ⟨value, code, wanted, encoded, bits⟩ :=
    stores.register_and address mask at_ under aligned
  refine ⟨value, wanted, ?_⟩
  rw [bits]
  unfold RegisterField.encode at encoded
  rw [kind] at encoded
  cases value with
  | boolean flag =>
      obtain rfl := Except.ok.inj encoded
      cases flag <;> simp
  | _ => cases encoded

/-- A choice of two must be the first. -/
theorem Stores.judged_choice
    {first second : String}
    (kind : field.encoding = .enum [(0, .text first), (1, .text second)])
    (different : first ≠ second) :
    Judged requested name (·.equals (.text second))
      (config.register address &&& mask = 0) := by
  obtain ⟨value, code, wanted, encoded, bits⟩ :=
    stores.register_and address mask at_ under aligned
  refine ⟨value, wanted, ?_⟩
  rw [bits]
  unfold RegisterField.encode at encoded
  rw [kind] at encoded
  simp only [List.find?_cons, List.find?_nil] at encoded
  cases value with
  | text chosen =>
      by_cases isFirst : first = chosen
      · subst isFirst
        simp only [Value.equals_self] at encoded
        obtain rfl := Except.ok.inj encoded
        simp [Value.equals, Value.number?, different]
      · by_cases isSecond : second = chosen
        · subst isSecond
          simp [Value.equals, Value.number?, isFirst] at encoded
          simp [Value.equals, Value.number?, ← encoded]
        · simp [Value.equals, Value.number?, isFirst, isSecond] at encoded
  | _ => simp [Value.equals, Value.number?] at encoded

/-- An integer is zero when its code is. -/
theorem Stores.exists_integer
    {minimum maximum : Int}
    (kind : field.encoding = .uint minimum maximum) :
    ∃ value, requested name = some value ∧
      (value.equals (.integer 0) = true ↔
        config.register address &&& mask = 0) := by
  obtain ⟨value, code, wanted, encoded, bits⟩ :=
    stores.register_and address mask at_ under aligned
  refine ⟨value, wanted, ?_⟩
  rw [bits]
  unfold RegisterField.encode at encoded
  rw [kind] at encoded
  cases value with
  | integer number =>
      obtain ⟨⟨⟩, -, same⟩ := bind_eq_ok.1 encoded
      obtain rfl := Except.ok.inj same
      simp [Value.equals, Value.number?]
  | _ => cases encoded

/-- An integer must not be zero. -/
theorem Stores.judged_positive
    {minimum maximum : Int}
    (kind : field.encoding = .uint minimum maximum) :
    Judged requested name (·.equals (.integer 0))
      (config.register address &&& mask ≠ 0) := by
  obtain ⟨value, wanted, zero⟩ :=
    stores.exists_integer address mask at_ under aligned kind
  refine ⟨value, wanted, ?_⟩
  rw [← Bool.not_eq_true, zero]

/-- An integer must be zero. -/
theorem Stores.judged_zero
    {minimum maximum : Int}
    (kind : field.encoding = .uint minimum maximum) :
    Judged requested name (!·.equals (.integer 0))
      (config.register address &&& mask = 0) := by
  obtain ⟨value, wanted, zero⟩ :=
    stores.exists_integer address mask at_ under aligned kind
  refine ⟨value, wanted, ?_⟩
  rw [Bool.not_eq_false', zero]

end Judging

/-- The checks of the first gate are the conditions of the second one. -/
theorem safetyErrors_iff_approved
    {requested : Requested}
    {config : AcquisitionConfigV2}
    (stored : ∀ entry ∈ tuss4470Parameters.registerFields,
      Stores requested (registerImage config) entry) :
    ∃ errors, safetyErrors requested = .ok errors ∧
      (errors = [] ↔ Approved config) := by
  have stores (name : String) (field : RegisterField)
      (found : tuss4470Parameters.registerFields.lookup name = some field) :
      Stores requested (registerImage config) (name, field) :=
    stored _ ((ParameterSchema.lookup_eq_some_iff_mem
      tuss4470Parameters.fieldNames).1 found)
  have burst := (stores "BURST_PULSE" _ rfl).judged_positive
    0x1A 0x3F rfl rfl rfl rfl
  have preDriver := (stores "PRE_DRIVER_MODE" _ rfl).judged_switch
    0x1A 0x40 rfl rfl rfl rfl
  have vout := (stores "VOUT_SCALE_SEL" _ rfl).judged_choice
    0x13 0x04 rfl rfl rfl rfl (by decide)
  have current := (stores "VDRV_CURRENT_LEVEL" _ rfl).judged_choice
    0x16 0x10 rfl rfl rfl rfl (by decide)
  have voltage := (stores "VDRV_VOLTAGE_LEVEL" _ rfl).judged_zero
    0x16 0x0F rfl rfl rfl rfl
  have hiZ := (stores "VDRV_HI_Z" _ rfl).judged_switch
    0x16 0x20 rfl rfl rfl rfl
  have trigger := (stores "CMD_TRIGGER" _ rfl).judged_switch
    0x1B 0x01 rfl rfl rfl rfl
  have standby := (stores "STDBY_MODE_EN" _ rfl).judged_switch
    0x1B 0x40 rfl rfl rfl rfl
  have sleep := (stores "SLEEP_MODE_EN" _ rfl).judged_switch
    0x1B 0x80 rfl rfl rfl rfl
  have present :
      ∀ check ∈ safetyChecks, ∃ value, requested check.1 = some value := by
    have named :
        ∀ check ∈ safetyChecks,
          check.1 ∈ tuss4470Parameters.registerFields.map Prod.fst := by
      simp only [safetyChecks, List.forall_mem_cons]
      decide +kernel
    intro check member
    obtain ⟨entry, declared, same⟩ := List.mem_map.1 (named check member)
    obtain ⟨value, -, -, wanted, -⟩ := stored entry declared
    exact ⟨value, same ▸ wanted⟩
  obtain ⟨errors, found, nothing⟩ := exists_safetyErrors present
  refine ⟨errors, found, nothing.trans ?_⟩
  simp only [safetyChecks, List.forall_mem_cons, burst.iff, preDriver.iff,
    vout.iff, current.iff, voltage.iff, hiZ.iff, trigger.iff, standby.iff,
    sleep.iff]
  constructor
  · rintro ⟨burst, preDriver, vout, current, voltage, hiZ, trigger, standby,
      sleep, -⟩
    exact ⟨burst, preDriver, vout, current, voltage, hiZ, trigger, standby,
      sleep⟩
  · rintro ⟨burst, preDriver, vout, current, voltage, hiZ, trigger, standby,
      sleep⟩
    exact ⟨burst, preDriver, vout, current, voltage, hiZ, trigger, standby,
      sleep, fun _ member => absurd member List.not_mem_nil⟩

/-! ## The gates agree -/

/-- Every snapshot of a service with the shipped registry is compiled, the first
gate finds nothing in its values exactly when the second one approves the
configuration, and validation returns the configuration or the errors. -/
theorem safety_gates_agree
    {service : ParameterService}
    (shipped : service.schema = tuss4470Parameters)
    {snapshot : ConfigurationSnapshot}
    (reachable : Reachable service snapshot) :
    ∃ errors config result,
      safetyErrors snapshot.requested = .ok errors ∧
        service.compile snapshot.requested = .ok config ∧
        (errors = [] ↔
          config.validateBoostxlDirectAppliedConfig = .ok ()) ∧
        service.validate snapshot = .ok result ∧
        result.errors = errors ∧
        result.compiled = if errors = [] then some config else none := by
  have drafted := reachable.drafted (shipped ▸ declared_tuss4470Parameters)
    (shipped ▸ accepted_initialRequested)
  obtain ⟨config, compiled, clean, count, interval⟩ :=
    drafted.accepted.exists_compile shipped
  have stored := stores_of_compile (shipped ▸ combinedMasks_tuss4470Parameters)
    compiled
  rw [shipped] at stored
  obtain ⟨errors, found, nothing⟩ := safetyErrors_iff_approved stored
  have agree := nothing.trans (clean.approved_iff count interval).symm
  obtain ⟨actual, computed⟩ := drafted.actual
  by_cases safe : errors = []
  · have validated : ∃ result, service.validate snapshot = .ok result ∧
        result.errors = [] ∧ result.compiled = some config := by
      rw [validate, found, ok_bind, if_neg (not_not.2 safe), compiled, ok_bind,
        agree.1 safe, ok_bind, computed, ok_bind]
      exact ⟨_, rfl, rfl, rfl⟩
    obtain ⟨result, validated, same, made⟩ := validated
    exact ⟨errors, config, result, found, compiled, agree, validated,
      same.trans safe.symm, made.trans (if_pos safe).symm⟩
  · have refused : ∃ result, service.validate snapshot = .ok result ∧
        result.errors = errors ∧ result.compiled = none := by
      rw [validate, found, ok_bind, if_pos safe]
      exact ⟨_, rfl, rfl, rfl⟩
    obtain ⟨result, validated, same, nothing⟩ := refused
    exact ⟨errors, config, result, found, compiled, agree, validated, same,
      nothing.trans (if_neg safe).symm⟩

/-- The gates agree on a draft of the core that asks for a continuous burst. -/
theorem safety_gates_agree_continuous :
    ∃ snapshot, Reachable (tuss4470Service refusing) snapshot ∧
      snapshot.requested "BURST_PULSE" = some (.integer 0) ∧
      ∃ errors config result,
        safetyErrors snapshot.requested = .ok errors ∧
          (tuss4470Service refusing).compile snapshot.requested = .ok config ∧
          (errors = [] ↔
            config.validateBoostxlDirectAppliedConfig = .ok ()) ∧
          (tuss4470Service refusing).validate snapshot = .ok result ∧
          result.errors = errors ∧
          result.compiled = if errors = [] then some config else none := by
  have run :
      ((tuss4470Service refusing).newDraft >>= fun draft =>
        (tuss4470Service refusing).updateDraft draft
          [("BURST_PULSE", .integer 0)] >>= fun updated =>
        pure (updated.requested "BURST_PULSE")) =
        .ok (some (.integer 0)) := by
    decide +kernel
  obtain ⟨draft, created, run⟩ := bind_eq_ok.1 run
  obtain ⟨updated, update, run⟩ := bind_eq_ok.1 run
  have reachable : Reachable (tuss4470Service refusing) updated :=
    (Reachable.newDraft created).updateDraft update
  exact ⟨updated, reachable, Except.ok.inj run,
    safety_gates_agree rfl reachable⟩

end ParameterService

end Usac.Host.Parameters
