import Usac.Host.Executor

namespace Usac.Host.Parameters

open Library

/-!
# The parameter service behind the executor

The executor runs over what it needs of its parameter service, and looks at the
state and the requested values of a snapshot only. Here it gets these from the
parameter service itself, and what it sees of the snapshots is what the service
makes of them.
-/

/-- The dictionary of changes. -/
abbrev Changes := List (String × Value)

/-- What the executor looks at in a snapshot. -/
def ConfigurationSnapshot.outline (snapshot : ConfigurationSnapshot) :
    Host.ConfigurationSnapshot Requested :=
  ⟨snapshot.state, snapshot.requested⟩

/-- What the executor looks at in the result of a validation. -/
def outlineResult (result : ValidationResult ConfigurationSnapshot) :
    ValidationResult (Host.ConfigurationSnapshot Requested) :=
  ⟨result.snapshot.outline, result.errors, result.compiled⟩

namespace ParameterService

variable (service : ParameterService)

/-- The snapshot of requested values before their actual ones are known. -/
def bareSnapshot (requested : Requested) : ConfigurationSnapshot where
  state := .draft
  requested := requested
  actual := ⟨0, 0, 0, service.smclkHz, none, none, none⟩
  readback := none

/-- The part of `mark_applied` that decodes the readback. -/
def decodeReadback (configReadback : AcquisitionConfigV2) :
    Except Raised Unit := do
  let _ ← service.decodeImage (registerImage configReadback)
  let _ ← trueDivide service.smclkHz configReadback.burstPeriodTicks.toNat
  let _ ← trueDivide service.smclkHz configReadback.sampleIntervalTicks.toNat
  let _ ← trueDivide
    (configReadback.sampleCount.toNat *
      configReadback.sampleIntervalTicks.toNat * 1000)
    service.smclkHz
  pure ()

/-- Whether a field of the schema can be swept. -/
def sweepable? (name : String) : Option Bool :=
  match service.schema.registerFields.lookup name with
  | some field => some field.sweepable
  | none =>
      (service.schema.nonregisterFields.lookup name).map
        NonregisterField.sweepable

/-- The service as the executor uses it. -/
def executorService : ExecutorService Requested Changes where
  defaults := initialRequested service.schema
  noChanges := []
  change field value := [(field, value)]
  update requested changes :=
    (service.updateDraft (service.bareSnapshot requested) changes).map
      ConfigurationSnapshot.requested
  safetyErrors := safetyErrors
  compile := service.compile
  checkApplied requested compiled := do
    compiled.validateBoostxlDirectAppliedConfig
    let _ ← service.actualValues requested
    pure ()
  decodeFields := service.decodeReadback
  sweepable? := service.sweepable?

variable {service}
variable {snapshot draft : ConfigurationSnapshot}

/-- A draft that is made is one of the values it was made of. -/
theorem outline_of_draftSnapshot
    {requested : Requested}
    (drafted : service.draftSnapshot requested = .ok draft) :
    draft.outline = ⟨.draft, requested⟩ := by
  obtain ⟨actual, -, drafted⟩ := bind_eq_ok.1 drafted
  cases drafted
  rfl

/-- The new draft is that of the executor. -/
theorem outline_of_newDraft
    (created : service.newDraft = .ok draft) :
    draft.outline = service.executorService.newDraft :=
  outline_of_draftSnapshot created

/-- What an update makes is a draft. -/
theorem state_of_updateDraft
    {changes : Changes}
    (updated : service.updateDraft snapshot changes = .ok draft) :
    draft.state = .draft := by
  obtain ⟨⟨⟩, -, updated⟩ := bind_eq_ok.1 updated
  obtain ⟨⟨⟩, -, updated⟩ := bind_eq_ok.1 updated
  obtain ⟨⟨⟩, -, updated⟩ := bind_eq_ok.1 updated
  obtain ⟨changed, -, updated⟩ := bind_eq_ok.1 updated
  obtain ⟨sampled, -, updated⟩ := bind_eq_ok.1 updated
  obtain ⟨burst, -, updated⟩ := bind_eq_ok.1 updated
  exact congrArg Host.ConfigurationSnapshot.state
    (outline_of_draftSnapshot updated)

/-- An update of the service is one of the executor. -/
theorem map_outline_updateDraft
    (snapshot : ConfigurationSnapshot)
    (changes : Changes) :
    (service.updateDraft snapshot changes).map
        ConfigurationSnapshot.outline =
      service.executorService.updateDraft snapshot.outline changes := by
  have bare :
      service.updateDraft (service.bareSnapshot snapshot.requested) changes =
        service.updateDraft snapshot changes :=
    rfl
  unfold ExecutorService.updateDraft
  simp only [executorService, ConfigurationSnapshot.outline, bare]
  cases updated : service.updateDraft snapshot changes with
  | error raised => rfl
  | ok draft =>
      show Except.ok (Host.ConfigurationSnapshot.mk draft.state _) =
        Except.ok _
      rw [state_of_updateDraft updated]

/-- A validation of the service is one of the executor. -/
theorem map_outline_validate (snapshot : ConfigurationSnapshot) :
    (service.validate snapshot).map outlineResult =
      service.executorService.validate snapshot.outline := by
  refine map_bind_eq fun errors => ?_
  cases errors with
  | cons error others => rfl
  | nil =>
      refine map_bind_eq fun compiled => ?_
      simp only [executorService, bind_assoc]
      exact map_bind_eq fun _ => map_bind_eq fun _ => rfl

/-- A readback that the service accepts is one that the executor accepts. -/
theorem map_outline_markApplied
    (snapshot : ConfigurationSnapshot)
    (configReadback : AcquisitionConfigV2) :
    (service.markApplied snapshot configReadback).map
        ConfigurationSnapshot.outline =
      service.executorService.markApplied snapshot.outline configReadback := by
  unfold markApplied ExecutorService.markApplied
  simp only [executorService, decodeReadback, bind_assoc, pure_bind]
  refine map_bind_eq fun _ => map_bind_eq fun compiled => ?_
  refine map_bind_eq fun _ => map_bind_eq fun decoded => ?_
  exact map_bind_eq fun _ => map_bind_eq fun _ => map_bind_eq fun _ => rfl

end ParameterService

/-- The service of the core behind the executor. It reads no text as a
number. -/
def coreExecutorService : ExecutorService Requested Changes :=
  (ParameterService.tuss4470Service
    ParameterService.refusing).executorService

/-- What the new draft of the core is compiled to. -/
def newDraftConfig : AcquisitionConfigV2 where
  profileSchemaVersion := 2
  sampleIntervalTicks := 120
  sampleCount := 2048
  pretriggerCount := 64
  adcBits := 12
  auxFlags := 0
  vrefMv := 3300
  burstPeriodTicks := 50
  registerPairs :=
    [(0x10, 46), (0x11, 0), (0x12, 0), (0x13, 0), (0x14, 3), (0x16, 64),
      (0x17, 7), (0x18, 20), (0x1A, 1), (0x1B, 2)]
  profileSha256 := ⟨[
      0xB8, 0x82, 0x6E, 0xAF, 0x27, 0x8D, 0x73, 0x60,
      0x18, 0x9D, 0x49, 0xAC, 0xED, 0x32, 0x2F, 0xF9,
      0xE4, 0x04, 0xD8, 0x26, 0x6A, 0x25, 0xE7, 0x6A,
      0x01, 0x10, 0x65, 0xC2, 0xFD, 0xA5, 0xC9, 0x98], rfl⟩
  deviceConfigCrc32 := 1565508230

/-- What the new draft is compiled to with a later trigger point. -/
def laterTriggerConfig : AcquisitionConfigV2 where
  __ := newDraftConfig
  pretriggerCount := 128
  profileSha256 := ⟨[
      0x23, 0x23, 0x03, 0xA4, 0x5E, 0xD8, 0x28, 0x49,
      0xBB, 0xB7, 0x5E, 0x0B, 0x88, 0xD8, 0x31, 0x71,
      0x22, 0x06, 0x59, 0xC9, 0x8C, 0xEA, 0xF5, 0xA6,
      0x93, 0xC7, 0xE3, 0x16, 0x6A, 0xDE, 0x99, 0xCB], rfl⟩
  deviceConfigCrc32 := 3332145663

end Usac.Host.Parameters
