import Usac.Host.ApplyConfig

namespace Usac.Host

open Library

/-!
# One update for one tag

Of all calls that carry the same tag at most one may change the applied
configuration, and once it has every other one is stale. The tag is compared
before the lock is taken under which the configuration is applied, so this
holds only as long as no update comes between the comparison of a call and its
own.

A new session drops the applied configuration, so updates are counted within
one session.
-/

namespace Application

variable {Snapshot Changes : Type} {service : ParameterService Snapshot Changes}

/-- The recorded steps of the calls. -/
abbrev Step (Snapshot Changes : Type) :=
  Event (Application Snapshot Changes) (Input Changes)
    (Option (Except Raised Snapshot))

/-- The tag a caller is shown, with the refresh that precedes every answer. -/
def shownEtag (application : Application Snapshot Changes) : String :=
  if application.publishedGeneration = application.sessionGeneration then
    application.etag
  else
    etagOf none

/-- Whether the result accepts a call. -/
def isAccepted : Option (Except Raised Snapshot) → Bool
  | some (.ok _) => true
  | _ => false

/-- The step accepts a call that changes the applied configuration, as its
hash identifies it. -/
def Updates (step : Step Snapshot Changes) : Prop :=
  isAccepted step.output = true ∧
    step.target.shownEtag ≠ step.source.shownEtag
  deriving Decidable

/-- No update has been accepted in the session of the step. -/
def Unchanged
    (earlier : List (Step Snapshot Changes))
    (step : Step Snapshot Changes) :
    Prop :=
  ∀ other ∈ earlier,
    other.target.publishedGeneration = step.source.publishedGeneration →
    ¬Updates other
  deriving Decidable

/-- The call the step moves on. -/
def movedCall? (step : Step Snapshot Changes) :
    Option (ApplyCall Snapshot Changes) :=
  match step.input with
  | .advance index _ => step.source.calls[index]?
  | _ => none

/-- A call is accepted only while nothing has been updated, and afterwards the
comparison rejects every call. -/
structure SingleUpdate
    (earlier : List (Step Snapshot Changes))
    (step : Step Snapshot Changes) :
    Prop where
  accepted : isAccepted step.output = true → Unchanged earlier step
  stale :
    ∀ call ∈ movedCall? step,
      call.stage.isIdle = true →
      ¬Unchanged earlier step →
      step.output = some (.error staleTag)

/-- A call that applies its changes does so to the configuration whose tag it
compared. -/
def SeesApplied (step : Step Snapshot Changes) : Prop :=
  ∀ call ∈ movedCall? step,
    call.stage.isConfiguring = true →
    call.expectedEtag = step.source.shownEtag
  deriving Decidable

/-- A new call carries the tag. -/
def CarriesTag (tag : String) : Input Changes → Prop
  | .call _ expectedEtag => expectedEtag = tag
  | _ => True

/-! ## What one step does to the shown tag -/

/-- The step leaves the session and the shown tag. -/
structure KeepsTag (source target : Application Snapshot Changes) : Prop where
  session : target.publishedGeneration = source.publishedGeneration
  shown : target.shownEtag = source.shownEtag
  current :
    source.sessionGeneration = source.publishedGeneration →
    target.sessionGeneration = target.publishedGeneration

namespace KeepsTag

/-- A state keeps its own tag. -/
theorem refl (application : Application Snapshot Changes) :
    KeepsTag application application :=
  ⟨rfl, rfl, id⟩

/-- Two steps that keep the tag. -/
theorem trans
    {first second third : Application Snapshot Changes}
    (before : KeepsTag first second)
    (after : KeepsTag second third) :
    KeepsTag first third where
  session := after.session.trans before.session
  shown := after.shown.trans before.shown
  current := after.current ∘ before.current

/-- Moving a call keeps the tag. -/
theorem moveTo
    (application : Application Snapshot Changes)
    (index : Nat)
    (stage : Stage Snapshot) :
    KeepsTag application (application.moveTo index stage) :=
  ⟨rfl, rfl, id⟩

/-- The refresh shows the tag it makes true. -/
theorem refresh
    {application refreshed : Application Snapshot Changes}
    (done : application.refreshSession service = .ok refreshed) :
    KeepsTag application refreshed ∧
      refreshed.publishedGeneration = refreshed.sessionGeneration ∧
      refreshed.calls = application.calls := by
  unfold refreshSession at done
  by_cases same :
      application.publishedGeneration = application.sessionGeneration
  · rw [if_pos same] at done
    obtain rfl := Except.ok.inj done
    exact ⟨refl application, same, rfl⟩
  · rw [if_neg same] at done
    obtain ⟨snapshot, -, rest⟩ := bind_eq_ok.1 done
    obtain rfl := Except.ok.inj rest
    refine ⟨⟨rfl, ?_, fun _ => rfl⟩, rfl, rfl⟩
    simp only [shownEtag, if_neg same, if_true]
    rfl

end KeepsTag

/-- The tags of the calls. -/
def tags (application : Application Snapshot Changes) : List String :=
  application.calls.map ApplyCall.expectedEtag

/-- Moving a call leaves its tag. -/
@[simp] theorem tags_moveTo
    (application : Application Snapshot Changes)
    (index : Nat)
    (stage : Stage Snapshot) :
    (application.moveTo index stage).tags = application.tags := by
  refine List.ext_getElem? fun position => ?_
  simp only [tags, moveTo, List.getElem?_map, List.getElem?_modify]
  rcases application.calls[position]? with _ | call
  · rfl
  · by_cases same : index = position <;> simp [same]

/-- A step of the calls that is not a new session: it keeps the tag and
accepts nothing, or it is the step of a call that applies its changes. -/
structure Advances
    (source target : Application Snapshot Changes)
    (call : ApplyCall Snapshot Changes)
    (output : Option (Except Raised Snapshot)) :
    Prop where
  tags : target.tags = source.tags
  session : target.publishedGeneration = source.publishedGeneration
  shown :
    KeepsTag source target ∧ isAccepted output = false ∨
      call.stage.isConfiguring = true ∧
        target.sessionGeneration = target.publishedGeneration

/-- A step that keeps the tag, accepts nothing and moves a call. -/
theorem Advances.of_keepsTag
    {source target : Application Snapshot Changes}
    {call : ApplyCall Snapshot Changes}
    {output : Option (Except Raised Snapshot)}
    (tags : target.tags = source.tags)
    (keeps : KeepsTag source target)
    (notAccepted : isAccepted output = false) :
    Advances source target call output :=
  ⟨tags, keeps.session, .inl ⟨keeps, notAccepted⟩⟩

/-- The validated part of `apply_changes` makes the session current and leaves
the calls. -/
theorem applyValidated_ok
    {application applied : Application Snapshot Changes}
    {changes : Changes}
    {readback : Except Raised AcquisitionConfigV2}
    {snapshot : Snapshot}
    (done :
      application.applyValidated service changes readback =
        .ok (applied, snapshot)) :
    applied.publishedGeneration = application.publishedGeneration ∧
      applied.sessionGeneration = applied.publishedGeneration ∧
      applied.calls = application.calls := by
  obtain ⟨target, -, validated⟩ := bind_eq_ok.1 done
  obtain ⟨result, -, decided⟩ := bind_eq_ok.1 validated
  rcases noErrors : result.errors with _ | ⟨error, rest⟩
  · rcases compiled : result.compiled with _ | config
    · simp [noErrors, compiled] at decided
    · simp only [noErrors, compiled] at decided
      obtain ⟨device, -, marked⟩ := bind_eq_ok.1 decided
      obtain ⟨marked, -, final⟩ := bind_eq_ok.1 marked
      obtain ⟨rfl, -⟩ := Prod.mk.inj (Except.ok.inj final)
      exact ⟨rfl, rfl, rfl⟩
  · simp [noErrors] at decided

/-- `apply_changes` keeps the tag unless it succeeds. -/
theorem advances_applyChanges
    (service : ParameterService Snapshot Changes)
    (application : Application Snapshot Changes)
    (call : ApplyCall Snapshot Changes)
    (configuring : call.stage.isConfiguring = true)
    (readback : Except Raised AcquisitionConfigV2) :
    Advances application
      (application.applyChanges service call.changes readback).1 call
      (some (application.applyChanges service call.changes readback).2) := by
  unfold applyChanges
  rcases refreshes : application.refreshSession service with raised | refreshed
  · exact .of_keepsTag rfl (.refl application) rfl
  · obtain ⟨keeps, current, sameCalls⟩ := KeepsTag.refresh refreshes
    have sameTags : refreshed.tags = application.tags := by
      simp only [tags, sameCalls]
    dsimp only
    rcases applies :
        refreshed.applyValidated service call.changes readback with
      raised | ⟨applied, snapshot⟩
    · exact .of_keepsTag sameTags keeps rfl
    · obtain ⟨sameSession, nowCurrent, appliedCalls⟩ :=
        applyValidated_ok applies
      refine ⟨?_, sameSession.trans keeps.session,
        .inr ⟨configuring, nowCurrent⟩⟩
      simpa only [tags, appliedCalls] using sameTags

/-- The comparison keeps the tag. -/
theorem advances_compareEtag
    (service : ParameterService Snapshot Changes)
    (application : Application Snapshot Changes)
    (index : Nat)
    (call : ApplyCall Snapshot Changes) :
    Advances application (application.compareEtag service index call).1 call
      (application.compareEtag service index call).2 := by
  unfold compareEtag
  rcases refreshes : application.refreshSession service with raised | refreshed
  · exact .of_keepsTag (tags_moveTo _ _ _) (.moveTo _ _ _) rfl
  · obtain ⟨keeps, current, sameCalls⟩ := KeepsTag.refresh refreshes
    have sameTags : refreshed.tags = application.tags := by
      simp only [tags, sameCalls]
    dsimp only
    by_cases stale : call.expectedEtag ≠ refreshed.etag
    · rw [if_pos stale]
      exact .of_keepsTag ((tags_moveTo _ _ _).trans sameTags)
        (keeps.trans (.moveTo _ _ _)) rfl
    · rw [if_neg stale]
      exact .of_keepsTag ((tags_moveTo _ _ _).trans sameTags)
        (keeps.trans (.moveTo _ _ _)) rfl

/-- Every step of a call keeps the tag or applies its changes. -/
theorem advances_advance
    (service : ParameterService Snapshot Changes)
    (application : Application Snapshot Changes)
    (index : Nat)
    (call : ApplyCall Snapshot Changes)
    (readback : Except Raised AcquisitionConfigV2) :
    Advances application
      (application.advance service index call readback).1 call
      (application.advance service index call readback).2 := by
  unfold advance
  rcases stage : call.stage with _ | _ | _ | _ | _ | result | result
  · dsimp only
    by_cases connected : application.connected = true
    · rw [if_pos connected]
      exact .of_keepsTag (tags_moveTo _ _ _) (.moveTo _ _ _) rfl
    · rw [if_neg connected]
      exact .of_keepsTag (tags_moveTo _ _ _) (.moveTo _ _ _) rfl
  · dsimp only
    by_cases active : application.active = true
    · rw [if_pos active]
      exact .of_keepsTag (tags_moveTo _ _ _) (.moveTo _ _ _) rfl
    · rw [if_neg active]
      exact .of_keepsTag (tags_moveTo _ _ _) (.moveTo _ _ _) rfl
  · exact advances_compareEtag service application index call
  · exact .of_keepsTag (tags_moveTo _ _ _) ⟨rfl, rfl, id⟩ rfl
  · have applies :=
      advances_applyChanges service application call
        (by simp [stage, Stage.isConfiguring]) readback
    refine ⟨(tags_moveTo _ _ _).trans applies.tags, applies.session, ?_⟩
    rcases applies.shown with ⟨keeps, notAccepted⟩ | accepted
    · exact .inl ⟨keeps.trans (.moveTo _ _ _), notAccepted⟩
    · exact .inr accepted
  · exact .of_keepsTag (tags_moveTo _ _ _) ⟨rfl, rfl, id⟩ rfl
  · exact .of_keepsTag rfl (.refl application) rfl

/-! ## Runs whose calls carry one tag -/

/-- After an update the applied configuration no longer has the tag. -/
structure UpdatedOnce
    (tag : String)
    (earlier : List (Step Snapshot Changes))
    (application : Application Snapshot Changes) :
    Prop where
  calls : ∀ carried ∈ application.tags, carried = tag
  past :
    ∀ other ∈ earlier,
      other.target.publishedGeneration ≤ application.publishedGeneration
  moved :
    ∀ other ∈ earlier,
      other.target.publishedGeneration = application.publishedGeneration →
      Updates other →
      application.sessionGeneration = application.publishedGeneration ∧
        application.shownEtag ≠ tag

/-- In the session of an update the step is not the first to accept one. -/
theorem UpdatedOnce.unchanged
    {tag : String}
    {earlier : List (Step Snapshot Changes)}
    {step : Step Snapshot Changes}
    (updated : UpdatedOnce tag earlier step.source)
    (current : step.source.shownEtag = tag) :
    Unchanged earlier step := by
  intro other member session updates
  exact (updated.moved other member session updates).2 current

/-- What a step of the machine can do to the applied configuration: nothing,
a new session, or the changes of the call it moves. -/
inductive Outcome (step : Step Snapshot Changes) : Prop where
  | keeps
      (keeps : KeepsTag step.source step.target)
      (notAccepted : isAccepted step.output = false)
  | session
      (later :
        step.target.publishedGeneration =
          step.source.publishedGeneration + 1)
      (notAccepted : isAccepted step.output = false)
  | applies
      (call : ApplyCall Snapshot Changes)
      (moved : call ∈ movedCall? step)
      (configuring : call.stage.isConfiguring = true)
      (session :
        step.target.publishedGeneration = step.source.publishedGeneration)
      (current :
        step.target.sessionGeneration = step.target.publishedGeneration)

/-- Every step of the machine. -/
theorem outcome_step
    (service : ParameterService Snapshot Changes)
    (application : Application Snapshot Changes)
    (input : Input Changes) :
    Outcome ((machine service).event application input) := by
  cases input with
  | call changes expectedEtag =>
      exact .keeps ⟨rfl, rfl, id⟩ rfl
  | connection connected =>
      exact .keeps ⟨rfl, rfl, id⟩ rfl
  | publish =>
      exact .session rfl rfl
  | runSession active =>
      exact .keeps ⟨rfl, rfl, id⟩ rfl
  | advance index readback =>
      rcases found : application.calls[index]? with _ | call
      · refine .keeps ?_ ?_ <;> simp only [Machine.event, machine, found]
        · exact .refl application
        · rfl
      · have advances :=
          advances_advance service application index call readback
        have moved :
            call ∈ movedCall?
              ((machine service).event application
                (.advance index readback)) := found
        rcases advances.shown with ⟨keeps, notAccepted⟩ | ⟨configuring, current⟩
        · refine .keeps ?_ ?_ <;> simp only [Machine.event, machine, found]
          · exact keeps
          · exact notAccepted
        · refine .applies call moved configuring ?_ ?_ <;>
            simp only [Machine.event, machine, found]
          · exact advances.session
          · exact current

/-- The tags after a step are those of before and of a new call. -/
theorem tags_step
    {tag : String}
    {application : Application Snapshot Changes}
    {input : Input Changes}
    (carried : ∀ other ∈ application.tags, other = tag)
    (carries : CarriesTag tag input) :
    ∀ other ∈ ((machine service).event application input).target.tags,
      other = tag := by
  cases input with
  | call changes expectedEtag =>
      intro other member
      rw [show ((machine service).event application
          (.call changes expectedEtag)).target.tags =
            application.tags ++ [expectedEtag] from
          List.map_append] at member
      rcases List.mem_append.1 member with before | last
      · exact carried other before
      · exact (List.mem_singleton.1 last).trans carries
  | connection connected =>
      exact carried
  | publish =>
      exact carried
  | runSession active =>
      exact carried
  | advance index readback =>
      rcases found : application.calls[index]? with _ | call
      · simpa only [Machine.event, machine, found] using carried
      · have advances :=
          advances_advance service application index call readback
        simpa only [Machine.event, machine, found, advances.tags] using carried

/-- A call that is moved carries the tag. -/
theorem UpdatedOnce.moved_tag
    {tag : String}
    {earlier : List (Step Snapshot Changes)}
    {step : Step Snapshot Changes}
    (updated : UpdatedOnce tag earlier step.source)
    {call : ApplyCall Snapshot Changes}
    (moved : call ∈ movedCall? step) :
    call.expectedEtag = tag := by
  unfold movedCall? at moved
  rcases input : step.input with _ | ⟨index, readback⟩ | _ | _ | _ <;>
    simp only [input, Option.not_mem_none] at moved
  exact updated.calls _
    (List.mem_map_of_mem (List.mem_of_getElem? moved))

/-- One step keeps the record of updates. -/
theorem UpdatedOnce.step
    {tag : String}
    {earlier : List (Step Snapshot Changes)}
    {step : Step Snapshot Changes}
    (updated : UpdatedOnce tag earlier step.source)
    (carried : ∀ other ∈ step.target.tags, other = tag)
    (outcome : Outcome step)
    (seen : SeesApplied step) :
    UpdatedOnce tag (earlier ++ [step]) step.target where
  calls := carried
  past := by
    intro other member
    have grows :
        step.source.publishedGeneration ≤ step.target.publishedGeneration := by
      cases outcome with
      | keeps keeps => exact keeps.session.ge
      | session later => omega
      | applies call moved configuring session => exact session.ge
    rcases List.mem_append.1 member with before | last
    · exact (updated.past other before).trans grows
    · rw [List.mem_singleton.1 last]
  moved := by
    intro other member session updates
    rcases List.mem_append.1 member with before | last
    · have notLater := updated.past other before
      cases outcome with
      | keeps keeps =>
          obtain ⟨wasCurrent, differs⟩ :=
            updated.moved other before (session.trans keeps.session) updates
          exact ⟨keeps.current wasCurrent, keeps.shown.trans_ne differs⟩
      | session later =>
          omega
      | applies call moved configuring sameSession =>
          have sawTag :=
            (seen call moved configuring).symm.trans (updated.moved_tag moved)
          exact absurd updates
            (updated.unchanged sawTag other before
              (session.trans sameSession))
    · rw [List.mem_singleton.1 last] at updates
      cases outcome with
      | keeps _ notAccepted =>
          exact absurd updates.1 (by simp [notAccepted])
      | session _ notAccepted =>
          exact absurd updates.1 (by simp [notAccepted])
      | applies call moved configuring _ current =>
          have sawTag :=
            (seen call moved configuring).symm.trans (updated.moved_tag moved)
          exact ⟨current, sawTag ▸ updates.2⟩

/-- After an update a comparison rejects the call. -/
theorem UpdatedOnce.stale
    {tag : String}
    {earlier : List (Step Snapshot Changes)}
    {application : Application Snapshot Changes}
    {input : Input Changes}
    (updated : UpdatedOnce tag earlier application)
    {call : ApplyCall Snapshot Changes}
    (moved : call ∈ movedCall? ((machine service).event application input))
    (idle : call.stage.isIdle = true)
    (changed : ¬Unchanged earlier ((machine service).event application input)) :
    ((machine service).event application input).output =
      some (.error staleTag) := by
  have sameTag := updated.moved_tag moved
  unfold Unchanged at changed
  push Not at changed
  obtain ⟨other, before, session, updates⟩ := changed
  obtain ⟨current, differs⟩ := updated.moved other before session updates
  rcases input with _ | ⟨index, readback⟩ | _ | _ | _ <;>
    try cases moved
  have found : application.calls[index]? = some call := moved
  have refreshed :
      application.refreshSession service = .ok application :=
    if_pos current.symm
  have stage : call.stage = .idle := by
    rcases shape : call.stage <;> simp [shape, Stage.isIdle] at idle
    rfl
  have stale : call.expectedEtag ≠ application.etag := by
    rw [sameTag]
    simpa only [shownEtag, if_pos current.symm] using differs.symm
  simp only [Machine.event, machine, found, advance, stage, compareEtag,
    refreshed, if_pos stale, reject]

/--
In every run whose calls carry one tag, if every call that applies its changes
does so while its tag is still the applied one, at most one update is accepted
and every call compared later is stale.
-/
theorem singleUpdate_of_seesApplied
    (service : ParameterService Snapshot Changes)
    (tag : String)
    (inputs : List (Input Changes))
    (carry : ∀ input ∈ inputs, CarriesTag tag input)
    (seen :
      EveryStep (fun _ step => SeesApplied step)
        ((machine service).trace (started service) inputs)) :
    EveryStep SingleUpdate
      ((machine service).trace (started service) inputs) := by
  have conditioned :
      EveryStep
        (fun _ step => SeesApplied step ∧ CarriesTag tag step.input)
        ((machine service).trace (started service) inputs) := by
    refine (EveryStep.forall_iff _ _).2 fun step member => ?_
    exact ⟨(EveryStep.forall_iff _ _).1 seen step member,
      carry _ (Machine.input_mem_of_mem_trace _ member)⟩
  refine (machine service).everyStep_of_invariant (UpdatedOnce tag)
    ⟨by simp [tags, started], by simp, by simp⟩ ?_ ?_ inputs conditioned
  · intro earlier application input updated condition
    exact updated.step (tags_step updated.calls condition.2)
      (outcome_step service application input) condition.1
  · intro earlier application input updated condition
    constructor
    · intro accepted
      cases outcome_step service application input with
      | keeps _ notAccepted =>
          exact absurd accepted (by simp [notAccepted])
      | session _ notAccepted =>
          exact absurd accepted (by simp [notAccepted])
      | applies call moved configuring =>
          exact updated.unchanged
            ((condition.1 call moved configuring).symm.trans
              (updated.moved_tag moved))
    · intro call moved idle changed
      exact updated.stale moved idle changed

end Application

/-! ## Two calls that compare before either applies -/

/-- `ConfigState`. -/
inductive ConfigState where
  | draft
  | validated
  | applied
  deriving Repr, DecidableEq

/-- The plainly assigned acquisition fields of a `ConfigurationSnapshot`, with
every other field at its schema default. -/
structure AcquisitionSnapshot where
  state : ConfigState
  pretriggerCount : Int
  out3Enabled : Bool
  out4Enabled : Bool
  deriving Repr, DecidableEq

/-- Changes of these fields. -/
structure AcquisitionChanges where
  pretriggerCount : Option Int := none
  out3Enabled : Option Bool := none
  out4Enabled : Option Bool := none
  deriving Repr, DecidableEq

namespace AcquisitionSnapshot

/-- `update_draft`. -/
def updateDraft
    (snapshot : AcquisitionSnapshot)
    (changes : AcquisitionChanges) :
    Except Raised AcquisitionSnapshot := do
  require
    (∀ value ∈ changes.pretriggerCount, 0 ≤ value ∧ value ≤ 2047)
    (.valueError "pretrigger_count is outside its legal range")
  pure {
    state := .draft
    pretriggerCount :=
      changes.pretriggerCount.getD snapshot.pretriggerCount
    out3Enabled := changes.out3Enabled.getD snapshot.out3Enabled
    out4Enabled := changes.out4Enabled.getD snapshot.out4Enabled
  }

/-- `_compile`. -/
def compile (snapshot : AcquisitionSnapshot) :
    Except Raised AcquisitionConfigV2 :=
  AcquisitionConfigV2.create {
    profileSchemaVersion := AcquisitionConfigV2.currentSchemaVersion
    sampleIntervalTicks := 120
    sampleCount := 2048
    pretriggerCount := snapshot.pretriggerCount.toNat.toUInt16
    adcBits := 12
    auxFlags :=
      snapshot.out3Enabled.toUInt8 ||| (snapshot.out4Enabled.toUInt8 <<< 1)
    vrefMv := 3300
    burstPeriodTicks := 50
    registerPairs :=
      [(0x10, 0x2E), (0x11, 0x00), (0x12, 0x00), (0x13, 0x00), (0x14, 0x03),
        (0x16, 0x40), (0x17, 0x07), (0x18, 0x14), (0x1A, 0x01), (0x1B, 0x02)]
    profileSha256 := Bytes.zero 32
    deviceConfigCrc32 := 0
  }

/-- `validate`. The default registers raise none of the safety errors. -/
def validate (snapshot : AcquisitionSnapshot) :
    Except Raised (ValidationResult AcquisitionSnapshot) := do
  let compiled ← snapshot.compile
  compiled.validateBoostxlDirectAppliedConfig
  pure ⟨{ snapshot with state := .validated }, [], some compiled⟩

/-- `mark_applied`. -/
def markApplied
    (snapshot : AcquisitionSnapshot)
    (configReadback : AcquisitionConfigV2) :
    Except Raised AcquisitionSnapshot := do
  require (snapshot.state = .validated)
    (.valueError "only a VALIDATED configuration can become APPLIED")
  let compiled ← snapshot.compile
  require (configReadback = compiled)
    (.valueError
      "configuration readback does not match the validated target")
  pure { snapshot with state := .applied }

/-- The parameter service over these fields. -/
def service : ParameterService AcquisitionSnapshot AcquisitionChanges where
  newDraft := ⟨.draft, 64, false, false⟩
  unchanged := {}
  updateDraft := updateDraft
  validate := validate
  markApplied := markApplied

end AcquisitionSnapshot

namespace Application

/-- The readback of a device that applies the pretrigger count. -/
def readback (pretriggerCount : Int) : Except Raised AcquisitionConfigV2 :=
  AcquisitionSnapshot.compile ⟨.validated, pretriggerCount, false, false⟩

/-- Two calls with the tag of a device that has not been configured. -/
def twoCalls : List (Input AcquisitionChanges) :=
  [.call { pretriggerCount := some 32 } (etagOf none),
    .call { pretriggerCount := some 96 } (etagOf none)]

/-- The steps of a call to its comparison. -/
def comparing (index : Nat) : List (Input AcquisitionChanges) :=
  [.advance index (readback 0), .advance index (readback 0),
    .advance index (readback 0)]

/-- The steps of a call from its comparison to its result. -/
def applying (index : Nat) (pretriggerCount : Int) :
    List (Input AcquisitionChanges) :=
  [.advance index (readback 0), .advance index (readback pretriggerCount)]

/-- The record of the two calls, taken in an order of their steps. -/
def recordOf (steps : List (Input AcquisitionChanges)) :
    List (Step AcquisitionSnapshot AcquisitionChanges) :=
  (machine AcquisitionSnapshot.service).trace
    (started AcquisitionSnapshot.service) (twoCalls ++ steps)

set_option maxRecDepth 100000 in
/-- One call after the other. -/
theorem singleUpdate_sequential :
    EveryStep SingleUpdate
      (recordOf (comparing 0 ++ applying 0 32 ++ comparing 1)) :=
  singleUpdate_of_seesApplied AcquisitionSnapshot.service (etagOf none)
    (twoCalls ++ (comparing 0 ++ applying 0 32 ++ comparing 1))
    (by
      intro input member
      simp only [twoCalls, comparing, applying, List.cons_append,
        List.nil_append, List.mem_cons, List.not_mem_nil, or_false] at member
      rcases member with rfl | rfl | rfl | rfl | rfl | rfl | rfl | rfl | rfl |
          rfl <;>
        first | rfl | trivial)
    (by decide +kernel)

set_option maxRecDepth 100000 in
/-- Both calls compare before either applies, and both are accepted. -/
theorem not_singleUpdate_interleaved :
    ¬EveryStep SingleUpdate
      (recordOf
        (comparing 0 ++ comparing 1 ++ applying 0 32 ++ applying 1 96)) := by
  intro every
  have accepted :
      EveryStep
        (fun earlier step =>
          isAccepted step.output = true → Unchanged earlier step)
        (recordOf
          (comparing 0 ++ comparing 1 ++ applying 0 32 ++ applying 1 96)) :=
    every.imp fun _ _ single => single.accepted
  revert accepted
  decide +kernel

end Application

end Usac.Host
