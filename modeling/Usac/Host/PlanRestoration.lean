import Usac.Host.AppliedBelief

namespace Usac.Host

open Library

/-!
# Run plans and their restoration

A plan takes its captures target by target and loop by loop, each with the
configuration of its step in force, and restores the configuration it found.
The restoration is skipped when the executor believes that configuration to be
in force. The belief is wrong when the first step that is applied fails
half-way, and it overlooks that other requested values can be compiled to the
same configuration.
-/

namespace ExecutorService

variable {Requested Changes : Type}
  {service : ExecutorService Requested Changes}

/-- What has passed the checks passes them again. -/
theorem Validated.again
    {step : RunStep Requested}
    (validated : service.Validated step)
    (state : Parameters.ConfigState)
    (invalid : List FieldValidationError → Raised) :
    service.validatedTarget { step.snapshot with state := state } invalid =
      .ok step := by
  have validates :
      service.validate { step.snapshot with state := state } =
        .ok ⟨step.snapshot, [], some step.compiled⟩ := by
    refine bind_eq_ok.2 ⟨_, validated.safe, ?_⟩
    refine bind_eq_ok.2 ⟨_, validated.compiles, ?_⟩
    refine bind_eq_ok.2 ⟨_, validated.allowed, ?_⟩
    show Except.ok (ValidationResult.mk
      { step.snapshot with state := .validated } [] _) = _
    rw [← validated.state]
  exact bind_eq_ok.2 ⟨_, validates, rfl⟩

/-- The target of a sweep point is compiled from the baseline with the one
change of the point. -/
def Sweeps
    (service : ExecutorService Requested Changes)
    (baseline : ConfigurationSnapshot Requested)
    (field : String)
    (value : Parameters.Value)
    (target : RunStep Requested) :
    Prop :=
  service.update baseline.requested (service.change field value) =
      .ok target.snapshot.requested ∧
    service.Validated target

/-- The targets of a plan: the baseline itself, or one for each point. -/
def Targets
    (service : ExecutorService Requested Changes)
    (baseline : ConfigurationSnapshot Requested) :
    Option SweepPlan → List (RunStep Requested) → Prop
  | none, targets =>
      ∃ target,
        targets = [target] ∧
          target.snapshot.requested = baseline.requested ∧
          service.Validated target
  | some sweep, targets =>
      List.Forall₂ (service.Sweeps baseline sweep.field) sweep.values targets

theorem planTargets_targets
    {baseline : ConfigurationSnapshot Requested}
    {sweep : Option SweepPlan}
    {targets : List (RunStep Requested)}
    (planned : service.planTargets baseline sweep = .ok targets) :
    service.Targets baseline sweep targets := by
  unfold planTargets at planned
  cases sweep with
  | none =>
      obtain ⟨only, validated, planned⟩ := bind_eq_ok.1 planned
      cases planned
      obtain ⟨valid, asked⟩ := validatedTarget_validated validated
      exact ⟨only, rfl, asked, valid⟩
  | some sweep =>
      obtain ⟨⟨⟩, _, planned⟩ := bind_eq_ok.1 planned
      obtain ⟨⟨⟩, _, mapped⟩ := bind_eq_ok.1 planned
      have swept :
          List.Forall₂
            (fun point target =>
              service.Sweeps baseline sweep.field point.1 target)
            sweep.values.zipIdx targets := by
        refine (mapM_eq_ok.1 mapped).imp fun point target found => ?_
        obtain ⟨draft, drafted, validated⟩ := bind_eq_ok.1 found
        obtain ⟨valid, asked⟩ := validatedTarget_validated validated
        obtain ⟨requested, updates, rfl⟩ :=
          updateDraft_eq_ok.1 (sweepDraft_updates drafted)
        exact ⟨asked ▸ updates, valid⟩
      have values := List.forall₂_map_left_iff.2 swept
      rwa [List.zipIdx_map_fst] at values

/-- Every target of a plan has passed the checks. -/
theorem Targets.validated
    {baseline : ConfigurationSnapshot Requested}
    {sweep : Option SweepPlan}
    {targets : List (RunStep Requested)}
    (planned : service.Targets baseline sweep targets) :
    ∀ target ∈ targets, service.Validated target := by
  cases sweep with
  | none =>
      obtain ⟨target, rfl, -, valid⟩ := planned
      intro other member
      exact List.mem_singleton.1 member ▸ valid
  | some sweep =>
      obtain ⟨field, values⟩ := sweep
      unfold Targets at planned
      dsimp only at planned
      induction planned with
      | nil =>
          intro target member
          cases member
      | cons swept _ inductionHypothesis =>
          intro target member
          rcases List.mem_cons.1 member with rfl | later
          · exact swept.2
          · exact inductionHypothesis target later

/-- How many targets a plan has. -/
def targetCount : Option SweepPlan → Nat
  | none => 1
  | some sweep => sweep.values.length

theorem Targets.length_eq
    {baseline : ConfigurationSnapshot Requested}
    {sweep : Option SweepPlan}
    {targets : List (RunStep Requested)}
    (planned : service.Targets baseline sweep targets) :
    targets.length = targetCount sweep := by
  cases sweep with
  | none =>
      obtain ⟨target, rfl, -⟩ := planned
      rfl
  | some sweep => exact (List.Forall₂.length_eq planned).symm

end ExecutorService

/-- A client that may be lost leaves the executor, and never goes back to an
earlier session. -/
theorem ExecutorRun.perhapsDisconnect
    {Requested : Type}
    (run : ExecutorRun Requested)
    (loses : Bool) :
    (if loses then run.disconnect else run).executor = run.executor ∧
      run.generation ≤
        (if loses then run.disconnect else run).generation := by
  cases loses with
  | false => exact ⟨rfl, Nat.le_refl _⟩
  | true =>
      refine ⟨run.disconnect_executor, ?_⟩
      show run.generation ≤ run.disconnect.generation
      unfold ExecutorRun.disconnect
      split
      · exact Nat.le_succ _
      · exact Nat.le_refl _

/-- A client that is lost is gone. -/
theorem ExecutorRun.disconnect_unconnected
    {Requested : Type}
    (run : ExecutorRun Requested) :
    ¬run.disconnect.connected = true := by
  unfold ExecutorRun.disconnect
  split
  · exact Bool.false_ne_true
  · next unconnected => exact unconnected

namespace DeviceRun

variable {Requested Changes : Type}
  {service : ExecutorService Requested Changes}

/-! ## The law -/

/-- The plan in the lock, while it takes its steps. -/
def planned (run : ExecutorRun Requested) : Option (PlanRest Requested) :=
  run.work.bind Work.plan?

/-- The record of a plan that begins says what is to be captured: every target
in its loops, for targets that do not depend on each other. -/
def BeginsWith
    (service : ExecutorService Requested Changes)
    (plan : RunPlanV1)
    (record : PlanRecord Requested) :
    Prop :=
  ∃ targets,
    service.Targets record.baselineSnapshot plan.sweep targets ∧
      record.steps = targets.flatMap (List.replicate plan.loops) ∧
      record.steps.length =
        ExecutorService.targetCount plan.sweep * plan.loops ∧
      record.captured = []

/-- A client call or the publication of a readback raises. -/
def Raises
    (service : ExecutorService Requested Changes)
    (run : ExecutorRun Requested)
    (input : DeviceInput Changes) :
    Prop :=
  match run.work, input with
  | some (.applying _ _), .fails _ _ => True
  | some (.capturing _ _), .fails _ _ => True
  | some (.applying _ _), .returns _ => run.connected ≠ true
  | some (.capturing _ _), .returns _ => run.connected ≠ true
  | some (.recording target readback _ _), .proceed _ =>
      ∃ raised,
        run.executor.publishApplied service target readback run.generation =
          .error raised
  | _, _ => False

/-- A plan with steps left is found cancelled. -/
def Cancels
    (run : ExecutorRun Requested)
    (input : DeviceInput Changes) :
    Prop :=
  match run.work, input with
  | some (.pausing rest), .proceed cancelled =>
      cancelled = true ∧ rest.steps ≠ []
  | _, _ => False

/-- The client is there after the step, and no restoration has failed in it. -/
def StillAnswers
    (service : ExecutorService Requested Changes)
    (event : Step Requested Changes) :
    Prop :=
  event.target.run.connected = true ∧
    ¬(planned event.source.run = none ∧
      Raises service event.source.run event.input)

/-- The law of run plans. -/
structure RunsPlan
    (service : ExecutorService Requested Changes)
    (event : Step Requested Changes) :
    Prop where
  begins :
    ∀ plan record,
      event.source.plan = none →
        event.input = .call (.executeRunPlan plan) →
        event.target.plan = some record →
        BeginsWith service plan record
  captures :
    ∀ record session config,
      event.source.plan = some record →
        event.output = .captureOnce session config →
        record.captured ++ [config] <+:
            record.steps.map RunStep.compiled ∧
          event.source.run.executor.appliedConfig = some config ∧
          event.source.device = some config
  completes :
    ∀ record rest,
      event.source.plan = some record →
        planned event.source.run = some rest →
        planned event.target.run = none →
        ¬Raises service event.source.run event.input →
        ¬Cancels event.source.run event.input →
        record.captured = record.steps.map RunStep.compiled
  restores :
    ∀ record,
      event.source.plan = some record →
        event.target.run.work = none →
        StillAnswers service event →
        event.target.run.executor.snapshot = record.baselineSnapshot ∧
          event.target.run.executor.appliedConfig =
            some record.baselineConfig ∧
          event.target.device = some record.baselineConfig

/-! ## The condition -/

/-- The condition under which plans run by the law. -/
structure Undeceived
    (service : ExecutorService Requested Changes)
    (event : Step Requested Changes) :
    Prop where
  /-- The device has the baseline when a plan begins. -/
  found :
    ∀ record,
      event.source.plan = none →
        event.target.plan = some record →
        event.source.device = some record.baselineConfig
  /-- A readback is published in the session it comes from, or the device still
  has it. -/
  publishing :
    ∀ record target readback session plan cancelled executor,
      event.source.plan = some record →
        event.source.run.work =
          some (.recording target readback session plan) →
        event.input = .proceed cancelled →
        event.source.run.executor.publishApplied service target readback
            event.source.run.generation =
          .ok executor →
        session = event.source.run.generation ∨
          event.source.device = some readback
  /-- A capture is sent in the session the executor knows. -/
  capturing :
    ∀ record session config,
      event.source.plan = some record →
        event.output = .captureOnce session config →
        event.source.run.generation =
          event.source.run.executor.sessionGeneration
  /-- A plan that ends over its baseline ends in the session the executor
  knows, or without a client. -/
  ending :
    ∀ record rest,
      event.source.plan = some record →
        planned event.source.run = some rest →
        event.target.run.work = none →
        event.target.run.connected = true →
        event.source.run.generation =
          event.source.run.executor.sessionGeneration
  /-- An `apply_config` that ends a plan over its baseline has not changed the
  device. -/
  failing :
    ∀ record target rest fate loses,
      event.source.plan = some record →
        event.source.run.work = some (.applying target (some rest)) →
        event.input = .fails fate loses →
        event.source.run.executor.appliedConfig =
          some record.baselineConfig →
        fate = .unsent ∨ fate = .refused ∨ loses = true
  /-- A readback that ends a plan over its baseline is that of the baseline. -/
  refusing :
    ∀ record target readback session rest cancelled,
      event.source.plan = some record →
        event.source.run.work =
          some (.recording target readback session (some rest)) →
        event.input = .proceed cancelled →
        event.target.run.work = none →
        readback = record.baselineConfig
  /-- A plan that ends over its baseline configuration has not applied it for
  other requested values. -/
  restoring :
    ∀ record step,
      event.source.plan = some record →
        event.target.run.work = none →
        record.lastApplied = some step →
        step.compiled = record.baselineConfig →
        step.snapshot.requested = record.baselineSnapshot.requested

/-! ## The invariant -/

/-- The step that restores the baseline of a plan. -/
def baselineStep (record : PlanRecord Requested) : RunStep Requested where
  snapshot := { record.baselineSnapshot with state := .validated }
  compiled := record.baselineConfig

/-- What the executor has published under a plan: the baseline, or the last
step that has been applied. -/
def Published
    (executor : Executor Requested)
    (record : PlanRecord Requested) :
    Prop :=
  match record.lastApplied with
  | none =>
      executor.snapshot = record.baselineSnapshot ∧
        executor.appliedConfig = some record.baselineConfig
  | some step =>
      executor.snapshot = { step.snapshot with state := .applied } ∧
        executor.appliedConfig = some step.compiled

/-- What is left of a plan agrees with its record. -/
structure Continues
    (service : ExecutorService Requested Changes)
    (executor : Executor Requested)
    (record : PlanRecord Requested)
    (rest : PlanRest Requested)
    (left : List AcquisitionConfigV2) :
    Prop where
  snapshot : rest.baselineSnapshot = record.baselineSnapshot
  config : rest.baselineConfig = record.baselineConfig
  validated : ∀ step ∈ rest.steps, service.Validated step
  ordered : record.captured ++ left = record.steps.map RunStep.compiled
  published : Published executor record

/-- In the session the executor knows, the device has the applied
configuration. -/
def DeviceCurrent
    (run : ExecutorRun Requested)
    (device : Option AcquisitionConfigV2) :
    Prop :=
  run.generation = run.executor.sessionGeneration →
    device = run.executor.appliedConfig

/-- A readback is on the device as long as its session is there. -/
def ReadbackCurrent
    (run : ExecutorRun Requested)
    (device : Option AcquisitionConfigV2)
    (readback : AcquisitionConfigV2)
    (session : Nat) :
    Prop :=
  run.executor.sessionGeneration ≤ session ∧ session ≤ run.generation ∧
    (session = run.generation → device = some readback)

/-- What the work of a recorded plan relies on. Without a plan to go on with it
restores the baseline. -/
def Planned
    (service : ExecutorService Requested Changes)
    (run : ExecutorRun Requested)
    (device : Option AcquisitionConfigV2)
    (record : PlanRecord Requested) :
    Work Requested → Prop
  | .applying target (some rest) =>
      service.Validated target ∧
        Continues service run.executor record rest
          ((target :: rest.steps).map RunStep.compiled) ∧
        DeviceCurrent run device
  | .recording target readback session (some rest) =>
      service.Validated target ∧
        Continues service run.executor record rest
          ((target :: rest.steps).map RunStep.compiled) ∧
        ReadbackCurrent run device readback session
  | .capturing config (some rest) =>
      run.executor.appliedConfig = some config ∧
        Continues service run.executor record rest
          (config :: rest.steps.map RunStep.compiled) ∧
        DeviceCurrent run device
  | .pausing rest =>
      Continues service run.executor record rest
          (rest.steps.map RunStep.compiled) ∧
        DeviceCurrent run device
  | .applying target none => target = baselineStep record
  | .recording target readback session none =>
      target = baselineStep record ∧
        ReadbackCurrent run device readback session
  | .capturing _ none => False
  | .starting _ => False

/-- What work outside a plan relies on. -/
def Unplanned
    (service : ExecutorService Requested Changes) :
    Work Requested → Prop
  | .applying target none => service.Validated target
  | .recording target _ _ none => service.Validated target
  | .capturing _ none => True
  | .starting _ => True
  | _ => False

/-- The baseline of a plan has been applied. -/
structure Restorable
    (service : ExecutorService Requested Changes)
    (record : PlanRecord Requested) :
    Prop where
  applied : record.baselineSnapshot.state = .applied
  validated : service.Validated (baselineStep record)

/-- The work in the lock agrees with the record of its plan. -/
def WorkAgrees
    (service : ExecutorService Requested Changes)
    (state : DeviceRun Requested) :
    Prop :=
  match state.run.work, state.plan with
  | none, none => True
  | none, some _ => False
  | some work, none => Unplanned service work
  | some work, some record =>
      Restorable service record ∧
        Planned service state.run state.device record work

/-- What has been published can be applied again. -/
def Reappliable
    (service : ExecutorService Requested Changes)
    (executor : Executor Requested) :
    Prop :=
  executor.snapshot.state = .applied →
    ∃ config,
      executor.appliedConfig = some config ∧
        service.Validated
          ⟨{ executor.snapshot with state := .validated }, config⟩

/-- The invariant of run plans. -/
structure PlanSound
    (service : ExecutorService Requested Changes)
    (state : DeviceRun Requested) :
    Prop where
  bounded : state.run.executor.sessionGeneration ≤ state.run.generation
  published : Reappliable service state.run.executor
  work : WorkAgrees service state

/-- A plan restores its baseline, unless that is the applied configuration. -/
theorem restore_eq
    {executor : Executor Requested}
    {record : PlanRecord Requested}
    {rest : PlanRest Requested}
    {left : List AcquisitionConfigV2}
    (restorable : Restorable service record)
    (continues : Continues service executor record rest left) :
    ExecutorRun.restore service executor rest =
      if executor.appliedConfig = some record.baselineConfig then
        none
      else
        some (.applying (baselineStep record) none) := by
  have again :
      service.validatedTarget rest.baselineSnapshot
          ExecutorRun.notValidated =
        .ok (baselineStep record) := by
    rw [continues.snapshot]
    exact restorable.validated.again record.baselineSnapshot.state
      ExecutorRun.notValidated
  unfold ExecutorRun.restore
  rw [continues.config, again]

/-! ## The record along the steps -/

variable {before : DeviceRun Requested} {after : ExecutorRun Requested}
  {left : Option AcquisitionConfigV2} {sent : SentCommand}

/-- A record goes on with the same plan. -/
structure SamePlan (record later : PlanRecord Requested) : Prop where
  steps : later.steps = record.steps
  snapshot : later.baselineSnapshot = record.baselineSnapshot
  config : later.baselineConfig = record.baselineConfig

theorem samePlan_send
    (record : PlanRecord Requested)
    (sent : SentCommand) :
    SamePlan record (record.send sent) := by
  cases sent <;> exact ⟨rfl, rfl, rfl⟩

theorem samePlan_advance
    (record : PlanRecord Requested)
    (from_ next : Option (Work Requested)) :
    SamePlan record (record.advance from_ next) := by
  unfold PlanRecord.advance
  split <;> exact ⟨rfl, rfl, rfl⟩

theorem SamePlan.trans
    {first second third : PlanRecord Requested}
    (one : SamePlan first second)
    (two : SamePlan second third) :
    SamePlan first third :=
  ⟨two.steps.trans one.steps, two.snapshot.trans one.snapshot,
    two.config.trans one.config⟩

theorem SamePlan.baselineStep_eq
    {record later : PlanRecord Requested}
    (same : SamePlan record later) :
    baselineStep later = baselineStep record := by
  unfold baselineStep
  rw [same.snapshot, same.config]

theorem SamePlan.restorable
    {record later : PlanRecord Requested}
    (same : SamePlan record later)
    (restorable : Restorable service record) :
    Restorable service later :=
  ⟨same.snapshot ▸ restorable.applied,
    same.baselineStep_eq.symm ▸ restorable.validated⟩

/-- When the lock is left the record is closed. -/
theorem planAfter_free
    (free : after.work = none) :
    before.planAfter after sent = none := by
  unfold planAfter
  rw [free]

/-- While work goes on the record is kept. -/
theorem planAfter_busy
    {work next : Work Requested}
    (working : before.run.work = some work)
    (goesOn : after.work = some next) :
    before.planAfter after sent =
      before.plan.map fun record =>
        (record.send sent).advance (some work) (some next) := by
  unfold planAfter
  rw [working, goesOn]
  cases next <;> rfl

/-- The stages of a plan agree with its record. -/
theorem Planned.continues
    {run : ExecutorRun Requested}
    {device : Option AcquisitionConfigV2}
    {record : PlanRecord Requested}
    {work : Work Requested}
    {rest : PlanRest Requested}
    (planned : Planned service run device record work)
    (stage : work.plan? = some rest) :
    ∃ left, Continues service run.executor record rest left := by
  cases work with
  | applying target plan =>
      obtain rfl : plan = some rest := stage
      exact ⟨_, planned.2.1⟩
  | recording target readback session plan =>
      obtain rfl : plan = some rest := stage
      exact ⟨_, planned.2.1⟩
  | capturing config plan =>
      obtain rfl : plan = some rest := stage
      exact ⟨_, planned.2.1⟩
  | starting schedule => exact planned.elim
  | pausing plan =>
      obtain rfl : plan = rest := Option.some.inj stage
      exact ⟨_, planned.1⟩

/-- A plan that takes its steps has a record. -/
theorem PlanSound.recorded
    {work : Work Requested}
    {rest : PlanRest Requested}
    (sound : PlanSound service before)
    (working : before.run.work = some work)
    (stage : work.plan? = some rest) :
    ∃ record,
      before.plan = some record ∧ Restorable service record ∧
        Planned service before.run before.device record work := by
  have agrees := sound.work
  unfold WorkAgrees at agrees
  rw [working] at agrees
  cases present : before.plan with
  | some record =>
      rw [present] at agrees
      exact ⟨record, rfl, agrees⟩
  | none =>
      rw [present] at agrees
      cases work with
      | applying target plan =>
          obtain rfl : plan = some rest := stage
          exact agrees.elim
      | recording target readback session plan =>
          obtain rfl : plan = some rest := stage
          exact agrees.elim
      | capturing config plan =>
          obtain rfl : plan = some rest := stage
          exact agrees.elim
      | starting schedule => cases stage
      | pausing plan => exact agrees.elim

/-- A failure leaves the restoration of the plan, or nothing. -/
theorem PlanSound.failed
    {work : Work Requested}
    (sound : PlanSound service before)
    (working : before.run.work = some work)
    (executor : after.executor = before.run.executor)
    (session : before.run.generation ≤ after.generation)
    (failure :
      after.work =
        ExecutorRun.afterFailure service before.run.executor work.plan?) :
    PlanSound service ⟨after, left, before.planAfter after sent⟩ := by
  refine ⟨?_, ?_, ?_⟩
  · exact executor ▸ sound.bounded.trans session
  · dsimp only
    rw [executor]
    exact sound.published
  · unfold WorkAgrees
    dsimp only
    cases stage : work.plan? with
    | none =>
        rw [stage] at failure
        have free : after.work = none := failure
        rw [planAfter_free free, free]
        trivial
    | some rest =>
        obtain ⟨record, present, restorable, planned⟩ :=
          sound.recorded working stage
        obtain ⟨_, continues⟩ := planned.continues stage
        rw [stage] at failure
        have restores :
            after.work =
              ExecutorRun.restore service before.run.executor rest :=
          failure
        rw [restore_eq restorable continues] at restores
        split at restores
        · rw [planAfter_free restores, restores]
          trivial
        · rw [planAfter_busy working restores, restores, present]
          have same :=
            (samePlan_send record sent).trans
              (samePlan_advance (record.send sent) (some work)
                (some (.applying (baselineStep record) none)))
          exact ⟨same.restorable restorable, same.baselineStep_eq.symm⟩

/-- Without work there is no record. -/
theorem PlanSound.unrecorded
    (sound : PlanSound service before)
    (free : before.run.work = none) :
    before.plan = none := by
  have agrees := sound.work
  unfold WorkAgrees at agrees
  rw [free] at agrees
  cases present : before.plan with
  | none => rfl
  | some record =>
      rw [present] at agrees
      exact agrees.elim

/-- Work that goes on as it is keeps its record. -/
theorem PlanSound.planAfter_still
    (sound : PlanSound service before)
    (still : after.work = before.run.work) :
    before.planAfter after .nothing = before.plan := by
  cases working : before.run.work with
  | none =>
      rw [planAfter_free (still.trans working), sound.unrecorded working]
  | some work =>
      rw [planAfter_busy working (still.trans working)]
      have kept : (fun record : PlanRecord Requested =>
          (record.send .nothing).advance (some work) (some work)) = id := by
        funext record
        unfold PlanRecord.advance
        split
        · next recording capturing =>
            cases recording.symm.trans capturing
        · rfl
      rw [kept, Option.map_id]
      rfl

/-- A new session takes nothing from a plan but the knowledge of its device. -/
theorem PlanSound.newSession
    (sound : PlanSound service before)
    (executor : after.executor = before.run.executor)
    (generation : after.generation = before.run.generation + 1)
    (still : after.work = before.run.work) :
    PlanSound service ⟨after, left, before.planAfter after .nothing⟩ := by
  have behind : ¬after.generation = after.executor.sessionGeneration := by
    rw [generation, executor]
    exact fun current =>
      absurd (current ▸ sound.bounded) (Nat.not_succ_le_self _)
  have unread {readback : AcquisitionConfigV2} {session : Nat}
      (current :
        ReadbackCurrent before.run before.device readback session) :
      ReadbackCurrent after left readback session := by
    obtain ⟨known, read, -⟩ := current
    refine ⟨executor ▸ known, ?_, fun same => ?_⟩
    · rw [generation]
      exact Nat.le_succ_of_le read
    · rw [generation] at same
      exact absurd (same ▸ read) (Nat.not_succ_le_self _)
  refine ⟨?_, ?_, ?_⟩
  · dsimp only
    rw [executor, generation]
    exact Nat.le_succ_of_le sound.bounded
  · dsimp only
    rw [executor]
    exact sound.published
  · have agrees := sound.work
    unfold WorkAgrees at agrees ⊢
    dsimp only
    rw [sound.planAfter_still still, still]
    cases working : before.run.work with
    | none =>
        rw [working] at agrees
        cases present : before.plan with
        | none => trivial
        | some record =>
            rw [present] at agrees
            exact agrees.elim
    | some work =>
        rw [working] at agrees
        cases present : before.plan with
        | none =>
            rw [present] at agrees
            exact agrees
        | some record =>
            rw [present] at agrees
            refine ⟨agrees.1, ?_⟩
            have planned := agrees.2
            cases work with
            | applying target plan =>
                cases plan with
                | none => exact planned
                | some rest =>
                    exact ⟨planned.1, executor ▸ planned.2.1,
                      fun current => absurd current behind⟩
            | recording target readback session plan =>
                cases plan with
                | none => exact ⟨planned.1, unread planned.2⟩
                | some rest =>
                    exact ⟨planned.1, executor ▸ planned.2.1,
                      unread planned.2.2⟩
            | capturing config plan =>
                cases plan with
                | none => exact planned
                | some rest =>
                    exact ⟨executor ▸ planned.1, executor ▸ planned.2.1,
                      fun current => absurd current behind⟩
            | starting schedule => exact planned
            | pausing rest =>
                exact ⟨executor ▸ planned.1,
                  fun current => absurd current behind⟩

/-- What is published is the target with its state. -/
theorem publishApplied_snapshot
    {executor after : Executor Requested}
    {target : RunStep Requested}
    {readback : AcquisitionConfigV2}
    {generation : Nat}
    (publishes :
      executor.publishApplied service target readback generation = .ok after) :
    after.snapshot = { target.snapshot with state := .applied } := by
  obtain ⟨applied, marked, publishes⟩ := bind_eq_ok.1 publishes
  obtain ⟨⟨⟩, _, marked⟩ := bind_eq_ok.1 marked
  obtain ⟨_, _, marked⟩ := bind_eq_ok.1 marked
  obtain ⟨⟨⟩, _, marked⟩ := bind_eq_ok.1 marked
  obtain ⟨⟨⟩, _, marked⟩ := bind_eq_ok.1 marked
  cases marked
  cases publishes
  rfl

/-- The next step of a plan that goes on. -/
theorem PlanSound.advanced
    {rest : PlanRest Requested}
    (cancelled : Bool)
    (sound : PlanSound service before)
    (working : before.run.work = some (.pausing rest)) :
    PlanSound service
      ⟨{ before.run with
          work := ExecutorRun.nextStep service before.run.executor rest
            cancelled },
        before.device,
        before.planAfter
          { before.run with
            work := ExecutorRun.nextStep service before.run.executor rest
              cancelled } .nothing⟩ := by
  obtain ⟨record, present, restorable, continues, current⟩ :=
    sound.recorded working rfl
  have ends (leaves :
      ExecutorRun.nextStep service before.run.executor rest cancelled =
        ExecutorRun.restore service before.run.executor rest) :
      PlanSound service
        ⟨{ before.run with
            work := ExecutorRun.nextStep service before.run.executor rest
              cancelled },
          before.device,
          before.planAfter
            { before.run with
              work := ExecutorRun.nextStep service before.run.executor rest
                cancelled } .nothing⟩ :=
    sound.failed working rfl (Nat.le_refl _) leaves
  cases steps : rest.steps with
  | nil =>
      apply ends
      unfold ExecutorRun.nextStep
      rw [steps]
  | cons step others =>
      by_cases stopped : cancelled = true
      · apply ends
        unfold ExecutorRun.nextStep
        rw [steps]
        exact if_pos stopped
      · have validated := continues.validated
        rw [steps] at validated
        have goesOn (left : List AcquisitionConfigV2)
            (ordered :
              record.captured ++ left =
                record.steps.map RunStep.compiled) :
            Continues service before.run.executor record
              { rest with steps := others } left :=
          ⟨continues.snapshot, continues.config,
            fun later member =>
              validated later (List.mem_cons_of_mem _ member),
            ordered, continues.published⟩
        have ordered := continues.ordered
        rw [steps] at ordered
        refine ⟨sound.bounded, sound.published, ?_⟩
        unfold WorkAgrees
        dsimp only
        by_cases differs :
            before.run.executor.appliedConfig ≠ some step.compiled
        · have next :
              ExecutorRun.nextStep service before.run.executor rest
                  cancelled =
                some
                  (.applying step (some { rest with steps := others })) := by
            unfold ExecutorRun.nextStep
            rw [steps]
            dsimp only
            rw [if_neg stopped, if_pos differs]
          rw [next, planAfter_busy working rfl, present]
          exact ⟨restorable, validated step List.mem_cons_self,
            goesOn _ ordered, current⟩
        · have next :
              ExecutorRun.nextStep service before.run.executor rest
                  cancelled =
                some (.capturing step.compiled
                  (some { rest with steps := others })) := by
            unfold ExecutorRun.nextStep
            rw [steps]
            dsimp only
            rw [if_neg stopped, if_neg differs]
          rw [next, planAfter_busy working rfl, present]
          exact ⟨restorable, not_not.1 differs, goesOn _ ordered, current⟩

/-- A plan begins over the baseline the executor has published. -/
structure BeginsPlan
    (service : ExecutorService Requested Changes)
    (executor : Executor Requested)
    (plan : RunPlanV1)
    (rest : PlanRest Requested) :
    Prop where
  applied : executor.snapshot.state = .applied
  snapshot : rest.baselineSnapshot = executor.snapshot
  config : executor.appliedConfig = some rest.baselineConfig
  steps :
    ∃ targets,
      service.Targets rest.baselineSnapshot plan.sweep targets ∧
        rest.steps = targets.flatMap (List.replicate plan.loops)

/-- An operation that enters the lock begins outside a plan, or with all of
one. -/
theorem enter_begins
    {executor entered : Executor Requested}
    {operation : ExecutorCall Changes}
    {begun : Option (Work Requested)}
    (enters :
      ExecutorRun.enter service executor operation = .ok (entered, begun)) :
    ∀ work ∈ begun,
      Unplanned service work ∨
        ∃ plan rest,
          operation = .executeRunPlan plan ∧ work = .pausing rest ∧
            entered = executor ∧ BeginsPlan service executor plan rest := by
  intro work member
  cases operation with
  | snapshot =>
      cases enters
      cases member
  | updateDraft changes =>
      obtain ⟨snapshot, _, enters⟩ := bind_eq_ok.1 enters
      cases enters
      cases member
  | applyChanges changes =>
      obtain ⟨draft, _, enters⟩ := bind_eq_ok.1 enters
      obtain ⟨target, validated, enters⟩ := bind_eq_ok.1 enters
      cases enters
      cases member
      exact .inl (ExecutorService.validatedTarget_validated validated).1
  | applyDraft =>
      obtain ⟨target, validated, enters⟩ := bind_eq_ok.1 enters
      cases enters
      cases member
      exact .inl (ExecutorService.validatedTarget_validated validated).1
  | captureOnce profileSha256 deviceConfigCrc32 triggerSource syncTimeoutMs =>
      obtain ⟨config, _, enters⟩ := bind_eq_ok.1 enters
      obtain ⟨⟨⟩, _, enters⟩ := bind_eq_ok.1 enters
      cases enters
      cases member
      exact .inl trivial
  | startPeriodic schedule =>
      obtain ⟨config, _, enters⟩ := bind_eq_ok.1 enters
      cases enters
      cases member
      exact .inl trivial
  | executeRunPlan plan =>
      obtain ⟨baseline, required, enters⟩ := bind_eq_ok.1 enters
      obtain ⟨steps, compiled, enters⟩ := bind_eq_ok.1 enters
      obtain ⟨⟨⟩, _, compiled⟩ := bind_eq_ok.1 compiled
      obtain ⟨targets, planned, compiled⟩ := bind_eq_ok.1 compiled
      cases compiled
      cases enters
      cases member
      refine .inr ⟨plan, _, rfl, rfl, rfl, ?_, rfl,
        Executor.requireApplied_applied required, targets,
        ExecutorService.planTargets_targets planned, rfl⟩
      unfold Executor.requireApplied at required
      split at required
      · next applied present => exact applied
      · cases required

/-- Every step of a plan has passed the checks. -/
theorem BeginsPlan.validated
    {executor : Executor Requested}
    {plan : RunPlanV1}
    {rest : PlanRest Requested}
    (begins : BeginsPlan service executor plan rest) :
    ∀ step ∈ rest.steps, service.Validated step := by
  obtain ⟨targets, planned, steps⟩ := begins.steps
  rw [steps]
  intro step member
  obtain ⟨target, present, repeated⟩ := List.mem_flatMap.1 member
  rw [List.eq_of_mem_replicate repeated]
  exact planned.validated target present

/-- A plan that begins agrees with its record. -/
theorem BeginsPlan.agrees
    {run : ExecutorRun Requested}
    {device : Option AcquisitionConfigV2}
    {plan : RunPlanV1}
    {rest : PlanRest Requested}
    (begins : BeginsPlan service run.executor plan rest)
    (reappliable : Reappliable service run.executor)
    (found : device = some rest.baselineConfig) :
    Restorable service (.begin rest) ∧
      Planned service run device (.begin rest) (.pausing rest) := by
  obtain ⟨config, inForce, validated⟩ := reappliable begins.applied
  obtain rfl := Option.some.inj (begins.config.symm.trans inForce)
  refine ⟨⟨?_, ?_⟩, ⟨rfl, rfl, begins.validated, rfl, ?_⟩, fun _ => ?_⟩
  · exact (congrArg _ begins.snapshot).trans begins.applied
  · unfold baselineStep PlanRecord.begin
    rw [begins.snapshot]
    exact validated
  · exact ⟨begins.snapshot.symm, begins.config⟩
  · exact found.trans begins.config.symm

/-- An operation that is admitted begins without a record, or with that of its
plan. -/
theorem PlanSound.admitted
    (sound : PlanSound service before)
    (operation : ExecutorCall Changes)
    (free : before.run.work = none)
    (found :
      ∀ record,
        before.planAfter (before.run.accept service operation) .nothing =
            some record →
          before.device = some record.baselineConfig) :
    PlanSound service
      ⟨before.run.accept service operation, before.device,
        before.planAfter (before.run.accept service operation) .nothing⟩ := by
  have unrecorded : before.plan = none := sound.unrecorded free
  revert found
  unfold ExecutorRun.accept
  cases refreshes :
      before.run.executor.refreshSession service before.run.generation with
  | error raised =>
      intro found
      dsimp only
      rw [sound.planAfter_still rfl]
      exact sound
  | ok refreshed =>
      have bounded :
          refreshed.sessionGeneration ≤ before.run.generation ∧
            Reappliable service refreshed := by
        rcases refreshSession_shape refreshes with rfl | ⟨draft, -, current⟩
        · exact ⟨sound.bounded, sound.published⟩
        · refine ⟨Nat.le_of_eq current, fun applied => ?_⟩
          cases draft.symm.trans applied
      obtain ⟨bounded, reappliable⟩ := bounded
      cases enters : ExecutorRun.enter service refreshed operation with
      | error raised =>
          intro found
          dsimp only
          rw [enters]
          refine ⟨bounded, reappliable, ?_⟩
          have stays :
              ({ before.run with executor := refreshed }).work = none := free
          unfold WorkAgrees
          dsimp only
          rw [planAfter_free stays, free]
          trivial
      | ok result =>
          obtain ⟨entered, begun⟩ := result
          obtain ⟨⟨sameConfig, sameSession⟩, -⟩ :=
            @ExecutorRun.enter_grounded _ _ _ [] _ _ _ _ enters
          intro found
          dsimp only at found ⊢
          rw [enters] at found ⊢
          refine ⟨?_, fun applied => ?_, ?_⟩
          · exact sameSession ▸ bounded
          · dsimp only at applied ⊢
            have kept := enter_applied enters applied
            rw [kept, sameConfig]
            exact reappliable (kept ▸ applied)
          · unfold WorkAgrees
            dsimp only
            cases begun with
            | none =>
                rw [planAfter_free rfl]
                trivial
            | some work =>
                rcases enter_begins enters work rfl with
                  outside | ⟨plan, rest, -, rfl, rfl, begins⟩
                · have noRecord :
                      before.planAfter
                          { before.run with
                            executor := entered
                            work := some work } .nothing = none := by
                    unfold planAfter
                    rw [free, unrecorded]
                    cases work with
                    | pausing rest => exact outside.elim
                    | applying | recording | capturing | starting => rfl
                  rw [noRecord]
                  exact outside
                · have recorded :
                      before.planAfter
                          { before.run with
                            executor := entered
                            work := some (.pausing rest) } .nothing =
                        some (.begin rest) := by
                    unfold planAfter
                    rw [free]
                  have onDevice := found _ recorded
                  rw [recorded]
                  exact begins.agrees reappliable onDevice

/-- A readback that is published puts its target in force. -/
theorem PlanSound.publishes
    {target : RunStep Requested}
    {readback : AcquisitionConfigV2}
    {session : Nat}
    {plan : Option (PlanRest Requested)}
    {executor : Executor Requested}
    (sound : PlanSound service before)
    (working :
      before.run.work = some (.recording target readback session plan))
    (publishes :
      before.run.executor.publishApplied service target readback
          before.run.generation =
        .ok executor)
    (publishing :
      ∀ record,
        before.plan = some record →
          session = before.run.generation ∨
            before.device = some readback) :
    PlanSound service
      ⟨{ before.run with
          executor := executor
          work :=
            plan.map fun rest => .capturing target.compiled (some rest) },
        before.device,
        before.planAfter
          { before.run with
            executor := executor
            work :=
              plan.map fun rest =>
                .capturing target.compiled (some rest) } .nothing⟩ := by
  have snapshot := publishApplied_snapshot publishes
  have agrees := sound.work
  unfold WorkAgrees at agrees
  rw [working] at agrees
  have validated : service.Validated target := by
    cases present : before.plan with
    | none =>
        rw [present] at agrees
        cases plan with
        | none => exact agrees
        | some rest => exact agrees.elim
    | some record =>
        rw [present] at agrees
        cases plan with
        | none => exact agrees.2.1 ▸ agrees.1.validated
        | some rest => exact agrees.2.1
  obtain ⟨rfl, inForce, remembered⟩ :=
    Executor.publishApplied_exact validated.compiles publishes
  refine ⟨Nat.le_of_eq remembered, fun _ => ⟨_, inForce, ?_⟩, ?_⟩
  · dsimp only
    rw [snapshot]
    exact ⟨rfl, validated.safe, validated.compiles, validated.allowed⟩
  · unfold WorkAgrees
    dsimp only
    cases plan with
    | none =>
        rw [planAfter_free rfl]
        trivial
    | some rest =>
        obtain ⟨record, present, restorable, -, continues, read⟩ :=
          sound.recorded working rfl
        rw [planAfter_busy working rfl, present]
        refine ⟨⟨restorable.applied, restorable.validated⟩, inForce, ?_,
          fun _ => ?_⟩
        · exact ⟨continues.snapshot, continues.config, continues.validated,
            continues.ordered, snapshot, inForce⟩
        · have onDevice := (publishing record present).elim read.2.2 id
          exact onDevice.trans inForce.symm

/-- Every step keeps the invariant of run plans. -/
theorem PlanSound.happens
    {input : DeviceInput Changes}
    (sound : PlanSound service before)
    (happens : Happens service before.run before.device input after left sent)
    (found :
      ∀ record,
        before.plan = none →
          before.planAfter after sent = some record →
          before.device = some record.baselineConfig)
    (publishing :
      ∀ record target readback session plan cancelled executor,
        before.plan = some record →
          before.run.work = some (.recording target readback session plan) →
          input = .proceed cancelled →
          before.run.executor.publishApplied service target readback
              before.run.generation =
            .ok executor →
          session = before.run.generation ∨ before.device = some readback) :
    PlanSound service ⟨after, left, before.planAfter after sent⟩ := by
  cases happens with
  | nothing =>
      rw [sound.planAfter_still rfl]
      exact sound
  | replaced => exact sound.newSession rfl rfl rfl
  | closed left connected =>
      refine sound.newSession before.run.disconnect_executor ?_
        before.run.disconnect_work
      unfold ExecutorRun.disconnect
      rw [if_pos connected]
  | admitted operation free =>
      exact sound.admitted operation free fun record =>
        found record (sound.unrecorded free)
  | readBack target plan readback working connected =>
      refine ⟨sound.bounded, sound.published, ?_⟩
      have agrees := sound.work
      unfold WorkAgrees at agrees ⊢
      dsimp only
      rw [working] at agrees
      rw [planAfter_busy working rfl]
      have read :
          ReadbackCurrent
            { before.run with
              work :=
                some (.recording target readback before.run.generation plan) }
            (some readback) readback before.run.generation :=
        ⟨sound.bounded, Nat.le_refl _, fun _ => rfl⟩
      cases present : before.plan with
      | none =>
          rw [present] at agrees
          cases plan with
          | none => exact agrees
          | some rest => exact agrees
      | some record =>
          rw [present] at agrees
          refine ⟨agrees.1, ?_⟩
          cases plan with
          | none => exact ⟨agrees.2, read⟩
          | some rest => exact ⟨agrees.2.1, agrees.2.2.1, read⟩
  | applyFailed target plan fate loses working connected =>
      obtain ⟨executor, session⟩ := before.run.perhapsDisconnect loses
      refine sound.failed working executor session ?_
      cases loses with
      | false => rfl
      | true => exact before.run.fail_work plan
  | unheard input work working waits answers disconnected =>
      exact sound.failed working rfl (Nat.le_refl _) rfl
  | captured config plan readback working connected =>
      refine ⟨sound.bounded, sound.published, ?_⟩
      unfold WorkAgrees
      dsimp only
      cases plan with
      | none =>
          rw [planAfter_free rfl]
          trivial
      | some rest =>
          obtain ⟨record, present, restorable, inForce, continues, current⟩ :=
            sound.recorded working rfl
          rw [planAfter_busy working rfl, present]
          refine ⟨⟨restorable.applied, restorable.validated⟩, ?_, current⟩
          refine ⟨continues.snapshot, continues.config, continues.validated,
            ?_, continues.published⟩
          show record.captured ++ [config] ++ _ = _
          rw [List.append_assoc]
          exact continues.ordered
  | captureFailed config plan fate loses working connected =>
      obtain ⟨executor, session⟩ := before.run.perhapsDisconnect loses
      refine sound.failed working executor session ?_
      cases loses with
      | false => rfl
      | true => exact before.run.fail_work plan
  | startEnded schedule input loses sent working =>
      obtain ⟨executor, session⟩ := before.run.perhapsDisconnect loses
      exact sound.failed working executor session rfl
  | published target readback session plan cancelled executor working
      publishes =>
      exact sound.publishes working publishes fun record present =>
        publishing _ _ _ _ _ _ _ present working rfl publishes
  | unpublished target readback session plan cancelled raised working
      refuses =>
      exact sound.failed working rfl (Nat.le_refl _) rfl
  | advanced plan cancelled working => exact sound.advanced cancelled working

/-! ## The steps of a plan -/

/-- A plan that is admitted begins over a published baseline. -/
theorem accept_begins
    {run : ExecutorRun Requested}
    {operation : ExecutorCall Changes}
    {rest : PlanRest Requested}
    (free : run.work = none)
    (begun : (run.accept service operation).work = some (.pausing rest)) :
    ∃ plan executor,
      operation = .executeRunPlan plan ∧
        BeginsPlan service executor plan rest := by
  unfold ExecutorRun.accept at begun
  split at begun
  · cases free.symm.trans begun
  · split at begun
    · cases free.symm.trans begun
    · next entered work enters =>
        rcases enter_begins enters (.pausing rest) begun with
          outside | ⟨plan, same, called, work, -, begins⟩
        · exact outside.elim
        · cases work
          exact ⟨plan, _, called, begins⟩

/-- Every target is captured in each of its loops. -/
theorem length_flatMap_replicate
    {Element : Type}
    (elements : List Element)
    (loops : Nat) :
    (elements.flatMap (List.replicate loops)).length =
      elements.length * loops := by
  induction elements with
  | nil => exact (Nat.zero_mul loops).symm
  | cons element rest inductionHypothesis =>
      rw [List.flatMap_cons, List.length_append, inductionHypothesis,
        List.length_replicate, List.length_cons, Nat.succ_mul, Nat.add_comm]

/-- The record of a plan that begins over a baseline. -/
theorem BeginsPlan.beginsWith
    {executor : Executor Requested}
    {plan : RunPlanV1}
    {rest : PlanRest Requested}
    (begins : BeginsPlan service executor plan rest) :
    BeginsWith service plan (.begin rest) := by
  obtain ⟨targets, planned, steps⟩ := begins.steps
  refine ⟨targets, planned, steps, ?_, rfl⟩
  show rest.steps.length = _
  rw [steps, length_flatMap_replicate, planned.length_eq]

/-- A plan begins with the captures it asks for. -/
theorem begins_with
    {input : DeviceInput Changes}
    {plan : RunPlanV1}
    {record : PlanRecord Requested}
    (happens : Happens service before.run before.device input after left sent)
    (unrecorded : before.plan = none)
    (called : input = .call (.executeRunPlan plan))
    (recorded : before.planAfter after sent = some record) :
    BeginsWith service plan record := by
  subst called
  have busy (work : Work Requested) (working : before.run.work = some work) :
      False := by
    cases next : after.work with
    | none => cases (planAfter_free next).symm.trans recorded
    | some work =>
        rw [planAfter_busy working next, unrecorded] at recorded
        cases recorded
  cases free : before.run.work with
  | some work => exact (busy work free).elim
  | none =>
      cases happens with
      | nothing =>
          rw [planAfter_free free] at recorded
          cases recorded
      | admitted operation _ =>
          unfold planAfter at recorded
          rw [free, unrecorded] at recorded
          split at recorded
          · cases recorded
          · next rest begun =>
              cases recorded
              obtain ⟨_, executor, same, begins⟩ := accept_begins free begun
              cases same
              exact begins.beginsWith
          · cases recorded
      | unheard input work working waits answers => exact answers.elim
      | startEnded schedule input loses sent working =>
          cases free.symm.trans working

/-- A capture is the next one of its plan, with its configuration in force. -/
theorem PlanSound.captures
    {input : DeviceInput Changes}
    {record : PlanRecord Requested}
    {session : Nat}
    {config : AcquisitionConfigV2}
    (sound : PlanSound service before)
    (happens : Happens service before.run before.device input after left sent)
    (recorded : before.plan = some record)
    (sends : sent = .captureOnce session config)
    (current :
      before.run.generation = before.run.executor.sessionGeneration) :
    record.captured ++ [config] <+: record.steps.map RunStep.compiled ∧
      before.run.executor.appliedConfig = some config ∧
      before.device = some config := by
  have capturing (plan : Option (PlanRest Requested))
      (working : before.run.work = some (.capturing config plan)) :
      record.captured ++ [config] <+: record.steps.map RunStep.compiled ∧
        before.run.executor.appliedConfig = some config ∧
        before.device = some config := by
    have agrees := sound.work
    unfold WorkAgrees at agrees
    rw [working, recorded] at agrees
    cases plan with
    | none => exact agrees.2.elim
    | some rest =>
        obtain ⟨-, inForce, continues, onDevice⟩ := agrees
        refine ⟨⟨rest.steps.map RunStep.compiled, ?_⟩, inForce,
          (onDevice current).trans inForce⟩
        rw [List.append_assoc]
        exact continues.ordered
  cases happens with
  | captured _ plan readback working connected =>
      cases sends
      exact capturing plan working
  | captureFailed _ plan fate loses working connected =>
      cases sends
      exact capturing plan working
  | startEnded schedule input loses sent working which =>
      rcases which with rfl | rfl <;> cases sends
  | readBack | applyFailed => cases sends
  | nothing | replaced | closed | admitted | unheard | published
      | unpublished | advanced => cases sends

/-- A plan that neither raises nor is cancelled takes all its captures. -/
theorem PlanSound.completes
    {input : DeviceInput Changes}
    {record : PlanRecord Requested}
    {rest : PlanRest Requested}
    (sound : PlanSound service before)
    (happens : Happens service before.run before.device input after left sent)
    (recorded : before.plan = some record)
    (goes : planned before.run = some rest)
    (ends : planned after = none)
    (quiet : ¬Raises service before.run input)
    (uncancelled : ¬Cancels before.run input) :
    record.captured = record.steps.map RunStep.compiled := by
  have still (same : after.work = before.run.work) :
      record.captured = record.steps.map RunStep.compiled := by
    unfold planned at goes ends
    rw [same, goes] at ends
    cases ends
  have stage {work : Work Requested}
      (working : before.run.work = some work) :
      work.plan? = some rest := by
    unfold planned at goes
    rw [working] at goes
    exact goes
  have raises (raised : Raises service before.run input) :
      record.captured = record.steps.map RunStep.compiled :=
    absurd raised quiet
  unfold Raises at raises
  cases happens with
  | nothing => exact still rfl
  | replaced => exact still rfl
  | closed left connected => exact still before.run.disconnect_work
  | admitted operation free =>
      unfold planned at goes
      rw [free] at goes
      cases goes
  | readBack target plan readback working connected =>
      obtain rfl : plan = some rest := stage working
      cases ends
  | applyFailed target plan fate loses working connected =>
      rw [working] at raises
      exact raises trivial
  | unheard input work working waits answers disconnected =>
      rw [working] at raises
      cases work with
      | applying target plan =>
          cases input with
          | returns readback => exact raises disconnected
          | fails fate loses => exact raises trivial
          | replace | close | call | proceed => exact answers.elim
      | capturing config plan =>
          cases input with
          | returns readback => exact raises disconnected
          | fails fate loses => exact raises trivial
          | replace | close | call | proceed => exact answers.elim
      | recording | starting | pausing => exact waits.elim
  | captured config plan readback working connected =>
      obtain rfl : plan = some rest := stage working
      cases ends
  | captureFailed config plan fate loses working connected =>
      rw [working] at raises
      exact raises trivial
  | startEnded schedule input loses sent working => cases stage working
  | published target readback session plan cancelled executor working
      publishes =>
      obtain rfl : plan = some rest := stage working
      cases ends
  | unpublished target readback session plan cancelled raised working
      refuses =>
      rw [working] at raises
      exact raises ⟨raised, refuses⟩
  | advanced plan cancelled working =>
      obtain rfl : plan = rest := Option.some.inj (stage working)
      obtain ⟨known, present, -, continues, -⟩ := sound.recorded working rfl
      obtain rfl := Option.some.inj (present.symm.trans recorded)
      have ordered := continues.ordered
      unfold Cancels at uncancelled
      rw [working] at uncancelled
      unfold planned ExecutorRun.nextStep at ends
      cases steps : plan.steps with
      | nil =>
          rw [steps] at ordered
          exact (List.append_nil _).symm.trans ordered
      | cons step others =>
          rw [steps] at ends
          have goesOn : ¬cancelled = true := fun stopped =>
            uncancelled ⟨stopped, fun empty => by
              cases steps.symm.trans empty⟩
          dsimp only at ends
          rw [if_neg goesOn] at ends
          split at ends <;> cases ends

/-- A plan over its baseline configuration publishes the baseline, unless it
has applied the configuration for other requested values. -/
theorem Continues.overBaseline
    {executor : Executor Requested}
    {record : PlanRecord Requested}
    {rest : PlanRest Requested}
    {left : List AcquisitionConfigV2}
    (continues : Continues service executor record rest left)
    (restorable : Restorable service record)
    (inForce : executor.appliedConfig = some record.baselineConfig)
    (requested :
      ∀ step,
        record.lastApplied = some step →
          step.compiled = record.baselineConfig →
          step.snapshot.requested = record.baselineSnapshot.requested) :
    executor.snapshot = record.baselineSnapshot := by
  have published := continues.published
  unfold Published at published
  cases last : record.lastApplied with
  | none =>
      rw [last] at published
      exact published.1
  | some step =>
      rw [last] at published
      have same :=
        requested step last
          (Option.some.inj (published.2.symm.trans inForce))
      rw [published.1]
      dsimp only
      rw [same, ← restorable.applied]

/-- What the executor and the device have once a plan is over. -/
def Restored
    (executor : Executor Requested)
    (device : Option AcquisitionConfigV2)
    (record : PlanRecord Requested) :
    Prop :=
  executor.snapshot = record.baselineSnapshot ∧
    executor.appliedConfig = some record.baselineConfig ∧
    device = some record.baselineConfig

/-- A plan that skips its restoration has nothing to restore. -/
theorem PlanSound.skips
    {work : Work Requested}
    {rest : PlanRest Requested}
    {record : PlanRecord Requested}
    (sound : PlanSound service before)
    (working : before.run.work = some work)
    (stage : work.plan? = some rest)
    (recorded : before.plan = some record)
    (skipped :
      ExecutorRun.restore service before.run.executor rest = none)
    (requested :
      ∀ step,
        record.lastApplied = some step →
          step.compiled = record.baselineConfig →
          step.snapshot.requested = record.baselineSnapshot.requested)
    (onDevice :
      before.run.executor.appliedConfig = some record.baselineConfig →
        left = some record.baselineConfig) :
    Restored before.run.executor left record := by
  obtain ⟨known, present, restorable, agrees⟩ :=
    sound.recorded working stage
  obtain rfl := Option.some.inj (present.symm.trans recorded)
  obtain ⟨_, continues⟩ := agrees.continues stage
  rw [restore_eq restorable continues] at skipped
  split at skipped
  · next inForce =>
      exact ⟨continues.overBaseline restorable inForce requested, inForce,
        onDevice inForce⟩
  · cases skipped

/-- Where a plan stands between its calls, the device is current. -/
theorem PlanSound.deviceCurrent
    {work : Work Requested}
    {rest : PlanRest Requested}
    (sound : PlanSound service before)
    (working : before.run.work = some work)
    (stage : work.plan? = some rest)
    (idle : ¬before.run.Recording) :
    DeviceCurrent before.run before.device := by
  obtain ⟨record, -, -, agrees⟩ := sound.recorded working stage
  cases work with
  | applying target plan =>
      obtain rfl : plan = some rest := stage
      exact agrees.2.2
  | recording target readback session plan =>
      exact absurd ⟨_, _, _, _, working⟩ idle
  | capturing config plan =>
      obtain rfl : plan = some rest := stage
      exact agrees.2.2
  | starting schedule => exact agrees.elim
  | pausing plan => exact agrees.2

/-- A plan that ends while the client answers has its baseline restored. -/
theorem PlanSound.restores
    {input : DeviceInput Changes}
    {record : PlanRecord Requested}
    (sound : PlanSound service before)
    (happens : Happens service before.run before.device input after left sent)
    (undeceived :
      Undeceived service
        ⟨before, input, sent, ⟨after, left, before.planAfter after sent⟩⟩)
    (recorded : before.plan = some record)
    (ends : after.work = none)
    (answers :
      StillAnswers service
        ⟨before, input, sent, ⟨after, left, before.planAfter after sent⟩⟩) :
    Restored after.executor left record := by
  have requested := fun step => undeceived.restoring record step recorded ends
  obtain ⟨connected, answered⟩ := answers
  have agrees := sound.work
  unfold WorkAgrees at agrees
  have current {work : Work Requested} {rest : PlanRest Requested}
      (working : before.run.work = some work)
      (stage : work.plan? = some rest) :
      before.run.generation = before.run.executor.sessionGeneration := by
    refine undeceived.ending record rest recorded ?_ ends connected
    dsimp only
    unfold planned
    rw [working]
    exact stage
  have continues (same : after.work = before.run.work) :
      Restored after.executor left record := by
    rw [same] at ends
    cases (sound.unrecorded ends).symm.trans recorded
  have notRestoring {work : Work Requested}
      (working : before.run.work = some work)
      (finished : work.plan? = none)
      (raises : Raises service before.run input) :
      Restored after.executor left record := by
    refine absurd ⟨?_, raises⟩ answered
    unfold planned
    rw [working]
    exact finished
  cases happens with
  | nothing => exact continues rfl
  | replaced => exact continues rfl
  | closed left connected => exact continues before.run.disconnect_work
  | admitted operation free =>
      cases (sound.unrecorded free).symm.trans recorded
  | readBack => cases ends
  | applyFailed target plan fate loses working _ =>
      cases loses with
      | true => exact absurd connected before.run.disconnect_unconnected
      | false =>
          cases plan with
          | none =>
              exact notRestoring working rfl (by
                unfold Raises
                rw [working]
                trivial)
          | some rest =>
              refine sound.skips working rfl recorded ends requested
                fun inForce => ?_
              have onDevice :=
                sound.deviceCurrent working rfl
                  (not_recording working (by simp)) (current working rfl)
              rcases undeceived.failing _ _ _ _ _ recorded working rfl
                  inForce with rfl | rfl | lost
              · exact onDevice.trans inForce
              · exact onDevice.trans inForce
              · cases lost
  | unheard input work working waits answers disconnected =>
      exact absurd connected disconnected
  | captured config plan readback working _ =>
      cases plan with
      | none =>
          rw [working, recorded] at agrees
          exact agrees.2.elim
      | some rest => cases ends
  | captureFailed config plan fate loses working _ =>
      cases loses with
      | true => exact absurd connected before.run.disconnect_unconnected
      | false =>
          cases plan with
          | none =>
              exact notRestoring working rfl (by
                unfold Raises
                rw [working]
                trivial)
          | some rest =>
              refine sound.skips working rfl recorded ends requested
                fun inForce => ?_
              exact
                (sound.deviceCurrent working rfl
                  (not_recording working (by simp))
                  (current working rfl)).trans inForce
  | startEnded schedule input loses sent working =>
      rw [working, recorded] at agrees
      exact agrees.2.elim
  | published target readback session plan cancelled executor working
      publishes =>
      cases plan with
      | some rest => cases ends
      | none =>
          have publishing :=
            undeceived.publishing _ _ _ _ _ _ _ recorded working rfl publishes
          rw [working, recorded] at agrees
          obtain ⟨restorable, rfl, read⟩ := agrees
          have snapshot := publishApplied_snapshot publishes
          obtain ⟨rfl, inForce, -⟩ :=
            Executor.publishApplied_exact restorable.validated.compiles
              publishes
          refine ⟨snapshot.trans ?_, inForce, publishing.elim read.2.2 id⟩
          unfold baselineStep
          rw [← restorable.applied]
  | unpublished target readback session plan cancelled raised working
      refuses =>
      cases plan with
      | none =>
          exact notRestoring working rfl (by
            unfold Raises
            rw [working]
            exact ⟨raised, refuses⟩)
      | some rest =>
          refine sound.skips working rfl recorded ends requested
            fun inForce => ?_
          obtain rfl :=
            undeceived.refusing _ _ _ _ _ _ recorded working rfl ends
          obtain ⟨_, _, -, -, -, known, read, onDevice⟩ :=
            sound.recorded working rfl
          exact onDevice
            (Nat.le_antisymm read ((current working rfl).trans_le known))
  | advanced plan cancelled working =>
      have skipped :
          ExecutorRun.restore service before.run.executor plan = none := by
        unfold ExecutorRun.nextStep at ends
        dsimp only at ends
        split at ends
        · exact ends
        · split at ends
          · exact ends
          · split at ends <;> cases ends
      refine sound.skips working rfl recorded skipped requested
        fun inForce => ?_
      exact
        (sound.deviceCurrent working rfl (not_recording working (by simp))
          (current working rfl)).trans inForce

/-- A step that is not deceived keeps the invariant, and runs by the law. -/
theorem PlanSound.step
    (input : DeviceInput Changes)
    (sound : PlanSound service before)
    (undeceived : Undeceived service ((machine service).event before input)) :
    PlanSound service ((machine service).event before input).target ∧
      RunsPlan service ((machine service).event before input) := by
  have happens := @machine_happens _ _ service before input
  refine ⟨sound.happens happens undeceived.found undeceived.publishing, ?_⟩
  exact {
    begins := fun plan record unrecorded called recorded =>
      begins_with happens unrecorded called recorded
    captures := fun record session config recorded sends =>
      sound.captures happens recorded sends
        (undeceived.capturing record session config recorded sends)
    completes := fun record rest recorded goes ends quiet uncancelled =>
      sound.completes happens recorded goes ends quiet uncancelled
    restores := fun record recorded ends answers =>
      sound.restores happens undeceived recorded ends answers
  }

/-- An executor that has just been built has no plan. -/
theorem started_planSound
    (connected : Bool)
    (device : Option AcquisitionConfigV2) :
    PlanSound service (started service connected device) := by
  refine ⟨Nat.le_refl _, fun applied => ?_, trivial⟩
  cases applied

/--
In every run in which nothing deceives the executor about its device, plans
take their captures in order, each with its configuration in force, and restore
their baseline.
-/
theorem plans_run_and_restore
    (service : ExecutorService Requested Changes)
    (connected : Bool)
    (device : Option AcquisitionConfigV2)
    (inputs : List (DeviceInput Changes))
    (undeceived :
      EveryStep (fun _ event => Undeceived service event)
        ((machine service).trace (started service connected device) inputs)) :
    EveryStep (fun _ event => RunsPlan service event)
      ((machine service).trace (started service connected device) inputs) :=
  (machine service).everyStep_of_invariant
    (fun _ state => PlanSound service state)
    (started_planSound connected device)
    (fun _ _ input sound undeceived => (sound.step input undeceived).1)
    (fun _ _ input sound undeceived => (sound.step input undeceived).2)
    inputs undeceived

/-! ## Runs in which the client answers -/

/-- In a session that stays the client answers, a plan begins over the
configuration of the device, and it ends by its restoration or over a baseline
it has not left. -/
def Quiet (event : Step Requested Changes) : Bool :=
  event.source.run.generation ==
      event.source.run.executor.sessionGeneration &&
    (match event.input with
      | .fails _ _ => false
      | _ => true) &&
    (match event.source.run.work with
      | some (.recording _ _ session _) =>
          session == event.source.run.generation
      | _ => true) &&
    (match event.source.plan, event.target.plan with
      | none, some record => event.source.device == some record.baselineConfig
      | some record, none =>
          (planned event.source.run).isNone &&
            record.lastApplied.all fun step =>
              step.compiled != record.baselineConfig
      | _, _ => true)

/-- Where a plan ends its record is closed. -/
theorem machine_plan_closed
    {input : DeviceInput Changes}
    (ends : ((machine service).event before input).target.run.work = none) :
    ((machine service).event before input).target.plan = none :=
  planAfter_free ends

/-- A step in which the client answers deceives nobody. -/
theorem undeceived_of_quiet
    {input : DeviceInput Changes}
    (quiet : Quiet ((machine service).event before input) = true) :
    Undeceived service ((machine service).event before input) := by
  unfold Quiet at quiet
  simp only [Bool.and_eq_true, beq_iff_eq] at quiet
  obtain ⟨⟨⟨current, answered⟩, read⟩, recorded⟩ := quiet
  have finished (record : PlanRecord Requested)
      (present : ((machine service).event before input).source.plan =
        some record)
      (ends : ((machine service).event before input).target.run.work = none) :
      planned ((machine service).event before input).source.run = none ∧
        ∀ step,
          record.lastApplied = some step →
            step.compiled ≠ record.baselineConfig := by
    rw [present, machine_plan_closed ends] at recorded
    simp only [Bool.and_eq_true, Option.isNone_iff_eq_none] at recorded
    refine ⟨recorded.1, fun step last => ?_⟩
    have differs := recorded.2
    rw [last] at differs
    exact bne_iff_ne.1 differs
  constructor
  · intro record nothing present
    rw [nothing, present] at recorded
    exact beq_iff_eq.1 recorded
  · intro record target readback session plan cancelled executor _ working _ _
    rw [working] at read
    exact .inl (beq_iff_eq.1 read)
  · intro record session config _ _
    exact current
  · intro record rest _ _ _ _
    exact current
  · intro record target rest fate loses _ _ called
    rw [called] at answered
    cases answered
  · intro record target readback session rest cancelled present working _ ends
    have none_ := (finished record present ends).1
    unfold planned at none_
    rw [working] at none_
    cases none_
  · intro record step present ends last same
    exact absurd same ((finished record present ends).2 step last)

open Parameters (coreExecutorService newDraftConfig laterTriggerConfig)

/-- One point of a sweep of the trigger point, captured twice. -/
def pretriggerSweep : RunPlanV1 where
  loops := 2
  startDelayMs := 0
  loopDelayMs := 0
  sweep := some ⟨"pretrigger_count", [.integer 128]⟩
  triggerSource := .software
  syncTimeoutMs := 0

/-- A configuration is applied, and a sweep over it begins. -/
def sweepBegins : List (DeviceInput Parameters.Changes) :=
  [.call .applyDraft, .returns newDraftConfig, .proceed false,
    .call (.executeRunPlan pretriggerSweep), .proceed false]

/-- The sweep takes its captures and restores its baseline. -/
def sweepEnds : List (DeviceInput Parameters.Changes) :=
  sweepBegins ++
    [.returns laterTriggerConfig, .proceed false, .returns laterTriggerConfig,
      .proceed false, .returns laterTriggerConfig, .proceed false,
      .returns newDraftConfig, .proceed false]

/-- The events of a trace are steps of the machine. -/
theorem undeceived_of_quiet_trace
    (inputs : List (DeviceInput Changes))
    (start : DeviceRun Requested)
    (quiet :
      ((machine service).trace start inputs).all Quiet = true) :
    EveryStep (fun _ event => Undeceived service event)
      ((machine service).trace start inputs) := by
  induction inputs generalizing start with
  | nil => exact EveryStep.nil
  | cons input rest inductionHypothesis =>
      obtain ⟨first, others⟩ := Bool.and_eq_true_iff.1 quiet
      exact (EveryStep.cons_iff _ _).2
        ⟨undeceived_of_quiet first, inductionHypothesis _ others⟩

set_option maxRecDepth 100000 in
/-- The sweep runs by the law. -/
theorem plans_run_and_restore_sweepEnds :
    EveryStep (fun _ event => RunsPlan coreExecutorService event)
      ((machine coreExecutorService).trace
        (started coreExecutorService true none) sweepEnds) :=
  plans_run_and_restore coreExecutorService true none sweepEnds
    (undeceived_of_quiet_trace sweepEnds _ (by decide +kernel))

/-! ## A step that fails half-way -/

/-- The device takes the configuration of the first step, but the readback is
lost. -/
def sweepInterrupted : List (DeviceInput Parameters.Changes) :=
  sweepBegins ++ [.fails .taken false]

/-- What the lost readback leaves: the plan is over, its baseline is published,
and the device keeps the configuration of the step. -/
theorem not_runsPlan_sweepInterrupted :
    ¬EveryStep (fun _ event => RunsPlan coreExecutorService event)
      ((machine coreExecutorService).trace
        (started coreExecutorService true none) sweepInterrupted) := by
  let before : DeviceRun Parameters.Requested :=
    (machine coreExecutorService).after
      (started coreExecutorService true none) sweepBegins
  let last := (machine coreExecutorService).event before (.fails .taken false)
  have ended :
      before.plan.isSome ∧ last.target.run.work.isNone ∧
        last.target.run.connected = true ∧
        (planned before.run).isSome ∧
        last.target.device ≠ before.plan.map PlanRecord.baselineConfig := by
    decide +kernel
  obtain ⟨begun, finished, connected, goes, differs⟩ := ended
  intro every
  have runs : RunsPlan coreExecutorService last :=
    ((EveryStep.concat_iff
      ((machine coreExecutorService).trace
        (started coreExecutorService true none)
        sweepBegins) last).1 every).2
  obtain ⟨record, recorded⟩ := Option.isSome_iff_exists.1 begun
  obtain ⟨rest, going⟩ := Option.isSome_iff_exists.1 goes
  obtain ⟨-, -, onDevice⟩ :=
    runs.restores record recorded (Option.isNone_iff_eq_none.1 finished)
      ⟨connected, fun restoring => by
        cases going.symm.trans restoring.1⟩
  rw [recorded] at differs
  exact differs onDevice

end DeviceRun

end Usac.Host
