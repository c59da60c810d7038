import Usac.Host.ExecutorService

namespace Usac.Host

open Library

/-!
# Captures go to the session that was configured

The executor remembers the generation of the client its configuration has been
applied on, and forgets the configuration when the generation changes. It looks
at the generation when an operation begins and when a configuration has been
read back, but not when it sends a capture command. So a command goes to a
configured session unless the client is replaced in between.
-/

/-- The digits of a byte determine it. -/
theorem hexByte_injective : Function.Injective hexByte := by
  intro first second same
  have digits :
      ∀ left < 16, ∀ right < 16,
        Nat.digitChar left = Nat.digitChar right → left = right := by
    decide
  obtain ⟨high, low⟩ : Nat.digitChar (first.toNat / 16) =
        Nat.digitChar (second.toNat / 16) ∧
      Nat.digitChar (first.toNat % 16) =
        Nat.digitChar (second.toNat % 16) := by
    simpa [hexByte] using same
  have highs := digits _ (by have := first.toNat_lt; omega) _
    (by have := second.toNat_lt; omega) high
  have lows := digits _ (Nat.mod_lt _ (by decide)) _
    (Nat.mod_lt _ (by decide)) low
  apply UInt8.toNat_inj.1
  omega

/-- Byte strings with the same digits are the same. -/
theorem hex_injective : Function.Injective hex := by
  intro first second same
  have digits : first.flatMap hexByte = second.flatMap hexByte :=
    String.ofList_injective same
  clear same
  induction first generalizing second with
  | nil =>
      cases second with
      | nil => rfl
      | cons byte rest => cases digits
  | cons byte rest inductionHypothesis =>
      cases second with
      | nil => cases digits
      | cons other others =>
          rw [List.flatMap_cons, List.flatMap_cons] at digits
          obtain ⟨head, tail⟩ := List.append_inj digits rfl
          rw [hexByte_injective head, inductionHypothesis tail]

namespace ExecutorService

variable {Requested Changes : Type}
  {service : ExecutorService Requested Changes}

/-- A step is compiled from its own snapshot. -/
def Compiles
    (service : ExecutorService Requested Changes)
    (step : RunStep Requested) :
    Prop :=
  service.compile step.snapshot.requested = .ok step.compiled

/-- A step that has passed the checks of `validate`. -/
structure Validated
    (service : ExecutorService Requested Changes)
    (step : RunStep Requested) :
    Prop where
  state : step.snapshot.state = .validated
  safe : service.safetyErrors step.snapshot.requested = .ok []
  compiles : service.Compiles step
  allowed :
    service.checkApplied step.snapshot.requested step.compiled = .ok ()

/-- A validated target has passed the checks, for the values it was asked. -/
theorem validatedTarget_validated
    {snapshot : ConfigurationSnapshot Requested}
    {invalid : List FieldValidationError → Raised}
    {target : RunStep Requested}
    (validated : service.validatedTarget snapshot invalid = .ok target) :
    service.Validated target ∧
      target.snapshot.requested = snapshot.requested := by
  obtain ⟨result, validates, chosen⟩ := bind_eq_ok.1 validated
  obtain ⟨errors, safe, validates⟩ := bind_eq_ok.1 validates
  cases errors with
  | nil =>
      obtain ⟨compiled, compiles, validates⟩ := bind_eq_ok.1 validates
      obtain ⟨⟨⟩, allowed, validates⟩ := bind_eq_ok.1 validates
      cases validates
      cases chosen
      exact ⟨⟨rfl, safe, compiles, allowed⟩, rfl⟩
  | cons error others =>
      cases validates
      cases chosen

/-- A validated target is compiled from its own snapshot. -/
theorem validatedTarget_compiles
    {snapshot : ConfigurationSnapshot Requested}
    {invalid : List FieldValidationError → Raised}
    {target : RunStep Requested}
    (validated : service.validatedTarget snapshot invalid = .ok target) :
    service.Compiles target :=
  (validatedTarget_validated validated).1.compiles

/-- Every result of a mapped check comes from one of the elements. -/
theorem exists_of_mem_mapM
    {First Second : Type}
    {check : First → Except Raised Second}
    {elements : List First}
    {results : List Second}
    {result : Second}
    (mapped : elements.mapM check = .ok results)
    (member : result ∈ results) :
    ∃ element ∈ elements, check element = .ok result := by
  induction elements generalizing results with
  | nil =>
      cases mapped
      cases member
  | cons element rest inductionHypothesis =>
      rw [List.mapM_cons] at mapped
      obtain ⟨head, first, mapped⟩ := bind_eq_ok.1 mapped
      obtain ⟨tail, others, mapped⟩ := bind_eq_ok.1 mapped
      cases mapped
      rcases List.mem_cons.1 member with rfl | later
      · exact ⟨element, List.mem_cons_self, first⟩
      · obtain ⟨found, present, checked⟩ := inductionHypothesis others later
        exact ⟨found, List.mem_cons_of_mem _ present, checked⟩

/-- An update makes a draft of the updated values. -/
theorem updateDraft_eq_ok
    {snapshot draft : ConfigurationSnapshot Requested}
    {changes : Changes} :
    service.updateDraft snapshot changes = .ok draft ↔
      ∃ requested, service.update snapshot.requested changes = .ok requested ∧
        draft = ⟨.draft, requested⟩ := by
  unfold updateDraft
  rw [bind_eq_ok]
  exact exists_congr fun requested => and_congr_right fun _ =>
    ⟨fun same => (Except.ok.inj same).symm, fun same => same ▸ rfl⟩

/-- The draft of a sweep point is the updated baseline. -/
theorem sweepDraft_updates
    {baseline draft : ConfigurationSnapshot Requested}
    {field : String}
    {point : Parameters.Value × Nat}
    (drafted : service.sweepDraft baseline field point = .ok draft) :
    service.updateDraft baseline (service.change field point.1) =
      .ok draft := by
  unfold sweepDraft at drafted
  split at drafted
  · next updated =>
      cases drafted
      exact updated
  · split at drafted <;> cases drafted

/-- Every step of a plan is a validated target, of the baseline or of a draft
that updates it. -/
theorem exists_of_mem_compileRunSteps
    {baseline : ConfigurationSnapshot Requested}
    {plan : RunPlanV1}
    {steps : List (RunStep Requested)}
    {step : RunStep Requested}
    (compiled : service.compileRunSteps baseline plan = .ok steps)
    (member : step ∈ steps) :
    ∃ draft invalid,
      (draft = baseline ∨
        ∃ changes, service.updateDraft baseline changes = .ok draft) ∧
      service.validatedTarget draft invalid = .ok step := by
  obtain ⟨⟨⟩, _, compiled⟩ := bind_eq_ok.1 compiled
  obtain ⟨targets, planned, compiled⟩ := bind_eq_ok.1 compiled
  cases compiled
  obtain ⟨target, present, repeated⟩ := List.mem_flatMap.1 member
  rw [List.eq_of_mem_replicate repeated]
  unfold planTargets at planned
  cases swept : plan.sweep with
  | none =>
      rw [swept] at planned
      obtain ⟨only, validated, planned⟩ := bind_eq_ok.1 planned
      cases planned
      rw [List.mem_singleton.1 present]
      exact ⟨baseline, _, .inl rfl, validated⟩
  | some sweep =>
      rw [swept] at planned
      obtain ⟨⟨⟩, _, planned⟩ := bind_eq_ok.1 planned
      obtain ⟨⟨⟩, _, mapped⟩ := bind_eq_ok.1 planned
      obtain ⟨point, _, found⟩ := exists_of_mem_mapM mapped present
      obtain ⟨draft, drafted, validated⟩ := bind_eq_ok.1 found
      exact ⟨draft, _, .inr ⟨_, sweepDraft_updates drafted⟩, validated⟩

/-- Every step of a plan is compiled from its own snapshot. -/
theorem compileRunSteps_compiles
    {baseline : ConfigurationSnapshot Requested}
    {plan : RunPlanV1}
    {steps : List (RunStep Requested)}
    (compiled : service.compileRunSteps baseline plan = .ok steps) :
    ∀ step ∈ steps, service.Compiles step := by
  intro step member
  obtain ⟨draft, invalid, -, validated⟩ :=
    exists_of_mem_compileRunSteps compiled member
  exact validatedTarget_compiles validated

end ExecutorService

namespace Executor

variable {Requested Changes : Type}
  {service : ExecutorService Requested Changes}
  {executor after : Executor Requested}

/-- The executor after a refresh: the same one, or one without a configuration
in force. -/
theorem refreshSession_cases
    {generation : Nat}
    (refreshed : executor.refreshSession service generation = .ok after) :
    after = executor ∨ after.appliedConfig = none := by
  unfold refreshSession at refreshed
  split at refreshed
  · exact .inl (Except.ok.inj refreshed).symm
  · obtain ⟨snapshot, _, refreshed⟩ := bind_eq_ok.1 refreshed
    cases refreshed
    exact .inr rfl

/-- The configuration in force is the applied one. -/
theorem requireApplied_applied
    {config : AcquisitionConfigV2}
    (required : executor.requireApplied = .ok config) :
    executor.appliedConfig = some config := by
  unfold requireApplied at required
  split at required
  · next applied present =>
      cases required
      exact present
  · cases required

/-- An identity that is accepted is that of the applied configuration. -/
theorem requireAppliedIdentity_applied
    {profileSha256 : String}
    {deviceConfigCrc32 : UInt32}
    {config : AcquisitionConfigV2}
    (required :
      executor.requireAppliedIdentity profileSha256 deviceConfigCrc32 =
        .ok config) :
    executor.appliedConfig = some config ∧
      hex config.profileSha256.toList = profileSha256 ∧
      config.deviceConfigCrc32 = deviceConfigCrc32 := by
  obtain ⟨found, present, required⟩ := bind_eq_ok.1 required
  obtain ⟨⟨⟩, sameProfile, required⟩ := bind_eq_ok.1 required
  obtain ⟨⟨⟩, sameCrc, required⟩ := bind_eq_ok.1 required
  cases required
  exact ⟨requireApplied_applied present, require_eq_ok.1 sameProfile,
    require_eq_ok.1 sameCrc⟩

/-- Only an exact readback is published. -/
theorem publishApplied_exact
    {target : RunStep Requested}
    {readback : AcquisitionConfigV2}
    {generation : Nat}
    (compiles : service.Compiles target)
    (published :
      executor.publishApplied service target readback generation = .ok after) :
    readback = target.compiled ∧
      after.appliedConfig = some target.compiled ∧
      after.sessionGeneration = generation := by
  obtain ⟨applied, marked, published⟩ := bind_eq_ok.1 published
  cases published
  obtain ⟨⟨⟩, _, marked⟩ := bind_eq_ok.1 marked
  obtain ⟨compiled, again, marked⟩ := bind_eq_ok.1 marked
  obtain ⟨⟨⟩, exact_, _⟩ := bind_eq_ok.1 marked
  obtain rfl := Except.ok.inj (compiles.symm.trans again)
  exact ⟨require_eq_ok.1 exact_, rfl, rfl⟩

end Executor

namespace ExecutorRun

variable {Requested Changes : Type}
  {service : ExecutorService Requested Changes}

/-- A step of the executor. -/
abbrev Step (Requested Changes : Type) :=
  Event (ExecutorRun Requested) (ExecutorInput Changes) SentCommand

/-- An `apply_config` of this configuration has succeeded on a session, with an
exact readback. -/
def Configured
    (earlier : List (Step Requested Changes))
    (session : Nat)
    (config : AcquisitionConfigV2) :
    Prop :=
  ∃ event ∈ earlier, event.output = .setConfig session config (some config)

/-- A capture command goes to a session on which its configuration has been
applied. A schedule names its configuration by the profile and the CRC. -/
def GoesToConfigured
    (earlier : List (Step Requested Changes))
    (event : Step Requested Changes) :
    Prop :=
  match event.output with
  | .captureOnce session config => Configured earlier session config
  | .startPeriodic session schedule =>
      ∃ config,
        Configured earlier session config ∧
          config.profileSha256 = schedule.profileSha256 ∧
          config.deviceConfigCrc32 = schedule.deviceConfigCrc32
  | _ => True

/-- The client is not replaced between the two sides of a look at its
generation: a readback is published while the client it comes from is there,
and a capture command is sent to the client the executor looked at last. -/
def Undisturbed (event : Step Requested Changes) : Prop :=
  match event.source.work, event.input with
  | some (.recording _ _ session _), .proceed _ =>
      session = event.source.generation
  | some (.capturing _ _), .answer _ =>
      event.source.connected →
        event.source.executor.sessionGeneration = event.source.generation
  | some (.starting _), .answer _ =>
      event.source.connected →
        event.source.executor.sessionGeneration = event.source.generation
  | _, _ => True

/-- Every step left of a plan is compiled from its own snapshot. -/
def PlanCompiles
    (service : ExecutorService Requested Changes)
    (plan : Option (PlanRest Requested)) :
    Prop :=
  ∀ rest ∈ plan, ∀ step ∈ rest.steps, service.Compiles step

/-- What the work of an operation relies on. -/
def Grounded
    (service : ExecutorService Requested Changes)
    (earlier : List (Step Requested Changes))
    (executor : Executor Requested) :
    Work Requested → Prop
  | .applying target plan =>
      service.Compiles target ∧ PlanCompiles service plan
  | .recording target readback session plan =>
      service.Compiles target ∧ PlanCompiles service plan ∧
        ∃ event ∈ earlier,
          event.output = .setConfig session target.compiled (some readback)
  | .capturing config plan =>
      executor.appliedConfig = some config ∧ PlanCompiles service plan
  | .starting schedule =>
      ∃ config,
        executor.appliedConfig = some config ∧
          config.profileSha256 = schedule.profileSha256 ∧
          config.deviceConfigCrc32 = schedule.deviceConfigCrc32
  | .pausing plan => PlanCompiles service (some plan)

/-- The configuration in force has been applied on the session the executor
remembers, and the operation in the lock is grounded. -/
structure Accounted
    (service : ExecutorService Requested Changes)
    (earlier : List (Step Requested Changes))
    (run : ExecutorRun Requested) :
    Prop where
  applied :
    ∀ config,
      run.executor.appliedConfig = some config →
        Configured earlier run.executor.sessionGeneration config
  working :
    ∀ work ∈ run.work, Grounded service earlier run.executor work

/-- A longer record says no less. -/
theorem Configured.concat
    {earlier : List (Step Requested Changes)}
    {session : Nat}
    {config : AcquisitionConfigV2}
    (configured : Configured earlier session config)
    (last : Step Requested Changes) :
    Configured (earlier ++ [last]) session config := by
  obtain ⟨event, member, sent⟩ := configured
  exact ⟨event, List.mem_append_left _ member, sent⟩

theorem Grounded.concat
    {earlier : List (Step Requested Changes)}
    {executor : Executor Requested}
    {work : Work Requested}
    (grounded : Grounded service earlier executor work)
    (last : Step Requested Changes) :
    Grounded service (earlier ++ [last]) executor work := by
  cases work with
  | recording target readback session plan =>
      obtain ⟨compiles, rest, event, member, sent⟩ := grounded
      exact ⟨compiles, rest, event, List.mem_append_left _ member, sent⟩
  | applying target plan => exact grounded
  | capturing config plan => exact grounded
  | starting schedule => exact grounded
  | pausing plan => exact grounded

/-- A step that leaves the executor as it is, with work that is grounded. -/
theorem Accounted.step
    {earlier : List (Step Requested Changes)}
    {run : ExecutorRun Requested}
    {last : Step Requested Changes}
    (accounted : Accounted service earlier run)
    (kept : last.target.executor = run.executor)
    (working :
      ∀ work ∈ last.target.work,
        Grounded service (earlier ++ [last]) run.executor work) :
    Accounted service (earlier ++ [last]) last.target := by
  refine ⟨?_, ?_⟩
  · rw [kept]
    intro config applied
    exact (accounted.applied config applied).concat last
  · rw [kept]
    exact working

/-! ## The steps of an operation -/

section Steps

variable {earlier : List (Step Requested Changes)}
  {executor : Executor Requested}

theorem restore_grounded {plan : PlanRest Requested} :
    ∀ work ∈ restore service executor plan,
      Grounded service earlier executor work := by
  intro work member
  unfold restore at member
  split at member
  · cases member
  · split at member
    · next baseline validated =>
        cases member
        exact ⟨ExecutorService.validatedTarget_compiles validated,
          fun _ none => by cases none⟩
    · cases member

theorem afterFailure_grounded {plan : Option (PlanRest Requested)} :
    ∀ work ∈ afterFailure service executor plan,
      Grounded service earlier executor work := by
  cases plan with
  | none =>
      intro work member
      cases member
  | some plan => exact restore_grounded

/-- The next step of a plan is grounded: what it captures is in force. -/
theorem nextStep_grounded
    {plan : PlanRest Requested}
    {cancelled : Bool}
    (compiles : PlanCompiles service (some plan)) :
    ∀ work ∈ nextStep service executor plan cancelled,
      Grounded service earlier executor work := by
  intro work member
  unfold nextStep at member
  cases steps : plan.steps with
  | nil =>
      rw [steps] at member
      exact restore_grounded work member
  | cons step rest =>
      rw [steps] at member
      have here := compiles plan rfl
      rw [steps] at here
      have left :
          PlanCompiles service (some { plan with steps := rest }) := by
        intro found same
        cases same
        exact fun later member =>
          here later (List.mem_cons_of_mem _ member)
      dsimp only at member
      split at member
      · exact restore_grounded work member
      · split at member
        · cases member
          exact ⟨here step List.mem_cons_self, left⟩
        · next present =>
            cases member
            exact ⟨not_not.1 present, left⟩

/-- An operation that enters the lock leaves the configuration in force and its
session alone, and begins with grounded work. -/
theorem enter_grounded
    {operation : ExecutorCall Changes}
    {after : Executor Requested}
    {begun : Option (Work Requested)}
    (entered : enter service executor operation = .ok (after, begun)) :
    (after.appliedConfig = executor.appliedConfig ∧
        after.sessionGeneration = executor.sessionGeneration) ∧
      ∀ work ∈ begun, Grounded service earlier after work := by
  have nothing : ∀ work ∈ (none : Option (Work Requested)),
      Grounded service earlier after work := by
    intro work member
    cases member
  have noPlan : PlanCompiles service none := by
    intro rest member
    cases member
  cases operation with
  | snapshot =>
      cases entered
      exact ⟨⟨rfl, rfl⟩, nothing⟩
  | updateDraft changes =>
      obtain ⟨snapshot, _, entered⟩ := bind_eq_ok.1 entered
      cases entered
      exact ⟨⟨rfl, rfl⟩, nothing⟩
  | applyChanges changes =>
      obtain ⟨draft, _, entered⟩ := bind_eq_ok.1 entered
      obtain ⟨target, validated, entered⟩ := bind_eq_ok.1 entered
      cases entered
      refine ⟨⟨rfl, rfl⟩, fun work member => ?_⟩
      cases member
      exact ⟨ExecutorService.validatedTarget_compiles validated, noPlan⟩
  | applyDraft =>
      obtain ⟨target, validated, entered⟩ := bind_eq_ok.1 entered
      cases entered
      refine ⟨⟨rfl, rfl⟩, fun work member => ?_⟩
      cases member
      exact ⟨ExecutorService.validatedTarget_compiles validated, noPlan⟩
  | captureOnce profileSha256 deviceConfigCrc32 triggerSource syncTimeoutMs =>
      obtain ⟨config, required, entered⟩ := bind_eq_ok.1 entered
      obtain ⟨⟨⟩, _, entered⟩ := bind_eq_ok.1 entered
      cases entered
      refine ⟨⟨rfl, rfl⟩, fun work member => ?_⟩
      cases member
      exact ⟨(Executor.requireAppliedIdentity_applied required).1, noPlan⟩
  | startPeriodic schedule =>
      obtain ⟨config, required, entered⟩ := bind_eq_ok.1 entered
      cases entered
      refine ⟨⟨rfl, rfl⟩, fun work member => ?_⟩
      cases member
      obtain ⟨applied, sameProfile, sameCrc⟩ :=
        Executor.requireAppliedIdentity_applied required
      exact ⟨config, applied,
        List.Vector.eq _ _ (hex_injective sameProfile), sameCrc⟩
  | executeRunPlan plan =>
      obtain ⟨baseline, _, entered⟩ := bind_eq_ok.1 entered
      obtain ⟨steps, compiled, entered⟩ := bind_eq_ok.1 entered
      cases entered
      refine ⟨⟨rfl, rfl⟩, fun work member => ?_⟩
      cases member
      intro rest same
      cases same
      exact ExecutorService.compileRunSteps_compiles compiled

end Steps

@[simp] theorem disconnect_executor (run : ExecutorRun Requested) :
    run.disconnect.executor = run.executor := by
  unfold disconnect
  split <;> rfl

@[simp] theorem disconnect_work (run : ExecutorRun Requested) :
    run.disconnect.work = run.work := by
  unfold disconnect
  split <;> rfl

@[simp] theorem fail_executor
    (run : ExecutorRun Requested)
    (plan : Option (PlanRest Requested)) :
    (run.fail service plan).executor = run.executor :=
  rfl

/-- A failure leaves what the operation does after an exception. -/
theorem fail_work
    (run : ExecutorRun Requested)
    (plan : Option (PlanRest Requested)) :
    (run.disconnect.fail service plan).work =
      afterFailure service run.executor plan := by
  unfold fail
  rw [disconnect_executor]

/-- What the end of a client call leaves to do, with what it has sent. -/
inductive AnswerShape
    (service : ExecutorService Requested Changes)
    (run : ExecutorRun Requested) :
    Work Requested → Option (Work Requested) → SentCommand → Prop where
  | waits (work : Work Requested) :
      AnswerShape service run work (some work) .nothing
  | fails
      (work : Work Requested)
      (plan : Option (PlanRest Requested))
      (sent : SentCommand) :
      AnswerShape service run work (afterFailure service run.executor plan) sent
  | ends (work : Work Requested) (sent : SentCommand) :
      AnswerShape service run work none sent
  | reads
      (target : RunStep Requested)
      (readback : AcquisitionConfigV2)
      (plan : Option (PlanRest Requested)) :
      AnswerShape service run (.applying target plan)
        (some (.recording target readback run.generation plan))
        (.setConfig run.generation target.compiled (some readback))
  | captures
      (config : AcquisitionConfigV2)
      (plan : PlanRest Requested)
      (sent : SentCommand) :
      AnswerShape service run (.capturing config (some plan))
        (some (.pausing plan)) sent

/-- The end of a client call leaves the executor to the operation. -/
theorem answer_shape
    (service : ExecutorService Requested Changes)
    {run : ExecutorRun Requested}
    {work : Work Requested}
    (working : run.work = some work)
    (ending : CallEnd) :
    (run.answer service work ending).1.executor = run.executor ∧
      AnswerShape service run work (run.answer service work ending).1.work
        (run.answer service work ending).2 := by
  cases work with
  | recording target readback session plan =>
      exact ⟨rfl, working ▸ .waits _⟩
  | pausing plan =>
      exact ⟨rfl, working ▸ .waits _⟩
  | applying target plan =>
      cases ending with
      | returns readback =>
          simp only [answer]
          split
          · exact ⟨rfl, .reads target readback plan⟩
          · exact ⟨rfl, .fails _ plan _⟩
      | raises =>
          simp only [answer]
          split
          · exact ⟨rfl, .fails _ plan _⟩
          · exact ⟨rfl, .fails _ plan _⟩
      | loses =>
          simp only [answer]
          split
          · rw [if_pos trivial, fail_executor, disconnect_executor, fail_work]
            exact ⟨rfl, .fails _ plan _⟩
          · exact ⟨rfl, .fails _ plan _⟩
  | capturing config plan =>
      simp only [answer]
      split
      · cases ending with
        | returns readback =>
            cases plan with
            | none => exact ⟨rfl, .ends _ _⟩
            | some plan => exact ⟨rfl, .captures config plan _⟩
        | raises => exact ⟨rfl, .fails _ plan _⟩
        | loses =>
            simp only
            rw [fail_executor, disconnect_executor, fail_work]
            exact ⟨rfl, .fails _ plan _⟩
      · exact ⟨rfl, .fails _ plan _⟩
  | starting schedule =>
      simp only [answer]
      split
      · refine ⟨?_, .ends _ _⟩
        split
        · exact disconnect_executor run
        · rfl
      · exact ⟨rfl, .ends _ _⟩

/-- What a call of each kind sends. -/
theorem answer_sent
    (service : ExecutorService Requested Changes)
    (run : ExecutorRun Requested)
    (work : Work Requested)
    (ending : CallEnd) :
    (run.answer service work ending).2 = .nothing ∨
      run.connected = true ∧
        match work with
        | .applying target _ =>
            ∃ readback,
              (run.answer service work ending).2 =
                .setConfig run.generation target.compiled readback
        | .capturing config _ =>
            (run.answer service work ending).2 =
              .captureOnce run.generation config
        | .starting schedule =>
            (run.answer service work ending).2 =
              .startPeriodic run.generation schedule
        | _ => False := by
  by_cases connected : run.connected = true
  · cases work with
    | recording target readback session plan => exact .inl rfl
    | pausing plan => exact .inl rfl
    | applying target plan =>
        cases ending <;> simp only [answer, if_pos connected] <;>
          exact .inr ⟨connected, _, rfl⟩
    | capturing config plan =>
        simp only [answer, if_pos connected]
        exact .inr ⟨connected, trivial⟩
    | starting schedule =>
        simp only [answer, if_pos connected]
        exact .inr ⟨connected, trivial⟩
  · left
    cases work <;> cases ending <;> simp only [answer, if_neg connected]

/-- Only a capture that is due, or a schedule that is to start, is sent. -/
theorem answer_sends
    {earlier : List (Step Requested Changes)}
    {run : ExecutorRun Requested}
    {work : Work Requested}
    {ending : CallEnd}
    {last : Step Requested Changes}
    (accounted : Accounted service earlier run)
    (working : run.work = some work)
    (source : last.source = run)
    (input : last.input = .answer ending)
    (output : last.output = (run.answer service work ending).2)
    (undisturbed : Undisturbed last) :
    GoesToConfigured earlier last := by
  have grounded := accounted.working work working
  unfold Undisturbed at undisturbed
  rw [source, input, working] at undisturbed
  unfold GoesToConfigured
  rw [output]
  rcases answer_sent service run work ending with
    nothing | ⟨connected, sent⟩
  · rw [nothing]
    exact trivial
  · cases work with
    | recording target readback session plan => exact sent.elim
    | pausing plan => exact sent.elim
    | applying target plan =>
        obtain ⟨readback, sent⟩ := sent
        rw [sent]
        exact trivial
    | capturing config plan =>
        dsimp only at sent undisturbed
        rw [sent, ← undisturbed connected]
        exact accounted.applied config grounded.1
    | starting schedule =>
        obtain ⟨config, applied, named⟩ := grounded
        dsimp only at sent undisturbed
        rw [sent, ← undisturbed connected]
        exact ⟨config, accounted.applied config applied, named⟩

/-- What follows the end of a client call is grounded in what it has sent. -/
theorem answer_accounted
    {earlier : List (Step Requested Changes)}
    {run : ExecutorRun Requested}
    {work : Work Requested}
    {last : Step Requested Changes}
    (ending : CallEnd)
    (accounted : Accounted service earlier run)
    (working : run.work = some work)
    (target : last.target = (run.answer service work ending).1)
    (output : last.output = (run.answer service work ending).2) :
    Accounted service (earlier ++ [last]) last.target := by
  obtain ⟨kept, shape⟩ := answer_shape service working ending
  refine accounted.step (target ▸ kept) ?_
  have grounded := accounted.working work working
  rw [target]
  rw [← output] at shape
  generalize (run.answer service work ending).1.work = left at shape
  generalize said : last.output = sent at shape
  intro next member
  cases shape with
  | waits =>
      cases member
      exact grounded.concat last
  | fails _ plan => exact afterFailure_grounded next member
  | ends => cases member
  | reads applied readback plan =>
      cases member
      exact ⟨grounded.1, grounded.2, last, by simp, said⟩
  | captures config plan =>
      cases member
      exact grounded.2

/-- The executor publishes what has been read back, or goes on with its plan. -/
theorem proceed_accounted
    {earlier : List (Step Requested Changes)}
    {run : ExecutorRun Requested}
    {work : Work Requested}
    {cancelled : Bool}
    {last : Step Requested Changes}
    (accounted : Accounted service earlier run)
    (working : run.work = some work)
    (source : last.source = run)
    (input : last.input = .proceed cancelled)
    (target : last.target = run.proceed service work cancelled)
    (undisturbed : Undisturbed last) :
    Accounted service (earlier ++ [last]) last.target := by
  have grounded := accounted.working work working
  unfold Undisturbed at undisturbed
  rw [source, input, working] at undisturbed
  have waits :
      run.proceed service work cancelled = run →
        Accounted service (earlier ++ [last]) last.target := by
    intro same
    rw [target, same]
    have kept : last.target = run := target.trans same
    refine kept ▸ accounted.step (congrArg executor kept) ?_
    rw [kept, working]
    intro next member
    cases member
    exact grounded.concat last
  cases work with
  | applying => exact waits rfl
  | capturing => exact waits rfl
  | starting => exact waits rfl
  | pausing plan =>
      refine accounted.step (target ▸ rfl) ?_
      rw [target]
      exact nextStep_grounded grounded
  | recording applied readback session plan =>
      obtain ⟨compiles, left, event, member, sent⟩ := grounded
      cases published : run.executor.publishApplied service applied readback
          run.generation with
      | error raised =>
          have failed :
              run.proceed service (.recording applied readback session plan)
                cancelled = run.fail service plan := by
            simp only [proceed, published]
          rw [failed] at target
          refine accounted.step (target ▸ rfl) ?_
          rw [target]
          exact afterFailure_grounded
      | ok executor =>
          obtain ⟨rfl, inForce, remembered⟩ :=
            Executor.publishApplied_exact compiles published
          have configured :
              Configured (earlier ++ [last]) run.generation
                applied.compiled := by
            dsimp only at undisturbed
            rw [← undisturbed]
            exact ⟨event, List.mem_append_left _ member, sent⟩
          rw [target]
          simp only [proceed, published]
          refine ⟨?_, ?_⟩
          · intro config present
            obtain rfl := Option.some.inj (inForce.symm.trans present)
            rw [remembered]
            exact configured
          · intro next member
            obtain ⟨rest, present, rfl⟩ := Option.map_eq_some_iff.1 member
            exact ⟨inForce, present ▸ left⟩

/-- An operation that enters the lock begins with what has been accounted for,
or with nothing. -/
theorem accept_accounted
    {earlier : List (Step Requested Changes)}
    {run : ExecutorRun Requested}
    {last : Step Requested Changes}
    (operation : ExecutorCall Changes)
    (accounted : Accounted service earlier run)
    (free : run.work = none)
    (target : last.target = run.accept service operation) :
    Accounted service (earlier ++ [last]) last.target := by
  have same :
      last.target = run →
        Accounted service (earlier ++ [last]) last.target := by
    intro same
    refine accounted.step (congrArg executor same) ?_
    rw [same, free]
    exact fun work member => by cases member
  unfold accept at target
  split at target
  · exact same target
  · next executor refreshed =>
      have inForce :
          ∀ config,
            executor.appliedConfig = some config →
              Configured (earlier ++ [last]) executor.sessionGeneration
                config := by
        intro config present
        rcases Executor.refreshSession_cases refreshed with rfl | forgotten
        · exact (accounted.applied config present).concat last
        · rw [forgotten] at present
          cases present
      split at target
      · rw [target]
        exact ⟨inForce, fun work member => by
          rw [free] at member
          cases member⟩
      · next entered work enters =>
          obtain ⟨⟨sameConfig, sameSession⟩, grounded⟩ :=
            @enter_grounded _ _ _ (earlier ++ [last]) _ _ _ _ enters
          rw [target]
          refine ⟨?_, grounded⟩
          rw [sameConfig, sameSession]
          exact inForce

/-- Every undisturbed step keeps the account. -/
theorem accounted_step
    (earlier : List (Step Requested Changes))
    (run : ExecutorRun Requested)
    (input : ExecutorInput Changes)
    (accounted : Accounted service earlier run)
    (undisturbed : Undisturbed ((machine service).event run input)) :
    Accounted service (earlier ++ [(machine service).event run input])
      ((machine service).event run input).target := by
  have kept :
      ((machine service).event run input).target.executor = run.executor →
      ((machine service).event run input).target.work = run.work →
        Accounted service (earlier ++ [(machine service).event run input])
          ((machine service).event run input).target := by
    intro sameExecutor sameWork
    refine accounted.step sameExecutor ?_
    rw [sameWork]
    exact fun work member => (accounted.working work member).concat _
  cases input with
  | replace => exact kept rfl rfl
  | close => exact kept (disconnect_executor run) (disconnect_work run)
  | call operation =>
      cases working : run.work with
      | some work =>
          refine kept ?_ ?_ <;> simp only [Machine.event, machine, working]
      | none =>
          refine accept_accounted operation accounted working ?_
          simp only [Machine.event, machine, working]
  | answer ending =>
      cases working : run.work with
      | some work =>
          refine answer_accounted ending accounted working ?_ ?_ <;>
            simp only [Machine.event, machine, working]
      | none =>
          refine kept ?_ ?_ <;> simp only [Machine.event, machine, working]
  | proceed cancelled =>
      cases working : run.work with
      | some work =>
          refine proceed_accounted accounted working rfl rfl ?_ undisturbed
          simp only [Machine.event, machine, working]
      | none =>
          refine kept ?_ ?_ <;> simp only [Machine.event, machine, working]

/-- Every undisturbed step sends its capture command to a configured session. -/
theorem goesToConfigured_step
    (earlier : List (Step Requested Changes))
    (run : ExecutorRun Requested)
    (input : ExecutorInput Changes)
    (accounted : Accounted service earlier run)
    (undisturbed : Undisturbed ((machine service).event run input)) :
    GoesToConfigured earlier ((machine service).event run input) := by
  cases input with
  | replace => exact trivial
  | close => exact trivial
  | call operation =>
      cases working : run.work <;>
        simp only [GoesToConfigured, Machine.event, machine, working]
  | proceed cancelled =>
      cases working : run.work <;>
        simp only [GoesToConfigured, Machine.event, machine, working]
  | answer ending =>
      cases working : run.work with
      | some work =>
          refine answer_sends accounted working rfl rfl ?_ undisturbed
          simp only [Machine.event, machine, working]
      | none =>
          simp only [GoesToConfigured, Machine.event, machine, working]

/-- In a run whose steps are undisturbed, every capture command goes to a
session on which its configuration has been applied. -/
theorem captures_go_to_configured
    (service : ExecutorService Requested Changes)
    (connected : Bool)
    (inputs : List (ExecutorInput Changes))
    (undisturbed :
      EveryStep (fun _ event => Undisturbed event)
        ((machine service).trace (started service connected) inputs)) :
    EveryStep GoesToConfigured
      ((machine service).trace (started service connected) inputs) := by
  refine (machine service).everyStep_of_invariant (Accounted service) ?_
    accounted_step goesToConfigured_step inputs undisturbed
  refine ⟨fun config present => ?_, fun work member => ?_⟩
  · cases present
  · cases member

/-! ## A client that is replaced within a plan -/

open Parameters (coreExecutorService newDraftConfig)

/-- Two captures of the configuration in force. -/
def twoLoops : RunPlanV1 where
  loops := 2
  startDelayMs := 0
  loopDelayMs := 0
  sweep := none
  triggerSource := .software
  syncTimeoutMs := 0

/-- A configuration is applied, and the first capture of a plan is taken. -/
def firstLoop : List (ExecutorInput Parameters.Changes) :=
  [.call .applyDraft, .answer (.returns newDraftConfig), .proceed false,
    .call (.executeRunPlan twoLoops), .proceed false,
    .answer (.returns newDraftConfig)]

/-- The second capture of the plan is taken. -/
def secondLoop : List (ExecutorInput Parameters.Changes) :=
  [.proceed false, .answer (.returns newDraftConfig)]

instance (event : Step Requested Changes) :
    Decidable (Undisturbed event) := by
  unfold Undisturbed
  split <;> infer_instance

theorem captures_go_to_configured_twoLoops :
    EveryStep GoesToConfigured
      ((machine coreExecutorService).trace
        (started coreExecutorService true) (firstLoop ++ secondLoop)) :=
  captures_go_to_configured coreExecutorService true _ (by decide +kernel)

/-- A capture goes to a session on which its configuration has been applied. -/
def CaptureConfigured
    (earlier : List (Step Requested Changes))
    (event : Step Requested Changes) :
    Prop :=
  match event.output with
  | .captureOnce session config => Configured earlier session config
  | _ => True

instance
    (earlier : List (Step Requested Changes))
    (event : Step Requested Changes) :
    Decidable (CaptureConfigured earlier event) := by
  unfold CaptureConfigured Configured
  split <;> infer_instance

/-- A client that is published between two captures of a plan gets the second
one without a SET_CONFIG. -/
theorem replaced_client_gets_capture :
    ¬EveryStep GoesToConfigured
      ((machine coreExecutorService).trace
        (started coreExecutorService true)
        (firstLoop ++ [.replace] ++ secondLoop)) := by
  intro every
  have captures :
      EveryStep CaptureConfigured
        ((machine coreExecutorService).trace
          (started coreExecutorService true)
          (firstLoop ++ [.replace] ++ secondLoop)) := by
    refine every.imp fun earlier event goes => ?_
    unfold GoesToConfigured at goes
    unfold CaptureConfigured
    split at goes <;> simp_all
  revert captures
  decide +kernel

end ExecutorRun

end Usac.Host
