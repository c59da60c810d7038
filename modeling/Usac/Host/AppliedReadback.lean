import Usac.Host.DeviceRun
import Usac.Host.ParameterReadback

namespace Usac.Host.Parameters

open Library

/-!
# What the executor publishes is what was requested

Over its parameter service the executor holds only snapshots the service has
made, whatever happens to its client and its device. So the configuration it
publishes is one the service has compiled from the values that were requested,
and the readback it was accepted with says the same values.
-/

namespace ParameterService

variable {service : ParameterService}

/-- The service has made a snapshot that looks like this to the executor. -/
def Makes
    (service : ParameterService)
    (outline : Host.ConfigurationSnapshot Requested) :
    Prop :=
  ∃ snapshot, Reachable service snapshot ∧ snapshot.outline = outline

/-- The service has accepted a readback of this configuration for the snapshot
that looks like this. -/
def ReadsBack
    (service : ParameterService)
    (outline : Host.ConfigurationSnapshot Requested)
    (config : AcquisitionConfigV2) :
    Prop :=
  ∃ before applied, Reachable service before ∧
    service.markApplied before config = .ok applied ∧
    applied.outline = outline

/-- The target is one of the service, and compiled from its snapshot. -/
structure MakesTarget
    (service : ParameterService)
    (target : RunStep Requested) :
    Prop where
  snapshot : service.Makes target.snapshot
  compiles : service.executorService.Compiles target

/-- The baseline and the targets of a plan are those of the service. -/
def MakesPlan
    (service : ParameterService)
    (plan : Option (PlanRest Requested)) :
    Prop :=
  ∀ rest ∈ plan, service.Makes rest.baselineSnapshot ∧
    ∀ step ∈ rest.steps, service.MakesTarget step

/-- What an operation works on is of the service. -/
def MakesWork (service : ParameterService) : Work Requested → Prop
  | .applying target plan | .recording target _ _ plan =>
      service.MakesTarget target ∧ service.MakesPlan plan
  | .capturing _ plan => service.MakesPlan plan
  | .starting _ => True
  | .pausing plan => service.MakesPlan (some plan)

/-- The snapshot of the executor is one of the service, and an applied one has
been read back. -/
structure Backs
    (service : ParameterService)
    (executor : Executor Requested) :
    Prop where
  snapshot : service.Makes executor.snapshot
  applied :
    executor.snapshot.state = .applied →
      ∃ config, executor.appliedConfig = some config ∧
        service.ReadsBack executor.snapshot config

/-- The executor and its operation hold what the service has made. -/
structure BacksRun
    (service : ParameterService)
    (run : ExecutorRun Requested) :
    Prop where
  executor : service.Backs run.executor
  work : ∀ work ∈ run.work, service.MakesWork work

section Operations

variable {outline draft : Host.ConfigurationSnapshot Requested}
  {target : RunStep Requested} {executor after : Executor Requested}

/-- An update of what the service has made is made by the service. -/
theorem Makes.updateDraft
    {changes : Changes}
    (makes : service.Makes outline)
    (updated :
      service.executorService.updateDraft outline changes = .ok draft) :
    service.Makes draft := by
  obtain ⟨snapshot, reachable, rfl⟩ := makes
  rw [← map_outline_updateDraft] at updated
  obtain ⟨made, updates, rfl⟩ := map_eq_ok.1 updated
  exact ⟨made, reachable.updateDraft updates, rfl⟩

/-- A target that validates is one of the service. -/
theorem Makes.validatedTarget
    {invalid : List FieldValidationError → Raised}
    (makes : service.Makes outline)
    (validated :
      service.executorService.validatedTarget outline invalid =
        .ok target) :
    service.MakesTarget target := by
  refine ⟨?_, ExecutorService.validatedTarget_compiles validated⟩
  obtain ⟨result, validates, chosen⟩ := bind_eq_ok.1 validated
  obtain ⟨snapshot, reachable, rfl⟩ := makes
  rw [← map_outline_validate] at validates
  obtain ⟨made, passes, rfl⟩ := map_eq_ok.1 validates
  split at chosen
  · cases chosen
    exact ⟨made.snapshot, reachable.validate passes, rfl⟩
  · cases chosen

/-- A readback that is accepted is one the service has accepted. -/
theorem MakesTarget.markApplied
    {configReadback : AcquisitionConfigV2}
    (makes : service.MakesTarget target)
    (marked :
      service.executorService.markApplied target.snapshot configReadback =
        .ok outline) :
    service.Makes outline ∧ service.ReadsBack outline configReadback := by
  obtain ⟨snapshot, reachable, same⟩ := makes.snapshot
  rw [← same, ← map_outline_markApplied] at marked
  obtain ⟨applied, marks, rfl⟩ := map_eq_ok.1 marked
  exact ⟨⟨applied, reachable.markApplied marks, rfl⟩,
    snapshot, applied, reachable, marks, rfl⟩

/-- What is published has been read back. -/
theorem Backs.publishApplied
    {configReadback : AcquisitionConfigV2}
    {generation : Nat}
    (makes : service.MakesTarget target)
    (published :
      executor.publishApplied service.executorService target configReadback
          generation =
        .ok after) :
    service.Backs after := by
  obtain ⟨rfl, -, -⟩ :=
    Executor.publishApplied_exact makes.compiles published
  obtain ⟨applied, marked, published⟩ := bind_eq_ok.1 published
  cases published
  obtain ⟨made, read⟩ := makes.markApplied marked
  exact ⟨made, fun _ => ⟨_, rfl, read⟩⟩

/-- An executor with a draft has nothing that is to be read back. -/
theorem Backs.of_draft
    {changes : Changes}
    (makes : service.Makes after.snapshot)
    (updated :
      service.executorService.updateDraft outline changes =
        .ok after.snapshot) :
    service.Backs after := by
  refine ⟨makes, fun applied => ?_⟩
  obtain ⟨requested, -, same⟩ := ExecutorService.updateDraft_eq_ok.1 updated
  rw [same] at applied
  cases applied

/-- A refresh leaves a snapshot of the service, and nothing in force that has
not been read back. -/
theorem Backs.refreshSession
    {generation : Nat}
    (backs : service.Backs executor)
    (refreshed :
      executor.refreshSession service.executorService generation =
        .ok after) :
    service.Backs after := by
  unfold Executor.refreshSession at refreshed
  split at refreshed
  · cases refreshed
    exact backs
  · obtain ⟨draft, updated, refreshed⟩ := bind_eq_ok.1 refreshed
    cases refreshed
    exact .of_draft (backs.snapshot.updateDraft updated) updated

/-- The steps of a plan are targets of the service. -/
theorem Makes.compileRunSteps
    {plan : RunPlanV1}
    {steps : List (RunStep Requested)}
    (makes : service.Makes outline)
    (compiled :
      service.executorService.compileRunSteps outline plan = .ok steps) :
    ∀ step ∈ steps, service.MakesTarget step := by
  intro step member
  obtain ⟨draft, invalid, from_, validated⟩ :=
    ExecutorService.exists_of_mem_compileRunSteps compiled member
  rcases from_ with rfl | ⟨changes, updated⟩
  · exact makes.validatedTarget validated
  · exact (makes.updateDraft updated).validatedTarget validated

/-- What an operation begins is of the service. -/
theorem Backs.enter
    {operation : ExecutorCall Changes}
    {begun : Option (Work Requested)}
    (backs : service.Backs executor)
    (entered :
      ExecutorRun.enter service.executorService executor operation =
        .ok (after, begun)) :
    service.Backs after ∧ ∀ work ∈ begun, service.MakesWork work := by
  have noPlan : service.MakesPlan none := by
    intro rest member
    cases member
  cases operation with
  | snapshot =>
      cases entered
      exact ⟨backs, fun work member => by cases member⟩
  | updateDraft changes =>
      obtain ⟨draft, updated, entered⟩ := bind_eq_ok.1 entered
      cases entered
      exact ⟨.of_draft (backs.snapshot.updateDraft updated) updated,
        fun work member => by cases member⟩
  | applyChanges changes =>
      obtain ⟨draft, updated, entered⟩ := bind_eq_ok.1 entered
      obtain ⟨target, validated, entered⟩ := bind_eq_ok.1 entered
      cases entered
      refine ⟨backs, fun work member => ?_⟩
      cases member
      exact ⟨(backs.snapshot.updateDraft updated).validatedTarget validated,
        noPlan⟩
  | applyDraft =>
      obtain ⟨target, validated, entered⟩ := bind_eq_ok.1 entered
      cases entered
      refine ⟨backs, fun work member => ?_⟩
      cases member
      exact ⟨backs.snapshot.validatedTarget validated, noPlan⟩
  | captureOnce profileSha256 deviceConfigCrc32 triggerSource syncTimeoutMs =>
      obtain ⟨config, -, entered⟩ := bind_eq_ok.1 entered
      obtain ⟨⟨⟩, -, entered⟩ := bind_eq_ok.1 entered
      cases entered
      refine ⟨backs, fun work member => ?_⟩
      cases member
      exact noPlan
  | startPeriodic schedule =>
      obtain ⟨config, -, entered⟩ := bind_eq_ok.1 entered
      cases entered
      refine ⟨backs, fun work member => ?_⟩
      cases member
      exact trivial
  | executeRunPlan plan =>
      obtain ⟨config, -, entered⟩ := bind_eq_ok.1 entered
      obtain ⟨steps, compiled, entered⟩ := bind_eq_ok.1 entered
      cases entered
      refine ⟨backs, fun work member => ?_⟩
      cases member
      rintro rest ⟨⟩
      exact ⟨backs.snapshot, backs.snapshot.compileRunSteps compiled⟩

/-- A restoration is of the service. -/
theorem MakesPlan.restore
    {plan : PlanRest Requested}
    (makes : service.MakesPlan (some plan)) :
    ∀ work ∈ ExecutorRun.restore service.executorService executor plan,
      service.MakesWork work := by
  intro work member
  unfold ExecutorRun.restore at member
  split at member
  · cases member
  · split at member
    · next baseline validated =>
        cases member
        refine ⟨(makes plan rfl).1.validatedTarget validated, ?_⟩
        intro rest member
        cases member
    · cases member

/-- What follows a failure is of the service. -/
theorem MakesPlan.afterFailure
    {plan : Option (PlanRest Requested)}
    (makes : service.MakesPlan plan) :
    ∀ work ∈ ExecutorRun.afterFailure service.executorService executor plan,
      service.MakesWork work := by
  intro work member
  obtain ⟨rest, present, restores⟩ := Option.bind_eq_some_iff.1 member
  obtain rfl := present
  exact makes.restore work restores

/-- The next step of a plan is of the service. -/
theorem MakesPlan.nextStep
    {plan : PlanRest Requested}
    {cancelled : Bool}
    (makes : service.MakesPlan (some plan)) :
    ∀ work ∈ ExecutorRun.nextStep service.executorService executor plan
        cancelled,
      service.MakesWork work := by
  intro work member
  unfold ExecutorRun.nextStep at member
  split at member
  · exact makes.restore work member
  · next step rest steps =>
      obtain ⟨baseline, made⟩ := makes plan rfl
      rw [steps] at made
      have others :
          service.MakesPlan (some { plan with steps := rest }) := by
        rintro _ ⟨⟩
        exact ⟨baseline, fun other later =>
          made other (List.mem_cons_of_mem _ later)⟩
      split_ifs at member
      · exact makes.restore work member
      · cases member
        exact ⟨made step List.mem_cons_self, others⟩
      · cases member
        exact others

end Operations

section Steps

variable {run next : ExecutorRun Requested}

/-- A run with the executor and the work of another one. -/
theorem BacksRun.of_same
    (backs : service.BacksRun run)
    (executor : next.executor = run.executor)
    (work : next.work = run.work) :
    service.BacksRun next := by
  constructor
  · rw [executor]
    exact backs.executor
  · rw [work]
    exact backs.work

/-- A failed call is followed by what the service has made. -/
theorem BacksRun.fail
    {plan : Option (PlanRest Requested)}
    (backs : service.Backs run.executor)
    (makes : service.MakesPlan plan) :
    service.BacksRun (run.fail service.executorService plan) :=
  ⟨backs, makes.afterFailure⟩

/-- An operation that is admitted is of the service. -/
theorem BacksRun.accept
    (operation : ExecutorCall Changes)
    (backs : service.BacksRun run) :
    service.BacksRun (run.accept service.executorService operation) := by
  unfold ExecutorRun.accept
  split
  · exact backs
  · next executor refreshed =>
      have refreshedBacks := backs.executor.refreshSession refreshed
      split
      · exact ⟨refreshedBacks, backs.work⟩
      · next entered work enters =>
          obtain ⟨enteredBacks, made⟩ := refreshedBacks.enter enters
          exact ⟨enteredBacks, made⟩

/-- Every step keeps the executor to what the service has made. -/
theorem BacksRun.step
    {device left : Option AcquisitionConfigV2}
    {input : DeviceInput Changes}
    {sent : SentCommand}
    (backs : service.BacksRun run)
    (happens :
      DeviceRun.Happens service.executorService run device input next left
        sent) :
    service.BacksRun next := by
  -- A lost client leaves the executor and its operation as they are.
  have lost (loses : Bool) :
      service.BacksRun (if loses then run.disconnect else run) := by
    cases loses with
    | false => exact backs
    | true => exact backs.of_same run.disconnect_executor run.disconnect_work
  cases happens with
  | nothing => exact backs
  | replaced found => exact backs.of_same rfl rfl
  | closed _ connected => exact lost true
  | admitted operation free => exact backs.accept operation
  | readBack target plan readback working connected =>
      refine ⟨backs.executor, ?_⟩
      rintro work ⟨⟩
      exact backs.work (.applying target plan) working
  | applyFailed target plan fate loses working connected =>
      exact .fail (lost loses).executor (backs.work _ working).2
  | unheard _ work working waits answers disconnected =>
      refine .fail backs.executor ?_
      cases work with
      | applying target plan => exact (backs.work _ working).2
      | capturing config plan => exact backs.work _ working
      | recording | starting | pausing => exact waits.elim
  | captured config plan readback working connected =>
      refine ⟨backs.executor, fun work member => ?_⟩
      obtain ⟨rest, rfl, rfl⟩ := Option.map_eq_some_iff.1 member
      exact backs.work (.capturing config (some rest)) working
  | captureFailed config plan fate loses working connected =>
      exact .fail (lost loses).executor (backs.work _ working)
  | startEnded schedule _ loses _ working sends =>
      refine ⟨(lost loses).executor, fun work member => ?_⟩
      cases member
  | published target readback session plan cancelled executor working
      publishes =>
      obtain ⟨made, rests⟩ := backs.work _ working
      refine ⟨.publishApplied made publishes, fun work member => ?_⟩
      obtain ⟨rest, rfl, rfl⟩ := Option.map_eq_some_iff.1 member
      exact rests
  | unpublished target readback session plan cancelled raised working
      refuses =>
      exact .fail backs.executor (backs.work _ working).2
  | advanced plan cancelled working =>
      have makes : service.MakesPlan (some plan) := backs.work _ working
      exact ⟨backs.executor, makes.nextStep⟩

end Steps

/-- Behind an applied snapshot of the executor there is a configuration in force
that the service has accepted as the readback of these very requests, and what
is decoded from it is what was requested. -/
def AppliedAsRequested
    (service : ParameterService)
    (executor : Executor Requested) :
    Prop :=
  executor.snapshot.state = .applied →
    ∃ config before applied readback,
      executor.appliedConfig = some config ∧
        Reachable service before ∧
        service.markApplied before config = .ok applied ∧
        applied.outline = executor.snapshot ∧
        applied.readback = some readback ∧
        AsRequested service executor.snapshot.requested readback.fields

/-- What is accepted is requested as before. -/
theorem requested_of_markApplied
    {before applied : ConfigurationSnapshot}
    {configReadback : AcquisitionConfigV2}
    (marked : service.markApplied before configReadback = .ok applied) :
    applied.requested = before.requested := by
  obtain ⟨⟨⟩, -, marked⟩ := bind_eq_ok.1 marked
  obtain ⟨compiled, -, marked⟩ := bind_eq_ok.1 marked
  obtain ⟨⟨⟩, -, marked⟩ := bind_eq_ok.1 marked
  obtain ⟨decoded, -, marked⟩ := bind_eq_ok.1 marked
  obtain ⟨frequency, -, marked⟩ := bind_eq_ok.1 marked
  obtain ⟨rate, -, marked⟩ := bind_eq_ok.1 marked
  obtain ⟨record, -, marked⟩ := bind_eq_ok.1 marked
  cases marked
  rfl

/-- What has been read back was requested. -/
theorem Backs.appliedAsRequested
    {executor : Executor Requested}
    {combined : List (Int × Int)}
    (backs : service.Backs executor)
    (passed : service.schema.combinedMasks = .ok combined)
    (codes : ∀ entry ∈ service.schema.registerFields, entry.2.DistinctCodes)
    (declared : Declared service.schema) :
    service.AppliedAsRequested executor := by
  intro state
  obtain ⟨config, inForce, before, applied, reachable, marked, same⟩ :=
    backs.applied state
  obtain ⟨readback, present, agrees⟩ :=
    reachable.sound.asRequested passed codes declared marked
  have requested : executor.snapshot.requested = before.requested :=
    (congrArg Host.ConfigurationSnapshot.requested same).symm.trans
      (requested_of_markApplied marked)
  exact ⟨config, before, applied, readback, inForce, reachable, marked, same,
    present, requested ▸ agrees⟩

/-- The core can make its new draft, however it reads a text. -/
theorem exists_newDraft (conversions : TextConversions) :
    ∃ draft, (tuss4470Service conversions).newDraft = .ok draft := by
  have returns :
      (tuss4470Service refusing).newDraft.isOk = true := by
    decide +kernel
  have same :
      (tuss4470Service conversions).newDraft =
        (tuss4470Service refusing).newDraft :=
    rfl
  rw [same]
  cases created : (tuss4470Service refusing).newDraft with
  | error raised =>
      rw [created] at returns
      cases returns
  | ok draft => exact ⟨draft, rfl⟩

/-- The executor of the core starts with the new draft. -/
theorem backsRun_started (conversions : TextConversions) (connected : Bool) :
    (tuss4470Service conversions).BacksRun
      (ExecutorRun.started (tuss4470Service conversions).executorService
        connected) := by
  obtain ⟨draft, created⟩ := exists_newDraft conversions
  refine ⟨⟨⟨draft, .newDraft created, outline_of_newDraft created⟩, ?_⟩, ?_⟩
  · intro applied
    cases applied
  · intro work member
    cases member

/--
In every run of the executor over the service of the core, whatever its callers,
its clients and its devices do, a snapshot that is published as applied was read
back as it was requested, for the configuration that is in force.
-/
theorem everyStep_appliedAsRequested
    (conversions : TextConversions)
    (connected : Bool)
    (device : Option AcquisitionConfigV2)
    (inputs : List (DeviceInput Changes)) :
    EveryStep
      (fun _ event =>
        (tuss4470Service conversions).AppliedAsRequested
          event.target.run.executor)
      ((DeviceRun.machine
          (tuss4470Service conversions).executorService).trace
        (DeviceRun.started
          (tuss4470Service conversions).executorService connected device)
        inputs) := by
  refine Machine.everyStep_of_invariant _
    (fun _ state => (tuss4470Service conversions).BacksRun state.run)
    (backsRun_started conversions connected)
    (fun _ state input backs _ =>
      backs.step (DeviceRun.machine_happens state input))
    (fun _ state input backs (_ : True) => ?_) inputs
    (fun _ _ _ _ => trivial)
  have kept := backs.step (DeviceRun.machine_happens state input)
  exact kept.executor.appliedAsRequested combinedMasks_tuss4470Parameters
    distinctCodes_tuss4470Parameters declared_tuss4470Parameters

end ParameterService

end Usac.Host.Parameters
