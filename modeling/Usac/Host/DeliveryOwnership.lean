import Usac.Host.Acquisition
import Usac.Host.StoreEffect

namespace Usac.Host

open Library

/-!
# The task that owns a boot

The store keeps one context for a boot of a device, and a replayed capture is
decided under it. The record of a run says whose context that is: the task that
has registered last, until its start fails and is cleaned up.
-/

/-- The context a task registers for a boot. -/
def TaskPlan.context
    (plan : TaskPlan)
    (device : DeviceBoot)
    (rowId : Nat) :
    DeliveryPolicyContext :=
  ⟨rowId, device, some plan.sessionId, plan.storagePolicy, plan.groupId⟩

namespace Acquisition

/-- The recorded steps. -/
abbrev Step := Event Acquisition Input Output

/-- The plans of the tasks. -/
def plans (acquisition : Acquisition) : List TaskPlan :=
  acquisition.tasks.map Task.plan

/-- The stage of a task. -/
def stage? (acquisition : Acquisition) (index : Nat) : Option TaskStage :=
  (acquisition.tasks[index]?).map Task.stage

/-- The boot the step registers a task for, and the task. -/
def registration? (step : Step) : Option (DeviceBoot × Nat) :=
  match step.input with
  | .advance index =>
      match step.source.stage? index, step.target.stage? index with
      | some (.identified device), some (.registered _) => some (device, index)
      | _, _ => none
  | _ => none

/-- The boot of a failed start the step cleans up, and the task. -/
def withdrawal? (step : Step) : Option (DeviceBoot × Nat) :=
  match step.input with
  | .advance index =>
      match step.source.stage? index with
      | some (.cleaningUp device) => some (device, index)
      | _ => none
  | _ => none

/-- The owner of each boot after one more step. -/
def nextOwner
    (owner : DeviceBoot → Option Nat)
    (step : Step) :
    DeviceBoot → Option Nat :=
  match registration? step with
  | some (device, index) => Function.update owner device (some index)
  | none =>
      match withdrawal? step with
      | some (device, index) =>
          if owner device = some index then
            Function.update owner device none
          else
            owner
      | none => owner

/-- The owner of each boot after a record. -/
def owner (earlier : List Step) : DeviceBoot → Option Nat :=
  earlier.foldl nextOwner fun _ => none

@[simp] theorem owner_concat
    (earlier : List Step)
    (step : Step) :
    owner (earlier ++ [step]) = nextOwner (owner earlier) step := by
  simp [owner]

/-! ## What a step does to the contexts and the tasks -/

@[simp] theorem plans_changeTask
    (acquisition : Acquisition)
    (index : Nat)
    (change : Task → Task)
    (keepsPlan : ∀ task, (change task).plan = task.plan) :
    (acquisition.changeTask index change).plans = acquisition.plans := by
  refine List.ext_getElem? fun position => ?_
  simp only [plans, changeTask, List.getElem?_map, List.getElem?_modify]
  rcases acquisition.tasks[position]? with _ | task
  · rfl
  · by_cases same : index = position <;> simp [same, keepsPlan]

@[simp] theorem plans_moveTo
    (acquisition : Acquisition)
    (index : Nat)
    (stage : TaskStage) :
    (acquisition.moveTo index stage).plans = acquisition.plans :=
  plans_changeTask acquisition index _ fun _ => rfl

/-- A task that is moved is at its new stage. -/
theorem stage?_moveTo
    {acquisition : Acquisition}
    {index : Nat}
    {task : Task}
    (found : acquisition.tasks[index]? = some task)
    (stage : TaskStage) :
    (acquisition.moveTo index stage).stage? index = some stage := by
  simp [stage?, moveTo, changeTask, found]

/-- The step leaves the contexts and the plans. -/
structure Leaves (source target : Acquisition) : Prop where
  contexts : target.store.contexts = source.store.contexts
  plans : target.plans = source.plans

namespace Leaves

variable {acquisition : Acquisition} {index : Nat}

/-- A state leaves itself. -/
theorem refl (acquisition : Acquisition) : Leaves acquisition acquisition :=
  ⟨rfl, rfl⟩

/-- Moving a task leaves the contexts. -/
theorem moveTo (stage : TaskStage) :
    Leaves acquisition (acquisition.moveTo index stage) :=
  ⟨rfl, plans_moveTo _ _ _⟩

/-- A task that raises leaves the contexts. -/
theorem raise (raised : Raised) :
    Leaves acquisition (acquisition.raise index raised).1 :=
  ⟨rfl, plans_moveTo _ _ _⟩

/-- A session that is published leaves the contexts. -/
theorem publishSession (task : Task) :
    Leaves acquisition (acquisition.publishSession index task) :=
  ⟨rfl, plans_moveTo _ _ _⟩

/-- The check for an active session leaves the contexts. -/
theorem enterSession (plan : TaskPlan) :
    Leaves acquisition (acquisition.enterSession index plan).1 := by
  unfold Acquisition.enterSession
  split_ifs
  · exact .refl acquisition
  · exact .raise _
  · exact .moveTo _
  · exact ⟨rfl, plans_moveTo _ _ _⟩

/-- The end of a task leaves the contexts. -/
theorem finish (task : Task) (state : SessionState) :
    Leaves acquisition (acquisition.finish index task state).1 := by
  unfold Acquisition.finish
  split_ifs
  · rcases finalized : acquisition.store.finalizeSessionSummary
        { task.summary with state := state } with raised | store
    · exact .moveTo _
    · obtain ⟨-, finalizes⟩ :=
        CaptureStore.finalizeSessionSummary_finalizes finalized
      exact ⟨finalizes.policies.contexts, plans_moveTo _ _ _⟩
  · exact .refl acquisition

/-- A commit leaves the contexts. -/
theorem commit (task : Task) (delivery : BridgeCaptureDelivery) :
    Leaves acquisition (acquisition.commit index task delivery).1 := by
  unfold Acquisition.commit
  rcases CaptureStore.deliveredCapture delivery with raised | capture
  · exact .refl acquisition
  · dsimp only
    split_ifs
    · rcases committed :
          (acquisition.store.saveConfigurationContext capture
            (CaptureStore.planContext task.plan.texts capture
              task.plan.sessionId)).commitDelivery delivery
            task.plan.storagePolicy (some task.plan.sessionId)
            task.plan.groupId with
        raised | ⟨store, result⟩
      · exact ⟨rfl, rfl⟩
      · refine ⟨?_, plans_changeTask _ _ _ fun _ => rfl⟩
        obtain ⟨_, -, commits⟩ :=
          CaptureStore.commitDelivery_commits committed
        have same := commits.policies.contexts
        exact same
    · exact .refl acquisition

/-- A replay leaves the contexts. -/
theorem replay (delivery : BridgeCaptureDelivery) :
    Leaves acquisition (acquisition.replay delivery).1 := by
  unfold Acquisition.replay
  rcases CaptureStore.deliveredCapture delivery with raised | capture
  · exact .refl acquisition
  · dsimp only
    split_ifs
    · rcases committed :
          acquisition.store.commitReplayedDelivery delivery with
        raised | ⟨store, result⟩
      · exact .refl acquisition
      · obtain ⟨_, -, replays⟩ :=
          CaptureStore.commitReplayedDelivery_replays committed
        exact ⟨replays.policies.contexts, rfl⟩
    · exact .refl acquisition

/-- A rejected task leaves the contexts. -/
theorem reject (task : Task) (raised : Raised) :
    Leaves acquisition (acquisition.reject index task raised).1 := by
  unfold Acquisition.reject
  split
  · exact .raise _
  · exact .raise _
  · exact .raise _
  · exact .refl acquisition

/-- A command leaves the contexts. -/
theorem command (task : Task) :
    Leaves acquisition (acquisition.command index task) := by
  unfold Acquisition.command
  split
  · exact .refl acquisition
  · split_ifs
    · exact ⟨rfl, plans_changeTask _ _ _ fun _ => rfl⟩
    · exact .refl acquisition

/-- The answer to a start leaves the contexts. -/
theorem answerStart (task : Task) (failure : Option Raised) :
    Leaves acquisition (acquisition.answerStart index task failure).1 := by
  unfold Acquisition.answerStart
  split
  · exact .publishSession _
  · exact .moveTo _
  · exact .refl acquisition

/-- A new capture leaves the contexts. -/
theorem produce (task : Task) (identity : CaptureIdentity) :
    Leaves acquisition (acquisition.produce index task identity) := by
  unfold Acquisition.produce
  split_ifs
  · exact ⟨rfl, rfl⟩
  · exact .refl acquisition

/-- A step of a task leaves what it leaves for every task. -/
theorem stepTask
    {step : Task → Acquisition × Output}
    (leaves : ∀ task, Leaves acquisition (step task).1) :
    Leaves acquisition (acquisition.stepTask index step).1 := by
  unfold Acquisition.stepTask
  split
  · exact .refl acquisition
  · exact leaves _

end Leaves

/-- What a step does to the contexts: nothing, a registration, or the clean-up
of a failed start. -/
inductive ContextChange (step : Step) : Prop
  | keeps
      (contexts : step.target.store.contexts = step.source.store.contexts)
      (unregistered : registration? step = none)
      (kept : withdrawal? step = none)
  | registers
      (device : DeviceBoot)
      (index : Nat)
      (task : Task)
      (found : step.source.tasks[index]? = some task)
      (identified : task.stage = .identified device)
      (registration : registration? step = some (device, index))
      (registered :
        step.source.store.registerDeliveryPolicy device
            (some task.plan.sessionId) task.plan.storagePolicy
            task.plan.groupId =
          .ok step.target.store)
  | withdraws
      (device : DeviceBoot)
      (index : Nat)
      (task : Task)
      (found : step.source.tasks[index]? = some task)
      (unregistered : registration? step = none)
      (withdrawal : withdrawal? step = some (device, index))
      (withdrawn :
        step.target.store =
          step.source.store.unregisterDeliveryPolicy device
            (some task.plan.sessionId))

/-- A step that leaves the contexts, from a stage that changes none. -/
theorem ContextChange.of_leaves
    {acquisition : Acquisition}
    {index : Nat}
    {task : Task}
    (found : acquisition.tasks[index]? = some task)
    (notIdentified : ∀ device, task.stage ≠ .identified device)
    (notCleaningUp : ∀ device, task.stage ≠ .cleaningUp device)
    (leaves : Leaves acquisition (acquisition.advance index task).1) :
    ContextChange (machine.event acquisition (.advance index)) := by
  have stage : acquisition.stage? index = some task.stage := by
    simp [stage?, found]
  refine .keeps ?_ ?_ ?_
  · simpa only [Machine.event, machine, stepTask, found] using leaves.contexts
  · simp only [registration?, Machine.event_input, Machine.event_source, stage]
    split
    · rename_i same _
      exact absurd (Option.some.inj same) (notIdentified _)
    · rfl
  · simp only [withdrawal?, Machine.event_input, Machine.event_source, stage]
    split
    · rename_i same
      exact absurd (Option.some.inj same) (notCleaningUp _)
    · rfl

/-- The registration of a task. -/
theorem contextChange_register
    {acquisition : Acquisition}
    {index : Nat}
    {task : Task}
    {device : DeviceBoot}
    (found : acquisition.tasks[index]? = some task)
    (identified : task.stage = .identified device) :
    ContextChange (machine.event acquisition (.advance index)) := by
  have stage : acquisition.stage? index = some (.identified device) := by
    simp [stage?, found, identified]
  have target :
      (machine.event acquisition (.advance index)).target =
        (acquisition.register index task.plan device).1 := by
    simp only [Machine.event, machine, stepTask, found, advance, identified]
  have kept :
      withdrawal? (machine.event acquisition (.advance index)) = none := by
    simp only [withdrawal?, Machine.event_input, Machine.event_source, stage]
  rcases registers :
      acquisition.store.registerDeliveryPolicy device
        (some task.plan.sessionId) task.plan.storagePolicy
        task.plan.groupId with
    raised | store
  · have raises :
        (machine.event acquisition (.advance index)).target =
          (acquisition.raise index raised).1 := by
      rw [target]
      simp only [register, registers]
    refine .keeps (by rw [raises]; rfl) ?_ kept
    simp only [registration?, Machine.event_input, Machine.event_source, stage,
      raises]
    rw [show (acquisition.raise index raised).1.stage? index =
        some .finished from stage?_moveTo found .finished]
  · have stored :
        (machine.event acquisition (.advance index)).target =
          { acquisition with store := store }.moveTo index
            (.registered device) := by
      rw [target]
      simp only [register, registers]
    have moved :
        ({ acquisition with store := store }.moveTo index
            (.registered device)).stage? index =
          some (.registered device) :=
      stage?_moveTo found _
    refine .registers device index task found identified ?_ ?_
    · simp only [registration?, Machine.event_input, Machine.event_source,
        stage, stored, moved]
    · rw [stored]
      exact registers

/-- The clean-up of a failed start. -/
theorem contextChange_cleanUp
    {acquisition : Acquisition}
    {index : Nat}
    {task : Task}
    {device : DeviceBoot}
    (found : acquisition.tasks[index]? = some task)
    (cleaningUp : task.stage = .cleaningUp device) :
    ContextChange (machine.event acquisition (.advance index)) := by
  have stage : acquisition.stage? index = some (.cleaningUp device) := by
    simp [stage?, found, cleaningUp]
  refine .withdraws device index task found ?_ ?_ ?_
  · simp only [registration?, Machine.event_input, Machine.event_source, stage]
  · simp only [withdrawal?, Machine.event_input, Machine.event_source, stage]
  · simp only [Machine.event, machine, stepTask, found, advance, cleaningUp]
    rfl

/-- The steps of a task change the contexts when it registers and when its
failed start is cleaned up. -/
theorem contextChange_advance
    (acquisition : Acquisition)
    (index : Nat) :
    ContextChange (machine.event acquisition (.advance index)) := by
  rcases found : acquisition.tasks[index]? with _ | task
  · refine .keeps ?_ ?_ ?_
    · simp only [Machine.event, machine, stepTask, found]
    · simp [registration?, stage?, found]
    · simp [withdrawal?, stage?, found]
  · rcases stage : task.stage with
      _ | _ | _ | device | device | _ | device | _
    · refine .of_leaves found (by simp [stage]) (by simp [stage]) ?_
      simp only [advance, stage]
      rcases acquisition.checkTarget task.plan with raised | device
      · exact .raise _
      · exact .moveTo _
    · refine .of_leaves found (by simp [stage]) (by simp [stage]) ?_
      simp only [advance, stage]
      exact .enterSession _
    · refine .of_leaves found (by simp [stage]) (by simp [stage]) ?_
      simp only [advance, stage]
      rcases acquisition.checkTarget task.plan with raised | device
      · exact .raise _
      · exact .moveTo _
    · exact contextChange_register found stage
    · refine .of_leaves found (by simp [stage]) (by simp [stage]) ?_
      simp only [advance, stage]
      split_ifs
      · exact .refl acquisition
      · exact .publishSession _
    · refine .of_leaves found (by simp [stage]) (by simp [stage]) ?_
      simp only [advance, stage]
      exact .refl acquisition
    · exact contextChange_cleanUp found stage
    · refine .of_leaves found (by simp [stage]) (by simp [stage]) ?_
      simp only [advance, stage]
      exact .refl acquisition

/-- All steps but the calls and the own steps of the tasks leave the contexts
and the plans. -/
theorem leaves_step
    (acquisition : Acquisition)
    (input : Input)
    (notCall : ∀ plan, input ≠ .call plan)
    (notAdvance : ∀ index, input ≠ .advance index) :
    Leaves acquisition (machine.event acquisition input).target := by
  cases input with
  | call plan =>
      exact absurd rfl (notCall plan)
  | advance index =>
      exact absurd rfl (notAdvance index)
  | reject index raised =>
      exact .stepTask fun task => .reject task raised
  | command index =>
      exact .stepTask fun task => .command task
  | answerStart index failure =>
      exact .stepTask fun task => .answerStart task failure
  | stop index =>
      refine .stepTask fun task => ?_
      split_ifs
      · exact ⟨rfl, plans_changeTask _ _ _ fun _ => rfl⟩
      · exact .refl acquisition
  | save index =>
      refine .stepTask fun task => ?_
      split_ifs
      · exact ⟨rfl, rfl⟩
      · exact .refl acquisition
  | finish index state =>
      exact .stepTask fun task => .finish task state
  | produce index identity =>
      exact .stepTask fun task => .produce task identity
  | commit index delivery =>
      exact .stepTask fun task => .commit task delivery
  | replay delivery =>
      exact .replay delivery
  | publish device =>
      exact ⟨rfl, rfl⟩
  | createGroup groupId =>
      exact ⟨rfl, rfl⟩

/-- Every step of the machine. -/
theorem contextChange_step
    (acquisition : Acquisition)
    (input : Input) :
    ContextChange (machine.event acquisition input) := by
  cases input with
  | advance index =>
      exact contextChange_advance acquisition index
  | call plan =>
      refine .keeps ?_ rfl rfl
      simp only [Machine.event, machine, call]
      split_ifs <;> rfl
  | _ =>
      exact .keeps (leaves_step _ _ (by simp) (by simp)).contexts rfl rfl

/-- The own steps of a task leave the plans. -/
theorem plans_advance
    (acquisition : Acquisition)
    (index : Nat)
    (task : Task) :
    (acquisition.advance index task).1.plans = acquisition.plans := by
  unfold advance
  split
  · split
    · exact (Leaves.raise _).plans
    · exact plans_moveTo _ _ _
  · exact (Leaves.enterSession _).plans
  · split
    · exact (Leaves.raise _).plans
    · exact plans_moveTo _ _ _
  · unfold register
    split
    · exact (Leaves.raise _).plans
    · exact plans_moveTo _ _ _
  · split_ifs
    · rfl
    · exact (Leaves.publishSession _).plans
  · exact plans_moveTo _ _ _
  · rfl
  · rfl

/-- The plans only grow, by a plan with a new session id. -/
theorem plans_step
    (acquisition : Acquisition)
    (input : Input) :
    (machine.event acquisition input).target.plans = acquisition.plans ∨
      ∃ plan,
        (∀ other ∈ acquisition.plans, other.sessionId ≠ plan.sessionId) ∧
          (machine.event acquisition input).target.plans =
            acquisition.plans ++ [plan] := by
  cases input with
  | advance index =>
      left
      simp only [Machine.event, machine, stepTask]
      split
      · rfl
      · exact plans_advance _ _ _
  | call plan =>
      simp only [Machine.event, machine, call]
      split_ifs with fresh
      · right
        refine ⟨plan, ?_, ?_⟩
        · intro other member
          obtain ⟨task, taskMember, rfl⟩ := List.mem_map.1 member
          exact fresh task taskMember
        · simp [plans, Task.new]
      · left
        rfl
  | _ =>
      exact .inl (leaves_step _ _ (by simp) (by simp)).plans

/-- A plan stays where it is. -/
theorem plans_step_getElem?
    {acquisition : Acquisition}
    {input : Input}
    {index : Nat}
    {plan : TaskPlan}
    (found : acquisition.plans[index]? = some plan) :
    (machine.event acquisition input).target.plans[index]? = some plan := by
  rcases plans_step acquisition input with same | ⟨new, -, grown⟩
  · rw [same]
    exact found
  · obtain ⟨inside, -⟩ := List.getElem?_eq_some_iff.1 found
    rw [grown, List.getElem?_append_left inside]
    exact found

/-- The plan of a task is among the plans. -/
theorem plans_getElem?
    {acquisition : Acquisition}
    {index : Nat}
    {task : Task}
    (found : acquisition.tasks[index]? = some task) :
    acquisition.plans[index]? = some task.plan := by
  simp [plans, found]

/-! ## Every context belongs to its owner -/

/-- The context of a boot is the one its owner has registered. -/
def ContextsOwned (earlier : List Step) (acquisition : Acquisition) : Prop :=
  ∀ row ∈ acquisition.store.contexts.rows,
    ∃ index plan,
      owner earlier row.device = some index ∧
        acquisition.plans[index]? = some plan ∧
        row = plan.context row.device row.rowId

/-- One step keeps the contexts with their owners. -/
theorem ContextsOwned.step
    {earlier : List Step}
    {acquisition : Acquisition}
    (owned : ContextsOwned earlier acquisition)
    (input : Input) :
    ContextsOwned (earlier ++ [machine.event acquisition input])
      (machine.event acquisition input).target := by
  intro row member
  rw [owner_concat]
  cases contextChange_step acquisition input with
  | keeps contexts unregistered kept =>
      rw [contexts] at member
      obtain ⟨index, plan, owns, found, shape⟩ := owned row member
      refine ⟨index, plan, ?_, plans_step_getElem? found, shape⟩
      simpa only [nextOwner, unregistered, kept] using owns
  | registers device index task found identified registration registered =>
      simp only [nextOwner, registration]
      rcases CaptureStore.mem_registered registered member with
        ⟨old, other⟩ | ⟨rowId, rfl⟩
      · obtain ⟨holder, plan, owns, planFound, shape⟩ := owned row old
        refine ⟨holder, plan, ?_, plans_step_getElem? planFound, shape⟩
        rw [Function.update_of_ne other]
        exact owns
      · exact ⟨index, task.plan, Function.update_self _ _ _,
          plans_step_getElem? (plans_getElem? found), rfl⟩
  | withdraws device index task found unregistered withdrawal withdrawn =>
      simp only [nextOwner, unregistered, withdrawal]
      rw [withdrawn] at member
      obtain ⟨old, kept⟩ := Table.mem_delete _ |>.1 member
      obtain ⟨holder, plan, owns, planFound, shape⟩ := owned row old
      refine ⟨holder, plan, ?_, plans_step_getElem? planFound, shape⟩
      by_cases holds : owner earlier device = some index
      · rw [if_pos holds]
        rcases eq_or_ne row.device device with same | other
        · have sameTask : holder = index := by
            rw [same, holds] at owns
            exact (Option.some.inj owns).symm
          subst sameTask
          have samePlan : plan = task.plan :=
            Option.some.inj (planFound.symm.trans (plans_getElem? found))
          have sameSession : row.sessionId = some task.plan.sessionId := by
            rw [shape, samePlan]
            rfl
          simp [same, sameSession] at kept
        · rw [Function.update_of_ne other]
          exact owns
      · rw [if_neg holds]
        exact owns

/-! ## Decisions about replayed captures -/

/-- The capture a step replays. -/
def replayed? (step : Step) : Option CaptureData :=
  match step.input with
  | .replay delivery => (CaptureStore.deliveredCapture delivery).toOption
  | _ => none

/-- A replayed capture that has no decision yet is decided under the session,
the policy and the group of the task it has been taken for. -/
def DecidedByProducer (step : Step) : Prop :=
  ∀ delivery capture produced result,
    step.input = .replay delivery →
    CaptureStore.deliveredCapture delivery = .ok capture →
    produced ∈ step.source.captures →
    produced.identity = capture.identity →
    step.source.store.tombstones.selectKey capture.identity = none →
    step.output = some (.ok result) →
    ∃ plan ∈ step.source.plans[produced.producer]?,
      step.source.store.decideReplay delivery capture plan.storagePolicy
          (some plan.sessionId) plan.groupId =
        .ok (step.target.store, result)

/-- A capture without a decision is replayed while no other task has registered
its boot since the task it has been taken for. -/
def KeepsOwner (earlier : List Step) (step : Step) : Prop :=
  ∀ capture ∈ replayed? step,
    step.source.store.tombstones.selectKey capture.identity = none →
    ∀ produced ∈ step.source.captures,
      produced.identity = capture.identity →
      ∀ index ∈ owner earlier capture.device, index = produced.producer
  deriving Decidable

/-- A replay that is decided has asked the store. -/
theorem replay_ok
    {acquisition : Acquisition}
    {delivery : BridgeCaptureDelivery}
    {result : CoreCommitResult}
    (decided : (acquisition.replay delivery).2 = some (.ok result)) :
    acquisition.store.commitReplayedDelivery delivery =
      .ok ((acquisition.replay delivery).1.store, result) := by
  unfold replay at decided ⊢
  rcases delivered : CaptureStore.deliveredCapture delivery with
    raised | capture
  · simp [delivered] at decided
  · simp only [delivered] at decided ⊢
    by_cases taken :
        ∃ produced ∈ acquisition.captures,
          produced.identity = capture.identity
    · rw [if_pos taken] at decided ⊢
      rcases commits : acquisition.store.commitReplayedDelivery delivery with
        raised | ⟨store, other⟩
      · simp [commits] at decided
      · simp only [commits] at decided ⊢
        obtain rfl := Except.ok.inj (Option.some.inj decided)
        rfl
    · rw [if_neg taken] at decided
      cases decided

/--
In every run in which each capture that is replayed without a decision is
replayed before another task registers its boot, each such decision is that of
the task the capture has been taken for.
-/
theorem decidedByProducer_of_keepsOwner
    (inputs : List Input)
    (kept : EveryStep KeepsOwner (machine.trace started inputs)) :
    EveryStep (fun _ step => DecidedByProducer step)
      (machine.trace started inputs) := by
  refine machine.everyStep_of_invariant ContextsOwned ?_ ?_ ?_ inputs kept
  · intro row member
    simp [started, CaptureStore.empty] at member
  · intro earlier acquisition input owned _
    exact owned.step input
  · intro earlier acquisition input owned keeps delivery capture produced result
      replays delivered taken sameIdentity undecided decided
    obtain rfl : input = .replay delivery := replays
    have committed := replay_ok decided
    obtain ⟨context, registered, decision⟩ :=
      CaptureStore.commitReplayedDelivery_ok delivered undecided committed
    obtain ⟨member, sameDevice⟩ := CaptureStore.context?_eq_some.1 registered
    obtain ⟨index, plan, owns, found, shape⟩ := owned context member
    have replays :
        capture ∈ replayed? (machine.event acquisition (.replay delivery)) := by
      simp [replayed?, delivered, Except.toOption]
    have producer : index = produced.producer :=
      keeps capture replays undecided produced taken sameIdentity index
        (sameDevice ▸ owns)
    refine ⟨plan, producer ▸ found, ?_⟩
    rw [shape] at decision
    exact decision

/-! ## A capture that outlives its task -/

/-- The boot of the smallest capture. -/
def smallestBoot : DeviceBoot := ⟨Bytes.zero 16, Bytes.zero 16⟩

/-- The delivery of the smallest capture. -/
def smallestDelivery : BridgeCaptureDelivery where
  connectionId := 1
  spoolRecordId := 1
  sourceConnectionId := 1
  sourceFirstStreamOffset := 0
  sourceLastStreamOffset := 209
  storedUtcNs := 0
  innerFrame := CaptureData.smallestFrame

/-- The smallest capture is taken for a task. -/
def produceSmallest (index : Nat) : Input :=
  .produce index ⟨smallestBoot, Bytes.zero 16⟩

/-- A periodic task that archives its captures. -/
def archivingPlan : TaskPlan where
  kind := .periodic
  sessionId := (Bytes.zero 16).set 0 1
  savePolicy := .saveAll
  groupId := none
  texts := ⟨"", "", "", ""⟩

/-- A single capture that is not kept. -/
def discardingPlan : TaskPlan where
  kind := .single
  sessionId := (Bytes.zero 16).set 0 2
  savePolicy := .saveNone
  groupId := none
  texts := ⟨"", "", "", ""⟩

/-- The steps of a task until it is registered. -/
def registering (index : Nat) : List Input :=
  [.advance index, .advance index, .advance index, .advance index]

/-- A periodic task is started on the smallest boot. -/
def startArchiving : List Input :=
  [.publish (some smallestBoot), .call archivingPlan] ++ registering 0 ++
    [.command 0, .answerStart 0 none]

set_option maxRecDepth 100000 in
/-- A capture that is replayed while its task is running. -/
theorem decidedByProducer_replayed :
    EveryStep (fun _ step => DecidedByProducer step)
      (machine.trace started
        (startArchiving ++
          [produceSmallest 0, .replay smallestDelivery])) :=
  decidedByProducer_of_keepsOwner _ (by decide +kernel)

/-- The periodic task fails on the host while its schedule goes on, and a
single capture is called before the next periodic capture arrives. -/
def overtaken : List Input :=
  startArchiving ++ [.finish 0 .failed, .call discardingPlan] ++
    registering 1 ++ [.advance 1, produceSmallest 0, .command 1]

/-- The sessions of the decisions in a store. -/
def decidedSessions (store : CaptureStore) : List (Option SessionId) :=
  store.tombstones.rows.map ResolutionTombstone.sessionId

/-- The sessions of the decisions after one that succeeds. -/
theorem sessions_of_decided
    {decision : Except Raised (CaptureStore × CoreCommitResult)}
    {store : CaptureStore}
    {result : CoreCommitResult}
    (decided : decision = .ok (store, result)) :
    decision.toOption.map (fun decided => decidedSessions decided.1) =
      some (decidedSessions store) := by
  rw [decided]
  rfl

set_option maxRecDepth 100000 in
/-- The late capture is decided under another session than its task's. -/
theorem overtaken_session :
    ((machine.after started overtaken).store.decideReplay smallestDelivery
        (CaptureData.readFields CaptureData.smallestPayload)
        archivingPlan.storagePolicy (some archivingPlan.sessionId)
        archivingPlan.groupId).toOption.map
          (fun decided => decidedSessions decided.1) ≠
      some (decidedSessions
        (machine.event (machine.after started overtaken)
          (.replay smallestDelivery)).target.store) := by
  decide +kernel

set_option maxRecDepth 100000 in
/-- The replay of the late capture is decided, and nothing was before. -/
theorem overtaken_decided :
    (machine.after started overtaken).store.tombstones.selectKey
        ⟨smallestBoot, Bytes.zero 16⟩ = none ∧
      (machine.after started overtaken).captures =
        [⟨⟨smallestBoot, Bytes.zero 16⟩, 0, false⟩] ∧
      (machine.after started overtaken).plans =
        [archivingPlan, discardingPlan] ∧
      (((machine.event (machine.after started overtaken)
        (.replay smallestDelivery)).output).bind Except.toOption).isSome =
          true := by
  decide +kernel

set_option maxRecDepth 100000 in
/-- The smallest delivery holds the smallest capture. -/
theorem deliveredCapture_smallest :
    CaptureStore.deliveredCapture smallestDelivery =
      .ok (CaptureData.readFields CaptureData.smallestPayload) := by
  decide +kernel

/-- A late periodic capture is decided under the context of the single capture
that has been called since. -/
theorem not_decidedByProducer_overtaken :
    ¬EveryStep (fun _ step => DecidedByProducer step)
      (machine.trace started (overtaken ++ [.replay smallestDelivery])) := by
  intro every
  rw [Machine.trace_concat] at every
  have last := ((EveryStep.concat_iff _ _).1 every).2
  obtain ⟨undecided, taken, plans, decided⟩ := overtaken_decided
  obtain ⟨result, output⟩ := Option.isSome_iff_exists.1 decided
  obtain ⟨answer, answered, accepted⟩ := Option.bind_eq_some_iff.1 output
  cases answer with
  | error raised =>
      cases accepted
  | ok other =>
      have produced :
          Produced.mk ⟨smallestBoot, Bytes.zero 16⟩ 0 false ∈
            (machine.after started overtaken).captures := by
        rw [taken]
        exact List.mem_singleton_self _
      obtain ⟨plan, found, decision⟩ :=
        last smallestDelivery _ _ other rfl deliveredCapture_smallest produced
          rfl undecided answered
      have archiving : plan = archivingPlan := by
        rw [show (machine.event (machine.after started overtaken)
            (.replay smallestDelivery)).source.plans = _ from plans] at found
        exact (Option.some.inj found).symm
      subst archiving
      exact overtaken_session (sessions_of_decided decision)

end Acquisition

end Usac.Host
