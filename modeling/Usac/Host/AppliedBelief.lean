import Usac.Host.DeviceRun

namespace Usac.Host

open Library

/-!
# What the executor says of the device

A snapshot that is APPLIED in the session that is there vouches for the device:
the applied configuration is the one the device has. The executor publishes it
after an exact readback only, so it is right as long as nothing else reaches
the device. But it keeps what it has published when a later `apply_config`
fails, and it remembers the session it finds when it publishes, not the one it
has read from.
-/

namespace ExecutorRun

variable {Requested : Type}

/-- The snapshot is APPLIED in the session that is there. -/
def Vouches (run : ExecutorRun Requested) : Prop :=
  run.executor.snapshot.state = .applied ∧
    run.generation = run.executor.sessionGeneration

/-- The configuration whose digest `applied_etag` returns: without one it
returns zeros. -/
def named (run : ExecutorRun Requested) : Option AcquisitionConfigV2 :=
  if run.generation = run.executor.sessionGeneration then
    run.executor.appliedConfig
  else
    none

/-- Between a readback and its publication the device is ahead of the
executor. -/
def Recording (run : ExecutorRun Requested) : Prop :=
  ∃ target readback session plan,
    run.work = some (.recording target readback session plan)

/-- What the executor says of the device is true. -/
def Truthful
    (run : ExecutorRun Requested)
    (device : Option AcquisitionConfigV2) :
    Prop :=
  run.Vouches →
    ∃ config,
      run.executor.appliedConfig = some config ∧ device = some config

end ExecutorRun

/-- The input ends the session. -/
def DeviceInput.Loses {Changes : Type} : DeviceInput Changes → Prop
  | .fails _ loses => loses = true
  | _ => False

namespace DeviceRun

variable {Requested Changes : Type}
  {service : ExecutorService Requested Changes}

/-- An `apply_config` fails behind its SET_CONFIG, or its readback is not
published. -/
def FailsToApply
    (service : ExecutorService Requested Changes)
    (run : ExecutorRun Requested)
    (input : DeviceInput Changes) :
    Prop :=
  match run.work, input with
  | some (.applying _ _), .fails fate _ =>
      run.connected = true ∧ fate ≠ .unsent
  | some (.recording target readback _ _), .proceed _ =>
      ∃ raised,
        run.executor.publishApplied service target readback run.generation =
          .error raised
  | _, _ => False

/-- The executor never claims a configuration the device does not have. After
an `apply_config` that may have changed the device, it claims none. -/
structure ClaimsTruthfully
    (service : ExecutorService Requested Changes)
    (event : Step Requested Changes) :
    Prop where
  truthful :
    ¬event.target.run.Recording →
      event.target.run.Truthful event.target.device
  retracted :
    FailsToApply service event.source.run event.input →
      ¬event.target.run.Vouches ∧
        ∀ old,
          event.source.run.executor.appliedConfig = some old →
            event.target.run.named ≠ some old

/-- An `apply_config` that fails behind its SET_CONFIG finds no configuration
in force, or loses its session; and a readback is published in the session it
comes from, or the device still has it. -/
structure Unbelied
    (service : ExecutorService Requested Changes)
    (run : ExecutorRun Requested)
    (device : Option AcquisitionConfigV2)
    (input : DeviceInput Changes) :
    Prop where
  failing :
    FailsToApply service run input → run.named = none ∨ input.Loses
  publishing :
    ∀ target readback session plan cancelled executor,
      run.work = some (.recording target readback session plan) →
        input = .proceed cancelled →
        run.executor.publishApplied service target readback run.generation =
          .ok executor →
        session = run.generation ∨ device = some readback

/-- What the work of an operation relies on. -/
def Justified
    (service : ExecutorService Requested Changes)
    (generation : Nat)
    (device : Option AcquisitionConfigV2) :
    Work Requested → Prop
  | .applying target plan =>
      service.Compiles target ∧ ExecutorRun.PlanCompiles service plan
  | .recording target readback session plan =>
      service.Compiles target ∧ ExecutorRun.PlanCompiles service plan ∧
        session ≤ generation ∧
        (session = generation → device = some readback)
  | .capturing _ plan => ExecutorRun.PlanCompiles service plan
  | .starting _ => True
  | .pausing plan => ExecutorRun.PlanCompiles service (some plan)

/-- The invariant of runs in which nothing belies the executor. -/
structure Sound
    (service : ExecutorService Requested Changes)
    (run : ExecutorRun Requested)
    (device : Option AcquisitionConfigV2) :
    Prop where
  bounded : run.executor.sessionGeneration ≤ run.generation
  held :
    run.executor.snapshot.state = .applied →
      ∃ config, run.executor.appliedConfig = some config
  working : ∀ work ∈ run.work, Justified service run.generation device work
  truthful : ¬run.Recording → run.Truthful device

variable {run after : ExecutorRun Requested}
  {device left : Option AcquisitionConfigV2}

/-- Work that is grounded before anything has been sent is no readback. -/
theorem justified_of_grounded
    {executor : Executor Requested}
    {work : Work Requested}
    {generation : Nat}
    (grounded :
      @ExecutorRun.Grounded Requested Changes service [] executor work) :
    Justified service generation device work := by
  cases work with
  | recording target readback session plan =>
      obtain ⟨_, _, _, member, _⟩ := grounded
      cases member
  | applying target plan => exact grounded
  | capturing config plan => exact grounded.2
  | starting schedule => exact trivial
  | pausing plan => exact grounded

/-- A new session makes the executor silent, whatever it finds. -/
theorem Sound.newSession
    (sound : Sound service run device)
    (executor : after.executor = run.executor)
    (generation : after.generation = run.generation + 1)
    (work :
      after.work = run.work ∨
        ∀ work ∈ after.work, ∀ generation device,
          Justified service generation device work) :
    Sound service after left := by
  refine ⟨?_, ?_, ?_, ?_⟩
  · rw [executor, generation]
    exact Nat.le_succ_of_le sound.bounded
  · rw [executor]
    exact sound.held
  · rcases work with same | fresh
    · rw [same, generation]
      intro work member
      have justified := sound.working work member
      cases work with
      | recording target readback session plan =>
          obtain ⟨compiles, rest, behind, -⟩ := justified
          refine ⟨compiles, rest, Nat.le_succ_of_le behind, fun same => ?_⟩
          exact absurd (same ▸ behind) (Nat.not_succ_le_self _)
      | applying => exact justified
      | capturing => exact justified
      | starting => exact trivial
      | pausing => exact justified
    · exact fun work member => fresh work member _ _
  · rintro - ⟨-, current⟩
    rw [executor, generation] at current
    exact absurd (current ▸ sound.bounded) (Nat.not_succ_le_self _)

/-- A step in the same session that neither publishes nor reaches the device. -/
theorem Sound.sameSession
    (sound : Sound service run device)
    (executor : after.executor = run.executor)
    (generation : after.generation = run.generation)
    (work :
      ∀ work ∈ after.work, Justified service run.generation left work)
    (truthful : run.Truthful left) :
    Sound service after left := by
  refine ⟨?_, ?_, ?_, ?_⟩
  · rw [executor, generation]
    exact sound.bounded
  · rw [executor]
    exact sound.held
  · rw [generation]
    exact work
  · intro _
    unfold ExecutorRun.Truthful ExecutorRun.Vouches
    rw [executor, generation]
    exact truthful

/-- A refresh keeps the executor, or leaves it a draft in the new session. -/
theorem refreshSession_shape
    {executor refreshed : Executor Requested}
    {generation : Nat}
    (refreshes : executor.refreshSession service generation = .ok refreshed) :
    refreshed = executor ∨
      refreshed.snapshot.state = .draft ∧ refreshed.appliedConfig = none ∧
        refreshed.sessionGeneration = generation := by
  unfold Executor.refreshSession at refreshes
  split at refreshes
  · exact .inl (Except.ok.inj refreshes).symm
  · obtain ⟨snapshot, updated, refreshes⟩ := bind_eq_ok.1 refreshes
    obtain ⟨requested, _, updated⟩ := bind_eq_ok.1 updated
    cases updated
    cases refreshes
    exact .inr ⟨rfl, rfl, rfl⟩

/-- An operation that enters the lock keeps the snapshot, or leaves a draft. -/
theorem enter_snapshot
    {executor entered : Executor Requested}
    {operation : ExecutorCall Changes}
    {work : Option (Work Requested)}
    (enters :
      ExecutorRun.enter service executor operation = .ok (entered, work)) :
    entered.snapshot = executor.snapshot ∨ entered.snapshot.state = .draft := by
  cases operation with
  | snapshot =>
      cases enters
      exact .inl rfl
  | updateDraft changes =>
      obtain ⟨snapshot, updated, enters⟩ := bind_eq_ok.1 enters
      obtain ⟨requested, _, rfl⟩ :=
        ExecutorService.updateDraft_eq_ok.1 updated
      cases enters
      exact .inr rfl
  | applyChanges changes =>
      obtain ⟨draft, _, enters⟩ := bind_eq_ok.1 enters
      obtain ⟨target, _, enters⟩ := bind_eq_ok.1 enters
      cases enters
      exact .inl rfl
  | applyDraft =>
      obtain ⟨target, _, enters⟩ := bind_eq_ok.1 enters
      cases enters
      exact .inl rfl
  | captureOnce profileSha256 deviceConfigCrc32 triggerSource syncTimeoutMs =>
      obtain ⟨config, _, enters⟩ := bind_eq_ok.1 enters
      obtain ⟨⟨⟩, _, enters⟩ := bind_eq_ok.1 enters
      cases enters
      exact .inl rfl
  | startPeriodic schedule =>
      obtain ⟨config, _, enters⟩ := bind_eq_ok.1 enters
      cases enters
      exact .inl rfl
  | executeRunPlan plan =>
      obtain ⟨baseline, _, enters⟩ := bind_eq_ok.1 enters
      obtain ⟨steps, _, enters⟩ := bind_eq_ok.1 enters
      cases enters
      exact .inl rfl

/-- An operation that enters the lock publishes nothing. -/
theorem enter_applied
    {executor entered : Executor Requested}
    {operation : ExecutorCall Changes}
    {work : Option (Work Requested)}
    (enters :
      ExecutorRun.enter service executor operation = .ok (entered, work))
    (applied : entered.snapshot.state = .applied) :
    entered.snapshot = executor.snapshot := by
  rcases enter_snapshot enters with same | draft
  · exact same
  · cases draft.symm.trans applied

/-- A refresh leaves nothing that could be wrong. -/
theorem Sound.refreshed
    {refreshed : Executor Requested}
    (sound : Sound service run device)
    (free : run.work = none)
    (refreshes :
      run.executor.refreshSession service run.generation = .ok refreshed) :
    Sound service { run with executor := refreshed } device := by
  rcases refreshSession_shape refreshes with rfl | ⟨draft, -, current⟩
  · exact sound
  · refine ⟨Nat.le_of_eq current, fun applied => ?_, ?_, fun _ vouches => ?_⟩
    · cases draft.symm.trans applied
    · dsimp only
      rw [free]
      exact fun work member => by cases member
    · cases draft.symm.trans vouches.1

/-- An operation that enters the lock, or is refused, keeps the invariant. -/
theorem Sound.admitted
    (sound : Sound service run device)
    (operation : ExecutorCall Changes)
    (free : run.work = none) :
    Sound service (run.accept service operation) device := by
  unfold ExecutorRun.accept
  split
  · exact sound
  · next refreshed refreshes =>
      have kept := sound.refreshed free refreshes
      split
      · exact kept
      · next entered work enters =>
          obtain ⟨⟨sameConfig, sameSession⟩, grounded⟩ :=
            @ExecutorRun.enter_grounded _ _ _ [] _ _ _ _ enters
          refine ⟨?_, fun applied => ?_, fun work member => ?_,
            fun _ vouches => ?_⟩
          · exact sameSession ▸ kept.bounded
          · exact sameConfig ▸
              kept.held (enter_applied enters applied ▸ applied)
          · exact justified_of_grounded (grounded work member)
          · have idle :
                ¬({ run with executor := refreshed }).Recording := by
              rintro ⟨target, readback, session, plan, working⟩
              cases free.symm.trans working
            have applied := enter_applied enters vouches.1 ▸ vouches.1
            exact sameConfig ▸ kept.truthful idle
              ⟨applied, sameSession ▸ vouches.2⟩

/-- A failed call leaves the restoration of a plan, or nothing. -/
theorem justified_afterFailure
    (executor : Executor Requested)
    (plan : Option (PlanRest Requested))
    (generation : Nat)
    (device : Option AcquisitionConfigV2) :
    ∀ work ∈ ExecutorRun.afterFailure service executor plan,
      Justified service generation device work := by
  intro work member
  exact justified_of_grounded
    (@ExecutorRun.afterFailure_grounded _ Changes _ [] executor plan work
      member)

/-- A call that fails keeps the invariant if the executor is right about what it
leaves on the device, or is silent. -/
theorem Sound.failed
    (sound : Sound service run device)
    (loses : Bool)
    (connected : run.connected = true)
    (plan : Option (PlanRest Requested))
    (truthful : loses = false → run.Truthful left) :
    Sound service
      ((if loses then run.disconnect else run).fail service plan) left := by
  cases loses with
  | false =>
      exact sound.sameSession rfl rfl
        (@justified_afterFailure _ Changes _ _ _ _ _) (truthful rfl)
  | true =>
      refine sound.newSession (run.disconnect_executor) ?_ (.inr ?_)
      · show run.disconnect.generation = _
        unfold ExecutorRun.disconnect
        rw [if_pos connected]
      · intro work member generation device
        exact @justified_afterFailure _ Changes _ _ _ _ _ work member

/-- Work other than a readback. -/
theorem not_recording
    {work : Work Requested}
    (working : run.work = some work)
    (other :
      ∀ target readback session plan,
        work ≠ .recording target readback session plan) :
    ¬run.Recording := by
  rintro ⟨target, readback, session, plan, recording⟩
  exact other target readback session plan
    (Option.some.inj (working.symm.trans recording))

/-- An executor that names no configuration vouches for nothing. -/
theorem Sound.silent
    (sound : Sound service run device)
    (unnamed : run.named = none) :
    ¬run.Vouches := by
  rintro ⟨applied, current⟩
  obtain ⟨config, present⟩ := sound.held applied
  unfold ExecutorRun.named at unnamed
  rw [if_pos current, present] at unnamed
  cases unnamed

/-- Every step that is not belied keeps the invariant. -/
theorem Sound.happens
    {input : DeviceInput Changes}
    {sent : SentCommand}
    (sound : Sound service run device)
    (happens : Happens service run device input after left sent)
    (unbelied : Unbelied service run device input) :
    Sound service after left := by
  cases happens with
  | nothing => exact sound
  | replaced => exact sound.newSession rfl rfl (.inl rfl)
  | closed left connected =>
      refine sound.newSession run.disconnect_executor ?_
        (.inl run.disconnect_work)
      unfold ExecutorRun.disconnect
      rw [if_pos connected]
  | admitted operation free => exact sound.admitted operation free
  | readBack target plan readback working connected =>
      obtain ⟨compiles, rest⟩ := sound.working _ working
      refine ⟨sound.bounded, sound.held, ?_, fun idle => ?_⟩
      · intro work member
        cases member
        exact ⟨compiles, rest, Nat.le_refl _, fun _ => rfl⟩
      · exact absurd ⟨_, _, _, _, rfl⟩ idle
  | applyFailed target plan fate loses working connected =>
      refine sound.failed loses connected plan fun kept => ?_
      have idle := not_recording working (by simp)
      cases fate with
      | unsent => exact sound.truthful idle
      | refused => exact sound.truthful idle
      | rejected | taken =>
          -- the device has changed, so nothing may be claimed of it
          have fails := unbelied.failing (by
            unfold FailsToApply
            rw [working]
            exact ⟨connected, by simp⟩)
          rcases fails with unnamed | lost
          · exact fun vouches => absurd vouches (sound.silent unnamed)
          · cases kept.symm.trans lost
  | unheard input work working waits answers disconnected =>
      refine sound.sameSession rfl rfl
        (@justified_afterFailure _ Changes _ _ _ _ _)
        (sound.truthful (not_recording working ?_))
      rintro target readback session plan rfl
      exact waits
  | captured config plan readback working connected =>
      have rest := sound.working _ working
      refine sound.sameSession rfl rfl ?_
        (sound.truthful (not_recording working (by simp)))
      intro work member
      obtain ⟨left, rfl, rfl⟩ := Option.map_eq_some_iff.1 member
      exact rest
  | captureFailed config plan fate loses working connected =>
      exact sound.failed loses connected plan fun _ =>
        sound.truthful (not_recording working (by simp))
  | startEnded schedule input loses sent working =>
      have idle := not_recording working (by simp)
      have none_ : ∀ work ∈ (none : Option (Work Requested)),
          ∀ generation device, Justified service generation device work := by
        intro work member
        cases member
      cases loses with
      | false =>
          exact sound.sameSession rfl rfl
            (fun work member => none_ work member _ _) (sound.truthful idle)
      | true =>
          by_cases connected : run.connected = true
          · refine sound.newSession run.disconnect_executor ?_ (.inr none_)
            show run.disconnect.generation = _
            unfold ExecutorRun.disconnect
            rw [if_pos connected]
          · refine sound.sameSession run.disconnect_executor ?_
              (fun work member => none_ work member _ _) (sound.truthful idle)
            show run.disconnect.generation = _
            unfold ExecutorRun.disconnect
            rw [if_neg connected]
  | published target readback session plan cancelled executor working
      publishes =>
      obtain ⟨compiles, rest, -, read⟩ := sound.working _ working
      obtain ⟨rfl, inForce, remembered⟩ :=
        Executor.publishApplied_exact compiles publishes
      have device_eq : device = some target.compiled :=
        (unbelied.publishing _ _ _ _ _ _ working rfl publishes).elim read id
      refine ⟨Nat.le_of_eq remembered, fun _ => ⟨_, inForce⟩, ?_,
        fun _ _ => ⟨_, inForce, device_eq⟩⟩
      intro work member
      obtain ⟨left, rfl, rfl⟩ := Option.map_eq_some_iff.1 member
      exact rest
  | unpublished target readback session plan cancelled raised working
      refuses =>
      refine sound.sameSession rfl rfl
        (@justified_afterFailure _ Changes _ _ _ _ _) fun vouches => ?_
      have fails := unbelied.failing (by
        unfold FailsToApply
        rw [working]
        exact ⟨raised, refuses⟩)
      rcases fails with unnamed | lost
      · exact absurd vouches (sound.silent unnamed)
      · exact lost.elim
  | advanced plan cancelled working =>
      have rest := sound.working _ working
      refine sound.sameSession rfl rfl ?_
        (sound.truthful (not_recording working (by simp)))
      intro work member
      exact justified_of_grounded
        (@ExecutorRun.nextStep_grounded _ Changes _ [] _ _ _ rest work member)

/-- A failure leaves the executor, and the session unless it loses it. -/
theorem failsToApply_leaves
    {before : DeviceRun Requested}
    {input : DeviceInput Changes}
    (fails : FailsToApply service before.run input) :
    ((machine service).event before input).target.run.executor =
        before.run.executor ∧
      (input.Loses ∧
          ((machine service).event before input).target.run.generation =
            before.run.generation + 1 ∨
        ¬input.Loses ∧
          ((machine service).event before input).target.run.generation =
            before.run.generation) := by
  unfold FailsToApply at fails
  split at fails
  · next target plan fate loses working =>
      obtain ⟨connected, -⟩ := fails
      simp only [machine, Machine.event, DeviceInput.executorInput,
        ExecutorRun.machine, working]
      cases loses <;>
        simp only [Bool.false_eq_true, if_false, if_true,
          ExecutorRun.answer, if_pos connected, reduceCtorEq]
      · exact ⟨rfl, .inr ⟨Bool.false_ne_true, rfl⟩⟩
      · refine ⟨before.run.disconnect_executor, .inl ⟨rfl, ?_⟩⟩
        show before.run.disconnect.generation = _
        unfold ExecutorRun.disconnect
        rw [if_pos connected]
  · next target readback session plan cancelled working =>
      obtain ⟨raised, refuses⟩ := fails
      simp only [machine, Machine.event, DeviceInput.executorInput,
        ExecutorRun.machine, working, ExecutorRun.proceed, refuses]
      exact ⟨rfl, .inr ⟨id, rfl⟩⟩
  · exact fails.elim

/-- After a failure that is not belied the executor names nothing. -/
theorem Sound.retracts
    {before : DeviceRun Requested}
    {input : DeviceInput Changes}
    (sound : Sound service before.run before.device)
    (unbelied : Unbelied service before.run before.device input)
    (fails : FailsToApply service before.run input) :
    ((machine service).event before input).target.run.named = none := by
  obtain ⟨executor, session⟩ := failsToApply_leaves fails
  unfold ExecutorRun.named
  rw [executor]
  rcases unbelied.failing fails, session with
    ⟨unnamed | lost, ⟨_, later⟩ | ⟨stays, same⟩⟩
  · rw [later, if_neg]
    exact fun current => absurd (current ▸ sound.bounded)
      (Nat.not_succ_le_self _)
  · rw [same]
    exact unnamed
  · rw [later, if_neg]
    exact fun current => absurd (current ▸ sound.bounded)
      (Nat.not_succ_le_self _)
  · exact absurd lost stays

/-- A step that is not belied claims truthfully, in a sound state. -/
theorem Sound.step
    {before : DeviceRun Requested}
    (input : DeviceInput Changes)
    (sound : Sound service before.run before.device)
    (unbelied : Unbelied service before.run before.device input) :
    Sound service ((machine service).event before input).target.run
        ((machine service).event before input).target.device ∧
      ClaimsTruthfully service ((machine service).event before input) := by
  have next := sound.happens (machine_happens before input) unbelied
  refine ⟨next, next.truthful, fun fails => ?_⟩
  have unnamed := sound.retracts unbelied fails
  refine ⟨next.silent unnamed, fun old _ named => ?_⟩
  rw [unnamed] at named
  cases named

/-- A step that claims truthfully is not belied. -/
theorem ClaimsTruthfully.unbelied
    {before : DeviceRun Requested}
    {input : DeviceInput Changes}
    (sound : Sound service before.run before.device)
    (claims :
      ClaimsTruthfully service ((machine service).event before input)) :
    Unbelied service before.run before.device input := by
  constructor
  · intro fails
    obtain ⟨executor, session⟩ := failsToApply_leaves fails
    rcases session with ⟨lost, -⟩ | ⟨-, same⟩
    · exact .inr lost
    · left
      cases named : before.run.named with
      | none => rfl
      | some old =>
          have kept :
              ((machine service).event before input).target.run.named =
                some old := by
            rw [← named]
            unfold ExecutorRun.named
            rw [executor, same]
          have present : before.run.executor.appliedConfig = some old := by
            unfold ExecutorRun.named at named
            split at named
            · exact named
            · cases named
          exact absurd kept ((claims.retracted fails).2 old present)
  · rintro target readback session plan cancelled executor working rfl
      publishes
    obtain ⟨compiles, -⟩ := sound.working _ working
    obtain ⟨rfl, inForce, remembered⟩ :=
      Executor.publishApplied_exact compiles publishes
    have state : executor.snapshot.state = .applied := by
      obtain ⟨applied, marked, published⟩ := bind_eq_ok.1 publishes
      obtain ⟨⟨⟩, _, marked⟩ := bind_eq_ok.1 marked
      obtain ⟨_, _, marked⟩ := bind_eq_ok.1 marked
      obtain ⟨⟨⟩, _, marked⟩ := bind_eq_ok.1 marked
      obtain ⟨⟨⟩, _, marked⟩ := bind_eq_ok.1 marked
      cases marked
      cases published
      rfl
    have target_eq :
        ((machine service).event before
            (.proceed cancelled)).target.run =
          { before.run with
            executor := executor
            work :=
              plan.map fun rest =>
                .capturing target.compiled (some rest) } := by
      simp only [machine, Machine.event, DeviceInput.executorInput,
        ExecutorRun.machine, working, ExecutorRun.proceed, publishes]
    have truthful := claims.truthful
    rw [target_eq] at truthful
    have idle :
        ¬({ before.run with
            executor := executor
            work :=
              plan.map fun rest =>
                .capturing target.compiled (some rest) }).Recording := by
      rintro ⟨_, _, _, _, recording⟩
      cases plan <;> cases recording
    obtain ⟨config, present, device⟩ := truthful idle ⟨state, remembered.symm⟩
    obtain rfl := Option.some.inj (inForce.symm.trans present)
    exact .inr device

/-- An executor that has just been built claims nothing. -/
theorem started_sound
    (connected : Bool)
    (device : Option AcquisitionConfigV2) :
    Sound service (started service connected device).run
      (started service connected device).device := by
  refine ⟨Nat.le_refl _, fun applied => ?_, fun work member => ?_,
    fun _ vouches => ?_⟩
  · cases applied
  · cases member
  · cases vouches.1

/--
In every run the executor claims truthfully at every step exactly when no step
belies it.
-/
theorem executor_claims_truthfully_iff
    (service : ExecutorService Requested Changes)
    (connected : Bool)
    (device : Option AcquisitionConfigV2)
    (inputs : List (DeviceInput Changes)) :
    EveryStep (fun _ event => ClaimsTruthfully service event)
        ((machine service).trace (started service connected device) inputs) ↔
      EveryStep
        (fun _ event =>
          Unbelied service event.source.run event.source.device event.input)
        ((machine service).trace (started service connected device) inputs) := by
  constructor
  · exact (machine service).everyStep_of_invariant
      (fun _ state => Sound service state.run state.device)
      (started_sound connected device)
      (fun _ _ input sound claims =>
        (sound.step input (claims.unbelied sound)).1)
      (fun _ _ _ sound claims => claims.unbelied sound) inputs
  · exact (machine service).everyStep_of_invariant
      (fun _ state => Sound service state.run state.device)
      (started_sound connected device)
      (fun _ _ input sound unbelied => (sound.step input unbelied).1)
      (fun _ _ input sound unbelied => (sound.step input unbelied).2) inputs

/-! ## An `apply_config` that fails half-way -/

open Parameters (coreExecutorService newDraftConfig)

/-- A configuration is applied. The next one is taken by the device, but the
readback is lost. -/
def halfApplied : List (DeviceInput Parameters.Changes) :=
  [.call .applyDraft, .returns newDraftConfig, .proceed false,
    .call (.applyChanges [("pretrigger_count", .integer 128)]),
    .fails .taken false]

/-- What the failed call leaves. -/
def halfAppliedRun : DeviceRun Parameters.Requested :=
  (machine coreExecutorService).after
    (started coreExecutorService true none) halfApplied

/-- The snapshot stays APPLIED, with a configuration the device does not
have. -/
theorem not_claimsTruthfully_halfApplied :
    ¬EveryStep (fun _ event => ClaimsTruthfully coreExecutorService event)
      ((machine coreExecutorService).trace
        (started coreExecutorService true none) halfApplied) := by
  have published :
      halfAppliedRun.run.work.isNone ∧
        halfAppliedRun.run.executor.snapshot.state = .applied ∧
        halfAppliedRun.run.generation =
          halfAppliedRun.run.executor.sessionGeneration ∧
        halfAppliedRun.run.executor.appliedConfig ≠ halfAppliedRun.device := by
    decide +kernel
  obtain ⟨free, applied, current, differs⟩ := published
  intro every
  have last := (EveryStep.concat_iff
    ((machine coreExecutorService).trace
      (started coreExecutorService true none) (halfApplied.take 4))
    ((machine coreExecutorService).event
      ((machine coreExecutorService).after
        (started coreExecutorService true none) (halfApplied.take 4))
      (.fails .taken false))).1 every
  obtain ⟨config, inForce, onDevice⟩ := last.2.truthful (by
    rintro ⟨_, _, _, _, recording⟩
    have working : halfAppliedRun.run.work = some _ := recording
    rw [working] at free
    cases free) ⟨applied, current⟩
  exact differs (inForce.trans onDevice.symm)

end DeviceRun

end Usac.Host
