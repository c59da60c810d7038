import Usac.Host.DeliveryOwnership

namespace Usac.Host

open Library

/-!
# Undecided captures keep a context

As long as a capture the device has taken is undecided, the store needs a
context for its boot, or the bridge could never hand it over. The one operation
that takes a context away is the clean-up of a failed start, which does so
although the device may have accepted the start, and although the start has
taken the context over from an earlier task.
-/

namespace Acquisition

/-- The boot the device takes a new capture in. -/
def producedIn? (step : Step) : Option DeviceBoot :=
  match step.input with
  | .produce index identity =>
      (step.source.tasks[index]?).bind fun task =>
        if step.source.canProduce task identity then
          some identity.device
        else
          none
  | _ => none

/-- Every undecided capture has a context, and a replay of one finds it. -/
structure KeepsContexts (step : Step) : Prop where
  contexts :
    ∀ produced ∈ step.target.captures,
      produced.decided = false →
      (step.target.store.context? produced.identity.device).isSome = true
  replays :
    ∀ delivery capture produced,
      step.input = .replay delivery →
      CaptureStore.deliveredCapture delivery = .ok capture →
      produced ∈ step.source.captures →
      produced.identity = capture.identity →
      produced.decided = false →
      step.output ≠ some (.error CaptureStore.noContext)

/-- The clean-up of a failed start that owns its boot finds no undecided
capture of it, and the device takes captures only in boots that have an
owner. -/
def CleansUpDecided (earlier : List Step) (step : Step) : Prop :=
  (∀ withdrawn ∈ withdrawal? step,
    owner earlier withdrawn.1 = some withdrawn.2 →
    ∀ produced ∈ step.source.captures,
      produced.identity.device = withdrawn.1 → produced.decided = true) ∧
    ∀ device ∈ producedIn? step, (owner earlier device).isSome = true
  deriving Decidable

/-- A step registers boots of the list only. -/
def RegistersAmong (pairs : List DeviceBoot) (step : Step) : Prop :=
  ∀ registered ∈ registration? step, registered.1 ∈ pairs
  deriving Decidable

/-! ## What a step does to the captures -/

/-- The undecided captures of a state are those of another. -/
def NoneAdded (source target : Acquisition) : Prop :=
  ∀ produced ∈ target.captures,
    produced.decided = false → produced ∈ source.captures

/-- A decision adds no capture. -/
theorem noneAdded_decide
    (acquisition : Acquisition)
    (identity : CaptureIdentity) :
    NoneAdded acquisition (acquisition.decide identity) := by
  intro produced member undecided
  obtain ⟨old, oldMember, shape⟩ := List.mem_map.1 member
  by_cases same : old.identity = identity
  · rw [if_pos same] at shape
    subst shape
    cases undecided
  · rw [if_neg same] at shape
    exact shape ▸ oldMember

/-- A commit adds no capture. -/
theorem noneAdded_commit
    (acquisition : Acquisition)
    (index : Nat)
    (task : Task)
    (delivery : BridgeCaptureDelivery) :
    NoneAdded acquisition (acquisition.commit index task delivery).1 := by
  unfold commit
  rcases CaptureStore.deliveredCapture delivery with raised | capture
  · exact fun produced member _ => member
  · dsimp only
    split_ifs
    · split
      · exact fun produced member _ => member
      · exact noneAdded_decide _ _
    · exact fun produced member _ => member

/-- A replay adds no capture. -/
theorem noneAdded_replay
    (acquisition : Acquisition)
    (delivery : BridgeCaptureDelivery) :
    NoneAdded acquisition (acquisition.replay delivery).1 := by
  unfold replay
  rcases CaptureStore.deliveredCapture delivery with raised | capture
  · exact fun produced member _ => member
  · dsimp only
    split_ifs
    · split
      · exact fun produced member _ => member
      · exact noneAdded_decide _ _
    · exact fun produced member _ => member

/-- The own steps of a task leave the captures. -/
theorem captures_advance
    (acquisition : Acquisition)
    (index : Nat)
    (task : Task) :
    (acquisition.advance index task).1.captures = acquisition.captures := by
  unfold advance
  split
  · split <;> rfl
  · unfold enterSession
    split_ifs <;> rfl
  · split <;> rfl
  · unfold register
    split <;> rfl
  · split_ifs <;> rfl
  · rfl
  · rfl
  · rfl

/-- A step of a task adds no capture if it does so for no task. -/
theorem noneAdded_stepTask
    {acquisition : Acquisition}
    {index : Nat}
    {step : Task → Acquisition × Output}
    (noneAdded : ∀ task, NoneAdded acquisition (step task).1) :
    NoneAdded acquisition (acquisition.stepTask index step).1 := by
  unfold stepTask
  split
  · exact fun produced member _ => member
  · exact noneAdded _

/-- A state with the same captures adds none. -/
theorem noneAdded_of_eq
    {source target : Acquisition}
    (same : target.captures = source.captures) :
    NoneAdded source target := by
  intro produced member _
  exact same ▸ member

/-- Only the device adds captures. -/
theorem noneAdded_step
    (acquisition : Acquisition)
    (input : Input)
    (notProduce : ∀ index identity, input ≠ .produce index identity) :
    NoneAdded acquisition (machine.event acquisition input).target := by
  cases input with
  | produce index identity =>
      exact absurd rfl (notProduce index identity)
  | call plan =>
      simp only [Machine.event, machine, call]
      split_ifs <;> exact noneAdded_of_eq rfl
  | advance index =>
      exact noneAdded_stepTask fun task =>
        noneAdded_of_eq (captures_advance acquisition index task)
  | reject index raised =>
      refine noneAdded_stepTask fun task => noneAdded_of_eq ?_
      unfold reject
      split <;> rfl
  | command index =>
      refine noneAdded_stepTask fun task => noneAdded_of_eq ?_
      unfold command
      split
      · rfl
      · split_ifs <;> rfl
  | answerStart index failure =>
      refine noneAdded_stepTask fun task => noneAdded_of_eq ?_
      unfold answerStart
      split <;> rfl
  | stop index =>
      refine noneAdded_stepTask fun task => noneAdded_of_eq ?_
      split_ifs <;> rfl
  | save index =>
      refine noneAdded_stepTask fun task => noneAdded_of_eq ?_
      split_ifs <;> rfl
  | finish index state =>
      refine noneAdded_stepTask fun task => noneAdded_of_eq ?_
      unfold finish
      split_ifs
      · split <;> rfl
      · rfl
  | commit index delivery =>
      exact noneAdded_stepTask fun task =>
        noneAdded_commit acquisition index task delivery
  | replay delivery =>
      exact noneAdded_replay acquisition delivery
  | publish device =>
      exact noneAdded_of_eq rfl
  | createGroup groupId =>
      exact noneAdded_of_eq rfl

/-- An undecided capture has been there or has just been taken. -/
theorem undecided_step
    {acquisition : Acquisition}
    {input : Input}
    {produced : Produced}
    (member : produced ∈ (machine.event acquisition input).target.captures)
    (undecided : produced.decided = false) :
    produced ∈ acquisition.captures ∨
      producedIn? (machine.event acquisition input) =
        some produced.identity.device := by
  cases input with
  | produce index identity =>
      rcases found : acquisition.tasks[index]? with _ | task
      · simp only [Machine.event, machine, stepTask, found] at member
        exact .inl member
      · simp only [Machine.event, machine, stepTask, found, produce] at member
        by_cases taken : acquisition.canProduce task identity
        · rw [if_pos taken] at member
          rcases List.mem_append.1 member with old | new
          · exact .inl old
          · obtain rfl := List.mem_singleton.1 new
            right
            simp [producedIn?, found, taken]
        · rw [if_neg taken] at member
          exact .inl member
  | _ =>
      exact .inl (noneAdded_step _ _ (by simp) produced member undecided)

/-! ## Every owned boot has a context -/

/-- Every boot with an owner has a context, every undecided capture is of such
a boot, and no two tasks share a session id. -/
structure BootsOwned
    (pairs : List DeviceBoot)
    (earlier : List Step)
    (acquisition : Acquisition) :
    Prop where
  owned : ContextsOwned earlier acquisition
  sessions : (acquisition.plans.map TaskPlan.sessionId).Nodup
  among : ∀ row ∈ acquisition.store.contexts.rows, row.device ∈ pairs
  kept :
    ∀ device,
      (owner earlier device).isSome = true →
      ∃ row ∈ acquisition.store.contexts.rows, row.device = device
  undecided :
    ∀ produced ∈ acquisition.captures,
      produced.decided = false →
      (owner earlier produced.identity.device).isSome = true

/-- The tasks keep session ids of their own. -/
theorem sessions_step
    {acquisition : Acquisition}
    (distinct : (acquisition.plans.map TaskPlan.sessionId).Nodup)
    (input : Input) :
    ((machine.event acquisition input).target.plans.map
      TaskPlan.sessionId).Nodup := by
  rcases plans_step acquisition input with same | ⟨plan, fresh, grown⟩
  · rw [same]
    exact distinct
  · rw [grown, List.map_append, List.nodup_append]
    refine ⟨distinct, List.nodup_singleton _, ?_⟩
    rintro first member second last rfl
    obtain ⟨other, otherMember, rfl⟩ := List.mem_map.1 member
    exact fresh other otherMember (List.mem_singleton.1 last)

/-- Two plans with the same session id are the same. -/
theorem plan_index_unique
    {plans : List TaskPlan}
    (distinct : (plans.map TaskPlan.sessionId).Nodup)
    {first second : Nat}
    {plan other : TaskPlan}
    (atFirst : plans[first]? = some plan)
    (atSecond : plans[second]? = some other)
    (same : plan.sessionId = other.sessionId) :
    first = second := by
  obtain ⟨inside, -⟩ := List.getElem?_eq_some_iff.1 atFirst
  refine (List.getElem?_inj (by simpa using inside) distinct).1 ?_
  simp [atFirst, atSecond, same]

/-- The boots of the contexts stay among the registered ones. -/
theorem BootsOwned.among_step
    {pairs : List DeviceBoot}
    {earlier : List Step}
    {acquisition : Acquisition}
    {input : Input}
    (boots : BootsOwned pairs earlier acquisition)
    (registers : RegistersAmong pairs (machine.event acquisition input)) :
    ∀ row ∈ (machine.event acquisition input).target.store.contexts.rows,
      row.device ∈ pairs := by
  intro row member
  cases contextChange_step acquisition input with
  | keeps contexts =>
      rw [contexts] at member
      exact boots.among row member
  | registers device index task found identified registration registered =>
      rcases CaptureStore.mem_registered registered member with
        ⟨old, -⟩ | ⟨rowId, rfl⟩
      · exact boots.among row old
      · exact registers (device, index) registration
  | withdraws device index task found unregistered withdrawal withdrawn =>
      rw [withdrawn] at member
      exact boots.among row (Table.mem_delete _ |>.1 member).1

/-- Every boot with an owner keeps its context. -/
theorem BootsOwned.kept_step
    {pairs : List DeviceBoot}
    {earlier : List Step}
    {acquisition : Acquisition}
    {input : Input}
    (few : pairs.length ≤ CaptureStore.contextLimit)
    (boots : BootsOwned pairs earlier acquisition)
    (registers : RegistersAmong pairs (machine.event acquisition input))
    {device : DeviceBoot}
    (owns :
      (owner (earlier ++ [machine.event acquisition input])
        device).isSome = true) :
    ∃ row ∈ (machine.event acquisition input).target.store.contexts.rows,
      row.device = device := by
  rw [owner_concat] at owns
  cases contextChange_step acquisition input with
  | keeps contexts unregistered kept =>
      rw [contexts]
      refine boots.kept device ?_
      simpa only [nextOwner, unregistered, kept] using owns
  | registers registered index task found identified registration stored =>
      obtain ⟨own, others⟩ := CaptureStore.mem_registered_of_among stored few
        (registers (registered, index) registration) boots.among
      rcases eq_or_ne device registered with rfl | other
      · exact own
      · simp only [nextOwner, registration, Function.update_of_ne other] at owns
        obtain ⟨row, member, rfl⟩ := boots.kept device owns
        exact ⟨row, others row member other, rfl⟩
  | withdraws withdrawn index task found unregistered withdrawal stored =>
      simp only [nextOwner, unregistered, withdrawal] at owns
      have owned : (owner earlier device).isSome = true := by
        by_cases holds : owner earlier withdrawn = some index
        · rw [if_pos holds] at owns
          rcases eq_or_ne device withdrawn with rfl | other
          · simp at owns
          · rwa [Function.update_of_ne other] at owns
        · rwa [if_neg holds] at owns
      obtain ⟨row, member, rfl⟩ := boots.kept device owned
      refine ⟨row, ?_, rfl⟩
      rw [stored]
      refine Table.mem_delete _ |>.2 ⟨member, ?_⟩
      obtain ⟨holder, plan, holds, planFound, shape⟩ := boots.owned row member
      -- A context of the same boot and session would be the task's own, and
      -- then the boot would have no owner left.
      simp only [Bool.decide_and, Bool.and_eq_false_iff, decide_eq_false_iff_not]
      by_contra deleted
      push Not at deleted
      obtain ⟨sameBoot, sameSession⟩ := deleted
      have sameTask : holder = index := by
        refine plan_index_unique boots.sessions planFound
          (plans_getElem? found) ?_
        rw [shape] at sameSession
        exact Option.some.inj sameSession
      rw [sameBoot, sameTask] at holds
      rw [if_pos holds, sameBoot] at owns
      simp at owns

/-- A clean-up takes no capture. -/
theorem producedIn?_of_withdrawal
    {step : Step}
    {withdrawn : DeviceBoot × Nat}
    (withdrawal : withdrawal? step = some withdrawn) :
    producedIn? step = none := by
  unfold withdrawal? at withdrawal
  unfold producedIn?
  split at withdrawal
  · rename_i advances
    rw [advances]
  · cases withdrawal

/-- Every undecided capture keeps an owner. -/
theorem BootsOwned.undecided_step
    {pairs : List DeviceBoot}
    {earlier : List Step}
    {acquisition : Acquisition}
    {input : Input}
    (boots : BootsOwned pairs earlier acquisition)
    (cleans : CleansUpDecided earlier (machine.event acquisition input))
    {produced : Produced}
    (member : produced ∈ (machine.event acquisition input).target.captures)
    (undecided : produced.decided = false) :
    (owner (earlier ++ [machine.event acquisition input])
      produced.identity.device).isSome = true := by
  have before : (owner earlier produced.identity.device).isSome = true := by
    rcases Acquisition.undecided_step member undecided with old | taken
    · exact boots.undecided produced old undecided
    · exact cleans.2 _ taken
  rw [owner_concat]
  cases contextChange_step acquisition input with
  | keeps contexts unregistered kept =>
      simpa only [nextOwner, unregistered, kept] using before
  | registers device index task found identified registration stored =>
      simp only [nextOwner, registration]
      rcases eq_or_ne produced.identity.device device with same | other
      · rw [same, Function.update_self]
        rfl
      · rwa [Function.update_of_ne other]
  | withdraws device index task found unregistered withdrawal stored =>
      simp only [nextOwner, unregistered, withdrawal]
      by_cases holds : owner earlier device = some index
      · rw [if_pos holds]
        rcases eq_or_ne produced.identity.device device with same | other
        · have old : produced ∈ acquisition.captures := by
            rcases Acquisition.undecided_step member undecided with old | taken
            · exact old
            · rw [producedIn?_of_withdrawal withdrawal] at taken
              cases taken
          have decided := cleans.1 _ withdrawal holds produced old same
          rw [undecided] at decided
          cases decided
        · rwa [Function.update_of_ne other]
      · rwa [if_neg holds]

/-- One step keeps the boots with their owners. -/
theorem BootsOwned.step
    {pairs : List DeviceBoot}
    {earlier : List Step}
    {acquisition : Acquisition}
    {input : Input}
    (few : pairs.length ≤ CaptureStore.contextLimit)
    (boots : BootsOwned pairs earlier acquisition)
    (registers : RegistersAmong pairs (machine.event acquisition input))
    (cleans : CleansUpDecided earlier (machine.event acquisition input)) :
    BootsOwned pairs (earlier ++ [machine.event acquisition input])
      (machine.event acquisition input).target where
  owned := boots.owned.step input
  sessions := sessions_step boots.sessions input
  among := boots.among_step registers
  kept := fun _ owns => boots.kept_step few registers owns
  undecided := fun _ member undecided =>
    boots.undecided_step cleans member undecided

/-- An undecided capture has a context. -/
theorem BootsOwned.context
    {pairs : List DeviceBoot}
    {earlier : List Step}
    {acquisition : Acquisition}
    (boots : BootsOwned pairs earlier acquisition)
    {produced : Produced}
    (member : produced ∈ acquisition.captures)
    (undecided : produced.decided = false) :
    (acquisition.store.context? produced.identity.device).isSome = true := by
  obtain ⟨row, rowMember, device⟩ :=
    boots.kept _ (boots.undecided produced member undecided)
  exact Option.isSome_iff_exists.2
    ⟨row, CaptureStore.context?_eq_some.2 ⟨rowMember, device⟩⟩

/-- A replay that fails for want of a context has asked the store. -/
theorem replay_noContext
    {acquisition : Acquisition}
    {delivery : BridgeCaptureDelivery}
    {capture : CaptureData}
    (delivered : CaptureStore.deliveredCapture delivery = .ok capture)
    (fails :
      (acquisition.replay delivery).2 =
        some (.error CaptureStore.noContext)) :
    acquisition.store.commitReplayedDelivery delivery =
      .error CaptureStore.noContext := by
  unfold replay at fails
  simp only [delivered] at fails
  split_ifs at fails
  · rcases commits : acquisition.store.commitReplayedDelivery delivery with
      raised | ⟨store, result⟩
    · simp only [commits] at fails
      obtain rfl := Except.error.inj (Option.some.inj fails)
      rfl
    · simp [commits] at fails

/--
In every run over at most 256 boots, if the clean-up of a failed start finds no
undecided capture of a boot it owns, and the device takes captures only in boots
with an owner, every undecided capture has a context and no replay of one fails
for want of it.
-/
theorem keepsContexts_of_cleansUpDecided
    (pairs : List DeviceBoot)
    (few : pairs.length ≤ 256)
    (inputs : List Input)
    (registers :
      EveryStep (fun _ step => RegistersAmong pairs step)
        (machine.trace started inputs))
    (cleans : EveryStep CleansUpDecided (machine.trace started inputs)) :
    EveryStep (fun _ step => KeepsContexts step)
      (machine.trace started inputs) := by
  have conditioned :
      EveryStep
        (fun earlier step =>
          RegistersAmong pairs step ∧ CleansUpDecided earlier step)
        (machine.trace started inputs) := by
    intro earlier step later shape
    exact ⟨registers earlier step later shape, cleans earlier step later shape⟩
  refine machine.everyStep_of_invariant (BootsOwned pairs) ?_ ?_ ?_ inputs
    conditioned
  · constructor
    · intro row member
      simp [started, CaptureStore.empty] at member
    · simp [started, plans]
    · intro row member
      simp [started, CaptureStore.empty] at member
    · intro device owns
      simp [owner] at owns
    · intro produced member
      simp [started] at member
  · intro earlier acquisition input boots condition
    exact boots.step few condition.1 condition.2
  · intro earlier acquisition input boots condition
    constructor
    · intro produced member undecided
      exact (boots.step few condition.1 condition.2).context member undecided
    · intro delivery capture produced replays delivered member same undecided
        fails
      obtain rfl : input = .replay delivery := replays
      have found := boots.context member undecided
      rw [same] at found
      exact CaptureStore.commitReplayedDelivery_ne_noContext _ _ delivered found
        (replay_noContext delivered fails)

set_option maxRecDepth 100000 in
/-- A periodic capture that is replayed after the link has been lost. -/
theorem keepsContexts_reconnected :
    EveryStep (fun _ step => KeepsContexts step)
      (machine.trace started
        (startArchiving ++
          [produceSmallest 0, .publish none, .publish (some smallestBoot),
            .replay smallestDelivery])) :=
  keepsContexts_of_cleansUpDecided [smallestBoot] (by decide) _
    (by decide +kernel) (by decide +kernel)

/-- The device accepts a start and takes a capture, but the response is lost. -/
def lostResponse : List Input :=
  [.publish (some smallestBoot), .call archivingPlan] ++ registering 0 ++
    [.command 0, produceSmallest 0,
      .answerStart 0 (some ⟨.timeoutError, "timed out"⟩), .advance 0]

set_option maxRecDepth 100000 in
/-- The clean-up leaves the capture undecided and its boot without a context. -/
theorem lostResponse_withdrawn :
    (machine.after started lostResponse).captures =
        [⟨⟨smallestBoot, Bytes.zero 16⟩, 0, false⟩] ∧
      (machine.after started lostResponse).store.context? smallestBoot = none ∧
      (machine.event (machine.after started lostResponse)
        (.replay smallestDelivery)).output =
          some (.error CaptureStore.noContext) := by
  decide +kernel

/-- A start whose response is lost leaves a capture that no replay can hand
over. -/
theorem not_keepsContexts_lostResponse :
    ¬EveryStep (fun _ step => KeepsContexts step)
      (machine.trace started (lostResponse ++ [.replay smallestDelivery])) := by
  intro every
  rw [Machine.trace_concat] at every
  have last := ((EveryStep.concat_iff _ _).1 every).2
  obtain ⟨captures, -, fails⟩ := lostResponse_withdrawn
  have produced :
      Produced.mk ⟨smallestBoot, Bytes.zero 16⟩ 0 false ∈
        (machine.after started lostResponse).captures := by
    rw [captures]
    exact List.mem_singleton_self _
  exact last.replays smallestDelivery _ _ rfl deliveredCapture_smallest produced
    rfl rfl fails

end Acquisition

end Usac.Host
