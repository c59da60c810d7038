import Usac.Host.SessionThreads

namespace Usac.Host

open Library

/-!
# The verdict on a session

A session is finalized once, and its verdict stands, as long as its worker does
not record a verdict of its own once a stop has been requested. The worker
decides some of its verdicts outside the control lock, and then records them
without looking at the state again.
-/

/-- The ends of a session that its threads know. -/
def SessionState.isVerdict : SessionState → Bool
  | completed => true
  | stopped => true
  | failed => true
  | _ => false

/-- A state stays, or passes from `RUNNING` to `STOPPING`, or from one of the
two to an end. -/
inductive SessionState.Passes : SessionState → SessionState → Prop where
  | stays (state : SessionState) : Passes state state
  | stopping : Passes .running .stopping
  | ends
      {source target : SessionState}
      (active : source = .running ∨ source = .stopping)
      (verdict : target.isVerdict = true) :
      Passes source target

/-- A step that passes on the state of the session, and leaves the verdict on
a session that has one alone, in memory and in the store. -/
structure KeepsVerdict (source target : SessionControl) : Prop where
  passes : source.verdict.state.Passes target.verdict.state
  final :
    source.verdict.state.isVerdict = true →
      target.verdict = source.verdict ∧ target.summary = source.summary

/-- A session that has been finalized with its verdict, or not at all. -/
structure FinalizedOnce (control : SessionControl) : Prop where
  ended :
    control.verdict.state.isVerdict = true →
      control.finalizations = [control.verdict] ∧
        control.summary = control.verdict
  active :
    control.verdict.state.isVerdict = false → control.finalizations = []

namespace FinalizedOnce

variable {control : SessionControl}

/-- A session that has been started has no verdict. -/
theorem started : FinalizedOnce .started :=
  ⟨nofun, fun _ => rfl⟩

/-- A decision in the store leaves the verdict alone. -/
theorem commit (once : FinalizedOnce control) : FinalizedOnce control.commit :=
  ⟨once.ended, once.active⟩

/-- The summary of a session with a verdict is saved with it again. -/
theorem record (once : FinalizedOnce control) : FinalizedOnce control.record :=
  ⟨fun ended => ⟨(once.ended ended).1, rfl⟩, once.active⟩

/-- A stop is no verdict. -/
theorem requestStop
    (once : FinalizedOnce control)
    (running : control.verdict.state = .running) :
    FinalizedOnce control.requestStop :=
  ⟨nofun, fun _ => once.active (by rw [running]; rfl)⟩

/-- A session is finalized while it has no verdict. -/
theorem finish
    (once : FinalizedOnce control)
    (active : control.verdict.state.isVerdict = false)
    {verdict : Verdict}
    (isVerdict : verdict.state.isVerdict = true) :
    FinalizedOnce (control.finish verdict) := by
  constructor
  · intro _
    refine ⟨?_, rfl⟩
    rw [SessionControl.finish, once.active active]
    rfl
  · intro other
    cases other.symm.trans isVerdict

end FinalizedOnce

namespace KeepsVerdict

variable {control : SessionControl}

/-- The session itself. -/
theorem refl : KeepsVerdict control control :=
  ⟨.stays _, fun _ => ⟨rfl, rfl⟩⟩

/-- A decision in the store. -/
theorem commit : KeepsVerdict control control.commit :=
  ⟨.stays _, fun _ => ⟨rfl, rfl⟩⟩

/-- A capture that is recorded. -/
theorem record (once : FinalizedOnce control) :
    KeepsVerdict control control.record :=
  ⟨.stays _, fun ended => ⟨rfl, (once.ended ended).2.symm⟩⟩

/-- A stop of a session that runs. -/
theorem requestStop (running : control.verdict.state = .running) :
    KeepsVerdict control control.requestStop where
  passes := by
    rw [running]
    exact .stopping
  final ended := by
    rw [running] at ended
    cases ended

/-- A verdict on a session that has none. -/
theorem finish
    (active : control.verdict.state = .running ∨
      control.verdict.state = .stopping)
    {verdict : Verdict}
    (isVerdict : verdict.state.isVerdict = true) :
    KeepsVerdict control (control.finish verdict) where
  passes := .ends active isVerdict
  final ended := by
    rcases active with running | stopping
    · rw [running] at ended
      cases ended
    · rw [stopping] at ended
      cases ended

end KeepsVerdict

/-- What a thread may do to a session: it may stop one that runs, and finalize
one that has no verdict. -/
def ControlEffect.Allowed (control : SessionControl) : ControlEffect → Prop
  | keep => True
  | requestStop => control.verdict.state = .running
  | finish verdict =>
      (control.verdict.state = .running ∨ control.verdict.state = .stopping) ∧
        verdict.state.isVerdict = true

/-- A state is active or an end, unless the session was interrupted. -/
theorem SessionState.active_iff {state : SessionState} :
    state = .running ∨ state = .stopping ↔
      state.isVerdict = false ∧ state ≠ .interrupted := by
  cases state <;> decide

/-- A session that is known to be active or to have been finalized with its
verdict. -/
structure SessionControl.Judged (control : SessionControl) : Prop where
  once : FinalizedOnce control
  known : control.verdict.state ≠ .interrupted

/-- What a thread may do keeps a session judged, and its verdict. -/
theorem SessionControl.Judged.apply
    {control : SessionControl}
    (judged : control.Judged)
    {effect : ControlEffect}
    (allowed : effect.Allowed control) :
    (control.apply effect).Judged ∧
      KeepsVerdict control (control.apply effect) := by
  cases effect with
  | keep => exact ⟨judged, .refl⟩
  | requestStop =>
      exact ⟨⟨judged.once.requestStop allowed, nofun⟩, .requestStop allowed⟩
  | finish verdict =>
      obtain ⟨active, isVerdict⟩ := allowed
      have before := (SessionState.active_iff.1 active).1
      refine ⟨⟨judged.once.finish before isVerdict, fun other => ?_⟩,
        .finish active isVerdict⟩
      rw [show verdict.state = .interrupted from other] at isVerdict
      cases isVerdict

namespace PeriodicSession

/-- Whether a worker has left its loop. -/
def WorkerStage.hasLeft : WorkerStage → Bool
  | leaving => true
  | finished => true
  | _ => false

/-- Whether a worker is about to record a verdict that it has reached outside
the control lock, or in an earlier section under it. -/
def WorkerStage.isUnguarded : WorkerStage → Bool
  | completing => true
  | concluding _ _ => true
  | _ => false

/-- Whether a call has asked for a stop and not finalized the session yet. -/
def StopStage.isPending : StopStage → Bool
  | commanding => true
  | concluding _ => true
  | _ => false

/-- What a step of the worker does. -/
inductive WorkerEffect
    (control : SessionControl)
    (stage : WorkerStage) :
    WorkerStage × ControlEffect → Prop where
  | keeps
      {next : WorkerStage}
      (guarded : stage.isUnguarded = false)
      (gone : stage.hasLeft = true → next.hasLeft = true)
      (left :
        next.hasLeft = true →
          stage.hasLeft = true ∨ control.verdict.state ≠ .running ∨
            control.stopEvent = true) :
      WorkerEffect control stage (next, .keep)
  | concludes
      {verdict : Verdict}
      (present : stage.hasLeft = false)
      (guarded :
        control.verdict.state = .running ∨ control.stopEvent = false ∨
          stage.isUnguarded = true)
      (isVerdict : verdict.state.isVerdict = true) :
      WorkerEffect control stage (.leaving, .finish verdict)

/-- A step of the worker keeps the session, or leaves with a verdict. -/
theorem workerStep_effect
    (requestedCount : Nat)
    (control : SessionControl)
    (failure : Option String)
    (stage : WorkerStage) :
    WorkerEffect control stage
      (workerStep requestedCount control failure stage) := by
  cases stage with
  | waiting =>
      refine .keeps rfl nofun fun left => ?_
      cases asked : control.stopEvent with
      | true => exact .inr (.inr rfl)
      | false =>
          rw [asked] at left
          cases left
  | entering =>
      rw [workerStep]
      split_ifs with other reached
      · exact .keeps rfl nofun fun _ => .inr (.inl other)
      · exact .concludes rfl (.inl (not_not.1 other)) rfl
      · exact .keeps rfl nofun nofun
  | renewing =>
      cases failure with
      | none => exact .keeps rfl nofun nofun
      | some error => exact .keeps rfl nofun nofun
  | renewed =>
      refine .keeps rfl nofun fun left => ?_
      cases asked : control.stopEvent with
      | true => exact .inr (.inr rfl)
      | false =>
          rw [asked] at left
          cases left
  | polling =>
      cases failure with
      | none => exact .keeps rfl nofun nofun
      | some error => exact .keeps rfl nofun nofun
  | polled =>
      refine .keeps rfl nofun ?_
      split_ifs <;> exact nofun
  | completing => exact .concludes rfl (.inr (.inr rfl)) rfl
  | caught error =>
      rw [workerStep]
      split_ifs with completed asked
      · exact .concludes rfl (.inr (.inl completed.1)) rfl
      · exact .keeps rfl nofun nofun
      · exact .keeps rfl nofun nofun
  | stoppingDevice error => exact .keeps rfl nofun nofun
  | concluding stopped error =>
      refine .concludes rfl (.inr (.inr rfl)) ?_
      cases stopped <;> rfl
  | leaving => exact .keeps rfl (fun _ => rfl) fun _ => .inl rfl
  | finished => exact .keeps rfl (fun _ => rfl) fun _ => .inl rfl

/-- What a step of a call of `stop_periodic` does. -/
inductive StopEffect
    (control : SessionControl)
    (stage : StopStage) :
    StopStage × ControlEffect → Prop where
  | keeps
      {next : StopStage}
      (pending : next.isPending = stage.isPending) :
      StopEffect control stage (next, .keep)
  | asks
      {next : StopStage}
      (running : control.verdict.state = .running)
      (before : stage.isPending = false)
      (pending : next.isPending = true) :
      StopEffect control stage (next, .requestStop)
  | concludes
      {next : StopStage}
      {verdict : Verdict}
      (pending : stage.isPending = true)
      (settled : next.isPending = false)
      (isVerdict : verdict.state.isVerdict = true) :
      StopEffect control stage (next, .finish verdict)

/-- A call keeps the session, asks for its stop, or finalizes it. -/
theorem stopStep_effect
    (control : SessionControl)
    (failure : Option String)
    (stage : StopStage) :
    StopEffect control stage (stopStep control failure stage) := by
  cases stage with
  | entering =>
      rw [stopStep]
      split_ifs with running
      · exact .asks running rfl rfl
      · exact .keeps rfl
  | commanding => exact .keeps rfl
  | concluding failure =>
      cases failure with
      | none => exact .concludes rfl rfl rfl
      | some error => exact .concludes rfl rfl rfl
  | clearing => exact .keeps rfl
  | finished => exact .keeps rfl

/-- Whether the worker records a verdict outside of its guard once a stop has
been requested. -/
def overtakes (event : Event PeriodicSession Input Unit) : Bool :=
  match event.input with
  | .worker _ =>
      event.source.worker.isUnguarded && event.source.control.stopEvent
  | _ => false

/-- The number of calls that have asked for a stop and not finalized the
session yet. -/
def pendingCount (session : PeriodicSession) : Nat :=
  session.calls.countP StopStage.isPending

/-- What holds of a session whose worker has overtaken a stop some number of
times: it has been finalized by each of these, and by who has taken it from
`RUNNING`, or will be. -/
structure Counted (overtaken : Nat) (session : PeriodicSession) : Prop where
  asked :
    session.control.stopEvent = true → session.control.verdict.state ≠ .running
  unasked :
    session.control.stopEvent = false →
      overtaken = 0 ∧ session.pendingCount = 0
  staying :
    session.control.stopEvent = false → session.worker.hasLeft = false →
      session.control.verdict.state = .running
  left :
    session.worker.hasLeft = true → session.control.verdict.state ≠ .running
  counted :
    session.control.finalizations.length + session.pendingCount =
      overtaken + if session.control.verdict.state = .running then 0 else 1

section Step

variable {overtaken requestedCount : Nat} {session : PeriodicSession}

/-- A session whose worker has been started is counted. -/
theorem started_counted : Counted 0 started where
  asked := nofun
  unasked _ := ⟨rfl, rfl⟩
  staying _ _ := rfl
  left := nofun
  counted := rfl

/-- A session that runs has not been asked to stop. -/
theorem Counted.not_asked
    (counted : Counted overtaken session)
    (running : session.control.verdict.state = .running) :
    session.control.stopEvent = false := by
  cases asked : session.control.stopEvent with
  | true => exact absurd running (counted.asked asked)
  | false => rfl

/-- A verdict of the worker that is not overtaken by a stop ends a session that
runs. -/
theorem Counted.running
    (counted : Counted overtaken session)
    (present : session.worker.hasLeft = false)
    (guarded :
      session.control.verdict.state = .running ∨
        session.control.stopEvent = false ∨
          session.worker.isUnguarded = true)
    (behind :
      (session.worker.isUnguarded && session.control.stopEvent) = false) :
    session.control.verdict.state = .running := by
  rcases guarded with running | unasked | unguarded
  · exact running
  · exact counted.staying unasked present
  · rw [unguarded] at behind
    exact counted.staying behind present

/-- A step of the worker is counted. -/
theorem Counted.worker
    (counted : Counted overtaken session)
    {outcome : WorkerStage × ControlEffect}
    (effect : WorkerEffect session.control session.worker outcome) :
    Counted
      (overtaken +
        (session.worker.isUnguarded && session.control.stopEvent).toNat)
      { session with
        control := session.control.apply outcome.2
        worker := outcome.1 } := by
  cases effect with
  | keeps guarded gone left =>
      rw [guarded]
      refine ⟨counted.asked, counted.unasked, ?_, ?_, counted.counted⟩
      · intro unasked present
        apply counted.staying unasked
        rw [Bool.eq_false_iff]
        exact fun before => Bool.eq_false_iff.1 present (gone before)
      · intro away
        rcases left away with before | other | asked
        · exact counted.left before
        · exact other
        · exact counted.asked asked
  | @concludes verdict present guarded isVerdict =>
      have ended : verdict.state ≠ .running := by
        intro running
        rw [running] at isVerdict
        cases isVerdict
      refine ⟨fun _ => ended, ?_, nofun, fun _ => ended, ?_⟩
      · intro unasked
        obtain ⟨none, settled⟩ := counted.unasked unasked
        rw [none, show session.control.stopEvent = false from unasked,
          Bool.and_false]
        exact ⟨rfl, settled⟩
      · show (session.control.finalizations ++ [verdict]).length +
            session.pendingCount = _ + if verdict.state = .running then 0 else 1
        have before := counted.counted
        rw [if_neg ended, List.length_append, List.length_singleton,
          Nat.add_right_comm, before]
        cases behind :
            session.worker.isUnguarded && session.control.stopEvent with
        | true =>
            have asked := (Bool.and_eq_true _ _ ▸ behind).2
            rw [if_neg (counted.asked asked)]
            rfl
        | false =>
            rw [if_pos (counted.running present guarded behind)]
            rfl

/-- A step of a call is counted. -/
theorem Counted.stop
    (counted : Counted overtaken session)
    {index : Nat}
    {stage : StopStage}
    (found : session.calls[index]? = some stage)
    {outcome : StopStage × ControlEffect}
    (effect : StopEffect session.control stage outcome) :
    Counted overtaken
      { session with
        control := session.control.apply outcome.2
        calls := session.calls.set index outcome.1 } := by
  obtain ⟨inside, here⟩ := List.getElem?_eq_some_iff.1 found
  have placed (next : StopStage) :
      (session.calls.set index next).countP StopStage.isPending +
          stage.isPending.toNat =
        session.pendingCount + next.isPending.toNat := by
    have member : stage ∈ session.calls := List.mem_of_getElem? found
    rw [List.countP_set inside, here, pendingCount]
    cases before : stage.isPending with
    | false => cases next.isPending <;> rfl
    | true =>
        have positive : 0 < session.calls.countP StopStage.isPending :=
          List.countP_pos_iff.2 ⟨stage, member, before⟩
        cases next.isPending with
        | false => exact Nat.sub_add_cancel positive
        | true =>
            exact congrArg (· + 1) (Nat.sub_add_cancel positive)
  cases effect with
  | @keeps next pending =>
      have same : (session.calls.set index next).countP StopStage.isPending =
          session.pendingCount := by
        have moved := placed next
        rw [pending] at moved
        exact Nat.add_right_cancel moved
      exact ⟨counted.asked, fun unasked =>
          ⟨(counted.unasked unasked).1,
            same.trans (counted.unasked unasked).2⟩,
        counted.staying, counted.left,
        (congrArg (_ + ·) same).trans counted.counted⟩
  | @asks next running before pending =>
      have more : (session.calls.set index next).countP StopStage.isPending =
          session.pendingCount + 1 := by
        have moved := placed next
        rwa [before, pending] at moved
      have unasked := counted.not_asked running
      refine ⟨fun _ => nofun, nofun, nofun, fun _ => nofun, ?_⟩
      show session.control.finalizations.length +
          (session.calls.set index next).countP StopStage.isPending =
        overtaken + 1
      have total := counted.counted
      rw [if_pos running] at total
      rw [more, ← Nat.add_assoc, total]
  | @concludes next verdict pending settled isVerdict =>
      have fewer : (session.calls.set index next).countP StopStage.isPending +
          1 = session.pendingCount := by
        have moved := placed next
        rwa [settled, pending] at moved
      have asked : session.control.stopEvent = true := by
        by_contra unasked
        have none := (counted.unasked (Bool.eq_false_iff.2 unasked)).2
        rw [← fewer] at none
        exact Nat.succ_ne_zero _ none
      have ended : verdict.state ≠ .running := by
        intro running
        rw [running] at isVerdict
        cases isVerdict
      have unlike {law : Prop}
          (unasked : session.control.stopEvent = false) : law := by
        cases asked.symm.trans unasked
      refine ⟨fun _ => ended, unlike, unlike, fun _ => ended, ?_⟩
      show (session.control.finalizations ++ [verdict]).length +
          (session.calls.set index next).countP StopStage.isPending =
        _ + if verdict.state = .running then 0 else 1
      have total := counted.counted
      rw [if_neg (counted.asked asked), ← fewer, ← Nat.add_assoc] at total
      rw [if_neg ended, List.length_append, List.length_singleton,
        Nat.add_right_comm]
      exact total

/-- Whatever happens to a session is counted. -/
theorem Counted.step
    (counted : Counted overtaken session)
    (input : Input) :
    Counted
      (overtaken +
        (overtakes ((machine requestedCount).event session input)).toNat)
      ((machine requestedCount).step session input).1 := by
  cases input with
  | worker failure =>
      exact counted.worker (workerStep_effect _ _ failure _)
  | stop index failure =>
      show Counted overtaken (session.stepCall index failure)
      unfold stepCall
      split
      · exact counted
      · next stage found => exact counted.stop found (stopStep_effect _ _ _)
  | call =>
      have same :
          (session.calls ++ [StopStage.entering]).countP StopStage.isPending =
            session.pendingCount := List.countP_append
      exact ⟨counted.asked,
        fun unasked => ⟨(counted.unasked unasked).1,
          same.trans (counted.unasked unasked).2⟩,
        counted.staying, counted.left,
        (congrArg (_ + ·) same).trans counted.counted⟩
  | commit => exact ⟨counted.asked, counted.unasked, counted.staying,
      counted.left, counted.counted⟩
  | record => exact ⟨counted.asked, counted.unasked, counted.staying,
      counted.left, counted.counted⟩

/-- A session that has been asked to stop and is awaited has no verdict. -/
theorem Counted.stopping
    (counted : Counted 0 session)
    (judged : session.control.Judged)
    (pending : session.pendingCount ≠ 0) :
    session.control.verdict.state = .stopping := by
  have total := counted.counted
  have active : session.control.verdict.state.isVerdict = false := by
    by_contra ended
    obtain ⟨finalized, -⟩ := judged.once.ended (Bool.not_eq_false _ ▸ ended)
    rw [finalized, List.length_singleton] at total
    split_ifs at total <;> omega
  rcases SessionState.active_iff.2 ⟨active, judged.known⟩ with
    running | stopping
  · rw [judged.once.active active, if_pos running, List.length_nil,
      Nat.zero_add] at total
    exact absurd total pending
  · exact stopping

/-- A worker that does not overtake a stop does what it may. -/
theorem Counted.worker_allowed
    (counted : Counted overtaken session)
    {outcome : WorkerStage × ControlEffect}
    (effect : WorkerEffect session.control session.worker outcome)
    (behind :
      (session.worker.isUnguarded && session.control.stopEvent) = false) :
    outcome.2.Allowed session.control := by
  cases effect with
  | keeps => trivial
  | concludes present guarded isVerdict =>
      exact ⟨.inl (counted.running present guarded behind), isVerdict⟩

/-- A call does what it may. -/
theorem Counted.stop_allowed
    (counted : Counted 0 session)
    (judged : session.control.Judged)
    {index : Nat}
    {stage : StopStage}
    (found : session.calls[index]? = some stage)
    {outcome : StopStage × ControlEffect}
    (effect : StopEffect session.control stage outcome) :
    outcome.2.Allowed session.control := by
  cases effect with
  | keeps => trivial
  | asks running => exact running
  | concludes pending settled isVerdict =>
      have awaited : 0 < session.pendingCount :=
        List.countP_pos_iff.2 ⟨stage, List.mem_of_getElem? found, pending⟩
      exact ⟨.inr (counted.stopping judged awaited.ne'), isVerdict⟩

/-- A step that does not overtake a stop leaves a verdict alone. -/
theorem Counted.judged
    (counted : Counted 0 session)
    (judged : session.control.Judged)
    (input : Input)
    (behind :
      overtakes ((machine requestedCount).event session input) = false) :
    ((machine requestedCount).step session input).1.control.Judged ∧
      KeepsVerdict session.control
        ((machine requestedCount).step session input).1.control := by
  cases input with
  | worker failure =>
      exact judged.apply
        (counted.worker_allowed (workerStep_effect _ _ failure _) behind)
  | stop index failure =>
      show (session.stepCall index failure).control.Judged ∧
        KeepsVerdict session.control (session.stepCall index failure).control
      unfold stepCall
      split
      · exact ⟨judged, .refl⟩
      · next stage found =>
          exact judged.apply
            (counted.stop_allowed judged found (stopStep_effect _ _ _))
  | call => exact ⟨judged, .refl⟩
  | commit => exact ⟨⟨judged.once.commit, judged.known⟩, .commit⟩
  | record => exact ⟨⟨judged.once.record, judged.known⟩, .record judged.once⟩

/-- After every run the session is counted. -/
theorem counted_after
    (requestedCount : Nat)
    (inputs : List Input) :
    Counted
      (((machine requestedCount).trace started inputs).countP overtakes)
      ((machine requestedCount).after started inputs) := by
  apply (machine requestedCount).history_after
    (fun history session => Counted (history.countP overtakes) session)
    started_counted
  intro history session input counted
  have one : [(machine requestedCount).event session input].countP overtakes =
      (overtakes ((machine requestedCount).event session input)).toNat := by
    rw [List.countP_singleton]
    cases overtakes ((machine requestedCount).event session input) <;> rfl
  rw [List.countP_append, one]
  exact counted.step input

/-- No step of a run overtakes a stop. -/
def NeverOvertakes (events : List (Event PeriodicSession Input Unit)) : Prop :=
  EveryStep (fun _ event => overtakes event = false) events

instance (events : List (Event PeriodicSession Input Unit)) :
    Decidable (NeverOvertakes events) :=
  EveryStep.decidable _ events

/-- Steps that do not overtake a stop are not counted. -/
theorem neverOvertakes_iff
    (events : List (Event PeriodicSession Input Unit)) :
    NeverOvertakes events ↔ events.countP overtakes = 0 := by
  rw [NeverOvertakes, EveryStep.forall_iff, List.countP_eq_zero]
  exact forall₂_congr fun _ _ => (Bool.not_eq_true _).symm.to_iff

/-- A session that is judged while no stop is overtaken. -/
structure Sound (session : PeriodicSession) : Prop where
  counted : Counted 0 session
  judged : session.control.Judged

/-- A session whose worker has been started is sound. -/
theorem started_sound : Sound started :=
  ⟨started_counted, .started, nofun⟩

/-- A step that does not overtake a stop keeps a session sound, and its
verdict. -/
theorem Sound.step
    (sound : Sound session)
    (input : Input)
    (behind :
      overtakes ((machine requestedCount).event session input) = false) :
    Sound ((machine requestedCount).step session input).1 ∧
      KeepsVerdict session.control
        ((machine requestedCount).step session input).1.control := by
  have counted : Counted
      (0 + (overtakes ((machine requestedCount).event session input)).toNat)
      ((machine requestedCount).step session input).1 :=
    sound.counted.step input
  rw [behind] at counted
  obtain ⟨judged, keeps⟩ := sound.counted.judged sound.judged input behind
  exact ⟨⟨counted, judged⟩, keeps⟩

/-- A run that overtakes no stop leaves every verdict alone. -/
theorem keepsVerdict_of_neverOvertakes
    {inputs : List Input}
    (never : NeverOvertakes ((machine requestedCount).trace started inputs)) :
    EveryStep
        (fun _ event => KeepsVerdict event.source.control event.target.control)
        ((machine requestedCount).trace started inputs) ∧
      FinalizedOnce ((machine requestedCount).after started inputs).control := by
  constructor
  · exact (machine requestedCount).everyStep_of_invariant
      (fun _ session => Sound session) started_sound
      (fun _ _ input sound behind => (sound.step input behind).1)
      (fun _ _ input sound behind => (sound.step input behind).2)
      inputs never
  · have sound := (machine requestedCount).invariant_after
      (fun _ session => Sound session) started_sound
      (fun _ _ input sound behind => (sound.step input behind).1)
      inputs never
    exact sound.judged.once

/-- A session whose threads are done has been finalized once exactly when no
stop was overtaken. -/
theorem finalized_once_iff
    {inputs : List Input}
    (left :
      ((machine requestedCount).after started inputs).worker = .finished)
    (settled :
      ((machine requestedCount).after started inputs).pendingCount = 0) :
    ((machine requestedCount).after started inputs).control.finalizations.length
        = 1 ↔
      NeverOvertakes ((machine requestedCount).trace started inputs) := by
  have counted := counted_after requestedCount inputs
  have ended := counted.left (by rw [left]; rfl)
  have total := counted.counted
  rw [settled, if_neg ended, Nat.add_zero] at total
  rw [neverOvertakes_iff, total]
  exact Nat.add_eq_right

end Step

end PeriodicSession

namespace SweepSession

/-- A sweep that has its verdict once its worker is done, and not before. -/
structure Sound (session : SweepSession) : Prop where
  judged : session.control.Judged
  ended :
    session.control.verdict.state.isVerdict = true ↔ session.worker = .finished

/-- A sweep whose worker has been started is sound. -/
theorem started_sound : Sound started :=
  ⟨⟨.started, nofun⟩, iff_of_false nofun nofun⟩

variable {session : SweepSession}

/-- A sweep that is not done is active. -/
theorem Sound.active
    (sound : Sound session)
    (working : session.worker ≠ .finished) :
    session.control.verdict.state = .running ∨
      session.control.verdict.state = .stopping := by
  refine SessionState.active_iff.2 ⟨?_, sound.judged.known⟩
  exact Bool.eq_false_iff.2 fun ended => working (sound.ended.1 ended)

/-- The worker of a sweep concludes with a verdict. -/
theorem Sound.conclude
    (sound : Sound session)
    (working : session.worker ≠ .finished)
    {verdict : Verdict}
    (isVerdict : verdict.state.isVerdict = true) :
    Sound ⟨session.control.finish verdict, .finished⟩ ∧
      KeepsVerdict session.control (session.control.finish verdict) := by
  have allowed : (ControlEffect.finish verdict).Allowed session.control :=
    ⟨sound.active working, isVerdict⟩
  obtain ⟨judged, keeps⟩ := sound.judged.apply allowed
  exact ⟨⟨judged, iff_of_true isVerdict rfl⟩, keeps⟩

/-- Every step of a sweep keeps it sound, and its verdict. -/
theorem Sound.step
    (sound : Sound session)
    (input : Input) :
    Sound (machine.step session input).1 ∧
      KeepsVerdict session.control (machine.step session input).1.control := by
  obtain ⟨control, worker⟩ := session
  cases input with
  | worker planEnd =>
      cases worker with
      | executing =>
          refine ⟨⟨sound.judged, ?_⟩, .refl⟩
          exact sound.ended.trans (iff_of_false nofun nofun)
      | concluding ending =>
          cases ending with
          | returned => exact sound.conclude nofun rfl
          | otherError error => exact sound.conclude nofun rfl
          | runtimeError error =>
              apply sound.conclude nofun
              cases control.stopEvent <;> rfl
      | finished => exact ⟨sound, .refl⟩
  | stop =>
      show Sound ⟨control.apply (stop control), worker⟩ ∧
        KeepsVerdict control (control.apply (stop control))
      by_cases running : control.verdict.state = .running
      · have allowed : ControlEffect.requestStop.Allowed control := running
        have working : worker ≠ .finished := by
          intro finished
          have ended := sound.ended.2 finished
          rw [show control.verdict.state = .running from running] at ended
          cases ended
        obtain ⟨judged, keeps⟩ := sound.judged.apply allowed
        rw [stop, if_pos running]
        exact ⟨⟨judged, iff_of_false nofun working⟩, keeps⟩
      · rw [stop, if_neg running]
        exact ⟨sound, .refl⟩
  | commit =>
      exact ⟨⟨⟨sound.judged.once.commit, sound.judged.known⟩, sound.ended⟩,
        .commit⟩
  | record =>
      exact ⟨⟨⟨sound.judged.once.record, sound.judged.known⟩, sound.ended⟩,
        .record sound.judged.once⟩

/-- Every run of a sweep keeps it sound, and its verdict. -/
theorem keepsVerdict (inputs : List Input) :
    Sound (machine.after started inputs) ∧
      EveryStep
        (fun _ event => KeepsVerdict event.source.control event.target.control)
        (machine.trace started inputs) := by
  constructor
  · exact machine.invariant_of_step Sound started_sound
      (fun _ input sound => (sound.step input).1) inputs
  · exact machine.everyStep_of_invariant
      (fun _ session => Sound session) started_sound
      (fun _ _ input sound _ => (sound.step input).1)
      (fun _ _ input sound _ => (sound.step input).2)
      inputs fun _ _ _ _ => trivial

end SweepSession

/-- Every step of a run leaves the verdict alone, and the session has been
finalized with its verdict or not at all. -/
structure PeriodicSession.KeepsVerdicts
    (requestedCount : Nat)
    (inputs : List PeriodicSession.Input) :
    Prop where
  steps :
    EveryStep
      (fun _ event => KeepsVerdict event.source.control event.target.control)
      ((machine requestedCount).trace started inputs)
  once : FinalizedOnce ((machine requestedCount).after started inputs).control

/-- Every step of a run leaves the verdict alone, and the sweep has been
finalized with its verdict, once its worker is done, or not at all. -/
structure SweepSession.KeepsVerdicts (inputs : List SweepSession.Input) :
    Prop where
  steps :
    EveryStep
      (fun _ event => KeepsVerdict event.source.control event.target.control)
      (machine.trace started inputs)
  once : FinalizedOnce (machine.after started inputs).control
  ended :
    (machine.after started inputs).worker = .finished →
      (machine.after started inputs).control.finalizations.length = 1

/--
A periodic session keeps its verdict in every run whose worker overtakes no
stop, and a run to the end of its threads finalizes it once in no other. A
sweep keeps its verdict in every run.
-/
theorem verdict_final
    (requestedCount : Nat)
    (inputs : List PeriodicSession.Input)
    (sweepInputs : List SweepSession.Input) :
    (PeriodicSession.NeverOvertakes
        ((PeriodicSession.machine requestedCount).trace .started inputs) →
      PeriodicSession.KeepsVerdicts requestedCount inputs) ∧
      (((PeriodicSession.machine requestedCount).after
            .started inputs).worker = .finished →
        ((PeriodicSession.machine requestedCount).after
            .started inputs).pendingCount = 0 →
          (((PeriodicSession.machine requestedCount).after
                .started inputs).control.finalizations.length = 1 ↔
            PeriodicSession.NeverOvertakes
              ((PeriodicSession.machine requestedCount).trace
                .started inputs))) ∧
      SweepSession.KeepsVerdicts sweepInputs := by
  refine ⟨fun never => ?_, PeriodicSession.finalized_once_iff, ?_⟩
  · obtain ⟨steps, once⟩ := PeriodicSession.keepsVerdict_of_neverOvertakes never
    exact ⟨steps, once⟩
  · obtain ⟨sound, steps⟩ := SweepSession.keepsVerdict sweepInputs
    refine ⟨steps, sound.judged.once, fun finished => ?_⟩
    obtain ⟨finalized, -⟩ := sound.judged.once.ended (sound.ended.2 finished)
    rw [finalized]
    rfl

namespace PeriodicSession

/-- A session is stopped while its worker waits for its captures. -/
def orderlyStop : List Input :=
  [.worker none, .worker none, .worker none, .worker none, .call,
    .stop 0 none, .worker none, .stop 0 none, .worker none, .commit, .record,
    .stop 0 none, .worker none, .worker none, .worker none, .stop 0 none]

/-- The stop finalizes the session, whose worker leaves. -/
theorem verdict_final_orderlyStop :
    KeepsVerdicts 0 orderlyStop ∧
      ((machine 0).after started orderlyStop).control.finalizations.length =
        1 := by
  have final := verdict_final 0 orderlyStop []
  exact ⟨final.1 (by decide), (final.2.1 (by decide) (by decide)).2 (by decide)⟩

/-- The worker has seen that the only capture has been taken when a stop is
requested. It completes the session, and then the device refuses to stop what
has ended. -/
def overtakenStop : List Input :=
  [.worker none, .worker none, .worker none, .worker none, .commit, .record,
    .worker none, .worker none, .call, .stop 0 none, .worker none,
    .stop 0 (some "RuntimeError: refused"), .stop 0 none]

/-- The completed session is finalized once more, as failed. -/
theorem overtakenStop_refinalized :
    ((machine 1).after started overtakenStop).control.finalizations =
        [.completed, .failed "RuntimeError: refused"] ∧
      ¬KeepsVerdicts 1 overtakenStop := by
  refine ⟨by decide, fun keeps => ?_⟩
  have ended : ((machine 1).after started
      overtakenStop).control.verdict.state.isVerdict = true := by
    decide
  exact absurd (keeps.once.ended ended).1 (by decide)

end PeriodicSession

end Usac.Host
