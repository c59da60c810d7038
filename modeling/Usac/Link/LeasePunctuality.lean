import Usac.Link.LeaseKeeping

namespace Usac.Link

open Library
open Firmware (App CaptureSchedule Hardware Id16)
open Host (LeaseRenewal PeriodicLeaseController PeriodicSchedule)

/-!
# A punctual host keeps its lease

A renewal is called soon after it is due, reaches the device soon after it is
called, and finds the device not far behind. Then no lease runs out under the
host.
-/

namespace Stake

/-- The schedule has been given a lease no earlier than the last renewal was
called, but for the time the device lags behind. -/
def Covered
    (stake : Stake)
    (lagUs toldUs : Nat)
    (app : App) :
    Prop :=
  RunsSchedule app stake.schedule →
    (stake.sinceMs + stake.schedule.leaseTimeoutMs.toNat) * 1000 ≤
      (app.periodic.leaseRemainingUs.toNat + toldUs + lagUs : Int)

/-- A schedule that runs on is covered. -/
theorem Covered.runsOn
    {stake : Stake}
    {lagUs toldUs : Nat}
    {app next : App}
    {elapsedUs : Nat}
    (covered : stake.Covered lagUs toldUs app)
    (ahead : RunsSchedule next stake.schedule → RunsOn app next elapsedUs) :
    stake.Covered lagUs (toldUs + elapsedUs) next := by
  intro runs
  have on := ahead runs
  have before := covered ⟨on.active, on.scheduleId.symm.trans runs.2⟩
  have remaining := on.remaining
  omega

end Stake

namespace Tenure

/-- The host is not late: the next renewal is called within `gapUs` of the time
it is due, and a call reaches the device within `delayUs`. -/
def Timely (gapUs delayUs : Nat) (tenure : Tenure) : Prop :=
  match tenure.call with
  | none =>
      tenure.controller.schedule.isSome = true →
        (tenure.clockUs : Int) ≤ tenure.controller.nextRenewalMs * 1000 + gapUs
  | some call =>
      match call.response with
      | none => tenure.clockUs ≤ call.calledUs + delayUs
      | some _ =>
          tenure.clockUs ≤
            (call.nowMs + call.request.schedule.renewIntervalMs) * 1000 + gapUs

instance (gapUs delayUs : Nat) (tenure : Tenure) :
    Decidable (tenure.Timely gapUs delayUs) := by
  unfold Timely
  split
  · infer_instance
  · split <;> infer_instance

/-- A step that leaves the host on time. A call that reaches the device finds
it at most `lagUs` behind. -/
structure Punctual
    (gapUs delayUs lagUs : Nat)
    (event : Event Tenure Input Shown) :
    Prop where
  timely : event.target.Timely gapUs delayUs
  heard : ∀ hardware,
    event.input = .arrive hardware →
      event.source.clockUs ≤ event.source.toldUs + lagUs

/-- A call reaches the device. -/
def Input.isArrive : Input → Bool
  | .arrive _ => true
  | _ => false

instance (gapUs delayUs lagUs : Nat) (event : Event Tenure Input Shown) :
    Decidable (Punctual gapUs delayUs lagUs event) :=
  decidable_of_iff
    (event.target.Timely gapUs delayUs ∧
      (event.input.isArrive = true →
        event.source.clockUs ≤ event.source.toldUs + lagUs)) <| by
    constructor
    · rintro ⟨timely, heard⟩
      exact ⟨timely, fun _ arrives => heard (by rw [arrives]; rfl)⟩
    · rintro ⟨timely, heard⟩
      refine ⟨timely, fun arrives => ?_⟩
      cases here : event.input with
      | arrive hardware => exact heard hardware here
      | _ => rw [here] at arrives; cases arrives

/-- What the host counts on is covered, and a renewal under way has been called
in time. -/
structure Safeguarded (gapUs lagUs : Nat) (tenure : Tenure) : Prop where
  covered : ∀ stake ∈ tenure.stake?,
    stake.Covered lagUs tenure.toldUs tenure.app
  soon : ∀ call schedule renewal,
    tenure.call = some call → call.response = none →
      call.request = .renew schedule renewal →
        (call.calledUs : Int) ≤ tenure.controller.nextRenewalMs * 1000 + gapUs

/-- The host is on time, and its schedule is safeguarded. -/
structure OnTime (gapUs delayUs lagUs : Nat) (tenure : Tenure) : Prop where
  consistent : tenure.Consistent
  timely : tenure.Timely gapUs delayUs
  safeguarded : Safeguarded gapUs lagUs tenure

section

variable {gapUs delayUs lagUs : Nat} {tenure : Tenure}

/-- A worker that has ended safeguards nothing. -/
theorem safeguarded_ended (tenure : Tenure) :
    Safeguarded gapUs lagUs tenure.ended where
  covered _ counts := by cases counts
  soon _ _ _ here := by cases here

namespace OnTime

/-- The firmware goes on. -/
theorem device
    (onTime : OnTime gapUs delayUs lagUs tenure)
    {next : App}
    {elapsedUs : Nat}
    (ahead : ∀ stake ∈ tenure.stake?, RunsSchedule next stake.schedule →
      RunsOn tenure.app next elapsedUs) :
    Safeguarded gapUs lagUs
      { tenure with app := next, toldUs := tenure.toldUs + elapsedUs } where
  covered stake counts :=
    (onTime.safeguarded.covered stake counts).runsOn (ahead stake counts)
  soon := onTime.safeguarded.soon

/-- A call is made while the host is on time. -/
theorem send
    (onTime : OnTime gapUs delayUs lagUs tenure)
    (idle : tenure.call = none)
    {request : LeaseRequest}
    (renews : ∀ schedule renewal, request = .renew schedule renewal →
      tenure.controller.schedule = some schedule) :
    Safeguarded gapUs lagUs (tenure.send request).1 := by
  have covered := onTime.safeguarded.covered
  have timely := onTime.timely
  unfold Timely at timely
  unfold stake? at covered
  rw [idle] at covered timely
  unfold Tenure.send
  cases request.request.payload with
  | error raised =>
      refine ⟨fun _ counts => ?_, fun _ _ _ here => ?_⟩
      · cases counts
      · cases here
  | ok payload =>
      refine ⟨covered, ?_⟩
      rintro _ schedule renewal ⟨⟩ - asks
      exact timely (by rw [renews schedule renewal asks]; rfl)

/-- A new session. -/
theorem start
    (onTime : OnTime gapUs delayUs lagUs tenure)
    (requestId : Bytes 16)
    (schedule : PeriodicSchedule) :
    Safeguarded gapUs lagUs (tenure.start requestId schedule).1 := by
  unfold Tenure.start
  split
  swap
  · exact onTime.safeguarded
  cases PeriodicLeaseController.init.checkStart schedule tenure.nowMs with
  | error error => exact onTime.safeguarded
  | ok =>
      dsimp only
      unfold Tenure.send
      cases (LeaseRequest.start requestId schedule).request.payload with
      | error raised =>
          refine ⟨fun _ counts => ?_, fun _ _ _ here => ?_⟩
          · cases counts
          · cases here
      | ok payload =>
          refine ⟨fun _ counts => ?_, ?_⟩
          · cases counts
          · rintro _ _ _ ⟨⟩ - asks
            cases asks

/-- A turn of the worker. -/
theorem turn
    (onTime : OnTime gapUs delayUs lagUs tenure) :
    Safeguarded gapUs lagUs tenure.turn.1 := by
  unfold Tenure.turn
  split
  · exact onTime.safeguarded
  rename_i idle
  split
  · exact onTime.safeguarded
  rename_i schedule due
  cases tenure.controller.nextRenewal schedule with
  | error raised => exact safeguarded_ended tenure
  | ok renewal =>
      refine onTime.send idle ?_
      rintro _ _ ⟨⟩
      exact (Option.filter_eq_some_iff.1 due).1

/-- The call reaches the device, which grants a whole lease. -/
theorem arrive
    (onTime : OnTime gapUs delayUs lagUs tenure)
    (heard : tenure.clockUs ≤ tenure.toldUs + lagUs)
    (hardware : Hardware) :
    Safeguarded gapUs lagUs (tenure.arrive hardware) := by
  unfold Tenure.arrive
  split
  · exact onTime.safeguarded
  rename_i call here
  split
  swap
  · exact onTime.safeguarded
  rename_i reaches
  have unanswered : call.response = none :=
    Option.isNone_iff_eq_none.1 reaches.1
  have consistent := onTime.consistent
  have proper := consistent.proper call here
  obtain ⟨called, past⟩ := proper.called
  have counts : tenure.stake? = tenure.held? := by
    unfold stake?
    rw [here]
    simp only [unanswered]
  refine ⟨fun stake granted runs => ?_, ?_⟩
  swap
  · rintro _ _ _ ⟨⟩ responded
    cases responded
  rcases call.request.starts_or_renews with
    ⟨requestId, schedule, asks⟩ | ⟨schedule, renewal, asks⟩
  · have valid : schedule.validate = .ok () := by
      have valid := proper.valid
      rw [asks] at valid
      exact valid
    simp only [stake?, awaited?, asks] at granted
    split at granted
    swap
    · cases granted
    rename_i taken
    cases granted
    obtain ⟨-, -, remaining⟩ :=
      deliver_start asks proper.encoded valid taken
    dsimp only
    rw [remaining]
    omega
  · obtain ⟨held, renews⟩ := proper.renews schedule renewal asks
    have agreed := consistent.agreed ⟨schedule, _, _⟩
      (counts.trans (congrArg (Option.map _) held))
    have outcome :=
      deliver_renewal consistent.opened asks proper.encoded renews
        (consistent.valid schedule held) agreed hardware
    simp only [stake?, awaited?, asks] at granted
    cases granted
    dsimp only at runs ⊢
    generalize
      Exchange.deliver ⟨[], hardware⟩ tenure.app call.frame = delivery at *
    cases outcome with
    | refused response idle raises => exact absurd runs idle
    | restarted _ _ _ _ _ _ remaining =>
        dsimp only
        rw [remaining]
        omega

/-- The response reaches the host. -/
theorem answer
    (onTime : OnTime gapUs delayUs lagUs tenure) :
    Safeguarded gapUs lagUs tenure.answer.1 := by
  unfold Tenure.answer
  split
  · exact onTime.safeguarded
  rename_i call here
  split
  · exact onTime.safeguarded
  rename_i response responded
  have proper := onTime.consistent.proper call here
  have covered := onTime.safeguarded.covered
  have counts : tenure.stake? = tenure.awaited? call response := by
    unfold stake?
    rw [here]
    simp only [responded]
  rw [counts] at covered
  unfold Tenure.settle
  cases asks : call.request with
  | start requestId schedule =>
      simp only [awaited?, asks] at covered
      dsimp only
      cases taken : call.acknowledgement requestId response with
      | error raised => exact safeguarded_ended tenure
      | ok =>
          rw [taken] at covered
          refine ⟨?_, fun _ _ _ here => (by cases here)⟩
          rintro stake ⟨⟩
          refine covered _ (congrArg some ?_)
          simp [PeriodicLeaseController.started]
  | renew schedule renewal =>
      obtain ⟨held, renews⟩ := proper.renews schedule renewal asks
      simp only [awaited?, asks] at covered
      dsimp only
      cases taken : call.renewal response with
      | error raised => exact safeguarded_ended tenure
      | ok answer =>
          have matched :=
            proper.matched schedule renewal response answer asks responded taken
          dsimp only
          unfold PeriodicLeaseController.renewed
          rw [if_pos matched]
          refine ⟨?_, fun _ _ _ here => (by cases here)⟩
          intro stake counts
          simp only [stake?, held?, held, Option.map_some] at counts
          cases counts
          refine covered _ (congrArg some ?_)
          simp [renews.next]

/-- Every punctual step keeps the host on time. -/
theorem step
    (onTime : OnTime gapUs delayUs lagUs tenure)
    {input : Input}
    (punctual : Punctual gapUs delayUs lagUs (machine.event tenure input)) :
    OnTime gapUs delayUs lagUs (machine.step tenure input).1 := by
  have consistent := onTime.consistent
  have safeguarded :
      Safeguarded gapUs lagUs (machine.step tenure input).1 := by
    cases input with
    | pass elapsedUs =>
        exact ⟨onTime.safeguarded.covered, onTime.safeguarded.soon⟩
    | background event =>
        simp only [machine]
        split
        · exact onTime.device fun stake _ runs => event.runsOn runs.1
        · exact onTime.safeguarded
    | command request hardware =>
        simp only [machine]
        split
        · next foreign =>
            have ahead : ∀ stake ∈ tenure.stake?,
                RunsSchedule
                    (tenure.app.handle request.val App.responseCapacity
                      hardware).app stake.schedule →
                  RunsOn tenure.app
                    (tenure.app.handle request.val App.responseCapacity
                      hardware).app 0 :=
              fun _ counts runs => consistent.runsOn_command foreign counts runs
            exact onTime.device ahead
        · exact onTime.safeguarded
    | start requestId schedule => exact onTime.start requestId schedule
    | turn => exact onTime.turn
    | arrive hardware =>
        exact onTime.arrive (punctual.heard hardware rfl) hardware
    | answer => exact onTime.answer
    | lose raised =>
        simp only [machine, Tenure.lose]
        split
        · exact onTime.safeguarded
        · exact safeguarded_ended tenure
    | leave =>
        simp only [machine]
        split
        · exact safeguarded_ended tenure
        · exact onTime.safeguarded
  exact ⟨consistent.step input, punctual.timely, safeguarded⟩

/-- There is a stake in the schedule of the controller, and it is not old. -/
theorem recent
    (onTime : OnTime gapUs delayUs lagUs tenure)
    {schedule : PeriodicSchedule}
    (held : tenure.controller.schedule = some schedule) :
    ∃ stake ∈ tenure.stake?,
      stake.schedule = schedule ∧
        (tenure.clockUs : Int) ≤
          (stake.sinceMs + schedule.renewIntervalMs) * 1000 + gapUs +
            delayUs := by
  have timely := onTime.timely
  unfold Timely at timely
  unfold stake?
  cases here : tenure.call with
  | none =>
      rw [here] at timely
      refine ⟨⟨schedule, _, _⟩, congrArg (Option.map _) held, rfl, ?_⟩
      have early := timely (by rw [held]; rfl)
      dsimp only
      omega
  | some call =>
      rw [here] at timely
      have proper := onTime.consistent.proper call here
      rcases call.request.starts_or_renews with
        ⟨requestId, other, asks⟩ | ⟨other, renewal, asks⟩
      · cases held.symm.trans (proper.starts requestId other asks)
      obtain ⟨same, -⟩ := proper.renews other renewal asks
      cases held.symm.trans same
      cases responded : call.response with
      | none =>
          have soon :=
            onTime.safeguarded.soon call schedule renewal here responded asks
          simp only [responded] at timely ⊢
          refine ⟨⟨schedule, _, _⟩, congrArg (Option.map _) held, rfl, ?_⟩
          dsimp only
          omega
      | some response =>
          simp only [responded, asks, LeaseRequest.schedule] at timely
          refine ⟨⟨schedule, tenure.controller.leaseSequence + 1, call.nowMs⟩,
            ?_, rfl, ?_⟩
          · simp only [responded, awaited?, asks]
            rfl
          · dsimp only
            omega

end OnTime

end

/-- A lease that lasts longer than the time that passes does not expire. -/
theorem runsSchedule_advanceTime
    {app : App}
    {schedule : PeriodicSchedule}
    (runs : RunsSchedule app schedule)
    {elapsedUs : UInt32}
    (inTime : elapsedUs < app.periodic.leaseRemainingUs)
    (hardware : Hardware) :
    RunsSchedule (app.advanceTime elapsedUs hardware).app schedule := by
  obtain ⟨active, scheduleId⟩ := runs
  have lasts : (app.periodic.advance elapsedUs).2 = .ok := by
    unfold CaptureSchedule.advance
    rw [if_neg (by simp [active]), if_neg (UInt32.not_le.2 inTime)]
    dsimp only
    split_ifs <;> rfl
  unfold App.advanceTime
  rw [if_neg (by simp [active])]
  split
  · rename_i advanced expired
    rw [expired] at lasts
    cases lasts
  · rename_i advanced result _ shape
    obtain ⟨sameActivity, sameId⟩ :=
      CaptureSchedule.advance_of_ne_expired shape (by
        rw [shape] at lasts
        rw [show result = .ok from lasts]
        intro expired
        cases expired)
    exact ⟨sameActivity.trans active, sameId.trans scheduleId⟩

/--
In a run in which every renewal is called within `gapUs` of the time it is due,
every call reaches the device within `delayUs` and finds it at most `lagUs`
behind, and the three are less than 667 milliseconds together, no time the
device is told about ends the schedule of its host.
-/
theorem everyStep_lasts
    (deviceId : Id16)
    (result : Firmware.ConfigResult)
    (devStat : UInt8)
    (inputs : List Input)
    {gapUs delayUs lagUs : Nat}
    (margin : gapUs + delayUs + lagUs < 667000)
    (punctual :
      EveryStep (fun _ event => Punctual gapUs delayUs lagUs event)
        (machine.trace (boot deviceId result devStat) inputs)) :
    EveryStep
      (fun _ event =>
        ∀ elapsedUs hardware schedule,
          event.input = .background (.advanceTime elapsedUs hardware) →
            event.source.controller.schedule = some schedule →
              RunsSchedule event.source.app schedule →
                RunsSchedule event.target.app schedule)
      (machine.trace (boot deviceId result devStat) inputs) := by
  have begun : OnTime gapUs delayUs lagUs (boot deviceId result devStat) :=
    ⟨consistent_boot deviceId result devStat, fun held => (by cases held),
      ⟨fun _ counts => (by cases counts), fun _ _ _ here => (by cases here)⟩⟩
  refine machine.everyStep_of_invariant
    (fun _ tenure => OnTime gapUs delayUs lagUs tenure) begun
    (fun _ _ _ onTime punctual => onTime.step punctual) ?_ inputs punctual
  intro _ tenure input onTime _ elapsedUs hardware schedule passes held runs
  obtain rfl : input = .background (.advanceTime elapsedUs hardware) := passes
  have held : tenure.controller.schedule = some schedule := held
  have runs : RunsSchedule tenure.app schedule := runs
  show RunsSchedule
    (machine.step tenure (.background (.advanceTime elapsedUs hardware))).1.app
    schedule
  simp only [machine]
  split
  swap
  · exact runs
  rename_i told
  obtain ⟨stake, counts, rfl, recent⟩ := onTime.recent held
  have covered := onTime.safeguarded.covered stake counts runs
  have spare :=
    stake.schedule.renewIntervalMs_lt (onTime.consistent.valid _ held)
  refine runsSchedule_advanceTime runs (UInt32.lt_iff_toNat_lt.2 ?_) hardware
  simp only [Tenure.elapsedUs] at told
  omega

/-- A session whose first renewal comes in time. -/
def promptSession : List Input :=
  let config := (boot (.replicate 16 1) .ok 8).app.config
  let schedule : PeriodicSchedule := {
    bootId := Firmware.bootIdDerive (.replicate 16 1) (.replicate 16 7)
    scheduleId := .replicate 16 9
    profileSha256 := config.profileSha256
    deviceConfigCrc32 := config.deviceConfigCrc32
    periodUs := 200000
    captureCount := 0
    leaseTimeoutMs := 1000 }
  [.command
      ⟨Firmware.Request.helloFrame 1 (.replicate 16 7),
        Firmware.Request.helloFrame_accepted 1 _⟩ .nominal,
    .start (.replicate 16 3) schedule,
    .pass 10000,
    .background (.advanceTime 10000 .nominal),
    .arrive .nominal,
    .answer,
    .pass 400000,
    .background (.advanceTime 400000 .nominal),
    .turn,
    .pass 1000,
    .arrive .nominal,
    .answer,
    .pass 300000,
    .background (.advanceTime 300000 .nominal)]

set_option maxRecDepth 100000 in
theorem everyStep_lasts_promptSession :
    EveryStep
        (fun _ event =>
          ∀ elapsedUs hardware schedule,
            event.input = .background (.advanceTime elapsedUs hardware) →
              event.source.controller.schedule = some schedule →
                RunsSchedule event.source.app schedule →
                  RunsSchedule event.target.app schedule)
        (machine.trace (boot (.replicate 16 1) .ok 8) promptSession) ∧
      (machine.after (boot (.replicate 16 1) .ok 8)
        promptSession).app.periodic.leaseRemainingUs = 700000 :=
  ⟨everyStep_lasts (.replicate 16 1) .ok 8 promptSession
      (show 100000 + 50000 + 10000 < 667000 by decide) (by decide +kernel),
    by decide +kernel⟩

end Tenure

end Usac.Link
