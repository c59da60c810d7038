import Usac.Link.LeaseDelivery

namespace Usac.Link

open Library
open Firmware (App Hardware Id16)
open Host (LeaseError LeaseRenewal PeriodicLeaseController PeriodicSchedule
  Raised bind_eq_ok require_eq_ok)

/-!
# The host and the device agree on a lease

The device runs the schedule the controller holds in its session and under the
sequence the controller expects. So it takes every renewal that finds the
schedule running, and the controller takes every answer.
-/

/-- What the host counts on: the schedule, the sequence of its last renewal, and
when that was called. -/
structure Stake where
  schedule : PeriodicSchedule
  sequence : Nat
  sinceMs : Int

namespace Stake

/-- The device runs the schedule in its session and under its sequence. -/
def Agreed (stake : Stake) (app : App) : Prop :=
  RunsSchedule app stake.schedule →
    app.bootId = stake.schedule.bootId ∧
      app.periodic.leaseSequence.toNat = stake.sequence

/-- A schedule that runs on is agreed on. -/
theorem Agreed.runsOn
    {stake : Stake}
    {app next : App}
    {elapsedUs : Nat}
    (agreed : stake.Agreed app)
    (ahead : RunsSchedule next stake.schedule → RunsOn app next elapsedUs) :
    stake.Agreed next := by
  intro runs
  have on := ahead runs
  rw [on.bootId, on.sequence]
  exact agreed ⟨on.active, on.scheduleId.symm.trans runs.2⟩

end Stake

namespace Tenure

/-- What the controller counts on between two calls. -/
def held? (tenure : Tenure) : Option Stake :=
  tenure.controller.schedule.map fun schedule =>
    { schedule := schedule
      sequence := tenure.controller.leaseSequence
      sinceMs := tenure.controller.nextRenewalMs - schedule.renewIntervalMs }

/-- What it will count on when the response to its call arrives. -/
def awaited?
    (tenure : Tenure)
    (call : LeaseCall)
    (response : Option (List UInt8)) :
    Option Stake :=
  match call.request with
  | .start requestId schedule =>
      match call.acknowledgement requestId response with
      | .ok () => some ⟨schedule, 0, call.nowMs⟩
      | .error _ => none
  | .renew schedule _ =>
      some ⟨schedule, tenure.controller.leaseSequence + 1, call.nowMs⟩

/-- What the host counts on. -/
def stake? (tenure : Tenure) : Option Stake :=
  match tenure.call with
  | none => tenure.held?
  | some call =>
      match call.response with
      | none => tenure.held?
      | some response => tenure.awaited? call response

/-- A call that is under way, as the controller has made it. -/
structure Proper (tenure : Tenure) (call : LeaseCall) : Prop where
  valid : call.request.schedule.validate = .ok ()
  encoded : call.request.request.payload = .ok call.payload
  starts : ∀ requestId schedule, call.request = .start requestId schedule →
    tenure.controller.schedule = none
  renews : ∀ schedule renewal, call.request = .renew schedule renewal →
    tenure.controller.schedule = some schedule ∧
      Renews schedule tenure.controller.leaseSequence renewal
  matched : ∀ schedule renewal response answer,
    call.request = .renew schedule renewal → call.response = some response →
      call.renewal response = .ok answer → renewal.isMatchedBy answer = true
  called : call.nowMs * 1000 ≤ call.calledUs ∧ call.calledUs ≤ tenure.clockUs

/-- The host and the device agree on the schedule of the host. -/
structure Consistent (tenure : Tenure) : Prop where
  opened : tenure.app.ScheduleOpen
  named : SessionNamed tenure.app
  told : tenure.toldUs ≤ tenure.clockUs
  valid : ∀ schedule ∈ tenure.controller.schedule, schedule.validate = .ok ()
  proper : ∀ call ∈ tenure.call, tenure.Proper call
  agreed : ∀ stake ∈ tenure.stake?, stake.Agreed tenure.app

/-- The host names what it counts on. -/
theorem names_of_stake
    {tenure : Tenure}
    {stake : Stake}
    (counts : stake ∈ tenure.stake?) :
    tenure.Names stake.schedule.scheduleId := by
  have held (stake : Stake) (counts : stake ∈ tenure.held?) :
      tenure.Names stake.schedule.scheduleId := by
    obtain ⟨schedule, here, rfl⟩ := Option.map_eq_some_iff.1 counts
    exact .inl ⟨schedule, here, rfl⟩
  unfold stake? at counts
  split at counts
  · exact held stake counts
  · rename_i call here
    split at counts
    · exact held stake counts
    · refine .inr ⟨call, here, ?_⟩
      unfold awaited? at counts
      split at counts
      · rename_i asks
        split at counts
        · cases counts
          rw [asks]
          rfl
        · cases counts
      · rename_i asks
        cases counts
        rw [asks]
        rfl

/-- What `start` has checked. -/
theorem valid_of_checkStart
    {schedule : PeriodicSchedule}
    {nowMs : Int}
    (checked :
      PeriodicLeaseController.init.checkStart schedule nowMs = .ok ()) :
    schedule.validate = .ok () := by
  unfold PeriodicLeaseController.checkStart at checked
  cases validated : schedule.validate with
  | error raised =>
      rw [validated] at checked
      cases checked
  | ok => rfl

/-- What the controller renews. -/
theorem renews_of_nextRenewal
    {controller : PeriodicLeaseController}
    {schedule : PeriodicSchedule}
    {renewal : LeaseRenewal}
    (next : controller.nextRenewal schedule = .ok renewal) :
    Renews schedule controller.leaseSequence renewal := by
  obtain ⟨⟨⟩, fits, next⟩ := bind_eq_ok.1 next
  cases next
  refine ⟨rfl, rfl, ?_, rfl⟩
  exact Nat.mod_eq_of_lt (require_eq_ok.1 fits)

namespace Consistent

variable {tenure : Tenure}

/-- The firmware goes on, and a schedule the host counts on runs on. -/
theorem device
    (consistent : tenure.Consistent)
    {next : App}
    {elapsedUs : Nat}
    (opened : next.ScheduleOpen)
    (named : SessionNamed next)
    (told : tenure.toldUs + elapsedUs ≤ tenure.clockUs)
    (ahead : ∀ stake ∈ tenure.stake?, RunsSchedule next stake.schedule →
      RunsOn tenure.app next elapsedUs) :
    Consistent
      { tenure with app := next, toldUs := tenure.toldUs + elapsedUs } where
  opened := opened
  named := named
  told := told
  valid := consistent.valid
  proper call here :=
    have proper := consistent.proper call here
    ⟨proper.valid, proper.encoded, proper.starts, proper.renews,
      proper.matched, proper.called⟩
  agreed stake counts :=
    (consistent.agreed stake counts).runsOn (ahead stake counts)

/-- A worker that ends leaves nothing to agree on. -/
theorem ended (consistent : tenure.Consistent) : tenure.ended.Consistent where
  opened := consistent.opened
  named := consistent.named
  told := consistent.told
  valid _ here := by cases here
  proper _ here := by cases here
  agreed _ counts := by cases counts

/-- The number of the last frame does not matter. -/
theorem numbered
    (consistent : tenure.Consistent)
    (sequence : UInt32) :
    Consistent { tenure with sequence := sequence } where
  opened := consistent.opened
  named := consistent.named
  told := consistent.told
  valid := consistent.valid
  proper call here :=
    have proper := consistent.proper call here
    ⟨proper.valid, proper.encoded, proper.starts, proper.renews,
      proper.matched, proper.called⟩
  agreed := consistent.agreed

/-- Time passes. -/
theorem pass
    (consistent : tenure.Consistent)
    (elapsedUs : Nat) :
    Consistent { tenure with clockUs := tenure.clockUs + elapsedUs } where
  opened := consistent.opened
  named := consistent.named
  told := Nat.le_add_right_of_le consistent.told
  valid := consistent.valid
  proper call here :=
    have proper := consistent.proper call here
    ⟨proper.valid, proper.encoded, proper.starts, proper.renews,
      proper.matched, proper.called.1,
      Nat.le_add_right_of_le proper.called.2⟩
  agreed := consistent.agreed

/-- An event of the firmware. -/
theorem background
    (consistent : tenure.Consistent)
    (event : Background)
    (told : tenure.toldUs + elapsedUs event ≤ tenure.clockUs) :
    Consistent
      { tenure with
        app := event.perform tenure.app
        toldUs := tenure.toldUs + elapsedUs event } := by
  refine consistent.device ?_ (event.sessionNamed consistent.named) told
    fun stake _ runs => event.runsOn runs.1
  exact event.scheduleOpen consistent.opened

/-- Another command leaves a schedule the host counts on alone, or ends it. -/
theorem runsOn_command
    (consistent : tenure.Consistent)
    {request : Firmware.Mcu.FrameView}
    (foreign : tenure.Foreign request)
    {hardware : Hardware}
    {stake : Stake}
    (counts : stake ∈ tenure.stake?)
    (runs :
      RunsSchedule
        (tenure.app.handle request App.responseCapacity hardware).app
        stake.schedule) :
    RunsOn tenure.app
      (tenure.app.handle request App.responseCapacity hardware).app 0 :=
  runsOn_handle consistent.named consistent.opened runs.1 fun names same =>
    foreign names (by
      rw [same, runs.2]
      exact names_of_stake counts)

/-- Another command. -/
theorem command
    (consistent : tenure.Consistent)
    {request : Firmware.Mcu.FrameView}
    (foreign : tenure.Foreign request)
    (hardware : Hardware) :
    Consistent
      { tenure with
        app := (tenure.app.handle request App.responseCapacity hardware).app } :=
  consistent.device
    (consistent.opened.handleEffect (App.handle_effect _ _ hardware))
    (sessionNamed_handle consistent.named request hardware) consistent.told
    fun _ counts runs => consistent.runsOn_command foreign counts runs

/-- What a call is sent for. -/
theorem send
    (consistent : tenure.Consistent)
    (idle : tenure.call = none)
    {request : LeaseRequest}
    (valid : request.schedule.validate = .ok ())
    (starts : ∀ requestId schedule, request = .start requestId schedule →
      tenure.controller.schedule = none)
    (renews : ∀ schedule renewal, request = .renew schedule renewal →
      tenure.controller.schedule = some schedule ∧
        Renews schedule tenure.controller.leaseSequence renewal) :
    (tenure.send request).1.Consistent := by
  unfold Tenure.send
  cases encoded : request.request.payload with
  | error raised => exact consistent.ended.numbered _
  | ok payload =>
      have agreed := consistent.agreed
      unfold stake? at agreed
      rw [idle] at agreed
      exact {
        opened := consistent.opened
        named := consistent.named
        told := consistent.told
        valid := consistent.valid
        proper := by
          rintro call ⟨⟩
          exact {
            valid := valid
            encoded := encoded
            starts := starts
            renews := renews
            matched := fun _ _ _ _ _ responded => by cases responded
            called := ⟨Nat.div_mul_le_self _ _, Nat.le_refl _⟩ }
        agreed := agreed }

/-- A new session. -/
theorem start
    (consistent : tenure.Consistent)
    (requestId : Bytes 16)
    (schedule : PeriodicSchedule) :
    (tenure.start requestId schedule).1.Consistent := by
  unfold Tenure.start
  split
  swap
  · exact consistent
  rename_i free
  cases checked :
      PeriodicLeaseController.init.checkStart schedule tenure.nowMs with
  | error error => exact consistent
  | ok =>
      have idle : tenure.call = none := Option.isNone_iff_eq_none.1 free.1
      have fresh :
          Consistent { tenure with controller := .init } := by
        refine ⟨consistent.opened, consistent.named, consistent.told,
          fun _ here => (by cases here), fun call here => ?_,
          fun _ counts => ?_⟩
        · cases idle.symm.trans here
        · unfold stake? at counts
          rw [idle] at counts
          cases counts
      refine fresh.send idle (valid_of_checkStart checked) (fun _ _ _ => rfl) ?_
      rintro _ _ ⟨⟩

/-- A turn of the worker. -/
theorem turn (consistent : tenure.Consistent) : tenure.turn.1.Consistent := by
  unfold Tenure.turn
  split
  · exact consistent
  rename_i idle
  split
  · exact consistent
  rename_i schedule due
  have held : tenure.controller.schedule = some schedule :=
    (Option.filter_eq_some_iff.1 due).1
  cases next : tenure.controller.nextRenewal schedule with
  | error raised => exact consistent.ended
  | ok renewal =>
      refine consistent.send idle (consistent.valid schedule held) ?_ ?_
      · rintro _ _ ⟨⟩
      · rintro _ _ ⟨⟩
        exact ⟨held, renews_of_nextRenewal next⟩

/-- The call reaches the device. -/
theorem arrive
    (consistent : tenure.Consistent)
    (hardware : Hardware) :
    (tenure.arrive hardware).Consistent := by
  unfold Tenure.arrive
  split
  · exact consistent
  rename_i call here
  split
  swap
  · exact consistent
  rename_i reaches
  obtain ⟨unanswered, admitted⟩ := reaches
  have unanswered : call.response = none :=
    Option.isNone_iff_eq_none.1 unanswered
  have proper := consistent.proper call here
  have counts : tenure.stake? = tenure.held? := by
    unfold stake?
    rw [here]
    simp only [unanswered]
  have delivered :=
    deliver_session consistent.opened consistent.named call.frame hardware
  rcases call.request.starts_or_renews with
    ⟨requestId, schedule, asks⟩ | ⟨schedule, renewal, asks⟩
  · have valid : schedule.validate = .ok () := by
      have valid := proper.valid
      rw [asks] at valid
      exact valid
    have names : schedule.bootId = tenure.app.bootId := by
      rw [asks] at admitted
      exact admitted
    have started := fun taken =>
      @deliver_start tenure.app requestId schedule call hardware asks
        proper.encoded valid taken
    generalize
      Exchange.deliver ⟨[], hardware⟩ tenure.app call.frame = delivery at *
    obtain ⟨next, response⟩ := delivery
    refine ⟨delivered.1, delivered.2, consistent.told, consistent.valid,
      ?_, ?_⟩
    · rintro _ ⟨⟩
      refine ⟨proper.valid, proper.encoded, proper.starts, proper.renews,
        ?_, proper.called⟩
      intro _ _ _ _ renews
      cases asks.symm.trans renews
    · intro stake counts
      simp only [stake?, awaited?, asks] at counts
      split at counts
      · rename_i taken
        cases counts
        obtain ⟨bootId, first, -⟩ := started taken
        exact fun _ => ⟨bootId.trans names.symm, congrArg UInt32.toNat first⟩
      · cases counts
  · obtain ⟨held, renews⟩ := proper.renews schedule renewal asks
    have valid := consistent.valid schedule held
    have agreed := consistent.agreed ⟨schedule, _, _⟩
      (counts.trans (congrArg (Option.map _) held))
    have outcome :=
      deliver_renewal consistent.opened asks proper.encoded renews valid
        agreed hardware
    generalize
      Exchange.deliver ⟨[], hardware⟩ tenure.app call.frame = delivery at *
    refine ⟨delivered.1, delivered.2, consistent.told, consistent.valid,
      ?_, ?_⟩
    · rintro _ ⟨⟩
      refine ⟨proper.valid, proper.encoded, proper.starts, proper.renews,
        ?_, proper.called⟩
      intro _ _ response answer renews responded taken
      cases asks.symm.trans renews
      cases responded
      cases outcome with
      | refused response idle raises => exact absurd taken (raises answer)
      | restarted _ response _ _ _ _ _ matched =>
          exact matched answer taken
    · intro stake counts runs
      simp only [stake?, awaited?, asks] at counts
      cases counts
      cases outcome with
      | refused response idle raises => exact absurd runs idle
      | restarted _ _ before _ bootId sequence =>
          refine ⟨bootId.trans (agreed before).1, ?_⟩
          rw [sequence]
          exact renews.next

/-- The response reaches the host. -/
theorem answer
    (consistent : tenure.Consistent) :
    tenure.answer.1.Consistent := by
  unfold Tenure.answer
  split
  · exact consistent
  rename_i call here
  split
  · exact consistent
  rename_i response responded
  have proper := consistent.proper call here
  have counts : tenure.stake? = tenure.awaited? call response := by
    unfold stake?
    rw [here]
    simp only [responded]
  have agreed := consistent.agreed
  rw [counts] at agreed
  unfold Tenure.settle
  cases asks : call.request with
  | start requestId schedule =>
      simp only [awaited?, asks] at agreed
      dsimp only
      cases taken : call.acknowledgement requestId response with
      | error raised => exact consistent.ended
      | ok =>
          rw [taken] at agreed
          have valid : schedule.validate = .ok () := by
            have valid := proper.valid
            rw [asks] at valid
            exact valid
          refine ⟨consistent.opened, consistent.named, consistent.told,
            ?_, fun _ here => (by cases here), ?_⟩
          · rintro _ ⟨⟩
            exact valid
          · rintro stake ⟨⟩
            refine agreed _ (congrArg some ?_)
            simp [PeriodicLeaseController.started]
  | renew schedule renewal =>
      obtain ⟨held, renews⟩ := proper.renews schedule renewal asks
      simp only [awaited?, asks] at agreed
      dsimp only
      cases taken : call.renewal response with
      | error raised => exact consistent.ended
      | ok answer =>
          have matched :=
            proper.matched schedule renewal response answer asks responded taken
          dsimp only
          unfold PeriodicLeaseController.renewed
          rw [if_pos matched]
          refine ⟨consistent.opened, consistent.named, consistent.told,
            consistent.valid, fun _ here => (by cases here), ?_⟩
          intro stake counts
          simp only [stake?, held?, held, Option.map_some] at counts
          cases counts
          refine agreed _ (congrArg some ?_)
          simp [renews.next]

/-- Every step keeps the host and the device in agreement. -/
theorem step
    (consistent : tenure.Consistent)
    (input : Input) :
    (machine.step tenure input).1.Consistent := by
  cases input with
  | pass elapsedUs => exact consistent.pass elapsedUs
  | background event =>
      simp only [machine]
      split
      · next told => exact consistent.background event told
      · exact consistent
  | command request hardware =>
      simp only [machine]
      split
      · next foreign => exact consistent.command foreign hardware
      · exact consistent
  | start requestId schedule => exact consistent.start requestId schedule
  | turn => exact consistent.turn
  | arrive hardware => exact consistent.arrive hardware
  | answer => exact consistent.answer
  | lose raised =>
      simp only [machine, Tenure.lose]
      split
      · exact consistent
      · exact consistent.ended
  | leave =>
      simp only [machine]
      split
      · exact consistent.ended
      · exact consistent

end Consistent

/-! ## Runs -/

/-- A step by which the host and the device understand each other. Between two
calls they agree on a schedule the device still runs. A renewal that finds it
running restarts its lease, and no answer is a conflict. -/
structure Understands
    (event : Event Tenure Input Shown) :
    Prop where
  agreed : ∀ schedule,
    event.target.call = none →
      event.target.controller.schedule = some schedule →
        RunsSchedule event.target.app schedule →
          event.target.app.bootId = schedule.bootId ∧
            event.target.app.periodic.leaseSequence.toNat =
              event.target.controller.leaseSequence
  restarted : ∀ call schedule renewal hardware,
    event.source.call = some call → call.response = none →
      call.request = .renew schedule renewal →
        event.input = .arrive hardware →
          RunsSchedule event.source.app schedule →
            RunsSchedule event.target.app schedule ∧
              event.target.app.periodic.leaseSequence =
                renewal.leaseSequence ∧
              event.target.app.periodic.leaseRemainingUs.toNat =
                schedule.leaseTimeoutMs.toNat * 1000
  unmistaken : event.output.isConflict = false

/-- What a call that raises is told is no conflict. -/
theorem isConflict_raises
    (raised : Raised)
    (request : LeaseRequest) :
    (raises (.raised raised) request).isConflict = false := by
  cases request <;> rfl

/-- Sending tells of no conflict. -/
theorem isConflict_send
    (tenure : Tenure)
    (request : LeaseRequest) :
    (tenure.send request).2.isConflict = false := by
  unfold send
  split
  · exact isConflict_raises _ request
  · rfl

/-- A new session has no other schedule. -/
theorem checkStart_ne_conflict
    (schedule : PeriodicSchedule)
    (nowMs : Int)
    (text : String) :
    PeriodicLeaseController.init.checkStart schedule nowMs ≠
      .error (.conflict text) := by
  intro conflict
  unfold PeriodicLeaseController.checkStart at conflict
  cases validated : schedule.validate with
  | error raised =>
      rw [validated] at conflict
      cases conflict
  | ok =>
      rw [validated] at conflict
      by_cases negative : nowMs < 0
      · simp [Except.mapError, PeriodicLeaseController.init, negative, throw,
          throwThe, MonadExceptOf.throw, bind, Except.bind] at conflict
      · simp [Except.mapError, PeriodicLeaseController.init, negative, bind,
          Except.bind, pure, Except.pure] at conflict

/-- No answer is a conflict. -/
theorem Consistent.isConflict_answer
    {tenure : Tenure}
    (consistent : tenure.Consistent) :
    tenure.answer.2.isConflict = false := by
  unfold Tenure.answer
  split
  · rfl
  rename_i call here
  split
  · rfl
  rename_i response responded
  unfold settle
  rcases call.request.starts_or_renews with
    ⟨requestId, schedule, asks⟩ | ⟨schedule, renewal, asks⟩
  · simp only [asks]
    split <;> rfl
  · simp only [asks]
    cases taken : call.renewal response with
    | error raised => rfl
    | ok answer =>
        have matched :=
          (consistent.proper call here).matched schedule renewal response
            answer asks responded taken
        dsimp only
        unfold PeriodicLeaseController.renewed
        rw [if_pos matched]
        rfl

/-- A renewal that finds its schedule running restarts the lease. -/
theorem Consistent.restarts
    {tenure : Tenure}
    (consistent : tenure.Consistent)
    {call : LeaseCall}
    {schedule : PeriodicSchedule}
    {renewal : LeaseRenewal}
    (here : tenure.call = some call)
    (unanswered : call.response = none)
    (asks : call.request = .renew schedule renewal)
    (runs : RunsSchedule tenure.app schedule)
    (hardware : Hardware) :
    let next := (tenure.arrive hardware).app
    RunsSchedule next schedule ∧
      next.periodic.leaseSequence = renewal.leaseSequence ∧
      next.periodic.leaseRemainingUs.toNat =
        schedule.leaseTimeoutMs.toNat * 1000 := by
  have proper := consistent.proper call here
  obtain ⟨held, renews⟩ := proper.renews schedule renewal asks
  have counts : tenure.stake? = tenure.held? := by
    unfold stake?
    rw [here]
    simp only [unanswered]
  have agreed := consistent.agreed ⟨schedule, _, _⟩
    (counts.trans (congrArg (Option.map _) held))
  have outcome :=
    deliver_renewal consistent.opened asks proper.encoded renews
      (consistent.valid schedule held) agreed hardware
  have admitted : tenure.Admitted call.request := by
    rw [asks]
    trivial
  have next :
      (tenure.arrive hardware).app =
        (Exchange.deliver ⟨[], hardware⟩ tenure.app call.frame).1 := by
    unfold Tenure.arrive
    rw [here]
    simp only [unanswered, admitted, Option.isNone_none, and_self, if_true]
  rw [next]
  generalize
    Exchange.deliver ⟨[], hardware⟩ tenure.app call.frame = delivery at outcome
  cases outcome with
  | refused response idle raises => exact absurd runs idle
  | restarted _ _ _ still _ sequence remaining =>
      exact ⟨still, sequence, remaining⟩

/-- Every step of a consistent tenure is understood. -/
theorem Consistent.understands
    {tenure : Tenure}
    (consistent : tenure.Consistent)
    (input : Input) :
    Understands (machine.event tenure input) where
  agreed schedule idle held runs := by
    have next := (consistent.step input).agreed
    have counts :
        (machine.event tenure input).target.stake? =
          (machine.event tenure input).target.held? := by
      unfold stake?
      rw [idle]
    have agreed := next ⟨schedule, _, _⟩
      (counts.trans (congrArg (Option.map _) held))
    exact agreed runs
  restarted call schedule renewal hardware here unanswered asks arrives
      runs := by
    obtain rfl : input = .arrive hardware := arrives
    exact consistent.restarts here unanswered asks runs hardware
  unmistaken := by
    show (machine.step tenure input).2.isConflict = false
    cases input with
    | pass | arrive | leave => rfl
    | background | command =>
        simp only [machine]
        split <;> rfl
    | start requestId schedule =>
        simp only [machine, Tenure.start]
        split
        · cases checked :
              PeriodicLeaseController.init.checkStart schedule
                tenure.nowMs with
          | error error =>
              cases error with
              | conflict text =>
                  exact absurd checked (checkStart_ne_conflict _ _ text)
              | raised => rfl
          | ok => exact isConflict_send _ _
        · rfl
    | turn =>
        simp only [machine, Tenure.turn]
        split
        · rfl
        split
        · rfl
        rename_i schedule due
        cases tenure.controller.nextRenewal schedule with
        | error raised => rfl
        | ok renewal => exact isConflict_send _ _
    | answer => exact consistent.isConflict_answer
    | lose raised =>
        simp only [machine, Tenure.lose]
        split
        · rfl
        · exact isConflict_raises _ _

/-- A host without a session agrees with a device that has just started. -/
theorem consistent_boot
    (deviceId : Id16)
    (result : Firmware.ConfigResult)
    (devStat : UInt8) :
    (boot deviceId result devStat).Consistent where
  opened active := Bool.noConfusion active
  named established := Bool.noConfusion established
  told := Nat.le_refl 0
  valid _ here := by cases here
  proper _ here := by cases here
  agreed _ counts := by cases counts

/--
Whatever happens to the host and to the device, and whenever: between two calls
they agree on the session and the sequence of the schedule both have, a renewal
that finds it running is granted in full, and no answer of the device conflicts
with the renewal it is for.
-/
theorem everyStep_understands
    (deviceId : Id16)
    (result : Firmware.ConfigResult)
    (devStat : UInt8)
    (inputs : List Input) :
    EveryStep (fun _ event => Understands event)
      (machine.trace (boot deviceId result devStat) inputs) :=
  machine.everyStep_of_invariant (fun _ tenure => tenure.Consistent)
    (consistent_boot deviceId result devStat)
    (fun _ _ input consistent _ => consistent.step input)
    (fun _ _ input consistent (_ : True) => consistent.understands input)
    inputs fun _ _ _ _ => trivial

end Tenure

end Usac.Link
