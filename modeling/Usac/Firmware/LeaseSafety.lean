import Usac.Firmware.ClockLatch
import Usac.Firmware.ScheduleBinding

namespace Usac.Firmware

open Library

/-!
# The lease of a schedule

A schedule runs on a lease. A START_PERIODIC grants it, a renewal with a larger
sequence restarts it, and passing time uses it up. The lease of a history is
read off the commands the device acknowledged and the time it was told about,
never off the counter of the schedule itself, so that the counter can be held
against it.
-/

namespace App

/-- The time a schedule may run without hearing from its host. -/
structure Lease where
  scheduleId : Id16
  sequence : UInt32
  timeoutUs : Nat
  elapsedUs : Nat
  secured : Bool
  deriving DecidableEq

/-- The response is a frame of the given type. -/
def answeredWith
    (response : Option (List UInt8))
    (messageType : UInt8) :
    Bool :=
  response.any fun frame => byteAt frame 5 == messageType

/-- The operation ends the running schedule and forces the hardware safe. -/
def securesSchedule (operation : Operation) : Bool :=
  operation.source.periodic.active && !operation.target.periodic.active &&
    operation.output.calls.any fun invocation =>
      invocation.call.isForceSafe

namespace Lease

/-- There is time left on the lease. -/
def Live (lease : Lease) : Prop :=
  lease.elapsedUs < lease.timeoutUs

instance (lease : Lease) : Decidable lease.Live :=
  inferInstanceAs (Decidable (lease.elapsedUs < lease.timeoutUs))

/-- The lease a START_PERIODIC asks for. -/
def requested (request : Mcu.FrameView) : Lease where
  scheduleId := slice request.payload 16 16
  sequence := 0
  timeoutUs := (readU32 request.payload 76).toNat * 1000
  elapsedUs := 0
  secured := false

/-- The request renews the lease: it names the schedule of the lease, goes
beyond the last sequence, and comes in time. -/
def Renews (lease : Lease) (request : Mcu.FrameView) : Prop :=
  request.messageType = Message.renewPeriodicLease ∧
    slice request.payload 16 16 = lease.scheduleId ∧
      lease.sequence < readU32 request.payload 32 ∧ lease.Live

instance (lease : Lease) (request : Mcu.FrameView) :
    Decidable (lease.Renews request) :=
  inferInstanceAs
    (Decidable
      (request.messageType = Message.renewPeriodicLease ∧
        slice request.payload 16 16 = lease.scheduleId ∧
          lease.sequence < readU32 request.payload 32 ∧ lease.Live))

/-- The lease a renewal restarts. -/
def renewed (lease : Lease) (request : Mcu.FrameView) : Lease :=
  { lease with
    sequence := readU32 request.payload 32
    timeoutUs := (readU32 request.payload 36).toNat * 1000
    elapsedUs := 0 }

/-- The lease after an operation that grants no other. -/
def after (lease : Lease) (operation : Operation) : Lease :=
  match operation.input with
  | .handle request _ =>
      if lease.Renews request.val ∧
          answeredWith operation.output.response
            Message.renewPeriodicLease = true then
        lease.renewed request.val
      else
        lease
  | .advanceTime elapsedUs _ =>
      { lease with elapsedUs := lease.elapsedUs + elapsedUs.toNat }
  | _ => lease

/-- The lease with a note of the operation that ended its schedule. -/
def noting (lease : Lease) (operation : Operation) : Lease :=
  { lease with secured := lease.secured || securesSchedule operation }

end Lease

/-- The lease an operation grants: that of an acknowledged START_PERIODIC. -/
def grantedBy? (operation : Operation) : Option Lease :=
  match operation.input with
  | .handle request _ =>
      if request.val.messageType = Message.startPeriodic ∧
          answeredWith operation.output.response Message.ack = true then
        some (Lease.requested request.val)
      else
        none
  | _ => none

/-- The last lease granted, after one more operation. -/
def leaseAfter
    (lease? : Option Lease)
    (operation : Operation) :
    Option Lease :=
  (grantedBy? operation).or
    (lease?.map fun lease => (lease.after operation).noting operation)

/-- The last lease granted in a history, with the time used up since. -/
def leaseOf? (history : List Operation) : Option Lease :=
  history.foldl leaseAfter none

/-- No schedule captures without time left on its lease. When the time is used
up the schedule has ended with the hardware forced safe, and only another
START_PERIODIC grants more: a renewal that does not renew the running lease
changes neither the lease nor the schedule. -/
structure KeepsLease
    (earlier : List Operation)
    (operation : Operation) :
    Prop where
  captures :
    ∀ hardware,
      operation.input = .runPeriodicCapture hardware →
      ∀ invocation ∈ operation.output.calls,
        invocation.call.isCapture = true →
        operation.source.periodic.active = true ∧
          ∃ lease ∈ leaseOf? earlier,
            lease.scheduleId = operation.source.periodic.scheduleId ∧
              lease.Live
  expires :
    ∀ lease ∈ leaseOf? (earlier ++ [operation]),
      ¬lease.Live →
        operation.target.periodic.active = false ∧ lease.secured = true
  final :
    ∀ lease ∈ leaseOf? earlier,
      ¬lease.Live →
        grantedBy? operation = none →
          ∃ expired ∈ leaseOf? (earlier ++ [operation]), ¬expired.Live
  unextended :
    ∀ request hardware,
      operation.input = .handle request hardware →
      request.val.messageType = Message.renewPeriodicLease →
      (∀ lease ∈ leaseOf? earlier,
        operation.source.periodic.active = true →
          ¬lease.Renews request.val) →
        operation.target.periodic = operation.source.periodic ∧
          leaseOf? (earlier ++ [operation]) = leaseOf? earlier

/-- The lease after one more operation. -/
theorem leaseOf?_concat
    (history : List Operation)
    (operation : Operation) :
    leaseOf? (history ++ [operation]) =
      leaseAfter (leaseOf? history) operation := by
  simp [leaseOf?]

/-- The schedule runs on the lease and has no more time than it. -/
structure Lease.Runs (lease : Lease) (schedule : CaptureSchedule) : Prop where
  scheduleId : lease.scheduleId = schedule.scheduleId
  sequence : lease.sequence = schedule.leaseSequence
  remaining : 0 < schedule.leaseRemainingUs.toNat
  within :
    schedule.leaseRemainingUs.toNat + lease.elapsedUs ≤ lease.timeoutUs

/-- A schedule that runs on a lease has time left on it. -/
theorem Lease.Runs.live
    {lease : Lease}
    {schedule : CaptureSchedule}
    (runs : lease.Runs schedule) :
    lease.Live := by
  have remaining := runs.remaining
  have within := runs.within
  unfold Live
  omega

/-- What one operation does to the lease and the schedule. -/
inductive LeaseStep (operation : Operation) : Prop where
  | granted
      (lease : Lease)
      (grants : grantedBy? operation = some lease)
      (active : operation.target.periodic.active = true)
      (runs : lease.Runs operation.target.periodic)
  | ended
      (grantless : grantedBy? operation = none)
      (inactive : operation.target.periodic.active = false)
      (secures :
        operation.source.periodic.active = true →
          securesSchedule operation = true)
  | running
      (grantless : grantedBy? operation = none)
      (active : operation.source.periodic.active = true)
      (still : operation.target.periodic.active = true)
      (runs :
        ∀ lease : Lease,
          lease.Runs operation.source.periodic →
            (lease.after operation).Runs operation.target.periodic)

/-- The schedule runs on the last lease granted, or has been ended. -/
structure LeaseInvariant (history : List Operation) (app : App) : Prop where
  running :
    app.periodic.active = true →
      ∃ lease ∈ leaseOf? history, lease.Runs app.periodic
  ended :
    app.periodic.active = false →
      ∀ lease ∈ leaseOf? history, lease.secured = true

/-- What is noted of an operation leaves the time of the lease alone. -/
theorem Lease.Runs.noting
    {lease : Lease}
    {schedule : CaptureSchedule}
    (runs : lease.Runs schedule)
    (operation : Operation) :
    (lease.noting operation).Runs schedule :=
  ⟨runs.scheduleId, runs.sequence, runs.remaining, runs.within⟩

/-- No operation forgets that the schedule of a lease has ended. -/
@[simp] theorem Lease.after_secured
    (lease : Lease)
    (operation : Operation) :
    (lease.after operation).secured = lease.secured := by
  unfold after
  split
  · split_ifs <;> rfl
  · rfl
  · rfl

/-- An operation takes the invariant along. -/
theorem LeaseStep.invariant
    {history : List Operation}
    {operation : Operation}
    (step : LeaseStep operation)
    (invariant : LeaseInvariant history operation.source) :
    LeaseInvariant (history ++ [operation]) operation.target := by
  cases step with
  | granted lease grants active runs =>
      constructor
      · intro _
        refine ⟨lease, ?_, runs⟩
        simp [leaseOf?_concat, leaseAfter, grants]
      · intro inactive
        simp [active] at inactive
  | ended grantless inactive secures =>
      constructor
      · intro active
        simp [inactive] at active
      · intro _ lease held
        rw [leaseOf?_concat, leaseAfter, grantless, Option.none_or,
          Option.mem_def, Option.map_eq_some_iff] at held
        obtain ⟨before, held, rfl⟩ := held
        cases active : operation.source.periodic.active with
        | true => simp [Lease.noting, secures active]
        | false => simp [Lease.noting, invariant.ended active before held]
  | running grantless active still runs =>
      constructor
      · intro _
        obtain ⟨lease, held, before⟩ := invariant.running active
        refine ⟨(lease.after operation).noting operation, ?_,
          (runs lease before).noting operation⟩
        rw [Option.mem_def] at held
        simp [leaseOf?_concat, leaseAfter, grantless, held]
      · intro inactive
        simp [still] at inactive

/-- An operation without a grant that leaves the schedule alone, and the lease
of a running schedule with it. -/
theorem LeaseStep.of_same
    {operation : Operation}
    (grantless : grantedBy? operation = none)
    (same : operation.target.periodic = operation.source.periodic)
    (kept :
      ∀ lease : Lease,
        lease.Runs operation.source.periodic →
          lease.after operation = lease) :
    LeaseStep operation := by
  cases active : operation.source.periodic.active with
  | true =>
      refine .running grantless active (by rw [same, active]) ?_
      intro lease runs
      rw [kept lease runs, same]
      exact runs
  | false =>
      refine .ended grantless (by rw [same, active]) ?_
      intro active'
      simp [active] at active'

/-- An operation without a grant that ends the schedule forces the hardware
safe. -/
theorem LeaseStep.of_forceSafe
    {operation : Operation}
    (grantless : grantedBy? operation = none)
    (inactive : operation.target.periodic.active = false)
    (forced :
      (operation.output.calls.any fun invocation =>
        invocation.call.isForceSafe) = true) :
    LeaseStep operation := by
  refine .ended grantless inactive fun active => ?_
  simp [securesSchedule, active, inactive, forced]

section Requests

variable {app next : App} {request : Mcu.FrameView} {hardware : Hardware}
  {calls : List Invocation}

/-- A request that neither starts nor renews leaves the schedule alone or ends
it with the hardware forced safe. -/
theorem HandleEffect.schedule
    (effect : HandleEffect app request hardware next calls)
    (noStart : ∀ schedule, ¬app.Starts request schedule)
    (noRenewal : request.messageType ≠ Message.renewPeriodicLease) :
    next.periodic = app.periodic ∨
      next.periodic.active = false ∧
        (calls.any fun invocation => invocation.call.isForceSafe) = true := by
  cases effect with
  | started schedule starts =>
      exact absurd starts (noStart schedule)
  | renewed dispatched =>
      exact absurd dispatched.messageType noRenewal
  | stopped =>
      exact .inr ⟨rfl, rfl⟩
  | restarted =>
      refine .inr ⟨?_, rfl⟩
      simp [App.greeted, endSession, cleared, apply_ite App.periodic]
  | _ =>
      exact .inl rfl

/-- What a renewal does to the schedule, and how it is answered. -/
inductive Renewal
    (app : App)
    (request : Mcu.FrameView)
    (outcome : Outcome) :
    Prop where
  | refused
      (same : outcome.app = app)
      (answer :
        answeredWith outcome.response Message.renewPeriodicLease = false)
  | repeated
      (active : app.periodic.active = true)
      (sequence : readU32 request.payload 32 = app.periodic.leaseSequence)
      (same : outcome.app.periodic = app.periodic)
  | restarted
      (active : app.periodic.active = true)
      (named : slice request.payload 16 16 = app.periodic.scheduleId)
      (larger : app.periodic.leaseSequence < readU32 request.payload 32)
      (timeout :
        CaptureSchedule.minLeaseMs ≤ (readU32 request.payload 36).toUInt16)
      (answer :
        answeredWith outcome.response Message.renewPeriodicLease = true)
      (next :
        outcome.app.periodic =
          { app.periodic with
            leaseSequence := readU32 request.payload 32
            lastLeaseTimeoutMs := (readU32 request.payload 36).toUInt16
            leaseRemainingUs :=
              (readU32 request.payload 36).toUInt16.toUInt32 * 1000 })

/-- A refusal is not the answer to a renewal. -/
theorem Renewal.of_refuse
    (errorCode : UInt16)
    (detail0 detail1 : UInt32) :
    Renewal app request
      (app.refuse request errorCode detail0 detail1 responseCapacity) := by
  refine .refused rfl ?_
  simp only [refuse, answer, encodeError_fits, answeredWith,
    Option.any_some, Board.byteAt_reply_type]
  decide

/-- The handler of a renewal restarts the lease or leaves it alone. -/
theorem handleRenewPeriodic_renewal :
    Renewal app request
      (app.handleRenewPeriodic request responseCapacity) := by
  unfold handleRenewPeriodic
  split_ifs with otherBoot
  · exact .of_refuse ..
  · split
    · rename_i renewed accepted
      obtain ⟨active, named, ⟨repeated, same⟩ | ⟨larger, timeout, same⟩⟩ :=
        CaptureSchedule.renew_ok accepted
      · exact .repeated active repeated same
      · refine .restarted active named.symm larger timeout ?_ same
        rw [respond_fits (by simp)]
        simp [answer, answeredWith, Board.byteAt_reply_type]
    · exact .of_refuse ..

/-- Every renewal restarts the lease or leaves it alone. -/
theorem handle_renewal
    (renewal : request.messageType = Message.renewPeriodicLease)
    (hardware : Hardware) :
    Renewal app request
      (app.handle request responseCapacity hardware) := by
  by_cases flags : request.flags = 0
  swap
  · rw [handle, if_pos flags]
    exact .of_refuse ..
  by_cases established : app.helloEstablished = true
  swap
  · rw [handle, if_neg (not_not.2 flags),
      if_neg (by simp [renewal, Message.renewPeriodicLease, Message.hello]),
      if_pos (by simpa using established)]
    exact .of_refuse ..
  have dispatched :
      app.handle request responseCapacity hardware =
        app.handleRenewPeriodic request responseCapacity := by
    simp [handle, flags, established, renewal, Message.renewPeriodicLease,
      Message.hello, Message.getCapabilities, Message.getStatus,
      Message.getConfig, Message.setConfig, Message.runIo2LoopbackTest,
      Message.captureOnce, Message.startPeriodic]
  rw [dispatched]
  exact handleRenewPeriodic_renewal

end Requests

/-- A renewal keeps the schedule on the lease it restarts. -/
theorem Renewal.leaseStep
    {app : App}
    {request : Mcu.ParsedFrame}
    {hardware : Hardware}
    (renewal : request.val.messageType = Message.renewPeriodicLease)
    (cases :
      Renewal app request.val
        (app.handle request.val responseCapacity hardware)) :
    LeaseStep (machine.event app (.handle request hardware)) := by
  have grantless :
      grantedBy? (machine.event app (.handle request hardware)) = none := by
    refine if_neg ?_
    rintro ⟨start, -⟩
    rw [renewal] at start
    exact absurd start (by decide)
  cases cases with
  | refused same answer =>
      refine .of_same grantless (congrArg App.periodic same) ?_
      intro lease _
      refine if_neg ?_
      rintro ⟨-, answered⟩
      exact Bool.false_ne_true (answer.symm.trans answered)
  | repeated active sequence same =>
      refine .of_same grantless same ?_
      intro lease runs
      refine if_neg ?_
      rintro ⟨⟨-, -, larger, -⟩, -⟩
      rw [sequence, runs.sequence] at larger
      exact UInt32.lt_irrefl _ larger
  | restarted active named larger timeout answer next =>
      have still :
          (app.handle request.val responseCapacity
            hardware).app.periodic.active = true := by
        rw [next]
        exact active
      refine .running grantless active still ?_
      intro lease runs
      have renews : lease.Renews request.val := by
        refine ⟨renewal, named.trans runs.scheduleId.symm, ?_, runs.live⟩
        rw [runs.sequence]
        exact larger
      have restarts :
          lease.after (machine.event app (.handle request hardware)) =
            lease.renewed request.val :=
        if_pos ⟨renews, answer⟩
      rw [restarts]
      change (lease.renewed request.val).Runs
        (app.handle request.val responseCapacity hardware).app.periodic
      rw [next]
      have positive :
          1000 ≤ (readU32 request.val.payload 36).toUInt16.toNat :=
        UInt16.le_iff_toNat_le.1 timeout
      have truncated :
          (readU32 request.val.payload 36).toUInt16.toNat ≤
            (readU32 request.val.payload 36).toNat := by
        simp only [UInt32.toNat_toUInt16]
        exact Nat.mod_le _ _
      refine ⟨runs.scheduleId, rfl, ?_, ?_⟩
      · dsimp only
        rw [CaptureSchedule.toNat_leaseUs]
        omega
      · dsimp only [Lease.renewed]
        rw [CaptureSchedule.toNat_leaseUs]
        omega

/-- An acknowledged START_PERIODIC grants the lease its schedule runs on. -/
theorem Starts.leaseStep
    {app : App}
    {request : Mcu.ParsedFrame}
    {hardware : Hardware}
    {schedule : CaptureSchedule}
    (starts : app.Starts request.val schedule) :
    LeaseStep (machine.event app (.handle request hardware)) := by
  have start := starts.dispatched.messageType
  have next :
      (machine.event app (.handle request hardware)).target.periodic =
        schedule :=
    congrArg App.periodic (Board.handle_starts starts hardware)
  have grants :
      grantedBy? (machine.event app (.handle request hardware)) =
        some (Lease.requested request.val) :=
    if_pos
      ⟨start, (Board.acknowledged_start_iff start hardware).2
        ⟨schedule, starts⟩⟩
  obtain ⟨-, active, named⟩ := CaptureSchedule.start_ok starts.accepted
  obtain ⟨first, timeout, remaining⟩ :=
    CaptureSchedule.start_lease starts.accepted
  have positive :
      1000 ≤ (readU32 request.val.payload 76).toUInt16.toNat :=
    UInt16.le_iff_toNat_le.1 timeout
  have truncated :
      (readU32 request.val.payload 76).toUInt16.toNat ≤
        (readU32 request.val.payload 76).toNat := by
    simp only [UInt32.toNat_toUInt16]
    exact Nat.mod_le _ _
  refine .granted _ grants (by rw [next, active]) ?_
  rw [next]
  refine ⟨named.symm, first.symm, ?_, ?_⟩
  · rw [remaining, CaptureSchedule.toNat_leaseUs]
    omega
  · rw [remaining, CaptureSchedule.toNat_leaseUs]
    dsimp only [Lease.requested]
    omega

/-- Every request keeps the schedule on its lease. -/
theorem handle_leaseStep
    (app : App)
    (request : Mcu.ParsedFrame)
    (hardware : Hardware) :
    LeaseStep (machine.event app (.handle request hardware)) := by
  by_cases renewal :
      request.val.messageType = Message.renewPeriodicLease
  · exact (handle_renewal renewal hardware).leaseStep renewal
  by_cases starting : ∃ schedule, app.Starts request.val schedule
  · obtain ⟨schedule, starts⟩ := starting
    exact starts.leaseStep
  have grantless :
      grantedBy? (machine.event app (.handle request hardware)) = none := by
    refine if_neg ?_
    rintro ⟨start, acked⟩
    exact starting ((Board.acknowledged_start_iff start hardware).1 acked)
  have schedule :=
    (handle_effect app request.val hardware).schedule
      (fun schedule starts => starting ⟨schedule, starts⟩) renewal
  rcases schedule with same | ⟨inactive, forced⟩
  · refine .of_same grantless same fun lease _ => if_neg ?_
    rintro ⟨⟨renews, -⟩, -⟩
    exact renewal renews
  · exact .of_forceSafe grantless inactive forced

/-- Passing time is taken from the lease and from the schedule alike. -/
theorem advanceTime_leaseStep
    (app : App)
    (elapsedUs : UInt32)
    (hardware : Hardware) :
    LeaseStep (machine.event app (.advanceTime elapsedUs hardware)) := by
  have effect := perform_effect app (.advanceTime elapsedUs hardware)
  obtain ⟨next, atNext⟩ :
      ∃ next, (app.perform (.advanceTime elapsedUs hardware)).app = next :=
    ⟨_, rfl⟩
  obtain ⟨calls, atCalls⟩ :
      ∃ calls,
        (app.perform (.advanceTime elapsedUs hardware)).calls = calls :=
    ⟨_, rfl⟩
  rw [atNext, atCalls] at effect
  have target :
      (machine.event app (.advanceTime elapsedUs hardware)).target = next :=
    atNext
  cases effect with
  | timePassed schedule sameActivity sameId advanced =>
      cases active : app.periodic.active with
      | false =>
          refine .ended rfl ?_ fun active' => ?_
          · rw [target]
            exact sameActivity.trans active
          · exact absurd (active.symm.trans active') Bool.false_ne_true
      | true =>
          have still : schedule.active = true := sameActivity.trans active
          refine .running rfl active (by rw [target]; exact still) ?_
          intro lease runs
          subst advanced
          obtain ⟨inTime, remaining, sequence⟩ :=
            CaptureSchedule.advance_active active still
          have inTime := UInt32.lt_iff_toNat_lt.1 inTime
          have left :=
            UInt32.toNat_sub_of_le _ _ (UInt32.le_iff_toNat_le.2 inTime.le)
          have within := runs.within
          rw [target]
          refine ⟨runs.scheduleId.trans sameId.symm,
            runs.sequence.trans sequence.symm, ?_, ?_⟩
          · dsimp only
            rw [remaining, left]
            omega
          · dsimp only [Lease.after, machine, Machine.event]
            rw [remaining, left]
            dsimp only [Machine.event] at within
            omega
  | leaseExpired =>
      refine .of_forceSafe rfl ?_ ?_
      · rw [target]
        rfl
      · change (List.any (app.perform _).calls _) = true
        rw [atCalls]
        rfl

/-- An operation that is neither a request nor passing time leaves the schedule
and its lease alone or ends it with the hardware forced safe. -/
theorem Effect.schedule
    {app next : App}
    {input : Input}
    {calls : List Invocation}
    (effect : Effect app input next calls)
    (noRequest : ∀ request hardware, input ≠ .handle request hardware)
    (noTime : ∀ elapsedUs hardware, input ≠ .advanceTime elapsedUs hardware) :
    (next.periodic.active = app.periodic.active ∧
        next.periodic.scheduleId = app.periodic.scheduleId ∧
          next.periodic.leaseSequence = app.periodic.leaseSequence ∧
            next.periodic.leaseRemainingUs =
              app.periodic.leaseRemainingUs) ∨
      next.periodic.active = false ∧
        (calls.any fun invocation => invocation.call.isForceSafe) = true := by
  cases effect with
  | handled =>
      exact absurd rfl (noRequest _ _)
  | timePassed =>
      exact absurd rfl (noTime _ _)
  | leaseExpired =>
      exact absurd rfl (noTime _ _)
  | clockQuiet | periodicIdle =>
      exact .inl ⟨rfl, rfl, rfl, rfl⟩
  | clockLatched schedule inactive =>
      exact .inr ⟨inactive, rfl⟩
  | periodicNotApplied | periodicFailed =>
      exact .inr ⟨rfl, rfl⟩
  | @periodicTaken hardware due =>
      simp only [periodicDue, Bool.and_eq_true] at due
      by_cases running : app.periodic.claimDue.active = true
      · obtain ⟨sequence, remaining⟩ :=
          CaptureSchedule.claimDue_active running
        have claimed :
            (app.capturedPeriodic hardware.captureReport).periodic =
              app.periodic.claimDue :=
          if_pos running
        refine .inl ?_
        rw [claimed]
        exact ⟨running.trans due.1.1.1.symm, app.periodic.claimDue_frame.2,
          sequence, remaining⟩
      · have finished :
            (app.capturedPeriodic hardware.captureReport).periodic =
              { app.periodic.claimDue with scheduleId := Bytes.zero 16 } :=
          if_neg running
        refine .inr ⟨?_, rfl⟩
        rw [finished]
        simpa using running
  | ended =>
      refine .inr ⟨?_, rfl⟩
      simp [endSession, cleared, apply_ite App.periodic]

/-- Every operation keeps the schedule on its lease. -/
theorem leaseStep
    (app : App)
    (input : Input) :
    LeaseStep (machine.event app input) := by
  have others
      (noRequest : ∀ request hardware, input ≠ .handle request hardware)
      (noTime :
        ∀ elapsedUs hardware, input ≠ .advanceTime elapsedUs hardware)
      (grantless : grantedBy? (machine.event app input) = none)
      (after :
        ∀ lease : Lease, lease.after (machine.event app input) = lease) :
      LeaseStep (machine.event app input) := by
    rcases (perform_effect app input).schedule noRequest noTime with
      ⟨sameActivity, sameId, sequence, remaining⟩ | ⟨inactive, forced⟩
    · cases active : app.periodic.active with
      | false =>
          refine .ended grantless (sameActivity.trans active) fun active' => ?_
          exact absurd (active.symm.trans active') Bool.false_ne_true
      | true =>
          refine .running grantless active (sameActivity.trans active) ?_
          intro lease runs
          rw [after lease]
          refine ⟨runs.scheduleId.trans sameId.symm,
            runs.sequence.trans sequence.symm, ?_, ?_⟩
          · exact remaining ▸ runs.remaining
          · exact remaining ▸ runs.within
    · exact .of_forceSafe grantless inactive forced
  cases input with
  | handle request hardware =>
      exact handle_leaseStep app request hardware
  | advanceTime elapsedUs hardware =>
      exact advanceTime_leaseStep app elapsedUs hardware
  | updateClockFaults flags hardware =>
      exact others (by simp) (by simp) rfl fun _ => rfl
  | runPeriodicCapture hardware =>
      exact others (by simp) (by simp) rfl fun _ => rfl
  | endSession hardware =>
      exact others (by simp) (by simp) rfl fun _ => rfl

/-- Used up time is only given back by a grant. -/
theorem expired_leaseAfter
    {lease : Lease}
    {operation : Operation}
    (expired : ¬lease.Live) :
    ¬((lease.after operation).noting operation).Live := by
  change ¬(lease.after operation).Live
  unfold Lease.after
  split
  · rw [if_neg fun renewal => expired renewal.1.2.2.2]
    exact expired
  · intro live
    refine expired (lt_of_le_of_lt ?_ live)
    exact Nat.le_add_right _ _
  · exact expired

/-- An operation that leaves the schedule alone has nothing noted of it. -/
theorem Lease.noting_of_same
    (lease : Lease)
    {operation : Operation}
    (same : operation.target.periodic = operation.source.periodic) :
    lease.noting operation = lease := by
  simp [noting, securesSchedule, same]

/-- A renewal that does not renew the running lease changes nothing. -/
theorem LeaseInvariant.unextended
    {history : List Operation}
    {app : App}
    {request : Mcu.ParsedFrame}
    {hardware : Hardware}
    (invariant : LeaseInvariant history app)
    (renewal : request.val.messageType = Message.renewPeriodicLease)
    (foreign :
      ∀ lease ∈ leaseOf? history,
        app.periodic.active = true → ¬lease.Renews request.val) :
    (app.handle request.val responseCapacity hardware).app.periodic =
        app.periodic ∧
      leaseOf? (history ++ [machine.event app (.handle request hardware)]) =
        leaseOf? history := by
  have grantless :
      grantedBy? (machine.event app (.handle request hardware)) = none := by
    refine if_neg ?_
    rintro ⟨start, -⟩
    rw [renewal] at start
    exact absurd start (by decide)
  have unchanged
      (same :
        (app.handle request.val responseCapacity hardware).app.periodic =
          app.periodic)
      (after :
        ∀ lease ∈ leaseOf? history,
          lease.after (machine.event app (.handle request hardware)) =
            lease) :
      leaseOf? (history ++ [machine.event app (.handle request hardware)]) =
        leaseOf? history := by
    rw [leaseOf?_concat, leaseAfter, grantless, Option.none_or]
    cases held : leaseOf? history with
    | none => rfl
    | some lease =>
        rw [Option.map_some, after lease held, Lease.noting_of_same _ same]
  cases handle_renewal renewal hardware with
  | refused same answer =>
      have same := congrArg App.periodic same
      refine ⟨same, unchanged same fun lease _ => if_neg ?_⟩
      rintro ⟨-, answered⟩
      exact Bool.false_ne_true (answer.symm.trans answered)
  | repeated active sequence same =>
      refine ⟨same, unchanged same fun lease held => if_neg ?_⟩
      exact fun renews => foreign lease held active renews.1
  | restarted active named larger =>
      obtain ⟨lease, held, runs⟩ := invariant.running active
      refine absurd ?_ (foreign lease held active)
      refine ⟨renewal, named.trans runs.scheduleId.symm, ?_, runs.live⟩
      rw [runs.sequence]
      exact larger

/-- In every run, a schedule captures only while its lease lasts, and nothing
but a START_PERIODIC or a timely renewal with a larger sequence gives it more
time. -/
theorem keepsLease
    (deviceId bootId : Id16)
    (resetReason : UInt8)
    (initialState : FirmwareState)
    (result : ConfigResult)
    (devStat : UInt8)
    (inputs : List Input) :
    EveryStep KeepsLease
      (machine.trace
        (started deviceId bootId resetReason initialState result devStat)
        inputs) := by
  have unconditioned :
      EveryStep (fun _ _ => True)
        (machine.trace
          (started deviceId bootId resetReason initialState result devStat)
          inputs) :=
    fun _ _ _ _ => trivial
  refine
    machine.everyStep_of_invariant LeaseInvariant
      ⟨fun active => absurd active Bool.false_ne_true, nofun⟩
      (fun _ app input invariant _ => (leaseStep app input).invariant invariant)
      ?_ inputs unconditioned
  intro earlier app input invariant _
  have after := (leaseStep app input).invariant invariant
  refine ⟨?_, ?_, ?_, ?_⟩
  · rintro hardware shape invocation member isCapture
    cases shape
    obtain ⟨due, -⟩ :=
      Board.periodic_capture
        (perform_effect app (.runPeriodicCapture hardware)) member isCapture
    simp only [periodicDue, Bool.and_eq_true] at due
    obtain ⟨lease, held, runs⟩ := invariant.running due.1.1.1
    exact ⟨due.1.1.1, lease, held, runs.scheduleId, runs.live⟩
  · intro lease held expired
    have inactive :
        (machine.event app input).target.periodic.active = false := by
      by_contra active
      obtain ⟨running, held', runs⟩ := after.running (by simpa using active)
      obtain rfl := Option.mem_unique held held'
      exact expired runs.live
    exact ⟨inactive, after.ended inactive lease held⟩
  · intro lease held expired grantless
    rw [Option.mem_def] at held
    refine ⟨(lease.after (machine.event app input)).noting _, ?_,
      expired_leaseAfter expired⟩
    simp [leaseOf?_concat, leaseAfter, grantless, held]
  · rintro request hardware shape renewal foreign
    cases shape
    exact invariant.unextended renewal foreign

end App

end Usac.Firmware
