import Usac.Host.ClientRequests

namespace Usac.Host

open Library

/-!
# The renewals of a periodic schedule

`PeriodicLeaseController`, which asks the firmware for more time before the
lease of a schedule is used up. A call of the device client lies within `start`
and within `renew_if_due`, so each is what it does before the call and what it
does with the result.
-/

/-- What `PeriodicLeaseController` raises: its own `LeaseConflictError`, or
what a check or the client has raised. -/
inductive LeaseError where
  | conflict (text : String)
  | raised (raised : Raised)
  deriving DecidableEq

/-- `PeriodicLeaseController`. -/
structure PeriodicLeaseController where
  schedule : Option PeriodicSchedule
  leaseSequence : Nat
  nextRenewalMs : Int

/-- `_renew_interval_ms`. -/
def PeriodicSchedule.renewIntervalMs (schedule : PeriodicSchedule) : Nat :=
  min (schedule.leaseTimeoutMs.toNat / 3) 1000

/-- Whether a response to a renewal matches it. -/
def LeaseRenewal.isMatchedBy (renewal response : LeaseRenewal) : Bool :=
  response.bootId == renewal.bootId &&
    response.scheduleId == renewal.scheduleId &&
    response.leaseSequence == renewal.leaseSequence &&
    decide (0 < response.leaseTimeoutMs) &&
    decide (response.leaseTimeoutMs ≤ renewal.leaseTimeoutMs)

namespace PeriodicLeaseController

/-- The controller of a new session, and of one that is over. -/
def init : PeriodicLeaseController where
  schedule := none
  leaseSequence := 0
  nextRenewalMs := 0

/-- What `start` checks before it calls the client. -/
def checkStart
    (controller : PeriodicLeaseController)
    (schedule : PeriodicSchedule)
    (nowMs : Int) :
    Except LeaseError Unit := do
  schedule.validate.mapError .raised
  if controller.schedule.isSome then
    throw (.conflict "a periodic schedule is already active")
  if nowMs < 0 then
    throw (.raised (.valueError "now_ms must be non-negative"))

/-- `start`, when the client has started the schedule. -/
def started
    (controller : PeriodicLeaseController)
    (schedule : PeriodicSchedule)
    (nowMs : Int) :
    PeriodicLeaseController :=
  { controller with
    schedule := some schedule
    leaseSequence := 0
    nextRenewalMs := nowMs + schedule.renewIntervalMs }

/-- `start`, for what the client does. -/
def start
    (controller : PeriodicLeaseController)
    (schedule : PeriodicSchedule)
    (nowMs : Int)
    (client : Except Raised Unit) :
    PeriodicLeaseController × Except LeaseError Unit :=
  match controller.checkStart schedule nowMs with
  | .error raised => (controller, .error raised)
  | .ok () =>
      match client with
      | .error raised => (controller, .error (.raised raised))
      | .ok () => (controller.started schedule nowMs, .ok ())

/-- The schedule whose renewal is due. -/
def dueSchedule
    (controller : PeriodicLeaseController)
    (nowMs : Int) :
    Option PeriodicSchedule :=
  controller.schedule.filter fun _ => controller.nextRenewalMs ≤ nowMs

/-- The next renewal. When its sequence exceeds the word of the message, the
client raises instead of sending it. -/
def nextRenewal
    (controller : PeriodicLeaseController)
    (schedule : PeriodicSchedule) :
    Except Raised LeaseRenewal := do
  require (controller.leaseSequence + 1 < 2 ^ 32)
    (.valueError "lease_sequence must be in 1..u32_max")
  return {
    bootId := schedule.bootId
    scheduleId := schedule.scheduleId
    leaseSequence := (controller.leaseSequence + 1).toUInt32
    leaseTimeoutMs := schedule.leaseTimeoutMs
  }

/-- What `renew_if_due` does with the response of the client. -/
def renewed
    (controller : PeriodicLeaseController)
    (schedule : PeriodicSchedule)
    (renewal response : LeaseRenewal)
    (nowMs : Int) :
    PeriodicLeaseController × Except LeaseError Bool :=
  if renewal.isMatchedBy response then
    ({ controller with
        leaseSequence := renewal.leaseSequence.toNat
        nextRenewalMs := nowMs + schedule.renewIntervalMs },
      .ok true)
  else
    ({ controller with schedule := none },
      .error (.conflict "lease renewal response does not match the request"))

/-- `renew_if_due`, for what the client does with a renewal. -/
def renewIfDue
    (controller : PeriodicLeaseController)
    (nowMs : Int)
    (client : LeaseRenewal → Except Raised LeaseRenewal) :
    PeriodicLeaseController × Except LeaseError Bool :=
  match controller.dueSchedule nowMs with
  | none => (controller, .ok false)
  | some schedule =>
      match controller.nextRenewal schedule with
      | .error raised => (controller, .error (.raised raised))
      | .ok renewal =>
          match client renewal with
          | .error raised => (controller, .error (.raised raised))
          | .ok response =>
              controller.renewed schedule renewal response nowMs

/-- `stop` before it calls the client, with the schedule the client is to
stop. -/
def stop
    (controller : PeriodicLeaseController) :
    PeriodicLeaseController × Option (Bytes 16) :=
  match controller.schedule with
  | none => (controller, none)
  | some schedule => (init, some schedule.scheduleId)

/-- `finish`. -/
def finish (_ : PeriodicLeaseController) : PeriodicLeaseController :=
  init

end PeriodicLeaseController

/-- A schedule that is valid has a lease of one to ten seconds. -/
theorem PeriodicSchedule.lease_of_validate
    {schedule : PeriodicSchedule}
    (valid : schedule.validate = .ok ()) :
    1000 ≤ schedule.leaseTimeoutMs ∧ schedule.leaseTimeoutMs ≤ 10000 := by
  obtain ⟨⟨⟩, -, valid⟩ := bind_eq_ok.1 valid
  obtain ⟨⟨⟩, -, valid⟩ := bind_eq_ok.1 valid
  obtain ⟨⟨⟩, -, valid⟩ := bind_eq_ok.1 valid
  exact require_eq_ok.1 valid

/-- From one renewal to the next, and 666 milliseconds more, a valid lease
lasts. -/
theorem PeriodicSchedule.renewIntervalMs_lt
    {schedule : PeriodicSchedule}
    (valid : schedule.validate = .ok ()) :
    schedule.renewIntervalMs + 666 < schedule.leaseTimeoutMs.toNat := by
  have long : 1000 ≤ schedule.leaseTimeoutMs.toNat :=
    UInt32.le_iff_toNat_le.1 (lease_of_validate valid).1
  unfold renewIntervalMs
  omega

end Usac.Host
