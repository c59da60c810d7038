import Usac.Firmware.LeaseSafety
import Usac.Host.PeriodicLease
import Usac.Link.Exchanges
import Usac.Link.RequestReception

namespace Usac.Link

open Library
open Firmware (App Hardware Id16)
open Host (ClientRequest Frame LeaseError LeaseRenewal PeriodicLeaseController
  PeriodicSchedule Raised RenewPeriodicLease)

/-!
# A leased schedule and its host

The controller of a session, the firmware that runs its schedule, and the time
that passes for both. A call of the controller is sent at one moment, reaches
the device at another and is answered at a third. In between the firmware does
whatever it does by itself or for other commands. Two clocks are kept: that of
the host, and the time the firmware has been told about, which is never ahead of
it. A worker that ends lets go of its controller.
-/

/-- A call of the controller on the device client. -/
inductive LeaseRequest where
  | start (requestId : Bytes 16) (schedule : PeriodicSchedule)
  | renew (schedule : PeriodicSchedule) (renewal : LeaseRenewal)

namespace LeaseRequest

/-- The schedule a call is about. -/
def schedule : LeaseRequest → PeriodicSchedule
  | start _ schedule | renew schedule _ => schedule

/-- What the client sends. -/
def request : LeaseRequest → ClientRequest
  | start requestId schedule => .startPeriodic requestId schedule
  | renew _ renewal => .renewPeriodic renewal

/-- A call starts a schedule or renews it. -/
theorem starts_or_renews (request : LeaseRequest) :
    (∃ requestId schedule, request = .start requestId schedule) ∨
      ∃ schedule renewal, request = .renew schedule renewal := by
  cases request with
  | start requestId schedule => exact .inl ⟨requestId, schedule, rfl⟩
  | renew schedule renewal => exact .inr ⟨schedule, renewal, rfl⟩

end LeaseRequest

/-- A call under way: when it was made, and how the device has responded to it,
once it has arrived there. -/
structure LeaseCall where
  request : LeaseRequest
  sequence : UInt32
  payload : List UInt8
  nowMs : Nat
  calledUs : Nat
  response : Option (Option (List UInt8))

namespace LeaseCall

/-- The frame of a call. -/
def frame (call : LeaseCall) : Frame :=
  .command call.request.request.messageType call.sequence call.payload

/-- What `start_periodic` makes of a response. -/
def acknowledgement
    (call : LeaseCall)
    (requestId : Bytes 16)
    (response : Option (List UInt8)) :
    Except Raised Unit :=
  Method.acknowledged requestId .startPeriodic
    (Method.checked call.sequence .ack response)

/-- What `renew_periodic` makes of a response. -/
def renewal
    (call : LeaseCall)
    (response : Option (List UInt8)) :
    Except Raised LeaseRenewal := do
  let frame ← Method.checked call.sequence .renewPeriodicLease response
  let result ← RenewPeriodicLease.decode frame.payload
  return {
    bootId := result.bootId
    scheduleId := result.scheduleId
    leaseSequence := result.leaseSequence
    leaseTimeoutMs := result.leaseTimeoutOrRemainingMs
  }

end LeaseCall

/-- The controller of the session in progress, with the call it is in, and the
firmware. -/
structure Tenure where
  app : App
  controller : PeriodicLeaseController
  call : Option LeaseCall
  sequence : UInt32
  clockUs : Nat
  toldUs : Nat

namespace Tenure

/-- What happens. -/
inductive Input where
  | pass (elapsedUs : Nat)
  | background (event : Background)
  | command (request : Firmware.Mcu.ParsedFrame) (hardware : Hardware)
  | start (requestId : Bytes 16) (schedule : PeriodicSchedule)
  | turn
  | arrive (hardware : Hardware)
  | answer
  | lose (raised : Raised)
  | leave

/-- What the host is told. -/
inductive Shown where
  | silent
  | started (result : Except LeaseError Unit)
  | renewed (result : Except LeaseError Bool)

/-- A conflict that the controller has found. -/
def Shown.isConflict : Shown → Bool
  | .started (.error (.conflict _)) | .renewed (.error (.conflict _)) => true
  | _ => false

/-- The time an event tells the firmware about. -/
def elapsedUs : Background → Nat
  | .advanceTime elapsedUs _ => elapsedUs.toNat
  | _ => 0

/-- The host has a schedule of this name, or asks for it. -/
def Names (tenure : Tenure) (scheduleId : Id16) : Prop :=
  (∃ schedule ∈ tenure.controller.schedule, schedule.scheduleId = scheduleId) ∨
    ∃ call ∈ tenure.call, call.request.schedule.scheduleId = scheduleId

instance (tenure : Tenure) (scheduleId : Id16) :
    Decidable (tenure.Names scheduleId) :=
  inferInstanceAs (Decidable (_ ∨ _))

/-- Only the controller starts and renews its schedule. -/
def Foreign (tenure : Tenure) (request : Firmware.Mcu.FrameView) : Prop :=
  request.messageType = Firmware.Message.startPeriodic ∨
      request.messageType = Firmware.Message.renewPeriodicLease →
    ¬tenure.Names (slice request.payload 16 16)

instance (tenure : Tenure) (request : Firmware.Mcu.FrameView) :
    Decidable (tenure.Foreign request) :=
  inferInstanceAs (Decidable (_ → _))

/-- A connection is that of one session, so a START_PERIODIC reaches the device
in the session its schedule names. -/
def Admitted (tenure : Tenure) : LeaseRequest → Prop
  | .start _ schedule => schedule.bootId = tenure.app.bootId
  | .renew _ _ => True

instance (tenure : Tenure) (request : LeaseRequest) :
    Decidable (tenure.Admitted request) := by
  unfold Admitted
  cases request <;> infer_instance

/-- The host is between two sessions. -/
def Free (tenure : Tenure) : Prop :=
  tenure.call.isNone = true ∧ tenure.controller.schedule.isNone = true

instance (tenure : Tenure) : Decidable tenure.Free :=
  inferInstanceAs (Decidable (_ ∧ _))

/-- The milliseconds the host reads off its clock. -/
def nowMs (tenure : Tenure) : Nat :=
  tenure.clockUs / 1000

/-- The controller of a worker that has ended. -/
def ended (tenure : Tenure) : Tenure :=
  { tenure with controller := tenure.controller.finish, call := none }

/-- How a call that raises is told. -/
def raises (error : LeaseError) : LeaseRequest → Shown
  | .start _ _ => .started (.error error)
  | .renew _ _ => .renewed (.error error)

/-- `_send`, if the payload can be encoded. -/
def send (tenure : Tenure) (request : LeaseRequest) : Tenure × Shown :=
  let sequence := tenure.sequence + 1
  match request.request.payload with
  | .error raised =>
      ({ tenure.ended with sequence := sequence },
        raises (.raised raised) request)
  | .ok payload =>
      ({ tenure with
          sequence := sequence
          call := some {
            request := request
            sequence := sequence
            payload := payload
            nowMs := tenure.nowMs
            calledUs := tenure.clockUs
            response := none } },
        .silent)

/-- `PeriodicLeaseController.start` of a new session, up to its call. -/
def start
    (tenure : Tenure)
    (requestId : Bytes 16)
    (schedule : PeriodicSchedule) :
    Tenure × Shown :=
  if tenure.Free then
    match PeriodicLeaseController.init.checkStart schedule tenure.nowMs with
    | .error error => (tenure, .started (.error error))
    | .ok () =>
        send { tenure with controller := .init } (.start requestId schedule)
  else
    (tenure, .silent)

/-- `renew_if_due` of the worker, up to its call. -/
def turn (tenure : Tenure) : Tenure × Shown :=
  match tenure.call with
  | some _ => (tenure, .silent)
  | none =>
      match tenure.controller.dueSchedule tenure.nowMs with
      | none => (tenure, .renewed (.ok false))
      | some schedule =>
          match tenure.controller.nextRenewal schedule with
          | .error raised => (tenure.ended, .renewed (.error (.raised raised)))
          | .ok renewal => tenure.send (.renew schedule renewal)

/-- The call under way reaches the device. -/
def arrive (tenure : Tenure) (hardware : Hardware) : Tenure :=
  match tenure.call with
  | none => tenure
  | some call =>
      if call.response.isNone ∧ tenure.Admitted call.request then
        let (app, response) :=
          Exchange.deliver ⟨[], hardware⟩ tenure.app call.frame
        { tenure with
          app := app
          call := some { call with response := some response } }
      else
        tenure

/-- The response to a START_PERIODIC or to a renewal. -/
def settle
    (tenure : Tenure)
    (call : LeaseCall)
    (response : Option (List UInt8)) :
    Tenure × Shown :=
  match call.request with
  | .start requestId schedule =>
      match call.acknowledgement requestId response with
      | .error raised => (tenure.ended, .started (.error (.raised raised)))
      | .ok () =>
          ({ tenure with
              controller := tenure.controller.started schedule call.nowMs
              call := none },
            .started (.ok ()))
  | .renew schedule renewal =>
      match call.renewal response with
      | .error raised => (tenure.ended, .renewed (.error (.raised raised)))
      | .ok answer =>
          match tenure.controller.renewed schedule renewal answer
              call.nowMs with
          | (_, .error error) => (tenure.ended, .renewed (.error error))
          | (controller, .ok renewed) =>
              ({ tenure with controller := controller, call := none },
                .renewed (.ok renewed))

/-- The response reaches the host. -/
def answer (tenure : Tenure) : Tenure × Shown :=
  match tenure.call with
  | none => (tenure, .silent)
  | some call =>
      match call.response with
      | none => (tenure, .silent)
      | some response => tenure.settle call response

/-- The call under way raises. -/
def lose (tenure : Tenure) (raised : Raised) : Tenure × Shown :=
  match tenure.call with
  | none => (tenure, .silent)
  | some call =>
      (tenure.ended, raises (.raised raised) call.request)

/-- The host and the firmware as a machine. -/
def machine : Machine Tenure Input Shown where
  step tenure
    | .pass elapsedUs =>
        ({ tenure with clockUs := tenure.clockUs + elapsedUs }, .silent)
    | .background event =>
        if tenure.toldUs + elapsedUs event ≤ tenure.clockUs then
          ({ tenure with
              app := event.perform tenure.app
              toldUs := tenure.toldUs + elapsedUs event },
            .silent)
        else
          (tenure, .silent)
    | .command request hardware =>
        if tenure.Foreign request.val then
          ({ tenure with
              app :=
                (tenure.app.handle request.val App.responseCapacity
                  hardware).app },
            .silent)
        else
          (tenure, .silent)
    | .start requestId schedule => tenure.start requestId schedule
    | .turn => tenure.turn
    | .arrive hardware => (tenure.arrive hardware, .silent)
    | .answer => tenure.answer
    | .lose raised => tenure.lose raised
    | .leave =>
        (if tenure.call.isNone then tenure.ended else tenure, .silent)

/-- A host without a session, and a device that has just started. -/
def boot
    (deviceId : Id16)
    (result : Firmware.ConfigResult)
    (devStat : UInt8) :
    Tenure where
  app := App.boot deviceId result devStat
  controller := .init
  call := none
  sequence := 0
  clockUs := 0
  toldUs := 0

/-- The answer to a renewal does what `renew_if_due` does with it. -/
theorem answer_renewIfDue
    {tenure : Tenure}
    {call : LeaseCall}
    {schedule : PeriodicSchedule}
    {renewal : LeaseRenewal}
    {response : Option (List UInt8)}
    {nowMs : Nat}
    (here : tenure.call = some call)
    (responded : call.response = some response)
    (asks : call.request = .renew schedule renewal)
    (called : call.nowMs = nowMs)
    (due : tenure.controller.dueSchedule nowMs = some schedule)
    (next : tenure.controller.nextRenewal schedule = .ok renewal) :
    tenure.answer.2 =
      .renewed
        (tenure.controller.renewIfDue nowMs
          fun _ => call.renewal response).2 := by
  unfold answer PeriodicLeaseController.renewIfDue
  rw [here, due]
  simp only [responded, next, settle, asks, called]
  cases call.renewal response with
  | error raised => rfl
  | ok answer =>
      dsimp only
      cases tenure.controller.renewed schedule renewal answer nowMs with
      | mk controller result => cases result <;> rfl

/-- A turn whose call nothing interrupts does what `renew_if_due` does. -/
theorem uninterrupted_turn
    {tenure waiting : Tenure}
    (idle : tenure.call = none)
    (called : tenure.turn = (waiting, .silent))
    (hardware : Hardware) :
    ∃ call response,
      (waiting.arrive hardware).call = some call ∧
        call.response = some response ∧
          (waiting.arrive hardware).answer.2 =
            .renewed
              (tenure.controller.renewIfDue tenure.nowMs
                fun _ => call.renewal response).2 := by
  unfold turn at called
  rw [idle] at called
  dsimp only at called
  cases due : tenure.controller.dueSchedule tenure.nowMs with
  | none => rw [due] at called; cases called
  | some schedule =>
      rw [due] at called
      dsimp only at called
      cases next : tenure.controller.nextRenewal schedule with
      | error raised => rw [next] at called; cases called
      | ok renewal =>
          rw [next] at called
          dsimp only [send] at called
          cases encoded :
              (LeaseRequest.renew schedule renewal).request.payload with
          | error raised => rw [encoded] at called; cases called
          | ok payload =>
              rw [encoded] at called
              cases called
              simp only [arrive, Admitted, Option.isNone_none, and_self,
                if_true]
              refine ⟨_, _, rfl, rfl, ?_⟩
              exact answer_renewIfDue rfl rfl rfl rfl due next

/-- The answer to a START_PERIODIC does what `start` does with it. -/
theorem answer_start
    {tenure : Tenure}
    {call : LeaseCall}
    {requestId : Bytes 16}
    {schedule : PeriodicSchedule}
    {response : Option (List UInt8)}
    {nowMs : Nat}
    (here : tenure.call = some call)
    (responded : call.response = some response)
    (asks : call.request = .start requestId schedule)
    (called : call.nowMs = nowMs)
    (checked :
      PeriodicLeaseController.init.checkStart schedule nowMs = .ok ()) :
    tenure.answer.2 =
      .started
        (PeriodicLeaseController.init.start schedule nowMs
          (call.acknowledgement requestId response)).2 := by
  unfold answer PeriodicLeaseController.start
  rw [here, checked]
  simp only [responded, settle, asks, called]
  cases call.acknowledgement requestId response <;> rfl

/-- A session whose START_PERIODIC nothing interrupts begins as `start` begins
it. -/
theorem uninterrupted_start
    {tenure waiting : Tenure}
    {requestId : Bytes 16}
    {schedule : PeriodicSchedule}
    (free : tenure.Free)
    (called : tenure.start requestId schedule = (waiting, .silent))
    (inSession : schedule.bootId = tenure.app.bootId)
    (hardware : Hardware) :
    ∃ call response,
      (waiting.arrive hardware).call = some call ∧
        call.response = some response ∧
          (waiting.arrive hardware).answer.2 =
            .started
              (PeriodicLeaseController.init.start schedule tenure.nowMs
                (call.acknowledgement requestId response)).2 := by
  unfold start at called
  rw [if_pos free] at called
  cases checked :
      PeriodicLeaseController.init.checkStart schedule tenure.nowMs with
  | error error => rw [checked] at called; cases called
  | ok =>
      rw [checked] at called
      dsimp only [send] at called
      cases encoded :
          (LeaseRequest.start requestId schedule).request.payload with
      | error raised => rw [encoded] at called; cases called
      | ok payload =>
          rw [encoded] at called
          cases called
          simp only [arrive, Admitted, inSession, Option.isNone_none, and_self,
            if_true]
          exact ⟨_, _, rfl, rfl, answer_start rfl rfl rfl rfl checked⟩

end Tenure

end Usac.Link
