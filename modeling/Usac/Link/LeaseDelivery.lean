import Usac.Link.LeaseRun

namespace Usac.Link

open Library
open Firmware (App CaptureSchedule Hardware Id16)
open Host (ClientRequest Frame LeaseError LeaseRenewal PeriodicLeaseController
  PeriodicSchedule Raised RenewPeriodicLease bind_eq_ok require_eq_ok ok_bind)

/-!
# A leased schedule at the device

What happens to the schedule the device runs: time and commands leave it alone
or end it, a renewal of the controller restarts its lease, and an acknowledged
START_PERIODIC has started it.
-/

/-! ## What happens to a running schedule -/

/-- The device identifies its session by the HELLO that opened it. -/
def SessionNamed (app : App) : Prop :=
  app.helloEstablished = true →
    app.bootId = Firmware.bootIdDerive app.deviceId app.hostNonce

/-- A schedule that runs on, for some time. -/
structure RunsOn (app next : App) (elapsedUs : Nat) : Prop where
  active : app.periodic.active = true
  scheduleId : next.periodic.scheduleId = app.periodic.scheduleId
  sequence : next.periodic.leaseSequence = app.periodic.leaseSequence
  bootId : next.bootId = app.bootId
  remaining :
    app.periodic.leaseRemainingUs.toNat =
      next.periodic.leaseRemainingUs.toNat + elapsedUs

namespace RunsOn

/-- Nothing has happened to the schedule. -/
theorem of_same
    {app next : App}
    (active : next.periodic.active = true)
    (periodic : next.periodic = app.periodic)
    (bootId : next.bootId = app.bootId) :
    RunsOn app next 0 :=
  ⟨periodic ▸ active, by rw [periodic], by rw [periodic], bootId,
    by rw [periodic, Nat.add_zero]⟩

end RunsOn

/-- A schedule that is active after an event has been so before. -/
theorem Background.runsOn
    {app : App}
    {event : Background}
    (active : (event.perform app).periodic.active = true) :
    RunsOn app (event.perform app) (Tenure.elapsedUs event) := by
  cases event with
  | advanceTime elapsedUs hardware =>
      have effect := App.advanceTime_effect app elapsedUs hardware
      simp only [Background.perform] at active ⊢
      generalize (app.advanceTime elapsedUs hardware).app = next at *
      generalize (app.advanceTime elapsedUs hardware).calls = calls at *
      cases effect with
      | timePassed schedule sameActivity sameId advanced =>
          have running : app.periodic.active = true :=
            sameActivity.symm.trans active
          subst advanced
          obtain ⟨inTime, remaining, sequence⟩ :=
            CaptureSchedule.advance_active running active
          have inTime := UInt32.lt_iff_toNat_lt.1 inTime
          have left :=
            UInt32.toNat_sub_of_le _ _ (UInt32.le_iff_toNat_le.2 inTime.le)
          refine ⟨running, sameId, sequence, rfl, ?_⟩
          show app.periodic.leaseRemainingUs.toNat =
            (app.periodic.advance elapsedUs).1.leaseRemainingUs.toNat +
              elapsedUs.toNat
          rw [remaining, left]
          omega
      | leaseExpired => exact Bool.noConfusion active
  | updateClockFaults flags hardware =>
      have effect := App.updateClockFaults_effect app flags hardware
      simp only [Background.perform] at active ⊢
      generalize (app.updateClockFaults flags hardware).app = next at *
      generalize (app.updateClockFaults flags hardware).calls = calls at *
      cases effect with
      | clockQuiet => exact .of_same active rfl rfl
      | clockLatched schedule inactive =>
          exact absurd (inactive.symm.trans active) (by decide)
  | runPeriodicCapture hardware =>
      have effect := App.runPeriodicCapture_effect app hardware
      simp only [Background.perform] at active ⊢
      generalize (app.runPeriodicCapture hardware).app = next at *
      generalize (app.runPeriodicCapture hardware).calls = calls at *
      cases effect with
      | periodicIdle => exact .of_same active rfl rfl
      | periodicNotApplied | periodicFailed => exact Bool.noConfusion active
      | periodicTaken due =>
          simp only [App.periodicDue, Bool.and_eq_true] at due
          have running : app.periodic.claimDue.active = true := by
            by_contra finished
            have cleared :
                (app.capturedPeriodic hardware.captureReport).periodic =
                  { app.periodic.claimDue with
                    scheduleId := Bytes.zero 16 } :=
              if_neg finished
            rw [cleared] at active
            exact finished active
          have claimed :
              (app.capturedPeriodic hardware.captureReport).periodic =
                app.periodic.claimDue :=
            if_pos running
          obtain ⟨sequence, remaining⟩ :=
            CaptureSchedule.claimDue_active running
          exact ⟨due.1.1.1, by rw [claimed]; exact app.periodic.claimDue_frame.2,
            by rw [claimed]; exact sequence, rfl,
            by rw [claimed, remaining]; rfl⟩
  | captureStreamed => exact .of_same active rfl rfl
  | endSession hardware =>
      simp [Background.perform, App.endSession, App.cleared,
        apply_ite App.periodic, CaptureSchedule.init] at active
  | restart result devStat =>
      exact Bool.noConfusion active

/-- An event keeps the name of the session. -/
theorem Background.sessionNamed
    {app : App}
    (named : SessionNamed app)
    (event : Background) :
    SessionNamed (event.perform app) := by
  cases event with
  | advanceTime elapsedUs hardware =>
      have effect := App.advanceTime_effect app elapsedUs hardware
      simp only [Background.perform]
      generalize (app.advanceTime elapsedUs hardware).app = next at *
      generalize (app.advanceTime elapsedUs hardware).calls = calls at *
      cases effect with
      | timePassed | leaseExpired => exact named
  | updateClockFaults flags hardware =>
      have effect := App.updateClockFaults_effect app flags hardware
      simp only [Background.perform]
      generalize (app.updateClockFaults flags hardware).app = next at *
      generalize (app.updateClockFaults flags hardware).calls = calls at *
      cases effect with
      | clockQuiet | clockLatched => exact named
  | runPeriodicCapture hardware =>
      have effect := App.runPeriodicCapture_effect app hardware
      simp only [Background.perform]
      generalize (app.runPeriodicCapture hardware).app = next at *
      generalize (app.runPeriodicCapture hardware).calls = calls at *
      cases effect with
      | periodicIdle | periodicNotApplied | periodicFailed | periodicTaken =>
          exact named
  | captureStreamed => exact named
  | endSession hardware =>
      intro established
      simp [Background.perform, App.endSession, App.cleared,
        apply_ite App.helloEstablished] at established
  | restart result devStat =>
      exact fun established => Bool.noConfusion established

/-- An event keeps an active schedule within its session. -/
theorem Background.scheduleOpen
    {app : App}
    (opened : app.ScheduleOpen)
    (event : Background) :
    (event.perform app).ScheduleOpen := by
  cases event with
  | advanceTime elapsedUs hardware =>
      exact opened.effect (App.advanceTime_effect app elapsedUs hardware)
  | updateClockFaults flags hardware =>
      exact opened.effect (App.updateClockFaults_effect app flags hardware)
  | runPeriodicCapture hardware =>
      exact opened.effect (App.runPeriodicCapture_effect app hardware)
  | captureStreamed => exact opened
  | endSession hardware =>
      exact opened.effect
        (App.perform_effect app (App.Input.endSession hardware))
  | restart result devStat => exact fun active => Bool.noConfusion active

/-- A request keeps the name of the session. -/
theorem sessionNamed_handle
    {app : App}
    (named : SessionNamed app)
    (request : Firmware.Mcu.FrameView)
    (hardware : Hardware) :
    SessionNamed (app.handle request App.responseCapacity hardware).app := by
  have effect := App.handle_effect app request hardware
  generalize (app.handle request App.responseCapacity hardware).app = next at *
  generalize
    (app.handle request App.responseCapacity hardware).calls = calls at *
  cases effect with
  | greeted | restarted => exact fun _ => rfl
  | _ => exact named

/-- A request that does not name the schedule it meets afterwards has left it
alone. -/
theorem runsOn_handle
    {app : App}
    (named : SessionNamed app)
    (opened : app.ScheduleOpen)
    {request : Firmware.Mcu.FrameView}
    {hardware : Hardware}
    (active :
      (app.handle request App.responseCapacity hardware).app.periodic.active =
        true)
    (foreign :
      request.messageType = Firmware.Message.startPeriodic ∨
          request.messageType = Firmware.Message.renewPeriodicLease →
        slice request.payload 16 16 ≠
          (app.handle request App.responseCapacity
            hardware).app.periodic.scheduleId) :
    RunsOn app (app.handle request App.responseCapacity hardware).app 0 := by
  have effect := App.handle_effect app request hardware
  generalize (app.handle request App.responseCapacity hardware).app = next at *
  generalize
    (app.handle request App.responseCapacity hardware).calls = calls at *
  cases effect with
  | greeted flags hello sameHost =>
      refine .of_same active rfl ?_
      have established := opened active
      rw [named established, sameHost established]
      rfl
  | restarted =>
      simp [App.greeted, App.endSession, App.cleared, apply_ite App.periodic,
        CaptureSchedule.init] at active
  | started schedule starts =>
      obtain ⟨-, -, sameId⟩ := CaptureSchedule.start_ok starts.accepted
      exact absurd sameId.symm (foreign (.inl starts.dispatched.messageType))
  | renewed dispatched leaseSequence leaseTimeoutMs =>
      have foreign := foreign (.inr dispatched.messageType)
      have frame :=
        app.periodic.renew_frame (slice request.payload 16 16) leaseSequence
          leaseTimeoutMs
      have same :
          (app.periodic.renew (slice request.payload 16 16) leaseSequence
            leaseTimeoutMs).1 = app.periodic := by
        unfold CaptureSchedule.renew
        refine congrArg Prod.fst (if_pos (.inr fun own => foreign ?_))
        exact own.symm.trans frame.2.1.symm
      exact .of_same active same rfl
  | stopped => exact Bool.noConfusion active
  | _ => exact .of_same active rfl rfl

/-! ## The calls of the controller at the device -/

/-- A response the client takes has the type it waits for. -/
theorem answeredWith_of_checked
    {sequence : UInt32}
    {messageType : Host.MessageType}
    {response : Option (List UInt8)}
    {frame : Frame}
    (taken : Method.checked sequence messageType response = .ok frame) :
    App.answeredWith response messageType.code = true := by
  cases response with
  | none => cases taken
  | some bytes =>
      obtain ⟨decoded, accepted, checked⟩ := bind_eq_ok.1 taken
      obtain ⟨⟨⟩, -, checked⟩ := bind_eq_ok.1 checked
      obtain ⟨⟨⟩, fits, -⟩ := bind_eq_ok.1 checked
      obtain ⟨-, type, -⟩ := require_eq_ok.1 fits
      obtain ⟨known, -⟩ :=
        Host.StreamScan.fields_of_accepted (Frame.accepted_of_decode accepted)
      have code := Host.MessageType.code_of_ofCode? known
      rw [type] at code
      show (byteAt bytes 5 == messageType.code) = true
      rw [code]
      exact beq_self_eq_true _

/-- What a renewal says, and what its encoder has checked. -/
theorem fields_of_renewal
    {message : RenewPeriodicLease}
    {payload : List UInt8}
    (encoded : message.encode = .ok payload) :
    message =
        ⟨slice payload 0 16, slice payload 16 16, readU32 payload 32,
          readU32 payload 36⟩ ∧
      message.validate = .ok () := by
  have decoded := (RenewPeriodicLease.exact payload message).2 encoded
  obtain ⟨⟨⟩, -, decoded⟩ := bind_eq_ok.1 decoded
  obtain ⟨⟨⟩, valid, decoded⟩ := bind_eq_ok.1 decoded
  cases decoded
  exact ⟨rfl, valid⟩

/-- A renewal of the running schedule beyond its sequence restarts the lease. -/
theorem renew_restarts
    {schedule : CaptureSchedule}
    {scheduleId : Id16}
    {leaseSequence : UInt32}
    {leaseTimeoutMs : UInt16}
    (active : schedule.active = true)
    (own : schedule.scheduleId = scheduleId)
    (later : schedule.leaseSequence < leaseSequence)
    (long : CaptureSchedule.minLeaseMs ≤ leaseTimeoutMs)
    (short : leaseTimeoutMs ≤ CaptureSchedule.maxLeaseMs) :
    ∃ renewed,
      schedule.renew scheduleId leaseSequence leaseTimeoutMs = (renewed, .ok) ∧
        renewed.active = true ∧ renewed.scheduleId = scheduleId ∧
        renewed.leaseSequence = leaseSequence ∧
        renewed.leaseRemainingUs = leaseTimeoutMs.toUInt32 * 1000 := by
  have positive : leaseSequence ≠ 0 := by
    rintro rfl
    exact UInt32.not_lt.2 (UInt32.le_iff_toNat_le.2 (Nat.zero_le _)) later
  unfold CaptureSchedule.renew
  rw [if_neg (by simp [active, own]),
    if_neg (by simp [positive, UInt16.not_lt.2 long, UInt16.not_lt.2 short]),
    if_neg (UInt32.ne_of_lt later).symm, if_neg (UInt32.lt_asymm later)]
  exact ⟨_, rfl, active, own, rfl, rfl⟩

/-- The client takes the answer to a renewal, and it matches. -/
theorem renewal_reply
    {call : LeaseCall}
    {renewal answer : LeaseRenewal}
    {request : Firmware.Mcu.FrameView}
    (sequence : request.sequence = call.sequence)
    {remainingMs : UInt32}
    (positive : 0 < remainingMs)
    (within : remainingMs ≤ renewal.leaseTimeoutMs)
    (taken :
      call.renewal
          (some (App.reply request Firmware.Message.renewPeriodicLease
            (renewal.bootId.toList ++ renewal.scheduleId.toList ++
              writeU32 renewal.leaseSequence ++ writeU32 remainingMs))) =
        .ok answer) :
    renewal.isMatchedBy answer = true := by
  have short :
      (renewal.bootId.toList ++ renewal.scheduleId.toList ++
        writeU32 renewal.leaseSequence ++ writeU32 remainingMs).length ≤
          Frame.hostMaxPayloadLength := by
    simp only [List.length_append, List.Vector.toList_length,
      length_writeU32]
    decide
  have checked :=
    Method.checked_reply short request .renewPeriodicLease (by decide)
  rw [sequence] at checked
  unfold LeaseCall.renewal at taken
  have code :
      Firmware.Message.renewPeriodicLease =
        Host.MessageType.renewPeriodicLease.code :=
    rfl
  rw [code, checked, ok_bind] at taken
  obtain ⟨result, decoded, final⟩ := bind_eq_ok.1 taken
  cases final
  obtain ⟨⟨⟩, -, decoded⟩ := bind_eq_ok.1 decoded
  obtain ⟨⟨⟩, -, decoded⟩ := bind_eq_ok.1 decoded
  cases decoded
  simp [LeaseRenewal.isMatchedBy, responseFrame, slice_append_right,
    slice_append_left, readU32_append_right, readU32_writeU32,
    readU32_writeU32_last, positive, within]

/-- The device runs a schedule of the host. -/
def RunsSchedule (app : App) (schedule : PeriodicSchedule) : Prop :=
  app.periodic.active = true ∧ app.periodic.scheduleId = schedule.scheduleId

/-- The renewal that goes beyond a sequence. -/
structure Renews
    (schedule : PeriodicSchedule)
    (sequence : Nat)
    (renewal : LeaseRenewal) :
    Prop where
  bootId : renewal.bootId = schedule.bootId
  scheduleId : renewal.scheduleId = schedule.scheduleId
  next : renewal.leaseSequence.toNat = sequence + 1
  timeout : renewal.leaseTimeoutMs = schedule.leaseTimeoutMs

/-- What becomes of a renewal at the device. -/
inductive Renewed
    (app : App)
    (schedule : PeriodicSchedule)
    (call : LeaseCall)
    (renewal : LeaseRenewal) :
    App × Option (List UInt8) → Prop where
  | refused
      (response : Option (List UInt8))
      (idle : ¬RunsSchedule app schedule)
      (raises : ∀ answer, call.renewal response ≠ .ok answer) :
      Renewed app schedule call renewal (app, response)
  | restarted
      (next : App)
      (response : Option (List UInt8))
      (runs : RunsSchedule app schedule)
      (still : RunsSchedule next schedule)
      (bootId : next.bootId = app.bootId)
      (sequence : next.periodic.leaseSequence = renewal.leaseSequence)
      (remaining :
        next.periodic.leaseRemainingUs.toNat =
          schedule.leaseTimeoutMs.toNat * 1000)
      (matched : ∀ answer, call.renewal response = .ok answer →
        renewal.isMatchedBy answer = true) :
      Renewed app schedule call renewal (next, response)

/-- The milliseconds left of a whole lease. -/
theorem leaseRemainingMs_whole
    {schedule : CaptureSchedule}
    {leaseTimeoutMs : UInt32}
    (active : schedule.active = true)
    (short : leaseTimeoutMs ≤ 10000)
    (remaining :
      schedule.leaseRemainingUs = leaseTimeoutMs.toUInt16.toUInt32 * 1000) :
    schedule.leaseRemainingMs.toUInt32 = leaseTimeoutMs := by
  have bound : leaseTimeoutMs.toNat ≤ 10000 := UInt32.le_iff_toNat_le.1 short
  have narrow : leaseTimeoutMs.toUInt16.toNat = leaseTimeoutMs.toNat := by
    rw [UInt32.toNat_toUInt16]
    exact Nat.mod_eq_of_lt (show leaseTimeoutMs.toNat < 65536 by omega)
  apply UInt32.toNat_inj.1
  unfold CaptureSchedule.leaseRemainingMs
  rw [if_neg (by simp [active]), remaining, UInt16.toNat_toUInt32,
    UInt32.toNat_toUInt16, UInt32.toNat_div, CaptureSchedule.toNat_leaseUs,
    narrow]
  have whole :
      leaseTimeoutMs.toNat * 1000 / UInt32.toNat 1000 = leaseTimeoutMs.toNat :=
    Nat.mul_div_cancel _ (by decide)
  rw [whole]
  exact Nat.mod_eq_of_lt (show leaseTimeoutMs.toNat < 65536 by omega)

/-- A dispatched renewal reaches its handler. -/
theorem handle_dispatched_renewal
    {app : App}
    {request : Firmware.Mcu.FrameView}
    (dispatched :
      app.Dispatched request Firmware.Message.renewPeriodicLease)
    (hardware : Hardware) :
    app.handle request App.responseCapacity hardware =
      app.handleRenewPeriodic request App.responseCapacity := by
  simp [App.handle, dispatched.flags, dispatched.established,
    dispatched.messageType, Firmware.Message.renewPeriodicLease,
    Firmware.Message.hello, Firmware.Message.getCapabilities,
    Firmware.Message.getStatus, Firmware.Message.getConfig,
    Firmware.Message.setConfig, Firmware.Message.runIo2LoopbackTest,
    Firmware.Message.captureOnce, Firmware.Message.startPeriodic]

/-- A renewal of the schedule the device runs restarts the lease, and the client
takes the answer. Any other is refused. -/
theorem deliver_renewal
    {app : App}
    (opened : app.ScheduleOpen)
    {schedule : PeriodicSchedule}
    {sequence : Nat}
    {call : LeaseCall}
    {renewal : LeaseRenewal}
    (asks : call.request = .renew schedule renewal)
    (encoded : call.request.request.payload = .ok call.payload)
    (renews : Renews schedule sequence renewal)
    (valid : schedule.validate = .ok ())
    (agrees : RunsSchedule app schedule →
      app.bootId = schedule.bootId ∧
        app.periodic.leaseSequence.toNat = sequence)
    (hardware : Hardware) :
    Renewed app schedule call renewal
      (Exchange.deliver ⟨[], hardware⟩ app call.frame) := by
  obtain ⟨long, short⟩ := schedule.lease_of_validate valid
  have positive : 1 ≤ renewal.leaseSequence := by
    rw [UInt32.le_iff_toNat_le, renews.next]
    exact Nat.le_add_left 1 sequence
  have approved : call.request.request.Approved := by
    rw [asks]
    exact ⟨positive, renews.timeout ▸ long, renews.timeout ▸ short⟩
  have accepted : (received call.frame).Accepted :=
    accepted_request approved encoded call.sequence
  rw [Exchange.deliver, if_pos accepted]
  show Renewed app schedule call renewal
    ((app.handle (received call.frame) App.responseCapacity hardware).app,
      (app.handle (received call.frame) App.responseCapacity hardware).response)
  have type :
      (received call.frame).messageType = Firmware.Message.renewPeriodicLease := by
    unfold LeaseCall.frame
    rw [asks]
    rfl
  have flags : (received call.frame).flags = 0 := rfl
  have refusal (errorCode : UInt16) (answer : LeaseRenewal) :
      call.renewal
          (app.encodeError (received call.frame) errorCode 0 0
            App.responseCapacity) ≠
        .ok answer := by
    intro taken
    obtain ⟨frame, checked, -⟩ := bind_eq_ok.1 taken
    obtain ⟨raised, failed, -⟩ :=
      Method.checked_refusal app (received call.frame) errorCode 0 0
        call.sequence .renewPeriodicLease
    rw [failed] at checked
    cases checked
  by_cases established : app.helloEstablished = true
  swap
  · rw [App.handle, if_neg (not_not.2 flags), if_neg (by rw [type]; decide),
      if_pos (by simpa using established)]
    exact .refused _ (fun runs => established (opened runs.1)) (refusal _)
  rw [handle_dispatched_renewal ⟨flags, established, type⟩]
  rw [asks] at encoded
  obtain ⟨same, -⟩ := fields_of_renewal encoded
  obtain ⟨bootId, scheduleId, leaseSequence, timeout⟩ :=
    RenewPeriodicLease.mk.inj same
  have payload : (received call.frame).payload = call.payload := rfl
  unfold App.handleRenewPeriodic
  rw [payload, ← bootId, ← scheduleId, ← leaseSequence, ← timeout]
  by_cases runs : RunsSchedule app schedule
  · obtain ⟨sameBoot, sameSequence⟩ := agrees runs
    have later : app.periodic.leaseSequence < renewal.leaseSequence := by
      rw [UInt32.lt_iff_toNat_lt, renews.next, sameSequence]
      exact Nat.lt_succ_self _
    have bound : schedule.leaseTimeoutMs.toNat ≤ 10000 :=
      UInt32.le_iff_toNat_le.1 short
    have narrow :
        renewal.leaseTimeoutMs.toUInt16.toNat =
          schedule.leaseTimeoutMs.toNat := by
      rw [renews.timeout, UInt32.toNat_toUInt16]
      exact Nat.mod_eq_of_lt
        (show schedule.leaseTimeoutMs.toNat < 65536 by omega)
    obtain ⟨renewed, restarts, active, own, numbered, remaining⟩ :=
      renew_restarts runs.1 (runs.2.trans renews.scheduleId.symm) later
        (UInt16.le_iff_toNat_le.2 (by
          rw [narrow]
          exact UInt32.le_iff_toNat_le.1 long))
        (UInt16.le_iff_toNat_le.2 (by
          rw [narrow]
          exact bound))
    rw [if_neg (not_not.2 (renews.bootId.trans sameBoot.symm)), restarts]
    refine .restarted _ _ runs ⟨active, own.trans renews.scheduleId⟩ rfl numbered
      ?_ ?_
    · show renewed.leaseRemainingUs.toNat = _
      rw [remaining, CaptureSchedule.toNat_leaseUs, narrow]
    · intro answer taken
      dsimp only [App.answer] at taken
      rw [App.respond_fits (by simp),
        leaseRemainingMs_whole active (renews.timeout ▸ short) remaining, own,
        numbered, sameBoot, ← renews.bootId] at taken
      refine renewal_reply rfl ?_ UInt32.le_rfl taken
      rw [UInt32.lt_iff_toNat_lt, renews.timeout]
      exact Nat.lt_of_lt_of_le (by decide) (UInt32.le_iff_toNat_le.1 long)
  · split_ifs
    · exact .refused _ runs (refusal _)
    · split
      · rename_i renewed ok
        obtain ⟨active, own, -⟩ := CaptureSchedule.renew_ok ok
        exact absurd ⟨active, own.trans renews.scheduleId⟩ runs
      · exact .refused _ runs (refusal _)

/-- An acknowledged START_PERIODIC has started its schedule. -/
theorem deliver_start
    {app : App}
    {requestId : Bytes 16}
    {schedule : PeriodicSchedule}
    {call : LeaseCall}
    {hardware : Hardware}
    (asks : call.request = .start requestId schedule)
    (encoded : call.request.request.payload = .ok call.payload)
    (valid : schedule.validate = .ok ())
    (taken :
      call.acknowledgement requestId
          (Exchange.deliver ⟨[], hardware⟩ app call.frame).2 =
        .ok ()) :
    let next := (Exchange.deliver ⟨[], hardware⟩ app call.frame).1
    next.bootId = app.bootId ∧ next.periodic.leaseSequence = 0 ∧
      next.periodic.leaseRemainingUs.toNat =
        schedule.leaseTimeoutMs.toNat * 1000 := by
  obtain ⟨frame, checked, -⟩ := bind_eq_ok.1 taken
  have acknowledged := answeredWith_of_checked checked
  unfold Exchange.deliver at acknowledged ⊢
  split at acknowledged
  swap
  · exact absurd acknowledged Bool.false_ne_true
  rename_i accepted
  rw [if_pos accepted]
  have type :
      (received call.frame).messageType = Firmware.Message.startPeriodic := by
    unfold LeaseCall.frame
    rw [asks]
    rfl
  obtain ⟨started, starts⟩ :=
    (Firmware.Board.acknowledged_start_iff type hardware).1 acknowledged
  obtain ⟨first, -, remaining⟩ := CaptureSchedule.start_lease starts.accepted
  rw [asks] at encoded
  have decoded := (Host.StartPeriodicRequest.exact call.payload _).2 encoded
  obtain ⟨⟨⟩, -, decoded⟩ := bind_eq_ok.1 decoded
  obtain ⟨_, -, decoded⟩ := bind_eq_ok.1 decoded
  have timeout : readU32 call.payload 76 = schedule.leaseTimeoutMs :=
    (Host.StartPeriodicRequest.mk.inj (Except.ok.inj decoded)).2.2.2.2.2.2
  have bound : schedule.leaseTimeoutMs.toNat ≤ 10000 :=
    UInt32.le_iff_toNat_le.1 (schedule.lease_of_validate valid).2
  have next :
      (app.handle (received call.frame) App.responseCapacity hardware).app =
        { app with
          periodic := started
          periodicRequestId := App.requestId (received call.frame)
          lastError := 0 } :=
    Firmware.Board.handle_starts starts hardware
  show
    (app.handle (received call.frame) App.responseCapacity hardware).app.bootId =
        app.bootId ∧
      (app.handle (received call.frame) App.responseCapacity
          hardware).app.periodic.leaseSequence = 0 ∧
        (app.handle (received call.frame) App.responseCapacity
          hardware).app.periodic.leaseRemainingUs.toNat = _
  rw [next]
  refine ⟨rfl, first, ?_⟩
  have payload : (received call.frame).payload = call.payload := rfl
  show started.leaseRemainingUs.toNat = _
  rw [remaining, CaptureSchedule.toNat_leaseUs, payload, timeout,
    UInt32.toNat_toUInt16]
  rw [Nat.mod_eq_of_lt (show schedule.leaseTimeoutMs.toNat < 65536 by omega)]

/-- A call keeps an active schedule within its session, and the name of the
session. -/
theorem deliver_session
    {app : App}
    (opened : app.ScheduleOpen)
    (named : SessionNamed app)
    (frame : Frame)
    (hardware : Hardware) :
    (Exchange.deliver ⟨[], hardware⟩ app frame).1.ScheduleOpen ∧
      SessionNamed (Exchange.deliver ⟨[], hardware⟩ app frame).1 := by
  unfold Exchange.deliver
  split
  · exact ⟨opened.handleEffect (App.handle_effect _ _ hardware),
      sessionNamed_handle named _ hardware⟩
  · exact ⟨opened, named⟩

end Usac.Link
