import Usac.Link.SimulatorCommands

namespace Usac.Link

open Library
open Firmware (App Hardware)
open Host (Frame SimulatedDevice bind_eq_ok ok_bind require_eq_ok require_pos)

/-!
# The simulator refines the firmware

A run of commands, polls and clock advances in which no step meets one of the
differences treats every command alike.
-/

namespace Pair

variable
  {pair : Pair}
  {request : PeriodicRequest}
  {hardware : Hardware}

/-- A command that changes nothing in the firmware may be answered again. -/
theorem keeps_kept
    (paired : pair.Paired)
    (polled : pair.Polled)
    {frames : List Frame}
    (kept : pair.device.completed.lookup (key request) = some frames)
    (alike : pair.KeptAlike request.command) :
    pair.Keeps (.command request hardware) := by
  cases command : request.command with
  | hello message =>
      rw [command] at alike
      obtain ⟨overlaps, same⟩ := alike
      have encoded := request.encoded
      rw [command] at encoded
      have answered :=
        answer_hello pair.app encoded overlaps request.sequence hardware
      rw [same, paired.greetedApp_same] at answered
      refine keeps_of_kept kept ?_ paired polled
      unfold PeriodicRequest.frame
      rw [command]
      exact answered
  | startPeriodic message =>
      rw [command] at alike
      exact alike.elim
  | renewPeriodic message =>
      rw [command] at alike
      obtain ⟨⟨active, boot, own⟩, long, repeats⟩ := alike
      have encoded := request.encoded
      rw [command] at encoded
      have fields := renewFields encoded
      obtain ⟨held, periods, -, running⟩ := paired.running active
      obtain ⟨renews, -⟩ :=
        running.renewed fields.later long fields.short own (.inr repeats)
      have unchanged :
          Running.renewedBy pair.app.periodic message = pair.app.periodic := by
        unfold Running.renewedBy
        rw [repeats.1, if_neg (UInt32.lt_irrefl _)]
      rw [unchanged] at renews
      refine keeps_of_kept kept ?_ paired polled
      unfold PeriodicRequest.frame
      rw [command]
      exact answer_renew_served paired encoded long boot renews
        request.sequence hardware
  | stop message =>
      rw [command] at alike
      obtain ⟨inactive, missed⟩ := alike
      have encoded := request.encoded
      rw [command] at encoded
      have stops : pair.Stops message := by
        intro active
        rw [inactive] at active
        cases active
      have answered :=
        answer_stop_served paired stops request.sequence hardware
      have cleared :
          Paired { pair with
            app := { pair.app with periodic := .init, lastError := 0 } } := by
        refine { paired with scheduled := ?_ }
        dsimp only
        rw [missed]
        exact .cleared (paired.late inactive)
      refine keeps_of_kept kept ?_ cleared polled
      unfold PeriodicRequest.frame
      rw [command, ← Except.ok.inj encoded]
      exact answered
  | status =>
      exact keeps_of_kept kept (answer_status paired command hardware) paired
        polled

/-- Every command that both sides take alike is treated alike. -/
theorem keeps_command
    (paired : pair.Paired)
    (taken : pair.TakenAlike (.command request hardware)) :
    pair.Keeps (.command request hardware) := by
  obtain ⟨timely, alike⟩ := taken
  cases kept : pair.device.completed.lookup (key request) with
  | some frames =>
      rw [kept, if_pos Option.isSome_some] at alike
      refine keeps_kept paired (timely fun ends => ?_) kept alike
      cases command : request.command with
      | stop message =>
          rw [command] at alike ends
          have inactive : pair.app.periodic.active = false := alike.1
          have active : pair.app.periodic.active = true := ends.1
          rw [inactive] at active
          cases active
      | hello | startPeriodic | renewPeriodic | status =>
          rw [command] at ends
          exact ends
  | none =>
      rw [kept, if_neg (by decide)] at alike
      cases command : request.command with
      | hello message =>
          have polled := timely (by rw [command]; exact id)
          exact keeps_hello paired polled command kept alike
      | startPeriodic message =>
          have polled := timely (by rw [command]; exact id)
          exact keeps_start paired polled command kept alike
      | renewPeriodic message =>
          have polled := timely (by rw [command]; exact id)
          exact keeps_renew paired polled command kept alike
      | stop message => exact keeps_stop paired command timely kept alike
      | status =>
          have polled := timely (by rw [command]; exact id)
          exact keeps_status paired polled command kept

/-! ## Time and polls -/

/-- Time passes on both sides. -/
theorem keeps_advance
    (paired : pair.Paired)
    {elapsedUs : UInt32}
    (taken : pair.TakenAlike (.advance elapsedUs hardware)) :
    pair.Keeps (.advance elapsedUs hardware) := by
  refine ⟨?_, by rintro verdict ⟨⟩⟩
  show Paired {
    device := pair.device
    app := (pair.app.advanceTime elapsedUs hardware).app
    clockUs := pair.clockUs + elapsedUs.toNat
  }
  unfold App.advanceTime
  by_cases inactive : pair.app.periodic.active = false
  · have scheduled := paired.scheduled
    rw [if_pos inactive]
    refine { paired with scheduled := ?_ }
    refine .resting inactive ?_ fun held schedule =>
      Nat.le_add_right_of_le (paired.late inactive held schedule)
    generalize pair.device.schedule = simulated at scheduled
    cases scheduled with
    | resting _ counted _ => exact counted
    | running running => rw [running.active] at inactive; cases inactive
  · have active : pair.app.periodic.active = true := by simpa using inactive
    obtain ⟨held, periods, schedule, running⟩ := paired.running active
    rw [if_neg inactive]
    rcases running.advance elapsedUs with
      ⟨ended, expires, late⟩ | ⟨advanced, later, advances, stillRunning⟩
    · rw [expires]
      refine { paired with scheduled := ?_ }
      dsimp only
      rw [taken active ended, schedule]
      exact .cleared (by rintro _ ⟨⟩; exact late)
    · rw [advances]
      refine { paired with scheduled := ?_ }
      dsimp only [App.answer]
      rw [schedule]
      exact .running stillRunning

/-- Without a due capture a turn of the main loop changes nothing. -/
theorem Paired.turn_idle
    (paired : pair.Paired)
    (idle : pair.app.periodicDue = false)
    (hardware : Hardware) :
    turn pair.app hardware = pair.app := by
  unfold turn App.runPeriodicCapture
  rw [if_pos idle, App.answer, ← paired.free]

/-- A turn of the main loop with a due capture that completes. -/
theorem turn_due
    {app : App}
    (due : app.periodicDue = true)
    (applies : hardware.applyResult = .ok)
    (ran : hardware.captureRan = true)
    (complete :
      hardware.captureReport.isComplete app.config.pretriggerCount = true) :
    turn app hardware =
      { app.capturedPeriodic hardware.captureReport with
        capturePending := false } := by
  unfold turn App.runPeriodicCapture
  dsimp only
  rw [if_neg (by simp [due]), if_neg (not_not.2 applies),
    if_neg (by simp [ran, complete])]

/-- A configured device makes a capture while its sequence has four bytes. -/
theorem makeCapture_fits
    {device : SimulatedDevice}
    {bootId : Bytes 16}
    {config : Host.AcquisitionConfigV2}
    (boot : device.bootId = some bootId)
    (configured : device.config = some config)
    (counts : device.captureSequence + 1 < 2 ^ 32)
    (requestId scheduleId : Bytes 16) :
    ∃ capture,
      device.makeCapture requestId scheduleId =
        (.ok capture,
          { device with captureSequence := device.captureSequence + 1 }) := by
  unfold SimulatedDevice.makeCapture SimulatedDevice.requireConfig
    SimulatedDevice.requireHello
  rw [boot, configured]
  dsimp only
  rw [ok_bind, ok_bind, require_pos counts, ok_bind]
  exact ⟨_, rfl⟩

/-- A poll that makes a capture. -/
theorem poll_due
    {device : SimulatedDevice}
    {held : Host.SimulatedSchedule}
    {now : Nat}
    {bootId : Bytes 16}
    {config : Host.AcquisitionConfigV2}
    (boot : device.bootId = some bootId)
    (configured : device.config = some config)
    (schedule : device.schedule = some held)
    (early : now < held.leaseDeadlineUs)
    (late : ¬now < held.nextCaptureUs)
    (counts : device.captureSequence + 1 < 2 ^ 32) :
    let overdue := (now - held.nextCaptureUs) / held.periodUs.toNat
    let completed :=
      { held with
        nextCaptureUs :=
          held.nextCaptureUs + (overdue + 1) * held.periodUs.toNat
        completedCount := held.completedCount + 1 }
    (device.poll now).2 =
      { device with
        missedCaptureCount := device.missedCaptureCount + overdue
        captureSequence := device.captureSequence + 1
        schedule :=
          if held.captureCount ≠ 0 ∧
              held.captureCount.toNat ≤ held.completedCount + 1 then
            none
          else
            some completed } := by
  intro overdue completed
  unfold SimulatedDevice.poll
  rw [schedule, nowUs_natCast]
  dsimp only
  rw [if_neg (Nat.not_le.2 early), if_neg late]
  let missed : SimulatedDevice :=
    { device with
      missedCaptureCount := device.missedCaptureCount + overdue
      schedule :=
        some { held with
          nextCaptureUs :=
            held.nextCaptureUs + (overdue + 1) * held.periodUs.toNat } }
  obtain ⟨capture, made⟩ :=
    @makeCapture_fits missed bootId config boot configured counts
      held.requestId held.scheduleId
  rw [show missed.makeCapture held.requestId held.scheduleId = _ from made]

/-- A capture that both sides make. -/
theorem Paired.captured
    (paired : pair.Paired)
    {held : Host.SimulatedSchedule}
    {periods : Nat}
    (schedule : pair.device.schedule = some held)
    (running :
      Running pair.clockUs pair.device.missedCaptureCount periods held
        pair.app.periodic)
    (begun : 0 < periods)
    (alike : pair.CapturesAlike hardware) :
    Paired {
      device := (pair.device.poll pair.clockUs).2
      app := turn pair.app hardware
      clockUs := pair.clockUs
    } := by
  obtain ⟨applies, ran, complete, captures, counts⟩ := alike
  have due : pair.app.periodicDue = true := by
    simp [App.periodicDue, running.active, running.due, begun, paired.clock,
      paired.free]
  have late : ¬pair.clockUs < held.nextCaptureUs :=
    fun early => begun.ne' (running.lt_next_iff.1 early)
  have missed := counts held schedule
  have polled :=
    poll_due paired.boot paired.config schedule running.early late captures
  dsimp only at polled
  rw [running.overdue begun] at missed polled
  rw [Nat.sub_add_cancel begun] at polled
  rw [polled, turn_due due applies ran complete]
  refine {
    established := paired.established
    idle := paired.idle
    configValid := paired.configValid
    free := rfl
    clock := paired.clock
    device := paired.device
    session := paired.session
    boot := paired.boot
    config := paired.config
    captures := captures
    missed := missed
    scheduled := ?_
  }
  dsimp only [App.capturedPeriodic]
  by_cases finished :
      held.captureCount ≠ 0 ∧
        held.captureCount.toNat ≤ held.completedCount + 1
  · obtain ⟨inactive, counted⟩ := running.claim_last begun finished
    rw [if_pos finished, if_neg (by simp [inactive])]
    exact .resting inactive counted (by rintro held ⟨⟩)
  · have claimed := running.claim begun finished
    rw [if_neg finished, if_pos claimed.active]
    exact .running claimed

/-- One turn of the main loop on both sides. -/
theorem keeps_poll
    (paired : pair.Paired)
    (taken : pair.TakenAlike (.poll hardware)) :
    pair.Keeps (.poll hardware) := by
  refine ⟨?_, by rintro verdict ⟨⟩⟩
  show Paired {
    device := (pair.device.poll pair.clockUs).2
    app := turn pair.app hardware
    clockUs := pair.clockUs
  }
  by_cases active : pair.app.periodic.active = true
  · obtain ⟨held, periods, schedule, running⟩ := paired.running active
    rcases Nat.eq_zero_or_pos periods with none | begun
    · have idle : pair.app.periodicDue = false := by
        simp [App.periodicDue, running.due, none]
      rw [paired.turn_idle idle]
      unfold SimulatedDevice.poll
      rw [schedule, nowUs_natCast]
      dsimp only
      rw [if_neg (Nat.not_le.2 running.early),
        if_pos (running.lt_next_iff.2 none)]
      exact paired
    · have due : pair.app.periodicDue = true := by
        simp [App.periodicDue, running.active, running.due, begun,
          paired.clock, paired.free]
      exact paired.captured schedule running begun (taken due)
  · have inactive : pair.app.periodic.active = false := by simpa using active
    have idle : pair.app.periodicDue = false := by
      simp [App.periodicDue, inactive]
    have late := paired.late inactive
    have scheduled := paired.scheduled
    rw [paired.turn_idle idle]
    unfold SimulatedDevice.poll
    cases schedule : pair.device.schedule with
    | none => exact paired
    | some held =>
        rw [nowUs_natCast]
        dsimp only
        rw [if_pos (late held schedule)]
        refine { paired with scheduled := ?_ }
        rw [schedule] at scheduled
        cases scheduled with
        | resting _ counted _ =>
            exact .resting inactive counted (by rintro held ⟨⟩)
        | running running => rw [running.active] at inactive; cases inactive

/-! ## Runs -/

/-- Every input that both sides take alike keeps what they have in common. -/
theorem keeps_input
    (paired : pair.Paired)
    {input : Input}
    (taken : pair.TakenAlike input) :
    pair.Keeps input := by
  cases input with
  | command request hardware => exact keeps_command paired taken
  | poll hardware => exact keeps_poll paired taken
  | advance elapsedUs hardware => exact keeps_advance paired taken

/-- The condition on one recorded step. -/
def StepsAlike (event : Event Pair Input (Option Verdict)) : Prop :=
  event.source.TakenAlike event.input

instance (event : Event Pair Input (Option Verdict)) :
    Decidable (StepsAlike event) :=
  inferInstanceAs (Decidable (event.source.TakenAlike event.input))

/--
From a configuration applied on both sides, a run that meets none of the
differences treats every command alike.
-/
theorem every_command_treated_alike
    {start : Pair}
    (configured : start.Configured)
    (inputs : List Input)
    (taken :
      EveryStep (fun _ event => StepsAlike event)
        (machine.trace start inputs)) :
    EveryStep (fun _ event => TreatedAlike event)
      (machine.trace start inputs) := by
  refine machine.everyStep_of_invariant (fun _ pair => pair.Paired)
    configured.paired ?_ ?_ inputs taken
  · intro _ pair input paired alike
    exact (keeps_input paired alike).paired
  · intro _ pair input paired alike verdict given
    have kept := keeps_input paired alike
    obtain ⟨same, polled⟩ := kept.alike verdict given
    exact ⟨same, kept.paired.reports polled⟩

/-- Both sides in a session, with the boot configuration. -/
def booted : Pair where
  device :=
    { SimulatedDevice.init with
      bootId :=
        some (Firmware.bootIdDerive SimulatedDevice.init.deviceId
          (Bytes.zero 16))
      config := some (hostConfig Firmware.ConfigV2.initD10x4) }
  app :=
    (App.boot SimulatedDevice.init.deviceId .ok 0x08).greeted (Bytes.zero 16)
  clockUs := 0

theorem booted_configured : booted.Configured where
  established := rfl
  idle := rfl
  configValid := rfl
  free := rfl
  clock := rfl
  device := rfl
  session := rfl
  boot := rfl
  config := rfl
  inactive := rfl
  unscheduled := rfl
  missed := rfl
  unmissed := rfl
  captures := by decide

/-- A START_PERIODIC at the fastest rate. -/
def startRequest : PeriodicRequest where
  sequence := 1
  command := .startPeriodic {
    requestId := Bytes.zero 16
    scheduleId := Firmware.Id16.ofByte 1
    expectedProfileSha256 := booted.app.config.profileSha256
    expectedDeviceConfigCrc32 := booted.app.config.deviceConfigCrc32
    periodUs := 100000
    captureCount := 0
    leaseTimeoutMs := 5000
  }
  payload :=
    (Bytes.zero 16).toList ++ (Firmware.Id16.ofByte 1).toList ++
      booted.app.config.profileSha256.toList ++
      writeU32 booted.app.config.deviceConfigCrc32 ++ writeU32 100000 ++
      writeU32 0 ++ writeU32 5000
  encoded := rfl

/-- The session of the two has an identity. -/
theorem booted_named : booted.app.bootId ≠ Bytes.zero 16 := by
  decide +kernel

/-- A renewal of its lease. -/
def renewRequest
    (sequence leaseSequence : UInt32)
    (numbered : 1 ≤ leaseSequence) :
    PeriodicRequest where
  sequence := sequence
  command := .renewPeriodic {
    bootId := booted.app.bootId
    scheduleId := Firmware.Id16.ofByte 1
    leaseSequence := leaseSequence
    leaseTimeoutOrRemainingMs := 2000
  }
  payload :=
    booted.app.bootId.toList ++ (Firmware.Id16.ofByte 1).toList ++
      writeU32 leaseSequence ++ writeU32 2000
  encoded :=
    bind_eq_ok.2 ⟨(),
      bind_eq_ok.2 ⟨(),
        require_eq_ok.2 (not_or.2 ⟨booted_named,
          show Firmware.Id16.ofByte 1 ≠ Bytes.zero 16 by decide⟩),
        bind_eq_ok.2 ⟨(), require_eq_ok.2 numbered,
          require_eq_ok.2 (show (2000 : UInt32) ≤ 10000 by decide)⟩⟩,
      rfl⟩

/-- A STOP of it. -/
def stopRequest : PeriodicRequest where
  sequence := 3
  command := .stop ⟨Bytes.zero 16, Firmware.Id16.ofByte 1⟩
  payload := Host.StopRequest.encode ⟨Bytes.zero 16, Firmware.Id16.ofByte 1⟩
  encoded := rfl

/-- A schedule that is renewed, captures once and is stopped. -/
theorem every_command_treated_alike_renewedSchedule :
    EveryStep (fun _ event => TreatedAlike event)
      (machine.trace booted
        [.command startRequest .nominal,
          .command (renewRequest 2 1 (by decide)) .nominal,
          .advance 100000 .nominal, .poll .nominal,
          .command stopRequest .nominal]) :=
  every_command_treated_alike booted_configured _ (by decide +kernel)

/-- A renewal under an earlier sequence is accepted by the simulator and
refused by the firmware. -/
theorem not_treated_alike_staleRenewal :
    booted.Configured ∧
      ¬EveryStep (fun _ event => TreatedAlike event)
        (machine.trace booted
          [.command startRequest .nominal,
            .command (renewRequest 2 2 (by decide)) .nominal,
            .command (renewRequest 3 1 (by decide)) .nominal]) := by
  refine ⟨booted_configured, fun every => ?_⟩
  have last :
      ((machine.trace booted
        [.command startRequest .nominal,
          .command (renewRequest 2 2 (by decide)) .nominal,
          .command (renewRequest 3 1 (by decide)) .nominal]).getLast?.bind
        (·.output)) = some ⟨true, false⟩ := by
    decide +kernel
  obtain ⟨event, final, given⟩ := Option.bind_eq_some_iff.1 last
  have alike :=
    (EveryStep.forall_iff _ _).1 every event (List.mem_of_getLast? final)
  exact absurd (alike _ given).1 (by decide)

end Pair

end Usac.Link
