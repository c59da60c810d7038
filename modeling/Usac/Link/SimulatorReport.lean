import Usac.Host.MessageFormat
import Usac.Link.SimulatorPair
import Usac.Link.Understanding

namespace Usac.Link

open Library
open Firmware (App)
open Host (Raised SimulatedDevice StatusResponse require_eq_ok require_pos
  bind_eq_ok ok_bind)

/-!
# What the simulator and the firmware report

While the schedules agree and every period has been polled, the two status
responses agree in the fields of the schedule.
-/

namespace PeriodicReport

/-- The report of a status. -/
def ofStatus (status : StatusResponse) : PeriodicReport where
  activeScheduleId := status.activeScheduleId
  leaseSequence := status.leaseSequence
  leaseRemainingMs := status.leaseRemainingMs
  missedCaptureCount := status.missedCaptureCount

/-- The report in an encoded status. -/
theorem read_of_encode
    {status : StatusResponse}
    {payload : List UInt8}
    (encoded : status.encode = .ok payload) :
    read payload = ofStatus status := by
  have decoded := (StatusResponse.exact payload status).2 encoded
  obtain ⟨⟨⟩, -, decoded⟩ := bind_eq_ok.1 decoded
  obtain ⟨⟨⟩, -, decoded⟩ := bind_eq_ok.1 decoded
  obtain ⟨⟨⟩, -, decoded⟩ := bind_eq_ok.1 decoded
  cases decoded
  rfl

/-- The report in the status of the firmware. -/
theorem read_statusPayload (app : App) :
    read app.statusPayload = ofStatus (Content.statusValues app) := by
  have last (value : UInt32) : readU32 (writeU32 value) 0 = value :=
    readU32_writeU32_last value
  rw [Content.statusPayload_eq]
  simp [read, ofStatus, slice_append_right, slice_append_left,
    slice_cons_succ, readU32_append_right, readU32_cons_succ,
    readU32_writeU32, last]
  rfl

end PeriodicReport

namespace Pair

/-- A count that has four bytes. -/
theorem packWord32_eq
    {value : Nat}
    (small : value < 2 ^ 32) :
    SimulatedDevice.packWord32 value = .ok value.toUInt32 := by
  unfold SimulatedDevice.packWord32
  rw [require_pos small]
  rfl

/-- An output is enabled or not. -/
theorem outputEnabled_level
    (config : Option Host.AcquisitionConfigV2)
    (mask : UInt8) :
    SimulatedDevice.outputEnabled config mask = 0 ∨
      SimulatedDevice.outputEnabled config mask = 1 := by
  unfold SimulatedDevice.outputEnabled
  split
  · exact .inr rfl
  · exact .inl rfl

/-- The lease of a device that is not late. -/
def remainingMs (device : SimulatedDevice) (now : Nat) : Nat :=
  (device.schedule.map fun schedule : Host.SimulatedSchedule =>
    schedule.leaseRemainingMs now).getD 0

/-- What a device reports that is not late. -/
def heldReport (device : SimulatedDevice) (now : Nat) : PeriodicReport where
  activeScheduleId :=
    (device.schedule.map (·.scheduleId)).getD (Bytes.zero 16)
  leaseSequence := (device.schedule.map (·.leaseSequence)).getD 0
  leaseRemainingMs := (remainingMs device now).toUInt32
  missedCaptureCount := device.missedCaptureCount.toUInt32

/-- The status of a device that is not late can be sent. -/
theorem status_sent
    {device : SimulatedDevice}
    {now : Nat}
    (bootId : Bytes 16)
    (captures : device.captureSequence < 2 ^ 32)
    (missed : device.missedCaptureCount < 2 ^ 32)
    (short : remainingMs device now < 2 ^ 32)
    (named : ∀ held ∈ device.schedule, held.scheduleId ≠ Bytes.zero 16) :
    ∃ status,
      device.status bootId now = .ok status ∧
        status.validate = .ok () ∧
        PeriodicReport.ofStatus status = heldReport device now := by
  have levels (config : Option Host.AcquisitionConfigV2) :
      ∀ level ∈
        [(1 : UInt8), SimulatedDevice.outputEnabled config 0x01,
          SimulatedDevice.outputEnabled config 0x02],
        level = 0 ∨ level = 1 :=
    List.forall_mem_cons.2 ⟨.inr rfl,
      List.forall_mem_cons.2 ⟨outputEnabled_level _ _,
        List.forall_mem_singleton.2 (outputEnabled_level _ _)⟩⟩
  have idle :
      ¬((device.schedule.map (·.scheduleId)).getD (Bytes.zero 16) =
            Bytes.zero 16 ∧
          ((device.schedule.map (·.leaseSequence)).getD 0 ≠ 0 ∨
            (remainingMs device now).toUInt32 ≠ 0)) := by
    cases held : device.schedule with
    | none => simp [remainingMs, held]
    | some schedule => simp [named schedule held]
  unfold SimulatedDevice.status
  rw [packWord32_eq captures, ok_bind, packWord32_eq missed, ok_bind]
  have packed := packWord32_eq short
  unfold remainingMs at packed
  rw [packed, ok_bind]
  refine ⟨_, rfl, ?_, rfl⟩
  exact bind_eq_ok.2 ⟨(), require_eq_ok.2 (levels device.config),
    bind_eq_ok.2 ⟨(), require_eq_ok.2 UInt16.zero_and, require_eq_ok.2 idle⟩⟩

/-- The simulator reports the schedule it holds once it is not late. -/
theorem simulatorReport_eq
    {pair : Pair}
    {bootId : Bytes 16}
    (boot : pair.device.bootId = some bootId)
    {current : SimulatedDevice}
    (late : pair.device.expireLate pair.clockUs = current)
    (captures : current.captureSequence < 2 ^ 32)
    (missed : current.missedCaptureCount < 2 ^ 32)
    (short : remainingMs current pair.clockUs < 2 ^ 32)
    (named : ∀ held ∈ current.schedule, held.scheduleId ≠ Bytes.zero 16) :
    pair.simulatorReport = .ok (heldReport current pair.clockUs) := by
  obtain ⟨status, made, valid, same⟩ :=
    status_sent bootId captures missed short named
  have said : pair.device.requireHello = .ok bootId := by
    unfold SimulatedDevice.requireHello
    rw [boot]
  unfold simulatorReport
  rw [said, ok_bind, late, made, ok_bind]
  obtain ⟨payload, encoded⟩ : ∃ payload, status.encode = .ok payload :=
    ⟨_, bind_eq_ok.2 ⟨(), valid, rfl⟩⟩
  rw [encoded, ok_bind, PeriodicReport.read_of_encode encoded, same]
  rfl

/-- What the two have in common between two inputs. -/
structure Paired (pair : Pair) : Prop where
  established : pair.app.helloEstablished = true
  idle : pair.app.state = .idleSafe
  configValid : pair.app.configValid = true
  free : pair.app.capturePending = false
  clock : pair.app.clockFaultFlags = 0
  device : pair.device.deviceId = pair.app.deviceId
  session :
    pair.app.bootId =
      Firmware.bootIdDerive pair.app.deviceId pair.app.hostNonce
  boot : pair.device.bootId = some pair.app.bootId
  config : pair.device.config = some (hostConfig pair.app.config)
  captures : pair.device.captureSequence < 2 ^ 32
  missed : pair.device.missedCaptureCount < 2 ^ 32
  scheduled :
    Scheduled pair.clockUs pair.device.missedCaptureCount pair.device.schedule
      pair.app.periodic

/-- Two sides with the same configuration have everything in common. -/
theorem Configured.paired
    {pair : Pair}
    (configured : pair.Configured) :
    pair.Paired where
  established := configured.established
  idle := configured.idle
  configValid := configured.configValid
  free := configured.free
  clock := configured.clock
  device := configured.device
  session := configured.session
  boot := configured.boot
  config := configured.config
  captures := configured.captures
  missed := by
    rw [configured.missed]
    decide
  scheduled := by
    rw [configured.unscheduled, configured.missed]
    refine .resting configured.inactive configured.unmissed ?_
    rintro held ⟨⟩

/-- What the firmware reports without a schedule. -/
theorem firmwareReport_resting
    {pair : Pair}
    (inactive : pair.app.periodic.active = false) :
    pair.firmwareReport = {
      activeScheduleId := Bytes.zero 16
      leaseSequence := 0
      leaseRemainingMs := 0
      missedCaptureCount := pair.app.periodic.missedCount
    } := by
  rw [firmwareReport, PeriodicReport.read_statusPayload]
  simp [PeriodicReport.ofStatus, Content.statusValues, inactive]

/-- What the firmware reports of its schedule. -/
theorem firmwareReport_running
    {pair : Pair}
    (active : pair.app.periodic.active = true) :
    pair.firmwareReport = {
      activeScheduleId := pair.app.periodic.scheduleId
      leaseSequence := pair.app.periodic.leaseSequence
      leaseRemainingMs := pair.app.periodic.leaseRemainingMs.toUInt32
      missedCaptureCount := pair.app.periodic.missedCount
    } := by
  rw [firmwareReport, PeriodicReport.read_statusPayload]
  simp [PeriodicReport.ofStatus, Content.statusValues, active]

/-- A device whose schedule is late, if there is one, gives it up. -/
theorem expireLate_resting
    {device : SimulatedDevice}
    {now : Nat}
    (late : ∀ held ∈ device.schedule, held.leaseDeadlineUs ≤ now) :
    (device.expireLate now).schedule = none ∧
      (device.expireLate now).captureSequence = device.captureSequence ∧
      (device.expireLate now).missedCaptureCount =
        device.missedCaptureCount := by
  unfold SimulatedDevice.expireLate
  cases held : device.schedule with
  | none => exact ⟨held, rfl, rfl⟩
  | some schedule =>
      dsimp only
      rw [if_pos (late schedule held)]
      exact ⟨rfl, rfl, rfl⟩

/-- A device whose schedule has time left keeps it. -/
theorem expireLate_running
    {device : SimulatedDevice}
    {now : Nat}
    {held : Host.SimulatedSchedule}
    (schedule : device.schedule = some held)
    (early : now < held.leaseDeadlineUs) :
    device.expireLate now = device := by
  unfold SimulatedDevice.expireLate
  rw [schedule]
  dsimp only
  rw [if_neg (Nat.not_le.2 early)]

/-- Two sides that have everything in common, and no period left to poll,
report the same. -/
theorem Paired.reports
    {pair : Pair}
    (paired : pair.Paired)
    (polled : pair.Polled) :
    pair.simulatorReport = .ok pair.firmwareReport := by
  have scheduled := paired.scheduled
  generalize held : pair.device.schedule = simulated at scheduled
  generalize holds : pair.app.periodic = schedule at scheduled
  cases scheduled with
  | resting inactive counted late =>
      rw [← held] at late
      obtain ⟨cleared, captures, missed⟩ := expireLate_resting late
      have nothing :
          remainingMs (pair.device.expireLate pair.clockUs) pair.clockUs = 0 :=
        by rw [remainingMs, cleared]; rfl
      rw [simulatorReport_eq paired.boot rfl (captures ▸ paired.captures)
        (missed ▸ paired.missed) (by rw [nothing]; decide)
        (by rw [cleared]; rintro held ⟨⟩),
        firmwareReport_resting (holds ▸ inactive), holds, counted]
      simp [heldReport, cleared, nothing, missed]
  | @running periods simulated schedule running =>
      have kept := expireLate_running held running.early
      have lease : remainingMs pair.device pair.clockUs =
          schedule.leaseRemainingMs.toUInt32.toNat := by
        rw [remainingMs, held]
        exact running.leaseRemainingMs
      have one : periods - 1 = 0 :=
        Nat.sub_eq_zero_of_le
          (running.periods_le_one (polled _ held running.early))
      have counted := running.counted
      rw [one, Nat.add_zero] at counted
      rw [simulatorReport_eq paired.boot kept paired.captures paired.missed
        (by rw [lease]; exact UInt32.toNat_lt _)
        (by
          rw [held]
          rintro _ ⟨⟩
          rw [running.identity]
          exact running.leased.named running.active),
        firmwareReport_running (holds ▸ running.active), holds, counted]
      simp [heldReport, lease, held, running.identity, running.sequence,
        Nat.toUInt32_eq]

end Pair

end Usac.Link
