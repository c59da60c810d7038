import Usac.Library.Bytes

namespace Usac.Firmware

open Library

/-!
# The periodic schedule and its lease

`usac_capture_schedule.c`, one definition for each operation. An operation that
fails returns the schedule it was given. Counters and times are 32-bit words.
-/

/-- An identity of 16 bytes. -/
abbrev Id16 := Bytes 16

/-- The identity whose bytes are all the same. -/
def Id16.ofByte (byte : UInt8) : Id16 :=
  List.Vector.replicate 16 byte

/-- `usac_capture_schedule_result_t`. -/
inductive ScheduleResult where
  | ok
  | invalid
  | conflict
  | expired
  deriving Repr, DecidableEq

/-- `usac_capture_schedule_t`. -/
structure CaptureSchedule where
  active : Bool
  due : Bool
  scheduleId : Id16
  periodUs : UInt32
  untilDueUs : UInt32
  captureLimit : UInt32
  completedCount : UInt32
  missedCount : UInt32
  leaseSequence : UInt32
  lastLeaseTimeoutMs : UInt16
  leaseRemainingUs : UInt32
  deriving DecidableEq

namespace CaptureSchedule

/-- `USAC_CAPTURE_MIN_PERIOD_US`. -/
def minPeriodUs : UInt32 := 100000

/-- `USAC_CAPTURE_MIN_LEASE_MS`. -/
def minLeaseMs : UInt16 := 1000

/-- `USAC_CAPTURE_MAX_LEASE_MS`. -/
def maxLeaseMs : UInt16 := 10000

/-- `usac_capture_schedule_init`. -/
def init : CaptureSchedule where
  active := false
  due := false
  scheduleId := Bytes.zero 16
  periodUs := 0
  untilDueUs := 0
  captureLimit := 0
  completedCount := 0
  missedCount := 0
  leaseSequence := 0
  lastLeaseTimeoutMs := 0
  leaseRemainingUs := 0

/-- `usac_capture_schedule_start`. -/
def start
    (schedule : CaptureSchedule)
    (scheduleId : Id16)
    (periodUs captureCount : UInt32)
    (leaseTimeoutMs : UInt16) :
    CaptureSchedule × ScheduleResult :=
  if schedule.active then
    (schedule, .conflict)
  else if scheduleId = Bytes.zero 16 ∨ periodUs < minPeriodUs ∨
      leaseTimeoutMs < minLeaseMs ∨ leaseTimeoutMs > maxLeaseMs then
    (schedule, .invalid)
  else
    ({ init with
        scheduleId := scheduleId
        active := true
        periodUs := periodUs
        untilDueUs := periodUs
        captureLimit := captureCount
        lastLeaseTimeoutMs := leaseTimeoutMs
        leaseRemainingUs := leaseTimeoutMs.toUInt32 * 1000 },
      .ok)

/-- `usac_capture_schedule_renew`. -/
def renew
    (schedule : CaptureSchedule)
    (scheduleId : Id16)
    (leaseSequence : UInt32)
    (leaseTimeoutMs : UInt16) :
    CaptureSchedule × ScheduleResult :=
  if schedule.active = false ∨ schedule.scheduleId ≠ scheduleId then
    (schedule, .conflict)
  else if leaseSequence = 0 ∨ leaseTimeoutMs < minLeaseMs ∨
      leaseTimeoutMs > maxLeaseMs then
    (schedule, .invalid)
  else if leaseSequence = schedule.leaseSequence then
    (schedule,
      if leaseTimeoutMs = schedule.lastLeaseTimeoutMs then .ok else .invalid)
  else if leaseSequence < schedule.leaseSequence then
    (schedule, .invalid)
  else
    ({ schedule with
        leaseSequence := leaseSequence
        lastLeaseTimeoutMs := leaseTimeoutMs
        leaseRemainingUs := leaseTimeoutMs.toUInt32 * 1000 },
      .ok)

/-- `usac_capture_schedule_advance`. -/
def advance
    (schedule : CaptureSchedule)
    (elapsedUs : UInt32) :
    CaptureSchedule × ScheduleResult :=
  if schedule.active = false then
    (schedule, .invalid)
  else if elapsedUs ≥ schedule.leaseRemainingUs then
    (init, .expired)
  else
    let leased :=
      { schedule with
        leaseRemainingUs := schedule.leaseRemainingUs - elapsedUs }
    if elapsedUs < schedule.untilDueUs then
      ({ leased with untilDueUs := schedule.untilDueUs - elapsedUs }, .ok)
    else
      let overrun := elapsedUs - schedule.untilDueUs
      let periods := 1 + overrun / schedule.periodUs
      let rearmed :=
        { leased with
          untilDueUs := schedule.periodUs - overrun % schedule.periodUs }
      if schedule.due then
        ({ rearmed with missedCount := schedule.missedCount + periods }, .ok)
      else
        ({ rearmed with
            due := true
            missedCount := schedule.missedCount + (periods - 1) },
          .ok)

/-- `usac_capture_schedule_claim_due`, whose result its caller ignores. -/
def claimDue (schedule : CaptureSchedule) : CaptureSchedule :=
  if schedule.active = false ∨ schedule.due = false then
    schedule
  else
    let claimed :=
      { schedule with
        due := false
        completedCount := schedule.completedCount + 1 }
    if schedule.captureLimit ≠ 0 ∧
        claimed.completedCount ≥ schedule.captureLimit then
      { claimed with
        active := false
        leaseSequence := 0
        lastLeaseTimeoutMs := 0
        leaseRemainingUs := 0 }
    else
      claimed

/-- `usac_capture_schedule_stop`. -/
def stop
    (schedule : CaptureSchedule)
    (scheduleId : Id16) :
    CaptureSchedule × ScheduleResult :=
  if schedule.active ∧ schedule.scheduleId ≠ scheduleId then
    (schedule, .conflict)
  else
    (init, .ok)

/-- `usac_capture_schedule_lease_remaining_ms`. -/
def leaseRemainingMs (schedule : CaptureSchedule) : UInt16 :=
  if schedule.active = false then
    0
  else
    (schedule.leaseRemainingUs / 1000).toUInt16

@[simp] theorem init_active : init.active = false :=
  rfl

/-- A schedule can always be stopped under its own identity. -/
@[simp] theorem stop_own (schedule : CaptureSchedule) :
    schedule.stop schedule.scheduleId = (init, .ok) := by
  simp [stop]

/-- Only an inactive schedule starts, and it starts under the given identity. -/
theorem start_ok
    {schedule started : CaptureSchedule}
    {scheduleId : Id16}
    {periodUs captureCount : UInt32}
    {leaseTimeoutMs : UInt16}
    (accepted :
      schedule.start scheduleId periodUs captureCount leaseTimeoutMs =
        (started, .ok)) :
    schedule.active = false ∧ started.active = true ∧
      started.scheduleId = scheduleId := by
  unfold start at accepted
  split at accepted
  · cases accepted
  · split at accepted
    · cases accepted
    · rename_i inactive _
      obtain ⟨rfl, -⟩ := Prod.mk.inj accepted
      exact ⟨by simpa using inactive, rfl, rfl⟩

/-- Renewing a lease leaves the schedule's identity and activity alone. -/
theorem renew_frame
    (schedule : CaptureSchedule)
    (scheduleId : Id16)
    (leaseSequence : UInt32)
    (leaseTimeoutMs : UInt16) :
    let renewed := (schedule.renew scheduleId leaseSequence leaseTimeoutMs).1
    renewed.active = schedule.active ∧
      renewed.scheduleId = schedule.scheduleId ∧
      renewed.due = schedule.due := by
  unfold renew
  split_ifs <;> simp

/-- A schedule whose lease has expired is cleared. -/
theorem advance_expired
    {schedule advanced : CaptureSchedule}
    {elapsedUs : UInt32}
    (expired : schedule.advance elapsedUs = (advanced, .expired)) :
    advanced = init := by
  unfold advance at expired
  dsimp only at expired
  split_ifs at expired <;> cases expired
  rfl

/-- Within the lease, time keeps the schedule's identity and activity. -/
theorem advance_of_ne_expired
    {schedule advanced : CaptureSchedule}
    {elapsedUs : UInt32}
    {result : ScheduleResult}
    (shape : schedule.advance elapsedUs = (advanced, result))
    (notExpired : result = .expired → False) :
    advanced.active = schedule.active ∧
      advanced.scheduleId = schedule.scheduleId := by
  unfold advance at shape
  dsimp only at shape
  split_ifs at shape <;> cases shape <;> simp at notExpired ⊢

/-- Claiming a due capture never starts a schedule or renames it. -/
theorem claimDue_frame (schedule : CaptureSchedule) :
    (schedule.claimDue.active = true → schedule.active = true) ∧
      schedule.claimDue.scheduleId = schedule.scheduleId := by
  unfold claimDue
  dsimp only
  split_ifs <;> simp

/-- A lease timeout in microseconds never overflows its word. -/
theorem toNat_leaseUs (leaseTimeoutMs : UInt16) :
    (leaseTimeoutMs.toUInt32 * 1000).toNat = leaseTimeoutMs.toNat * 1000 := by
  have small := leaseTimeoutMs.toNat_lt
  simp only [UInt32.toNat_mul, UInt16.toNat_toUInt32]
  exact Nat.mod_eq_of_lt (by simp; omega)

/-- A schedule starts with the first sequence and the whole lease. -/
theorem start_lease
    {schedule started : CaptureSchedule}
    {scheduleId : Id16}
    {periodUs captureCount : UInt32}
    {leaseTimeoutMs : UInt16}
    (accepted :
      schedule.start scheduleId periodUs captureCount leaseTimeoutMs =
        (started, .ok)) :
    started.leaseSequence = 0 ∧ minLeaseMs ≤ leaseTimeoutMs ∧
      started.leaseRemainingUs = leaseTimeoutMs.toUInt32 * 1000 := by
  unfold start at accepted
  split at accepted
  · cases accepted
  · split at accepted
    · cases accepted
    · rename_i admissible
      obtain ⟨rfl, -⟩ := Prod.mk.inj accepted
      push Not at admissible
      exact ⟨rfl, UInt16.not_lt.1 admissible.2.2.1, rfl⟩

/-- An accepted renewal names the running schedule. It repeats the last
sequence and changes nothing, or goes beyond it and restarts the lease. -/
theorem renew_ok
    {schedule renewed : CaptureSchedule}
    {scheduleId : Id16}
    {leaseSequence : UInt32}
    {leaseTimeoutMs : UInt16}
    (accepted :
      schedule.renew scheduleId leaseSequence leaseTimeoutMs =
        (renewed, .ok)) :
    schedule.active = true ∧ schedule.scheduleId = scheduleId ∧
      (leaseSequence = schedule.leaseSequence ∧ renewed = schedule ∨
        schedule.leaseSequence < leaseSequence ∧
          minLeaseMs ≤ leaseTimeoutMs ∧
            renewed =
              { schedule with
                leaseSequence := leaseSequence
                lastLeaseTimeoutMs := leaseTimeoutMs
                leaseRemainingUs := leaseTimeoutMs.toUInt32 * 1000 }) := by
  unfold renew at accepted
  split_ifs at accepted with foreign invalid repeated same smaller
  · cases accepted
  · cases accepted
  · push Not at foreign
    obtain ⟨rfl, -⟩ := Prod.mk.inj accepted
    exact ⟨by simpa using foreign.1, foreign.2, .inl ⟨repeated, rfl⟩⟩
  · cases accepted
  · cases accepted
  · push Not at foreign invalid
    obtain ⟨rfl, -⟩ := Prod.mk.inj accepted
    have larger : schedule.leaseSequence < leaseSequence :=
      UInt32.lt_of_le_of_ne (UInt32.not_lt.1 smaller) (Ne.symm repeated)
    exact ⟨by simpa using foreign.1, foreign.2,
      .inr ⟨larger, UInt16.not_lt.1 invalid.2.1, rfl⟩⟩

/-- A renewed schedule is running under a sequence that is not zero. -/
theorem renew_running
    {schedule renewed : CaptureSchedule}
    {scheduleId : Id16}
    {leaseSequence : UInt32}
    {leaseTimeoutMs : UInt16}
    (accepted :
      schedule.renew scheduleId leaseSequence leaseTimeoutMs =
        (renewed, .ok)) :
    renewed.active = true ∧ renewed.leaseSequence ≠ 0 := by
  unfold renew at accepted
  split_ifs at accepted with foreign invalid repeated
  · cases accepted
  · cases accepted
  · push Not at foreign invalid
    obtain ⟨rfl, -⟩ := Prod.mk.inj accepted
    exact ⟨by simpa using foreign.1, repeated ▸ invalid.1⟩
  · cases accepted
  · cases accepted
  · push Not at foreign invalid
    obtain ⟨rfl, -⟩ := Prod.mk.inj accepted
    exact ⟨by simpa using foreign.1, invalid.1⟩

/-- A schedule that stays active over a time has that time left on its
lease. -/
theorem advance_active
    {schedule : CaptureSchedule}
    {elapsedUs : UInt32}
    (active : schedule.active = true)
    (running : (schedule.advance elapsedUs).1.active = true) :
    elapsedUs < schedule.leaseRemainingUs ∧
      (schedule.advance elapsedUs).1.leaseRemainingUs =
        schedule.leaseRemainingUs - elapsedUs ∧
      (schedule.advance elapsedUs).1.leaseSequence =
        schedule.leaseSequence := by
  unfold advance at running ⊢
  dsimp only at running ⊢
  rw [if_neg (by simp [active])] at running ⊢
  split_ifs at running ⊢ with expired
  · cases running
  all_goals exact ⟨UInt32.not_le.1 expired, rfl, rfl⟩

/-- A schedule that stays active over a capture keeps its lease. -/
theorem claimDue_active
    {schedule : CaptureSchedule}
    (running : schedule.claimDue.active = true) :
    schedule.claimDue.leaseSequence = schedule.leaseSequence ∧
      schedule.claimDue.leaseRemainingUs = schedule.leaseRemainingUs := by
  unfold claimDue at running ⊢
  dsimp only at running ⊢
  split_ifs at running ⊢
  · exact ⟨rfl, rfl⟩
  · exact ⟨rfl, rfl⟩

/-- A running schedule has a name, and no lease is longer than the longest
timeout. -/
structure WellLeased (schedule : CaptureSchedule) : Prop where
  named : schedule.active = true → schedule.scheduleId ≠ Bytes.zero 16
  bounded : schedule.active = true → schedule.leaseRemainingUs ≤ 10000000

/-- A schedule that does not run is well leased. -/
theorem WellLeased.of_inactive
    {schedule : CaptureSchedule}
    (inactive : schedule.active = false) :
    schedule.WellLeased := by
  constructor <;>
    · intro active
      rw [inactive] at active
      cases active

/-- A lease within the longest timeout. -/
theorem leaseUs_le
    {leaseTimeoutMs : UInt16}
    (admissible : leaseTimeoutMs ≤ maxLeaseMs) :
    leaseTimeoutMs.toUInt32 * 1000 ≤ 10000000 := by
  have bound : leaseTimeoutMs.toNat ≤ 10000 :=
    UInt16.le_iff_toNat_le.1 admissible
  rw [UInt32.le_iff_toNat_le, toNat_leaseUs]
  show leaseTimeoutMs.toNat * 1000 ≤ 10000000
  omega

/-- A schedule starts well leased. -/
theorem start_wellLeased
    {schedule started : CaptureSchedule}
    {scheduleId : Id16}
    {periodUs captureCount : UInt32}
    {leaseTimeoutMs : UInt16}
    (accepted :
      schedule.start scheduleId periodUs captureCount leaseTimeoutMs =
        (started, .ok)) :
    started.WellLeased := by
  unfold start at accepted
  split at accepted
  · cases accepted
  · split at accepted
    · cases accepted
    · rename_i admissible
      obtain ⟨rfl, -⟩ := Prod.mk.inj accepted
      push Not at admissible
      exact ⟨fun _ => admissible.1,
        fun _ => leaseUs_le (UInt16.not_lt.1 admissible.2.2.2)⟩

/-- A renewal keeps a schedule well leased, accepted or not. -/
theorem WellLeased.renew
    {schedule : CaptureSchedule}
    (leased : schedule.WellLeased)
    (scheduleId : Id16)
    (leaseSequence : UInt32)
    (leaseTimeoutMs : UInt16) :
    (schedule.renew scheduleId leaseSequence leaseTimeoutMs).1.WellLeased := by
  unfold CaptureSchedule.renew
  split_ifs with foreign invalid
  · exact leased
  · exact leased
  · exact leased
  · exact leased
  · exact leased
  · push Not at invalid
    exact ⟨leased.named,
      fun _ => leaseUs_le (UInt16.not_lt.1 invalid.2.2)⟩

/-- Time keeps a schedule well leased. -/
theorem WellLeased.advance
    {schedule : CaptureSchedule}
    (leased : schedule.WellLeased)
    (elapsedUs : UInt32) :
    (schedule.advance elapsedUs).1.WellLeased := by
  have shorter
      (within : ¬elapsedUs ≥ schedule.leaseRemainingUs)
      (active : schedule.active = true) :
      schedule.leaseRemainingUs - elapsedUs ≤ 10000000 := by
    have before : elapsedUs.toNat ≤ schedule.leaseRemainingUs.toNat :=
      (UInt32.lt_iff_toNat_lt.1 (UInt32.not_le.1 within)).le
    have bounded := UInt32.le_iff_toNat_le.1 (leased.bounded active)
    rw [UInt32.le_iff_toNat_le, UInt32.toNat_sub_of_le _ _
      (UInt32.le_iff_toNat_le.2 before)]
    exact (Nat.sub_le _ _).trans bounded
  unfold CaptureSchedule.advance
  dsimp only
  split_ifs with inactive expired
  · exact leased
  · exact .of_inactive rfl
  · exact ⟨leased.named, shorter expired⟩
  · exact ⟨leased.named, shorter expired⟩
  · exact ⟨leased.named, shorter expired⟩

/-- Claiming a due capture keeps a schedule well leased. -/
theorem WellLeased.claimDue
    {schedule : CaptureSchedule}
    (leased : schedule.WellLeased) :
    schedule.claimDue.WellLeased := by
  unfold CaptureSchedule.claimDue
  dsimp only
  split_ifs
  · exact leased
  · exact .of_inactive rfl
  · exact ⟨leased.named, leased.bounded⟩

end CaptureSchedule

end Usac.Firmware
