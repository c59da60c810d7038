import Usac.Firmware.CaptureSchedule
import Usac.Host.SimulatedDevice

namespace Usac.Link

open Library
open Firmware (CaptureSchedule Id16)
open Host (SimulatedSchedule)

/-!
# The schedule of the simulator and the schedule of the firmware

The firmware counts a lease and a period down, the simulator compares its clock
with a deadline and with the next capture. The firmware counts a missed period
when it passes, the simulator when it is polled. The two are related by the
periods that have begun since the last poll.
-/

/-- Both sides run the same schedule, with a number of periods begun since the
simulator has been polled. -/
structure Running
    (now missed periods : Nat)
    (simulated : SimulatedSchedule)
    (schedule : CaptureSchedule) :
    Prop where
  active : schedule.active = true
  leased : schedule.WellLeased
  identity : simulated.scheduleId = schedule.scheduleId
  period : simulated.periodUs = schedule.periodUs
  slow : 100000 ≤ schedule.periodUs.toNat
  limit : simulated.captureCount = schedule.captureLimit
  completed : schedule.captureLimit ≠ 0 →
    schedule.completedCount.toNat = simulated.completedCount ∧
      simulated.completedCount < schedule.captureLimit.toNat
  sequence : simulated.leaseSequence = schedule.leaseSequence
  deadline :
    now + schedule.leaseRemainingUs.toNat = simulated.leaseDeadlineUs
  left : 0 < schedule.leaseRemainingUs.toNat
  due : schedule.due = decide (0 < periods)
  ahead : 0 < schedule.untilDueUs.toNat
  within : schedule.untilDueUs.toNat ≤ schedule.periodUs.toNat
  next :
    now + schedule.untilDueUs.toNat =
      simulated.nextCaptureUs + periods * schedule.periodUs.toNat
  counted : schedule.missedCount = (missed + (periods - 1)).toUInt32

/-- A lease of at most ten seconds as the firmware narrows it. -/
theorem toNat_lease
    {leaseTimeoutMs : UInt32}
    (short : leaseTimeoutMs ≤ 10000) :
    leaseTimeoutMs.toUInt16.toNat = leaseTimeoutMs.toNat := by
  have bound : leaseTimeoutMs.toNat ≤ 10000 := UInt32.le_iff_toNat_le.1 short
  rw [UInt32.toNat_toUInt16]
  exact Nat.mod_eq_of_lt (show leaseTimeoutMs.toNat < 65536 by omega)

namespace Running

variable
  {now missed periods : Nat}
  {simulated : SimulatedSchedule}
  {schedule : CaptureSchedule}

/-- A running schedule has not reached its deadline. -/
theorem early (running : Running now missed periods simulated schedule) :
    now < simulated.leaseDeadlineUs := by
  rw [← running.deadline]
  exact Nat.lt_add_of_pos_right running.left

/-- Both sides have the same milliseconds of the lease left. -/
theorem leaseRemainingMs
    (running : Running now missed periods simulated schedule) :
    simulated.leaseRemainingMs now =
      schedule.leaseRemainingMs.toUInt32.toNat := by
  have bound : schedule.leaseRemainingUs.toNat ≤ 10000000 :=
    UInt32.le_iff_toNat_le.1 (running.leased.bounded running.active)
  have remaining :
      simulated.leaseDeadlineUs - now = schedule.leaseRemainingUs.toNat := by
    rw [← running.deadline]
    exact Nat.add_sub_cancel_left _ _
  have short : schedule.leaseRemainingUs.toNat / 1000 < 65536 := by omega
  unfold SimulatedSchedule.leaseRemainingMs CaptureSchedule.leaseRemainingMs
  rw [remaining, if_neg (by simp [running.active]), UInt16.toNat_toUInt32,
    UInt32.toNat_toUInt16, UInt32.toNat_div]
  exact (Nat.mod_eq_of_lt short).symm

/-! ## Starting and renewing -/

/-- What both sides start. -/
theorem start
    {scheduleId : Id16}
    {periodUs captureCount : UInt32}
    {leaseTimeoutMs : UInt16}
    {started : CaptureSchedule}
    (accepted :
      schedule.start scheduleId periodUs captureCount leaseTimeoutMs =
        (started, .ok))
    (now : Nat)
    (requestId : Bytes 16) :
    Running now 0 0
      { requestId := requestId
        scheduleId := scheduleId
        periodUs := periodUs
        captureCount := captureCount
        leaseDeadlineUs := now + leaseTimeoutMs.toNat * 1000
        nextCaptureUs := now + periodUs.toNat
        completedCount := 0
        leaseSequence := 0 }
      started := by
  have leased := CaptureSchedule.start_wellLeased accepted
  unfold CaptureSchedule.start at accepted
  split_ifs at accepted with busy invalid
  · cases accepted
  · cases accepted
  · push Not at invalid
    obtain ⟨rfl, -⟩ := Prod.mk.inj accepted
    have slow : 100000 ≤ periodUs.toNat :=
      UInt32.le_iff_toNat_le.1 (UInt32.not_lt.1 invalid.2.1)
    have long : 1000 ≤ leaseTimeoutMs.toNat :=
      UInt16.le_iff_toNat_le.1 (UInt16.not_lt.1 invalid.2.2.1)
    have lease := CaptureSchedule.toNat_leaseUs leaseTimeoutMs
    exact {
      active := rfl
      leased := leased
      identity := rfl
      period := rfl
      slow := slow
      limit := rfl
      completed := fun limited =>
        ⟨rfl, Nat.pos_of_ne_zero fun zero =>
          limited (UInt32.toNat_inj.1 zero)⟩
      sequence := rfl
      deadline := by rw [lease]
      left := by rw [lease]; omega
      due := rfl
      ahead := show 0 < periodUs.toNat by omega
      within := Nat.le_refl _
      next := by rw [Nat.zero_mul]; rfl
      counted := rfl
    }

/-- A renewal beyond the sequence of the lease. -/
theorem renew
    (running : Running now missed periods simulated schedule)
    {leaseSequence leaseTimeoutMs : UInt32}
    (long : 1000 ≤ leaseTimeoutMs)
    (short : leaseTimeoutMs ≤ 10000) :
    Running now missed periods
      { simulated with
        leaseSequence := leaseSequence
        leaseDeadlineUs := now + leaseTimeoutMs.toNat * 1000 }
      { schedule with
        leaseSequence := leaseSequence
        lastLeaseTimeoutMs := leaseTimeoutMs.toUInt16
        leaseRemainingUs := leaseTimeoutMs.toUInt16.toUInt32 * 1000 } := by
  have lease := CaptureSchedule.toNat_leaseUs leaseTimeoutMs.toUInt16
  rw [toNat_lease short] at lease
  have positive : 1000 ≤ leaseTimeoutMs.toNat := UInt32.le_iff_toNat_le.1 long
  have bounded : leaseTimeoutMs.toUInt16 ≤ CaptureSchedule.maxLeaseMs := by
    rw [UInt16.le_iff_toNat_le, toNat_lease short]
    exact UInt32.le_iff_toNat_le.1 short
  exact {
    running with
    leased :=
      ⟨running.leased.named, fun _ => CaptureSchedule.leaseUs_le bounded⟩
    sequence := rfl
    deadline := by rw [lease]
    left := by rw [lease]; omega
  }

/-- The schedule of the firmware after a renewal beyond the last, or the same
again. -/
def renewedBy
    (schedule : CaptureSchedule)
    (message : Host.RenewPeriodicLease) :
    CaptureSchedule :=
  if schedule.leaseSequence < message.leaseSequence then
    { schedule with
      leaseSequence := message.leaseSequence
      lastLeaseTimeoutMs := message.leaseTimeoutOrRemainingMs.toUInt16
      leaseRemainingUs :=
        message.leaseTimeoutOrRemainingMs.toUInt16.toUInt32 * 1000 }
  else
    schedule

/-- Both sides renew a running schedule alike. -/
theorem renewed
    (running : Running now missed periods simulated schedule)
    {message : Host.RenewPeriodicLease}
    (numbered : 1 ≤ message.leaseSequence)
    (long : 1000 ≤ message.leaseTimeoutOrRemainingMs)
    (short : message.leaseTimeoutOrRemainingMs ≤ 10000)
    (own : message.scheduleId = schedule.scheduleId)
    (later :
      schedule.leaseSequence < message.leaseSequence ∨
        message.leaseSequence = schedule.leaseSequence ∧
          message.leaseTimeoutOrRemainingMs =
            schedule.lastLeaseTimeoutMs.toUInt32) :
    schedule.renew message.scheduleId message.leaseSequence
          message.leaseTimeoutOrRemainingMs.toUInt16 =
        (renewedBy schedule message, .ok) ∧
      Running now missed periods (simulated.renew message now)
        (renewedBy schedule message) := by
  have known :
      ¬(schedule.active = false ∨
        schedule.scheduleId ≠ message.scheduleId) := by
    rw [running.active, own]
    simp
  have admissible :
      ¬(message.leaseSequence = 0 ∨
        message.leaseTimeoutOrRemainingMs.toUInt16 <
          CaptureSchedule.minLeaseMs ∨
        message.leaseTimeoutOrRemainingMs.toUInt16 >
          CaptureSchedule.maxLeaseMs) := by
    rintro (zero | brief | endless)
    · rw [zero] at numbered
      exact absurd numbered (by decide)
    · rw [UInt16.lt_iff_toNat_lt, toNat_lease short] at brief
      exact Nat.not_lt.2 (UInt32.le_iff_toNat_le.1 long) brief
    · rw [gt_iff_lt, UInt16.lt_iff_toNat_lt, toNat_lease short] at endless
      exact Nat.not_lt.2 (UInt32.le_iff_toNat_le.1 short) endless
  unfold CaptureSchedule.renew SimulatedSchedule.renew renewedBy
  rw [if_neg known, if_neg admissible, running.sequence]
  by_cases above : schedule.leaseSequence < message.leaseSequence
  · have other : message.leaseSequence ≠ schedule.leaseSequence :=
      (UInt32.ne_of_lt above).symm
    rw [if_neg other, if_neg (UInt32.lt_asymm above), if_pos above,
      if_pos above]
    exact ⟨rfl, running.renew long short⟩
  · obtain ⟨same, again⟩ := later.resolve_left above
    have last :
        message.leaseTimeoutOrRemainingMs.toUInt16 =
          schedule.lastLeaseTimeoutMs := by
      rw [again]
      exact UInt16.toUInt16_toUInt32 _
    rw [if_pos same, if_pos last, if_neg above, if_neg above]
    exact ⟨rfl, running⟩

/-! ## Time -/

/-- A lease that has run out on one side has run out on the other. -/
theorem expires
    (running : Running now missed periods simulated schedule)
    {elapsedUs : UInt32}
    (expired : schedule.leaseRemainingUs ≤ elapsedUs) :
    simulated.leaseDeadlineUs ≤ now + elapsedUs.toNat := by
  rw [← running.deadline]
  exact Nat.add_le_add_left (UInt32.le_iff_toNat_le.1 expired) now

/-- The lease within its time. -/
theorem lapse
    (running : Running now missed periods simulated schedule)
    {elapsedUs : UInt32}
    (within : elapsedUs < schedule.leaseRemainingUs) :
    now + elapsedUs.toNat +
          (schedule.leaseRemainingUs - elapsedUs).toNat =
        simulated.leaseDeadlineUs ∧
      0 < (schedule.leaseRemainingUs - elapsedUs).toNat ∧
      schedule.leaseRemainingUs - elapsedUs ≤ 10000000 := by
  have before : elapsedUs.toNat < schedule.leaseRemainingUs.toNat :=
    UInt32.lt_iff_toNat_lt.1 within
  have bounded : schedule.leaseRemainingUs.toNat ≤ 10000000 :=
    UInt32.le_iff_toNat_le.1 (running.leased.bounded running.active)
  have left := UInt32.toNat_sub_of_le _ _ (UInt32.le_of_lt within)
  have deadline := running.deadline
  rw [UInt32.le_iff_toNat_le, left]
  refine ⟨by omega, by omega, ?_⟩
  show _ ≤ 10000000
  omega

/-- Time that ends before the next period. -/
theorem wait
    (running : Running now missed periods simulated schedule)
    {elapsedUs : UInt32}
    (within : elapsedUs < schedule.leaseRemainingUs)
    (early : elapsedUs < schedule.untilDueUs) :
    Running (now + elapsedUs.toNat) missed periods simulated
      { schedule with
        leaseRemainingUs := schedule.leaseRemainingUs - elapsedUs
        untilDueUs := schedule.untilDueUs - elapsedUs } := by
  obtain ⟨deadline, left, bounded⟩ := running.lapse within
  have before : elapsedUs.toNat < schedule.untilDueUs.toNat :=
    UInt32.lt_iff_toNat_lt.1 early
  have ahead := UInt32.toNat_sub_of_le _ _ (UInt32.le_of_lt early)
  have inside := running.within
  have next := running.next
  exact {
    running with
    leased := ⟨running.leased.named, fun _ => bounded⟩
    deadline := deadline
    left := left
    ahead := by rw [ahead]; omega
    within := by rw [ahead]; dsimp only; omega
    next := by rw [ahead]; dsimp only; omega
  }

/-- Time in which periods begin. -/
theorem pass
    (running : Running now missed periods simulated schedule)
    {elapsedUs missedCount : UInt32}
    {due : Bool}
    (within : elapsedUs < schedule.leaseRemainingUs)
    (late : schedule.untilDueUs ≤ elapsedUs)
    (begun : due = true)
    (counted :
      missedCount =
        (missed + (periods +
          ((elapsedUs - schedule.untilDueUs) / schedule.periodUs).toNat)
        ).toUInt32) :
    Running (now + elapsedUs.toNat) missed
      (periods +
        (1 + ((elapsedUs - schedule.untilDueUs) / schedule.periodUs).toNat))
      simulated
      { schedule with
        leaseRemainingUs := schedule.leaseRemainingUs - elapsedUs
        untilDueUs :=
          schedule.periodUs -
            (elapsedUs - schedule.untilDueUs) % schedule.periodUs
        due := due
        missedCount := missedCount } := by
  obtain ⟨deadline, left, bounded⟩ := running.lapse within
  have overrun := UInt32.toNat_sub_of_le _ _ late
  generalize elapsedUs - schedule.untilDueUs = rest at *
  have slow := running.slow
  have after : schedule.untilDueUs.toNat ≤ elapsedUs.toNat :=
    UInt32.le_iff_toNat_le.1 late
  have part : (rest % schedule.periodUs).toNat < schedule.periodUs.toNat := by
    rw [UInt32.toNat_mod]
    exact Nat.mod_lt _ (by omega)
  have ahead :=
    UInt32.toNat_sub_of_le _ _ (UInt32.le_iff_toNat_le.2 part.le)
  have whole :
      schedule.periodUs.toNat * (rest / schedule.periodUs).toNat +
          (rest % schedule.periodUs).toNat =
        rest.toNat := by
    rw [UInt32.toNat_div, UInt32.toNat_mod]
    exact Nat.div_add_mod _ _
  have next := running.next
  exact {
    running with
    leased := ⟨running.leased.named, fun _ => bounded⟩
    deadline := deadline
    left := left
    due :=
      begun.trans
        (decide_eq_true
          (Nat.add_pos_right _ (Nat.add_pos_left Nat.one_pos _))).symm
    ahead := by
      rw [ahead]
      exact Nat.sub_pos_of_lt part
    within := by
      rw [ahead]
      exact Nat.sub_le _ _
    next := by
      rw [ahead, Nat.add_mul, Nat.add_mul, Nat.one_mul,
        Nat.mul_comm (rest / _).toNat]
      dsimp only
      omega
    counted := by
      rw [Nat.add_sub_assoc (Nat.le_add_right _ _), Nat.add_sub_cancel_left]
      exact counted
  }

/-- A word added to a count. -/
theorem count_add (count : Nat) (word : UInt32) :
    count.toUInt32 + word = (count + word.toNat).toUInt32 := by
  rw [Nat.toUInt32_eq, Nat.toUInt32_eq, UInt32.ofNat_add, UInt32.ofNat_toNat]

/-- Time runs the lease out on both sides, or both schedules run on. -/
theorem advance
    (running : Running now missed periods simulated schedule)
    (elapsedUs : UInt32) :
    schedule.leaseRemainingUs ≤ elapsedUs ∧
        schedule.advance elapsedUs = (.init, .expired) ∧
        simulated.leaseDeadlineUs ≤ now + elapsedUs.toNat ∨
      ∃ advanced later,
        schedule.advance elapsedUs = (advanced, .ok) ∧
          Running (now + elapsedUs.toNat) missed later simulated advanced := by
  unfold CaptureSchedule.advance
  rw [if_neg (by simp [running.active])]
  by_cases expired : schedule.leaseRemainingUs ≤ elapsedUs
  · rw [if_pos expired]
    exact .inl ⟨expired, rfl, running.expires expired⟩
  · rw [if_neg expired]
    have within := UInt32.not_le.1 expired
    refine .inr ?_
    by_cases early : elapsedUs < schedule.untilDueUs
    · dsimp only
      rw [if_pos early]
      exact ⟨_, _, rfl, running.wait within early⟩
    · dsimp only
      rw [if_neg early]
      have late := UInt32.not_lt.1 early
      have counted := running.counted
      by_cases begun : 0 < periods
      · have due := running.due.trans (decide_eq_true begun)
        rw [if_pos due]
        refine ⟨_, _, rfl, running.pass within late due ?_⟩
        have one : periods - 1 + 1 = periods := Nat.succ_pred begun.ne'
        rw [counted, ← UInt32.add_assoc, count_add, count_add]
        exact congrArg Nat.toUInt32 (by
          show missed + (periods - 1) + 1 + _ = _
          omega)
      · rw [if_neg (by rw [running.due]; simpa using begun)]
        refine ⟨_, _, rfl, running.pass within late rfl ?_⟩
        have zero : periods = 0 := Nat.eq_zero_of_not_pos begun
        rw [counted, UInt32.add_comm 1, UInt32.add_sub_cancel, count_add, zero]
        exact congrArg Nat.toUInt32 (by omega)

/-! ## Captures -/

/-- Before the next capture of the simulator no period has begun. -/
theorem lt_next_iff
    (running : Running now missed periods simulated schedule) :
    now < simulated.nextCaptureUs ↔ periods = 0 := by
  have ahead := running.ahead
  have within := running.within
  have next := running.next
  constructor
  · intro early
    by_contra begun
    have one : 1 * schedule.periodUs.toNat ≤
        periods * schedule.periodUs.toNat :=
      Nat.mul_le_mul_right _ (Nat.one_le_iff_ne_zero.2 begun)
    omega
  · rintro rfl
    omega

/-- At most one period has begun since the simulator has been polled, when its
next capture is not late by a whole one. -/
theorem periods_le_one
    (running : Running now missed periods simulated schedule)
    (polled : now < simulated.nextCaptureUs + simulated.periodUs.toNat) :
    periods ≤ 1 := by
  have within := running.within
  have next := running.next
  rw [running.period] at polled
  by_contra more
  have two : 2 * schedule.periodUs.toNat ≤
      periods * schedule.periodUs.toNat :=
    Nat.mul_le_mul_right _ (Nat.not_le.1 more)
  omega

/-- The periods the simulator counts when it is polled. -/
theorem overdue
    (running : Running now missed periods simulated schedule)
    (begun : 0 < periods) :
    (now - simulated.nextCaptureUs) / simulated.periodUs.toNat =
      periods - 1 := by
  have ahead := running.ahead
  have within := running.within
  have next := running.next
  obtain ⟨passed, rfl⟩ := Nat.exists_eq_add_of_lt begun
  rw [Nat.zero_add, Nat.add_mul, Nat.one_mul] at next
  have since :
      now - simulated.nextCaptureUs =
        passed * schedule.periodUs.toNat +
          (schedule.periodUs.toNat - schedule.untilDueUs.toNat) := by
    omega
  rw [running.period, since, Nat.add_comm (passed * _),
    Nat.add_mul_div_right _ _ (by omega), Nat.div_eq_of_lt (by omega)]
  omega

/-- The captures of a limited schedule after one more. -/
theorem toNat_completed
    (running : Running now missed periods simulated schedule)
    (limited : schedule.captureLimit ≠ 0) :
    (schedule.completedCount + 1).toNat = simulated.completedCount + 1 := by
  obtain ⟨same, below⟩ := running.completed limited
  have small := schedule.captureLimit.toNat_lt
  rw [UInt32.toNat_add, same]
  exact Nat.mod_eq_of_lt (show simulated.completedCount + 1 < _ by omega)

/-- A schedule that has reached its limit has reached it on both sides. -/
theorem finished_iff
    (running : Running now missed periods simulated schedule) :
    (schedule.captureLimit ≠ 0 ∧
        schedule.completedCount + 1 ≥ schedule.captureLimit) ↔
      simulated.captureCount ≠ 0 ∧
        simulated.captureCount.toNat ≤ simulated.completedCount + 1 := by
  rw [running.limit]
  refine and_congr_right fun limited => ?_
  rw [ge_iff_le, UInt32.le_iff_toNat_le, running.toNat_completed limited]

/-- A due capture can be claimed. -/
theorem claimable
    (running : Running now missed periods simulated schedule)
    (begun : 0 < periods) :
    ¬(schedule.active = false ∨ schedule.due = false) := by
  rw [running.active, running.due, decide_eq_true begun]
  decide

/-- A claimed capture that leaves the schedule running. -/
theorem claim
    (running : Running now missed periods simulated schedule)
    (begun : 0 < periods)
    (unfinished :
      ¬(simulated.captureCount ≠ 0 ∧
        simulated.captureCount.toNat ≤ simulated.completedCount + 1)) :
    Running now (missed + (periods - 1)) 0
      { simulated with
        nextCaptureUs :=
          simulated.nextCaptureUs + periods * simulated.periodUs.toNat
        completedCount := simulated.completedCount + 1 }
      schedule.claimDue := by
  have open' := mt running.finished_iff.1 unfinished
  unfold CaptureSchedule.claimDue
  dsimp only
  rw [if_neg (running.claimable begun), if_neg open']
  exact {
    running with
    leased := ⟨running.leased.named, running.leased.bounded⟩
    completed := fun limited =>
      ⟨running.toNat_completed limited, by
        rw [← running.toNat_completed limited, ← UInt32.lt_iff_toNat_lt]
        exact UInt32.not_le.1 fun full => open' ⟨limited, full⟩⟩
    due := rfl
    next := by
      rw [Nat.zero_mul, running.period]
      exact running.next
    counted := running.counted
  }

/-- A claimed capture that ends the schedule. -/
theorem claim_last
    (running : Running now missed periods simulated schedule)
    (begun : 0 < periods)
    (finished :
      simulated.captureCount ≠ 0 ∧
        simulated.captureCount.toNat ≤ simulated.completedCount + 1) :
    schedule.claimDue.active = false ∧
      schedule.claimDue.missedCount =
        (missed + (periods - 1)).toUInt32 := by
  unfold CaptureSchedule.claimDue
  dsimp only
  rw [if_neg (running.claimable begun),
    if_pos (running.finished_iff.2 finished)]
  exact ⟨rfl, running.counted⟩

end Running

/-! ## A schedule on both sides, or on neither -/

/-- The schedules of the two sides. A schedule whose lease has run out in the
firmware may be left to the simulator, which looks at its clock only when it is
asked. -/
inductive Scheduled (now missed : Nat) :
    Option SimulatedSchedule → CaptureSchedule → Prop where
  | resting
      {simulated : Option SimulatedSchedule}
      {schedule : CaptureSchedule}
      (inactive : schedule.active = false)
      (counted : schedule.missedCount = missed.toUInt32)
      (late : ∀ held ∈ simulated, held.leaseDeadlineUs ≤ now) :
      Scheduled now missed simulated schedule
  | running
      {periods : Nat}
      {simulated : SimulatedSchedule}
      {schedule : CaptureSchedule}
      (running : Running now missed periods simulated schedule) :
      Scheduled now missed (some simulated) schedule

/-- Nothing is scheduled once a schedule is cleared. -/
theorem Scheduled.cleared
    {now : Nat}
    {simulated : Option SimulatedSchedule}
    (late : ∀ held ∈ simulated, held.leaseDeadlineUs ≤ now) :
    Scheduled now 0 simulated .init :=
  .resting rfl rfl late

end Usac.Link
