import Usac.Firmware.CaptureSchedule
import Usac.Library.Checked
import Usac.Library.Periodic

namespace Usac.Firmware.CaptureSchedule

open Library

/-!
# The arithmetic of a schedule

A running schedule only keeps what is left until the next capture, and folds
the captures that were not claimed in time into one due flag and a count of
missed ones. Its state is nevertheless a function of the time since its start:
the countdown is the one of `Periodic`, and what was completed, is due and was
missed adds up to how often it has fired.
-/

/-- What the firmware does with a running schedule. -/
inductive Turn where
  | advance (elapsedUs : UInt32)
  | claim
  | renew
      (scheduleId : Id16)
      (leaseSequence : UInt32)
      (leaseTimeoutMs : UInt16)

/-- The schedule after a turn. -/
def turn (schedule : CaptureSchedule) : Turn → CaptureSchedule
  | .advance elapsedUs => (schedule.advance elapsedUs).1
  | .claim => schedule.claimDue
  | .renew scheduleId leaseSequence leaseTimeoutMs =>
      (schedule.renew scheduleId leaseSequence leaseTimeoutMs).1

/-- The time a turn takes. -/
def Turn.elapsed : Turn → Nat
  | .advance elapsedUs => elapsedUs.toNat
  | .claim => 0
  | .renew _ _ _ => 0

/-- The time a list of turns takes. -/
def elapsed (turns : List Turn) : Nat :=
  (turns.map Turn.elapsed).sum

/-! ## The operations with every sum and difference checked -/

/-- `usac_capture_schedule_advance`, without a result where a sum or a
difference other than the count of missed captures wraps around. -/
def advanceChecked
    (schedule : CaptureSchedule)
    (elapsedUs : UInt32) :
    Option CaptureSchedule :=
  if schedule.active = false then
    some schedule
  else if elapsedUs ≥ schedule.leaseRemainingUs then
    some init
  else do
    let leaseLeft ← subChecked? schedule.leaseRemainingUs elapsedUs
    let leased := { schedule with leaseRemainingUs := leaseLeft }
    if elapsedUs < schedule.untilDueUs then
      let untilDue ← subChecked? schedule.untilDueUs elapsedUs
      pure { leased with untilDueUs := untilDue }
    else
      let overrun ← subChecked? elapsedUs schedule.untilDueUs
      let periods ← addChecked? 1 (overrun / schedule.periodUs)
      let untilDue ←
        subChecked? schedule.periodUs (overrun % schedule.periodUs)
      let rearmed := { leased with untilDueUs := untilDue }
      if schedule.due then
        pure
          { rearmed with missedCount := schedule.missedCount + periods }
      else
        let missed ← subChecked? periods 1
        pure
          { rearmed with
            due := true
            missedCount := schedule.missedCount + missed }

/-- `usac_capture_schedule_claim_due`, without a result where the count of
completed captures wraps around. -/
def claimDueChecked (schedule : CaptureSchedule) : Option CaptureSchedule :=
  if schedule.active = false ∨ schedule.due = false then
    some schedule
  else do
    let completed ← addChecked? schedule.completedCount 1
    let claimed :=
      { schedule with due := false, completedCount := completed }
    if schedule.captureLimit ≠ 0 ∧
        claimed.completedCount ≥ schedule.captureLimit then
      pure
        { claimed with
          active := false
          leaseSequence := 0
          lastLeaseTimeoutMs := 0
          leaseRemainingUs := 0 }
    else
      pure claimed

/-- A turn with every sum and difference checked; a renewal has none. -/
def turnChecked (schedule : CaptureSchedule) : Turn → Option CaptureSchedule
  | .advance elapsedUs => schedule.advanceChecked elapsedUs
  | .claim => schedule.claimDueChecked
  | .renew scheduleId leaseSequence leaseTimeoutMs =>
      some (schedule.renew scheduleId leaseSequence leaseTimeoutMs).1

/-- The turn counts a capture beyond what the word holds. -/
def CountWraps (schedule : CaptureSchedule) (next : Turn) : Prop :=
  next = .claim ∧ schedule.active = true ∧ schedule.due = true ∧
    schedule.captureLimit = 0 ∧ schedule.completedCount.toNat + 1 = 2 ^ 32

/-! ## The schedule as a function of time -/

/-- How often the schedule has fired, from what it keeps. -/
def counted (schedule : CaptureSchedule) : UInt32 :=
  schedule.completedCount + schedule.due.toUInt32 + schedule.missedCount

/-- The schedule after it has run for a time. -/
structure AtTime (schedule : CaptureSchedule) (time : Nat) : Prop where
  counted :
    schedule.counted =
      UInt32.ofNat (Periodic.fires schedule.periodUs.toNat time)
  untilDue :
    schedule.untilDueUs.toNat =
      Periodic.remaining schedule.periodUs.toNat time
  periodic : 0 < schedule.periodUs.toNat
  limited :
    schedule.captureLimit ≠ 0 →
      schedule.completedCount < schedule.captureLimit

/-- The countdown fires a number of times: the first time makes a capture due,
unless one is, and every further time is missed. -/
def fire (schedule : CaptureSchedule) : Nat → CaptureSchedule
  | 0 => schedule
  | times + 1 =>
      if schedule.due then
        { schedule with
          missedCount := schedule.missedCount + UInt32.ofNat (times + 1) }
      else
        { schedule with
          due := true
          missedCount := schedule.missedCount + UInt32.ofNat times }

/-- The schedule with its countdown and its lease set. -/
def atCountdown
    (schedule : CaptureSchedule)
    (untilDueUs leaseRemainingUs : UInt32) :
    CaptureSchedule :=
  { schedule with
    untilDueUs := untilDueUs
    leaseRemainingUs := leaseRemainingUs }

variable {schedule : CaptureSchedule} {time : Nat}

/-- Firing twice in a row is firing both times together. -/
theorem fire_fire (schedule : CaptureSchedule) (first second : Nat) :
    (schedule.fire first).fire second = schedule.fire (first + second) := by
  cases first with
  | zero =>
      rw [Nat.zero_add]
      rfl
  | succ first =>
      cases second with
      | zero =>
          rfl
      | succ second =>
          have together :
              first + 1 + (second + 1) = first + (second + 1) + 1 := by
            omega
          rw [together]
          unfold fire
          by_cases due : schedule.due = true
          · simp [due, add_assoc, ← UInt32.ofNat_add, together]
          · simp [due, add_assoc, ← UInt32.ofNat_add]

/-- What was counted grows by the number of times. -/
theorem counted_fire (schedule : CaptureSchedule) (times : Nat) :
    (schedule.fire times).counted =
      schedule.counted + UInt32.ofNat times := by
  cases times with
  | zero =>
      simp [fire]
  | succ times =>
      unfold fire counted
      cases due : schedule.due with
      | false =>
          simp [Bool.toUInt32, UInt32.ofNat_add, add_assoc, add_comm,
            add_left_comm]
      | true =>
          simp [Bool.toUInt32, add_assoc]

/-- The schedule that has run for a time, after it has run on: the countdown
is set to what is left then, and fires as often as it does in between. -/
def ahead (schedule : CaptureSchedule) (time elapsed : Nat) :
    CaptureSchedule :=
  (schedule.atCountdown
      (UInt32.ofNat
        (Periodic.remaining schedule.periodUs.toNat (time + elapsed)))
      (schedule.leaseRemainingUs - UInt32.ofNat elapsed)).fire
    (Periodic.fires schedule.periodUs.toNat (time + elapsed) -
      Periodic.fires schedule.periodUs.toNat time)

/-- A fired schedule keeps its clock, its period and its counts. -/
theorem fire_frame (schedule : CaptureSchedule) (times : Nat) :
    (schedule.fire times).active = schedule.active ∧
      (schedule.fire times).periodUs = schedule.periodUs ∧
      (schedule.fire times).untilDueUs = schedule.untilDueUs ∧
      (schedule.fire times).leaseRemainingUs = schedule.leaseRemainingUs ∧
      (schedule.fire times).captureLimit = schedule.captureLimit ∧
      (schedule.fire times).completedCount = schedule.completedCount := by
  cases times with
  | zero =>
      simp [fire]
  | succ times =>
      unfold fire
      split_ifs <;> simp

/-- The countdown can be set before or after it fires. -/
theorem atCountdown_fire
    (schedule : CaptureSchedule)
    (times : Nat)
    (untilDueUs leaseRemainingUs : UInt32) :
    (schedule.fire times).atCountdown untilDueUs leaseRemainingUs =
      (schedule.atCountdown untilDueUs leaseRemainingUs).fire times := by
  cases times with
  | zero =>
      rfl
  | succ times =>
      unfold fire atCountdown
      split_ifs <;> rfl

/-- Running on keeps the period, the limit and the completed captures. -/
theorem ahead_frame (schedule : CaptureSchedule) (time elapsed : Nat) :
    (schedule.ahead time elapsed).active = schedule.active ∧
      (schedule.ahead time elapsed).periodUs = schedule.periodUs ∧
      (schedule.ahead time elapsed).leaseRemainingUs =
        schedule.leaseRemainingUs - UInt32.ofNat elapsed ∧
      (schedule.ahead time elapsed).captureLimit = schedule.captureLimit ∧
      (schedule.ahead time elapsed).completedCount =
        schedule.completedCount := by
  obtain ⟨active, period, -, lease, limit, completed⟩ :=
    (schedule.atCountdown
      (UInt32.ofNat
        (Periodic.remaining schedule.periodUs.toNat (time + elapsed)))
      (schedule.leaseRemainingUs - UInt32.ofNat elapsed)).fire_frame
      (Periodic.fires schedule.periodUs.toNat (time + elapsed) -
        Periodic.fires schedule.periodUs.toNat time)
  exact ⟨active, period, lease, limit, completed⟩

/-- Running on twice in a row is running on for the sum of the times. -/
theorem ahead_ahead (schedule : CaptureSchedule) (time first second : Nat) :
    (schedule.ahead time first).ahead (time + first) second =
      schedule.ahead time (first + second) := by
  obtain ⟨-, period, lease, -⟩ := schedule.ahead_frame time first
  have times :
      Periodic.fires schedule.periodUs.toNat (time + first) -
            Periodic.fires schedule.periodUs.toNat time +
          (Periodic.fires schedule.periodUs.toNat (time + first + second) -
            Periodic.fires schedule.periodUs.toNat (time + first)) =
        Periodic.fires schedule.periodUs.toNat (time + (first + second)) -
          Periodic.fires schedule.periodUs.toNat time := by
    have before :=
      @Periodic.fires_le_add schedule.periodUs.toNat time first
    have after :=
      @Periodic.fires_le_add schedule.periodUs.toNat (time + first) second
    rw [← Nat.add_assoc]
    omega
  rw [ahead, period, lease, ahead, atCountdown_fire, fire_fire, times, ahead,
    Nat.add_assoc, UInt32.ofNat_add, ← sub_sub]
  rfl

/-! ## One turn -/

/-- What is left of a period after an overrun, as a word. -/
theorem ofNat_sub_mod
    {period : UInt32}
    (overrun : UInt32)
    (periodic : 0 < period.toNat) :
    UInt32.ofNat (period.toNat - overrun.toNat % period.toNat) =
      period - overrun % period := by
  have below : overrun % period ≤ period := by
    rw [UInt32.le_iff_toNat_le, UInt32.toNat_mod]
    exact (Nat.mod_lt _ periodic).le
  rw [← UInt32.toNat_mod, ← UInt32.toNat_sub_of_le _ _ below,
    UInt32.ofNat_toNat]

/-- Within its lease, a schedule that has run for a time runs on. -/
theorem AtTime.advance_eq
    (reached : schedule.AtTime time)
    (active : schedule.active = true)
    {elapsedUs : UInt32}
    (leased : elapsedUs < schedule.leaseRemainingUs) :
    schedule.advance elapsedUs =
      (schedule.ahead time elapsedUs.toNat, .ok) := by
  unfold advance ahead
  rw [if_neg (by simp [active]), if_neg (UInt32.not_le.2 leased),
    UInt32.ofNat_toNat]
  by_cases within : elapsedUs < schedule.untilDueUs
  · have shorter := UInt32.lt_iff_toNat_lt.1 within
    rw [reached.untilDue] at shorter
    obtain ⟨left, same⟩ :=
      Periodic.remaining_add_of_lt reached.periodic shorter
    have word :
        schedule.untilDueUs - elapsedUs =
          UInt32.ofNat
            (Periodic.remaining schedule.periodUs.toNat
              (time + elapsedUs.toNat)) := by
      rw [left, ← reached.untilDue,
        ← UInt32.toNat_sub_of_le _ _ (UInt32.le_of_lt within),
        UInt32.ofNat_toNat]
    rw [same, Nat.sub_self, ← word]
    simp only [within, if_true, fire, atCountdown]
  · have longer := UInt32.le_iff_toNat_le.1 (UInt32.not_lt.1 within)
    have overrun :
        (elapsedUs - schedule.untilDueUs).toNat =
          elapsedUs.toNat -
            Periodic.remaining schedule.periodUs.toNat time := by
      rw [UInt32.toNat_sub_of_le _ _ (UInt32.not_lt.1 within),
        reached.untilDue]
    rw [reached.untilDue] at longer
    obtain ⟨left, more⟩ :=
      Periodic.remaining_add_of_le reached.periodic longer
    rw [← overrun] at left more
    have rounds :
        Periodic.fires schedule.periodUs.toNat (time + elapsedUs.toNat) -
            Periodic.fires schedule.periodUs.toNat time =
          ((elapsedUs - schedule.untilDueUs) / schedule.periodUs).toNat +
            1 := by
      rw [more, Nat.add_sub_cancel_left, UInt32.toNat_div, Nat.add_comm]
    have word :=
      ofNat_sub_mod (elapsedUs - schedule.untilDueUs) reached.periodic
    rw [rounds, left, word]
    simp only [within, if_false, fire, atCountdown, UInt32.ofNat_add,
      UInt32.ofNat_toNat, UInt32.ofNat_one, add_sub_cancel_left]
    split_ifs <;> simp [add_comm]

/-- A time that uses up the lease ends the schedule. -/
theorem advance_over
    (active : schedule.active = true)
    {elapsedUs : UInt32}
    (used : schedule.leaseRemainingUs ≤ elapsedUs) :
    schedule.advance elapsedUs = (init, .expired) := by
  unfold advance
  rw [if_neg (by simp [active]), if_pos used]

/-- Nothing advances while no schedule runs. -/
theorem advance_inactive
    (inactive : schedule.active = false)
    (elapsedUs : UInt32) :
    schedule.advance elapsedUs = (schedule, .invalid) :=
  if_pos inactive

/-- A schedule that has run for a time and runs on has run for the sum. -/
theorem AtTime.ahead
    (reached : schedule.AtTime time)
    (elapsed : Nat) :
    (schedule.ahead time elapsed).AtTime (time + elapsed) := by
  obtain ⟨-, period, -, limit, completed⟩ :=
    schedule.ahead_frame time elapsed
  constructor
  · rw [period, CaptureSchedule.ahead, counted_fire]
    have before :
        (schedule.atCountdown
            (UInt32.ofNat
              (Periodic.remaining schedule.periodUs.toNat (time + elapsed)))
            (schedule.leaseRemainingUs - UInt32.ofNat elapsed)).counted =
          UInt32.ofNat (Periodic.fires schedule.periodUs.toNat time) :=
      reached.counted
    rw [before, ← UInt32.ofNat_add,
      Nat.add_sub_cancel' Periodic.fires_le_add]
  · rw [period, CaptureSchedule.ahead, (fire_frame _ _).2.2.1]
    exact
      UInt32.toNat_ofNat_of_lt'
        (Periodic.remaining_le.trans_lt (UInt32.toNat_lt _))
  · rw [period]
    exact reached.periodic
  · rw [limit, completed]
    exact reached.limited

/-- Two times one after the other advance a schedule like their sum. -/
theorem AtTime.advance_advance
    (reached : schedule.AtTime time)
    (active : schedule.active = true)
    {first second : UInt32}
    (fits : first.toNat + second.toNat < 2 ^ 32) :
    ((schedule.advance first).1.advance second).1 =
      (schedule.advance (first + second)).1 := by
  have sum : (first + second).toNat = first.toNat + second.toNat := by
    rw [UInt32.toNat_add, Nat.mod_eq_of_lt fits]
  by_cases expires : schedule.leaseRemainingUs ≤ first
  · have together : schedule.leaseRemainingUs ≤ first + second := by
      rw [UInt32.le_iff_toNat_le] at expires ⊢
      omega
    rw [advance_over active expires, advance_over active together,
      advance_inactive init_active]
  have leased := UInt32.not_le.1 expires
  obtain ⟨running, -, lease, -⟩ := schedule.ahead_frame time first.toNat
  rw [active] at running
  rw [UInt32.ofNat_toNat] at lease
  have left :
      (schedule.ahead time first.toNat).leaseRemainingUs.toNat =
        schedule.leaseRemainingUs.toNat - first.toNat := by
    rw [lease, UInt32.toNat_sub_of_le _ _ (UInt32.le_of_lt leased)]
  have before := UInt32.lt_iff_toNat_lt.1 leased
  rw [reached.advance_eq active leased]
  by_cases expiresLater :
      (schedule.ahead time first.toNat).leaseRemainingUs ≤ second
  · have together : schedule.leaseRemainingUs ≤ first + second := by
      rw [UInt32.le_iff_toNat_le] at expiresLater ⊢
      omega
    rw [advance_over running expiresLater, advance_over active together]
  · have leasedOn := UInt32.not_le.1 expiresLater
    have together : first + second < schedule.leaseRemainingUs := by
      rw [UInt32.lt_iff_toNat_lt] at leasedOn ⊢
      omega
    rw [(reached.ahead _).advance_eq running leasedOn,
      reached.advance_eq active together, sum, ahead_ahead]

/-- A claim moves the due capture to the completed ones. -/
theorem AtTime.claimDue
    (reached : schedule.AtTime time)
    (running : schedule.claimDue.active = true) :
    schedule.claimDue.AtTime time := by
  unfold CaptureSchedule.claimDue at running ⊢
  dsimp only at running ⊢
  split_ifs at running ⊢ with idle limited
  · exact reached
  · push Not at idle
    have due : schedule.due = true := by simpa using idle.2
    constructor
    · have before := reached.counted
      rw [CaptureSchedule.counted, due] at before
      rw [← before, CaptureSchedule.counted]
      simp [Bool.toUInt32]
    · exact reached.untilDue
    · exact reached.periodic
    · intro limit
      by_contra reachedLimit
      exact limited ⟨limit, UInt32.not_lt.1 reachedLimit⟩

/-- A renewal only changes the lease. -/
theorem AtTime.renew
    (reached : schedule.AtTime time)
    (scheduleId : Id16)
    (leaseSequence : UInt32)
    (leaseTimeoutMs : UInt16) :
    (schedule.renew scheduleId leaseSequence leaseTimeoutMs).1.AtTime
      time := by
  unfold CaptureSchedule.renew
  split_ifs <;>
    exact ⟨reached.counted, reached.untilDue, reached.periodic,
      reached.limited⟩

/-- A schedule that runs after a turn has run before it, with the same
period. -/
theorem turn_running
    {next : Turn}
    (running : (schedule.turn next).active = true) :
    schedule.active = true ∧
      (schedule.turn next).periodUs = schedule.periodUs := by
  cases next with
  | advance elapsedUs =>
      unfold turn advance at running ⊢
      dsimp only at running ⊢
      split_ifs at running ⊢ <;> simp_all
  | claim =>
      unfold turn claimDue at running ⊢
      dsimp only at running ⊢
      split_ifs at running ⊢ <;> simp_all
  | renew scheduleId leaseSequence leaseTimeoutMs =>
      unfold turn renew at running ⊢
      dsimp only at running ⊢
      split_ifs at running ⊢ <;> simp_all

/-- While it runs, the schedule is a function of its period and its time. -/
def RunsFor
    (schedule : CaptureSchedule)
    (periodUs : UInt32)
    (time : Nat) :
    Prop :=
  schedule.active = true →
    schedule.periodUs = periodUs ∧ schedule.AtTime time

/-- A turn keeps the schedule a function of its time. -/
theorem RunsFor.turn
    {periodUs : UInt32}
    (runs : schedule.RunsFor periodUs time)
    (next : Turn) :
    (schedule.turn next).RunsFor periodUs (time + next.elapsed) := by
  intro running
  obtain ⟨active, period⟩ := turn_running running
  obtain ⟨same, reached⟩ := runs active
  refine ⟨period.trans same, ?_⟩
  cases next with
  | advance elapsedUs =>
      have leased := (advance_active active running).1
      rw [CaptureSchedule.turn, reached.advance_eq active leased]
      exact reached.ahead _
  | claim =>
      exact reached.claimDue running
  | renew scheduleId leaseSequence leaseTimeoutMs =>
      exact reached.renew _ _ _

/-- Turns keep the schedule a function of its time. -/
theorem RunsFor.turns
    {periodUs : UInt32}
    (runs : schedule.RunsFor periodUs time)
    (turns : List Turn) :
    (turns.foldl CaptureSchedule.turn schedule).RunsFor periodUs
      (time + elapsed turns) := by
  induction turns generalizing schedule time with
  | nil =>
      exact runs
  | cons next rest inductionHypothesis =>
      rw [List.foldl_cons, elapsed, List.map_cons, List.sum_cons,
        ← Nat.add_assoc]
      exact inductionHypothesis (runs.turn next)

/-- A schedule starts with its whole period left. -/
theorem start_atTime
    {started : CaptureSchedule}
    {scheduleId : Id16}
    {periodUs captureCount : UInt32}
    {leaseTimeoutMs : UInt16}
    (accepted :
      schedule.start scheduleId periodUs captureCount leaseTimeoutMs =
        (started, .ok)) :
    started.periodUs = periodUs ∧ started.AtTime 0 := by
  unfold start at accepted
  split_ifs at accepted with active invalid
  · cases accepted
  · cases accepted
  · obtain ⟨rfl, -⟩ := Prod.mk.inj accepted
    push Not at invalid
    have long : 100000 ≤ periodUs.toNat :=
      UInt32.le_iff_toNat_le.1 (UInt32.not_lt.1 invalid.2.1)
    refine ⟨rfl, ?_, ?_, ?_, ?_⟩
    · simp [counted, init, Bool.toUInt32]
    · simp
    · show 0 < periodUs.toNat
      omega
    · intro limit
      exact UInt32.pos_iff_ne_zero.2 limit

/-! ## No turn wraps around -/

/-- Time wraps nothing but the count of missed captures. -/
theorem AtTime.advanceChecked
    (reached : schedule.AtTime time)
    (active : schedule.active = true)
    (elapsedUs : UInt32) :
    schedule.advanceChecked elapsedUs =
      some (schedule.advance elapsedUs).1 := by
  have running : ¬schedule.active = false := by
    simp [active]
  unfold CaptureSchedule.advanceChecked CaptureSchedule.advance
  rw [if_neg running, if_neg running]
  by_cases used : elapsedUs ≥ schedule.leaseRemainingUs
  · rw [if_pos used, if_pos used]
  have lease := subChecked?_eq (UInt32.le_of_lt (UInt32.not_le.1 used))
  rw [if_neg used, if_neg used, lease]
  by_cases within : elapsedUs < schedule.untilDueUs
  · simp [within, subChecked?_eq (UInt32.le_of_lt within)]
  have beyond := UInt32.not_lt.1 within
  have overrun := subChecked?_eq beyond
  have fits :
      (1 : UInt32).toNat +
          ((elapsedUs - schedule.untilDueUs) / schedule.periodUs).toNat <
        2 ^ 32 := by
    have positive : 0 < schedule.untilDueUs.toNat := by
      rw [reached.untilDue]
      exact Periodic.remaining_pos reached.periodic
    have quotient :
        ((elapsedUs - schedule.untilDueUs) / schedule.periodUs).toNat ≤
          elapsedUs.toNat - schedule.untilDueUs.toNat := by
      rw [UInt32.toNat_div, UInt32.toNat_sub_of_le _ _ beyond]
      exact Nat.div_le_self _ _
    have word := elapsedUs.toNat_lt
    rw [UInt32.toNat_one]
    omega
  have periods := addChecked?_eq fits
  have untilDue :
      subChecked? schedule.periodUs
          ((elapsedUs - schedule.untilDueUs) % schedule.periodUs) =
        some
          (schedule.periodUs -
            (elapsedUs - schedule.untilDueUs) % schedule.periodUs) := by
    apply subChecked?_eq
    rw [UInt32.le_iff_toNat_le, UInt32.toNat_mod]
    exact (Nat.mod_lt _ reached.periodic).le
  have missed :
      subChecked?
          (1 + (elapsedUs - schedule.untilDueUs) / schedule.periodUs) 1 =
        some
          (1 + (elapsedUs - schedule.untilDueUs) / schedule.periodUs - 1) := by
    apply subChecked?_eq
    rw [UInt32.le_iff_toNat_le, UInt32.toNat_add, Nat.mod_eq_of_lt fits]
    exact Nat.le_add_right _ _
  rcases schedule.due with _ | _ <;>
    simp [within, overrun, periods, untilDue, missed]

/-- A claim wraps nothing but a count without a limit. -/
theorem AtTime.claimDueChecked
    (reached : schedule.AtTime time)
    (holds : ¬schedule.CountWraps .claim) :
    schedule.claimDueChecked = some schedule.claimDue := by
  unfold CaptureSchedule.claimDueChecked CaptureSchedule.claimDue
  by_cases idle : schedule.active = false ∨ schedule.due = false
  · rw [if_pos idle, if_pos idle]
  have completed :
      addChecked? schedule.completedCount 1 =
        some (schedule.completedCount + 1) := by
    apply addChecked?_eq
    have word := schedule.completedCount.toNat_lt
    rw [UInt32.toNat_one]
    by_contra wraps
    apply holds
    push Not at idle
    refine ⟨rfl, by simpa using idle.1, by simpa using idle.2, ?_, by omega⟩
    by_contra limit
    have below := UInt32.lt_iff_toNat_lt.1 (reached.limited limit)
    have limitWord := schedule.captureLimit.toNat_lt
    omega
  rw [if_neg idle, if_neg idle, completed]
  dsimp only [Option.bind_eq_bind, Option.bind_some]
  split_ifs <;> rfl

/-- No turn wraps anything else. -/
theorem AtTime.turnChecked
    (reached : schedule.AtTime time)
    (active : schedule.active = true)
    (next : Turn)
    (holds : ¬schedule.CountWraps next) :
    schedule.turnChecked next = some (schedule.turn next) := by
  cases next with
  | advance elapsedUs =>
      exact reached.advanceChecked active elapsedUs
  | claim =>
      exact reached.claimDueChecked holds
  | renew scheduleId leaseSequence leaseTimeoutMs =>
      rfl

/--
However the time since the start of a schedule was split, and whatever was
claimed and renewed in between, the schedule is a function of that time while
it runs. A time that is split leaves the same schedule as the whole of it, and
the only counts that wrap around are the missed captures and, without a limit,
the completed ones.
-/
theorem arithmetic_exact
    {idle started : CaptureSchedule}
    {scheduleId : Id16}
    {periodUs captureCount : UInt32}
    {leaseTimeoutMs : UInt16}
    (accepted :
      idle.start scheduleId periodUs captureCount leaseTimeoutMs =
        (started, .ok))
    (turns : List Turn) :
    let reached := turns.foldl turn started
    let time := elapsed turns
    (∀ first second : UInt32,
        first.toNat + second.toNat < 2 ^ 32 →
          ((reached.advance first).1.advance second).1 =
            (reached.advance (first + second)).1) ∧
      (reached.active = true →
        reached.counted = UInt32.ofNat (time / periodUs.toNat) ∧
          reached.untilDueUs.toNat =
            periodUs.toNat - time % periodUs.toNat ∧
          1 ≤ reached.untilDueUs ∧ reached.untilDueUs ≤ periodUs ∧
          ∀ next,
            ¬reached.CountWraps next →
              reached.turnChecked next = some (reached.turn next)) := by
  intro reached time
  obtain ⟨period, atStart⟩ := start_atTime accepted
  have runs : reached.RunsFor periodUs time := by
    have all := RunsFor.turns (fun _ => ⟨period, atStart⟩) turns
    rwa [Nat.zero_add] at all
  constructor
  · intro first second fits
    rcases active : reached.active with _ | _
    · rw [advance_inactive active, advance_inactive active,
        advance_inactive active]
    · exact (runs active).2.advance_advance active fits
  · intro active
    obtain ⟨rfl, reachedAt⟩ := runs active
    refine ⟨reachedAt.counted, reachedAt.untilDue, ?_, ?_,
      reachedAt.turnChecked active⟩
    · rw [UInt32.le_iff_toNat_le, reachedAt.untilDue]
      exact Periodic.remaining_pos reachedAt.periodic
    · rw [UInt32.le_iff_toNat_le, reachedAt.untilDue]
      exact Periodic.remaining_le

/-- A schedule without a limit. -/
def unlimited : CaptureSchedule :=
  (init.start (Id16.ofByte 1) 100000 0 10000).1

/-- The schedule without a limit is accepted. -/
theorem unlimited_accepted :
    init.start (Id16.ofByte 1) 100000 0 10000 = (unlimited, .ok) := by
  decide

/-- Half a period passes in two parts. -/
theorem arithmetic_exact_unlimited :
    let reached := [.advance 20000, .advance 30000].foldl turn unlimited
    reached.counted = 0 ∧ reached.untilDueUs.toNat = 50000 := by
  obtain ⟨counted, untilDue, -⟩ :=
    (arithmetic_exact unlimited_accepted
      [.advance 20000, .advance 30000]).2 (by decide)
  exact ⟨counted, untilDue⟩

/-- A period passes, its capture is claimed and the lease is renewed. -/
def round (count : Nat) : List Turn :=
  [.advance 100000, .claim,
    .renew (Id16.ofByte 1) (UInt32.ofNat (count + 1)) 10000]

/-- Rounds of a schedule, and one more period. -/
def rounds (count : Nat) : List Turn :=
  (List.range count).flatMap round ++ [.advance 100000]

/-- The schedule without a limit after a number of rounds. -/
structure Paced (schedule : CaptureSchedule) (count : Nat) : Prop where
  active : schedule.active = true
  due : schedule.due = false
  scheduleId : schedule.scheduleId = Id16.ofByte 1
  periodUs : schedule.periodUs = 100000
  untilDueUs : schedule.untilDueUs = 100000
  captureLimit : schedule.captureLimit = 0
  completedCount : schedule.completedCount = UInt32.ofNat count
  leaseSequence : schedule.leaseSequence = UInt32.ofNat count
  leaseRemainingUs : schedule.leaseRemainingUs = 10000000

/-- A period makes a capture due and uses up a part of the lease. -/
theorem Paced.advance
    {count : Nat}
    (paced : schedule.Paced count) :
    schedule.advance 100000 =
      ({ schedule with
          due := true
          leaseRemainingUs := 9900000 },
        .ok) := by
  obtain ⟨active, due, _, period, untilDue, _, _, _, lease⟩ := paced
  unfold CaptureSchedule.advance
  simp [active, due, period, untilDue, lease]

/-- A round counts one more completed capture. -/
theorem Paced.round
    {count : Nat}
    (paced : schedule.Paced count)
    (fits : count + 1 < 2 ^ 32) :
    ((CaptureSchedule.round count).foldl turn schedule).Paced
      (count + 1) := by
  have larger : UInt32.ofNat count < UInt32.ofNat (count + 1) := by
    rw [UInt32.lt_iff_toNat_lt, UInt32.toNat_ofNat_of_lt' fits,
      UInt32.toNat_ofNat_of_lt' ((Nat.lt_succ_self count).trans fits)]
    exact Nat.lt_succ_self count
  have nonzero : UInt32.ofNat (count + 1) ≠ 0 :=
    UInt32.pos_iff_ne_zero.1 (UInt32.lt_of_le_of_lt UInt32.zero_le larger)
  have advanced := paced.advance
  obtain ⟨active, due, scheduleId, period, untilDue, limit, completed,
    sequence, lease⟩ := paced
  have admissible :
      ¬((10000 : UInt16) < minLeaseMs ∨ (10000 : UInt16) > maxLeaseMs) := by
    decide
  simp only [CaptureSchedule.round, List.foldl_cons, List.foldl_nil, turn,
    advanced, claimDue, renew, active, limit, scheduleId, sequence, nonzero,
    admissible, (UInt32.ne_of_lt larger).symm, UInt32.lt_asymm larger, ne_eq, not_true_eq_false,
    Bool.true_eq_false, or_self, if_false, false_and]
  have counted :
      schedule.completedCount + 1 = UInt32.ofNat (count + 1) := by
    rw [completed, UInt32.ofNat_add]
    rfl
  exact ⟨rfl, rfl, rfl, period, untilDue, rfl, counted, rfl, rfl⟩

/-- Rounds count as many completed captures. -/
theorem paced_rounds
    {count : Nat}
    (fits : count < 2 ^ 32) :
    (((List.range count).flatMap round).foldl turn unlimited).Paced
      count := by
  induction count with
  | zero =>
      exact ⟨rfl, rfl, rfl, rfl, rfl, rfl, rfl, rfl, by decide⟩
  | succ count inductionHypothesis =>
      rw [List.range_succ, List.flatMap_append, List.foldl_append,
        List.flatMap_singleton]
      exact (inductionHypothesis (by omega)).round fits

/-- Once the count is full, the next claim wraps around. -/
theorem claim_wraps
    {count : Nat}
    (fits : count < 2 ^ 32)
    (full : addChecked? (UInt32.ofNat count) 1 = none) :
    ((rounds count).foldl turn unlimited).active = true ∧
      ((rounds count).foldl turn unlimited).turnChecked .claim = none := by
  have paced := paced_rounds fits
  rw [rounds, List.foldl_append]
  simp only [List.foldl_cons, List.foldl_nil, turn, paced.advance]
  refine ⟨paced.active, ?_⟩
  simp [turnChecked, claimDueChecked, paced.active, paced.completedCount,
    full]

/-- Without a limit, the count of completed captures wraps around while the
schedule runs. -/
theorem not_turnChecked_rounds :
    ((rounds 4294967295).foldl turn unlimited).active = true ∧
      ((rounds 4294967295).foldl turn unlimited).turnChecked .claim =
        none :=
  claim_wraps (by norm_num) (if_neg (by decide))

end Usac.Firmware.CaptureSchedule
