import Usac.Firmware.Capture

namespace Usac.Firmware

open Library

/-!
# Burst plans

The plan of a finite burst of `usac_burst_plan.c`, and what the capture of the
platform derives it from. A plan is refused when the burst does not end inside
the window behind the trigger.
-/

/-- `usac_burst_plan_t`. -/
structure BurstPlan where
  ioMode : UInt8
  pulseCount : UInt8
  actionFlags : UInt8
  periodTicks : UInt16
  io1FallTick : UInt16
  io2RiseTick : UInt16
  deriving Repr, DecidableEq

namespace BurstPlan

/-- `USAC_BURST_USE_CMD_TRIGGER`. -/
def useCmdTrigger : UInt8 := 0x01

/-- `USAC_BURST_USE_IO1_ENABLE`. -/
def useIo1Enable : UInt8 := 0x02

/-- `USAC_BURST_USE_IO1_TIMER`. -/
def useIo1Timer : UInt8 := 0x04

/-- `USAC_BURST_USE_IO2_TIMER`. -/
def useIo2Timer : UInt8 := 0x08

/-- `USAC_BURST_NONOVERLAP`. -/
def nonoverlap : UInt8 := 0x10

/-- The plan before the control path is chosen. -/
def base (ioMode pulseCount : UInt8) (periodTicks : UInt16) : BurstPlan where
  ioMode := ioMode
  pulseCount := pulseCount
  actionFlags := useIo2Timer
  periodTicks := periodTicks
  io1FallTick := 0
  io2RiseTick := 0

/-- The control path of an IO mode. -/
def choosePath (plan : BurstPlan) : BurstPlan :=
  if plan.ioMode = 0 then
    { plan with actionFlags := plan.actionFlags ||| useCmdTrigger }
  else if plan.ioMode = 1 then
    { plan with actionFlags := plan.actionFlags ||| useIo1Enable }
  else if plan.ioMode = 2 then
    -- The first timer falls two ticks before the second rises.
    let halfPeriod := plan.periodTicks / 2
    { plan with
      io1FallTick := halfPeriod - 1
      io2RiseTick := halfPeriod + 1
      actionFlags := plan.actionFlags ||| (useIo1Timer ||| nonoverlap) }
  else
    plan

/-- `usac_burst_plan_build`. -/
def build
    (ioMode pulseCount : UInt8)
    (periodTicks : UInt16)
    (posttriggerTicks : UInt32) :
    Option BurstPlan :=
  if ioMode > 3 ∨ pulseCount = 0 ∨ pulseCount > 63 ∨ periodTicks < 24 ∨
      periodTicks > 800 then
    none
  else
    let durationTicks := pulseCount.toUInt32 * periodTicks.toUInt32
    if durationTicks ≥ posttriggerTicks then
      none
    else
      some (base ioMode pulseCount periodTicks).choosePath

/-- A finite burst of a legal period is planned exactly when it ends before the
window does. -/
theorem isSome_build
    {ioMode pulseCount : UInt8}
    {periodTicks : UInt16}
    {posttriggerTicks : UInt32}
    (mode : ioMode ≤ 3)
    (pulses : pulseCount ≠ 0 ∧ pulseCount ≤ 63)
    (period : 24 ≤ periodTicks ∧ periodTicks ≤ 800) :
    (build ioMode pulseCount periodTicks posttriggerTicks).isSome = true ↔
      pulseCount.toNat * periodTicks.toNat < posttriggerTicks.toNat := by
  have legal :
      ¬(ioMode > 3 ∨ pulseCount = 0 ∨ pulseCount > 63 ∨ periodTicks < 24 ∨
        periodTicks > 800) := by
    simp only [not_or, gt_iff_lt, UInt8.not_lt, UInt16.not_lt]
    exact ⟨mode, pulses.1, pulses.2, period.1, period.2⟩
  have pulseBound : pulseCount.toNat ≤ 63 := pulses.2
  have periodBound : periodTicks.toNat ≤ 800 := period.2
  have product : pulseCount.toNat * periodTicks.toNat ≤ 63 * 800 :=
    Nat.mul_le_mul pulseBound periodBound
  have duration :
      (pulseCount.toUInt32 * periodTicks.toUInt32).toNat =
        pulseCount.toNat * periodTicks.toNat := by
    rw [UInt32.toNat_mul, UInt8.toNat_toUInt32, UInt16.toNat_toUInt32]
    exact Nat.mod_eq_of_lt (by omega)
  rw [build, if_neg legal]
  dsimp only
  rw [← duration, ← UInt32.lt_iff_toNat_lt]
  split_ifs with late
  · exact ⟨fun planned => (nomatch planned),
      fun early => absurd early (UInt32.not_lt.2 late)⟩
  · exact ⟨fun _ => UInt32.not_le.1 late, fun _ => rfl⟩

end BurstPlan

namespace Profile

/-- A masked byte is at most the mask. -/
theorem and_le_mask (byte mask : UInt8) : byte &&& mask ≤ mask := by
  rw [UInt8.le_iff_toNat_le, UInt8.toNat_and]
  exact Nat.and_le_right

/-- A profile that passes validation has a finite burst. -/
theorem finite_of_validate
    {profile : Profile}
    (passed : profile.validate = .ok) :
    profile.value 8 &&& 0x3F ≠ 0 := by
  unfold validate at passed
  intro continuous
  split_ifs at passed
  cases faulty : registerFault? profile.registers.toList
      registerAddresses registerMasks with
  | some fault =>
      simp only [faulty] at passed
      exact registerFault?_ne_ok _ _ _ (passed ▸ faulty)
  | none =>
      simp only [faulty] at passed
      cases passed

end Profile

namespace ConfigV2

variable (config : ConfigV2)

/-- The number of pulses in the burst register. -/
def pulseCount : UInt8 :=
  config.profile.value 8 &&& 0x3F

/-- The IO mode in the device control register. -/
def ioMode : UInt8 :=
  config.profile.value 4 &&& 0x03

/-- The ticks between the trigger and the last sample. -/
def posttriggerTicks : UInt32 :=
  (2048 - config.pretriggerCount).toUInt32 *
    config.profile.sampleIntervalTicks.toUInt32

/-- The plan `usac_platform_capture` asks for. -/
def burstPlan : Option BurstPlan :=
  BurstPlan.build config.ioMode config.pulseCount
    config.profile.burstPeriodTicks config.posttriggerTicks

/-- The checks of `usac_platform_capture` before it drives a pin, and the plan
behind them. -/
def prepareCapture
    (triggerSource : UInt8)
    (syncTimeoutMs : UInt32) :
    Option BurstPlan :=
  if triggerSource > 2 ∨
      (triggerSource = 1 ∧ (syncTimeoutMs = 0 ∨ syncTimeoutMs > 60000)) ∨
      (triggerSource ≠ 1 ∧ syncTimeoutMs ≠ 0) ∨
      config.sampleCount ≠ 2048 ∨ config.pretriggerCount ≥ 2048 then
    none
  else
    config.burstPlan

/-- The burst ends inside the window behind the trigger. -/
def BurstFits : Prop :=
  config.pulseCount.toNat * config.profile.burstPeriodTicks.toNat <
    (2048 - config.pretriggerCount.toNat) *
      config.profile.sampleIntervalTicks.toNat

instance : Decidable config.BurstFits :=
  inferInstanceAs (Decidable (_ < _))

variable {config}

/-- What the checks of a configuration say about its capture. -/
theorem Identified.capturable
    (identified : config.Identified) :
    config.sampleCount = 2048 ∧ config.pretriggerCount < 2048 ∧
      config.profile.validate = .ok := by
  have valid := identified.valid
  simp only [ConfigV2.validate, Bool.and_eq_true, decide_eq_true_eq,
    beq_iff_eq] at valid
  obtain ⟨⟨⟨⟨⟨count, pretrigger⟩, -⟩, -⟩, -⟩, passed⟩ := valid
  rw [count] at pretrigger
  exact ⟨count, pretrigger, passed⟩

/-- The ticks behind the trigger of a configuration with its identifiers. -/
theorem Identified.toNat_posttriggerTicks
    (identified : config.Identified) :
    config.posttriggerTicks.toNat =
      (2048 - config.pretriggerCount.toNat) *
        config.profile.sampleIntervalTicks.toNat := by
  obtain ⟨-, pretrigger, passed⟩ := identified.capturable
  have interval := (Profile.valid_of_validate passed).interval.2
  have before : config.pretriggerCount.toNat < 2048 := pretrigger
  have ticks : config.profile.sampleIntervalTicks.toNat ≤ 960 := interval
  have window :
      (2048 - config.pretriggerCount.toNat) *
          config.profile.sampleIntervalTicks.toNat ≤ 2048 * 960 :=
    Nat.mul_le_mul (Nat.sub_le _ _) ticks
  have samples :
      (2048 - config.pretriggerCount).toNat =
        2048 - config.pretriggerCount.toNat :=
    UInt16.toNat_sub_of_le _ _ (UInt16.le_of_lt pretrigger)
  rw [posttriggerTicks, UInt32.toNat_mul, UInt16.toNat_toUInt32,
    UInt16.toNat_toUInt32, samples]
  exact Nat.mod_eq_of_lt (by omega)

/-- The burst of a configuration with its identifiers is planned exactly when
it fits the window behind the trigger. -/
theorem Identified.isSome_burstPlan
    (identified : config.Identified) :
    config.burstPlan.isSome = true ↔ config.BurstFits := by
  obtain ⟨-, -, passed⟩ := identified.capturable
  have mode : config.ioMode ≤ 3 := Profile.and_le_mask _ _
  have pulses : config.pulseCount ≠ 0 ∧ config.pulseCount ≤ 63 :=
    ⟨Profile.finite_of_validate passed, Profile.and_le_mask _ _⟩
  rw [burstPlan, BurstPlan.isSome_build mode pulses
    (Profile.valid_of_validate passed).burst,
    identified.toNat_posttriggerTicks, BurstFits]

end ConfigV2

end Usac.Firmware
