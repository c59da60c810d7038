import Usac.Firmware.Config
import Usac.Library.Logged

namespace Usac.Firmware

/-!
# The configurator of the TUSS4470

`tuss4470_configurator.c` over an arbitrary bus. Every operation is logged, and
a bus is what it answers to the next operation after a given log, so a bus may
fail at any operation, return any value, and change its mind. What a failure
leaves unread in the report is zero.
-/

/-- `tuss4470_config_result_t`. -/
inductive ConfigResult where
  | ok
  | invalidProfile
  | bus
  | identity
  | readback
  | driverFault
  | vdrvTimeout
  deriving Repr, DecidableEq

/-- `tuss4470_config_report_t`. -/
structure ConfigReport where
  deviceId : UInt8
  revisionId : UInt8
  devStat : UInt8
  deriving Repr, DecidableEq

namespace Tuss4470

/-- An operation on the bus. A read leaves a value even when it fails. -/
inductive BusOperation where
  | read (address value : UInt8) (accepted : Bool)
  | write (address value : UInt8) (accepted : Bool)
  | delay
  deriving Repr, DecidableEq

/-- The operations so far, the last one at the end. -/
abbrev BusLog := List BusOperation

/-- `tuss4470_bus_t`. A callback may be missing. -/
structure Bus where
  read : Option (BusLog → UInt8 → Bool × UInt8)
  write : Option (BusLog → UInt8 → UInt8 → Bool)
  hasDelay : Bool

/-- A piece of code that uses the bus. -/
abbrev Operation := Library.Logged BusOperation

def devCtrl3 : UInt8 := 0x14
def vdrvCtrl : UInt8 := 0x16
def burstPulse : UInt8 := 0x1A
def tofConfig : UInt8 := 0x1B
def devStatRegister : UInt8 := 0x1C
def deviceIdRegister : UInt8 := 0x1D
def revIdRegister : UInt8 := 0x1E
def deviceIdValue : UInt8 := 0xB9
def revisionIdValue : UInt8 := 0x02
def vdrvReady : UInt8 := 0x08
def faultMask : UInt8 := 0x07

/-- `read_register`, with what it leaves in the value. -/
def readRegister (bus : Bus) (address : UInt8) :
    Operation (ConfigResult × UInt8) :=
  match bus.read with
  | none => pure (.bus, 0)
  | some read => do
      let (accepted, value) ←
        Library.Logged.perform (read · address)
          fun answer => .read address answer.2 answer.1
      pure (if accepted then .ok else .bus, value)

/-- `write_verify`. -/
def writeVerify (bus : Bus) (address value : UInt8) :
    Operation ConfigResult :=
  match bus.write with
  | none => pure .bus
  | some write => do
      let accepted ←
        Library.Logged.perform (write · address value)
          (.write address value)
      if accepted then
        let (result, readback) ← readRegister bus address
        if result ≠ .ok then
          pure .bus
        else if readback ≠ value then
          pure .readback
        else
          pure .ok
      else
        pure .bus

/-- The loops over registers: they end at the first one that fails. -/
def writeAll (bus : Bus) : List RegisterPair → Operation ConfigResult
  | [] => pure .ok
  | pair :: rest => do
      let result ← writeVerify bus pair.address pair.value
      if result ≠ .ok then
        pure result
      else
        writeAll bus rest

/-- The table of `apply_safe_start`. -/
def safeStart : List RegisterPair :=
  [⟨burstPulse, 0x01⟩, ⟨vdrvCtrl, 0x20⟩, ⟨tofConfig, 0x00⟩, ⟨devCtrl3, 0x03⟩]

/-- `apply_safe_start`. -/
def applySafeStart (bus : Bus) : Operation ConfigResult :=
  writeAll bus safeStart

/-- `tuss4470_force_safe`. Every write is attempted, whatever became of the ones
before it. -/
def forceSafe (bus : Bus) : Operation ConfigResult := do
  let tof ← writeVerify bus tofConfig 0x00
  let vdrv ← writeVerify bus vdrvCtrl 0x20
  let standby ← writeVerify bus tofConfig 0x40
  if tof ≠ .ok then
    pure tof
  else if vdrv ≠ .ok then
    pure vdrv
  else
    pure standby

/-- `tuss4470_low_power_state_t`. -/
inductive LowPowerState where
  | standby
  | sleep
  deriving Repr, DecidableEq

/-- `tuss4470_enter_low_power`. -/
def enterLowPower (bus : Bus) (state : LowPowerState) :
    Operation ConfigResult := do
  let result ← forceSafe bus
  if result ≠ .ok then
    pure result
  else
    writeVerify bus tofConfig
      (match state with
        | .standby => 0x40
        | .sleep => 0x80)

/-- `fail_safe_result`. -/
def failSafe (bus : Bus) (result : ConfigResult) : Operation ConfigResult := do
  let _ ← forceSafe bus
  pure result

/-- Whether the drive voltage has to come up: `requires_vdrv_ready`. -/
def requiresVdrvReady (profile : Profile) : Bool :=
  profile.value 5 &&& 0x20 = 0 && profile.value 9 &&& 0x02 ≠ 0

/-- The pause before a poll for the drive voltage. -/
def pauseBeforePoll (requiresReady : Bool) : Operation Unit :=
  if requiresReady then
    modify (· ++ [.delay])
  else
    pure ()

/-- The polling loop, for the polls that are left. The report keeps the last
status that has been read. -/
def pollStatus (bus : Bus) (requiresReady : Bool) :
    Nat → UInt8 → Operation (ConfigResult × UInt8)
  | 0, devStat => pure (.vdrvTimeout, devStat)
  | polls + 1, _ => do
      pauseBeforePoll requiresReady
      let (result, devStat) ← readRegister bus devStatRegister
      if result ≠ .ok then
        pure (result, devStat)
      else if devStat &&& faultMask ≠ 0 then
        pure (.driverFault, devStat)
      else if requiresReady = false ∨ devStat &&& vdrvReady ≠ 0 then
        pure (.ok, devStat)
      else
        pollStatus bus requiresReady polls devStat

/-- The registers the loop of `tuss4470_configure_firmware` does not pass
over. -/
def ordinaryRegisters (profile : Profile) : List RegisterPair :=
  profile.registers.toList.filter fun pair =>
    pair.address ≠ vdrvCtrl ∧ pair.address ≠ tofConfig

/-- What `tuss4470_configure_firmware` writes: a safe start, the ordinary
registers, and the two that drive the transducer. -/
def writeProfile (bus : Bus) (profile : Profile) : Operation ConfigResult := do
  let started ← applySafeStart bus
  if started ≠ .ok then
    pure started
  else
    let ordinary ← writeAll bus (ordinaryRegisters profile)
    if ordinary ≠ .ok then
      pure ordinary
    else
      writeAll bus
        [⟨vdrvCtrl, profile.value 5⟩, ⟨tofConfig, profile.value 9⟩]

/-- The part of `tuss4470_configure_firmware` behind the identity check, but for
the safe sequence its failures end with. -/
def configureIdentified
    (bus : Bus)
    (profile : Profile)
    (vdrvReadyPollLimit : UInt16) :
    Operation (ConfigResult × UInt8) := do
  let written ← writeProfile bus profile
  if written ≠ .ok then
    pure (written, 0)
  else if requiresVdrvReady profile ∧ bus.hasDelay = false then
    pure (.bus, 0)
  else
    pollStatus bus (requiresVdrvReady profile)
      (if requiresVdrvReady profile then vdrvReadyPollLimit.toNat else 1) 0

/-- `tuss4470_configure_firmware`. -/
def configureFirmware
    (bus : Bus)
    (profile : Profile)
    (vdrvReadyPollLimit : UInt16) :
    Operation (ConfigResult × ConfigReport) := do
  if profile.validate ≠ .ok then
    pure (.invalidProfile, ⟨0, 0, 0⟩)
  else
    let (result, deviceId) ← readRegister bus deviceIdRegister
    if result ≠ .ok then
      pure (result, ⟨deviceId, 0, 0⟩)
    else
      let (result, revisionId) ← readRegister bus revIdRegister
      if result ≠ .ok then
        pure (result, ⟨deviceId, revisionId, 0⟩)
      else if deviceId ≠ deviceIdValue ∨ revisionId ≠ revisionIdValue then
        pure (.identity, ⟨deviceId, revisionId, 0⟩)
      else
        let (result, devStat) ←
          configureIdentified bus profile vdrvReadyPollLimit
        if result ≠ .ok then
          let failed ← failSafe bus result
          pure (failed, ⟨deviceId, revisionId, devStat⟩)
        else
          pure (.ok, ⟨deviceId, revisionId, devStat⟩)

end Tuss4470

end Usac.Firmware
