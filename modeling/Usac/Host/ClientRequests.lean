import Usac.Host.Executor
import Usac.Host.MessageCodecs

namespace Usac.Host

open Library

/-!
# The requests of the bridge client

Every command `BridgeDeviceClient` builds for the device, as the frame it
sends.
-/

/-- `PeriodicSchedule.validate`. The types of the fields carry the checks of
their lengths and ranges. -/
def PeriodicSchedule.validate (schedule : PeriodicSchedule) :
    Except Raised Unit := do
  require (schedule.bootId ≠ Bytes.zero 16)
    (.valueError "boot_id must be a nonzero 16-byte value")
  require (schedule.scheduleId ≠ Bytes.zero 16)
    (.valueError "schedule_id must be a nonzero 16-byte value")
  require (100000 ≤ schedule.periodUs)
    (.valueError "period_us must respect the 10 Hz first-version limit")
  require (1000 ≤ schedule.leaseTimeoutMs ∧ schedule.leaseTimeoutMs ≤ 10000)
    (.valueError "lease_timeout_ms must be in 1000..10000")

/-- `LeaseRenewal`. -/
structure LeaseRenewal where
  bootId : Bytes 16
  scheduleId : Bytes 16
  leaseSequence : UInt32
  leaseTimeoutMs : UInt32
  deriving DecidableEq

/-- A request with the arguments of the method that sends it, and the random
bytes it draws. -/
inductive ClientRequest where
  | hello (nonce : Bytes 16)
  | capabilities
  | status
  | readConfig
  | applyConfig
      (requestId : Bytes 16)
      (expected : Bytes 32)
      (config : AcquisitionConfigV2)
  | captureOnce
      (requestId : Bytes 16)
      (config : AcquisitionConfigV2)
      (triggerSource : TriggerSource)
      (syncTimeoutMs : UInt32)
  | startPeriodic (requestId : Bytes 16) (schedule : PeriodicSchedule)
  | renewPeriodic (renewal : LeaseRenewal)
  | stopPeriodic (requestId : Bytes 16) (scheduleId : Bytes 16)

namespace ClientRequest

/-- The message type of a request. -/
def messageType : ClientRequest → MessageType
  | hello _ => .hello
  | capabilities => .getCapabilities
  | status => .getStatus
  | readConfig => .getConfig
  | applyConfig _ _ _ => .setConfig
  | captureOnce _ _ _ _ => .captureOnce
  | startPeriodic _ _ => .startPeriodic
  | renewPeriodic _ => .renewPeriodicLease
  | stopPeriodic _ _ => .stop

/-- The payload of a request. -/
def payload : ClientRequest → Except Raised (List UInt8)
  | hello nonce => HelloRequest.encode ⟨nonce, 1, 1⟩
  | capabilities | status | readConfig => .ok []
  | applyConfig requestId expected config =>
      SetConfigRequest.encode ⟨requestId, expected, config⟩
  | captureOnce requestId config triggerSource syncTimeoutMs =>
      CaptureOnceRequest.encode {
        requestId := requestId
        expectedProfileSha256 := config.profileSha256
        expectedDeviceConfigCrc32 := config.deviceConfigCrc32
        triggerSource := triggerSource
        syncTimeoutMs := syncTimeoutMs
      }
  | startPeriodic requestId schedule =>
      StartPeriodicRequest.encode {
        requestId := requestId
        scheduleId := schedule.scheduleId
        expectedProfileSha256 := schedule.profileSha256
        expectedDeviceConfigCrc32 := schedule.deviceConfigCrc32
        periodUs := schedule.periodUs
        captureCount := schedule.captureCount
        leaseTimeoutMs := schedule.leaseTimeoutMs
      }
  | renewPeriodic renewal =>
      RenewPeriodicLease.encode {
        bootId := renewal.bootId
        scheduleId := renewal.scheduleId
        leaseSequence := renewal.leaseSequence
        leaseTimeoutOrRemainingMs := renewal.leaseTimeoutMs
      }
  | stopPeriodic requestId scheduleId =>
      .ok (StopRequest.encode ⟨requestId, scheduleId⟩)

/-- What the callers of the client have checked of the arguments. -/
def Approved : ClientRequest → Prop
  | applyConfig _ _ config =>
      config.validateBoostxlDirectAppliedConfig = .ok ()
  | startPeriodic _ schedule => schedule.validate = .ok ()
  | renewPeriodic renewal =>
      1 ≤ renewal.leaseSequence ∧ 1000 ≤ renewal.leaseTimeoutMs ∧
        renewal.leaseTimeoutMs ≤ 10000
  | _ => True

end ClientRequest

end Usac.Host
