import Usac.Library.Machine
import Usac.Link.Codec
import Usac.Link.ScheduleAgreement

namespace Usac.Link

open Library
open Firmware (App Hardware)
open Host (Frame MessageType Raised SimulatedDevice)

/-!
# The simulator beside the firmware

One host talks to both: every command of the periodic protocol goes to the
simulated device and, through the checks of the parser, to the application. The
clock of the simulator moves by the microseconds the firmware is told of. A
poll is one turn of the main loop, which hands a capture over before it serves
the next command.
-/

/-- A command of the periodic protocol. -/
inductive PeriodicCommand where
  | hello (request : Host.HelloRequest)
  | startPeriodic (request : Host.StartPeriodicRequest)
  | renewPeriodic (request : Host.RenewPeriodicLease)
  | stop (request : Host.StopRequest)
  | status
  deriving DecidableEq

namespace PeriodicCommand

/-- The message type of a command. -/
def messageType : PeriodicCommand → MessageType
  | hello _ => .hello
  | startPeriodic _ => .startPeriodic
  | renewPeriodic _ => .renewPeriodicLease
  | stop _ => .stop
  | status => .getStatus

/-- The payload of a command. -/
def payload : PeriodicCommand → Except Raised (List UInt8)
  | hello request => request.encode
  | startPeriodic request => request.encode
  | renewPeriodic request => request.encode
  | stop request => .ok request.encode
  | status => .ok []

end PeriodicCommand

/-- A command its codec admits, with the sequence of its frame. -/
structure PeriodicRequest where
  sequence : UInt32
  command : PeriodicCommand
  payload : List UInt8
  encoded : command.payload = .ok payload

/-- The frame of a request. -/
def PeriodicRequest.frame (request : PeriodicRequest) : Frame :=
  .command request.command.messageType request.sequence request.payload

/-- The fields of a status response that concern the schedule. -/
structure PeriodicReport where
  activeScheduleId : Bytes 16
  leaseSequence : UInt32
  leaseRemainingMs : UInt32
  missedCaptureCount : UInt32
  deriving DecidableEq

/-- The report in the payload of a status response. -/
def PeriodicReport.read (payload : List UInt8) : PeriodicReport where
  activeScheduleId := slice payload 76 16
  leaseSequence := readU32 payload 92
  leaseRemainingMs := readU32 payload 96
  missedCaptureCount := readU32 payload 60

/-- The simulator beside the firmware, with the clock of the simulator. -/
structure Pair where
  device : SimulatedDevice
  app : App
  clockUs : Nat

namespace Pair

/-- What happens to the two. -/
inductive Input where
  | command (request : PeriodicRequest) (hardware : Hardware)
  | poll (hardware : Hardware)
  | advance (elapsedUs : UInt32) (hardware : Hardware)

/-- Whether each side has accepted a command. -/
structure Verdict where
  simulator : Bool
  firmware : Bool
  deriving DecidableEq

/-- A response that is not an error. -/
def acceptance (response : Option (List UInt8)) : Bool :=
  response.any fun bytes => byteAt bytes 5 != Firmware.Message.error

/-- The firmware, parser and application, at a frame. -/
def answer (app : App) (frame : Frame) (hardware : Hardware) : App × Bool :=
  if (received frame).Accepted then
    let outcome := app.handle (received frame) App.responseCapacity hardware
    (outcome.app, acceptance outcome.response)
  else
    (app, false)

/-- One turn of the firmware's main loop. -/
def turn (app : App) (hardware : Hardware) : App :=
  { (app.runPeriodicCapture hardware).app with capturePending := false }

/-- The two after one input, and what they have made of a command. -/
def step (pair : Pair) : Input → Pair × Option Verdict
  | .command request hardware =>
      let handled := pair.device.handle pair.clockUs request.frame
      let answered := answer pair.app request.frame hardware
      ({ pair with device := handled.2, app := answered.1 },
        some ⟨handled.1.isOk, answered.2⟩)
  | .poll hardware =>
      ({ pair with
          device := (pair.device.poll pair.clockUs).2
          app := turn pair.app hardware },
        none)
  | .advance elapsedUs hardware =>
      ({ pair with
          app := (pair.app.advanceTime elapsedUs hardware).app
          clockUs := pair.clockUs + elapsedUs.toNat },
        none)

/-- The two as a machine. -/
def machine : Machine Pair Input (Option Verdict) where
  step := step

/-- What the simulator reports. -/
def simulatorReport (pair : Pair) : Except Raised PeriodicReport := do
  let bootId ← pair.device.requireHello
  let status ←
    (pair.device.expireLate pair.clockUs).status bootId pair.clockUs
  let payload ← status.encode
  pure (.read payload)

/-- What the firmware reports. -/
def firmwareReport (pair : Pair) : PeriodicReport :=
  .read pair.app.statusPayload

/-- A command is accepted by both or by neither, and afterwards both report
the same. -/
def TreatedAlike (event : Event Pair Input (Option Verdict)) : Prop :=
  ∀ verdict ∈ event.output,
    verdict.simulator = verdict.firmware ∧
      event.target.simulatorReport = .ok event.target.firmwareReport

/-- Both sides have the same identity, session and configuration, and nothing
has been scheduled yet. -/
structure Configured (pair : Pair) : Prop where
  established : pair.app.helloEstablished = true
  idle : pair.app.state = .idleSafe
  configValid : pair.app.configValid = true
  free : pair.app.capturePending = false
  clock : pair.app.clockFaultFlags = 0
  device : pair.device.deviceId = pair.app.deviceId
  session :
    pair.app.bootId =
      Firmware.bootIdDerive pair.app.deviceId pair.app.hostNonce
  boot : pair.device.bootId = some pair.app.bootId
  config : pair.device.config = some (hostConfig pair.app.config)
  inactive : pair.app.periodic.active = false
  unscheduled : pair.device.schedule = none
  missed : pair.device.missedCaptureCount = 0
  unmissed : pair.app.periodic.missedCount = 0
  captures : pair.device.captureSequence < 2 ^ 32

/-! ## Where the two differ -/

/-- The simulator has polled every period that has begun within the lease. -/
def Polled (pair : Pair) : Prop :=
  ∀ held ∈ pair.device.schedule,
    pair.clockUs < held.leaseDeadlineUs →
      pair.clockUs < held.nextCaptureUs + held.periodUs.toNat

instance (pair : Pair) : Decidable pair.Polled :=
  inferInstanceAs (Decidable (∀ held ∈ pair.device.schedule, _))

/-- A command starts a schedule in the firmware. -/
def Starts (pair : Pair) (request : Host.StartPeriodicRequest) : Prop :=
  pair.app.periodic.active = false ∧
    request.expectedProfileSha256 = pair.app.config.profileSha256 ∧
    request.expectedDeviceConfigCrc32 = pair.app.config.deviceConfigCrc32 ∧
    100000 ≤ request.periodUs

instance (pair : Pair) (request : Host.StartPeriodicRequest) :
    Decidable (pair.Starts request) :=
  inferInstanceAs (Decidable (_ ∧ _))

/-- A renewal names the running schedule of the session. -/
def Names (pair : Pair) (request : Host.RenewPeriodicLease) : Prop :=
  pair.app.periodic.active = true ∧
    request.bootId = pair.app.bootId ∧
    request.scheduleId = pair.app.periodic.scheduleId

instance (pair : Pair) (request : Host.RenewPeriodicLease) :
    Decidable (pair.Names request) :=
  inferInstanceAs (Decidable (_ ∧ _))

/-- A renewal repeats the last one. -/
def Repeats (pair : Pair) (request : Host.RenewPeriodicLease) : Prop :=
  request.leaseSequence = pair.app.periodic.leaseSequence ∧
    request.leaseTimeoutOrRemainingMs =
      pair.app.periodic.lastLeaseTimeoutMs.toUInt32

instance (pair : Pair) (request : Host.RenewPeriodicLease) :
    Decidable (pair.Repeats request) :=
  inferInstanceAs (Decidable (_ ∧ _))

/-- The firmware runs the schedule a STOP names, or none. -/
def Stops (pair : Pair) (request : Host.StopRequest) : Prop :=
  pair.app.periodic.active = true →
    pair.app.periodic.scheduleId = request.scheduleId

instance (pair : Pair) (request : Host.StopRequest) :
    Decidable (pair.Stops request) :=
  inferInstanceAs (Decidable (_ → _))

/-- A HELLO that admits the version of the protocol. -/
def Overlaps (request : Host.HelloRequest) : Prop :=
  request.minVersion ≤ 1 ∧ 1 ≤ request.maxVersion

instance (request : Host.HelloRequest) : Decidable (Overlaps request) :=
  inferInstanceAs (Decidable (_ ∧ _))

/-- Where the simulator serves a command as the firmware does: it keeps the
schedule and the missed captures when the session changes, the missed captures
when a schedule ends, and a schedule whose lease has run out until it is asked;
it renews a lease for less than a second, and accepts any sequence that is not
above the last. -/
def ServedAlike (pair : Pair) (hardware : Hardware) : PeriodicCommand → Prop
  | .hello request =>
      Overlaps request → request.hostNonce ≠ pair.app.hostNonce →
        pair.app.periodic.active = false ∧
          pair.device.missedCaptureCount = 0 ∧
          hardware.forceSafeResult = .ok
  | .startPeriodic request =>
      pair.Starts request →
        pair.device.schedule = none ∧ pair.device.missedCaptureCount = 0
  | .renewPeriodic request =>
      pair.Names request →
        1000 ≤ request.leaseTimeoutOrRemainingMs ∧
          (pair.app.periodic.leaseSequence < request.leaseSequence ∨
            pair.Repeats request)
  | .stop request =>
      pair.Stops request →
        pair.device.missedCaptureCount = 0 ∧
          ∀ held ∈ pair.device.schedule, held.scheduleId = request.scheduleId
  | .status => True

instance (pair : Pair) (hardware : Hardware) :
    (command : PeriodicCommand) → Decidable (pair.ServedAlike hardware command)
  | .hello _ => inferInstanceAs (Decidable (_ → _ → _))
  | .startPeriodic _ => inferInstanceAs (Decidable (_ → _))
  | .renewPeriodic _ => inferInstanceAs (Decidable (_ → _))
  | .stop _ => inferInstanceAs (Decidable (_ → _))
  | .status => inferInstanceAs (Decidable True)

/-- Where the firmware changes nothing on a command that the simulator answers
from what it has kept of an earlier one. -/
def KeptAlike (pair : Pair) : PeriodicCommand → Prop
  | .hello request =>
      Overlaps request ∧ request.hostNonce = pair.app.hostNonce
  | .startPeriodic _ => False
  | .renewPeriodic request =>
      pair.Names request ∧ 1000 ≤ request.leaseTimeoutOrRemainingMs ∧
        pair.Repeats request
  | .stop _ =>
      pair.app.periodic.active = false ∧ pair.device.missedCaptureCount = 0
  | .status => True

instance (pair : Pair) :
    (command : PeriodicCommand) → Decidable (pair.KeptAlike command)
  | .hello _ => inferInstanceAs (Decidable (_ ∧ _))
  | .startPeriodic _ => inferInstanceAs (Decidable False)
  | .renewPeriodic _ => inferInstanceAs (Decidable (_ ∧ _))
  | .stop _ => inferInstanceAs (Decidable (_ ∧ _))
  | .status => inferInstanceAs (Decidable True)

/-- The key of a request among the completed ones. -/
def key (request : PeriodicRequest) : Host.RequestKey :=
  (request.command.messageType, request.sequence, request.payload)

/-- A command that ends the running schedule. -/
def Ends (pair : Pair) : PeriodicCommand → Prop
  | .stop request => pair.app.periodic.active = true ∧ pair.Stops request
  | _ => False

instance (pair : Pair) :
    (command : PeriodicCommand) → Decidable (pair.Ends command)
  | .stop _ => inferInstanceAs (Decidable (_ ∧ _))
  | .hello _ | .startPeriodic _ | .renewPeriodic _ | .status =>
      inferInstanceAs (Decidable False)

/-- A capture the hardware completes, and that the simulator can count. -/
def CapturesAlike (pair : Pair) (hardware : Hardware) : Prop :=
  hardware.applyResult = .ok ∧ hardware.captureRan = true ∧
    hardware.captureReport.isComplete pair.app.config.pretriggerCount = true ∧
    pair.device.captureSequence + 1 < 2 ^ 32 ∧
    ∀ held ∈ pair.device.schedule,
      pair.device.missedCaptureCount +
          (pair.clockUs - held.nextCaptureUs) / held.periodUs.toNat <
        2 ^ 32

instance (pair : Pair) (hardware : Hardware) :
    Decidable (pair.CapturesAlike hardware) :=
  inferInstanceAs (Decidable (_ ∧ _))

/-- Where both sides take an input alike. -/
def TakenAlike (pair : Pair) : Input → Prop
  | .command request hardware =>
      (¬pair.Ends request.command → pair.Polled) ∧
        if (pair.device.completed.lookup (key request)).isSome then
          pair.KeptAlike request.command
        else
          pair.ServedAlike hardware request.command
  | .poll hardware =>
      pair.app.periodicDue = true → pair.CapturesAlike hardware
  | .advance elapsedUs _ =>
      pair.app.periodic.active = true →
        pair.app.periodic.leaseRemainingUs ≤ elapsedUs →
          pair.device.missedCaptureCount = 0

instance (pair : Pair) : (input : Input) → Decidable (pair.TakenAlike input)
  | .command _ _ => inferInstanceAs (Decidable (_ ∧ _))
  | .poll _ => inferInstanceAs (Decidable (_ → _))
  | .advance _ _ => inferInstanceAs (Decidable (_ → _ → _))

end Pair

end Usac.Link
