import Usac.Firmware.ClockLatch
import Usac.Firmware.Retransmission

namespace Usac.Firmware

open Library

/-!
# Safe transitions

The application forces the hardware safe for one of six causes. What each of
them leaves behind is said once, in `SafeTransition`, and two laws are read off
it. The first is about `profile_active`: it is set only while the last callback
was an `apply_profile` that succeeded, and whatever forces the hardware safe
clears it. The second is about a `force_safe` that fails: it ends in FAULT
without a valid configuration, and the step neither acknowledges its request
nor hands out a capture.

Ending a session obeys both laws. A STOP, the end of a lease, a clock fault and
a periodic capture leave the flag alone and drop the result of `force_safe`,
and a commanded capture only counts a failure as a hardware fault.
-/

namespace App

/-- The results of the callbacks an operation may invoke. -/
def Input.hardware : Input → Hardware
  | .handle _ hardware
  | .advanceTime _ hardware
  | .updateClockFaults _ hardware
  | .runPeriodicCapture hardware
  | .endSession hardware => hardware

/-- Why an operation forces the hardware safe. -/
inductive Cause where
  | sessionEnd
  | captureOnce
  | stop
  | leaseExpiry
  | clockFault
  | periodicCapture
  deriving DecidableEq

instance
    (app : App)
    (request : Mcu.FrameView)
    (messageType : UInt8) :
    Decidable (app.Dispatched request messageType) :=
  decidable_of_iff
    (request.flags = 0 ∧ app.helloEstablished = true ∧
      request.messageType = messageType)
    ⟨fun ⟨flags, established, type⟩ => ⟨flags, established, type⟩,
      fun dispatched =>
        ⟨dispatched.flags, dispatched.established, dispatched.messageType⟩⟩

instance (app : App) (request : Mcu.FrameView) :
    Decidable (app.Captures request) :=
  decidable_of_iff
    (app.Dispatched request Message.captureOnce ∧
      app.captureCache.lookup request = .miss ∧ app.state = .idleSafe ∧
      app.configValid = true ∧ app.clockFaultFlags = 0 ∧
      app.namesConfig request 16 = true)
    ⟨fun ⟨dispatched, fresh, idle, valid, clock, named⟩ =>
        ⟨dispatched, fresh, idle, valid, clock, named⟩,
      fun captures =>
        ⟨captures.dispatched, captures.fresh, captures.idle, captures.valid,
          captures.clock, captures.named⟩⟩

/-- A HELLO that replaces the session of another host. -/
def ReplacesHost (app : App) (request : Mcu.FrameView) : Prop :=
  request.flags = 0 ∧ request.messageType = Message.hello ∧
    app.helloEstablished = true ∧ app.hostNonce ≠ requestId request
  deriving Decidable

/-- A STOP that ends the schedule it names, or finds none. -/
def Stops (app : App) (request : Mcu.FrameView) : Prop :=
  app.Dispatched request Message.stop ∧
    (app.periodic.stop (slice request.payload 16 16)).2 ≠ .conflict
  deriving Decidable

/-- A CAPTURE_ONCE that drives the hardware. -/
def TakesCapture (app : App) (request : Mcu.FrameView) : Prop :=
  app.Captures request ∧ app.captureOnceUnsafe request = false
  deriving Decidable

/-- The time that has passed ends the lease of the schedule. -/
def Expires (app : App) (elapsedUs : UInt32) : Prop :=
  app.periodic.active = true ∧ (app.periodic.advance elapsedUs).2 = .expired
  deriving Decidable

/-- Why a request forces the hardware safe, if it does. -/
def requestCause? (app : App) (request : Mcu.FrameView) : Option Cause :=
  if app.ReplacesHost request then
    some .sessionEnd
  else if app.Stops request then
    some .stop
  else if app.TakesCapture request then
    some .captureOnce
  else
    none

/-- Why an operation forces the hardware safe, if it does. -/
def cause? (app : App) : Input → Option Cause
  | .handle request _ => app.requestCause? request.val
  | .advanceTime elapsedUs _ =>
      if app.Expires elapsedUs then some .leaseExpiry else none
  | .updateClockFaults flags _ =>
      if flags ≠ 0 ∧ app.clockFaultFlags = 0 then some .clockFault else none
  | .runPeriodicCapture _ =>
      if app.periodicDue then some .periodicCapture else none
  | .endSession _ => some .sessionEnd

/-- The periodic capture is taken and complete. -/
def Completes (app : App) (hardware : Hardware) : Prop :=
  hardware.applyResult = .ok ∧ hardware.captureRan = true ∧
    hardware.captureReport.isComplete app.config.pretriggerCount = true
  deriving Decidable

/-- The application is in FAULT and has no configuration. -/
def Faulted (app : App) : Prop :=
  app.state = .fault ∧ app.configValid = false ∧ app.profileActive = false
  deriving Decidable

/-- A capture is ready to be streamed that was not there before. -/
def HandsOut (app next : App) : Prop :=
  next.capturePending = true ∧ next.captureSequence ≠ app.captureSequence
  deriving Decidable

/-- What the laws are about stays as it is. -/
structure SameMode (app next : App) : Prop where
  state : next.state = app.state
  valid : next.configValid = app.configValid
  active : next.profileActive = app.profileActive

/-- The last callback forces the hardware safe, and no other does. -/
def ForcesSafe (hardware : Hardware) (calls : List Invocation) : Prop :=
  ∃ before moment,
    calls = before ++ [App.forceSafe moment hardware] ∧
      ∀ invocation ∈ before, invocation.call.isForceSafe = false

/-- What an operation leaves behind, by the cause for which it forces the
hardware safe. -/
inductive SafeTransition (app : App) (hardware : Hardware) :
    Option Cause → Outcome → Prop where
  | unforced
      {outcome : Outcome}
      (calls :
        ∀ invocation ∈ outcome.calls, invocation.call.isForceSafe = false)
      (active :
        outcome.app.profileActive = true →
          app.profileActive = true ∧ outcome.calls = [] ∨
            ∃ moment profile,
              outcome.calls = [⟨moment, .applyProfile profile .ok⟩]) :
      SafeTransition app hardware none outcome
  | sessionEnd
      {outcome : Outcome}
      (calls : ForcesSafe hardware outcome.calls)
      (inactive : outcome.app.profileActive = false)
      (free : outcome.app.capturePending = false)
      (fails :
        hardware.forceSafeResult ≠ .ok →
          outcome.app.state = .fault ∧ outcome.app.configValid = false)
      (reply : Board.acknowledged outcome.response = false) :
      SafeTransition app hardware (some .sessionEnd) outcome
  | captureOnce
      {outcome : Outcome}
      (calls : ForcesSafe hardware outcome.calls)
      (inactive : outcome.app.profileActive = false)
      (idle : outcome.app.state = .idleSafe) :
      SafeTransition app hardware (some .captureOnce) outcome
  | stop
      {outcome : Outcome}
      (calls : ForcesSafe hardware outcome.calls)
      (same : app.SameMode outcome.app)
      (reply : Board.acknowledged outcome.response = true) :
      SafeTransition app hardware (some .stop) outcome
  | leaseExpiry
      {outcome : Outcome}
      (calls : ForcesSafe hardware outcome.calls)
      (same : app.SameMode outcome.app)
      (sequence : outcome.app.captureSequence = app.captureSequence)
      (silent : outcome.response = none) :
      SafeTransition app hardware (some .leaseExpiry) outcome
  | clockFault
      {outcome : Outcome}
      (calls : ForcesSafe hardware outcome.calls)
      (same : app.SameMode outcome.app)
      (sequence : outcome.app.captureSequence = app.captureSequence)
      (silent : outcome.response = none) :
      SafeTransition app hardware (some .clockFault) outcome
  | periodicCapture
      {outcome : Outcome}
      (calls : ForcesSafe hardware outcome.calls)
      (same : app.SameMode outcome.app)
      (handsOut : app.HandsOut outcome.app ↔ app.Completes hardware)
      (silent : outcome.response = none) :
      SafeTransition app hardware (some .periodicCapture) outcome

variable {app : App} {request : Mcu.FrameView} {hardware : Hardware}

/-- Forcing the hardware safe is the only callback. -/
theorem ForcesSafe.single (moment : App) :
    ForcesSafe hardware [moment.forceSafe hardware] :=
  ⟨[], moment, rfl, by simp⟩

/-- Without a callback there is nothing to force. -/
theorem SafeTransition.quiet
    {outcome : Outcome}
    (calls : outcome.calls = [])
    (same : outcome.app.profileActive = app.profileActive) :
    SafeTransition app hardware none outcome := by
  refine .unforced (by simp [calls]) fun active => .inl ⟨?_, calls⟩
  exact same.symm.trans active

/-- A session ends safe, or in FAULT. -/
theorem endSession_transition
    (app : App)
    (hardware : Hardware) :
    SafeTransition app hardware (some .sessionEnd)
      (app.endSession hardware) := by
  apply SafeTransition.sessionEnd
  · exact .single app.cleared
  · simp only [endSession]
    split <;> rfl
  · simp only [endSession]
    split <;> rfl
  · intro fails
    simp [endSession, fails]
  · rfl

/-- A HELLO that replaces a session ends it first. -/
theorem ReplacesHost.transition
    (replaces : app.ReplacesHost request) :
    SafeTransition app hardware (some .sessionEnd)
      (app.handle request responseCapacity hardware) := by
  obtain ⟨flags, hello, established, otherHost⟩ := replaces
  have handled :
      app.handle request responseCapacity hardware =
        { app := (app.endSession hardware).app.greeted (requestId request)
          response :=
            respond request Message.hello
              (((app.endSession hardware).app.greeted
                (requestId request)).helloPayload request) responseCapacity
          calls := (app.endSession hardware).calls } := by
    simp [handle, handleHello, flags, hello, established, otherHost]
  rw [handled]
  cases endSession_transition app hardware with
  | sessionEnd calls inactive free fails =>
      refine .sessionEnd calls inactive free ?_ ?_
      · intro failed
        obtain ⟨fault, invalid⟩ := fails failed
        exact ⟨by simp [greeted, fault], invalid⟩
      · dsimp only
        rw [respond_fits (by simp [helloPayload]), Board.acknowledged,
          Option.any_some, Board.byteAt_reply_type]
        decide

/-- A dispatched STOP reaches its handler. -/
theorem handle_dispatched_stop
    (dispatched : app.Dispatched request Message.stop) :
    app.handle request responseCapacity hardware =
      app.handleStop request responseCapacity hardware := by
  simp [handle, dispatched.flags, dispatched.established,
    dispatched.messageType, Message.startPeriodic, Message.hello,
    Message.getCapabilities, Message.getStatus, Message.getConfig,
    Message.setConfig, Message.runIo2LoopbackTest, Message.captureOnce,
    Message.renewPeriodicLease, Message.stop]

/-- A dispatched CAPTURE_ONCE reaches its handler. -/
theorem handle_dispatched_captureOnce
    (dispatched : app.Dispatched request Message.captureOnce) :
    app.handle request responseCapacity hardware =
      app.handleCaptureOnce request responseCapacity hardware := by
  simp [handle, dispatched.flags, dispatched.established,
    dispatched.messageType, Message.hello, Message.getCapabilities,
    Message.getStatus, Message.getConfig, Message.setConfig,
    Message.runIo2LoopbackTest, Message.captureOnce]

/-- A STOP that ends its schedule is acknowledged, whatever `force_safe`
returns. -/
theorem Stops.transition
    (stops : app.Stops request) :
    SafeTransition app hardware (some .stop)
      (app.handle request responseCapacity hardware) := by
  obtain ⟨dispatched, accepted⟩ := stops
  rw [handle_dispatched_stop dispatched, handleStop]
  split
  · next conflict => exact absurd (congrArg Prod.snd conflict) accepted
  · exact .stop (.single _) ⟨rfl, rfl, rfl⟩
      (Board.acknowledged_encodeAck _ request Message.stop)

/-- A STOP for another schedule is refused. -/
theorem handleStop_transition
    (conflict :
      (app.periodic.stop (slice request.payload 16 16)).2 = .conflict) :
    SafeTransition app hardware none
      (app.handleStop request responseCapacity hardware) := by
  unfold handleStop
  split
  · exact .quiet rfl rfl
  · next result other shape =>
      rw [shape] at conflict
      exact absurd conflict other

/-- A capture that was taken leaves the hardware safe. -/
theorem captureCalls_forcesSafe :
    ForcesSafe hardware (app.captureCalls request hardware) :=
  ⟨[app.consumed.applyProfile app.config.profile hardware,
      (app.consumed.withProfile true).capture (byteAt request.payload 52)
        (readU32 request.payload 56) hardware],
    app.consumed.withProfile false, rfl,
    by simp [applyProfile, capture, Call.isForceSafe]⟩

/-- A commanded capture leaves the flag clear and the state idle. -/
theorem TakesCapture.transition
    (takes : app.TakesCapture request) :
    SafeTransition app hardware (some .captureOnce)
      (app.handle request responseCapacity hardware) := by
  obtain ⟨captures, admissible⟩ := takes
  rw [handle_dispatched_captureOnce captures.dispatched,
    captures.handleCaptureOnce admissible]
  have idle := captures.idle
  unfold executeCaptureOnce
  dsimp only
  split_ifs
  · refine .captureOnce ?_ rfl idle
    exact ⟨[app.consumed.applyProfile app.config.profile hardware],
      app.consumed.withProfile false, rfl,
      by simp [applyProfile, Call.isForceSafe]⟩
  · exact .captureOnce captureCalls_forcesSafe rfl idle
  · rw [respond_fits (by simp)]
    dsimp only
    split_ifs <;> exact .captureOnce captureCalls_forcesSafe rfl idle

/-- A CAPTURE_ONCE that is replayed or refused does not use the hardware. -/
theorem handleCaptureOnce_transition
    (dispatched : app.Dispatched request Message.captureOnce)
    (declined : ¬app.TakesCapture request) :
    SafeTransition app hardware none
      (app.handleCaptureOnce request responseCapacity hardware) := by
  unfold handleCaptureOnce
  split
  · split_ifs <;> exact .quiet rfl rfl
  · exact .quiet rfl rfl
  · next fresh =>
      split_ifs with busy clock named unsafeRequest
      · exact .quiet rfl rfl
      · exact .quiet rfl rfl
      · exact .quiet rfl rfl
      · exact .quiet rfl rfl
      · push Not at busy clock
        refine absurd ?_ declined
        exact ⟨⟨dispatched, fresh, busy.1, by simpa using busy.2, clock,
          by simpa using named⟩, by simpa using unsafeRequest⟩

/-- A request forces the hardware safe for its cause. -/
theorem handle_transition
    (app : App)
    (request : Mcu.FrameView)
    (hardware : Hardware) :
    SafeTransition app hardware (app.requestCause? request)
      (app.handle request responseCapacity hardware) := by
  unfold requestCause?
  split_ifs with replaces stops takes
  · exact replaces.transition
  · exact stops.transition
  · exact takes.transition
  by_cases stop : app.Dispatched request Message.stop
  · rw [handle_dispatched_stop stop]
    apply handleStop_transition
    by_contra accepted
    exact stops ⟨stop, accepted⟩
  by_cases capture : app.Dispatched request Message.captureOnce
  · rw [handle_dispatched_captureOnce capture]
    exact handleCaptureOnce_transition capture takes
  have effect := handle_effect app request hardware
  generalize app.handle request responseCapacity hardware = outcome at effect ⊢
  obtain ⟨next, response, calls⟩ := outcome
  dsimp only at effect
  cases effect with
  | answered | greeted | configRefused | captureReplayed | captureDeclined
  | started | renewed =>
      exact .quiet rfl rfl
  | restarted flags hello established otherHost =>
      exact absurd ⟨flags, hello, established, otherHost⟩ replaces
  | configFailed | loopedBack =>
      refine .unforced ?_ (by rintro ⟨⟩)
      simp [applyProfile, Call.isForceSafe]
  | configApplied candidate reply fits configures applied =>
      refine .unforced (by simp [applyProfile, Call.isForceSafe]) fun _ => ?_
      refine .inr ⟨{ app with state := .configuring }, candidate.profile, ?_⟩
      simp only [applyProfile, applied]
  | captureNotApplied captures | captureFailed captures
  | captureTaken ack fits captures =>
      exact absurd captures.dispatched capture
  | stopped dispatched =>
      exact absurd dispatched stop

/-- Time forces the hardware safe when it ends the lease. -/
theorem advanceTime_transition
    (app : App)
    (elapsedUs : UInt32)
    (hardware : Hardware) :
    SafeTransition app hardware
      (if app.Expires elapsedUs then some .leaseExpiry else none)
      (app.advanceTime elapsedUs hardware) := by
  unfold advanceTime
  by_cases active : app.periodic.active = false
  · rw [if_pos active, if_neg (by simp [Expires, active])]
    exact .quiet rfl rfl
  rw [if_neg active]
  by_cases expires : app.Expires elapsedUs
  · rw [if_pos expires]
    split
    · exact .leaseExpiry (.single _) ⟨rfl, rfl, rfl⟩ rfl rfl
    · next advanced result other shape =>
        obtain ⟨-, expired⟩ := expires
        rw [shape] at expired
        exact absurd expired other
  · rw [if_neg expires]
    split
    · next advanced shape =>
        exact absurd ⟨by simpa using active, by rw [shape]⟩ expires
    · exact .quiet rfl rfl

/-- The first clock fault forces the hardware safe. -/
theorem updateClockFaults_transition
    (app : App)
    (flags : UInt16)
    (hardware : Hardware) :
    SafeTransition app hardware
      (if flags ≠ 0 ∧ app.clockFaultFlags = 0 then some .clockFault else none)
      (app.updateClockFaults flags hardware) := by
  unfold updateClockFaults
  by_cases quiet : flags = 0 ∨ app.clockFaultFlags ≠ 0
  · rw [if_pos quiet, if_neg (by tauto)]
    exact .quiet rfl rfl
  · rw [if_neg quiet, if_pos (by tauto)]
    dsimp only
    split <;> exact .clockFault (.single _) ⟨rfl, rfl, rfl⟩ rfl rfl

/-- The capture counter never stays where it is. -/
theorem nextCaptureSequence_ne (sequence : UInt32) :
    nextCaptureSequence sequence ≠ sequence := by
  unfold nextCaptureSequence
  split
  · rintro rfl
    simp at *
  · simp

/-- A due periodic capture leaves the hardware safe, taken or not. -/
theorem runPeriodicCapture_transition
    (app : App)
    (hardware : Hardware) :
    SafeTransition app hardware
      (if app.periodicDue then some .periodicCapture else none)
      (app.runPeriodicCapture hardware) := by
  unfold runPeriodicCapture
  by_cases due : app.periodicDue = true
  swap
  · rw [if_neg due, if_pos (by simpa using due)]
    exact .quiet rfl rfl
  rw [if_pos due, if_neg (by simpa using due)]
  dsimp only
  split_ifs with failed incomplete
  · refine .periodicCapture ?_ ⟨rfl, rfl, rfl⟩ ?_ rfl
    · exact ⟨[_], _, rfl, by simp [applyProfile, Call.isForceSafe]⟩
    · constructor
      · exact fun handed => absurd rfl handed.2
      · exact fun completes => absurd completes.1 failed
  · refine .periodicCapture ?_ ⟨rfl, rfl, rfl⟩ ?_ rfl
    · exact ⟨[_, _], _, rfl, by
        simp [applyProfile, capture, Call.isForceSafe]⟩
    · constructor
      · exact fun handed => absurd rfl handed.2
      · rintro ⟨-, ran, complete⟩
        simp [ran, complete] at incomplete
  · refine .periodicCapture ?_ ⟨rfl, rfl, rfl⟩ ?_ rfl
    · exact ⟨[_, _], _, rfl, by
        simp [applyProfile, capture, Call.isForceSafe]⟩
    · obtain ⟨ran, complete⟩ := not_or.1 incomplete
      constructor
      · exact fun _ =>
          ⟨by simpa using failed, by simpa using ran, by simpa using complete⟩
      · exact fun _ => ⟨rfl, nextCaptureSequence_ne _⟩

/-- Every operation forces the hardware safe for its cause, or not at all. -/
theorem perform_transition
    (app : App)
    (input : Input) :
    SafeTransition app input.hardware (app.cause? input)
      (app.perform input) := by
  cases input with
  | handle request hardware =>
      exact handle_transition app request.val hardware
  | advanceTime elapsedUs hardware =>
      exact advanceTime_transition app elapsedUs hardware
  | updateClockFaults flags hardware =>
      exact updateClockFaults_transition app flags hardware
  | runPeriodicCapture hardware =>
      exact runPeriodicCapture_transition app hardware
  | endSession hardware =>
      exact endSession_transition app hardware

/-! ## The profile that is active -/

/-- The callback a history invoked last. -/
def lastCall? (history : List Operation) : Option Call :=
  (history.flatMap fun operation =>
    operation.output.calls.map Invocation.call).getLast?

/-- An active profile is what the last callback has applied, or, before the
first one, what the boot configuration has. -/
def ProfileApplied
    (booted : ConfigResult)
    (history : List Operation)
    (app : App) :
    Prop :=
  app.profileActive = true →
    match lastCall? history with
    | none => booted = .ok
    | some call => ∃ profile, call = .applyProfile profile .ok

/-- Whatever forces the hardware safe leaves no profile active. -/
def ClearsProfile (operation : Operation) : Prop :=
  (∃ invocation ∈ operation.output.calls,
      invocation.call.isForceSafe = true) →
    operation.target.profileActive = false

/-- The causes for which the application leaves the flag alone. -/
def Cause.keepsFlag : Cause → Bool
  | .sessionEnd | .captureOnce => false
  | .stop | .leaseExpiry | .clockFault | .periodicCapture => true

/-- While a profile is active no schedule is stopped or expires, no clock fault
is latched and no periodic capture is due. -/
def Undisturbed (operation : Operation) : Prop :=
  operation.source.profileActive = true →
    ∀ cause ∈ operation.source.cause? operation.input,
      cause.keepsFlag = false

/-- The callbacks of a step come last. -/
theorem lastCall?_concat (history : List Operation) (operation : Operation) :
    lastCall? (history ++ [operation]) =
      ((operation.output.calls.map Invocation.call).getLast?).or
        (lastCall? history) := by
  simp [lastCall?, List.getLast?_append]

/-- A step clears the flag where it has to exactly when it is undisturbed. -/
theorem clearsProfile_iff (app : App) (input : Input) :
    ClearsProfile (machine.event app input) ↔
      Undisturbed (machine.event app input) := by
  have transition := perform_transition app input
  unfold ClearsProfile Undisturbed
  dsimp only [Machine.event, machine]
  generalize app.cause? input = cause at transition ⊢
  generalize app.perform input = outcome at transition ⊢
  have forced (calls : ForcesSafe input.hardware outcome.calls) :
      ∃ invocation ∈ outcome.calls, invocation.call.isForceSafe = true := by
    obtain ⟨before, moment, shape, -⟩ := calls
    exact ⟨moment.forceSafe input.hardware, by simp [shape], rfl⟩
  have kept
      (calls : ForcesSafe input.hardware outcome.calls)
      (same : app.SameMode outcome.app)
      (cause : Cause)
      (keeps : cause.keepsFlag = true) :
      ((∃ invocation ∈ outcome.calls, invocation.call.isForceSafe = true) →
          outcome.app.profileActive = false) ↔
        (app.profileActive = true →
          ∀ other ∈ some cause, other.keepsFlag = false) := by
    constructor
    · intro clears active
      rw [← same.active, clears (forced calls)] at active
      cases active
    · intro undisturbed _
      rw [same.active, ← Bool.not_eq_true]
      intro active
      have cleared := undisturbed active cause rfl
      rw [keeps] at cleared
      cases cleared
  cases transition with
  | unforced calls =>
      refine ⟨fun _ _ _ none => (by cases none), ?_⟩
      rintro - ⟨invocation, member, safe⟩
      rw [calls invocation member] at safe
      cases safe
  | sessionEnd calls inactive | captureOnce calls inactive =>
      refine ⟨fun _ _ cause same => ?_, fun _ _ => inactive⟩
      cases same
      rfl
  | stop calls same | leaseExpiry calls same | clockFault calls same
  | periodicCapture calls same =>
      exact kept calls same _ rfl

/-- An undisturbed step keeps an active profile applied. -/
theorem ProfileApplied.step
    {booted : ConfigResult}
    {history : List Operation}
    {app : App}
    (applied : ProfileApplied booted history app)
    {input : Input}
    (undisturbed : Undisturbed (machine.event app input)) :
    ProfileApplied booted (history ++ [machine.event app input])
      (machine.event app input).target := by
  have clears := (clearsProfile_iff app input).2 undisturbed
  have transition := perform_transition app input
  unfold ClearsProfile at clears
  unfold ProfileApplied
  rw [lastCall?_concat]
  dsimp only [Machine.event, machine] at clears ⊢
  generalize app.cause? input = cause at transition
  generalize app.perform input = outcome at transition clears ⊢
  intro active
  have unforced
      (calls : ForcesSafe input.hardware outcome.calls) : False := by
    obtain ⟨before, moment, shape, -⟩ := calls
    have cleared := clears
      ⟨moment.forceSafe input.hardware, by simp [shape], rfl⟩
    rw [cleared] at active
    cases active
  cases transition with
  | unforced calls source =>
      rcases source active with ⟨before, none⟩ | ⟨moment, profile, one⟩
      · rw [none]
        exact applied before
      · rw [one]
        exact ⟨profile, rfl⟩
  | sessionEnd calls | captureOnce calls | stop calls | leaseExpiry calls
  | clockFault calls | periodicCapture calls =>
      exact absurd calls unforced

/-- After a boot a profile is active exactly when the boot configuration has
succeeded. -/
theorem boot_profileApplied
    (deviceId : Id16)
    (result : ConfigResult)
    (devStat : UInt8) :
    ProfileApplied result [] (boot deviceId result devStat) := by
  intro active
  by_contra failed
  have failed : result ≠ .ok := failed
  simp [boot, init, recordBootConfig, failed] at active

/--
In a run the flag is true to the hardware in every state, and cleared by every
step that forces the hardware safe, exactly when every step leaves an active
profile undisturbed.
-/
theorem profileActive_truthful_iff
    (deviceId : Id16)
    (result : ConfigResult)
    (devStat : UInt8)
    (inputs : List Input) :
    (ProfileApplied result [] (boot deviceId result devStat) ∧
      EveryStep
        (fun earlier operation =>
          ProfileApplied result (earlier ++ [operation]) operation.target ∧
            ClearsProfile operation)
        (machine.trace (boot deviceId result devStat) inputs)) ↔
      EveryStep (fun _ operation => Undisturbed operation)
        (machine.trace (boot deviceId result devStat) inputs) := by
  constructor
  · rintro ⟨-, every⟩
    rw [EveryStep.forall_iff]
    intro operation member
    have clears :=
      (EveryStep.forall_iff ClearsProfile _).1
        (every.imp fun _ _ both => both.2) operation member
    rw [machine.eq_event_of_mem_trace member] at clears ⊢
    exact (clearsProfile_iff _ _).1 clears
  · intro every
    refine ⟨boot_profileApplied deviceId result devStat, ?_⟩
    exact machine.everyStep_of_invariant (ProfileApplied result)
      (boot_profileApplied deviceId result devStat)
      (fun _ _ _ applied undisturbed => applied.step undisturbed)
      (fun _ app input applied undisturbed =>
        ⟨applied.step undisturbed,
          (clearsProfile_iff app input).2 undisturbed⟩)
      inputs every

/-- A clock fault after the boot forces the hardware safe and leaves the
profile marked active. -/
theorem not_profileActive_truthful_clockFault :
    ¬EveryStep
      (fun earlier operation =>
        ProfileApplied .ok (earlier ++ [operation]) operation.target ∧
          ClearsProfile operation)
      (machine.trace (boot (Bytes.zero 16) .ok 0)
        [.updateClockFaults 1 Hardware.nominal]) := by
  intro every
  obtain ⟨-, clears⟩ := every [] _ [] rfl
  have cleared := clears ⟨_, List.mem_singleton_self _, rfl⟩
  exact Bool.noConfusion cleared

/-! ## Failed transitions -/

/-- A `force_safe` that fails is not reported as a success: the application is
in FAULT without a configuration, acknowledges nothing and hands out no
capture. -/
def SurfacesFailure (operation : Operation) : Prop :=
  ∀ invocation ∈ operation.output.calls,
    ∀ result, invocation.call = .forceSafe result → result ≠ .ok →
      operation.target.Faulted ∧
        Board.acknowledged operation.output.response = false ∧
        ¬operation.source.HandsOut operation.target

/-- The conditions under which an operation may meet a failing `force_safe`, by
the cause for which it is called. -/
def Cause.Tolerates (app : App) (hardware : Hardware) : Cause → Prop
  | .sessionEnd => True
  | .captureOnce | .stop => False
  | .leaseExpiry | .clockFault => app.Faulted
  | .periodicCapture => app.Faulted ∧ ¬app.Completes hardware

/-- The hardware is forced safe, or the session is ended, or the application
was in FAULT before. -/
def SecuresReliably (operation : Operation) : Prop :=
  operation.input.hardware.forceSafeResult ≠ .ok →
    ∀ cause ∈ operation.source.cause? operation.input,
      cause.Tolerates operation.source operation.input.hardware

/-- The mode is the same in FAULT as before. -/
theorem SameMode.faulted_iff
    {next : App}
    (same : app.SameMode next) :
    next.Faulted ↔ app.Faulted := by
  rw [Faulted, Faulted, same.state, same.valid, same.active]

/-- Only the last callback forces the hardware safe. -/
theorem ForcesSafe.forall_iff
    {calls : List Invocation}
    (forces : ForcesSafe hardware calls)
    (law : Prop) :
    (∀ invocation ∈ calls,
        ∀ result, invocation.call = .forceSafe result → result ≠ .ok → law) ↔
      (hardware.forceSafeResult ≠ .ok → law) := by
  obtain ⟨before, moment, rfl, others⟩ := forces
  constructor
  · intro every
    exact every (moment.forceSafe hardware) (by simp) _ rfl
  · intro last invocation member result call
    rcases List.mem_append.1 member with earlier | same
    · have plain := others invocation earlier
      rw [call] at plain
      cases plain
    · obtain rfl := List.mem_singleton.1 same
      cases call
      exact last

/-- A step surfaces a failed transition exactly when it secures reliably. -/
theorem surfacesFailure_iff (app : App) (input : Input) :
    SurfacesFailure (machine.event app input) ↔
      SecuresReliably (machine.event app input) := by
  have transition := perform_transition app input
  unfold SurfacesFailure SecuresReliably
  dsimp only [Machine.event, machine]
  generalize app.cause? input = cause at transition ⊢
  generalize app.perform input = outcome at transition ⊢
  have counted (sequence : outcome.app.captureSequence = app.captureSequence) :
      ¬app.HandsOut outcome.app :=
    fun handed => handed.2 sequence
  cases transition with
  | unforced calls =>
      refine ⟨fun _ _ _ none => (by cases none), ?_⟩
      intro _ invocation member result call
      have plain := calls invocation member
      rw [call] at plain
      cases plain
  | sessionEnd calls inactive free fails reply =>
      rw [calls.forall_iff]
      refine ⟨fun _ _ cause same => (by cases same; trivial), ?_⟩
      intro _ failed
      obtain ⟨fault, invalid⟩ := fails failed
      refine ⟨⟨fault, invalid, inactive⟩, reply, ?_⟩
      intro handed
      rw [handed.1] at free
      cases free
  | captureOnce calls inactive idle =>
      rw [calls.forall_iff]
      apply imp_congr_right
      intro _
      simp [Cause.Tolerates, Faulted, idle]
  | stop calls same reply =>
      rw [calls.forall_iff]
      apply imp_congr_right
      intro _
      simp [Cause.Tolerates, reply]
  | leaseExpiry calls same sequence silent
  | clockFault calls same sequence silent =>
      rw [calls.forall_iff]
      apply imp_congr_right
      intro _
      simp [Cause.Tolerates, same.faulted_iff, silent, Board.acknowledged,
        counted sequence]
  | periodicCapture calls same handsOut silent =>
      rw [calls.forall_iff]
      apply imp_congr_right
      intro _
      simp [Cause.Tolerates, same.faulted_iff, silent, Board.acknowledged,
        handsOut]

/--
In a run every failed transition is surfaced by its step exactly when every
step secures the hardware reliably.
-/
theorem every_failure_surfaced_iff
    (deviceId bootId : Id16)
    (resetReason : UInt8)
    (initialState : FirmwareState)
    (result : ConfigResult)
    (devStat : UInt8)
    (inputs : List Input) :
    EveryStep (fun _ operation => SurfacesFailure operation)
        (machine.trace
          (started deviceId bootId resetReason initialState result devStat)
          inputs) ↔
      EveryStep (fun _ operation => SecuresReliably operation)
        (machine.trace
          (started deviceId bootId resetReason initialState result devStat)
          inputs) := by
  rw [EveryStep.forall_iff, EveryStep.forall_iff]
  apply forall₂_congr
  intro operation member
  rw [machine.eq_event_of_mem_trace member]
  exact surfacesFailure_iff _ _

/-- A clock fault after the boot, with a bus that fails: the application keeps
its state and its configuration. -/
theorem not_surfacesFailure_clockFault :
    ¬EveryStep (fun _ operation => SurfacesFailure operation)
      (machine.trace booted
        [.updateClockFaults 1
          { Hardware.nominal with forceSafeResult := .bus }]) := by
  intro every
  have surfaces := every [] _ [] rfl _ (List.mem_singleton_self _) .bus rfl
    nofun
  exact FirmwareState.noConfusion surfaces.1.1

end App

end Usac.Firmware
