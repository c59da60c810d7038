import Usac.Firmware.Board
import Usac.Firmware.CaptureSafety
import Usac.Firmware.CaptureTx
import Usac.Firmware.UsbInput

namespace Usac.Firmware

open Library CaptureStream
open Library.StopAndWait (StartResult)

/-!
# The main loop

The loop of `main.c` in its production build, one step for each part of its
body. The waveform is one buffer that captures write and a transfer reads, and
nothing but the two flags of the loop keeps them apart. Interrupts change the
flags and the connection between any two reads, so every read of one is an
input of its own, and so is whatever the hardware and the USB driver return.
-/

/-- What `USBCDC_sendData` returns. -/
inductive SendResult where
  | started
  | interfaceBusy
  | failed
  deriving Repr, DecidableEq

/-- What the main loop reads and is told during one part of its body. The
condition of the last part reads the connection and the session twice. -/
structure Surroundings where
  elapsedQuanta : UInt16
  clockFaultFlags : UInt16
  sessionReady : Bool
  connected : Bool
  sessionReadyAgain : Bool
  connectedAgain : Bool
  sendComplete : Bool
  frameTimeoutPending : Bool
  dataPending : Bool
  received : List Chunk
  sendResult : SendResult
  hardware : Hardware
  endHardware : Hardware

/-- The parts of the body of the loop, in order. -/
inductive Stage where
  | time
  | clock
  | session
  | completion
  | frameTimeout
  | periodic
  | traffic
  deriving Repr, DecidableEq

/-- The part behind a part. -/
def Stage.next : Stage → Stage
  | .time => .clock
  | .clock => .session
  | .session => .completion
  | .completion => .frameTimeout
  | .frameTimeout => .periodic
  | .periodic => .traffic
  | .traffic => .time

/-- The variables of `main.c`; the stream of the transfer points at the
waveform. -/
structure MainLoop where
  stage : Stage
  app : App
  parser : Mcu.Parser
  waveform : Waveform
  captureTx : CaptureTx
  captureStreamStarted : Bool
  txInFlight : Bool
  previousSessionReady : Bool

/-- The callbacks a part has invoked and the bytes it has handed to the USB
driver. -/
structure Effects where
  calls : List Invocation
  handed : Option (List UInt8)

/-- Nothing was invoked and nothing was handed on. -/
def Effects.silent : Effects where
  calls := []
  handed := none

namespace MainLoop

/-- `USAC_ACLK_QUANTUM_US`. -/
def aclkQuantumUs : UInt32 := 9766

/-- The transfer as the code sees it: its samples are those in the buffer. -/
def transfer (loop : MainLoop) : CaptureTx :=
  { loop.captureTx with
    stream := { loop.captureTx.stream with samples := loop.waveform } }

/-- The loop after an operation of the application. -/
def operated (loop : MainLoop) (outcome : Outcome) : MainLoop :=
  { loop with
    app := outcome.app
    waveform := Board.waveformAfter loop.waveform outcome.calls }

/-- `abort_usb_response`. -/
def abortUsbResponse (loop : MainLoop) : MainLoop :=
  { loop with
    txInFlight := false
    captureTx :=
      if loop.captureStreamStarted then
        loop.transfer.abort
      else
        loop.captureTx
    captureStreamStarted := false }

/-- `initialize_pending_capture_stream`. -/
def initializePendingCaptureStream (loop : MainLoop) : MainLoop :=
  { loop with
    captureTx :=
      .init (Segments.init (Board.descriptor loop.app) loop.waveform)
    captureStreamStarted := true }

/-- The capture that was pending is not any more. -/
def released (loop : MainLoop) : MainLoop :=
  { loop with
    app := { loop.app with capturePending := false }
    captureStreamStarted := false }

/-- The loop after the end of a session. -/
def sessionEnded (loop : MainLoop) (hardware : Hardware) : MainLoop :=
  loop.operated (loop.app.endSession hardware)

/-- The part of `send_next_capture_segment` behind the initialization. -/
def sendSegment
    (loop : MainLoop)
    (around : Surroundings) :
    MainLoop × Effects :=
  match loop.transfer.peek with
  | none =>
      if loop.captureTx.state = .complete then
        (loop.released, Effects.silent)
      else if loop.captureTx.state = .failed then
        ({ loop.sessionEnded around.endHardware with
            captureStreamStarted := false },
          ⟨(loop.app.endSession around.endHardware).calls, none⟩)
      else
        (loop, Effects.silent)
  | some data =>
      match around.sendResult with
      | .started =>
          ({ loop with
              captureTx := loop.transfer.onStartResult .started
              txInFlight := true },
            ⟨[], some data⟩)
      | .interfaceBusy =>
          ({ loop with captureTx := loop.transfer.onStartResult .busy },
            Effects.silent)
      | .failed =>
          ({ loop.sessionEnded around.endHardware with
              captureTx := loop.transfer.onStartResult .fatal
              captureStreamStarted := false },
            ⟨(loop.app.endSession around.endHardware).calls, none⟩)

/-- `send_next_capture_segment`. -/
def sendNextCaptureSegment
    (loop : MainLoop)
    (around : Surroundings) :
    MainLoop × Effects :=
  if loop.captureStreamStarted = false then
    loop.initializePendingCaptureStream.sendSegment around
  else
    loop.sendSegment around

/-- `process_usb_input`. A response that is not taken ends the session. -/
def processUsbInput
    (loop : MainLoop)
    (around : Surroundings) :
    MainLoop × Effects :=
  match UsbLink.receive loop.parser around.received with
  | (parser, _, none) => ({ loop with parser := parser }, Effects.silent)
  | (parser, _, some view) =>
      let outcome :=
        loop.app.handle view App.responseCapacity around.hardware
      let handled := { loop.operated outcome with parser := parser }
      match outcome.response with
      | none => (handled, ⟨outcome.calls, none⟩)
      | some response =>
          if around.sendResult = .started then
            ({ handled with txInFlight := true },
              ⟨outcome.calls, some response⟩)
          else
            (handled.sessionEnded around.endHardware,
              ⟨outcome.calls ++
                  (outcome.app.endSession around.endHardware).calls,
                none⟩)

/-- The part in which the loop sends a segment or serves a command. -/
def runTraffic
    (loop : MainLoop)
    (around : Surroundings) :
    MainLoop × Effects :=
  if around.connected ∧ around.sessionReady ∧ loop.txInFlight = false ∧
      loop.app.capturePending then
    loop.sendNextCaptureSegment around
  else if around.connectedAgain ∧ around.sessionReadyAgain ∧
      loop.txInFlight = false ∧ around.dataPending then
    loop.processUsbInput around
  else
    (loop, Effects.silent)

/-- The part in which the loop notices the end of a session. -/
def runSession
    (loop : MainLoop)
    (around : Surroundings) :
    MainLoop × Effects :=
  if around.sessionReady = false then
    if loop.previousSessionReady then
      ({ loop.abortUsbResponse.sessionEnded around.endHardware with
          parser := .init
          previousSessionReady := false },
        ⟨(loop.app.endSession around.endHardware).calls, none⟩)
    else
      (loop, Effects.silent)
  else
    ({ loop with previousSessionReady := true }, Effects.silent)

/-- The part in which the loop takes note of a completed send. -/
def runCompletion
    (loop : MainLoop)
    (around : Surroundings) :
    MainLoop :=
  if around.sendComplete = false then
    loop
  else
    let noted :=
      if loop.captureStreamStarted ∧ loop.captureTx.state = .inFlight then
        let completed :=
          { loop with captureTx := loop.transfer.onSendCompleted }
        if completed.captureTx.state = .complete then
          completed.released
        else
          completed
      else
        loop
    { noted with txInFlight := false }

/-- One part of the body. -/
def run
    (loop : MainLoop)
    (around : Surroundings) :
    MainLoop × Effects :=
  match loop.stage with
  | .time =>
      if around.elapsedQuanta = 0 then
        (loop, Effects.silent)
      else
        let outcome :=
          loop.app.advanceTime
            (around.elapsedQuanta.toUInt32 * aclkQuantumUs)
            around.hardware
        (loop.operated outcome, ⟨outcome.calls, none⟩)
  | .clock =>
      let outcome :=
        loop.app.updateClockFaults around.clockFaultFlags around.hardware
      (loop.operated outcome, ⟨outcome.calls, none⟩)
  | .session => loop.runSession around
  | .completion => (loop.runCompletion around, Effects.silent)
  | .frameTimeout =>
      if around.frameTimeoutPending then
        ({ loop with parser := loop.parser.expire.1 }, Effects.silent)
      else
        (loop, Effects.silent)
  | .periodic =>
      if around.sessionReady = true ∧ loop.app.periodicDue = true then
        let outcome := loop.app.runPeriodicCapture around.hardware
        (loop.operated outcome, ⟨outcome.calls, none⟩)
      else
        (loop, Effects.silent)
  | .traffic => loop.runTraffic around

/-- The main loop as a machine. -/
def machine : Machine MainLoop Surroundings Effects where
  step loop around :=
    let ran := loop.run around
    ({ ran.1 with stage := loop.stage.next }, ran.2)

/-- The recorded parts of a run. -/
abbrev Part := Event MainLoop Surroundings Effects

/-- The loop is entered with nothing sent and with whatever the waveform and
the transfer hold. -/
def started
    (app : App)
    (waveform : Waveform)
    (captureTx : CaptureTx) :
    MainLoop where
  stage := .time
  app := app
  parser := .init
  waveform := waveform
  captureTx := captureTx
  captureStreamStarted := false
  txInFlight := false
  previousSessionReady := false

/-! ## What keeps the waveform in transit -/

/-- While a transfer is under way its capture is pending, and the segments it
sends, with the samples that are in the buffer now, are those prepared for
that capture. -/
def Guarded (loop : MainLoop) : Prop :=
  loop.captureStreamStarted = true →
    loop.app.capturePending = true ∧
      ∃ descriptor,
        loop.transfer.stream.parts =
          (Segments.init descriptor loop.waveform).parts

end MainLoop

/-- The call measures: it may write the waveform or drive the transducer. -/
def Call.measures : Call → Bool
  | .capture _ _ _ _ _ _ => true
  | .runIo2Loopback _ _ _ => true
  | _ => false

namespace MainLoop

/-- Every measuring callback finds no capture pending. -/
def MeasuresFree (calls : List Invocation) : Prop :=
  ∀ invocation ∈ calls,
    invocation.call.measures = true →
      invocation.moment.capturePending = false

/-- A part of the body leaves the waveform in transit alone. -/
structure Protects (loop next : MainLoop) (calls : List Invocation) :
    Prop where
  guarded : next.Guarded
  free : MeasuresFree calls
  untouched :
    loop.captureStreamStarted = true →
      next.captureStreamStarted = true →
        next.waveform = loop.waveform ∧
          next.transfer.stream.parts = loop.transfer.stream.parts

variable {loop next : MainLoop} {calls : List Invocation}

/-- Where no transfer is left, only the measurements matter. -/
theorem Protects.of_ended
    (ended : next.captureStreamStarted = false)
    (free : MeasuresFree calls) :
    loop.Protects next calls where
  guarded started := absurd (ended.symm.trans started) Bool.false_ne_true
  free := free
  untouched _ started :=
    absurd (ended.symm.trans started) Bool.false_ne_true

/-- A part that changes neither the transfer nor the waveform protects
them. -/
theorem Protects.of_kept
    (guarded : loop.Guarded)
    (started : next.captureStreamStarted = loop.captureStreamStarted)
    (pending : next.app.capturePending = loop.app.capturePending)
    (waveform : next.waveform = loop.waveform)
    (parts : next.transfer.stream.parts = loop.transfer.stream.parts)
    (free : MeasuresFree calls) :
    loop.Protects next calls where
  guarded := by
    intro running
    rw [started] at running
    rw [pending, waveform, parts]
    exact guarded running
  free := free
  untouched _ _ := ⟨waveform, parts⟩

/-- Nothing measures where nothing is invoked. -/
theorem MeasuresFree.nil : MeasuresFree [] := by
  intro invocation member
  cases member

/-- Callbacks one after the other. -/
theorem MeasuresFree.append
    {first second : List Invocation}
    (before : MeasuresFree first)
    (after : MeasuresFree second) :
    MeasuresFree (first ++ second) := by
  intro invocation member
  rcases List.mem_append.1 member with earlier | later
  · exact before invocation earlier
  · exact after invocation later

/-- Callbacks that all find no capture pending. -/
theorem MeasuresFree.of_moments
    (free :
      ∀ invocation ∈ calls, invocation.moment.capturePending = false) :
    MeasuresFree calls :=
  fun invocation member _ => free invocation member

/-- No callback measures. -/
def MeasuresNothing (calls : List Invocation) : Prop :=
  ∀ invocation ∈ calls, invocation.call.measures = false

/-- Where nothing measures, nothing measures too early. -/
theorem MeasuresNothing.free
    (nothing : MeasuresNothing calls) :
    MeasuresFree calls := by
  intro invocation member measures
  rw [nothing invocation member] at measures
  cases measures

/-- Where nothing measures, the waveform stays. -/
theorem MeasuresNothing.waveformAfter
    (nothing : MeasuresNothing calls)
    (waveform : Waveform) :
    Board.waveformAfter waveform calls = waveform := by
  induction calls with
  | nil =>
      rfl
  | cons invocation rest inductionHypothesis =>
      obtain ⟨first, others⟩ := List.forall_mem_cons.1 nothing
      rw [← inductionHypothesis others]
      cases call : invocation.call with
      | capture =>
          rw [call] at first
          cases first
      | applyProfile | forceSafe | runIo2Loopback =>
          simp [Board.waveformAfter, call, inductionHypothesis others]

/-- Forcing the hardware safe measures nothing. -/
theorem MeasuresNothing.forceSafe
    (app : App)
    (hardware : Hardware) :
    MeasuresNothing [app.forceSafe hardware] := by
  intro invocation member
  rw [List.mem_singleton.1 member]
  rfl

/-- Time and clock faults keep a pending capture and measure nothing. -/
theorem advanceTime_kept
    (app : App)
    (elapsedUs : UInt32)
    (hardware : Hardware) :
    (app.advanceTime elapsedUs hardware).app.capturePending =
        app.capturePending ∧
      MeasuresNothing (app.advanceTime elapsedUs hardware).calls := by
  have effect := App.advanceTime_effect app elapsedUs hardware
  generalize (app.advanceTime elapsedUs hardware).app = next at effect ⊢
  generalize (app.advanceTime elapsedUs hardware).calls = calls at effect ⊢
  cases effect with
  | timePassed =>
      exact ⟨rfl, by simp [MeasuresNothing]⟩
  | leaseExpired =>
      exact ⟨rfl, .forceSafe _ _⟩

/-- A clock fault keeps a pending capture and measures nothing. -/
theorem updateClockFaults_kept
    (app : App)
    (flags : UInt16)
    (hardware : Hardware) :
    (app.updateClockFaults flags hardware).app.capturePending =
        app.capturePending ∧
      MeasuresNothing (app.updateClockFaults flags hardware).calls := by
  have effect := App.updateClockFaults_effect app flags hardware
  generalize (app.updateClockFaults flags hardware).app = next at effect ⊢
  generalize (app.updateClockFaults flags hardware).calls = calls at effect ⊢
  cases effect with
  | clockQuiet =>
      exact ⟨rfl, by simp [MeasuresNothing]⟩
  | clockLatched =>
      exact ⟨rfl, .forceSafe _ _⟩

/-- A due periodic capture finds no capture pending. -/
theorem runPeriodicCapture_free
    (app : App)
    (hardware : Hardware)
    (due : app.periodicDue = true) :
    app.capturePending = false ∧
      MeasuresFree (app.runPeriodicCapture hardware).calls := by
  have free : app.capturePending = false := by
    simp only [App.periodicDue, Bool.and_eq_true, Bool.not_eq_true'] at due
    exact due.2
  refine ⟨free, ?_⟩
  have effect := App.runPeriodicCapture_effect app hardware
  generalize (app.runPeriodicCapture hardware).app = next at effect
  generalize (app.runPeriodicCapture hardware).calls = calls at effect ⊢
  apply MeasuresFree.of_moments
  cases effect with
  | periodicIdle =>
      simp
  | periodicNotApplied | periodicFailed | periodicTaken =>
      simp [App.applyProfile, App.capture, App.forceSafe, free]

/-- A request that is served while no capture is pending measures while none
is. -/
theorem handle_free
    (app : App)
    (request : Mcu.FrameView)
    (hardware : Hardware)
    (free : app.capturePending = false) :
    MeasuresFree
      (app.handle request App.responseCapacity hardware).calls := by
  have effect := App.handle_effect app request hardware
  generalize (app.handle request App.responseCapacity hardware).app = next
    at effect
  generalize (app.handle request App.responseCapacity hardware).calls = calls
    at effect ⊢
  cases effect with
  | answered | greeted | configRefused | captureReplayed | captureDeclined |
    started | renewed =>
      exact .nil
  | restarted =>
      exact (MeasuresNothing.forceSafe _ _).free
  | stopped =>
      exact (MeasuresNothing.forceSafe _ _).free
  | configFailed | configApplied =>
      apply MeasuresFree.of_moments
      simp [App.applyProfile, free]
  | loopedBack =>
      apply MeasuresFree.of_moments
      simp [free]
  | captureNotApplied | captureFailed | captureTaken =>
      apply MeasuresFree.of_moments
      simp [App.captureCalls, App.applyProfile, App.capture, App.forceSafe,
        App.consumed, App.withProfile, free]

/-- A transfer with the same segments over the same waveform. -/
theorem parts_transfer
    (waveform : next.waveform = loop.waveform)
    (parts : next.captureTx.stream.parts = loop.transfer.stream.parts) :
    next.transfer.stream.parts = loop.transfer.stream.parts := by
  simp only [Segments.parts, transfer, List.cons.injEq, and_true] at parts ⊢
  exact ⟨parts.1, parts.2.1, congrArg sampleBytes waveform, parts.2.2.2⟩

/-- An operation of the application that keeps a pending capture and measures
nothing protects the transfer. -/
theorem Protects.of_operated
    (guarded : loop.Guarded)
    {outcome : Outcome}
    (pending : outcome.app.capturePending = loop.app.capturePending)
    (nothing : MeasuresNothing outcome.calls) :
    loop.Protects (loop.operated outcome) outcome.calls := by
  have waveform : (loop.operated outcome).waveform = loop.waveform :=
    nothing.waveformAfter loop.waveform
  have same : (loop.operated outcome).transfer = loop.transfer := by
    rw [transfer, waveform]
    rfl
  exact .of_kept guarded rfl pending waveform (by rw [same]) nothing.free

/-- The part that sends a segment protects the transfer. -/
theorem sendSegment_protects
    (guarded : loop.Guarded)
    (around : Surroundings) :
    loop.Protects (loop.sendSegment around).1
      (loop.sendSegment around).2.calls := by
  unfold sendSegment
  split
  · split_ifs
    · exact .of_ended rfl .nil
    · exact .of_ended rfl (MeasuresNothing.forceSafe _ _).free
    · exact .of_kept guarded rfl rfl rfl rfl .nil
  · have parts (result : StartResult) :
        (loop.transfer.onStartResult result).stream.parts =
          loop.transfer.stream.parts := by
      rw [CaptureTx.onStartResult_stream]
    split
    · exact .of_kept guarded rfl rfl rfl (parts_transfer rfl (parts _)) .nil
    · exact .of_kept guarded rfl rfl rfl (parts_transfer rfl (parts _)) .nil
    · exact .of_ended rfl (MeasuresNothing.forceSafe _ _).free

/-- A pending capture is guarded once its stream is initialized. -/
theorem initializePendingCaptureStream_guarded
    (pending : loop.app.capturePending = true) :
    loop.initializePendingCaptureStream.Guarded :=
  fun _ => ⟨pending, _, rfl⟩

/-- Sending the next segment of a pending capture protects the transfer. -/
theorem sendNextCaptureSegment_protects
    (guarded : loop.Guarded)
    (pending : loop.app.capturePending = true)
    (around : Surroundings) :
    loop.Protects (loop.sendNextCaptureSegment around).1
      (loop.sendNextCaptureSegment around).2.calls := by
  unfold sendNextCaptureSegment
  split_ifs with fresh
  · have sent :=
      sendSegment_protects (initializePendingCaptureStream_guarded pending)
        around
    exact ⟨sent.guarded, sent.free,
      fun started => absurd (fresh.symm.trans started) Bool.false_ne_true⟩
  · exact sendSegment_protects guarded around

/-- Where no capture is pending, no transfer is under way. -/
theorem Guarded.ended
    (guarded : loop.Guarded)
    (free : loop.app.capturePending = false) :
    loop.captureStreamStarted = false := by
  by_contra started
  have pending := (guarded (by simpa using started)).1
  exact Bool.false_ne_true (free.symm.trans pending)

/-- Serving commands while no capture is pending protects the transfer, since
none is under way. -/
theorem processUsbInput_protects
    (guarded : loop.Guarded)
    (free : loop.app.capturePending = false)
    (around : Surroundings) :
    loop.Protects (loop.processUsbInput around).1
      (loop.processUsbInput around).2.calls := by
  have ended := guarded.ended free
  unfold processUsbInput
  split
  · exact .of_ended ended .nil
  · next view _ =>
      have served := handle_free loop.app view around.hardware free
      dsimp only
      split
      · exact .of_ended ended served
      · split_ifs
        · exact .of_ended ended served
        · exact .of_ended ended
            (served.append (MeasuresNothing.forceSafe _ _).free)

/-- The part that notices the end of a session protects the transfer. -/
theorem runSession_protects
    (guarded : loop.Guarded)
    (around : Surroundings) :
    loop.Protects (loop.runSession around).1
      (loop.runSession around).2.calls := by
  unfold runSession
  split_ifs
  · exact .of_ended rfl (MeasuresNothing.forceSafe _ _).free
  · exact .of_kept guarded rfl rfl rfl rfl .nil
  · exact .of_kept guarded rfl rfl rfl rfl .nil

/-- The part that notes a completed send protects the transfer. -/
theorem runCompletion_protects
    (guarded : loop.Guarded)
    (around : Surroundings) :
    loop.Protects (loop.runCompletion around) [] := by
  unfold runCompletion
  split_ifs
  · exact .of_kept guarded rfl rfl rfl rfl .nil
  · dsimp only
    split_ifs
    · exact .of_ended rfl .nil
    · exact .of_kept guarded rfl rfl rfl
        (parts_transfer rfl (CaptureTx.parts_onSendCompleted _)) .nil
  · exact .of_kept guarded rfl rfl rfl rfl .nil

/-- The condition of the last part fails for the sending of a segment and,
read once more, holds for the serving of a command. -/
def Rereads (loop : MainLoop) (around : Surroundings) : Prop :=
  loop.stage = .traffic ∧ loop.app.capturePending = true ∧
    loop.txInFlight = false ∧
      ¬(around.connected = true ∧ around.sessionReady = true) ∧
        around.connectedAgain = true ∧ around.sessionReadyAgain = true ∧
          around.dataPending = true

/-- A part protects the transfer, unless a condition is read twice with two
results. -/
theorem run_protects
    (guarded : loop.Guarded)
    (around : Surroundings)
    (steady : ¬loop.Rereads around) :
    loop.Protects (loop.run around).1 (loop.run around).2.calls := by
  unfold run
  split
  · split_ifs
    · exact .of_kept guarded rfl rfl rfl rfl .nil
    · obtain ⟨pending, nothing⟩ :=
        advanceTime_kept loop.app
          (around.elapsedQuanta.toUInt32 * aclkQuantumUs) around.hardware
      exact .of_operated guarded pending nothing
  · obtain ⟨pending, nothing⟩ :=
      updateClockFaults_kept loop.app around.clockFaultFlags around.hardware
    exact .of_operated guarded pending nothing
  · exact runSession_protects guarded around
  · exact runCompletion_protects guarded around
  · split_ifs
    · exact .of_kept guarded rfl rfl rfl rfl .nil
    · exact .of_kept guarded rfl rfl rfl rfl .nil
  · split_ifs with due
    · obtain ⟨free, measures⟩ :=
        runPeriodicCapture_free loop.app around.hardware due.2
      exact .of_ended (guarded.ended free) measures
    · exact .of_kept guarded rfl rfl rfl rfl .nil
  · next traffic =>
      unfold runTraffic
      split_ifs with sends serves
      · exact sendNextCaptureSegment_protects guarded sends.2.2.2 around
      · refine processUsbInput_protects guarded ?_ around
        by_contra pending
        have pending : loop.app.capturePending = true := by
          simpa using pending
        exact steady ⟨traffic, pending, serves.2.2.1,
          fun linked =>
            sends ⟨linked.1, linked.2, serves.2.2.1, pending⟩,
          serves.1, serves.2.1, serves.2.2.2⟩
      · exact .of_kept guarded rfl rfl rfl rfl .nil

/--
Over every run of the main loop in which no capture is pending while the
condition of the last part, read twice, first fails and then holds: a transfer
that is under way has its capture pending, every measuring callback finds none
pending, and from the initialization of a stream to the end of its transfer
neither the waveform nor the prepared segments change.
-/
theorem transit_protected
    (deviceId bootId : Id16)
    (resetReason : UInt8)
    (initialState : FirmwareState)
    (result : ConfigResult)
    (devStat : UInt8)
    (waveform : Waveform)
    (captureTx : CaptureTx)
    (inputs : List Surroundings)
    (steady :
      EveryStep (fun _ part => ¬part.source.Rereads part.input)
        (machine.trace
          (started
            (App.started deviceId bootId resetReason initialState result
              devStat)
            waveform captureTx)
          inputs)) :
    EveryStep
      (fun _ part => part.source.Protects part.target part.output.calls)
      (machine.trace
        (started
          (App.started deviceId bootId resetReason initialState result
            devStat)
          waveform captureTx)
        inputs) := by
  refine machine.everyStep_of_invariant (fun _ loop => loop.Guarded) ?_ ?_ ?_
    inputs steady
  · exact fun started => absurd started Bool.false_ne_true
  · intro _ loop around guarded steady
    exact (run_protects guarded around steady).guarded
  · intro _ loop around guarded steady
    have protects := run_protects guarded around steady
    exact ⟨protects.guarded, protects.free, protects.untouched⟩

/-- The host is connected, its session is open and nothing happens. -/
def calm : Surroundings where
  elapsedQuanta := 0
  clockFaultFlags := 0
  sessionReady := true
  connected := true
  sessionReadyAgain := true
  connectedAgain := true
  sendComplete := false
  frameTimeoutPending := false
  dataPending := false
  received := []
  sendResult := .started
  hardware := .nominal
  endHardware := .nominal

/-- A command waits. -/
def commanded (view : Mcu.FrameView) : Surroundings :=
  { calm with
    dataPending := true
    received :=
      UsbLink.chunked
        (Mcu.frameBytes view.messageType view.flags view.sequence
          view.payload) }

/-- The first parts of a turn, in which a send may have been completed. -/
def beforeTraffic (sendComplete : Bool) : List Surroundings :=
  [calm, calm, calm, { calm with sendComplete := sendComplete }, calm, calm]

/-- One turn of the loop. -/
def turn (sendComplete : Bool) (traffic : Surroundings) : List Surroundings :=
  beforeTraffic sendComplete ++ [traffic]

/-- A session opens, a capture is taken and its first segment is sent. -/
def firstSegmentSent : List Surroundings :=
  turn false (commanded (Request.helloFrame 1 (Bytes.zero 16))) ++
    turn true
        (commanded
          (Request.captureOnceFrame 2 (Id16.ofByte 1)
            ConfigV2.initD10x4)) ++
      turn true calm

/-- The next command waits, and the host opens its session again between the
two reads of the condition. -/
def reopened : Surroundings :=
  { commanded
      (Request.captureOnceFrame 3 (Id16.ofByte 2) ConfigV2.initD10x4) with
    sessionReady := false }

/-- The loop after a successful boot. -/
def booted : MainLoop :=
  started
    (App.started (Bytes.zero 16) (Bytes.zero 16) 0 .sessionWait .ok 0)
    (List.Vector.replicate captureSampleCount 0) (.init CaptureTx.blank)

instance (loop : MainLoop) (around : Surroundings) :
    Decidable (loop.Rereads around) :=
  inferInstanceAs (Decidable (_ ∧ _))

set_option maxRecDepth 100000 in
/-- The first segment of a capture is sent under guard. -/
theorem transit_protected_firstSegment :
    (machine.after booted firstSegmentSent).captureStreamStarted = true ∧
      EveryStep
        (fun _ part => part.source.Protects part.target part.output.calls)
        (machine.trace booted firstSegmentSent) :=
  ⟨by decide +kernel,
    transit_protected (Bytes.zero 16) (Bytes.zero 16) 0 .sessionWait .ok 0
      (List.Vector.replicate captureSampleCount 0) (.init CaptureTx.blank)
      firstSegmentSent (by decide +kernel)⟩

set_option maxRecDepth 100000 in
/-- When the session is opened again between the two reads, the next capture
runs while the first one is in transit. -/
theorem reopened_measures :
    let loop := machine.after booted (firstSegmentSent ++ beforeTraffic true)
    loop.captureStreamStarted = true ∧
      ∃ invocation ∈ (machine.event loop reopened).output.calls,
        invocation.call.measures = true ∧
          invocation.moment.capturePending = true := by
  decide +kernel

/-- The waveform in transit is overwritten. -/
theorem not_protected_reopened :
    ¬EveryStep
      (fun _ part => part.source.Protects part.target part.output.calls)
      (machine.trace booted (firstSegmentSent ++ turn true reopened)) := by
  intro every
  rw [turn, ← List.append_assoc, machine.trace_concat] at every
  have protects := ((EveryStep.concat_iff _ _).1 every).2
  obtain ⟨-, invocation, member, measures, pending⟩ := reopened_measures
  have free := protects.free invocation member measures
  exact Bool.false_ne_true (free.symm.trans pending)

end MainLoop

end Usac.Firmware
