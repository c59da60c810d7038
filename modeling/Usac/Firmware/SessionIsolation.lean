import Usac.Firmware.SameSession
import Usac.Firmware.ScheduleBinding

namespace Usac.Firmware

open Library

/-!
# Sessions do not see each other

The main loop keeps more of a session than its application: the waveform and the
stream of the last transfer. Two loops are in the same session when their
applications are and they agree on everything else but what a flag hides.
Whatever surrounds them is then answered alike and leaves them in the same
session.
-/

namespace Board

/-- The same calls leave the same waveform, if it was the same before or one of
them writes it. -/
theorem waveformAfter_congr
    {leftCalls rightCalls : List Invocation}
    (same :
      leftCalls.map Invocation.call = rightCalls.map Invocation.call)
    {left right : Waveform}
    (kept :
      left = right ∨
        (rightCalls.any fun invocation => invocation.call.isCapture) =
          true) :
    waveformAfter left leftCalls = waveformAfter right rightCalls := by
  induction leftCalls generalizing rightCalls left right with
  | nil =>
      obtain rfl : rightCalls = [] := by simpa using same.symm
      simpa [waveformAfter] using kept
  | cons invocation leftRest inductionHypothesis =>
      obtain ⟨other, rightRest, rfl, sameCall, sameRest⟩ :
          ∃ other rightRest,
            rightCalls = other :: rightRest ∧
              other.call = invocation.call ∧
                leftRest.map Invocation.call =
                  rightRest.map Invocation.call := by
        cases rightCalls with
        | nil => simp at same
        | cons other rightRest =>
            simp only [List.map_cons, List.cons.injEq] at same
            exact ⟨other, rightRest, rfl, same.1.symm, same.2⟩
      simp only [waveformAfter, sameCall]
      cases call : invocation.call with
      | capture =>
          exact inductionHypothesis sameRest (.inl rfl)
      | applyProfile | forceSafe | runIo2Loopback =>
          refine inductionHypothesis sameRest (kept.imp_right ?_)
          simp [sameCall, call, Call.isCapture]

/-- A capture in use is described alike. -/
theorem descriptor_congr
    {left right : App}
    (same : left.SameSession right)
    (described : right.Described) :
    descriptor left = descriptor right := by
  have description := same.description described
  simp only [App.description, Prod.mk.injEq] at description
  obtain ⟨requestId, scheduleId, isAsync, sequence, report⟩ := description
  simp only [descriptor, requestId, scheduleId, isAsync, sequence, report,
    same.bootId, same.deviceId, same.config, same.captureSequence]

/-- Nothing of a session is left on a board without one. -/
theorem blankOutside_after
    (app : App)
    (waveform : Waveform)
    (blank : app.BlankOutside)
    (inputs : List Input) :
    (machine.after (started app waveform) inputs).app.BlankOutside := by
  apply machine.invariant_of_step (fun board => board.app.BlankOutside) blank
  intro board input blank
  have cases := turn_cases board input
  revert cases
  generalize machine.step board input = result
  intro cases
  cases cases with
  | idle | streamed => exact blank
  | operated input => exact blank.perform input
  | released pending =>
      intro outside
      have before := blank outside
      exact ⟨before.setCache, before.loopbackCache,
        before.loopbackAuthorized, rfl, before.captureCache,
        before.periodic⟩

end Board

namespace MainLoop

/-- Two loops in the same session, with the same waveform once a capture of the
session has written it and the same transfer while one is under way. -/
structure SameLoop (left right : MainLoop) : Prop where
  stage : left.stage = right.stage
  app : left.app.SameSession right.app
  parser : left.parser = right.parser
  waveform :
    right.app.Described ∨ right.captureStreamStarted = true →
      left.waveform = right.waveform
  captureTx :
    right.captureStreamStarted = true → left.captureTx = right.captureTx
  captureStreamStarted :
    left.captureStreamStarted = right.captureStreamStarted
  txInFlight : left.txInFlight = right.txInFlight

/-- The callbacks and the bytes two parts show are the same, and they leave
their loops in the same session. -/
structure SameEffects (left right : MainLoop × Effects) : Prop where
  loop : SameLoop left.1 right.1
  calls :
    left.2.calls.map Invocation.call = right.2.calls.map Invocation.call
  handed : left.2.handed = right.2.handed

section SameLoop

variable {left right : MainLoop} {around : Surroundings}

/-- Parts chosen alike. -/
theorem SameEffects.ite
    {leftCondition rightCondition : Prop}
    [Decidable leftCondition]
    [Decidable rightCondition]
    {leftThen leftElse rightThen rightElse : MainLoop × Effects}
    (alike : leftCondition ↔ rightCondition)
    (thenSame : SameEffects leftThen rightThen)
    (elseSame : SameEffects leftElse rightElse) :
    SameEffects (if leftCondition then leftThen else leftElse)
      (if rightCondition then rightThen else rightElse) := by
  by_cases holds : rightCondition
  · rw [if_pos holds, if_pos (alike.2 holds)]
    exact thenSame
  · rw [if_neg holds, if_neg (mt alike.1 holds)]
    exact elseSame

/-- Nothing happens alike. -/
theorem SameLoop.silent
    (same : SameLoop left right) :
    SameEffects (left, Effects.silent) (right, Effects.silent) :=
  ⟨same, rfl, rfl⟩

/-- Outcomes that look alike leave the loops in the same session. -/
theorem SameLoop.withOutcome
    (same : SameLoop left right)
    {leftOutcome rightOutcome : Outcome}
    (outcome : App.SameOutcome leftOutcome rightOutcome)
    (described :
      rightOutcome.app.Described →
        right.app.Described ∨
          (rightOutcome.calls.any fun invocation =>
            invocation.call.isCapture) = true) :
    SameLoop (left.operated leftOutcome) (right.operated rightOutcome) := by
  refine { same with app := outcome.session, waveform := fun used => ?_ }
  apply Board.waveformAfter_congr outcome.calls
  rcases used with used | started
  · exact (described used).imp_left fun used => same.waveform (.inl used)
  · exact .inl (same.waveform (.inr started))

/-- An operation leaves the loops in the same session. -/
theorem SameLoop.operated
    (same : SameLoop left right)
    (input : App.Input) :
    SameLoop (left.operated (left.app.perform input))
      (right.operated (right.app.perform input)) :=
  same.withOutcome (same.app.perform input)
    (App.perform_effect right.app input).described

/-- An operation is seen alike. -/
theorem SameLoop.performed
    (same : SameLoop left right)
    (input : App.Input) :
    SameEffects
      (left.operated (left.app.perform input),
        ⟨(left.app.perform input).calls, none⟩)
      (right.operated (right.app.perform input),
        ⟨(right.app.perform input).calls, none⟩) :=
  ⟨same.operated input, (same.app.perform input).calls, rfl⟩

/-- The end of a session leaves the loops in the same one. -/
theorem SameLoop.sessionEnded
    (same : SameLoop left right)
    (hardware : Hardware) :
    SameLoop (left.sessionEnded hardware) (right.sessionEnded hardware) :=
  same.operated (.endSession hardware)

/-- A transfer under way is the same. -/
theorem SameLoop.transfer
    (same : SameLoop left right)
    (started : right.captureStreamStarted = true) :
    left.transfer = right.transfer := by
  rw [MainLoop.transfer, MainLoop.transfer, same.captureTx started,
    same.waveform (.inr started)]

/-- Where the stream has ended, its transfer is hidden. -/
theorem SameLoop.withoutStream
    (same : SameLoop left right)
    (leftTx rightTx : CaptureTx) :
    SameLoop
      { left with captureTx := leftTx, captureStreamStarted := false }
      { right with captureTx := rightTx, captureStreamStarted := false } :=
  { same with
    waveform := fun used =>
      same.waveform (used.imp_right fun started =>
        absurd started Bool.false_ne_true)
    captureTx := fun started => absurd started Bool.false_ne_true
    captureStreamStarted := rfl }

/-- A transfer under way goes on alike. -/
theorem SameLoop.withTransfer
    (same : SameLoop left right)
    (tx : CaptureTx) :
    SameLoop { left with captureTx := tx } { right with captureTx := tx } :=
  { same with captureTx := fun _ => rfl }

/-- The gate of the USB driver is no matter of a session. -/
theorem SameLoop.withGate
    (same : SameLoop left right)
    (inFlight : Bool) :
    SameLoop { left with txInFlight := inFlight }
      { right with txInFlight := inFlight } :=
  { same with txInFlight := rfl }

/-- The parsers are the same. -/
theorem SameLoop.withParser
    (same : SameLoop left right)
    (parser : Mcu.Parser) :
    SameLoop { left with parser := parser }
      { right with parser := parser } :=
  { same with parser := rfl }

/-- What the last part noticed of the session is no matter of it. -/
theorem SameLoop.withPrevious
    (same : SameLoop left right)
    (leftReady rightReady : Bool) :
    SameLoop { left with previousSessionReady := leftReady }
      { right with previousSessionReady := rightReady } :=
  { same with }

/-- A capture is released alike. -/
theorem SameLoop.released
    (same : SameLoop left right) :
    SameLoop left.released right.released :=
  { same with
    app :=
      { same.app with
        capturePending := rfl
        description := fun described =>
          same.app.description (described.imp_left fun pending =>
            absurd pending Bool.false_ne_true) }
    waveform := fun used =>
      same.waveform (.inl (used.elim
        (fun described => described.imp_left fun pending =>
          absurd pending Bool.false_ne_true)
        fun started => absurd started Bool.false_ne_true))
    captureTx := fun started => absurd started Bool.false_ne_true
    captureStreamStarted := rfl }

/-- The stream of a pending capture is initialized alike. -/
theorem SameLoop.streaming
    (same : SameLoop left right)
    (pending : right.app.capturePending = true) :
    SameLoop left.streaming right.streaming := by
  unfold MainLoop.streaming
  rw [same.captureStreamStarted]
  split_ifs
  · have described : right.app.Described := .inl pending
    have waveform := same.waveform (.inl described)
    refine { same with
      waveform := fun _ => waveform
      captureTx := fun _ => ?_
      captureStreamStarted := rfl }
    simp only [initializePendingCaptureStream, waveform,
      Board.descriptor_congr same.app described]
  · exact same

/-- A segment is sent alike. -/
theorem SameLoop.sendSegment
    (same : SameLoop left right)
    (started : right.captureStreamStarted = true) :
    SameEffects (left.sendSegment around) (right.sendSegment around) := by
  have transfer := same.transfer started
  have ended := same.sessionEnded around.endHardware
  have calls := (same.app.endSession around.endHardware).calls
  unfold MainLoop.sendSegment
  rw [transfer, same.captureTx started]
  split
  · refine .ite Iff.rfl same.released.silent (.ite Iff.rfl ?_ same.silent)
    exact ⟨ended.withoutStream _ _, calls, rfl⟩
  · split
    · have sent :=
        same.withTransfer (right.transfer.onStartResult .started)
      exact ⟨sent.withGate true, rfl, rfl⟩
    · exact (same.withTransfer _).silent
    · exact ⟨ended.withoutStream _ _, calls, rfl⟩

/-- A command is served alike. -/
theorem SameLoop.processUsbInput
    (same : SameLoop left right) :
    SameEffects (left.processUsbInput around)
      (right.processUsbInput around) := by
  unfold MainLoop.processUsbInput
  rw [same.parser]
  rcases UsbLink.receive right.parser around.received with
    ⟨parser, rest, _ | view⟩
  · exact (same.withParser parser).silent
  · have outcome :
        App.SameOutcome
          (left.app.handle view App.responseCapacity around.hardware)
          (right.app.handle view App.responseCapacity around.hardware) :=
      same.app.handle
    have handled :=
      (same.withOutcome outcome
        (App.handle_effect right.app view around.hardware).described).withParser
        parser
    have ended := handled.sessionEnded around.endHardware
    have calls := (handled.app.endSession around.endHardware).calls
    dsimp only
    rw [outcome.response]
    split
    · exact ⟨handled, outcome.calls, rfl⟩
    · refine .ite Iff.rfl ⟨handled.withGate true, outcome.calls, rfl⟩
        ⟨ended, ?_, rfl⟩
      simp only [List.map_append]
      exact congrArg₂ _ outcome.calls calls

/-- The loop sends a segment or serves a command alike. -/
theorem SameLoop.runTraffic
    (same : SameLoop left right) :
    SameEffects (left.runTraffic around) (right.runTraffic around) := by
  unfold MainLoop.runTraffic
  rw [same.txInFlight, same.app.capturePending]
  split_ifs with sends
  · rw [sendNextCaptureSegment_eq, sendNextCaptureSegment_eq]
    exact (same.streaming sends.2.2.2).sendSegment (streaming_started right)
  · exact same.processUsbInput
  · exact same.silent

/-- The end of a session is noticed alike, unless only one of the loops has
seen the session. -/
theorem SameLoop.runSession
    (same : SameLoop left right)
    (linked :
      left.previousSessionReady = right.previousSessionReady ∨
        around.sessionReady = true) :
    SameEffects (left.runSession around) (right.runSession around) := by
  have aborted : SameLoop left.abortUsbResponse right.abortUsbResponse :=
    (same.withoutStream _ _).withGate false
  have ended := aborted.sessionEnded around.endHardware
  have calls := (same.app.endSession around.endHardware).calls
  unfold MainLoop.runSession
  by_cases ready : around.sessionReady = true
  · rw [if_neg (by simp [ready]), if_neg (by simp [ready])]
    exact (same.withPrevious true true).silent
  · rw [linked.resolve_right ready]
    refine .ite Iff.rfl (.ite Iff.rfl ?_ same.silent)
      (same.withPrevious true true).silent
    exact ⟨(ended.withParser .init).withPrevious false false, calls, rfl⟩

/-- A segment is in flight on both loops or on none. -/
theorem SameLoop.flies_iff
    (same : SameLoop left right) :
    left.captureStreamStarted = true ∧ left.captureTx.state = .inFlight ↔
      right.captureStreamStarted = true ∧
        right.captureTx.state = .inFlight := by
  rw [same.captureStreamStarted]
  exact and_congr_right fun started => by rw [same.captureTx started]

/-- A completed send is noted alike. -/
theorem SameLoop.runCompletion
    (same : SameLoop left right) :
    SameLoop (left.runCompletion around) (right.runCompletion around) := by
  unfold MainLoop.runCompletion
  by_cases completes : around.sendComplete = false
  · rw [if_pos completes, if_pos completes]
    exact same
  rw [if_neg completes, if_neg completes]
  by_cases flies :
      right.captureStreamStarted = true ∧ right.captureTx.state = .inFlight
  · rw [if_pos flies, if_pos (same.flies_iff.2 flies), same.transfer flies.1]
    have committed := same.withTransfer right.transfer.onSendCompleted
    dsimp only
    split_ifs
    · exact committed.released.withGate false
    · exact committed.withGate false
  · rw [if_neg flies, if_neg (mt same.flies_iff.1 flies)]
    exact same.withGate false

/-- Every part is seen alike and stays in the session, unless only one of the
loops has seen the session. -/
theorem SameLoop.run
    (same : SameLoop left right)
    (linked :
      left.previousSessionReady = right.previousSessionReady ∨
        around.sessionReady = true) :
    SameEffects (left.run around) (right.run around) := by
  unfold MainLoop.run
  rw [same.stage]
  cases right.stage with
  | time =>
      exact .ite Iff.rfl same.silent
        (same.performed (.advanceTime _ around.hardware))
  | clock =>
      exact same.performed (.updateClockFaults _ around.hardware)
  | session => exact same.runSession linked
  | completion => exact same.runCompletion.silent
  | frameTimeout =>
      exact .ite Iff.rfl ⟨{ same with stage := rfl, parser := rfl }, rfl, rfl⟩
        same.silent
  | periodic =>
      have due : left.app.periodicDue = right.app.periodicDue := by
        simp only [App.periodicDue, same.app.periodic,
          same.app.clockFaultFlags, same.app.capturePending]
      exact .ite (by rw [due])
        (same.performed (.runPeriodicCapture around.hardware)) same.silent
  | traffic => exact same.runTraffic

end SameLoop

/-- What the host and the hardware see of a part. -/
def observed (part : Part) : List Call × Option (List UInt8) :=
  (part.output.calls.map Invocation.call, part.output.handed)

/-- Every part is seen alike and stays in the session, unless only one of the
loops has seen the session. -/
theorem SameLoop.event
    {left right : MainLoop}
    (same : SameLoop left right)
    (around : Surroundings)
    (linked :
      left.previousSessionReady = right.previousSessionReady ∨
        around.sessionReady = true) :
    observed (machine.event left around) =
        observed (machine.event right around) ∧
      SameLoop (machine.step left around).1
        (machine.step right around).1 := by
  have effects := same.run linked
  exact ⟨Prod.ext effects.calls effects.handed,
    { effects.loop with stage := congrArg Stage.next same.stage }⟩

/-- Sending a segment leaves the noticed session alone. -/
theorem sendSegment_previous
    (loop : MainLoop)
    (around : Surroundings) :
    (loop.sendSegment around).1.previousSessionReady =
      loop.previousSessionReady := by
  unfold sendSegment
  split
  · split_ifs <;> rfl
  · split <;> rfl

/-- Serving a command leaves the noticed session alone. -/
theorem processUsbInput_previous
    (loop : MainLoop)
    (around : Surroundings) :
    (loop.processUsbInput around).1.previousSessionReady =
      loop.previousSessionReady := by
  unfold processUsbInput
  split
  · rfl
  · dsimp only
    split
    · rfl
    · split_ifs <;> rfl

/-- Only the part that looks for the end of a session notices the session. -/
theorem run_previous
    (loop : MainLoop)
    (around : Surroundings) :
    (loop.run around).1.previousSessionReady =
      if loop.stage = .session then
        around.sessionReady
      else
        loop.previousSessionReady := by
  unfold run
  cases loop.stage with
  | time | frameTimeout | periodic =>
      show _ = loop.previousSessionReady
      dsimp only
      split_ifs <;> rfl
  | clock =>
      rfl
  | session =>
      show (loop.runSession around).1.previousSessionReady =
        around.sessionReady
      unfold runSession
      split_ifs with closed before
      · exact closed.symm
      · rw [closed]
        simpa using before
      · simpa using closed
  | completion =>
      show (loop.runCompletion around).previousSessionReady =
        loop.previousSessionReady
      simp only [runCompletion]
      split_ifs <;> rfl
  | traffic =>
      show (loop.runTraffic around).1.previousSessionReady =
        loop.previousSessionReady
      unfold runTraffic
      split_ifs
      · rw [sendNextCaptureSegment_eq, sendSegment_previous, streaming]
        split_ifs <;> rfl
      · exact processUsbInput_previous loop around
      · rfl

/-- A loop some run of the main loop reaches in which the condition of the last
part is not read twice with two results while a capture is pending. -/
def Reachable (loop : MainLoop) : Prop :=
  ∃ deviceId bootId resetReason initialState result devStat waveform captureTx
      inputs,
    EveryStep (fun _ part => ¬part.source.Rereads part.input)
        (machine.trace
          (started
            (App.started deviceId bootId resetReason initialState result
              devStat)
            waveform captureTx)
          inputs) ∧
      loop =
        machine.after
          (started
            (App.started deviceId bootId resetReason initialState result
              devStat)
            waveform captureTx)
          inputs

/-- A part serves a HELLO that opens a session, and the USB driver takes its
response. -/
structure Greets
    (loop : MainLoop)
    (around : Surroundings)
    (request : Mcu.FrameView) :
    Prop where
  waits : ¬loop.Sends around
  serves : loop.Serves around
  received : (UsbLink.receive loop.parser around.received).2.2 = some request
  opens : loop.app.OpensSession request
  taken : around.sendResult = .started

/-- On a reachable loop a transfer is guarded, and without a session nothing of
one is left. -/
theorem Reachable.kept
    {loop : MainLoop}
    (reachable : loop.Reachable) :
    loop.Guarded ∧ loop.app.BlankOutside := by
  obtain ⟨deviceId, bootId, resetReason, initialState, result, devStat,
    waveform, captureTx, inputs, steady, rfl⟩ := reachable
  constructor
  · refine machine.invariant_after (fun _ loop => loop.Guarded) ?_ ?_ inputs
      steady
    · exact fun started => absurd started Bool.false_ne_true
    · intro _ loop around guarded steady
      exact (run_protects guarded around steady).guarded
  · show (machine.after _ inputs).board.app.BlankOutside
    rw [← (history_explains _ waveform captureTx inputs steady).reached]
    exact Board.blankOutside_after _ waveform
      (fun _ => ⟨rfl, rfl, rfl, rfl, rfl, rfl⟩) _

/-- A loop whose session has just been opened. -/
structure Fresh (loop : MainLoop) : Prop where
  stage : loop.stage = .time
  app : loop.app.Opened
  parser : loop.parser = .init
  unstreamed : loop.captureStreamStarted = false
  gate : loop.txInFlight = true

/-- A HELLO is answered. -/
theorem hello_responds
    {app : App}
    {request : Mcu.FrameView}
    (opens : app.OpensSession request)
    (hardware : Hardware) :
    (app.handle request App.responseCapacity hardware).response.isSome := by
  rw [App.handle, if_neg (not_not.2 opens.flags), if_pos opens.hello]
  exact App.respond_responds (by simp [App.helloPayload]) Message.hello

/-- A HELLO that opens a session on a reachable loop leaves it fresh. -/
theorem Greets.fresh
    {loop : MainLoop}
    {around : Surroundings}
    {request : Mcu.FrameView}
    (greets : loop.Greets around request)
    (reachable : loop.Reachable)
    (steady : ¬loop.Rereads around) :
    (machine.event loop around).target.Fresh := by
  obtain ⟨guarded, blank⟩ := reachable.kept
  have ended :=
    guarded.ended (free_of_serves greets.waits greets.serves steady)
  have framed := UsbLink.receive_framed greets.received
  have received := greets.received
  rcases taken : UsbLink.receive loop.parser around.received with
    ⟨parser, rest, _ | view⟩
  · rw [taken] at received
    cases received
  · rw [taken] at received framed
    obtain rfl := Option.some.inj received
    obtain ⟨response, responds⟩ :=
      Option.isSome_iff_exists.1
        (hello_responds greets.opens around.hardware)
    have ran :
        loop.run around =
          ({ loop.operated
                (loop.app.handle view App.responseCapacity
                  around.hardware) with
              parser := parser
              txInFlight := true },
            ⟨(loop.app.handle view App.responseCapacity
                around.hardware).calls, some response⟩) := by
      rw [run_serves greets.waits greets.serves]
      simp only [processUsbInput, taken, responds, if_pos greets.taken]
    simp only [Machine.event, machine, ran]
    exact {
      stage := congrArg Stage.next greets.serves.1
      app := blank.opened greets.opens around.hardware
      parser := framed
      unstreamed := ended
      gate := rfl
    }

/-- Two fresh loops whose sessions open alike are in the same session. -/
theorem Fresh.sameLoop
    {left right : MainLoop}
    (leftFresh : left.Fresh)
    (rightFresh : right.Fresh)
    (alike : App.OpenAlike left.app right.app) :
    SameLoop left right where
  stage := leftFresh.stage.trans rightFresh.stage.symm
  app := leftFresh.app.sameSession rightFresh.app alike
  parser := leftFresh.parser.trans rightFresh.parser.symm
  waveform := fun used => by
    rcases used with described | started
    · exact absurd described
        (App.not_described rightFresh.app.blank.capturePending
          rightFresh.app.blank.captureCache)
    · exact absurd (rightFresh.unstreamed.symm.trans started)
        Bool.false_ne_true
  captureTx := fun started =>
    absurd (rightFresh.unstreamed.symm.trans started) Bool.false_ne_true
  captureStreamStarted :=
    leftFresh.unstreamed.trans rightFresh.unstreamed.symm
  txInFlight := leftFresh.gate.trans rightFresh.gate.symm

/--
Take two loops that runs of the main loop reach in which no capture is pending
while the condition of the last part, read twice, first fails and then holds,
and let a HELLO open a session on each. If both sessions have the same nonce and
the same lasting state, and both loops have noticed the session or the session
stays, then they are seen alike ever after, whatever their earlier sessions
were.
-/
theorem sessions_isolated
    {left right : MainLoop}
    (leftReachable : left.Reachable)
    (rightReachable : right.Reachable)
    {leftHello rightHello : Surroundings}
    (leftSteady : ¬left.Rereads leftHello)
    (rightSteady : ¬right.Rereads rightHello)
    {leftRequest rightRequest : Mcu.FrameView}
    (leftGreets : left.Greets leftHello leftRequest)
    (rightGreets : right.Greets rightHello rightRequest)
    (alike :
      App.OpenAlike (machine.event left leftHello).target.app
        (machine.event right rightHello).target.app)
    (inputs : List Surroundings)
    (linked :
      (machine.event left leftHello).target.previousSessionReady =
          (machine.event right rightHello).target.previousSessionReady ∨
        ∀ around ∈ inputs, around.sessionReady = true) :
    (machine.trace (machine.event left leftHello).target inputs).map
        observed =
      (machine.trace (machine.event right rightHello).target inputs).map
        observed := by
  have same :=
    (leftGreets.fresh leftReachable leftSteady).sameLoop
      (rightGreets.fresh rightReachable rightSteady) alike
  rcases linked with both | stays
  · refine machine.trace_map_eq_of_lockstep observed
      (fun left right =>
        SameLoop left right ∧
          left.previousSessionReady = right.previousSessionReady)
      (fun left right around _ related => ?_) ⟨same, both⟩ inputs
      (fun _ _ => trivial)
    obtain ⟨alike, next⟩ := related.1.event around (.inl related.2)
    refine ⟨alike, next, ?_⟩
    show (left.run around).1.previousSessionReady =
      (right.run around).1.previousSessionReady
    rw [run_previous, run_previous, related.1.stage, related.2]
  · exact machine.trace_map_eq_of_lockstep observed SameLoop
      (fun _ _ around ready related => related.event around (.inr ready))
      same inputs stays

/-- Another host opens a session. -/
def otherHello : Mcu.FrameView :=
  Request.helloFrame 7 (Id16.ofByte 9)

/-- The part that serves it. -/
def greeted : Surroundings :=
  commanded otherHello

/-- A session opens, and its first capture is streamed and completed. -/
def captureStreamed : List Surroundings :=
  firstSegmentSent ++ (List.replicate 3 (turn true calm)).flatten ++
    beforeTraffic true

/-- Another session does the same, and starts a schedule. -/
def captureScheduled : List Surroundings :=
  turn false (commanded (Request.helloFrame 1 (Id16.ofByte 5))) ++
    turn true
        (commanded
          (Request.captureOnceFrame 3 (Id16.ofByte 6)
            ConfigV2.initD10x4)) ++
      (List.replicate 4 (turn true calm)).flatten ++
        turn true (commanded Request.startDefault.val) ++ beforeTraffic true

/-- The new session takes a capture and streams it. -/
def nextCapture : List Surroundings :=
  turn true
      (commanded
        (Request.captureOnceFrame 8 (Id16.ofByte 4) ConfigV2.initD10x4)) ++
    (List.replicate 4 (turn true calm)).flatten

instance (app : App) (request : Mcu.FrameView) :
    Decidable (app.OpensSession request) :=
  decidable_of_iff
    (request.flags = 0 ∧ request.messageType = Message.hello ∧
      (app.helloEstablished = true →
        app.hostNonce ≠ App.requestId request))
    ⟨fun ⟨flags, hello, other⟩ => ⟨flags, hello, other⟩,
      fun opens => ⟨opens.flags, opens.hello, opens.other⟩⟩

instance (left right : App) : Decidable (App.OpenAlike left right) :=
  decidable_of_iff
    (left.hostNonce = right.hostNonce ∧ left.deviceId = right.deviceId ∧
      left.resetReason = right.resetReason ∧ left.config = right.config ∧
      left.configValid = right.configValid ∧ left.state = right.state ∧
      left.captureSequence = right.captureSequence ∧
      left.lastError = right.lastError ∧
      left.lastTussDevStat = right.lastTussDevStat ∧
      left.clockFaultFlags = right.clockFaultFlags)
    ⟨fun ⟨nonce, device, reset, config, valid, state, sequence, error, stat,
        flags⟩ =>
      ⟨nonce, device, reset, config, valid, state, sequence, error, stat,
        flags⟩,
      fun alike =>
        ⟨alike.hostNonce, alike.deviceId, alike.resetReason, alike.config,
          alike.configValid, alike.state, alike.captureSequence,
          alike.lastError, alike.lastTussDevStat, alike.clockFaultFlags⟩⟩

instance (loop : MainLoop) (around : Surroundings) (request : Mcu.FrameView) :
    Decidable (loop.Greets around request) :=
  decidable_of_iff
    (¬loop.Sends around ∧ loop.Serves around ∧
      (UsbLink.receive loop.parser around.received).2.2 = some request ∧
      loop.app.OpensSession request ∧ around.sendResult = .started)
    ⟨fun ⟨waits, serves, received, opens, taken⟩ =>
        ⟨waits, serves, received, opens, taken⟩,
      fun greets =>
        ⟨greets.waits, greets.serves, greets.received, greets.opens,
          greets.taken⟩⟩

/-- A run from the boot that reads nothing twice with two results reaches its
last loop. -/
theorem reachable_booted
    {inputs : List Surroundings}
    (steady :
      EveryStep (fun _ part => ¬part.source.Rereads part.input)
        (machine.trace booted inputs)) :
    (machine.after booted inputs).Reachable :=
  ⟨_, _, _, _, _, _, _, _, inputs, steady, rfl⟩

set_option maxRecDepth 100000 in
/-- The part serves the HELLO after a streamed capture. -/
theorem captureStreamed_greets :
    (machine.after booted captureStreamed).Greets greeted otherHello := by
  decide +kernel

set_option maxRecDepth 100000 in
/-- The part serves the HELLO after another session. -/
theorem captureScheduled_greets :
    (machine.after booted captureScheduled).Greets greeted otherHello := by
  decide +kernel

set_option maxRecDepth 100000 in
/-- Both sessions open alike. -/
theorem greeted_openAlike :
    App.OpenAlike
      (machine.event (machine.after booted captureStreamed)
        greeted).target.app
      (machine.event (machine.after booted captureScheduled)
        greeted).target.app := by
  decide +kernel

set_option maxRecDepth 100000 in
/-- The same host sees a session after a session with one capture and one after
a session with another capture and a running schedule alike. -/
theorem sessions_isolated_scheduled :
    (machine.trace
        (machine.event (machine.after booted captureStreamed) greeted).target
        nextCapture).map observed =
      (machine.trace
        (machine.event (machine.after booted captureScheduled) greeted).target
        nextCapture).map observed := by
  have leftReachable : (machine.after booted captureStreamed).Reachable :=
    reachable_booted (by decide +kernel)
  have rightReachable : (machine.after booted captureScheduled).Reachable :=
    reachable_booted (by decide +kernel)
  have leftSteady :
      ¬(machine.after booted captureStreamed).Rereads greeted := by
    decide +kernel
  have rightSteady :
      ¬(machine.after booted captureScheduled).Rereads greeted := by
    decide +kernel
  have stays : ∀ around ∈ nextCapture, around.sessionReady = true := by
    decide
  exact sessions_isolated leftReachable rightReachable leftSteady rightSteady
    captureStreamed_greets captureScheduled_greets greeted_openAlike
    nextCapture (.inr stays)

/-- The HELLO is served after the last part has found the session closed. -/
def regreeted : Surroundings :=
  { greeted with sessionReady := false }

/-- The first segment of a capture has been sent, and the rest has not. -/
def firstSegmentCompleted : List Surroundings :=
  firstSegmentSent ++ beforeTraffic true

set_option maxRecDepth 100000 in
/-- The part serves the HELLO while the stream is under way. -/
theorem firstSegmentCompleted_greets :
    (machine.after booted firstSegmentCompleted).Greets regreeted
      otherHello := by
  decide +kernel

set_option maxRecDepth 100000 in
/-- Both sessions open alike. -/
theorem regreeted_openAlike :
    App.OpenAlike
      (machine.event (machine.after booted captureStreamed)
        greeted).target.app
      (machine.event (machine.after booted firstSegmentCompleted)
        regreeted).target.app := by
  decide +kernel

set_option maxRecDepth 100000 in
/-- What is handed over in the two sessions is of different lengths: the second
one never hands over the header of its first capture. -/
theorem regreeted_lengths :
    ((machine.trace
          (machine.event (machine.after booted captureStreamed)
            greeted).target
          nextCapture).map observed).filterMap
          (fun seen => seen.2.map List.length) =
        [44, 16, 208, 4096, 4] ∧
      ((machine.trace
          (machine.event (machine.after booted firstSegmentCompleted)
            regreeted).target
          nextCapture).map observed).filterMap
          (fun seen => seen.2.map List.length) =
        [44, 208, 4096, 4] := by
  decide +kernel

set_option maxRecDepth 100000 in
/-- A session that is opened while the stream of another one is under way is
seen differently from one that opens alike afterwards. -/
theorem not_isolated_regreeted :
    (machine.after booted captureStreamed).Greets greeted otherHello ∧
      (machine.after booted firstSegmentCompleted).Greets regreeted
          otherHello ∧
        App.OpenAlike
            (machine.event (machine.after booted captureStreamed)
              greeted).target.app
            (machine.event (machine.after booted firstSegmentCompleted)
              regreeted).target.app ∧
          (∀ around ∈ nextCapture, around.sessionReady = true) ∧
            (machine.trace
                  (machine.event (machine.after booted captureStreamed)
                    greeted).target
                  nextCapture).map observed ≠
              (machine.trace
                  (machine.event (machine.after booted firstSegmentCompleted)
                    regreeted).target
                  nextCapture).map observed := by
  refine ⟨captureStreamed_greets, firstSegmentCompleted_greets,
    regreeted_openAlike, by decide, fun same => ?_⟩
  obtain ⟨left, right⟩ := regreeted_lengths
  rw [same, right] at left
  exact absurd left (by decide)

end MainLoop

end Usac.Firmware
