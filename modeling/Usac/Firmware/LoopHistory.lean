import Usac.Firmware.MainLoop
import Usac.Library.Refinement

namespace Usac.Firmware

open Library CaptureStream

/-!
# The main loop told by its board

What matters of a run of the main loop to the application is which operations
it performs, which frames have been handed over as a whole, and when a capture
is not pending any more. Told by these turns, a run is a run of the application
on its board, as long as the condition of the last part is not read twice with
two results. The frame of a capture is what has really been handed over, segment
by segment, since its stream was initialized.
-/

namespace MainLoop

/-- The board of the loop. The frame has been handed over when its last segment
is in flight. -/
def board (loop : MainLoop) : Board where
  app := loop.app
  waveform := loop.waveform
  sent :=
    loop.captureStreamStarted &&
      (loop.captureTx.state == .inFlight && loop.captureTx.stream.phase == 3)

/-- The part sends a segment of the pending capture. -/
def Sends (loop : MainLoop) (around : Surroundings) : Prop :=
  loop.stage = .traffic ∧ around.connected = true ∧
    around.sessionReady = true ∧ loop.txInFlight = false ∧
      loop.app.capturePending = true

instance (loop : MainLoop) (around : Surroundings) :
    Decidable (loop.Sends around) :=
  inferInstanceAs (Decidable (_ ∧ _))

/-- The part looks for a command. -/
def Serves (loop : MainLoop) (around : Surroundings) : Prop :=
  loop.stage = .traffic ∧ around.connectedAgain = true ∧
    around.sessionReadyAgain = true ∧ loop.txInFlight = false ∧
      around.dataPending = true

instance (loop : MainLoop) (around : Surroundings) :
    Decidable (loop.Serves around) :=
  inferInstanceAs (Decidable (_ ∧ _))

/-- The loop with the stream of the pending capture initialized. -/
def streaming (loop : MainLoop) : MainLoop :=
  if loop.captureStreamStarted = false then
    loop.initializePendingCaptureStream
  else
    loop

/-- The operations of the application while a segment is sent. -/
def segmentOperations
    (loop : MainLoop)
    (around : Surroundings) :
    List App.Input :=
  match loop.streaming.transfer.peek with
  | none =>
      if loop.streaming.captureTx.state = .failed then
        [.endSession around.endHardware]
      else
        []
  | some _ =>
      if around.sendResult = .failed then
        [.endSession around.endHardware]
      else
        []

/-- The operations of the application while a command is served. -/
def commandOperations
    (loop : MainLoop)
    (around : Surroundings) :
    List App.Input :=
  match (UsbLink.receive loop.parser around.received).2.2 with
  | none => []
  | some view =>
      if accepted : view.Accepted then
        let response :=
          (loop.app.handle view App.responseCapacity
            around.hardware).response
        .handle ⟨view, accepted⟩ around.hardware ::
          if response.isSome ∧ around.sendResult ≠ .started then
            [.endSession around.endHardware]
          else
            []
      else
        []

/-- The operations of the application in one part of the body. -/
def operations
    (loop : MainLoop)
    (around : Surroundings) :
    List App.Input :=
  match loop.stage with
  | .time =>
      if around.elapsedQuanta = 0 then
        []
      else
        [.advanceTime (around.elapsedQuanta.toUInt32 * aclkQuantumUs)
          around.hardware]
  | .clock => [.updateClockFaults around.clockFaultFlags around.hardware]
  | .session =>
      if around.sessionReady = false ∧ loop.previousSessionReady = true then
        [.endSession around.endHardware]
      else
        []
  | .completion => []
  | .frameTimeout => []
  | .periodic =>
      if around.sessionReady = true ∧ loop.app.periodicDue = true then
        [.runPeriodicCapture around.hardware]
      else
        []
  | .traffic =>
      if loop.Sends around then
        loop.segmentOperations around
      else if loop.Serves around then
        loop.commandOperations around
      else
        []

/-- The segments handed over since the stream was initialized. -/
def segmentsAfter
    (segments : List (List UInt8))
    (part : Part) :
    List (List UInt8) :=
  if part.target.captureStreamStarted = false then
    []
  else if part.source.Sends part.input then
    segments ++ part.output.handed.toList
  else
    segments

/-- The turn in which a frame has been handed over as a whole. -/
def streamTurn (loop : MainLoop) (frame : List UInt8) : Board.Turn where
  source := loop.board
  input := .stream
  output := { Board.Output.silent with streamed := some frame }
  target := loop.board.handedOver

/-- The part hands over the last segment of a frame. -/
def HandsOver (segments : List (List UInt8)) (part : Part) : Prop :=
  part.source.Sends part.input ∧ part.output.handed.isSome = true ∧
    (segmentsAfter segments part).length = 4

instance (segments : List (List UInt8)) (part : Part) :
    Decidable (HandsOver segments part) :=
  inferInstanceAs (Decidable (_ ∧ _))

/-- The part notes the completion of the last segment. -/
def Releases (part : Part) : Prop :=
  part.source.stage = .completion ∧ part.source.app.capturePending = true ∧
    part.target.app.capturePending = false

instance (part : Part) : Decidable (Releases part) :=
  inferInstanceAs (Decidable (_ ∧ _))

/-- The turns of the board in one part of the body. -/
def turnsOf
    (segments : List (List UInt8))
    (part : Part) :
    List Board.Turn :=
  if HandsOver segments part then
    [part.source.streamTurn (segmentsAfter segments part).flatten]
  else if Releases part then
    [Board.machine.event part.source.board .release]
  else
    Board.machine.trace part.source.board
      ((part.source.operations part.input).map .operate)

/-- The run as its board tells it, with the segments of the current stream to
remember. -/
def narrator : Narrator (List (List UInt8)) Part Board.Turn where
  initial := []
  tell := turnsOf
  remember := segmentsAfter

/-- The turns of the board over a run of the main loop. -/
def history (parts : List Part) : List Board.Turn :=
  narrator.told parts

/-! ## One part is a run of the board -/

/-- A transfer that is under way has handed over the segments of its capture
up to the phase of its stream. -/
structure Transit (segments : List (List UInt8)) (loop : MainLoop) :
    Prop where
  pending : loop.app.capturePending = true
  parts :
    loop.transfer.stream.parts =
      (Segments.init (Board.descriptor loop.app) loop.waveform).parts
  active : loop.captureTx.stream.active = true
  phase : loop.captureTx.stream.phase < 4
  state :
    loop.captureTx.state = .ready ∧
        segments =
          loop.transfer.stream.parts.take
            loop.captureTx.stream.phase.toNat ∨
      loop.captureTx.state = .inFlight ∧
        segments =
          loop.transfer.stream.parts.take
            (loop.captureTx.stream.phase.toNat + 1)

/-- What is remembered of a run agrees with the state of the loop. -/
structure Tells (segments : List (List UInt8)) (loop : MainLoop) :
    Prop where
  parser : loop.parser.WellFormed
  idle : loop.captureStreamStarted = false → segments = []
  transit : loop.captureStreamStarted = true → Transit segments loop

/-- The turns are a run of the board between the two states of the part, in
which every command waits, with the callbacks of the part. -/
def Explained (part : Part) (turns : List Board.Turn) : Prop :=
  Board.machine.Explains Board.Waits (fun turn => turn.output.calls)
    part.source.board part.target.board turns part.output.calls

/-- The part is told by a run of the board, and what is remembered of it agrees
with its last state. -/
structure Told (segments : List (List UInt8)) (part : Part) : Prop where
  tells : Tells (segmentsAfter segments part) part.target
  explained : Explained part (turnsOf segments part)

variable {segments : List (List UInt8)} {loop next : MainLoop}
  {around : Surroundings}

/-- An operation of the board is one of the loop. -/
theorem operate_board
    {input : App.Input}
    (app : next.app = (loop.app.perform input).app)
    (waveform :
      next.waveform =
        Board.waveformAfter loop.waveform (loop.app.perform input).calls)
    (sent :
      next.board.sent =
        (loop.board.sent && (loop.app.perform input).app.capturePending)) :
    (loop.board.operate input).1 = next.board := by
  simp only [Board.operate, board, Board.mk.injEq] at sent ⊢
  exact ⟨app.symm, waveform.symm, sent.symm⟩

/-- A board is its application, its waveform and its flag. -/
theorem board_congr
    (app : next.app = loop.app)
    (waveform : next.waveform = loop.waveform)
    (sent : next.board.sent = loop.board.sent) :
    next.board = loop.board := by
  simp only [board, Board.mk.injEq] at sent ⊢
  exact ⟨app, waveform, sent⟩

/-- Nothing has been handed over where no stream was initialized. -/
theorem board_unsent
    (ended : loop.captureStreamStarted = false) :
    loop.board.sent = false := by
  simp [board, ended]

/-- A part without a hand-over or a release is told by its operations. -/
theorem turnsOf_operations
    {part : Part}
    (holds : ¬HandsOver segments part)
    (keeps : ¬Releases part) :
    turnsOf segments part =
      Board.machine.trace part.source.board
        ((part.source.operations part.input).map Board.Input.operate) := by
  rw [turnsOf, if_neg holds, if_neg keeps]

/-- A part that invokes nothing and keeps its board is told by no turn. -/
theorem Explained.silent
    {part : Part}
    (board : part.target.board = part.source.board)
    (calls : part.output.calls = []) :
    Explained part [] := by
  rw [Explained, board, calls]
  exact .nil

/-- One operation is a run of the board. -/
theorem explains_operate
    {source target : Board}
    {input : App.Input}
    (reached : (source.operate input).1 = target)
    (waits :
      ∀ request hardware,
        input = .handle request hardware →
          source.app.capturePending = false) :
    Board.machine.Explains Board.Waits (fun turn => turn.output.calls) source
      target [Board.machine.event source (.operate input)]
      (source.app.perform input).calls := by
  rw [← reached]
  exact .single (Board.Input.operate input) fun request hardware shape =>
    waits request hardware (Board.Input.operate.inj shape)

/-- A part that performs one operation is told by its turn. -/
theorem Explained.operated
    {part : Part}
    {input : App.Input}
    (reached : (part.source.board.operate input).1 = part.target.board)
    (calls : (part.source.app.perform input).calls = part.output.calls)
    (waits :
      ∀ request hardware,
        input = .handle request hardware →
          part.source.app.capturePending = false) :
    Explained part
      (Board.machine.trace part.source.board [.operate input]) := by
  rw [Explained, ← calls]
  exact explains_operate reached waits

/-- Where no stream is left, nothing is remembered. -/
theorem segmentsAfter_ended
    {part : Part}
    (ended : part.target.captureStreamStarted = false) :
    segmentsAfter segments part = [] :=
  if_pos ended

/-- A part that sends nothing and keeps the stream changes no memory. -/
theorem Tells.segmentsAfter_eq
    {part : Part}
    (tells : Tells segments part.source)
    (sends : ¬part.source.Sends part.input)
    (started :
      part.target.captureStreamStarted =
        part.source.captureStreamStarted) :
    segmentsAfter segments part = segments := by
  unfold segmentsAfter
  split_ifs with ended
  · exact (tells.idle (started.symm.trans ended)).symm
  · rfl

/-- A transfer stays where it is while its capture and its samples do. -/
theorem Tells.kept
    (tells : Tells segments loop)
    (parser : next.parser.WellFormed)
    (started : next.captureStreamStarted = loop.captureStreamStarted)
    (pending : next.app.capturePending = loop.app.capturePending)
    (descriptor : Board.descriptor next.app = Board.descriptor loop.app)
    (waveform : next.waveform = loop.waveform)
    (captureTx : next.captureTx = loop.captureTx) :
    Tells segments next where
  parser := parser
  idle ended := tells.idle (started.symm.trans ended)
  transit running := by
    have transit := tells.transit (started.symm.trans running)
    have transfer : next.transfer = loop.transfer := by
      rw [MainLoop.transfer, captureTx, waveform]
      rfl
    exact {
      pending := pending.trans transit.pending
      parts := by rw [transfer, descriptor, waveform]; exact transit.parts
      active := by rw [captureTx]; exact transit.active
      phase := by rw [captureTx]; exact transit.phase
      state := by rw [captureTx, transfer]; exact transit.state
    }

/-- Nothing is to be told where no stream is left. -/
theorem Tells.ended
    (parser : loop.parser.WellFormed)
    (ended : loop.captureStreamStarted = false) :
    Tells [] loop where
  parser := parser
  idle _ := rfl
  transit started := absurd (ended.symm.trans started) Bool.false_ne_true

/-- A part in which nothing happens to the application, the waveform and the
transfer is told by no turn. -/
theorem Told.quiet
    {part : Part}
    (tells : Tells segments part.source)
    (sends : ¬part.source.Sends part.input)
    (operations : part.source.operations part.input = [])
    (parser : part.target.parser.WellFormed)
    (app : part.target.app = part.source.app)
    (waveform : part.target.waveform = part.source.waveform)
    (captureTx : part.target.captureTx = part.source.captureTx)
    (started :
      part.target.captureStreamStarted = part.source.captureStreamStarted)
    (calls : part.output.calls = []) :
    Told segments part where
  tells := by
    rw [tells.segmentsAfter_eq sends started]
    exact tells.kept parser started (by rw [app]) (by rw [app]) waveform
      captureTx
  explained := by
    have keeps : ¬Releases part := by
      rintro ⟨-, pending, released⟩
      rw [app, pending] at released
      cases released
    rw [turnsOf_operations (fun holds => sends holds.1) keeps, operations]
    exact .silent (by simp only [board, app, waveform, captureTx, started])
      calls

/-- Time and clock faults leave the description of a capture alone. -/
theorem descriptor_kept
    {app next : App}
    {input : App.Input}
    {calls : List Invocation}
    (effect : App.Effect app input next calls)
    (passes :
      (∃ elapsedUs hardware, input = .advanceTime elapsedUs hardware) ∨
        ∃ flags hardware, input = .updateClockFaults flags hardware) :
    Board.descriptor next = Board.descriptor app := by
  cases effect with
  | timePassed | leaseExpired | clockQuiet | clockLatched =>
      rfl
  | handled | periodicIdle | periodicNotApplied | periodicFailed |
    periodicTaken | ended =>
      simp at passes

/-- A part that only performs an operation which measures nothing and keeps a
pending capture and its description is told by the turn of the operation. -/
theorem Told.passed
    {part : Part}
    {input : App.Input}
    (tells : Tells segments part.source)
    (stage : part.source.stage ≠ .traffic)
    (operations : part.source.operations part.input = [input])
    (passes :
      (∃ elapsedUs hardware, input = .advanceTime elapsedUs hardware) ∨
        ∃ flags hardware, input = .updateClockFaults flags hardware)
    (pending :
      (part.source.app.perform input).app.capturePending =
        part.source.app.capturePending)
    (nothing : MeasuresNothing (part.source.app.perform input).calls)
    (target :
      part.target =
        { part.source.operated (part.source.app.perform input) with
          stage := part.source.stage.next })
    (calls : part.output.calls = (part.source.app.perform input).calls) :
    Told segments part := by
  have sends : ¬part.source.Sends part.input := fun sends => stage sends.1
  have started :
      part.target.captureStreamStarted =
        part.source.captureStreamStarted := by
    rw [target]
    rfl
  have waveform : part.target.waveform = part.source.waveform := by
    rw [target]
    exact nothing.waveformAfter _
  have app : part.target.app = (part.source.app.perform input).app := by
    rw [target]
    rfl
  constructor
  · rw [tells.segmentsAfter_eq sends started]
    refine tells.kept ?_ started ?_ ?_ waveform ?_
    · rw [target]
      exact tells.parser
    · rw [app, pending]
    · rw [app]
      exact descriptor_kept (App.perform_effect _ _) passes
    · rw [target]
      rfl
  · have keeps : ¬Releases part := by
      rintro ⟨-, before, after⟩
      rw [app, pending, before] at after
      cases after
    rw [turnsOf_operations (fun holds => sends holds.1) keeps, operations]
    refine .operated (operate_board app ?_ ?_) calls.symm ?_
    · rw [target]
      rfl
    · have sent :
          part.target.board.sent = part.source.board.sent := by
        rw [target]
        rfl
      rw [sent, pending]
      cases running : part.source.captureStreamStarted with
      | false => simp [board_unsent running]
      | true => simp [(tells.transit running).pending]
    · rintro request hardware rfl
      simp at passes

/-- The end of a session leaves the waveform alone. -/
theorem sessionEnded_waveform
    (loop : MainLoop)
    (hardware : Hardware) :
    (loop.sessionEnded hardware).waveform = loop.waveform := by
  have nothing : MeasuresNothing (loop.app.endSession hardware).calls :=
    .forceSafe _ _
  exact nothing.waveformAfter loop.waveform

/-- A part that only ends the session is told by that turn. -/
theorem Told.ended
    {part : Part}
    {hardware : Hardware}
    (stage : part.source.stage ≠ .completion)
    (handed : part.output.handed = none)
    (operations :
      part.source.operations part.input = [.endSession hardware])
    (parser : part.target.parser.WellFormed)
    (app : part.target.app = (part.source.app.endSession hardware).app)
    (waveform : part.target.waveform = part.source.waveform)
    (ended : part.target.captureStreamStarted = false)
    (calls : part.output.calls = (part.source.app.endSession hardware).calls) :
    Told segments part where
  tells := by
    rw [segmentsAfter_ended ended]
    exact .ended parser ended
  explained := by
    have holds : ¬HandsOver segments part := by
      rintro ⟨-, some, -⟩
      rw [handed] at some
      cases some
    rw [turnsOf_operations holds fun releases => stage releases.1, operations]
    refine .operated (operate_board app ?_ ?_) calls.symm
      (fun _ _ same => by cases same)
    · rw [waveform]
      exact (part.source.sessionEnded_waveform hardware).symm
    · have idle :
          (part.source.app.endSession hardware).app.capturePending =
            false := by
        simp [App.endSession, App.cleared, apply_ite App.capturePending]
      rw [board_unsent ended]
      simp [App.perform, idle]

/-- The part in which time passes is told by its turn. -/
theorem told_time
    (tells : Tells segments loop)
    (stage : loop.stage = .time) :
    Told segments (machine.event loop around) := by
  by_cases still : around.elapsedQuanta = 0
  · have ran : loop.run around = (loop, Effects.silent) := by
      simp [run, stage, still]
    refine Told.quiet tells (fun sends => ?_) ?_ ?_ ?_ ?_ ?_ ?_ ?_
    · exact absurd (stage.symm.trans sends.1) (by decide)
    · simp [operations, stage, still]
    all_goals simp only [Machine.event, machine, ran]
    · exact tells.parser
    · rfl
  · obtain ⟨pending, nothing⟩ :=
      advanceTime_kept loop.app
        (around.elapsedQuanta.toUInt32 * aclkQuantumUs) around.hardware
    refine Told.passed tells (fun traffic => ?_) ?_ (.inl ⟨_, _, rfl⟩) pending
      nothing ?_ ?_
    · exact absurd (stage.symm.trans traffic) (by decide)
    · simp [operations, stage, still]
    all_goals simp [Machine.event, machine, run, stage, still, App.perform]

/-- The part in which clock faults are read is told by its turn. -/
theorem told_clock
    (tells : Tells segments loop)
    (stage : loop.stage = .clock) :
    Told segments (machine.event loop around) := by
  obtain ⟨pending, nothing⟩ :=
    updateClockFaults_kept loop.app around.clockFaultFlags around.hardware
  refine Told.passed tells (fun traffic => ?_) ?_ (.inr ⟨_, _, rfl⟩) pending
    nothing ?_ ?_
  · exact absurd (stage.symm.trans traffic) (by decide)
  · simp [operations, stage]
  all_goals simp [Machine.event, machine, run, stage, App.perform]

/-- The part that notices the end of a session is told by that turn. -/
theorem told_session
    (tells : Tells segments loop)
    (stage : loop.stage = .session) :
    Told segments (machine.event loop around) := by
  have other : loop.stage ≠ .traffic := by simp [stage]
  by_cases ends :
      around.sessionReady = false ∧ loop.previousSessionReady = true
  · have performed :
        loop.operations around = [.endSession around.endHardware] := by
      simp [operations, stage, ends.1, ends.2]
    refine Told.ended (by simp [stage]) ?_ performed ?_ ?_ ?_ ?_ ?_
    all_goals
      simp only [Machine.event, machine, run, stage, runSession, ends.1,
        ends.2, if_true]
    · exact Mcu.Parser.init_wellFormed
    · rfl
    · exact sessionEnded_waveform _ _
    · rfl
  · have kept :
        (loop.runSession around).2 = Effects.silent ∧
          ∃ ready,
            (loop.runSession around).1 =
              { loop with previousSessionReady := ready } := by
      unfold runSession
      split_ifs with closed before
      · exact absurd ⟨closed, before⟩ ends
      · exact ⟨rfl, _, rfl⟩
      · exact ⟨rfl, _, rfl⟩
    obtain ⟨silent, ready, same⟩ := kept
    refine Told.quiet tells (fun sends => other sends.1) ?_ ?_ ?_ ?_ ?_ ?_ ?_
    · simp only [Machine.event_source, Machine.event_input, operations, stage]
      exact if_neg ends
    all_goals
      simp only [Machine.event, machine, run, stage, same, silent]
    · exact tells.parser
    · rfl

/-- The part that notices a parser timeout is told by no turn. -/
theorem told_frameTimeout
    (tells : Tells segments loop)
    (stage : loop.stage = .frameTimeout) :
    Told segments (machine.event loop around) := by
  have other : loop.stage ≠ .traffic := by simp [stage]
  refine Told.quiet tells (fun sends => other sends.1)
    (by simp [operations, stage]) ?_ ?_ ?_ ?_ ?_ ?_
  all_goals
    simp only [Machine.event, machine, run, stage]
    split_ifs
  · exact Mcu.Parser.init_wellFormed
  · exact tells.parser
  all_goals rfl

/-- A part that performs one operation without a stream is told by its turn. -/
theorem Told.operated
    {part : Part}
    {input : App.Input}
    (stage : part.source.stage ≠ .completion)
    (operations : part.source.operations part.input = [input])
    (parser : part.target.parser.WellFormed)
    (before : part.source.captureStreamStarted = false)
    (after : part.target.captureStreamStarted = false)
    (app : part.target.app = (part.source.app.perform input).app)
    (waveform :
      part.target.waveform =
        Board.waveformAfter part.source.waveform
          (part.source.app.perform input).calls)
    (calls : part.output.calls = (part.source.app.perform input).calls)
    (waits :
      ∀ request hardware,
        input = .handle request hardware →
          part.source.app.capturePending = false) :
    Told segments part where
  tells := by
    rw [segmentsAfter_ended after]
    exact .ended parser after
  explained := by
    have holds : ¬HandsOver segments part := by
      rintro ⟨-, -, four⟩
      rw [segmentsAfter_ended after] at four
      cases four
    rw [turnsOf_operations holds fun releases => stage releases.1, operations]
    refine .operated (operate_board app waveform ?_) calls.symm waits
    rw [board_unsent before, board_unsent after, Bool.false_and]

/-- Without a pending capture there is no stream. -/
theorem Tells.unstreamed
    (tells : Tells segments loop)
    (free : loop.app.capturePending = false) :
    loop.captureStreamStarted = false := by
  by_contra started
  have pending := (tells.transit (by simpa using started)).pending
  exact Bool.false_ne_true (free.symm.trans pending)

/-- The part that runs a due periodic capture is told by its turn. -/
theorem told_periodic
    (tells : Tells segments loop)
    (stage : loop.stage = .periodic) :
    Told segments (machine.event loop around) := by
  by_cases due :
      around.sessionReady = true ∧ loop.app.periodicDue = true
  · have free := (runPeriodicCapture_free loop.app around.hardware due.2).1
    have performed :
        loop.operations around = [.runPeriodicCapture around.hardware] := by
      simp [operations, stage, due.1, due.2]
    have ran :
        loop.run around =
          (loop.operated (loop.app.runPeriodicCapture around.hardware),
            ⟨(loop.app.runPeriodicCapture around.hardware).calls, none⟩) := by
      simp [run, stage, due.1, due.2]
    refine Told.operated (by simp [stage]) performed ?_
      (tells.unstreamed free) ?_ ?_ ?_ ?_ (fun _ _ same => by cases same)
    all_goals simp only [Machine.event, machine, ran]
    · exact tells.parser
    · exact tells.unstreamed free
    all_goals rfl
  · have ran : loop.run around = (loop, Effects.silent) := by
      simp only [run, stage, if_neg due]
    refine Told.quiet tells (fun sends => ?_) ?_ ?_ ?_ ?_ ?_ ?_ ?_
    · exact absurd (stage.symm.trans sends.1) (by decide)
    · simp only [Machine.event_source, Machine.event_input, operations, stage]
      exact if_neg due
    all_goals simp only [Machine.event, machine, ran]
    · exact tells.parser
    · rfl

/-- The completion of a segment in flight commits it. -/
theorem onSendCompleted_eq
    {tx : CaptureTx}
    (inFlight : tx.state = .inFlight)
    (active : tx.stream.active = true)
    (phase : tx.stream.phase < 4) :
    tx.onSendCompleted =
      { stream :=
          { tx.stream with
            phase := tx.stream.phase + 1
            active := decide (tx.stream.phase + 1 < 4) }
        state :=
          if tx.stream.phase + 1 < 4 then .ready else .complete } := by
  rw [CaptureTx.onSendCompleted, if_neg (by simp [inFlight]),
    Segments.commit_eq active phase]
  simp

/-- A phase that is not the last one counts up. -/
theorem phase_add_one
    {phase : UInt8}
    (before : phase < 4)
    (more : phase + 1 < 4) :
    (phase + 1).toNat = phase.toNat + 1 ∧ phase ≠ 3 := by
  rcases Segments.phase_cases before with rfl | rfl | rfl | rfl
  · decide
  · decide
  · decide
  · exact absurd more (by decide)

/-- A transfer whose segment is completed is ready for the next one. -/
theorem Transit.committed
    (transit : Transit segments loop)
    (inFlight : loop.captureTx.state = .inFlight)
    (more : loop.captureTx.stream.phase + 1 < 4)
    (app : next.app = loop.app)
    (waveform : next.waveform = loop.waveform)
    (captureTx : next.captureTx = loop.transfer.onSendCompleted) :
    Transit segments next := by
  have committed :=
    @onSendCompleted_eq loop.transfer inFlight transit.active transit.phase
  have parts : next.transfer.stream.parts = loop.transfer.stream.parts :=
    parts_transfer waveform (by
      rw [captureTx]
      exact CaptureTx.parts_onSendCompleted _)
  have phase :
      next.captureTx.stream.phase = loop.captureTx.stream.phase + 1 := by
    rw [captureTx, committed]
    rfl
  have counted := phase_add_one transit.phase more
  exact {
    pending := by rw [app]; exact transit.pending
    parts := by rw [parts, app, waveform]; exact transit.parts
    active := by
      rw [captureTx, committed]
      exact decide_eq_true more
    phase := by rw [phase]; exact more
    state := by
      left
      rcases transit.state with ⟨ready, -⟩ | ⟨-, taken⟩
      · exact absurd (inFlight.symm.trans ready) (by decide)
      · refine ⟨?_, ?_⟩
        · rw [captureTx, committed]
          exact if_pos more
        · rw [parts, phase, counted.1]
          exact taken
  }

/-- The completion of a segment before the last one is told by no turn. -/
theorem told_committed
    {part : Part}
    (tells : Tells segments part.source)
    (operations : part.source.operations part.input = [])
    (sends : ¬part.source.Sends part.input)
    (started : part.source.captureStreamStarted = true)
    (inFlight : part.source.captureTx.state = .inFlight)
    (more : part.source.captureTx.stream.phase + 1 < 4)
    (target :
      part.target =
        { part.source with
          stage := part.source.stage.next
          captureTx := part.source.transfer.onSendCompleted
          txInFlight := false })
    (calls : part.output.calls = []) :
    Told segments part := by
  have transit := tells.transit started
  have committed :=
    @onSendCompleted_eq part.source.transfer inFlight transit.active
      transit.phase
  have kept :
      part.target.captureStreamStarted =
        part.source.captureStreamStarted := by
    rw [target]
  constructor
  · rw [tells.segmentsAfter_eq sends kept]
    refine ⟨?_, fun ended => ?_, fun _ => ?_⟩
    · rw [target]
      exact tells.parser
    · exact absurd (ended.symm.trans (kept.trans started)) Bool.false_ne_true
    · exact transit.committed inFlight more (by rw [target]) (by rw [target])
        (by rw [target])
  · have keeps : ¬Releases part := by
      rintro ⟨-, pending, released⟩
      rw [target, pending] at released
      cases released
    rw [turnsOf_operations (fun holds => sends holds.1) keeps, operations]
    refine .silent ?_ calls
    have before : (part.source.captureTx.stream.phase == 3) = false :=
      beq_false_of_ne (phase_add_one transit.phase more).2
    have ready : part.source.transfer.onSendCompleted.state = .ready := by
      rw [committed]
      exact if_pos more
    simp only [board, target, started, inFlight, before, ready]
    rfl

/-- The completion of the last segment is told by the release of the
capture. -/
theorem told_released
    {part : Part}
    (tells : Tells segments part.source)
    (stage : part.source.stage = .completion)
    (started : part.source.captureStreamStarted = true)
    (inFlight : part.source.captureTx.state = .inFlight)
    (last : ¬part.source.captureTx.stream.phase + 1 < 4)
    (target :
      part.target =
        { part.source.released with
          stage := part.source.stage.next
          captureTx := part.source.transfer.onSendCompleted
          txInFlight := false })
    (calls : part.output.calls = []) :
    Told segments part := by
  have transit := tells.transit started
  have third : part.source.captureTx.stream.phase = 3 := by
    rcases Segments.phase_cases transit.phase with phase | phase | phase |
      phase
    · exact absurd (by rw [phase]; decide) last
    · exact absurd (by rw [phase]; decide) last
    · exact absurd (by rw [phase]; decide) last
    · exact phase
  have ended : part.target.captureStreamStarted = false := by
    rw [target]
    rfl
  have pending : part.source.board.app.capturePending = true := transit.pending
  have sent : part.source.board.sent = true := by
    simp [board, started, inFlight, third]
  constructor
  · rw [segmentsAfter_ended ended]
    refine .ended ?_ ended
    rw [target]
    exact tells.parser
  · have holds : ¬HandsOver segments part := by
      rintro ⟨sends, -⟩
      exact absurd (stage.symm.trans sends.1) (by decide)
    have releases : Releases part :=
      ⟨stage, transit.pending, by rw [target]; rfl⟩
    have step :
        Board.machine.step part.source.board .release =
          (part.source.board.released, Board.Output.silent) :=
      if_pos ⟨pending, sent⟩
    rw [turnsOf, if_neg holds, if_pos releases, Explained, calls]
    have reached :
        part.target.board =
          (Board.machine.event part.source.board .release).target := by
      rw [Machine.event, step, target]
      rfl
    have nothing :
        (Board.machine.event part.source.board .release).output.calls = [] := by
      rw [Machine.event, step]
      rfl
    rw [reached, ← nothing]
    exact .single Board.Input.release fun _ _ same => by cases same

/-- The part that notes a completed send is told by the release of the
capture after the last segment, and by no turn before. -/
theorem told_completion
    (tells : Tells segments loop)
    (stage : loop.stage = .completion) :
    Told segments (machine.event loop around) := by
  have other : ¬loop.Sends around := fun sends =>
    absurd (stage.symm.trans sends.1) (by decide)
  have performed : loop.operations around = [] := by
    simp [operations, stage]
  have ran : loop.run around = (loop.runCompletion around, Effects.silent) := by
    simp [run, stage]
  have still
      (same :
        ∃ inFlight,
          loop.runCompletion around = { loop with txInFlight := inFlight }) :
      Told segments (machine.event loop around) := by
    obtain ⟨inFlight, same⟩ := same
    refine Told.quiet tells other performed ?_ ?_ ?_ ?_ ?_ ?_
    all_goals simp only [Machine.event, machine, ran, same]
    · exact tells.parser
    · rfl
  by_cases completes : around.sendComplete = false
  · exact still ⟨_, if_pos completes⟩
  by_cases flies :
      loop.captureStreamStarted = true ∧ loop.captureTx.state = .inFlight
  · obtain ⟨started, inFlight⟩ := flies
    have transit := tells.transit started
    have committed :=
      @onSendCompleted_eq loop.transfer inFlight transit.active transit.phase
    by_cases more : loop.captureTx.stream.phase + 1 < 4
    · have ready : loop.transfer.onSendCompleted.state = .ready := by
        rw [committed]
        exact if_pos more
      have same :
          loop.runCompletion around =
            { loop with
              captureTx := loop.transfer.onSendCompleted
              txInFlight := false } := by
        simp [runCompletion, completes, started, inFlight, ready]
      exact told_committed tells performed other started inFlight more
        (by simp [Machine.event, machine, ran, same, stage])
        (by simp [Machine.event, machine, ran, Effects.silent])
    · have complete : loop.transfer.onSendCompleted.state = .complete := by
        rw [committed]
        exact if_neg more
      have same :
          loop.runCompletion around =
            { loop.released with
              captureTx := loop.transfer.onSendCompleted
              txInFlight := false } := by
        simp [runCompletion, completes, started, inFlight, complete, released]
      exact told_released tells stage started inFlight more
        (by simp [Machine.event, machine, ran, same, stage])
        (by simp [Machine.event, machine, ran, Effects.silent])
  · refine still ⟨false, ?_⟩
    simp only [runCompletion, if_neg completes, if_neg flies]

/-! ## The part that sends a segment -/

@[simp] theorem streaming_app (loop : MainLoop) :
    loop.streaming.app = loop.app := by
  unfold streaming
  split_ifs <;> rfl

@[simp] theorem streaming_parserState (loop : MainLoop) :
    loop.streaming.parser = loop.parser := by
  unfold streaming
  split_ifs <;> rfl

@[simp] theorem streaming_waveform (loop : MainLoop) :
    loop.streaming.waveform = loop.waveform := by
  unfold streaming
  split_ifs <;> rfl

@[simp] theorem streaming_started (loop : MainLoop) :
    loop.streaming.captureStreamStarted = true := by
  unfold streaming
  split_ifs with ended
  · rfl
  · simpa using ended

/-- Initializing a stream hands nothing over. -/
theorem board_streaming (loop : MainLoop) :
    loop.streaming.board = loop.board := by
  unfold streaming
  split_ifs with ended
  · simp only [board, ended]
    rfl
  · rfl

/-- While the next segment is still to be taken, the frame is not handed over. -/
theorem board_unsent_of_ready
    (ready : loop.streaming.captureTx.state = .ready) :
    loop.board.sent = false := by
  rw [← board_streaming]
  simp only [board, ready]
  exact Bool.and_false _

/-- A stream is initialized before its first segment is sent. -/
theorem sendNextCaptureSegment_eq
    (loop : MainLoop)
    (around : Surroundings) :
    loop.sendNextCaptureSegment around =
      loop.streaming.sendSegment around := by
  unfold sendNextCaptureSegment streaming
  split_ifs <;> rfl

/-- The stream of a pending capture is under way once it is initialized. -/
theorem Tells.streaming
    (tells : Tells segments loop)
    (pending : loop.app.capturePending = true) :
    Transit segments loop.streaming := by
  by_cases ended : loop.captureStreamStarted = false
  · have fresh : loop.streaming = loop.initializePendingCaptureStream :=
      if_pos ended
    rw [tells.idle ended, fresh]
    exact {
      pending := pending
      parts := rfl
      active := rfl
      phase := (by decide : (0 : UInt8) < 4)
      state := .inl ⟨rfl, rfl⟩
    }
  · have same : loop.streaming = loop := if_neg ended
    rw [same]
    exact tells.transit (by simpa using ended)

/-- The segment a transfer offers is the one behind those handed over. -/
theorem Transit.offered
    (transit : Transit segments loop)
    (ready : loop.captureTx.state = .ready) :
    ∃ data,
      loop.transfer.peek = some data ∧
        segments ++ [data] =
          loop.transfer.stream.parts.take
            (loop.captureTx.stream.phase.toNat + 1) := by
  have below : loop.captureTx.stream.phase.toNat <
      loop.transfer.stream.parts.length :=
    UInt8.lt_iff_toNat_lt.1 transit.phase
  refine ⟨loop.transfer.stream.parts[loop.captureTx.stream.phase.toNat],
    ?_, ?_⟩
  · have offered : ¬loop.transfer.state ≠ .ready := not_not.2 ready
    have next :=
      @Segments.peek_eq loop.transfer.stream transit.active transit.phase
    rw [CaptureTx.peek, if_neg offered, next, List.head?_drop]
    exact List.getElem?_eq_getElem below
  · rcases transit.state with ⟨-, taken⟩ | ⟨inFlight, -⟩
    · rw [taken, List.take_add_one, List.getElem?_eq_getElem below]
      rfl
    · exact absurd (ready.symm.trans inFlight) (by decide)

/-- The part of the body in which a segment is sent. -/
theorem run_sends
    (sends : loop.Sends around) :
    loop.run around = loop.streaming.sendSegment around := by
  obtain ⟨stage, connected, ready, gate, pending⟩ := sends
  rw [run]
  simp only [stage, runTraffic]
  rw [if_pos ⟨connected, ready, gate, pending⟩, sendNextCaptureSegment_eq]

/-- The operations of the application in a part that sends a segment. -/
theorem operations_sends
    (sends : loop.Sends around) :
    loop.operations around = loop.segmentOperations around := by
  simp only [operations, sends.1]
  exact if_pos sends

/-- A part that sends a segment remembers what it has handed over, if its
stream stays. -/
theorem segmentsAfter_sends
    {part : Part}
    (sends : part.source.Sends part.input)
    (started : part.target.captureStreamStarted = true) :
    segmentsAfter segments part =
      segments ++ part.output.handed.toList := by
  rw [segmentsAfter, if_neg (by simp [started]), if_pos sends]

/-- A part that sends nothing although its turn has come is told by no
turn. -/
theorem told_waiting
    {part : Part}
    (tells : Tells segments part.source)
    (sends : part.source.Sends part.input)
    (operations : part.source.operations part.input = [])
    (transit : Transit segments part.target)
    (parser : part.target.parser = part.source.parser)
    (started : part.target.captureStreamStarted = true)
    (board : part.target.board = part.source.board)
    (handed : part.output.handed = none)
    (calls : part.output.calls = []) :
    Told segments part where
  tells := by
    rw [segmentsAfter_sends sends started, handed, Option.toList_none,
      List.append_nil]
    exact ⟨parser ▸ tells.parser,
      fun ended => absurd (ended.symm.trans started) Bool.false_ne_true,
      fun _ => transit⟩
  explained := by
    have holds : ¬HandsOver segments part := by
      rintro ⟨-, some, -⟩
      rw [handed] at some
      cases some
    have keeps : ¬Releases part := by
      rintro ⟨stage, -⟩
      exact absurd (stage.symm.trans sends.1) (by decide)
    rw [turnsOf_operations holds keeps, operations]
    exact .silent board calls

/-- The hand-over of a whole frame is a turn of the board. -/
theorem explained_streamed
    {part : Part}
    (pending : part.source.app.capturePending = true)
    (unsent : part.source.board.sent = false)
    (target : part.target.board = part.source.board.handedOver)
    (calls : part.output.calls = []) :
    Explained part
      [part.source.streamTurn
        (CaptureStream.frame (Board.descriptor part.source.app)
          part.source.waveform)] := by
  have step :
      Board.machine.step part.source.board .stream =
        (part.source.board.handedOver,
          { Board.Output.silent with
            streamed := some part.source.board.frame }) :=
    if_pos ⟨pending, unsent⟩
  have event :
      part.source.streamTurn
          (CaptureStream.frame (Board.descriptor part.source.app)
            part.source.waveform) =
        Board.machine.event part.source.board .stream := by
    rw [Machine.event, step]
    rfl
  have reached :
      part.target.board =
        (Board.machine.event part.source.board .stream).target := by
    rw [Machine.event, step, target]
  have nothing :
      (Board.machine.event part.source.board .stream).output.calls = [] := by
    rw [Machine.event, step]
    rfl
  rw [Explained, event, reached, calls, ← nothing]
  exact .single Board.Input.stream fun _ _ same => by cases same

/-- A part that hands a segment over is told by the streaming of the frame
when the segment is the last one, and by no turn before. -/
theorem told_handed
    {part : Part}
    {data : List UInt8}
    (tells : Tells segments part.source)
    (sends : part.source.Sends part.input)
    (operations : part.source.operations part.input = [])
    (ready : part.source.streaming.captureTx.state = .ready)
    (offered :
      segments ++ [data] =
        part.source.streaming.transfer.stream.parts.take
          (part.source.streaming.captureTx.stream.phase.toNat + 1))
    (target :
      part.target =
        { part.source.streaming with
          stage := part.source.stage.next
          captureTx :=
            { part.source.streaming.transfer with state := .inFlight }
          txInFlight := true })
    (handed : part.output.handed = some data)
    (calls : part.output.calls = []) :
    Told segments part := by
  have transit := tells.streaming sends.2.2.2.2
  have started : part.target.captureStreamStarted = true := by
    rw [target]
    exact streaming_started _
  have after :
      segmentsAfter segments part =
        part.source.streaming.transfer.stream.parts.take
          (part.source.streaming.captureTx.stream.phase.toNat + 1) := by
    rw [segmentsAfter_sends sends started, handed, ← offered]
    rfl
  have unsent := board_unsent_of_ready ready
  constructor
  · rw [after]
    refine ⟨?_, fun ended => ?_, fun _ => ?_⟩
    · rw [target]
      exact (streaming_parserState _).symm ▸ tells.parser
    · exact absurd (ended.symm.trans started) Bool.false_ne_true
    · rw [target]
      exact {
        pending := transit.pending
        parts := transit.parts
        active := transit.active
        phase := transit.phase
        state := .inr ⟨rfl, rfl⟩
      }
  · by_cases last : part.source.streaming.captureTx.stream.phase = 3
    · have whole :
          segmentsAfter segments part =
            (Segments.init (Board.descriptor part.source.app)
              part.source.waveform).parts := by
        rw [after, last, transit.parts, streaming_app, streaming_waveform]
        rfl
      have holds : HandsOver segments part :=
        ⟨sends, by rw [handed]; rfl, by rw [whole]; rfl⟩
      rw [turnsOf, if_pos holds, whole, Segments.flatten_parts_init]
      refine explained_streamed sends.2.2.2.2 unsent ?_ calls
      have third : part.source.streaming.transfer.stream.phase = 3 := last
      rw [target]
      simp only [board, Board.handedOver, streaming_app, streaming_waveform,
        streaming_started, third]
      rfl
    · have holds : ¬HandsOver segments part := by
        rintro ⟨-, -, four⟩
        rw [after, List.length_take] at four
        rcases Segments.phase_cases transit.phase with phase | phase |
          phase | phase
        · rw [phase] at four
          cases four
        · rw [phase] at four
          cases four
        · rw [phase] at four
          cases four
        · exact last phase
      have keeps : ¬Releases part := by
        rintro ⟨stage, -⟩
        exact absurd (stage.symm.trans sends.1) (by decide)
      rw [turnsOf_operations holds keeps, operations]
      have before :
          (part.source.streaming.transfer.stream.phase == 3) = false :=
        beq_false_of_ne last
      refine .silent (board_congr ?_ ?_ ?_) calls
      · rw [target, streaming_app]
      · rw [target, streaming_waveform]
      · rw [unsent, target]
        simp only [board, before, Bool.and_false]

/-- A part that sends a segment is told by its turns. -/
theorem told_sends
    (tells : Tells segments loop)
    (sends : loop.Sends around) :
    Told segments (machine.event loop around) := by
  have transit := tells.streaming sends.2.2.2.2
  have ran := run_sends sends
  have performs := operations_sends sends
  rcases transit.state with ⟨ready, -⟩ | ⟨inFlight, -⟩
  · obtain ⟨data, peeked, offered⟩ := transit.offered ready
    have offers : ¬loop.streaming.transfer.state ≠ .ready := not_not.2 ready
    cases result : around.sendResult with
    | started =>
        have taken :
            loop.streaming.transfer.onStartResult .started =
              { loop.streaming.transfer with state := .inFlight } := by
          rw [CaptureTx.onStartResult, if_neg offers]
        refine told_handed tells sends ?_ ready offered ?_ ?_ ?_
        · simp [performs, segmentOperations, peeked, result]
        all_goals
          simp only [Machine.event, machine, ran, sendSegment, peeked, result,
            taken]
    | interfaceBusy =>
        have kept :
            loop.streaming.transfer.onStartResult .busy =
              { loop.streaming.transfer with state := .ready } := by
          rw [CaptureTx.onStartResult, if_neg offers]
        refine told_waiting tells sends ?_ ?_ ?_ ?_
          (board_congr ?_ ?_ ?_) ?_ ?_
        · simp [performs, segmentOperations, peeked, result]
        all_goals
          simp only [Machine.event, machine, ran, sendSegment, peeked, result,
            kept, Effects.silent]
        · exact {
            pending := transit.pending
            parts := transit.parts
            active := transit.active
            phase := transit.phase
            state := by
              rcases transit.state with ⟨-, taken⟩ | ⟨inFlight, -⟩
              · exact .inl ⟨rfl, taken⟩
              · exact absurd (ready.symm.trans inFlight) (by decide)
          }
        · exact streaming_parserState loop
        · exact streaming_started loop
        · exact streaming_app loop
        · exact streaming_waveform loop
        · rw [board_unsent_of_ready ready]
          exact Bool.and_false _
    | failed =>
        have performed :
            loop.operations around = [.endSession around.endHardware] := by
          simp [performs, segmentOperations, peeked, result]
        refine Told.ended ?_ ?_ performed ?_ ?_ ?_ ?_ ?_
        · simp [sends.1]
        all_goals
          simp only [Machine.event, machine, ran, sendSegment, peeked, result]
        · exact (streaming_parserState loop).symm ▸ tells.parser
        · simp only [sessionEnded, operated, streaming_app]
        · rw [sessionEnded_waveform, streaming_waveform]
        · rw [streaming_app]
  · have nothing : loop.streaming.transfer.peek = none := by
      have busy : loop.streaming.transfer.state ≠ .ready := by
        simp [transfer, inFlight]
      exact if_pos busy
    have waits :
        loop.streaming.sendSegment around =
          (loop.streaming, Effects.silent) := by
      simp [sendSegment, nothing, inFlight]
    refine told_waiting tells sends ?_ ?_ ?_ ?_ (board_congr ?_ ?_ ?_) ?_ ?_
    · simp [performs, segmentOperations, nothing, inFlight]
    all_goals
      simp only [Machine.event, machine, ran, waits, Effects.silent]
    · exact ⟨transit.pending, transit.parts, transit.active, transit.phase,
        transit.state⟩
    · exact streaming_parserState loop
    · exact streaming_started loop
    · exact streaming_app loop
    · exact streaming_waveform loop
    · exact congrArg Board.sent (board_streaming loop)

/-! ## The part that serves a command -/

/-- The part of the body in which a command is looked for. -/
theorem run_serves
    (sends : ¬loop.Sends around)
    (serves : loop.Serves around) :
    loop.run around = loop.processUsbInput around := by
  obtain ⟨stage, connected, ready, gate, pending⟩ := serves
  rw [run]
  simp only [stage, runTraffic]
  rw [if_neg fun linked => sends ⟨stage, linked⟩,
    if_pos ⟨connected, ready, gate, pending⟩]

/-- The operations of the application in a part that looks for a command. -/
theorem operations_serves
    (sends : ¬loop.Sends around)
    (serves : loop.Serves around) :
    loop.operations around = loop.commandOperations around := by
  simp only [operations, serves.1]
  rw [if_neg sends, if_pos serves]

/-- A part that handles a command and then ends the session, since the response
was not taken, is told by the two turns. -/
theorem told_refused
    {part : Part}
    {request : Mcu.ParsedFrame}
    {hardware endHardware : Hardware}
    (stage : part.source.stage ≠ .completion)
    (free : part.source.app.capturePending = false)
    (before : part.source.captureStreamStarted = false)
    {handled : MainLoop}
    (parser : handled.parser.WellFormed)
    (unstreamed : handled.captureStreamStarted = false)
    (app :
      handled.app =
        (part.source.app.perform (.handle request hardware)).app)
    (waveform :
      handled.waveform =
        Board.waveformAfter part.source.waveform
          (part.source.app.perform (.handle request hardware)).calls)
    (operations :
      part.source.operations part.input =
        [.handle request hardware, .endSession endHardware])
    (target :
      part.target =
        { handled.sessionEnded endHardware with
          stage := part.source.stage.next })
    (calls :
      part.output.calls =
        (part.source.app.perform (.handle request hardware)).calls ++
          (handled.app.endSession endHardware).calls) :
    Told segments part := by
  have after : part.target.captureStreamStarted = false := by
    rw [target]
    exact unstreamed
  constructor
  · rw [segmentsAfter_ended after]
    refine .ended ?_ after
    rw [target]
    exact parser
  · have holds : ¬HandsOver segments part := by
      rintro ⟨-, -, four⟩
      rw [segmentsAfter_ended after] at four
      cases four
    rw [turnsOf_operations holds fun releases => stage releases.1, operations]
    have first :
        (part.source.board.operate (.handle request hardware)).1 =
          handled.board :=
      operate_board app waveform
        (by rw [board_unsent before, board_unsent unstreamed, Bool.false_and])
    have second :
        (handled.board.operate (.endSession endHardware)).1 =
          part.target.board := by
      refine operate_board (by rw [target]; rfl) (by rw [target]; rfl) ?_
      rw [board_unsent after, board_unsent unstreamed, Bool.false_and]
    have served := explains_operate first fun _ _ _ => free
    have ended := explains_operate second fun _ _ same => by cases same
    have both := served.append ended
    rw [Explained, calls]
    simp only [List.map_cons, List.map_nil, Machine.trace]
    have step :
        (Board.machine.step part.source.board
          (.operate (.handle request hardware))).1 = handled.board :=
      first
    rw [step]
    exact both

/-- Where nothing is read twice with two results, a command is looked for only
while no capture is pending. -/
theorem free_of_serves
    (sends : ¬loop.Sends around)
    (serves : loop.Serves around)
    (steady : ¬loop.Rereads around) :
    loop.app.capturePending = false := by
  obtain ⟨stage, connected, ready, gate, waiting⟩ := serves
  by_contra pending
  have pending : loop.app.capturePending = true := by
    simpa using pending
  exact steady ⟨stage, pending, gate,
    fun linked => sends ⟨stage, linked.1, linked.2, gate, pending⟩,
    connected, ready, waiting⟩

/-- A part that looks for a command is told by its turns. -/
theorem told_serves
    (tells : Tells segments loop)
    (sends : ¬loop.Sends around)
    (serves : loop.Serves around)
    (steady : ¬loop.Rereads around) :
    Told segments (machine.event loop around) := by
  have free := free_of_serves sends serves steady
  have ended := tells.unstreamed free
  have ran := run_serves sends serves
  have performs := operations_serves sends serves
  have accepts := UsbLink.receive_accepted tells.parser around.received
  have stage : loop.stage ≠ .completion := by simp [serves.1]
  rcases taken : UsbLink.receive loop.parser around.received with
    ⟨parser, rest, _ | view⟩
  · rw [taken] at accepts
    have drained :
        loop.processUsbInput around =
          ({ loop with parser := parser }, Effects.silent) := by
      simp only [processUsbInput, taken]
    refine Told.quiet tells sends ?_ ?_ ?_ ?_ ?_ ?_ ?_
    · simp [performs, commandOperations, taken]
    all_goals
      simp only [Machine.event, machine, ran, drained]
    · exact accepts.1
    · rfl
  · rw [taken] at accepts
    have accepted := accepts.2 view rfl
    cases response :
        (loop.app.handle view App.responseCapacity
          around.hardware).response with
    | none =>
        have performed :
            loop.operations around =
              [.handle ⟨view, accepted⟩ around.hardware] := by
          simp [performs, commandOperations, taken, accepted, response]
        refine Told.operated stage performed ?_ ended ?_ ?_ ?_ ?_
          fun _ _ _ => free
        all_goals
          simp only [Machine.event, machine, ran, processUsbInput, taken,
            response]
        · exact accepts.1
        · exact ended
        all_goals rfl
    | some bytes =>
        by_cases starts : around.sendResult = .started
        · have performed :
              loop.operations around =
                [.handle ⟨view, accepted⟩ around.hardware] := by
            simp [performs, commandOperations, taken, accepted, starts]
          refine Told.operated stage performed ?_ ended ?_ ?_ ?_ ?_
            fun _ _ _ => free
          all_goals
            simp only [Machine.event, machine, ran, processUsbInput, taken,
              response, if_pos starts]
          · exact accepts.1
          · exact ended
          all_goals rfl
        · have performed :
              loop.operations around =
                [.handle ⟨view, accepted⟩ around.hardware,
                  .endSession around.endHardware] := by
            simp [performs, commandOperations, taken, accepted, response,
              starts]
          exact @told_refused segments (machine.event loop around)
            ⟨view, accepted⟩ around.hardware around.endHardware stage free
            ended
            { loop.operated
                (loop.app.handle view App.responseCapacity
                  around.hardware) with
              parser := parser }
            accepts.1 ended rfl rfl performed
            (by
              simp only [Machine.event, machine, ran, processUsbInput, taken,
                response, if_neg starts])
            (by
              simp only [Machine.event, machine, ran, processUsbInput, taken,
                response, if_neg starts]
              rfl)

/-- Every part is told by its turns, unless a condition is read twice with two
results. -/
theorem told_run
    (tells : Tells segments loop)
    (steady : ¬loop.Rereads around) :
    Told segments (machine.event loop around) := by
  cases stage : loop.stage with
  | time => exact told_time tells stage
  | clock => exact told_clock tells stage
  | session => exact told_session tells stage
  | completion => exact told_completion tells stage
  | frameTimeout => exact told_frameTimeout tells stage
  | periodic => exact told_periodic tells stage
  | traffic =>
      by_cases sends : loop.Sends around
      · exact told_sends tells sends
      by_cases serves : loop.Serves around
      · exact told_serves tells sends serves steady
      have ran : loop.run around = (loop, Effects.silent) := by
        rw [run]
        simp only [stage, runTraffic]
        rw [if_neg fun linked => sends ⟨stage, linked⟩,
          if_neg fun linked => serves ⟨stage, linked⟩]
      have performed : loop.operations around = [] := by
        simp only [operations, stage]
        rw [if_neg sends, if_neg serves]
      refine Told.quiet tells sends performed ?_ ?_ ?_ ?_ ?_ ?_
      all_goals simp only [Machine.event, machine, ran]
      · exact tells.parser
      · rfl

/-- The loop is entered without a stream. -/
theorem started_tells
    (app : App)
    (waveform : Waveform)
    (captureTx : CaptureTx) :
    Tells [] (started app waveform captureTx) :=
  .ended Mcu.Parser.init_wellFormed rfl

/--
A run of the main loop in which no capture is pending while the condition of the
last part, read twice, first fails and then holds is a run of the application on
its board: every command finds no capture pending, every frame is what was
handed over, and the callbacks are those of the parts.
-/
theorem history_explains
    (app : App)
    (waveform : Waveform)
    (captureTx : CaptureTx)
    (inputs : List Surroundings)
    (steady :
      EveryStep (fun _ part => ¬part.source.Rereads part.input)
        (machine.trace (started app waveform captureTx) inputs)) :
    Board.machine.Explains Board.Waits (fun turn => turn.output.calls)
      (Board.started app waveform)
      (machine.after (started app waveform captureTx) inputs).board
      (history (machine.trace (started app waveform captureTx) inputs))
      ((machine.trace (started app waveform captureTx) inputs).flatMap
        fun part => part.output.calls) := by
  refine Narrator.story_explains (fun part => part.output.calls) board Tells
    (fun segments loop around tells steady => ?_)
    (started_tells app waveform captureTx) inputs
    ((EveryStep.forall_iff _ _).1 steady)
  have told := told_run tells steady
  exact ⟨told.tells, told.explained⟩

/-- A law of the runs of the application on its board in which every command
waits is one of the turns of the main loop. -/
theorem history_law
    {condition law : List Board.Turn → Board.Turn → Prop}
    (app : App)
    (waveform : Waveform)
    (captureTx : CaptureTx)
    (lawful :
      ∀ inputs,
        EveryStep
            (fun earlier turn => Board.Waits turn ∧ condition earlier turn)
            (Board.machine.trace (Board.started app waveform) inputs) →
          EveryStep law
            (Board.machine.trace (Board.started app waveform) inputs))
    (inputs : List Surroundings)
    (steady :
      EveryStep (fun _ part => ¬part.source.Rereads part.input)
        (machine.trace (started app waveform captureTx) inputs))
    (conditioned :
      EveryStep condition
        (history (machine.trace (started app waveform captureTx) inputs))) :
    EveryStep law
      (history (machine.trace (started app waveform captureTx) inputs)) := by
  have explained := history_explains app waveform captureTx inputs steady
  rw [← explained.recorded]
  apply lawful
  rw [explained.recorded]
  intro earlier turn later shape
  exact ⟨explained.admitted turn (by rw [shape]; simp),
    conditioned earlier turn later shape⟩

end MainLoop

end Usac.Firmware
