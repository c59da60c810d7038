import Usac.Firmware.CaptureSegments
import Usac.Library.StopAndWait

namespace Usac.Firmware

open Library CaptureStream
open Library.StopAndWait (Delivery Follows Sender StartResult Status)

/-!
# Sending a capture segment by segment

`usac_capture_tx.c`. The transfer owns a stream and commits a segment only
after the USB stack has reported its completion, so busy results, repeated
peeks and completions nobody waits for advance nothing. It is a sender of the
four parts of the frame.
-/

/-- `usac_capture_tx_state_t`. -/
inductive CaptureTxState where
  | idle
  | ready
  | inFlight
  | complete
  | failed
  deriving Repr, DecidableEq

/-- `usac_capture_tx_t`; its results are those of `StartResult`. -/
structure CaptureTx where
  stream : Segments
  state : CaptureTxState

namespace CaptureTx

/-- `usac_capture_tx_init`. -/
def init (stream : Segments) : CaptureTx where
  stream := stream
  state := if stream.active then .ready else .idle

/-- `usac_capture_tx_peek`. -/
def peek (tx : CaptureTx) : Option (List UInt8) :=
  if tx.state ≠ .ready then
    none
  else
    tx.stream.peek

/-- `usac_capture_tx_on_start_result`. -/
def onStartResult (tx : CaptureTx) (result : StartResult) : CaptureTx :=
  if tx.state ≠ .ready then
    tx
  else
    match result with
    | .started => { tx with state := .inFlight }
    | .busy => { tx with state := .ready }
    | .fatal => { tx with state := .failed }

/-- `usac_capture_tx_on_send_completed`. -/
def onSendCompleted (tx : CaptureTx) : CaptureTx :=
  if tx.state ≠ .inFlight then
    tx
  else
    match tx.stream.commit with
    | (stream, false) => { stream := stream, state := .failed }
    | (stream, true) =>
        { stream := stream
          state := if stream.active then .ready else .complete }

/-- `usac_capture_tx_abort`. -/
def abort (tx : CaptureTx) : CaptureTx :=
  { tx with state := .failed }

/-- The transfer after a call of its owner. -/
def call (tx : CaptureTx) : StopAndWait.Call → CaptureTx
  | .peek => tx
  | .startResult result => tx.onStartResult result
  | .sendCompleted => tx.onSendCompleted
  | .abort => tx.abort

/-- The transfer as a machine that answers a peek with the offered segment. -/
def machine : Machine CaptureTx StopAndWait.Call (Option (List UInt8)) where
  step tx input := (tx.call input, tx.peek)

end CaptureTx

namespace CaptureStream.Segments

/-- The four segments of a stream. -/
def parts (segments : Segments) : List (List UInt8) :=
  [segments.frameHeader.toList, segments.metadata.val,
    sampleBytes segments.samples, segments.frameCrc.toList]

/-- A stream from which nothing has been committed. -/
def fresh (segments : Segments) : Segments :=
  { segments with phase := 0, active := true }

/-- The phases of a stream that has not ended. -/
theorem phase_cases
    {phase : UInt8}
    (before : phase < 4) :
    phase = 0 ∨ phase = 1 ∨ phase = 2 ∨ phase = 3 := by
  have below := UInt8.lt_iff_toNat_lt.1 before
  have four : (4 : UInt8).toNat = 4 := rfl
  simp only [← UInt8.toNat_inj]
  simp
  omega

/-- A stream that has not ended offers the segment of its phase. -/
theorem peek_eq
    {segments : Segments}
    (active : segments.active = true)
    (before : segments.phase < 4) :
    segments.peek = (segments.parts.drop segments.phase.toNat).head? := by
  rcases phase_cases before with phase | phase | phase | phase <;>
    simp [peek, parts, active, phase]

/-- A commit goes on to the next segment, and the last one ends the stream. -/
theorem commit_eq
    {segments : Segments}
    (active : segments.active = true)
    (before : segments.phase < 4) :
    segments.commit =
      ({ segments with
          phase := segments.phase + 1
          active := decide (segments.phase + 1 < 4) },
        true) := by
  rcases phase_cases before with phase | phase | phase | phase <;>
    simp [commit, active, phase]

/-- The segments that are pending after a commit. -/
theorem drop_commit
    {segments : Segments}
    (before : segments.phase < 4) :
    segments.parts.drop (segments.phase + 1).toNat =
      (segments.parts.drop segments.phase.toNat).tail := by
  rcases phase_cases before with phase | phase | phase | phase <;>
    simp [phase, parts]

/-- Four segments are pending in all. -/
theorem drop_eq_nil
    (segments : Segments)
    (phase : UInt8) :
    segments.parts.drop phase.toNat = [] ↔ 4 ≤ phase := by
  rw [List.drop_eq_nil_iff, UInt8.le_iff_toNat_le]
  rfl

/-- A commit keeps the segments. -/
theorem parts_commit (segments : Segments) :
    segments.commit.1.parts = segments.parts := by
  unfold commit
  split_ifs <;> rfl

/-- The segments of a capture are its frame. -/
theorem flatten_parts_init
    (descriptor : CaptureDescriptor)
    (samples : Waveform) :
    (init descriptor samples).parts.flatten = frame descriptor samples := by
  show (Mcu.magic ++ CaptureStream.frameHeader descriptor) ++
      (CaptureStream.metadata descriptor ++
        (sampleBytes samples ++
          (writeU32 (CaptureStream.frameCrc descriptor samples) ++ []))) = _
  simp only [frame, List.append_assoc, List.append_nil]

end CaptureStream.Segments

namespace CaptureTx

/-- The transfer is a sender of the segments behind its phase. -/
inductive Simulates (parts : List (List UInt8)) :
    CaptureTx → Sender (List UInt8) → Prop where
  | running
      {tx : CaptureTx}
      {status : Status}
      (same : tx.stream.parts = parts)
      (active : tx.stream.active = true)
      (phase : tx.stream.phase < 4)
      (state :
        tx.state = .ready ∧ status = .ready ∨
          tx.state = .inFlight ∧ status = .inFlight) :
      Simulates parts tx ⟨parts.drop tx.stream.phase.toNat, status⟩
  | complete
      {tx : CaptureTx}
      (state : tx.state = .complete) :
      Simulates parts tx ⟨[], .complete⟩
  | failed
      {tx : CaptureTx}
      {pending : List (List UInt8)}
      (state : tx.state = .failed) :
      Simulates parts tx ⟨pending, .failed⟩

variable {parts : List (List UInt8)} {tx : CaptureTx}
  {sender : Sender (List UInt8)}

/-- A fresh stream is ready to be sent. -/
theorem init_simulates (segments : Segments) :
    Simulates segments.parts (init segments.fresh)
      ⟨segments.parts, .ready⟩ :=
  .running rfl rfl (by simp [CaptureTx.init, Segments.fresh])
    (.inl ⟨rfl, rfl⟩)

/-- A result counts only while a segment is offered. -/
theorem onStartResult_ignored
    {result : StartResult}
    (other : tx.state ≠ .ready) :
    tx.onStartResult result = tx :=
  if_pos other

/-- A completion counts only while a segment is in flight. -/
theorem onSendCompleted_spurious
    (other : tx.state ≠ .inFlight) :
    tx.onSendCompleted = tx :=
  if_pos other

/-- A result leaves the stream alone. -/
theorem onStartResult_stream
    (tx : CaptureTx)
    (result : StartResult) :
    (tx.onStartResult result).stream = tx.stream := by
  unfold onStartResult
  split_ifs
  · rfl
  · cases result <;> rfl

/-- A completion keeps the segments of the stream. -/
theorem parts_onSendCompleted (tx : CaptureTx) :
    tx.onSendCompleted.stream.parts = tx.stream.parts := by
  have kept := tx.stream.parts_commit
  unfold onSendCompleted
  split_ifs
  · rfl
  · rcases committed : tx.stream.commit with ⟨stream, _ | _⟩ <;>
      · rw [committed] at kept
        exact kept

/-- The transfer offers what the sender offers. -/
theorem Simulates.peek
    (simulates : Simulates parts tx sender) :
    tx.peek = sender.peek := by
  cases simulates with
  | running same active phase state =>
      rcases state with ⟨ready, rfl⟩ | ⟨inFlight, rfl⟩
      · simp only [CaptureTx.peek, ready, ne_eq, not_true_eq_false, if_false,
          Sender.peek, Segments.peek_eq active phase, same]
      · simp [CaptureTx.peek, inFlight, Sender.peek]
  | complete state | failed state =>
      simp [CaptureTx.peek, state, Sender.peek]

/-- A completion of the transfer is a completion of the sender. -/
theorem Simulates.onSendCompleted
    (simulates : Simulates parts tx sender) :
    Simulates parts tx.onSendCompleted (sender.call .sendCompleted) := by
  cases simulates with
  | @running status same active phase state =>
      rcases state with ⟨ready, rfl⟩ | ⟨inFlight, rfl⟩
      · rw [onSendCompleted_spurious (by simp [ready])]
        exact .running same active phase (.inl ⟨ready, rfl⟩)
      · rw [CaptureTx.onSendCompleted, if_neg (by simp [inFlight]),
          Segments.commit_eq active phase]
        dsimp only
        simp only [Sender.call]
        rw [← same, ← Segments.drop_commit phase]
        by_cases more : tx.stream.phase + 1 < 4
        · have pending := mt (tx.stream.drop_eq_nil _).1 (UInt8.not_le.2 more)
          rw [if_neg (mt List.isEmpty_iff.1 pending)]
          exact .running rfl (by simpa using more) more
            (.inl ⟨by simp [more], rfl⟩)
        · have ended := (tx.stream.drop_eq_nil _).2 (UInt8.not_lt.1 more)
          rw [ended]
          exact .complete (by simp [more])
  | complete state =>
      rw [onSendCompleted_spurious (by simp [state])]
      exact .complete state
  | failed state =>
      rw [onSendCompleted_spurious (by simp [state])]
      exact .failed state

/-- A call of the transfer is a call of the sender. -/
theorem Simulates.call
    (simulates : Simulates parts tx sender)
    (input : StopAndWait.Call) :
    Simulates parts (tx.call input) (sender.call input) := by
  cases input with
  | peek =>
      exact simulates
  | sendCompleted =>
      exact simulates.onSendCompleted
  | abort =>
      exact .failed rfl
  | startResult result =>
      cases simulates with
      | running same active phase state =>
          rcases state with ⟨ready, rfl⟩ | ⟨inFlight, rfl⟩
          · have offered : ¬tx.state ≠ .ready := by
              simp [ready]
            change Simulates parts (tx.onStartResult result) _
            unfold CaptureTx.onStartResult
            rw [if_neg offered]
            cases result with
            | started =>
                exact .running same active phase (.inr ⟨rfl, rfl⟩)
            | busy =>
                exact .running same active phase (.inl ⟨rfl, rfl⟩)
            | fatal =>
                exact .failed rfl
          · rw [CaptureTx.call, onStartResult_ignored (by simp [inFlight])]
            exact .running same active phase (.inr ⟨inFlight, rfl⟩)
      | complete state =>
          rw [CaptureTx.call, onStartResult_ignored (by simp [state])]
          exact .complete state
      | failed state =>
          rw [CaptureTx.call, onStartResult_ignored (by simp [state])]
          exact .failed state

/-- Nothing is in the call that could advance the transfer. -/
def Idles (tx : CaptureTx) : StopAndWait.Call → Prop
  | .peek => True
  | .startResult result => result = .busy ∨ tx.state ≠ .ready
  | .sendCompleted => tx.state ≠ .inFlight
  | .abort => False

/-- Busy results, peeks and completions nobody waits for advance nothing. -/
theorem call_idles
    {input : StopAndWait.Call}
    (idles : tx.Idles input) :
    tx.call input = tx := by
  cases input with
  | peek =>
      rfl
  | startResult result =>
      by_cases offered : tx.state = .ready
      · rcases idles with rfl | other
        · change tx.onStartResult .busy = tx
          unfold onStartResult
          rw [if_neg (not_not.2 offered), ← offered]
        · exact absurd offered other
      · exact onStartResult_ignored offered
  | sendCompleted =>
      exact onSendCompleted_spurious idles
  | abort =>
      exact idles.elim

/-- The transfer is complete or has failed. -/
def Ended (tx : CaptureTx) : Prop :=
  tx.state = .failed ∨ tx.state = .complete

/-- A transfer that has ended offers nothing. -/
theorem Ended.peek
    (ended : tx.Ended) :
    tx.peek = none := by
  apply if_pos
  rcases ended with state | state <;> simp [state]

/-- A transfer that has ended stays ended. -/
theorem Ended.call
    (ended : tx.Ended)
    (input : StopAndWait.Call) :
    (tx.call input).Ended := by
  have idle : tx.state ≠ .ready ∧ tx.state ≠ .inFlight := by
    rcases ended with state | state <;> simp [state]
  cases input with
  | peek =>
      exact ended
  | startResult result =>
      rw [CaptureTx.call, onStartResult_ignored idle.1]
      exact ended
  | sendCompleted =>
      rw [CaptureTx.call, onSendCompleted_spurious idle.2]
      exact ended
  | abort =>
      exact .inl rfl

/-- After every run the transfer is a sender that is behind what was
delivered. -/
theorem run_simulates
    (segments : Segments)
    (calls : List StopAndWait.Call) :
    ∃ sender,
      Simulates segments.parts (machine.after (init segments.fresh) calls)
          sender ∧
        Follows segments.parts sender
          (Delivery.observed peek
            (machine.trace (init segments.fresh) calls)) := by
  induction calls using List.reverseRecOn with
  | nil =>
      exact ⟨_, init_simulates segments, .start⟩
  | append_singleton calls last inductionHypothesis =>
      obtain ⟨sender, simulates, follows⟩ := inductionHypothesis
      rw [machine.after_concat, machine.trace_concat, Delivery.observed,
        List.foldl_append]
      refine ⟨sender.call last, simulates.call last, ?_⟩
      have next := follows.call last
      rw [← simulates.peek] at next
      exact next

/-- A transfer is complete exactly when its sender is. -/
theorem Simulates.complete_iff
    (simulates : Simulates parts tx sender) :
    tx.state = .complete ↔ sender.status = .complete := by
  cases simulates with
  | running same active phase state =>
      rcases state with ⟨state, rfl⟩ | ⟨state, rfl⟩ <;> simp [state]
  | complete state | failed state =>
      simp [state]

/--
Whatever is called on the transfer of a fresh stream, and in which order: the
segments whose started send was completed are the first ones of the frame, in
order. Busy results, peeks and completions nobody waits for advance nothing.
The transfer is complete exactly when all four segments were completed and
neither an abort nor a fatal result for an offered segment came, and once it
has ended it offers nothing.
-/
theorem delivers_in_order
    (segments : Segments)
    (calls : List StopAndWait.Call) :
    let tx := machine.after (init segments.fresh) calls
    let delivery :=
      Delivery.observed peek (machine.trace (init segments.fresh) calls)
    delivery.completed <+: segments.parts ∧
      (∀ input, tx.Idles input → tx.call input = tx) ∧
      (tx.state = .complete ↔
        delivery.completed = segments.parts ∧
          delivery.interrupted = false) ∧
      (tx.Ended → ∀ further, (machine.after tx further).peek = none) := by
  obtain ⟨sender, simulates, follows⟩ := run_simulates segments calls
  refine ⟨follows.completed_first, fun _ idles => call_idles idles,
    simulates.complete_iff.trans follows.complete_iff, ?_⟩
  intro ended further
  have after :=
    machine.invariant_of_step Ended ended
      (fun _ input ended => ended.call input) further
  exact after.peek

/-- A transfer that is complete has sent the frame of its capture. -/
theorem complete_sends_frame
    (descriptor : CaptureDescriptor)
    (samples : Waveform)
    (calls : List StopAndWait.Call) :
    let start := init (Segments.init descriptor samples)
    (machine.after start calls).state = .complete →
      (Delivery.observed peek (machine.trace start calls)).completed.flatten =
        frame descriptor samples := by
  intro start complete
  obtain ⟨sender, simulates, follows⟩ :=
    run_simulates (Segments.init descriptor samples) calls
  have delivered :
      (Delivery.observed peek (machine.trace start calls)).completed =
        (Segments.init descriptor samples).parts :=
    (follows.complete_iff.1 (simulates.complete_iff.1 complete)).1
  rw [delivered, Segments.flatten_parts_init]

/-- A stream of a capture without metadata. -/
def blank : Segments where
  frameHeader := Bytes.zero 16
  metadata := ⟨[], Nat.zero_le _⟩
  frameCrc := Bytes.zero 4
  samples := List.Vector.replicate captureSampleCount 0
  phase := 0
  active := true

/-- All four segments are sent, and a fatal result is reported while the first
one is in flight. -/
def fatalInFlight : List StopAndWait.Call :=
  [.startResult .started, .startResult .fatal, .sendCompleted,
    .startResult .started, .sendCompleted, .startResult .started,
    .sendCompleted, .startResult .started, .sendCompleted]

/-- A transfer is complete although a fatal result came. -/
theorem complete_fatalInFlight :
    .startResult .fatal ∈ fatalInFlight ∧
      (machine.after (init blank.fresh) fatalInFlight).state = .complete := by
  decide

end CaptureTx

end Usac.Firmware
