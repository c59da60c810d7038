import Usac.Firmware.Response

namespace Usac.Firmware

open Library

/-!
# Commands over USB

The receive path of `main.c`: the USB driver queues what it receives, and the
main loop takes it chunk by chunk through a local buffer into the parser. A
complete frame is handed to the application and ends the call, and the end of
the sending of its response is what makes the main loop look again.

The driver hands out one chunk a call, cut as it likes within the size of the
buffer. The frame timeout never fires and the session stays, so neither
appears.
-/

/-- `USAC_CDC_BUFFER_SIZE`. -/
def cdcBufferSize : Nat := 1

/-- The bytes one call of `USBCDC_receiveDataInBuffer` returns. -/
structure Chunk where
  bytes : List UInt8
  nonempty : bytes ≠ []
  bounded : bytes.length ≤ cdcBufferSize

/-- The parser, the application and the flags of the USB events. -/
structure UsbLink where
  app : App
  parser : Mcu.Parser
  queue : List Chunk
  dataPending : Bool
  inFlight : Bool

namespace UsbLink

/-- The bytes of a queue in the order of their arrival. -/
def bytesOf (queue : List Chunk) : List UInt8 :=
  queue.flatMap Chunk.bytes

/-- The loop of `process_usb_input` over its buffer. It is left at a frame,
with whatever the buffer still holds. -/
def feedBuffer (parser : Mcu.Parser) :
    List UInt8 → Mcu.Parser × Option Mcu.FrameView
  | [] => (parser, none)
  | byte :: rest =>
      let fed := parser.feed byte
      match fed.2.frame? with
      | some view => (fed.1, some view)
      | none => feedBuffer fed.1 rest

/-- The loop of `process_usb_input` over its receive calls. It goes on as long
as a call fills the buffer. -/
def receive (parser : Mcu.Parser) :
    List Chunk → Mcu.Parser × List Chunk × Option Mcu.FrameView
  | [] => (parser, [], none)
  | chunk :: queue =>
      match feedBuffer parser chunk.bytes with
      | (next, some view) => (next, queue, some view)
      | (next, none) =>
          if chunk.bytes.length = cdcBufferSize then
            receive next queue
          else
            (next, queue, none)

/-- `process_usb_input`, with the frame it hands to the application. -/
def processUsbInput
    (link : UsbLink)
    (hardware : Hardware) :
    UsbLink × Option Mcu.FrameView :=
  match receive link.parser link.queue with
  | (parser, queue, none) =>
      ({ link with parser := parser, queue := queue, dataPending := false },
        none)
  | (parser, queue, some view) =>
      let outcome := link.app.handle view App.responseCapacity hardware
      ({ app := outcome.app
         parser := parser
         queue := queue
         dataPending := false
         inFlight := outcome.response.isSome },
        some view)

/-- What reaches the main loop. -/
inductive Input where
  | received (chunks : List Chunk)
  | sendCompleted
  | poll (hardware : Hardware)
  | advanceTime (elapsedUs : UInt32) (hardware : Hardware)
  | updateClockFaults (flags : UInt16) (hardware : Hardware)
  | runPeriodicCapture (hardware : Hardware)

/-- The application after one of its other operations. -/
def operate (link : UsbLink) (input : App.Input) : UsbLink :=
  { link with app := (link.app.perform input).app }

/-- Whether the main loop polls the receive path. -/
def polls (link : UsbLink) : Bool :=
  !link.inFlight && !link.app.capturePending && link.dataPending

/-- The receive path of the main loop; every response send starts. -/
def machine : Machine UsbLink Input (Option Mcu.FrameView) where
  step link
    | .received chunks =>
        ({ link with queue := link.queue ++ chunks, dataPending := true },
          none)
    | .sendCompleted =>
        if link.inFlight then
          ({ link with inFlight := false, dataPending := true }, none)
        else
          (link, none)
    | .poll hardware =>
        if link.polls then link.processUsbInput hardware else (link, none)
    | .advanceTime elapsedUs hardware =>
        (link.operate (.advanceTime elapsedUs hardware), none)
    | .updateClockFaults flags hardware =>
        (link.operate (.updateClockFaults flags hardware), none)
    | .runPeriodicCapture hardware =>
        (link.operate (.runPeriodicCapture hardware), none)

/-- The link as a run starts it. -/
def started (app : App) : UsbLink where
  app := app
  parser := .init
  queue := []
  dataPending := false
  inFlight := false

/-- The recorded steps of the link. -/
abbrev Step := Event UsbLink Input (Option Mcu.FrameView)

/-- The frames handed to the application, in order. -/
def handed (steps : List Step) : List Mcu.FrameView :=
  steps.filterMap Event.output

/-- The chunks one input adds to the queue. -/
def Input.chunks : Input → List Chunk
  | .received chunks => chunks
  | _ => []

/-- Every byte received over a run, in order. -/
def receivedBytes (inputs : List Input) : List UInt8 :=
  bytesOf (inputs.flatMap Input.chunks)

@[simp] theorem bytesOf_append (first second : List Chunk) :
    bytesOf (first ++ second) = bytesOf first ++ bytesOf second :=
  List.flatMap_append

/-- A chunk is a single byte. -/
theorem Chunk.single (chunk : Chunk) : ∃ byte, chunk.bytes = [byte] := by
  obtain ⟨bytes, nonempty, bounded⟩ := chunk
  match bytes, nonempty, bounded with
  | [byte], _, _ =>
      exact ⟨byte, rfl⟩
  | _ :: _ :: _, _, bounded =>
      simp [cdcBufferSize] at bounded

/-- What one call of the receive loop leaves: an empty queue without a frame,
or a frame with everything behind it still queued. -/
inductive Received (parser : Mcu.Parser) (queue : List Chunk) :
    Mcu.Parser × List Chunk × Option Mcu.FrameView → Prop where
  | drained
      {next : Mcu.Parser}
      (frames : parser.framesOf (bytesOf queue) = (next, [])) :
      Received parser queue (next, [], none)
  | framed
      {next : Mcu.Parser}
      {rest : List Chunk}
      {view : Mcu.FrameView}
      (shorter : rest.length < queue.length)
      (frames :
        parser.framesOf (bytesOf queue) =
          ((next.framesOf (bytesOf rest)).1,
            view :: (next.framesOf (bytesOf rest)).2)) :
      Received parser queue (next, rest, some view)

/-- The receive loop loses no byte behind a frame. -/
theorem receive_received
    (parser : Mcu.Parser)
    (queue : List Chunk) :
    Received parser queue (receive parser queue) := by
  induction queue generalizing parser with
  | nil =>
      exact .drained rfl
  | cons chunk queue inductionHypothesis =>
      obtain ⟨byte, single⟩ := Chunk.single chunk
      have bytes : bytesOf (chunk :: queue) = byte :: bytesOf queue := by
        simp [bytesOf, single]
      have fills : chunk.bytes.length = cdcBufferSize := by
        simp [single, cdcBufferSize]
      simp only [receive, single, feedBuffer]
      cases emitted : (parser.feed byte).2.frame? with
      | some view =>
          refine .framed (by simp) ?_
          rw [bytes]
          simp [Mcu.Parser.framesOf, emitted]
      | none =>
          have frames :
              parser.framesOf (bytesOf (chunk :: queue)) =
                (parser.feed byte).1.framesOf (bytesOf queue) := by
            rw [bytes]
            simp [Mcu.Parser.framesOf, emitted]
          have rest := inductionHypothesis (parser.feed byte).1
          dsimp only
          rw [if_pos (by rw [cdcBufferSize]; rfl)]
          generalize receive (parser.feed byte).1 queue = result at rest ⊢
          cases rest with
          | drained following =>
              exact .drained (frames.trans following)
          | framed shorter following =>
              exact .framed (shorter.trans (by simp))
                (frames.trans following)

/-- What one pass over the buffer leaves is a well formed parser, and a frame
it hands on has been accepted. -/
theorem feedBuffer_accepted
    {parser : Mcu.Parser}
    (wellFormed : parser.WellFormed)
    (bytes : List UInt8) :
    (feedBuffer parser bytes).1.WellFormed ∧
      ∀ view, (feedBuffer parser bytes).2 = some view → view.Accepted := by
  induction bytes generalizing parser with
  | nil =>
      exact ⟨wellFormed, fun view emitted => by cases emitted⟩
  | cons byte rest inductionHypothesis =>
      have fed := Mcu.Parser.feed_fed wellFormed byte
      rw [feedBuffer]
      cases emitted : (parser.feed byte).2.frame? with
      | none =>
          exact inductionHypothesis fed.wellFormed
      | some view =>
          refine ⟨fed.wellFormed, fun other same => ?_⟩
          obtain rfl := Option.some.inj same
          exact fed.accepted view (Mcu.Parser.frame?_eq_some.1 emitted)

/-- What the receive loop leaves is a well formed parser, and a frame it hands
on has been accepted. -/
theorem receive_accepted
    {parser : Mcu.Parser}
    (wellFormed : parser.WellFormed)
    (queue : List Chunk) :
    (receive parser queue).1.WellFormed ∧
      ∀ view, (receive parser queue).2.2 = some view → view.Accepted := by
  induction queue generalizing parser with
  | nil =>
      exact ⟨wellFormed, fun view emitted => by cases emitted⟩
  | cons chunk queue inductionHypothesis =>
      have buffered := feedBuffer_accepted wellFormed chunk.bytes
      rw [receive]
      rcases shape : feedBuffer parser chunk.bytes with ⟨next, _ | view⟩
      · rw [shape] at buffered
        dsimp only
        split_ifs
        · exact inductionHypothesis buffered.1
        · exact ⟨buffered.1, fun view emitted => by cases emitted⟩
      · rw [shape] at buffered
        exact ⟨buffered.1, fun other same => buffered.2 other same⟩

/-- A byte leaves an empty parser, or completes no frame. -/
theorem feed_init_or_none
    (parser : Mcu.Parser)
    (byte : UInt8) :
    (parser.feed byte).1 = .init ∨ (parser.feed byte).2.frame? = none := by
  have advanced
      (stored : Mcu.Parser) :
      stored.advance.1 = .init ∨ stored.advance.2.frame? = none := by
    unfold Mcu.Parser.advance
    split_ifs
    · exact .inr rfl
    · exact .inl (Mcu.Parser.complete_init _)
  unfold Mcu.Parser.feed
  split
  · exact .inr rfl
  split
  · exact .inl rfl
  dsimp only
  split
  · split
    · exact .inl rfl
    · exact advanced _
  · exact advanced _

/-- A pass over the buffer that hands a frame on leaves an empty parser. -/
theorem feedBuffer_framed
    {parser : Mcu.Parser}
    {bytes : List UInt8}
    {view : Mcu.FrameView}
    (emitted : (feedBuffer parser bytes).2 = some view) :
    (feedBuffer parser bytes).1 = .init := by
  induction bytes generalizing parser with
  | nil =>
      cases emitted
  | cons byte rest inductionHypothesis =>
      rw [feedBuffer] at emitted ⊢
      cases framed : (parser.feed byte).2.frame? with
      | none =>
          rw [framed] at emitted
          exact inductionHypothesis emitted
      | some other =>
          refine (feed_init_or_none parser byte).resolve_right ?_
          simp [framed]

/-- A receive loop that hands a frame on leaves an empty parser. -/
theorem receive_framed
    {parser : Mcu.Parser}
    {queue : List Chunk}
    {view : Mcu.FrameView}
    (emitted : (receive parser queue).2.2 = some view) :
    (receive parser queue).1 = .init := by
  induction queue generalizing parser with
  | nil =>
      cases emitted
  | cons chunk queue inductionHypothesis =>
      rw [receive] at emitted ⊢
      rcases shape : feedBuffer parser chunk.bytes with ⟨next, _ | other⟩
      · rw [shape] at emitted
        dsimp only at emitted ⊢
        split_ifs at emitted ⊢
        exact inductionHypothesis emitted
      · have framed := @feedBuffer_framed parser chunk.bytes other
        rw [shape] at framed
        exact framed rfl

/-- The chunks received over the recorded steps, in order. -/
def chunksOf (steps : List Step) : List Chunk :=
  steps.flatMap fun step => step.input.chunks

/--
Nothing received has been lost: the frames handed on and those still ahead are
the frames of the whole stream, and whatever is queued will be looked at.
-/
structure Lossless (steps : List Step) (link : UsbLink) : Prop where
  frames :
    Mcu.Parser.init.framesOf (bytesOf (chunksOf steps)) =
      ((link.parser.framesOf (bytesOf link.queue)).1,
        handed steps ++ (link.parser.framesOf (bytesOf link.queue)).2)
  responsive : link.app.Responsive
  attended :
    link.queue ≠ [] → link.dataPending = true ∨ link.inFlight = true
  queued : link.queue.length ≤ (chunksOf steps).length

/-- A fresh link has received nothing. -/
theorem started_lossless
    {app : App}
    (responsive : app.Responsive) :
    Lossless [] (started app) where
  frames := rfl
  responsive := responsive
  attended := by simp [started]
  queued := Nat.le_refl 0

/-- A step that hands nothing on and receives nothing. -/
theorem Lossless.silent
    {earlier : List Step}
    {link next : UsbLink}
    {input : Input}
    (lossless : Lossless earlier link)
    (step : machine.step link input = (next, none))
    (receives : input.chunks = [])
    (sameParser : next.parser = link.parser)
    (sameQueue : next.queue = link.queue)
    (responsive : next.app.Responsive)
    (attended :
      next.queue ≠ [] → next.dataPending = true ∨ next.inFlight = true) :
    Lossless (earlier ++ [machine.event link input])
      (machine.event link input).target := by
  have sameChunks :
      chunksOf (earlier ++ [machine.event link input]) = chunksOf earlier := by
    simp [chunksOf, receives]
  have sameHanded :
      handed (earlier ++ [machine.event link input]) = handed earlier := by
    simp [handed, Machine.event, step]
  have target : (machine.event link input).target = next := by
    simp [Machine.event, step]
  rw [target]
  exact {
    frames := by
      rw [sameChunks, sameHanded, sameParser, sameQueue, lossless.frames]
    responsive := responsive
    attended := attended
    queued := by rw [sameChunks, sameQueue]; exact lossless.queued
  }

/-- Received chunks join the queue. -/
theorem Lossless.received
    {earlier : List Step}
    {link : UsbLink}
    (lossless : Lossless earlier link)
    (chunks : List Chunk) :
    Lossless (earlier ++ [machine.event link (.received chunks)])
      (machine.event link (.received chunks)).target := by
  have grown :
      chunksOf (earlier ++ [machine.event link (.received chunks)]) =
        chunksOf earlier ++ chunks := by
    simp [chunksOf, Input.chunks]
  have sameHanded :
      handed (earlier ++ [machine.event link (.received chunks)]) =
        handed earlier := by
    simp [handed, Machine.event, machine]
  have target :
      (machine.event link (.received chunks)).target =
        { link with queue := link.queue ++ chunks, dataPending := true } :=
    rfl
  rw [target]
  exact {
    frames := by
      rw [grown, sameHanded, bytesOf_append, bytesOf_append,
        Mcu.Parser.framesOf_append, Mcu.Parser.framesOf_append,
        lossless.frames, List.append_assoc]
    responsive := lossless.responsive
    attended := fun _ => Or.inl rfl
    queued := by
      rw [grown, List.length_append, List.length_append]
      exact Nat.add_le_add_right lossless.queued _
  }

/-- A served poll hands a frame on and sends its response, or leaves nothing
queued. -/
theorem Lossless.processed
    {earlier : List Step}
    {link : UsbLink}
    (lossless : Lossless earlier link)
    {hardware : Hardware}
    (polled : link.polls = true) :
    Lossless (earlier ++ [machine.event link (.poll hardware)])
      (machine.event link (.poll hardware)).target := by
  have sameChunks :
      chunksOf (earlier ++ [machine.event link (.poll hardware)]) =
        chunksOf earlier := by
    simp [chunksOf, Input.chunks]
  have step :
      machine.step link (.poll hardware) = link.processUsbInput hardware :=
    if_pos polled
  have received := receive_received link.parser link.queue
  generalize taken : receive link.parser link.queue = result at received
  have frames := lossless.frames
  cases received with
  | drained following =>
      simp only [processUsbInput, taken] at step
      simp only [Machine.event, step] at sameChunks ⊢
      rw [following] at frames
      exact {
        frames := by
          rw [sameChunks, frames]
          simp [handed, bytesOf, Mcu.Parser.framesOf]
        responsive := lossless.responsive
        attended := by simp
        queued := Nat.zero_le _
      }
  | framed shorter following =>
      rename_i next rest view
      have effect := App.handle_effect link.app view hardware
      have responds :
          (link.app.handle view App.responseCapacity
            hardware).response.isSome :=
        App.handle_responds lossless.responsive hardware
      simp only [processUsbInput, taken] at step
      simp only [Machine.event, step] at sameChunks ⊢
      rw [following] at frames
      exact {
        frames := by
          rw [sameChunks, frames]
          simp [handed]
        responsive := lossless.responsive.handleEffect effect
        attended := fun _ => Or.inr responds
        queued := by
          rw [sameChunks]
          exact shorter.le.trans lossless.queued
      }

/-- Every step of the link is lossless. -/
theorem Lossless.step
    {earlier : List Step}
    {link : UsbLink}
    (lossless : Lossless earlier link)
    (input : Input) :
    Lossless (earlier ++ [machine.event link input])
      (machine.event link input).target := by
  have operated (operation : App.Input) :
      (link.operate operation).app.Responsive :=
    lossless.responsive.effect (App.perform_effect link.app operation)
  cases input with
  | received chunks =>
      exact lossless.received chunks
  | sendCompleted =>
      by_cases sending : link.inFlight = true
      · exact lossless.silent (if_pos sending) rfl rfl rfl lossless.responsive
          fun _ => Or.inl rfl
      · exact lossless.silent (if_neg sending) rfl rfl rfl lossless.responsive
          lossless.attended
  | poll hardware =>
      by_cases polled : link.polls = true
      · exact lossless.processed polled
      · exact lossless.silent (if_neg polled) rfl rfl rfl lossless.responsive
          lossless.attended
  | advanceTime elapsedUs hardware =>
      exact lossless.silent rfl rfl rfl rfl (operated _) lossless.attended
  | updateClockFaults flags hardware =>
      exact lossless.silent rfl rfl rfl rfl (operated _) lossless.attended
  | runPeriodicCapture hardware =>
      exact lossless.silent rfl rfl rfl rfl (operated _) lossless.attended

/-- Every run is lossless. -/
theorem run_lossless
    {app : App}
    (responsive : app.Responsive)
    (inputs : List Input) :
    Lossless (machine.trace (started app) inputs)
      (machine.after (started app) inputs) := by
  induction inputs using List.reverseRecOn with
  | nil =>
      exact started_lossless responsive
  | append_singleton inputs last inductionHypothesis =>
      rw [Machine.trace_concat, Machine.after_concat]
      exact inductionHypothesis.step last

/-- The main loop polls on, with the sending that may be under way completed
before each poll. -/
def drain (polls : List Hardware) : List Input :=
  polls.flatMap fun hardware => [.sendCompleted, .poll hardware]

/-- No capture is pending, so the main loop does not stream. -/
def Unobstructed (step : Step) : Prop :=
  step.source.app.capturePending = false

instance (step : Step) : Decidable (Unobstructed step) :=
  inferInstanceAs (Decidable (step.source.app.capturePending = false))

/-- A poll takes at least one chunk. -/
theorem poll_queue
    {link : UsbLink}
    (idle : link.inFlight = false)
    (unobstructed : link.app.capturePending = false)
    (attended : link.queue ≠ [] → link.dataPending = true)
    (hardware : Hardware) :
    (machine.step link (.poll hardware)).1.queue.length ≤
      link.queue.length - 1 := by
  by_cases polled : link.polls = true
  · have step :
        machine.step link (.poll hardware) = link.processUsbInput hardware :=
      if_pos polled
    have received := receive_received link.parser link.queue
    generalize taken : receive link.parser link.queue = result at received
    cases received with
    | drained following =>
        simp [step, processUsbInput, taken]
    | framed shorter following =>
        simp only [step, processUsbInput, taken]
        omega
  · have step : machine.step link (.poll hardware) = (link, none) :=
      if_neg polled
    have waiting : link.dataPending = false := by
      simpa [polls, idle, unobstructed] using polled
    have empty : link.queue = [] := by
      by_contra queued
      simp [attended queued] at waiting
    simp [step, empty]

/-- A completed sending and a poll shorten the queue. -/
theorem drain_one
    {earlier : List Step}
    {link : UsbLink}
    (lossless : Lossless earlier link)
    (unobstructed : link.app.capturePending = false)
    (hardware : Hardware) :
    (machine.after link [.sendCompleted, .poll hardware]).queue.length ≤
      link.queue.length - 1 := by
  by_cases sending : link.inFlight = true
  · have step :
        machine.step link .sendCompleted =
          ({ link with inFlight := false, dataPending := true }, none) :=
      if_pos sending
    simp only [Machine.after, step]
    refine poll_queue ?_ ?_ ?_ hardware
    · rfl
    · exact unobstructed
    · exact fun _ => rfl
  · have step : machine.step link .sendCompleted = (link, none) :=
      if_neg sending
    simp only [Machine.after, step]
    exact poll_queue (by simpa using sending) unobstructed
      (fun waiting => (lossless.attended waiting).resolve_right sending)
      hardware

/-- As many polls as chunks are queued leave nothing queued. -/
theorem drain_queue
    {earlier : List Step}
    {link : UsbLink}
    (lossless : Lossless earlier link)
    (polls : List Hardware)
    (unobstructed :
      ∀ step ∈ machine.trace link (drain polls), Unobstructed step)
    (enough : link.queue.length ≤ polls.length) :
    (machine.after link (drain polls)).queue = [] := by
  induction polls generalizing link earlier with
  | nil =>
      exact List.length_eq_zero_iff.1 (Nat.le_zero.1 enough)
  | cons hardware polls inductionHypothesis =>
      have split :
          drain (hardware :: polls) =
            [.sendCompleted, .poll hardware] ++ drain polls :=
        rfl
      have atFirst : link.app.capturePending = false :=
        unobstructed _ List.mem_cons_self
      have shorter := drain_one lossless atFirst hardware
      rw [split, Machine.trace_append] at unobstructed
      rw [split, Machine.after_append]
      refine inductionHypothesis
        ((lossless.step .sendCompleted).step (.poll hardware)) ?_ ?_
      · exact fun step later =>
          unobstructed step (List.mem_append_right _ later)
      · rw [List.length_cons] at enough
        exact shorter.trans (by omega)

/-- The record of a run shows the chunks of its inputs. -/
theorem chunksOf_trace
    (link : UsbLink)
    (inputs : List Input) :
    chunksOf (machine.trace link inputs) = inputs.flatMap Input.chunks := by
  conv_rhs => rw [← machine.trace_inputs link inputs]
  rw [List.flatMap_map]
  rfl

/-- Draining receives nothing. -/
theorem chunks_drain (polls : List Hardware) :
    (drain polls).flatMap Input.chunks = [] := by
  induction polls with
  | nil =>
      rfl
  | cons hardware polls inductionHypothesis =>
      simpa [drain, Input.chunks] using inductionHypothesis

/-- Whatever the chunks and whatever comes between them, the application is
handed the frames of the whole stream. -/
theorem handed_eq_framesOf
    (deviceId bootId : Id16)
    (resetReason : UInt8)
    (initialState : FirmwareState)
    (result : ConfigResult)
    (devStat : UInt8)
    (inputs : List Input)
    (polls : List Hardware)
    (enough : (inputs.flatMap Input.chunks).length ≤ polls.length)
    (unobstructed :
      ∀ step ∈
        machine.trace
          (started (App.started deviceId bootId resetReason initialState
            result devStat))
          (inputs ++ drain polls),
        Unobstructed step) :
    handed
        (machine.trace
          (started (App.started deviceId bootId resetReason initialState
            result devStat))
          (inputs ++ drain polls)) =
      (Mcu.Parser.init.framesOf (receivedBytes inputs)).2 := by
  have responsive :=
    App.started_responsive deviceId bootId resetReason initialState result
      devStat
  generalize App.started deviceId bootId resetReason initialState result
    devStat = app at responsive unobstructed ⊢
  have before := run_lossless responsive inputs
  have whole := run_lossless responsive (inputs ++ drain polls)
  have chunks :
      chunksOf (machine.trace (started app) (inputs ++ drain polls)) =
        inputs.flatMap Input.chunks := by
    rw [chunksOf_trace, List.flatMap_append, chunks_drain, List.append_nil]
  have queue :
      (machine.after (started app) (inputs ++ drain polls)).queue = [] := by
    rw [Machine.after_append]
    refine drain_queue before polls ?_ (before.queued.trans ?_)
    · intro step later
      refine unobstructed step ?_
      rw [Machine.trace_append]
      exact List.mem_append_right _ later
    · rwa [chunksOf_trace]
  have frames := whole.frames
  rw [chunks, queue] at frames
  rw [receivedBytes, frames]
  simp [bytesOf, Mcu.Parser.framesOf]

/-- Every frame handed to the application is one the parser accepted. -/
theorem handed_accepted
    {app : App}
    (responsive : app.Responsive)
    (inputs : List Input) :
    ∀ view ∈ handed (machine.trace (started app) inputs), view.Accepted := by
  intro view member
  have frames := (run_lossless responsive inputs).frames
  have accepted :=
    (Mcu.Parser.framesOf_accepted Mcu.Parser.init_wellFormed
      (bytesOf (chunksOf (machine.trace (started app) inputs)))).2
  rw [frames] at accepted
  exact accepted view (List.mem_append_left _ member)

/-- Bytes queued one by one. -/
def chunked (bytes : List UInt8) : List Chunk :=
  bytes.map fun byte => ⟨[byte], by simp, Nat.le_refl 1⟩

/-- Two status requests sent back to back. -/
def backToBack : List UInt8 :=
  Mcu.frameBytes Message.getStatus 0 1 [] ++
    Mcu.frameBytes Message.getStatus 0 2 []

set_option maxRecDepth 100000 in
/-- Both of two status requests that arrive in one packet are handed on. -/
theorem handed_backToBack :
    handed
        (machine.trace
          (started (App.started (Bytes.zero 16) (Bytes.zero 16) 0
            .sessionWait .ok 0))
          ([.received (chunked backToBack)] ++
            drain (List.replicate 40 .nominal))) =
      (Mcu.Parser.init.framesOf
        (receivedBytes [.received (chunked backToBack)])).2 ∧
    (Mcu.Parser.init.framesOf backToBack).2.length = 2 :=
  ⟨handed_eq_framesOf _ _ _ _ _ _ _ _ (by decide +kernel)
      (by decide +kernel),
    by decide +kernel⟩

end UsbLink

end Usac.Firmware
