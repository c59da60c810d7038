import Usac.Bridge.Session

namespace Usac.Bridge

open Library Host

/-!
# What a step of a bridge session can do

One inversion theorem for each thread lists everything a step of it can do, with
the branches taken to get there. The laws of a session are derived from these
lists and never from the step functions.
-/

/-- A frame that is assembled has been decoded. -/
theorem decode_of_assemble
    {source : String}
    {raw chunk whole : List UInt8}
    {frame : Frame}
    (assembled : assemble source raw chunk = .ok (whole, some frame)) :
    Frame.decode whole = .ok frame := by
  obtain ⟨-, -, assembled⟩ := bind_eq_ok.1 assembled
  split at assembled
  · simp [pure, Except.pure] at assembled
  · obtain ⟨decoded, succeeds, same⟩ := bind_eq_ok.1 assembled
    simp only [pure, Except.pure, Except.ok.injEq, Prod.mk.injEq,
      Option.some.injEq] at same
    obtain ⟨rfl, rfl⟩ := same
    exact succeeds

namespace SerialLoop

/-- The loop waits for a frame of the device. -/
def Idle : SerialLoop → Prop
  | .looping | .assembling _ | .reading _ => True
  | _ => False

/-- The loop has nothing to do with the queue and has not failed. -/
def Unlocked : SerialLoop → Prop
  | .acquiring | .enabling | .flushing _ _ | .unwinding _ | .ended => False
  | _ => True

end SerialLoop

namespace CoreReader

/-- The reader holds no lock and has not failed. -/
def Unlocked : CoreReader → Prop
  | .writing _ _ | .failing _ | .ended => False
  | _ => True

end CoreReader

namespace ProxySession

/-- What a step of the serial loop can do. -/
inductive SerialStep (session : ProxySession) :
    ProxySession × Shown → Prop where
  | waits : SerialStep session (session, .silent)
  | rounds (next : SerialLoop)
      (idle : session.serialLoop.Idle)
      (goes : next.Idle ∨ next = .unwinding none) :
      SerialStep session (session.toSerial next, .silent)
  | fails (raised : Raised)
      (unlocked : session.serialLoop.Unlocked) :
      SerialStep session
        (session.toSerial (.unwinding (some raised)), .silent)
  | hears (raw : List UInt8) (frame : Frame)
      (idle : session.serialLoop.Idle)
      (decoded : Frame.decode raw = .ok frame) :
      SerialStep session
        ({ session with
            streamOffset := session.streamOffset + raw.length
            serialLoop :=
              if frame.messageType = .captureData then
                .storing frame raw session.streamOffset
              else
                .forwarding frame },
          .heard frame)
  | forwards (frame : Frame)
      (here : session.serialLoop = .forwarding frame) :
      SerialStep session
        (session.toSerial
          (if frame.messageType = .hello ∧
              frame.flags &&& Flags.response ≠ 0 then
            .draining
          else
            .looping),
          .sent frame)
  | stores (frame : Frame) (raw : List UInt8) (firstOffset : Int)
      (request : StoreRequest) (spool : Spool) (pending : PendingCapture)
      (here : session.serialLoop = .storing frame raw firstOffset)
      (stored : session.spool.storeCapture request = .ok (spool, pending)) :
      SerialStep session
        ({ session with
            spool := spool
            serialLoop := .registering ⟨pending, frame.sequence, none⟩ },
          .silent)
  | drains
      (here : session.serialLoop = .draining)
      (empty : session.spool.pendingRecords 64 = .ok []) :
      SerialStep session (session.toSerial .acquiring, .drained)
  | replays (pending : PendingCapture) (rest : List PendingCapture)
      (here : session.serialLoop = .draining)
      (batch : session.spool.pendingRecords 64 = .ok (pending :: rest)) :
      SerialStep session
        (session.toSerial (continueReplay (pending :: rest)), .silent)
  | registers (delivery : Delivery)
      (here : session.serialLoop = .registering delivery) :
      SerialStep session
        ({ session with
            pendingEvents :=
              (delivery.pending.recordId, session.nextEvent) ::
                session.pendingEvents.filter fun entry =>
                  entry.1 ≠ delivery.pending.recordId
            nextEvent := session.nextEvent + 1
            serialLoop := .handing delivery session.nextEvent },
          .silent)
  | hands (delivery : Delivery) (event : Nat) (frame : Frame)
      (here : session.serialLoop = .handing delivery event)
      (built :
        deliveryFrame session.connectionId delivery.pending
          delivery.sequence = .ok frame) :
      SerialStep session (session.toSerial (.awaiting delivery event),
        .sent frame)
  | confirmed (delivery : Delivery) (event : Nat)
      (here : session.serialLoop = .awaiting delivery event)
      (isSet : event ∈ session.setEvents) :
      SerialStep session (session.toSerial (.releasing delivery), .silent)
  | releases (delivery : Delivery)
      (here : session.serialLoop = .releasing delivery) :
      SerialStep session
        ({ session with
            pendingEvents := session.pendingEvents.filter fun entry =>
              entry.1 ≠ delivery.pending.recordId
            serialLoop :=
              match delivery.rest with
              | none => .looping
              | some rest => continueReplay rest },
          .silent)
  | locks
      (here : session.serialLoop = .acquiring)
      (free : session.serialWriteLock = none) :
      SerialStep session
        ({ session with
            serialWriteLock := some .serialLoop
            serialLoop := .enabling },
          .silent)
  | enables
      (here : session.serialLoop = .enabling) :
      SerialStep session
        ({ session with
            forwardingEnabled := true
            deferredCommands := []
            serialLoop := .flushing 0 session.deferredCommands },
          .silent)
  | writes (offset : Nat) (command : List UInt8) (queued : List (List UInt8))
      (count : Nat)
      (here : session.serialLoop = .flushing offset (command :: queued))
      (progress : 0 < count)
      (fits : offset + count ≤ command.length) :
      SerialStep session
        (session.toSerial (.flushing (offset + count) (command :: queued)),
          .wrote ⟨command, offset, count⟩ false)
  | writeFails (offset : Nat) (command : List UInt8)
      (queued : List (List UInt8)) (count : Nat) (raised : Raised)
      (here : session.serialLoop = .flushing offset (command :: queued))
      (unfinished : offset < command.length)
      (fits : offset + count ≤ command.length) :
      SerialStep session
        ({ session with
            serialWriteLock := none
            serialLoop := .unwinding (some raised) },
          .wrote ⟨command, offset, count⟩ true)
  | continues (offset : Nat) (command : List UInt8)
      (queued : List (List UInt8))
      (here : session.serialLoop = .flushing offset (command :: queued))
      (finished : command.length ≤ offset) :
      SerialStep session (session.toSerial (.flushing 0 queued), .silent)
  | unlocks (offset : Nat)
      (here : session.serialLoop = .flushing offset []) :
      SerialStep session
        ({ session with serialWriteLock := none, serialLoop := .looping },
          .silent)
  | stops (raised : Option Raised)
      (here : session.serialLoop = .unwinding raised) :
      SerialStep session
        ({ session with stop := true, serialLoop := .ended }, .silent)

/-- What a step of the core reader can do. -/
inductive ReaderStep (session : ProxySession) :
    ProxySession × Shown → Prop where
  | waits : ReaderStep session (session, .silent)
  | begins
      (here : session.coreReader = .looping) :
      ReaderStep session (session.toReader (.receiving []), .silent)
  | leaves
      (here : session.coreReader = .looping)
      (stopped : session.stop = true) :
      ReaderStep session (session.toReader .ended, .silent)
  | reads (raw next : List UInt8)
      (here : session.coreReader = .receiving raw) :
      ReaderStep session (session.toReader (.receiving next), .silent)
  | receives (before raw : List UInt8) (frame : Frame)
      (here : session.coreReader = .receiving before)
      (decoded : Frame.decode raw = .ok frame) :
      ReaderStep session
        (session.toReader (dispatch frame raw), .received frame raw)
  | fails (raised : Raised)
      (unlocked : session.coreReader.Unlocked) :
      ReaderStep session (session.toReader (.failing raised), .silent)
  | commits (sequence : UInt32) (receipt : CaptureCommittedRequest)
      (spool : Spool) (disposition : Disposition)
      (here : session.coreReader = .committing sequence receipt)
      (committed :
        session.spool.markCommitted (receiptOf receipt) =
          .ok (spool, disposition)) :
      ReaderStep session
        ({ session with
            spool := spool
            coreReader := .responding sequence receipt disposition },
          .marked (receiptOf receipt) disposition)
  | responds (sequence : UInt32) (receipt : CaptureCommittedRequest)
      (disposition : Disposition) (frame : Frame)
      (here : session.coreReader = .responding sequence receipt disposition)
      (built : commitResponse sequence receipt disposition = .ok frame) :
      ReaderStep session
        (session.toReader (.finding (receiptOf receipt).recordId),
          .sent frame)
  | finds (recordId : Int) (event : Nat)
      (here : session.coreReader = .finding recordId)
      (found : session.pendingEvents.lookup recordId = some event) :
      ReaderStep session (session.toReader (.setting event), .silent)
  | sets (event : Nat)
      (here : session.coreReader = .setting event) :
      ReaderStep session
        ({ session with
            setEvents := event :: session.setEvents
            coreReader := .looping },
          .silent)
  | forwards (raw : List UInt8)
      (here : session.coreReader = .offering raw)
      (enabled : session.forwardingEnabled = true) :
      ReaderStep session (session.toReader (.acquiring raw), .silent)
  | overflows (raw : List UInt8)
      (here : session.coreReader = .offering raw)
      (disabled : session.forwardingEnabled = false)
      (full : 8 ≤ session.deferredCommands.length) :
      ReaderStep session
        (session.toReader (.failing tooManyCommands), .silent)
  | defers (raw : List UInt8)
      (here : session.coreReader = .offering raw)
      (disabled : session.forwardingEnabled = false)
      (room : session.deferredCommands.length < 8) :
      ReaderStep session
        ({ session with
            deferredCommands := session.deferredCommands ++ [raw]
            coreReader := .looping },
          .silent)
  | locks (raw : List UInt8)
      (here : session.coreReader = .acquiring raw)
      (free : session.serialWriteLock = none) :
      ReaderStep session
        ({ session with
            serialWriteLock := some .coreReader
            coreReader := .writing raw 0 },
          .silent)
  | writes (raw : List UInt8) (offset count : Nat)
      (here : session.coreReader = .writing raw offset)
      (progress : 0 < count)
      (fits : offset + count ≤ raw.length) :
      ReaderStep session
        (session.toReader (.writing raw (offset + count)),
          .wrote ⟨raw, offset, count⟩ false)
  | writeFails (raw : List UInt8) (offset count : Nat) (raised : Raised)
      (here : session.coreReader = .writing raw offset)
      (unfinished : offset < raw.length)
      (fits : offset + count ≤ raw.length) :
      ReaderStep session
        ({ session with
            serialWriteLock := none
            coreReader := .failing raised },
          .wrote ⟨raw, offset, count⟩ true)
  | finishes (raw : List UInt8) (offset : Nat)
      (here : session.coreReader = .writing raw offset)
      (finished : raw.length ≤ offset) :
      ReaderStep session
        ({ session with serialWriteLock := none, coreReader := .looping },
          .silent)
  | stops (raised : Raised)
      (here : session.coreReader = .failing raised)
      (workerError : List Raised) :
      ReaderStep session
        ({ session with
            workerError := workerError
            stop := true
            coreReader := .ended },
          .silent)

/-- What a send does. -/
theorem sendCore_cases
    {frame : Except Raised Frame}
    {sent : ProxySession}
    {failed : Raised → ProxySession} :
    (∃ raised, sendCore frame sent failed = (failed raised, .silent)) ∨
      ∃ encoded, frame = .ok encoded ∧
        sendCore frame sent failed = (sent, .sent encoded) := by
  unfold sendCore
  cases frame with
  | error raised =>
      exact .inl ⟨raised, rfl⟩
  | ok frame =>
      cases encoded : frame.encode with
      | error raised =>
          exact .inl ⟨raised, by simp [encoded, Except.map]⟩
      | ok bytes =>
          exact .inr ⟨frame, rfl, by simp [encoded, Except.map]⟩

/-- What one call of `write` does. -/
theorem writeSerial_cases
    (session : ProxySession)
    (frame : List UInt8)
    {offset : Nat}
    (unfinished : offset < frame.length)
    (meets : Meets)
    (written : Nat → ProxySession)
    (failed : Raised → ProxySession) :
    session.writeSerial frame offset meets written failed =
        (session, .silent) ∨
      (∃ count, 0 < count ∧ offset + count ≤ frame.length ∧
        session.writeSerial frame offset meets written failed =
          (written (offset + count), .wrote ⟨frame, offset, count⟩ false)) ∨
      ∃ raised count, offset + count ≤ frame.length ∧
        session.writeSerial frame offset meets written failed =
          (failed raised, .wrote ⟨frame, offset, count⟩ true) := by
  cases meets with
  | writes count =>
      cases count with
      | zero =>
          exact .inr (.inr ⟨_, min 0 (frame.length - offset), by omega, rfl⟩)
      | succ count =>
          exact .inr (.inl ⟨min (count + 1) (frame.length - offset),
            by omega, by omega, rfl⟩)
  | raises raised count =>
      exact .inr (.inr ⟨raised, min count (frame.length - offset),
        by omega, rfl⟩)
  | _ =>
      exact .inl rfl

/-- A round of reading on the serial side. -/
theorem readSerial_steps
    {session : ProxySession}
    (idle : session.serialLoop.Idle)
    (unlocked : session.serialLoop.Unlocked)
    (source : String)
    (raw chunk : List UInt8) :
    SerialStep session (session.readSerial (assemble source raw chunk)) := by
  cases assembled : assemble source raw chunk with
  | error raised =>
      exact .fails raised unlocked
  | ok result =>
      obtain ⟨whole, frame⟩ := result
      cases frame with
      | none =>
          exact .rounds _ idle (.inl trivial)
      | some frame =>
          exact .hears whole frame idle (decode_of_assemble assembled)

/-- Every step of the serial loop is one of the list. -/
theorem stepSerial_cases (session : ProxySession) (meets : Meets) :
    SerialStep session (session.stepSerial meets) := by
  cases here : session.serialLoop with
  | looping =>
      have idle : session.serialLoop.Idle := by rw [here]; trivial
      simp only [stepSerial, here]
      split
      · exact .rounds _ idle (.inr rfl)
      · exact .rounds _ idle (.inl trivial)
  | assembling raw =>
      have idle : session.serialLoop.Idle := by rw [here]; trivial
      simp only [stepSerial, here]
      split
      · exact .rounds _ idle (.inr rfl)
      · exact .rounds _ idle (.inl trivial)
  | reading raw =>
      have idle : session.serialLoop.Idle := by rw [here]; trivial
      have unlocked : session.serialLoop.Unlocked := by rw [here]; trivial
      cases meets with
      | reads chunk =>
          cases chunk with
          | nil =>
              simp only [stepSerial, here]
              exact .rounds _ idle (.inl trivial)
          | cons byte chunk =>
              simp only [stepSerial, here]
              exact readSerial_steps idle unlocked _ _ _
      | expires =>
          cases raw with
          | nil =>
              simp only [stepSerial, here]
              exact .rounds _ idle (.inl trivial)
          | cons byte raw =>
              simp only [stepSerial, here]
              exact .fails _ unlocked
      | raises raised count =>
          simp only [stepSerial, here]
          exact .fails raised unlocked
      | returns | writes | clock =>
          simp only [stepSerial, here]
          exact .waits
  | forwarding frame =>
      have unlocked : session.serialLoop.Unlocked := by rw [here]; trivial
      cases meets with
      | returns =>
          simp only [stepSerial, here]
          rcases sendCore_cases with ⟨raised, ends⟩ | ⟨encoded, same, ends⟩
          · rw [ends]
            exact .fails raised unlocked
          · obtain rfl := Except.ok.inj same
            rw [ends]
            exact .forwards frame here
      | raises raised count =>
          simp only [stepSerial, here]
          exact .fails raised unlocked
      | _ =>
          simp only [stepSerial, here]
          exact .waits
  | storing frame raw firstOffset =>
      have unlocked : session.serialLoop.Unlocked := by rw [here]; trivial
      cases meets with
      | clock utcNs =>
          simp only [stepSerial, here, storeSerial]
          split
          · exact .fails _ unlocked
          · rename_i stored
            exact .stores frame raw firstOffset _ _ _ here stored
      | raises raised count =>
          simp only [stepSerial, here]
          exact .fails raised unlocked
      | _ =>
          simp only [stepSerial, here]
          exact .waits
  | draining =>
      have unlocked : session.serialLoop.Unlocked := by rw [here]; trivial
      cases meets with
      | returns =>
          simp only [stepSerial, here, drain]
          cases batch : session.spool.pendingRecords 64 with
          | error raised =>
              exact .fails raised unlocked
          | ok batchRecords =>
              cases batchRecords with
              | nil =>
                  exact .drains here batch
              | cons pending rest =>
                  exact .replays pending rest here batch
      | raises raised count =>
          simp only [stepSerial, here]
          exact .fails raised unlocked
      | _ =>
          simp only [stepSerial, here]
          exact .waits
  | registering delivery =>
      simp only [stepSerial, here]
      exact .registers delivery here
  | handing delivery event =>
      have unlocked : session.serialLoop.Unlocked := by rw [here]; trivial
      cases meets with
      | returns =>
          simp only [stepSerial, here]
          rcases sendCore_cases with ⟨raised, ends⟩ | ⟨frame, built, ends⟩
          · rw [ends]
            exact .fails raised unlocked
          · rw [ends]
            exact .hands delivery event frame here built
      | raises raised count =>
          simp only [stepSerial, here]
          exact .fails raised unlocked
      | _ =>
          simp only [stepSerial, here]
          exact .waits
  | awaiting delivery event =>
      have unlocked : session.serialLoop.Unlocked := by rw [here]; trivial
      simp only [stepSerial, here]
      split
      · rename_i isSet
        exact .confirmed delivery event here isSet
      · split
        · exact .fails _ unlocked
        · exact .waits
  | releasing delivery =>
      simp only [stepSerial, here]
      exact .releases delivery here
  | acquiring =>
      simp only [stepSerial, here]
      split
      · rename_i free
        exact .locks here free
      · exact .waits
  | enabling =>
      simp only [stepSerial, here]
      exact .enables here
  | flushing offset queued =>
      cases queued with
      | nil =>
          simp only [stepSerial, here]
          exact .unlocks offset here
      | cons command queued =>
          simp only [stepSerial, here]
          split
          · rename_i unfinished
            rcases session.writeSerial_cases command unfinished meets
              (fun next =>
                session.toSerial (.flushing next (command :: queued)))
              (fun raised =>
                { session with
                  serialWriteLock := none
                  serialLoop := .unwinding (some raised) }) with
              ends | ⟨count, progress, fits, ends⟩ | ⟨raised, count, fits, ends⟩
            · rw [ends]
              exact .waits
            · rw [ends]
              exact .writes offset command queued count here progress fits
            · rw [ends]
              exact .writeFails offset command queued count raised here
                unfinished fits
          · rename_i finished
            exact .continues offset command queued here (by omega)
  | unwinding raised =>
      simp only [stepSerial, here]
      exact .stops raised here
  | ended =>
      simp only [stepSerial, here]
      exact .waits

/-- A round of reading on the side of the core. -/
theorem readCore_steps
    {session : ProxySession}
    {raw : List UInt8}
    (here : session.coreReader = .receiving raw)
    (source : String)
    (chunk : List UInt8) :
    ReaderStep session (session.readCore (assemble source raw chunk)) := by
  cases assembled : assemble source raw chunk with
  | error raised =>
      exact .fails raised (by rw [here]; trivial)
  | ok result =>
      obtain ⟨whole, frame⟩ := result
      cases frame with
      | none =>
          exact .reads raw whole here
      | some frame =>
          exact .receives raw whole frame here (decode_of_assemble assembled)

/-- Every step of the core reader is one of the list. -/
theorem stepReader_cases (session : ProxySession) (meets : Meets) :
    ReaderStep session (session.stepReader meets) := by
  cases here : session.coreReader with
  | looping =>
      simp only [stepReader, here]
      cases stopped : session.stop with
      | true =>
          exact .leaves here stopped
      | false =>
          exact .begins here
  | receiving raw =>
      have unlocked : session.coreReader.Unlocked := by rw [here]; trivial
      cases meets with
      | reads chunk =>
          cases chunk with
          | nil =>
              simp only [stepReader, here]
              exact .fails _ unlocked
          | cons byte chunk =>
              simp only [stepReader, here]
              exact readCore_steps here _ _
      | raises raised count =>
          simp only [stepReader, here]
          exact .fails raised unlocked
      | _ =>
          simp only [stepReader, here]
          exact .waits
  | committing sequence receipt =>
      have unlocked : session.coreReader.Unlocked := by rw [here]; trivial
      cases meets with
      | returns =>
          simp only [stepReader, here, commitReader]
          split
          · exact .fails _ unlocked
          · rename_i committed
            exact .commits sequence receipt _ _ here committed
      | raises raised count =>
          simp only [stepReader, here]
          exact .fails raised unlocked
      | _ =>
          simp only [stepReader, here]
          exact .waits
  | responding sequence receipt disposition =>
      have unlocked : session.coreReader.Unlocked := by rw [here]; trivial
      cases meets with
      | returns =>
          simp only [stepReader, here]
          rcases sendCore_cases with ⟨raised, ends⟩ | ⟨frame, built, ends⟩
          · rw [ends]
            exact .fails raised unlocked
          · rw [ends]
            exact .responds sequence receipt disposition frame here built
      | raises raised count =>
          simp only [stepReader, here]
          exact .fails raised unlocked
      | _ =>
          simp only [stepReader, here]
          exact .waits
  | finding recordId =>
      have unlocked : session.coreReader.Unlocked := by rw [here]; trivial
      simp only [stepReader, here]
      cases found : session.pendingEvents.lookup recordId with
      | none =>
          exact .fails _ unlocked
      | some event =>
          exact .finds recordId event here found
  | setting event =>
      simp only [stepReader, here]
      exact .sets event here
  | offering raw =>
      simp only [stepReader, here]
      split
      · rename_i enabled
        exact .forwards raw here enabled
      · rename_i disabled
        have disabled : session.forwardingEnabled = false := by
          simpa using disabled
        split
        · rename_i full
          exact .overflows raw here disabled full
        · rename_i room
          exact .defers raw here disabled (by omega)
  | acquiring raw =>
      simp only [stepReader, here]
      split
      · rename_i free
        exact .locks raw here free
      · exact .waits
  | writing raw offset =>
      simp only [stepReader, here]
      split
      · rename_i unfinished
        rcases session.writeSerial_cases raw unfinished meets
          (fun next => session.toReader (.writing raw next))
          (fun raised =>
            { session with
              serialWriteLock := none
              coreReader := .failing raised }) with
          ends | ⟨count, progress, fits, ends⟩ | ⟨raised, count, fits, ends⟩
        · rw [ends]
          exact .waits
        · rw [ends]
          exact .writes raw offset count here progress fits
        · rw [ends]
          exact .writeFails raw offset count raised here unfinished fits
      · rename_i finished
        exact .finishes raw offset here (by omega)
  | failing raised =>
      simp only [stepReader, here]
      exact .stops raised here _
  | ended =>
      simp only [stepReader, here]
      exact .waits

end ProxySession

end Usac.Bridge
