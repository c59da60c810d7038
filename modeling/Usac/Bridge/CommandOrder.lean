import Mathlib.Tactic.SplitIfs
import Usac.Bridge.SessionStep

namespace Usac.Bridge

open Library Host

/-!
# The order of forwarded commands

What a session writes to the serial port is read back from the parts of frames
that reached it: whole frames one after another, of which the last may be
unfinished. The commands among them are compared with those the core has sent.

The session is viewed as two writers with a queue between them. The reader
defers commands until the serial loop has taken the queue, and then writes them
itself.
-/

/-- A frame that is forwarded to the device and is no HELLO. -/
def IsCommand (frame : Frame) : Prop :=
  frame.flags = Flags.none ∧ frame.messageType ∈ deviceRequests ∧
    frame.messageType ≠ .hello

instance (frame : Frame) : Decidable (IsCommand frame) :=
  inferInstanceAs (Decidable (_ ∧ _))

/-- Whether the bytes are a HELLO. -/
def isHello (raw : List UInt8) : Bool :=
  match Frame.decode raw with
  | .error _ => false
  | .ok frame => frame.messageType = .hello

/-- What has reached the port: whole frames, and the part of a last one. -/
structure Port where
  frames : List (List UInt8)
  begun : Option (List UInt8 × Nat)
  deriving DecidableEq

namespace Port

/-- Nothing has reached the port. -/
def empty : Port := ⟨[], none⟩

/-- The frames of which at least a part has reached the port. -/
def all (port : Port) : List (List UInt8) :=
  port.frames ++ (port.begun.map Prod.fst).toList

/-- The port after the next part of a frame. -/
def advance (port : Port) (chunk : Chunk) : Port :=
  if chunk.offset + chunk.count < chunk.frame.length then
    ⟨port.frames, some (chunk.frame, chunk.offset + chunk.count)⟩
  else
    ⟨port.frames ++ [chunk.frame], none⟩

/-- A part of a frame continues the frame that has been begun, or begins one
when none has been. -/
def accept (port : Port) (chunk : Chunk) : Option Port :=
  if chunk.count = 0 then
    some port
  else if port.begun.getD (chunk.frame, 0) = (chunk.frame, chunk.offset) then
    some (port.advance chunk)
  else
    none

/-- The frames on the port, unless one has been put inside another. -/
def reassemble (chunks : List Chunk) : Option Port :=
  chunks.foldlM accept empty

/-- The port after one more part. -/
theorem reassemble_concat (chunks : List Chunk) (chunk : Chunk) :
    reassemble (chunks ++ [chunk]) =
      (reassemble chunks).bind (accept · chunk) := by
  simp [reassemble, List.foldlM_append, Option.bind_eq_bind]

end Port

namespace ProxySession

/-- The part of a frame a step puts on the port. -/
def chunkOf : Shown → Option Chunk
  | .wrote chunk _ => some chunk
  | _ => none

/-- The command a step receives from the core. -/
def commandOf : Shown → Option (List UInt8)
  | .received frame raw => if IsCommand frame then some raw else none
  | _ => none

/-- The parts of frames on the port, in order. -/
def chunks (record : List Step) : List Chunk :=
  record.filterMap fun event => chunkOf event.output

/-- The commands received from the core, in order. -/
def commands (record : List Step) : List (List UInt8) :=
  record.filterMap fun event => commandOf event.output

/-- Whether a step is a write to the port that fails. -/
def failsWrite : Shown → Bool
  | .wrote _ failed => failed
  | _ => false

/-- A write to the port has failed. -/
def PortFailed (record : List Step) : Prop :=
  ∃ event ∈ record, failsWrite event.output = true

/-- A replay of the spool has come to its end. -/
def Replayed (record : List Step) : Prop :=
  ∃ event ∈ record, event.output = .drained

/-- The reader has a ninth command to defer. -/
def Overflows (event : Step) : Prop :=
  event.input.thread = .coreReader ∧
    (∃ raw, event.source.coreReader = .offering raw) ∧
    event.source.forwardingEnabled = false ∧
    8 ≤ event.source.deferredCommands.length

/-- The frames on the port are whole, one after another, and the commands among
them are the first commands of the core. -/
def PortInOrder (record : List Step) : Prop :=
  ∃ port, Port.reassemble (chunks record) = some port ∧
    port.all.filter (!isHello ·) <+: commands record

instance (record : List Step) : Decidable (PortInOrder record) :=
  match shape : Port.reassemble (chunks record) with
  | none => isFalse fun ⟨_, reassembled, _⟩ => by
      rw [shape] at reassembled
      cases reassembled
  | some port =>
      decidable_of_iff (port.all.filter (!isHello ·) <+: commands record)
        ⟨fun first => ⟨port, shape, first⟩, fun ⟨_, reassembled, first⟩ => by
          obtain rfl := Option.some.inj (shape.symm.trans reassembled)
          exact first⟩

/-- A step that puts a part of a command on the port comes after the replay. -/
def AfterReplay (earlier : List Step) (event : Step) : Prop :=
  ∀ chunk, chunkOf event.output = some chunk → isHello chunk.frame = false →
    Replayed earlier

/-- The law of the forwarded commands, in the state a record leads to. -/
structure ForwardsInOrder (record : List Step) (session : ProxySession) :
    Prop where
  inOrder : PortInOrder record
  afterReplay : EveryStep AfterReplay record
  bounded : session.deferredCommands.length ≤ 8
  overflow :
    (∃ event ∈ record, Overflows event) →
      session.coreReader = .failing tooManyCommands ∨
        session.coreReader = .ended ∧ session.stop = true

/-- No step writes to the port after a write to it has failed. -/
def LeavesFailedPort (earlier : List Step) (event : Step) : Prop :=
  (chunkOf event.output).isSome = true → ¬PortFailed earlier

instance (record : List Step) : Decidable (PortFailed record) :=
  inferInstanceAs (Decidable (∃ event ∈ record, _))

instance (earlier : List Step) (event : Step) :
    Decidable (LeavesFailedPort earlier event) :=
  inferInstanceAs (Decidable (_ → ¬_))

/-- What the serial loop does with the queue. -/
inductive Flusher where
  | away
  | waiting
  | enabling
  | flushing (offset : Nat) (queued : List (List UInt8))

/-- What the core reader does with a command. -/
inductive Forwarder where
  | away
  | offering (raw : List UInt8)
  | acquiring (raw : List UInt8)
  | writing (raw : List UInt8) (offset : Nat)
  | gone

/-- The two writers and the queue between them. -/
structure Forwarding where
  flusher : Flusher
  forwarder : Forwarder
  enabled : Bool
  deferred : List (List UInt8)
  lock : Option Thread

/-- The part of the serial loop. -/
def flusher : SerialLoop → Flusher
  | .acquiring => .waiting
  | .enabling => .enabling
  | .flushing offset queued => .flushing offset queued
  | _ => .away

/-- The part of the core reader. -/
def forwarder : CoreReader → Forwarder
  | .offering raw => .offering raw
  | .acquiring raw => .acquiring raw
  | .writing raw offset => .writing raw offset
  | .failing _ => .gone
  | .ended => .gone
  | _ => .away

/-- The writers of a session. -/
def forwarding (session : ProxySession) : Forwarding where
  flusher := flusher session.serialLoop
  forwarder := forwarder session.coreReader
  enabled := session.forwardingEnabled
  deferred := session.deferredCommands
  lock := session.serialWriteLock

/-- Nothing is written, no command is received and no replay ends. -/
def Quiet (shown : Shown) : Prop :=
  chunkOf shown = none ∧ commandOf shown = none ∧ shown ≠ .drained

/-- What a step can do to the writers. -/
inductive Moves : Forwarding → Shown → Forwarding → Prop where
  | rests {view shown} (quiet : Quiet shown) : Moves view shown view
  | receives {view frame raw}
      (away : view.forwarder = .away)
      (decoded : Frame.decode raw = .ok frame)
      (command : IsCommand frame) :
      Moves view (.received frame raw) { view with forwarder := .offering raw }
  | greets {view frame raw}
      (away : view.forwarder = .away)
      (quiet : Quiet (.received frame raw))
      (hello : isHello raw = true) :
      Moves view (.received frame raw) { view with forwarder := .acquiring raw }
  | defers {view raw}
      (offering : view.forwarder = .offering raw)
      (disabled : view.enabled = false)
      (room : view.deferred.length < 8) :
      Moves view .silent
        { view with forwarder := .away, deferred := view.deferred ++ [raw] }
  | forwards {view raw}
      (offering : view.forwarder = .offering raw)
      (enabled : view.enabled = true) :
      Moves view .silent { view with forwarder := .acquiring raw }
  | readerLocks {view raw}
      (acquiring : view.forwarder = .acquiring raw)
      (free : view.lock = none) :
      Moves view .silent
        { view with forwarder := .writing raw 0, lock := some .coreReader }
  | readerWrites {view raw offset count}
      (writing : view.forwarder = .writing raw offset)
      (progress : 0 < count)
      (fits : offset + count ≤ raw.length) :
      Moves view (.wrote ⟨raw, offset, count⟩ false)
        { view with forwarder := .writing raw (offset + count) }
  | readerFails {view raw offset count}
      (writing : view.forwarder = .writing raw offset)
      (unfinished : offset < raw.length)
      (fits : offset + count ≤ raw.length) :
      Moves view (.wrote ⟨raw, offset, count⟩ true)
        { view with forwarder := .gone, lock := none }
  | readerFinishes {view raw offset}
      (writing : view.forwarder = .writing raw offset)
      (finished : raw.length ≤ offset) :
      Moves view .silent { view with forwarder := .away, lock := none }
  | readerLeaves {view shown}
      (quiet : Quiet shown)
      (unlocked : ∀ raw offset, view.forwarder ≠ .writing raw offset) :
      Moves view shown { view with forwarder := .gone }
  | serialDrains {view}
      (away : view.flusher = .away) :
      Moves view .drained { view with flusher := .waiting }
  | serialLocks {view}
      (waiting : view.flusher = .waiting)
      (free : view.lock = none) :
      Moves view .silent
        { view with flusher := .enabling, lock := some .serialLoop }
  | serialEnables {view}
      (enabling : view.flusher = .enabling) :
      Moves view .silent
        { view with
          flusher := .flushing 0 view.deferred
          enabled := true
          deferred := [] }
  | serialWrites {view offset command queued count}
      (flushing : view.flusher = .flushing offset (command :: queued))
      (progress : 0 < count)
      (fits : offset + count ≤ command.length) :
      Moves view (.wrote ⟨command, offset, count⟩ false)
        { view with flusher := .flushing (offset + count) (command :: queued) }
  | serialFails {view offset command queued count}
      (flushing : view.flusher = .flushing offset (command :: queued))
      (unfinished : offset < command.length)
      (fits : offset + count ≤ command.length) :
      Moves view (.wrote ⟨command, offset, count⟩ true)
        { view with flusher := .away, lock := none }
  | serialContinues {view offset command queued}
      (flushing : view.flusher = .flushing offset (command :: queued))
      (finished : command.length ≤ offset) :
      Moves view .silent { view with flusher := .flushing 0 queued }
  | serialReleases {view offset}
      (flushing : view.flusher = .flushing offset []) :
      Moves view .silent { view with flusher := .away, lock := none }

/-- An idle serial loop does not write. -/
theorem flusher_of_idle {here : SerialLoop} (idle : here.Idle) :
    flusher here = .away := by
  cases here with
  | looping | assembling | reading =>
      rfl
  | _ =>
      exact idle.elim

/-- A serial loop that can fail outside the lock does not write. -/
theorem flusher_of_unlocked {here : SerialLoop} (unlocked : here.Unlocked) :
    flusher here = .away := by
  cases here with
  | acquiring | enabling | flushing | unwinding | ended =>
      exact unlocked.elim
  | _ =>
      rfl

/-- A replay that goes on does not write. -/
theorem flusher_continueReplay (rest : List PendingCapture) :
    flusher (continueReplay rest) = .away := by
  cases rest <;> rfl

/-- A step of the serial loop, as one of the writers. -/
theorem SerialStep.moves
    {session : ProxySession}
    {result : ProxySession × Shown}
    (step : SerialStep session result) :
    Moves session.forwarding result.2 result.1.forwarding := by
  have silent : Quiet .silent := ⟨rfl, rfl, nofun⟩
  have rests
      {next : ProxySession}
      {shown : Shown}
      (quiet : Quiet shown)
      (before : flusher session.serialLoop = .away)
      (after : flusher next.serialLoop = .away)
      (same :
        { session.forwarding with flusher := flusher next.serialLoop } =
          next.forwarding) :
      Moves session.forwarding shown next.forwarding := by
    rw [← same, after, ← before]
    exact .rests quiet
  cases step with
  | waits =>
      exact .rests silent
  | rounds next idle goes =>
      refine rests silent (flusher_of_idle idle) ?_ rfl
      rcases goes with idle | rfl
      · exact flusher_of_idle idle
      · rfl
  | fails raised unlocked =>
      exact rests silent (flusher_of_unlocked unlocked) rfl rfl
  | hears raw frame idle decoded =>
      refine rests ⟨rfl, rfl, nofun⟩ (flusher_of_idle idle) ?_ rfl
      dsimp only
      split <;> rfl
  | forwards frame here =>
      refine rests ⟨rfl, rfl, nofun⟩ (by rw [here]; rfl) ?_ rfl
      simp only [toSerial]
      split <;> rfl
  | stores frame raw firstOffset request spool pending here stored =>
      exact rests silent (by rw [here]; rfl) rfl rfl
  | drains here empty =>
      exact .serialDrains (by simp only [forwarding, here]; rfl)
  | replays pending rest here batch =>
      exact rests silent (by rw [here]; rfl) rfl rfl
  | registers delivery here =>
      exact rests silent (by rw [here]; rfl) rfl rfl
  | hands delivery event frame here built =>
      exact rests ⟨rfl, rfl, nofun⟩ (by rw [here]; rfl) rfl rfl
  | confirmed delivery event here isSet =>
      exact rests silent (by rw [here]; rfl) rfl rfl
  | releases delivery here =>
      refine rests silent (by rw [here]; rfl) ?_ rfl
      dsimp only
      cases delivery.rest with
      | none =>
          rfl
      | some rest =>
          exact flusher_continueReplay rest
  | locks here free =>
      exact .serialLocks (by simp only [forwarding, here]; rfl) free
  | enables here =>
      exact .serialEnables (by simp only [forwarding, here]; rfl)
  | writes offset command queued count here progress fits =>
      exact .serialWrites (by simp only [forwarding, here]; rfl) progress fits
  | writeFails offset command queued count raised here unfinished fits =>
      exact .serialFails (by simp only [forwarding, here]; rfl) unfinished fits
  | continues offset command queued here finished =>
      exact .serialContinues (by simp only [forwarding, here]; rfl) finished
  | unlocks offset here =>
      exact .serialReleases (by simp only [forwarding, here]; rfl)
  | stops raised here =>
      exact rests silent (by rw [here]; rfl) rfl rfl

/-- A received frame is a receipt, a HELLO, a command, or no frame to forward;
the reader goes on with it accordingly. -/
theorem moves_dispatch
    {session : ProxySession}
    {before raw : List UInt8}
    {frame : Frame}
    (here : session.coreReader = .receiving before)
    (decoded : Frame.decode raw = .ok frame) :
    Moves session.forwarding (.received frame raw)
      (session.toReader (dispatch frame raw)).forwarding := by
  have away : session.forwarding.forwarder = .away := by
    simp only [forwarding, here]
    rfl
  have quiet (none_ : ¬IsCommand frame) : Quiet (.received frame raw) :=
    ⟨rfl, if_neg none_, nofun⟩
  have leaves (quiet : Quiet (.received frame raw)) :
      Moves session.forwarding (.received frame raw)
        { session.forwarding with forwarder := .gone } :=
    .readerLeaves quiet (by simp [away])
  unfold dispatch
  split
  · rename_i receipt
    have none_ : ¬IsCommand frame := by
      rintro ⟨-, known, -⟩
      rw [receipt] at known
      revert known
      decide
    split
    · exact leaves (quiet none_)
    · split
      · exact leaves (quiet none_)
      · have same :
            session.forwarding =
              { session.forwarding with forwarder := .away } := by
          rw [← away]
        exact same ▸ .rests (quiet none_)
  · split
    · rename_i refused
      apply leaves (quiet _)
      rintro ⟨plain, known, -⟩
      rcases refused with flagged | unknown
      · exact flagged plain
      · exact unknown known
    · rename_i accepted
      obtain ⟨plain, known⟩ := not_or.1 accepted
      split
      · rename_i other
        exact .receives away decoded
          ⟨not_not.1 plain, not_not.1 known, other⟩
      · rename_i hello
        apply Moves.greets away (quiet _)
        · simp only [isHello, decoded]
          exact decide_eq_true (not_not.1 hello)
        · exact fun command => hello command.2.2

/-- A step of the core reader, as one of the writers. -/
theorem ReaderStep.moves
    {session : ProxySession}
    {result : ProxySession × Shown}
    (step : ReaderStep session result) :
    Moves session.forwarding result.2 result.1.forwarding := by
  have silent : Quiet .silent := ⟨rfl, rfl, nofun⟩
  have rests
      {next : ProxySession}
      {shown : Shown}
      (quiet : Quiet shown)
      (before : forwarder session.coreReader = .away)
      (after : forwarder next.coreReader = .away)
      (same :
        { session.forwarding with forwarder := forwarder next.coreReader } =
          next.forwarding) :
      Moves session.forwarding shown next.forwarding := by
    rw [← same, after, ← before]
    exact .rests quiet
  cases step with
  | waits =>
      exact .rests silent
  | begins here =>
      exact rests silent (by rw [here]; rfl) rfl rfl
  | leaves here stopped =>
      exact .readerLeaves silent (by simp [forwarding, here, forwarder])
  | reads raw next here =>
      exact rests silent (by rw [here]; rfl) rfl rfl
  | receives before raw frame here decoded =>
      exact moves_dispatch here decoded
  | fails raised unlocked =>
      apply Moves.readerLeaves silent
      intro raw offset writing
      cases here : session.coreReader with
      | writing raw offset =>
          rw [here] at unlocked
          exact unlocked
      | _ =>
          simp [forwarding, here, forwarder] at writing
  | commits sequence receipt spool disposition here committed =>
      exact rests ⟨rfl, rfl, nofun⟩ (by rw [here]; rfl) rfl rfl
  | responds sequence receipt disposition frame here built =>
      exact rests ⟨rfl, rfl, nofun⟩ (by rw [here]; rfl) rfl rfl
  | finds recordId event here found =>
      exact rests silent (by rw [here]; rfl) rfl rfl
  | sets event here =>
      exact rests silent (by rw [here]; rfl) rfl rfl
  | forwards raw here enabled =>
      exact .forwards (by simp only [forwarding, here]; rfl) enabled
  | overflows raw here disabled full =>
      exact .readerLeaves silent (by simp [forwarding, here, forwarder])
  | defers raw here disabled room =>
      exact .defers (by simp only [forwarding, here]; rfl) disabled room
  | locks raw here free =>
      exact .readerLocks (by simp only [forwarding, here]; rfl) free
  | writes raw offset count here progress fits =>
      exact .readerWrites (by simp only [forwarding, here]; rfl) progress fits
  | writeFails raw offset count raised here unfinished fits =>
      exact .readerFails (by simp only [forwarding, here]; rfl) unfinished fits
  | finishes raw offset here finished =>
      exact .readerFinishes (by simp only [forwarding, here]; rfl) finished
  | stops raised here workerError =>
      have same :
          session.forwarding =
            { session.forwarding with forwarder := .gone } := by
        simp [forwarding, here, forwarder]
      exact same ▸ .rests silent

namespace Forwarding

variable (view : Forwarding)

/-- The frame the serial loop is at, and how much of it is on the port. -/
def flushed : Flusher → Option (List UInt8 × Nat)
  | .flushing offset (command :: _) => some (command, offset)
  | _ => none

/-- The frame the reader is at, and how much of it is on the port. -/
def written : Forwarder → Option (List UInt8 × Nat)
  | .writing raw offset => some (raw, offset)
  | _ => none

/-- The frame a writer is at. -/
def current : Option (List UInt8 × Nat) :=
  (flushed view.flusher).or (written view.forwarder)

/-- The frame a part of which is on the port. -/
def begun : Option (List UInt8 × Nat) :=
  view.current.filter fun frame => 0 < frame.2 ∧ frame.2 < frame.1.length

/-- A frame is begun between its first and its last byte. -/
theorem begun_of_current
    {view : Forwarding}
    {frame : List UInt8}
    {offset : Nat}
    (current : view.current = some (frame, offset)) :
    view.begun =
      if 0 < offset ∧ offset < frame.length then some (frame, offset)
      else none := by
  simp [begun, current, Option.filter_some]

/-- The frames the serial loop has still to finish. -/
def unflushed : Flusher → List (List UInt8)
  | .flushing offset (command :: queued) =>
      if offset < command.length then command :: queued else queued
  | _ => []

/-- The frame the reader has still to finish. -/
def inHand : Forwarder → List (List UInt8)
  | .offering raw => [raw]
  | .acquiring raw => [raw]
  | .writing raw offset => if offset < raw.length then [raw] else []
  | _ => []

/-- The commands that are not on the port yet, or not as a whole. -/
def queue : List (List UInt8) :=
  unflushed view.flusher ++ view.deferred ++
    (inHand view.forwarder).filter (!isHello ·)

/-- The lock keeps the writers apart, and nothing is deferred any more once the
serial loop has taken the queue. -/
structure Guarded : Prop where
  enablingLocked :
    view.flusher = .enabling → view.lock = some .serialLoop
  flushingLocked :
    ∀ offset queued, view.flusher = .flushing offset queued →
      view.lock = some .serialLoop
  readerLocked :
    ∀ raw offset, view.forwarder = .writing raw offset →
      view.lock = some .coreReader
  taken : view.enabled = true → view.deferred = []
  offering : ∀ raw, view.forwarder = .offering raw → isHello raw = false
  flushing :
    ∀ offset queued, view.flusher = .flushing offset queued →
      view.enabled = true
  acquiring :
    ∀ raw, view.forwarder = .acquiring raw → isHello raw = false →
      view.enabled = true
  writing :
    ∀ raw offset, view.forwarder = .writing raw offset →
      isHello raw = false → view.enabled = true
  bounded : view.deferred.length ≤ 8

variable {view}

/-- Every step keeps the writers apart. -/
theorem Guarded.step
    {shown : Shown}
    {next : Forwarding}
    (guarded : view.Guarded)
    (moves : Moves view shown next) :
    next.Guarded := by
  cases moves with
  | rests quiet =>
      exact guarded
  | @receives frame raw away decoded command =>
      have plain : isHello raw = false := by
        simpa [isHello, decoded] using command.2.2
      exact { guarded with
        readerLocked := by simp
        offering := by simp [plain]
        acquiring := by simp
        writing := by simp }
  | greets away quiet hello =>
      exact { guarded with
        readerLocked := by simp
        offering := by simp
        acquiring := by simp_all
        writing := by simp }
  | defers offering disabled room =>
      exact { guarded with
        readerLocked := by simp
        offering := by simp
        taken := by simp [disabled]
        acquiring := by simp
        writing := by simp
        bounded := by
          simp only [List.length_append, List.length_singleton]
          omega }
  | forwards offering enabled =>
      exact { guarded with
        readerLocked := by simp
        offering := by simp
        acquiring := fun _ _ _ => enabled
        writing := by simp }
  | readerLocks acquiring free =>
      refine { guarded with
        enablingLocked := fun enabling => ?_
        flushingLocked := fun offset queued flushing => ?_
        readerLocked := by simp
        offering := by simp
        acquiring := by simp
        writing := fun raw offset writing plain => ?_ }
      · simp [guarded.enablingLocked enabling] at free
      · simp [guarded.flushingLocked offset queued flushing] at free
      · obtain ⟨rfl, -⟩ := Forwarder.writing.inj writing
        exact guarded.acquiring _ acquiring plain
  | readerWrites writing progress fits =>
      exact { guarded with
        readerLocked := fun _ _ _ => guarded.readerLocked _ _ writing
        offering := by simp
        acquiring := by simp
        writing := fun raw offset at_ plain => by
          obtain ⟨rfl, -⟩ := Forwarder.writing.inj at_
          exact guarded.writing _ _ writing plain }
  | readerFails writing unfinished fits =>
      have held := guarded.readerLocked _ _ writing
      refine { guarded with
        enablingLocked := fun enabling => ?_
        flushingLocked := fun offset queued flushing => ?_
        readerLocked := by simp
        offering := by simp
        acquiring := by simp
        writing := by simp }
      · simp [guarded.enablingLocked enabling] at held
      · simp [guarded.flushingLocked offset queued flushing] at held
  | readerFinishes writing finished =>
      have held := guarded.readerLocked _ _ writing
      refine { guarded with
        enablingLocked := fun enabling => ?_
        flushingLocked := fun offset queued flushing => ?_
        readerLocked := by simp
        offering := by simp
        acquiring := by simp
        writing := by simp }
      · simp [guarded.enablingLocked enabling] at held
      · simp [guarded.flushingLocked offset queued flushing] at held
  | readerLeaves quiet unlocked =>
      exact { guarded with
        readerLocked := by simp
        offering := by simp
        acquiring := by simp
        writing := by simp }
  | serialDrains away =>
      exact { guarded with
        enablingLocked := by simp
        flushingLocked := by simp
        flushing := by simp }
  | serialLocks waiting free =>
      refine { guarded with
        enablingLocked := by simp
        flushingLocked := by simp
        readerLocked := fun raw offset writing => ?_
        flushing := by simp }
      simp [guarded.readerLocked raw offset writing] at free
  | serialEnables enabling =>
      exact { guarded with
        enablingLocked := by simp
        flushingLocked := fun _ _ _ => guarded.enablingLocked enabling
        taken := by simp
        flushing := by simp
        acquiring := by simp
        writing := by simp
        bounded := by simp }
  | serialWrites flushing progress fits =>
      exact { guarded with
        enablingLocked := by simp
        flushingLocked := fun _ _ _ => guarded.flushingLocked _ _ flushing
        flushing := fun _ _ _ => guarded.flushing _ _ flushing }
  | serialFails flushing unfinished fits =>
      have held := guarded.flushingLocked _ _ flushing
      refine { guarded with
        enablingLocked := by simp
        flushingLocked := by simp
        readerLocked := fun raw offset writing => ?_
        flushing := by simp }
      simp [guarded.readerLocked raw offset writing] at held
  | serialContinues flushing finished =>
      exact { guarded with
        enablingLocked := by simp
        flushingLocked := fun _ _ _ => guarded.flushingLocked _ _ flushing
        flushing := fun _ _ _ => guarded.flushing _ _ flushing }
  | serialReleases flushing =>
      have held := guarded.flushingLocked _ _ flushing
      refine { guarded with
        enablingLocked := by simp
        flushingLocked := by simp
        readerLocked := fun raw offset writing => ?_
        flushing := by simp }
      simp [guarded.readerLocked raw offset writing] at held

/-- While the reader holds the lock, the serial loop is at no frame. -/
theorem Guarded.flusher_of_writing
    (guarded : view.Guarded)
    {raw : List UInt8}
    {offset : Nat}
    (writing : view.forwarder = .writing raw offset) :
    flushed view.flusher = none ∧ unflushed view.flusher = [] := by
  have held := guarded.readerLocked _ _ writing
  cases at_ : view.flusher with
  | flushing offset queued =>
      simp [guarded.flushingLocked _ _ at_] at held
  | _ =>
      exact ⟨rfl, rfl⟩

/-- While the reader does not hold the lock, it is at no frame. -/
theorem Guarded.written_of_lock
    (guarded : view.Guarded)
    (other : view.lock ≠ some .coreReader) :
    written view.forwarder = none := by
  cases at_ : view.forwarder with
  | writing raw offset =>
      exact absurd (guarded.readerLocked _ _ at_) other
  | _ =>
      rfl

/-- A command a writer is at comes first of those that are left. -/
theorem Guarded.queue_of_current
    (guarded : view.Guarded)
    {frame : List UInt8}
    {offset : Nat}
    (current : view.current = some (frame, offset))
    (unfinished : offset < frame.length)
    (command : isHello frame = false) :
    ∃ rest, view.queue = frame :: rest := by
  unfold Forwarding.current at current
  cases at_ : view.forwarder with
  | writing raw position =>
      obtain ⟨flushed, unflushed⟩ := guarded.flusher_of_writing at_
      rw [flushed, at_] at current
      obtain ⟨rfl, rfl⟩ := Prod.mk.inj (Option.some.inj current)
      have taken := guarded.taken (guarded.writing _ _ at_ command)
      exact ⟨[], by
        simp [queue, unflushed, taken, at_, inHand, unfinished, command]⟩
  | _ =>
      rw [at_] at current
      cases flushing : view.flusher with
      | flushing position queued =>
          cases queued with
          | nil =>
              simp [flushing, flushed, written] at current
          | cons first queued =>
              obtain ⟨rfl, rfl⟩ : first = frame ∧ position = offset := by
                simpa [flushing, flushed] using current
              simp [queue, flushing, unflushed, unfinished]
      | _ =>
          simp [flushing, flushed, written] at current

end Forwarding

/-- Every step of a session is one of the writers. -/
theorem step_moves (session : ProxySession) (choice : Choice) :
    Moves session.forwarding (machine.event session choice).output
      (machine.event session choice).target.forwarding := by
  obtain ⟨thread, meets⟩ := choice
  cases thread with
  | serialLoop =>
      exact (stepSerial_cases session meets).moves
  | coreReader =>
      exact (stepReader_cases session meets).moves

/-- The parts of frames after one more step. -/
theorem chunks_concat (record : List Step) (event : Step) :
    chunks (record ++ [event]) =
      chunks record ++ (chunkOf event.output).toList := by
  simp only [chunks, List.filterMap_append]
  cases shown : chunkOf event.output <;> simp [shown]

/-- The commands after one more step. -/
theorem commands_concat (record : List Step) (event : Step) :
    commands (record ++ [event]) =
      commands record ++ (commandOf event.output).toList := by
  simp only [commands, List.filterMap_append]
  cases shown : commandOf event.output <;> simp [shown]

/-- The writes that fail. -/
theorem failsWrite_iff {shown : Shown} :
    failsWrite shown = true ↔ ∃ chunk, shown = .wrote chunk true := by
  cases shown <;> simp [failsWrite]

/-- A write to the port has failed before, or fails now. -/
theorem portFailed_concat (record : List Step) (event : Step) :
    PortFailed (record ++ [event]) ↔
      PortFailed record ∨ ∃ chunk, event.output = .wrote chunk true := by
  simp [PortFailed, failsWrite_iff, or_and_right, exists_or]

/-- The commands on the port and those that are left are the commands received,
as long as the reader receives. -/
structure Queued (record : List Step) (view : Forwarding) (port : Port) :
    Prop where
  reassembled : Port.reassemble (chunks record) = some port
  begun : port.begun = view.begun
  initial :
    port.frames.filter (!isHello ·) ++ view.queue <+: commands record
  complete :
    view.forwarder ≠ .gone →
      port.frames.filter (!isHello ·) ++ view.queue = commands record
  plain : ∀ raw ∈ commands record, isHello raw = false ∧ raw ≠ []

namespace Queued

variable {record : List Step} {view next : Forwarding} {port : Port}

/-- A step that shows neither a part of a frame nor a command. -/
theorem rests
    {event : Step}
    (queued : Queued record view port)
    (quiet : chunkOf event.output = none ∧ commandOf event.output = none)
    (begun : next.begun = view.begun)
    (queue : next.queue <+: view.queue)
    (complete : next.forwarder ≠ .gone →
      view.forwarder ≠ .gone ∧ next.queue = view.queue) :
    Queued (record ++ [event]) next port where
  reassembled := by
    simpa [chunks_concat, quiet.1] using queued.reassembled
  begun := queued.begun.trans begun.symm
  initial := by
    rw [commands_concat, quiet.2, Option.toList_none, List.append_nil]
    exact (List.prefix_append_right_inj _).2 queue |>.trans queued.initial
  complete := by
    intro alive
    obtain ⟨aliveBefore, same⟩ := complete alive
    rw [commands_concat, quiet.2, Option.toList_none, List.append_nil, same]
    exact queued.complete aliveBefore
  plain := by
    simpa [commands_concat, quiet.2] using queued.plain

/-- A step that shows neither and keeps what is left. -/
theorem keeps
    {event : Step}
    (queued : Queued record view port)
    (quiet : chunkOf event.output = none ∧ commandOf event.output = none)
    (begun : next.begun = view.begun)
    (queue : next.queue = view.queue)
    (gone : view.forwarder = .gone → next.forwarder = .gone) :
    Queued (record ++ [event]) next port :=
  queued.rests quiet begun (queue ▸ List.prefix_refl _) fun alive =>
    ⟨fun dead => alive (gone dead), queue⟩

/-- The frame a writer is at is a HELLO or the next command. -/
theorem prefix_current
    (queued : Queued record view port)
    (guarded : view.Guarded)
    {frame : List UInt8}
    {offset : Nat}
    (current : view.current = some (frame, offset))
    (unfinished : offset < frame.length) :
    (port.frames ++ [frame]).filter (!isHello ·) <+: commands record := by
  cases hello : isHello frame with
  | true =>
      simpa [hello] using
        (List.prefix_append _ _).trans queued.initial
  | false =>
      obtain ⟨rest, first⟩ :=
        guarded.queue_of_current current unfinished hello
      have initial := queued.initial
      rw [first] at initial
      refine List.IsPrefix.trans ?_ initial
      simp [hello]

/-- The commands on the port are the first ones received. -/
theorem portInOrder
    (queued : Queued record view port)
    (guarded : view.Guarded) :
    PortInOrder record := by
  refine ⟨port, queued.reassembled, ?_⟩
  cases begun : port.begun with
  | none =>
      simpa [Port.all, begun] using
        (List.prefix_append _ _).trans queued.initial
  | some frame =>
      have at_ := queued.begun.symm.trans begun
      obtain ⟨current, -, unfinished⟩ := by
        simpa [Forwarding.begun, Option.filter_eq_some_iff] using at_
      have first := queued.prefix_current guarded current unfinished
      simpa [Port.all, begun] using first

/-- The part of a frame a writer puts on the port continues what is there. -/
theorem accepts
    (queued : Queued record view port)
    {frame : List UInt8}
    {offset count : Nat}
    (current : view.current = some (frame, offset))
    (progress : 0 < count)
    (fits : offset + count ≤ frame.length) :
    port.accept ⟨frame, offset, count⟩ =
      some (port.advance ⟨frame, offset, count⟩) := by
  have continues :
      port.begun.getD (frame, 0) = (frame, offset) := by
    rw [queued.begun, Forwarding.begun_of_current current]
    split
    · rfl
    · have fresh : offset = 0 := by omega
      simp [fresh]
  simp [Port.accept, continues, Nat.ne_of_gt progress]

/-- A failed write leaves the commands in order. -/
theorem portInOrder_of_fails
    {event : Step}
    (queued : Queued record view port)
    (guarded : view.Guarded)
    {frame : List UInt8}
    {offset count : Nat}
    (shown : event.output = .wrote ⟨frame, offset, count⟩ true)
    (current : view.current = some (frame, offset))
    (unfinished : offset < frame.length)
    (fits : offset + count ≤ frame.length) :
    PortInOrder (record ++ [event]) := by
  have sameCommands : commands (record ++ [event]) = commands record := by
    simp [commands_concat, shown, commandOf]
  have sameChunks :
      chunks (record ++ [event]) =
        chunks record ++ [⟨frame, offset, count⟩] := by
    simp [chunks_concat, shown, chunkOf]
  cases count with
  | zero =>
      obtain ⟨same, reassembled, first⟩ := queued.portInOrder guarded
      refine ⟨same, ?_, sameCommands ▸ first⟩
      simp [sameChunks, Port.reassemble_concat, reassembled, Port.accept]
  | succ count =>
      refine ⟨port.advance ⟨frame, offset, count + 1⟩, ?_, ?_⟩
      · rw [sameChunks, Port.reassemble_concat, queued.reassembled]
        exact queued.accepts current (Nat.succ_pos count) fits
      · rw [sameCommands]
        have first := queued.prefix_current guarded current unfinished
        unfold Port.advance
        split <;> simpa [Port.all] using first

/-- A write that returns moves the writer on. -/
theorem writes
    {event : Step}
    (queued : Queued record view port)
    {frame : List UInt8}
    {offset count : Nat}
    (shown : event.output = .wrote ⟨frame, offset, count⟩ false)
    (current : view.current = some (frame, offset))
    (progress : 0 < count)
    (fits : offset + count ≤ frame.length)
    (moved : next.current = some (frame, offset + count))
    (gone : view.forwarder = .gone → next.forwarder = .gone)
    (queue :
      view.queue =
        (if offset + count < frame.length then [] else [frame]).filter
          (!isHello ·) ++ next.queue) :
    Queued (record ++ [event]) next
      (port.advance ⟨frame, offset, count⟩) := by
  have sameCommands : commands (record ++ [event]) = commands record := by
    simp [commands_concat, shown, commandOf]
  have sameLine :
      (port.advance ⟨frame, offset, count⟩).frames.filter (!isHello ·) ++
          next.queue =
        port.frames.filter (!isHello ·) ++ view.queue := by
    rw [queue]
    unfold Port.advance
    split <;> simp
  constructor
  · rw [chunks_concat, shown]
    simp only [chunkOf, Option.toList_some]
    rw [Port.reassemble_concat, queued.reassembled]
    exact queued.accepts current progress fits
  · have started : 0 < offset + count := by omega
    rw [Forwarding.begun_of_current moved, Port.advance]
    split
    · rename_i unfinished
      rw [if_pos ⟨started, unfinished⟩]
    · rename_i finished
      rw [if_neg fun unfinished => finished unfinished.2]
  · rw [sameLine, sameCommands]
    exact queued.initial
  · intro alive
    rw [sameLine, sameCommands]
    exact queued.complete fun dead => alive (gone dead)
  · rw [sameCommands]
    exact queued.plain

/-- The commands that are left have been received. -/
theorem mem_commands
    (queued : Queued record view port)
    {raw : List UInt8}
    (member : raw ∈ view.queue) :
    raw ∈ commands record :=
  queued.initial.subset (List.mem_append_right _ member)

/-- A new command is the last one. -/
theorem receives
    {event : Step}
    (queued : Queued record view port)
    {frame : Frame}
    {raw : List UInt8}
    (shown : event.output = .received frame raw)
    (away : view.forwarder = .away)
    (decoded : Frame.decode raw = .ok frame)
    (command : IsCommand frame) :
    Queued (record ++ [event]) { view with forwarder := .offering raw }
      port := by
  have plain : isHello raw = false := by
    simpa [isHello, decoded] using command.2.2
  have nonempty : raw ≠ [] := by
    rintro rfl
    simp [Frame.decode, Frame.headerSize, Frame.crcSize, require] at decoded
  have sameCommands :
      commands (record ++ [event]) = commands record ++ [raw] := by
    simp [commands_concat, shown, commandOf, command]
  have sameQueue :
      ({ view with forwarder := .offering raw } : Forwarding).queue =
        view.queue ++ [raw] := by
    simp [Forwarding.queue, Forwarding.inHand, away, plain]
  have complete := queued.complete (by simp [away])
  have everything :
      port.frames.filter (!isHello ·) ++
          ({ view with forwarder := .offering raw } : Forwarding).queue =
        commands (record ++ [event]) := by
    rw [sameCommands, sameQueue, ← complete, List.append_assoc]
  constructor
  · simpa [chunks_concat, shown, chunkOf] using queued.reassembled
  · simp [queued.begun, Forwarding.begun, Forwarding.current,
      Forwarding.written, away]
  · exact everything ▸ List.prefix_refl _
  · exact fun _ => everything
  · rw [sameCommands]
    simp only [List.mem_append, List.mem_singleton]
    rintro other (before | rfl)
    · exact queued.plain other before
    · exact ⟨plain, nonempty⟩

/-- Every step whose writes succeed keeps the commands in order. -/
theorem step
    {event : Step}
    (queued : Queued record view port)
    (guarded : view.Guarded)
    (moves : Moves view event.output next)
    (works : ∀ chunk, event.output ≠ .wrote chunk true) :
    ∃ after, Queued (record ++ [event]) next after := by
  have silent (shown : event.output = .silent) :
      chunkOf event.output = none ∧ commandOf event.output = none := by
    rw [shown]
    exact ⟨rfl, rfl⟩
  generalize shown : event.output = output at moves
  cases moves with
  | rests quiet =>
      exact ⟨port, queued.keeps ⟨shown ▸ quiet.1, shown ▸ quiet.2.1⟩ rfl rfl
        id⟩
  | receives away decoded command =>
      exact ⟨port, queued.receives shown away decoded command⟩
  | greets away quiet hello =>
      refine ⟨port, queued.keeps ⟨shown ▸ quiet.1, shown ▸ quiet.2.1⟩
        ?_ ?_ (by simp [away])⟩
      · simp [Forwarding.begun, Forwarding.current, Forwarding.written, away]
      · simp [Forwarding.queue, Forwarding.inHand, away, hello]
  | defers offering disabled room =>
      have plain := guarded.offering _ offering
      refine ⟨port, queued.keeps (silent shown) ?_ ?_ (by simp [offering])⟩
      · simp [Forwarding.begun, Forwarding.current, Forwarding.written,
          offering]
      · simp [Forwarding.queue, Forwarding.inHand, offering, plain]
  | forwards offering enabled =>
      refine ⟨port, queued.keeps (silent shown) ?_ ?_ (by simp [offering])⟩
      · simp [Forwarding.begun, Forwarding.current, Forwarding.written,
          offering]
      · simp [Forwarding.queue, Forwarding.inHand, offering]
  | @readerLocks raw acquiring free =>
      have flushed : Forwarding.flushed view.flusher = none := by
        cases at_ : view.flusher with
        | flushing offset queued =>
            simp [guarded.flushingLocked _ _ at_] at free
        | _ =>
            rfl
      have sameQueue :
          (Forwarding.inHand (.writing raw 0)).filter (!isHello ·) =
            (Forwarding.inHand (.acquiring raw)).filter (!isHello ·) := by
        cases hello : isHello raw with
        | true =>
            simp only [Forwarding.inHand]
            split <;> simp [hello]
        | false =>
            have member : raw ∈ view.queue := by
              simp [Forwarding.queue, Forwarding.inHand, acquiring, hello]
            have nonempty := (queued.plain raw (queued.mem_commands member)).2
            simp [Forwarding.inHand, List.length_pos_iff.2 nonempty]
      refine ⟨port, queued.keeps (silent shown) ?_ ?_ (by simp [acquiring])⟩
      · simp [Forwarding.begun, Forwarding.current, Forwarding.written,
          acquiring, flushed]
      · simp only [Forwarding.queue, acquiring, sameQueue]
  | @readerWrites raw offset count writing progress fits =>
      obtain ⟨flushed, unflushed⟩ := guarded.flusher_of_writing writing
      refine ⟨_, queued.writes shown ?_ progress fits ?_ ?_ ?_⟩
      · simp [Forwarding.current, Forwarding.written, writing, flushed]
      · simp [Forwarding.current, Forwarding.written, flushed]
      · simp [writing]
      · have unfinished : offset < raw.length := by omega
        cases hello : isHello raw with
        | true =>
            simp only [Forwarding.queue, Forwarding.inHand, writing]
            split_ifs <;> simp [hello]
        | false =>
            have taken := guarded.taken (guarded.writing _ _ writing hello)
            simp only [Forwarding.queue, Forwarding.inHand, writing, unflushed,
              taken]
            split_ifs <;> simp [hello]
  | readerFails writing unfinished fits =>
      exact absurd shown (works _)
  | @readerFinishes raw offset writing finished =>
      have done : ¬offset < raw.length := by omega
      refine ⟨port, queued.keeps (silent shown) ?_ ?_ (by simp [writing])⟩
      · obtain ⟨flushed, -⟩ := guarded.flusher_of_writing writing
        simp [Forwarding.begun, Forwarding.current, Forwarding.written, writing,
          flushed, Option.filter_some, done]
      · simp [Forwarding.queue, Forwarding.inHand, writing, done]
  | readerLeaves quiet unlocked =>
      refine ⟨port, queued.rests ⟨shown ▸ quiet.1, shown ▸ quiet.2.1⟩
        ?_ ?_ ?_⟩
      · have written : Forwarding.written view.forwarder = none := by
          cases at_ : view.forwarder with
          | writing raw offset =>
              exact absurd at_ (unlocked raw offset)
          | _ =>
              rfl
        simp only [Forwarding.begun, Forwarding.current, written]
        rfl
      · simp [Forwarding.queue, Forwarding.inHand]
      · simp
  | serialDrains away =>
      refine ⟨port, queued.keeps (shown ▸ ⟨rfl, rfl⟩) ?_ ?_ id⟩
      · simp [Forwarding.begun, Forwarding.current, Forwarding.flushed, away]
      · simp [Forwarding.queue, Forwarding.unflushed, away]
  | serialLocks waiting free =>
      refine ⟨port, queued.keeps (silent shown) ?_ ?_ id⟩
      · simp [Forwarding.begun, Forwarding.current, Forwarding.flushed, waiting]
      · simp [Forwarding.queue, Forwarding.unflushed, waiting]
  | serialEnables enabling =>
      have written := guarded.written_of_lock
        (by simp [guarded.enablingLocked enabling])
      have sameQueue :
          Forwarding.unflushed (.flushing 0 view.deferred) = view.deferred := by
        cases queue : view.deferred with
        | nil =>
            rfl
        | cons command rest =>
            have member : command ∈ view.queue := by
              simp [Forwarding.queue, queue]
            have nonempty :=
              (queued.plain command (queued.mem_commands member)).2
            simp [Forwarding.unflushed, List.length_pos_iff.2 nonempty]
      refine ⟨port, queued.keeps (silent shown) ?_ ?_ id⟩
      · simp only [Forwarding.begun, Forwarding.current, written, enabling]
        cases view.deferred with
        | nil =>
            rfl
        | cons command rest =>
            simp [Forwarding.flushed, Option.filter_some]
      · simp only [Forwarding.queue, sameQueue, enabling, List.append_nil]
        rfl
  | @serialWrites offset command rest count flushing progress fits =>
      have unfinished : offset < command.length := by omega
      refine ⟨_, queued.writes shown ?_ progress fits ?_ ?_ ?_⟩
      · simp [Forwarding.current, Forwarding.flushed, flushing]
      · simp [Forwarding.current, Forwarding.flushed]
      · exact id
      · have member : command ∈ view.queue := by
          simp [Forwarding.queue, Forwarding.unflushed, flushing, unfinished]
        have plain := (queued.plain command (queued.mem_commands member)).1
        simp only [Forwarding.queue, Forwarding.unflushed, flushing, unfinished,
          if_true]
        split_ifs <;> simp [plain]
  | serialFails flushing unfinished fits =>
      exact absurd shown (works _)
  | @serialContinues offset command rest flushing finished =>
      have written := guarded.written_of_lock
        (by simp [guarded.flushingLocked _ _ flushing])
      have done : ¬offset < command.length := by omega
      have sameQueue :
          Forwarding.unflushed (.flushing 0 rest) = rest := by
        cases rest with
        | nil =>
            rfl
        | cons first others =>
            have member : first ∈ view.queue := by
              simp [Forwarding.queue, Forwarding.unflushed, flushing, done]
            have nonempty :=
              (queued.plain first (queued.mem_commands member)).2
            simp [Forwarding.unflushed, List.length_pos_iff.2 nonempty]
      refine ⟨port, queued.keeps (silent shown) ?_ ?_ id⟩
      · simp only [Forwarding.begun, Forwarding.current, written, flushing,
          Forwarding.flushed]
        cases rest with
        | nil =>
            simp [Option.filter_some, done]
        | cons first others =>
            simp [Option.filter_some, done]
      · simp only [Forwarding.queue, sameQueue, flushing]
        simp only [Forwarding.unflushed, done, if_false]
  | serialReleases flushing =>
      refine ⟨port, queued.keeps (silent shown) ?_ ?_ id⟩
      · simp [Forwarding.begun, Forwarding.current, Forwarding.flushed, flushing]
      · simp [Forwarding.queue, Forwarding.unflushed, flushing]

end Queued

/-- A failed write, with the commands in order before it. -/
theorem Queued.fails
    {record : List Step}
    {view next : Forwarding}
    {port : Port}
    {event : Step}
    (queued : Queued record view port)
    (guarded : view.Guarded)
    (moves : Moves view event.output next)
    {chunk : Chunk}
    (failed : event.output = .wrote chunk true) :
    PortInOrder (record ++ [event]) := by
  generalize shown : event.output = output at moves
  cases moves with
  | rests quiet | readerLeaves quiet unlocked =>
      simp [← shown, failed, Quiet, chunkOf] at quiet
  | readerFails writing unfinished fits =>
      obtain ⟨flushed, -⟩ := guarded.flusher_of_writing writing
      apply queued.portInOrder_of_fails guarded shown _ unfinished fits
      simp [Forwarding.current, Forwarding.written, writing, flushed]
  | serialFails flushing unfinished fits =>
      apply queued.portInOrder_of_fails guarded shown _ unfinished fits
      simp [Forwarding.current, Forwarding.flushed, flushing]
  | _ =>
      simp [failed] at shown

/-- A replay that has ended has ended. -/
theorem Replayed.mono
    {record : List Step}
    (replayed : Replayed record)
    (event : Step) :
    Replayed (record ++ [event]) := by
  obtain ⟨earlier, member, drained⟩ := replayed
  exact ⟨earlier, List.mem_append_left _ member, drained⟩

/-- The serial loop takes the queue only after a replay. -/
structure Ready (record : List Step) (view : Forwarding) : Prop where
  flusher : view.flusher ≠ .away → Replayed record
  enabled : view.enabled = true → Replayed record

namespace Ready

variable {record : List Step} {view next : Forwarding}

/-- Every step keeps the order of replay and queue. -/
theorem step
    {event : Step}
    (ready : Ready record view)
    (moves : Moves view event.output next) :
    Ready (record ++ [event]) next := by
  have before : Ready (record ++ [event]) view :=
    ⟨fun busy => (ready.flusher busy).mono event,
      fun enabled => (ready.enabled enabled).mono event⟩
  generalize shown : event.output = output at moves
  cases moves with
  | serialDrains away =>
      have replayed : Replayed (record ++ [event]) :=
        ⟨event, by simp, shown⟩
      exact ⟨fun _ => replayed, fun _ => replayed⟩
  | serialLocks waiting free =>
      exact ⟨fun _ => before.flusher (by simp [waiting]), before.enabled⟩
  | serialEnables enabling =>
      have replayed := before.flusher (by simp [enabling])
      exact ⟨fun _ => replayed, fun _ => replayed⟩
  | serialWrites flushing progress fits =>
      exact ⟨fun _ => before.flusher (by simp [flushing]), before.enabled⟩
  | serialContinues flushing finished =>
      exact ⟨fun _ => before.flusher (by simp [flushing]), before.enabled⟩
  | serialFails flushing unfinished fits =>
      exact ⟨fun busy => absurd rfl busy, before.enabled⟩
  | serialReleases flushing =>
      exact ⟨fun busy => absurd rfl busy, before.enabled⟩
  | _ =>
      exact ⟨before.flusher, before.enabled⟩

/-- A part of a command is put on the port only after a replay. -/
theorem afterReplay
    {event : Step}
    (ready : Ready record view)
    (guarded : view.Guarded)
    (moves : Moves view event.output next) :
    AfterReplay record event := by
  intro chunk shows command
  generalize event.output = output at moves shows
  cases moves with
  | readerWrites writing progress fits | readerFails writing unfinished fits =>
      obtain rfl := Option.some.inj shows
      exact ready.enabled (guarded.writing _ _ writing command)
  | serialWrites flushing progress fits | serialFails flushing unfinished fits =>
      exact ready.flusher (by simp [flushing])
  | rests quiet | readerLeaves quiet unlocked =>
      simp [quiet.1] at shows
  | _ =>
      simp [chunkOf] at shows

end Ready

/-- The reader is about to stop the session for too many commands, or the
session is stopped. -/
def Overflowed (session : ProxySession) : Prop :=
  session.coreReader = .failing tooManyCommands ∨
    session.coreReader = .ended ∧ session.stop = true

/-- A ninth command ends the reader. -/
theorem overflowed_of_overflows
    {session : ProxySession}
    {choice : Choice}
    (overflows : Overflows (machine.event session choice)) :
    Overflowed (machine.event session choice).target := by
  obtain ⟨thread, meets⟩ := choice
  obtain ⟨rfl, ⟨raw, here⟩, disabled, full⟩ := overflows
  simp only [Machine.event_source] at here disabled full
  left
  simp [Machine.event, machine, stepReader, here, disabled, full, toReader]

/-- The serial loop leaves the reader where it is and the session stopped. -/
theorem SerialStep.keeps
    {session : ProxySession}
    {result : ProxySession × Shown}
    (step : SerialStep session result) :
    result.1.coreReader = session.coreReader ∧
      (session.stop = true → result.1.stop = true) := by
  cases step with
  | stops raised here =>
      exact ⟨rfl, fun _ => rfl⟩
  | _ =>
      exact ⟨rfl, id⟩

/-- The end of a session is not undone. -/
theorem Overflowed.step
    {session : ProxySession}
    (overflowed : Overflowed session)
    (choice : Choice) :
    Overflowed (machine.event session choice).target := by
  obtain ⟨thread, meets⟩ := choice
  cases thread with
  | serialLoop =>
      obtain ⟨same, stopped⟩ := (stepSerial_cases session meets).keeps
      rcases overflowed with failing | ⟨ended, stop⟩
      · exact .inl (same.trans failing)
      · exact .inr ⟨same.trans ended, stopped stop⟩
  | coreReader =>
      rcases overflowed with failing | ⟨ended, stop⟩
      · right
        simp [Machine.event, machine, stepReader, failing]
      · right
        simp [Machine.event, machine, stepReader, ended, stop]

/-- What a session has kept to while no step wrote to a failed port. -/
structure Orderly (record : List Step) (session : ProxySession) : Prop where
  guarded : session.forwarding.Guarded
  ready : Ready record session.forwarding
  afterReplay : EveryStep AfterReplay record
  overflow : (∃ event ∈ record, Overflows event) → Overflowed session
  port :
    PortFailed record ∧ PortInOrder record ∨
      ¬PortFailed record ∧ ∃ port, Queued record session.forwarding port

namespace Orderly

/-- A session that has just started. -/
theorem start (spool : Spool) (connectionId sourceConnectionId : Int) :
    Orderly [] (ProxySession.start spool connectionId sourceConnectionId) where
  guarded := by
    constructor <;> simp [forwarding, ProxySession.start, flusher, forwarder]
  ready := by
    constructor <;> simp [forwarding, ProxySession.start, flusher]
  afterReplay := .nil
  overflow := by simp
  port := by
    refine .inr ⟨by simp [PortFailed], .empty, ?_⟩
    constructor <;>
      simp [Port.reassemble, chunks, commands, forwarding, ProxySession.start,
        flusher, forwarder, Forwarding.begun, Forwarding.current,
        Forwarding.flushed, Forwarding.written, Forwarding.queue,
        Forwarding.unflushed, Forwarding.inHand, Port.empty]

/-- Commands that are in order stay so while nothing is written. -/
theorem portInOrder_of_silent
    {record : List Step}
    {event : Step}
    (inOrder : PortInOrder record)
    (silent : chunkOf event.output = none) :
    PortInOrder (record ++ [event]) := by
  obtain ⟨port, reassembled, first⟩ := inOrder
  refine ⟨port, by simpa [chunks_concat, silent] using reassembled, ?_⟩
  rw [commands_concat]
  exact first.trans (List.prefix_append _ _)

/-- Every step that leaves a failed port alone keeps the session orderly. -/
theorem step
    {record : List Step}
    {session : ProxySession}
    (orderly : Orderly record session)
    (choice : Choice)
    (leaves : LeavesFailedPort record (machine.event session choice)) :
    Orderly (record ++ [machine.event session choice])
      (machine.event session choice).target where
  guarded := orderly.guarded.step (step_moves session choice)
  ready := orderly.ready.step (step_moves session choice)
  afterReplay :=
    (EveryStep.concat_iff _ _).2 ⟨orderly.afterReplay,
      orderly.ready.afterReplay orderly.guarded (step_moves session choice)⟩
  overflow := by
    rintro ⟨event, member, overflows⟩
    rcases List.mem_append.1 member with before | now
    · exact (orderly.overflow ⟨event, before, overflows⟩).step choice
    · obtain rfl := List.mem_singleton.1 now
      exact overflowed_of_overflows overflows
  port := by
    have moves := step_moves session choice
    rcases orderly.port with ⟨failed, inOrder⟩ | ⟨works, port, queued⟩
    · left
      refine ⟨(portFailed_concat _ _).2 (.inl failed), ?_⟩
      apply portInOrder_of_silent inOrder
      cases shown : chunkOf (machine.event session choice).output with
      | none =>
          rfl
      | some chunk =>
          exact absurd failed (leaves (by rw [shown]; rfl))
    · by_cases fails :
          ∃ chunk, (machine.event session choice).output = .wrote chunk true
      · left
        refine ⟨(portFailed_concat _ _).2 (.inr fails), ?_⟩
        obtain ⟨chunk, shown⟩ := fails
        exact queued.fails orderly.guarded moves shown
      · right
        refine ⟨fun failed => ?_, queued.step orderly.guarded moves
          fun chunk shown => fails ⟨chunk, shown⟩⟩
        rcases (portFailed_concat _ _).1 failed with before | now
        · exact works before
        · exact fails now

/-- An orderly session forwards the commands in order. -/
theorem forwardsInOrder
    {record : List Step}
    {session : ProxySession}
    (orderly : Orderly record session) :
    ForwardsInOrder record session where
  inOrder := by
    rcases orderly.port with ⟨-, inOrder⟩ | ⟨-, port, queued⟩
    · exact inOrder
    · exact queued.portInOrder orderly.guarded
  afterReplay := orderly.afterReplay
  bounded := orderly.guarded.bounded
  overflow := orderly.overflow

end Orderly

/-- As long as no step writes to a port that has failed, the commands are
forwarded in order, whatever the interleaving, the device and the core. -/
theorem forwardsInOrder_of_leavesFailedPort
    (spool : Spool)
    (connectionId sourceConnectionId : Int)
    (choices : List Choice)
    (leaves :
      EveryStep LeavesFailedPort
        (machine.trace (start spool connectionId sourceConnectionId)
          choices)) :
    ForwardsInOrder
      (machine.trace (start spool connectionId sourceConnectionId) choices)
      (machine.after (start spool connectionId sourceConnectionId)
        choices) := by
  have orderly := machine.invariant_after Orderly
    (Orderly.start spool connectionId sourceConnectionId)
    (fun _ _ choice orderly leaves => orderly.step choice leaves)
    choices leaves
  exact orderly.forwardsInOrder

/-- The device answers HELLO, and the core has sent a first command. -/
def untilQueueTaken : List Choice :=
  let raw := wire .getStatus 1 Flags.none
  let hello := wire .hello 0 Flags.response
  [⟨.coreReader, .returns⟩, ⟨.coreReader, .reads (raw.take 16)⟩,
    ⟨.coreReader, .reads (raw.drop 16)⟩, ⟨.coreReader, .returns⟩,
    ⟨.serialLoop, .returns⟩, ⟨.serialLoop, .returns⟩,
    ⟨.serialLoop, .reads (hello.take 16)⟩, ⟨.serialLoop, .returns⟩,
    ⟨.serialLoop, .reads (hello.drop 16)⟩, ⟨.serialLoop, .returns⟩,
    ⟨.serialLoop, .returns⟩, ⟨.serialLoop, .returns⟩, ⟨.serialLoop, .returns⟩]

/-- The core sends a second command, which waits for the lock. -/
def secondCommand : List Choice :=
  let raw := wire .getConfig 2 Flags.none
  [⟨.coreReader, .returns⟩, ⟨.coreReader, .reads (raw.take 16)⟩,
    ⟨.coreReader, .reads (raw.drop 16)⟩, ⟨.coreReader, .returns⟩]

/-- The deferred command is written as a whole, and then the second one. -/
def bothWritten : List Choice :=
  untilQueueTaken ++ secondCommand ++
    [⟨.serialLoop, .writes 20⟩, ⟨.serialLoop, .returns⟩,
      ⟨.serialLoop, .returns⟩, ⟨.coreReader, .returns⟩,
      ⟨.coreReader, .writes 20⟩]

/-- The write of the deferred command takes nothing, and the reader writes the
second command. -/
def firstLost : List Choice :=
  untilQueueTaken ++ secondCommand ++
    [⟨.serialLoop, .writes 0⟩, ⟨.coreReader, .returns⟩,
      ⟨.coreReader, .writes 20⟩]

set_option maxRecDepth 100000 in
/-- Two commands that are written in order. -/
theorem forwardsInOrder_bothWritten :
    ForwardsInOrder
      (machine.trace (start (.empty 4096) 1 1) bothWritten)
      (machine.after (start (.empty 4096) 1 1) bothWritten) :=
  forwardsInOrder_of_leavesFailedPort (.empty 4096) 1 1 bothWritten
    (by decide +kernel)

set_option maxRecDepth 100000 in
/-- After the failed write of a deferred command the next one is written. -/
theorem not_forwardsInOrder_firstLost :
    ¬ForwardsInOrder
      (machine.trace (start (.empty 4096) 1 1) firstLost)
      (machine.after (start (.empty 4096) 1 1) firstLost) := by
  intro law
  have lost :
      ¬PortInOrder (machine.trace (start (.empty 4096) 1 1) firstLost) := by
    decide +kernel
  exact lost law.inOrder

end ProxySession

end Usac.Bridge
