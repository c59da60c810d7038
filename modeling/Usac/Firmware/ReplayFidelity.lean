import Usac.Firmware.LoopHistory

namespace Usac.Firmware

open Library

/-!
# What a replayed capture streams

A duplicate CAPTURE_ONCE is answered from a cache that holds the acknowledgement
but not the data: the frame is built again from the shared capture description
and the shared waveform. A monitor over the history remembers which turn drove
the transducer last, how the pending capture was announced, and the frame that
was first streamed for the last commanded capture.
-/

namespace Board

/-- How a pending capture was announced. -/
inductive Announcement where
  | commanded
  | replayed
  | periodic
  deriving Repr, DecidableEq

/-- The turn invoked the capture callback. -/
def drives (turn : Turn) : Bool :=
  turn.output.calls.any fun invocation => invocation.call.isCapture

/-- The announcement a turn makes: it leaves a capture pending that was not
pending before. -/
def announcement? (turn : Turn) : Option Announcement :=
  if turn.source.app.capturePending = false ∧
      turn.target.app.capturePending = true then
    match turn.input with
    | .operate (.handle _ _) =>
        some (if drives turn then .commanded else .replayed)
    | .operate (.runPeriodicCapture _) => some .periodic
    | _ => none
  else
    none

/-- The turn takes a capture of its own. -/
def takes (turn : Turn) : Bool :=
  announcement? turn == some .commanded ||
    announcement? turn == some .periodic

/-- What an observer of the turns remembers. -/
structure Monitor where
  last : Option Announcement
  announced : Option Announcement
  first : Option (List UInt8)
  deriving DecidableEq

namespace Monitor

/-- Nothing has been observed. -/
def empty : Monitor where
  last := none
  announced := none
  first := none

/-- Observe one turn. -/
def observe (monitor : Monitor) (turn : Turn) : Monitor :=
  if drives turn then
    { last := announcement? turn
      announced := announcement? turn
      first :=
        if announcement? turn = some .commanded then
          none
        else
          monitor.first }
  else if announcement? turn = some .replayed then
    { monitor with announced := some .replayed }
  else
    match turn.output.streamed with
    | some frame =>
        { monitor with
          first :=
            if monitor.announced = some .commanded then
              some frame
            else
              monitor.first }
    | none => monitor

end Monitor

/-- The monitor after a history. -/
def monitor (turns : List Turn) : Monitor :=
  turns.foldl Monitor.observe Monitor.empty

/-- One more turn is one more observation. -/
theorem monitor_concat (turns : List Turn) (turn : Turn) :
    monitor (turns ++ [turn]) = (monitor turns).observe turn := by
  simp [monitor]

/-- The frames of a replayed capture, and of one identity, do not differ. -/
structure FaithfulStream (earlier : List Turn) (turn : Turn) : Prop where
  replayed :
    ∀ frame,
      turn.output.streamed = some frame →
      (monitor earlier).announced = some .replayed →
      (monitor earlier).first = some frame
  identified :
    ∀ frame,
      turn.output.streamed = some frame →
      ∀ other ∈ earlier, ∀ otherFrame,
        other.output.streamed = some otherFrame →
        slice otherFrame 84 16 = slice frame 84 16 →
        slice otherFrame 68 16 = slice frame 68 16 →
        slice otherFrame 52 16 = slice frame 52 16 →
        otherFrame = frame

/-- A CAPTURE_ONCE answered from the cache arrives with no capture callback
since the capture that filled the cache. -/
def ReplaysIntact (earlier : List Turn) (turn : Turn) : Prop :=
  announcement? turn = some .replayed →
    (monitor earlier).last = some .commanded

/-- The bytes from which the identity of the described capture is derived. -/
def idMaterial (app : App) : Id16 × Id16 × UInt32 :=
  (app.bootId, app.captureRequestId, app.captureSequence)

/-- The identity of the described capture. -/
def captureIdOf (app : App) : Id16 :=
  CaptureStream.captureId app.bootId app.captureRequestId
    app.captureSequence

/-- The derived identity of the capture about to be streamed is that of no
capture streamed before which was derived from other bytes. -/
def DerivesDistinctIds (earlier : List Turn) (turn : Turn) : Prop :=
  ∀ other ∈ earlier,
    other.output.streamed.isSome →
    turn.output.streamed.isSome →
    captureIdOf other.source.app = captureIdOf turn.source.app →
    idMaterial other.source.app = idMaterial turn.source.app

instance (earlier : List Turn) (turn : Turn) :
    Decidable (ReplaysIntact earlier turn) :=
  inferInstanceAs (Decidable (_ → _))

instance (earlier : List Turn) (turn : Turn) :
    Decidable (DerivesDistinctIds earlier turn) :=
  inferInstanceAs (Decidable (∀ _ ∈ earlier, _ → _ → _ → _))

/-- The invariant of the shared capture description. -/
structure Faithful (turns : List Turn) (board : Board) : Prop where
  opened :
    board.app.helloEstablished = true →
    board.app.bootId =
      bootIdDerive board.app.deviceId board.app.hostNonce
  closed :
    board.app.helloEstablished = false →
    board.app.capturePending = false ∧ board.app.captureCache.valid = false
  announced :
    board.app.capturePending = true →
    ((monitor turns).announced = some .commanded ∧
        (monitor turns).last = some .commanded) ∨
      ((monitor turns).announced = some .replayed ∧
        (monitor turns).last = some .commanded) ∨
      ((monitor turns).announced = some .periodic ∧
        (monitor turns).last = some .periodic)
  sent : board.sent = true → board.app.capturePending = true
  first :
    (monitor turns).last = some .commanded →
    (board.app.capturePending = true ∨
      board.app.captureCache.valid = true) →
    (board.app.capturePending = true ∧ board.sent = false ∧
        (monitor turns).announced = some .commanded) ∨
      (monitor turns).first = some board.frame
  same :
    (board.app.capturePending = true ∨
      ((monitor turns).last = some .commanded ∧
        board.app.captureCache.valid = true)) →
    ∀ turn ∈ turns, ∀ frame,
      turn.output.streamed = some frame →
      turn.source.app.captureSequence = board.app.captureSequence →
      frame = board.frame
  counted :
    board.app.captureSequence.toNat = turns.countP takes
  streamed :
    ∀ turn ∈ turns, ∀ frame,
      turn.output.streamed = some frame →
      frame = turn.source.frame ∧
        turn.source.app.captureSequence.toNat ≤
          board.app.captureSequence.toNat

/-- The turn leaves the description of the capture as it is. -/
structure Quiet (turn : Turn) : Prop where
  pending :
    turn.target.app.capturePending = turn.source.app.capturePending
  cached :
    turn.target.app.captureCache.valid = turn.source.app.captureCache.valid
  sequence :
    turn.target.app.captureSequence = turn.source.app.captureSequence
  frame : turn.target.frame = turn.source.frame
  sent : turn.target.sent = turn.source.sent
  passive : drives turn = false
  silent : turn.output.streamed = none

/-- A quiet turn is not noticed. -/
theorem Quiet.monitor_eq
    {turn : Turn}
    (quiet : Quiet turn)
    (turns : List Turn) :
    monitor (turns ++ [turn]) = monitor turns := by
  have unannounced : announcement? turn = none := by
    simp [announcement?, quiet.pending]
  simp [monitor_concat, Monitor.observe, quiet.passive, unannounced,
    quiet.silent]

/-- A quiet turn takes no capture. -/
theorem Quiet.takes_eq_false
    {turn : Turn}
    (quiet : Quiet turn) :
    takes turn = false := by
  simp [takes, announcement?, quiet.pending]

/-- A quiet turn that keeps the session keeps the invariant. -/
theorem Faithful.quiet
    {turns : List Turn}
    {turn : Turn}
    (faithful : Faithful turns turn.source)
    (quiet : Quiet turn)
    (opened :
      turn.target.app.helloEstablished = true →
      turn.target.app.bootId =
        bootIdDerive turn.target.app.deviceId turn.target.app.hostNonce)
    (closed :
      turn.target.app.helloEstablished = false →
      turn.source.app.helloEstablished = false) :
    Faithful (turns ++ [turn]) turn.target := by
  constructor
  · exact opened
  · rw [quiet.pending, quiet.cached]
    exact fun ended => faithful.closed (closed ended)
  · rw [quiet.monitor_eq, quiet.pending]
    exact faithful.announced
  · rw [quiet.sent, quiet.pending]
    exact faithful.sent
  · rw [quiet.monitor_eq, quiet.pending, quiet.cached, quiet.sent, quiet.frame]
    exact faithful.first
  · rw [quiet.monitor_eq, quiet.pending, quiet.cached, quiet.frame,
      quiet.sequence]
    intro live other member frame streamed
    rcases List.mem_append.1 member with earlier | last
    · exact faithful.same live other earlier frame streamed
    · rw [List.mem_singleton.1 last, quiet.silent] at streamed
      cases streamed
  · rw [quiet.sequence, List.countP_append]
    simpa [quiet.takes_eq_false] using faithful.counted
  · rw [quiet.sequence]
    intro other member frame streamed
    rcases List.mem_append.1 member with earlier | last
    · exact faithful.streamed other earlier frame streamed
    · rw [List.mem_singleton.1 last, quiet.silent] at streamed
      cases streamed

/-- A turn that streams nothing adds nothing to compare with. -/
theorem streamed_of_concat
    {turns : List Turn}
    {turn other : Turn}
    {frame : List UInt8}
    (silent : turn.output.streamed = none)
    (member : other ∈ turns ++ [turn])
    (streamed : other.output.streamed = some frame) :
    other ∈ turns := by
  rcases List.mem_append.1 member with earlier | last
  · exact earlier
  · rw [List.mem_singleton.1 last, silent] at streamed
    cases streamed

/-- A turn after which no capture is pending and none is cached keeps the
invariant, whether or not it drove the transducer. -/
theorem Faithful.close
    {turns : List Turn}
    {turn : Turn}
    (faithful : Faithful turns turn.source)
    (idle : turn.target.app.capturePending = false)
    (uncached : turn.target.app.captureCache.valid = false)
    (sequence :
      turn.target.app.captureSequence = turn.source.app.captureSequence)
    (unsent : turn.target.sent = false)
    (silent : turn.output.streamed = none)
    (opened :
      turn.target.app.helloEstablished = true →
      turn.target.app.bootId =
        bootIdDerive turn.target.app.deviceId turn.target.app.hostNonce) :
    Faithful (turns ++ [turn]) turn.target := by
  have unannounced : announcement? turn = none := by
    simp [announcement?, idle]
  constructor
  · exact opened
  · exact fun _ => ⟨idle, uncached⟩
  · intro pending
    simp [idle] at pending
  · intro sent
    simp [unsent] at sent
  · intro _ live
    simp [idle, uncached] at live
  · intro live
    simp [idle, uncached] at live
  · rw [sequence, List.countP_append]
    simpa [takes, unannounced] using faithful.counted
  · rw [sequence]
    intro other member frame streamed
    exact faithful.streamed other
      (streamed_of_concat silent member streamed) frame streamed

/-- A capture that fails keeps the invariant: nothing may be replayed from
the waveform it has left. -/
theorem Faithful.fail
    {turns : List Turn}
    {turn : Turn}
    (faithful : Faithful turns turn.source)
    (driven : drives turn = true)
    (idle : turn.target.app.capturePending = false)
    (sequence :
      turn.target.app.captureSequence = turn.source.app.captureSequence)
    (unsent : turn.target.sent = false)
    (silent : turn.output.streamed = none)
    (established : turn.target.app.helloEstablished = true)
    (opened :
      turn.target.app.bootId =
        bootIdDerive turn.target.app.deviceId turn.target.app.hostNonce) :
    Faithful (turns ++ [turn]) turn.target := by
  have unannounced : announcement? turn = none := by
    simp [announcement?, idle]
  have forgotten : (monitor (turns ++ [turn])).last = none := by
    simp [monitor_concat, Monitor.observe, driven, unannounced]
  constructor
  · exact fun _ => opened
  · intro ended
    simp [established] at ended
  · intro pending
    simp [idle] at pending
  · intro sent
    simp [unsent] at sent
  · intro last
    simp [forgotten] at last
  · intro live
    simp [idle, forgotten] at live
  · rw [sequence, List.countP_append]
    simpa [takes, unannounced] using faithful.counted
  · rw [sequence]
    intro other member frame streamed
    exact faithful.streamed other
      (streamed_of_concat silent member streamed) frame streamed

/-- Below its range the sequence counts up. -/
theorem nextCaptureSequence_toNat
    {sequence : UInt32}
    (below : sequence.toNat + 1 < 2 ^ 32) :
    (App.nextCaptureSequence sequence).toNat = sequence.toNat + 1 := by
  have next : (sequence + 1).toNat = sequence.toNat + 1 := by
    rw [UInt32.toNat_add]
    exact Nat.mod_eq_of_lt below
  have nonzero : sequence + 1 ≠ 0 := by
    intro wrapped
    rw [wrapped] at next
    simp at next
  rw [App.nextCaptureSequence, if_neg nonzero, next]

/-- A new capture keeps the invariant: no frame streamed before has its
sequence number. -/
theorem Faithful.take
    {turns : List Turn}
    {turn : Turn}
    {kind : Announcement}
    (faithful : Faithful turns turn.source)
    (driven : drives turn = true)
    (announced : announcement? turn = some kind)
    (own : kind ≠ .replayed)
    (sequence :
      turn.target.app.captureSequence =
        App.nextCaptureSequence turn.source.app.captureSequence)
    (few : (turns ++ [turn]).countP takes < 2 ^ 32)
    (unsent : turn.target.sent = false)
    (silent : turn.output.streamed = none)
    (established : turn.target.app.helloEstablished = true)
    (opened :
      turn.target.app.bootId =
        bootIdDerive turn.target.app.deviceId turn.target.app.hostNonce) :
    Faithful (turns ++ [turn]) turn.target := by
  have taken : takes turn = true := by
    cases kind with
    | replayed => exact absurd rfl own
    | commanded | periodic => simp [takes, announced]
  have pending : turn.target.app.capturePending = true := by
    by_contra idle
    simp [announcement?, idle] at announced
  have count :
      (turns ++ [turn]).countP takes = turns.countP takes + 1 := by
    simp [List.countP_append, taken]
  have next :
      turn.target.app.captureSequence.toNat =
        turn.source.app.captureSequence.toNat + 1 := by
    rw [sequence]
    refine nextCaptureSequence_toNat ?_
    rw [faithful.counted, ← count]
    exact few
  constructor
  · exact fun _ => opened
  · intro ended
    simp [established] at ended
  · intro _
    simp only [monitor_concat, Monitor.observe, driven, if_true, announced]
    cases kind with
    | replayed => exact absurd rfl own
    | commanded => exact .inl ⟨rfl, rfl⟩
    | periodic => exact .inr (.inr ⟨rfl, rfl⟩)
  · exact fun _ => pending
  · intro last _
    simp only [monitor_concat, Monitor.observe, driven, if_true] at last ⊢
    exact .inl ⟨pending, unsent, last⟩
  · intro _ other member frame streamed same
    have earlier :=
      faithful.streamed other
        (streamed_of_concat silent member streamed) frame streamed
    rw [same, next] at earlier
    omega
  · rw [next, count, faithful.counted]
  · intro other member frame streamed
    have earlier :=
      faithful.streamed other
        (streamed_of_concat silent member streamed) frame streamed
    exact ⟨earlier.1, by omega⟩

/-- A replay keeps the invariant when the transducer was not driven since the
capture that filled the cache. -/
theorem Faithful.replay
    {turns : List Turn}
    {turn : Turn}
    (faithful : Faithful turns turn.source)
    (passive : drives turn = false)
    (announced : announcement? turn = some .replayed)
    (intact : (monitor turns).last = some .commanded)
    (cached : turn.source.app.captureCache.valid = true)
    (sequence :
      turn.target.app.captureSequence = turn.source.app.captureSequence)
    (frame : turn.target.frame = turn.source.frame)
    (silent : turn.output.streamed = none)
    (established : turn.target.app.helloEstablished = true)
    (opened :
      turn.target.app.bootId =
        bootIdDerive turn.target.app.deviceId turn.target.app.hostNonce) :
    Faithful (turns ++ [turn]) turn.target := by
  have idle : turn.source.app.capturePending = false := by
    by_contra pending
    simp [announcement?, pending] at announced
  have pending : turn.target.app.capturePending = true := by
    by_contra idle
    simp [announcement?, idle] at announced
  have observed :
      monitor (turns ++ [turn]) =
        { monitor turns with announced := some .replayed } := by
    simp [monitor_concat, Monitor.observe, passive, announced]
  constructor
  · exact fun _ => opened
  · intro ended
    simp [established] at ended
  · intro _
    rw [observed]
    exact .inr (.inl ⟨rfl, intact⟩)
  · exact fun _ => pending
  · intro _ _
    right
    rw [observed, frame]
    rcases faithful.first intact (.inr cached) with ⟨pending, -⟩ | first
    · simp [idle] at pending
    · exact first
  · intro _ other member otherFrame streamed same
    rw [frame]
    exact faithful.same (.inr ⟨intact, cached⟩) other
      (streamed_of_concat silent member streamed) otherFrame streamed
      (same.trans sequence)
  · rw [sequence, List.countP_append]
    simpa [takes, announced] using faithful.counted
  · rw [sequence]
    intro other member otherFrame streamed
    exact faithful.streamed other
      (streamed_of_concat silent member streamed) otherFrame streamed

/-- Streaming the pending capture keeps the invariant. -/
theorem Faithful.stream
    {turns : List Turn}
    {turn : Turn}
    (faithful : Faithful turns turn.source)
    (pending : turn.source.app.capturePending = true)
    (passive : drives turn = false)
    (streams : turn.output.streamed = some turn.source.frame)
    (target : turn.target = turn.source.handedOver) :
    Faithful (turns ++ [turn]) turn.target := by
  have sameApp : turn.target.app = turn.source.app := by
    rw [target]
    rfl
  have sameFrame : turn.target.frame = turn.source.frame := by
    rw [target]
    rfl
  have unannounced : announcement? turn = none := by
    simp [announcement?, sameApp, pending]
  have observed :
      monitor (turns ++ [turn]) =
        { monitor turns with
          first :=
            if (monitor turns).announced = some .commanded then
              some turn.source.frame
            else
              (monitor turns).first } := by
    simp [monitor_concat, Monitor.observe, passive, unannounced, streams]
  constructor
  · rw [sameApp]
    exact faithful.opened
  · rw [sameApp]
    exact faithful.closed
  · rw [sameApp, observed]
    exact faithful.announced
  · rw [sameApp]
    exact fun _ => pending
  · intro last _
    right
    rw [observed] at last ⊢
    dsimp only at last ⊢
    rw [sameFrame]
    rcases faithful.announced pending with commanded | replayed | periodic
    · rw [if_pos commanded.1]
    · rw [if_neg (by simp [replayed.1])]
      rcases faithful.first last (.inl pending) with
        ⟨-, -, commanded⟩ | first
      · simp [replayed.1] at commanded
      · exact first
    · simp [periodic.2] at last
  · intro _ other member frame streamed same
    rw [sameFrame]
    rcases List.mem_append.1 member with earlier | final
    · rw [sameApp] at same
      exact faithful.same (.inl pending) other earlier frame streamed same
    · rw [List.mem_singleton.1 final, streams] at streamed
      exact (Option.some.inj streamed).symm
  · rw [sameApp, List.countP_append]
    simpa [takes, unannounced] using faithful.counted
  · rw [sameApp]
    intro other member frame streamed
    rcases List.mem_append.1 member with earlier | final
    · exact faithful.streamed other earlier frame streamed
    · rw [List.mem_singleton.1 final] at streamed ⊢
      rw [streams] at streamed
      exact ⟨(Option.some.inj streamed).symm, le_refl _⟩

/-- The end of a transfer keeps the invariant: the frame has been streamed. -/
theorem Faithful.release
    {turns : List Turn}
    {turn : Turn}
    (faithful : Faithful turns turn.source)
    (pending : turn.source.app.capturePending = true)
    (sent : turn.source.sent = true)
    (passive : drives turn = false)
    (silent : turn.output.streamed = none)
    (target : turn.target = turn.source.released) :
    Faithful (turns ++ [turn]) turn.target := by
  have sameFrame : turn.target.frame = turn.source.frame := by
    rw [target]
    rfl
  have sameSequence :
      turn.target.app.captureSequence =
        turn.source.app.captureSequence := by
    rw [target]
    rfl
  have unannounced : announcement? turn = none := by
    simp [announcement?, target, released]
  have observed : monitor (turns ++ [turn]) = monitor turns := by
    simp [monitor_concat, Monitor.observe, passive, unannounced, silent]
  constructor
  · rw [target]
    exact faithful.opened
  · rw [target]
    exact fun ended => ⟨rfl, (faithful.closed ended).2⟩
  · intro impossible
    simp [target, released] at impossible
  · intro impossible
    simp [target, released] at impossible
  · intro last _
    right
    rw [observed] at last ⊢
    rw [sameFrame]
    rcases faithful.first last (.inl pending) with ⟨-, unsent, -⟩ | first
    · simp [sent] at unsent
    · exact first
  · intro _ other member frame streamed same
    rw [sameFrame]
    exact faithful.same (.inl pending) other
      (streamed_of_concat silent member streamed) frame streamed
      (same.trans sameSequence)
  · rw [sameSequence, List.countP_append]
    simpa [takes, unannounced] using faithful.counted
  · rw [sameSequence]
    intro other member frame streamed
    exact faithful.streamed other
      (streamed_of_concat silent member streamed) frame streamed

/-- The turn in which the main loop runs an operation. -/
def operation
    (board : Board)
    (input : App.Input)
    (next : App)
    (calls : List Invocation)
    (response : Option (List UInt8)) :
    Turn where
  source := board
  input := .operate input
  output := { response := response, calls := calls, streamed := none }
  target :=
    { app := next
      waveform := waveformAfter board.waveform calls
      sent := board.sent && next.capturePending }

/-- Nothing has been handed over where no capture is pending. -/
theorem Faithful.unsent
    {turns : List Turn}
    {board : Board}
    (faithful : Faithful turns board)
    (free : board.app.capturePending = false) :
    board.sent = false := by
  by_contra sent
  have pending := faithful.sent (by simpa using sent)
  exact Bool.false_ne_true (free.symm.trans pending)

/-- What has been handed over stays so while the capture is pending. -/
theorem Faithful.sent_kept
    {turns : List Turn}
    {board : Board}
    (faithful : Faithful turns board)
    {next : App}
    (pending : next.capturePending = board.app.capturePending) :
    (board.sent && next.capturePending) = board.sent := by
  cases sent : board.sent with
  | false => rfl
  | true => rw [pending, faithful.sent sent, Bool.and_self]

/-- A request keeps the invariant. -/
theorem Faithful.handleEffect
    {turns : List Turn}
    {board : Board}
    {request : Mcu.ParsedFrame}
    {hardware : Hardware}
    {next : App}
    {calls : List Invocation}
    (response : Option (List UInt8))
    (faithful : Faithful turns board)
    (free : board.app.capturePending = false)
    (few :
      (turns ++
        [operation board (.handle request hardware) next calls
          response]).countP takes < 2 ^ 32)
    (intact :
      ReplaysIntact turns
        (operation board (.handle request hardware) next calls response))
    (effect : App.HandleEffect board.app request.val hardware next calls) :
    Faithful
      (turns ++
        [operation board (.handle request hardware) next calls response])
      (operation board (.handle request hardware) next calls
        response).target := by
  have session
      (established : board.app.helloEstablished = true) :
      board.app.bootId =
        bootIdDerive board.app.deviceId board.app.hostNonce :=
    faithful.opened established
  have unsent :
      (operation board (.handle request hardware) next calls
        response).target.sent = false := by
    simp [operation, faithful.unsent free]
  cases effect with
  | answered | configRefused | configFailed | loopedBack |
    captureDeclined | captureNotApplied | started | renewed | stopped =>
      exact faithful.quiet
        ⟨rfl, rfl, rfl, rfl, faithful.sent_kept rfl, rfl, rfl⟩
        faithful.opened id
  | greeted flags hello sameHost =>
      by_cases established : board.app.helloEstablished = true
      · refine faithful.quiet
          ⟨rfl, rfl, rfl, ?_, faithful.sent_kept rfl, rfl, rfl⟩
          (fun _ => rfl)
          (fun ended => by simp [operation, App.greeted] at ended)
        have sameBoot :
            bootIdDerive board.app.deviceId (App.requestId request.val) =
              board.app.bootId := by
          rw [session established, sameHost established]
        simp [operation, frame, descriptor, App.greeted, sameBoot,
          waveformAfter]
      · obtain ⟨idle, uncached⟩ :=
          faithful.closed (by simpa using established)
        exact faithful.close idle uncached rfl unsent rfl (fun _ => rfl)
  | restarted =>
      refine faithful.close ?_ ?_ ?_ unsent rfl (fun _ => rfl) <;>
        simp [operation, App.greeted, App.endSession, App.cleared,
          apply_ite App.capturePending, apply_ite App.captureCache,
          apply_ite App.captureSequence, ReplyCache.invalidate]
  | configApplied candidate reply fits configures applied =>
      refine faithful.close ?_ ?_ rfl unsent rfl session
      · simpa [operation, App.configApplied] using free
      · rfl
  | captureReplayed dispatched cached =>
      have valid : board.app.captureCache.valid = true := by
        by_contra invalid
        simp [ReplyCache.lookup, invalid] at cached
      have announced :
          announcement?
              (operation board (.handle request hardware)
                { board.app with capturePending := true } [] response) =
            some .replayed := by
        simp [announcement?, operation, free, drives]
      exact faithful.replay rfl announced (intact announced) valid rfl rfl
        rfl dispatched.established (session dispatched.established)
  | captureFailed captures =>
      exact faithful.fail rfl free rfl unsent rfl
        captures.dispatched.established
        (session captures.dispatched.established)
  | captureTaken ack fits captures =>
      refine faithful.take rfl (?_ : _ = some Announcement.commanded)
        (by decide) rfl few unsent rfl captures.dispatched.established
        (session captures.dispatched.established)
      simp [announcement?, operation, free, App.captured, drives,
        App.captureCalls, App.capture, Call.isCapture]

/-- An operation keeps the invariant. -/
theorem Faithful.effect
    {turns : List Turn}
    {board : Board}
    {input : App.Input}
    {next : App}
    {calls : List Invocation}
    (response : Option (List UInt8))
    (faithful : Faithful turns board)
    (scheduled : board.app.ScheduleOpen)
    (waits : Waits (operation board input next calls response))
    (few :
      (turns ++ [operation board input next calls response]).countP takes <
        2 ^ 32)
    (intact :
      ReplaysIntact turns (operation board input next calls response))
    (effect : App.Effect board.app input next calls) :
    Faithful (turns ++ [operation board input next calls response])
      (operation board input next calls response).target := by
  cases effect with
  | handled handled =>
      exact faithful.handleEffect response (waits _ _ rfl) few intact handled
  | timePassed | leaseExpired | clockQuiet | clockLatched | periodicIdle |
    periodicNotApplied =>
      exact faithful.quiet
        ⟨rfl, rfl, rfl, rfl, faithful.sent_kept rfl, rfl, rfl⟩
        faithful.opened id
  | periodicFailed lastError due =>
      simp only [App.periodicDue, Bool.and_eq_true, Bool.not_eq_true'] at due
      have established := scheduled due.1.1.1
      exact faithful.fail rfl due.2 rfl
        (by simp [operation, faithful.unsent due.2]) rfl established
        (faithful.opened established)
  | periodicTaken due =>
      simp only [App.periodicDue, Bool.and_eq_true, Bool.not_eq_true'] at due
      have established := scheduled due.1.1.1
      refine faithful.take rfl (?_ : _ = some Announcement.periodic)
        (by decide) rfl few (by simp [operation, faithful.unsent due.2]) rfl
        established (faithful.opened established)
      simp [announcement?, operation, due.2, App.capturedPeriodic]
  | ended =>
      refine faithful.close ?_ ?_ ?_ ?_ rfl ?_ <;>
        simp [operation, App.endSession, App.cleared,
          apply_ite App.capturePending, apply_ite App.captureCache,
          apply_ite App.captureSequence, apply_ite App.helloEstablished,
          ReplyCache.invalidate]

/-- Every turn keeps the invariant. -/
theorem Faithful.turn
    {turns : List Turn}
    {board : Board}
    {input : Input}
    {result : Board × Output}
    (faithful : Faithful turns board)
    (scheduled : board.app.ScheduleOpen)
    (waits : Waits ⟨board, input, result.2, result.1⟩)
    (few :
      List.countP takes (turns ++ [⟨board, input, result.2, result.1⟩]) <
        2 ^ 32)
    (intact : ReplaysIntact turns ⟨board, input, result.2, result.1⟩)
    (cases : TurnCases board input result) :
    Faithful (turns ++ [⟨board, input, result.2, result.1⟩])
      result.1 := by
  cases cases with
  | idle input =>
      have quiet : Quiet ⟨board, input, Output.silent, board⟩ :=
        ⟨rfl, rfl, rfl, rfl, rfl, rfl, rfl⟩
      exact faithful.quiet quiet faithful.opened id
  | operated input effect =>
      exact faithful.effect _ scheduled waits few intact effect
  | streamed pending =>
      exact faithful.stream pending rfl rfl rfl
  | released pending sent =>
      exact faithful.release pending sent rfl rfl rfl

/-- A turn keeps an active schedule within its session. -/
theorem scheduleOpen_turn
    {board : Board}
    {input : Input}
    {result : Board × Output}
    (scheduled : board.app.ScheduleOpen)
    (cases : TurnCases board input result) :
    result.1.app.ScheduleOpen := by
  cases cases with
  | idle | streamed | released => exact scheduled
  | operated input effect => exact scheduled.effect effect

/-- Over the invariant, what a turn streams is faithful. -/
theorem Faithful.faithfulStream
    {turns : List Turn}
    {board : Board}
    {input : Input}
    {result : Board × Output}
    (faithful : Faithful turns board)
    (distinct : DerivesDistinctIds turns ⟨board, input, result.2, result.1⟩)
    (cases : TurnCases board input result) :
    FaithfulStream turns ⟨board, input, result.2, result.1⟩ := by
  cases cases with
  | idle | released =>
      exact ⟨fun frame streamed => by simp [Output.silent] at streamed,
        fun frame streamed => by simp [Output.silent] at streamed⟩
  | operated =>
      exact ⟨fun frame streamed => by simp [operate] at streamed,
        fun frame streamed => by simp [operate] at streamed⟩
  | streamed pending fresh =>
      constructor
      · rintro frame streamed replayed
        cases streamed
        rcases faithful.announced pending with commanded | again | periodic
        · simp [commanded.1] at replayed
        · rcases faithful.first again.2 (.inl pending) with
            ⟨-, -, commanded⟩ | first
          · simp [again.1] at commanded
          · exact first
        · simp [periodic.1] at replayed
      · rintro frame streamed other member otherFrame otherStreamed
          sameDevice sameBoot sameCapture
        cases streamed
        obtain ⟨rfl, -⟩ :=
          faithful.streamed other member otherFrame otherStreamed
        obtain ⟨-, otherId, -⟩ :=
          CaptureStream.frame_fields (descriptor other.source.app)
            other.source.waveform
        obtain ⟨-, thisId, -⟩ :=
          CaptureStream.frame_fields (descriptor board.app) board.waveform
        have sameId :
            captureIdOf other.source.app = captureIdOf board.app :=
          otherId.symm.trans (sameCapture.trans thisId)
        have sameMaterial :=
          distinct other member (by simp [otherStreamed]) rfl sameId
        simp only [idMaterial, Prod.mk.injEq] at sameMaterial
        exact faithful.same (.inl pending) other member _ otherStreamed
          sameMaterial.2.2

/-- Nothing has been captured in the state a run starts in. -/
theorem started_faithful
    (deviceId bootId : Id16)
    (resetReason : UInt8)
    (initialState : FirmwareState)
    (result : ConfigResult)
    (devStat : UInt8)
    (waveform : Waveform) :
    Faithful []
      (started
        (App.started deviceId bootId resetReason initialState result devStat)
        waveform) where
  opened := fun established => by
    simp [started, App.started, App.init, App.recordBootConfig]
      at established
  closed := fun _ => ⟨rfl, rfl⟩
  announced := fun pending => by
    simp [started, App.started, App.init, App.recordBootConfig] at pending
  sent := fun sent => by simp [started] at sent
  first := fun last => by simp [monitor, Monitor.empty] at last
  same := fun _ _ member => by simp at member
  counted := rfl
  streamed := fun _ member => by simp at member

/-- The conditions under which replays and identities can be trusted. -/
structure Trusted (earlier : List Turn) (turn : Turn) : Prop where
  intact : ReplaysIntact earlier turn
  distinct : DerivesDistinctIds earlier turn
  few : (earlier ++ [turn]).countP takes < 2 ^ 32

/-- Over turns in which every command waits and that can be trusted, every
streamed frame is faithful. -/
theorem everyStep_faithful
    (deviceId bootId : Id16)
    (resetReason : UInt8)
    (initialState : FirmwareState)
    (result : ConfigResult)
    (devStat : UInt8)
    (waveform : Waveform)
    (inputs : List Input)
    (trusted :
      EveryStep (fun earlier turn => Waits turn ∧ Trusted earlier turn)
        (machine.trace
          (started
            (App.started deviceId bootId resetReason initialState result
              devStat)
            waveform)
          inputs)) :
    EveryStep FaithfulStream
      (machine.trace
        (started
          (App.started deviceId bootId resetReason initialState result
            devStat)
          waveform)
        inputs) :=
  machine.everyStep_of_invariant
    (fun turns board => Faithful turns board ∧ board.app.ScheduleOpen)
    ⟨started_faithful deviceId bootId resetReason initialState result devStat
        waveform,
      fun active => by
        simp [started, App.started, App.init, App.recordBootConfig]
          at active⟩
    (fun _ board input holds trusted =>
      ⟨holds.1.turn holds.2 trusted.1 trusted.2.few trusted.2.intact
          (turn_cases board input),
        scheduleOpen_turn holds.2 (turn_cases board input)⟩)
    (fun _ board input holds trusted =>
      holds.1.faithfulStream trusted.2.distinct (turn_cases board input))
    inputs trusted

end Board

namespace MainLoop

/--
Over every run of the main loop with fewer than `2 ^ 32` captures in which no
capture is pending while the condition of the last part, read twice, first fails
and then holds, in which every CAPTURE_ONCE that is answered from the cache
arrives before the transducer is driven again, and in which the derived
identities do not collide: every frame that has been handed over is faithful.
-/
theorem faithfulStream_of_replaysIntact
    (deviceId bootId : Id16)
    (resetReason : UInt8)
    (initialState : FirmwareState)
    (result : ConfigResult)
    (devStat : UInt8)
    (waveform : Waveform)
    (captureTx : CaptureTx)
    (inputs : List Surroundings)
    (steady :
      EveryStep (fun _ part => ¬part.source.Rereads part.input)
        (machine.trace
          (started
            (App.started deviceId bootId resetReason initialState result
              devStat)
            waveform captureTx)
          inputs))
    (few :
      (history
        (machine.trace
          (started
            (App.started deviceId bootId resetReason initialState result
              devStat)
            waveform captureTx)
          inputs)).countP Board.takes < 2 ^ 32)
    (intact :
      EveryStep
        (fun earlier turn =>
          Board.ReplaysIntact earlier turn ∧
            Board.DerivesDistinctIds earlier turn)
        (history
          (machine.trace
            (started
              (App.started deviceId bootId resetReason initialState result
                devStat)
              waveform captureTx)
            inputs))) :
    EveryStep Board.FaithfulStream
      (history
        (machine.trace
          (started
            (App.started deviceId bootId resetReason initialState result
              devStat)
            waveform captureTx)
          inputs)) := by
  refine history_law _ waveform captureTx
    (Board.everyStep_faithful deviceId bootId resetReason initialState result
      devStat waveform) inputs steady ?_
  intro earlier turn later shape
  obtain ⟨replays, distinct⟩ := intact earlier turn later shape
  refine ⟨replays, distinct, lt_of_le_of_lt ?_ few⟩
  have regrouped :
      earlier ++ turn :: later = (earlier ++ [turn]) ++ later := by
    simp
  rw [shape, regrouped]
  exact (List.sublist_append_left _ _).countP_le

/-- Callbacks whose capture leaves the given samples everywhere, complete or
not. -/
def capturing (ran : Bool) (sample : UInt16) : Hardware :=
  { Hardware.nominal with
    captureRan := ran
    captureSamples := List.Vector.replicate captureSampleCount sample }

/-- A turn of the loop that serves a CAPTURE_ONCE for the default
configuration. -/
def captureOnceServed
    (sequence : UInt32)
    (requestId : Id16)
    (hardware : Hardware) :
    List Surroundings :=
  turn true
    { commanded
        (Request.captureOnceFrame sequence requestId ConfigV2.initD10x4) with
      hardware := hardware }

/-- The turns of the loop that hand over the four segments of a frame. -/
def frameSent : List Surroundings :=
  (List.replicate 4 (turn true calm)).flatten

/-- A session opens, a commanded capture is taken and streamed, other turns
follow, and a duplicate of the command is answered from the cache and
streamed. -/
def duplicated (between : List Surroundings) : List Surroundings :=
  turn false (commanded (Request.helloFrame 1 (Bytes.zero 16))) ++
    captureOnceServed 2 (Id16.ofByte 1) (capturing true 1) ++ frameSent ++
      between ++
        captureOnceServed 2 (Id16.ofByte 1) (capturing true 3) ++ frameSent

set_option maxRecDepth 100000 in
/-- Without a capture in between, the duplicate streams the same frame. -/
theorem faithfulStream_duplicated :
    (Board.monitor
        (history (machine.trace booted (duplicated [])))).announced =
        some .replayed ∧
      EveryStep Board.FaithfulStream
        (history (machine.trace booted (duplicated []))) :=
  ⟨by decide +kernel,
    faithfulStream_of_replaysIntact
      (Bytes.zero 16) (Bytes.zero 16) 0 .sessionWait .ok 0
      (List.Vector.replicate captureSampleCount 0) (.init CaptureTx.blank)
      (duplicated [])
      (by decide +kernel) (by decide +kernel) (by decide +kernel)⟩

/-- A capture between the command and its duplicate that fails and leaves its
samples behind. -/
def failedBetween : List Surroundings :=
  captureOnceServed 3 (Id16.ofByte 2) (capturing false 2)

set_option maxRecDepth 100000 in
/-- A failed capture in between leaves its samples for the duplicate. -/
theorem duplicated_after_failure :
    let turns := history (machine.trace booted (duplicated failedBetween))
    let observed := Board.monitor turns.dropLast
    observed.announced = some .replayed ∧
      observed.first.map (byteAt · 224) = some 1 ∧
      (turns.getLast?.bind fun last => last.output.streamed).map
          (byteAt · 224) =
        some 2 := by
  decide +kernel

/-- After a failed capture in between, the duplicate streams another frame
than the command did. -/
theorem not_faithfulStream_duplicated :
    ¬EveryStep Board.FaithfulStream
      (history (machine.trace booted (duplicated failedBetween))) := by
  intro every
  obtain ⟨replayed, first, last⟩ := duplicated_after_failure
  generalize history _ = turns at *
  cases ends : turns.getLast? with
  | none =>
      rw [ends] at last
      cases last
  | some turn =>
      rw [ends] at last
      obtain ⟨frame, streamed, sample⟩ := Option.map_eq_some_iff.1 last
      have faithful :=
        every turns.dropLast turn []
          (List.dropLast_append_getLast? turn ends).symm
      rw [faithful.replayed frame streamed replayed, Option.map_some,
        sample] at first
      cases first

end MainLoop

end Usac.Firmware
