import Usac.Host.DeviceCalls

namespace Usac.Host

open Library

/-!
# No delivery is left behind

A delivery that stays pending in the client blocks every later command. Each
operation that returns resolves the captures it meets, with one exception: the
polling path ignores what the handler answers, so a capture the handler does
not recognise stays where it is, and is passed over by every later poll.
-/

namespace ClientState

variable {First Second Result : Type}

/-- The state a step begins with. -/
theorem get_bind
    (operation : ClientState → Operation Result)
    (state : ClientState) :
    (get >>= operation) state = operation state state :=
  rfl

/-- What the operation returns from, it returns to with nothing pending, if
nothing was pending before. -/
def Keeps (operation : Operation Result) : Prop :=
  ∀ state result after,
    operation state = .ok (result, after) →
    state.session.pending = none →
      after.session.pending = none

/-- The operation returns only with nothing pending. -/
def Finishes (operation : Operation Result) : Prop :=
  ∀ state result after,
    operation state = .ok (result, after) → after.session.pending = none

namespace Keeps

/-- An operation that returns with the session it was called with. -/
theorem of_unchanged
    {operation : Operation Result}
    (unchanged :
      ∀ state result after,
        operation state = .ok (result, after) →
          after.session = state.session) :
    Keeps operation := by
  intro state result after returns nothing
  rw [unchanged state result after returns]
  exact nothing

theorem pure (result : Result) : Keeps (Pure.pure result) := by
  apply of_unchanged
  intro state _ after returns
  cases returns
  rfl

theorem get : Keeps MonadState.get := by
  apply of_unchanged
  intro state _ after returns
  cases returns
  rfl

/-- A computation that does not touch the client. -/
theorem lift (computation : Except Raised Result) :
    Keeps (liftM computation) := by
  apply of_unchanged
  intro state result after returns
  cases computation with
  | error raised => cases returns
  | ok value =>
      cases returns
      rfl

theorem bind
    {first : Operation First}
    {second : First → Operation Second}
    (atFirst : Keeps first)
    (atSecond : ∀ value, Keeps (second value)) :
    Keeps (first >>= second) := by
  intro state result after returns nothing
  obtain ⟨⟨value, between⟩, before, rest⟩ := bind_eq_ok.1 returns
  exact atSecond value between result after rest
    (atFirst state value between before nothing)

/-- An operation on a session that keeps what it has pending. -/
theorem onSession
    {operation : Session.Operation Result}
    (keeps :
      ∀ session result after,
        operation session = .ok (result, after) →
          after.pending = session.pending) :
    Keeps (onSession operation) := by
  intro state result after returns nothing
  obtain ⟨⟨value, session⟩, inner, rest⟩ := bind_eq_ok.1 returns
  cases rest
  exact (keeps _ _ _ inner).trans nothing

end Keeps

namespace Finishes

/-- The end of an operation decides. -/
theorem last
    {first : Operation First}
    {second : First → Operation Second}
    (atSecond : ∀ value, Finishes (second value)) :
    Finishes (first >>= second) := by
  intro state result after returns
  obtain ⟨⟨value, between⟩, _, rest⟩ := bind_eq_ok.1 returns
  exact atSecond value between result after rest

/-- What keeps nothing pending may follow. -/
theorem bind
    {first : Operation First}
    {second : First → Operation Second}
    (atFirst : Finishes first)
    (atSecond : ∀ value, Keeps (second value)) :
    Finishes (first >>= second) := by
  intro state result after returns
  obtain ⟨⟨value, between⟩, before, rest⟩ := bind_eq_ok.1 returns
  exact atSecond value between result after rest
    (atFirst state value between before)

theorem keeps
    {operation : Operation Result}
    (finishes : Finishes operation) :
    Keeps operation :=
  fun state result after returns _ => finishes state result after returns

end Finishes

end ClientState

namespace Session

/-- The state a step begins with. -/
theorem get_bind
    {Result : Type}
    (operation : Session → Operation Result)
    (session : Session) :
    (get >>= operation) session = operation session session :=
  rfl

/-- A frame is read without a look at what is pending. -/
theorem readExact_pending
    {size : Nat}
    {session after : Session}
    {bytes : List UInt8}
    (returns : readExact size session = .ok (bytes, after)) :
    after.pending = session.pending := by
  obtain ⟨⟨read, left⟩, _, rest⟩ := bind_eq_ok.1 returns
  cases rest
  rfl

theorem receive_pending
    {session after : Session}
    {frame : Frame}
    (returns : receive session = .ok (frame, after)) :
    after.pending = session.pending := by
  obtain ⟨⟨header, headed⟩, first, returns⟩ := bind_eq_ok.1 returns
  obtain ⟨⟨⟨⟩, checked⟩, check, returns⟩ := bind_eq_ok.1 returns
  obtain ⟨⟨rest, whole⟩, second, returns⟩ := bind_eq_ok.1 returns
  have atCheck : checked = headed := by
    obtain ⟨_, _, same⟩ := bind_eq_ok.1 check
    cases same
    rfl
  have atEnd : after = whole := by
    obtain ⟨_, _, same⟩ := bind_eq_ok.1 returns
    cases same
    rfl
  rw [atEnd, readExact_pending second, atCheck, readExact_pending first]

theorem sendAll_pending
    {bytes : List UInt8}
    {session after : Session}
    {result : Unit}
    (returns : sendAll bytes session = .ok (result, after)) :
    after.pending = session.pending := by
  unfold sendAll at returns
  split at returns
  · cases returns
  · cases returns
    rfl

/-- A command goes out only while nothing is pending. -/
theorem send_pending
    {frame : Frame}
    {session after : Session}
    {result : Unit}
    (returns : send frame session = .ok (result, after)) :
    after.pending = session.pending ∧
      (session.pending = none ∨ frame.messageType = .captureCommitted) := by
  obtain ⟨⟨⟨⟩, checked⟩, check, returns⟩ := bind_eq_ok.1 returns
  obtain ⟨⟨⟩, allowed, same⟩ := bind_eq_ok.1 check
  cases same
  obtain ⟨⟨bytes, encoded⟩, encoding, sending⟩ := bind_eq_ok.1 returns
  obtain ⟨_, _, same⟩ := bind_eq_ok.1 encoding
  cases same
  exact ⟨sendAll_pending sending, require_eq_ok.1 allowed⟩

/-- A confirmation that returns has cleared what was pending. -/
theorem confirmCapture_pending
    {receipt : CaptureCommittedRequest}
    {session after : Session}
    {result : Unit}
    (returns : confirmCapture receipt session = .ok (result, after)) :
    after.pending = none := by
  unfold confirmCapture at returns
  rw [get_bind] at returns
  cases pending : session.pending with
  | none =>
      rw [pending] at returns
      cases returns
  | some held =>
      rw [pending] at returns
      obtain ⟨⟨⟨⟩, checked⟩, _, returns⟩ := bind_eq_ok.1 returns
      obtain ⟨⟨⟨⟩, confirmed⟩, _, cleared⟩ := bind_eq_ok.1 returns
      cases cleared
      rfl

end Session

namespace ClientState

theorem receive_keeps : Keeps (onSession Session.receive) :=
  Keeps.onSession fun _ _ _ => Session.receive_pending

/-- A command that has been sent found nothing pending. -/
theorem sendCommand_finishes
    {messageType : MessageType}
    {payload : List UInt8}
    (command : messageType ≠ .captureCommitted) :
    Finishes (sendCommand messageType payload) := by
  intro state result after returns
  obtain ⟨⟨sequence, session⟩, inner, rest⟩ := bind_eq_ok.1 returns
  cases rest
  obtain ⟨⟨⟨⟩, sent⟩, sending, same⟩ := bind_eq_ok.1 inner
  cases same
  obtain ⟨unchanged, allowed⟩ := Session.send_pending sending
  rw [unchanged]
  exact allowed.resolve_right command

theorem releaseCapture_keeps (captureId : Bytes 16) :
    Keeps (releaseCapture captureId) := by
  apply Keeps.of_unchanged
  intro state result after returns
  unfold releaseCapture at returns
  split at returns
  · split at returns
    · cases returns
    · cases returns
      rfl
  · cases returns
    rfl

theorem confirmCapture_finishes (receipt : CaptureCommittedRequest) :
    Finishes (onSession (Session.confirmCapture receipt)) := by
  intro state result after returns
  obtain ⟨⟨value, session⟩, inner, rest⟩ := bind_eq_ok.1 returns
  cases rest
  exact Session.confirmCapture_pending inner

/-- A capture that has been persisted has been confirmed. -/
theorem persistCapture_finishes (owner : CaptureOwner) (capture : CaptureData) :
    Finishes (persistCapture owner capture) := by
  refine .last fun _ => .last fun delivery => .last fun result =>
    .last fun _ => ?_
  exact .bind (confirmCapture_finishes result.receipt)
    fun _ => releaseCapture_keeps capture.captureId

theorem replay_finishes (hasReplayStore : Bool) (capture : CaptureData) :
    Finishes (replay hasReplayStore capture) := by
  refine .last fun _ => .last fun delivery => .last fun result => ?_
  exact .bind (confirmCapture_finishes result.receipt)
    fun _ => releaseCapture_keeps capture.captureId

/-- The check behind a handler that has taken the capture. -/
theorem handled_finishes (raised : Raised) :
    Finishes (do
      require ((← get).session.pending = none) raised) := by
  intro state result after returns
  obtain ⟨⟨⟩, cleared, same⟩ := bind_eq_ok.1 returns
  cases same
  exact require_eq_ok.1 cleared

/-- Waiting for a response, every capture is taken by the handler or by the
store. -/
theorem resolve_finishes
    (hasReplayStore : Bool)
    (handler : Option AsyncHandler)
    (frame : Frame) :
    Finishes (resolve hasReplayStore handler frame) := by
  refine .last fun capture => .last fun taken => ?_
  cases taken with
  | true => exact handled_finishes _
  | false => exact replay_finishes hasReplayStore capture

theorem responseWithin_keeps
    (hasReplayStore : Bool)
    (handler : Option AsyncHandler)
    (sequence : UInt32)
    (messageType : MessageType)
    (frames : Nat) :
    Keeps (responseWithin hasReplayStore handler sequence messageType
      frames) := by
  induction frames with
  | zero =>
      intro state result after returns
      cases returns
  | succ frames inductionHypothesis =>
      refine receive_keeps.bind fun frame => ?_
      split
      · exact (resolve_finishes hasReplayStore handler frame).keeps.bind
          fun _ => inductionHypothesis
      · exact Keeps.lift _

section Operations

variable (attendance : Attendance)

theorem response_keeps (sequence : UInt32) (messageType : MessageType) :
    Keeps (response attendance sequence messageType) :=
  Keeps.get.bind fun _ => responseWithin_keeps _ _ _ _ _

theorem ack_keeps
    (sequence : UInt32)
    (requestId : Bytes 16)
    (messageType : MessageType) :
    Keeps (ack attendance sequence requestId messageType) :=
  (response_keeps attendance sequence .ack).bind fun _ =>
    (Keeps.lift _).bind fun _ => Keeps.lift _

theorem status_finishes : Finishes (status attendance) :=
  (sendCommand_finishes (by decide)).bind fun sequence =>
    (response_keeps attendance sequence .getStatus).bind fun _ => Keeps.lift _

theorem readConfig_finishes : Finishes (readConfig attendance) :=
  (sendCommand_finishes (by decide)).bind fun sequence =>
    (response_keeps attendance sequence .getConfig).bind fun _ => Keeps.lift _

theorem applyConfig_finishes
    (deviceConfig : Option AcquisitionConfigV2)
    (requestId : Bytes 16)
    (config : AcquisitionConfigV2) :
    Finishes (applyConfig attendance deviceConfig requestId config) := by
  cases deviceConfig with
  | none =>
      exact .last fun _ => .last fun _ => .last fun _ => .last fun _ =>
        readConfig_finishes attendance
  | some known =>
      exact .last fun _ => .last fun _ => .last fun _ => .last fun _ =>
        readConfig_finishes attendance

theorem startPeriodic_finishes (request : StartPeriodicRequest) :
    Finishes (startPeriodic attendance request) :=
  .last fun _ => (sendCommand_finishes (by decide)).bind fun sequence =>
    ack_keeps attendance sequence request.requestId .startPeriodic

theorem renewPeriodic_finishes (renewal : RenewPeriodicLease) :
    Finishes (renewPeriodic attendance renewal) :=
  .last fun _ => (sendCommand_finishes (by decide)).bind fun sequence =>
    (response_keeps attendance sequence .renewPeriodicLease).bind
      fun _ => Keeps.lift _

theorem stopPeriodic_finishes (request : StopRequest) :
    Finishes (stopPeriodic attendance request) :=
  (sendCommand_finishes (by decide)).bind fun sequence =>
    ack_keeps attendance sequence request.requestId .stop

/-- The capture of a CAPTURE_ONCE is pending until its resolver is done. -/
theorem captureResolved_finishes
    (request : CaptureOnceRequest)
    (owner : CaptureOwner) :
    Finishes (captureResolved attendance request owner) :=
  .last fun capture => persistCapture_finishes owner capture

end Operations

/-! ## The polling path -/

/-- The next frame of the stream, read as the delivery of a capture. -/
def readDelivery : Session.Operation CaptureData := do
  Session.acceptDelivery (← Session.receive)

/-- The capture that the next frame of the stream delivers. -/
def nextCapture (session : Session) : Option CaptureData :=
  match readDelivery session with
  | .ok (capture, _) => some capture
  | .error _ => none

/-- A poll reads a capture that its handler does not recognise, or passes over
one that is pending. -/
def Strands (state : ClientState) : DeviceOperation → Prop
  | .pollCaptures readable onCapture =>
      state.session.pending ≠ none ∨
        readable = true ∧
          match nextCapture state.session with
          | some capture => capture.scheduleId ≠ onCapture.scheduleId
          | none => False
  | _ => False

instance (state : ClientState) (operation : DeviceOperation) :
    Decidable (Strands state operation) :=
  match operation with
  | .pollCaptures readable onCapture =>
      match h : nextCapture state.session with
      | some capture =>
          decidable_of_iff
            (state.session.pending ≠ none ∨
              readable = true ∧ capture.scheduleId ≠ onCapture.scheduleId)
            (by simp only [Strands, h])
      | none =>
          decidable_of_iff (state.session.pending ≠ none)
            (by simp only [Strands, h, and_false, or_false])
  | .status | .applyConfig .. | .startPeriodic _ | .renewPeriodic _
  | .stopPeriodic _ | .captureOnce .. => isFalse id

/-- An accepted delivery is pending. -/
theorem acceptDelivery_pending
    {frame : Frame}
    {session after : Session}
    {capture : CaptureData}
    (returns :
      Session.acceptDelivery frame session = .ok (capture, after)) :
    after.pending ≠ none := by
  obtain ⟨⟨⟨⟩, _⟩, _, returns⟩ := bind_eq_ok.1 returns
  dsimp only at returns
  split at returns
  · obtain ⟨⟨⟨⟩, _⟩, _, returns⟩ := bind_eq_ok.1 returns
    cases returns
  · obtain ⟨⟨delivery, _⟩, _, returns⟩ := bind_eq_ok.1 returns
    obtain ⟨⟨inner, _⟩, _, returns⟩ := bind_eq_ok.1 returns
    obtain ⟨⟨decoded, _⟩, _, returns⟩ := bind_eq_ok.1 returns
    cases returns
    exact Option.some_ne_none _

/-- The capture that the next frame delivers is pending once it is read. -/
theorem readDelivery_pending
    {session after : Session}
    {capture : CaptureData}
    (returns : readDelivery session = .ok (capture, after)) :
    after.pending ≠ none := by
  obtain ⟨⟨frame, _⟩, _, accepted⟩ := bind_eq_ok.1 returns
  exact acceptDelivery_pending accepted

section Poll

variable {state : ClientState} {readable : Bool} {onCapture : AsyncHandler}

/-- A poll does nothing while a delivery is pending. -/
theorem pollResolved_of_pending
    (pending : state.session.pending ≠ none) :
    pollResolved readable onCapture state = .ok ((), state) := by
  have quiet : pollCaptures readable state = .ok ([], state) := by
    unfold pollCaptures
    rw [ClientState.get_bind, if_pos pending]
    rfl
  exact bind_eq_ok.2 ⟨_, quiet, rfl⟩

/-- A poll does nothing while the stream is silent. -/
theorem pollResolved_of_silent :
    pollResolved false onCapture state = .ok ((), state) := by
  have quiet : pollCaptures false state = .ok ([], state) := by
    unfold pollCaptures
    rw [ClientState.get_bind]
    split <;> rfl
  exact bind_eq_ok.2 ⟨_, quiet, rfl⟩

/-- What a poll reads is what the next frame delivers. -/
theorem pollCaptures_of_readable
    {captures : List CaptureData}
    {after : ClientState}
    (nothing : state.session.pending = none) :
    pollCaptures true state = .ok (captures, after) ↔
      ∃ capture session,
        readDelivery state.session = .ok (capture, session) ∧
          captures = [capture] ∧
          after = { state with session := session } := by
  unfold pollCaptures
  rw [ClientState.get_bind, if_neg (by simpa using nothing), if_pos rfl]
  constructor
  · intro returns
    obtain ⟨⟨frame, received⟩, receives, returns⟩ := bind_eq_ok.1 returns
    obtain ⟨⟨capture, accepted⟩, accepts, returns⟩ := bind_eq_ok.1 returns
    cases returns
    obtain ⟨⟨_, session⟩, first, same⟩ := bind_eq_ok.1 receives
    cases same
    obtain ⟨⟨_, read⟩, second, same⟩ := bind_eq_ok.1 accepts
    cases same
    exact ⟨capture, read, bind_eq_ok.2 ⟨_, first, second⟩, rfl, rfl⟩
  · rintro ⟨capture, session, reads, rfl, rfl⟩
    obtain ⟨⟨frame, received⟩, first, second⟩ := bind_eq_ok.1 reads
    refine bind_eq_ok.2 ⟨(frame, { state with session := received }), ?_, ?_⟩
    · exact bind_eq_ok.2 ⟨_, first, rfl⟩
    · refine bind_eq_ok.2
        ⟨(capture, { state with session := session }), ?_, rfl⟩
      exact bind_eq_ok.2 ⟨_, second, rfl⟩

/-- A poll whose handler takes what it reads resolves it. -/
theorem pollResolved_finishes
    {after : ClientState}
    (takes : ¬Strands state (.pollCaptures readable onCapture))
    (returns : pollResolved readable onCapture state = .ok ((), after)) :
    after.session.pending = none := by
  simp only [Strands, not_or, not_not] at takes
  obtain ⟨nothing, recognised⟩ := takes
  cases readable with
  | false =>
      rw [pollResolved_of_silent] at returns
      cases returns
      exact nothing
  | true =>
      obtain ⟨⟨captures, between⟩, reads, handles⟩ := bind_eq_ok.1 returns
      obtain ⟨capture, session, delivers, rfl, rfl⟩ :=
        (pollCaptures_of_readable nothing).1 reads
      have next : nextCapture state.session = some capture := by
        unfold nextCapture
        rw [delivers]
      have own : ¬capture.scheduleId ≠ onCapture.scheduleId := by
        simpa only [next, true_and] using recognised
      obtain ⟨⟨taken, stored⟩, handled, rest⟩ := bind_eq_ok.1 handles
      obtain ⟨⟨taken, resolved⟩, persists, same⟩ := bind_eq_ok.1 handled
      cases same
      cases rest
      unfold persistInterleaved at persists
      rw [if_neg own] at persists
      obtain ⟨⟨⟨⟩, persisted⟩, persists, same⟩ := bind_eq_ok.1 persists
      cases same
      exact persistCapture_finishes _ _ _ _ _ persists

/-- A poll that leaves a capture alone returns nonetheless. -/
theorem pollResolved_strands
    (strands : Strands state (.pollCaptures readable onCapture)) :
    ∃ after,
      pollResolved readable onCapture state = .ok ((), after) ∧
        after.session.pending ≠ none := by
  by_cases pending : state.session.pending = none
  · obtain ⟨rfl, unrecognised⟩ :=
      strands.resolve_left (not_not_intro pending)
    unfold nextCapture at unrecognised
    split at unrecognised
    next capture found =>
      split at found
      next read session delivers =>
        obtain rfl := Option.some.inj found
        refine ⟨{ state with session := session }, ?_,
          readDelivery_pending delivers⟩
        refine bind_eq_ok.2 ⟨_, (pollCaptures_of_readable pending).2
          ⟨read, session, delivers, rfl, rfl⟩, ?_⟩
        have declined :
            persistInterleaved onCapture read =
              (Pure.pure false : Operation Bool) :=
          if_pos unrecognised
        change (do
          let _ ← (do let _ ← persistInterleaved onCapture read)
          Pure.pure PUnit.unit : Operation Unit) _ = _
        rw [declined]
        rfl
      next => cases found
    next => exact unrecognised.elim
  · exact ⟨state, pollResolved_of_pending pending, pending⟩

end Poll

/-- An operation that returns leaves nothing pending, but for a poll that leaves
a capture alone. -/
theorem leaves_nothing_iff
    (attendance : Attendance)
    (operation : DeviceOperation)
    (state : ClientState) :
    (∀ after,
        operation.perform attendance state = .ok ((), after) →
          after.session.pending = none) ↔
      ¬Strands state operation := by
  have discarded :
      ∀ {Result : Type} {run : Operation Result},
        Finishes run → Finishes (do let _ ← run) :=
    fun finishes => finishes.bind fun _ => Keeps.pure ()
  have resolved :
      ∀ {run : Operation Unit},
        Finishes run →
          ((∀ after, run state = .ok ((), after) →
              after.session.pending = none) ↔
            ¬False) :=
    fun finishes =>
      iff_of_true (fun after => finishes state () after) not_false
  cases operation with
  | status => exact resolved (discarded (status_finishes attendance))
  | applyConfig deviceConfig requestId config =>
      exact resolved (discarded
        (applyConfig_finishes attendance deviceConfig requestId config))
  | startPeriodic request =>
      exact resolved (startPeriodic_finishes attendance request)
  | renewPeriodic renewal =>
      exact resolved (discarded (renewPeriodic_finishes attendance renewal))
  | stopPeriodic request =>
      exact resolved (stopPeriodic_finishes attendance request)
  | captureOnce request owner =>
      exact resolved (captureResolved_finishes attendance request owner)
  | pollCaptures readable onCapture =>
      constructor
      · intro leaves strands
        obtain ⟨after, returns, pending⟩ := pollResolved_strands strands
        exact pending (leaves after returns)
      · intro takes after returns
        exact pollResolved_finishes takes returns

/-- A step whose operation returns. -/
theorem step_of_returns
    {state after : ClientState}
    {call : Call}
    (returns :
      call.operation.perform call.attendance state = .ok ((), after)) :
    machine.step state call = (after, .ok ()) := by
  simp only [machine, returns]

/-- Over a run, every operation that returns leaves nothing pending exactly
when no poll leaves a capture alone. -/
theorem everyOperation_leaves_nothing_iff
    (start : ClientState)
    (calls : List Call) :
    EveryStep
        (fun _ event =>
          event.output = .ok () → event.target.session.pending = none)
        (machine.trace start calls) ↔
      EveryStep
        (fun _ event => ¬Strands event.source event.input.operation)
        (machine.trace start calls) := by
  rw [EveryStep.forall_iff, EveryStep.forall_iff]
  refine forall₂_congr fun event member => ?_
  rw [machine.eq_event_of_mem_trace member]
  obtain ⟨state, ⟨operation, attendance, left⟩, output, target⟩ := event
  simp only [Machine.event, machine]
  rw [← leaves_nothing_iff attendance operation state]
  cases performed : operation.perform attendance state with
  | error raised =>
      simp
  | ok returned =>
      constructor
      · intro leaves after same
        cases same
        exact leaves rfl
      · intro leaves _
        exact leaves returned.2 rfl

/-! ## A capture of another schedule -/

/-- The payload of a capture of one sample under a numbered schedule. -/
def scheduledPayload (number : UInt8) : List UInt8 :=
  [1, 0, 188, 0] ++ List.replicate 16 0 ++ List.replicate 16 number ++
    List.replicate 92 1 ++ [1, 0, 0, 0, 12, 1] ++ List.replicate 50 0 ++
    [2, 0, 0, 0, 0, 0]

/-- The delivery of that capture, as the bridge frames it. -/
def scheduledDelivery (number : UInt8) : Except Raised (List UInt8) := do
  let capture : Frame :=
    { Frame.command .captureData 1 (scheduledPayload number) with
      flags := Flags.async }
  let inner ← capture.encode
  let delivery : BridgeCaptureDelivery := {
    connectionId := 1
    spoolRecordId := 1
    sourceConnectionId := 1
    sourceFirstStreamOffset := 0
    sourceLastStreamOffset := inner.length.toUInt64 - 1
    storedUtcNs := 1
    innerFrame := inner
  }
  let outer : Frame :=
    { Frame.command .bridgeCaptureDelivery 1 (← delivery.encode) with
      flags := Flags.async }
  outer.encode

/-- A client with a late capture of schedule 2 on its stream. -/
def lateArrival : ClientState where
  session := {
    connection := {
      incoming := [.bytes ((scheduledDelivery 2).toOption.getD [])]
      sendFailures := []
      sent := []
    }
    sequence := 2
    pending := none
  }
  store := .empty

/-- The handler of the session that owns schedule 1. -/
def firstHandler : AsyncHandler where
  scheduleId := List.Vector.replicate 16 1
  owner := {
    sessionId := List.Vector.replicate 16 1
    savePolicy := .saveAll
    groupId := none
    texts := ⟨"", "", "", ""⟩
    onResolved := fun _ store => .ok store
  }

/-- The poll of that session. -/
def firstPoll : Call where
  operation := .pollCaptures true firstHandler
  attendance := { hasReplayStore := true, handler := some firstHandler }
  left := lateArrival

set_option maxRecDepth 100000 in
/-- The poll returns, and the late capture stays pending. -/
theorem lateCapture_stays_pending :
    ¬EveryStep
        (fun _ event =>
          event.output = .ok () → event.target.session.pending = none)
        (machine.trace lateArrival [firstPoll]) := by
  have strands :
      Strands lateArrival (.pollCaptures true firstHandler) := by
    decide +kernel
  obtain ⟨after, returns, pending⟩ := pollResolved_strands strands
  have step : machine.step lateArrival firstPoll = (after, .ok ()) :=
    step_of_returns returns
  intro every
  apply pending
  have clean := every [] (machine.event lateArrival firstPoll) [] rfl
  simp only [Machine.event, step] at clean
  exact clean trivial

end ClientState

end Usac.Host
