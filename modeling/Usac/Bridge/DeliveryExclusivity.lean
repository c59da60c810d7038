import Mathlib.Data.List.Perm.Subperm
import Mathlib.Tactic.SplitIfs
import Usac.Bridge.SessionStep

namespace Usac.Bridge

open Library Host

/-!
# One delivery at a time

A delivery waits for the answer to its receipt before the session sends anything
else, and a replay hands out the records of the spool in their order. The core
is held to one rule only: the receipts it has sent are among those it owes for
the deliveries it has got.
-/

/-- The receipt a core owes for a delivery. -/
def receiptFor (delivery : Frame) : Option Frame :=
  Except.toOption do
    let message ← BridgeCaptureDelivery.decode delivery.payload
    let inner ← Frame.decode message.innerFrame
    let capture ← CaptureData.decode inner.payload
    pure (Frame.command .captureCommitted delivery.sequence
      (CaptureCommittedRequest.encode {
        connectionId := message.connectionId
        spoolRecordId := message.spoolRecordId
        deviceId := capture.deviceId
        bootId := capture.bootId
        captureId := capture.captureId
        innerFrameCrc32 := Frame.crc32IsoHdlc message.innerFrame }))

/-- The response `_confirm_delivery` accepts for a delivery. -/
def answers (delivery response : Frame) : Bool :=
  response.messageType = .captureCommitted &&
    response.flags = Flags.response &&
    response.sequence = delivery.sequence &&
    match BridgeCaptureDelivery.decode delivery.payload,
      CaptureCommittedResponse.decode response.payload with
    | .ok message, .ok committed =>
        committed.connectionId = message.connectionId &&
          committed.spoolRecordId = message.spoolRecordId
    | _, _ => false

/-- The record a delivery is of. -/
def recordOf (delivery : Frame) : Option Int :=
  (BridgeCaptureDelivery.decode delivery.payload).toOption.map
    fun message => message.spoolRecordId.toNat

/-- Whether a frame is a delivery. -/
def isDelivery (frame : Frame) : Bool :=
  frame.messageType = .bridgeCaptureDelivery

/-- Whether a frame is the answer to a HELLO. -/
def isHelloResponse (frame : Frame) : Bool :=
  frame.messageType = .hello && frame.flags &&& Flags.response ≠ 0

/-- The loop replays the spool. -/
def SerialLoop.replaying : SerialLoop → Bool
  | .draining => true
  | .registering delivery | .handing delivery _ | .awaiting delivery _
  | .releasing delivery => delivery.rest.isSome
  | _ => false

/-- A packed integer is the integer. -/
theorem toNat_of_packWord
    {value : Int}
    {word : UInt64}
    (packed : packWord value = .ok word) :
    (word.toNat : Int) = value := by
  obtain ⟨⟨⟩, fits, packed⟩ := bind_eq_ok.1 packed
  obtain rfl := Except.ok.inj packed
  have bounds := require_eq_ok.1 fits
  rw [Nat.toUInt64_eq, UInt64.toNat_ofNat', Nat.mod_eq_of_lt (by omega)]
  omega

/-- What the core reads in a delivery. -/
theorem decode_deliveryFrame
    {connectionId : Int}
    {pending : PendingCapture}
    {sequence : UInt32}
    {frame : Frame}
    (built : deliveryFrame connectionId pending sequence = .ok frame) :
    isDelivery frame = true ∧ frame.sequence = sequence ∧
      ∃ message, BridgeCaptureDelivery.decode frame.payload = .ok message ∧
        (message.spoolRecordId.toNat : Int) = pending.recordId ∧
        message.innerFrame = pending.innerFrame := by
  simp only [deliveryFrame, bind_eq_ok] at built
  obtain ⟨_, -, recordId, packed, _, -, _, -, _, -, _, -, payload, encoded,
    built⟩ := built
  obtain rfl := Except.ok.inj built
  exact ⟨rfl, rfl, _, BridgeCaptureDelivery.decode_of_encode encoded,
    toNat_of_packWord packed, rfl⟩

/-- The receipt owed for a delivery names its record and its connection. -/
theorem decode_receiptFor
    {delivery receipt : Frame}
    {message : BridgeCaptureDelivery}
    (owed : receiptFor delivery = some receipt)
    (decoded : BridgeCaptureDelivery.decode delivery.payload = .ok message) :
    receipt.sequence = delivery.sequence ∧
      ∃ request,
        CaptureCommittedRequest.decode receipt.payload = .ok request ∧
          request.connectionId = message.connectionId ∧
          request.spoolRecordId = message.spoolRecordId ∧
          ∀ raw, ProxySession.dispatch receipt raw =
            .committing delivery.sequence request := by
  simp only [receiptFor, decoded, ok_bind] at owed
  cases inner : Frame.decode message.innerFrame with
  | error raised =>
      simp [inner, Except.toOption] at owed
  | ok frame =>
      cases capture : CaptureData.decode frame.payload with
      | error raised =>
          simp [inner, capture, Except.toOption] at owed
      | ok data =>
          simp only [inner, capture, ok_bind] at owed
          obtain rfl := Option.some.inj owed
          refine ⟨rfl, _, CaptureCommittedRequest.decode_encode _, rfl, rfl,
            fun raw => ?_⟩
          simp [ProxySession.dispatch, Frame.command,
            CaptureCommittedRequest.decode_encode]

/-- The response to the receipt of a delivery answers it. -/
theorem answers_commitResponse
    {delivery response : Frame}
    {message : BridgeCaptureDelivery}
    {request : CaptureCommittedRequest}
    {disposition : Disposition}
    (built :
      commitResponse delivery.sequence request disposition = .ok response)
    (decoded : BridgeCaptureDelivery.decode delivery.payload = .ok message)
    (connection : request.connectionId = message.connectionId)
    (record : request.spoolRecordId = message.spoolRecordId) :
    answers delivery response = true ∧ isDelivery response = false := by
  obtain ⟨payload, encoded, built⟩ := bind_eq_ok.1 built
  obtain rfl := Except.ok.inj built
  simp [answers, decoded, CaptureCommittedResponse.decode_of_encode encoded,
    connection, record, isDelivery]

namespace Spool

/-- After `mark_committed` the record of the receipt is no longer pending, and
every other record still is. -/
theorem rows_of_markCommitted
    {spool next : Spool}
    {receipt : Receipt}
    {disposition : Disposition}
    (committed : spool.markCommitted receipt = .ok (next, disposition)) :
    next.pending.rows =
      spool.pending.rows.filter (·.recordId ≠ receipt.recordId) := by
  obtain ⟨⟨⟩, -, committed⟩ := bind_eq_ok.1 committed
  cases selected : spool.pending.selectId receipt.recordId with
  | some row =>
      simp only [selected] at committed
      obtain ⟨⟨⟩, -, committed⟩ := bind_eq_ok.1 committed
      obtain ⟨-, same⟩ := (spool.pending.selectId_eq_some).1 selected
      cases inserted : spool.tombstones.insert? (tombstoneFor row) with
      | none =>
          simp [commitPending, inserted] at committed
      | some tombstones =>
          simp only [commitPending, inserted] at committed
          obtain ⟨⟨⟩, -, committed⟩ := bind_eq_ok.1 committed
          obtain ⟨rfl, -⟩ := Prod.mk.inj (Except.ok.inj committed)
          simp [moved, Table.delete, same]
  | none =>
      have same : next = spool := by
        simp only [selected] at committed
        cases found : spool.tombstones.selectId receipt.recordId with
        | none =>
            simp [found] at committed
        | some tombstone =>
            simp only [found] at committed
            obtain ⟨⟨⟩, -, committed⟩ := bind_eq_ok.1 committed
            exact (Prod.mk.inj (Except.ok.inj committed)).1.symm
      rw [same, eq_comm, List.filter_eq_self]
      intro row member
      simpa using List.find?_eq_none.1 selected row member

end Spool

namespace ProxySession

/-- The frame a step sends to the core. -/
def sentOf : Shown → Option Frame
  | .sent frame => some frame
  | _ => none

/-- The frame a step hears from the device. -/
def heardOf : Shown → Option Frame
  | .heard frame => some frame
  | _ => none

/-- The receipt a step gets from the core. -/
def gotOf : Shown → Option Frame
  | .received frame _ =>
      if frame.messageType = .captureCommitted then some frame else none
  | _ => none

/-- The record of a replay a step delivers. -/
def replayOf (event : Step) : Option Int :=
  match event.input.thread, event.source.serialLoop, event.output with
  | .serialLoop, .handing delivery _, .sent _ =>
      if delivery.rest.isSome then some delivery.pending.recordId else none
  | _, _, _ => none

/-- The frames sent to the core, in order. -/
def sentFrames (record : List Step) : List Frame :=
  record.filterMap fun event => sentOf event.output

/-- The receipts the core owes. -/
def owed (record : List Step) : List Frame :=
  ((sentFrames record).filter isDelivery).filterMap receiptFor

/-- The receipts the core has sent. -/
def got (record : List Step) : List Frame :=
  record.filterMap fun event => gotOf event.output

/-- The delivery that was sent last, when nothing has been sent since. -/
def openDelivery (record : List Step) : Option Frame :=
  (sentFrames record).getLast?.filter isDelivery

/-- The deliveries without an answer. -/
def unanswered (record : List Step) : List Frame :=
  (sentFrames record).foldl (fun waiting frame =>
    waiting.filter (fun delivery => !answers delivery frame) ++
      if isDelivery frame then [frame] else []) []

/-- The records `mark_committed` has returned for since the last frame was
sent. -/
def marked (record : List Step) : List Int :=
  record.foldl (fun records event =>
    match event.output with
    | .sent _ => []
    | .marked receipt _ => records ++ [receipt.recordId]
    | _ => records) []

/-- The records delivered by the replay that was started last. -/
def replayed (record : List Step) : List Int :=
  record.foldl (fun records event =>
    if (sentOf event.output).any isHelloResponse then []
    else records ++ (replayOf event).toList) []

/-- The core sends a receipt only for a delivery it has got, one for each. -/
def CoreAnswers (earlier : List Step) (event : Step) : Prop :=
  ∀ receipt ∈ gotOf event.output,
    (got earlier ++ [receipt]).Subperm (owed earlier)

instance (earlier : List Step) (event : Step) :
    Decidable (CoreAnswers earlier event) :=
  inferInstanceAs (Decidable (∀ receipt ∈ gotOf event.output, _))

/-- The device sends no frame of the type the bridge delivers captures in. -/
def DeviceOrdinary (event : Step) : Prop :=
  ∀ frame ∈ heardOf event.output, isDelivery frame = false

instance (event : Step) : Decidable (DeviceOrdinary event) :=
  inferInstanceAs (Decidable (∀ frame ∈ heardOf event.output, _))

/-- The law of the deliveries, for one step. -/
structure Exclusive (earlier : List Step) (event : Step) : Prop where
  single : (unanswered (earlier ++ [event])).length ≤ 1
  answered :
    ∀ frame ∈ sentOf event.output, ∀ delivery ∈ openDelivery earlier,
      answers delivery frame = true ∧
        ∃ recordId ∈ marked earlier, recordOf delivery = some recordId
  begins :
    (sentOf event.output).any isHelloResponse = true →
      event.target.serialLoop = .draining
  ordered :
    ∀ recordId ∈ replayOf event,
      (∃ row ∈ event.source.spool.pending.rows, row.recordId = recordId) ∧
        ∀ earlierId ∈ replayed earlier, earlierId < recordId
  ends :
    event.source.serialLoop.replaying = true →
      event.target.serialLoop.replaying = true ∨
        event.output = .drained ∧ event.target.spool.pending.rows = [] ∨
        ∃ raised, event.target.serialLoop = .unwinding raised

/-- A step that is no part of the exchange with the core. -/
structure Unseen (shown : Shown) : Prop where
  unsent : sentOf shown = none
  ungot : gotOf shown = none
  unmarked : ∀ receipt disposition, shown ≠ .marked receipt disposition

/-- A silent step is none. -/
theorem unseen_of_silent {shown : Shown} (silent : shown = .silent) :
    Unseen shown := by
  rw [silent]
  exact ⟨rfl, rfl, nofun⟩

section History

variable {record : List Step} {event : Step}

/-- The frames sent after one more step. -/
theorem sentFrames_concat (record : List Step) (event : Step) :
    sentFrames (record ++ [event]) =
      sentFrames record ++ (sentOf event.output).toList := by
  simp only [sentFrames, List.filterMap_append]
  cases shown : sentOf event.output <;> simp [shown]

/-- The receipts after one more step. -/
theorem got_concat (record : List Step) (event : Step) :
    got (record ++ [event]) = got record ++ (gotOf event.output).toList := by
  simp only [got, List.filterMap_append]
  cases shown : gotOf event.output <;> simp [shown]

/-- The history of a step outside the exchange. -/
theorem Unseen.same
    (record : List Step)
    (unseen : Unseen event.output) :
    owed (record ++ [event]) = owed record ∧
      got (record ++ [event]) = got record ∧
      openDelivery (record ++ [event]) = openDelivery record ∧
      unanswered (record ++ [event]) = unanswered record ∧
      marked (record ++ [event]) = marked record := by
  have sent : sentFrames (record ++ [event]) = sentFrames record := by
    simp [sentFrames_concat, unseen.unsent]
  refine ⟨by rw [owed, sent, owed], by simp [got_concat, unseen.ungot],
    by rw [openDelivery, sent, openDelivery],
    by rw [unanswered, sent, unanswered], ?_⟩
  rw [marked, List.foldl_append, ← marked, List.foldl_cons, List.foldl_nil]
  have sentNone := unseen.unsent
  cases shown : event.output with
  | sent frame =>
      simp [shown, sentOf] at sentNone
  | marked receipt disposition =>
      exact absurd shown (unseen.unmarked receipt disposition)
  | _ =>
      rfl

/-- The history of a frame sent outside an exchange. -/
theorem sends_other
    (record : List Step)
    {frame : Frame}
    (sent : event.output = .sent frame)
    (other : isDelivery frame = false)
    (none_ : unanswered record = []) :
    owed (record ++ [event]) = owed record ∧
      got (record ++ [event]) = got record ∧
      openDelivery (record ++ [event]) = none ∧
      unanswered (record ++ [event]) = [] := by
  have frames :
      sentFrames (record ++ [event]) = sentFrames record ++ [frame] := by
    simp [sentFrames_concat, sent, sentOf]
  refine ⟨by simp [owed, frames, other], by simp [got_concat, sent, gotOf],
    by simp [openDelivery, frames, other], ?_⟩
  rw [unanswered, frames, List.foldl_append, ← unanswered, none_]
  simp [other]

/-- The history of a delivery. -/
theorem sends_delivery
    (record : List Step)
    {frame : Frame}
    (sent : event.output = .sent frame)
    (delivery : isDelivery frame = true)
    (none_ : unanswered record = []) :
    owed (record ++ [event]) = owed record ++ (receiptFor frame).toList ∧
      got (record ++ [event]) = got record ∧
      openDelivery (record ++ [event]) = some frame ∧
      unanswered (record ++ [event]) = [frame] := by
  have frames :
      sentFrames (record ++ [event]) = sentFrames record ++ [frame] := by
    simp [sentFrames_concat, sent, sentOf]
  refine ⟨?_, by simp [got_concat, sent, gotOf],
    by simp [openDelivery, frames, delivery], ?_⟩
  · cases receipt : receiptFor frame <;>
      simp [owed, frames, delivery, receipt]
  · rw [unanswered, frames, List.foldl_append, ← unanswered, none_]
    simp [delivery]

/-- The history of the answer to a delivery. -/
theorem sends_answer
    (record : List Step)
    {frame delivery : Frame}
    (sent : event.output = .sent frame)
    (other : isDelivery frame = false)
    (answer : answers delivery frame = true)
    (waiting : unanswered record = [delivery]) :
    owed (record ++ [event]) = owed record ∧
      got (record ++ [event]) = got record ∧
      openDelivery (record ++ [event]) = none ∧
      unanswered (record ++ [event]) = [] := by
  have frames :
      sentFrames (record ++ [event]) = sentFrames record ++ [frame] := by
    simp [sentFrames_concat, sent, sentOf]
  refine ⟨by simp [owed, frames, other], by simp [got_concat, sent, gotOf],
    by simp [openDelivery, frames, other], ?_⟩
  rw [unanswered, frames, List.foldl_append, ← unanswered, waiting]
  simp [other, answer]

/-- The history of a receipt. -/
theorem gets_receipt
    (record : List Step)
    {frame : Frame}
    {raw : List UInt8}
    (received : event.output = .received frame raw)
    (receipt : frame.messageType = .captureCommitted) :
    owed (record ++ [event]) = owed record ∧
      got (record ++ [event]) = got record ++ [frame] ∧
      openDelivery (record ++ [event]) = openDelivery record ∧
      unanswered (record ++ [event]) = unanswered record := by
  have frames : sentFrames (record ++ [event]) = sentFrames record := by
    simp [sentFrames_concat, received, sentOf]
  exact ⟨by rw [owed, frames, owed],
    by simp [got_concat, received, gotOf, receipt],
    by rw [openDelivery, frames, openDelivery],
    by rw [unanswered, frames, unanswered]⟩

/-- The history of a commit. -/
theorem marks
    (record : List Step)
    {receipt : Receipt}
    {disposition : Disposition}
    (shown : event.output = .marked receipt disposition) :
    owed (record ++ [event]) = owed record ∧
      got (record ++ [event]) = got record ∧
      openDelivery (record ++ [event]) = openDelivery record ∧
      unanswered (record ++ [event]) = unanswered record ∧
      receipt.recordId ∈ marked (record ++ [event]) := by
  have frames : sentFrames (record ++ [event]) = sentFrames record := by
    simp [sentFrames_concat, shown, sentOf]
  refine ⟨by rw [owed, frames, owed], by simp [got_concat, shown, gotOf],
    by rw [openDelivery, frames, openDelivery],
    by rw [unanswered, frames, unanswered], ?_⟩
  rw [marked, List.foldl_append, ← marked]
  simp [shown]

end History

end ProxySession

namespace CoreReader

/-- The reader has ended, or is about to. -/
def Dead : CoreReader → Prop
  | .failing _ | .ended => True
  | _ => False

/-- The reader is at a receipt. -/
def Exchanging : CoreReader → Prop
  | .committing _ _ | .responding _ _ _ | .finding _ | .setting _ => True
  | _ => False

end CoreReader

/-- The loop has ended, or is about to. -/
def SerialLoop.Dead : SerialLoop → Prop
  | .unwinding _ | .ended => True
  | _ => False

namespace ProxySession

/-- The record of a delivery is no longer pending. -/
def Gone (session : ProxySession) (delivery : Delivery) : Prop :=
  ∀ row ∈ session.spool.pending.rows,
    row.recordId ≠ delivery.pending.recordId

/-- A delivery is registered under an event that is not set. -/
structure Registered
    (session : ProxySession)
    (delivery : Delivery)
    (event : Nat) :
    Prop where
  unset : event ∉ session.setEvents
  known : event < session.nextEvent
  found :
    session.pendingEvents.lookup delivery.pending.recordId = some event

/-- Where the serial loop is while no delivery is open. -/
def Settled (session : ProxySession) : Prop :=
  match session.serialLoop with
  | .forwarding frame => isDelivery frame = false
  | .handing delivery event => session.Registered delivery event
  | .awaiting delivery event =>
      event ∈ session.setEvents → session.Gone delivery
  | .releasing delivery => session.Gone delivery
  | _ => True

/-- The serial loop waits for the answer to a delivery, or has given up. -/
structure Waits
    (session : ProxySession)
    (delivery : Delivery)
    (event : Nat) :
    Prop where
  waits :
    session.serialLoop = .awaiting delivery event ∨ session.serialLoop.Dead
  registered : session.Registered delivery event

/-- A delivery is open. -/
structure Open
    (record : List Step)
    (session : ProxySession)
    (delivery : Delivery)
    (event : Nat)
    (frame : Frame)
    (message : BridgeCaptureDelivery) :
    Prop where
  waits : session.Waits delivery event
  last : openDelivery record = some frame
  waiting : unanswered record = [frame]
  decoded : BridgeCaptureDelivery.decode frame.payload = .ok message
  named : (message.spoolRecordId.toNat : Int) = delivery.pending.recordId

/-- No delivery is open. -/
structure Closed (record : List Step) : Prop where
  last : openDelivery record = none
  waiting : unanswered record = []

/-- How far the exchange about a delivery has come. -/
inductive Phase (record : List Step) (session : ProxySession) : Prop where
  | settled
      (closed : Closed record)
      (away : ¬session.coreReader.Exchanging)
      (balanced : session.coreReader.Dead ∨ owed record = got record)
      (serial : session.Settled)
  | handed (delivery : Delivery) (event : Nat) (frame : Frame)
      (message : BridgeCaptureDelivery)
      (isOpen : Open record session delivery event frame message)
      (away : ¬session.coreReader.Exchanging)
      (balanced :
        session.coreReader.Dead ∨
          owed record = got record ++ (receiptFor frame).toList)
  | committing (delivery : Delivery) (event : Nat) (frame : Frame)
      (message : BridgeCaptureDelivery) (request : CaptureCommittedRequest)
      (isOpen : Open record session delivery event frame message)
      (here : session.coreReader = .committing frame.sequence request)
      (connection : request.connectionId = message.connectionId)
      (named : request.spoolRecordId = message.spoolRecordId)
      (balanced : owed record = got record)
  | responding (delivery : Delivery) (event : Nat) (frame : Frame)
      (message : BridgeCaptureDelivery) (request : CaptureCommittedRequest)
      (disposition : Disposition)
      (isOpen : Open record session delivery event frame message)
      (here :
        session.coreReader = .responding frame.sequence request disposition)
      (connection : request.connectionId = message.connectionId)
      (named : request.spoolRecordId = message.spoolRecordId)
      (committed : delivery.pending.recordId ∈ marked record)
      (gone : session.Gone delivery)
      (balanced : owed record = got record)
  | finding (delivery : Delivery) (event : Nat)
      (closed : Closed record)
      (waits : session.Waits delivery event)
      (here : session.coreReader = .finding delivery.pending.recordId)
      (gone : session.Gone delivery)
      (balanced : owed record = got record)
  | setting (delivery : Delivery) (event : Nat)
      (closed : Closed record)
      (waits : session.Waits delivery event)
      (here : session.coreReader = .setting event)
      (gone : session.Gone delivery)
      (balanced : owed record = got record)

/-- Two states of a session between which nothing has happened to deliveries. -/
structure SameDeliveries (session next : ProxySession) : Prop where
  connectionId : next.connectionId = session.connectionId
  spool : next.spool = session.spool
  pendingEvents : next.pendingEvents = session.pendingEvents
  nextEvent : next.nextEvent = session.nextEvent
  setEvents : next.setEvents = session.setEvents

namespace SameDeliveries

variable {session next : ProxySession} (same : SameDeliveries session next)

include same

/-- A registration stays. -/
theorem registered
    {delivery : Delivery}
    {event : Nat}
    (registered : session.Registered delivery event) :
    next.Registered delivery event where
  unset := same.setEvents ▸ registered.unset
  known := same.nextEvent ▸ registered.known
  found := same.pendingEvents ▸ registered.found

/-- A record that is gone stays gone. -/
theorem gone
    {delivery : Delivery}
    (gone : session.Gone delivery) :
    next.Gone delivery := by
  unfold Gone
  rw [same.spool]
  exact gone

/-- A serial loop that has not moved is settled as before. -/
theorem settled
    (serial : next.serialLoop = session.serialLoop)
    (settled : session.Settled) :
    next.Settled := by
  unfold Settled at settled ⊢
  rw [serial]
  cases here : session.serialLoop with
  | handing delivery event =>
      rw [here] at settled
      exact same.registered settled
  | awaiting delivery event =>
      rw [here] at settled
      exact fun isSet => same.gone (settled (same.setEvents ▸ isSet))
  | releasing delivery =>
      rw [here] at settled
      exact same.gone settled
  | _ =>
      rw [here] at settled
      exact settled

/-- A wait goes on while the serial loop has not moved. -/
theorem waits
    (serial : next.serialLoop = session.serialLoop)
    {delivery : Delivery}
    {event : Nat}
    (waits : session.Waits delivery event) :
    next.Waits delivery event where
  waits := by
    rw [serial]
    exact waits.waits
  registered := same.registered waits.registered

end SameDeliveries

/-- A serial loop that waits for a delivery whose record is gone is settled. -/
theorem settled_of_awaiting
    {session : ProxySession}
    {delivery : Delivery}
    {event : Nat}
    (waits :
      session.serialLoop = .awaiting delivery event ∨ session.serialLoop.Dead)
    (gone : event ∈ session.setEvents → session.Gone delivery) :
    session.Settled := by
  unfold Settled
  rcases waits with here | dead
  · rw [here]
    exact gone
  · cases here : session.serialLoop with
    | unwinding | ended =>
        exact trivial
    | _ =>
        rw [here] at dead
        exact dead.elim

/-- A delivery stays open through a step outside the exchange. -/
theorem Open.unseen
    {record : List Step}
    {event : Step}
    {session next : ProxySession}
    {delivery : Delivery}
    {number : Nat}
    {frame : Frame}
    {message : BridgeCaptureDelivery}
    (isOpen : Open record session delivery number frame message)
    (unseen : Unseen event.output)
    (waits : next.Waits delivery number) :
    Open (record ++ [event]) next delivery number frame message := by
  obtain ⟨-, -, last, waiting, -⟩ := unseen.same record
  exact { isOpen with
    waits := waits
    last := last.trans isOpen.last
    waiting := waiting.trans isOpen.waiting }

/-- No delivery is opened by a step outside the exchange. -/
theorem Closed.unseen
    {record : List Step}
    {event : Step}
    (closed : Closed record)
    (unseen : Unseen event.output) :
    Closed (record ++ [event]) := by
  obtain ⟨-, -, last, waiting, -⟩ := unseen.same record
  exact ⟨last.trans closed.last, waiting.trans closed.waiting⟩

/-- While it waits, the serial loop can only go on waiting or give up. -/
theorem SerialStep.waiting
    {session : ProxySession}
    {result : ProxySession × Shown}
    (step : SerialStep session result)
    {delivery : Delivery}
    {event : Nat}
    (waits : session.Waits delivery event) :
    result.2 = .silent ∧ result.1.Waits delivery event ∧
      SameDeliveries session result.1 ∧
      result.1.coreReader = session.coreReader := by
  have same : SameDeliveries session session := ⟨rfl, rfl, rfl, rfl, rfl⟩
  cases step with
  | waits =>
      exact ⟨rfl, waits, same, rfl⟩
  | fails raised unlocked =>
      exact ⟨rfl, ⟨.inr trivial, { waits.registered with }⟩, { same with }, rfl⟩
  | stops raised here =>
      exact ⟨rfl, ⟨.inr trivial, { waits.registered with }⟩, { same with }, rfl⟩
  | confirmed other number here isSet =>
      exfalso
      rcases waits.waits with at_ | dead
      · obtain ⟨-, rfl⟩ := SerialLoop.awaiting.inj (here.symm.trans at_)
        exact waits.registered.unset isSet
      · rw [here] at dead
        exact dead
  | rounds next idle goes =>
      exfalso
      rcases waits.waits with at_ | dead
      · rw [at_] at idle
        exact idle
      · cases here : session.serialLoop <;>
          simp_all [SerialLoop.Dead, SerialLoop.Idle]
  | hears raw frame idle decoded =>
      exfalso
      rcases waits.waits with at_ | dead
      · rw [at_] at idle
        exact idle
      · cases here : session.serialLoop <;>
          simp_all [SerialLoop.Dead, SerialLoop.Idle]
  | _ =>
      exfalso
      rcases waits.waits with at_ | dead <;> simp_all [SerialLoop.Dead]

namespace Phase

variable {record : List Step} {session next : ProxySession} {event : Step}

/-- A step of the serial loop while no delivery is open. -/
theorem serial_settled
    (closed : Closed record)
    (away : ¬session.coreReader.Exchanging)
    (balanced : session.coreReader.Dead ∨ owed record = got record)
    (settled : session.Settled)
    (known : ∀ number ∈ session.setEvents, number < session.nextEvent)
    (ordinary : DeviceOrdinary event)
    (step : SerialStep session (next, event.output)) :
    Phase (record ++ [event]) next := by
  have stays
      (unseen : Unseen event.output)
      (reader : next.coreReader = session.coreReader)
      (serial : next.Settled) :
      Phase (record ++ [event]) next := by
    obtain ⟨sameOwed, sameGot, -, -, -⟩ := unseen.same record
    exact .settled (closed.unseen unseen) (reader ▸ away)
      (by rw [reader, sameOwed, sameGot]; exact balanced) serial
  generalize shown : event.output = output at step
  have silent (at_ : output = .silent) : Unseen event.output :=
    unseen_of_silent (shown.trans at_)
  cases step with
  | waits =>
      exact stays (silent rfl) rfl settled
  | rounds goal idle goes =>
      refine stays (silent rfl) rfl ?_
      rcases goes with idle | rfl
      · cases goal with
        | looping | assembling | reading =>
            exact trivial
        | _ =>
            exact idle.elim
      · exact trivial
  | fails raised unlocked =>
      exact stays (silent rfl) rfl trivial
  | hears raw frame idle decoded =>
      refine stays (shown ▸ ⟨rfl, rfl, nofun⟩) rfl ?_
      unfold Settled
      dsimp only
      split_ifs
      · exact trivial
      · exact ordinary frame (by rw [shown]; rfl)
  | forwards frame here =>
      have other : isDelivery frame = false := by
        unfold Settled at settled
        rw [here] at settled
        exact settled
      obtain ⟨sameOwed, sameGot, last, waiting⟩ :=
        sends_other record shown other closed.waiting
      refine .settled ⟨last, waiting⟩ away
        (by rw [sameOwed, sameGot]; exact balanced) ?_
      unfold Settled toSerial
      dsimp only
      split_ifs <;> exact trivial
  | stores frame raw firstOffset request spool pending here stored =>
      exact stays (silent rfl) rfl trivial
  | drains here empty =>
      exact stays (shown ▸ ⟨rfl, rfl, nofun⟩) rfl trivial
  | replays pending rest here batch =>
      exact stays (silent rfl) rfl trivial
  | registers delivery here =>
      refine stays (silent rfl) rfl ?_
      exact {
        unset := fun isSet => Nat.lt_irrefl _ (known _ isSet)
        known := Nat.lt_succ_self _
        found := by simp }
  | hands delivery number frame here built =>
      obtain ⟨isDelivery, -, message, decoded, named, -⟩ :=
        decode_deliveryFrame built
      obtain ⟨nowOwed, sameGot, last, waiting⟩ :=
        sends_delivery record shown isDelivery closed.waiting
      have registered : session.Registered delivery number := by
        unfold Settled at settled
        rw [here] at settled
        exact settled
      refine .handed delivery number frame message
        ⟨⟨.inl rfl, { registered with }⟩, last, waiting, decoded, named⟩ away ?_
      rw [nowOwed, sameGot]
      exact balanced.imp id fun same => by rw [same]
  | confirmed delivery number here isSet =>
      refine stays (silent rfl) rfl ?_
      unfold Settled at settled
      rw [here] at settled
      exact settled isSet
  | releases delivery here =>
      refine stays (silent rfl) rfl ?_
      unfold Settled
      dsimp only
      cases delivery.rest with
      | none =>
          exact trivial
      | some rest =>
          cases rest <;> exact trivial
  | locks here free =>
      exact stays (silent rfl) rfl trivial
  | enables here =>
      exact stays (silent rfl) rfl trivial
  | writes offset command queued count here progress fits =>
      exact stays (shown ▸ ⟨rfl, rfl, nofun⟩) rfl trivial
  | writeFails offset command queued count raised here unfinished fits =>
      exact stays (shown ▸ ⟨rfl, rfl, nofun⟩) rfl trivial
  | continues offset command queued here finished =>
      exact stays (silent rfl) rfl trivial
  | unlocks offset here =>
      exact stays (silent rfl) rfl trivial
  | stops raised here =>
      exact stays (silent rfl) rfl trivial

/-- A step of the serial loop. -/
theorem serial
    (phase : Phase record session)
    (known : ∀ number ∈ session.setEvents, number < session.nextEvent)
    (ordinary : DeviceOrdinary event)
    (step : SerialStep session (next, event.output)) :
    Phase (record ++ [event]) next := by
  cases phase with
  | settled closed away balanced settled =>
      exact serial_settled closed away balanced settled known ordinary step
  | handed delivery number frame message isOpen away balanced =>
      obtain ⟨silent, waits, same, reader⟩ := step.waiting isOpen.waits
      have unseen : Unseen event.output := unseen_of_silent silent
      obtain ⟨sameOwed, sameGot, -, -, -⟩ := unseen.same record
      exact .handed delivery number frame message (isOpen.unseen unseen waits)
        (reader ▸ away) (by rw [reader, sameOwed, sameGot]; exact balanced)
  | committing delivery number frame message request isOpen here connection
      named balanced =>
      obtain ⟨silent, waits, same, reader⟩ := step.waiting isOpen.waits
      have unseen : Unseen event.output := unseen_of_silent silent
      obtain ⟨sameOwed, sameGot, -, -, -⟩ := unseen.same record
      exact .committing delivery number frame message request
        (isOpen.unseen unseen waits) (reader.trans here) connection named
        (by rw [sameOwed, sameGot]; exact balanced)
  | responding delivery number frame message request disposition isOpen here
      connection named committed gone balanced =>
      obtain ⟨silent, waits, same, reader⟩ := step.waiting isOpen.waits
      have unseen : Unseen event.output := unseen_of_silent silent
      obtain ⟨sameOwed, sameGot, -, -, sameMarked⟩ :=
        unseen.same record
      exact .responding delivery number frame message request disposition
        (isOpen.unseen unseen waits) (reader.trans here) connection named
        (sameMarked ▸ committed) (same.gone gone)
        (by rw [sameOwed, sameGot]; exact balanced)
  | finding delivery number closed waits here gone balanced =>
      obtain ⟨silent, waits, same, reader⟩ := step.waiting waits
      have unseen : Unseen event.output := unseen_of_silent silent
      obtain ⟨sameOwed, sameGot, -, -, -⟩ := unseen.same record
      exact .finding delivery number (closed.unseen unseen) waits
        (reader.trans here) (same.gone gone)
        (by rw [sameOwed, sameGot]; exact balanced)
  | setting delivery number closed waits here gone balanced =>
      obtain ⟨silent, waits, same, reader⟩ := step.waiting waits
      have unseen : Unseen event.output := unseen_of_silent silent
      obtain ⟨sameOwed, sameGot, -, -, -⟩ := unseen.same record
      exact .setting delivery number (closed.unseen unseen) waits
        (reader.trans here) (same.gone gone)
        (by rw [sameOwed, sameGot]; exact balanced)

end Phase

/-- A reader at no receipt leaves the deliveries alone, or gets a receipt. -/
theorem ReaderStep.away
    {session : ProxySession}
    {result : ProxySession × Shown}
    (step : ReaderStep session result)
    (away : ¬session.coreReader.Exchanging) :
    SameDeliveries session result.1 ∧
      result.1.serialLoop = session.serialLoop ∧
      (Unseen result.2 ∧ ¬result.1.coreReader.Exchanging ∧
          (session.coreReader.Dead → result.1.coreReader.Dead) ∨
        ∃ raw frame, frame.messageType = .captureCommitted ∧
          ¬session.coreReader.Dead ∧
          result.2 = .received frame raw ∧
          result.1.coreReader = dispatch frame raw) := by
  have same : SameDeliveries session session := ⟨rfl, rfl, rfl, rfl, rfl⟩
  have silent : Unseen .silent := unseen_of_silent rfl
  have alive {here : CoreReader} (at_ : session.coreReader = here)
      (alive : ¬here.Dead) : session.coreReader.Dead →
        result.1.coreReader.Dead := by
    rw [at_]
    exact fun dead => absurd dead alive
  cases step with
  | waits =>
      exact ⟨same, rfl, .inl ⟨silent, away, id⟩⟩
  | begins here =>
      exact ⟨{ same with }, rfl, .inl ⟨silent, id, alive here id⟩⟩
  | leaves here stopped =>
      exact ⟨{ same with }, rfl, .inl ⟨silent, id, alive here id⟩⟩
  | reads raw goal here =>
      exact ⟨{ same with }, rfl, .inl ⟨silent, id, alive here id⟩⟩
  | receives before raw frame here decoded =>
      refine ⟨{ same with }, rfl, ?_⟩
      by_cases receipt : frame.messageType = .captureCommitted
      · right
        exact ⟨raw, frame, receipt, by rw [here]; exact id, rfl, rfl⟩
      · left
        refine ⟨⟨rfl, if_neg receipt, nofun⟩, ?_, alive here id⟩
        simp only [toReader, dispatch, if_neg receipt]
        split_ifs <;> exact id
  | fails raised unlocked =>
      exact ⟨{ same with }, rfl, .inl ⟨silent, id, fun _ => trivial⟩⟩
  | commits sequence receipt spool disposition here committed =>
      rw [here] at away
      exact absurd trivial away
  | responds sequence receipt disposition frame here built =>
      rw [here] at away
      exact absurd trivial away
  | finds recordId number here found =>
      rw [here] at away
      exact absurd trivial away
  | sets number here =>
      rw [here] at away
      exact absurd trivial away
  | forwards raw here enabled =>
      exact ⟨{ same with }, rfl, .inl ⟨silent, id, alive here id⟩⟩
  | overflows raw here disabled full =>
      exact ⟨{ same with }, rfl, .inl ⟨silent, id, alive here id⟩⟩
  | defers raw here disabled room =>
      exact ⟨{ same with }, rfl, .inl ⟨silent, id, alive here id⟩⟩
  | locks raw here free =>
      exact ⟨{ same with }, rfl, .inl ⟨silent, id, alive here id⟩⟩
  | writes raw offset count here progress fits =>
      exact ⟨{ same with }, rfl,
        .inl ⟨⟨rfl, rfl, nofun⟩, id, alive here id⟩⟩
  | writeFails raw offset count raised here unfinished fits =>
      exact ⟨{ same with }, rfl,
        .inl ⟨⟨rfl, rfl, nofun⟩, id, alive here id⟩⟩
  | finishes raw offset here finished =>
      exact ⟨{ same with }, rfl, .inl ⟨silent, id, alive here id⟩⟩
  | stops raised here workerError =>
      exact ⟨{ same with }, rfl, .inl ⟨silent, id, fun _ => trivial⟩⟩

namespace Phase

variable {record : List Step} {session next : ProxySession} {event : Step}

/-- A core that owes nothing sends no receipt. -/
theorem not_gets_settled
    {frame : Frame}
    {raw : List UInt8}
    (balanced : owed record = got record)
    (answers : CoreAnswers record event)
    (received : event.output = .received frame raw)
    (receipt : frame.messageType = .captureCommitted) :
    False := by
  have among := answers frame (by simp [received, gotOf, receipt])
  have length := among.length_le
  rw [balanced, List.length_append, List.length_singleton] at length
  omega

/-- The receipt a core sends is the one it owes. -/
theorem gets_owed
    {frame delivery : Frame}
    {raw : List UInt8}
    (balanced : owed record = got record ++ (receiptFor delivery).toList)
    (answers : CoreAnswers record event)
    (received : event.output = .received frame raw)
    (receipt : frame.messageType = .captureCommitted) :
    receiptFor delivery = some frame := by
  have among := answers frame (by simp [received, gotOf, receipt])
  rw [balanced, List.subperm_append_left] at among
  have member := among.subset (List.mem_singleton_self frame)
  simpa using member

/-- A step of the core reader. -/
theorem reader
    (phase : Phase record session)
    (answers : CoreAnswers record event)
    (step : ReaderStep session (next, event.output)) :
    Phase (record ++ [event]) next := by
  cases phase with
  | settled closed away balanced settled =>
      obtain ⟨same, serial, unseen | gets⟩ := step.away away
      · obtain ⟨unseen, away, dead⟩ := unseen
        obtain ⟨sameOwed, sameGot, -, -, -⟩ := unseen.same record
        exact .settled (closed.unseen unseen) away
          (balanced.imp dead fun equal => by rw [sameOwed, sameGot, equal])
          (same.settled serial settled)
      · obtain ⟨raw, frame, receipt, alive, received, -⟩ := gets
        exact (not_gets_settled (balanced.resolve_left alive) answers received
          receipt).elim
  | handed delivery number frame message isOpen away balanced =>
      obtain ⟨same, serial, unseen | gets⟩ := step.away away
      · obtain ⟨unseen, away, dead⟩ := unseen
        obtain ⟨sameOwed, sameGot, -, -, -⟩ := unseen.same record
        exact .handed delivery number frame message
          (isOpen.unseen unseen (same.waits serial isOpen.waits)) away
          (balanced.imp dead fun equal => by rw [sameOwed, sameGot, equal])
      · obtain ⟨raw, got, receipt, alive, received, goes⟩ := gets
        have owing := gets_owed (balanced.resolve_left alive) answers received
          receipt
        obtain ⟨-, request, -, connection, named, dispatched⟩ :=
          decode_receiptFor owing isOpen.decoded
        obtain ⟨sameOwed, nowGot, last, waiting⟩ :=
          gets_receipt record received receipt
        refine .committing delivery number frame message request
          { isOpen with
            waits := same.waits serial isOpen.waits
            last := last.trans isOpen.last
            waiting := waiting.trans isOpen.waiting }
          (goes.trans (dispatched raw)) connection named ?_
        rw [sameOwed, nowGot, balanced.resolve_left alive, owing]
        rfl
  | committing delivery number frame message request isOpen here connection
      named balanced =>
      generalize shown : event.output = output at step
      cases step with
      | waits =>
          have unseen : Unseen event.output := unseen_of_silent shown
          obtain ⟨sameOwed, sameGot, -, -, -⟩ := unseen.same record
          exact .committing delivery number frame message request
            (isOpen.unseen unseen isOpen.waits) here connection named
            (by rw [sameOwed, sameGot, balanced])
      | fails raised unlocked =>
          have unseen : Unseen event.output := unseen_of_silent shown
          exact .handed delivery number frame message
            (isOpen.unseen unseen
              ⟨isOpen.waits.waits, { isOpen.waits.registered with }⟩)
            id (.inl trivial)
      | commits sequence receipt spool disposition at_ committed =>
          obtain ⟨rfl, rfl⟩ := CoreReader.committing.inj (at_.symm.trans here)
          obtain ⟨sameOwed, sameGot, last, waiting, now⟩ :=
            marks record shown
          have recordId :
              (receiptOf receipt).recordId = delivery.pending.recordId := by
            rw [← isOpen.named, ← named]
            rfl
          refine .responding delivery number frame message receipt disposition
            { isOpen with
              waits := ⟨isOpen.waits.waits, { isOpen.waits.registered with }⟩
              last := last.trans isOpen.last
              waiting := waiting.trans isOpen.waiting }
            rfl connection named (recordId ▸ now) ?_
            (by rw [sameOwed, sameGot, balanced])
          intro row member
          rw [Spool.rows_of_markCommitted committed, recordId] at member
          simpa using (List.mem_filter.1 member).2
      | _ =>
          simp_all
  | responding delivery number frame message request disposition isOpen here
      connection named committed gone balanced =>
      generalize shown : event.output = output at step
      cases step with
      | waits =>
          have unseen : Unseen event.output := unseen_of_silent shown
          obtain ⟨sameOwed, sameGot, -, -, sameMarked⟩ :=
            unseen.same record
          exact .responding delivery number frame message request disposition
            (isOpen.unseen unseen isOpen.waits) here connection named
            (sameMarked ▸ committed) gone (by rw [sameOwed, sameGot, balanced])
      | fails raised unlocked =>
          have unseen : Unseen event.output := unseen_of_silent shown
          exact .handed delivery number frame message
            (isOpen.unseen unseen
              ⟨isOpen.waits.waits, { isOpen.waits.registered with }⟩)
            id (.inl trivial)
      | responds sequence receipt disposition' response at_ built =>
          obtain ⟨rfl, rfl, rfl⟩ :=
            CoreReader.responding.inj (at_.symm.trans here)
          obtain ⟨answer, other⟩ :=
            answers_commitResponse built isOpen.decoded connection named
          obtain ⟨sameOwed, sameGot, last, waiting⟩ :=
            sends_answer record shown other answer isOpen.waiting
          have recordId :
              (receiptOf receipt).recordId = delivery.pending.recordId := by
            rw [← isOpen.named, ← named]
            rfl
          exact .finding delivery number ⟨last, waiting⟩
            ⟨isOpen.waits.waits, { isOpen.waits.registered with }⟩
            (congrArg CoreReader.finding recordId) gone
            (by rw [sameOwed, sameGot, balanced])
      | _ =>
          simp_all
  | finding delivery number closed waits here gone balanced =>
      generalize shown : event.output = output at step
      cases step with
      | waits =>
          have unseen : Unseen event.output := unseen_of_silent shown
          obtain ⟨sameOwed, sameGot, -, -, -⟩ := unseen.same record
          exact .finding delivery number (closed.unseen unseen) waits here gone
            (by rw [sameOwed, sameGot, balanced])
      | fails raised unlocked =>
          have unseen : Unseen event.output := unseen_of_silent shown
          exact .settled (closed.unseen unseen) id (.inl trivial)
            (settled_of_awaiting waits.waits fun _ => gone)
      | finds recordId found at_ lookup =>
          obtain rfl := CoreReader.finding.inj (at_.symm.trans here)
          obtain rfl :=
            Option.some.inj (lookup.symm.trans waits.registered.found)
          have unseen : Unseen event.output := unseen_of_silent shown
          obtain ⟨sameOwed, sameGot, -, -, -⟩ := unseen.same record
          exact .setting delivery found (closed.unseen unseen)
            ⟨waits.waits, { waits.registered with }⟩ rfl gone
            (by rw [sameOwed, sameGot, balanced])
      | _ =>
          simp_all
  | setting delivery number closed waits here gone balanced =>
      generalize shown : event.output = output at step
      cases step with
      | waits =>
          have unseen : Unseen event.output := unseen_of_silent shown
          obtain ⟨sameOwed, sameGot, -, -, -⟩ := unseen.same record
          exact .setting delivery number (closed.unseen unseen) waits here gone
            (by rw [sameOwed, sameGot, balanced])
      | fails raised unlocked =>
          have unseen : Unseen event.output := unseen_of_silent shown
          exact .settled (closed.unseen unseen) id (.inl trivial)
            (settled_of_awaiting waits.waits fun _ => gone)
      | sets at_number at_ =>
          have unseen : Unseen event.output := unseen_of_silent shown
          obtain ⟨sameOwed, sameGot, -, -, -⟩ := unseen.same record
          refine .settled (closed.unseen unseen) id
            (.inr (by rw [sameOwed, sameGot, balanced])) ?_
          exact settled_of_awaiting waits.waits fun _ => gone
      | _ =>
          simp_all

end Phase

/-- The rest of a batch, the rows of the spool and the records a replay has
delivered, in their order. -/
structure InOrder
    (rows batch : List PendingCapture)
    (done : List Int) :
    Prop where
  sorted : batch.Pairwise (·.recordId < ·.recordId)
  among : ∀ row ∈ batch, row ∈ rows
  later :
    ∀ row ∈ rows, row ∉ batch → ∀ first ∈ batch, first.recordId < row.recordId
  above : ∀ row ∈ rows, ∀ recordId ∈ done, recordId < row.recordId

/-- What `pending_records` returns comes before the other rows. -/
theorem inOrder_pendingRecords
    {spool : Spool}
    {limit : Int}
    {batch : List PendingCapture}
    {done : List Int}
    (returned : spool.pendingRecords limit = .ok batch)
    (above :
      ∀ row ∈ spool.pending.rows, ∀ recordId ∈ done, recordId < row.recordId) :
    InOrder spool.pending.rows batch done := by
  obtain ⟨⟨⟩, -, returned⟩ := bind_eq_ok.1 returned
  obtain rfl := Except.ok.inj returned
  let order (first second : PendingCapture) : Prop :=
    first.recordId ≤ second.recordId
  have total : Std.Total order :=
    ⟨fun first second => le_total first.recordId second.recordId⟩
  have trans : IsTrans PendingCapture order :=
    ⟨fun _ _ _ first second => le_trans first second⟩
  let sorted := spool.pending.rows.insertionSort order
  have perm : sorted.Perm spool.pending.rows := List.perm_insertionSort _ _
  have increasing : sorted.Pairwise order := List.pairwise_insertionSort _ _
  have distinct : sorted.Pairwise (·.recordId ≠ ·.recordId) :=
    List.pairwise_map.1
      ((perm.map PendingCapture.recordId).nodup_iff.2 spool.pending.uniqueId)
  have strict : sorted.Pairwise (·.recordId < ·.recordId) :=
    (increasing.and distinct).imp fun both => lt_of_le_of_ne both.1 both.2
  have split := List.take_append_drop limit.toNat sorted
  rw [← split] at strict
  obtain ⟨first, -, across⟩ := List.pairwise_append.1 strict
  refine ⟨first, fun row member => perm.subset (List.mem_of_mem_take member),
    fun row member other front inFront => across front inFront row ?_, above⟩
  have either := perm.symm.subset member
  rw [← split] at either
  exact (List.mem_append.1 either).resolve_left other

/-- A spool without a record to return is empty. -/
theorem rows_of_pendingRecords_nil
    {spool : Spool}
    (returned : spool.pendingRecords 64 = .ok []) :
    spool.pending.rows = [] := by
  obtain ⟨⟨⟩, -, returned⟩ := bind_eq_ok.1 returned
  have none_ := Except.ok.inj returned
  have length := congrArg List.length none_
  rw [List.length_take, List.length_insertionSort] at length
  exact List.length_eq_zero_iff.1 (by simpa using length)

namespace InOrder

variable {rows batch : List PendingCapture} {done : List Int}

/-- The first record of a batch is delivered. -/
theorem hand
    {pending : PendingCapture}
    (inOrder : InOrder rows (pending :: batch) done) :
    InOrder (rows.filter (·.recordId ≠ pending.recordId)) batch
      (done ++ [pending.recordId]) := by
  obtain ⟨first, sorted⟩ := List.pairwise_cons.1 inOrder.sorted
  have afterFirst :
      ∀ row ∈ rows, row.recordId ≠ pending.recordId →
        pending.recordId < row.recordId := by
    intro row member other
    by_cases inBatch : row ∈ batch
    · exact first row inBatch
    · refine inOrder.later row member ?_ pending List.mem_cons_self
      intro either
      rcases List.mem_cons.1 either with rfl | inRest
      · exact other rfl
      · exact inBatch inRest
  constructor
  · exact sorted
  · intro row member
    have different : row.recordId ≠ pending.recordId :=
      (first row member).ne'
    exact List.mem_filter.2
      ⟨inOrder.among row (List.mem_cons_of_mem _ member), by simpa using different⟩
  · intro row member other front inFront
    obtain ⟨member, different⟩ := List.mem_filter.1 member
    refine inOrder.later row member ?_ front (List.mem_cons_of_mem _ inFront)
    intro either
    rcases List.mem_cons.1 either with rfl | inRest
    · simp at different
    · exact other inRest
  · intro row member recordId delivered
    obtain ⟨member, different⟩ := List.mem_filter.1 member
    rcases List.mem_append.1 delivered with before | now
    · exact inOrder.above row member recordId before
    · obtain rfl := List.mem_singleton.1 now
      exact afterFirst row member (by simpa using different)

end InOrder

/-- The replay the serial loop is in keeps to the order of the records. -/
def Replays (record : List Step) (session : ProxySession) : Prop :=
  match session.serialLoop with
  | .draining => InOrder session.spool.pending.rows [] (replayed record)
  | .registering delivery | .handing delivery _ =>
      ∀ rest, delivery.rest = some rest →
        InOrder session.spool.pending.rows (delivery.pending :: rest)
          (replayed record)
  | .awaiting delivery _ =>
      ∀ rest, delivery.rest = some rest →
        InOrder (session.spool.pending.rows.filter
          (·.recordId ≠ delivery.pending.recordId)) rest (replayed record)
  | .releasing delivery =>
      ∀ rest, delivery.rest = some rest →
        InOrder session.spool.pending.rows rest (replayed record)
  | _ => True

/-- A step that sends nothing is no part of a replay. -/
theorem replayed_unsent
    {record : List Step}
    {event : Step}
    (unsent : sentOf event.output = none) :
    replayed (record ++ [event]) = replayed record := by
  have none_ : replayOf event = none := by
    unfold replayOf
    split
    · rename_i shown
      simp [shown, sentOf] at unsent
    · rfl
  rw [replayed, List.foldl_append, ← replayed]
  simp [unsent, none_]

/-- A record that is gone is in no row. -/
theorem Gone.filter
    {session : ProxySession}
    {delivery : Delivery}
    (gone : session.Gone delivery) :
    session.spool.pending.rows.filter
        (·.recordId ≠ delivery.pending.recordId) =
      session.spool.pending.rows := by
  rw [List.filter_eq_self]
  intro row member
  simpa using gone row member

/-- A delivery whose event is set has been committed. -/
theorem Phase.gone
    {record : List Step}
    {session : ProxySession}
    (phase : Phase record session)
    {delivery : Delivery}
    {event : Nat}
    (here : session.serialLoop = .awaiting delivery event)
    (isSet : event ∈ session.setEvents) :
    session.Gone delivery := by
  have contradiction_
      {other : Delivery}
      {number : Nat}
      (waits : session.Waits other number) :
      session.Gone delivery := by
    rcases waits.waits with at_ | dead
    · obtain ⟨-, rfl⟩ := SerialLoop.awaiting.inj (here.symm.trans at_)
      exact absurd isSet waits.registered.unset
    · rw [here] at dead
      exact dead.elim
  cases phase with
  | settled closed away balanced settled =>
      unfold Settled at settled
      rw [here] at settled
      exact settled isSet
  | handed delivery number frame message isOpen =>
      exact contradiction_ isOpen.waits
  | committing delivery number frame message request isOpen =>
      exact contradiction_ isOpen.waits
  | responding delivery number frame message request disposition isOpen =>
      exact contradiction_ isOpen.waits
  | finding delivery number closed waits =>
      exact contradiction_ waits
  | setting delivery number closed waits =>
      exact contradiction_ waits

namespace Replays

variable {record : List Step} {session next : ProxySession} {event : Step}

/-- A replay that goes on with the rest of its batch. -/
theorem continues
    (rest : List PendingCapture)
    (serial : next.serialLoop = continueReplay rest)
    (inOrder : InOrder next.spool.pending.rows rest (replayed record)) :
    Replays record next := by
  unfold Replays
  rw [serial]
  cases rest with
  | nil =>
      exact inOrder
  | cons pending rest =>
      rintro _ ⟨⟩
      exact inOrder

/-- A step of the serial loop. -/
theorem serial
    (replays : Replays record session)
    (phase : Phase record session)
    (thread : event.input.thread = .serialLoop)
    (source : event.source = session)
    (step : SerialStep session (next, event.output)) :
    Replays (record ++ [event]) next := by
  generalize shown : event.output = output at step
  have same (unsent : sentOf output = none) :
      replayed (record ++ [event]) = replayed record :=
    replayed_unsent (shown ▸ unsent)
  have at_ {here : SerialLoop} (serial : session.serialLoop = here) :
      Replays record { session with serialLoop := here } := by
    rw [← serial]
    exact replays
  cases step with
  | waits =>
      unfold Replays
      rw [same rfl]
      exact replays
  | rounds goal idle goes =>
      rcases goes with idle | rfl
      · cases goal with
        | looping | assembling | reading =>
            exact trivial
        | _ =>
            exact idle.elim
      · exact trivial
  | fails raised unlocked =>
      exact trivial
  | hears raw frame idle decoded =>
      unfold Replays
      dsimp only
      split_ifs <;> exact trivial
  | forwards frame here =>
      unfold Replays toSerial
      dsimp only
      split_ifs with hello
      · have restarted : replayed (record ++ [event]) = [] := by
          rw [replayed, List.foldl_append, ← replayed]
          simp [shown, sentOf, isHelloResponse, hello]
        dsimp only
        rw [restarted]
        constructor <;> simp
      · exact trivial
  | stores frame raw firstOffset request spool pending here stored =>
      exact nofun
  | drains here empty =>
      exact trivial
  | replays pending rest here batch =>
      have before : InOrder session.spool.pending.rows [] (replayed record) :=
        at_ here
      refine continues (pending :: rest) rfl ?_
      rw [same rfl]
      exact inOrder_pendingRecords batch before.above
  | registers delivery here =>
      intro rest more
      rw [same rfl]
      exact at_ here rest more
  | hands delivery number frame here built =>
      intro rest more
      have appended :
          replayed (record ++ [event]) =
            replayed record ++ [delivery.pending.recordId] := by
        have delivered : replayOf event = some delivery.pending.recordId := by
          simp [replayOf, thread, source, here, shown, more]
        have other : isHelloResponse frame = false := by
          have isDelivery := (decode_deliveryFrame built).1
          unfold isHelloResponse
          rw [of_decide_eq_true isDelivery]
          rfl
        rw [replayed, List.foldl_append, ← replayed]
        simp [shown, sentOf, other, delivered]
      rw [appended]
      exact (at_ here rest more).hand
  | confirmed delivery number here isSet =>
      intro rest more
      have gone := phase.gone here isSet
      have inOrder := at_ here rest more
      rw [gone.filter] at inOrder
      rw [same rfl]
      exact inOrder
  | releases delivery here =>
      cases more : delivery.rest with
      | none =>
          exact trivial
      | some rest =>
          refine continues rest rfl ?_
          rw [same rfl]
          exact at_ here rest more
  | locks here free =>
      exact trivial
  | enables here =>
      exact trivial
  | writes offset command queued count here progress fits =>
      exact trivial
  | writeFails offset command queued count raised here unfinished fits =>
      exact trivial
  | continues offset command queued here finished =>
      exact trivial
  | unlocks offset here =>
      exact trivial
  | stops raised here =>
      exact trivial

/-- A step of the core reader that commits nothing. -/
theorem reader_same
    (replays : Replays record session)
    (serial : next.serialLoop = session.serialLoop)
    (spool : next.spool = session.spool)
    (same : replayed (record ++ [event]) = replayed record) :
    Replays (record ++ [event]) next := by
  unfold Replays at replays ⊢
  rw [serial, spool, same]
  exact replays

/-- A step of the core reader. -/
theorem reader
    (replays : Replays record session)
    (phase : Phase record session)
    (thread : event.input.thread = .coreReader)
    (step : ReaderStep session (next, event.output)) :
    Replays (record ++ [event]) next := by
  generalize shown : event.output = output at step
  have same (unsent : sentOf output = none) :
      replayed (record ++ [event]) = replayed record :=
    replayed_unsent (shown ▸ unsent)
  cases step with
  | commits sequence receipt spool disposition here committed =>
      cases phase with
      | committing delivery number frame message request isOpen at_ connection
          named balanced =>
          obtain ⟨rfl, rfl⟩ := CoreReader.committing.inj (here.symm.trans at_)
          have recordId :
              (receiptOf receipt).recordId = delivery.pending.recordId := by
            rw [← isOpen.named, ← named]
            rfl
          have rows := Spool.rows_of_markCommitted committed
          rw [recordId] at rows
          rcases isOpen.waits.waits with waiting | dead
          · unfold Replays at replays ⊢
            rw [waiting] at replays ⊢
            intro rest more
            rw [same rfl, rows, List.filter_filter]
            simpa using replays rest more
          · unfold Replays
            cases serial : session.serialLoop with
            | unwinding | ended =>
                exact trivial
            | _ =>
                rw [serial] at dead
                exact dead.elim
      | settled closed away | handed delivery number frame message isOpen away =>
          rw [here] at away
          exact absurd trivial away
      | _ =>
          simp_all
  | responds sequence receipt disposition frame here built =>
      refine reader_same replays rfl rfl ?_
      obtain ⟨payload, -, built⟩ := bind_eq_ok.1 built
      obtain rfl := Except.ok.inj built
      have none_ : replayOf event = none := by
        unfold replayOf
        rw [thread]
      rw [replayed, List.foldl_append, ← replayed]
      simp [shown, sentOf, isHelloResponse, none_]
  | receives before raw frame here decoded =>
      exact reader_same replays rfl rfl (same rfl)
  | writes raw offset count here progress fits =>
      exact reader_same replays rfl rfl (same rfl)
  | writeFails raw offset count raised here unfinished fits =>
      exact reader_same replays rfl rfl (same rfl)
  | _ =>
      exact reader_same replays rfl rfl (same rfl)

end Replays

/-- The events that are set have been issued. -/
def Issued (session : ProxySession) : Prop :=
  ∀ number ∈ session.setEvents, number < session.nextEvent

/-- Every step of the serial loop keeps the events apart. -/
theorem SerialStep.issued
    {session : ProxySession}
    {result : ProxySession × Shown}
    (step : SerialStep session result)
    (issued : session.Issued) :
    result.1.Issued := by
  cases step with
  | registers delivery here =>
      exact fun number isSet => Nat.lt_succ_of_lt (issued number isSet)
  | _ =>
      exact issued

/-- Every step of the core reader keeps the events apart. -/
theorem ReaderStep.issued
    {record : List Step}
    {session : ProxySession}
    {result : ProxySession × Shown}
    (step : ReaderStep session result)
    (phase : Phase record session)
    (issued : session.Issued) :
    result.1.Issued := by
  cases step with
  | sets event here =>
      intro number isSet
      rcases List.mem_cons.1 isSet with rfl | before
      · cases phase with
        | setting delivery other closed waits at_ gone balanced =>
            obtain rfl := CoreReader.setting.inj (here.symm.trans at_)
            exact waits.registered.known
        | settled closed away | handed delivery other frame message isOpen away =>
            rw [here] at away
            exact absurd trivial away
        | _ =>
            simp_all
      · exact issued number before
  | _ =>
      exact issued

/-- What a session keeps to with an ordinary device and a core that answers. -/
structure Exchanges (record : List Step) (session : ProxySession) : Prop where
  phase : Phase record session
  replays : Replays record session
  issued : session.Issued

/-- The condition on a step: the device is ordinary and the core answers. -/
def Peers (earlier : List Step) (event : Step) : Prop :=
  DeviceOrdinary event ∧ CoreAnswers earlier event

instance (earlier : List Step) (event : Step) :
    Decidable (Peers earlier event) :=
  inferInstanceAs (Decidable (_ ∧ _))

namespace Exchanges

variable {record : List Step} {session : ProxySession}

/-- A session that has just started. -/
theorem start (spool : Spool) (connectionId sourceConnectionId : Int) :
    Exchanges [] (ProxySession.start spool connectionId sourceConnectionId) where
  phase :=
    .settled ⟨rfl, rfl⟩ id (.inr rfl) trivial
  replays := trivial
  issued := nofun

/-- Every step keeps the exchange. -/
theorem step
    (exchanges : Exchanges record session)
    (choice : Choice)
    (peers : Peers record (machine.event session choice)) :
    Exchanges (record ++ [machine.event session choice])
      (machine.event session choice).target := by
  obtain ⟨thread, meets⟩ := choice
  cases thread with
  | serialLoop =>
      have step := stepSerial_cases session meets
      exact {
        phase := exchanges.phase.serial exchanges.issued peers.1 step
        replays := exchanges.replays.serial exchanges.phase rfl rfl step
        issued := step.issued exchanges.issued }
  | coreReader =>
      have step := stepReader_cases session meets
      exact {
        phase := exchanges.phase.reader peers.2 step
        replays := exchanges.replays.reader exchanges.phase rfl step
        issued := step.issued exchanges.phase exchanges.issued }

end Exchanges

/-- At most one delivery is unanswered. -/
theorem Phase.single
    {record : List Step}
    {session : ProxySession}
    (phase : Phase record session) :
    (unanswered record).length ≤ 1 := by
  cases phase with
  | settled closed | finding delivery event closed
  | setting delivery event closed =>
      simp [closed.waiting]
  | handed delivery event frame message isOpen
  | committing delivery event frame message request isOpen
  | responding delivery event frame message request disposition isOpen =>
      simp [isOpen.waiting]

/-- The answer to the open delivery. -/
def Answered (record : List Step) (frame : Frame) : Prop :=
  ∀ delivery ∈ openDelivery record,
    answers delivery frame = true ∧
      ∃ recordId ∈ marked record, recordOf delivery = some recordId

namespace Phase

variable {record : List Step} {session next : ProxySession}

/-- The serial loop sends nothing while a delivery is open. -/
theorem answered_serial
    {frame : Frame}
    (phase : Phase record session)
    (step : SerialStep session (next, .sent frame)) :
    Answered record frame := by
  intro open_ last
  have silent
      {delivery : Delivery}
      {number : Nat}
      (waits : session.Waits delivery number) :
      False := by
    have silent := (step.waiting waits).1
    cases silent
  cases phase with
  | settled closed =>
      simp [closed.last] at last
  | handed delivery number frame message isOpen =>
      exact (silent isOpen.waits).elim
  | committing delivery number frame message request isOpen =>
      exact (silent isOpen.waits).elim
  | responding delivery number frame message request disposition isOpen =>
      exact (silent isOpen.waits).elim
  | finding delivery number closed waits =>
      exact (silent waits).elim
  | setting delivery number closed waits =>
      exact (silent waits).elim

/-- The core reader sends the answer to the open delivery. -/
theorem answered_reader
    {response : Frame}
    (phase : Phase record session)
    (step : ReaderStep session (next, .sent response)) :
    Answered record response := by
  intro open_ last
  generalize shown : Shown.sent response = output at step
  cases step with
  | responds sequence receipt disposition frame here built =>
      obtain rfl := Shown.sent.inj shown
      cases phase with
      | settled closed away =>
          rw [here] at away
          exact absurd trivial away
      | handed delivery number frame message isOpen away =>
          rw [here] at away
          exact absurd trivial away
      | responding delivery number frame message request disposition isOpen at_
          connection named committed gone balanced =>
          obtain ⟨rfl, rfl, rfl⟩ :=
            CoreReader.responding.inj (here.symm.trans at_)
          obtain rfl : open_ = frame := by
            simpa [isOpen.last, eq_comm] using last
          refine ⟨(answers_commitResponse built isOpen.decoded connection
            named).1, delivery.pending.recordId, committed, ?_⟩
          simp [recordOf, isOpen.decoded, Except.toOption, isOpen.named]
      | _ =>
          simp_all
  | _ =>
      cases shown

end Phase

/-- A replay starts with the answer to a HELLO and ends with an empty spool or
with the session. -/
theorem SerialStep.replay
    {session next : ProxySession}
    {shown : Shown}
    (step : SerialStep session (next, shown)) :
    ((sentOf shown).any isHelloResponse = true →
        next.serialLoop = .draining) ∧
      (session.serialLoop.replaying = true →
        next.serialLoop.replaying = true ∨
          shown = .drained ∧ next.spool.pending.rows = [] ∨
          ∃ raised, next.serialLoop = .unwinding raised) := by
  have other {here : SerialLoop} (at_ : session.serialLoop = here)
      (outside : here.replaying = false) :
      session.serialLoop.replaying = true →
        next.serialLoop.replaying = true ∨
          shown = .drained ∧ next.spool.pending.rows = [] ∨
          ∃ raised, next.serialLoop = .unwinding raised := by
    rw [at_, outside]
    nofun
  cases step with
  | waits =>
      exact ⟨nofun, fun replaying => .inl replaying⟩
  | rounds goal idle goes =>
      refine ⟨nofun, fun replaying => ?_⟩
      cases here : session.serialLoop <;>
        simp_all [SerialLoop.Idle, SerialLoop.replaying]
  | fails raised unlocked =>
      exact ⟨nofun, fun _ => .inr (.inr ⟨_, rfl⟩)⟩
  | hears raw frame idle decoded =>
      refine ⟨nofun, fun replaying => ?_⟩
      cases here : session.serialLoop <;>
        simp_all [SerialLoop.Idle, SerialLoop.replaying]
  | forwards frame here =>
      refine ⟨fun hello => ?_, other here rfl⟩
      simp only [sentOf, isHelloResponse, Option.any_some, Bool.and_eq_true,
        decide_eq_true_eq] at hello
      simp [toSerial, hello]
  | stores frame raw firstOffset request spool pending here stored =>
      exact ⟨nofun, other here rfl⟩
  | drains here empty =>
      exact ⟨nofun, fun _ =>
        .inr (.inl ⟨rfl, rows_of_pendingRecords_nil empty⟩)⟩
  | replays pending rest here batch =>
      exact ⟨nofun, fun _ => .inl rfl⟩
  | registers delivery here =>
      exact ⟨nofun, fun replaying => .inl (by rwa [here] at replaying)⟩
  | hands delivery number frame here built =>
      refine ⟨fun hello => ?_, fun replaying => .inl (by rwa [here] at replaying)⟩
      have delivers := (decode_deliveryFrame built).1
      simp only [sentOf, isHelloResponse, Option.any_some, Bool.and_eq_true,
        decide_eq_true_eq] at hello
      simp [isDelivery, hello.1] at delivers
  | confirmed delivery number here isSet =>
      exact ⟨nofun, fun replaying => .inl (by rwa [here] at replaying)⟩
  | releases delivery here =>
      refine ⟨nofun, fun replaying => .inl ?_⟩
      rw [here] at replaying
      cases more : delivery.rest with
      | none =>
          simp [SerialLoop.replaying, more] at replaying
      | some rest =>
          cases rest <;> rfl
  | locks here free =>
      exact ⟨nofun, other here rfl⟩
  | enables here =>
      exact ⟨nofun, other here rfl⟩
  | writes offset command queued count here progress fits =>
      exact ⟨nofun, other here rfl⟩
  | writeFails offset command queued count raised here unfinished fits =>
      exact ⟨nofun, other here rfl⟩
  | continues offset command queued here finished =>
      exact ⟨nofun, other here rfl⟩
  | unlocks offset here =>
      exact ⟨nofun, other here rfl⟩
  | stops raised here =>
      exact ⟨nofun, other here rfl⟩

/-- The core reader leaves the serial loop where it is and answers no HELLO. -/
theorem ReaderStep.replay
    {session next : ProxySession}
    {shown : Shown}
    (step : ReaderStep session (next, shown)) :
    next.serialLoop = session.serialLoop ∧
      (sentOf shown).any isHelloResponse = false := by
  cases step with
  | responds sequence receipt disposition frame here built =>
      obtain ⟨payload, -, built⟩ := bind_eq_ok.1 built
      obtain rfl := Except.ok.inj built
      exact ⟨rfl, rfl⟩
  | _ =>
      exact ⟨rfl, rfl⟩

namespace Exchanges

variable {record : List Step} {session : ProxySession}

/-- A record of a replay is delivered in its turn. -/
theorem ordered
    (exchanges : Exchanges record session)
    (choice : Choice) :
    ∀ recordId ∈ replayOf (machine.event session choice),
      (∃ row ∈ session.spool.pending.rows, row.recordId = recordId) ∧
        ∀ earlierId ∈ replayed record, earlierId < recordId := by
  intro recordId delivers
  unfold replayOf at delivers
  split at delivers
  · rename_i delivery number frame thread here shown
    split_ifs at delivers with more
    · obtain rfl := Option.some.inj delivers
      obtain ⟨rest, more⟩ := Option.isSome_iff_exists.1 more
      have replays := exchanges.replays
      unfold Replays at replays
      rw [Machine.event_source] at here
      rw [here] at replays
      have inOrder := replays rest more
      have member := inOrder.among _ List.mem_cons_self
      exact ⟨⟨_, member, rfl⟩, inOrder.above _ member⟩
    · cases delivers
  · cases delivers

/-- Every step keeps the law of the deliveries. -/
theorem exclusive
    (exchanges : Exchanges record session)
    (choice : Choice)
    (peers : Peers record (machine.event session choice)) :
    Exclusive record (machine.event session choice) := by
  have after := exchanges.step choice peers
  refine
    { single := after.phase.single
      answered := ?_
      begins := ?_
      ordered := exchanges.ordered choice
      ends := ?_ }
  all_goals obtain ⟨thread, meets⟩ := choice
  · intro frame sends
    have shown : (machine.event session ⟨thread, meets⟩).output =
        .sent frame := by
      cases at_ : (machine.event session ⟨thread, meets⟩).output <;>
        simp_all [sentOf]
    cases thread with
    | serialLoop =>
        have step : SerialStep session
            ((machine.event session ⟨.serialLoop, meets⟩).target,
              (machine.event session ⟨.serialLoop, meets⟩).output) :=
          stepSerial_cases session meets
        rw [shown] at step
        exact exchanges.phase.answered_serial step
    | coreReader =>
        have step : ReaderStep session
            ((machine.event session ⟨.coreReader, meets⟩).target,
              (machine.event session ⟨.coreReader, meets⟩).output) :=
          stepReader_cases session meets
        rw [shown] at step
        exact exchanges.phase.answered_reader step
  · cases thread with
    | serialLoop =>
        exact (stepSerial_cases session meets).replay.1
    | coreReader =>
        intro hello
        have none_ := (stepReader_cases session meets).replay.2
        exact absurd (none_.symm.trans hello) Bool.false_ne_true
  · cases thread with
    | serialLoop =>
        exact (stepSerial_cases session meets).replay.2
    | coreReader =>
        intro replaying
        left
        have same := (stepReader_cases session meets).replay.1
        exact (congrArg SerialLoop.replaying same).trans replaying

end Exchanges

/-- With an ordinary device, and a core that sends one receipt for each delivery
it has got, deliveries are exclusive and replays are in order, whatever the
interleaving and the commands of the core. -/
theorem exclusive_of_peers
    (spool : Spool)
    (connectionId sourceConnectionId : Int)
    (choices : List Choice)
    (peers :
      EveryStep Peers
        (machine.trace (start spool connectionId sourceConnectionId)
          choices)) :
    EveryStep Exclusive
      (machine.trace (start spool connectionId sourceConnectionId) choices) :=
  machine.everyStep_of_invariant Exchanges
    (Exchanges.start spool connectionId sourceConnectionId)
    (fun _ _ choice exchanges peers => exchanges.step choice peers)
    (fun _ _ choice exchanges peers => exchanges.exclusive choice peers)
    choices peers

/-- The serial loop reads a frame of the device. -/
def hearing (raw : List UInt8) : List Choice :=
  [⟨.serialLoop, .returns⟩, ⟨.serialLoop, .returns⟩,
    ⟨.serialLoop, .reads (raw.take 16)⟩, ⟨.serialLoop, .returns⟩,
    ⟨.serialLoop, .reads (raw.drop 16)⟩]

/-- The core reader reads a frame of the core. -/
def receiving (raw : List UInt8) : List Choice :=
  [⟨.coreReader, .returns⟩, ⟨.coreReader, .reads (raw.take 16)⟩,
    ⟨.coreReader, .reads (raw.drop 16)⟩]

/-- The receipt for the first capture of a session. -/
def firstReceipt : List UInt8 :=
  (Frame.command .captureCommitted 1 (CaptureCommittedRequest.encode {
    connectionId := 1
    spoolRecordId := 1
    deviceId := .zero 16
    bootId := .zero 16
    captureId := .zero 16
    innerFrameCrc32 :=
      Frame.crc32IsoHdlc CaptureData.smallestFrame })).encode.toOption.getD []

/-- A capture is stored, delivered, committed and answered. -/
def captureDelivered : List Choice :=
  hearing CaptureData.smallestFrame ++
    [⟨.serialLoop, .clock 0⟩, ⟨.serialLoop, .returns⟩,
      ⟨.serialLoop, .returns⟩] ++
    receiving firstReceipt ++
    [⟨.coreReader, .returns⟩, ⟨.coreReader, .returns⟩,
      ⟨.coreReader, .returns⟩, ⟨.coreReader, .returns⟩,
      ⟨.serialLoop, .returns⟩, ⟨.serialLoop, .returns⟩]

/-- A delivery made by the device. -/
def forgedDelivery : List UInt8 :=
  (Frame.mk .bridgeCaptureDelivery 7
    ((BridgeCaptureDelivery.encode {
      connectionId := 1
      spoolRecordId := 1
      sourceConnectionId := 1
      sourceFirstStreamOffset := 0
      sourceLastStreamOffset := 209
      storedUtcNs := 0
      innerFrame := CaptureData.smallestFrame }).toOption.getD [])
    Flags.async Frame.currentVersion).encode.toOption.getD []

/-- The device sends a delivery, and then the answer to a command. -/
def deliveryForged : List Choice :=
  hearing forgedDelivery ++ [⟨.serialLoop, .returns⟩] ++
    hearing (wire .ack 8 Flags.response)

set_option maxRecDepth 100000 in
/-- A capture that is delivered and answered. -/
theorem exclusive_captureDelivered :
    EveryStep Exclusive
      (machine.trace (start (.empty 4096) 1 1) captureDelivered) :=
  exclusive_of_peers (.empty 4096) 1 1 captureDelivered (by decide +kernel)

set_option maxRecDepth 100000 in
/-- A delivery of the device is passed on, and so is the frame behind it. -/
theorem not_exclusive_deliveryForged :
    EveryStep CoreAnswers
        (machine.trace (start (.empty 4096) 1 1)
          (deliveryForged ++ [⟨.serialLoop, .returns⟩])) ∧
      ¬EveryStep Exclusive
        (machine.trace (start (.empty 4096) 1 1)
          (deliveryForged ++ [⟨.serialLoop, .returns⟩])) := by
  constructor
  · decide +kernel
  · intro law
    rw [Machine.trace_concat] at law
    have answered := ((EveryStep.concat_iff _ _).1 law).2.answered
    have unanswered_ :
        ∃ frame ∈ sentOf (machine.event
            (machine.after (start (.empty 4096) 1 1) deliveryForged)
            ⟨.serialLoop, .returns⟩).output,
          ∃ delivery ∈ openDelivery
              (machine.trace (start (.empty 4096) 1 1) deliveryForged),
            answers delivery frame = false := by
      decide +kernel
    obtain ⟨frame, sends, delivery, last, unanswered_⟩ := unanswered_
    have answer := (answered frame sends delivery last).1
    exact absurd (unanswered_.symm.trans answer) Bool.false_ne_true

end ProxySession

end Usac.Bridge
