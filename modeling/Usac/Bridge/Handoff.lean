import Mathlib.Logic.Function.Basic
import Usac.Bridge.Session
import Usac.Host.BridgeDeviceClient
import Usac.Host.DecisionHistory

namespace Usac.Bridge

open Library Host

/-!
# The handoff from the bridge to the core

The bridge and the core as two processes that share nothing but connections.
Every connection has a session of the bridge at one end and a client of the core
at the other. All sessions use the spool of the bridge, and all clients the
store of the core.

A session or a client that is never scheduled again has crashed or hangs, so
crashes of either side need no steps of their own. The two databases survive.
What the bridge sends is not modelled as arriving: a client may receive any
frame at all. What a client sends arrives in order, up to the point where the
connection is lost.
-/

/-! ## The client of the core -/

/-- `BridgeDeviceClient._pending`. -/
abbrev HeldDelivery := UInt32 × BridgeCaptureDelivery × CaptureData

/-- Where a client is with the deliveries of its connection. -/
inductive CoreClient where
  | ready
  | holding (held : HeldDelivery)
  | resolved (held : HeldDelivery) (receipt : CaptureCommittedRequest)
  | confirming (held : HeldDelivery)
  | closed
  deriving DecidableEq

/-- How a capture is resolved: by `_persist_capture` under a policy, or as a
replay. -/
inductive Resolution where
  | persist
      (savePolicy : SavePolicy)
      (sessionId : Option SessionId)
      (groupId : Option GroupId)
  | replay
  deriving DecidableEq

/-- The transaction that resolves a delivery. -/
def Resolution.transaction
    (delivery : BridgeCaptureDelivery) :
    Resolution → Transaction
  | persist savePolicy sessionId groupId =>
      .commitDelivery delivery savePolicy sessionId groupId
  | replay => .commitReplayedDelivery delivery

/-- A step of a client. `cut` is what `sendall` has sent when it raises. -/
inductive ClientAction where
  | command
      (messageType : MessageType)
      (sequence : UInt32)
      (payload : List UInt8)
      (cut : Option Nat)
  | accept (frame : Frame)
  | resolve (resolution : Resolution)
  | confirm (cut : Option Nat)
  | answered (frame : Frame)
  | giveUp
  | close

namespace CoreClient

/-- What `_accept_delivery` reads in a frame. -/
def readDelivery (frame : Frame) : Except Raised HeldDelivery := do
  if frame.messageType ≠ .bridgeCaptureDelivery ∨
      frame.flags ≠ Flags.async then
    Session.raiseDeviceError frame
    require False
      (.runtimeError "bridge did not return a durable capture delivery")
  let delivery ← BridgeCaptureDelivery.decode frame.payload
  let inner ← Frame.decode delivery.innerFrame
  let capture ← CaptureData.decode inner.payload
  pure (frame.sequence, delivery, capture)

/-- `_accept_delivery`. What it raises leaves the client as it is. -/
def acceptDelivery (frame : Frame) : CoreClient → CoreClient
  | ready =>
      match readDelivery frame with
      | .ok held => holding held
      | .error _ => ready
  | client => client

/-- What `_confirm_delivery` checks of the response to a receipt. -/
def checkCommitted
    (sequence : UInt32)
    (delivery : BridgeCaptureDelivery)
    (frame : Frame) :
    Except Raised Unit := do
  require (frame.messageType = .captureCommitted ∧
      frame.flags = Flags.response ∧ frame.sequence = sequence)
    (.runtimeError "bridge returned an invalid commit response")
  let response ← CaptureCommittedResponse.decode frame.payload
  require (response.connectionId = delivery.connectionId ∧
      response.spoolRecordId = delivery.spoolRecordId)
    (.runtimeError "bridge commit response does not match pending delivery")

/-- The second half of `_confirm_delivery`. The delivery stays pending when the
response is refused. -/
def hearResponse (frame : Frame) : CoreClient → CoreClient
  | confirming (sequence, delivery, capture) =>
      match checkCommitted sequence delivery frame with
      | .ok () => ready
      | .error _ => holding (sequence, delivery, capture)
  | client => client

/-- An exception between the steps of a resolution. -/
def giveUp : CoreClient → CoreClient
  | resolved held _ | confirming held => holding held
  | client => client

/-- The receipt a decision of the store hands to the client. -/
def decided
    (held : HeldDelivery) :
    Except Raised (Option CoreCommitResult) → CoreClient
  | .ok (some result) => resolved held result.receipt
  | _ => holding held

end CoreClient

/-- The frame of a receipt. -/
def receiptFrame
    (sequence : UInt32)
    (receipt : CaptureCommittedRequest) :
    Frame :=
  .command .captureCommitted sequence receipt.encode

/-! ### The operations of the client

What the client does on its connection is made of these steps. -/

namespace CoreClient

/-- `_accept_delivery` holds what it reads, on every session that is free. -/
theorem acceptDelivery_run
    {session : Session}
    (free : session.pending = none)
    (frame : Frame) :
    (Session.acceptDelivery frame).run session =
      (readDelivery frame).map fun held =>
        (held.2.2, { session with pending := some held }) := by
  unfold Session.acceptDelivery readDelivery
  simp only [StateT.run_bind, StateT.run_get, pure_bind, free, require_true]
  split_ifs
  · rcases Session.raiseDeviceError frame with raised | ⟨⟩ <;> rfl
  · rcases BridgeCaptureDelivery.decode frame.payload with raised | delivery
    · rfl
    simp only [ok_bind]
    rcases inner : Frame.decode delivery.innerFrame with raised | decoded
    · simp [inner]
      rfl
    rcases content : CaptureData.decode decoded.payload with
        raised | capture <;>
      simp [inner, content] <;> rfl

/-- Reading a frame sends nothing. -/
theorem receive_sent
    {session after : Session}
    {frame : Frame}
    (returns : Session.receive session = .ok (frame, after)) :
    after.connection.sent = session.connection.sent := by
  have read
      {size : Nat}
      {first last : Session}
      {bytes : List UInt8}
      (returns : Session.readExact size first = .ok (bytes, last)) :
      last.connection.sent = first.connection.sent := by
    obtain ⟨⟨_, left⟩, _, rest⟩ := bind_eq_ok.1 returns
    cases rest
    rfl
  obtain ⟨⟨header, headed⟩, first, checking⟩ := bind_eq_ok.1 returns
  obtain ⟨⟨⟨⟩, checked⟩, check, reading⟩ := bind_eq_ok.1 checking
  obtain ⟨⟨rest, whole⟩, second, decoding⟩ := bind_eq_ok.1 reading
  obtain ⟨_, -, atCheck⟩ := bind_eq_ok.1 check
  obtain ⟨_, -, atEnd⟩ := bind_eq_ok.1 decoding
  obtain ⟨-, rfl⟩ := Prod.mk.inj (Except.ok.inj atCheck)
  obtain ⟨-, rfl⟩ := Prod.mk.inj (Except.ok.inj atEnd)
  rw [read second, read first]

/-- `confirm_capture` sends the receipt and hears one response. -/
theorem confirmCapture_steps
    {session after : Session}
    {held : HeldDelivery}
    {receipt : CaptureCommittedRequest}
    (pending : session.pending = some held)
    (confirmed :
      (Session.confirmCapture receipt).run session = .ok ((), after)) :
    receipt.captureId = held.2.2.captureId ∧
      ∃ bytes frame, (receiptFrame held.1 receipt).encode = .ok bytes ∧
        after.connection.sent = session.connection.sent ++ [bytes] ∧
        (confirming held).hearResponse frame = .ready ∧
        after.pending = none := by
  obtain ⟨sequence, delivery, capture⟩ := held
  unfold Session.confirmCapture at confirmed
  simp only [StateT.run_bind, StateT.run_get, pure_bind, pending] at confirmed
  obtain ⟨⟨⟨⟩, matched⟩, checked, confirming_⟩ := bind_eq_ok.1 confirmed
  obtain ⟨⟨⟩, same, atMatch⟩ := bind_eq_ok.1 checked
  obtain ⟨-, rfl⟩ := Prod.mk.inj (Except.ok.inj atMatch)
  obtain ⟨⟨⟨⟩, answered⟩, confirms, cleared⟩ := bind_eq_ok.1 confirming_
  obtain ⟨-, rfl⟩ := Prod.mk.inj (Except.ok.inj cleared)
  obtain ⟨⟨_, encoding⟩, encodes, sending_⟩ := bind_eq_ok.1 confirms
  obtain ⟨bytes, encoded, atEncode⟩ := bind_eq_ok.1 encodes
  obtain ⟨rfl, rfl⟩ := Prod.mk.inj (Except.ok.inj atEncode)
  obtain ⟨⟨⟨⟩, sending⟩, sends, hearing_⟩ := bind_eq_ok.1 sending_
  obtain ⟨⟨frame, hearing⟩, hears, checking⟩ := bind_eq_ok.1 hearing_
  obtain ⟨⟨⟨⟩, headed⟩, heads, decoding⟩ := bind_eq_ok.1 checking
  obtain ⟨⟨⟩, header, atHeader⟩ := bind_eq_ok.1 heads
  obtain ⟨-, rfl⟩ := Prod.mk.inj (Except.ok.inj atHeader)
  obtain ⟨⟨_, read⟩, decodes, matching⟩ := bind_eq_ok.1 decoding
  obtain ⟨response, decoded, atDecode⟩ := bind_eq_ok.1 decodes
  obtain ⟨rfl, rfl⟩ := Prod.mk.inj (Except.ok.inj atDecode)
  obtain ⟨⟨⟩, matches_, atEnd⟩ := bind_eq_ok.1 matching
  obtain ⟨-, rfl⟩ := Prod.mk.inj (Except.ok.inj atEnd)
  have sent : sending.connection.sent = session.connection.sent ++ [bytes] := by
    unfold Session.sendAll at sends
    split at sends
    · cases sends
    · obtain ⟨-, rfl⟩ := Prod.mk.inj (Except.ok.inj sends)
      rfl
  refine ⟨require_eq_ok.1 same, bytes, frame, encoded, ?_, ?_, rfl⟩
  · exact (receive_sent hears).trans sent
  · have checks : checkCommitted sequence delivery frame = .ok () :=
      bind_eq_ok.2 ⟨(), header, bind_eq_ok.2 ⟨response, decoded, matches_⟩⟩
    simp only [hearResponse, checks]

end CoreClient

/-! ## A connection -/

/-- A connection with its two ends. `incoming` is what the client has sent and
the session has not read. -/
structure HandoffLink where
  session : ProxySession
  client : CoreClient
  incoming : List UInt8

namespace HandoffLink

/-- A connection that has just been made. -/
def fresh
    (spool : Spool)
    (connectionId sourceConnectionId : Int) :
    HandoffLink where
  session := .start spool connectionId sourceConnectionId
  client := .ready
  incoming := []

/-- What the core reader takes off the connection in a step. -/
def taken (link : HandoffLink) (choice : Choice) : List UInt8 :=
  match choice.thread, choice.meets, link.session.coreReader with
  | .coreReader, .reads chunk, .receiving _ => chunk
  | _, _, _ => []

/-- `recv` hands out at most what it is asked for, and only what has been
sent. -/
def Offers (link : HandoffLink) (choice : Choice) : Prop :=
  link.taken choice <+: link.incoming ∧
    ∀ raw, link.session.coreReader = .receiving raw →
      (link.taken choice).length ≤ expectedSize raw - raw.length

instance (link : HandoffLink) (choice : Choice) :
    Decidable (link.Offers choice) :=
  match here : link.session.coreReader with
  | .receiving raw =>
      decidable_of_iff
        (link.taken choice <+: link.incoming ∧
          (link.taken choice).length ≤ expectedSize raw - raw.length)
        (by simp [Offers, here])
  | .looping | .committing _ _ | .responding _ _ _ | .finding _ | .setting _
  | .offering _ | .acquiring _ | .writing _ _ | .failing _ | .ended =>
      decidable_of_iff (link.taken choice <+: link.incoming)
        (by simp [Offers, here])

/-- `sendall` of the client. The client is closed when it raises. -/
def send
    (link : HandoffLink)
    (bytes : List UInt8)
    (cut : Option Nat)
    (sent : CoreClient) :
    HandoffLink :=
  match cut with
  | none =>
      { link with client := sent, incoming := link.incoming ++ bytes }
  | some count =>
      { link with
        client := .closed
        incoming := link.incoming ++ bytes.take count }

end HandoffLink

/-! ## The system -/

/-- The two databases and the connections there have been. -/
structure Handoff where
  spool : Spool
  store : CaptureStore
  links : Nat → Option HandoffLink

/-- A step of the system. `reopen` and `transact` are what the processes do with
their databases apart from connections. -/
inductive HandoffInput where
  | connect (link : Nat) (connectionId sourceConnectionId : Int)
  | bridge (link : Nat) (choice : Choice)
  | client (link : Nat) (action : ClientAction)
  | reopen (tombstoneLimit : Int)
  | transact (transaction : Transaction)

/-- What a step shows. -/
inductive HandoffOutput where
  | silent
  | bridge (link : Nat) (shown : Shown)
  | stored (event : CaptureStore.StoreEvent)
  | confirmed (link : Nat) (receipt : CaptureCommittedRequest)

namespace Handoff

/-- The databases before the first connection. -/
def start (spool : Spool) : Handoff where
  spool := spool
  store := .empty
  links := fun _ => none

variable (handoff : Handoff)

/-- A connection afterwards. -/
def setLink (number : Nat) (link : HandoffLink) : Handoff :=
  { handoff with links := Function.update handoff.links number (some link) }

/-- A transaction of the core. -/
def transact (transaction : Transaction) :
    Handoff × CaptureStore.StoreEvent :=
  let event := CaptureStore.machine.event handoff.store transaction
  ({ handoff with store := event.target }, event)

/-- A step of a session, which uses the spool as it is now. -/
def stepBridge
    (number : Nat)
    (link : HandoffLink)
    (choice : Choice) :
    Handoff × HandoffOutput :=
  if link.Offers choice then
    let (session, shown) :=
      ProxySession.machine.step
        { link.session with spool := handoff.spool } choice
    ({ handoff with spool := session.spool }.setLink number
        { link with
          session := session
          incoming := link.incoming.drop (link.taken choice).length },
      .bridge number shown)
  else
    (handoff, .silent)

/-- A step of a client. Before the receipt of a pending delivery nothing else is
sent. -/
def stepClient
    (number : Nat)
    (link : HandoffLink) :
    ClientAction → Handoff × HandoffOutput
  | .command messageType sequence payload cut =>
      match link.client,
        (Frame.command messageType sequence payload).encode with
      | .ready, .ok bytes =>
          if messageType ∈ deviceRequests then
            (handoff.setLink number (link.send bytes cut .ready), .silent)
          else
            (handoff, .silent)
      | _, _ => (handoff, .silent)
  | .accept frame =>
      (handoff.setLink number
        { link with client := link.client.acceptDelivery frame }, .silent)
  | .resolve resolution =>
      match link.client with
      | .holding held =>
          let (next, event) :=
            handoff.transact (resolution.transaction held.2.1)
          (next.setLink number
            { link with client := .decided held event.output },
            .stored event)
      | _ => (handoff, .silent)
  | .confirm cut =>
      match link.client with
      | .resolved held receipt =>
          match (receiptFrame held.1 receipt).encode with
          | .ok bytes =>
              if receipt.captureId = held.2.2.captureId then
                (handoff.setLink number
                  (link.send bytes cut (.confirming held)),
                  .confirmed number receipt)
              else
                (handoff.setLink number { link with client := .holding held },
                  .silent)
          | .error _ =>
              (handoff.setLink number { link with client := .holding held },
                .silent)
      | _ => (handoff, .silent)
  | .answered frame =>
      (handoff.setLink number
        { link with client := link.client.hearResponse frame }, .silent)
  | .giveUp =>
      (handoff.setLink number { link with client := link.client.giveUp },
        .silent)
  | .close =>
      (handoff.setLink number { link with client := .closed }, .silent)

/-- The system as a machine. -/
def machine : Machine Handoff HandoffInput HandoffOutput where
  step handoff
    | .connect number connectionId sourceConnectionId =>
        match handoff.links number with
        | none =>
            (handoff.setLink number
              (.fresh handoff.spool connectionId sourceConnectionId), .silent)
        | some _ => (handoff, .silent)
    | .bridge number choice =>
        match handoff.links number with
        | none => (handoff, .silent)
        | some link => handoff.stepBridge number link choice
    | .client number action =>
        match handoff.links number with
        | none => (handoff, .silent)
        | some link => handoff.stepClient number link action
    | .reopen tombstoneLimit =>
        match handoff.spool.reopen tombstoneLimit with
        | .ok spool => ({ handoff with spool := spool }, .silent)
        | .error _ => (handoff, .silent)
    | .transact transaction =>
        let (next, event) := handoff.transact transaction
        (next, .stored event)

end Handoff

/-- An event of the system. -/
abbrev HandoffEvent := Event Handoff HandoffInput HandoffOutput

end Usac.Bridge
