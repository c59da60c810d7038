import Usac.Host.BridgeDeviceClient

namespace Usac.Host

open Library

/-!
# The bridge acceptor

The thread of `core_server.py` that accepts replacement bridges. It is meant to
survive every failed handshake and to end only with its listener. What it does
with a failed handshake depends on the class of the exception alone: the clause
for `OSError` stands first and takes the connection errors the clause behind it
was written for.
-/

namespace CoreServer

/-- A failure of `listener.accept`. -/
abbrev ListenerFailure := {raised : Raised // raised.isA .osError = true}

/-- How the acceptor stands after a number of attempts. -/
inductive Ending where
  | accepting
  | returned
  | died (raised : Raised)
  deriving DecidableEq

/-- What the acceptor has done: its calls of `listener.accept`, the clients it
published, the connections it closed, and how it stands. -/
@[ext]
structure Outcome (Client : Type) where
  accepts : Nat
  published : List Client
  closed : List Connection
  ending : Ending
  deriving DecidableEq

namespace Outcome

variable {Client : Type}

/-- Before the first attempt. -/
def accepting : Outcome Client where
  accepts := 0
  published := []
  closed := []
  ending := .accepting

/-- A last attempt. -/
def last (closed : List Connection) (ending : Ending) : Outcome Client where
  accepts := 1
  published := []
  closed := closed
  ending := ending

/-- A published client before what follows. -/
def publish (client : Client) (following : Outcome Client) :
    Outcome Client where
  accepts := following.accepts + 1
  published := client :: following.published
  closed := following.closed
  ending := following.ending

/-- A rejected session before what follows. -/
def reject (connection : Connection) (following : Outcome Client) :
    Outcome Client where
  accepts := following.accepts + 1
  published := following.published
  closed := connection :: following.closed
  ending := following.ending

/-- Outcomes that begin alike agree when what follows does. -/
theorem publish_inj {client : Client} {first second : Outcome Client} :
    first.publish client = second.publish client ↔ first = second := by
  simp [publish, Outcome.ext_iff]

/-- Outcomes that begin alike agree when what follows does. -/
theorem reject_inj
    {connection : Connection}
    {first second : Outcome Client} :
    first.reject connection = second.reject connection ↔ first = second := by
  simp [reject, Outcome.ext_iff]

end Outcome

/-- The `except` clauses of `_accept_replacement_bridges`, in their order. -/
inductive Clause where
  | returns
  | retries
  | escapes
  deriving DecidableEq

/-- The clause that takes an exception. -/
def clauseFor (raised : Raised) : Clause :=
  if raised.isA .osError then
    .returns
  else if raised.isA .connectionError ∨ raised.isA .timeoutError ∨
      raised.isA .valueError ∨ raised.isA .runtimeError then
    .retries
  else
    .escapes

variable {Client : Type} (clientFactory : Connection → Except Raised Client)

/-- `_accept_replacement_bridges`, with `accept_replacement_bridge` as its
body, over the results of `listener.accept`. -/
def acceptReplacementBridges :
    List (Except ListenerFailure Connection) → Outcome Client
  | [] => .accepting
  | .error failure :: rest =>
      match clauseFor failure.val with
      | .returns => .last [] .returned
      | .retries =>
          let following := acceptReplacementBridges rest
          { following with accepts := following.accepts + 1 }
      | .escapes => .last [] (.died failure.val)
  | .ok connection :: rest =>
      match clientFactory connection with
      | .ok client => (acceptReplacementBridges rest).publish client
      | .error raised =>
          match clauseFor raised with
          | .returns => .last [connection] .returned
          | .retries => (acceptReplacementBridges rest).reject connection
          | .escapes => .last [connection] (.died raised)

/-- An acceptor that survives every failed handshake and ends with its
listener. -/
def survivor : List (Except ListenerFailure Connection) → Outcome Client
  | [] => .accepting
  | .error _ :: _ => .last [] .returned
  | .ok connection :: rest =>
      match clientFactory connection with
      | .ok client => (survivor rest).publish client
      | .error _ => (survivor rest).reject connection

/-- The acceptor survives the attempts. -/
def Survives (accepts : List (Except ListenerFailure Connection)) : Prop :=
  acceptReplacementBridges clientFactory accepts =
    survivor clientFactory accepts

/-- The connections accepted before the listener fails. -/
def served : List (Except ListenerFailure Connection) → List Connection
  | .ok connection :: rest => connection :: served rest
  | _ => []

/-- The exceptions the acceptor survives. -/
def Survivable (raised : Raised) : Prop :=
  raised.isA .osError = false ∧
    (raised.isA .valueError = true ∨ raised.isA .runtimeError = true)

/-- Connection errors and timeouts are `OSError`s, so the first clause takes
them. -/
theorem clauseFor_eq_retries (raised : Raised) :
    clauseFor raised = .retries ↔ Survivable raised := by
  have connection : raised.isA .connectionError → raised.isA .osError :=
    ErrorClass.isA_osError_of_connectionError
  have timeout : raised.isA .timeoutError → raised.isA .osError :=
    ErrorClass.isA_osError_of_timeoutError
  unfold clauseFor Survivable
  split_ifs with os caught
  · simp [os]
  · simp only [true_iff]
    refine ⟨by simpa using os, ?_⟩
    rcases caught with isConnection | isTimeout | isValue | isRuntime
    · exact absurd (connection isConnection) os
    · exact absurd (timeout isTimeout) os
    · exact Or.inl isValue
    · exact Or.inr isRuntime
  · simp only [false_iff, not_and, not_or]
    intro _
    push Not at caught
    exact caught.2.2

/-- A failure of the listener ends the acceptor. -/
theorem clauseFor_listener (failure : ListenerFailure) :
    clauseFor failure.val = .returns := by
  simp [clauseFor, failure.property]

/-- An acceptor that has ended was not asked for another attempt, which the
surviving one makes. -/
theorem last_ne_reject
    (rest : List (Except ListenerFailure Connection))
    (connection : Connection)
    {ending : Ending}
    (ended : ending ≠ .accepting) :
    Outcome.last [connection] ending ≠
      (survivor clientFactory rest).reject connection := by
  intro same
  cases rest with
  | nil =>
      exact ended (congrArg Outcome.ending same)
  | cons accepted rest =>
      have accepts := congrArg Outcome.accepts same
      unfold survivor at accepts
      split at accepts
      · contradiction
      · simp [Outcome.last, Outcome.reject] at accepts
      · split at accepts <;>
          simp [Outcome.last, Outcome.reject, Outcome.publish] at accepts

/-- The acceptor survives exactly the handshakes that fail with a `ValueError`
or `RuntimeError` that is no `OSError`. -/
theorem survives_iff
    (accepts : List (Except ListenerFailure Connection)) :
    Survives clientFactory accepts ↔
      ∀ connection ∈ served accepts, ∀ raised,
        clientFactory connection = .error raised → Survivable raised := by
  unfold Survives
  induction accepts with
  | nil =>
      simp [acceptReplacementBridges, survivor, served]
  | cons accepted rest inductionHypothesis =>
      cases accepted with
      | error failure =>
          simp [acceptReplacementBridges, survivor, served,
            clauseFor_listener]
      | ok connection =>
          simp only [acceptReplacementBridges, survivor, served,
            List.forall_mem_cons]
          cases handshake : clientFactory connection with
          | ok client =>
              rw [Outcome.publish_inj, inductionHypothesis]
              simp
          | error raised =>
              have condition :
                  (∀ other,
                    (.error raised : Except Raised Client) = .error other →
                      Survivable other) ↔
                    Survivable raised := by
                simp
              rw [condition, ← clauseFor_eq_retries]
              cases clause : clauseFor raised with
              | returns =>
                  simpa [clause] using
                    last_ne_reject clientFactory rest connection
                      (by simp)
              | retries =>
                  simpa [clause, Outcome.reject_inj] using inductionHypothesis
              | escapes =>
                  simpa [clause] using
                    last_ne_reject clientFactory rest connection
                      (by simp)

/-- A stream that ends within a read is a connection error. -/
theorem readScript_of_closed
    {chunk : List UInt8}
    {size : Nat}
    (short : chunk.length < size)
    (rest : List Incoming) :
    Session.readScript size (.bytes chunk :: .bytes [] :: rest) =
      .error Session.disconnected := by
  obtain ⟨size, rfl⟩ := Nat.exists_eq_succ_of_ne_zero (by omega : size ≠ 0)
  cases chunk with
  | nil =>
      rfl
  | cons byte bytes =>
      rw [List.length_cons] at short
      obtain ⟨left, remaining⟩ :
          ∃ left, size + 1 - (byte :: bytes).length = left + 1 :=
        ⟨size - bytes.length - 1, by rw [List.length_cons]; omega⟩
      rw [Session.readScript, if_neg (by rw [List.length_cons]; omega),
        remaining]
      · rfl
      · simp

/-- A bridge that closes within the header of its first frame raises a
connection error, whatever it has said. -/
theorem init_of_closed
    (store : Option ReplayStore)
    (nonce : Bytes 16)
    {chunk : List UInt8}
    (short : chunk.length < Frame.headerSize)
    (rest : List Incoming) :
    BridgeDeviceClient.init store nonce
        { incoming := .bytes chunk :: .bytes [] :: rest
          sendFailures := []
          sent := [] } =
      .error Session.disconnected := by
  have closed := readScript_of_closed short rest
  have received
      (session : Session)
      (same :
        session.connection.incoming = .bytes chunk :: .bytes [] :: rest) :
      Session.receive.run session = .error Session.disconnected := by
    simp only [Session.receive, Session.readExact, StateT.run, bind,
      StateT.bind, same, closed, Except.bind]
  have encoded :=
    Frame.encode_command
      (show (encodeHelloRequest nonce).length ≤ Frame.hostMaxPayloadLength by
        simp [encodeHelloRequest, Frame.hostMaxPayloadLength])
      MessageType.hello 1
  simp [BridgeDeviceClient.init, Session.hello, Session.nextSequence,
    Session.send, Session.response, Session.responseWithin, received, encoded,
    Session.sendAll_run]

/-- A bridge that closes within the header of its first frame. -/
def closingBridge : Connection where
  incoming := [.bytes Frame.magic, .bytes []]
  sendFailures := []
  sent := []

/-- A response of the device behind a bridge, as it arrives. -/
def answered
    (messageType : MessageType)
    (sequence : UInt32)
    (payload : List UInt8) :
    Incoming :=
  .bytes (({ Frame.command messageType sequence payload with
    flags := Flags.response } : Frame).encode.toOption.getD [])

/-- A bridge that answers the handshake of a session with the zero nonce. -/
def answeringBridge : Connection where
  incoming := [
    answered .hello 1 (List.replicate 48 0 ++ [1] ++ List.replicate 15 0),
    answered .getCapabilities 2 (List.replicate 24 0)]
  sendFailures := []
  sent := []

set_option maxRecDepth 100000 in
/-- A bridge that closes within its handshake ends the acceptor for good: the
bridge behind it would complete its handshake and is never accepted. -/
theorem not_survives_closingBridge :
    (BridgeDeviceClient.init none (Bytes.zero 16)
        answeringBridge).toOption.isSome ∧
      (acceptReplacementBridges (BridgeDeviceClient.init none (Bytes.zero 16))
          [.ok closingBridge, .ok answeringBridge]).ending = .returned ∧
      ¬Survives (BridgeDeviceClient.init none (Bytes.zero 16))
        [.ok closingBridge, .ok answeringBridge] := by
  have early : Frame.magic.length < Frame.headerSize := by decide
  have closed :
      BridgeDeviceClient.init none (Bytes.zero 16) closingBridge =
        .error Session.disconnected :=
    init_of_closed none (Bytes.zero 16) early []
  refine ⟨by decide +kernel, ?_, ?_⟩
  · simp only [acceptReplacementBridges, closed]
    rfl
  · intro survives
    have survivable : Survivable Session.disconnected :=
      (survives_iff _ _).1 survives closingBridge (by simp [served]) _ closed
    exact absurd survivable.1 (by decide)

end CoreServer

end Usac.Host
