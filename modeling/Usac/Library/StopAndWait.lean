import Mathlib.Data.List.Basic
import Usac.Library.Machine

namespace Usac.Library.StopAndWait

/-!
# Sending the parts of a message one at a time

A sender offers the next part of a message, learns whether its transport took
it, and goes on to the part behind it only after the transport has reported
that the part was sent. Its transport may call it in any order. What was
delivered is observed from outside: from the part that was offered when a send
was started, and from the completions.
-/

variable {Part State Output : Type*}

/-- Whether the transport took the part that was offered. -/
inductive StartResult where
  | started
  | busy
  | fatal
  deriving Repr, DecidableEq

/-- What the transport does. -/
inductive Call where
  | peek
  | startResult (result : StartResult)
  | sendCompleted
  | abort
  deriving Repr, DecidableEq

/-- Where the sender is with the next part. -/
inductive Status where
  | ready
  | inFlight
  | complete
  | failed
  deriving Repr, DecidableEq

/-- A sender and the parts it has not committed. -/
structure Sender (Part : Type*) where
  pending : List Part
  status : Status

namespace Sender

/-- The part that is offered. -/
def peek (sender : Sender Part) : Option Part :=
  match sender.status with
  | .ready => sender.pending.head?
  | _ => none

/-- The sender after a call. -/
def call (sender : Sender Part) : Call → Sender Part
  | .peek => sender
  | .startResult result =>
      match sender.status, result with
      | .ready, .started => { sender with status := .inFlight }
      | .ready, .fatal => { sender with status := .failed }
      | _, _ => sender
  | .sendCompleted =>
      match sender.status with
      | .inFlight =>
          { pending := sender.pending.tail
            status :=
              if sender.pending.tail.isEmpty then .complete else .ready }
      | _ => sender
  | .abort => { sender with status := .failed }

/-- The sender as a machine that answers a peek with the offered part. -/
def machine : Machine (Sender Part) Call (Option Part) where
  step sender input := (sender.call input, sender.peek)

end Sender

/-! ## What is observed -/

/-- The part whose send was started, the parts whose sends were completed, and
whether an abort or a fatal result has cut the message short. -/
structure Delivery (Part : Type*) where
  carried : Option Part
  completed : List Part
  interrupted : Bool

namespace Delivery

/-- Nothing has been sent. -/
def nothing : Delivery Part where
  carried := none
  completed := []
  interrupted := false

/-- A call is observed together with the part that was offered when it came. -/
def observe (delivery : Delivery Part) (offered : Option Part) :
    Call → Delivery Part
  | .peek => delivery
  | .startResult .started =>
      { delivery with carried := offered <|> delivery.carried }
  | .startResult .busy => delivery
  | .startResult .fatal =>
      { delivery with
        interrupted := delivery.interrupted || offered.isSome }
  | .sendCompleted =>
      { delivery with
        carried := none
        completed := delivery.completed ++ delivery.carried.toList }
  | .abort => { delivery with interrupted := true }

/-- What the calls of a run have delivered. -/
def observed
    (offers : State → Option Part)
    (events : List (Event State Call Output)) :
    Delivery Part :=
  events.foldl
    (fun delivery event => delivery.observe (offers event.source) event.input)
    nothing

end Delivery

/-! ## What was delivered is where the sender is -/

/-- The sender is behind the parts that were delivered. -/
inductive Follows (parts : List Part) : Sender Part → Delivery Part → Prop where
  | ready
      {sent : List Part}
      {next : Part}
      {rest : List Part}
      (split : parts = sent ++ next :: rest) :
      Follows parts ⟨next :: rest, .ready⟩ ⟨none, sent, false⟩
  | inFlight
      {sent : List Part}
      {next : Part}
      {rest : List Part}
      (split : parts = sent ++ next :: rest) :
      Follows parts ⟨next :: rest, .inFlight⟩ ⟨some next, sent, false⟩
  | complete :
      Follows parts ⟨[], .complete⟩ ⟨none, parts, false⟩
  | failed
      {pending sent rest : List Part}
      {carried : Option Part}
      (split : parts = sent ++ rest)
      (carries : ∀ part, carried = some part → rest.head? = some part) :
      Follows parts ⟨pending, .failed⟩ ⟨carried, sent, true⟩

variable {parts : List Part} {sender : Sender Part} {delivery : Delivery Part}

/-- A message with a part is ready to be sent. -/
theorem Follows.start
    {first : Part}
    {rest : List Part} :
    Follows (first :: rest) ⟨first :: rest, .ready⟩ .nothing :=
  .ready rfl

/-- Every call keeps the sender behind what was delivered. -/
theorem Follows.call
    (follows : Follows parts sender delivery)
    (input : Call) :
    Follows parts (sender.call input)
      (delivery.observe sender.peek input) := by
  cases follows with
  | @ready sent next rest split =>
      rcases input with _ | (_ | _ | _) | _ | _
      · exact .ready split
      · exact .inFlight split
      · exact .ready split
      · exact .failed split nofun
      · simpa [Sender.call, Delivery.observe] using Follows.ready split
      · exact .failed split nofun
  | @inFlight sent next rest split =>
      rcases input with _ | (_ | _ | _) | _ | _
      · exact .inFlight split
      · exact .inFlight split
      · exact .inFlight split
      · exact .inFlight split
      · have moved : parts = (sent ++ [next]) ++ rest := by
          simp [split]
        cases rest with
        | nil =>
            rw [List.append_nil] at moved
            subst moved
            exact .complete
        | cons _ _ =>
            exact .ready moved
      · exact .failed split (by simp)
  | complete =>
      rcases input with _ | (_ | _ | _) | _ | _
      · exact .complete
      · exact .complete
      · exact .complete
      · exact .complete
      · simpa [Sender.call, Delivery.observe] using Follows.complete
      · exact .failed (List.append_nil parts).symm nofun
  | @failed pending sent rest carried split carries =>
      rcases input with _ | (_ | _ | _) | _ | _
      · exact .failed split carries
      · exact .failed split carries
      · exact .failed split carries
      · exact .failed split carries
      · cases carried with
        | none =>
            have unchanged : Follows parts ⟨pending, .failed⟩ ⟨none, sent, true⟩ :=
              .failed split carries
            simpa [Sender.call, Delivery.observe] using unchanged
        | some part =>
            have head := carries part rfl
            obtain ⟨tail, rfl⟩ := List.head?_eq_some_iff.1 head
            have moved : parts = (sent ++ [part]) ++ tail := by
              simp [split]
            exact .failed moved nofun
      · exact .failed split carries

/-- The completed parts are the first ones of the message, in order. -/
theorem Follows.completed_first
    (follows : Follows parts sender delivery) :
    delivery.completed <+: parts := by
  cases follows with
  | ready split | inFlight split | failed split =>
      exact ⟨_, split.symm⟩
  | complete =>
      exact List.prefix_rfl

/-- The sender is complete exactly when every part was completed and nothing
has cut the message short. -/
theorem Follows.complete_iff
    (follows : Follows parts sender delivery) :
    sender.status = .complete ↔
      delivery.completed = parts ∧ delivery.interrupted = false := by
  cases follows with
  | ready split | inFlight split =>
      simp [split]
  | complete | failed =>
      simp

end Usac.Library.StopAndWait
