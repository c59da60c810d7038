import Usac.Bridge.HandoffSafety

namespace Usac.Bridge

open Library Host

/-!
# The frames of the handoff

A receipt names a record and a CRC, not a frame. Which frame the core has
decided about by the time the receipt removes the record follows in two ways:
from the CRC, as far as it tells the frames of one identity apart, and from the
deliveries of the run. The spool gives every id to one record, so what a session
delivers under an id is the frame of that record, and the store confirms an
earlier decision to a frame with its CRC and its SHA-256 only.
-/

/-! ## The records there have been -/

namespace Spool

/-- What a call makes of the records: no record comes back, and a new one has a
new id. -/
structure Extends (spool next : Spool) : Prop where
  sound : spool.Sound → next.Sound
  counts : spool.lastRecordId ≤ next.lastRecordId
  known :
    ∀ row ∈ next.pending.rows,
      row ∈ spool.pending.rows ∨
        spool.lastRecordId < row.recordId ∧ Genuine row

/-- A spool that is left alone. -/
theorem Extends.refl (spool : Spool) : spool.Extends spool :=
  ⟨id, le_rfl, fun _ => .inl⟩

/-- Every call extends the records. -/
theorem extends_step (spool : Spool) (input : Input) :
    spool.Extends (machine.step spool input).1 := by
  have step := moves spool input
  generalize machine.step spool input = result at step
  refine ⟨fun sound => sound.moves step, ?_, ?_⟩
  · cases step with
    | adds => exact Int.le_add_one le_rfl
    | refuses | returns | removes | recalls | opens => exact le_rfl
  · cases step with
    | refuses | returns | recalls | opens => exact fun _ => .inl
    | removes row =>
        exact fun other remaining =>
          .inl (spool.pending.mem_delete.1 remaining).1
    | adds request capture pending accepts room rows =>
        intro row member
        dsimp only at member
        rw [rows] at member
        rcases List.mem_append.1 member with old | new
        · exact .inl old
        · obtain rfl := List.mem_singleton.1 new
          exact .inr ⟨Int.lt_succ _, request, capture, accepts, rfl, rfl, rfl⟩

/-- A new spool is sound. -/
theorem sound_empty (tombstoneLimit : Int) : (empty tombstoneLimit).Sound :=
  ⟨⟨le_refl 0, by simp [empty, maxInteger]⟩, nofun, nofun, nofun⟩

end Spool

namespace ProxySession

/-- What a step of a session makes of the records. -/
theorem extends_step (session : ProxySession) (choice : Choice) :
    session.spool.Extends (machine.step session choice).1.spool := by
  obtain ⟨thread, meets⟩ := choice
  cases thread with
  | serialLoop =>
      have step := session.stepSerial_cases meets
      change session.spool.Extends (session.stepSerial meets).1.spool
      generalize session.stepSerial meets = result at step
      cases step with
      | stores frame raw firstOffset request spool pending here stored =>
          have called := session.spool.extends_step (.storeCapture request)
          simp only [Spool.machine, Spool.transact, stored] at called
          exact called
      | _ => exact .refl _
  | coreReader =>
      have step := session.stepReader_cases meets
      change session.spool.Extends (session.stepReader meets).1.spool
      generalize session.stepReader meets = result at step
      cases step with
      | commits sequence receipt spool disposition here committed =>
          have called :=
            session.spool.extends_step (.markCommitted (receiptOf receipt))
          simp only [Spool.machine, Spool.transact, committed] at called
          exact called
      | _ => exact .refl _

end ProxySession

/-- The record is in the spool, or has been. -/
def Recorded
    (record : List HandoffEvent)
    (spool : Spool)
    (row : PendingCapture) :
    Prop :=
  row ∈ spool.pending.rows ∨
    ∃ event ∈ record, row ∈ event.source.spool.pending.rows

section Recorded

variable {record : List HandoffEvent} {event : HandoffEvent}
  {row : PendingCapture}

/-- A record there has been stays one. -/
theorem Recorded.concat
    (recorded : Recorded record event.source.spool row) :
    Recorded (record ++ [event]) event.target.spool row := by
  rcases recorded with now | ⟨past, member, there⟩
  · exact .inr
      ⟨event, List.mem_append_right _ (List.mem_singleton_self _), now⟩
  · exact .inr ⟨past, List.mem_append_left _ member, there⟩

/-- A record there has been after an event is new or older. -/
theorem Recorded.of_concat
    (recorded : Recorded (record ++ [event]) event.target.spool row) :
    row ∈ event.target.spool.pending.rows ∨
      Recorded record event.source.spool row := by
  rcases recorded with now | ⟨past, member, there⟩
  · exact .inl now
  · rcases List.mem_append.1 member with old | last
    · exact .inr (.inr ⟨past, old, there⟩)
    · obtain rfl := List.mem_singleton.1 last
      exact .inr (.inl there)

end Recorded

namespace Handoff

/-- What a step of the system makes of the records. -/
theorem extends_step (handoff : Handoff) (input : HandoffInput) :
    handoff.spool.Extends (machine.event handoff input).target.spool := by
  cases input with
  | connect number connectionId sourceConnectionId =>
      simp only [Machine.event, machine]
      split <;> exact .refl _
  | bridge number choice =>
      simp only [Machine.event, machine]
      split
      · exact .refl _
      · rename_i link here
        unfold stepBridge
        split_ifs
        · exact ProxySession.extends_step
            { link.session with spool := handoff.spool } choice
        · exact .refl _
  | client number action =>
      simp only [Machine.event, machine]
      split
      · exact .refl _
      · rw [spool_stepClient]
        exact .refl _
  | reopen tombstoneLimit =>
      have called := handoff.spool.extends_step (.reopen tombstoneLimit)
      simp only [Machine.event, machine]
      split
      · rename_i spool reopened
        simp only [Spool.machine, Spool.transact, reopened, Except.map]
          at called
        exact called
      · exact .refl _
  | transact transaction => exact .refl _

/-- The records there have been, each under its own id, and what became of
them. -/
structure Ledger (record : List HandoffEvent) (handoff : Handoff) : Prop where
  sound : Sound record handoff
  counted : handoff.spool.Sound
  genuine :
    ∀ row, Recorded record handoff.spool row → Spool.Genuine row
  issued :
    ∀ row, Recorded record handoff.spool row →
      row.recordId ≤ handoff.spool.lastRecordId
  unique :
    ∀ row other, Recorded record handoff.spool row →
      Recorded record handoff.spool other →
        row.recordId = other.recordId → row = other
  accounted :
    ∀ row, Recorded record handoff.spool row →
      row ∈ handoff.spool.pending.rows ∨
        ∃ receipt, receiptOf receipt = Spool.receiptFor row ∧
          Vouched record receipt

namespace Ledger

variable {record : List HandoffEvent} {handoff : Handoff}

/-- Before the first connection there has been no record. -/
theorem start (tombstoneLimit : Int) :
    Ledger [] (Handoff.start (.empty tombstoneLimit)) := by
  have nothing (row : PendingCapture) :
      ¬Recorded [] (Spool.empty tombstoneLimit) row := by
    rintro (now | ⟨_, member, _⟩)
    · exact absurd now List.not_mem_nil
    · exact absurd member List.not_mem_nil
  exact ⟨Sound.start _, Spool.sound_empty tombstoneLimit,
    fun row recorded => absurd recorded (nothing row),
    fun row recorded => absurd recorded (nothing row),
    fun row _ recorded => absurd recorded (nothing row),
    fun row recorded => absurd recorded (nothing row)⟩

/-- A record after a step is one from before, or has a new id. -/
theorem recorded_event
    (input : HandoffInput)
    {row : PendingCapture}
    (recorded :
      Recorded (record ++ [machine.event handoff input])
        (machine.event handoff input).target.spool row) :
    Recorded record handoff.spool row ∨
      row ∈ (machine.event handoff input).target.spool.pending.rows ∧
        handoff.spool.lastRecordId < row.recordId ∧ Spool.Genuine row := by
  rcases recorded.of_concat with now | before
  · rcases (handoff.extends_step input).known row now with old | new
    · exact .inl (.inl old)
    · exact .inr ⟨now, new⟩
  · exact .inl before

/-- Every step keeps the ledger. -/
theorem event
    (ledger : Ledger record handoff)
    (input : HandoffInput) :
    Ledger (record ++ [machine.event handoff input])
      (machine.event handoff input).target := by
  have grows := handoff.extends_step input
  refine ⟨ledger.sound.event input, grows.sound ledger.counted, ?_, ?_, ?_, ?_⟩
  · intro row recorded
    rcases recorded_event input recorded with before | ⟨-, -, genuine⟩
    · exact ledger.genuine row before
    · exact genuine
  · intro row recorded
    rcases recorded_event input recorded with before | ⟨now, -, -⟩
    · exact (ledger.issued row before).trans grows.counts
    · exact ((grows.sound ledger.counted).issued row now).2
  · intro row other recorded otherRecorded same
    rcases recorded_event input recorded with before | ⟨now, new, -⟩ <;>
      rcases recorded_event input otherRecorded with
        otherBefore | ⟨otherNow, otherNew, -⟩
    · exact ledger.unique row other before otherBefore same
    · have old := ledger.issued row before
      omega
    · have old := ledger.issued other otherBefore
      omega
    · exact List.inj_on_of_nodup_map
        (machine.event handoff input).target.spool.pending.uniqueId now otherNow
        same
  · intro row recorded
    rcases recorded_event input recorded with before | ⟨now, -, -⟩
    · rcases ledger.accounted row before with stays | ⟨receipt, own, vouched⟩
      · by_cases still :
            row ∈ (machine.event handoff input).target.spool.pending.rows
        · exact .inl still
        · obtain ⟨-, receipt, -, own, vouched⟩ :=
            (ledger.sound.vouches input).removed row stays still
          exact .inr ⟨receipt, own, vouched.concat _⟩
      · exact .inr ⟨receipt, own, vouched.concat _⟩
    · exact .inl now

end Ledger

/-! ## The frame by its CRC -/

/-- CRC-32 tells the frame of a record apart from the frames of its identity
that have been decided about. -/
def Separates (earlier : List HandoffEvent) (event : HandoffEvent) : Prop :=
  ∀ row ∈ event.source.spool.pending.rows,
    ∀ decision ∈ earlier.filterMap decisionOf,
      .ofCapture decision.capture = row.key →
        Frame.crc32IsoHdlc decision.delivery.innerFrame =
            Frame.crc32IsoHdlc row.innerFrame →
          decision.delivery.innerFrame = row.innerFrame

instance (earlier : List HandoffEvent) (event : HandoffEvent) :
    Decidable (Separates earlier event) :=
  inferInstanceAs (Decidable (∀ row ∈ _, ∀ decision ∈ _, _ → _ → _))

/-- The core has stored a decision about the frame of a record. -/
def FrameDecided (record : List HandoffEvent) (row : PendingCapture) : Prop :=
  ∃ event ∈ record, ∃ decision, decisionOf event = some decision ∧
    .ofCapture decision.capture = row.key ∧
    decision.delivery.innerFrame = row.innerFrame ∧
    ∃ tombstone ∈ event.target.store.tombstones.rows,
      CaptureStore.RecordOf event.source.store decision tombstone

/-- A record leaves the spool by the `mark_committed` of its own receipt, when
its frame has been decided about, and no receipt is sent before the decision it
is for. -/
structure Secures (earlier : List HandoffEvent) (event : HandoffEvent) :
    Prop where
  removed :
    ∀ row ∈ event.source.spool.pending.rows,
      row ∉ event.target.spool.pending.rows →
        (∃ number,
          event.output =
            .bridge number (.marked (Spool.receiptFor row) .deleted)) ∧
          FrameDecided earlier row
  sent :
    ∀ number receipt,
      event.output = .confirmed number receipt → Vouched earlier receipt

/-- A decision about the CRC of a record is one about its frame. -/
theorem Ledger.frameDecided
    {record : List HandoffEvent}
    {event : HandoffEvent}
    {row : PendingCapture}
    (ledger : Ledger record event.source)
    (separates : Separates record event)
    (member : row ∈ event.source.spool.pending.rows)
    (decided : Decided record row.key row.innerFrameCrc32) :
    FrameDecided record row := by
  obtain ⟨past, pastMember, decision, made, key, crc, stored⟩ := decided
  obtain ⟨-, -, -, -, -, sealed⟩ := ledger.genuine row (.inl member)
  refine ⟨past, pastMember, decision, made, key, ?_, stored⟩
  exact separates row member decision
    (List.mem_filterMap.2 ⟨past, pastMember, made⟩) key (crc.trans sealed)

/--
Nothing is lost in the handoff, whatever the bridge and the core do, in whatever
order, wherever a connection breaks and whenever a process stops: as long as
CRC-32 tells apart the frames of one identity, a record leaves the spool only by
its own receipt and only after the core has stored a decision about its frame.
-/
theorem everyStep_secures
    (tombstoneLimit : Int)
    (inputs : List HandoffInput)
    (separates :
      EveryStep Separates
        (machine.trace (start (.empty tombstoneLimit)) inputs)) :
    EveryStep Secures
      (machine.trace (start (.empty tombstoneLimit)) inputs) := by
  refine machine.everyStep_of_invariant Ledger (Ledger.start tombstoneLimit)
    (fun _ _ input ledger _ => ledger.event input) ?_ inputs separates
  intro earlier handoff input ledger separates
  have vouches := ledger.sound.vouches input
  refine ⟨fun row member removed => ?_, vouches.sent⟩
  obtain ⟨number, receipt, shown, own, vouched⟩ :=
    vouches.removed row member removed
  exact ⟨⟨number, shown⟩,
    @Ledger.frameDecided _ (machine.event handoff input) _ ledger separates
      member (decided_of_receiptFor own vouched)⟩

/-- The first capture of a session as the core gets it. -/
def firstDelivery : Frame where
  messageType := .bridgeCaptureDelivery
  sequence := 1
  payload :=
    (BridgeCaptureDelivery.encode {
      connectionId := 1
      spoolRecordId := 1
      sourceConnectionId := 1
      sourceFirstStreamOffset := 0
      sourceLastStreamOffset := 209
      storedUtcNs := 0
      innerFrame := CaptureData.smallestFrame }).toOption.getD []
  flags := Flags.async
  protocolVersion := Frame.currentVersion

/-- The bridge takes some steps on the first connection. -/
def bridging (choices : List Choice) : List HandoffInput :=
  choices.map (.bridge 0)

/-- A capture is stored in the spool, archived by the core and committed. -/
def handedOver : List HandoffInput :=
  [.connect 0 1 1] ++
    bridging (ProxySession.hearing CaptureData.smallestFrame) ++
    bridging [⟨.serialLoop, .clock 0⟩, ⟨.serialLoop, .returns⟩,
      ⟨.serialLoop, .returns⟩] ++
    [.client 0 (.accept firstDelivery),
      .client 0 (.resolve (.persist .saveAll none none)),
      .client 0 (.confirm none)] ++
    bridging (ProxySession.receiving ProxySession.firstReceipt) ++
    bridging [⟨.coreReader, .returns⟩]

set_option maxRecDepth 100000 in
/-- The record is gone, and its frame was decided about before. -/
theorem secures_handedOver :
    (machine.after (start (.empty 4096)) handedOver).spool.pending.rows = [] ∧
      EveryStep Secures (machine.trace (start (.empty 4096)) handedOver) :=
  ⟨by decide +kernel,
    everyStep_secures 4096 handedOver (by decide +kernel)⟩

end Handoff

/-! ## What the sessions deliver -/

/-- The records a loop has taken from the spool to deliver them. -/
def SerialLoop.records : SerialLoop → List PendingCapture
  | .registering delivery | .handing delivery _ | .awaiting delivery _
  | .releasing delivery => delivery.pending :: delivery.rest.getD []
  | _ => []

/-- The frame is a delivery of the record. -/
def Delivers (row : PendingCapture) (frame : Frame) : Prop :=
  ∃ connectionId sequence, deliveryFrame connectionId row sequence = .ok frame

/-- A loop delivers records there have been, and forwards no delivery. -/
structure LoopSound
    (record : List HandoffEvent)
    (spool : Spool)
    (loop : SerialLoop) :
    Prop where
  recorded : ∀ row ∈ loop.records, Recorded record spool row
  plain : ∀ frame, loop = .forwarding frame → isDelivery frame = false

namespace ProxySession

variable {session next : ProxySession} {shown : Shown}

/-- The records of a replay are those that are left of its batch. -/
theorem records_continueReplay (rest : List PendingCapture) :
    (continueReplay rest).records = rest := by
  cases rest <;> rfl

/-- A loop takes the records it delivers from the spool. -/
theorem SerialStep.records
    (step : SerialStep session (next, shown))
    {row : PendingCapture}
    (member : row ∈ next.serialLoop.records) :
    row ∈ session.serialLoop.records ∨ row ∈ next.spool.pending.rows := by
  cases step with
  | waits => exact .inl member
  | rounds loop idle goes =>
      rcases goes with idle | rfl
      · cases loop <;> first | exact idle.elim | cases member
      · cases member
  | hears raw frame idle decoded =>
      dsimp only at member
      split at member <;> cases member
  | forwards frame here =>
      dsimp only [toSerial] at member
      split at member <;> cases member
  | stores frame raw firstOffset request spool pending here stored =>
      obtain rfl : row = pending := by simpa [SerialLoop.records] using member
      have called := session.spool.moves (.storeCapture request)
      simp only [Spool.machine, Spool.transact, stored] at called
      cases called with
      | returns request row among same => exact .inr among
      | adds request capture pending accepts room rows =>
          refine .inr ?_
          dsimp only
          rw [rows]
          exact List.mem_append_right _ (List.mem_singleton_self _)
  | replays pending rest here batch =>
      simp only [toSerial, records_continueReplay] at member
      exact .inr (Spool.mem_of_pendingRecords batch member)
  | registers delivery here | hands delivery _ _ here _
  | confirmed delivery _ here _ =>
      left
      rw [here]
      exact member
  | releases delivery here =>
      left
      rw [here]
      dsimp only at member
      cases more : delivery.rest with
      | none => simp [more, SerialLoop.records] at member
      | some rest =>
          simp only [more, records_continueReplay] at member
          simp [SerialLoop.records, more, member]
  | _ => cases member

/-- A loop that hears no delivery forwards none. -/
theorem SerialStep.plain
    (step : SerialStep session (next, shown))
    (ordinary : ∀ frame ∈ heardOf shown, isDelivery frame = false)
    {frame : Frame}
    (forwarding : next.serialLoop = .forwarding frame) :
    session.serialLoop = .forwarding frame ∨ isDelivery frame = false := by
  cases step with
  | waits => exact .inl forwarding
  | rounds loop idle goes =>
      obtain rfl : loop = .forwarding frame := forwarding
      rcases goes with idle | ends
      · exact idle.elim
      · cases ends
  | hears raw heard idle decoded =>
      dsimp only at forwarding
      split at forwarding
      · cases forwarding
      · obtain rfl := SerialLoop.forwarding.inj forwarding
        exact .inr (ordinary heard rfl)
  | forwards sent here =>
      dsimp only [toSerial] at forwarding
      split at forwarding <;> cases forwarding
  | replays pending rest here batch => cases forwarding
  | releases delivery here =>
      dsimp only at forwarding
      split at forwarding
      · cases forwarding
      · rename_i rest more
        cases rest <;> cases forwarding
  | _ => cases forwarding

/-- A delivery a loop sends is one of a record, or one it forwards. -/
theorem SerialStep.delivers
    (step : SerialStep session (next, shown))
    {frame : Frame}
    (sent : sentOf shown = some frame) :
    session.serialLoop = .forwarding frame ∨
      ∃ row ∈ session.serialLoop.records, Delivers row frame := by
  cases step with
  | forwards forwarded here =>
      obtain rfl := Option.some.inj sent
      exact .inl here
  | hands delivery number handed here built =>
      obtain rfl := Option.some.inj sent
      refine .inr ⟨delivery.pending, ?_, _, _, built⟩
      rw [here]
      exact List.mem_cons_self
  | _ => cases sent

/-- The reader sends no delivery. -/
theorem ReaderStep.ordinary
    (step : ReaderStep session (next, shown))
    {frame : Frame}
    (sent : sentOf shown = some frame) :
    isDelivery frame = false := by
  cases step with
  | responds sequence receipt disposition response here built =>
      obtain rfl := Option.some.inj sent
      obtain ⟨payload, -, final⟩ := bind_eq_ok.1 built
      obtain rfl := Except.ok.inj final
      rfl
  | _ => cases sent

/-- The reader leaves the loop alone. -/
theorem ReaderStep.serialLoop
    (step : ReaderStep session (next, shown)) :
    next.serialLoop = session.serialLoop := by
  cases step <;> rfl

/-- A step of a session whose device sends no delivery keeps its loop sound. -/
theorem loopSound_step
    {record : List HandoffEvent}
    {event : HandoffEvent}
    {choice : Choice}
    (sound : LoopSound record event.source.spool session.serialLoop)
    (spool :
      event.target.spool = (machine.step session choice).1.spool)
    (ordinary :
      ∀ frame ∈ heardOf (machine.step session choice).2,
        isDelivery frame = false) :
    LoopSound (record ++ [event]) event.target.spool
      (machine.step session choice).1.serialLoop := by
  obtain ⟨thread, meets⟩ := choice
  cases thread with
  | serialLoop =>
      have step := session.stepSerial_cases meets
      change event.target.spool = (session.stepSerial meets).1.spool at spool
      change ∀ frame ∈ heardOf (session.stepSerial meets).2,
        isDelivery frame = false at ordinary
      change LoopSound _ _ (session.stepSerial meets).1.serialLoop
      generalize session.stepSerial meets = result at *
      obtain ⟨next, shown⟩ := result
      refine ⟨fun row member => ?_, fun frame forwarding => ?_⟩
      · rcases step.records member with before | now
        · exact (sound.recorded row before).concat
        · exact .inl (spool ▸ now)
      · rcases step.plain ordinary forwarding with before | plain
        · exact sound.plain frame before
        · exact plain
  | coreReader =>
      have same :
          (session.stepReader meets).1.serialLoop = session.serialLoop :=
        (session.stepReader_cases meets).serialLoop
      change LoopSound _ _ (session.stepReader meets).1.serialLoop
      rw [same]
      exact ⟨fun row member => (sound.recorded row member).concat, sound.plain⟩

/-- What a session with a sound loop sends as a delivery is one of a record. -/
theorem delivers_step
    {record : List HandoffEvent}
    {spool : Spool}
    {choice : Choice}
    {frame : Frame}
    (sound : LoopSound record spool session.serialLoop)
    (sent : sentOf (machine.step session choice).2 = some frame)
    (delivers : isDelivery frame = true) :
    ∃ row, Recorded record spool row ∧ Delivers row frame := by
  obtain ⟨thread, meets⟩ := choice
  cases thread with
  | serialLoop =>
      rcases (session.stepSerial_cases meets).delivers sent with
        forwards | ⟨row, member, delivered⟩
      · exact absurd (sound.plain frame forwards) (by simp [delivers])
      · exact ⟨row, sound.recorded row member, delivered⟩
  | coreReader =>
      have plain := (session.stepReader_cases meets).ordinary sent
      exact absurd plain (by simp [delivers])

end ProxySession

/-! ## The frame by the deliveries -/

/-- The frame a session sends in an event. -/
def sentBy (event : HandoffEvent) : Option Frame :=
  match event.output with
  | .bridge _ shown => ProxySession.sentOf shown
  | _ => none

/-- The frame a session hears from its device in an event. -/
def heardBy (event : HandoffEvent) : Option Frame :=
  match event.output with
  | .bridge _ shown => ProxySession.heardOf shown
  | _ => none

/-- A client hears no delivery but one a session has sent, and devices send
none. -/
structure Carried (earlier : List HandoffEvent) (event : HandoffEvent) :
    Prop where
  ordinary : ∀ frame ∈ heardBy event, isDelivery frame = false
  carried :
    ∀ frame ∈ acceptedBy event, isDelivery frame = true →
      frame ∈ earlier.filterMap sentBy

instance (earlier : List HandoffEvent) (event : HandoffEvent) :
    Decidable (Carried earlier event) :=
  decidable_of_iff
    ((∀ frame ∈ heardBy event, isDelivery frame = false) ∧
      ∀ frame ∈ acceptedBy event, isDelivery frame = true →
        frame ∈ earlier.filterMap sentBy)
    ⟨fun both => ⟨both.1, both.2⟩, fun carried => ⟨carried.1, carried.2⟩⟩

namespace Handoff

/-- What a client does leaves the sessions alone. -/
theorem session_stepClient
    {handoff : Handoff}
    {number other : Nat}
    {link after : HandoffLink}
    {action : ClientAction}
    (here : handoff.links number = some link)
    (there :
      (handoff.stepClient number link action).1.links other = some after) :
    ∃ before, handoff.links other = some before ∧
      after.session = before.session := by
  have set
      {changed : HandoffLink}
      (there : (handoff.setLink number changed).links other = some after)
      (same : changed.session = link.session) :
      ∃ before, handoff.links other = some before ∧
        after.session = before.session := by
    by_cases own : other = number
    · obtain rfl : changed = after := by simpa [setLink, own] using there
      exact ⟨link, own ▸ here, same⟩
    · exact ⟨after, by simpa [setLink, own] using there, rfl⟩
  cases action with
  | command messageType sequence payload cut =>
      simp only [stepClient] at there
      split at there
      · split_ifs at there
        · exact set there (by cases cut <;> rfl)
        · exact ⟨after, there, rfl⟩
      · exact ⟨after, there, rfl⟩
  | resolve resolution =>
      simp only [stepClient] at there
      split at there
      · exact set there rfl
      · exact ⟨after, there, rfl⟩
  | confirm cut =>
      simp only [stepClient] at there
      split at there
      · split at there
        · split_ifs at there
          · exact set there (by cases cut <;> rfl)
          · exact set there rfl
        · exact set there rfl
      · exact ⟨after, there, rfl⟩
  | accept | answered | giveUp | close => exact set there rfl

/-- What a step of the system makes of a session. -/
inductive Sessions
    (handoff : Handoff)
    (event : HandoffEvent)
    (number : Nat) :
    ProxySession → Prop where
  | begins (session : ProxySession)
      (fresh : session.serialLoop = .looping) :
      Sessions handoff event number session
  | stays (link : HandoffLink)
      (here : handoff.links number = some link) :
      Sessions handoff event number link.session
  | steps (link : HandoffLink)
      (choice : Choice)
      (here : handoff.links number = some link)
      (spool :
        event.target.spool =
          (ProxySession.machine.step
            { link.session with spool := handoff.spool } choice).1.spool)
      (shown :
        event.output =
          .bridge number
            (ProxySession.machine.step
              { link.session with spool := handoff.spool } choice).2) :
      Sessions handoff event number
        (ProxySession.machine.step
          { link.session with spool := handoff.spool } choice).1

/-- Every step of the system makes one of these of a session. -/
theorem sessions_event
    (handoff : Handoff)
    (input : HandoffInput)
    {number : Nat}
    {link : HandoffLink}
    (here : (machine.event handoff input).target.links number = some link) :
    Sessions handoff (machine.event handoff input) number link.session := by
  cases input with
  | connect other connectionId sourceConnectionId =>
      simp only [Machine.event, machine] at here ⊢
      split at here
      · by_cases own : number = other
        · obtain rfl : HandoffLink.fresh handoff.spool connectionId
              sourceConnectionId = link := by
            simpa [setLink, own] using here
          exact .begins _ rfl
        · exact .stays link (by simpa [setLink, own] using here)
      · exact .stays link here
  | bridge other choice =>
      cases there : handoff.links other with
      | none =>
          simp only [Machine.event, machine, there] at here
          exact .stays link here
      | some current =>
          simp only [Machine.event, machine, there, stepBridge] at here ⊢
          split_ifs at here ⊢
          · by_cases own : number = other
            · subst own
              obtain rfl := Option.some.inj
                ((Function.update_self number _ handoff.links).symm.trans here)
              exact .steps current choice there rfl rfl
            · exact .stays link (by simpa [setLink, own] using here)
          · exact .stays link here
  | client other action =>
      cases there : handoff.links other with
      | none =>
          simp only [Machine.event, machine, there] at here
          exact .stays link here
      | some current =>
          simp only [Machine.event, machine, there] at here
          obtain ⟨before, same, session⟩ := session_stepClient there here
          rw [session]
          exact .stays before same
  | reopen tombstoneLimit =>
      simp only [Machine.event, machine] at here
      split at here <;> exact .stays link here
  | transact transaction => exact .stays link here

/-- What a session shows in an event is shown by a session there is. -/
theorem shown_event
    (handoff : Handoff)
    (input : HandoffInput)
    {number : Nat}
    {shown : Shown}
    (output : (machine.event handoff input).output = .bridge number shown) :
    ∃ link choice, handoff.links number = some link ∧
      shown =
        (ProxySession.machine.step
          { link.session with spool := handoff.spool } choice).2 := by
  cases input with
  | connect =>
      simp only [Machine.event, machine] at output
      split at output <;> cases output
  | bridge other choice =>
      cases there : handoff.links other with
      | none =>
          simp only [Machine.event, machine, there] at output
          cases output
      | some link =>
          simp only [Machine.event, machine, there, stepBridge] at output ⊢
          split_ifs at output ⊢
          obtain ⟨rfl, rfl⟩ := HandoffOutput.bridge.inj output
          exact ⟨link, choice, there, rfl⟩
  | client other action =>
      cases there : handoff.links other with
      | none =>
          simp only [Machine.event, machine, there] at output
          cases output
      | some link =>
          simp only [Machine.event, machine, there] at output
          cases action with
          | accept | answered | giveUp | close => cases output
          | command | resolve | confirm =>
              simp only [stepClient] at output
              repeat' split at output
              all_goals cases output
  | reopen tombstoneLimit =>
      simp only [Machine.event, machine] at output
      split at output <;> cases output
  | transact transaction => cases output

/-- What a delivery names is a record, and its frame is the one of the record. -/
theorem record_of_delivers
    {row : PendingCapture}
    {frame : Frame}
    {delivery : BridgeCaptureDelivery}
    (delivers : Delivers row frame)
    (decoded : BridgeCaptureDelivery.decode frame.payload = .ok delivery) :
    (delivery.spoolRecordId.toNat : Int) = row.recordId ∧
      delivery.innerFrame = row.innerFrame := by
  obtain ⟨connectionId, sequence, built⟩ := delivers
  obtain ⟨-, -, message, same, recordId, innerFrame⟩ :=
    decode_deliveryFrame built
  obtain rfl := Except.ok.inj (same.symm.trans decoded)
  exact ⟨recordId, innerFrame⟩

/-- The sessions deliver records, and the clients get nothing else. -/
structure Delivering (record : List HandoffEvent) (handoff : Handoff) :
    Prop where
  ledger : Ledger record handoff
  loops :
    ∀ number link, handoff.links number = some link →
      LoopSound record handoff.spool link.session.serialLoop
  sent :
    ∀ frame ∈ record.filterMap sentBy, isDelivery frame = true →
      ∃ row, Recorded record handoff.spool row ∧ Delivers row frame
  accepted :
    ∀ delivery, Accepted record delivery →
      ∃ row, Recorded record handoff.spool row ∧
        (delivery.spoolRecordId.toNat : Int) = row.recordId ∧
        delivery.innerFrame = row.innerFrame

namespace Delivering

variable {record : List HandoffEvent} {handoff : Handoff}
  {input : HandoffInput}

/-- Before the first connection nothing has been delivered. -/
theorem start (tombstoneLimit : Int) :
    Delivering [] (Handoff.start (.empty tombstoneLimit)) where
  ledger := .start tombstoneLimit
  loops number link here := by simp [Handoff.start] at here
  sent _ member := absurd member List.not_mem_nil
  accepted _ accepted := by
    obtain ⟨_, member, _⟩ := accepted
    exact absurd member List.not_mem_nil

/-- What a step of the system makes of a sound loop is sound. -/
theorem loops_event
    (delivering : Delivering record handoff)
    (carried : Carried record (machine.event handoff input))
    {number : Nat}
    {link : HandoffLink}
    (here : (machine.event handoff input).target.links number = some link) :
    LoopSound (record ++ [machine.event handoff input])
      (machine.event handoff input).target.spool link.session.serialLoop := by
  have sessions := sessions_event handoff input here
  generalize link.session = session at sessions
  cases sessions with
  | begins session fresh =>
      rw [fresh]
      exact ⟨nofun, nofun⟩
  | stays before there =>
      have sound := delivering.loops number before there
      exact ⟨fun row member => (sound.recorded row member).concat, sound.plain⟩
  | steps before choice there spool shown =>
      refine ProxySession.loopSound_step ?_ spool ?_
      · exact delivering.loops number before there
      · intro frame heard
        refine carried.ordinary frame ?_
        rw [heardBy, shown]
        exact heard

/-- What is sent as a delivery is one of a record. -/
theorem sent_event
    (delivering : Delivering record handoff)
    {frame : Frame}
    (sent : sentBy (machine.event handoff input) = some frame)
    (delivers : isDelivery frame = true) :
    ∃ row, Recorded record handoff.spool row ∧ Delivers row frame := by
  unfold sentBy at sent
  split at sent
  · rename_i number shown output
    obtain ⟨link, choice, here, rfl⟩ := shown_event handoff input output
    have sound : LoopSound record handoff.spool
        { link.session with spool := handoff.spool }.serialLoop :=
      delivering.loops number link here
    exact ProxySession.delivers_step sound sent delivers
  · cases sent

/-- What a client takes in is a delivery of a record. -/
theorem accepted_event
    (delivering : Delivering record handoff)
    (carried : Carried record (machine.event handoff input))
    {delivery : BridgeCaptureDelivery}
    (accepted : Accepted (record ++ [machine.event handoff input]) delivery) :
    ∃ row, Recorded record handoff.spool row ∧
      (delivery.spoolRecordId.toNat : Int) = row.recordId ∧
      delivery.innerFrame = row.innerFrame := by
  obtain ⟨event, member, frame, heard, delivers, decoded⟩ := accepted
  rcases List.mem_append.1 member with old | last
  · exact delivering.accepted delivery
      ⟨event, old, frame, heard, delivers, decoded⟩
  · obtain rfl := List.mem_singleton.1 last
    obtain ⟨row, recorded, delivered⟩ :=
      delivering.sent frame (carried.carried frame heard delivers) delivers
    exact ⟨row, recorded, record_of_delivers delivered decoded⟩

/-- Every step of a system without forged deliveries keeps to the records. -/
theorem event
    (delivering : Delivering record handoff)
    (carried : Carried record (machine.event handoff input)) :
    Delivering (record ++ [machine.event handoff input])
      (machine.event handoff input).target where
  ledger := delivering.ledger.event input
  loops number link here := delivering.loops_event carried here
  sent frame member delivers := by
    rw [List.filterMap_append, List.mem_append] at member
    have recorded :
        ∃ row, Recorded record handoff.spool row ∧ Delivers row frame := by
      rcases member with old | new
      · exact delivering.sent frame old delivers
      · obtain ⟨last, isLast, sent⟩ := List.mem_filterMap.1 new
        obtain rfl := List.mem_singleton.1 isLast
        exact delivering.sent_event sent delivers
    obtain ⟨row, before, delivered⟩ := recorded
    exact ⟨row, before.concat, delivered⟩
  accepted delivery accepted := by
    obtain ⟨row, before, same⟩ := delivering.accepted_event carried accepted
    exact ⟨row, before.concat, same⟩

end Delivering

/--
No capture is lost: over every run from a new spool in which the clients hear no
deliveries but those the sessions have sent, a record that has ever been in the
spool is in the spool at the end, unchanged, or the core has stored a decision
about a frame with its identity, the CRC and the SHA-256 of its frame.
-/
theorem pending_or_decided
    (tombstoneLimit : Int)
    (inputs : List HandoffInput)
    (carried :
      EveryStep Carried
        (machine.trace (start (.empty tombstoneLimit)) inputs)) :
    ∀ event ∈ machine.trace (start (.empty tombstoneLimit)) inputs,
      ∀ row ∈ event.source.spool.pending.rows,
        row ∈ (machine.after (start (.empty tombstoneLimit))
            inputs).spool.pending.rows ∨
          Settled (machine.trace (start (.empty tombstoneLimit)) inputs) row.key
            (Frame.crc32IsoHdlc row.innerFrame)
            (Sha256.digest row.innerFrame) := by
  have delivering :=
    machine.invariant_after Delivering (Delivering.start tombstoneLimit)
      (fun _ _ _ delivering carried => delivering.event carried) inputs carried
  intro event member row pending
  have recorded :
      Recorded (machine.trace (start (.empty tombstoneLimit)) inputs)
        (machine.after (start (.empty tombstoneLimit)) inputs).spool row :=
    .inr ⟨event, member, pending⟩
  rcases delivering.ledger.accounted row recorded with
    stays | ⟨receipt, own, delivery, capture, rfl, accepted, settled⟩
  · exact .inl stays
  · obtain ⟨named, there, recordId, innerFrame⟩ :=
      delivering.accepted delivery accepted
    obtain rfl : named = row := by
      apply delivering.ledger.unique named row there recorded
      rw [← recordId]
      exact congrArg Receipt.recordId own
    have key : CaptureKey.ofCapture capture = named.key :=
      congrArg Receipt.key own
    rw [key, innerFrame] at settled
    exact .inr settled

set_option maxRecDepth 100000 in
/-- The record is gone, and its frame is decided about. -/
theorem decided_handedOver :
    (machine.after (start (.empty 4096)) handedOver).spool.pending.rows = [] ∧
      ∀ event ∈ machine.trace (start (.empty 4096)) handedOver,
        ∀ row ∈ event.source.spool.pending.rows,
          row ∈ (machine.after (start (.empty 4096))
              handedOver).spool.pending.rows ∨
            Settled (machine.trace (start (.empty 4096)) handedOver) row.key
              (Frame.crc32IsoHdlc row.innerFrame)
              (Sha256.digest row.innerFrame) :=
  ⟨by decide +kernel,
    pending_or_decided 4096 handedOver (by decide +kernel)⟩

end Handoff

end Usac.Bridge
