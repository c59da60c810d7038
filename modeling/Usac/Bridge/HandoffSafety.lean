import Usac.Bridge.DeliveryExclusivity
import Usac.Bridge.Handoff
import Usac.Bridge.SpoolFrame
import Usac.Host.FrameFormat
import Usac.Library.Framing

namespace Usac.Bridge

open Library Host

/-!
# No capture is lost in the handoff

The spool gives up a record only to a receipt of the core, and the core sends a
receipt only for a frame it has decided about. Between the two lie the stream of
the connection, which may break within a receipt, and the store, which may have
forgotten the decision by then.
-/

/-! ## Decisions in a record of the system -/

/-- The decision an event of the system makes. -/
def decisionOf (event : HandoffEvent) : Option CaptureStore.NewDecision :=
  match event.output with
  | .stored stored => CaptureStore.newDecision? stored
  | _ => none

/-- The key of a capture in the spool. -/
def CaptureKey.ofIdentity (identity : CaptureIdentity) : CaptureKey where
  deviceId := identity.device.deviceId.toList
  bootId := identity.device.bootId.toList
  captureId := identity.captureId.toList

/-- The event has put a decision about a frame into the store. -/
def Decides
    (event : HandoffEvent)
    (key : CaptureKey)
    (innerFrameCrc32 : UInt32) :
    Prop :=
  ∃ decision, decisionOf event = some decision ∧
    .ofCapture decision.capture = key ∧
    Frame.crc32IsoHdlc decision.delivery.innerFrame = innerFrameCrc32 ∧
    ∃ row ∈ event.target.store.tombstones.rows,
      CaptureStore.RecordOf event.source.store decision row

/-- A frame with this identity and this CRC has been decided about. -/
def Decided
    (record : List HandoffEvent)
    (key : CaptureKey)
    (innerFrameCrc32 : UInt32) :
    Prop :=
  ∃ event ∈ record, Decides event key innerFrameCrc32

/-- The frame a receipt is for has been decided about. -/
def Backed
    (record : List HandoffEvent)
    (receipt : CaptureCommittedRequest) :
    Prop :=
  Decided record (receiptOf receipt).key receipt.innerFrameCrc32

/-- The event has put a decision about a frame with this SHA-256 into the
store. -/
def Settles
    (event : HandoffEvent)
    (key : CaptureKey)
    (innerFrameCrc32 : UInt32)
    (innerFrameSha256 : Bytes 32) :
    Prop :=
  ∃ decision, decisionOf event = some decision ∧
    .ofCapture decision.capture = key ∧
    Frame.crc32IsoHdlc decision.delivery.innerFrame = innerFrameCrc32 ∧
    Sha256.digest decision.delivery.innerFrame = innerFrameSha256 ∧
    ∃ row ∈ event.target.store.tombstones.rows,
      CaptureStore.RecordOf event.source.store decision row

/-- A frame with this identity, this CRC and this SHA-256 has been decided
about. -/
def Settled
    (record : List HandoffEvent)
    (key : CaptureKey)
    (innerFrameCrc32 : UInt32)
    (innerFrameSha256 : Bytes 32) :
    Prop :=
  ∃ event ∈ record, Settles event key innerFrameCrc32 innerFrameSha256

/-- The frame a client hears in an event. -/
def acceptedBy (event : HandoffEvent) : Option Frame :=
  match event.input with
  | .client _ (.accept frame) => some frame
  | _ => none

/-- A client has taken in the delivery. -/
def Accepted
    (record : List HandoffEvent)
    (delivery : BridgeCaptureDelivery) :
    Prop :=
  ∃ event ∈ record, ∃ frame, acceptedBy event = some frame ∧
    isDelivery frame = true ∧
    BridgeCaptureDelivery.decode frame.payload = .ok delivery

/-- The receipt is for a delivery a client has taken in, and the frame in it is
like one that has been decided about. -/
def Vouched
    (record : List HandoffEvent)
    (receipt : CaptureCommittedRequest) :
    Prop :=
  ∃ delivery capture,
    receipt = CaptureStore.receipt delivery capture ∧
      Accepted record delivery ∧
      Settled record (.ofCapture capture)
        (Frame.crc32IsoHdlc delivery.innerFrame)
        (Sha256.digest delivery.innerFrame)

section Decisions

variable {record : List HandoffEvent}

/-- A decision stays made. -/
theorem Settled.concat
    {key : CaptureKey}
    {innerFrameCrc32 : UInt32}
    {innerFrameSha256 : Bytes 32}
    (settled : Settled record key innerFrameCrc32 innerFrameSha256)
    (event : HandoffEvent) :
    Settled (record ++ [event]) key innerFrameCrc32 innerFrameSha256 := by
  obtain ⟨past, member, settles⟩ := settled
  exact ⟨past, List.mem_append_left _ member, settles⟩

/-- A decision about a frame with this SHA-256 is one with this CRC. -/
theorem Settled.decided
    {key : CaptureKey}
    {innerFrameCrc32 : UInt32}
    {innerFrameSha256 : Bytes 32}
    (settled : Settled record key innerFrameCrc32 innerFrameSha256) :
    Decided record key innerFrameCrc32 := by
  obtain ⟨past, member, decision, made, sameKey, crc, -, recorded⟩ := settled
  exact ⟨past, member, decision, made, sameKey, crc, recorded⟩

/-- A delivery stays taken in. -/
theorem Accepted.concat
    {delivery : BridgeCaptureDelivery}
    (accepted : Accepted record delivery)
    (event : HandoffEvent) :
    Accepted (record ++ [event]) delivery := by
  obtain ⟨past, member, accepts⟩ := accepted
  exact ⟨past, List.mem_append_left _ member, accepts⟩

/-- What a receipt rests on stays. -/
theorem Vouched.concat
    {receipt : CaptureCommittedRequest}
    (vouched : Vouched record receipt)
    (event : HandoffEvent) :
    Vouched (record ++ [event]) receipt := by
  obtain ⟨delivery, capture, same, accepted, settled⟩ := vouched
  exact ⟨delivery, capture, same, accepted.concat event, settled.concat event⟩

/-- A receipt that is vouched for is backed by a decision. -/
theorem Vouched.backed
    {receipt : CaptureCommittedRequest}
    (vouched : Vouched record receipt) :
    Backed record receipt := by
  obtain ⟨delivery, capture, rfl, -, settled⟩ := vouched
  exact settled.decided

end Decisions

/-! ## The store -/

/-- Every decision the store remembers has been made in the record. -/
structure Remembers
    (record : List HandoffEvent)
    (store : CaptureStore) :
    Prop where
  numbered : store.Numbered
  known :
    ∀ row ∈ store.tombstones.rows,
      Settled record (.ofIdentity row.identity) row.innerFrameCrc32
        row.innerFrameSha256

/-- Nothing has been decided in a new store. -/
theorem Remembers.empty : Remembers [] .empty :=
  ⟨nofun, nofun⟩

/-- An event that leaves the store alone. -/
theorem Remembers.concat
    {record : List HandoffEvent}
    {store : CaptureStore}
    (remembers : Remembers record store)
    (event : HandoffEvent) :
    Remembers (record ++ [event]) store :=
  ⟨remembers.numbered,
    fun row member => (remembers.known row member).concat event⟩

/-- The event is a transaction of the core. -/
structure Stores
    (event : HandoffEvent)
    (transaction : Transaction) :
    Prop where
  output :
    event.output =
      .stored (CaptureStore.machine.event event.source.store transaction)
  target :
    event.target.store =
      (CaptureStore.machine.event event.source.store transaction).target

section Store

variable {record : List HandoffEvent} {event : HandoffEvent}
  {transaction : Transaction}

/-- The decision of the event is that of its transaction. -/
theorem Stores.made
    (stores : Stores event transaction) :
    decisionOf event =
      CaptureStore.newDecision?
        (CaptureStore.machine.event event.source.store transaction) := by
  rw [decisionOf, stores.output]

/-- A decision in the log of the store is a decision of the event. -/
theorem settles_of_logged
    {decision : CaptureStore.NewDecision}
    (made : decisionOf event = some decision)
    (decides :
      CaptureStore.Decides event.source.store decision event.target.store) :
    Settles event (.ofCapture decision.capture)
      (Frame.crc32IsoHdlc decision.delivery.innerFrame)
      (Sha256.digest decision.delivery.innerFrame) :=
  ⟨decision, made, rfl, rfl, rfl, decides.recorded⟩

/-- The store goes on remembering only what has been decided. -/
theorem Remembers.stores
    (remembers : Remembers record event.source.store)
    (stores : Stores event transaction) :
    Remembers (record ++ [event]) event.target.store := by
  have logs :
      CaptureStore.Logs event.source.store event.target.store
        (decisionOf event) := by
    rw [stores.made, stores.target]
    exact CaptureStore.step_logs remembers.numbered transaction
  refine ⟨remembers.numbered.logs logs, ?_⟩
  have kept
      {old row : ResolutionTombstone}
      (member : old ∈ event.source.store.tombstones.rows)
      (same : CaptureStore.Reclassified old row) :
      Settled (record ++ [event]) (.ofIdentity row.identity)
        row.innerFrameCrc32 row.innerFrameSha256 := by
    obtain ⟨_, rfl⟩ := same
    exact (remembers.known old member).concat event
  generalize made : decisionOf event = new at logs
  intro row member
  cases logs with
  | unchanged reclassifies =>
      obtain ⟨old, oldMember, same⟩ := reclassifies.known row member
      exact kept oldMember same
  | decided decision decides =>
      rcases decides.known row member with ⟨old, oldMember, same⟩ | recorded
      · exact kept oldMember same
      · obtain ⟨_, rfl⟩ := recorded
        exact ⟨event, List.mem_append_right _ (List.mem_singleton_self _),
          settles_of_logged made decides⟩

end Store

/-! ## Receipts of the store -/

section Receipts

variable {store next : CaptureStore} {delivery : BridgeCaptureDelivery}
  {capture : CaptureData} {existing : ResolutionTombstone}
  {result : CoreCommitResult}

/-- A prior decision is confirmed only to a frame with its CRC and its
SHA-256. -/
theorem match_of_commitDelivery
    {savePolicy : SavePolicy}
    {sessionId : Option SessionId}
    {groupId : Option GroupId}
    (committed :
      store.commitDelivery delivery savePolicy sessionId groupId =
        .ok (next, result))
    (delivered : CaptureStore.deliveredCapture delivery = .ok capture)
    (found : store.tombstones.selectKey capture.identity = some existing) :
    existing.innerFrameCrc32 = Frame.crc32IsoHdlc delivery.innerFrame ∧
      existing.innerFrameSha256 = Sha256.digest delivery.innerFrame := by
  obtain ⟨⟨⟩, -, committed⟩ := bind_eq_ok.1 committed
  obtain ⟨same, decoded, committed⟩ := bind_eq_ok.1 committed
  obtain rfl := Except.ok.inj (delivered.symm.trans decoded)
  obtain ⟨⟨⟩, -, decided⟩ := bind_eq_ok.1 committed
  simp only [found] at decided
  obtain ⟨prior, checks, -⟩ := bind_eq_ok.1 decided
  obtain ⟨⟨⟩, checked, -⟩ := bind_eq_ok.1 checks
  exact require_eq_ok.1 checked

/-- What a resolution that returns a receipt has found or done. -/
inductive Resolves
    (store : CaptureStore)
    (transaction : Transaction)
    (delivery : BridgeCaptureDelivery)
    (capture : CaptureData) :
    Prop where
  | known
      (existing : ResolutionTombstone)
      (member : existing ∈ store.tombstones.rows)
      (identity : existing.identity = capture.identity)
      (matching :
        existing.innerFrameCrc32 = Frame.crc32IsoHdlc delivery.innerFrame ∧
          existing.innerFrameSha256 = Sha256.digest delivery.innerFrame)
  | new
      (sessionId : Option SessionId)
      (decides :
        store.decides? transaction = some ⟨delivery, capture, sessionId⟩)

/-- A resolution returns the receipt of its delivery, and only after a
decision. -/
theorem resolves_of_perform
    {resolution : Resolution}
    (performed :
      (resolution.transaction delivery).perform store =
        .ok (next, some result)) :
    ∃ capture, result.receipt = CaptureStore.receipt delivery capture ∧
      Resolves store (resolution.transaction delivery) delivery capture := by
  cases resolution with
  | persist savePolicy sessionId groupId =>
      obtain ⟨⟨committed, committedResult⟩, commits, final⟩ :=
        bind_eq_ok.1 performed
      obtain ⟨rfl, same⟩ := Prod.mk.inj (Except.ok.inj final)
      obtain rfl := Option.some.inj same
      obtain ⟨capture, delivered, done⟩ :=
        CaptureStore.commitDelivery_commits commits
      cases done with
      | repeated existing found _ =>
          obtain ⟨member, identity⟩ :=
            store.tombstones.selectKey_eq_some.1 found
          exact ⟨capture, rfl, .known existing member identity
            (match_of_commitDelivery commits delivered found)⟩
      | decided undecided _ _ _ _ =>
          refine ⟨capture, rfl, .new sessionId ?_⟩
          simp only [Resolution.transaction, CaptureStore.decides?,
            CaptureStore.undecided?_of_none delivered undecided,
            Option.map_some]
  | replay =>
      obtain ⟨⟨committed, committedResult⟩, commits, final⟩ :=
        bind_eq_ok.1 performed
      obtain ⟨rfl, same⟩ := Prod.mk.inj (Except.ok.inj final)
      obtain rfl := Option.some.inj same
      obtain ⟨capture, delivered, done⟩ :=
        CaptureStore.commitReplayedDelivery_replays commits
      have decides
          (undecided : store.tombstones.selectKey capture.identity = none)
          {context : DeliveryPolicyContext}
          (registered : store.context? capture.device = some context) :
          store.decides? (Resolution.replay.transaction delivery) =
            some ⟨delivery, capture, context.sessionId⟩ := by
        simp only [Resolution.transaction, CaptureStore.decides?,
          CaptureStore.undecided?_of_none delivered undecided,
          Option.bind_some, registered, Option.map_some]
      cases done with
      | repeated existing found _ =>
          obtain ⟨member, identity⟩ :=
            store.tombstones.selectKey_eq_some.1 found
          obtain ⟨same, decoded, commits⟩ := bind_eq_ok.1 commits
          obtain rfl := Except.ok.inj (delivered.symm.trans decoded)
          simp only [found] at commits
          exact ⟨capture, rfl, .known existing member identity
            (match_of_commitDelivery commits delivered found)⟩
      | direct undecided context registered _ commits =>
          have receipt :
              committedResult.receipt =
                CaptureStore.receipt delivery capture := by
            cases commits <;> rfl
          exact ⟨capture, receipt, .new _ (decides undecided registered)⟩
      | late undecided context registered _ _ commits =>
          have receipt :
              committedResult.receipt =
                CaptureStore.receipt delivery capture := by
            cases commits
            rfl
          exact ⟨capture, receipt, .new _ (decides undecided registered)⟩

/-- A receipt of the store is for a frame that has been decided about. -/
theorem Remembers.vouches
    {record : List HandoffEvent}
    {event : HandoffEvent}
    {resolution : Resolution}
    (remembers : Remembers record event.source.store)
    (stores : Stores event (resolution.transaction delivery))
    (accepted : Accepted record delivery)
    (returned :
      (CaptureStore.machine.event event.source.store
        (resolution.transaction delivery)).output = .ok (some result)) :
    Vouched (record ++ [event]) result.receipt := by
  rcases performed :
      (resolution.transaction delivery).perform event.source.store with
    raised | ⟨next, outcome⟩
  · simp [Machine.event, CaptureStore.machine, performed] at returned
  obtain rfl : outcome = some result := by
    simpa [Machine.event, CaptureStore.machine, performed] using returned
  obtain ⟨capture, receipt, resolves⟩ := resolves_of_perform performed
  refine ⟨delivery, capture, receipt, accepted.concat event, ?_⟩
  cases resolves with
  | known existing member identity matching =>
      have settled := (remembers.known existing member).concat event
      rw [identity, matching.1, matching.2] at settled
      exact settled
  | new sessionId decides =>
      have made : decisionOf event = some ⟨delivery, capture, sessionId⟩ := by
        rw [stores.made, CaptureStore.newDecision?]
        simp only [Machine.event, CaptureStore.machine, performed]
        exact decides
      have logs :=
        CaptureStore.step_logs remembers.numbered
          (resolution.transaction delivery)
      rw [← stores.made, ← stores.target, made] at logs
      cases logs with
      | decided _ logged =>
          exact ⟨event, List.mem_append_right _ (List.mem_singleton_self _),
            settles_of_logged made logged⟩

end Receipts

/-! ## The stream of a connection -/

section Stream

variable {frame : Frame} {wire held chunk : List UInt8}

/-- What the header of a frame says of its length. -/
theorem length_of_encode
    (encoded : frame.encode = .ok wire) :
    wire.length =
        Frame.headerSize + (readU32 wire 12).toNat + Frame.crcSize ∧
      (readU32 wire 12).toNat ≤ Frame.hostMaxPayloadLength := by
  have decoded := Frame.decode_of_encode encoded
  have sized := (Frame.accepted_of_decode decoded).sized
  obtain ⟨⟨⟩, -, decoded⟩ := bind_eq_ok.1 decoded
  obtain ⟨⟨⟩, -, decoded⟩ := bind_eq_ok.1 decoded
  obtain ⟨⟨⟩, short, -⟩ := bind_eq_ok.1 decoded
  exact ⟨sized, require_eq_ok.1 short⟩

/-- With the header of a frame all of its length is known. -/
theorem expectedSize_of_encode
    (encoded : frame.encode = .ok wire)
    (front : held <+: wire ∨ wire <+: held)
    (header : Frame.headerSize ≤ held.length) :
    expectedSize held = wire.length ∧
      readU32 held 12 = readU32 wire 12 := by
  obtain ⟨sized, -⟩ := length_of_encode encoded
  have same : readU32 held 12 = readU32 wire 12 := by
    rcases front with ⟨rest, rfl⟩ | ⟨rest, rfl⟩
    · exact (readU32_append_left
        (by simpa [Frame.headerSize] using header)).symm
    · apply readU32_append_left
      rw [sized, Frame.headerSize]
      omega
  refine ⟨?_, same⟩
  rw [expectedSize, if_neg (Nat.not_lt.2 header), same, sized]

/-- A frame tells a reader where it ends. -/
theorem delimited_of_encode
    (encoded : frame.encode = .ok wire) :
    Delimited expectedSize wire where
  unfinished held front unfinished := by
    have shorter : held.length < wire.length := by
      refine lt_of_le_of_ne front.length_le fun same => unfinished ?_
      exact front.eq_of_length same
    by_cases header : Frame.headerSize ≤ held.length
    · rw [(expectedSize_of_encode encoded (.inl front) header).1]
      exact shorter
    · rw [expectedSize, if_pos (Nat.not_le.1 header)]
      exact Nat.not_le.1 header
  within held front := by
    by_cases header : Frame.headerSize ≤ held.length
    · exact (expectedSize_of_encode encoded front header).1.le
    · rw [expectedSize, if_pos (Nat.not_le.1 header),
        (length_of_encode encoded).1]
      omega

/-- A round of reading within a frame goes on, or has the frame. -/
theorem assemble_front
    (source : String)
    (encoded : frame.encode = .ok wire)
    (front : held ++ chunk <+: wire)
    (asked : chunk.length ≤ expectedSize held - held.length) :
    assemble source held chunk =
      .ok (held ++ chunk,
        if held ++ chunk = wire then some frame else none) := by
  have delimited := delimited_of_encode encoded
  have limited :
      (held ++ chunk).length < Frame.headerSize ∨
        (readU32 (held ++ chunk) 12).toNat ≤ Frame.hostMaxPayloadLength := by
    rcases Nat.lt_or_ge (held ++ chunk).length Frame.headerSize with
      short | header
    · exact .inl short
    · rw [(expectedSize_of_encode encoded (.inl front) header).2]
      exact .inr (length_of_encode encoded).2
  unfold assemble
  simp only [List.take_of_length_le asked, limited, require_true, ok_bind]
  by_cases whole : held ++ chunk = wire
  · have complete : ¬wire.length < expectedSize wire :=
      Nat.not_lt.2 (delimited.within wire (.inl List.prefix_rfl))
    rw [whole, if_neg complete, Frame.decode_of_encode encoded, if_pos rfl]
    rfl
  · rw [if_pos (delimited.unfinished _ front whole), if_neg whole]
    rfl

end Stream

/-! ## One connection -/

/-- What the reader holds of a frame. -/
def CoreReader.held : CoreReader → List UInt8
  | .receiving raw => raw
  | _ => []

/-- The delivery a client is busy with. -/
def CoreClient.pending : CoreClient → Option HeldDelivery
  | .ready | .closed => none
  | .holding held | .resolved held _ | .confirming held => some held

/-- A frame that hands no receipt to the spool but one for a decision. -/
def Trusted (record : List HandoffEvent) (wire : List UInt8) : Prop :=
  ∃ frame : Frame, frame.encode = .ok wire ∧
    ∀ receipt, frame.messageType = .captureCommitted →
      CaptureCommittedRequest.decode frame.payload = .ok receipt →
        Vouched record receipt

/-- Every receipt on a connection is for a decision: the one the client is about
to send, those on their way, and the one the session is about to use. -/
structure LinkSound
    (record : List HandoffEvent)
    (reader : CoreReader)
    (client : CoreClient)
    (incoming : List UInt8) :
    Prop where
  pending :
    ∀ held, client.pending = some held → Accepted record held.2.1
  resolved :
    ∀ held receipt, client = .resolved held receipt → Vouched record receipt
  committing :
    ∀ sequence receipt,
      reader = .committing sequence receipt → Vouched record receipt
  stream :
    ¬reader.Dead →
      InStep (Trusted record) (client ≠ .closed) reader.held incoming

namespace LinkSound

variable {record : List HandoffEvent} {reader : CoreReader}
  {client next : CoreClient} {incoming : List UInt8}

/-- A connection that has just been made. -/
theorem fresh : LinkSound record .looping .ready [] :=
  ⟨nofun, nofun, nofun, fun _ => .nil⟩

/-- One more event. -/
theorem concat
    (sound : LinkSound record reader client incoming)
    (event : HandoffEvent) :
    LinkSound (record ++ [event]) reader client incoming where
  pending held here := (sound.pending held here).concat event
  resolved held receipt here := (sound.resolved held receipt here).concat event
  committing sequence receipt here :=
    (sound.committing sequence receipt here).concat event
  stream alive := by
    apply (sound.stream alive).mono
    rintro wire ⟨frame, encoded, vouched⟩
    exact ⟨frame, encoded, fun receipt isReceipt decoded =>
      (vouched receipt isReceipt decoded).concat event⟩

/-- The client goes on without sending anything, and is open only if it was. -/
theorem goes
    (sound : LinkSound record reader client incoming)
    (accepted : ∀ held, next.pending = some held → Accepted record held.2.1)
    (vouched :
      ∀ held receipt, next = .resolved held receipt → Vouched record receipt)
    (stays : next ≠ .closed → client ≠ .closed) :
    LinkSound record reader next incoming where
  pending := accepted
  resolved := vouched
  committing := sound.committing
  stream alive := (sound.stream alive).weaken stays

/-- The client goes on without a receipt. -/
theorem goes_without
    (sound : LinkSound record reader client incoming)
    (inherits : ∀ held, next.pending = some held → client.pending = some held)
    (unresolved : ∀ held receipt, next ≠ .resolved held receipt)
    (stays : next ≠ .closed → client ≠ .closed) :
    LinkSound record reader next incoming :=
  sound.goes (fun held here => sound.pending held (inherits held here))
    (fun held receipt here => absurd here (unresolved held receipt)) stays

/-- The client sends a frame, as a whole or in part. -/
theorem sends
    {link : HandoffLink}
    {wire : List UInt8}
    (sound :
      LinkSound record link.session.coreReader link.client link.incoming)
    (isOpen : link.client ≠ .closed)
    (trusted : Trusted record wire)
    (inherits :
      ∀ held, next.pending = some held → link.client.pending = some held)
    (unresolved : ∀ held receipt, next ≠ .resolved held receipt)
    (cut : Option Nat) :
    LinkSound record (link.send wire cut next).session.coreReader
      (link.send wire cut next).client (link.send wire cut next).incoming := by
  cases cut with
  | none =>
      refine ⟨fun held here => sound.pending held (inherits held here),
        fun held receipt here => absurd here (unresolved held receipt),
        sound.committing, fun alive => ?_⟩
      exact (sound.stream alive).write isOpen trusted _
  | some count =>
      refine ⟨nofun, nofun, sound.committing, fun alive => ?_⟩
      exact (sound.stream alive).cut isOpen trusted (List.take_prefix _ _)
        (fun stillOpen => stillOpen rfl)

end LinkSound

/-! ## A step of the session -/

namespace ProxySession

/-- A frame the reader has dispatched is no longer held. -/
theorem held_dispatch (frame : Frame) (raw : List UInt8) :
    (dispatch frame raw).held = [] := by
  unfold dispatch
  split_ifs <;> try rfl
  split <;> rfl

/-- A receipt the reader goes on to use is the one it has received. -/
theorem dispatch_committing
    {frame : Frame}
    {raw : List UInt8}
    {sequence : UInt32}
    {receipt : CaptureCommittedRequest}
    (dispatched : dispatch frame raw = .committing sequence receipt) :
    frame.messageType = .captureCommitted ∧
      CaptureCommittedRequest.decode frame.payload = .ok receipt := by
  unfold dispatch at dispatched
  split_ifs at dispatched with isReceipt
  split at dispatched
  · cases dispatched
  · rename_i decoded same
    obtain ⟨-, rfl⟩ := CoreReader.committing.inj dispatched
    exact ⟨isReceipt, same⟩

/-- What a step of the reader leaves of its place when it reads nothing. -/
inductive Settles (reader : CoreReader) : CoreReader → Prop where
  | stays : Settles reader reader
  | dies {next : CoreReader} (dead : next.Dead) : Settles reader next
  | moves
      {next : CoreReader}
      (alive : ¬reader.Dead)
      (before : reader.held = [])
      (after : next.held = [])
      (uses : ∀ sequence receipt, next ≠ .committing sequence receipt) :
      Settles reader next

/-- Between two frames the reader takes up no receipt. -/
theorem ReaderStep.settles
    {session next : ProxySession}
    {shown : Shown}
    (step : ReaderStep session (next, shown))
    (elsewhere : ∀ raw, session.coreReader ≠ .receiving raw) :
    Settles session.coreReader next.coreReader := by
  cases step with
  | waits => exact .stays
  | reads raw _ here => exact absurd here (elsewhere raw)
  | receives before _ _ here _ => exact absurd here (elsewhere before)
  | leaves | fails | overflows | writeFails | stops => exact .dies trivial
  | begins here | commits _ _ _ _ here _ | responds _ _ _ _ here _
  | finds _ _ here _ | sets _ here | forwards _ here _ | defers _ here _ _
  | locks _ here _ | writes _ _ _ here _ _ | finishes _ _ here _ =>
      refine .moves ?_ ?_ rfl nofun
      · rw [here]
        exact id
      · rw [here]
        rfl

/-- When the reader reads nothing, it takes up no receipt. -/
theorem stepReader_settles
    (session : ProxySession)
    (meets : Meets)
    (reads :
      ∀ raw byte chunk, session.coreReader = .receiving raw →
        meets ≠ .reads (byte :: chunk)) :
    Settles session.coreReader (session.stepReader meets).1.coreReader := by
  rcases here : session.coreReader with
    _ | raw | _ | _ | _ | _ | _ | _ | _ | _ | _
  case receiving =>
    rcases meets with _ | chunk | _ | _ | _ | _
    case reads =>
      rcases chunk with _ | ⟨byte, chunk⟩
      · simp only [stepReader, here]
        exact .dies trivial
      · exact absurd rfl (reads raw byte chunk here)
    case raises =>
      simp only [stepReader, here]
      exact .dies trivial
    all_goals
      simp only [stepReader, here]
      exact .stays
  all_goals
    rw [← here]
    exact (session.stepReader_cases meets).settles (by simp [here])

/-- The serial loop leaves the reader where it is. -/
theorem SerialStep.coreReader
    {session next : ProxySession}
    {shown : Shown}
    (step : SerialStep session (next, shown)) :
    next.coreReader = session.coreReader := by
  cases step <;> rfl

end ProxySession

namespace LinkSound

variable {record : List HandoffEvent} {client : CoreClient}
  {incoming : List UInt8}

/-- A step that reads nothing. -/
theorem settles
    {reader next : CoreReader}
    (sound : LinkSound record reader client incoming)
    (settles : ProxySession.Settles reader next) :
    LinkSound record next client incoming := by
  cases settles with
  | stays => exact sound
  | dies dead =>
      refine ⟨sound.pending, sound.resolved, ?_,
        fun alive => absurd dead alive⟩
      rintro sequence receipt rfl
      exact dead.elim
  | moves alive before after uses =>
      refine ⟨sound.pending, sound.resolved, ?_, fun _ => ?_⟩
      · exact fun sequence receipt here => absurd here (uses sequence receipt)
      · rw [after, ← before]
        exact sound.stream alive

/-- A step that reads a part of a frame. -/
theorem reads
    {session : ProxySession}
    {raw chunk : List UInt8}
    (sound : LinkSound record session.coreReader client incoming)
    (here : session.coreReader = .receiving raw)
    (read : chunk ≠ [])
    (taken : chunk <+: incoming)
    (asked : chunk.length ≤ expectedSize raw - raw.length) :
    LinkSound record
      (session.readCore (assemble "core" raw chunk)).1.coreReader client
      (incoming.drop chunk.length) := by
  have stream :
      InStep (Trusted record) (client ≠ .closed) raw incoming := by
    have alive := sound.stream
    rw [here] at alive
    exact alive id
  have delimited :
      ∀ wire, Trusted record wire → Delimited expectedSize wire := by
    rintro wire ⟨frame, encoded, -⟩
    exact delimited_of_encode encoded
  obtain ⟨wire, ⟨frame, encoded, vouched⟩, front, finished⟩ :=
    stream.reads delimited taken read asked
  rw [assemble_front "core" encoded front asked]
  by_cases whole : raw ++ chunk = wire
  · rw [if_pos whole]
    refine ⟨sound.pending, sound.resolved, ?_, fun _ => ?_⟩
    · intro sequence receipt uses
      obtain ⟨isReceipt, decoded⟩ := ProxySession.dispatch_committing uses
      exact vouched receipt isReceipt decoded
    · have nothing :
          (ProxySession.dispatch frame (raw ++ chunk)).held = [] :=
        ProxySession.held_dispatch frame _
      exact nothing ▸ finished whole
  · rw [if_neg whole]
    exact ⟨sound.pending, sound.resolved, fun _ _ => CoreReader.noConfusion,
      fun _ => stream.advance taken⟩

/-- Every step of the session keeps the connection sound. -/
theorem steps
    {link : HandoffLink}
    {choice : Choice}
    (sound :
      LinkSound record link.session.coreReader link.client link.incoming)
    (offers : link.Offers choice)
    (spool : Spool) :
    LinkSound record
      (ProxySession.machine.step
        { link.session with spool := spool } choice).1.coreReader
      link.client (link.incoming.drop (link.taken choice).length) := by
  obtain ⟨thread, meets⟩ := choice
  obtain ⟨taken, asked⟩ := offers
  cases thread with
  | serialLoop =>
      have nothing : link.taken ⟨.serialLoop, meets⟩ = [] := rfl
      rw [nothing, List.length_nil, List.drop_zero]
      have same :=
        (ProxySession.stepSerial_cases
          { link.session with spool := spool } meets).coreReader
      exact same ▸ sound
  | coreReader =>
      by_cases reads : ∃ raw byte chunk,
          link.session.coreReader = .receiving raw ∧
            meets = .reads (byte :: chunk)
      · obtain ⟨raw, byte, chunk, here, rfl⟩ := reads
        have some : link.taken ⟨.coreReader, .reads (byte :: chunk)⟩ =
            byte :: chunk := by
          simp only [HandoffLink.taken, here]
        rw [some] at taken asked ⊢
        have step :
            ProxySession.machine.step
                { link.session with spool := spool }
                ⟨.coreReader, .reads (byte :: chunk)⟩ =
              ProxySession.readCore { link.session with spool := spool }
                (assemble "core" raw (byte :: chunk)) := by
          simp only [ProxySession.machine, ProxySession.stepReader, here]
        rw [step]
        exact @LinkSound.reads _ _ _ { link.session with spool := spool } _ _
          sound here (List.cons_ne_nil byte chunk) taken (asked raw here)
      · have nothing : (link.taken ⟨.coreReader, meets⟩).length = 0 := by
          unfold HandoffLink.taken
          rcases here : link.session.coreReader <;> rcases meets with
            _ | chunk | _ | _ | _ | _ <;> try rfl
          rcases chunk with _ | ⟨byte, chunk⟩
          · rfl
          · exact absurd ⟨_, byte, chunk, here, rfl⟩ reads
        rw [nothing, List.drop_zero]
        refine sound.settles
          (ProxySession.stepReader_settles
            { link.session with spool := spool } meets ?_)
        rintro raw byte chunk here rfl
        exact reads ⟨raw, byte, chunk, here, rfl⟩

end LinkSound

/-! ## The spool -/

/-- The record a receipt removes is the one it names, as a whole. -/
theorem Spool.removed_of_markCommitted
    {spool next : Spool}
    {receipt : Receipt}
    {disposition : Disposition}
    {row : PendingCapture}
    (committed : spool.markCommitted receipt = .ok (next, disposition))
    (member : row ∈ spool.pending.rows)
    (removed : row ∉ next.pending.rows) :
    disposition = .deleted ∧ receipt = receiptFor row := by
  have same : row.recordId = receipt.recordId := by
    by_contra other
    rw [rows_of_markCommitted committed] at removed
    exact removed (List.mem_filter.2 ⟨member, by simpa using other⟩)
  have selected : spool.pending.selectId receipt.recordId = some row :=
    spool.pending.selectId_eq_some.2 ⟨member, same⟩
  obtain ⟨⟨⟩, -, committed⟩ := bind_eq_ok.1 committed
  simp only [selected] at committed
  obtain ⟨⟨⟩, matching, committed⟩ := bind_eq_ok.1 committed
  refine ⟨?_, (receiptFor_eq same (require_eq_ok.1 matching)).symm⟩
  unfold commitPending at committed
  split at committed
  · cases committed
  · obtain ⟨⟨⟩, -, final⟩ := bind_eq_ok.1 committed
    exact (Prod.mk.inj (Except.ok.inj final)).2.symm

namespace ProxySession

/-- The serial loop removes nothing from the spool. -/
theorem SerialStep.spares
    {session next : ProxySession}
    {shown : Shown}
    (step : SerialStep session (next, shown))
    {row : PendingCapture}
    (member : row ∈ session.spool.pending.rows) :
    row ∈ next.spool.pending.rows := by
  cases step with
  | stores frame raw firstOffset request spool pending here stored =>
      cases Spool.storeCapture_stores stored with
      | known => exact member
      | added _ pending _ _ _ rows =>
          rw [rows]
          exact List.mem_append_left _ member
  | _ => exact member

/-- The reader removes what the receipt it has got is for. -/
theorem ReaderStep.removes
    {session next : ProxySession}
    {shown : Shown}
    (step : ReaderStep session (next, shown))
    {row : PendingCapture}
    (member : row ∈ session.spool.pending.rows)
    (removed : row ∉ next.spool.pending.rows) :
    ∃ sequence receipt,
      session.coreReader = .committing sequence receipt ∧
        shown = .marked (receiptOf receipt) .deleted ∧
        receiptOf receipt = Spool.receiptFor row := by
  cases step with
  | commits sequence receipt spool disposition here committed =>
      obtain ⟨rfl, own⟩ :=
        Spool.removed_of_markCommitted committed member removed
      exact ⟨sequence, receipt, here, rfl, own⟩
  | _ => exact absurd member removed

end ProxySession

/-! ## The client -/

namespace CoreClient

variable {client : CoreClient} {frame : Frame} {held : HeldDelivery}
  {receipt : CaptureCommittedRequest}

/-- A delivery that is read is one. -/
theorem isDelivery_of_readDelivery
    (read : readDelivery frame = .ok held) :
    isDelivery frame = true ∧
      BridgeCaptureDelivery.decode frame.payload = .ok held.2.1 := by
  unfold readDelivery at read
  split_ifs at read with other
  · obtain ⟨⟨⟩, -, read⟩ := bind_eq_ok.1 read
    obtain ⟨⟨⟩, refused, -⟩ := bind_eq_ok.1 read
    exact (require_eq_ok.1 refused).elim
  · obtain ⟨delivery, decoded, read⟩ := bind_eq_ok.1 read
    obtain ⟨inner, -, read⟩ := bind_eq_ok.1 read
    obtain ⟨capture, -, final⟩ := bind_eq_ok.1 read
    obtain rfl := Except.ok.inj final
    exact ⟨decide_eq_true (not_ne_iff.1 (not_or.1 other).1), decoded⟩

/-- A delivery a client has accepted is the one it was busy with, or the one it
has read. -/
theorem pending_of_acceptDelivery
    (after : (client.acceptDelivery frame).pending = some held) :
    client.pending = some held ∨ readDelivery frame = .ok held := by
  cases client with
  | ready =>
      simp only [acceptDelivery] at after
      split at after
      · rename_i read same
        obtain rfl : read = held := Option.some.inj after
        exact .inr same
      · cases after
  | _ => exact .inl after

/-- Accepting a delivery resolves none. -/
theorem resolved_of_acceptDelivery
    (after : client.acceptDelivery frame = .resolved held receipt) :
    client = .resolved held receipt := by
  cases client with
  | ready =>
      simp only [acceptDelivery] at after
      split at after <;> cases after
  | _ => exact after

/-- A closed client accepts nothing. -/
theorem open_of_acceptDelivery
    (isOpen : client.acceptDelivery frame ≠ .closed) :
    client ≠ .closed := by
  rintro rfl
  exact isOpen rfl

/-- Hearing a response brings no other delivery. -/
theorem pending_of_hearResponse
    (after : (client.hearResponse frame).pending = some held) :
    client.pending = some held := by
  cases client with
  | confirming =>
      simp only [hearResponse] at after
      split at after
      · cases after
      · exact after
  | _ => exact after

/-- Hearing a response resolves nothing. -/
theorem resolved_of_hearResponse
    (after : client.hearResponse frame = .resolved held receipt) :
    client = .resolved held receipt := by
  cases client with
  | confirming =>
      simp only [hearResponse] at after
      split at after <;> cases after
  | _ => exact after

/-- A closed client hears nothing. -/
theorem open_of_hearResponse
    (isOpen : client.hearResponse frame ≠ .closed) :
    client ≠ .closed := by
  rintro rfl
  exact isOpen rfl

/-- Giving up a resolution leaves the delivery. -/
theorem pending_giveUp (client : CoreClient) :
    client.giveUp.pending = client.pending := by
  cases client <;> rfl

/-- A resolution that is given up has no receipt any more. -/
theorem unresolved_giveUp (client : CoreClient) :
    ∀ held receipt, client.giveUp ≠ .resolved held receipt := by
  intro held receipt
  cases client <;> exact nofun

/-- A closed client gives up nothing. -/
theorem open_of_giveUp
    (isOpen : client.giveUp ≠ .closed) :
    client ≠ .closed := by
  rintro rfl
  exact isOpen rfl

end CoreClient

/-! ## The system -/

namespace Handoff

/-- Every receipt in the system is for a decision the store has made. -/
structure Sound (record : List HandoffEvent) (handoff : Handoff) : Prop where
  remembers : Remembers record handoff.store
  links :
    ∀ number link, handoff.links number = some link →
      LinkSound record link.session.coreReader link.client link.incoming

namespace Sound

variable {record : List HandoffEvent} {handoff : Handoff}

/-- Before the first connection there is no receipt. -/
theorem start (spool : Spool) : Sound [] (Handoff.start spool) := by
  refine ⟨.empty, fun number link here => ?_⟩
  simp [Handoff.start] at here

/-- One more event that leaves the store and the connections alone. -/
theorem concat
    (sound : Sound record handoff)
    (event : HandoffEvent) :
    Sound (record ++ [event]) handoff :=
  ⟨sound.remembers.concat event,
    fun number link here => (sound.links number link here).concat event⟩

/-- A connection is set to one that is sound. -/
theorem setLink
    (sound : Sound record handoff)
    (number : Nat)
    {link : HandoffLink}
    (linkSound :
      LinkSound record link.session.coreReader link.client link.incoming) :
    Sound record (handoff.setLink number link) := by
  refine ⟨sound.remembers, fun other current here => ?_⟩
  by_cases same : other = number
  · obtain rfl : link = current := by
      simpa [Handoff.setLink, same] using here
    exact linkSound
  · apply sound.links other current
    simpa [Handoff.setLink, same] using here

/-- The spool plays no part. -/
theorem withSpool
    (sound : Sound record handoff)
    (spool : Spool) :
    Sound record { handoff with spool := spool } :=
  ⟨sound.remembers, sound.links⟩

/-- A step of a session keeps the system sound. -/
theorem stepBridge
    {number : Nat}
    {link : HandoffLink}
    (sound : Sound record handoff)
    (here : handoff.links number = some link)
    (choice : Choice) :
    Sound record (handoff.stepBridge number link choice).1 := by
  unfold Handoff.stepBridge
  split_ifs with offers
  · exact (sound.withSpool _).setLink number
      ((sound.links number link here).steps offers handoff.spool)
  · exact sound

/-- A command is no receipt. -/
theorem trusted_command
    {messageType : MessageType}
    {sequence : UInt32}
    {payload wire : List UInt8}
    (encoded :
      (Frame.command messageType sequence payload).encode = .ok wire)
    (request : messageType ∈ deviceRequests) :
    Trusted record wire := by
  refine ⟨_, encoded, fun receipt isReceipt => ?_⟩
  obtain rfl : messageType = .captureCommitted := isReceipt
  exact absurd request (by decide)

/-- The frame of a receipt carries the receipt. -/
theorem trusted_receiptFrame
    {sequence : UInt32}
    {receipt : CaptureCommittedRequest}
    {wire : List UInt8}
    (vouched : Vouched record receipt)
    (encoded : (receiptFrame sequence receipt).encode = .ok wire) :
    Trusted record wire := by
  refine ⟨_, encoded, fun decoded _ same => ?_⟩
  obtain rfl :=
    Except.ok.inj (same.symm.trans (CaptureCommittedRequest.decode_encode _))
  exact vouched

/-- A step of a client that takes in and decides nothing keeps the system
sound. -/
theorem stepClient
    {number : Nat}
    {link : HandoffLink}
    {action : ClientAction}
    (sound : Sound record handoff)
    (here : handoff.links number = some link)
    (accepts : ∀ frame, action ≠ .accept frame)
    (decides : ∀ resolution, action ≠ .resolve resolution) :
    Sound record (handoff.stepClient number link action).1 := by
  have linkSound := sound.links number link here
  cases action with
  | command messageType sequence payload cut =>
      simp only [Handoff.stepClient]
      split
      · rename_i ready encoded
        split_ifs with request
        · refine sound.setLink number
            (linkSound.sends ?_ (trusted_command encoded request) ?_
              (fun _ _ => CoreClient.noConfusion) cut)
          · rw [ready]
            exact nofun
          · exact fun _ nothing => by cases nothing
        · exact sound
      · exact sound
  | accept frame => exact absurd rfl (accepts frame)
  | resolve resolution => exact absurd rfl (decides resolution)
  | confirm cut =>
      simp only [Handoff.stepClient]
      split
      · rename_i held receipt resolved
        have inherits
            (current : HeldDelivery)
            (same : some held = some current) :
            link.client.pending = some current := by
          rw [resolved]
          exact same
        have isOpen : link.client ≠ .closed := by
          rw [resolved]
          exact nofun
        split
        · rename_i bytes encoded
          split_ifs with same
          · refine sound.setLink number
              (linkSound.sends isOpen
                (trusted_receiptFrame (linkSound.resolved held receipt resolved)
                  encoded) ?_ (fun _ _ => CoreClient.noConfusion) cut)
            exact inherits
          · refine sound.setLink number
              (linkSound.goes_without ?_
                (fun _ _ => CoreClient.noConfusion) fun _ => isOpen)
            exact inherits
        · refine sound.setLink number
            (linkSound.goes_without ?_
              (fun _ _ => CoreClient.noConfusion) fun _ => isOpen)
          exact inherits
      · exact sound
  | answered frame =>
      refine sound.setLink number (linkSound.goes ?_ ?_ ?_)
      · intro held after
        exact linkSound.pending held (CoreClient.pending_of_hearResponse after)
      · intro held receipt after
        exact linkSound.resolved held receipt
          (CoreClient.resolved_of_hearResponse after)
      · exact CoreClient.open_of_hearResponse
  | giveUp =>
      refine sound.setLink number (linkSound.goes_without ?_ ?_ ?_)
      · exact fun held after =>
          (CoreClient.pending_giveUp link.client).symm.trans after
      · exact CoreClient.unresolved_giveUp link.client
      · exact CoreClient.open_of_giveUp
  | close =>
      exact sound.setLink number
        (linkSound.goes_without nofun (fun _ _ => CoreClient.noConfusion)
          fun isOpen => absurd rfl isOpen)

/-- A delivery a client takes in is one of the record. -/
theorem accepts
    {number : Nat}
    {link : HandoffLink}
    {frame : Frame}
    {event : HandoffEvent}
    (sound : Sound record event.source)
    (here : event.source.links number = some link)
    (input : event.input = .client number (.accept frame))
    (target :
      event.target =
        event.source.setLink number
          { link with client := link.client.acceptDelivery frame }) :
    Sound (record ++ [event]) event.target := by
  have linkSound := (sound.links number link here).concat event
  rw [target]
  refine (sound.concat event).setLink number (linkSound.goes ?_ ?_ ?_)
  · intro held after
    rcases CoreClient.pending_of_acceptDelivery after with before | read
    · exact linkSound.pending held before
    · obtain ⟨delivers, decoded⟩ :=
        CoreClient.isDelivery_of_readDelivery read
      refine ⟨event, List.mem_append_right _ (List.mem_singleton_self _),
        frame, ?_, delivers, decoded⟩
      rw [acceptedBy, input]
  · intro held receipt after
    exact linkSound.resolved held receipt
      (CoreClient.resolved_of_acceptDelivery after)
  · exact CoreClient.open_of_acceptDelivery

/-- A decision of a client keeps the system sound. -/
theorem resolves
    {number : Nat}
    {link : HandoffLink}
    {held : HeldDelivery}
    {resolution : Resolution}
    {event : HandoffEvent}
    (sound : Sound record event.source)
    (here : event.source.links number = some link)
    (holding : link.client = .holding held)
    (stores : Stores event (resolution.transaction held.2.1))
    (target :
      event.target =
        (event.source.transact (resolution.transaction held.2.1)).1.setLink
          number
          { link with
            client :=
              .decided held
                (CaptureStore.machine.event event.source.store
                  (resolution.transaction held.2.1)).output }) :
    Sound (record ++ [event]) event.target := by
  have remembers := sound.remembers.stores stores
  rw [target] at remembers ⊢
  have afterwards :
      Sound (record ++ [event])
        (event.source.transact (resolution.transaction held.2.1)).1 :=
    ⟨remembers, (sound.concat event).links⟩
  have accepted : Accepted record held.2.1 := by
    apply (sound.links number link here).pending
    rw [holding]
    rfl
  refine afterwards.setLink number
    (((sound.concat event).links number link here).goes ?_ ?_ ?_)
  · intro other after
    obtain rfl : held = other := by
      unfold CoreClient.decided at after
      split at after <;> exact Option.some.inj after
    exact accepted.concat event
  · intro other receipt resolved
    unfold CoreClient.decided at resolved
    split at resolved
    · rename_i result returned
      obtain ⟨-, rfl⟩ := CoreClient.resolved.inj resolved
      exact sound.remembers.vouches stores accepted returned
    · cases resolved
  · rw [holding]
    exact fun _ => CoreClient.noConfusion

/-- Every step keeps the system sound. -/
theorem event
    (sound : Sound record handoff)
    (input : HandoffInput) :
    Sound (record ++ [machine.event handoff input])
      (machine.event handoff input).target := by
  cases input with
  | connect number connectionId sourceConnectionId =>
      apply concat
      simp only [Machine.event, machine]
      split
      · exact sound.setLink number .fresh
      · exact sound
  | bridge number choice =>
      apply concat
      simp only [Machine.event, machine]
      split
      · exact sound
      · rename_i link here
        exact sound.stepBridge here choice
  | client number action =>
      cases here : handoff.links number with
      | none =>
          apply concat
          simp only [Machine.event, machine, here]
          exact sound
      | some link =>
          by_cases decides : ∃ resolution held,
              action = .resolve resolution ∧ link.client = .holding held
          · obtain ⟨resolution, held, rfl, holding⟩ := decides
            refine @resolves _ _ link held resolution _ sound here holding ?_ ?_
            · refine ⟨?_, ?_⟩ <;>
                simp only [Machine.event, machine, here, Handoff.stepClient,
                  holding, transact, Handoff.setLink]
            · simp only [Machine.event, machine, here, Handoff.stepClient,
                holding, transact]
          · cases action with
            | accept frame =>
                refine @accepts _ _ link frame _ sound here rfl ?_
                simp only [Machine.event, machine, here, Handoff.stepClient]
            | resolve resolution =>
                apply concat
                simp only [Machine.event, machine, here, Handoff.stepClient]
                split
                · rename_i held holding
                  exact absurd ⟨resolution, held, rfl, holding⟩ decides
                · exact sound
            | _ =>
                apply concat
                simp only [Machine.event, machine, here]
                exact sound.stepClient here (fun _ same => by cases same)
                  fun _ same => by cases same
  | reopen tombstoneLimit =>
      apply concat
      simp only [Machine.event, machine]
      split
      · exact sound.withSpool _
      · exact sound
  | transact transaction =>
      have stores :
          Stores (machine.event handoff (.transact transaction)) transaction :=
        ⟨rfl, rfl⟩
      exact ⟨sound.remembers.stores stores, (sound.concat _).links⟩

end Sound

/-- What one step does to the spool and sends to it. A record leaves the spool
by its own receipt only, and there is no receipt without a decision. -/
structure HandsOver
    (earlier : List HandoffEvent)
    (event : HandoffEvent) :
    Prop where
  kept :
    ∀ row ∈ event.source.spool.pending.rows,
      row ∉ event.target.spool.pending.rows →
        ∃ number receipt,
          event.output = .bridge number (.marked receipt .deleted) ∧
            receipt.recordId = row.recordId ∧ receipt.key = row.key ∧
            receipt.innerFrameCrc32 = row.innerFrameCrc32.toNat ∧
            Decided earlier row.key row.innerFrameCrc32
  confirmed :
    ∀ number receipt,
      event.output = .confirmed number receipt → Backed earlier receipt

/-- What one step does, with what its receipt rests on. -/
structure Vouches
    (earlier : List HandoffEvent)
    (event : HandoffEvent) :
    Prop where
  removed :
    ∀ row ∈ event.source.spool.pending.rows,
      row ∉ event.target.spool.pending.rows →
        ∃ number receipt,
          event.output =
              .bridge number (.marked (Spool.receiptFor row) .deleted) ∧
            receiptOf receipt = Spool.receiptFor row ∧
            Vouched earlier receipt
  sent :
    ∀ number receipt,
      event.output = .confirmed number receipt → Vouched earlier receipt

/-- A step that leaves the records alone and confirms nothing. -/
theorem Vouches.untouched
    {earlier : List HandoffEvent}
    {event : HandoffEvent}
    (same : event.target.spool.pending = event.source.spool.pending)
    (silent : ∀ number receipt, event.output ≠ .confirmed number receipt) :
    Vouches earlier event where
  removed _ member removed := absurd (same ▸ member) removed
  sent number receipt shown := absurd shown (silent number receipt)

/-- The CRC in the receipt for a record is that of the record. -/
theorem innerFrameCrc32_of_receiptFor
    {row : PendingCapture}
    {receipt : CaptureCommittedRequest}
    (own : receiptOf receipt = Spool.receiptFor row) :
    receipt.innerFrameCrc32 = row.innerFrameCrc32 :=
  UInt32.toNat_inj.1 (Int.ofNat.inj (congrArg Receipt.innerFrameCrc32 own))

/-- A receipt for a record that is vouched for is for a decision about it. -/
theorem decided_of_receiptFor
    {record : List HandoffEvent}
    {row : PendingCapture}
    {receipt : CaptureCommittedRequest}
    (own : receiptOf receipt = Spool.receiptFor row)
    (vouched : Vouched record receipt) :
    Decided record row.key row.innerFrameCrc32 := by
  have backed := vouched.backed
  rw [Backed, own, innerFrameCrc32_of_receiptFor own] at backed
  exact backed

/-- What a step rests its receipt on is a decision. -/
theorem Vouches.handsOver
    {earlier : List HandoffEvent}
    {event : HandoffEvent}
    (vouches : Vouches earlier event) :
    HandsOver earlier event where
  kept row member removed := by
    obtain ⟨number, receipt, shown, own, vouched⟩ :=
      vouches.removed row member removed
    exact ⟨number, _, shown, rfl, rfl, rfl, decided_of_receiptFor own vouched⟩
  confirmed number receipt shown := (vouches.sent number receipt shown).backed

/-- A client has no access to the spool. -/
theorem spool_stepClient
    (handoff : Handoff)
    (number : Nat)
    (link : HandoffLink)
    (action : ClientAction) :
    (handoff.stepClient number link action).1.spool = handoff.spool := by
  cases action with
  | command | confirm =>
      simp only [stepClient]
      repeat' split
      all_goals rfl
  | resolve resolution =>
      simp only [stepClient]
      split <;> rfl
  | accept | answered | giveUp | close => rfl

/-- What the receipt of a client rests on. -/
theorem Sound.confirmed
    {record : List HandoffEvent}
    {handoff : Handoff}
    {number other : Nat}
    {link : HandoffLink}
    {action : ClientAction}
    {receipt : CaptureCommittedRequest}
    (sound : Sound record handoff)
    (here : handoff.links number = some link)
    (shown :
      (handoff.stepClient number link action).2 = .confirmed other receipt) :
    Vouched record receipt := by
  cases action with
  | confirm cut =>
      simp only [Handoff.stepClient] at shown
      split at shown
      · rename_i held resolved here'
        split at shown
        · split_ifs at shown
          obtain ⟨-, rfl⟩ := HandoffOutput.confirmed.inj shown
          exact (sound.links number link here).resolved held _ here'
        · cases shown
      · cases shown
  | command =>
      simp only [Handoff.stepClient] at shown
      repeat' split at shown
      all_goals cases shown
  | resolve =>
      simp only [Handoff.stepClient] at shown
      split at shown <;> cases shown
  | accept | answered | giveUp | close => cases shown

/-- The session keeps every record but the one its receipt is for. -/
theorem Sound.removes
    {record : List HandoffEvent}
    {handoff : Handoff}
    {number : Nat}
    {link : HandoffLink}
    {choice : Choice}
    {row : PendingCapture}
    (sound : Sound record handoff)
    (here : handoff.links number = some link)
    (member : row ∈ handoff.spool.pending.rows)
    (removed :
      row ∉ (handoff.stepBridge number link choice).1.spool.pending.rows) :
    ∃ receipt,
      (handoff.stepBridge number link choice).2 =
          .bridge number (.marked (Spool.receiptFor row) .deleted) ∧
        receiptOf receipt = Spool.receiptFor row ∧ Vouched record receipt := by
  unfold Handoff.stepBridge at removed ⊢
  split_ifs at removed ⊢
  · obtain ⟨thread, meets⟩ := choice
    cases thread with
    | serialLoop =>
        exact absurd
          ((ProxySession.stepSerial_cases
            { link.session with spool := handoff.spool } meets).spares member)
          removed
    | coreReader =>
        obtain ⟨sequence, receipt, uses, shown, own⟩ :=
          (ProxySession.stepReader_cases
            { link.session with spool := handoff.spool } meets).removes
            member removed
        exact ⟨receipt, congrArg _ (own ▸ shown), own,
          (sound.links number link here).committing sequence receipt uses⟩
  · exact absurd member removed

/-- Every step of a sound system hands over by the rules. -/
theorem Sound.vouches
    {record : List HandoffEvent}
    {handoff : Handoff}
    (sound : Sound record handoff)
    (input : HandoffInput) :
    Vouches record (machine.event handoff input) := by
  cases input with
  | connect number connectionId sourceConnectionId =>
      simp only [Machine.event, machine]
      split <;> exact .untouched rfl fun _ _ shown => by cases shown
  | bridge number choice =>
      simp only [Machine.event, machine]
      split
      · exact .untouched rfl fun _ _ shown => by cases shown
      · rename_i link here
        refine ⟨fun row member removed => ?_, ?_⟩
        · exact ⟨number, sound.removes here member removed⟩
        · intro other receipt shown
          simp only [Handoff.stepBridge] at shown
          split_ifs at shown
  | client number action =>
      simp only [Machine.event, machine]
      split
      · exact .untouched rfl fun _ _ shown => by cases shown
      · rename_i link here
        refine ⟨fun row member removed => ?_, ?_⟩
        · rw [spool_stepClient] at removed
          exact absurd member removed
        · exact fun other receipt => sound.confirmed here
  | reopen tombstoneLimit =>
      simp only [Machine.event, machine]
      split
      · rename_i spool reopened
        obtain ⟨⟨⟩, -, same⟩ := bind_eq_ok.1 reopened
        obtain rfl := Except.ok.inj same
        exact .untouched rfl fun _ _ shown => by cases shown
      · exact .untouched rfl fun _ _ shown => by cases shown
  | transact transaction =>
      exact .untouched rfl fun _ _ shown => by cases shown

/--
Whatever the bridge and the core do, in whatever order, and wherever a
connection breaks or a process stops: a record leaves the spool only by a
receipt for that record, and a receipt is sent and used only after the core has
stored a decision about a frame with its identity and its CRC.
-/
theorem everyStep_handsOver (spool : Spool) (inputs : List HandoffInput) :
    EveryStep HandsOver (machine.trace (start spool) inputs) :=
  machine.everyStep_of_invariant Sound (Sound.start spool)
    (fun _ _ input sound _ => sound.event input)
    (fun _ _ input sound (_ : True) => (sound.vouches input).handsOver)
    inputs fun _ _ _ _ => trivial

end Handoff

end Usac.Bridge
