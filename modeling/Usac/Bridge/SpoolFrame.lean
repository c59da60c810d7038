import Usac.Bridge.Committability

namespace Usac.Bridge

open Library Host

/-!
# What the calls of a spool change

The spool is a queue of frames: a frame enters it when it is stored for the
first time and leaves it with the receipt of its record. What is pending is
that queue in every state, so no other call moves, changes or reorders a frame,
and a call that is refused changes nothing. Receipts reach the spool from the
core, over a link whose record ids are wider than the integers of the tables: a
receipt that cannot be bound is refused by the database and not by the spool.
-/

namespace Spool

/-- One recorded call. -/
abbrev Call := Event Spool Input Output

/-! ## The queue of a history -/

/-- The queue after one more call. -/
def queued (queue : List PendingCapture) (call : Call) : List PendingCapture :=
  match call.input, call.output with
  | .storeCapture _, .stored record =>
      if record ∈ queue then queue else queue ++ [record]
  | .markCommitted receipt, .committed .deleted =>
      queue.filter fun record => receiptFor record ≠ receipt
  | _, _ => queue

/-- The frames that wait for their receipt, in the order they were first stored
in. -/
def awaiting (record : List Call) : List PendingCapture :=
  record.foldl queued []

/-- The record a call returns. -/
def storedBy (call : Call) : Option PendingCapture :=
  match call.output with
  | .stored record => some record
  | _ => none

/-- The receipt a tombstone remembers. -/
def spentReceipt (tombstone : Tombstone) : Receipt where
  recordId := tombstone.recordId
  key := tombstone.key
  innerFrameCrc32 := tombstone.innerFrameCrc32.toNat

/-- The source offsets cover the frame. -/
def Covers (request : StoreRequest) : Prop :=
  request.sourceLastStreamOffset - request.sourceFirstStreamOffset + 1 =
    request.innerFrame.length

/-- The call changes nothing. -/
def Unmoved (call : Call) : Prop :=
  call.target = call.source

/-- The call raises a conflict and changes nothing. -/
def Conflicts (call : Call) : Prop :=
  (∃ raised, call.output = .raised raised ∧
    raised.kind = .spoolConflictError) ∧
    Unmoved call

/-- The tombstones of a device. -/
def tombstonesOf (spool : Spool) (deviceId : List UInt8) : List Tombstone :=
  spool.tombstones.rows.filter fun row => row.key.deviceId = deviceId

/-- The tombstones before the pruning of a call. -/
def marked (record : List Call) (call : Call) : List Tombstone :=
  call.source.tombstones.rows ++
    match call.input, call.output with
    | .markCommitted receipt, .committed .deleted =>
        ((awaiting record).filter fun row => receiptFor row = receipt).map
          tombstoneFor
    | _, _ => []

/-- The call removes the tombstone, if it does, because the receipt of a record
of its device left as many tombstones of that device as the limit allows, all
above it. -/
def PrunedBy (record : List Call) (call : Call) (tombstone : Tombstone) :
    Prop :=
  ∃ row ∈ awaiting record,
    call.input = .markCommitted (receiptFor row) ∧
      tombstone.key.deviceId = row.key.deviceId ∧
      call.source.tombstoneLimit ≤
        (call.target.tombstonesOf row.key.deviceId).length ∧
      ∀ kept ∈ call.target.tombstonesOf row.key.deviceId,
        tombstone.recordId < kept.recordId

/-- What a call may change. -/
structure Framed (record : List Call) (call : Call) : Prop where
  pending :
    ∀ limit : Int, 1 ≤ limit → limit ≤ 1024 →
      call.target.pendingRecords limit =
        .ok ((awaiting (record ++ [call])).take limit.toNat)
  fresh :
    ∀ row ∈ storedBy call, row ∉ awaiting record →
      ∀ earlier ∈ record.filterMap storedBy, earlier.recordId < row.recordId
  again :
    ∀ request, call.input = .storeCapture request → Covers request →
      ∀ row ∈ awaiting record, row.innerFrame = request.innerFrame →
        call.output = .stored row ∧ Unmoved call
  conflicting :
    ∀ request capture,
      call.input = .storeCapture request → accepted request = .ok capture →
      ∀ row ∈ awaiting record, row.key = .ofCapture capture →
        row.innerFrame ≠ request.innerFrame → Conflicts call
  mismatched :
    ∀ receipt, call.input = .markCommitted receipt →
      (∀ row ∈ awaiting record, receiptFor row ≠ receipt) →
      (∀ tombstone ∈ call.source.tombstones.rows,
        spentReceipt tombstone ≠ receipt) →
      Conflicts call
  repeated :
    ∀ tombstone ∈ call.source.tombstones.rows,
      call.input = .markCommitted (spentReceipt tombstone) →
      call.output = .committed .alreadyCommitted ∧ Unmoved call
  pruned :
    ∀ tombstone ∈ marked record call,
      tombstone ∉ call.target.tombstones.rows → PrunedBy record call tombstone
  remembered :
    ∀ tombstone ∈ call.target.tombstones.rows, tombstone ∈ marked record call
  raises : ∀ raised, call.output = .raised raised → Unmoved call

/-- The record id of a receipt can be bound. -/
def BindsReceipt : Input → Prop
  | .markCommitted receipt => bindable receipt.recordId = true
  | _ => True

instance : (input : Input) → Decidable (BindsReceipt input)
  | .markCommitted receipt =>
      inferInstanceAs (Decidable (bindable receipt.recordId = true))
  | .storeCapture _ => isTrue trivial
  | .reopen _ => isTrue trivial

/-! ## What one call does -/

/-- What a call can do. -/
inductive Moves (spool : Spool) : Input → Spool × Output → Prop where
  | refuses (input : Input) (raised : Raised) :
      Moves spool input (spool, .raised raised)
  | returns
      (request : StoreRequest)
      (row : PendingCapture)
      (member : row ∈ spool.pending.rows)
      (same : row.innerFrame = request.innerFrame) :
      Moves spool (.storeCapture request) (spool, .stored row)
  | adds
      (request : StoreRequest)
      (capture : CaptureData)
      (pending :
        Table PendingCapture Int CaptureKey PendingCapture.recordId
          PendingCapture.key)
      (accepts : accepted request = .ok capture)
      (room : spool.lastRecordId < maxInteger)
      (rows :
        pending.rows = spool.pending.rows ++ [spool.newRow request capture]) :
      Moves spool (.storeCapture request)
        ({ spool with
            pending := pending
            lastRecordId := spool.lastRecordId + 1 },
          .stored (spool.newRow request capture))
  | removes
      (row : PendingCapture)
      (tombstones :
        Table Tombstone Int CaptureKey Tombstone.recordId Tombstone.key)
      (member : row ∈ spool.pending.rows)
      (rows :
        tombstones.rows = spool.tombstones.rows ++ [tombstoneFor row]) :
      Moves spool (.markCommitted (receiptFor row))
        (spool.moved row tombstones, .committed .deleted)
  | recalls
      (tombstone : Tombstone)
      (member : tombstone ∈ spool.tombstones.rows) :
      Moves spool (.markCommitted (spentReceipt tombstone))
        (spool, .committed .alreadyCommitted)
  | opens (tombstoneLimit : Int) :
      Moves spool (.reopen tombstoneLimit)
        ({ spool with tombstoneLimit := tombstoneLimit }, .reopened)

/-- A receipt with the values of a record is its receipt. -/
theorem receiptFor_eq
    {row : PendingCapture}
    {receipt : Receipt}
    (recordId : row.recordId = receipt.recordId)
    (same :
      row.key = receipt.key ∧
        (row.innerFrameCrc32.toNat : Int) = receipt.innerFrameCrc32) :
    receiptFor row = receipt := by
  obtain ⟨key, crc⟩ := same
  cases receipt
  simp_all [receiptFor]

/-- A receipt with the values of a tombstone is the one it remembers. -/
theorem spentReceipt_eq
    {tombstone : Tombstone}
    {receipt : Receipt}
    (recordId : tombstone.recordId = receipt.recordId)
    (same :
      tombstone.key = receipt.key ∧
        (tombstone.innerFrameCrc32.toNat : Int) = receipt.innerFrameCrc32) :
    spentReceipt tombstone = receipt := by
  obtain ⟨key, crc⟩ := same
  cases receipt
  simp_all [spentReceipt]

/-- Every call of `store_capture` is one of the cases. -/
theorem moves_storeCapture
    (spool : Spool)
    (request : StoreRequest) :
    Moves spool (.storeCapture request)
      (machine.step spool (.storeCapture request)) := by
  cases returned : spool.storeCapture request with
  | error raised =>
      simpa [machine, transact, returned] using Moves.refuses _ raised
  | ok result =>
      obtain ⟨next, row⟩ := result
      simp only [machine, transact, returned]
      obtain ⟨capture, accepts, returned⟩ := bind_eq_ok.1 returned
      split at returned
      · rename_i existing selected
        obtain ⟨⟨⟩, known, returned⟩ := bind_eq_ok.1 returned
        obtain ⟨rfl, rfl⟩ := Prod.mk.inj (Except.ok.inj returned)
        exact .returns request existing
          ((spool.pending.selectKey_eq_some).1 selected).1
          (require_eq_ok.1 known).1
      · obtain ⟨⟨⟩, -, returned⟩ := bind_eq_ok.1 returned
        obtain ⟨⟨⟩, room, returned⟩ := bind_eq_ok.1 returned
        dsimp only at returned
        split at returned
        · cases returned
        · rename_i pending inserted
          have rows := spool.pending.rows_of_insert? inserted
          split at returned
          · cases returned
          · rename_i stored selected
            obtain ⟨rfl, rfl⟩ := Prod.mk.inj (Except.ok.inj returned)
            obtain rfl : stored = spool.newRow request capture := by
              obtain ⟨member, same⟩ := pending.selectId_eq_some.1 selected
              exact List.inj_on_of_nodup_map pending.uniqueId member
                (by simp [rows]) same
            exact .adds request capture pending accepts
              (require_eq_ok.1 room) rows

/-- Every call of `mark_committed` is one of the cases. -/
theorem moves_markCommitted
    (spool : Spool)
    (receipt : Receipt) :
    Moves spool (.markCommitted receipt)
      (machine.step spool (.markCommitted receipt)) := by
  cases returned : spool.markCommitted receipt with
  | error raised =>
      simpa [machine, transact, returned] using Moves.refuses _ raised
  | ok result =>
      obtain ⟨next, disposition⟩ := result
      simp only [machine, transact, returned]
      obtain ⟨⟨⟩, -, returned⟩ := bind_eq_ok.1 returned
      split at returned
      · rename_i row selected
        obtain ⟨member, recordId⟩ := spool.pending.selectId_eq_some.1 selected
        obtain ⟨⟨⟩, same, committed⟩ := bind_eq_ok.1 returned
        obtain rfl := receiptFor_eq recordId (require_eq_ok.1 same)
        unfold commitPending at committed
        split at committed
        · cases committed
        · rename_i tombstones inserted
          obtain ⟨⟨⟩, -, committed⟩ := bind_eq_ok.1 committed
          obtain ⟨rfl, rfl⟩ := Prod.mk.inj (Except.ok.inj committed)
          exact .removes row tombstones member
            (spool.tombstones.rows_of_insert? inserted)
      · split at returned
        · cases returned
        · rename_i tombstone selected
          obtain ⟨member, recordId⟩ :=
            spool.tombstones.selectId_eq_some.1 selected
          obtain ⟨⟨⟩, same, known⟩ := bind_eq_ok.1 returned
          obtain rfl := spentReceipt_eq recordId (require_eq_ok.1 same)
          obtain ⟨rfl, rfl⟩ := Prod.mk.inj (Except.ok.inj known)
          exact .recalls tombstone member

/-- Every call is one of the cases. -/
theorem moves
    (spool : Spool)
    (input : Input) :
    Moves spool input (machine.step spool input) := by
  cases input with
  | storeCapture request =>
      exact moves_storeCapture spool request
  | markCommitted receipt =>
      exact moves_markCommitted spool receipt
  | reopen tombstoneLimit =>
      cases returned : spool.reopen tombstoneLimit with
      | error raised =>
          simpa [machine, transact, returned, Except.map] using
            Moves.refuses _ raised
      | ok next =>
          obtain ⟨⟨⟩, -, reopened⟩ := bind_eq_ok.1 returned
          obtain rfl := Except.ok.inj reopened
          simpa [machine, transact, returned, Except.map] using
            Moves.opens tombstoneLimit

/-! ## The spool is the queue -/

/-- The values of the record are those of its frame. -/
def Genuine (row : PendingCapture) : Prop :=
  ∃ request capture,
    accepted request = .ok capture ∧
      row.innerFrame = request.innerFrame ∧
      row.key = .ofCapture capture ∧
      row.innerFrameCrc32 = Frame.crc32IsoHdlc row.innerFrame

/-- The tables after a history. -/
structure Follows (record : List Call) (spool : Spool) : Prop where
  sound : spool.Sound
  queue : spool.pending.rows = awaiting record
  sorted : spool.pending.rows.Pairwise (·.recordId < ·.recordId)
  genuine : ∀ row ∈ spool.pending.rows, Genuine row
  issued :
    ∀ row ∈ record.filterMap storedBy, row.recordId ≤ spool.lastRecordId
  spent : ∀ tombstone ∈ spool.tombstones.rows, 1 ≤ tombstone.recordId

/-- One more call after a history. -/
theorem awaiting_concat
    (record : List Call)
    (call : Call) :
    awaiting (record ++ [call]) = queued (awaiting record) call := by
  simp [awaiting]

/-- A call that raises leaves the queue. -/
theorem queued_raised
    (queue : List PendingCapture)
    (source target : Spool)
    (input : Input)
    (raised : Raised) :
    queued queue ⟨source, input, .raised raised, target⟩ = queue := by
  cases input <;> rfl

/-- The rows that remain are those with another receipt. -/
theorem rows_moved
    {spool : Spool}
    {row : PendingCapture}
    (member : row ∈ spool.pending.rows)
    (tombstones :
      Table Tombstone Int CaptureKey Tombstone.recordId Tombstone.key) :
    (spool.moved row tombstones).pending.rows =
      spool.pending.rows.filter
        fun other => receiptFor other ≠ receiptFor row := by
  refine List.filter_congr fun other among => ?_
  have sameRow : other.recordId = row.recordId ↔
      receiptFor other = receiptFor row := by
    constructor
    · intro same
      rw [List.inj_on_of_nodup_map spool.pending.uniqueId among member same]
    · exact congrArg Receipt.recordId
  simp [sameRow]

/-- Every call keeps the record ids sound. -/
theorem Sound.moves
    {spool next : Spool}
    {input : Input}
    {output : Output}
    (sound : spool.Sound)
    (moves : Moves spool input (next, output)) :
    next.Sound := by
  cases moves with
  | refuses | returns | recalls => exact sound
  | adds request capture pending accepts room rows =>
      exact sound.stores
        (.added capture pending (spool.newRow request capture) accepts room
          rows)
  | removes row tombstones member rows =>
      exact sound.commits (.moved row tombstones member rows)
  | opens tombstoneLimit =>
      exact ⟨sound.counted, sound.issued, sound.spent, sound.separate⟩

namespace Follows

variable {record : List Call} {spool next : Spool} {input : Input}
  {output : Output}

/-- A new record comes after every row. -/
theorem lt_newRow
    (follows : Follows record spool)
    {row : PendingCapture}
    (member : row ∈ spool.pending.rows)
    (request : StoreRequest)
    (capture : CaptureData) :
    row.recordId < (spool.newRow request capture).recordId :=
  Int.lt_add_one_of_le (follows.sound.issued row member).2

/-- The queue follows every call. -/
theorem queue_step
    (follows : Follows record spool)
    (moves : Moves spool input (next, output)) :
    next.pending.rows =
      awaiting (record ++ [⟨spool, input, output, next⟩]) := by
  rw [awaiting_concat, ← follows.queue]
  cases moves with
  | refuses input raised =>
      rw [queued_raised]
  | returns request row member same =>
      simp [queued, member]
  | adds request capture pending accepts room rows =>
      have fresh : spool.newRow request capture ∉ spool.pending.rows :=
        fun member => (follows.lt_newRow member request capture).false
      simp [queued, fresh, rows]
  | removes row tombstones member rows =>
      exact rows_moved member tombstones
  | recalls | opens => rfl

/-- The rows stay in the order of their ids. -/
theorem sorted_step
    (follows : Follows record spool)
    (moves : Moves spool input (next, output)) :
    next.pending.rows.Pairwise (·.recordId < ·.recordId) := by
  cases moves with
  | refuses | returns | recalls | opens => exact follows.sorted
  | adds request capture pending accepts room rows =>
      dsimp only
      rw [rows, List.pairwise_append]
      refine ⟨follows.sorted, List.pairwise_singleton _ _, ?_⟩
      intro row member last isLast
      obtain rfl := List.mem_singleton.1 isLast
      exact follows.lt_newRow member request capture
  | removes row tombstones member rows =>
      exact follows.sorted.filter _

/-- Every row keeps the values of its frame. -/
theorem genuine_step
    (follows : Follows record spool)
    (moves : Moves spool input (next, output)) :
    ∀ row ∈ next.pending.rows, Genuine row := by
  cases moves with
  | refuses | returns | recalls | opens => exact follows.genuine
  | adds request capture pending accepts room rows =>
      dsimp only
      rw [rows]
      intro row member
      rcases List.mem_append.1 member with old | new
      · exact follows.genuine row old
      · obtain rfl := List.mem_singleton.1 new
        exact ⟨request, capture, accepts, rfl, rfl, rfl⟩
  | removes row tombstones member rows =>
      intro other remaining
      exact follows.genuine other (spool.pending.mem_delete.1 remaining).1

/-- The counter stays above every id that has been returned. -/
theorem issued_step
    (follows : Follows record spool)
    (moves : Moves spool input (next, output)) :
    ∀ row ∈
      (record ++ [(⟨spool, input, output, next⟩ : Call)]).filterMap storedBy,
      row.recordId ≤ next.lastRecordId := by
  intro row member
  rw [List.filterMap_append, List.mem_append] at member
  cases moves with
  | refuses input raised =>
      exact follows.issued row (by simpa [storedBy] using member)
  | returns request known among same =>
      rcases member with before | now
      · exact follows.issued row before
      · obtain rfl : row = known := by simpa [storedBy, eq_comm] using now
        exact (follows.sound.issued row among).2
  | adds request capture pending accepts room rows =>
      rcases member with before | now
      · exact (follows.issued row before).trans (Int.le_add_one le_rfl)
      · obtain rfl : row = spool.newRow request capture := by
          simpa [storedBy, eq_comm] using now
        exact le_rfl
  | removes committed tombstones known rows =>
      exact follows.issued _ (by simpa [storedBy] using member)
  | recalls tombstone known =>
      exact follows.issued _ (by simpa [storedBy] using member)
  | opens tombstoneLimit =>
      exact follows.issued _ (by simpa [storedBy] using member)

/-- The tombstones keep the ids of records. -/
theorem spent_step
    (follows : Follows record spool)
    (moves : Moves spool input (next, output)) :
    ∀ tombstone ∈ next.tombstones.rows, 1 ≤ tombstone.recordId := by
  cases moves with
  | refuses | returns | adds | recalls | opens => exact follows.spent
  | removes row tombstones member rows =>
      intro tombstone remaining
      have before := (tombstones.mem_delete.1 remaining).1
      rw [rows, List.mem_append, List.mem_singleton] at before
      rcases before with old | rfl
      · exact follows.spent tombstone old
      · exact (follows.sound.issued row member).1

/-- Every call keeps the tables with the history. -/
theorem step
    (follows : Follows record spool)
    (moves : Moves spool input (next, output)) :
    Follows (record ++ [⟨spool, input, output, next⟩]) next where
  sound := follows.sound.moves moves
  queue := follows.queue_step moves
  sorted := follows.sorted_step moves
  genuine := follows.genuine_step moves
  issued := follows.issued_step moves
  spent := follows.spent_step moves

/-- What is pending is the queue, oldest first. -/
theorem pendingRecords_eq
    (follows : Follows record spool)
    {limit : Int}
    (positive : 1 ≤ limit)
    (atMost : limit ≤ 1024) :
    spool.pendingRecords limit =
      .ok ((awaiting record).take limit.toNat) := by
  have ordered : (spool.pending.rows.insertionSort
      fun first second => first.recordId ≤ second.recordId) =
      awaiting record :=
    (follows.sorted.imp le_of_lt).insertionSort_eq.trans follows.queue
  simp [pendingRecords, ordered, positive, atMost, pure, Except.pure]

end Follows

/-! ## The answers -/

/-- Offsets that cover the frame are all a stored frame needs to be accepted
again. -/
theorem accepted_again
    {stored request : StoreRequest}
    {capture : CaptureData}
    (accepts : accepted stored = .ok capture)
    (same : stored.innerFrame = request.innerFrame)
    (covers : Covers request) :
    accepted request = .ok capture := by
  obtain ⟨frame, decoded, accepts⟩ := bind_eq_ok.1 accepts
  obtain ⟨⟨⟩, isCapture, accepts⟩ := bind_eq_ok.1 accepts
  obtain ⟨⟨⟩, -, accepts⟩ := bind_eq_ok.1 accepts
  rw [same] at decoded
  have isCapture := require_eq_ok.1 isCapture
  unfold Covers at covers
  simp [accepted, decoded, isCapture, covers, accepts]

/-- A frame stored again returns its record. -/
theorem storeCapture_again
    {spool : Spool}
    {request : StoreRequest}
    {row : PendingCapture}
    (member : row ∈ spool.pending.rows)
    (genuine : Genuine row)
    (same : row.innerFrame = request.innerFrame)
    (covers : Covers request) :
    spool.storeCapture request = .ok (spool, row) := by
  obtain ⟨stored, capture, accepts, frame, key, crc⟩ := genuine
  have accepts := accepted_again accepts (frame.symm.trans same) covers
  have selected : spool.pending.selectKey (.ofCapture capture) = some row :=
    spool.pending.selectKey_eq_some.2 ⟨member, key⟩
  rw [same] at crc
  simp [storeCapture, accepts, selected, same, crc, pure, Except.pure]

/-- Another frame for the identity of a record is a conflict. -/
theorem storeCapture_conflict
    {spool : Spool}
    {request : StoreRequest}
    {capture : CaptureData}
    {row : PendingCapture}
    (member : row ∈ spool.pending.rows)
    (accepts : accepted request = .ok capture)
    (key : row.key = .ofCapture capture)
    (different : row.innerFrame ≠ request.innerFrame) :
    ∃ raised, spool.storeCapture request = .error raised ∧
      raised.kind = .spoolConflictError := by
  have selected : spool.pending.selectKey (.ofCapture capture) = some row :=
    spool.pending.selectKey_eq_some.2 ⟨member, key⟩
  refine ⟨⟨.spoolConflictError,
    "capture identity already exists with a different frame"⟩, ?_, rfl⟩
  simp [storeCapture, accepts, selected, different, require, Functor.map,
    Except.map]

/-- A receipt that belongs to nothing is a conflict. -/
theorem markCommitted_conflict
    {spool : Spool}
    {receipt : Receipt}
    (binds : bindable receipt.recordId = true)
    (pending : ∀ row ∈ spool.pending.rows, receiptFor row ≠ receipt)
    (spent :
      ∀ tombstone ∈ spool.tombstones.rows, spentReceipt tombstone ≠ receipt) :
    ∃ raised, spool.markCommitted receipt = .error raised ∧
      raised.kind = .spoolConflictError := by
  cases selected : spool.pending.selectId receipt.recordId with
  | some row =>
      obtain ⟨member, recordId⟩ := spool.pending.selectId_eq_some.1 selected
      have other :
          ¬(row.key = receipt.key ∧
            (row.innerFrameCrc32.toNat : Int) = receipt.innerFrameCrc32) :=
        fun same => pending row member (receiptFor_eq recordId same)
      refine ⟨⟨.spoolConflictError,
        "commit receipt does not match pending record"⟩, ?_, rfl⟩
      simp [markCommitted, binds, selected, other, require]
  | none =>
      cases found : spool.tombstones.selectId receipt.recordId with
      | none =>
          refine ⟨⟨.spoolConflictError,
            "commit receipt does not match a known record"⟩, ?_, rfl⟩
          simp [markCommitted, binds, selected, found]
      | some tombstone =>
          obtain ⟨member, recordId⟩ :=
            spool.tombstones.selectId_eq_some.1 found
          have other :
              ¬(tombstone.key = receipt.key ∧
                (tombstone.innerFrameCrc32.toNat : Int) =
                  receipt.innerFrameCrc32) :=
            fun same =>
              spent tombstone member (spentReceipt_eq recordId same)
          refine ⟨⟨.spoolConflictError,
            "commit receipt does not match tombstone"⟩, ?_, rfl⟩
          simp [markCommitted, binds, selected, found, other, require,
            Functor.map, Except.map]

/-- A receipt that cannot be bound is refused by the database. -/
theorem markCommitted_overflow
    {spool : Spool}
    {receipt : Receipt}
    (unbound : ¬bindable receipt.recordId = true) :
    spool.markCommitted receipt = .error overflow := by
  simp [markCommitted, unbound, require]

namespace Follows

variable {record : List Call} {spool next : Spool} {input : Input}
  {output : Output}

/-- The ids of the tombstones can be bound. -/
theorem bindable_spent
    (follows : Follows record spool)
    {tombstone : Tombstone}
    (member : tombstone ∈ spool.tombstones.rows) :
    bindable tombstone.recordId = true := by
  have positive := follows.spent tombstone member
  have atMost := follows.sound.spent tombstone member
  have counted := follows.sound.counted.2
  simp only [bindable, Bool.and_eq_true, decide_eq_true_eq]
  constructor <;> omega

/-- A receipt repeated while its tombstone is retained is recognised. -/
theorem markCommitted_again
    (follows : Follows record spool)
    {tombstone : Tombstone}
    (member : tombstone ∈ spool.tombstones.rows) :
    spool.markCommitted (spentReceipt tombstone) =
      .ok (spool, .alreadyCommitted) := by
  have selected :
      spool.tombstones.selectId tombstone.recordId = some tombstone :=
    spool.tombstones.selectId_eq_some.2 ⟨member, rfl⟩
  have gone : spool.pending.selectId tombstone.recordId = none := by
    refine List.find?_eq_none.2 fun row pending => ?_
    simpa using (follows.sound.separate row pending tombstone member).symm
  simp [markCommitted, spentReceipt, follows.bindable_spent member, gone,
    selected, pure, Except.pure]

end Follows

/-! ## The pruning -/

/-- The ids of a device that are kept are distinct. -/
theorem nodup_retained
    {rows : List Tombstone}
    (unique : (rows.map Tombstone.recordId).Nodup)
    (deviceId : List UInt8)
    (limit : Int) :
    (retained rows deviceId limit).Nodup := by
  have device :
      ((rows.filter fun row => row.key.deviceId = deviceId).map
        Tombstone.recordId).Nodup :=
    unique.sublist (List.filter_sublist.map _)
  exact ((List.perm_insertionSort _ _).nodup_iff.2 device).sublist
    (List.take_sublist _ _)

/-- An id that is kept is the id of a tombstone of the device. -/
theorem mem_of_mem_retained
    {rows : List Tombstone}
    {deviceId : List UInt8}
    {limit recordId : Int}
    (member : recordId ∈ retained rows deviceId limit) :
    ∃ row ∈ rows, row.key.deviceId = deviceId ∧ row.recordId = recordId := by
  have among := (List.perm_insertionSort _ _).subset
    (List.mem_of_mem_take member)
  obtain ⟨row, ofDevice, same⟩ := List.mem_map.1 among
  obtain ⟨member, device⟩ := List.mem_filter.1 ofDevice
  exact ⟨row, member, by simpa using device, same⟩

/-- An id that is not kept is below as many ids as the limit allows. -/
theorem lt_retained
    {rows : List Tombstone}
    (unique : (rows.map Tombstone.recordId).Nodup)
    {tombstone : Tombstone}
    (member : tombstone ∈ rows)
    {limit : Int}
    (beyond :
      tombstone.recordId ∉ retained rows tombstone.key.deviceId limit) :
    limit ≤ (retained rows tombstone.key.deviceId limit).length ∧
      ∀ recordId ∈ retained rows tombstone.key.deviceId limit,
        tombstone.recordId < recordId := by
  let ids := (rows.filter
    fun row => row.key.deviceId = tombstone.key.deviceId).map
    Tombstone.recordId
  let sorted := ids.insertionSort (· ≥ ·)
  have perm : sorted.Perm ids := List.perm_insertionSort _ _
  have distinct : sorted.Nodup :=
    perm.nodup_iff.2 (unique.sublist (List.filter_sublist.map _))
  have descending : sorted.Pairwise (· > ·) :=
    ((List.pairwise_insertionSort _ _).and distinct).imp
      fun both => lt_of_le_of_ne both.1 both.2.symm
  have split : sorted.take limit.toNat ++ sorted.drop limit.toNat = sorted :=
    List.take_append_drop _ _
  have among : tombstone.recordId ∈ sorted :=
    perm.symm.subset (List.mem_map_of_mem (List.mem_filter.2
      ⟨member, by simp⟩))
  rw [← split] at among descending
  have dropped : tombstone.recordId ∈ sorted.drop limit.toNat :=
    (List.mem_append.1 among).resolve_left beyond
  constructor
  · have positive := List.length_pos_of_mem dropped
    rw [List.length_drop] at positive
    have full : (sorted.take limit.toNat).length = limit.toNat :=
      List.length_take_of_le (by omega)
    have kept : retained rows tombstone.key.deviceId limit =
        sorted.take limit.toNat :=
      rfl
    rw [kept, full]
    exact Int.self_le_toNat limit
  · intro recordId kept
    exact (List.pairwise_append.1 descending).2.2 recordId kept _ dropped

/-- What a commit removes is of the device and below what it leaves of it. -/
theorem pruned_moved
    {spool : Spool}
    {row : PendingCapture}
    {tombstones :
      Table Tombstone Int CaptureKey Tombstone.recordId Tombstone.key}
    {tombstone : Tombstone}
    (member : tombstone ∈ tombstones.rows)
    (gone : tombstone ∉ (spool.moved row tombstones).tombstones.rows) :
    tombstone.key.deviceId = row.key.deviceId ∧
      spool.tombstoneLimit ≤
        ((spool.moved row tombstones).tombstonesOf
          row.key.deviceId).length ∧
      ∀ kept ∈ (spool.moved row tombstones).tombstonesOf row.key.deviceId,
        tombstone.recordId < kept.recordId := by
  let kept := retained tombstones.rows row.key.deviceId spool.tombstoneLimit
  have remains (other : Tombstone) :
      other ∈ (spool.moved row tombstones).tombstones.rows ↔
        other ∈ tombstones.rows ∧
          (other.key.deviceId = row.key.deviceId → other.recordId ∈ kept) := by
    simp [moved, kept]
  obtain ⟨device, beyond⟩ : tombstone.key.deviceId = row.key.deviceId ∧
      tombstone.recordId ∉ kept := by
    simpa [remains, member] using gone
  have above : tombstone.recordId ∉ retained tombstones.rows
      tombstone.key.deviceId spool.tombstoneLimit := by
    rwa [device]
  have below := lt_retained tombstones.uniqueId member above
  rw [device] at below
  refine ⟨device, below.1.trans ?_, ?_⟩
  · have subset : kept ⊆
        ((spool.moved row tombstones).tombstonesOf row.key.deviceId).map
          Tombstone.recordId := by
      intro recordId among
      obtain ⟨other, present, ofDevice, rfl⟩ := mem_of_mem_retained among
      refine List.mem_map_of_mem (List.mem_filter.2 ⟨?_, by simpa using ofDevice⟩)
      exact (remains other).2 ⟨present, fun _ => among⟩
    have distinct : kept.Nodup := nodup_retained tombstones.uniqueId _ _
    simpa using (List.subperm_of_subset distinct subset).length_le
  · intro other among
    obtain ⟨present, ofDevice⟩ := List.mem_filter.1 among
    exact below.2 _ (((remains other).1 present).2 (by simpa using ofDevice))

/-! ## The law of every call -/

namespace Follows

variable {record : List Call} {spool next : Spool} {input : Input}
  {output : Output}

/-- The tombstones before the pruning of a commit. -/
theorem marked_removes
    (follows : Follows record spool)
    {row : PendingCapture}
    (member : row ∈ spool.pending.rows)
    (next : Spool)
    (tombstone : Tombstone) :
    tombstone ∈ marked record
        ⟨spool, .markCommitted (receiptFor row), .committed .deleted, next⟩ ↔
      tombstone ∈ spool.tombstones.rows ++ [tombstoneFor row] := by
  have same :
      ∀ other ∈ spool.pending.rows,
        receiptFor other = receiptFor row ↔ other = row := by
    intro other among
    refine ⟨fun receipts => ?_, congrArg receiptFor⟩
    exact List.inj_on_of_nodup_map spool.pending.uniqueId among member
      (congrArg Receipt.recordId receipts)
  simp only [marked, List.mem_append, List.mem_map, List.mem_filter,
    decide_eq_true_eq, List.mem_singleton, ← follows.queue]
  refine or_congr_right ⟨?_, ?_⟩
  · rintro ⟨other, ⟨among, receipts⟩, rfl⟩
    rw [(same other among).1 receipts]
  · rintro rfl
    exact ⟨row, ⟨member, rfl⟩, rfl⟩

/-- A record that is new has an id above all that have been returned. -/
theorem fresh_step
    (follows : Follows record spool)
    (moves : Moves spool input (next, output)) :
    ∀ row ∈ storedBy ⟨spool, input, output, next⟩, row ∉ awaiting record →
      ∀ earlier ∈ record.filterMap storedBy,
        earlier.recordId < row.recordId := by
  intro row stored new earlier before
  cases moves with
  | refuses | removes | recalls | opens => cases stored
  | returns request known member same =>
      obtain rfl : known = row := Option.some.inj stored
      exact absurd (follows.queue ▸ member) new
  | adds request capture pending accepts room rows =>
      obtain rfl : spool.newRow request capture = row := Option.some.inj stored
      exact Int.lt_add_one_of_le (follows.issued earlier before)

/-- What a call removes is pruned. -/
theorem pruned_step
    (follows : Follows record spool)
    (moves : Moves spool input (next, output)) :
    ∀ tombstone ∈ marked record ⟨spool, input, output, next⟩,
      tombstone ∉ next.tombstones.rows →
      PrunedBy record ⟨spool, input, output, next⟩ tombstone := by
  intro tombstone member gone
  cases moves with
  | refuses input raised =>
      refine absurd ?_ gone
      cases input <;> simpa [marked] using member
  | returns request known among same =>
      exact absurd (by simpa [marked] using member) gone
  | adds request capture pending accepts room rows =>
      exact absurd (by simpa [marked] using member) gone
  | recalls known among =>
      exact absurd (by simpa [marked] using member) gone
  | opens tombstoneLimit =>
      exact absurd (by simpa [marked] using member) gone
  | removes row tombstones among rows =>
      rw [follows.marked_removes among, ← rows] at member
      exact ⟨row, follows.queue ▸ among, rfl, pruned_moved member gone⟩

/-- A call adds no tombstone but that of the record it commits. -/
theorem remembered_step
    (follows : Follows record spool)
    (moves : Moves spool input (next, output)) :
    ∀ tombstone ∈ next.tombstones.rows,
      tombstone ∈ marked record ⟨spool, input, output, next⟩ := by
  intro tombstone member
  cases moves with
  | refuses | returns | adds | recalls | opens =>
      exact List.mem_append_left _ member
  | removes row tombstones among rows =>
      rw [follows.marked_removes among, ← rows]
      exact (tombstones.mem_delete.1 member).1

/-- Every call whose receipt can be bound keeps to the frame. -/
theorem framed
    (follows : Follows record spool)
    (input : Input)
    (binds : BindsReceipt input) :
    Framed record (machine.event spool input) where
  pending := fun limit positive atMost =>
    (follows.step (moves spool input)).pendingRecords_eq positive atMost
  fresh := follows.fresh_step (moves spool input)
  again := by
    rintro request rfl covers row member same
    rw [← follows.queue] at member
    have returned :=
      storeCapture_again member (follows.genuine row member) same covers
    simp [Machine.event, machine, transact, returned, Unmoved]
  conflicting := by
    rintro request capture rfl accepts row member key different
    rw [← follows.queue] at member
    obtain ⟨raised, returned, conflict⟩ :=
      storeCapture_conflict member accepts key different
    simp [Machine.event, machine, transact, returned, Conflicts, Unmoved,
      conflict]
  mismatched := by
    rintro receipt rfl pending spent
    rw [← follows.queue] at pending
    obtain ⟨raised, returned, conflict⟩ :=
      markCommitted_conflict binds pending spent
    simp [Machine.event, machine, transact, returned, Conflicts, Unmoved,
      conflict]
  repeated := by
    rintro tombstone member rfl
    have returned := follows.markCommitted_again member
    simp [Machine.event, machine, transact, returned, Unmoved]
  pruned := follows.pruned_step (moves spool input)
  remembered := follows.remembered_step (moves spool input)
  raises := by
    intro raised shown
    have moves := moves spool input
    generalize result : machine.step spool input = after at moves
    simp only [Machine.event, Unmoved, result] at shown ⊢
    cases moves with
    | refuses => rfl
    | returns | adds | removes | recalls | opens => cases shown

/-- A receipt that cannot be bound is not answered with a conflict. -/
theorem bindsReceipt_of_framed
    (follows : Follows record spool)
    (input : Input)
    (framed : Framed record (machine.event spool input)) :
    BindsReceipt input := by
  cases input with
  | storeCapture | reopen => trivial
  | markCommitted receipt =>
      by_contra unbound
      have pending : ∀ row ∈ awaiting record, receiptFor row ≠ receipt := by
        rintro row member rfl
        rw [← follows.queue] at member
        exact unbound (follows.sound.bindable_recordId member)
      have spent : ∀ tombstone ∈ spool.tombstones.rows,
          spentReceipt tombstone ≠ receipt := by
        rintro tombstone member rfl
        exact unbound (follows.bindable_spent member)
      obtain ⟨⟨raised, shown, conflict⟩, -⟩ :=
        framed.mismatched receipt rfl pending spent
      have returned : spool.markCommitted receipt = .error overflow :=
        markCommitted_overflow unbound
      simp only [Machine.event, machine, transact, returned] at shown
      obtain rfl := Output.raised.inj shown
      cases conflict

end Follows

/-- A new spool follows the empty history. -/
theorem follows_create
    {tombstoneLimit : Int}
    {spool : Spool}
    (created : create tombstoneLimit = .ok spool) :
    Follows [] spool := by
  obtain ⟨⟨⟩, -, opened⟩ := bind_eq_ok.1 created
  obtain rfl := Except.ok.inj opened
  constructor
  · refine ⟨⟨le_refl 0, by simp [empty, maxInteger]⟩, ?_, ?_, ?_⟩ <;>
      simp [empty]
  all_goals simp [empty, awaiting]

/-- Every call keeps to the frame exactly when the record id of every receipt
can be bound, whatever the calls. -/
theorem everyCall_framed_iff
    {tombstoneLimit : Int}
    {spool : Spool}
    (created : create tombstoneLimit = .ok spool)
    (inputs : List Input) :
    EveryStep Framed (machine.trace spool inputs) ↔
      EveryStep (fun _ call => BindsReceipt call.input)
        (machine.trace spool inputs) := by
  constructor
  · exact machine.everyStep_of_invariant Follows (follows_create created)
      (fun _ spool input follows _ => follows.step (moves spool input))
      (fun _ _ input follows framed =>
        follows.bindsReceipt_of_framed input framed)
      inputs
  · exact machine.everyStep_of_invariant Follows (follows_create created)
      (fun _ spool input follows _ => follows.step (moves spool input))
      (fun _ _ input follows binds => follows.framed input binds)
      inputs

/-- A receipt whose record id fits the link and not the tables. -/
def oversizedReceipt : Receipt where
  recordId := 2 ^ 63
  key := ⟨List.replicate 16 0, List.replicate 16 0, List.replicate 16 0⟩
  innerFrameCrc32 := 0

set_option maxRecDepth 100000 in
/-- A capture stored, stored again and committed twice. -/
theorem everyCall_framed_committedTwice :
    create 4096 = .ok (empty 4096) ∧
      EveryStep Framed
        (machine.trace (empty 4096)
          [.storeCapture storeSmallest, .storeCapture storeSmallest,
            .markCommitted commitSmallest, .markCommitted commitSmallest]) := by
  have created : create 4096 = .ok (empty 4096) := rfl
  exact ⟨created, (everyCall_framed_iff created _).2 (by decide +kernel)⟩

/-- The receipt of a record the spool has never had is not a conflict. -/
theorem not_framed_oversizedReceipt :
    create 4096 = .ok (empty 4096) ∧
      ¬EveryStep Framed
        (machine.trace (empty 4096) [.markCommitted oversizedReceipt]) := by
  refine ⟨rfl, fun every => ?_⟩
  have framed := every [] _ [] rfl
  obtain ⟨⟨raised, shown, conflict⟩, -⟩ :=
    framed.mismatched oversizedReceipt rfl (by simp [awaiting])
      (by simp [Machine.event, empty])
  obtain rfl := Output.raised.inj shown
  cases conflict

end Spool

end Usac.Bridge
