import Mathlib.Data.List.Sort
import Usac.Host.CaptureData
import Usac.Library.Machine
import Usac.Library.Table

namespace Usac.Bridge

open Library Host

/-!
# The bridge spool

The durable store of `spool.py` between the reception of a capture and its
commit in the core. Each operation is one SQLite transaction: it changes the
tables as a whole or, when it raises, not at all.
-/

/-- The largest integer SQLite stores. -/
def maxInteger : Int := 2 ^ 63 - 1

/-- Whether an integer can be bound as a parameter of a statement. -/
def bindable (value : Int) : Bool :=
  -(2 ^ 63) ≤ value && value ≤ maxInteger

/-- Binding an integer that does not fit. -/
def overflow : Raised :=
  ⟨.overflowError, "Python int too large to convert to SQLite INTEGER"⟩

/-- The identity of a capture. -/
structure CaptureKey where
  deviceId : List UInt8
  bootId : List UInt8
  captureId : List UInt8
  deriving Repr, DecidableEq

/-- The identity in a decoded capture. -/
def CaptureKey.ofCapture (capture : CaptureData) : CaptureKey where
  deviceId := capture.deviceId.toList
  bootId := capture.bootId.toList
  captureId := capture.captureId.toList

/-- `PendingCapture`, a row of `pending_captures`. -/
structure PendingCapture where
  recordId : Int
  key : CaptureKey
  captureSequence : UInt32
  sourceConnectionId : Int
  sourceFirstStreamOffset : Int
  sourceLastStreamOffset : Int
  innerFrameCrc32 : UInt32
  innerFrame : List UInt8
  storedUtcNs : Int
  deriving DecidableEq

/-- A row of `committed_tombstones`. -/
structure Tombstone where
  recordId : Int
  key : CaptureKey
  innerFrameCrc32 : UInt32
  deriving DecidableEq

/-- The result of `mark_committed`. -/
inductive Disposition where
  | deleted
  | alreadyCommitted
  deriving Repr, DecidableEq

/-- The database of a spool and the limit it has been opened with.
`lastRecordId` is the counter behind `AUTOINCREMENT`. -/
structure Spool where
  pending :
    Table PendingCapture Int CaptureKey PendingCapture.recordId
      PendingCapture.key
  tombstones :
    Table Tombstone Int CaptureKey Tombstone.recordId Tombstone.key
  lastRecordId : Int
  tombstoneLimit : Int

/-- The arguments of `store_capture`. -/
structure StoreRequest where
  innerFrame : List UInt8
  sourceConnectionId : Int
  sourceFirstStreamOffset : Int
  sourceLastStreamOffset : Int
  storedUtcNs : Int
  deriving DecidableEq

/-- The arguments of `mark_committed`. -/
structure Receipt where
  recordId : Int
  key : CaptureKey
  innerFrameCrc32 : Int
  deriving DecidableEq

namespace Spool

/-- An empty spool. -/
def empty (tombstoneLimit : Int) : Spool where
  pending := .empty
  tombstones := .empty
  lastRecordId := 0
  tombstoneLimit := tombstoneLimit

/-- `CaptureSpool.__init__` on the file of a spool. -/
def reopen (spool : Spool) (tombstoneLimit : Int) : Except Raised Spool := do
  require (1 ≤ tombstoneLimit) (.valueError "tombstone_limit must be positive")
  pure { spool with tombstoneLimit := tombstoneLimit }

/-- `CaptureSpool.__init__` on a new file. -/
def create (tombstoneLimit : Int) : Except Raised Spool :=
  (empty tombstoneLimit).reopen tombstoneLimit

/-- The checks of `store_capture` before its transaction. -/
def accepted (request : StoreRequest) : Except Raised CaptureData := do
  let frame ← Frame.decode request.innerFrame
  require (frame.messageType = .captureData)
    (.valueError "spool accepts only CAPTURE_DATA frames")
  require (request.sourceLastStreamOffset - request.sourceFirstStreamOffset + 1 =
      request.innerFrame.length)
    (.valueError "source offsets do not cover the complete frame")
  CaptureData.decode frame.payload

/-- The violation of a constraint, of the primary key or of the identity. -/
def integrity (table : String) (idTaken : Bool) : Raised where
  kind := .sqliteIntegrityError
  text :=
    "UNIQUE constraint failed: " ++
      (if idTaken then
        table ++ ".record_id"
      else
        table ++ ".device_id, " ++ table ++ ".boot_id, " ++ table ++
          ".capture_id")

/-- The row `store_capture` inserts for a new capture. -/
def newRow
    (spool : Spool)
    (request : StoreRequest)
    (capture : CaptureData) :
    PendingCapture where
  recordId := spool.lastRecordId + 1
  key := .ofCapture capture
  captureSequence := capture.captureSequence
  sourceConnectionId := request.sourceConnectionId
  sourceFirstStreamOffset := request.sourceFirstStreamOffset
  sourceLastStreamOffset := request.sourceLastStreamOffset
  innerFrameCrc32 := Frame.crc32IsoHdlc request.innerFrame
  innerFrame := request.innerFrame
  storedUtcNs := request.storedUtcNs

/-- The insertion of `store_capture`. -/
def insertPending
    (spool : Spool)
    (request : StoreRequest)
    (capture : CaptureData) :
    Except Raised (Spool × PendingCapture) := do
  require (bindable request.sourceConnectionId ∧
      bindable request.sourceFirstStreamOffset ∧
      bindable request.sourceLastStreamOffset ∧
      bindable request.storedUtcNs)
    overflow
  require (spool.lastRecordId < maxInteger)
    ⟨.sqliteOperationalError, "database or disk is full"⟩
  let row := spool.newRow request capture
  match spool.pending.insert? row with
  | none =>
      .error (integrity "pending_captures"
        (spool.pending.selectId row.recordId).isSome)
  | some pending =>
      match pending.selectId row.recordId with
      | none =>
          .error (.runtimeError "spool insert did not produce a pending record")
      | some stored =>
          pure ({ spool with pending := pending, lastRecordId := row.recordId },
            stored)

/-- `store_capture`. -/
def storeCapture
    (spool : Spool)
    (request : StoreRequest) :
    Except Raised (Spool × PendingCapture) := do
  let capture ← accepted request
  match spool.pending.selectKey (.ofCapture capture) with
  | some existing =>
      require (existing.innerFrame = request.innerFrame ∧
          existing.innerFrameCrc32 = Frame.crc32IsoHdlc request.innerFrame)
        ⟨.spoolConflictError,
          "capture identity already exists with a different frame"⟩
      pure (spool, existing)
  | none => spool.insertPending request capture

/-- `pending_records`. -/
def pendingRecords
    (spool : Spool)
    (limit : Int) :
    Except Raised (List PendingCapture) := do
  require (1 ≤ limit ∧ limit ≤ 1024) (.valueError "limit must be in 1..1024")
  pure ((spool.pending.rows.insertionSort
    fun first second => first.recordId ≤ second.recordId).take limit.toNat)

/-- The record ids the pruning of `mark_committed` keeps for a device. -/
def retained
    (tombstones : List Tombstone)
    (deviceId : List UInt8)
    (limit : Int) :
    List Int :=
  (((tombstones.filter fun row => row.key.deviceId = deviceId).map
    Tombstone.recordId).insertionSort (· ≥ ·)).take limit.toNat

/-- The receipt marker of a committed record. -/
def tombstoneFor (row : PendingCapture) : Tombstone where
  recordId := row.recordId
  key := row.key
  innerFrameCrc32 := row.innerFrameCrc32

/-- The spool without the record, and with the tombstones pruned. -/
def moved
    (spool : Spool)
    (row : PendingCapture)
    (tombstones :
      Table Tombstone Int CaptureKey Tombstone.recordId Tombstone.key) :
    Spool :=
  let kept := retained tombstones.rows row.key.deviceId spool.tombstoneLimit
  { spool with
    pending := spool.pending.delete (·.recordId = row.recordId)
    tombstones := tombstones.delete fun old =>
      old.key.deviceId = row.key.deviceId ∧ old.recordId ∉ kept }

/-- The transaction of `mark_committed` for a pending record. -/
def commitPending
    (spool : Spool)
    (row : PendingCapture) :
    Except Raised (Spool × Disposition) :=
  match spool.tombstones.insert? (tombstoneFor row) with
  | none =>
      .error (integrity "committed_tombstones"
        (spool.tombstones.selectId row.recordId).isSome)
  | some tombstones => do
      require (bindable spool.tombstoneLimit) overflow
      pure (spool.moved row tombstones, .deleted)

/-- `mark_committed`. -/
def markCommitted
    (spool : Spool)
    (receipt : Receipt) :
    Except Raised (Spool × Disposition) := do
  require (bindable receipt.recordId) overflow
  match spool.pending.selectId receipt.recordId with
  | some row =>
      require (row.key = receipt.key ∧
          (row.innerFrameCrc32.toNat : Int) = receipt.innerFrameCrc32)
        ⟨.spoolConflictError, "commit receipt does not match pending record"⟩
      spool.commitPending row
  | none =>
      match spool.tombstones.selectId receipt.recordId with
      | none =>
          .error ⟨.spoolConflictError,
            "commit receipt does not match a known record"⟩
      | some tombstone =>
          require (tombstone.key = receipt.key ∧
              (tombstone.innerFrameCrc32.toNat : Int) =
                receipt.innerFrameCrc32)
            ⟨.spoolConflictError, "commit receipt does not match tombstone"⟩
          pure (spool, .alreadyCommitted)

/-- A call on the spool. -/
inductive Input where
  | storeCapture (request : StoreRequest)
  | markCommitted (receipt : Receipt)
  | reopen (tombstoneLimit : Int)

/-- What a call returns. -/
inductive Output where
  | stored (record : PendingCapture)
  | committed (disposition : Disposition)
  | reopened
  | raised (raised : Raised)
  deriving DecidableEq

/-- A transaction that raises is rolled back. -/
def transact
    {Result : Type}
    (spool : Spool)
    (output : Result → Output) :
    Except Raised (Spool × Result) → Spool × Output
  | .ok (next, result) => (next, output result)
  | .error raised => (spool, .raised raised)

/-- The spool as a machine. -/
def machine : Machine Spool Input Output where
  step spool
    | .storeCapture request =>
        spool.transact .stored (spool.storeCapture request)
    | .markCommitted receipt =>
        spool.transact .committed (spool.markCommitted receipt)
    | .reopen tombstoneLimit =>
        spool.transact (fun _ : Unit => .reopened)
          ((spool.reopen tombstoneLimit).map fun next => (next, ()))

end Spool

end Usac.Bridge
