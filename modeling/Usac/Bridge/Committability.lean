import Usac.Bridge.Spool

namespace Usac.Bridge

open Library Host

/-!
# Which records can be committed

A pending record is committed by moving its identity from one table to the
other, so it can be committed exactly as long as the other table does not hold
that identity already. The spool never checks this when it stores a capture: a
capture delivered again after its commit becomes a record that nothing commits.
-/

namespace Spool

/-- The receipt for a record. -/
def receiptFor (record : PendingCapture) : Receipt where
  recordId := record.recordId
  key := record.key
  innerFrameCrc32 := record.innerFrameCrc32.toNat

/-- A record is committed by its receipt and then no longer pending. -/
def Committable (spool : Spool) (record : PendingCapture) : Prop :=
  ∃ next disposition,
    spool.markCommitted (receiptFor record) = .ok (next, disposition) ∧
      ∀ row ∈ next.pending.rows, row.recordId ≠ record.recordId

/-- Every record returned by `pending_records` is committable. -/
def AllCommittable (spool : Spool) : Prop :=
  ∀ limit records, spool.pendingRecords limit = .ok records →
    ∀ record ∈ records, spool.Committable record

/-- What the record ids of a spool satisfy. -/
structure Sound (spool : Spool) : Prop where
  counted : 0 ≤ spool.lastRecordId ∧ spool.lastRecordId ≤ maxInteger
  issued :
    ∀ row ∈ spool.pending.rows,
      1 ≤ row.recordId ∧ row.recordId ≤ spool.lastRecordId
  spent :
    ∀ tombstone ∈ spool.tombstones.rows,
      tombstone.recordId ≤ spool.lastRecordId
  separate :
    ∀ row ∈ spool.pending.rows, ∀ tombstone ∈ spool.tombstones.rows,
      tombstone.recordId ≠ row.recordId

/-- No pending capture has been committed before. -/
def Unspent (spool : Spool) : Prop :=
  ∀ row ∈ spool.pending.rows, ∀ tombstone ∈ spool.tombstones.rows,
    tombstone.key ≠ row.key

/-- Every record `pending_records` returns is a row. -/
theorem mem_of_pendingRecords
    {spool : Spool}
    {limit : Int}
    {records : List PendingCapture}
    (returned : spool.pendingRecords limit = .ok records)
    {record : PendingCapture}
    (member : record ∈ records) :
    record ∈ spool.pending.rows := by
  obtain ⟨-, -, returned⟩ := bind_eq_ok.1 returned
  obtain rfl := Except.ok.inj returned
  exact (List.mem_insertionSort _).1 (List.mem_of_mem_take member)

/-- The ids of a sound spool can be bound. -/
theorem Sound.bindable_recordId
    {spool : Spool}
    (sound : spool.Sound)
    {row : PendingCapture}
    (member : row ∈ spool.pending.rows) :
    bindable row.recordId = true := by
  have issued := sound.issued row member
  have counted := sound.counted
  simp only [bindable, Bool.and_eq_true, decide_eq_true_eq]
  constructor <;> omega

/-- The receipt of a pending record reaches its transaction. -/
theorem Sound.markCommitted_receiptFor
    {spool : Spool}
    (sound : spool.Sound)
    {row : PendingCapture}
    (member : row ∈ spool.pending.rows) :
    spool.markCommitted (receiptFor row) = spool.commitPending row := by
  have selected : spool.pending.selectId row.recordId = some row :=
    (spool.pending.selectId_eq_some).2 ⟨member, rfl⟩
  simp [markCommitted, receiptFor, sound.bindable_recordId member, selected]

/-- In a sound spool a record is committable exactly when its identity has no
tombstone. -/
theorem Sound.committable_iff
    {spool : Spool}
    (sound : spool.Sound)
    (limit : bindable spool.tombstoneLimit = true)
    {row : PendingCapture}
    (member : row ∈ spool.pending.rows) :
    spool.Committable row ↔
      ∀ tombstone ∈ spool.tombstones.rows, tombstone.key ≠ row.key := by
  unfold Committable
  rw [sound.markCommitted_receiptFor member]
  constructor
  · rintro ⟨next, disposition, committed, -⟩ tombstone spent same
    have taken : spool.tombstones.insert? (tombstoneFor row) = none :=
      (spool.tombstones.insert?_eq_none).2
        (Or.inr (List.mem_map.2 ⟨tombstone, spent, same⟩))
    simp [commitPending, taken] at committed
  · intro unspent
    cases inserted : spool.tombstones.insert? (tombstoneFor row) with
    | none =>
        exfalso
        rcases (spool.tombstones.insert?_eq_none).1 inserted with
          idTaken | keyTaken
        · obtain ⟨tombstone, spent, same⟩ := List.mem_map.1 idTaken
          exact sound.separate row member tombstone spent same
        · obtain ⟨tombstone, spent, same⟩ := List.mem_map.1 keyTaken
          exact unspent tombstone spent same
    | some tombstones =>
        refine ⟨spool.moved row tombstones, .deleted, ?_, ?_⟩
        · simp [commitPending, inserted, limit, pure, Except.pure]
        · intro other remaining
          simpa using ((spool.pending.mem_delete).1 remaining).2

/-- What a call of `store_capture` can do. -/
inductive Stores (spool : Spool) (request : StoreRequest) :
    Spool × PendingCapture → Prop where
  | known (record : PendingCapture) : Stores spool request (spool, record)
  | added
      (capture : CaptureData)
      (pending :
        Table PendingCapture Int CaptureKey PendingCapture.recordId
          PendingCapture.key)
      (record : PendingCapture)
      (accepts : accepted request = .ok capture)
      (room : spool.lastRecordId < maxInteger)
      (rows :
        pending.rows = spool.pending.rows ++ [spool.newRow request capture]) :
      Stores spool request
        ({ spool with
            pending := pending
            lastRecordId := spool.lastRecordId + 1 },
          record)

/-- Every call of `store_capture` that returns is one of the cases. -/
theorem storeCapture_stores
    {spool : Spool}
    {request : StoreRequest}
    {result : Spool × PendingCapture}
    (returned : spool.storeCapture request = .ok result) :
    Stores spool request result := by
  obtain ⟨capture, accepts, returned⟩ := bind_eq_ok.1 returned
  split at returned
  · obtain ⟨-, -, returned⟩ := bind_eq_ok.1 returned
    obtain rfl := Except.ok.inj returned
    exact .known _
  · obtain ⟨-, -, returned⟩ := bind_eq_ok.1 returned
    obtain ⟨_, room, returned⟩ := bind_eq_ok.1 returned
    dsimp only at returned
    split at returned
    · simp at returned
    · rename_i pending inserted
      split at returned
      · simp at returned
      · obtain rfl := Except.ok.inj returned
        exact .added capture pending _ accepts (require_eq_ok.1 room)
          (spool.pending.rows_of_insert? inserted)

/-- What a call of `mark_committed` can do. -/
inductive Commits (spool : Spool) : Spool × Disposition → Prop where
  | known : Commits spool (spool, .alreadyCommitted)
  | moved
      (row : PendingCapture)
      (tombstones :
        Table Tombstone Int CaptureKey Tombstone.recordId Tombstone.key)
      (member : row ∈ spool.pending.rows)
      (rows :
        tombstones.rows = spool.tombstones.rows ++ [tombstoneFor row]) :
      Commits spool (spool.moved row tombstones, .deleted)

/-- Every call of `mark_committed` that returns is one of the cases. -/
theorem markCommitted_commits
    {spool : Spool}
    {receipt : Receipt}
    {result : Spool × Disposition}
    (returned : spool.markCommitted receipt = .ok result) :
    Commits spool result := by
  obtain ⟨-, -, returned⟩ := bind_eq_ok.1 returned
  split at returned
  · rename_i row selected
    obtain ⟨-, -, returned⟩ := bind_eq_ok.1 returned
    unfold commitPending at returned
    split at returned
    · simp at returned
    · rename_i tombstones inserted
      obtain ⟨-, -, returned⟩ := bind_eq_ok.1 returned
      obtain rfl := Except.ok.inj returned
      exact .moved row tombstones
        ((spool.pending.selectId_eq_some).1 selected).1
        (spool.tombstones.rows_of_insert? inserted)
  · split at returned
    · simp at returned
    · obtain ⟨-, -, returned⟩ := bind_eq_ok.1 returned
      obtain rfl := Except.ok.inj returned
      exact .known

/-- A stored capture keeps the record ids sound. -/
theorem Sound.stores
    {spool next : Spool}
    {request : StoreRequest}
    {record : PendingCapture}
    (sound : spool.Sound)
    (stores : Stores spool request (next, record)) :
    next.Sound := by
  obtain ⟨counted, issued, spent, separate⟩ := sound
  cases stores with
  | known =>
      exact ⟨counted, issued, spent, separate⟩
  | added capture pending record accepts room rows =>
      refine ⟨⟨by dsimp only; omega, by dsimp only; omega⟩, ?_, ?_, ?_⟩
      · intro row member
        rw [rows, List.mem_append, List.mem_singleton] at member
        rcases member with old | rfl
        · have bounds := issued row old
          exact ⟨bounds.1, by dsimp only; omega⟩
        · simp only [newRow]
          omega
      · intro tombstone member
        have bound := spent tombstone member
        dsimp only
        omega
      · intro row member tombstone old
        rw [rows, List.mem_append, List.mem_singleton] at member
        rcases member with pending | rfl
        · exact separate row pending tombstone old
        · have bound := spent tombstone old
          simp only [newRow]
          omega

/-- A commit keeps the record ids sound. -/
theorem Sound.commits
    {spool next : Spool}
    {disposition : Disposition}
    (sound : spool.Sound)
    (commits : Commits spool (next, disposition)) :
    next.Sound := by
  obtain ⟨counted, issued, spent, separate⟩ := sound
  cases commits with
  | known =>
      exact ⟨counted, issued, spent, separate⟩
  | moved row tombstones member rows =>
      have old {tombstone : Tombstone}
          (kept : tombstone ∈ (spool.moved row tombstones).tombstones.rows) :
          tombstone ∈ spool.tombstones.rows ∨ tombstone = tombstoneFor row := by
        have inserted := (tombstones.mem_delete.1 kept).1
        rwa [rows, List.mem_append, List.mem_singleton] at inserted
      have pending {other : PendingCapture}
          (kept : other ∈ (spool.moved row tombstones).pending.rows) :
          other ∈ spool.pending.rows ∧ other.recordId ≠ row.recordId := by
        simpa using spool.pending.mem_delete.1 kept
      refine ⟨counted, fun other kept => issued other (pending kept).1, ?_, ?_⟩
      · intro tombstone kept
        rcases old kept with before | rfl
        · exact spent tombstone before
        · exact (issued row member).2
      · intro other kept tombstone keptTombstone
        rcases old keptTombstone with before | rfl
        · exact separate other (pending kept).1 tombstone before
        · exact (pending kept).2.symm

/-- Whether a capture is stored whose identity still has a tombstone. -/
def restores (spool : Spool) (request : StoreRequest) : Bool :=
  match accepted request with
  | .ok capture =>
      (spool.tombstones.selectKey (.ofCapture capture)).isSome
  | .error _ => false

/-- The call stores no capture whose identity still has a tombstone, and opens
the spool with no limit that SQLite cannot bind. -/
def NeverRestores (spool : Spool) : Input → Prop
  | .storeCapture request => spool.restores request = false
  | .markCommitted _ => True
  | .reopen tombstoneLimit => tombstoneLimit ≤ maxInteger

instance (spool : Spool) : (input : Input) →
    Decidable (spool.NeverRestores input)
  | .storeCapture request =>
      inferInstanceAs (Decidable (spool.restores request = false))
  | .markCommitted _ => isTrue trivial
  | .reopen tombstoneLimit =>
      inferInstanceAs (Decidable (tombstoneLimit ≤ maxInteger))

/-- A capture that is not stored again has no tombstone. -/
theorem tombstone_ne_of_restores_eq_false
    {spool : Spool}
    {request : StoreRequest}
    {capture : CaptureData}
    (fresh : spool.restores request = false)
    (accepts : accepted request = .ok capture)
    {tombstone : Tombstone}
    (spent : tombstone ∈ spool.tombstones.rows) :
    tombstone.key ≠ .ofCapture capture := by
  simp only [restores, accepts, Option.isSome_eq_false_iff,
    Option.isNone_iff_eq_none] at fresh
  intro same
  exact (spool.tombstones.selectKey_eq_none).1 fresh
    (List.mem_map.2 ⟨tombstone, spent, same⟩)

/-- What keeps every pending record committable. -/
structure Clean (spool : Spool) : Prop where
  sound : spool.Sound
  unspent : spool.Unspent
  limit : bindable spool.tombstoneLimit = true

/-- A fresh capture is pending and nowhere else. -/
theorem Clean.stores
    {spool next : Spool}
    {request : StoreRequest}
    {record : PendingCapture}
    (clean : spool.Clean)
    (fresh : spool.NeverRestores (.storeCapture request))
    (stores : Stores spool request (next, record)) :
    next.Clean := by
  refine ⟨clean.sound.stores stores, ?_, ?_⟩
  · cases stores with
    | known =>
        exact clean.unspent
    | added capture pending record accepts room rows =>
        intro row member tombstone old
        rw [rows, List.mem_append, List.mem_singleton] at member
        rcases member with before | rfl
        · exact clean.unspent row before tombstone old
        · exact tombstone_ne_of_restores_eq_false fresh accepts old
  · cases stores with
    | known => exact clean.limit
    | added => exact clean.limit

/-- A committed capture is no longer pending. -/
theorem Clean.commits
    {spool next : Spool}
    {disposition : Disposition}
    (clean : spool.Clean)
    (commits : Commits spool (next, disposition)) :
    next.Clean := by
  refine ⟨clean.sound.commits commits, ?_, ?_⟩
  · cases commits with
    | known =>
        exact clean.unspent
    | moved row tombstones member rows =>
        intro other kept tombstone keptTombstone
        obtain ⟨pending, different⟩ := spool.pending.mem_delete.1 kept
        have inserted := (tombstones.mem_delete.1 keptTombstone).1
        rw [rows, List.mem_append, List.mem_singleton] at inserted
        rcases inserted with before | rfl
        · exact clean.unspent other pending tombstone before
        · intro same
          have sameRow : row = other :=
            List.inj_on_of_nodup_map spool.pending.uniqueKey member pending
              same
          simp [sameRow] at different
  · cases commits with
    | known => exact clean.limit
    | moved => exact clean.limit

/-- Every call keeps a spool clean. -/
theorem Clean.step
    {spool : Spool}
    (clean : spool.Clean)
    {input : Input}
    (fresh : spool.NeverRestores input) :
    (machine.step spool input).1.Clean := by
  cases input with
  | storeCapture request =>
      cases returned : spool.storeCapture request with
      | error raised =>
          simpa [machine, transact, returned] using clean
      | ok result =>
          simpa [machine, transact, returned] using
            clean.stores fresh (storeCapture_stores returned)
  | markCommitted receipt =>
      cases returned : spool.markCommitted receipt with
      | error raised =>
          simpa [machine, transact, returned] using clean
      | ok result =>
          simpa [machine, transact, returned] using
            clean.commits (markCommitted_commits returned)
  | reopen tombstoneLimit =>
      cases returned : spool.reopen tombstoneLimit with
      | error raised =>
          simpa [machine, transact, returned, Except.map] using clean
      | ok next =>
          obtain ⟨_, positive, reopened⟩ := bind_eq_ok.1 returned
          obtain rfl := Except.ok.inj reopened
          have atLeastOne := require_eq_ok.1 positive
          have limit : bindable tombstoneLimit = true := by
            simp only [NeverRestores] at fresh
            simp only [bindable, Bool.and_eq_true, decide_eq_true_eq]
            constructor <;> omega
          have sound : ({ spool with tombstoneLimit := tombstoneLimit } :
              Spool).Sound :=
            ⟨clean.sound.counted, clean.sound.issued, clean.sound.spent,
              clean.sound.separate⟩
          simpa [machine, transact, returned, Except.map] using
            (⟨sound, clean.unspent, limit⟩ :
              ({ spool with tombstoneLimit := tombstoneLimit } : Spool).Clean)

/-- Every record of a clean spool can be committed. -/
theorem Clean.allCommittable
    {spool : Spool}
    (clean : spool.Clean) :
    spool.AllCommittable := by
  intro limit records returned record member
  have pending := mem_of_pendingRecords returned member
  exact (clean.sound.committable_iff clean.limit pending).2
    (clean.unspent record pending)

/-- A new spool is clean. -/
theorem create_clean
    {tombstoneLimit : Int}
    {spool : Spool}
    (created : create tombstoneLimit = .ok spool)
    (fits : tombstoneLimit ≤ maxInteger) :
    spool.Clean := by
  obtain ⟨_, positive, opened⟩ := bind_eq_ok.1 created
  obtain rfl := Except.ok.inj opened
  have atLeastOne := require_eq_ok.1 positive
  refine ⟨⟨⟨le_refl 0, by simp [empty, maxInteger]⟩, ?_, ?_, ?_⟩, ?_, ?_⟩
  · simp [empty]
  · simp [empty]
  · simp [empty]
  · simp [Unspent, empty]
  · simp only [bindable, Bool.and_eq_true, decide_eq_true_eq]
    constructor <;> omega

/-- While no capture is stored again after its commit, every record returned
by `pending_records` can be committed, whatever the calls. -/
theorem allCommittable_of_neverRestores
    {tombstoneLimit : Int}
    {spool : Spool}
    (created : create tombstoneLimit = .ok spool)
    (fits : tombstoneLimit ≤ maxInteger)
    (inputs : List Input)
    (fresh :
      EveryStep (fun _ event => NeverRestores event.source event.input)
        (machine.trace spool inputs)) :
    EveryStep (fun _ event => event.target.AllCommittable)
      (machine.trace spool inputs) :=
  machine.everyStep_of_invariant (fun _ spool => spool.Clean)
    (create_clean created fits)
    (fun _ _ _ clean condition => clean.step condition)
    (fun _ _ _ clean condition => (clean.step condition).allCommittable)
    inputs fresh

/-- The call that stores the capture. -/
def storeSmallest : StoreRequest where
  innerFrame := CaptureData.smallestFrame
  sourceConnectionId := 1
  sourceFirstStreamOffset := 0
  sourceLastStreamOffset := 209
  storedUtcNs := 0

/-- The receipt of the first record of the capture. -/
def commitSmallest : Receipt where
  recordId := 1
  key := ⟨List.replicate 16 0, List.replicate 16 0, List.replicate 16 0⟩
  innerFrameCrc32 := (Frame.crc32IsoHdlc CaptureData.smallestFrame).toNat

set_option maxRecDepth 100000 in
/-- A capture stored and committed once stays committable. -/
theorem allCommittable_storedOnce :
    EveryStep (fun _ event => event.target.AllCommittable)
      (machine.trace (empty 4096)
        [.storeCapture storeSmallest, .markCommitted commitSmallest]) := by
  have created : create 4096 = .ok (empty 4096) := rfl
  exact allCommittable_of_neverRestores created (by decide) _
    (by decide +kernel)

/-- A capture whose delivery is repeated after its commit. -/
def redelivered : List Input :=
  [.storeCapture storeSmallest, .markCommitted commitSmallest,
    .storeCapture storeSmallest]

set_option maxRecDepth 100000 in
/-- The second record of a repeated capture is returned as pending and its
receipt is refused. -/
theorem redelivered_refused :
    ∃ record ∈
        ((machine.after (empty 4096) redelivered).pendingRecords
          64).toOption.getD [],
      ((machine.after (empty 4096) redelivered).markCommitted
        (receiptFor record)).toOption.isNone = true := by
  decide +kernel

/-- Storing, committing and storing one capture again leaves a record that
`mark_committed` refuses. -/
theorem not_allCommittable_redelivered :
    create 4096 = .ok (empty 4096) ∧
      ¬EveryStep (fun _ event => event.target.AllCommittable)
        (machine.trace (empty 4096) redelivered) := by
  refine ⟨rfl, fun every => ?_⟩
  have last : (machine.after (empty 4096) redelivered).AllCommittable := by
    have split : redelivered =
        [.storeCapture storeSmallest, .markCommitted commitSmallest] ++
          [.storeCapture storeSmallest] :=
      rfl
    rw [split, Machine.trace_concat] at every
    rw [split, Machine.after_concat]
    exact ((EveryStep.concat_iff _ _).1 every).2
  obtain ⟨record, member, refused⟩ := redelivered_refused
  cases returned :
      (machine.after (empty 4096) redelivered).pendingRecords 64 with
  | error raised =>
      simp [returned, Except.toOption] at member
  | ok records =>
      obtain ⟨next, disposition, committed, -⟩ :=
        last 64 records returned record
          (by simpa [returned, Except.toOption] using member)
      simp [committed, Except.toOption] at refused

end Spool

end Usac.Bridge
