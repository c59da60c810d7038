import Mathlib.Data.List.Dedup
import Usac.Host.Catalogue

namespace Usac.Host

open Library

/-!
# What happens to an archived capture

Row ids are never used again, so a row is the same capture for as long as it
exists. Every operation either leaves the rows and their events, adds a row
above all others, or removes rows with their events; only the manual assignment
changes a row, and only its group. A late frame of a `SAVE_LAST` session removes
the rows of the session before it archives what is kept of it, and the capture
it archives may be one it has just removed.
-/

namespace CaptureStore

/-! ## Rows and their events -/

/-- The events of a row. -/
def eventsOf (store : CaptureStore) (rowId : Nat) : List CaptureEventRow :=
  store.captureEvents.filter fun event => event.captureRowId = rowId

/-- The archive and its counter are left alone. -/
structure LeavesArchive (store next : CaptureStore) : Prop where
  captures : next.captures = store.captures
  captureEvents : next.captureEvents = store.captureEvents
  lastCaptureRowId : next.lastCaptureRowId = store.lastCaptureRowId

/-- Rows are added above all others or removed, each with its events. -/
structure Extends (store next : CaptureStore) : Prop where
  counter : store.lastCaptureRowId ≤ next.lastCaptureRowId
  rows :
    ∀ row ∈ next.captures.rows,
      row ∈ store.captures.rows ∨
        store.lastCaptureRowId < row.rowId ∧
          row.rowId ≤ next.lastCaptureRowId
  events :
    ∀ row ∈ next.captures.rows, row.rowId ≤ store.lastCaptureRowId →
      next.eventsOf row.rowId = store.eventsOf row.rowId

/-- Every row is still there. -/
def Retains (store next : CaptureStore) : Prop :=
  ∀ row ∈ store.captures.rows, row ∈ next.captures.rows

/-- Every row has an id that has been given out. -/
def Issued (store : CaptureStore) : Prop :=
  ∀ row ∈ store.captures.rows,
    0 < row.rowId ∧ row.rowId ≤ store.lastCaptureRowId

/-- What is left alone is extended by nothing. -/
theorem LeavesArchive.extends
    {store next : CaptureStore}
    (same : LeavesArchive store next) :
    Extends store next where
  counter := same.lastCaptureRowId.ge
  rows := fun _ member => .inl (same.captures ▸ member)
  events := by
    intro row member upTo
    rw [eventsOf, eventsOf, same.captureEvents]

/-- What is left alone is retained. -/
theorem LeavesArchive.retains
    {store next : CaptureStore}
    (same : LeavesArchive store next) :
    Retains store next :=
  fun _ member => same.captures ▸ member

/-- One extension after the other. -/
theorem Extends.trans
    {first second third : CaptureStore}
    (before : Extends first second)
    (after : Extends second third) :
    Extends first third where
  counter := before.counter.trans after.counter
  rows := by
    intro row member
    rcases after.rows row member with known | ⟨above, upTo⟩
    · rcases before.rows row known with older | ⟨above, upTo⟩
      · exact .inl older
      · exact .inr ⟨above, upTo.trans after.counter⟩
    · exact .inr ⟨before.counter.trans_lt above, upTo⟩
  events := by
    intro row member upTo
    have known : row ∈ second.captures.rows :=
      (after.rows row member).resolve_right fun new =>
        absurd (before.counter.trans_lt new.1) (not_lt.2 upTo)
    exact (after.events row member (upTo.trans before.counter)).trans
      (before.events row known upTo)

/-- An extension gives out every id it uses. -/
theorem Issued.extends
    {store next : CaptureStore}
    (issued : store.Issued)
    (extends_ : Extends store next) :
    next.Issued := by
  intro row member
  rcases extends_.rows row member with known | ⟨above, upTo⟩
  · exact ⟨(issued row known).1,
      (issued row known).2.trans extends_.counter⟩
  · exact ⟨(Nat.zero_le _).trans_lt above, upTo⟩

/-- The row of an id is the one that had it before. -/
theorem Extends.eq_of_rowId
    {store next : CaptureStore}
    (extends_ : Extends store next)
    (issued : store.Issued)
    {row later : ArchivedCapture}
    (member : row ∈ store.captures.rows)
    (remains : later ∈ next.captures.rows)
    (same : later.rowId = row.rowId) :
    later = row := by
  rcases extends_.rows later remains with known | ⟨above, -⟩
  · exact List.inj_on_of_nodup_map store.captures.uniqueId known member same
  · exact absurd (same ▸ above) (not_lt.2 (issued row member).2)

/-- A retained capture is still the same row. -/
theorem Retains.eq_of_identity
    {store next : CaptureStore}
    (retains : Retains store next)
    {row later : ArchivedCapture}
    (member : row ∈ store.captures.rows)
    (remains : later ∈ next.captures.rows)
    (same : later.identity = row.identity) :
    later = row :=
  List.inj_on_of_nodup_map next.captures.uniqueKey remains
    (retains row member) same

/-! ## What the operations do to the archive -/

section Operations

variable {store next : CaptureStore} {delivery : BridgeCaptureDelivery}
  {capture : CaptureData} {savePolicy : SavePolicy}
  {sessionId : Option SessionId} {groupId : Option GroupId}

/-- A recorded decision leaves the archive. -/
theorem Records.leavesArchive
    {resolution : CaptureResolution}
    (records : Records store delivery capture resolution sessionId next) :
    LeavesArchive store next :=
  ⟨records.frame.captures, records.frame.captureEvents,
    records.frame.lastCaptureRowId⟩

/-- Every row after an archive was there before, or is the new one. -/
theorem Archives.mem
    {inserted : Bool}
    (archives :
      Archives store delivery capture sessionId groupId next inserted)
    {row : ArchivedCapture}
    (member : row ∈ next.captures.rows) :
    row ∈ store.captures.rows ∨
      row = store.archiveRow delivery capture sessionId groupId ∧
        ∀ old ∈ store.captures.rows, old.identity ≠ capture.identity := by
  cases archives with
  | kept => exact .inl member
  | added captures fresh rows =>
      dsimp only at member
      rw [rows, List.mem_append, List.mem_singleton] at member
      exact member.imp_right fun new => ⟨new, fresh⟩

/-- An archive adds a row with its events, or nothing. -/
theorem Archives.extends
    {inserted : Bool}
    (archives :
      Archives store delivery capture sessionId groupId next inserted) :
    Extends store next := by
  cases archives with
  | kept => exact LeavesArchive.extends ⟨rfl, rfl, rfl⟩
  | added captures fresh rows =>
      refine ⟨Nat.le_succ _, ?_, ?_⟩
      · intro row member
        dsimp only at member
        rw [rows, List.mem_append, List.mem_singleton] at member
        rcases member with old | rfl
        · exact .inl old
        · exact .inr ⟨Nat.lt_succ_self _, le_rfl⟩
      · intro row member upTo
        have others :
            (eventRows (store.lastCaptureRowId + 1) capture).filter
              (fun event => event.captureRowId = row.rowId) = [] := by
          refine List.filter_eq_nil_iff.2 fun event among => ?_
          obtain ⟨ordinal, inside, rfl⟩ := List.mem_mapIdx.1 among
          simp
          omega
        simp only [eventsOf, List.filter_append, others, List.append_nil]

/-- An archive retains every row. -/
theorem Archives.retains
    {inserted : Bool}
    (archives :
      Archives store delivery capture sessionId groupId next inserted) :
    Retains store next := by
  cases archives with
  | kept => exact fun _ => id
  | added captures fresh rows =>
      intro row member
      dsimp only
      rw [rows]
      exact List.mem_append_left _ member

/-- What is archived is in the archive. -/
theorem Archives.exists_row
    {inserted : Bool}
    (archives :
      Archives store delivery capture sessionId groupId next inserted) :
    ∃ row ∈ next.captures.rows, row.identity = capture.identity := by
  cases archives with
  | kept existing member same bytes => exact ⟨existing, member, same⟩
  | added captures fresh rows =>
      refine ⟨store.archiveRow delivery capture sessionId groupId, ?_, rfl⟩
      dsimp only
      rw [rows]
      exact List.mem_append_right _ List.mem_cons_self

/-- What both leaves rows in place and adds others above them. -/
structure Grows (store next : CaptureStore) : Prop where
  extends_ : Extends store next
  retains : Retains store next

namespace Grows

/-- What is left alone has not grown. -/
theorem of_same
    {store next : CaptureStore}
    (same : LeavesArchive store next) :
    Grows store next :=
  ⟨same.extends, same.retains⟩

/-- One growth after the other. -/
theorem trans
    {first second third : CaptureStore}
    (before : Grows first second)
    (after : Grows second third) :
    Grows first third :=
  ⟨before.extends_.trans after.extends_,
    fun row member => after.retains row (before.retains row member)⟩

end Grows

/-- An archive grows. -/
theorem Archives.grows
    {inserted : Bool}
    (archives :
      Archives store delivery capture sessionId groupId next inserted) :
    Grows store next :=
  ⟨archives.extends, archives.retains⟩

/-- `commit_delivery` lets the archive grow. -/
theorem Commits.grows
    {result : CoreCommitResult}
    (commits :
      Commits store delivery capture savePolicy sessionId groupId next
        result) :
    Grows store next := by
  cases commits with
  | repeated => exact .of_same ⟨rfl, rfl, rfl⟩
  | @decided _ _ kept recorded _ _ keeps records configurations =>
      have policy : Grows store kept := by
        cases keeps with
        | archived archives => exact archives.grows
        | rolling => exact .of_same ⟨rfl, rfl, rfl⟩
        | discarded => exact .of_same ⟨rfl, rfl, rfl⟩
      exact (policy.trans (.of_same records.leavesArchive)).trans
        (.of_same ⟨rfl, rfl, rfl⟩)

/-- A row after the end of a rolling capture was there, or is the capture. -/
theorem Moves.mem
    {sessionId : SessionId}
    (moves : Moves store sessionId next)
    {row : ArchivedCapture}
    (member : row ∈ next.captures.rows) :
    row ∈ store.captures.rows ∨
      ∃ rolling capture,
        store.latest (some sessionId) = some rolling ∧
          storedCapture rolling.delivery = .ok capture ∧
          row.identity = capture.identity ∧ row.groupId = rolling.groupId ∧
          ∀ old ∈ store.captures.rows, old.identity ≠ capture.identity := by
  cases moves with
  | unmoved => exact .inl member
  | moved rolling held capture stored archives moved =>
      rw [moved.captures] at member
      refine (archives.mem member).imp_right ?_
      rintro ⟨rfl, fresh⟩
      exact ⟨rolling, capture, held, stored, rfl, rfl, fresh⟩

/-- A rolling capture that has ended is in the archive. -/
theorem Moves.exists_row
    {sessionId : SessionId}
    (moves : Moves store sessionId next)
    {rolling : RollingCapture}
    (held : store.latest (some sessionId) = some rolling)
    {capture : CaptureData}
    (stored : storedCapture rolling.delivery = .ok capture) :
    ∃ row ∈ next.captures.rows, row.identity = capture.identity := by
  cases moves with
  | unmoved nothing => cases nothing.symm.trans held
  | moved other otherHeld otherCapture otherStored archives moved =>
      obtain rfl := Option.some.inj (otherHeld.symm.trans held)
      obtain rfl := Except.ok.inj (otherStored.symm.trans stored)
      rw [moved.captures]
      exact archives.exists_row

/-- The end of a rolling capture lets the archive grow. -/
theorem Moves.grows
    {sessionId : SessionId}
    (moves : Moves store sessionId next) :
    Grows store next := by
  cases moves with
  | unmoved => exact .of_same ⟨rfl, rfl, rfl⟩
  | moved rolling held capture stored archives moved =>
      exact archives.grows.trans (.of_same
        ⟨moved.captures, moved.captureEvents, moved.lastCaptureRowId⟩)

/-- The end of a session is the end of its rolling capture, if it has one. -/
theorem Finalizes.moves
    {summary : SessionSummary}
    (finalizes : Finalizes store summary savePolicy next) :
    ∃ moved, Moves store summary.sessionId moved ∧ LeavesArchive moved next ∨
      LeavesArchive store next := by
  cases finalizes with
  | @finalized moved moves stays =>
      refine ⟨moved, ?_⟩
      by_cases last : savePolicy = .saveLast
      · exact .inl ⟨moves last, ⟨rfl, rfl, rfl⟩⟩
      · rw [stays last]
        exact .inr ⟨rfl, rfl, rfl⟩

/-- The end of a session lets the archive grow. -/
theorem Finalizes.grows
    {summary : SessionSummary}
    (finalizes : Finalizes store summary savePolicy next) :
    Grows store next := by
  obtain ⟨moved, ⟨moves, same⟩ | same⟩ := finalizes.moves
  · exact moves.grows.trans (.of_same same)
  · exact .of_same same

/-- The frames superseded leave with their events, and no others. -/
theorem extends_supersede :
    Extends store (store.supersede savePolicy sessionId) := by
  unfold supersede
  split_ifs
  · refine ⟨le_rfl, fun row member => .inl (Table.mem_delete _ |>.1 member).1,
      ?_⟩
    intro row member upTo
    obtain ⟨known, other⟩ := (store.captures.mem_delete).1 member
    simp only [eventsOf, resolveAs, deleteArchived, List.filter_filter]
    refine List.filter_congr fun event among => ?_
    have kept :
        ∀ old ∈ store.captures.rows, old.rowId = row.rowId →
          ¬old.sessionId = sessionId := by
      intro old present rowId session
      obtain rfl := List.inj_on_of_nodup_map store.captures.uniqueId present
        known rowId
      simp [session] at other
    by_cases same : event.captureRowId = row.rowId
    · simpa [same] using kept
    · simp [same]
  · exact LeavesArchive.extends ⟨rfl, rfl, rfl⟩

/-- Only `SAVE_LAST` supersedes, and only rows of its session. -/
theorem mem_supersede
    {row : ArchivedCapture}
    (member : row ∈ store.captures.rows) :
    row ∈ (store.supersede savePolicy sessionId).captures.rows ∨
      savePolicy = .saveLast ∧ row.sessionId = sessionId := by
  unfold supersede
  split_ifs with last
  · by_cases session : row.sessionId = sessionId
    · exact .inr ⟨last, session⟩
    · exact .inl ((store.captures.mem_delete).2 ⟨member, by simpa using session⟩)
  · exact .inl member

/-- What is not superseded was there. -/
theorem mem_of_mem_supersede
    {row : ArchivedCapture}
    (member : row ∈ (store.supersede savePolicy sessionId).captures.rows) :
    row ∈ store.captures.rows := by
  unfold supersede at member
  split_ifs at member
  · exact ((store.captures.mem_delete).1 member).1
  · exact member

/-- What is not superseded belongs to another session. -/
theorem sessionId_ne_of_mem_supersede
    {row : ArchivedCapture}
    (member : row ∈ (store.supersede .saveLast sessionId).captures.rows) :
    row.sessionId ≠ sessionId := by
  rw [supersede, if_pos rfl] at member
  simpa using ((store.captures.mem_delete).1 member).2

/-- A late frame lets what is not superseded grow. -/
theorem KeepsLate.grows
    {resolution : CaptureResolution}
    (keeps :
      KeepsLate store delivery capture sessionId groupId savePolicy next
        resolution) :
    Grows store next := by
  cases keeps with
  | archived kept archives => exact archives.grows
  | discarded => exact .of_same ⟨rfl, rfl, rfl⟩

/-- `_commit_terminal_replay` lets what is not superseded grow. -/
theorem CommitsLate.grows
    {summary : SessionSummary}
    {result : CoreCommitResult}
    (commits :
      CommitsLate store delivery capture savePolicy sessionId groupId summary
        next result) :
    Grows (store.supersede savePolicy sessionId) next := by
  cases commits with
  | @decided kept recorded _ _ keeps records configurations finalizes =>
      have dropped :
          Grows recorded { recorded with configurations := configurations } :=
        .of_same ⟨rfl, rfl, rfl⟩
      exact ((keeps.grows.trans (.of_same records.leavesArchive)).trans
        dropped).trans finalizes.grows

/-- What a late frame of a `SAVE_LAST` session adds to the archive. -/
inductive AddsLate
    (store : CaptureStore)
    (capture : CaptureData)
    (groupId : Option GroupId)
    (summary : SessionSummary)
    (row : ArchivedCapture) :
    Prop where
  | replayed
      (identity : row.identity = capture.identity)
      (group : row.groupId = groupId) :
      AddsLate store capture groupId summary row
  | rolling
      (kept : RollingCapture)
      (held : store.latest (some summary.sessionId) = some kept)
      (keptCapture : CaptureData)
      (stored : storedCapture kept.delivery = .ok keptCapture)
      (other : keptCapture.identity ≠ capture.identity)
      (identity : row.identity = keptCapture.identity)
      (group : row.groupId = kept.groupId) :
      AddsLate store capture groupId summary row

/-- A row after a late frame was not superseded, or has been added. -/
theorem CommitsLate.mem
    {summary : SessionSummary}
    {result : CoreCommitResult}
    (commits :
      CommitsLate store delivery capture .saveLast sessionId groupId summary
        next result)
    {row : ArchivedCapture}
    (member : row ∈ next.captures.rows) :
    row ∈ (store.supersede .saveLast sessionId).captures.rows ∨
      AddsLate store capture groupId summary row := by
  cases commits with
  | @decided kept recorded _ _ keeps records configurations finalizes =>
      cases keeps with
      | archived _ archives =>
          have late (known : row ∈ recorded.captures.rows) :
              row ∈ (store.supersede .saveLast sessionId).captures.rows ∨
                AddsLate store capture groupId summary row := by
            rw [records.frame.captures] at known
            refine (archives.mem known).imp_right ?_
            rintro ⟨rfl, -⟩
            exact .replayed rfl rfl
          have latest : recorded.latest = store.latest :=
            records.frame.latest.trans archives.frame.latest
          obtain ⟨moved, ⟨moves, same⟩ | same⟩ := finalizes.moves
          · rw [same.captures] at member
            rcases moves.mem member with known |
              ⟨rolling, keptCapture, held, stored, identity, group, fresh⟩
            · exact late known
            · obtain ⟨replayed, archived, replayedIdentity⟩ :=
                archives.exists_row
              have other := fresh replayed
                (records.frame.captures.symm ▸ archived)
              exact .inr (.rolling rolling (latest ▸ held) keptCapture stored
                (fun same => other (replayedIdentity.trans same.symm))
                identity group)
          · exact late (same.captures ▸ member)

/-- The captures a late frame archives are in the archive. -/
theorem CommitsLate.exists_row
    {summary : SessionSummary}
    {result : CoreCommitResult}
    (commits :
      CommitsLate store delivery capture .saveLast sessionId groupId summary
        next result) :
    (∃ row ∈ next.captures.rows, row.identity = capture.identity) ∧
      ∀ kept keptCapture,
        store.latest (some summary.sessionId) = some kept →
        storedCapture kept.delivery = .ok keptCapture →
        ∃ row ∈ next.captures.rows, row.identity = keptCapture.identity := by
  cases commits with
  | @decided kept recorded _ _ keeps records configurations finalizes =>
      cases keeps with
      | archived _ archives =>
          have latest : recorded.latest = store.latest :=
            records.frame.latest.trans archives.frame.latest
          have recorded_ : recorded.captures = kept.captures :=
            records.frame.captures
          constructor
          · obtain ⟨row, member, same⟩ := archives.exists_row
            exact ⟨row, finalizes.grows.retains row (recorded_ ▸ member), same⟩
          · intro rolling keptCapture held stored
            cases finalizes with
            | finalized moves stays =>
                exact (moves rfl).exists_row (latest ▸ held) stored

end Operations

/-! ## Late frames -/

/-- The capture, the policy and the session of a delivery that supersedes what
its session has archived. -/
def superseding?
    (store : CaptureStore)
    (delivery : BridgeCaptureDelivery) :
    Option (CaptureData × DeliveryPolicyContext × SessionSummary) := do
  let capture ← (deliveredCapture delivery).toOption
  let context ← store.context? capture.device
  let summary ← store.closedSession? context.sessionId
  if (store.tombstones.selectKey capture.identity).isNone ∧
      context.savePolicy = .saveLast then
    some (capture, context, summary)
  else
    none

/-- What a delivery that supersedes has found. -/
theorem superseding?_eq_some
    {store : CaptureStore}
    {delivery : BridgeCaptureDelivery}
    {capture : CaptureData}
    {context : DeliveryPolicyContext}
    {summary : SessionSummary} :
    store.superseding? delivery = some (capture, context, summary) ↔
      deliveredCapture delivery = .ok capture ∧
        store.context? capture.device = some context ∧
        store.closedSession? context.sessionId = some summary ∧
        store.tombstones.selectKey capture.identity = none ∧
        context.savePolicy = .saveLast := by
  constructor
  · intro found
    obtain ⟨found₁, delivered, found⟩ := Option.bind_eq_some_iff.1 found
    obtain ⟨found₂, registered, found⟩ := Option.bind_eq_some_iff.1 found
    obtain ⟨found₃, closed, found⟩ := Option.bind_eq_some_iff.1 found
    split_ifs at found with undecided
    obtain ⟨rfl, rfl, rfl⟩ :
        found₁ = capture ∧ found₂ = context ∧ found₃ = summary := by
      simpa using Option.some.inj found
    refine ⟨?_, registered, closed, by simpa using undecided.1, undecided.2⟩
    cases decoded : deliveredCapture delivery with
    | error raised =>
        rw [decoded] at delivered
        cases delivered
    | ok held =>
        rw [decoded] at delivered
        rw [Option.some.inj delivered]
  · rintro ⟨delivered, registered, closed, undecided, last⟩
    simp [superseding?, delivered, Except.toOption, registered, closed,
      undecided, last]

/-- A late frame that supersedes. -/
structure Late
    (store : CaptureStore)
    (delivery : BridgeCaptureDelivery)
    (next : CaptureStore) :
    Prop where
  commits :
    ∃ capture context summary result,
      store.superseding? delivery = some (capture, context, summary) ∧
        CommitsLate store delivery capture .saveLast context.sessionId
          context.groupId summary next result

/-- A replayed capture lets the archive grow, or supersedes. -/
theorem Replays.grows_or_late
    {store next : CaptureStore}
    {delivery : BridgeCaptureDelivery}
    {capture : CaptureData}
    {result : CoreCommitResult}
    (delivered : deliveredCapture delivery = .ok capture)
    (replays : Replays store delivery capture next result) :
    Grows store next ∨ Late store delivery next := by
  cases replays with
  | repeated => exact .inl (.of_same ⟨rfl, rfl, rfl⟩)
  | direct undecided context registered isOpen commits =>
      exact .inl commits.grows
  | late undecided context registered summary closed commits =>
      by_cases last : context.savePolicy = .saveLast
      · rw [last] at commits
        exact .inr ⟨capture, context, summary, _,
          superseding?_eq_some.2 ⟨delivered, registered, closed, undecided, last⟩,
          commits⟩
      · have grows := commits.grows
        rw [supersede, if_neg last] at grows
        exact .inl grows

/-- A transaction lets the archive grow, supersedes or assigns. -/
theorem Performs.archive
    {store next : CaptureStore}
    {transaction : Transaction}
    {result : Option CoreCommitResult}
    (performs : Performs store transaction next result) :
    Grows store next ∨
      (∃ delivery, transaction = .commitReplayedDelivery delivery ∧
        Late store delivery next) ∨
      transaction.isCatalogued = true := by
  cases performs with
  | prepares preparation prepares =>
      exact .inl (.of_same ⟨prepares.captures, prepares.captureEvents,
        prepares.lastCaptureRowId⟩)
  | saves summary => exact .inl (.of_same ⟨rfl, rfl, rfl⟩)
  | commits capture delivered commits => exact .inl commits.grows
  | replays capture delivered replays =>
      exact (replays.grows_or_late delivered).imp_right
        fun late => .inl ⟨_, rfl, late⟩
  | moves moves => exact .inl moves.grows
  | finalizes summary closing terminal finalizes =>
      exact .inl finalizes.grows
  | regroups => exact .inr (.inr rfl)

end CaptureStore

namespace Catalogue

/-! ## The manual assignment -/

/-- One recorded call. -/
abbrev Call := Event Catalogue Operation Answer

/-- The call has assigned the capture to a group. -/
def Assigns
    (call : Call)
    (row : ArchivedCapture)
    (group : Option GroupId) :
    Prop :=
  ∃ captureIds groupId count,
    call.input = .assignCaptureGroup captureIds groupId ∧
      call.output = .assigned count ∧
      row.identity.captureId.toList ∈ captureIds ∧
      groupTarget groupId = .ok group

/-- The row under the group, if it is named. -/
def regrouped
    (captureIds : List (List UInt8))
    (group : Option GroupId)
    (row : ArchivedCapture) :
    ArchivedCapture :=
  if row.identity.captureId.toList ∈ captureIds then
    { row with groupId := group }
  else
    row

/-- The call has set the group of the named rows, each named by one id, and
nothing else. -/
structure AssignsAll
    (call : Call)
    (captureIds : List (List UInt8))
    (group : Option GroupId) :
    Prop where
  answer : call.output = .assigned captureIds.dedup.length
  named :
    ∀ captureId ∈ captureIds,
      ∃! row, row ∈ call.source.store.captures.rows ∧
        row.identity.captureId.toList = captureId
  rows :
    call.target.store.captures.rows =
      call.source.store.captures.rows.map (regrouped captureIds group)
  store :
    call.target.store =
      { call.source.store with captures := call.target.store.captures }
  experiments : call.target.experiments = call.source.experiments
  groups : call.target.groups = call.source.groups

/-- The assignment takes place as a whole or raises and changes nothing. -/
def AllOrNothing (call : Call) : Prop :=
  ∀ captureIds groupId, call.input = .assignCaptureGroup captureIds groupId →
    (∃ group, groupTarget groupId = .ok group ∧
      AssignsAll call captureIds group) ∨
    (∃ raised, call.output = .raised raised) ∧ call.target = call.source

/-- Sixteen bytes are those of their list. -/
theorem sixteenBytes_eq_some
    {bytes : List UInt8}
    {captureId : Bytes 16} :
    sixteenBytes bytes = some captureId ↔ captureId.toList = bytes := by
  unfold sixteenBytes
  split_ifs with long
  · constructor
    · intro same
      obtain rfl := Option.some.inj same
      rfl
    · rintro rfl
      rfl
  · constructor
    · intro same
      cases same
    · rintro rfl
      exact absurd captureId.toList_length long

/-- The distinct ids are those supplied, each once. -/
theorem distinctIds_eq_ok
    {captureIds : List (List UInt8)}
    {seen distinct : List (Bytes 16)}
    (collected : distinctIds seen captureIds = .ok distinct)
    (once : seen.Nodup) :
    distinct.Nodup ∧
      (∀ captureId, captureId ∈ distinct ↔
        captureId ∈ seen ∨ captureId.toList ∈ captureIds) ∧
      ∀ bytes ∈ captureIds, ∃ captureId : Bytes 16,
        captureId.toList = bytes := by
  induction captureIds generalizing seen with
  | nil =>
      obtain rfl := Except.ok.inj collected
      exact ⟨once, by simp, by simp⟩
  | cons bytes rest inductionHypothesis =>
      cases found : sixteenBytes bytes with
      | none =>
          simp [distinctIds, found] at collected
      | some captureId =>
          obtain rfl := sixteenBytes_eq_some.1 found
          simp only [distinctIds, found] at collected
          split_ifs at collected with known
          · obtain ⟨nodup, members, long⟩ :=
              inductionHypothesis collected once
            refine ⟨nodup, fun other => ?_, ?_⟩
            · rw [members, List.mem_cons]
              constructor
              · exact Or.imp_right .inr
              · rintro (before | same | later)
                · exact .inl before
                · exact .inl (List.Vector.toList_injective same ▸ known)
                · exact .inr later
            · exact List.forall_mem_cons.2 ⟨⟨captureId, rfl⟩, long⟩
          · obtain ⟨⟨⟩, -, collected⟩ := bind_eq_ok.1 collected
            have fresh : (seen ++ [captureId]).Nodup := by
              refine List.nodup_append.2 ⟨once, List.nodup_singleton _, ?_⟩
              rintro other member last isLast rfl
              exact known (List.mem_singleton.1 isLast ▸ member)
            obtain ⟨nodup, members, long⟩ := inductionHypothesis collected fresh
            refine ⟨nodup, fun other => ?_, ?_⟩
            · rw [members, List.mem_append, List.mem_singleton, List.mem_cons,
                or_assoc]
              refine or_congr_right (or_congr_left ?_)
              exact ⟨congrArg _, fun same => List.Vector.toList_injective same⟩
            · exact List.forall_mem_cons.2 ⟨⟨captureId, rfl⟩, long⟩

/-- The number of distinct ids. -/
theorem length_of_distinctIds
    {captureIds : List (List UInt8)}
    {distinct : List (Bytes 16)}
    (collected : distinctIds [] captureIds = .ok distinct) :
    distinct.length = captureIds.dedup.length := by
  obtain ⟨nodup, members, long⟩ :=
    distinctIds_eq_ok collected List.nodup_nil
  have texts : (distinct.map List.Vector.toList).Nodup :=
    nodup.map List.Vector.toList_injective
  have perm : (distinct.map List.Vector.toList).Perm captureIds.dedup := by
    refine (List.perm_ext_iff_of_nodup texts captureIds.nodup_dedup).2 ?_
    intro bytes
    rw [List.mem_dedup, List.mem_map]
    constructor
    · rintro ⟨captureId, member, rfl⟩
      exact ((members captureId).1 member).resolve_left List.not_mem_nil
    · intro supplied
      obtain ⟨captureId, rfl⟩ := long bytes supplied
      exact ⟨captureId, (members captureId).2 (.inr supplied), rfl⟩
  simpa using perm.length_eq

/-- The assignment succeeds with its result, or raises. -/
theorem assign_cases
    (catalogue : Catalogue)
    (captureIds : List (List UInt8))
    (groupId : Option String) :
    (∃ store count next,
      catalogue.assignCaptureGroup captureIds groupId = .ok (store, count) ∧
        catalogue.assign captureIds groupId = (next, .assigned count) ∧
        next.store = store ∧ next.experiments = catalogue.experiments ∧
        next.groups = catalogue.groups) ∨
      ∃ raised, catalogue.assign captureIds groupId =
        (catalogue, .raised raised) := by
  unfold assign
  split
  · rename_i result assigned
    exact .inl ⟨result.1, result.2, _, assigned, rfl, rfl, rfl, rfl⟩
  · rename_i raised assigned
    exact .inr ⟨raised, rfl⟩

/-- The only element with a property counted once. -/
theorem existsUnique_of_countP
    {Row : Type}
    {rows : List Row}
    {property : Row → Prop}
    [DecidablePred property]
    (counted : rows.countP (fun row => property row) = 1) :
    ∃! row, row ∈ rows ∧ property row := by
  rw [List.countP_eq_length_filter] at counted
  obtain ⟨row, only⟩ := List.length_eq_one_iff.1 counted
  have members (other : Row) :
      other ∈ rows ∧ property other ↔ other = row := by
    rw [← List.mem_singleton, ← only, List.mem_filter, decide_eq_true_eq]
  exact ⟨row, (members row).2 rfl, fun other => (members other).1⟩

/-- Every assignment takes place as a whole or not at all. -/
theorem allOrNothing
    (catalogue : Catalogue)
    (operation : Operation) :
    AllOrNothing (machine.event catalogue operation) := by
  rintro captureIds groupId rfl
  rcases catalogue.assign_cases captureIds groupId with
    ⟨store, count, next, assigned, done, rfl, experiments, groups⟩ |
      ⟨raised, failed⟩
  · obtain ⟨distinct, collected, assigned⟩ := bind_eq_ok.1 assigned
    obtain ⟨⟨⟩, -, assigned⟩ := bind_eq_ok.1 assigned
    obtain ⟨group, target, assigned⟩ := bind_eq_ok.1 assigned
    obtain ⟨assignedStore, assigns, final⟩ := bind_eq_ok.1 assigned
    obtain ⟨rfl, rfl⟩ := Prod.mk.inj (Except.ok.inj final)
    obtain ⟨⟨⟩, -, assigns⟩ := bind_eq_ok.1 assigns
    obtain ⟨⟨⟩, counted, assigns⟩ := bind_eq_ok.1 assigns
    have assigns := Except.ok.inj assigns
    obtain ⟨-, members, long⟩ := distinctIds_eq_ok collected List.nodup_nil
    have among (captureId : Bytes 16) :
        captureId ∈ distinct ↔ captureId.toList ∈ captureIds := by
      simp [members]
    refine .inl ⟨group, target, ?_⟩
    have target_ :
        (machine.event catalogue
          (.assignCaptureGroup captureIds groupId)).target = next :=
      congrArg Prod.fst done
    have output_ :
        (machine.event catalogue
          (.assignCaptureGroup captureIds groupId)).output =
            .assigned distinct.length :=
      congrArg Prod.snd done
    constructor
    · rw [output_, length_of_distinctIds collected]
    · intro bytes supplied
      obtain ⟨captureId, rfl⟩ := long bytes supplied
      have one := forM_eq_ok.1 counted captureId ((among captureId).2 supplied)
      simpa only [List.Vector.toList_injective.eq_iff,
        Machine.event_source] using
        existsUnique_of_countP (require_eq_ok.1 one)
    · rw [target_, ← assigns]
      refine List.map_congr_left fun row _ => ?_
      simp only [regrouped, among]
    · rw [target_, ← assigns]
      rfl
    · rw [target_]
      exact experiments
    · rw [target_]
      exact groups
  · exact .inr ⟨⟨raised, congrArg Prod.snd failed⟩, congrArg Prod.fst failed⟩

/-! ## The other calls -/

/-- Any other call performs its transaction, or raises. -/
theorem transact_cases
    (catalogue : Catalogue)
    (transaction : Transaction)
    (other : transaction.isCatalogued = false) :
    (∃ result next,
      catalogue.transact transaction other = (next, .committed result) ∧
        CaptureStore.Performs catalogue.store transaction next.store
          result) ∨
      ∃ raised, catalogue.transact transaction other =
        (catalogue, .raised raised) := by
  unfold transact
  split
  · rename_i next result performed
    exact .inl ⟨result, _, rfl, CaptureStore.perform_performs performed⟩
  · rename_i raised performed
    exact .inr ⟨raised, rfl⟩

/-- An edit leaves the archive when its result does. -/
theorem grows_of_edit
    {catalogue : Catalogue}
    {operation : Operation}
    {result : Except Raised Catalogue}
    (edits : machine.step catalogue operation = catalogue.edit result)
    (same :
      ∀ next, result = .ok next →
        CaptureStore.LeavesArchive catalogue.store next.store) :
    CaptureStore.Grows catalogue.store
      (machine.event catalogue operation).target.store := by
  have target :
      (machine.event catalogue operation).target =
        (catalogue.edit result).1 :=
    congrArg Prod.fst edits
  rw [target]
  cases result with
  | ok next => exact .of_same (same next rfl)
  | error raised => exact .of_same ⟨rfl, rfl, rfl⟩

section Edits

variable {catalogue next : Catalogue} {now : Int}

/-- A new experiment leaves the archive. -/
theorem createExperiment_leavesArchive
    {experimentId : ExperimentId}
    {name notes : String}
    (created :
      catalogue.createExperiment experimentId now name notes = .ok next) :
    CaptureStore.LeavesArchive catalogue.store next.store := by
  obtain ⟨name, -, created⟩ := bind_eq_ok.1 created
  obtain ⟨notes, -, created⟩ := bind_eq_ok.1 created
  obtain ⟨⟨⟩, -, created⟩ := bind_eq_ok.1 created
  obtain rfl := Except.ok.inj created
  exact ⟨rfl, rfl, rfl⟩

/-- The edit of an experiment leaves the archive. -/
theorem updateExperiment_leavesArchive
    {experimentId : String}
    {changes : ExperimentChanges}
    (updated :
      catalogue.updateExperiment experimentId now changes = .ok next) :
    CaptureStore.LeavesArchive catalogue.store next.store := by
  obtain ⟨experimentId, -, updated⟩ := bind_eq_ok.1 updated
  obtain ⟨⟨⟩, -, updated⟩ := bind_eq_ok.1 updated
  obtain ⟨name, -, updated⟩ := bind_eq_ok.1 updated
  obtain ⟨notes, -, updated⟩ := bind_eq_ok.1 updated
  split at updated
  · cases updated
  · split_ifs at updated
    · obtain rfl := Except.ok.inj updated
      exact ⟨rfl, rfl, rfl⟩
    · obtain rfl := Except.ok.inj updated
      exact ⟨rfl, rfl, rfl⟩

/-- A new group leaves the archive. -/
theorem createGroup_leavesArchive
    {experimentId : String}
    {groupId : GroupId}
    {name cellId notes : String}
    (created :
      catalogue.createGroup experimentId groupId now name cellId notes =
        .ok next) :
    CaptureStore.LeavesArchive catalogue.store next.store := by
  obtain ⟨experimentId, -, created⟩ := bind_eq_ok.1 created
  obtain ⟨name, -, created⟩ := bind_eq_ok.1 created
  obtain ⟨cellId, -, created⟩ := bind_eq_ok.1 created
  obtain ⟨notes, -, created⟩ := bind_eq_ok.1 created
  split_ifs at created with owner
  obtain ⟨⟨⟩, -, created⟩ := bind_eq_ok.1 created
  obtain rfl := Except.ok.inj created
  exact ⟨rfl, rfl, rfl⟩

/-- The edit of a group leaves the archive. -/
theorem updateGroup_leavesArchive
    {groupId : String}
    {changes : GroupChanges}
    (updated : catalogue.updateGroup groupId now changes = .ok next) :
    CaptureStore.LeavesArchive catalogue.store next.store := by
  obtain ⟨groupId, -, updated⟩ := bind_eq_ok.1 updated
  obtain ⟨⟨⟩, -, updated⟩ := bind_eq_ok.1 updated
  obtain ⟨name, -, updated⟩ := bind_eq_ok.1 updated
  obtain ⟨cellId, -, updated⟩ := bind_eq_ok.1 updated
  obtain ⟨notes, -, updated⟩ := bind_eq_ok.1 updated
  split at updated
  · cases updated
  · split_ifs at updated
    · obtain rfl := Except.ok.inj updated
      exact ⟨rfl, rfl, rfl⟩
    · obtain rfl := Except.ok.inj updated
      exact ⟨rfl, rfl, rfl⟩

end Edits

/-- What a call does to the archive, unless it assigns. -/
theorem event_archive
    (catalogue : Catalogue)
    (operation : Operation) :
    CaptureStore.Grows catalogue.store
        (machine.event catalogue operation).target.store ∨
      (∃ delivery other,
        operation = .transact (.commitReplayedDelivery delivery) other ∧
          CaptureStore.Late catalogue.store delivery
            (machine.event catalogue operation).target.store) ∨
      ∃ captureIds groupId,
        operation = .assignCaptureGroup captureIds groupId := by
  cases operation with
  | createExperiment experimentId now name notes =>
      have edits :
          machine.step catalogue (.createExperiment experimentId now name notes) =
            catalogue.edit
              (catalogue.createExperiment experimentId now name notes) := by
        rw [machine]
      exact .inl (grows_of_edit edits
        fun _ done => createExperiment_leavesArchive done)
  | updateExperiment experimentId now changes =>
      have edits :
          machine.step catalogue (.updateExperiment experimentId now changes) =
            catalogue.edit
              (catalogue.updateExperiment experimentId now changes) := by
        rw [machine]
      exact .inl (grows_of_edit edits
        fun _ done => updateExperiment_leavesArchive done)
  | createGroup experimentId groupId now name cellId notes =>
      have edits :
          machine.step catalogue (.createGroup experimentId groupId now name cellId notes) =
            catalogue.edit
              (catalogue.createGroup experimentId groupId now name cellId notes) := by
        rw [machine]
      exact .inl (grows_of_edit edits
        fun _ done => createGroup_leavesArchive done)
  | updateGroup groupId now changes =>
      have edits :
          machine.step catalogue (.updateGroup groupId now changes) =
            catalogue.edit
              (catalogue.updateGroup groupId now changes) := by
        rw [machine]
      exact .inl (grows_of_edit edits
        fun _ done => updateGroup_leavesArchive done)
  | assignCaptureGroup captureIds groupId =>
      exact .inr (.inr ⟨captureIds, groupId, rfl⟩)
  | transact transaction other =>
      rcases catalogue.transact_cases transaction other with
        ⟨result, next, done, performs⟩ | ⟨raised, failed⟩
      · have target :
            (machine.event catalogue (.transact transaction other)).target =
              next :=
          congrArg Prod.fst done
        rw [target]
        rcases performs.archive with grows | ⟨delivery, rfl, late⟩ | catalogued
        · exact .inl grows
        · exact .inr (.inl ⟨delivery, other, rfl, late⟩)
        · rw [other] at catalogued
          cases catalogued
      · have target :
            (machine.event catalogue (.transact transaction other)).target =
              catalogue :=
          congrArg Prod.fst failed
        rw [target]
        exact .inl (.of_same ⟨rfl, rfl, rfl⟩)

/-! ## The laws -/

/-- A row is the same capture, under the group it had or one it was assigned to
by name. Ids of rows are never used again. -/
structure Immutable (record : List Call) (call : Call) : Prop where
  frame :
    ∀ row ∈ call.source.store.captures.rows,
      ∀ later ∈ call.target.store.captures.rows, later.rowId = row.rowId →
        later = { row with groupId := later.groupId } ∧
          call.target.store.eventsOf row.rowId =
            call.source.store.eventsOf row.rowId ∧
          (later.groupId = row.groupId ∨ Assigns call row later.groupId)
  unused :
    ∀ later ∈ call.target.store.captures.rows,
      (∀ row ∈ call.source.store.captures.rows, row.rowId ≠ later.rowId) →
      ∀ earlier ∈ record ++ [call],
        ∀ row ∈ earlier.source.store.captures.rows, row.rowId < later.rowId
  assigned : AllOrNothing call

/-- An archived capture stays under its group unless it is assigned to another
one by name. -/
def KeepsGroups (call : Call) : Prop :=
  ∀ row ∈ call.source.store.captures.rows,
    ∀ later ∈ call.target.store.captures.rows, later.identity = row.identity →
      later.groupId = row.groupId ∨ Assigns call row later.groupId

/-- The rows a late frame supersedes are under the groups it archives their
captures under, if it does. -/
def Spares (store : CaptureStore) (delivery : BridgeCaptureDelivery) : Prop :=
  ∀ capture context summary,
    store.superseding? delivery = some (capture, context, summary) →
    ∀ row ∈ store.captures.rows, row.sessionId = context.sessionId →
      (row.identity = capture.identity → row.groupId = context.groupId) ∧
      ∀ kept keptCapture,
        store.latest (some summary.sessionId) = some kept →
        CaptureStore.storedCapture kept.delivery = .ok keptCapture →
        keptCapture.identity ≠ capture.identity →
        row.identity = keptCapture.identity → row.groupId = kept.groupId

/-- The call archives no capture again under another group. -/
def SparesArchived (call : Call) : Prop :=
  ∀ delivery other,
    call.input = .transact (.commitReplayedDelivery delivery) other →
    Spares call.source.store delivery

/-- What an assignment leaves of a row. -/
theorem AssignsAll.row
    {call : Call}
    {captureIds : List (List UInt8)}
    {group : Option GroupId}
    (assigns : AssignsAll call captureIds group)
    {later : ArchivedCapture}
    (member : later ∈ call.target.store.captures.rows) :
    ∃ row ∈ call.source.store.captures.rows,
      later = regrouped captureIds group row := by
  rw [assigns.rows] at member
  obtain ⟨row, known, rfl⟩ := List.mem_map.1 member
  exact ⟨row, known, rfl⟩

/-- The row under a group has every other value. -/
theorem regrouped_eq
    (captureIds : List (List UInt8))
    (group : Option GroupId)
    (row : ArchivedCapture) :
    regrouped captureIds group row =
      { row with groupId := (regrouped captureIds group row).groupId } := by
  unfold regrouped
  split_ifs <;> rfl

/-- A row that is not named stays under its group. -/
theorem groupId_regrouped
    (captureIds : List (List UInt8))
    (group : Option GroupId)
    (row : ArchivedCapture) :
    (regrouped captureIds group row).groupId = row.groupId ∨
      row.identity.captureId.toList ∈ captureIds ∧
        (regrouped captureIds group row).groupId = group := by
  unfold regrouped
  split_ifs with named
  · exact .inr ⟨named, rfl⟩
  · exact .inl rfl

/-- An assignment changes the groups of the rows it names. -/
theorem AssignsAll.keeps
    {call : Call}
    {captureIds : List (List UInt8)}
    {groupId : Option String}
    {group : Option GroupId}
    (input : call.input = .assignCaptureGroup captureIds groupId)
    (target : groupTarget groupId = .ok group)
    (assigns : AssignsAll call captureIds group)
    (row : ArchivedCapture) :
    (regrouped captureIds group row).groupId = row.groupId ∨
      Assigns call row (regrouped captureIds group row).groupId := by
  refine (groupId_regrouped captureIds group row).imp_right ?_
  rintro ⟨named, same⟩
  exact ⟨captureIds, groupId, _, input, assigns.answer, named,
    target.trans (congrArg Except.ok same.symm)⟩

/-- The ids that have been given out. -/
structure Numbered (record : List Call) (catalogue : Catalogue) : Prop where
  issued : catalogue.store.Issued
  earlier :
    ∀ call ∈ record, ∀ row ∈ call.source.store.captures.rows,
      row.rowId ≤ catalogue.store.lastCaptureRowId

section Step

variable {record : List Call} {catalogue : Catalogue}

/-- What a call that does not assign does to the ids. -/
theorem extends_of_event
    {operation : Operation}
    (other : ∀ captureIds groupId,
      operation ≠ .assignCaptureGroup captureIds groupId) :
    CaptureStore.Extends catalogue.store
      (machine.event catalogue operation).target.store := by
  rcases catalogue.event_archive operation with
    grows | ⟨delivery, _, -, late⟩ | ⟨captureIds, groupId, rfl⟩
  · exact grows.extends_
  · obtain ⟨capture, context, summary, result, -, commits⟩ := late.commits
    exact CaptureStore.extends_supersede.trans commits.grows.extends_
  · exact absurd rfl (other captureIds groupId)

/-- Every call gives out the ids it uses. -/
theorem issued_of_event
    (issued : catalogue.store.Issued)
    (operation : Operation) :
    (machine.event catalogue operation).target.store.Issued ∧
      catalogue.store.lastCaptureRowId ≤
        (machine.event catalogue operation).target.store.lastCaptureRowId := by
  by_cases assigns : ∃ captureIds groupId,
      operation = .assignCaptureGroup captureIds groupId
  · obtain ⟨captureIds, groupId, rfl⟩ := assigns
    rcases catalogue.allOrNothing _ captureIds groupId rfl with
      ⟨group, target, assigns⟩ | ⟨-, same⟩
    · have counter := congrArg CaptureStore.lastCaptureRowId assigns.store
      refine ⟨fun later member => ?_, counter.ge⟩
      obtain ⟨row, known, rfl⟩ := assigns.row member
      rw [counter, regrouped_eq]
      exact issued row known
    · rw [same]
      exact ⟨issued, le_rfl⟩
  · have extends_ := catalogue.extends_of_event
      fun captureIds groupId same => assigns ⟨captureIds, groupId, same⟩
    exact ⟨issued.extends extends_, extends_.counter⟩

/-- Every call keeps the ids. -/
theorem Numbered.step
    (numbered : Numbered record catalogue)
    (operation : Operation) :
    Numbered (record ++ [machine.event catalogue operation])
      (machine.event catalogue operation).target := by
  obtain ⟨issued, counter⟩ := issued_of_event numbered.issued operation
  refine ⟨issued, fun call member row known => ?_⟩
  rcases List.mem_append.1 member with before | now
  · exact (numbered.earlier call before row known).trans counter
  · obtain rfl := List.mem_singleton.1 now
    exact (numbered.issued row known).2.trans counter

/-- Every call leaves archived captures as they are. -/
theorem Numbered.immutable
    (numbered : Numbered record catalogue)
    (operation : Operation) :
    Immutable record (machine.event catalogue operation) := by
  have below :
      ∀ earlier ∈ record ++ [machine.event catalogue operation],
        ∀ row ∈ earlier.source.store.captures.rows,
          row.rowId ≤ catalogue.store.lastCaptureRowId := by
    intro earlier member row known
    rcases List.mem_append.1 member with before | now
    · exact numbered.earlier earlier before row known
    · obtain rfl := List.mem_singleton.1 now
      exact (numbered.issued row known).2
  by_cases assigns : ∃ captureIds groupId,
      operation = .assignCaptureGroup captureIds groupId
  · obtain ⟨captureIds, groupId, rfl⟩ := assigns
    rcases catalogue.allOrNothing _ captureIds groupId rfl with
      ⟨group, target, assigns⟩ | ⟨-, same⟩
    · refine ⟨?_, ?_, catalogue.allOrNothing _⟩
      · intro row known later member rowId
        obtain ⟨old, present, rfl⟩ := assigns.row member
        rw [regrouped_eq] at rowId
        obtain rfl := List.inj_on_of_nodup_map
          catalogue.store.captures.uniqueId present known rowId
        refine ⟨regrouped_eq .., ?_, assigns.keeps rfl target old⟩
        rw [assigns.store]
        rfl
      · intro later member fresh
        obtain ⟨old, present, rfl⟩ := assigns.row member
        refine absurd ?_ (fresh old present)
        rw [regrouped_eq]
    · refine ⟨?_, ?_, catalogue.allOrNothing _⟩
      · intro row known later member rowId
        rw [same] at member ⊢
        obtain rfl := List.inj_on_of_nodup_map
          catalogue.store.captures.uniqueId member known rowId
        exact ⟨rfl, rfl, .inl rfl⟩
      · intro later member fresh
        rw [same] at member
        exact absurd rfl (fresh later member)
  · have extends_ := catalogue.extends_of_event
      fun captureIds groupId same => assigns ⟨captureIds, groupId, same⟩
    refine ⟨?_, ?_, catalogue.allOrNothing operation⟩
    · intro row known later member rowId
      obtain rfl := extends_.eq_of_rowId numbered.issued known member rowId
      exact ⟨rfl, extends_.events later member (numbered.issued later known).2,
        .inl rfl⟩
    · intro later member fresh earlier among row known
      rcases extends_.rows later member with present | ⟨above, -⟩
      · exact absurd rfl (fresh later present)
      · exact (below earlier among row known).trans_lt above

/-- A call that archives nothing again keeps the groups. -/
theorem Numbered.keepsGroups
    (numbered : Numbered record catalogue)
    (operation : Operation)
    (spares : SparesArchived (machine.event catalogue operation)) :
    KeepsGroups (machine.event catalogue operation) := by
  intro row known later member identity
  rcases catalogue.event_archive operation with
    grows | ⟨delivery, other, rfl, late⟩ | ⟨captureIds, groupId, rfl⟩
  · rw [grows.retains.eq_of_identity known member identity]
    exact .inl rfl
  · obtain ⟨capture, context, summary, result, superseding, commits⟩ :=
      late.commits
    rcases CaptureStore.mem_supersede known with kept | ⟨-, session⟩
    · rw [commits.grows.retains.eq_of_identity kept member identity]
      exact .inl rfl
    · obtain ⟨replayed, rolling⟩ := spares delivery other rfl capture context
        summary superseding row known session
      rcases commits.mem member with survived | added
      · obtain rfl := List.inj_on_of_nodup_map
          catalogue.store.captures.uniqueKey
          (CaptureStore.mem_of_mem_supersede survived) known identity
        exact .inl rfl
      · cases added with
        | replayed same group =>
            exact .inl (group.trans (replayed (identity.symm.trans same)).symm)
        | rolling kept held keptCapture stored different same group =>
            exact .inl (group.trans (rolling kept keptCapture held stored
              different (identity.symm.trans same)).symm)
  · have immutable :=
      numbered.immutable (.assignCaptureGroup captureIds groupId)
    refine (immutable.frame row known later member ?_).2.2
    rcases catalogue.allOrNothing _ captureIds groupId rfl with
      ⟨group, target, assigns⟩ | ⟨-, same⟩
    · obtain ⟨old, present, rfl⟩ := assigns.row member
      rw [regrouped_eq] at identity ⊢
      rw [List.inj_on_of_nodup_map catalogue.store.captures.uniqueKey present
        known identity]
    · rw [same] at member
      rw [List.inj_on_of_nodup_map catalogue.store.captures.uniqueKey member
        known identity]

/-- A late frame that is archived keeps the groups only if it archives nothing
again under another group. -/
theorem spares_of_keepsGroups
    {delivery : BridgeCaptureDelivery}
    {other :
      (Transaction.commitReplayedDelivery delivery).isCatalogued = false}
    (late :
      CaptureStore.Late catalogue.store delivery
        (machine.event catalogue
          (.transact (.commitReplayedDelivery delivery) other)).target.store)
    (keeps :
      KeepsGroups
        (machine.event catalogue
          (.transact (.commitReplayedDelivery delivery) other))) :
    Spares catalogue.store delivery := by
  obtain ⟨capture, context, summary, result, superseding, commits⟩ :=
    late.commits
  intro capture' context' summary' found row known session
  obtain ⟨rfl, rfl, rfl⟩ :
      capture' = capture ∧ context' = context ∧ summary' = summary := by
    simpa using Option.some.inj (found.symm.trans superseding)
  have same
      {later : ArchivedCapture}
      (member : later ∈ (machine.event catalogue
        (.transact (.commitReplayedDelivery delivery) other)
          ).target.store.captures.rows)
      (identity : later.identity = row.identity) :
      row.groupId = later.groupId ∧
        CaptureStore.AddsLate catalogue.store capture' context'.groupId summary'
          later := by
    refine ⟨?_, ?_⟩
    · rcases keeps row known later member identity with same | assigns
      · exact same.symm
      · obtain ⟨captureIds, groupId, count, input, -⟩ := assigns
        cases input
    · refine (commits.mem member).resolve_left fun survived => ?_
      have other := CaptureStore.sessionId_ne_of_mem_supersede survived
      rw [List.inj_on_of_nodup_map catalogue.store.captures.uniqueKey
        (CaptureStore.mem_of_mem_supersede survived) known identity] at other
      exact other session
  obtain ⟨replayed, rolling⟩ := commits.exists_row
  constructor
  · intro identity
    obtain ⟨later, member, captured⟩ := replayed
    obtain ⟨group, added⟩ := same member (captured.trans identity.symm)
    cases added with
    | replayed _ kept => exact group.trans kept
    | rolling _ _ keptCapture _ different captured' =>
        exact absurd (captured'.symm.trans captured) different
  · intro kept keptCapture held stored different identity
    obtain ⟨later, member, captured⟩ := rolling kept keptCapture held stored
    obtain ⟨group, added⟩ := same member (captured.trans identity.symm)
    cases added with
    | replayed captured' =>
        exact absurd (captured.symm.trans captured') different
    | rolling kept' held' _ _ _ _ group' =>
        obtain rfl := Option.some.inj (held.symm.trans held')
        exact group.trans group'

end Step

/-- Rows and their events are immutable in every run, and in every run that
archives no capture again under another group captures keep their groups. -/
theorem archive_immutable
    (operations : List Operation) :
    EveryStep Immutable (machine.trace empty operations) ∧
      (EveryStep (fun _ call => SparesArchived call)
          (machine.trace empty operations) →
        EveryStep (fun _ call => KeepsGroups call)
          (machine.trace empty operations)) := by
  have start : Numbered [] empty :=
    ⟨by simp [CaptureStore.Issued, empty, CaptureStore.empty], by simp⟩
  constructor
  · exact machine.everyStep_of_invariant Numbered start
      (fun _ _ operation numbered _ => numbered.step operation)
      (fun _ _ operation numbered _ => numbered.immutable operation)
      operations (fun _ _ _ _ => trivial)
  · exact machine.everyStep_of_invariant Numbered start
      (fun _ _ operation numbered _ => numbered.step operation)
      (fun _ _ operation numbered spares =>
        numbered.keepsGroups operation spares)
      operations

end Catalogue

end Usac.Host
