import Usac.Host.ArchiveImmutability

namespace Usac.Host

open Library

/-!
# The pages of the capture history

`list_captures` shows the archived captures that a filter selects, a page at a
time, and each page is a transaction of its own. A reader that starts at zero
and follows the cursor meets the rows in the order of their ids, whatever is
committed, assigned or superseded between two pages, and since ids are never
used again the number of rows bounds the number of pages.
-/

/-- The filter of a query. -/
structure CaptureFilter where
  sessionId : Option String
  experimentId : Option String
  groupId : Option String
  ungrouped : Bool
  deriving DecidableEq

/-- A filter whose ids have been read. -/
structure Selection where
  sessionId : Option SessionId
  experimentId : Option ExperimentId
  groupId : Option GroupId
  ungrouped : Bool
  deriving DecidableEq

/-- `CaptureSummary`. -/
structure CaptureSummary where
  rowId : Nat
  captureId : Bytes 16
  deviceId : Bytes 16
  bootId : Bytes 16
  captureSequence : UInt32
  sampleIntervalTicks : UInt16
  sampleCount : UInt16
  pretriggerCount : UInt16
  storedUtcNs : UInt64
  sessionId : Option SessionId
  groupId : Option GroupId
  experimentId : Option ExperimentId
  groupName : Option String
  experimentName : Option String
  cellId : Option String
  deriving DecidableEq

/-- The checks of `list_captures` before its transaction. -/
def CaptureFilter.selection (filter : CaptureFilter) :
    Except Raised Selection := do
  let sessionId ← filter.sessionId.mapM validateSessionId
  require (¬(filter.ungrouped = true ∧
      (filter.experimentId.isSome ∨ filter.groupId.isSome)))
    (.valueError "ungrouped cannot be combined with experiment_id or group_id")
  let experimentId ←
    filter.experimentId.mapM (validateEntityId · "experiment_id")
  let groupId ← filter.groupId.mapM (validateEntityId · "group_id")
  pure ⟨sessionId, experimentId, groupId, filter.ungrouped⟩

namespace Catalogue

/-- The check of the experiment of a selection. -/
def checkExperiment
    (catalogue : Catalogue)
    (experimentId : Option ExperimentId) :
    Except Raised Unit :=
  match experimentId with
  | none => .ok ()
  | some experimentId =>
      require ((catalogue.experiments experimentId).isSome = true)
        (unknownEntity experimentId)

/-- The check of the group of a selection. -/
def checkGroup
    (catalogue : Catalogue)
    (experimentId : Option ExperimentId)
    (groupId : Option GroupId) :
    Except Raised Unit :=
  match groupId with
  | none => .ok ()
  | some groupId =>
      match catalogue.groups groupId with
      | none => .error (unknownEntity groupId)
      | some owner =>
          require (∀ wanted ∈ experimentId, owner.experimentId = wanted)
            (.valueError "group_id does not belong to experiment_id")

/-- The group of a row. -/
def groupOf
    (catalogue : Catalogue)
    (row : ArchivedCapture) :
    Option ExperimentGroup :=
  row.groupId.bind catalogue.groups

/-- Whether a row is selected. -/
def selects
    (catalogue : Catalogue)
    (selection : Selection)
    (row : ArchivedCapture) :
    Bool :=
  (∀ wanted ∈ selection.sessionId, row.sessionId = some wanted) ∧
    (∀ wanted ∈ selection.experimentId,
      (catalogue.groupOf row).map ExperimentGroup.experimentId = some wanted) ∧
    (∀ wanted ∈ selection.groupId, row.groupId = some wanted) ∧
    (selection.ungrouped = true → row.groupId = none)

/-- The selected rows, in the order of their ids. -/
def selected
    (catalogue : Catalogue)
    (selection : Selection) :
    List ArchivedCapture :=
  (catalogue.store.captures.rows.filter
    (catalogue.selects selection)).insertionSort
      fun first second => first.rowId ≤ second.rowId

/-- What is shown of a row. -/
def summary (catalogue : Catalogue) (row : ArchivedCapture) :
    CaptureSummary where
  rowId := row.rowId
  captureId := row.identity.captureId
  deviceId := row.identity.device.deviceId
  bootId := row.identity.device.bootId
  captureSequence := row.columns.captureSequence
  sampleIntervalTicks := row.columns.sampleIntervalTicks
  sampleCount := row.columns.sampleCount
  pretriggerCount := row.columns.pretriggerCount
  storedUtcNs := row.columns.storedUtcNs
  sessionId := row.sessionId
  groupId := row.groupId
  experimentId := (catalogue.groupOf row).map ExperimentGroup.experimentId
  groupName := (catalogue.groupOf row).map ExperimentGroup.name
  experimentName :=
    ((catalogue.groupOf row).bind fun group =>
      catalogue.experiments group.experimentId).map Experiment.name
  cellId := (catalogue.groupOf row).map ExperimentGroup.cellId

/-- The id of a row, as a cursor. -/
def cursorOf (row : ArchivedCapture) : Int :=
  row.rowId

/-- `list_captures`. -/
def listCaptures
    (catalogue : Catalogue)
    (afterRowId limit : Int)
    (filter : CaptureFilter) :
    Except Raised (List CaptureSummary × Option Int) := do
  require (0 ≤ afterRowId)
    (.valueError "after_row_id must not be negative")
  require (1 ≤ limit ∧ limit ≤ 100) (.valueError "limit must be in 1..100")
  let selection ← filter.selection
  catalogue.checkExperiment selection.experimentId
  catalogue.checkGroup selection.experimentId selection.groupId
  let shown :=
    page cursorOf limit.toNat afterRowId (catalogue.selected selection)
  pure (shown.rows.map catalogue.summary, shown.next)

/-! ## A reader -/

/-- A store that is read page by page. The cursor is `none` after the last
page. -/
structure Browsing where
  catalogue : Catalogue
  cursor : Option Int

/-- A call on the store, or the reader asks for a page. -/
inductive Turn where
  | operate (operation : Operation)
  | read

/-- What a turn returns. -/
inductive Shown where
  | answered (answer : Answer)
  | page (items : List CaptureSummary) (next : Option Int)
  | failed (raised : Raised)
  | finished
  deriving DecidableEq

/-- The reader's turn. -/
def readPage
    (limit : Int)
    (filter : CaptureFilter)
    (browsing : Browsing) :
    Browsing × Shown :=
  match browsing.cursor with
  | none => (browsing, .finished)
  | some cursor =>
      match browsing.catalogue.listCaptures cursor limit filter with
      | .error raised => (browsing, .failed raised)
      | .ok (items, next) =>
          ({ browsing with cursor := next }, .page items next)

/-- A walk through the pages, among other calls on the store. -/
def browse (limit : Int) (filter : CaptureFilter) :
    Machine Browsing Turn Shown where
  step browsing
    | .operate operation =>
        let done := machine.step browsing.catalogue operation
        ({ browsing with catalogue := done.1 }, .answered done.2)
    | .read => readPage limit filter browsing

/-- A new store and a reader before its first page. -/
def opened : Browsing := ⟨empty, some 0⟩

/-- One recorded turn. -/
abbrev TurnEvent := Event Browsing Turn Shown

/-- The items of a page. -/
def itemsOf (turn : TurnEvent) : Option (List CaptureSummary) :=
  match turn.output with
  | .page items _ => some items
  | _ => none

/-- The ids of the rows that have been returned, in order. -/
def returned (record : List TurnEvent) : List Nat :=
  (record.filterMap itemsOf).flatten.map CaptureSummary.rowId

/-- The number of pages that have been returned. -/
def pageCount (record : List TurnEvent) : Nat :=
  (record.filterMap itemsOf).length

/-- No experiment or group disappears, and a group stays with its experiment. -/
structure Remains (catalogue next : Catalogue) : Prop where
  experiments :
    ∀ experimentId, (catalogue.experiments experimentId).isSome = true →
      (next.experiments experimentId).isSome = true
  groups :
    ∀ groupId group, catalogue.groups groupId = some group →
      ∃ later, next.groups groupId = some later ∧
        later.experimentId = group.experimentId

namespace Remains

variable {catalogue next : Catalogue}

/-- Tables that are left alone remain. -/
theorem of_same
    (experiments : next.experiments = catalogue.experiments)
    (groups : next.groups = catalogue.groups) :
    Remains catalogue next where
  experiments := by
    rw [experiments]
    exact fun _ => id
  groups := by
    rw [groups]
    exact fun _ group found => ⟨group, found, rfl⟩

/-- An experiment that is written remains. -/
theorem insertExperiment (experiment : Experiment) :
    Remains catalogue (catalogue.insertExperiment experiment) where
  experiments := by
    intro experimentId known
    by_cases same : experimentId = experiment.experimentId
    · simp [Catalogue.insertExperiment, same]
    · simpa [Catalogue.insertExperiment, same] using known
  groups := fun _ group found => ⟨group, found, rfl⟩

/-- A new group replaces no other. -/
theorem insertGroup
    {group : ExperimentGroup}
    {owner : (catalogue.experiments group.experimentId).isSome = true}
    (fresh : (catalogue.groups group.groupId).isNone = true) :
    Remains catalogue (catalogue.insertGroup group owner) where
  experiments := fun _ => id
  groups := by
    intro groupId other found
    have different : groupId ≠ group.groupId := by
      rintro rfl
      simp [found] at fresh
    exact ⟨other, (Function.update_of_ne different _ _).trans found, rfl⟩

/-- A group that is updated stays with its experiment. -/
theorem replaceGroup
    {groupId : GroupId}
    {old : ExperimentGroup}
    (found : catalogue.groups groupId = some old)
    (name cellId notes : Option String)
    (now : Int) :
    Remains catalogue
      (catalogue.replaceGroup groupId old found name cellId notes now) where
  experiments := fun _ => id
  groups := by
    intro other group known
    by_cases same : other = groupId
    · subst same
      obtain rfl := Option.some.inj (found.symm.trans known)
      exact ⟨_, Function.update_self .., rfl⟩
    · exact ⟨group, (Function.update_of_ne same _ _).trans known, rfl⟩

/-- A call that edits leaves everything when it raises. -/
theorem of_edit
    {operation : Operation}
    {result : Except Raised Catalogue}
    (edits : machine.step catalogue operation = catalogue.edit result)
    (edited : ∀ later, result = .ok later → Remains catalogue later) :
    Remains catalogue (machine.event catalogue operation).target := by
  rw [Machine.event, edits]
  cases result with
  | error raised => exact of_same rfl rfl
  | ok later => exact edited later rfl

/-- `create_experiment` leaves the other experiments. -/
theorem createExperiment
    {experimentId : ExperimentId}
    {now : Int}
    {name notes : String}
    (created :
      catalogue.createExperiment experimentId now name notes = .ok next) :
    Remains catalogue next := by
  obtain ⟨name, -, created⟩ := bind_eq_ok.1 created
  obtain ⟨notes, -, created⟩ := bind_eq_ok.1 created
  obtain ⟨⟨⟩, -, final⟩ := bind_eq_ok.1 created
  obtain rfl := Except.ok.inj final
  exact .insertExperiment _

/-- `update_experiment` leaves the other experiments. -/
theorem updateExperiment
    {experimentId : String}
    {now : Int}
    {changes : ExperimentChanges}
    (updated :
      catalogue.updateExperiment experimentId now changes = .ok next) :
    Remains catalogue next := by
  obtain ⟨experimentId, -, updated⟩ := bind_eq_ok.1 updated
  obtain ⟨⟨⟩, -, updated⟩ := bind_eq_ok.1 updated
  obtain ⟨name, -, updated⟩ := bind_eq_ok.1 updated
  obtain ⟨notes, -, updated⟩ := bind_eq_ok.1 updated
  split at updated
  · cases updated
  · split_ifs at updated
    · obtain rfl := Except.ok.inj updated
      exact .of_same rfl rfl
    · obtain rfl := Except.ok.inj updated
      exact .insertExperiment _

/-- `create_group` leaves the other groups. -/
theorem createGroup
    {experimentId : String}
    {groupId : GroupId}
    {now : Int}
    {name cellId notes : String}
    (created :
      catalogue.createGroup experimentId groupId now name cellId notes =
        .ok next) :
    Remains catalogue next := by
  obtain ⟨experimentId, -, created⟩ := bind_eq_ok.1 created
  obtain ⟨name, -, created⟩ := bind_eq_ok.1 created
  obtain ⟨cellId, -, created⟩ := bind_eq_ok.1 created
  obtain ⟨notes, -, created⟩ := bind_eq_ok.1 created
  split at created
  · obtain ⟨⟨⟩, fresh, final⟩ := bind_eq_ok.1 created
    obtain rfl := Except.ok.inj final
    exact .insertGroup (require_eq_ok.1 fresh)
  · cases created

/-- `update_group` leaves the other groups. -/
theorem updateGroup
    {groupId : String}
    {now : Int}
    {changes : GroupChanges}
    (updated : catalogue.updateGroup groupId now changes = .ok next) :
    Remains catalogue next := by
  obtain ⟨groupId, -, updated⟩ := bind_eq_ok.1 updated
  obtain ⟨⟨⟩, -, updated⟩ := bind_eq_ok.1 updated
  obtain ⟨name, -, updated⟩ := bind_eq_ok.1 updated
  obtain ⟨cellId, -, updated⟩ := bind_eq_ok.1 updated
  obtain ⟨notes, -, updated⟩ := bind_eq_ok.1 updated
  split at updated
  · cases updated
  · next old found =>
      split_ifs at updated
      · obtain rfl := Except.ok.inj updated
        exact .of_same rfl rfl
      · obtain rfl := Except.ok.inj updated
        exact .replaceGroup found name cellId notes now

/-- `assign_capture_group` leaves the tables. -/
theorem assign
    (captureIds : List (List UInt8))
    (groupId : Option String) :
    Remains catalogue (catalogue.assign captureIds groupId).1 := by
  unfold Catalogue.assign
  split <;> exact of_same rfl rfl

/-- A transaction on the captures leaves the tables. -/
theorem transact
    (transaction : Transaction)
    (other : transaction.isCatalogued = false) :
    Remains catalogue (catalogue.transact transaction other).1 := by
  unfold Catalogue.transact
  split <;> exact of_same rfl rfl

end Remains

/-- No call removes an experiment or a group. -/
theorem remains_of_event (catalogue : Catalogue) (operation : Operation) :
    Remains catalogue (machine.event catalogue operation).target := by
  cases operation with
  | createExperiment experimentId now name notes =>
      exact Remains.of_edit (by rw [machine]) fun _ => Remains.createExperiment
  | updateExperiment experimentId now changes =>
      exact Remains.of_edit (by rw [machine]) fun _ => Remains.updateExperiment
  | createGroup experimentId groupId now name cellId notes =>
      exact Remains.of_edit (by rw [machine]) fun _ => Remains.createGroup
  | updateGroup groupId now changes =>
      exact Remains.of_edit (by rw [machine]) fun _ => Remains.updateGroup
  | assignCaptureGroup captureIds groupId =>
      rw [Machine.event, machine]
      exact Remains.assign captureIds groupId
  | transact transaction other =>
      rw [Machine.event, machine]
      exact Remains.transact transaction other

/-! ## One page -/

/-- The arguments of a query are valid, and what it names exists. -/
def Readable
    (limit : Int)
    (filter : CaptureFilter)
    (catalogue : Catalogue) :
    Prop :=
  (1 ≤ limit ∧ limit ≤ 100) ∧
    ∃ selection, filter.selection = .ok selection ∧
      catalogue.checkExperiment selection.experimentId = .ok () ∧
      catalogue.checkGroup selection.experimentId selection.groupId = .ok ()

/-- The rows a filter selects, if it can be read. -/
def chosen (filter : CaptureFilter) (catalogue : Catalogue) :
    List ArchivedCapture :=
  match filter.selection with
  | .error _ => []
  | .ok selection => catalogue.selected selection

section OnePage

variable {catalogue next : Catalogue} {filter : CaptureFilter}
  {limit cursor : Int}

/-- An experiment that was found is found again. -/
theorem Remains.checkExperiment
    (remains : Remains catalogue next)
    {experimentId : Option ExperimentId}
    (checked : catalogue.checkExperiment experimentId = .ok ()) :
    next.checkExperiment experimentId = .ok () := by
  cases experimentId with
  | none => rfl
  | some experimentId =>
      exact require_eq_ok.2
        (remains.experiments experimentId (require_eq_ok.1 checked))

/-- A group is found in its experiment. -/
theorem checkGroup_eq_ok
    {experimentId : Option ExperimentId}
    {groupId : GroupId} :
    catalogue.checkGroup experimentId (some groupId) = .ok () ↔
      ∃ owner, catalogue.groups groupId = some owner ∧
        ∀ wanted ∈ experimentId, owner.experimentId = wanted := by
  rw [checkGroup]
  cases catalogue.groups groupId with
  | none => simp
  | some owner => simp

/-- A group that was found in its experiment is found there again. -/
theorem Remains.checkGroup
    (remains : Remains catalogue next)
    {experimentId : Option ExperimentId}
    {groupId : Option GroupId}
    (checked : catalogue.checkGroup experimentId groupId = .ok ()) :
    next.checkGroup experimentId groupId = .ok () := by
  cases groupId with
  | none => rfl
  | some groupId =>
      obtain ⟨owner, found, belongs⟩ := checkGroup_eq_ok.1 checked
      obtain ⟨later, kept, same⟩ := remains.groups groupId owner found
      exact checkGroup_eq_ok.2 ⟨later, kept, same ▸ belongs⟩

/-- What could be read can be read later. -/
theorem Remains.readable
    (remains : Remains catalogue next)
    (readable : Readable limit filter catalogue) :
    Readable limit filter next := by
  obtain ⟨valid, selection, selects, experiment, group⟩ := readable
  exact ⟨valid, selection, selects, remains.checkExperiment experiment,
    remains.checkGroup group⟩

/-- `list_captures` returns a page of the rows that its filter selects. -/
theorem listCaptures_eq_ok
    {result : List CaptureSummary × Option Int} :
    catalogue.listCaptures cursor limit filter = .ok result ↔
      0 ≤ cursor ∧ Readable limit filter catalogue ∧
        result =
          ((page cursorOf limit.toNat cursor
              (chosen filter catalogue)).rows.map catalogue.summary,
            (page cursorOf limit.toNat cursor
              (chosen filter catalogue)).next) := by
  constructor
  · intro listed
    obtain ⟨⟨⟩, nonneg, listed⟩ := bind_eq_ok.1 listed
    obtain ⟨⟨⟩, valid, listed⟩ := bind_eq_ok.1 listed
    obtain ⟨selection, selects, listed⟩ := bind_eq_ok.1 listed
    obtain ⟨⟨⟩, experiment, listed⟩ := bind_eq_ok.1 listed
    obtain ⟨⟨⟩, group, final⟩ := bind_eq_ok.1 listed
    refine ⟨require_eq_ok.1 nonneg,
      ⟨require_eq_ok.1 valid, selection, selects, experiment, group⟩, ?_⟩
    rw [chosen, selects]
    exact (Except.ok.inj final).symm
  · rintro ⟨nonneg, ⟨valid, selection, selects, experiment, group⟩, rfl⟩
    rw [listCaptures, require_pos nonneg, ok_bind, require_pos valid, ok_bind,
      selects, ok_bind, experiment, ok_bind, group, ok_bind, chosen, selects]
    rfl

/-- The selected rows are rows of the archive. -/
theorem mem_chosen {row : ArchivedCapture} :
    row ∈ chosen filter catalogue ↔
      ∃ selection, filter.selection = .ok selection ∧
        row ∈ catalogue.store.captures.rows ∧
        catalogue.selects selection row = true := by
  rw [chosen]
  cases filter.selection with
  | error raised => simp
  | ok selection => simp [selected]

/-- The selected rows ascend. -/
theorem chosen_ascending : Ascending cursorOf (chosen filter catalogue) := by
  rw [chosen]
  cases filter.selection with
  | error raised => exact List.Pairwise.nil
  | ok selection =>
      have unique :
          ((catalogue.selected selection).map ArchivedCapture.rowId).Nodup := by
        refine ((List.perm_insertionSort _ _).map _).nodup_iff.2 ?_
        exact catalogue.store.captures.uniqueId.sublist
          (List.filter_sublist.map _)
      have ordered :
          (catalogue.selected selection).Pairwise
            fun first second => first.rowId ≤ second.rowId :=
        List.pairwise_insertionSort _ _
      refine (ordered.and (List.pairwise_map.1 unique)).imp ?_
      rintro first second ⟨upTo, different⟩
      exact Int.ofNat_lt.2 (lt_of_le_of_ne upTo different)

end OnePage

/-! ## The walk -/

section Walking

variable {limit : Int} {filter : CaptureFilter} {browsing : Browsing}
  {record : List TurnEvent} {turn : TurnEvent}

/-- The selected rows at each page that has been returned. -/
def tables
    (filter : CaptureFilter)
    (record : List TurnEvent) :
    List (List ArchivedCapture) :=
  (record.filter fun turn => (itemsOf turn).isSome).map
    fun turn => chosen filter turn.source.catalogue

/-- What a reader has met so far. -/
structure Walked
    (limit : Int)
    (filter : CaptureFilter)
    (record : List TurnEvent)
    (browsing : Browsing) :
    Prop where
  issued : browsing.catalogue.store.Issued
  positive : ∀ rows ∈ tables filter record, ∀ row ∈ rows, 0 < row.rowId
  upTo :
    ∀ rowId ∈ returned record,
      rowId ≤ browsing.catalogue.store.lastCaptureRowId
  readable : 0 < pageCount record → Readable limit filter browsing.catalogue
  bounded :
    pageCount record ≤ browsing.catalogue.store.lastCaptureRowId + 1
  walk :
    ∃ pages,
      Walk cursorOf limit.toNat 0 (tables filter record) pages
          browsing.cursor ∧
        returned record = pages.flatten.map ArchivedCapture.rowId ∧
        pageCount record = pages.length

/-- A turn without a page returns nothing. -/
theorem record_of_none (nothing : itemsOf turn = none) :
    returned (record ++ [turn]) = returned record ∧
      pageCount (record ++ [turn]) = pageCount record ∧
      tables filter (record ++ [turn]) = tables filter record := by
  simp [returned, pageCount, tables, List.filterMap_append, nothing]

/-- A page is returned after the others. -/
theorem record_of_page
    {items : List CaptureSummary}
    (shown : itemsOf turn = some items) :
    returned (record ++ [turn]) =
        returned record ++ items.map CaptureSummary.rowId ∧
      pageCount (record ++ [turn]) = pageCount record + 1 ∧
      tables filter (record ++ [turn]) =
        tables filter record ++ [chosen filter turn.source.catalogue] := by
  simp [returned, pageCount, tables, List.filterMap_append, shown]

/-- Different ids that have been given out are no more than these. -/
theorem length_le_of_ascending
    {ids : List Nat}
    {last : Nat}
    (ascending : ids.Pairwise (· < ·))
    (inside : ∀ id ∈ ids, 0 < id ∧ id ≤ last) :
    ids.length ≤ last := by
  have among : ids ⊆ List.range' 1 last := by
    intro id member
    have := inside id member
    rw [List.mem_range'_1]
    omega
  have nodup : ids.Nodup := ascending.imp fun less => less.ne
  simpa using (List.subperm_of_subset nodup among).length_le

namespace Walked

/-- The limit of a walk that has a page has room for a row. -/
theorem room
    (walked : Walked limit filter record browsing)
    (begun : 0 < pageCount record) :
    0 < limit.toNat := by
  have := (walked.readable begun).1
  omega

/-- The tables of a walk ascend. -/
theorem sorted : ∀ rows ∈ tables filter record, Ascending cursorOf rows := by
  intro rows member
  obtain ⟨turn, -, rfl⟩ := List.mem_map.1 member
  exact chosen_ascending

/-- The rows of a walk come in the order of their ids. -/
theorem ascending (walked : Walked limit filter record browsing) :
    (returned record).Pairwise (· < ·) := by
  obtain ⟨pages, walk, ids, count⟩ := walked.walk
  rw [ids]
  rcases Nat.eq_zero_or_pos (pageCount record) with none_ | begun
  · rw [List.length_eq_zero_iff.1 (count.symm.trans none_)]
    exact List.Pairwise.nil
  · have met := walk.met (walked.room begun) sorted
    exact List.pairwise_map.2
      (met.ascending.imp fun less => Int.ofNat_lt.1 less)

end Walked

/-- The reader's turn. -/
inductive Reads
    (limit : Int)
    (filter : CaptureFilter)
    (browsing : Browsing) :
    Browsing × Shown → Prop where
  | ended (final : browsing.cursor = none) :
      Reads limit filter browsing (browsing, .finished)
  | failed
      (cursor : Int)
      (raised : Raised)
      (at_ : browsing.cursor = some cursor)
      (fails :
        browsing.catalogue.listCaptures cursor limit filter = .error raised) :
      Reads limit filter browsing (browsing, .failed raised)
  | shown
      (cursor : Int)
      (at_ : browsing.cursor = some cursor)
      (readable : Readable limit filter browsing.catalogue) :
      Reads limit filter browsing
        ({ browsing with
            cursor := (page cursorOf limit.toNat cursor
              (chosen filter browsing.catalogue)).next },
          .page
            ((page cursorOf limit.toNat cursor
              (chosen filter browsing.catalogue)).rows.map
                browsing.catalogue.summary)
            (page cursorOf limit.toNat cursor
              (chosen filter browsing.catalogue)).next)

/-- The reader's turn is one of the three. -/
theorem readPage_reads : Reads limit filter browsing
    (readPage limit filter browsing) := by
  unfold readPage
  split
  · next final => exact .ended final
  · next cursor at_ =>
      split
      · next raised fails => exact .failed cursor raised at_ fails
      · next items next listed =>
          obtain ⟨-, readable, same⟩ := listCaptures_eq_ok.1 listed
          obtain ⟨rfl, rfl⟩ := Prod.mk.inj same
          exact .shown cursor at_ readable

namespace Walked

/-- A call on the store between two pages keeps what the reader has met. -/
theorem operate
    (walked : Walked limit filter record browsing)
    {next : Catalogue}
    {operation : Operation}
    (operated : (machine.event browsing.catalogue operation).target = next)
    (nothing : itemsOf turn = none) :
    Walked limit filter (record ++ [turn])
      { browsing with catalogue := next } := by
  obtain ⟨sameIds, sameCount, sameTables⟩ := record_of_none nothing
  obtain ⟨issued, counter⟩ := issued_of_event walked.issued operation
  have remains := remains_of_event browsing.catalogue operation
  rw [operated] at issued counter remains
  constructor
  · exact issued
  · rw [sameTables]
    exact walked.positive
  · rw [sameIds]
    exact fun rowId member => (walked.upTo rowId member).trans counter
  · rw [sameCount]
    exact fun begun => remains.readable (walked.readable begun)
  · rw [sameCount]
    exact walked.bounded.trans (Nat.succ_le_succ counter)
  · rw [sameTables, sameIds, sameCount]
    exact walked.walk

/-- A turn without a page keeps what the reader has met. -/
theorem idle
    (walked : Walked limit filter record browsing)
    (nothing : itemsOf turn = none) :
    Walked limit filter (record ++ [turn]) browsing := by
  obtain ⟨sameIds, sameCount, sameTables⟩ := record_of_none nothing
  constructor
  · exact walked.issued
  · rw [sameTables]
    exact walked.positive
  · rw [sameIds]
    exact walked.upTo
  · rw [sameCount]
    exact walked.readable
  · rw [sameCount]
    exact walked.bounded
  · rw [sameTables, sameIds, sameCount]
    exact walked.walk

/-- A walk that goes on has met a row for every page. -/
theorem pageCount_le
    (walked : Walked limit filter record browsing)
    {cursor : Int}
    (at_ : browsing.cursor = some cursor) :
    pageCount record ≤ browsing.catalogue.store.lastCaptureRowId := by
  rcases Nat.eq_zero_or_pos (pageCount record) with none_ | begun
  · omega
  · obtain ⟨pages, walk, ids, count⟩ := walked.walk
    have rows : pages.length ≤ pages.flatten.length :=
      walk.length_le (walked.room begun) sorted (by simp [at_])
    have met := walk.met (walked.room begun) sorted
    have inside :
        ∀ rowId ∈ returned record,
          0 < rowId ∧ rowId ≤ browsing.catalogue.store.lastCaptureRowId := by
      intro rowId member
      refine ⟨?_, walked.upTo rowId member⟩
      rw [ids] at member
      obtain ⟨row, among, rfl⟩ := List.mem_map.1 member
      exact Int.ofNat_lt.1 (met.above row among)
    have few := length_le_of_ascending walked.ascending inside
    rw [ids, List.length_map] at few
    omega

/-- The next page goes on with what the reader has met. -/
theorem shown
    (walked : Walked limit filter record browsing)
    {cursor : Int}
    (at_ : browsing.cursor = some cursor)
    (readable : Readable limit filter browsing.catalogue)
    (source : turn.source = browsing)
    (output :
      itemsOf turn =
        some ((page cursorOf limit.toNat cursor
          (chosen filter browsing.catalogue)).rows.map
            browsing.catalogue.summary)) :
    Walked limit filter (record ++ [turn])
      { browsing with
        cursor := (page cursorOf limit.toNat cursor
          (chosen filter browsing.catalogue)).next } := by
  obtain ⟨moreIds, moreCount, moreTables⟩ := record_of_page output
  obtain ⟨pages, walk, ids, count⟩ := walked.walk
  rw [at_] at walk
  rw [source] at moreTables
  have positive : 0 < limit.toNat := by
    have := readable.1
    omega
  have known :
      ∀ row ∈ chosen filter browsing.catalogue,
        0 < row.rowId ∧
          row.rowId ≤ browsing.catalogue.store.lastCaptureRowId := by
    intro row member
    obtain ⟨-, -, among, -⟩ := mem_chosen.1 member
    exact walked.issued row among
  have shows :
      Shows cursorOf (beyond cursorOf cursor (chosen filter browsing.catalogue))
        (page cursorOf limit.toNat cursor (chosen filter browsing.catalogue)) :=
    page_shows positive
  constructor
  · exact walked.issued
  · intro rows member row among
    rw [moreTables] at member
    rcases List.mem_append.1 member with before | now
    · exact walked.positive rows before row among
    · rw [List.mem_singleton.1 now] at among
      exact (known row among).1
  · intro rowId member
    rw [moreIds] at member
    rcases List.mem_append.1 member with before | now
    · exact walked.upTo rowId before
    · rw [List.map_map] at now
      obtain ⟨row, among, rfl⟩ := List.mem_map.1 now
      exact (known row (mem_beyond.1 (shows.sublist.subset among)).1).2
  · exact fun _ => readable
  · rw [moreCount]
    exact Nat.succ_le_succ (walked.pageCount_le at_)
  · refine ⟨pages ++ [_], moreTables ▸ walk.reads _, ?_, ?_⟩
    · rw [moreIds, ids, List.map_map, List.flatten_append, List.map_append]
      simp [Function.comp_def, summary]
    · simp [moreCount, count]

/-- Every turn goes on with what the reader has met. -/
theorem step
    (walked : Walked limit filter record browsing)
    (turn : Turn) :
    Walked limit filter (record ++ [(browse limit filter).event browsing turn])
      ((browse limit filter).event browsing turn).target := by
  cases turn with
  | operate operation => exact walked.operate rfl rfl
  | read =>
      have reads : Reads limit filter browsing
          (readPage limit filter browsing) := readPage_reads
      simp only [Machine.event, browse]
      generalize readPage limit filter browsing = result at reads
      cases reads with
      | ended final => exact walked.idle rfl
      | failed cursor raised at_ fails => exact walked.idle rfl
      | shown cursor at_ readable => exact walked.shown at_ readable rfl rfl

end Walked

end Walking

end Catalogue

end Usac.Host
