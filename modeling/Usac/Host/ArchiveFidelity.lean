import Usac.Host.ArchiveImmutability

namespace Usac.Host

open Library

/-!
# What the archive is made of

SQLite enforces no foreign key here, so it is the operations themselves that
keep the tables together. Every archived row holds what a frame delivered before
says, with exactly the events of that frame, every event belongs to a row, and
every group that a row, a rolling capture or a policy names exists.
-/

/-- A row holds what a delivery says. Only its row id, its session and its group
do not come from the delivery, nor do the texts that were staged for it. -/
structure ArchivedCapture.Holds
    (row : ArchivedCapture)
    (delivery : BridgeCaptureDelivery)
    (capture : CaptureData) :
    Prop where
  delivered : CaptureStore.deliveredCapture delivery = .ok capture
  identity : row.identity = capture.identity
  innerFrameCrc32 :
    row.innerFrameCrc32 = Frame.crc32IsoHdlc delivery.innerFrame
  wireFrame : row.wireFrame = delivery.innerFrame
  columns :
    ∃ store : CaptureStore,
      row.columns = store.archiveColumns delivery capture

/-- The delivery a transaction submits. -/
def Transaction.delivery? : Transaction → Option BridgeCaptureDelivery
  | commitDelivery delivery _ _ _ => some delivery
  | commitReplayedDelivery delivery => some delivery
  | _ => none

namespace CaptureStore

/-- A group that is named exists. -/
def KnowsGroup (store : CaptureStore) (groupId : Option GroupId) : Prop :=
  ∀ group ∈ groupId, group ∈ store.groups

/-- The tables belong together, and what they hold has been submitted. -/
structure Curated
    (submitted : BridgeCaptureDelivery → Prop)
    (store : CaptureStore) :
    Prop where
  issued : store.Issued
  told :
    ∀ row ∈ store.captures.rows,
      ∃ delivery capture,
        submitted delivery ∧ row.Holds delivery capture ∧
          store.eventsOf row.rowId = eventRows row.rowId capture
  owned :
    ∀ event ∈ store.captureEvents,
      ∃ row ∈ store.captures.rows, row.rowId = event.captureRowId
  rolling :
    ∀ session kept,
      store.latest session = some kept →
        submitted kept.delivery ∧
          (∃ capture, deliveredCapture kept.delivery = .ok capture) ∧
            store.KnowsGroup kept.groupId
  grouped : ∀ row ∈ store.captures.rows, store.KnowsGroup row.groupId
  registered : ∀ row ∈ store.contexts.rows, store.KnowsGroup row.groupId

/-- The events of a new row are those of its capture. -/
theorem filter_eventRows
    (rowId : Nat)
    (capture : CaptureData) :
    (eventRows rowId capture).filter
        (fun event => event.captureRowId = rowId) =
      eventRows rowId capture := by
  refine List.filter_eq_self.2 fun event among => ?_
  obtain ⟨ordinal, inside, rfl⟩ := List.mem_mapIdx.1 among
  simp

/-- The row of a delivery holds what the delivery says. -/
theorem archiveRow_holds
    {delivery : BridgeCaptureDelivery}
    {capture : CaptureData}
    (delivered : deliveredCapture delivery = .ok capture)
    (store : CaptureStore)
    (sessionId : Option SessionId)
    (groupId : Option GroupId) :
    (store.archiveRow delivery capture sessionId groupId).Holds delivery
      capture :=
  ⟨delivered, rfl, rfl, rfl, store, rfl⟩

/-- The group of a delivery that `commit_delivery` takes exists. -/
theorem knowsGroup_of_commitDelivery
    {store next : CaptureStore}
    {delivery : BridgeCaptureDelivery}
    {savePolicy : SavePolicy}
    {sessionId : Option SessionId}
    {groupId : Option GroupId}
    {result : CoreCommitResult}
    (committed :
      store.commitDelivery delivery savePolicy sessionId groupId =
        .ok (next, result)) :
    store.KnowsGroup groupId := by
  obtain ⟨⟨⟩, -, committed⟩ := bind_eq_ok.1 committed
  obtain ⟨capture, -, committed⟩ := bind_eq_ok.1 committed
  obtain ⟨⟨⟩, validated, -⟩ := bind_eq_ok.1 committed
  exact validateGroupTarget_eq_ok.1 validated

/-- Among nothing, everything is curated. -/
theorem curated_empty (submitted : BridgeCaptureDelivery → Prop) :
    Curated submitted empty where
  issued := by simp [Issued, empty]
  told := by simp [empty]
  owned := by simp [empty]
  rolling := by simp [empty]
  grouped := by simp [empty]
  registered := by simp [empty, Table.empty]

namespace Curated

variable {submitted : BridgeCaptureDelivery → Prop}
  {store next : CaptureStore} {delivery : BridgeCaptureDelivery}
  {capture : CaptureData} {savePolicy : SavePolicy}
  {sessionId : Option SessionId} {groupId : Option GroupId}

/-- More is submitted. -/
theorem mono
    {more : BridgeCaptureDelivery → Prop}
    (curated : Curated submitted store)
    (grows : ∀ delivery, submitted delivery → more delivery) :
    Curated more store where
  issued := curated.issued
  told := by
    intro row member
    obtain ⟨delivery, capture, known, holds⟩ := curated.told row member
    exact ⟨delivery, capture, grows delivery known, holds⟩
  owned := curated.owned
  rolling := fun session kept held =>
    ⟨grows _ (curated.rolling session kept held).1,
      (curated.rolling session kept held).2⟩
  grouped := curated.grouped
  registered := curated.registered

/-- A frame is archived. -/
theorem archives
    (curated : Curated submitted store)
    (known : submitted delivery)
    (delivered : deliveredCapture delivery = .ok capture)
    (knows : store.KnowsGroup groupId)
    {inserted : Bool}
    (archives :
      Archives store delivery capture sessionId groupId next inserted) :
    Curated submitted next := by
  have extends_ := archives.extends
  cases archives with
  | kept => exact curated
  | added captures fresh rows =>
      have isNew {row : ArchivedCapture} (member : row ∈ captures.rows) :
          row ∈ store.captures.rows ∨
            row = store.archiveRow delivery capture sessionId groupId := by
        rw [rows, List.mem_append, List.mem_singleton] at member
        exact member
      have present :
          store.archiveRow delivery capture sessionId groupId ∈
            captures.rows := by
        rw [rows]
        exact List.mem_append_right _ List.mem_cons_self
      have unowned : store.eventsOf (store.lastCaptureRowId + 1) = [] := by
        refine List.filter_eq_nil_iff.2 fun event among own => ?_
        obtain ⟨row, member, same⟩ := curated.owned event among
        have upTo := (curated.issued row member).2
        have own := of_decide_eq_true own
        omega
      refine ⟨curated.issued.extends extends_, ?_, ?_, curated.rolling, ?_,
        curated.registered⟩
      · intro row member
        rcases isNew member with old | rfl
        · obtain ⟨held, heldCapture, seen, holds, events⟩ :=
            curated.told row old
          refine ⟨held, heldCapture, seen, holds, Eq.trans ?_ events⟩
          exact extends_.events row member (curated.issued row old).2
        · refine ⟨delivery, capture, known,
            archiveRow_holds delivered store sessionId groupId, ?_⟩
          show List.filter _ (store.captureEvents ++ _) = _
          rw [List.filter_append]
          show store.eventsOf (store.lastCaptureRowId + 1) ++ _ = _
          rw [unowned, List.nil_append]
          exact filter_eventRows _ capture
      · intro event among
        rcases List.mem_append.1 among with old | new
        · obtain ⟨row, member, same⟩ := curated.owned event old
          refine ⟨row, ?_, same⟩
          dsimp only
          rw [rows]
          exact List.mem_append_left _ member
        · obtain ⟨ordinal, inside, rfl⟩ := List.mem_mapIdx.1 new
          exact ⟨_, present, rfl⟩
      · intro row member
        rcases isNew member with old | rfl
        · exact curated.grouped row old
        · exact knows

/-- The archive and the policies are left alone, and no rolling capture is
new. -/
theorem same
    (curated : Curated submitted store)
    (archive : LeavesArchive store next)
    (latest :
      ∀ session kept,
        next.latest session = some kept → store.latest session = some kept)
    (policies : SamePolicies store next) :
    Curated submitted next where
  issued := curated.issued.extends archive.extends
  told := by
    unfold eventsOf
    rw [archive.captures, archive.captureEvents]
    exact curated.told
  owned := by
    rw [archive.captures, archive.captureEvents]
    exact curated.owned
  rolling := by
    intro session kept held
    unfold KnowsGroup
    rw [policies.groups]
    exact curated.rolling session kept (latest session kept held)
  grouped := by
    unfold KnowsGroup
    rw [archive.captures, policies.groups]
    exact curated.grouped
  registered := by
    unfold KnowsGroup
    rw [policies.contexts, policies.groups]
    exact curated.registered

/-- A decision is recorded. -/
theorem records
    (curated : Curated submitted store)
    {resolution : CaptureResolution}
    (records : Records store delivery capture resolution sessionId next) :
    Curated submitted next :=
  curated.same records.leavesArchive
    (fun _ _ held => records.frame.latest ▸ held) records.policies

/-- A policy does what it does with a frame. -/
theorem keeps
    (curated : Curated submitted store)
    (known : submitted delivery)
    (delivered : deliveredCapture delivery = .ok capture)
    (knows : store.KnowsGroup groupId)
    {inserted : Bool}
    {resolution : CaptureResolution}
    (keeps :
      Keeps store delivery capture sessionId groupId savePolicy next inserted
        resolution) :
    Curated submitted next := by
  cases keeps with
  | archived archives => exact curated.archives known delivered knows archives
  | rolling configurations =>
      refine ⟨curated.issued, curated.told, curated.owned, ?_,
        curated.grouped, curated.registered⟩
      intro session kept held
      dsimp only at held
      by_cases own : session = sessionId
      · rw [own, Function.update_self] at held
        cases held
        exact ⟨known, ⟨capture, delivered⟩, knows⟩
      · rw [Function.update_of_ne own] at held
        exact curated.rolling session kept held
  | discarded => exact curated

/-- `commit_delivery`. -/
theorem commits
    (curated : Curated submitted store)
    (known : submitted delivery)
    (delivered : deliveredCapture delivery = .ok capture)
    (knows : store.KnowsGroup groupId)
    {result : CoreCommitResult}
    (commits :
      Commits store delivery capture savePolicy sessionId groupId next
        result) :
    Curated submitted next := by
  cases commits with
  | repeated => exact curated.same ⟨rfl, rfl, rfl⟩ (fun _ _ => id) ⟨rfl, rfl⟩
  | decided undecided named keeps records configurations =>
      have kept := curated.keeps known delivered knows keeps
      exact (kept.records records).same ⟨rfl, rfl, rfl⟩ (fun _ _ => id)
        ⟨rfl, rfl⟩

/-- A rolling capture is archived. -/
theorem moves
    (curated : Curated submitted store)
    {sessionId : SessionId}
    (moves : Moves store sessionId next) :
    Curated submitted next := by
  cases moves with
  | unmoved => exact curated
  | moved rolling held capture stored archives moved =>
      obtain ⟨known, ⟨other, delivered⟩, knows⟩ :=
        curated.rolling _ rolling held
      obtain rfl := Except.ok.inj
        (stored.symm.trans (storedCapture_of_delivered delivered))
      have archived := curated.archives known delivered knows archives
      refine archived.same
        ⟨moved.captures, moved.captureEvents, moved.lastCaptureRowId⟩ ?_
        ⟨moved.contexts, moved.groups⟩
      intro session kept stays
      rw [moved.latest] at stays
      by_cases own : session = some sessionId
      · rw [own, Function.update_self] at stays
        cases stays
      · rwa [Function.update_of_ne own] at stays

/-- A session ends. -/
theorem finalizes
    (curated : Curated submitted store)
    {summary : SessionSummary}
    (finalizes : Finalizes store summary savePolicy next) :
    Curated submitted next := by
  cases finalizes with
  | @finalized moved moves stays =>
      have kept : Curated submitted moved := by
        by_cases last : savePolicy = .saveLast
        · exact curated.moves (moves last)
        · rw [stays last]
          exact curated
      exact kept.same ⟨rfl, rfl, rfl⟩ (fun _ _ => id) ⟨rfl, rfl⟩

/-- What a session has archived is superseded. -/
theorem supersede
    (curated : Curated submitted store) :
    Curated submitted (store.supersede savePolicy sessionId) := by
  have extends_ : Extends store (store.supersede savePolicy sessionId) :=
    extends_supersede
  refine ⟨curated.issued.extends extends_, ?_, ?_, ?_, ?_, ?_⟩
  · intro row member
    have old := mem_of_mem_supersede member
    obtain ⟨delivery, capture, known, holds, events⟩ := curated.told row old
    exact ⟨delivery, capture, known, holds,
      (extends_.events row member (curated.issued row old).2).trans events⟩
  · unfold CaptureStore.supersede
    split_ifs
    · intro event among
      obtain ⟨old, kept⟩ := List.mem_filter.1 among
      obtain ⟨row, member, same⟩ := curated.owned event old
      have other : row.sessionId ≠ sessionId := by
        intro session
        exact of_decide_eq_true kept ⟨row, member, same, session⟩
      exact ⟨row, (store.captures.mem_delete).2 ⟨member, by simpa using other⟩,
        same⟩
    · exact curated.owned
  all_goals
    unfold KnowsGroup
    rw [policies_supersede.groups]
  · intro session kept held
    refine curated.rolling session kept ?_
    unfold CaptureStore.supersede at held
    split_ifs at held <;> exact held
  · exact fun row member => curated.grouped row (mem_of_mem_supersede member)
  · rw [policies_supersede.contexts]
    exact curated.registered

/-- A late frame of a closed session is decided. -/
theorem commitsLate
    (curated : Curated submitted store)
    (known : submitted delivery)
    (delivered : deliveredCapture delivery = .ok capture)
    (knows : store.KnowsGroup groupId)
    {summary : SessionSummary}
    {result : CoreCommitResult}
    (commits :
      CommitsLate store delivery capture savePolicy sessionId groupId summary
        next result) :
    Curated submitted next := by
  cases commits with
  | @decided kept recorded _ _ keeps records configurations finalizes =>
      have superseded :
          Curated submitted (store.supersede savePolicy sessionId) :=
        curated.supersede
      have archived : Curated submitted kept := by
        cases keeps with
        | archived _ archives =>
            refine superseded.archives known delivered ?_ archives
            unfold KnowsGroup
            rw [policies_supersede.groups]
            exact knows
        | discarded => exact superseded
      have dropped :
          Curated submitted
            { recorded with configurations := configurations } :=
        (archived.records records).same ⟨rfl, rfl, rfl⟩ (fun _ _ => id)
          ⟨rfl, rfl⟩
      exact dropped.finalizes finalizes

/-- `commit_replayed_delivery`. -/
theorem replays
    (curated : Curated submitted store)
    (known : submitted delivery)
    (delivered : deliveredCapture delivery = .ok capture)
    {result : CoreCommitResult}
    (replays : Replays store delivery capture next result) :
    Curated submitted next := by
  have knows
      {context : DeliveryPolicyContext}
      (registered : store.context? capture.device = some context) :
      store.KnowsGroup context.groupId :=
    curated.registered context
      (store.contexts.selectKey_eq_some.1 registered).1
  cases replays with
  | repeated =>
      exact curated.same ⟨rfl, rfl, rfl⟩ (fun _ _ => id) ⟨rfl, rfl⟩
  | direct _ context registered _ commits =>
      exact curated.commits known delivered (knows registered) commits
  | late _ context registered summary _ commits =>
      exact curated.commitsLate known delivered (knows registered) commits

/-- A group is added. -/
theorem createGroup
    (curated : Curated submitted store)
    (group : GroupId) :
    Curated submitted (store.createGroup group) where
  issued := curated.issued
  told := curated.told
  owned := curated.owned
  rolling := by
    intro session kept held
    obtain ⟨known, delivered, knows⟩ := curated.rolling session kept held
    exact ⟨known, delivered,
      fun groupId named => List.mem_append_left _ (knows groupId named)⟩
  grouped := fun row member groupId named =>
    List.mem_append_left _ (curated.grouped row member groupId named)
  registered := fun row member groupId named =>
    List.mem_append_left _ (curated.registered row member groupId named)

/-- `register_delivery_policy`. -/
theorem registers
    (curated : Curated submitted store)
    {device : DeviceBoot}
    (registered :
      store.registerDeliveryPolicy device sessionId savePolicy groupId =
        .ok next) :
    Curated submitted next := by
  have rows :=
    fun row (member : row ∈ next.contexts.rows) =>
      mem_registered registered member
  obtain ⟨⟨⟩, validated, done⟩ := bind_eq_ok.1 registered
  obtain rfl := Except.ok.inj done
  refine ⟨curated.issued, curated.told, curated.owned, curated.rolling,
    curated.grouped, ?_⟩
  intro row member
  rcases rows row member with ⟨old, -⟩ | ⟨rowId, rfl⟩
  · exact curated.registered row old
  · exact validateGroupTarget_eq_ok.1 validated

/-- `assign_capture_group`. -/
theorem assigns
    (curated : Curated submitted store)
    {captureIds : List (Bytes 16)}
    (assigned : store.assignCaptureGroup captureIds groupId = .ok next) :
    Curated submitted next := by
  obtain ⟨⟨⟩, validated, assigned⟩ := bind_eq_ok.1 assigned
  obtain ⟨⟨⟩, -, done⟩ := bind_eq_ok.1 assigned
  obtain rfl := Except.ok.inj done
  refine ⟨?_, ?_, ?_, curated.rolling, ?_, curated.registered⟩
  · intro later member
    obtain ⟨row, old, rfl⟩ := List.mem_map.1 member
    have issued := curated.issued row old
    split_ifs
    · exact issued
    · exact issued
  · intro later member
    obtain ⟨row, old, rfl⟩ := List.mem_map.1 member
    obtain ⟨delivery, capture, known, holds, events⟩ := curated.told row old
    refine ⟨delivery, capture, known, ?_⟩
    split_ifs
    · exact ⟨⟨holds.delivered, holds.identity, holds.innerFrameCrc32,
        holds.wireFrame, holds.columns⟩, events⟩
    · exact ⟨holds, events⟩
  · intro event among
    obtain ⟨row, old, same⟩ := curated.owned event among
    refine ⟨_, List.mem_map_of_mem old, ?_⟩
    split_ifs <;> exact same
  · intro later member
    obtain ⟨row, old, rfl⟩ := List.mem_map.1 member
    split_ifs
    · exact validateGroupTarget_eq_ok.1 validated
    · exact curated.grouped row old

/-- A transaction is performed. -/
theorem performed
    (curated : Curated submitted store)
    {transaction : Transaction}
    (known : ∀ delivery ∈ transaction.delivery?, submitted delivery)
    {result : Option CoreCommitResult}
    (performed : transaction.perform store = .ok (next, result)) :
    Curated submitted next := by
  have performs := perform_performs performed
  cases transaction with
  | createGroup groupId =>
      obtain ⟨rfl, -⟩ := Prod.mk.inj (Except.ok.inj performed)
      exact curated.createGroup groupId
  | registerDeliveryPolicy device sessionId savePolicy groupId =>
      obtain ⟨registered, registers, final⟩ := bind_eq_ok.1 performed
      obtain ⟨rfl, -⟩ := Prod.mk.inj (Except.ok.inj final)
      exact curated.registers registers
  | unregisterDeliveryPolicy device sessionId =>
      obtain ⟨rfl, -⟩ := Prod.mk.inj (Except.ok.inj performed)
      refine ⟨curated.issued, curated.told, curated.owned, curated.rolling,
        curated.grouped, fun row member => ?_⟩
      exact curated.registered row ((store.contexts.mem_delete).1 member).1
  | saveConfigurationContext capture context =>
      obtain ⟨rfl, -⟩ := Prod.mk.inj (Except.ok.inj performed)
      exact curated.same ⟨rfl, rfl, rfl⟩ (fun _ _ => id) ⟨rfl, rfl⟩
  | saveSessionSummary summary =>
      obtain ⟨rfl, -⟩ := Prod.mk.inj (Except.ok.inj performed)
      exact curated.same ⟨rfl, rfl, rfl⟩ (fun _ _ => id) ⟨rfl, rfl⟩
  | commitDelivery delivery savePolicy sessionId groupId =>
      have knows : store.KnowsGroup groupId := by
        obtain ⟨⟨_, _⟩, committed, -⟩ := bind_eq_ok.1 performed
        exact knowsGroup_of_commitDelivery committed
      cases performs with
      | prepares preparation => cases preparation
      | commits capture delivered commits =>
          exact curated.commits (known delivery rfl) delivered knows commits
      | finalizes _ closing => cases closing
  | commitReplayedDelivery delivery =>
      cases performs with
      | prepares preparation => cases preparation
      | replays capture delivered replays =>
          exact curated.replays (known delivery rfl) delivered replays
      | finalizes _ closing => cases closing
  | finalizeLatestCapture sessionId =>
      cases performs with
      | prepares preparation => cases preparation
      | moves moves => exact curated.moves moves
      | finalizes _ closing => cases closing
  | finalizeSessionSummary summary =>
      cases performs with
      | prepares preparation => cases preparation
      | finalizes _ _ _ finalizes => exact curated.finalizes finalizes
  | reconcileInterruptedSession summary =>
      cases performs with
      | prepares preparation => cases preparation
      | finalizes _ _ _ finalizes => exact curated.finalizes finalizes
  | assignCaptureGroup captureIds groupId =>
      obtain ⟨assigned, assigns, final⟩ := bind_eq_ok.1 performed
      obtain ⟨rfl, -⟩ := Prod.mk.inj (Except.ok.inj final)
      exact curated.assigns assigns

end Curated

end CaptureStore

namespace Catalogue

/-- The delivery a call submits. -/
def Operation.delivery? : Operation → Option BridgeCaptureDelivery
  | transact transaction _ => transaction.delivery?
  | _ => none

/-- One of the calls submits the delivery. -/
def Submitted
    (operations : List Operation)
    (delivery : BridgeCaptureDelivery) :
    Prop :=
  ∃ operation ∈ operations, operation.delivery? = some delivery

/-- What a call does to the tables. -/
inductive Alters (catalogue : Catalogue) : Operation → Catalogue → Prop where
  | unaltered (operation : Operation) :
      Alters catalogue operation catalogue
  | experiment (operation : Operation) (experiment : Experiment) :
      Alters catalogue operation (catalogue.insertExperiment experiment)
  | group
      (operation : Operation)
      (group : ExperimentGroup)
      (owner : (catalogue.experiments group.experimentId).isSome = true) :
      Alters catalogue operation (catalogue.insertGroup group owner)
  | regroup
      (operation : Operation)
      (groupId : GroupId)
      (old : ExperimentGroup)
      (found : catalogue.groups groupId = some old)
      (name cellId notes : Option String)
      (now : Int) :
      Alters catalogue operation
        (catalogue.replaceGroup groupId old found name cellId notes now)
  | assigned
      (captureIds : List (List UInt8))
      (groupId : Option String)
      (distinct : List (Bytes 16))
      (target : Option GroupId)
      (store : CaptureStore)
      (groups : store.groups = catalogue.store.groups)
      (assigns :
        catalogue.store.assignCaptureGroup distinct target = .ok store) :
      Alters catalogue (.assignCaptureGroup captureIds groupId)
        (catalogue.withStore store groups)
  | transacted
      (transaction : Transaction)
      (other : transaction.isCatalogued = false)
      (store : CaptureStore)
      (groups : store.groups = catalogue.store.groups)
      (result : Option CoreCommitResult)
      (performed : transaction.perform catalogue.store = .ok (store, result)) :
      Alters catalogue (.transact transaction other)
        (catalogue.withStore store groups)

section Step

variable {submitted : BridgeCaptureDelivery → Prop} {catalogue : Catalogue}

/-- An edit alters the tables as its result does. -/
theorem alters_edit
    {operation : Operation}
    {result : Except Raised Catalogue}
    (done :
      ∀ next, result = .ok next → Alters catalogue operation next) :
    Alters catalogue operation (catalogue.edit result).1 := by
  cases result with
  | ok next => exact done next rfl
  | error raised => exact .unaltered operation

/-- Every call does one of these to the tables. -/
theorem alters
    (catalogue : Catalogue)
    (operation : Operation) :
    Alters catalogue operation (machine.step catalogue operation).1 := by
  cases operation with
  | createExperiment experimentId now name notes =>
      rw [machine]
      dsimp only
      refine alters_edit fun next created => ?_
      obtain ⟨name, -, created⟩ := bind_eq_ok.1 created
      obtain ⟨notes, -, created⟩ := bind_eq_ok.1 created
      obtain ⟨⟨⟩, -, created⟩ := bind_eq_ok.1 created
      obtain rfl := Except.ok.inj created
      exact .experiment _ _
  | updateExperiment experimentId now changes =>
      rw [machine]
      dsimp only
      refine alters_edit fun next updated => ?_
      obtain ⟨experimentId, -, updated⟩ := bind_eq_ok.1 updated
      obtain ⟨⟨⟩, -, updated⟩ := bind_eq_ok.1 updated
      obtain ⟨name, -, updated⟩ := bind_eq_ok.1 updated
      obtain ⟨notes, -, updated⟩ := bind_eq_ok.1 updated
      split at updated
      · cases updated
      · split_ifs at updated
        · cases updated
          exact .unaltered _
        · cases updated
          exact .experiment _ _
  | createGroup experimentId groupId now name cellId notes =>
      rw [machine]
      dsimp only
      refine alters_edit fun next created => ?_
      obtain ⟨experimentId, -, created⟩ := bind_eq_ok.1 created
      obtain ⟨name, -, created⟩ := bind_eq_ok.1 created
      obtain ⟨cellId, -, created⟩ := bind_eq_ok.1 created
      obtain ⟨notes, -, created⟩ := bind_eq_ok.1 created
      split_ifs at created with owner
      obtain ⟨⟨⟩, -, created⟩ := bind_eq_ok.1 created
      obtain rfl := Except.ok.inj created
      exact .group _ _ owner
  | updateGroup groupId now changes =>
      rw [machine]
      dsimp only
      refine alters_edit fun next updated => ?_
      obtain ⟨groupId, -, updated⟩ := bind_eq_ok.1 updated
      obtain ⟨⟨⟩, -, updated⟩ := bind_eq_ok.1 updated
      obtain ⟨name, -, updated⟩ := bind_eq_ok.1 updated
      obtain ⟨cellId, -, updated⟩ := bind_eq_ok.1 updated
      obtain ⟨notes, -, updated⟩ := bind_eq_ok.1 updated
      split at updated
      · cases updated
      · rename_i old found
        split_ifs at updated
        · cases updated
          exact .unaltered _
        · cases updated
          exact .regroup _ groupId old found name cellId notes now
  | assignCaptureGroup captureIds groupId =>
      rw [machine]
      dsimp only
      unfold assign
      split
      · rename_i result assigned
        have groups := groups_of_assign assigned
        obtain ⟨distinct, -, assigned⟩ := bind_eq_ok.1 assigned
        obtain ⟨⟨⟩, -, assigned⟩ := bind_eq_ok.1 assigned
        obtain ⟨target, -, assigned⟩ := bind_eq_ok.1 assigned
        obtain ⟨store, assigns, final⟩ := bind_eq_ok.1 assigned
        obtain rfl := Except.ok.inj final
        exact .assigned captureIds groupId distinct target store groups assigns
      · exact .unaltered _
  | transact transaction other =>
      rw [machine]
      dsimp only
      unfold transact
      split
      · rename_i store result performed
        have groups : store.groups = catalogue.store.groups :=
          transaction.groups_of_perform performed
            (by rintro groupId rfl; cases other)
        exact .transacted transaction other store groups result performed
      · exact .unaltered _

/-- Every call keeps the store curated. -/
theorem curated_step
    (curated : CaptureStore.Curated submitted catalogue.store)
    (operation : Operation)
    (known : ∀ delivery ∈ operation.delivery?, submitted delivery) :
    CaptureStore.Curated submitted
      (machine.step catalogue operation).1.store := by
  have altered := catalogue.alters operation
  generalize (machine.step catalogue operation).1 = next at altered ⊢
  cases altered with
  | unaltered => exact curated
  | experiment => exact curated
  | group _ group => exact curated.createGroup group.groupId
  | regroup => exact curated
  | assigned _ _ _ _ _ _ assigns => exact curated.assigns assigns
  | transacted _ _ _ _ _ performed => exact curated.performed known performed

end Step

/-- In every run the store is curated. -/
theorem curated_after (operations : List Operation) :
    CaptureStore.Curated (Submitted operations)
      (machine.after empty operations).store := by
  induction operations using List.reverseRecOn with
  | nil => exact CaptureStore.curated_empty _
  | append_singleton operations last inductionHypothesis =>
      rw [machine.after_concat]
      refine curated_step (inductionHypothesis.mono ?_) last ?_
      · rintro delivery ⟨operation, member, submits⟩
        exact ⟨operation, List.mem_append_left _ member, submits⟩
      · intro delivery submits
        exact ⟨last, List.mem_append_right _ List.mem_cons_self, submits⟩

/-- A group that is named is there, with its experiment. -/
def Names (catalogue : Catalogue) (groupId : Option GroupId) : Prop :=
  ∀ group ∈ groupId,
    ∃ entry experiment,
      catalogue.groups group = some entry ∧
        catalogue.experiments entry.experimentId = some experiment

/-- Every reference from one table to another leads somewhere. -/
structure Referential (catalogue : Catalogue) : Prop where
  captures :
    ∀ row ∈ catalogue.store.captures.rows, catalogue.Names row.groupId
  rolling :
    ∀ session kept,
      catalogue.store.latest session = some kept →
        catalogue.Names kept.groupId
  registered :
    ∀ row ∈ catalogue.store.contexts.rows, catalogue.Names row.groupId
  events :
    ∀ event ∈ catalogue.store.captureEvents,
      ∃! row, row ∈ catalogue.store.captures.rows ∧
        row.rowId = event.captureRowId
  ordinals :
    ∀ row ∈ catalogue.store.captures.rows,
      (catalogue.store.eventsOf row.rowId).map CaptureEventRow.ordinal =
        List.range (catalogue.store.eventsOf row.rowId).length

/-- The events of a capture are numbered from zero. -/
theorem ordinals_eventRows
    (rowId : Nat)
    (capture : CaptureData) :
    (CaptureStore.eventRows rowId capture).map CaptureEventRow.ordinal =
      List.range (CaptureStore.eventRows rowId capture).length := by
  apply List.ext_getElem
  · simp
  · intro index here there
    simp [CaptureStore.eventRows]

/-- In every reachable state the references between the tables hold. -/
theorem referential_after (operations : List Operation) :
    (machine.after empty operations).Referential := by
  have curated := curated_after operations
  generalize machine.after empty operations = catalogue at *
  have names
      {groupId : Option GroupId}
      (knows : catalogue.store.KnowsGroup groupId) :
      catalogue.Names groupId := by
    intro group named
    obtain ⟨entry, found⟩ :=
      Option.isSome_iff_exists.1 ((catalogue.known group).1 (knows group named))
    obtain ⟨experiment, owner⟩ :=
      Option.isSome_iff_exists.1 (catalogue.owned group entry found)
    exact ⟨entry, experiment, found, owner⟩
  refine ⟨fun row member => names (curated.grouped row member), ?_,
    fun row member => names (curated.registered row member), ?_, ?_⟩
  · intro session kept held
    exact names (curated.rolling session kept held).2.2
  · intro event among
    obtain ⟨row, member, same⟩ := curated.owned event among
    refine ⟨row, ⟨member, same⟩, fun other ⟨present, equal⟩ => ?_⟩
    exact List.inj_on_of_nodup_map catalogue.store.captures.uniqueId present
      member (equal.trans same.symm)
  · intro row member
    obtain ⟨delivery, capture, -, -, events⟩ := curated.told row member
    rw [events]
    exact ordinals_eventRows row.rowId capture

end Catalogue

end Usac.Host
