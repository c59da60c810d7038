import Usac.Host.StoreRun

namespace Usac.Host.CaptureStore

open Library

/-!
# The decision log of the store

A retained tombstone is the durable answer to a redelivery, so it has to say
where its frame is now. An operation that moves a frame breaks this for that
frame only, until it rewrites its decision.
-/

/-- The identity of a rolling capture. -/
def rolledIdentity? (rolling : RollingCapture) : Option CaptureIdentity :=
  (storedCapture rolling.delivery).toOption.map CaptureData.identity

/-- The identity of the rolling capture of a session. -/
def rollingIdentity?
    (store : CaptureStore)
    (sessionId : Option SessionId) :
    Option CaptureIdentity :=
  (store.latest sessionId).bind rolledIdentity?

/-- A capture with the identity is in the archive. -/
def Archived (store : CaptureStore) (identity : CaptureIdentity) : Prop :=
  ∃ row ∈ store.captures.rows, row.identity = identity

/-- A decision says where its frame is. -/
structure Describes
    (store : CaptureStore)
    (row : ResolutionTombstone) :
    Prop where
  archived :
    row.resolution = .rawArchived ↔ store.Archived row.identity
  rolling :
    row.resolution = .rollingLatest ↔
      store.rollingIdentity? row.sessionId = some row.identity

/-- In all other cases the frame has been discarded. -/
theorem Describes.discarded
    {store : CaptureStore}
    {row : ResolutionTombstone}
    (describes : Describes store row) :
    row.resolution = .discardedByPolicy ↔
      ¬store.Archived row.identity ∧
        store.rollingIdentity? row.sessionId ≠ some row.identity := by
  rw [← describes.archived, ne_eq, ← describes.rolling]
  cases row.resolution <;> simp

/-- Every retained decision outside the excepted frames says where its frame
is. -/
def Held
    (excepted : CaptureIdentity → Prop)
    (store : CaptureStore) :
    Prop :=
  ∀ row ∈ store.tombstones.rows, ¬excepted row.identity → Describes store row

/-- Every retained decision says where its frame is. -/
def LogConsistent (store : CaptureStore) : Prop :=
  ∀ row ∈ store.tombstones.rows,
    (row.resolution = .rawArchived ↔ store.Archived row.identity) ∧
      (row.resolution = .rollingLatest ↔
        store.rollingIdentity? row.sessionId = some row.identity) ∧
      (row.resolution = .discardedByPolicy ↔
        ¬store.Archived row.identity ∧
          store.rollingIdentity? row.sessionId ≠ some row.identity)

/-- A log without exceptions is consistent. -/
theorem logConsistent_iff_held
    {store : CaptureStore} :
    store.LogConsistent ↔ Held (fun _ => False) store := by
  constructor
  · intro consistent row member _
    obtain ⟨archived, rolling, -⟩ := consistent row member
    exact ⟨archived, rolling⟩
  · intro held row member
    have describes := held row member id
    exact ⟨describes.archived, describes.rolling, describes.discarded⟩

/-! ## Conditions under which a transaction keeps the log -/

/-- A decision is the first one about its frame, as far as the store still
knows, and under `SAVE_LAST` it supersedes none. -/
def DecidesFirst
    (store : CaptureStore)
    (identity : CaptureIdentity)
    (sessionId : Option SessionId) :
    SavePolicy → Prop
  | .saveAll => store.rollingIdentity? sessionId ≠ some identity
  | .saveLast =>
      ¬store.Archived identity ∧
        ∀ row ∈ store.tombstones.rows, row.sessionId = sessionId →
          row.resolution ≠ .rollingLatest
  | .saveNone =>
      ¬store.Archived identity ∧
        store.rollingIdentity? sessionId ≠ some identity

/-- The rolling capture of a session is not that of another session, too. -/
def OwnsRolling (store : CaptureStore) (sessionId : Option SessionId) : Prop :=
  ∀ row ∈ store.tombstones.rows,
    store.rollingIdentity? sessionId = some row.identity →
      row.sessionId = sessionId ∨
        store.rollingIdentity? row.sessionId ≠ some row.identity

/-- The archive and the log agree on the captures of a session. -/
def SameSession (store : CaptureStore) (sessionId : Option SessionId) : Prop :=
  ∀ row ∈ store.tombstones.rows, ∀ archived ∈ store.captures.rows,
    archived.identity = row.identity →
      (archived.sessionId = sessionId ↔ row.sessionId = sessionId)

/-- A late decision is the first one about its frame, and under `SAVE_LAST` the
session it supersedes is the same in the archive and in the log. -/
def DecidesLateFirst
    (store : CaptureStore)
    (identity : CaptureIdentity)
    (sessionId : Option SessionId) :
    SavePolicy → Prop
  | .saveLast =>
      store.SameSession sessionId ∧ store.OwnsRolling sessionId
  | .saveAll => store.rollingIdentity? sessionId ≠ some identity
  | .saveNone =>
      ¬store.Archived identity ∧
        store.rollingIdentity? sessionId ≠ some identity

/-- What a replay has to meet when it decides under a context. -/
def ReplaysFirst
    (store : CaptureStore)
    (capture : CaptureData)
    (context : DeliveryPolicyContext) :
    Prop :=
  if (store.closedSession? context.sessionId).isSome then
    store.DecidesLateFirst capture.identity context.sessionId
      context.savePolicy
  else
    store.DecidesFirst capture.identity context.sessionId context.savePolicy

/-- The condition under which a transaction keeps the log consistent. It asks
for something only where a new decision is made or a rolling capture moved. -/
def KeepsLog (store : CaptureStore) : Transaction → Prop
  | .commitDelivery delivery savePolicy sessionId _ =>
      ∀ capture ∈ (deliveredCapture delivery).toOption,
        store.tombstones.selectKey capture.identity = none →
          store.DecidesFirst capture.identity sessionId savePolicy
  | .commitReplayedDelivery delivery =>
      ∀ capture ∈ (deliveredCapture delivery).toOption,
        store.tombstones.selectKey capture.identity = none →
          ∀ context ∈ store.context? capture.device,
            store.ReplaysFirst capture context
  | .finalizeLatestCapture sessionId => store.OwnsRolling (some sessionId)
  | .finalizeSessionSummary summary
  | .reconcileInterruptedSession summary =>
      summary.savePolicy = .saveLast →
        store.OwnsRolling (some summary.sessionId)
  | _ => True

section Decidable

variable (store : CaptureStore) (identity : CaptureIdentity)
  (sessionId : Option SessionId)

instance : Decidable (store.Archived identity) :=
  inferInstanceAs
    (Decidable (∃ row ∈ store.captures.rows, row.identity = identity))

instance :
    ∀ savePolicy,
      Decidable (store.DecidesFirst identity sessionId savePolicy)
  | .saveAll => inferInstanceAs (Decidable (_ ≠ _))
  | .saveLast => inferInstanceAs (Decidable (_ ∧ ∀ row ∈ _, _ → _ ≠ _))
  | .saveNone => inferInstanceAs (Decidable (_ ∧ _ ≠ _))

instance : Decidable (store.OwnsRolling sessionId) :=
  inferInstanceAs (Decidable (∀ row ∈ _, _ = _ → _ = _ ∨ _ ≠ _))

instance : Decidable (store.SameSession sessionId) :=
  inferInstanceAs
    (Decidable (∀ row ∈ _, ∀ archived ∈ _, _ = _ → (_ = _ ↔ _ = _)))

instance :
    ∀ savePolicy,
      Decidable (store.DecidesLateFirst identity sessionId savePolicy)
  | .saveAll => inferInstanceAs (Decidable (_ ≠ _))
  | .saveLast => inferInstanceAs (Decidable (_ ∧ _))
  | .saveNone => inferInstanceAs (Decidable (_ ∧ _ ≠ _))

instance (capture : CaptureData) (context : DeliveryPolicyContext) :
    Decidable (store.ReplaysFirst capture context) :=
  inferInstanceAs (Decidable (ite _
    (store.DecidesLateFirst _ _ _) (store.DecidesFirst _ _ _)))

instance : ∀ transaction, Decidable (store.KeepsLog transaction)
  | .commitDelivery _ _ _ _ =>
      inferInstanceAs (Decidable (∀ capture ∈ _, _ = _ → _))
  | .commitReplayedDelivery _ =>
      inferInstanceAs
        (Decidable (∀ capture ∈ _, _ = _ → ∀ context ∈ _, _))
  | .finalizeLatestCapture _ =>
      inferInstanceAs (Decidable (store.OwnsRolling _))
  | .finalizeSessionSummary _ | .reconcileInterruptedSession _ =>
      inferInstanceAs (Decidable (_ = _ → store.OwnsRolling _))
  | .createGroup _ | .registerDeliveryPolicy _ _ _ _
  | .unregisterDeliveryPolicy _ _ | .saveConfigurationContext _ _
  | .saveSessionSummary _ | .assignCaptureGroup _ _ => .isTrue trivial

end Decidable

/-! ## What each operation keeps -/

section Keeps

variable {store next : CaptureStore} {delivery : BridgeCaptureDelivery}
  {capture : CaptureData} {savePolicy : SavePolicy}
  {sessionId : Option SessionId} {groupId : Option GroupId}
  {excepted : CaptureIdentity → Prop}

/-- A decision still describes a frame that has not moved. -/
theorem Describes.of_unmoved
    {row : ResolutionTombstone}
    (describes : Describes store row)
    (archived : next.Archived row.identity ↔ store.Archived row.identity)
    (rolling :
      next.rollingIdentity? row.sessionId = some row.identity ↔
        store.rollingIdentity? row.sessionId = some row.identity) :
    Describes next row where
  archived := describes.archived.trans archived.symm
  rolling := describes.rolling.trans rolling.symm

/-- The same rolling rows hold the same captures. -/
theorem rollingIdentity?_of_latest
    (latest : next.latest = store.latest)
    (sessionId : Option SessionId) :
    next.rollingIdentity? sessionId = store.rollingIdentity? sessionId := by
  unfold rollingIdentity?
  rw [latest]

/-- A change of other tables keeps the log. -/
theorem Held.of_same
    (held : Held excepted store)
    (tombstones : next.tombstones = store.tombstones)
    (captures : next.captures = store.captures)
    (latest : next.latest = store.latest) :
    Held excepted next := by
  intro row member kept
  rw [tombstones] at member
  apply (held row member kept).of_unmoved
  · rw [Archived, captures]
    rfl
  · rw [rollingIdentity?_of_latest latest]

/-- The archive afterwards has the frame, and no other one more. -/
theorem Archives.archived_iff
    {inserted : Bool}
    (archives :
      Archives store delivery capture sessionId groupId next inserted)
    (identity : CaptureIdentity) :
    next.Archived identity ↔
      store.Archived identity ∨ identity = capture.identity := by
  cases archives with
  | kept existing member same bytes =>
      constructor
      · exact .inl
      · rintro (archived | rfl)
        · exact archived
        · exact ⟨existing, member, same⟩
  | added captures fresh rows =>
      simp only [Archived, rows, List.mem_append, List.mem_singleton]
      constructor
      · rintro ⟨row, old | rfl, rfl⟩
        · exact .inl ⟨row, old, rfl⟩
        · exact .inr rfl
      · rintro (⟨row, old, rfl⟩ | rfl)
        · exact ⟨row, .inl old, rfl⟩
        · exact ⟨_, .inr rfl, rfl⟩

/-- A decision to archive describes a frame that is not rolling. -/
theorem Archives.describes
    {inserted : Bool}
    (archives :
      Archives store delivery capture sessionId groupId next inserted)
    {session : Option SessionId}
    (unrolled : store.rollingIdentity? session ≠ some capture.identity) :
    Describes next
      (next.resolutionRow delivery capture .rawArchived session) where
  archived := iff_of_true rfl ((archives.archived_iff _).2 (.inr rfl))
  rolling := by
    refine iff_of_false nofun ?_
    rw [rollingIdentity?_of_latest archives.frame.latest]
    exact unrolled

/-- Archiving a frame breaks the log for that frame only. -/
theorem Held.archives
    {inserted : Bool}
    (held : Held excepted store)
    (archives :
      Archives store delivery capture sessionId groupId next inserted) :
    Held (fun identity => excepted identity ∨ identity = capture.identity)
      next := by
  intro row member kept
  rw [archives.frame.tombstones] at member
  obtain ⟨unexcepted, other⟩ := not_or.1 kept
  apply (held row member unexcepted).of_unmoved
  · rw [archives.archived_iff]
    exact or_iff_left other
  · rw [rollingIdentity?_of_latest archives.frame.latest]

/-- Recording the decision about a frame repairs the log for that frame. -/
theorem Held.records
    {resolution : CaptureResolution}
    (held :
      Held (fun identity => excepted identity ∨ identity = capture.identity)
        store)
    (records : Records store delivery capture resolution sessionId next)
    (described :
      excepted capture.identity ∨
        Describes store
          (store.resolutionRow delivery capture resolution sessionId)) :
    Held excepted next := by
  intro row member kept
  have describes : Describes store row := by
    rcases records.mem member with old | rfl
    · exact held row old (not_or.2 ⟨kept, records.fresh row old⟩)
    · exact described.resolve_left kept
  cases records with
  | recorded => exact describes.of_unmoved Iff.rfl Iff.rfl

/-- The rolling captures after one has been replaced. -/
theorem rollingIdentity?_update
    (store next : CaptureStore)
    {sessionId : Option SessionId}
    {rolling : Option RollingCapture}
    (latest : next.latest = Function.update store.latest sessionId rolling)
    (other : Option SessionId) :
    next.rollingIdentity? other =
      if other = sessionId then rolling.bind rolledIdentity?
      else store.rollingIdentity? other := by
  unfold rollingIdentity?
  rw [latest]
  split_ifs with same
  · rw [same, Function.update_self]
  · rw [Function.update_of_ne same]

/-- The identity of a frame that can be read back. -/
theorem rolledIdentity?_of_stored
    (stored : storedCapture delivery = .ok capture)
    (groupId : Option GroupId) :
    rolledIdentity? ⟨delivery, groupId⟩ = some capture.identity := by
  rw [rolledIdentity?, stored]
  rfl

/-- A policy breaks the log for the frame it decides, and decides what happens
to it. -/
theorem Keeps.held
    {inserted : Bool}
    {resolution : CaptureResolution}
    (keeps :
      Keeps store delivery capture sessionId groupId savePolicy next inserted
        resolution)
    (consistent : Held (fun _ => False) store)
    (stored : storedCapture delivery = .ok capture)
    (first : store.DecidesFirst capture.identity sessionId savePolicy) :
    Held (fun identity => False ∨ identity = capture.identity) next ∧
      Describes next
        (next.resolutionRow delivery capture resolution sessionId) := by
  cases keeps with
  | archived archives =>
      exact ⟨consistent.archives archives, archives.describes first⟩
  | rolling configurations =>
      obtain ⟨unarchived, unrolled⟩ := first
      have replaced (other : Option SessionId) :
          rollingIdentity?
              { store with
                latest :=
                  Function.update store.latest sessionId
                    (some ⟨delivery, groupId⟩)
                configurations := configurations } other =
            if other = sessionId then some capture.identity
            else store.rollingIdentity? other := by
        rw [← rolledIdentity?_of_stored stored groupId,
          ← Option.bind_some ⟨delivery, groupId⟩ rolledIdentity?]
        exact rollingIdentity?_update store _ rfl other
      refine ⟨?_, ?_, ?_⟩
      · intro row member other
        obtain ⟨-, other⟩ := not_or.1 other
        have describes := consistent row member id
        refine describes.of_unmoved Iff.rfl ?_
        rw [replaced]
        split_ifs with same
        · refine iff_of_false (fun named => other (Option.some.inj named).symm)
            fun rolled => ?_
          exact unrolled row member same (describes.rolling.2 rolled)
        · exact Iff.rfl
      · exact iff_of_false nofun unarchived
      · refine iff_of_true rfl ?_
        rw [replaced]
        exact if_pos rfl
  | discarded =>
      obtain ⟨unarchived, unrolled⟩ := first
      refine ⟨?_, ?_, ?_⟩
      · exact fun row member _ => consistent row member id
      · exact iff_of_false nofun unarchived
      · exact iff_of_false nofun unrolled

/-- `commit_delivery` keeps the log. -/
theorem Commits.held
    {result : CoreCommitResult}
    (commits :
      Commits store delivery capture savePolicy sessionId groupId next result)
    (consistent : Held (fun _ => False) store)
    (stored : storedCapture delivery = .ok capture)
    (first :
      store.tombstones.selectKey capture.identity = none →
        store.DecidesFirst capture.identity sessionId savePolicy) :
    Held (fun _ => False) next := by
  cases commits with
  | repeated existing found configurations =>
      exact consistent.of_same rfl rfl rfl
  | decided undecided named keeps records configurations =>
      obtain ⟨held, described⟩ :=
        keeps.held consistent stored (first undecided)
      exact (held.records records (.inr described)).of_same rfl rfl rfl

/-- The decisions after some have been reclassified. -/
theorem mem_resolveAs
    {chosen : ResolutionTombstone → Bool}
    {resolution : CaptureResolution}
    {row : ResolutionTombstone} :
    row ∈ (store.resolveAs chosen resolution).tombstones.rows ↔
      ∃ old ∈ store.tombstones.rows,
        row =
          if chosen old then { old with resolution := resolution } else old := by
  simp only [resolveAs, Table.modify, List.mem_map, eq_comm]

/-- Moving the rolling capture of a session repairs the log for that capture. -/
theorem Moves.held
    {sessionId : SessionId}
    (moves : Moves store sessionId next)
    (held : Held excepted store)
    (rolling :
      ∀ identity, excepted identity →
        store.rollingIdentity? (some sessionId) = some identity)
    (owns : store.OwnsRolling (some sessionId)) :
    Held (fun _ => False) next := by
  cases moves with
  | unmoved nothing =>
      intro row member _
      apply held row member
      intro broken
      have rolled := rolling row.identity broken
      rw [rollingIdentity?, nothing] at rolled
      exact nomatch rolled
  | moved rolled shown capture stored archives moved =>
      have archivedIff (identity : CaptureIdentity) :
          next.Archived identity ↔
            store.Archived identity ∨ identity = capture.identity := by
        rw [Archived, moved.captures]
        exact archives.archived_iff identity
      have moving :
          store.rollingIdentity? (some sessionId) = some capture.identity := by
        rw [rollingIdentity?, shown]
        exact rolledIdentity?_of_stored stored _
      have left :=
        rollingIdentity?_update store next
          (moved.latest.trans
            (congrArg (Function.update · (some sessionId) none)
              archives.frame.latest))
      intro row member _
      rw [moved.tombstones] at member
      obtain ⟨old, oldMember, rfl⟩ := mem_resolveAs.1 member
      rw [archives.frame.tombstones] at oldMember
      by_cases same : old.identity = capture.identity
      · rw [if_pos (decide_eq_true same)]
        refine ⟨iff_of_true rfl ((archivedIff _).2 (.inr same)),
          iff_of_false nofun ?_⟩
        rw [left]
        split_ifs with own
        · exact nofun
        · exact (owns old oldMember (moving.trans (same ▸ rfl))).resolve_left
            own
      · rw [if_neg (by simpa using same)]
        have describes := held old oldMember fun broken =>
          same (Option.some.inj (moving.symm.trans (rolling _ broken))).symm
        apply describes.of_unmoved
        · rw [archivedIff]
          exact or_iff_left same
        · rw [left]
          split_ifs with own
          · rw [own, moving]
            exact iff_of_false nofun fun other =>
              same (Option.some.inj other).symm
          · exact Iff.rfl

/-- The end of a session keeps the log. -/
theorem Finalizes.held
    {summary : SessionSummary}
    (finalizes : Finalizes store summary savePolicy next)
    (held : Held excepted store)
    (rolling :
      ∀ identity, excepted identity →
        savePolicy = .saveLast ∧
          store.rollingIdentity? (some summary.sessionId) = some identity)
    (owns :
      savePolicy = .saveLast → store.OwnsRolling (some summary.sessionId)) :
    Held (fun _ => False) next := by
  cases finalizes with
  | finalized moves stays =>
      by_cases last : savePolicy = .saveLast
      · have moved :=
          (moves last).held held (fun identity broken =>
            (rolling identity broken).2) (owns last)
        exact moved.of_same rfl rfl rfl
      · rw [stays last]
        intro row member _
        have describes :=
          held row member fun broken => last (rolling _ broken).1
        exact describes.of_unmoved Iff.rfl Iff.rfl

/-- What is left in the archive when the captures of a session are deleted. -/
theorem archived_supersede
    (identity : CaptureIdentity) :
    (store.supersede .saveLast sessionId).Archived identity ↔
      ∃ row ∈ store.captures.rows,
        row.identity = identity ∧ row.sessionId ≠ sessionId := by
  simp only [Archived, supersede, if_true, resolveAs, deleteArchived,
    Table.mem_delete, decide_eq_false_iff_not]
  constructor
  · rintro ⟨row, ⟨member, other⟩, same⟩
    exact ⟨row, member, same, other⟩
  · rintro ⟨row, member, same, other⟩
    exact ⟨row, ⟨member, other⟩, same⟩

/-- Superseding the captures of a session breaks the log for its rolling
capture only. -/
theorem Held.supersede
    (consistent : Held (fun _ => False) store)
    (agree : store.SameSession sessionId) :
    Held (fun identity => store.rollingIdentity? sessionId = some identity)
      (store.supersede .saveLast sessionId) := by
  intro row member other
  simp only [CaptureStore.supersede, if_true] at member
  obtain ⟨old, oldMember, rfl⟩ := mem_resolveAs.1 member
  change old ∈ store.tombstones.rows at oldMember
  have describes := consistent old oldMember id
  by_cases own : old.sessionId = sessionId
  · rw [if_pos (decide_eq_true own)] at other ⊢
    refine ⟨iff_of_false nofun ?_, iff_of_false nofun ?_⟩
    · rw [archived_supersede]
      rintro ⟨archived, archivedMember, same, foreign⟩
      exact foreign ((agree old oldMember archived archivedMember same).2 own)
    · intro rolled
      rw [← own] at other
      exact other rolled
  · rw [if_neg (by simpa using own)]
    apply describes.of_unmoved
    · rw [archived_supersede]
      constructor
      · rintro ⟨archived, archivedMember, same, -⟩
        exact ⟨archived, archivedMember, same⟩
      · rintro ⟨archived, archivedMember, same⟩
        refine ⟨archived, archivedMember, same, fun foreign => own ?_⟩
        exact (agree old oldMember archived archivedMember same).1 foreign
    · exact Iff.rfl

/-- Who owns a rolling capture depends on the session of each decision only. -/
theorem OwnsRolling.of_rows
    (owns : store.OwnsRolling sessionId)
    (latest : next.latest = store.latest)
    (rows :
      ∀ row ∈ next.tombstones.rows, row.sessionId = sessionId ∨
        ∃ old ∈ store.tombstones.rows,
          old.identity = row.identity ∧ old.sessionId = row.sessionId) :
    next.OwnsRolling sessionId := by
  have unchanged := rollingIdentity?_of_latest latest
  intro row member rolled
  rcases rows row member with own | ⟨old, oldMember, identity, session⟩
  · exact .inl own
  · rw [unchanged, ← identity] at rolled
    rw [unchanged, ← identity, ← session]
    exact owns old oldMember rolled

/-- A late replay keeps the log. -/
theorem CommitsLate.held
    {session : SessionId}
    {summary : SessionSummary}
    {result : CoreCommitResult}
    (commits :
      CommitsLate store delivery capture savePolicy (some session) groupId
        summary next result)
    (consistent : Held (fun _ => False) store)
    (named : summary.sessionId = session)
    (first :
      store.DecidesLateFirst capture.identity (some session) savePolicy) :
    Held (fun _ => False) next := by
  subst named
  cases commits with
  | @decided kept recorded _ resolution keeps records configurations finalizes =>
      cases savePolicy with
      | saveNone =>
          obtain ⟨unarchived, unrolled⟩ := first
          cases keeps with
          | archived discards => exact absurd rfl discards
          | discarded =>
              have held :
                  Held (fun identity => False ∨ identity = capture.identity)
                    (store.supersede .saveNone (some summary.sessionId)) :=
                fun row member _ => consistent row member id
              have repaired :=
                held.records records
                  (.inr ⟨iff_of_false nofun unarchived,
                    iff_of_false nofun unrolled⟩)
              exact finalizes.held (repaired.of_same rfl rfl rfl) nofun nofun
      | saveAll =>
          cases keeps with
          | archived _ archives =>
              have held :
                  Held (fun _ => False)
                    (store.supersede .saveAll (some summary.sessionId)) :=
                consistent
              have repaired :=
                (held.archives archives).records records
                  (.inr (archives.describes first))
              exact finalizes.held (repaired.of_same rfl rfl rfl) nofun nofun
      | saveLast =>
          obtain ⟨agree, owns⟩ := first
          cases keeps with
          | archived _ archives =>
              have held := (consistent.supersede agree).archives archives
              have described :
                  store.rollingIdentity? (some summary.sessionId) =
                      some capture.identity ∨
                    Describes kept
                      (kept.resolutionRow delivery capture .rawArchived
                        (some summary.sessionId)) := by
                by_cases rolled :
                    store.rollingIdentity? (some summary.sessionId) =
                      some capture.identity
                · exact .inl rolled
                · exact .inr (archives.describes rolled)
              have repaired := held.records records described
              have latest : recorded.latest = store.latest :=
                records.frame.latest.trans archives.frame.latest
              apply finalizes.held (repaired.of_same rfl rfl rfl)
              · intro identity broken
                refine ⟨rfl, ?_⟩
                rw [← broken]
                exact rollingIdentity?_of_latest latest _
              · intro _
                apply owns.of_rows latest
                intro row member
                rcases records.mem member with old | rfl
                · rw [archives.frame.tombstones] at old
                  obtain ⟨before, beforeMember, rfl⟩ := mem_resolveAs.1 old
                  refine .inr ⟨before, beforeMember, ?_⟩
                  split_ifs <;> exact ⟨rfl, rfl⟩
                · exact .inl rfl

/-- `commit_replayed_delivery` keeps the log. -/
theorem Replays.held
    {result : CoreCommitResult}
    (replays : Replays store delivery capture next result)
    (consistent : Held (fun _ => False) store)
    (keyed : store.SessionsKeyed)
    (stored : storedCapture delivery = .ok capture)
    (first :
      store.tombstones.selectKey capture.identity = none →
        ∀ context ∈ store.context? capture.device,
          store.ReplaysFirst capture context) :
    Held (fun _ => False) next := by
  cases replays with
  | repeated existing found configurations =>
      exact consistent.of_same rfl rfl rfl
  | direct undecided context registered isOpen commits =>
      apply commits.held consistent stored
      have decides := first undecided context registered
      rw [ReplaysFirst, isOpen] at decides
      exact fun _ => decides
  | late undecided context registered summary closed commits =>
      have decides := first undecided context registered
      rw [ReplaysFirst, closed] at decides
      obtain ⟨session, named, found, -⟩ := closedSession?_eq_some.1 closed
      rw [named] at commits decides
      exact commits.held consistent (keyed session summary found) decides

/-- A transaction that meets its condition keeps the log. -/
theorem Performs.held
    {transaction : Transaction}
    {result : Option CoreCommitResult}
    (performs : Performs store transaction next result)
    (consistent : Held (fun _ => False) store)
    (keyed : store.SessionsKeyed)
    (keeps : store.KeepsLog transaction) :
    Held (fun _ => False) next := by
  cases performs with
  | prepares _ prepares _ _ =>
      exact consistent.of_same prepares.tombstones prepares.captures
        prepares.latest
  | saves summary => exact consistent.of_same rfl rfl rfl
  | commits capture delivered commits =>
      exact commits.held consistent (storedCapture_of_delivered delivered)
        (keeps capture (by rw [delivered]; rfl))
  | replays capture delivered replays =>
      exact replays.held consistent keyed
        (storedCapture_of_delivered delivered)
        (keeps capture (by rw [delivered]; rfl))
  | moves moves => exact moves.held consistent nofun keeps
  | @finalizes transaction _ summary closing terminal finalizes =>
      refine finalizes.held consistent nofun fun last => ?_
      cases transaction with
      | finalizeSessionSummary closed =>
          obtain rfl := Option.some.inj closing
          exact keeps last
      | reconcileInterruptedSession closed =>
          obtain rfl := Option.some.inj closing
          exact keeps last
      | _ => exact nomatch closing
  | regroups change regroups =>
      intro row member _
      refine (consistent row member id).of_unmoved ?_ Iff.rfl
      simp [Archived, Table.modify, regroups.identity]

end Keeps

/-- The log is consistent, and every session is stored under its id. -/
structure LogInvariant (store : CaptureStore) : Prop where
  consistent : Held (fun _ => False) store
  keyed : store.SessionsKeyed

/-- A step that meets its condition keeps the log. -/
theorem LogInvariant.step
    {store : CaptureStore}
    (invariant : store.LogInvariant)
    {transaction : Transaction}
    (keeps : store.KeepsLog transaction) :
    (machine.step store transaction).1.LogInvariant :=
  step_keeps transaction invariant fun _ _ performs =>
    { consistent :=
        performs.held invariant.consistent invariant.keyed keeps
      keyed := invariant.keyed.performs performs }

/-- In every run whose transactions all meet their conditions, every retained
decision says where its frame is. -/
theorem logConsistent_of_keepsLog
    (transactions : List Transaction)
    (keeps :
      EveryStep (fun _ event => event.source.KeepsLog event.input)
        (machine.trace empty transactions)) :
    (machine.after empty transactions).LogConsistent := by
  have initially : empty.LogInvariant := ⟨nofun, nofun⟩
  have invariant :=
    machine.invariant_after (fun _ store => store.LogInvariant) initially
      (fun _ _ _ invariant condition => invariant.step condition)
      transactions keeps
  exact logConsistent_iff_held.2 invariant.consistent

/-! ## A frame that is superseded -/

/-- A `SAVE_LAST` session with one frame is closed, and a second frame is
archived for another session. -/
def archivedOnce : List Transaction :=
  [.commitDelivery (numberedDelivery 1) .saveLast (some oneSession) none,
    .finalizeSessionSummary (summaryOf oneSession .completed .saveLast),
    .commitDelivery (numberedDelivery 2) .saveAll none none]

set_option maxRecDepth 100000 in
/-- Both frames are decided for the first time. -/
theorem logConsistent_archivedOnce :
    (machine.after empty archivedOnce).LogConsistent :=
  logConsistent_of_keepsLog archivedOnce (by decide +kernel)

/-- A `SAVE_LAST` session receives two frames. -/
def superseded : List Transaction :=
  [.commitDelivery (numberedDelivery 1) .saveLast (some oneSession) none,
    .commitDelivery (numberedDelivery 2) .saveLast (some oneSession) none]

set_option maxRecDepth 100000 in
/-- The first frame is no longer the rolling one, and its decision says it
is. -/
theorem not_logConsistent_superseded :
    ¬(machine.after empty superseded).LogConsistent := by
  have claimed :
      ∃ row ∈ (machine.after empty superseded).tombstones.rows,
        row.resolution = .rollingLatest ∧
          (machine.after empty superseded).rollingIdentity? row.sessionId ≠
            some row.identity := by
    decide +kernel
  obtain ⟨row, member, rolling, elsewhere⟩ := claimed
  intro consistent
  exact elsewhere ((consistent row member).2.1.1 rolling)

end Usac.Host.CaptureStore
