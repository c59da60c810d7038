import Usac.Host.StoreRun
import Usac.Library.Recency

namespace Usac.Host

open Library

/-!
# Which replay contexts are retained

The store keeps the contexts of 256 boots for replayed captures, and takes the
rows with the highest numbers for the latest. But a boot that is registered
again keeps its row, and with it the number of its first registration. So the
contexts that are kept are the latest as long as the row that goes is that of
the boot whose last registration is the oldest.
-/

/-- The arguments of `register_delivery_policy`. -/
structure Registration where
  device : DeviceBoot
  sessionId : Option SessionId
  savePolicy : SavePolicy
  groupId : Option GroupId
  deriving DecidableEq

/-- The registration a row holds. -/
def DeliveryPolicyContext.registration
    (row : DeliveryPolicyContext) :
    Registration where
  device := row.device
  sessionId := row.sessionId
  savePolicy := row.savePolicy
  groupId := row.groupId

namespace ContextRetention

/-- A call of `register_delivery_policy`. -/
abbrev Call := Event CaptureStore Registration (Except Raised Unit)

/-- The store over a sequence of registrations. -/
def machine : Machine CaptureStore Registration (Except Raised Unit) where
  step store registration :=
    match store.registerDeliveryPolicy registration.device
        registration.sessionId registration.savePolicy
        registration.groupId with
    | .ok next => (next, .ok ())
    | .error raised => (store, .error raised)

/-- The registration of a call that has succeeded. -/
def registered? (call : Call) : Option Registration :=
  match call.output with
  | .ok _ => some call.input
  | .error _ => none

/-- The registrations that have succeeded. -/
def registered (calls : List Call) : List Registration :=
  calls.filterMap registered?

/-- The registrations the store retains. -/
def retained (store : CaptureStore) : List Registration :=
  store.contexts.rows.map DeliveryPolicyContext.registration

/-- The store on which nothing has been registered. -/
def unregistered (store : CaptureStore) : CaptureStore :=
  { store with contexts := .empty }

/-- After the call the store holds the boots registered last, each with its
last registration. -/
def RetainsRecent (earlier : List Call) (call : Call) : Prop :=
  HoldsRecent Registration.device CaptureStore.contextLimit
    (registered (earlier ++ [call])) (retained call.target)

/-- If a row has to go for the call, the row with the lowest number is that of
the least recent registration. -/
def EvictsLeastRecent (earlier : List Call) (call : Call) : Prop :=
  call.output = .ok () →
    call.source.context? call.input.device = none →
    call.source.contexts.rows.length = CaptureStore.contextLimit →
    ∀ row ∈ call.source.contexts.rows,
      (∀ other ∈ call.source.contexts.rows, row.rowId ≤ other.rowId) →
        (recent Registration.device CaptureStore.contextLimit
          (registered earlier)).getLast? = some row.registration

/-- The rows are numbered in order, they are not too many, and they are the
registrations made last. -/
structure Retains (earlier : List Call) (store : CaptureStore) : Prop where
  ascending : store.contexts.Ascending
  within : store.contexts.rows.length ≤ CaptureStore.contextLimit
  recent :
    HoldsRecent Registration.device CaptureStore.contextLimit
      (registered earlier) (retained store)

/-- What a registration does: it fails, or it is placed among the others. -/
inductive Registers
    (store : CaptureStore)
    (registration : Registration) :
    CaptureStore → Except Raised Unit → Prop where
  | fails (raised : Raised) :
      Registers store registration store (.error raised)
  | places
      (next : CaptureStore)
      (ascending : next.contexts.Ascending)
      (placed :
        retained next =
          place Registration.device CaptureStore.contextLimit (retained store)
            registration) :
      Registers store registration next (.ok ())

/-- A step registers, or raises. -/
theorem step_registers
    {store : CaptureStore}
    (ascending : store.contexts.Ascending)
    (within : store.contexts.rows.length ≤ CaptureStore.contextLimit)
    (registration : Registration) :
    Registers store registration (machine.step store registration).1
      (machine.step store registration).2 := by
  unfold machine
  dsimp only
  cases registers :
      store.registerDeliveryPolicy registration.device
        registration.sessionId registration.savePolicy
        registration.groupId with
  | error raised => exact .fails raised
  | ok next =>
      obtain ⟨⟨⟩, -, done⟩ := bind_eq_ok.1 registers
      obtain rfl := Except.ok.inj done
      exact .places _ (ascending.upsert.keepNewest _)
        (ascending.map_upsert_keepNewest within (fun _ => rfl) fun _ => rfl)

/-- Placed registrations stay within the limit. -/
theorem length_le_of_placed
    {store next : CaptureStore}
    {registration : Registration}
    (within : store.contexts.rows.length ≤ CaptureStore.contextLimit)
    (placed :
      retained next =
        place Registration.device CaptureStore.contextLimit (retained store)
          registration) :
    next.contexts.rows.length ≤ CaptureStore.contextLimit := by
  have length :
      (place Registration.device CaptureStore.contextLimit (retained store)
          registration).length ≤ CaptureStore.contextLimit :=
    length_place_le (by simpa [retained] using within) registration
  rw [← placed] at length
  simpa [retained] using length

/-- The boots of the rows are different. -/
theorem nodup_retained (store : CaptureStore) :
    ((retained store).map Registration.device).Nodup := by
  have unique := store.contexts.uniqueKey
  rw [retained, List.map_map]
  exact unique

/-- The first row has the lowest number, and no other row has. -/
theorem head?_iff_lowest
    {store : CaptureStore}
    (ascending : store.contexts.Ascending)
    (row : DeliveryPolicyContext) :
    row ∈ store.contexts.rows.head? ↔
      row ∈ store.contexts.rows ∧
        ∀ other ∈ store.contexts.rows, row.rowId ≤ other.rowId := by
  unfold Table.Ascending at ascending
  cases rows : store.contexts.rows with
  | nil => simp
  | cons first rest =>
      rw [rows] at ascending
      obtain ⟨before, -⟩ := List.pairwise_cons.1 ascending
      constructor
      · intro head
        cases head
        refine ⟨List.mem_cons_self, fun other member => ?_⟩
        rcases List.mem_cons.1 member with rfl | later
        · exact Nat.le_refl _
        · exact Nat.le_of_lt (before other later)
      · rintro ⟨member, lowest⟩
        rcases List.mem_cons.1 member with rfl | later
        · rfl
        · exact absurd (lowest first List.mem_cons_self)
            (Nat.not_le.2 (before row later))

/-- The condition is about the registration that is dropped. -/
theorem evictsLeastRecent_iff
    {earlier : List Call}
    {store : CaptureStore}
    (ascending : store.contexts.Ascending)
    (registration : Registration)
    (succeeds : (machine.step store registration).2 = .ok ()) :
    EvictsLeastRecent earlier (machine.event store registration) ↔
      DropsLeastRecent Registration.device CaptureStore.contextLimit
        (registered earlier) (retained store) registration := by
  have absent :
      store.context? registration.device = none ↔
        ¬∃ old ∈ retained store, old.device = registration.device := by
    unfold CaptureStore.context?
    rw [Table.selectKey_eq_none]
    simp [retained, DeliveryPolicyContext.registration]
  unfold EvictsLeastRecent DropsLeastRecent
  show (machine.step store registration).2 = _ → _ ↔ _
  simp only [Machine.event_source, Machine.event_input, absent, succeeds,
    forall_const]
  rw [retained, List.length_map]
  constructor
  · intro evicts fresh full first found
    rw [List.head?_map, Option.mem_def, Option.map_eq_some_iff] at found
    obtain ⟨row, head, rfl⟩ := found
    obtain ⟨member, lowest⟩ := (head?_iff_lowest ascending row).1 head
    exact evicts fresh full row member lowest
  · intro drops fresh full row member lowest
    have head := (head?_iff_lowest ascending row).2 ⟨member, lowest⟩
    apply drops fresh full
    rw [List.head?_map, Option.mem_def, Option.map_eq_some_iff]
    exact ⟨row, head, rfl⟩

/-- A successful call is the last registration. -/
theorem registered_concat
    (earlier : List Call)
    (call : Call) :
    registered (earlier ++ [call]) =
      registered earlier ++ (registered? call).toList := by
  rw [registered, List.filterMap_append]
  cases found : registered? call <;> simp [registered, found]

/-- In a state that retains what was registered last, a call keeps it so
exactly when it evicts the least recent registration. -/
theorem Retains.step_retainsRecent_iff
    {earlier : List Call}
    {store : CaptureStore}
    (retains : Retains earlier store)
    (registration : Registration) :
    RetainsRecent earlier (machine.event store registration) ↔
      EvictsLeastRecent earlier (machine.event store registration) := by
  have registers :=
    step_registers retains.ascending retains.within registration
  generalize stepped : machine.step store registration = next at registers
  obtain ⟨next, output⟩ := next
  have event :
      machine.event store registration =
        ⟨store, registration, output, next⟩ := by
    rw [Machine.event, stepped]
  cases registers with
  | fails raised =>
      rw [event]
      unfold RetainsRecent EvictsLeastRecent
      rw [registered_concat]
      simp only [registered?, Option.toList_none, List.append_nil, reduceCtorEq,
        false_implies, iff_true]
      exact retains.recent
  | places _ _ placed =>
      rw [evictsLeastRecent_iff retains.ascending registration
          (congrArg Prod.snd stepped),
        ← holdsRecent_place_iff (by decide) (nodup_retained store)
          (by simpa [retained] using retains.within) retains.recent, event]
      unfold RetainsRecent
      rw [registered_concat, placed]
      rfl

/-- A call that retains what was registered last keeps the invariant. -/
theorem Retains.step
    {earlier : List Call}
    {store : CaptureStore}
    (retains : Retains earlier store)
    (registration : Registration)
    (recent :
      RetainsRecent earlier (machine.event store registration)) :
    Retains (earlier ++ [machine.event store registration])
      (machine.event store registration).target := by
  have registers :=
    step_registers retains.ascending retains.within registration
  refine ⟨?_, ?_, recent⟩
  · show (machine.step store registration).1.contexts.Ascending
    generalize machine.step store registration = next at registers
    obtain ⟨next, output⟩ := next
    cases registers with
    | fails raised => exact retains.ascending
    | places _ ascending placed => exact ascending
  · show (machine.step store registration).1.contexts.rows.length ≤ _
    generalize machine.step store registration = next at registers
    obtain ⟨next, output⟩ := next
    cases registers with
    | fails raised => exact retains.within
    | places _ ascending placed =>
        exact length_le_of_placed retains.within placed

/-- A store on which nothing has been registered retains nothing. -/
theorem retains_unregistered (store : CaptureStore) :
    Retains [] (unregistered store) where
  ascending := List.Pairwise.nil
  within := Nat.zero_le _
  recent _ := Iff.rfl

/--
Over every sequence of registrations the store holds the boots registered last
exactly when every row that goes is that of the least recent registration.
-/
theorem retainsRecent_iff
    (store : CaptureStore)
    (registrations : List Registration) :
    EveryStep RetainsRecent
        (machine.trace (unregistered store) registrations) ↔
      EveryStep EvictsLeastRecent
        (machine.trace (unregistered store) registrations) := by
  constructor
  · exact machine.everyStep_of_invariant Retains (retains_unregistered store)
      (fun _ _ registration retains recent => retains.step registration recent)
      (fun _ _ registration retains recent =>
        (retains.step_retainsRecent_iff registration).1 recent) registrations
  · exact machine.everyStep_of_invariant Retains (retains_unregistered store)
      (fun _ _ registration retains evicts =>
        retains.step registration
          ((retains.step_retainsRecent_iff registration).2 evicts))
      (fun _ _ registration retains evicts =>
        (retains.step_retainsRecent_iff registration).2 evicts) registrations

/-! ## A boot that is registered again -/

/-- A numbered boot of one device. -/
def numberedBoot (number : Nat) : DeviceBoot where
  deviceId := Bytes.zero 16
  bootId := ((Bytes.zero 16).set 0 number.toUInt8).set 1 (number / 256).toUInt8

/-- The registration of a numbered boot. -/
def numberedRegistration (number : Nat) : Registration where
  device := numberedBoot number
  sessionId := none
  savePolicy := .saveAll
  groupId := none

/-- 256 boots, the first of them again, and one more. -/
def registeredAgain : List Registration :=
  (List.range 256).map numberedRegistration ++
    [numberedRegistration 0, numberedRegistration 256]

/-- Boots of different numbers differ. -/
theorem numberedBoot_injective
    {first second : Nat}
    (firstBound : first < 65536)
    (secondBound : second < 65536)
    (same : numberedBoot first = numberedBoot second) :
    first = second := by
  have bootIds := congrArg DeviceBoot.bootId same
  have low : first.toUInt8 = second.toUInt8 :=
    congrArg (fun bytes : Bytes 16 => bytes.get 0) bootIds
  have high : (first / 256).toUInt8 = (second / 256).toUInt8 :=
    congrArg (fun bytes : Bytes 16 => bytes.get 1) bootIds
  have lowNat := congrArg UInt8.toNat low
  have highNat := congrArg UInt8.toNat high
  simp only [Nat.toUInt8_eq, UInt8.toNat_ofNat'] at lowNat highNat
  omega

/-- Registrations without a group are placed one after the other. -/
theorem trace_of_ungrouped
    (registrations : List Registration)
    (ungrouped :
      ∀ registration ∈ registrations, registration.groupId = none) :
    registered (machine.trace (unregistered .empty) registrations) =
        registrations ∧
      (machine.after (unregistered .empty) registrations).contexts.Ascending ∧
      (machine.after (unregistered .empty) registrations).contexts.rows.length ≤
        CaptureStore.contextLimit ∧
      retained (machine.after (unregistered .empty) registrations) =
        registrations.foldl
          (place Registration.device CaptureStore.contextLimit) [] := by
  induction registrations using List.reverseRecOn with
  | nil => exact ⟨rfl, List.Pairwise.nil, Nat.zero_le _, rfl⟩
  | append_singleton registrations last inductionHypothesis =>
      obtain ⟨recorded, ascending, within, placed⟩ :=
        inductionHypothesis fun registration member =>
          ungrouped registration (List.mem_append_left _ member)
      have lastUngrouped := ungrouped last (by simp)
      rw [machine.trace_concat, machine.after_concat, registered_concat,
        recorded, List.foldl_concat, ← placed]
      generalize machine.after (unregistered .empty) registrations = store at *
      have registers := step_registers ascending within last
      have succeeds : (machine.step store last).2 = .ok () := by
        unfold machine
        dsimp only
        rw [lastUngrouped]
        rfl
      have event :
          machine.event store last =
            ⟨store, last, .ok (), (machine.step store last).1⟩ := by
        rw [Machine.event, succeeds]
      rw [event]
      rw [succeeds] at registers
      dsimp only
      generalize (machine.step store last).1 = next at registers
      cases registers with
      | places _ nextAscending nextPlaced =>
          exact ⟨rfl, nextAscending, length_le_of_placed within nextPlaced,
            nextPlaced⟩

/-- The first boots, each registered once. -/
theorem foldl_place_numbered :
    ((List.range 256).map numberedRegistration).foldl
        (place Registration.device CaptureStore.contextLimit) [] =
      (List.range 256).map numberedRegistration := by
  refine foldl_place_of_nodup ?_ (by simp [CaptureStore.contextLimit])
  rw [List.map_map]
  refine List.nodup_range.map_on fun first firstMember second secondMember
    same => ?_
  have firstBound := List.mem_range.1 firstMember
  have secondBound := List.mem_range.1 secondMember
  exact numberedBoot_injective (by omega) (by omega) same

/-- What is retained in the end: all but the first. -/
theorem foldl_place_registeredAgain :
    registeredAgain.foldl
        (place Registration.device CaptureStore.contextLimit) [] =
      (List.range 255).map (fun number => numberedRegistration (number + 1)) ++
        [numberedRegistration 256] := by
  have again :
      place Registration.device CaptureStore.contextLimit
          ((List.range 256).map numberedRegistration)
          (numberedRegistration 0) =
        (List.range 256).map numberedRegistration := by
    have present :
        ∃ old ∈ (List.range 256).map numberedRegistration,
          old.device = (numberedRegistration 0).device :=
      ⟨_, List.mem_map_of_mem (List.mem_range.2 (by decide)), rfl⟩
    rw [place, if_pos present, List.map_map]
    refine List.map_congr_left fun number member => ?_
    have bound := List.mem_range.1 member
    by_cases same : numberedBoot number = numberedBoot 0
    · rw [numberedBoot_injective (by omega) (by decide) same]
      simp
    · exact if_neg same
  have absent :
      ¬∃ old ∈ (List.range 256).map numberedRegistration,
        old.device = (numberedRegistration 256).device := by
    rintro ⟨old, member, same⟩
    obtain ⟨number, numberMember, rfl⟩ := List.mem_map.1 member
    have bound := List.mem_range.1 numberMember
    have equal := numberedBoot_injective (by omega) (by decide) same
    omega
  rw [registeredAgain, List.foldl_append, foldl_place_numbered,
    List.foldl_cons, again, List.foldl_cons, place, if_neg absent,
    List.length_map, List.length_range, List.range_succ_eq_map,
    List.map_cons, List.map_map]
  rfl

/-- The boot that was registered again goes, though only one other boot has
been registered since. -/
theorem not_retainsRecent_registeredAgain :
    ¬EveryStep RetainsRecent
      (machine.trace (unregistered .empty) registeredAgain) := by
  intro every
  have shape :
      registeredAgain =
        ((List.range 256).map numberedRegistration ++
          [numberedRegistration 0]) ++ [numberedRegistration 256] := by
    rw [registeredAgain, List.append_assoc]
    rfl
  have ungrouped :
      ∀ registration ∈ registeredAgain, registration.groupId = none := by
    intro registration member
    rw [shape, List.mem_append, List.mem_append] at member
    rcases member with (member | member) | member
    · obtain ⟨number, _, rfl⟩ := List.mem_map.1 member
      rfl
    · rw [List.mem_singleton.1 member]
      rfl
    · rw [List.mem_singleton.1 member]
      rfl
  obtain ⟨recorded, -, -, placed⟩ := trace_of_ungrouped _ ungrouped
  rw [foldl_place_registeredAgain] at placed
  rw [shape, machine.trace_concat] at every
  have last := ((EveryStep.concat_iff _ _).1 every).2
  unfold RetainsRecent at last
  rw [← machine.trace_concat, ← machine.after_concat, ← shape, recorded,
    placed] at last
  have distinct (number : Nat) (bound : number < 65536)
      (positive : number ≠ 0) :
      (numberedRegistration 0).device ≠ (numberedRegistration number).device :=
    fun same => positive (numberedBoot_injective (by decide) bound same).symm
  have kept := (last (numberedRegistration 0)).2 (by
    rw [shape]
    exact mem_recent_second (by decide)
      (distinct 256 (by decide) (by decide)) _)
  rcases List.mem_append.1 kept with member | member
  · obtain ⟨number, numberMember, same⟩ := List.mem_map.1 member
    have bound := List.mem_range.1 numberMember
    exact distinct (number + 1) (by omega) (by omega)
      (congrArg Registration.device same).symm
  · exact distinct 256 (by decide) (by decide)
      (congrArg Registration.device (List.mem_singleton.1 member))

end ContextRetention

end Usac.Host
