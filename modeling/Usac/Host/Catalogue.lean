import Usac.Host.StoreRun
import Usac.Library.Paging

namespace Usac.Host

open Library

/-!
# Experiments, groups and the history of captures

The tables of `core_store.py` that say what the captures of the archive belong
to, the operations that edit them, the manual assignment of captures to a group
and the pages of the capture history. The ids of new experiments and groups and
the clock are inputs.
-/

/-! ## Texts -/

/-- The characters of `str.isspace`. -/
def isSpace (character : Char) : Bool :=
  let code := character.toNat
  (9 ≤ code ∧ code ≤ 13) ∨ (28 ≤ code ∧ code ≤ 32) ∨ code = 0x85 ∨
    code = 0xA0 ∨ code = 0x1680 ∨ (0x2000 ≤ code ∧ code ≤ 0x200A) ∨
    code = 0x2028 ∨ code = 0x2029 ∨ code = 0x202F ∨ code = 0x205F ∨
    code = 0x3000

/-- `str.strip`. -/
def strip (text : String) : String :=
  let left := text.toList.dropWhile isSpace
  String.ofList (left.reverse.dropWhile isSpace).reverse

/-- `_validate_entity_text`. -/
def validateEntityText
    (value field : String)
    (maximum : Nat) :
    Except Raised String := do
  require (value.length ≤ maximum)
    (.valueError (field ++ " must be text no longer than " ++
      toString maximum ++ " characters"))
  pure value

/-- `_normalize_entity_name`. -/
def normalizeEntityName (name : String) : Except Raised String := do
  let normalized := strip name
  require (1 ≤ normalized.length ∧ normalized.length ≤ 120)
    (.valueError "name must contain 1..120 characters after trimming")
  pure normalized

/-! ## Ids -/

/-- The digits of an id. -/
def lowerDigits : List Char := "0123456789abcdef".toList

/-- The bytes of sixteen pairs of digits. -/
def entityIdOf (digits : List Char) : Bytes 16 :=
  List.Vector.ofFn fun index =>
    (16 * lowerDigits.idxOf (digits.getD (2 * index) '0') +
      lowerDigits.idxOf (digits.getD (2 * index + 1) '0')).toUInt8

/-- `_validate_entity_id`. -/
def validateEntityId (value field : String) : Except Raised (Bytes 16) := do
  require (value.length = 32 ∧
      ∀ character ∈ value.toList, character ∈ lowerDigits)
    (.valueError
      (field ++ " must be exactly 32 lowercase hexadecimal characters"))
  pure (entityIdOf value.toList)

/-- The value of a hexadecimal digit. -/
def digitValue (character : Char) : Option Nat :=
  let value := lowerDigits.idxOf character.toLower
  if value < 16 then some value else none

/-- The spaces `bytes.fromhex` skips. -/
def isAsciiSpace (character : Char) : Bool :=
  let code := character.toNat
  (9 ≤ code ∧ code ≤ 13) ∨ code = 32

/-- `bytes.fromhex`. -/
def bytesFromHex : List Char → Option (List UInt8)
  | [] => some []
  | [character] => if isAsciiSpace character then some [] else none
  | first :: second :: rest =>
      if isAsciiSpace first then
        bytesFromHex (second :: rest)
      else do
        let high ← digitValue first
        let low ← digitValue second
        let others ← bytesFromHex rest
        pure ((16 * high + low).toUInt8 :: others)

/-- A byte string of sixteen bytes. -/
def sixteenBytes (bytes : List UInt8) : Option (Bytes 16) :=
  if long : bytes.length = 16 then some ⟨bytes, long⟩ else none

/-- The session id of a query. -/
def validateSessionId (value : String) : Except Raised SessionId :=
  match bytesFromHex value.toList with
  | none => .error (.valueError "session_id must be hexadecimal")
  | some bytes =>
      match sixteenBytes bytes with
      | none => .error (.valueError "session_id must encode exactly 16 bytes")
      | some sessionId => .ok sessionId

/-! ## Experiments and groups -/

/-- The id of an experiment. -/
abbrev ExperimentId := Bytes 16

/-- A row of `experiments`. -/
structure Experiment where
  experimentId : ExperimentId
  name : String
  notes : String
  createdUtcNs : Int
  updatedUtcNs : Int
  deriving DecidableEq

/-- A row of `experiment_groups`. -/
structure ExperimentGroup where
  groupId : GroupId
  experimentId : ExperimentId
  name : String
  cellId : String
  notes : String
  createdUtcNs : Int
  updatedUtcNs : Int
  deriving DecidableEq

/-- The store with the tables of experiments and groups. The groups of the store
are those of the table, and each belongs to an experiment. -/
structure Catalogue where
  store : CaptureStore
  experiments : ExperimentId → Option Experiment
  groups : GroupId → Option ExperimentGroup
  known :
    ∀ groupId, groupId ∈ store.groups ↔ (groups groupId).isSome = true
  owned :
    ∀ groupId group, groups groupId = some group →
      (experiments group.experimentId).isSome = true

namespace Catalogue

/-- The tables on a new file. -/
def empty : Catalogue where
  store := .empty
  experiments := fun _ => none
  groups := fun _ => none
  known := by simp [CaptureStore.empty]
  owned := nofun

/-- A row that is not in its table. -/
def unknownEntity (entityId : Bytes 16) : Raised :=
  ⟨.keyError, hex entityId.toList⟩

/-- A primary key that is taken. -/
def primaryKeyTaken (column : String) : Raised :=
  ⟨.sqliteIntegrityError, "UNIQUE constraint failed: " ++ column⟩

/-- The insertion of `create_experiment`. -/
def insertExperiment
    (catalogue : Catalogue)
    (experiment : Experiment) :
    Catalogue where
  store := catalogue.store
  experiments :=
    Function.update catalogue.experiments experiment.experimentId
      (some experiment)
  groups := catalogue.groups
  known := catalogue.known
  owned := by
    intro groupId group found
    have before := catalogue.owned groupId group found
    by_cases same : group.experimentId = experiment.experimentId
    · simp [same]
    · rwa [Function.update_of_ne same]

/-- `create_experiment`. -/
def createExperiment
    (catalogue : Catalogue)
    (experimentId : ExperimentId)
    (now : Int)
    (name notes : String) :
    Except Raised Catalogue := do
  let name ← normalizeEntityName name
  let notes ← validateEntityText notes "notes" 2000
  require ((catalogue.experiments experimentId).isNone = true)
    (primaryKeyTaken "experiments.experiment_id")
  pure (catalogue.insertExperiment ⟨experimentId, name, notes, now, now⟩)

/-- The arguments of `update_experiment`, with the names of the fields it does
not have, in order. -/
structure ExperimentChanges where
  name : Option String
  notes : Option String
  unsupported : List String
  deriving DecidableEq

/-- `update_experiment`. -/
def updateExperiment
    (catalogue : Catalogue)
    (experimentId : String)
    (now : Int)
    (changes : ExperimentChanges) :
    Except Raised Catalogue := do
  let experimentId ← validateEntityId experimentId "experiment_id"
  require (changes.unsupported = [])
    (.valueError ("unsupported experiment fields: " ++
      String.intercalate ", " changes.unsupported))
  let name ← changes.name.mapM normalizeEntityName
  let notes ← changes.notes.mapM (validateEntityText · "notes" 2000)
  match catalogue.experiments experimentId with
  | none => .error (unknownEntity experimentId)
  | some experiment =>
      if name.isNone ∧ notes.isNone then
        pure catalogue
      else
        pure (catalogue.insertExperiment {
          experimentId := experimentId
          name := name.getD experiment.name
          notes := notes.getD experiment.notes
          createdUtcNs := experiment.createdUtcNs
          updatedUtcNs := now
        })

/-- The insertion of `create_group`. -/
def insertGroup
    (catalogue : Catalogue)
    (group : ExperimentGroup)
    (owner : (catalogue.experiments group.experimentId).isSome = true) :
    Catalogue where
  store := catalogue.store.createGroup group.groupId
  experiments := catalogue.experiments
  groups := Function.update catalogue.groups group.groupId (some group)
  known := by
    intro groupId
    rw [CaptureStore.createGroup, List.mem_append, List.mem_singleton,
      catalogue.known]
    by_cases same : groupId = group.groupId
    · simp [same]
    · simp [same]
  owned := by
    intro groupId other found
    by_cases same : groupId = group.groupId
    · rw [same, Function.update_self] at found
      obtain rfl := Option.some.inj found
      exact owner
    · rw [Function.update_of_ne same] at found
      exact catalogue.owned groupId other found

/-- `create_group`. -/
def createGroup
    (catalogue : Catalogue)
    (experimentId : String)
    (groupId : GroupId)
    (now : Int)
    (name cellId notes : String) :
    Except Raised Catalogue := do
  let experimentId ← validateEntityId experimentId "experiment_id"
  let name ← normalizeEntityName name
  let cellId ← validateEntityText cellId "cell_id" 120
  let notes ← validateEntityText notes "notes" 2000
  if owner : (catalogue.experiments experimentId).isSome = true then do
    require ((catalogue.groups groupId).isNone = true)
      (primaryKeyTaken "experiment_groups.group_id")
    pure (catalogue.insertGroup
      ⟨groupId, experimentId, name, cellId, notes, now, now⟩ owner)
  else
    .error (unknownEntity experimentId)

/-- The arguments of `update_group`, with the names of the fields it does not
have, in order. -/
structure GroupChanges where
  name : Option String
  cellId : Option String
  notes : Option String
  unsupported : List String
  deriving DecidableEq

/-- The update of a group that is there. -/
def replaceGroup
    (catalogue : Catalogue)
    (groupId : GroupId)
    (old : ExperimentGroup)
    (found : catalogue.groups groupId = some old)
    (name cellId notes : Option String)
    (now : Int) :
    Catalogue where
  store := catalogue.store
  experiments := catalogue.experiments
  groups := Function.update catalogue.groups groupId (some { old with
    name := name.getD old.name
    cellId := cellId.getD old.cellId
    notes := notes.getD old.notes
    updatedUtcNs := now })
  known := by
    intro other
    rw [catalogue.known]
    by_cases same : other = groupId
    · simp [same, found]
    · rw [Function.update_of_ne same]
  owned := by
    intro other group updated
    by_cases same : other = groupId
    · rw [same, Function.update_self] at updated
      obtain rfl := Option.some.inj updated
      exact catalogue.owned groupId old found
    · rw [Function.update_of_ne same] at updated
      exact catalogue.owned other group updated

/-- `update_group`. -/
def updateGroup
    (catalogue : Catalogue)
    (groupId : String)
    (now : Int)
    (changes : GroupChanges) :
    Except Raised Catalogue := do
  let groupId ← validateEntityId groupId "group_id"
  require (changes.unsupported = [])
    (.valueError ("unsupported group fields: " ++
      String.intercalate ", " changes.unsupported))
  let name ← changes.name.mapM normalizeEntityName
  let cellId ← changes.cellId.mapM (validateEntityText · "cell_id" 120)
  let notes ← changes.notes.mapM (validateEntityText · "notes" 2000)
  match found : catalogue.groups groupId with
  | none => .error (unknownEntity groupId)
  | some old =>
      if name.isNone ∧ cellId.isNone ∧ notes.isNone then
        pure catalogue
      else
        pure (catalogue.replaceGroup groupId old found name cellId notes now)

/-! ## Manual assignment -/

/-- The number of captures one call assigns. -/
def assignLimit : Nat := 500

/-- The distinct ids of `assign_capture_group`, after those seen. -/
def distinctIds
    (seen : List (Bytes 16)) :
    List (List UInt8) → Except Raised (List (Bytes 16))
  | [] => .ok seen
  | captureId :: rest =>
      match sixteenBytes captureId with
      | none =>
          .error (.valueError "each capture ID must encode exactly 16 bytes")
      | some captureId =>
          if captureId ∈ seen then
            distinctIds seen rest
          else do
            require (seen.length + 1 ≤ assignLimit)
              (.valueError "capture_ids must contain at most 500 distinct IDs")
            distinctIds (seen ++ [captureId]) rest

/-- The target of `assign_capture_group`, as a group of the store. -/
def groupTarget (groupId : Option String) : Except Raised (Option GroupId) :=
  groupId.mapM (validateEntityId · "group_id")

/-- `assign_capture_group`. -/
def assignCaptureGroup
    (catalogue : Catalogue)
    (captureIds : List (List UInt8))
    (groupId : Option String) :
    Except Raised (CaptureStore × Nat) := do
  let distinct ← distinctIds [] captureIds
  require (distinct ≠ [])
    (.valueError "capture_ids must contain at least one distinct ID")
  let target ← groupTarget groupId
  let store ← catalogue.store.assignCaptureGroup distinct target
  pure (store, distinct.length)

end Catalogue

namespace Transaction

/-- Whether a transaction belongs to an operation of the catalogue. -/
def isCatalogued : Transaction → Bool
  | createGroup _ => true
  | assignCaptureGroup _ _ => true
  | _ => false

/-- Only new groups change the groups. -/
theorem groups_of_perform
    {store next : CaptureStore}
    {transaction : Transaction}
    {result : Option CoreCommitResult}
    (performed : transaction.perform store = .ok (next, result))
    (other : ∀ groupId, transaction ≠ .createGroup groupId) :
    next.groups = store.groups := by
  cases CaptureStore.perform_performs performed with
  | prepares preparation =>
      cases transaction with
      | createGroup groupId => exact absurd rfl (other groupId)
      | registerDeliveryPolicy device sessionId savePolicy groupId =>
          obtain ⟨registered, registers, final⟩ := bind_eq_ok.1 performed
          obtain ⟨rfl, -⟩ := Prod.mk.inj (Except.ok.inj final)
          obtain ⟨⟨⟩, -, done⟩ := bind_eq_ok.1 registers
          obtain rfl := Except.ok.inj done
          rfl
      | unregisterDeliveryPolicy device sessionId =>
          obtain ⟨rfl, -⟩ := Prod.mk.inj (Except.ok.inj performed)
          rfl
      | saveConfigurationContext capture context =>
          obtain ⟨rfl, -⟩ := Prod.mk.inj (Except.ok.inj performed)
          rfl
      | _ => cases preparation
  | saves summary => rfl
  | commits capture delivered commits => exact commits.policies.groups
  | replays capture delivered replays => exact replays.policies.groups
  | moves moves => exact moves.policies.groups
  | finalizes summary closing terminal finalizes =>
      exact finalizes.policies.groups
  | regroups => rfl

end Transaction

namespace Catalogue

/-- The catalogue with the store after a change that leaves the groups. -/
def withStore
    (catalogue : Catalogue)
    (store : CaptureStore)
    (groups : store.groups = catalogue.store.groups) :
    Catalogue :=
  { catalogue with
    store := store
    known := fun groupId => groups ▸ catalogue.known groupId }

/-- A call on the store. -/
inductive Operation where
  | createExperiment
      (experimentId : ExperimentId)
      (now : Int)
      (name notes : String)
  | updateExperiment
      (experimentId : String)
      (now : Int)
      (changes : ExperimentChanges)
  | createGroup
      (experimentId : String)
      (groupId : GroupId)
      (now : Int)
      (name cellId notes : String)
  | updateGroup (groupId : String) (now : Int) (changes : GroupChanges)
  | assignCaptureGroup
      (captureIds : List (List UInt8))
      (groupId : Option String)
  | transact
      (transaction : Transaction)
      (other : transaction.isCatalogued = false)

/-- What a call returns. -/
inductive Answer where
  | changed
  | assigned (count : Nat)
  | committed (result : Option CoreCommitResult)
  | raised (raised : Raised)
  deriving DecidableEq

/-- A call that edits experiments and groups. -/
def edit (catalogue : Catalogue) :
    Except Raised Catalogue → Catalogue × Answer
  | .ok next => (next, .changed)
  | .error raised => (catalogue, .raised raised)

/-- The assignment leaves the groups. -/
theorem groups_of_assign
    {catalogue : Catalogue}
    {captureIds : List (List UInt8)}
    {groupId : Option String}
    {result : CaptureStore × Nat}
    (assigned : catalogue.assignCaptureGroup captureIds groupId = .ok result) :
    result.1.groups = catalogue.store.groups := by
  obtain ⟨distinct, -, assigned⟩ := bind_eq_ok.1 assigned
  obtain ⟨⟨⟩, -, assigned⟩ := bind_eq_ok.1 assigned
  obtain ⟨target, -, assigned⟩ := bind_eq_ok.1 assigned
  obtain ⟨store, done, final⟩ := bind_eq_ok.1 assigned
  obtain rfl := Except.ok.inj final
  obtain ⟨⟨⟩, -, done⟩ := bind_eq_ok.1 done
  obtain ⟨⟨⟩, -, done⟩ := bind_eq_ok.1 done
  obtain rfl := Except.ok.inj done
  rfl

/-- A call that assigns captures. -/
def assign
    (catalogue : Catalogue)
    (captureIds : List (List UInt8))
    (groupId : Option String) :
    Catalogue × Answer :=
  match assigned : catalogue.assignCaptureGroup captureIds groupId with
  | .ok result =>
      (catalogue.withStore result.1 (groups_of_assign assigned),
        .assigned result.2)
  | .error raised => (catalogue, .raised raised)

/-- Any other call. -/
def transact
    (catalogue : Catalogue)
    (transaction : Transaction)
    (other : transaction.isCatalogued = false) :
    Catalogue × Answer :=
  match performed : transaction.perform catalogue.store with
  | .ok (next, result) =>
      (catalogue.withStore next
          (transaction.groups_of_perform performed
            (by rintro groupId rfl; cases other)),
        .committed result)
  | .error raised => (catalogue, .raised raised)

/-- The store with its catalogue as a machine. A call that raises changes
nothing. -/
def machine : Machine Catalogue Operation Answer where
  step catalogue
    | .createExperiment experimentId now name notes =>
        catalogue.edit (catalogue.createExperiment experimentId now name notes)
    | .updateExperiment experimentId now changes =>
        catalogue.edit (catalogue.updateExperiment experimentId now changes)
    | .createGroup experimentId groupId now name cellId notes =>
        catalogue.edit
          (catalogue.createGroup experimentId groupId now name cellId notes)
    | .updateGroup groupId now changes =>
        catalogue.edit (catalogue.updateGroup groupId now changes)
    | .assignCaptureGroup captureIds groupId =>
        catalogue.assign captureIds groupId
    | .transact transaction other => catalogue.transact transaction other

end Catalogue

end Usac.Host
