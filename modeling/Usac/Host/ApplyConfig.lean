import Usac.Host.ConfigV2
import Usac.Library.Machine

namespace Usac.Host

open Library

/-!
# Applying a configuration

`Application.apply_config` over the single-device executor, for any number of
calls at a time. A call takes its locks one after the other, so it is a thread
of atomic steps, and a run is any interleaving of the steps of all calls.
-/

/-- `FieldValidationError`. -/
structure FieldValidationError where
  field : String
  code : String
  message : String
  deriving Repr, DecidableEq

/-- `ValidationResult`. -/
structure ValidationResult (Snapshot : Type) where
  snapshot : Snapshot
  errors : List FieldValidationError
  compiled : Option AcquisitionConfigV2

/-- The parameter service the executor is built with. -/
structure ParameterService (Snapshot Changes : Type) where
  newDraft : Snapshot
  unchanged : Changes
  updateDraft : Snapshot → Changes → Except Raised Snapshot
  validate : Snapshot → Except Raised (ValidationResult Snapshot)
  markApplied : Snapshot → AcquisitionConfigV2 → Except Raised Snapshot

/-- Where a call of `apply_config` stands. -/
inductive Stage (Snapshot : Type) where
  | entered
  | present
  | idle
  | compared
  | configuring
  | settled (result : Except Raised Snapshot)
  | returned (result : Except Raised Snapshot)

/-- Whether a call is about to compare its tag. -/
def Stage.isIdle {Snapshot : Type} : Stage Snapshot → Bool
  | .idle => true
  | _ => false

/-- Whether a call is about to apply its changes. -/
def Stage.isConfiguring {Snapshot : Type} : Stage Snapshot → Bool
  | .configuring => true
  | _ => false

/-- A call of `apply_config`. -/
structure ApplyCall (Snapshot Changes : Type) where
  changes : Changes
  expectedEtag : String
  stage : Stage Snapshot

/-- What the calls share: the session the device client has published, whether
a run session is active, the activity shown to users, and the state of the
executor. -/
structure Application (Snapshot Changes : Type) where
  connected : Bool
  publishedGeneration : Nat
  active : Bool
  operationActivity : Option String
  sessionGeneration : Nat
  snapshot : Snapshot
  appliedConfig : Option AcquisitionConfigV2
  calls : List (ApplyCall Snapshot Changes)

namespace Application

variable {Snapshot Changes : Type}

/-- The tag `applied_etag` returns for an applied configuration. -/
def etagOf (appliedConfig : Option AcquisitionConfigV2) : String :=
  "\"" ++
    hex ((appliedConfig.map AcquisitionConfigV2.profileSha256).getD
      (Bytes.zero 32)).toList ++
    "\""

/-- The tag of the applied configuration. -/
def etag (application : Application Snapshot Changes) : String :=
  etagOf application.appliedConfig

variable (service : ParameterService Snapshot Changes)

/-- `_refresh_session_unlocked`. -/
def refreshSession (application : Application Snapshot Changes) :
    Except Raised (Application Snapshot Changes) :=
  if application.publishedGeneration = application.sessionGeneration then
    .ok application
  else do
    let snapshot ←
      service.updateDraft application.snapshot service.unchanged
    pure { application with
      snapshot := snapshot
      appliedConfig := none
      sessionGeneration := application.publishedGeneration }

/-- The part of `apply_changes` behind the refresh. `readback` is what
`apply_config` of the device client returns or raises. -/
def applyValidated
    (application : Application Snapshot Changes)
    (changes : Changes)
    (readback : Except Raised AcquisitionConfigV2) :
    Except Raised (Application Snapshot Changes × Snapshot) := do
  let target ← service.updateDraft application.snapshot changes
  let result ← service.validate target
  match result.errors, result.compiled with
  | [], some config =>
      let applied ← service.markApplied result.snapshot (← readback)
      pure
        ({ application with
            snapshot := applied
            appliedConfig := some config
            sessionGeneration := application.publishedGeneration },
          applied)
  | _, _ =>
      .error ⟨.configValidationError,
        "configuration did not pass semantic and hardware validation"⟩

/-- `apply_changes`. -/
def applyChanges
    (application : Application Snapshot Changes)
    (changes : Changes)
    (readback : Except Raised AcquisitionConfigV2) :
    Application Snapshot Changes × Except Raised Snapshot :=
  match application.refreshSession service with
  | .error raised => (application, .error raised)
  | .ok refreshed =>
      match refreshed.applyValidated service changes readback with
      | .error raised => (refreshed, .error raised)
      | .ok (applied, snapshot) => (applied, .ok snapshot)

/-- A call at its next stage. -/
def moveTo
    (application : Application Snapshot Changes)
    (index : Nat)
    (stage : Stage Snapshot) :
    Application Snapshot Changes :=
  { application with
    calls := application.calls.modify index fun call =>
      { call with stage := stage } }

/-- A call that is rejected. -/
def reject
    (application : Application Snapshot Changes)
    (index : Nat)
    (raised : Raised) :
    Application Snapshot Changes × Option (Except Raised Snapshot) :=
  (application.moveTo index (.returned (.error raised)), some (.error raised))

/-- What a call with a stale tag raises. -/
def staleTag : Raised :=
  ⟨.configurationEtagConflict, "If-Match does not match current config"⟩

/-- The comparison of `apply_config` with the applied tag. -/
def compareEtag
    (application : Application Snapshot Changes)
    (index : Nat)
    (call : ApplyCall Snapshot Changes) :
    Application Snapshot Changes × Option (Except Raised Snapshot) :=
  match application.refreshSession service with
  | .error raised => application.reject index raised
  | .ok refreshed =>
      if call.expectedEtag ≠ refreshed.etag then
        refreshed.reject index staleTag
      else
        (refreshed.moveTo index .compared, none)

/-- The next atomic step of a call of `apply_config`, with the result of the
call once it is decided. -/
def advance
    (application : Application Snapshot Changes)
    (index : Nat)
    (call : ApplyCall Snapshot Changes)
    (readback : Except Raised AcquisitionConfigV2) :
    Application Snapshot Changes × Option (Except Raised Snapshot) :=
  match call.stage with
  | .entered =>
      if application.connected then
        (application.moveTo index .present, none)
      else
        application.reject index
          ⟨.deviceUnavailable, "device is not connected"⟩
  | .present =>
      if application.active then
        application.reject index
          ⟨.sessionConflict, "the device already has an active run session"⟩
      else
        (application.moveTo index .idle, none)
  | .idle => application.compareEtag service index call
  | .compared =>
      ({ application.moveTo index .configuring with
          operationActivity := some "CONFIGURING" },
        none)
  | .configuring =>
      let (applied, result) :=
        application.applyChanges service call.changes readback
      (applied.moveTo index (.settled result), some result)
  | .settled result =>
      ({ application.moveTo index (.returned result) with
          operationActivity := none },
        none)
  | .returned _ => (application, none)

/-- What happens next: a new call, the next step of a call, or something the
calls do not control. -/
inductive Input (Changes : Type) where
  | call (changes : Changes) (expectedEtag : String)
  | advance (index : Nat) (readback : Except Raised AcquisitionConfigV2)
  | connection (connected : Bool)
  | publish
  | runSession (active : Bool)

/-- The calls as a machine. -/
def machine :
    Machine (Application Snapshot Changes) (Input Changes)
      (Option (Except Raised Snapshot)) where
  step application
    | .call changes expectedEtag =>
        ({ application with
            calls := application.calls ++ [⟨changes, expectedEtag, .entered⟩] },
          none)
    | .advance index readback =>
        match application.calls[index]? with
        | some call => application.advance service index call readback
        | none => (application, none)
    | .connection connected =>
        ({ application with connected := connected }, none)
    | .publish =>
        ({ application with
            publishedGeneration := application.publishedGeneration + 1 },
          none)
    | .runSession active => ({ application with active := active }, none)

/-- An application whose executor has just been built. -/
def started : Application Snapshot Changes where
  connected := true
  publishedGeneration := 0
  active := false
  operationActivity := none
  sessionGeneration := 0
  snapshot := service.newDraft
  appliedConfig := none
  calls := []

end Application

end Usac.Host
