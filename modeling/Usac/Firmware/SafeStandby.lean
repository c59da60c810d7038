import Usac.Firmware.FailClosed
import Usac.Firmware.CaptureSafety

namespace Usac.Firmware

open Library
open Library.Logged (Appends)
open Tuss4470

/-!
# When a failed configuration ends in Standby

The application with the `apply_profile` and `force_safe` of `main.c`, over an
arbitrary bus. A capture that cannot apply its profile forces the device safe
itself. A SET_CONFIG leaves it to the configurator, which does so only behind
the identity check: a SET_CONFIG that is refused before the first write leaves
the device as the configuration before it did.
-/

/-- `tuss_bus`, with the callbacks `main` installs. -/
structure SpiBus where
  read : BusLog → UInt8 → Bool × UInt8
  write : BusLog → UInt8 → UInt8 → Bool

namespace SpiBus

/-- The bus the configurator is given. -/
def bus (spi : SpiBus) : Bus where
  read := some spi.read
  write := some spi.write
  hasDelay := true

theorem bus_write_ne_none (spi : SpiBus) : spi.bus.write ≠ none :=
  Option.some_ne_none spi.write

end SpiBus

/-- `USAC_VDRV_READY_POLL_LIMIT`. -/
def vdrvReadyPollLimit : UInt16 := 70

/-- `usac_firmware_build_timing_stage`, and whether the timers of the platform
have then taken the stage. -/
def stagesTiming (profile : Profile) (staged : Bool) : Bool :=
  decide (120 ≤ profile.sampleIntervalTicks) &&
    decide (profile.sampleIntervalTicks ≤ 960) &&
    decide (24 ≤ profile.burstPeriodTicks) &&
    decide (profile.burstPeriodTicks ≤ 800) && staged

/-- `apply_profile`. -/
def applyProfile
    (bus : Bus)
    (profile : Profile)
    (staged : Bool) :
    Operation (ConfigResult × ConfigReport) :=
  if stagesTiming profile staged then
    configureFirmware bus profile vdrvReadyPollLimit
  else
    pure (.invalidProfile, ⟨0, 0, 0⟩)

/-! ## The application over a bus -/

/-- The profile a step applies, if it does: `apply_profile` is the first
callback of every step that invokes it, so its answer does not decide which
profile that is. -/
def requested? (calls : List Invocation) : Option Profile :=
  match calls with
  | ⟨_, .applyProfile profile _⟩ :: _ => some profile
  | _ => none

/-- The call uses the bus on its own: a capture or the loopback test. -/
def Call.drivesBus : Call → Bool
  | .runIo2Loopback .. | .capture .. => true
  | .applyProfile .. | .forceSafe .. => false

/-- The operation with other answers of its callbacks. -/
def App.Input.answered (answers : Hardware → Hardware) : App.Input → App.Input
  | .handle request hardware => .handle request (answers hardware)
  | .advanceTime elapsedUs hardware => .advanceTime elapsedUs (answers hardware)
  | .updateClockFaults flags hardware =>
      .updateClockFaults flags (answers hardware)
  | .runPeriodicCapture hardware => .runPeriodicCapture (answers hardware)
  | .endSession hardware => .endSession (answers hardware)

/-- The call is an `apply_profile` that failed. -/
def Call.failsToApply : Call → Bool
  | .applyProfile _ result => result != .ok
  | _ => false

/-- The application and all that has been done on its bus. -/
structure Rig where
  app : App
  log : BusLog
  deriving DecidableEq

namespace Rig

/-- An operation of the application. Besides the answers of the bus the
environment decides whether the timers take their stage, what a capture or the
loopback test does on the bus, and the results of those two. -/
structure Input where
  operation : App.Input
  staged : Bool
  driven : BusLog

/-- The answer of `apply_profile`, when the operation invokes it. -/
def applies
    (spi : SpiBus)
    (app : App)
    (staged : Bool)
    (operation : App.Input) :
    Operation App.Input :=
  match requested? (app.perform operation).calls with
  | none => pure operation
  | some profile => do
      let (result, report) ← applyProfile spi.bus profile staged
      pure (operation.answered fun hardware =>
        { hardware with applyResult := result, applyReport := report })

/-- What a capture or the loopback test does on the bus, when the operation
invokes one. -/
def drives
    (app : App)
    (driven : BusLog)
    (operation : App.Input) :
    Operation Unit := fun log =>
  if (app.perform operation).calls.any (·.call.drivesBus) then
    ((), log ++ driven)
  else
    ((), log)

/-- The answer of `force_safe`, when the operation invokes it. -/
def secures
    (spi : SpiBus)
    (app : App)
    (operation : App.Input) :
    Operation Outcome := fun log =>
  let safe := forceSafe spi.bus log
  let outcome :=
    app.perform (operation.answered fun hardware =>
      { hardware with forceSafeResult := safe.1 })
  if outcome.calls.any (·.call.isForceSafe) then
    (outcome, safe.2)
  else
    (outcome, log)

/-- One operation over the bus. -/
def operate (spi : SpiBus) (app : App) (input : Input) :
    Operation Outcome := do
  let applied ← applies spi app input.staged input.operation
  drives app input.driven applied
  secures spi app applied

/-- The application over a bus as a machine. -/
def machine (spi : SpiBus) : Machine Rig Input (List Invocation) where
  step rig input :=
    let (outcome, log) := operate spi rig.app input rig.log
    (⟨outcome.app, log⟩, outcome.calls)

end Rig

/-! ## The law and its condition -/

namespace Rig

/-- The profile of the step failed to be applied. -/
def FailsToApply (calls : List Invocation) : Prop :=
  calls.any (·.call.failsToApply) = true

/-- The last three writes attempted are the safe sequence. -/
def EndsSafe (log : BusLog) : Prop :=
  safeSequence <:+ writes log

/-- A step of the application over the bus. -/
abbrev Step := Event Rig Input (List Invocation)

/-- A step that fails to apply its profile ends in Standby. -/
def EndsInStandby (step : Step) : Prop :=
  FailsToApply step.output → EndsSafe step.target.log

/-- The device identifies itself when it is asked. -/
def Identifies (spi : SpiBus) (log : BusLog) : Prop :=
  let device := spi.read log deviceIdRegister
  let revision :=
    spi.read (log ++ [.read deviceIdRegister device.2 device.1])
      revIdRegister
  (device.1 = true ∧ revision.1 = true) ∧
    device.2 = deviceIdValue ∧ revision.2 = revisionIdValue

/-- The step is a SET_CONFIG that is refused before the first write: the timers
do not take the stage, or the device does not identify itself. -/
def RefusedUnwritten (spi : SpiBus) (step : Step) : Prop :=
  ∃ request hardware candidate,
    step.input.operation = .handle request hardware ∧
      step.source.app.Configures request.val candidate ∧
      ¬(stagesTiming candidate.profile step.input.staged = true ∧
        Identifies spi step.source.log)

instance (log : BusLog) : Decidable (EndsSafe log) :=
  inferInstanceAs (Decidable (safeSequence <:+ writes log))

instance (calls : List Invocation) : Decidable (FailsToApply calls) :=
  inferInstanceAs (Decidable (_ = true))

instance (step : Step) : Decidable (EndsInStandby step) :=
  inferInstanceAs (Decidable (_ → _))

/-! ## What `apply_profile` writes -/

variable {spi : SpiBus} {log : BusLog} {profile : Profile}

/-- The log after a read over the bus. -/
def afterRead (spi : SpiBus) (log : BusLog) (address : UInt8) : BusLog :=
  log ++ [.read address (spi.read log address).2 (spi.read log address).1]

/-- A read over the bus. -/
theorem readRegister_run (address : UInt8) :
    readRegister spi.bus address log =
      ((if (spi.read log address).1 then .ok else .bus,
        (spi.read log address).2),
        afterRead spi log address) :=
  rfl

@[simp] theorem writes_afterRead (address : UInt8) :
    writes (afterRead spi log address) = writes log := by
  unfold afterRead
  rw [writes_append]
  exact List.append_nil _

/-- A device that does not identify itself is not configured. -/
theorem configureFirmware_of_not_identifies
    (stranger : ¬Identifies spi log)
    (limit : UInt16) :
    (configureFirmware spi.bus profile limit log).1.1 ≠ .ok ∧
      writes (configureFirmware spi.bus profile limit log).2 = writes log := by
  unfold configureFirmware
  split
  · exact ⟨ConfigResult.noConfusion, rfl⟩
  rw [Logged.bind_run, readRegister_run]
  by_cases deviceRead : (spi.read log deviceIdRegister).1 = true
  swap
  · rw [if_neg deviceRead]
    exact ⟨ConfigResult.noConfusion, writes_afterRead _⟩
  rw [if_pos deviceRead]
  dsimp only
  rw [if_neg (not_not.2 rfl), Logged.bind_run, readRegister_run]
  by_cases revisionRead :
      (spi.read (afterRead spi log deviceIdRegister) revIdRegister).1 = true
  swap
  · rw [if_neg revisionRead]
    exact ⟨ConfigResult.noConfusion,
      (writes_afterRead _).trans (writes_afterRead _)⟩
  rw [if_pos revisionRead]
  dsimp only
  rw [if_neg (not_not.2 rfl), if_pos ?_]
  · exact ⟨ConfigResult.noConfusion,
      (writes_afterRead _).trans (writes_afterRead _)⟩
  · by_contra known
    obtain ⟨device, revision⟩ := not_or.1 known
    exact stranger ⟨⟨deviceRead, revisionRead⟩, not_not.1 device,
      not_not.1 revision⟩

/-- What is attempted first stays in the log. -/
theorem appends_writes_bind
    {First Result : Type}
    {first : Operation First}
    {second : First → Operation Result}
    (atFirst : Appends first fun _ segment => writes segment ≠ [])
    (atSecond : ∀ value, Appends (second value) fun _ _ => True) :
    Appends (first >>= second) fun _ segment => writes segment ≠ [] := by
  refine atFirst.bind fun value segment written => ?_
  refine (atSecond value).imp fun _ rest _ nothing => ?_
  rw [writes_append, List.append_eq_nil_iff] at nothing
  exact written nothing.1

/-- The first register is attempted. -/
theorem writeAll_writes (pair : RegisterPair) (rest : List RegisterPair) :
    Appends (writeAll spi.bus (pair :: rest)) fun _ segment =>
      writes segment ≠ [] := by
  have attempted :
      Appends (writeVerify spi.bus pair.address pair.value) fun _ segment =>
        writes segment ≠ [] := by
    refine (writeVerify_appends pair).imp fun _ segment written => ?_
    rw [written.2.1 spi.bus_write_ne_none]
    exact List.cons_ne_nil _ _
  refine appends_writes_bind attempted fun result => ?_
  split
  · exact .pure trivial
  · exact (writeAll_appends rest).imp fun _ _ _ => trivial

/-- A device that identifies itself is written to. -/
theorem configureIdentified_writes (limit : UInt16) :
    Appends (configureIdentified spi.bus profile limit) fun _ segment =>
      writes segment ≠ [] := by
  have started :
      Appends (writeProfile spi.bus profile) fun _ segment =>
        writes segment ≠ [] := by
    refine appends_writes_bind (writeAll_writes _ _) fun result => ?_
    split
    · exact .pure trivial
    · refine (writeAll_appends (ordinaryRegisters profile)).bind
        fun _ _ _ => ?_
      split
      · exact .pure trivial
      · exact (writeAll_appends _).imp fun _ _ _ => trivial
  refine appends_writes_bind started fun result => ?_
  split_ifs
  · exact .pure trivial
  · exact .pure trivial
  all_goals exact (pollStatus_appends _ _ 0).imp fun _ _ _ => trivial

/-- A device that identifies itself is written to, whatever becomes of the
configuration. -/
theorem configureFirmware_of_identifies
    (valid : profile.validate = .ok)
    (identifies : Identifies spi log)
    (limit : UInt16) :
    writes (configureFirmware spi.bus profile limit log).2 ≠ writes log := by
  obtain ⟨⟨deviceRead, revisionRead⟩, device, revision⟩ := identifies
  have known : ¬((spi.read log deviceIdRegister).2 ≠ deviceIdValue ∨
      (spi.read (afterRead spi log deviceIdRegister) revIdRegister).2 ≠
        revisionIdValue) :=
    not_or.2 ⟨not_not.2 device, not_not.2 revision⟩
  unfold configureFirmware
  rw [if_neg (not_not.2 valid), Logged.bind_run, readRegister_run,
    if_pos deviceRead]
  dsimp only
  rw [if_neg (not_not.2 rfl), Logged.bind_run, readRegister_run]
  rw [show (spi.read (afterRead spi log deviceIdRegister)
    revIdRegister).1 = true from revisionRead, if_pos rfl]
  dsimp only
  rw [if_neg (not_not.2 rfl), if_neg known]
  have written :
      Appends (do
        let answer ← configureIdentified spi.bus profile limit
        if answer.1 ≠ .ok then
          let failed ← failSafe spi.bus answer.1
          pure (failed, (⟨(spi.read log deviceIdRegister).2,
            (spi.read (afterRead spi log deviceIdRegister)
              revIdRegister).2, answer.2⟩ : ConfigReport))
        else
          pure (.ok, ⟨(spi.read log deviceIdRegister).2,
            (spi.read (afterRead spi log deviceIdRegister)
              revIdRegister).2, answer.2⟩)) fun _ segment =>
        writes segment ≠ [] := by
    refine appends_writes_bind (configureIdentified_writes limit)
      fun answer => ?_
    split
    · exact (failSafe_appends answer.1).bind fun _ _ _ => .pure trivial
    · exact .pure trivial
  obtain ⟨segment, appended, holds⟩ :=
    written (afterRead spi (afterRead spi log deviceIdRegister) revIdRegister)
  intro same
  apply holds
  have longer := congrArg writes appended
  rw [writes_append, writes_afterRead, writes_afterRead] at longer
  exact List.append_right_eq_self.1 (longer.symm.trans same)

/-- `force_safe` leaves the safe sequence. -/
theorem forceSafe_endsSafe : EndsSafe (forceSafe spi.bus log).2 := by
  obtain ⟨segment, appended, -, sequence⟩ :=
    (forceSafe_appends : Appends (forceSafe spi.bus) _) log
  unfold EndsSafe
  rw [appended, writes_append, sequence spi.bus_write_ne_none]
  exact List.suffix_append _ _

/-- `apply_profile` is refused before the first write. -/
theorem applyProfile_refused
    {staged : Bool}
    (refused : ¬(stagesTiming profile staged = true ∧ Identifies spi log)) :
    (applyProfile spi.bus profile staged log).1.1 ≠ .ok ∧
      writes (applyProfile spi.bus profile staged log).2 = writes log := by
  unfold applyProfile
  split
  · next stages =>
      exact configureFirmware_of_not_identifies
        (fun identifies => refused ⟨stages, identifies⟩) vdrvReadyPollLimit
  · exact ⟨ConfigResult.noConfusion, rfl⟩

/-- `apply_profile` fails behind the first write. -/
theorem applyProfile_endsSafe
    {staged : Bool}
    (valid : profile.validate = .ok)
    (attempted : stagesTiming profile staged = true ∧ Identifies spi log)
    (failed : (applyProfile spi.bus profile staged log).1.1 ≠ .ok) :
    EndsSafe (applyProfile spi.bus profile staged log).2 := by
  unfold applyProfile at failed ⊢
  rw [if_pos attempted.1] at failed ⊢
  obtain ⟨segment, appended, closes⟩ :=
    configureFirmware_failsClosed spi.bus profile vdrvReadyPollLimit log
  have written : writes segment ≠ [] := by
    intro nothing
    apply configureFirmware_of_identifies valid attempted.2
      vdrvReadyPollLimit
    rw [appended, writes_append, nothing, List.append_nil]
  unfold EndsSafe
  rw [appended, writes_append]
  exact (closes.safe failed written).trans (List.suffix_append _ _)

/-! ## One step over the bus -/

variable {app : App} {input : Input}

/-- A step that forces the device safe ends in Standby. -/
theorem operate_forces
    (forced :
      (operate spi app input log).1.calls.any (·.call.isForceSafe) = true) :
    EndsSafe (operate spi app input log).2 := by
  unfold operate at forced ⊢
  rw [Logged.bind_run, Logged.bind_run] at forced ⊢
  generalize applies spi app input.staged input.operation log = applied at *
  generalize (drives app input.driven applied.1 applied.2).2 = driven at *
  unfold secures at forced ⊢
  dsimp only at forced ⊢
  split
  · exact forceSafe_endsSafe
  · next unforced =>
      rw [if_neg unforced] at forced
      exact absurd forced unforced

/-- A SET_CONFIG that reaches the hardware invokes `apply_profile` alone. -/
theorem calls_of_configures
    {request : Mcu.ParsedFrame}
    {candidate : ConfigV2}
    (configures : app.Configures request.val candidate)
    (hardware : Hardware) :
    (app.perform (.handle request hardware)).calls =
      [{ app with state := .configuring }.applyProfile candidate.profile
        hardware] := by
  obtain ⟨⟨flags, established, type⟩, fresh, matching, decoded⟩ := configures
  have dispatched :
      app.handle request.val App.responseCapacity hardware =
        app.handleSetConfig request.val App.responseCapacity hardware := by
    simp [App.handle, flags, established, type, Message.getConfig,
      Message.hello, Message.getCapabilities, Message.getStatus,
      Message.setConfig]
  have executed :
      (app.executeSetConfig request.val App.responseCapacity
          hardware).calls =
        [{ app with state := .configuring }.applyProfile candidate.profile
          hardware] := by
    unfold App.executeSetConfig
    rw [matching]
    dsimp only
    rw [decoded]
    dsimp only
    split <;> rfl
  unfold App.perform
  dsimp only
  rw [dispatched]
  unfold App.handleSetConfig
  rw [fresh]
  dsimp only
  split
  · exact executed
  · split <;> exact executed

/-- A SET_CONFIG that reaches the hardware neither drives the bus nor forces the
device safe. -/
theorem secures_configures
    {request : Mcu.ParsedFrame}
    {candidate : ConfigV2}
    (configures : app.Configures request.val candidate)
    (driven : BusLog)
    (hardware : Hardware) :
    ∃ answers : Hardware,
      answers.applyResult = hardware.applyResult ∧
        ((drives app driven (.handle request hardware) >>= fun _ =>
            secures spi app (.handle request hardware)) log).1.calls =
          [{ app with state := .configuring }.applyProfile
            candidate.profile answers] ∧
        ((drives app driven (.handle request hardware) >>= fun _ =>
            secures spi app (.handle request hardware)) log).2 = log := by
  have undriven :
      drives app driven (.handle request hardware) log = ((), log) := by
    unfold drives
    rw [calls_of_configures configures]
    rfl
  rw [Logged.bind_run, undriven]
  unfold secures App.Input.answered
  dsimp only
  rw [calls_of_configures configures, if_neg (by simp [Call.isForceSafe,
    App.applyProfile])]
  exact ⟨_, rfl, calls_of_configures configures
    { hardware with forceSafeResult := (forceSafe spi.bus log).1 }, rfl⟩

/-- A SET_CONFIG that reaches the hardware does on the bus what `apply_profile`
does. -/
theorem operate_configures
    (spi : SpiBus)
    (log : BusLog)
    {request : Mcu.ParsedFrame}
    {hardware : Hardware}
    {candidate : ConfigV2}
    (handles : input.operation = .handle request hardware)
    (configures : app.Configures request.val candidate) :
    ∃ answers : Hardware,
      answers.applyResult =
          (applyProfile spi.bus candidate.profile input.staged log).1.1 ∧
        (operate spi app input log).1.calls =
          [{ app with state := .configuring }.applyProfile
            candidate.profile answers] ∧
        (operate spi app input log).2 =
          (applyProfile spi.bus candidate.profile input.staged log).2 := by
  have requested :
      requested? (app.perform input.operation).calls =
        some candidate.profile := by
    rw [handles, calls_of_configures configures]
    rfl
  unfold operate applies
  rw [requested, handles, Logged.bind_run]
  dsimp only
  rw [Logged.bind_run]
  let applied := applyProfile spi.bus candidate.profile input.staged log
  exact secures_configures configures input.driven
    { hardware with
      applyResult := applied.1.1
      applyReport := applied.1.2 }

/-- `apply_profile` alone fails when its answer is not OK. -/
theorem failsToApply_applyProfile
    (moment : App)
    (profile : Profile)
    (hardware : Hardware) :
    FailsToApply [moment.applyProfile profile hardware] ↔
      hardware.applyResult ≠ .ok := by
  simp [FailsToApply, App.applyProfile, Call.failsToApply]

/-- A step that fails to apply its profile forces the device safe, or is a
SET_CONFIG that reached the hardware. -/
theorem failsToApply_cases
    {operation : App.Input}
    {next : App}
    {calls : List Invocation}
    (effect : App.Effect app operation next calls)
    (fails : FailsToApply calls) :
    calls.any (·.call.isForceSafe) = true ∨
      ∃ request hardware candidate,
        operation = .handle request hardware ∧
          app.Configures request.val candidate := by
  cases effect with
  | @handled request hardware _ _ handled =>
      cases handled with
      | configFailed candidate reply fits configures =>
          exact .inr ⟨request, hardware, candidate, rfl, configures⟩
      | configApplied candidate reply fits configures =>
          exact .inr ⟨request, hardware, candidate, rfl, configures⟩
      | captureNotApplied | captureFailed | captureTaken | restarted |
        stopped =>
          exact .inl rfl
      | answered | greeted | configRefused | captureReplayed |
        captureDeclined | started | renewed =>
          cases fails
      | loopedBack =>
          cases fails
  | leaseExpired | clockLatched | periodicNotApplied | periodicFailed |
    periodicTaken | ended =>
      exact .inl rfl
  | timePassed | clockQuiet | periodicIdle =>
      cases fails

/-- A step performs its operation, with the answers it gets. -/
theorem operate_answered
    (spi : SpiBus)
    (log : BusLog)
    (app : App)
    (input : Input) :
    ∃ answers : Hardware → Hardware,
      (operate spi app input log).1 =
        app.perform (input.operation.answered answers) := by
  have unanswered (operation : App.Input) :
      operation.answered id = operation := by
    cases operation <;> rfl
  have twice (operation : App.Input) (first second : Hardware → Hardware) :
      (operation.answered first).answered second =
        operation.answered (second ∘ first) := by
    cases operation <;> rfl
  have secured (operation : App.Input) (current : BusLog) :
      ∃ answers : Hardware → Hardware,
        (secures spi app operation current).1 =
          app.perform (operation.answered answers) := by
    unfold secures
    dsimp only
    split <;> exact ⟨_, rfl⟩
  have applied :
      ∃ answers : Hardware → Hardware,
        (applies spi app input.staged input.operation log).1 =
          input.operation.answered answers := by
    unfold applies
    cases requested? (app.perform input.operation).calls with
    | none => exact ⟨id, (unanswered input.operation).symm⟩
    | some profile => exact ⟨_, rfl⟩
  obtain ⟨first, shape⟩ := applied
  unfold operate
  rw [Logged.bind_run, Logged.bind_run, shape]
  obtain ⟨second, performed⟩ :=
    secured (input.operation.answered first) _
  exact ⟨second ∘ first, by rw [performed, twice]⟩

/-! ## Exactly when a failure ends in Standby -/

/-- A SET_CONFIG that is refused before the first write finds the device
safe. -/
def RefusesSafely (spi : SpiBus) (step : Step) : Prop :=
  RefusedUnwritten spi step → EndsSafe step.source.log

/-- A step that fails to apply its profile ends in Standby exactly when it is
not refused before the first write, or found the device safe. -/
theorem endsInStandby_iff (rig : Rig) (input : Input) :
    EndsInStandby ((machine spi).event rig input) ↔
      RefusesSafely spi ((machine spi).event rig input) := by
  constructor
  · rintro ends ⟨request, hardware, candidate, handles, configures, refused⟩
    rw [Machine.event_source] at configures refused ⊢
    rw [Machine.event_input] at handles refused
    obtain ⟨answers, answered, calls, log⟩ :=
      operate_configures spi rig.log handles configures
    obtain ⟨failed, unwritten⟩ := applyProfile_refused refused
    have safe : EndsSafe (operate spi rig.app input rig.log).2 := by
      apply ends
      show FailsToApply (operate spi rig.app input rig.log).1.calls
      rw [calls, failsToApply_applyProfile, answered]
      exact failed
    unfold EndsSafe at safe ⊢
    rw [log, unwritten] at safe
    exact safe
  · intro safely fails
    obtain ⟨answers, performed⟩ :=
      operate_answered spi rig.log rig.app input
    have effect :=
      App.perform_effect rig.app (input.operation.answered answers)
    rw [← performed] at effect
    rcases failsToApply_cases effect fails with
      forced | ⟨request, hardware, candidate, shape, configures⟩
    · exact operate_forces forced
    · obtain ⟨asked, handles⟩ :
          ∃ asked, input.operation = .handle request asked := by
        cases operation : input.operation with
        | handle request' hardware' =>
            rw [operation] at shape
            cases shape
            exact ⟨hardware', rfl⟩
        | _ =>
            rw [operation] at shape
            cases shape
      obtain ⟨result, answered, calls, log⟩ :=
        operate_configures spi rig.log handles configures
      have failed :
          (applyProfile spi.bus candidate.profile input.staged
            rig.log).1.1 ≠ .ok := by
        rw [← answered, ← failsToApply_applyProfile, ← calls]
        exact fails
      show EndsSafe (operate spi rig.app input rig.log).2
      rw [log]
      by_cases attempted :
          stagesTiming candidate.profile input.staged = true ∧
            Identifies spi rig.log
      · have valid := (ConfigV2.identified_of_decode configures.decoded).valid
        simp only [ConfigV2.validate, Bool.and_eq_true,
          beq_iff_eq] at valid
        exact applyProfile_endsSafe valid.2 attempted failed
      · have found : EndsSafe rig.log :=
          safely ⟨request, asked, candidate, handles, configures, attempted⟩
        unfold EndsSafe at found ⊢
        rwa [(applyProfile_refused attempted).2]

/--
In every run every failure to apply a profile ends in Standby exactly when every
SET_CONFIG that is refused before the first write finds the device safe.
-/
theorem everyFailure_endsInStandby_iff
    (spi : SpiBus)
    (start : Rig)
    (inputs : List Input) :
    EveryStep (fun _ step => EndsInStandby step)
        ((machine spi).trace start inputs) ↔
      EveryStep (fun _ step => RefusesSafely spi step)
        ((machine spi).trace start inputs) := by
  have pointwise :
      ∀ step ∈ (machine spi).trace start inputs,
        EndsInStandby step ↔ RefusesSafely spi step := by
    intro step member
    rw [(machine spi).eq_event_of_mem_trace member]
    exact endsInStandby_iff step.source step.input
  rw [EveryStep.forall_iff, EveryStep.forall_iff]
  exact forall₂_congr pointwise

/-- A device that answers correctly until the bus has served the given number of
operations, and is then not heard any more. -/
def fadingBus (served : Nat) : SpiBus where
  read log address :=
    if served ≤ log.length then
      (false, 0)
    else if address = deviceIdRegister then
      (true, deviceIdValue)
    else if address = revIdRegister then
      (true, revisionIdValue)
    else if address = devStatRegister then
      (true, vdrvReady)
    else
      match (writes log).reverse.find? fun write => write.1 = address with
      | some write => (true, write.2)
      | none => (true, 0)
  write log _ _ := decide (log.length < served)

/-- The default profile as the boot leaves it on a bus that serves no operation
behind the boot. -/
def bootedRig : Rig where
  app := App.booted
  log := (applyProfile (fadingBus 32).bus ConfigV2.initD10x4.profile true []).2

/-- A host opens a session and configures the device. -/
def configureFaded : List Input :=
  [⟨.handle (Request.hello 1 (Bytes.zero 16)) Hardware.nominal, true, []⟩,
    ⟨.handle
      (Request.setConfig 2 (Id16.ofByte 1) ConfigV2.initD10x4.profileSha256
        ConfigV2.initD10x4)
      Hardware.nominal, true, []⟩]

/-- What the SET_CONFIG leaves on the bus that no longer answers. -/
def fadedRig : Rig :=
  (machine (fadingBus 32)).after bootedRig configureFaded

set_option maxRecDepth 100000 in
/-- The device does not identify itself to the SET_CONFIG, and the fault leaves
the profile of the boot driving it. -/
theorem not_endsInStandby_configureFaded :
    (fadedRig.app.state = .fault ∧
        [(vdrvCtrl, ConfigV2.initD10x4.profile.value 5),
          (tofConfig, ConfigV2.initD10x4.profile.value 9)] <:+
          writes fadedRig.log) ∧
      ¬EveryStep (fun _ step => EndsInStandby step)
        ((machine (fadingBus 32)).trace bootedRig configureFaded) :=
  ⟨by decide +kernel, by decide +kernel⟩

end Rig

end Usac.Firmware
