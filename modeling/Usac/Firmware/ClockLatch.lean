import Usac.Firmware.CaptureSafety

namespace Usac.Firmware

open Library

/-!
# The clock fault latch

The first clock fault of a boot is kept until the next one. Whatever starts a
Burst checks the latch, whatever starts a schedule does, and nothing clears it.
-/

/-- The call makes the transducer transmit or runs the loopback Burst. -/
def Call.isBurst : Call → Bool
  | .capture .. => true
  | .runIo2Loopback .. => true
  | _ => false

namespace App

/-- A recorded operation of the application. -/
abbrev Operation := Event App Input Output

/-- The flags an operation reports, unless there are none. -/
def Input.fault? : Input → Option UInt16
  | .updateClockFaults flags _ => if flags = 0 then none else some flags
  | _ => none

/-- The first clock fault of a run. -/
def firstFault? (history : List Operation) : Option UInt16 :=
  history.findSome? fun operation => operation.input.fault?

/-- From the first clock fault on the latch keeps its flags, no schedule is
active, and no Burst is started. -/
def LatchesFault (earlier : List Operation) (operation : Operation) : Prop :=
  ∀ flags ∈ firstFault? (earlier ++ [operation]),
    operation.target.clockFaultFlags = flags ∧
      operation.target.periodic.active = false ∧
        ∀ invocation ∈ operation.output.calls,
          invocation.call.isBurst = false

/-- The first fault after one more operation. -/
theorem firstFault?_concat
    (history : List Operation)
    (operation : Operation) :
    firstFault? (history ++ [operation]) =
      (firstFault? history).or operation.input.fault? := by
  simp [firstFault?, List.findSome?_append]

/-- What an operation does with the latch. -/
structure Latches
    (app : App)
    (input : Input)
    (next : App)
    (calls : List Invocation) :
    Prop where
  kept : app.clockFaultFlags ≠ 0 → next.clockFaultFlags = app.clockFaultFlags
  first :
    app.clockFaultFlags = 0 →
      next.clockFaultFlags = input.fault?.getD 0
  inactive :
    (app.clockFaultFlags ≠ 0 → app.periodic.active = false) →
      next.clockFaultFlags ≠ 0 → next.periodic.active = false
  quiet :
    next.clockFaultFlags ≠ 0 →
      ∀ invocation ∈ calls, invocation.call.isBurst = false

section Latches

variable {app next : App} {request : Mcu.ParsedFrame} {hardware : Hardware}
  {calls : List Invocation} {input : Input}

/-- An operation that leaves the latch alone. -/
theorem Latches.of_same
    (same : next.clockFaultFlags = app.clockFaultFlags)
    (faultless : input.fault? = none)
    (inactive :
      app.clockFaultFlags ≠ 0 → app.periodic.active = false →
        next.periodic.active = false)
    (quiet :
      app.clockFaultFlags ≠ 0 →
        ∀ invocation ∈ calls, invocation.call.isBurst = false) :
    Latches app input next calls where
  kept _ := same
  first clear := by rw [same, clear, faultless]; rfl
  inactive before latched := by
    rw [same] at latched
    exact inactive latched (before latched)
  quiet latched := by
    rw [same] at latched
    exact quiet latched

/-- No request clears the latch or starts a Burst over it. -/
theorem HandleEffect.latches
    (effect : HandleEffect app request.val hardware next calls) :
    Latches app (.handle request hardware) next calls := by
  cases effect with
  | answered | configRefused | captureReplayed | captureDeclined =>
      exact .of_same rfl rfl (fun _ => id) fun _ => by simp
  | greeted =>
      exact .of_same rfl rfl (fun _ => id) fun _ => by simp
  | restarted =>
      refine .of_same ?_ rfl (fun _ _ => ?_) fun _ => ?_
      · simp [App.greeted, endSession, cleared,
          apply_ite App.clockFaultFlags]
      · simp [App.greeted, endSession, cleared, apply_ite App.periodic]
      · simp [endSession, forceSafe, Call.isBurst]
  | configFailed | configApplied =>
      exact .of_same rfl rfl (fun _ => id) fun _ => by
        simp [applyProfile, Call.isBurst]
  | loopedBack _ _ _ _ clock =>
      exact .of_same rfl rfl (fun _ => id) fun latched =>
        absurd clock latched
  | captureNotApplied captures =>
      exact .of_same rfl rfl (fun _ => id) fun latched =>
        absurd captures.clock latched
  | captureFailed captures =>
      exact .of_same rfl rfl (fun _ => id) fun latched =>
        absurd captures.clock latched
  | captureTaken _ _ captures =>
      exact .of_same rfl rfl (fun _ => id) fun latched =>
        absurd captures.clock latched
  | started schedule starts =>
      exact .of_same rfl rfl (fun latched => absurd starts.clock latched)
        fun _ => by simp
  | renewed dispatched leaseSequence leaseTimeoutMs =>
      refine .of_same rfl rfl (fun _ inactive => ?_) fun _ => by simp
      exact (app.periodic.renew_frame _ leaseSequence
        leaseTimeoutMs).1.trans inactive
  | stopped =>
      exact .of_same rfl rfl (fun _ _ => rfl) fun _ => by
        simp [forceSafe, Call.isBurst]

/-- No operation clears the latch or starts a Burst over it. -/
theorem Effect.latches
    (effect : Effect app input next calls) :
    Latches app input next calls := by
  cases effect with
  | handled handled => exact handled.latches
  | timePassed schedule sameActivity =>
      exact .of_same rfl rfl
        (fun _ inactive => sameActivity.trans inactive) fun _ => by simp
  | leaseExpired =>
      exact .of_same rfl rfl (fun _ _ => rfl) fun _ => by
        simp [forceSafe, Call.isBurst]
  | clockQuiet quiet =>
      refine ⟨fun _ => rfl, fun clear => ?_, fun before => before,
        fun _ => by simp⟩
      rcases quiet with rfl | latched
      · exact clear
      · exact absurd clear latched
  | clockLatched schedule inactive fault first =>
      refine ⟨fun latched => absurd first latched, fun _ => ?_,
        fun _ _ => inactive, fun _ => ?_⟩
      · simp [Input.fault?, fault]
      · simp [forceSafe, Call.isBurst]
  | periodicIdle =>
      exact .of_same rfl rfl (fun _ => id) fun _ => by simp
  | periodicNotApplied due | periodicFailed _ due | periodicTaken due =>
      simp only [periodicDue, Bool.and_eq_true, beq_iff_eq] at due
      exact .of_same rfl rfl (fun latched => absurd due.1.2 latched)
        fun latched => absurd due.1.2 latched
  | ended =>
      refine .of_same ?_ rfl (fun _ _ => ?_) fun _ => ?_
      · simp [endSession, cleared, apply_ite App.clockFaultFlags]
      · simp [endSession, cleared, apply_ite App.periodic]
      · simp [endSession, forceSafe, Call.isBurst]

end Latches

/-- The latch holds the first fault of the run, and no schedule runs under
it. -/
structure FaultInvariant (history : List Operation) (app : App) : Prop where
  flags : app.clockFaultFlags = (firstFault? history).getD 0
  present : ∀ flags ∈ firstFault? history, flags ≠ 0
  inactive : app.clockFaultFlags ≠ 0 → app.periodic.active = false

/-- Reported flags are not zero. -/
theorem Input.fault?_ne_zero
    {input : Input}
    {flags : UInt16}
    (reported : input.fault? = some flags) :
    flags ≠ 0 := by
  cases input with
  | updateClockFaults reportedFlags hardware =>
      simp only [Input.fault?, Option.ite_none_left_eq_some,
        Option.some.injEq] at reported
      obtain ⟨fault, rfl⟩ := reported
      exact fault
  | _ => exact nomatch reported

/-- Every operation keeps the first fault of the run. -/
theorem FaultInvariant.step
    {history : List Operation}
    {app : App}
    (invariant : FaultInvariant history app)
    (input : Input) :
    FaultInvariant (history ++ [machine.event app input])
      (machine.event app input).target := by
  have latches := (perform_effect app input).latches
  have first :=
    firstFault?_concat history (machine.event app input)
  refine ⟨?_, ?_, latches.inactive invariant.inactive⟩
  · rw [first]
    rcases earlier : firstFault? history with _ | flags
    · have clear : app.clockFaultFlags = 0 := by
        rw [invariant.flags, earlier]
        rfl
      exact latches.first clear
    · have same : app.clockFaultFlags = flags := by
        rw [invariant.flags, earlier]
        rfl
      have latched : app.clockFaultFlags ≠ 0 := by
        rw [same]
        exact invariant.present flags earlier
      exact (latches.kept latched).trans same
  · intro flags found
    rw [first] at found
    rcases Option.or_eq_some_iff.1 found with earlier | ⟨-, now⟩
    · exact invariant.present flags earlier
    · exact Input.fault?_ne_zero now

/-- In every run, from the first clock fault on, the latch keeps its flags, no
schedule is active and no Burst is started. -/
theorem latchesFault
    (deviceId bootId : Id16)
    (resetReason : UInt8)
    (initialState : FirmwareState)
    (result : ConfigResult)
    (devStat : UInt8)
    (inputs : List Input) :
    EveryStep LatchesFault
      (machine.trace
        (started deviceId bootId resetReason initialState result devStat)
        inputs) := by
  have unconditioned :
      EveryStep (fun _ _ => True)
        (machine.trace
          (started deviceId bootId resetReason initialState result devStat)
          inputs) :=
    fun _ _ _ _ => trivial
  refine
    machine.everyStep_of_invariant FaultInvariant
      ⟨rfl, nofun, fun latched => absurd rfl latched⟩
      (fun _ _ input invariant _ => invariant.step input) ?_ inputs
      unconditioned
  intro earlier app input invariant _ flags found
  have after := invariant.step input
  have kept := after.flags
  rw [found] at kept
  have latched : (machine.event app input).target.clockFaultFlags ≠ 0 := by
    rw [kept]
    exact after.present flags found
  exact ⟨kept, after.inactive latched,
    (perform_effect app input).latches.quiet latched⟩

end App

end Usac.Firmware
