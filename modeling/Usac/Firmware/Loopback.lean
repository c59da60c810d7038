import Usac.Firmware.AcquisitionPlatform

namespace Usac.Firmware

open Library Tuss4470

/-!
# The loopback check

`usac_loopback.c` and the check of the acquisition hardware that feeds it: the
burst timer drives the IO2 pin while the transducer is in its safe state, and a
capture register looks at the edges. The wait for an edge ends with the edge or
with the timeout, whichever the environment decides.
-/

namespace LoopbackReport

/-- `USAC_LOOPBACK_COV_SEEN`. -/
def covSeen : UInt8 := 0x02

/-- `USAC_LOOPBACK_TIMEOUT`. -/
def timeout : UInt8 := 0x04

/-- `USAC_LOOPBACK_INTERVAL_MISMATCH`. -/
def intervalMismatch : UInt8 := 0x08

/-- `USAC_LOOPBACK_FINAL_NOT_HIGH`. -/
def finalNotHigh : UInt8 := 0x10

/-- `USAC_LOOPBACK_PREPOST_SAFETY_FAILED`. -/
def prepostSafetyFailed : UInt8 := 0x20

/-- The report with every field zero. -/
def zero : LoopbackReport where
  captureTicks := .replicate loopbackEdgeCount 0
  minimumIntervalTicks := 0
  maximumIntervalTicks := 0
  capturedEdges := 0
  resultFlags := 0
  preSpiStatus := 0
  preDevStat := 0
  preTofConfig := 0
  preVdrvCtrl := 0
  postSpiStatus := 0
  postDevStat := 0
  postTofConfig := 0
  postVdrvCtrl := 0
  finalIo2Level := 0

/-- The report with a flag raised. -/
def raise (report : LoopbackReport) (flag : UInt8) : LoopbackReport :=
  { report with resultFlags := report.resultFlags ||| flag }

/-- The interval is too short or too long. -/
def mismatches (expected interval : UInt16) : Bool :=
  decide (interval + 1 < expected) || decide (interval > expected + 1)

/-- The loop over the intervals: the smallest, the largest, and the flags. -/
def judge
    (expected : UInt16) :
    UInt16 → List UInt16 → UInt16 × UInt16 × UInt8 → UInt16 × UInt16 × UInt8
  | _, [], judged => judged
  | previous, tick :: rest, (minimum, maximum, flags) =>
      let interval := tick - previous
      judge expected tick rest
        (if interval < minimum then interval else minimum,
          if interval > maximum then interval else maximum,
          if mismatches expected interval then
            flags ||| intervalMismatch
          else
            flags)

/-- The intervals of a report, judged. -/
def judged (report : LoopbackReport) (expected : UInt16) : LoopbackReport :=
  match report.captureTicks.toList with
  | [] => report
  | first :: rest =>
      let (minimum, maximum, flags) :=
        judge expected first rest (0xFFFF, 0, report.resultFlags)
      { report with
        minimumIntervalTicks := minimum
        maximumIntervalTicks := maximum
        resultFlags := flags }

/-- The report without the flags the verdict does not keep. -/
def kept (report : LoopbackReport) : LoopbackReport :=
  { report with
    resultFlags :=
      report.resultFlags &&& (covSeen ||| timeout ||| prepostSafetyFailed) }

/-- The intervals, when all edges have been captured. -/
def compared (report : LoopbackReport) (expected : UInt16) : LoopbackReport :=
  if report.capturedEdges ≠ 8 then
    { report.raise timeout with
      minimumIntervalTicks := 0
      maximumIntervalTicks := 0 }
  else
    report.judged expected

/-- The level the line ends with. -/
def settled (report : LoopbackReport) : LoopbackReport :=
  if report.finalIo2Level = 0 then
    report.raise finalNotHigh
  else
    report

/-- The verdict on a report that has no flag. -/
def concluded (report : LoopbackReport) : LoopbackReport :=
  if report.resultFlags = 0 then
    { report with resultFlags := loopbackPass }
  else
    report

/-- `usac_loopback_evaluate`. -/
def evaluate (report : LoopbackReport) (expected : UInt16) : LoopbackReport :=
  ((report.kept.compared expected).settled).concluded

/-- The later tick is as far behind the earlier one as expected, or one tick
off. -/
def Spaced (expected earlier later : UInt16) : Prop :=
  mismatches expected (later - earlier) = false

end LoopbackReport

namespace Platform

/-- What `read_safety_snapshot` fills. -/
structure Snapshot where
  spiStatus : UInt8
  devStat : UInt8
  tofConfig : UInt8
  vdrvCtrl : UInt8
  deriving Repr, DecidableEq

/-- `snapshot_is_safe`. -/
def Snapshot.isSafe (snapshot : Snapshot) : Bool :=
  snapshot.spiStatus == 0 && snapshot.devStat &&& faultMask == 0 &&
    snapshot.tofConfig == 0x40 && snapshot.vdrvCtrl == 0x20

/-- `read_safety_snapshot`. -/
def readSafetySnapshot (bus : Bus) : Main Snapshot := do
  let (devRead, devStat) ← useBus (readRegister bus devStatRegister)
  if devRead ≠ .ok then
    pure ⟨1, devStat, 0, 0⟩
  else
    let (tofRead, tof) ← useBus (readRegister bus tofConfig)
    if tofRead ≠ .ok then
      pure ⟨1, devStat, tof, 0⟩
    else
      let (vdrvRead, vdrv) ← useBus (readRegister bus vdrvCtrl)
      pure ⟨if vdrvRead = .ok then 0 else 1, devStat, tof, vdrv⟩

/-- The report with the snapshot before the check. -/
def withBefore (report : LoopbackReport) (snapshot : Snapshot) : LoopbackReport :=
  { report with
    preSpiStatus := snapshot.spiStatus
    preDevStat := snapshot.devStat
    preTofConfig := snapshot.tofConfig
    preVdrvCtrl := snapshot.vdrvCtrl }

/-- The report with the snapshot behind the check. -/
def withAfter (report : LoopbackReport) (snapshot : Snapshot) : LoopbackReport :=
  { report with
    postSpiStatus := snapshot.spiStatus
    postDevStat := snapshot.devStat
    postTofConfig := snapshot.tofConfig
    postVdrvCtrl := snapshot.vdrvCtrl }

/-- The wait for an edge, which raises the flag of a timeout. -/
def noteEdge (report : LoopbackReport) (signals : Signals) : LoopbackReport :=
  if signals.edge.isNone then
    report.raise LoopbackReport.timeout
  else
    report

/-- The report with an edge recorded. -/
def recordEdge
    (report : LoopbackReport)
    (index : Fin loopbackEdgeCount)
    (signals : Signals) :
    LoopbackReport :=
  let report :=
    if signals.overrun then
      report.raise LoopbackReport.covSeen
    else
      report
  { report with
    captureTicks := report.captureTicks.set index (signals.edge.getD 0)
    capturedEdges := report.capturedEdges + 1 }

/-- The loop over the edges. It ends at the first timeout. -/
def recordEdges :
    List (Fin loopbackEdgeCount) → LoopbackReport → Main LoopbackReport
  | [], report => pure report
  | index :: rest, report => do
      let signals ← .request
      if (noteEdge report signals).resultFlags &&& LoopbackReport.timeout ≠ 0 then
        pure (noteEdge report signals)
      else
        recordEdges rest (recordEdge (noteEdge report signals) index signals)

/-- The statements that set up the waveform of the check. -/
def startLoopback (burstPeriodTicks : UInt16) : List Action :=
  [raiseIo2, driveIo2, detachIo2, stopBurst,
    ({ · with ta2Ccr0 := burstPeriodTicks - 1 }),
    ({ · with ta2Ccr2 := burstPeriodTicks / 2 }),
    setOutput2 .resetSet, attachIo2, runBurst]

/-- The part of the check between its two snapshots. -/
def measure (burstPeriodTicks : UInt16) (report : LoopbackReport) :
    Main LoopbackReport := do
  .performAll (startLoopback burstPeriodTicks)
  let report ←
    recordEdges (List.finRange loopbackEdgeCount)
      (noteEdge report (← .request))
  .performAll restoreIo2HighAndStopTimers
  let signals ← .request
  pure { report with finalIo2Level := if signals.io2High then 1 else 0 }

/-- The safe state and the snapshot behind the check. -/
def closeLoopback (bus : Bus) (report : LoopbackReport) : Main LoopbackReport := do
  let safe ← useBus (forceSafe bus)
  if safe ≠ .ok then
    pure (report.raise LoopbackReport.prepostSafetyFailed)
  else
    let after ← readSafetySnapshot bus
    if after.isSafe then
      pure (withAfter report after)
    else
      pure ((withAfter report after).raise
        LoopbackReport.prepostSafetyFailed)

/-- `usac_platform_run_io2_loopback`, for a report that is all zero. -/
def runIo2Loopback (bus : Bus) (burstPeriodTicks : UInt16) :
    Main (Bool × LoopbackReport) := do
  if burstPeriodTicks ≠ 50 then
    pure (false, .zero)
  else
    let safe ← useBus (forceSafe bus)
    if safe ≠ .ok then
      pure (false, .zero)
    else
      let before ← readSafetySnapshot bus
      if before.isSafe then
        let report ←
          measure burstPeriodTicks (withBefore LoopbackReport.zero before)
        let report ← closeLoopback bus report
        pure (true, report.evaluate burstPeriodTicks)
      else
        pure (false, withBefore LoopbackReport.zero before)

/-- `usac_platform_stage_timing`, for a stage built from the two periods. -/
def stageTiming (sampleIntervalTicks burstPeriodTicks : UInt16) : Main Bool := do
  .performAll
    [raiseIo2, detachIo2, driveIo2, stopSampling, stopBurst, setOutput1 .off,
      setOutput2 .off, ({ · with tb0Ccr0 := sampleIntervalTicks - 1 }),
      ({ · with ta2Ccr0 := burstPeriodTicks - 1 })]
  let platform ← .read
  pure (platform.tb0Ccr0 + 1 == sampleIntervalTicks &&
    platform.ta2Ccr0 + 1 == burstPeriodTicks &&
    !platform.engine.sampling && !platform.engine.bursting)

end Platform

namespace LoopbackReport

/-! ## What a passed check says -/

/-- The loop over the intervals ends without a flag exactly when it begins
without one and the ticks are spaced as expected. -/
theorem judge_flags
    (expected previous : UInt16)
    (ticks : List UInt16)
    (minimum maximum : UInt16)
    (flags : UInt8) :
    (judge expected previous ticks (minimum, maximum, flags)).2.2 = 0 ↔
      flags = 0 ∧ (previous :: ticks).IsChain (Spaced expected) := by
  induction ticks generalizing previous minimum maximum flags with
  | nil => simp [judge]
  | cons tick rest inductionHypothesis =>
      simp only [judge, inductionHypothesis, List.isChain_cons_cons, Spaced]
      cases mismatches expected (tick - previous) with
      | false => simp
      | true => simp [intervalMismatch]

/-- The flags of a judged report. -/
theorem judged_flags
    (report : LoopbackReport)
    (expected : UInt16) :
    (report.judged expected).resultFlags = 0 ↔
      report.resultFlags = 0 ∧
        report.captureTicks.toList.IsChain (Spaced expected) := by
  unfold judged
  cases report.captureTicks.toList with
  | nil => simp
  | cons first rest => exact judge_flags _ _ _ _ _ _

/-- A judgement leaves the level the line ends with alone. -/
theorem judged_finalIo2Level
    (report : LoopbackReport)
    (expected : UInt16) :
    (report.judged expected).finalIo2Level = report.finalIo2Level := by
  unfold judged
  split <;> rfl

/-- The bit of a pass is not among the flags. -/
def Unpassed (flags : UInt8) : Prop :=
  flags &&& loopbackPass = 0

/-- Raising a flag does not make a pass. -/
theorem Unpassed.or
    {flags flag : UInt8}
    (unpassed : Unpassed flags)
    (other : Unpassed flag) :
    Unpassed (flags ||| flag) := by
  have distributes :
      (flags ||| flag) &&& loopbackPass =
        (flags &&& loopbackPass) ||| (flag &&& loopbackPass) :=
    UInt8.toBitVec_inj.1 (by
      ext index bound
      simp [Bool.and_or_distrib_right])
  rw [Unpassed, distributes, unpassed, other]
  rfl

/-- The loop over the intervals makes no pass. -/
theorem judge_unpassed
    {expected previous : UInt16}
    {ticks : List UInt16}
    {minimum maximum : UInt16}
    {flags : UInt8}
    (unpassed : Unpassed flags) :
    Unpassed (judge expected previous ticks (minimum, maximum, flags)).2.2 := by
  induction ticks generalizing previous minimum maximum flags with
  | nil => exact unpassed
  | cons tick rest inductionHypothesis =>
      apply inductionHypothesis
      split
      · exact unpassed.or rfl
      · exact unpassed

/-- Nothing before the verdict makes a pass. -/
theorem settled_unpassed
    (report : LoopbackReport)
    (expected : UInt16) :
    Unpassed ((report.kept.compared expected).settled).resultFlags := by
  have kept : Unpassed report.kept.resultFlags := by
    rw [Unpassed, LoopbackReport.kept, UInt8.and_assoc]
    exact UInt8.and_zero
  have compared : Unpassed (report.kept.compared expected).resultFlags := by
    unfold LoopbackReport.compared
    split
    · exact kept.or rfl
    · unfold judged
      split
      · exact kept
      · exact judge_unpassed kept
  unfold settled
  split
  · exact compared.or rfl
  · exact compared

/-- The verdict is a pass exactly when no flag had been raised, all edges were
captured, they are spaced as expected and the line ended high. -/
theorem evaluate_pass
    (report : LoopbackReport)
    (expected : UInt16) :
    (report.evaluate expected).resultFlags = loopbackPass ↔
      report.resultFlags &&& (covSeen ||| timeout ||| prepostSafetyFailed) = 0 ∧
        report.capturedEdges = 8 ∧
        report.captureTicks.toList.IsChain (Spaced expected) ∧
        report.finalIo2Level ≠ 0 := by
  have verdict :
      (report.evaluate expected).resultFlags = loopbackPass ↔
        ((report.kept.compared expected).settled).resultFlags = 0 := by
    have unpassed := settled_unpassed report expected
    unfold evaluate concluded
    split
    · next clean => exact ⟨fun _ => clean, fun _ => rfl⟩
    · next raised =>
        refine ⟨fun passed => ?_, fun clean => absurd clean raised⟩
        rw [passed] at unpassed
        exact absurd (show loopbackPass &&& loopbackPass = 0 from unpassed)
          (by decide)
  have compared :
      (report.kept.compared expected).resultFlags = 0 ↔
        report.kept.resultFlags = 0 ∧ report.capturedEdges = 8 ∧
          report.captureTicks.toList.IsChain (Spaced expected) := by
    unfold LoopbackReport.compared
    split
    · next missing =>
        have wrong : report.capturedEdges ≠ 8 := missing
        simp [raise, timeout, wrong]
    · next all =>
        have eight : report.capturedEdges = 8 := Decidable.not_not.1 all
        rw [judged_flags]
        exact and_congr_right fun _ => (and_iff_right eight).symm
  have level :
      (report.kept.compared expected).finalIo2Level = report.finalIo2Level := by
    unfold LoopbackReport.compared
    split
    · rfl
    · exact judged_finalIo2Level _ _
  rw [verdict]
  unfold settled
  rw [level]
  split
  · next low => simp [raise, finalNotHigh, low]
  · next high =>
      rw [compared]
      exact ⟨fun ⟨kept, eight, spaced⟩ => ⟨kept, eight, spaced, high⟩,
        fun ⟨kept, eight, spaced, _⟩ => ⟨kept, eight, spaced⟩⟩

end LoopbackReport

end Usac.Firmware
