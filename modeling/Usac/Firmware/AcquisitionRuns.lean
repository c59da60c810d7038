import Usac.Firmware.CaptureTruth

namespace Usac.Firmware

open Library Tuss4470

/-!
# Runs of the acquisition

The main loop gives the acquisition one job after another. Over every run, with
any interleaving of the peripherals and the interrupts, the hardware is quiet
between two jobs, what a capture returns is true of what was sampled and
emitted, and a loopback check passes only on evidence.
-/

namespace Platform

/-! ## The bus -/

/-- Statements that do not use the bus leave the log alone. -/
theorem log_applyAll
    {actions : List Action}
    (unused : ∀ action ∈ actions, ∀ platform,
      (action platform).log = platform.log)
    (platform : Platform) :
    (applyAll actions platform).log = platform.log := by
  induction actions generalizing platform with
  | nil => rfl
  | cons action rest inductionHypothesis =>
      obtain ⟨first, others⟩ := List.forall_mem_cons.1 unused
      exact (inductionHypothesis others _).trans (first platform)

/-- A stop does not use the bus. -/
theorem log_stopCaptureHardware :
    ∀ action ∈ stopCaptureHardware ++ [completeCapture], ∀ platform,
      (action platform).log = platform.log := by
  simp only [stopCaptureHardware, stopAcquisition, restoreIo2HighAndStopTimers,
    List.cons_append, List.nil_append, List.forall_mem_cons, List.not_mem_nil,
    false_imp_iff, implies_true, and_true]
  refine ⟨?_, ?_, ?_, ?_, ?_, ?_, ?_, ?_, ?_, ?_, ?_, ?_, ?_, ?_, ?_⟩ <;>
    exact fun _ => rfl

/-- Neither does the reset-safe state. -/
theorem log_enterResetSafe :
    ∀ action ∈ enterResetSafe, ∀ platform,
      (action platform).log = platform.log := by
  simp only [enterResetSafe, List.forall_mem_cons, List.not_mem_nil,
    false_imp_iff, implies_true, and_true]
  refine ⟨?_, ?_, ?_, ?_, ?_, ?_, ?_, ?_, ?_, ?_, ?_⟩ <;> exact fun _ => rfl

/-- No disturbance uses the bus. -/
theorem log_of_disturb
    (platform : Platform)
    (disturbance : Disturbance) :
    (disturb disturbance platform).log = platform.log := by
  cases disturbance with
  | dma =>
      simp only [disturb, dmaIsr]
      split_ifs
      · rfl
      · unfold startBurst
        split <;> rfl
      · rfl
  | timer2A0 =>
      simp only [disturb, timer2A0Isr]
      split_ifs <;> rfl
  | timer0A1 pending =>
      simp only [disturb, timer0A1Isr]
      split <;> rfl
  | quantum =>
      simp only [disturb, onAclkQuantum]
      split <;> rfl
  | trigger word => rfl
  | endPeriod => rfl
  | dmaDefault => exact log_applyAll log_stopCaptureHardware platform
  | busError => exact log_applyAll log_enterResetSafe platform

/-- What has been done on the bus is stable. -/
theorem stable_log (holds : BusLog → Prop) :
    Stable Around fun platform => holds platform.log := by
  rintro platform _ ⟨disturbance, rfl⟩ here
  rw [log_of_disturb]
  exact here

/-- An operation on the bus, and what it leaves in the log. -/
theorem holds_useBus_log
    {Result : Type}
    {operation : Operation Result}
    (before : BusLog → Prop)
    (after : Result → BusLog → Prop)
    (does : ∀ log, before log → after (operation log).1 (operation log).2) :
    Code.Holds Around (fun platform => before platform.log) (useBus operation)
      fun result platform => after result platform.log := by
  refine .look (stable_log before) fun seen here => ?_
  intro now _ later reaches
  exact (stable_log (after (operation seen.log).1)).reaches reaches
    (does seen.log here)

/-- The log ends with the write of a register and the value read back. -/
def Restored (base : UInt8) (log : BusLog) : Prop :=
  ∃ earlier,
    log = earlier ++ [.write tofConfig base true, .read tofConfig base true]

/-- A write of the register that is accepted is the last thing on the bus. -/
theorem holds_writeTof
    (bus : Bus)
    (value : UInt8) :
    Code.Holds Around (fun _ => True) (writeTof bus value)
      fun accepted platform => accepted = true →
        ∃ earlier, platform.log = earlier ++ [.write tofConfig value true] := by
  unfold writeTof
  split
  · exact .give (.const _) fun _ _ accepted =>
      absurd accepted Bool.false_ne_true
  · next write _ =>
      refine holds_useBus_log (fun _ => True)
        (fun accepted log => accepted = true →
          ∃ earlier, log = earlier ++ [.write tofConfig value true])
        fun log _ accepted => ⟨log, ?_⟩
      simp only [Logged.perform] at accepted ⊢
      rw [accepted]

/-- A register that has been read is the last thing on the bus. -/
theorem readRegister_ok
    {bus : Bus}
    {address : UInt8}
    {log : BusLog}
    (ok : (readRegister bus address log).1.1 = .ok) :
    (readRegister bus address log).2 =
      log ++ [.read address (readRegister bus address log).1.2 true] := by
  obtain ⟨_ | read, write, hasDelay⟩ := bus
  · cases ok
  · have run :
        readRegister ⟨some read, write, hasDelay⟩ address log =
          ((if (read log address).1 then .ok else .bus, (read log address).2),
            log ++
              [.read address (read log address).2 (read log address).1]) :=
      rfl
    rw [run] at ok ⊢
    split_ifs at ok with accepted
    rw [accepted]

/-- A register that is put back has been read back. -/
theorem holds_restoreTof
    (bus : Bus)
    (base : UInt8) :
    Code.Holds Around (fun _ => True) (restoreTof bus base)
      fun restored platform => restored = true → Restored base platform.log := by
  have settled : Stable Around fun _ : Platform => True := .const _
  refine .bind (holds_writeTof bus base) fun accepted => ?_
  cases accepted with
  | false =>
      exact fun _ _ _ _ restored => absurd restored Bool.false_ne_true
  | true =>
      refine .bind (holds_useBus_log
        (fun log => true = true →
          ∃ earlier, log = earlier ++ [.write tofConfig base true])
        (fun answer log => answer.1 = .ok → answer.2 = base → Restored base log)
        ?_) fun answer => ?_
      · intro log written
        obtain ⟨earlier, rfl⟩ := written rfl
        intro ok same
        exact ⟨earlier, by rw [readRegister_ok ok, same, List.append_assoc]; rfl⟩
      · refine fun platform read now reaches restored => ?_
        rw [Bool.and_eq_true, beq_iff_eq, beq_iff_eq] at restored
        exact (stable_log _).reaches reaches (read restored.1 restored.2)

/-! ## The configurable capture -/

/-- A plan has a pulse, and its path is that of the IO mode. -/
theorem build_some
    {ioMode pulseCount : UInt8}
    {periodTicks : UInt16}
    {posttriggerTicks : UInt32}
    {plan : BurstPlan}
    (built :
      BurstPlan.build ioMode pulseCount periodTicks posttriggerTicks =
        some plan) :
    pulseCount ≠ 0 ∧
      plan = (BurstPlan.base ioMode pulseCount periodTicks).choosePath := by
  unfold BurstPlan.build at built
  dsimp only at built
  split_ifs at built with illegal late
  cases built
  simp only [not_or] at illegal
  exact ⟨illegal.2.1, rfl⟩

/-- What the checks of a capture let pass. -/
theorem prepareCapture_some
    {config : ConfigV2}
    {triggerSource : UInt8}
    {syncTimeoutMs : UInt32}
    {plan : BurstPlan}
    (prepared : config.prepareCapture triggerSource syncTimeoutMs = some plan) :
    config.pulseCount ≠ 0 ∧
      (config.ioMode = 0 → plan.actionFlags &&& BurstPlan.useCmdTrigger ≠ 0) := by
  unfold ConfigV2.prepareCapture at prepared
  split_ifs at prepared
  obtain ⟨pulses, rfl⟩ := build_some prepared
  refine ⟨pulses, fun mode => ?_⟩
  rw [mode]
  show (BurstPlan.useIo2Timer ||| BurstPlan.useCmdTrigger) &&&
    BurstPlan.useCmdTrigger ≠ 0
  decide

/-- Nothing has been seen of a capture yet. -/
def Unseen (account : Engine.Account) : Prop :=
  account.words = [] ∧ account.bursts = [] ∧ account.periods = 0 ∧
    account.late = 0

/-- A capture that has not been activated has done nothing. -/
theorem ended_of_unseen
    {target : UInt16}
    {pulses : UInt8}
    {account : Engine.Account}
    {said : Findings}
    (unseen : Unseen account) :
    Ended target pulses false account said := by
  obtain ⟨-, burstless, periodless, -⟩ := unseen
  exact ⟨⟨.inl burstless, periodless ▸ Nat.zero_le _,
    fun succeeded => absurd succeeded Bool.false_ne_true⟩, fun _ => burstless⟩

/-- Statements beside the account and the findings. -/
theorem holds_besides
    {holds : Engine.Account → Findings → Prop}
    {actions : List Action}
    (beside :
      ∀ action ∈ actions, Calming action ∧
        ∀ platform, (action platform).engine.account = platform.engine.account ∧
          findings (action platform).events.report =
            findings platform.events.report) :
    Code.Holds Around (Resting holds) (.performAll actions : Main Unit)
      fun _ => Resting holds := by
  refine .performAll (stable_resting _) fun action member platform here => ?_
  obtain ⟨calming, same⟩ := beside action member
  refine ⟨calming.free here.1, ?_⟩
  rw [(same platform).1, (same platform).2]
  exact here.2

/-- The variables a capture sets. -/
theorem holds_activate
    (config : ConfigV2)
    (triggerSource : UInt8)
    (syncTimeoutMs : UInt32) :
    Code.Holds Around
      (Resting fun account said => Unseen account ∧ said.lost = false)
      (.performAll (activate config triggerSource syncTimeoutMs) : Main Unit)
      fun _ => Resting fun account said =>
        Begun config.pretriggerCount config.pulseCount account ∧
          said.lost = false := by
  have calming :
      ∀ action ∈ activate config triggerSource syncTimeoutMs,
        Calming action := by
    simp only [activate, List.forall_mem_cons, List.not_mem_nil, false_imp_iff,
      implies_true, and_true]
    refine ⟨?_, ?_, ?_, ?_, ?_, ?_⟩ <;> intro platform hazard <;>
      cases hazard <;> exact id
  simp only [activate, List.forall_mem_cons, List.not_mem_nil, false_imp_iff,
    implies_true, and_true] at calming
  obtain ⟨target, remaining, flags, source, timeout, active⟩ := calming
  refine holds_resting
    (fun account said => account.target = config.pretriggerCount ∧
      Unseen account ∧ said.lost = false)
    target (fun _ here => ⟨rfl, here⟩) ?_
  let counted : Engine.Account → Findings → Prop := fun account said =>
    account.remaining = config.pulseCount ∧
      account.target = config.pretriggerCount ∧ Unseen account ∧
        said.lost = false
  refine holds_resting counted remaining (fun _ here => ⟨rfl, here⟩) ?_
  refine holds_resting counted flags (fun _ => id) ?_
  refine holds_resting counted source (fun _ => id) ?_
  refine holds_resting counted timeout (fun _ => id) ?_
  refine holds_resting
    (fun account said =>
      Begun config.pretriggerCount config.pulseCount account ∧
        said.lost = false)
    active ?_ (.give (stable_resting _) fun _ => id)
  exact fun _ ⟨pulses, aimed, unseen, said⟩ =>
    ⟨⟨rfl, aimed, pulses, unseen⟩, said⟩

/-- A hardware fault is reported beside the findings. -/
theorem holds_faultUnless
    {holds : Engine.Account → Findings → Prop}
    (succeeded : Bool) :
    Code.Holds Around (Resting holds) (faultUnless succeeded)
      fun _ => Resting holds := by
  unfold faultUnless
  split
  · exact .give (stable_resting _) fun _ => id
  · exact holds_beside (calming_onReport _) fun _ => ⟨rfl, rfl⟩

/-- A write of the register at rest. -/
theorem holds_writeTof_resting
    {holds : Engine.Account → Findings → Prop}
    (bus : Bus)
    (value : UInt8) :
    Code.Holds Around (Resting holds) (writeTof bus value)
      fun _ => Resting holds := by
  unfold writeTof
  split
  · exact .give (stable_resting _) fun _ => id
  · exact holds_useBus_resting _

/-- The capture between the two states of the register. -/
theorem holds_captureArmed
    {target : UInt16}
    {pulses : UInt8}
    (burst : pulses ≠ 0)
    (bus : Bus)
    (config : ConfigV2)
    (plan : BurstPlan) :
    Code.Holds Around
      (Resting fun account said => Begun target pulses account ∧
        said.lost = false)
      (captureArmed bus config plan)
      fun answer => Resting (Ended target pulses answer.2) := by
  have ended :
      ∀ armed : Bool, Code.Holds Around
        (Resting fun account said => Begun target pulses account ∧
          said.lost = false)
        (pure (armed, false) : Main (Bool × Bool))
        fun answer => Resting (Ended target pulses answer.2) :=
    fun armed => .give (stable_resting _) fun _ here =>
      ⟨here.1, ended_of_begun here.2.1⟩
  have captured :
      ∀ armed : Bool, Code.Holds Around
        (Resting fun account said => Begun target pulses account ∧
          said.lost = false)
        (do
          pure (armed, ← captureOnce bus config.profile.sampleIntervalTicks
            config.profile.burstPeriodTicks) : Main (Bool × Bool))
        fun answer => Resting (Ended target pulses answer.2) :=
    fun armed => .bind (holds_captureOnce_truthful burst bus _ _) fun result =>
      .give (stable_resting _) fun _ => id
  unfold captureArmed
  dsimp only
  split
  · refine .bind (?_ : Code.Holds Around _ _ fun _ =>
      Resting fun account said => Begun target pulses account ∧
        said.lost = false) fun answer => ?_
    · refine .bind (holds_writeTof_resting bus _) fun accepted => ?_
      split
      · exact .bind (holds_useBus_resting _) fun _ =>
          .give (stable_resting _) fun _ => id
      · exact .give (stable_resting _) fun _ => id
    · refine .bind (holds_faultUnless _) fun _ => ?_
      split
      · exact captured _
      · exact ended _
  · exact captured false

/-- The register is put back at rest. -/
theorem holds_disarm
    {target : UInt16}
    {pulses : UInt8}
    (bus : Bus)
    (base : UInt8)
    (armed result : Bool) :
    Code.Holds Around (Resting (Ended target pulses result))
      (disarm bus base armed result)
      fun result => Resting (Ended target pulses result) := by
  unfold disarm
  split
  · refine .bind (?_ : Code.Holds Around _ (restoreTof bus base) fun _ =>
      Resting (Ended target pulses result)) fun restored => ?_
    · refine .bind (holds_writeTof_resting bus _) fun accepted => ?_
      split
      · exact .bind (holds_useBus_resting _) fun _ =>
          .give (stable_resting _) fun _ => id
      · exact .give (stable_resting _) fun _ => id
    · refine .bind (holds_faultUnless _) fun _ => ?_
      refine .give (stable_resting _) fun platform ⟨quiet, told, lost⟩ =>
        ⟨quiet, ⟨told.once, told.atMost, fun succeeded => ?_⟩, lost⟩
      rw [Bool.and_eq_true] at succeeded
      exact told.complete succeeded.2
  · exact .give (stable_resting _) fun _ => id

/-- The pin of the master is beside the capture. -/
theorem beside_prepareSyncPin (triggerSource : UInt8) :
    ∀ action ∈ prepareSyncPin triggerSource, Calming action ∧
      ∀ platform, (action platform).engine.account = platform.engine.account ∧
        findings (action platform).events.report =
          findings platform.events.report := by
  unfold prepareSyncPin
  split
  · simp only [List.forall_mem_cons, List.not_mem_nil, false_imp_iff,
      implies_true, and_true]
    refine ⟨?_, ?_, ?_⟩ <;>
      exact fun platform hazard => by cases hazard <;> exact id
  · exact List.forall_mem_nil _

/-- So is its last edge. -/
theorem beside_finishSyncPin (triggerSource : UInt8) :
    ∀ action ∈ finishSyncPin triggerSource, Calming action ∧
      ∀ platform, (action platform).engine.account = platform.engine.account ∧
        findings (action platform).events.report =
          findings platform.events.report := by
  unfold finishSyncPin
  split
  · refine List.forall_mem_singleton.2 ⟨?_, fun _ => ⟨rfl, rfl⟩⟩
    exact fun platform hazard => by cases hazard <;> exact id
  · exact List.forall_mem_nil _

/-- The variables a capture clears in the end. -/
theorem holds_deactivate
    {target : UInt16}
    {pulses : UInt8}
    (result : Bool) :
    Code.Holds Around (Resting (Ended target pulses result))
      (.performAll deactivate : Main Unit)
      fun _ => Resting (Ended target pulses result) := by
  refine .performAll (stable_resting _) ?_
  simp only [deactivate, List.forall_mem_cons, List.not_mem_nil, false_imp_iff,
    implies_true, and_true]
  refine ⟨?_, ?_, ?_, ?_, ?_⟩ <;> rintro platform ⟨quiet, told, lost⟩ <;>
    refine ⟨fun hazard member => ?_,
      ⟨told.once, told.atMost, told.complete⟩, lost⟩ <;>
    have before := quiet hazard member <;>
    cases hazard <;> exact before

/-- A capture ends truthfully. -/
theorem holds_capture_truthful
    (bus : Bus)
    (config : ConfigV2)
    (triggerSource : UInt8)
    (syncTimeoutMs : UInt32)
    {report : CaptureReport}
    (synchronised : report.syncTimedOut = false) :
    Code.Holds Around Quiet
      (capture bus config triggerSource syncTimeoutMs report)
      fun result => Resting
        (Ended config.pretriggerCount config.pulseCount result) := by
  have refused :
      Code.Holds Around
        (Resting fun account said => Unseen account ∧ said.lost = false)
        (pure false : Main Bool)
        fun result => Resting
          (Ended config.pretriggerCount config.pulseCount result) :=
    .give (stable_resting _) fun _ here => ⟨here.1, ended_of_unseen here.2.1⟩
  refine .bind (.perform stable_quiet
    (stable_resting fun account said => Unseen account ∧ said.lost = false)
    fun platform quiet => ⟨?_, ⟨rfl, rfl, rfl, rfl⟩, synchronised⟩) fun _ => ?_
  · have calming : Calming (beginCapture report) := by
      intro platform hazard
      cases hazard <;> exact id
    exact calming.free quiet
  split
  · exact refused
  cases prepared : config.prepareCapture triggerSource syncTimeoutMs with
  | none => exact refused
  | some plan =>
      have burst := (prepareCapture_some prepared).1
      refine .bind (holds_beside (fun platform hazard => by
        cases hazard <;> exact id) fun _ => ⟨rfl, rfl⟩) fun _ => ?_
      refine .bind (holds_besides (beside_prepareSyncPin _)) fun _ => ?_
      refine .bind (holds_activate _ _ _) fun _ => ?_
      refine .bind (holds_captureArmed burst bus config plan) fun answer => ?_
      refine .bind (holds_besides (beside_finishSyncPin _)) fun _ => ?_
      refine .bind (holds_disarm bus _ _ _) fun result => ?_
      exact .bind (holds_deactivate result) fun _ =>
        .give (stable_resting _) fun _ => id

/-- A register that was armed has been put back when the capture succeeds. -/
theorem holds_disarm_restored
    (bus : Bus)
    (base : UInt8)
    (armed result : Bool) :
    Code.Holds Around (fun _ => True) (disarm bus base armed result)
      fun succeeded platform => succeeded = true →
        result = true ∧ (armed = true → Restored base platform.log) := by
  unfold disarm
  split
  · refine .bind (holds_restoreTof bus base) fun restored => ?_
    have stable :
        Stable Around fun platform : Platform =>
          restored = true → Restored base platform.log :=
      stable_log fun log => restored = true → Restored base log
    refine .bind (?_ : Code.Holds Around _ _ fun _ platform =>
      restored = true → Restored base platform.log) fun _ => ?_
    · unfold faultUnless
      split
      · exact .give stable fun _ => id
      · exact .perform stable stable fun _ here => here
    · refine fun platform here now reaches succeeded => ?_
      rw [Bool.and_eq_true] at succeeded
      exact ⟨succeeded.2, fun _ => stable.reaches reaches here succeeded.1⟩
  · next unarmed =>
      exact fun _ _ _ _ succeeded => ⟨succeeded, fun armed => absurd armed unarmed⟩

/-- A capture that succeeds in IO mode 0 has armed the register. -/
theorem holds_captureArmed_armed
    (bus : Bus)
    (config : ConfigV2)
    {plan : BurstPlan}
    (command : plan.actionFlags &&& BurstPlan.useCmdTrigger ≠ 0) :
    Code.Holds Around (fun _ => True) (captureArmed bus config plan)
      fun answer _ => answer.2 = true → answer.1 = true := by
  unfold captureArmed
  rw [if_pos command]
  refine .bind (?_ : Code.Holds Around _ _ fun answer _ =>
    answer.2 = true → answer.1 = true) fun answer => ?_
  · refine .bind (.anything _) fun accepted => ?_
    split
    · exact .bind (.anything _) fun _ => fun _ _ _ _ _ => rfl
    · exact fun _ _ _ _ accepted => absurd accepted Bool.false_ne_true
  · intro platform armed
    refine Code.Holds.bind (.anything _) (fun _ => ?_) platform trivial
    split
    · next accepted =>
        exact .bind (.anything _) fun _ => fun _ _ _ _ _ => armed accepted
    · exact fun _ _ _ _ succeeded => absurd succeeded Bool.false_ne_true

/-- A capture that succeeds in IO mode 0 has put the register back. -/
theorem holds_capture_restored
    (bus : Bus)
    (config : ConfigV2)
    (triggerSource : UInt8)
    (syncTimeoutMs : UInt32)
    (report : CaptureReport) :
    Code.Holds Around (fun _ => True)
      (capture bus config triggerSource syncTimeoutMs report)
      fun result platform => result = true → config.ioMode = 0 →
        Restored (config.profile.value 9) platform.log := by
  refine .bind (.anything _) fun _ => ?_
  split
  · exact fun _ _ _ _ succeeded => absurd succeeded Bool.false_ne_true
  cases prepared : config.prepareCapture triggerSource syncTimeoutMs with
  | none => exact fun _ _ _ _ succeeded => absurd succeeded Bool.false_ne_true
  | some plan =>
      have command := (prepareCapture_some prepared).2
      refine .bind (.anything _) fun _ => ?_
      refine .bind (.anything _) fun _ => ?_
      refine .bind (.anything _) fun _ => ?_
      by_cases mode : config.ioMode = 0
      · refine .bind (holds_captureArmed_armed bus config (command mode))
          fun answer => ?_
        intro platform armed
        refine Code.Holds.bind (.anything _) (fun _ => ?_) platform trivial
        refine .bind (holds_disarm_restored bus _ _ _) fun result => ?_
        have stable :
            Stable Around fun platform : Platform => result = true →
              answer.2 = true ∧ (answer.1 = true →
                Restored (config.profile.value 9) platform.log) :=
          stable_log fun log => result = true → answer.2 = true ∧
            (answer.1 = true → Restored (config.profile.value 9) log)
        refine .bind (.performAll stable ?_) fun _ => ?_
        · simp only [deactivate, List.forall_mem_cons, List.not_mem_nil,
            false_imp_iff, implies_true, and_true]
          exact ⟨fun _ => id, fun _ => id, fun _ => id, fun _ => id, fun _ => id⟩
        · refine .give stable fun _ restored succeeded _ => ?_
          obtain ⟨captured, restored⟩ := restored succeeded
          exact restored (armed captured)
      · refine .imp (.anything _) (fun _ => id) fun _ _ _ _ zero => ?_
        exact absurd zero mode

/-! ## The loopback check -/

/-- What a loopback report is judged by. -/
structure Evidence where
  captureTicks : List.Vector UInt16 loopbackEdgeCount
  capturedEdges : UInt8
  finalIo2Level : UInt8
  before : Snapshot
  after : Snapshot

/-- The evidence of a report. -/
def evidence (report : LoopbackReport) : Evidence where
  captureTicks := report.captureTicks
  capturedEdges := report.capturedEdges
  finalIo2Level := report.finalIo2Level
  before :=
    ⟨report.preSpiStatus, report.preDevStat, report.preTofConfig,
      report.preVdrvCtrl⟩
  after :=
    ⟨report.postSpiStatus, report.postDevStat, report.postTofConfig,
      report.postVdrvCtrl⟩

/-- The verdict leaves the evidence alone. -/
theorem evidence_evaluate
    (report : LoopbackReport)
    (expected : UInt16) :
    evidence (report.evaluate expected) = evidence report := by
  have judged :
      ∀ report : LoopbackReport,
        evidence (report.judged expected) = evidence report := by
    intro report
    unfold LoopbackReport.judged
    split <;> rfl
  have compared :
      evidence (report.kept.compared expected) = evidence report := by
    unfold LoopbackReport.compared
    split
    · rfl
    · exact judged report.kept
  have settled :
      evidence (report.kept.compared expected).settled = evidence report := by
    unfold LoopbackReport.settled
    split <;> exact compared
  unfold LoopbackReport.evaluate LoopbackReport.concluded
  split <;> exact settled

/-- All edges were seen, each as far behind the one before it as the burst
period or one tick off, the line ended high, and the transducer was in its safe
state before and behind the check. -/
structure Proven (evidence : Evidence) : Prop where
  edges : evidence.capturedEdges = 8
  spaced :
    evidence.captureTicks.toList.IsChain fun earlier later =>
      49 ≤ (later - earlier).toNat ∧ (later - earlier).toNat ≤ 51
  high : evidence.finalIo2Level ≠ 0
  before : evidence.before.isSafe = true
  after : evidence.after.isSafe = true

/-- Neighbours that are spaced by the burst period. -/
theorem interval_of_spaced
    {earlier later : UInt16}
    (spaced : LoopbackReport.Spaced 50 earlier later) :
    49 ≤ (later - earlier).toNat ∧ (later - earlier).toNat ≤ 51 := by
  unfold LoopbackReport.Spaced LoopbackReport.mismatches at spaced
  generalize later - earlier = interval at spaced
  simp only [Bool.or_eq_false_iff, decide_eq_false_iff_not, UInt16.not_lt,
    gt_iff_lt] at spaced
  obtain ⟨low, high⟩ := spaced
  have upper : interval.toNat ≤ 51 := high
  have lower : (50 : UInt16).toNat ≤ (interval + 1).toNat := low
  rw [UInt16.toNat_add] at lower
  have fifty : (50 : UInt16).toNat = 50 := rfl
  have one : (1 : UInt16).toNat = 1 := rfl
  omega

/-- The edges are recorded beside the snapshots. -/
theorem holds_recordEdges
    (indices : List (Fin loopbackEdgeCount))
    (report : LoopbackReport) :
    Code.Holds Around (fun _ => True) (recordEdges indices report)
      fun recorded _ =>
        (evidence recorded).before = (evidence report).before := by
  have noted :
      ∀ (report : LoopbackReport) signals,
        (evidence (noteEdge report signals)).before =
          (evidence report).before := by
    intro report signals
    unfold noteEdge
    split <;> rfl
  have recorded :
      ∀ (report : LoopbackReport) index signals,
        (evidence (recordEdge report index signals)).before =
          (evidence report).before := by
    intro report index signals
    unfold recordEdge
    cases signals.overrun <;> rfl
  induction indices generalizing report with
  | nil => exact .give (.const _) fun _ _ => rfl
  | cons index rest inductionHypothesis =>
      refine .bind (.anything _) fun signals => ?_
      split
      · exact fun _ _ _ _ => noted report signals
      · refine (inductionHypothesis _).imp (fun _ => id) fun result _ same => ?_
        rw [same, recorded, noted]

/-- The flag of a snapshot that is not safe. -/
theorem flag_of_raise (flags flag : UInt8) :
    (flags ||| flag) &&& flag = flag :=
  UInt8.toBitVec_inj.1 (by
    ext index bound
    simp only [UInt8.toBitVec_and, UInt8.toBitVec_or, BitVec.getElem_and,
      BitVec.getElem_or]
    cases flag.toBitVec[index] <;> simp)

/-- Without any of the flags the verdict keeps, the last snapshot raised
none. -/
theorem unflagged_of_clean
    {flags : UInt8}
    (clean :
      flags &&& (LoopbackReport.covSeen ||| LoopbackReport.timeout |||
        LoopbackReport.prepostSafetyFailed) = 0) :
    flags &&& LoopbackReport.prepostSafetyFailed = 0 := by
  have among :
      LoopbackReport.prepostSafetyFailed =
        (LoopbackReport.covSeen ||| LoopbackReport.timeout |||
          LoopbackReport.prepostSafetyFailed) &&&
          LoopbackReport.prepostSafetyFailed := by
    decide
  rw [among, ← UInt8.and_assoc, clean]
  exact UInt8.zero_and

/-- A check whose last snapshot raised no flag ended in the safe state. -/
theorem holds_closeLoopback
    (bus : Bus)
    (report : LoopbackReport) :
    Code.Holds Around (fun _ => True) (closeLoopback bus report)
      fun closed _ =>
        (evidence closed).before = (evidence report).before ∧
        (closed.resultFlags &&& LoopbackReport.prepostSafetyFailed = 0 →
          (evidence closed).after.isSafe = true) := by
  have raised :
      ∀ report : LoopbackReport,
        (report.raise LoopbackReport.prepostSafetyFailed).resultFlags &&&
          LoopbackReport.prepostSafetyFailed ≠ 0 := by
    intro report
    rw [LoopbackReport.raise, flag_of_raise]
    decide
  refine .bind (.anything _) fun safe => ?_
  split
  · exact fun _ _ _ _ => ⟨rfl, fun clean => absurd clean (raised report)⟩
  · refine .bind (.anything _) fun after => ?_
    split
    · next isSafe => exact fun _ _ _ _ => ⟨rfl, fun _ => isSafe⟩
    · exact fun _ _ _ _ => ⟨rfl, fun clean => absurd clean (raised _)⟩

/-- A check passes only on evidence. -/
theorem holds_runIo2Loopback_proven
    (bus : Bus)
    (burstPeriodTicks : UInt16) :
    Code.Holds Around (fun _ => True) (runIo2Loopback bus burstPeriodTicks)
      fun answer _ =>
        answer.1 = true → answer.2.resultFlags = loopbackPass →
          Proven (evidence answer.2) := by
  unfold runIo2Loopback
  split
  · exact fun _ _ _ _ ran => absurd ran Bool.false_ne_true
  · next period =>
      have fifty : burstPeriodTicks = 50 := Decidable.not_not.1 period
      subst fifty
      refine .bind (.anything _) fun safe => ?_
      split
      · exact fun _ _ _ _ ran => absurd ran Bool.false_ne_true
      · refine .bind (.anything _) fun before => ?_
        split
        · next isSafe =>
            refine .bind (?_ : Code.Holds Around _ _ fun measured _ =>
              (evidence measured).before = before) fun measured => ?_
            · refine .bind (.anything _) fun _ => ?_
              refine .bind (.anything _) fun signals => ?_
              refine .bind (holds_recordEdges _ _) fun recorded => ?_
              intro platform same
              refine Code.Holds.bind (.anything _) (fun _ => ?_) platform trivial
              refine .bind (.anything _) fun signals => ?_
              refine fun _ _ _ _ => same.trans ?_
              unfold noteEdge
              split <;> rfl
            · intro platform measuredBefore
              refine Code.Holds.bind (holds_closeLoopback bus measured)
                (fun closed => ?_) platform trivial
              refine fun _ told _ _ _ passed => ?_
              obtain ⟨same, ended⟩ := told
              obtain ⟨clean, edges, spaced, high⟩ :=
                (LoopbackReport.evaluate_pass closed 50).1 passed
              rw [evidence_evaluate]
              exact {
                edges := edges
                spaced := spaced.imp fun _ _ => interval_of_spaced
                high := high
                before := by rw [same, measuredBefore, isSafe]
                after := ended (unflagged_of_clean clean) }
        · exact fun _ _ _ _ ran => absurd ran Bool.false_ne_true

/-! ## Jobs and their runs -/

/-- A job of the acquisition, as the main loop and its callbacks give it. -/
inductive Job where
  | capture
      (config : ConfigV2)
      (triggerSource : UInt8)
      (syncTimeoutMs : UInt32)
  | loopback (burstPeriodTicks : UInt16)
  | stageTiming (sampleIntervalTicks burstPeriodTicks : UInt16)
  | resetSafe

/-- What a job returns. The report of a capture is that of the platform. -/
inductive Returned where
  | captured (result : Bool)
  | looped (ran : Bool) (report : LoopbackReport)
  | staged (result : Bool)
  | reset

/-- The jobs of the acquisition. The report of a capture begins with every
field zero. -/
def jobs (bus : Bus) : Jobs Platform Signals Disturbance Job Returned where
  code
    | .capture config triggerSource syncTimeoutMs => do
        pure (.captured
          (← capture bus config triggerSource syncTimeoutMs .zero))
    | .loopback burstPeriodTicks => do
        let (ran, report) ← runIo2Loopback bus burstPeriodTicks
        pure (.looped ran report)
    | .stageTiming sampleIntervalTicks burstPeriodTicks => do
        pure (.staged (← stageTiming sampleIntervalTicks burstPeriodTicks))
    | .resetSafe => do
        .performAll enterResetSafe
        pure .reset
  disturb := disturb

/-- The platform `main` starts with: a reset clears the flag of the burst timer,
and the first statement enters the reset-safe state. -/
def booted (registers : Platform) : Platform :=
  applyAll enterResetSafe (clearBurst registers)

/-- It is quiet, whatever the registers hold. -/
theorem quiet_booted (registers : Platform) : Quiet (booted registers) := by
  intro hazard member
  simp only [Hazard.lasting, Hazard.acquisition, List.cons_append,
    List.nil_append, List.mem_cons, List.not_mem_nil, or_false] at member
  rcases member with rfl | rfl | rfl | rfl | rfl | rfl | rfl | rfl | rfl | rfl |
    rfl | rfl | rfl <;> rfl

/-- The check keeps the platform from sampling, and stops the burst timer. -/
theorem holds_measure
    (burstPeriodTicks : UInt16)
    (report : LoopbackReport) :
    Code.Holds Around Quiet (measure burstPeriodTicks report)
      fun _ => Quiet := by
  have still : Stable Around (Free Hazard.acquisition) :=
    stable_free (by decide)
  have edges :
      ∀ indices (report : LoopbackReport),
        Code.Holds Around (Free Hazard.acquisition) (recordEdges indices report)
          fun _ => Free Hazard.acquisition := by
    intro indices
    induction indices with
    | nil => exact fun _ => .give still fun _ => id
    | cons index rest inductionHypothesis =>
        intro report
        refine .bind (.request still) fun signals => ?_
        split
        · exact .give still fun _ => id
        · exact inductionHypothesis _
  refine .imp (?_ : Code.Holds Around (Free Hazard.acquisition) _ _)
    (fun _ quiet => quiet.mono (by decide)) fun _ _ => id
  refine .bind (.performAll still ?_) fun _ => ?_
  · simp only [startLoopback, List.forall_mem_cons, List.not_mem_nil,
      false_imp_iff, implies_true, and_true]
    refine ⟨?_, ?_, ?_, ?_, ?_, ?_, ?_, ?_, ?_⟩ <;>
      intro platform free hazard member <;>
      have before := free hazard member <;>
      cases hazard <;>
      first | exact before | exact absurd member (by decide)
  refine .bind (.request still) fun signals => ?_
  refine .bind (edges _ _) fun recorded => ?_
  refine .bind holds_restoreIo2HighAndStopTimers fun _ => ?_
  exact .bind (.request stable_quiet) fun _ => .give stable_quiet fun _ => id

/-- The snapshot of the transducer is taken at rest. -/
theorem holds_readSafetySnapshot (bus : Bus) :
    Code.Holds Around Quiet (readSafetySnapshot bus) fun _ => Quiet := by
  refine .bind (holds_useBus (by decide) _) fun ⟨devRead, devStat⟩ => ?_
  dsimp only
  split
  · exact .give stable_quiet fun _ => id
  · refine .bind (holds_useBus (by decide) _) fun ⟨tofRead, tofConfig⟩ => ?_
    dsimp only
    split
    · exact .give stable_quiet fun _ => id
    · exact .bind (holds_useBus (by decide) _) fun _ =>
        .give stable_quiet fun _ => id

/-- The check leaves the platform quiet. -/
theorem holds_runIo2Loopback
    (bus : Bus)
    (burstPeriodTicks : UInt16) :
    Code.Holds Around Quiet (runIo2Loopback bus burstPeriodTicks)
      fun _ => Quiet := by
  have given : ∀ answer : Bool × LoopbackReport,
      Code.Holds Around Quiet (pure answer : Main (Bool × LoopbackReport))
        fun _ => Quiet :=
    fun _ => .give stable_quiet fun _ => id
  unfold runIo2Loopback
  split
  · exact given _
  · refine .bind (holds_useBus (by decide) _) fun safe => ?_
    split
    · exact given _
    · refine .bind (holds_readSafetySnapshot bus) fun before => ?_
      split
      · refine .bind (holds_measure _ _) fun measured => ?_
        refine .bind (?_ : Code.Holds Around _ (closeLoopback bus measured)
          fun _ => Quiet) fun closed => given _
        refine .bind (holds_useBus (by decide) _) fun safe => ?_
        split
        · exact .give stable_quiet fun _ => id
        · refine .bind (holds_readSafetySnapshot bus) fun after => ?_
          split <;> exact .give stable_quiet fun _ => id
      · exact given _

/-- Staging the timing keeps the platform quiet. -/
theorem holds_stageTiming (sampleIntervalTicks burstPeriodTicks : UInt16) :
    Code.Holds Around Quiet
      (stageTiming sampleIntervalTicks burstPeriodTicks) fun _ => Quiet := by
  refine .bind (holds_calming (by decide) ?_) fun _ => ?_
  · simp only [List.forall_mem_cons, List.not_mem_nil, false_imp_iff,
      implies_true, and_true]
    refine ⟨?_, ?_, ?_, ?_, ?_, ?_, ?_, ?_, ?_⟩ <;> intro platform hazard <;>
      cases hazard <;>
      first
      | exact id
      | exact fun raised => Bool.noConfusion raised
  · exact .bind (.read stable_quiet) fun _ =>
      .give (.and (.const _) stable_quiet) fun _ => And.right

/-! ## What every job returns -/

/-- What is true when a job returns. -/
def Honest (job : Job) (returned : Returned) (platform : Platform) : Prop :=
  match job, returned with
  | .capture config _ _, .captured result =>
      Ended config.pretriggerCount config.pulseCount result
          platform.engine.account (findings platform.events.report) ∧
        (result = true → config.ioMode = 0 →
          Restored (config.profile.value 9) platform.log)
  | .loopback _, .looped ran report =>
      ran = true → report.resultFlags = loopbackPass →
        Proven (evidence report)
  | _, _ => True

/-- Every job keeps the platform quiet and is honest. -/
theorem holds_job
    (bus : Bus)
    (job : Job) :
    Code.Holds Around Quiet ((jobs bus).code job)
      fun returned platform => Quiet platform ∧ Honest job returned platform := by
  cases job with
  | capture config triggerSource syncTimeoutMs =>
      refine .bind (.and
        (holds_capture_truthful bus config triggerSource syncTimeoutMs rfl)
        ((holds_capture_restored bus config triggerSource syncTimeoutMs
          .zero).imp (fun _ _ => trivial) fun _ _ => id)) fun result => ?_
      refine .give (.and (stable_resting _) (stable_log fun log =>
        result = true → config.ioMode = 0 →
          Restored (config.profile.value 9) log)) fun platform here => ?_
      exact ⟨here.1.1, here.1.2, here.2⟩
  | loopback burstPeriodTicks =>
      refine .bind (.and (holds_runIo2Loopback bus burstPeriodTicks)
        ((holds_runIo2Loopback_proven bus burstPeriodTicks).imp
          (fun _ _ => trivial) fun _ _ => id)) fun answer => ?_
      exact .give (.and stable_quiet (.const _)) fun _ => id
  | stageTiming sampleIntervalTicks burstPeriodTicks =>
      exact .bind (holds_stageTiming _ _) fun _ =>
        .give stable_quiet fun _ quiet => ⟨quiet, trivial⟩
  | resetSafe =>
      exact .bind (holds_calming (by decide) calming_of_mem_enterResetSafe)
        fun _ => .give stable_quiet fun _ quiet => ⟨quiet, trivial⟩

/-! ## The runs -/

/-- Nothing samples, transfers or emits, and no output of the burst timer
reaches a pin: both outputs of a burst are high, or not driven. -/
structure AtBay (platform : Platform) : Prop where
  sampling : platform.engine.sampling = false
  transfers :
    platform.engine.dma0.enabled = false ∧ platform.engine.dma1.enabled = false
  interrupts :
    platform.engine.dma0.interruptEnabled = false ∧
      platform.engine.dma1.interruptEnabled = false
  converter : platform.adcEnabled = false
  bursting : platform.engine.bursting = false
  io1 :
    platform.io1.selected = false ∧
      (platform.io1.output = true → platform.io1.high = true)
  io2 :
    platform.io2.selected = false ∧ platform.io2.output = true ∧
      platform.io2.high = true

/-- A quiet platform is at bay. -/
theorem atBay_of_quiet
    {platform : Platform}
    (quiet : Quiet platform) :
    AtBay platform := by
  have rest := atRest_of_quiet quiet
  have io1Low : (platform.io1.output && !platform.io1.high) = false :=
    quiet .io1Low (by decide)
  have io2Unraised : (!platform.io2.high) = false :=
    quiet .io2Unraised (by decide)
  have io2Undriven : (!platform.io2.output) = false :=
    quiet .io2Undriven (by decide)
  exact {
    sampling := rest.sampling
    transfers := ⟨rest.dma0, rest.dma1⟩
    interrupts := ⟨rest.dma0Interrupt, rest.dma1Interrupt⟩
    converter := quiet .converter (by decide)
    bursting := rest.bursting
    io1 := ⟨quiet .io1Timed (by decide), fun driven => by
      simpa [driven] using io1Low⟩
    io2 := ⟨quiet .io2Timed (by decide), by simpa using io2Undriven,
      by simpa using io2Unraised⟩ }

/-- What is true when a capture has returned. A burst is started at most once,
never before the samples wanted ahead of it, and never without the
synchronisation; it has no more periods than asked for, those not counted that
ended before the interrupt of the one before was served. A capture that
succeeds has stored the words found at the first triggers in their order, has
emitted the whole burst, and in IO mode 0 has put the register of the burst
back. -/
structure Returns
    (config : ConfigV2)
    (succeeded : Bool)
    (platform : Platform) :
    Prop where
  once :
    platform.engine.bursts = [] ∨
      ∃ count, config.pretriggerCount.toNat ≤ count ∧
        platform.engine.bursts = [count]
  atMost :
    platform.engine.periods ≤
      platform.engine.late + config.pulseCount.toNat
  unsynchronised :
    platform.events.report.syncTimedOut = true → platform.engine.bursts = []
  sampled :
    succeeded = true →
      captureSampleCount ≤ platform.engine.words.length ∧
        platform.engine.waveform.toList =
          platform.engine.words.take captureSampleCount
  emitted :
    succeeded = true →
      platform.engine.bursts ≠ [] ∧
        platform.engine.periods =
          platform.engine.late + config.pulseCount.toNat
  restored :
    succeeded = true → config.ioMode = 0 →
      Restored (config.profile.value 9) platform.log

/-- Every job keeps its word, in every run. -/
theorem everyStep_honest
    (bus : Bus)
    (registers : Platform)
    (inputs : List (Jobs.Input Signals Disturbance Job)) :
    EveryStep
      (fun _ event =>
        (∀ job returned, event.output = some (job, returned) →
          Quiet event.target.state ∧ Honest job returned event.target.state) ∧
        (event.target.current = none → Quiet event.target.state))
      ((jobs bus).machine.trace ⟨booted registers, none⟩ inputs) :=
  have stable : Stable (jobs bus).Around Quiet := stable_quiet
  Jobs.everyStep_settled stable (holds_job bus) (fun _ _ _ => And.left)
    (quiet_booted registers) inputs

/-- Between two jobs the hardware is at bay, whatever the peripherals and the
interrupts do before, within and behind them. -/
theorem everyStep_atBay
    (bus : Bus)
    (registers : Platform)
    (inputs : List (Jobs.Input Signals Disturbance Job)) :
    EveryStep
      (fun _ event => event.target.current = none → AtBay event.target.state)
      ((jobs bus).machine.trace ⟨booted registers, none⟩ inputs) :=
  (everyStep_honest bus registers inputs).imp fun _ _ honest free =>
    atBay_of_quiet (honest.2 free)

/-- What a capture returns is true of what was sampled and emitted, in every
run. -/
theorem everyStep_returns
    (bus : Bus)
    (registers : Platform)
    (inputs : List (Jobs.Input Signals Disturbance Job)) :
    EveryStep
      (fun _ event =>
        ∀ config triggerSource syncTimeoutMs succeeded,
          event.output =
              some (.capture config triggerSource syncTimeoutMs,
                .captured succeeded) →
            Returns config succeeded event.target.state)
      ((jobs bus).machine.trace ⟨booted registers, none⟩ inputs) := by
  refine (everyStep_honest bus registers inputs).imp ?_
  intro _ event honest config triggerSource syncTimeoutMs succeeded shown
  obtain ⟨-, ⟨truthful, unsynchronised⟩, restored⟩ := honest.1 _ _ shown
  exact {
    once := truthful.once
    atMost := truthful.atMost
    unsynchronised := unsynchronised
    sampled := fun done =>
      ⟨(truthful.complete done).1.enough, (truthful.complete done).1.stored⟩
    emitted := fun done => (truthful.complete done).2
    restored := restored }

/-- A loopback check that passes has its evidence, in every run. -/
theorem everyStep_proven
    (bus : Bus)
    (registers : Platform)
    (inputs : List (Jobs.Input Signals Disturbance Job)) :
    EveryStep
      (fun _ event =>
        ∀ burstPeriodTicks report,
          event.output =
              some (.loopback burstPeriodTicks, .looped true report) →
            report.resultFlags = loopbackPass →
              Proven (evidence report))
      ((jobs bus).machine.trace ⟨booted registers, none⟩ inputs) := by
  refine (everyStep_honest bus registers inputs).imp ?_
  intro _ event honest burstPeriodTicks report shown passed
  exact (honest.1 _ _ shown).2 rfl passed

end Platform

end Usac.Firmware
