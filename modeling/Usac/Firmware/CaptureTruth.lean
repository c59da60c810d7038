import Usac.Firmware.CaptureEngine

namespace Usac.Firmware

open Library Tuss4470

/-!
# What a complete capture says

The main line of a capture, statement by statement, over what the engine keeps:
from the clearing of its variables to the report that is returned.
-/

namespace Platform

/-! ## Assertions about the engine -/

/-- The engine satisfies an assertion, and the report says whether the
synchronisation was lost. -/
def During (lost : Bool) (holds : Engine → Prop) (platform : Platform) : Prop :=
  holds platform.engine ∧ platform.events.report.syncTimedOut = lost

section

variable {lost : Bool}

/-- A disturbance of the engine keeps the assertion. -/
def Lasting (holds : Engine → Prop) : Prop :=
  ∀ engine next : Engine, engine.Disturbed next → holds engine → holds next

/-- The report after a disturbance: only its events and its quality have
changed. -/
theorem report_of_disturb
    (platform : Platform)
    (disturbance : Disturbance) :
    ∃ quality events,
      (disturb disturbance platform).events.report =
        { platform.events.report with
          qualityFlags := quality, events := events } := by
  have interrupted :
      ∀ pending, ∃ quality events,
        (platform.events.interrupt pending).report =
          { platform.events.report with
            qualityFlags := quality, events := events } := by
    have appended :
        ∀ (report : CaptureReport) interval epoch channel level captured,
          ∃ quality events,
            EventCapture.append report interval epoch channel level captured =
              { report with qualityFlags := quality, events := events } := by
      intro report interval epoch channel level captured
      unfold EventCapture.append EventCapture.addEvent EventCapture.noteOverrun
      split_ifs <;> exact ⟨_, _, rfl⟩
    intro pending
    cases pending with
    | out4 captured =>
        simp only [EventCapture.interrupt, EventCapture.out4]
        split_ifs
        · exact ⟨_, _, rfl⟩
        · exact ⟨_, _, rfl⟩
        · exact appended _ _ _ _ _ _
        · exact ⟨_, _, rfl⟩
    | out3 captured =>
        simp only [EventCapture.interrupt, EventCapture.out3]
        split_ifs
        · exact ⟨_, _, rfl⟩
        · exact ⟨_, _, rfl⟩
        · exact appended _ _ _ _ _ _
    | overflow => exact ⟨_, _, rfl⟩
    | unknown => exact ⟨_, _, rfl⟩
  cases disturbance with
  | timer0A1 pending =>
      simp only [disturb, timer0A1Isr]
      split
      · exact interrupted pending
      · exact ⟨_, _, rfl⟩
  | dma =>
      simp only [disturb, dmaIsr]
      split_ifs
      · exact ⟨_, _, rfl⟩
      · unfold startBurst
        split <;> exact ⟨_, _, rfl⟩
      · exact ⟨_, _, rfl⟩
  | timer2A0 =>
      simp only [disturb, timer2A0Isr]
      split_ifs <;> exact ⟨_, _, rfl⟩
  | quantum =>
      simp only [disturb, onAclkQuantum]
      split <;> exact ⟨_, _, rfl⟩
  | trigger word => exact ⟨_, _, rfl⟩
  | endPeriod => exact ⟨_, _, rfl⟩
  | dmaDefault => exact ⟨_, _, rfl⟩
  | busError => exact ⟨_, _, rfl⟩

/-- What lasts in the engine is stable. -/
theorem Lasting.stable
    {holds : Engine → Prop}
    (lasting : Lasting holds) :
    Stable Around (During lost holds) := by
  rintro platform _ ⟨disturbance, rfl⟩ ⟨here, synchronised⟩
  obtain ⟨quality, events, report⟩ := report_of_disturb platform disturbance
  refine ⟨lasting _ _ (disturbed_of_disturb platform disturbance) here, ?_⟩
  rw [report]
  exact synchronised

/-- A statement beside the engine: it changes neither the engine nor what the
report says of the synchronisation. -/
def Aside (action : Action) : Prop :=
  ∀ platform, (action platform).engine = platform.engine ∧
    (action platform).events.report.syncTimedOut =
      platform.events.report.syncTimedOut

/-- Such a statement keeps every assertion about the engine. -/
theorem Aside.during
    {action : Action}
    (aside : Aside action)
    {holds : Engine → Prop}
    {platform : Platform}
    (here : During lost holds platform) :
    During lost holds (action platform) := by
  obtain ⟨engine, synchronised⟩ := aside platform
  exact ⟨engine ▸ here.1, synchronised.trans here.2⟩

/-- Statements beside the engine. -/
theorem holds_aside
    {holds : Engine → Prop}
    (lasting : Lasting holds)
    {actions : List Action}
    (aside : ∀ action ∈ actions, Aside action) :
    Code.Holds Around (During lost holds) (.performAll actions : Main Unit)
      fun _ => During lost holds :=
  .performAll lasting.stable fun action member _ here =>
    (aside action member).during here

/-! ## A platform at rest -/

/-- What the report of a capture says about its end. -/
structure Findings where
  lost : Bool
  remaining : UInt16
  burst : Bool

/-- The findings of a report. -/
def findings (report : CaptureReport) : Findings where
  lost := report.syncTimedOut
  remaining := report.dmaRemaining
  burst := report.burstCompleted

/-- The platform is quiet, and its account and the findings of its report
satisfy an assertion. -/
def Resting
    (holds : Engine.Account → Findings → Prop)
    (platform : Platform) :
    Prop :=
  Quiet platform ∧
    holds platform.engine.account (findings platform.events.report)

/-- What a quiet platform is free of, register by register. -/
structure AtRest (platform : Platform) : Prop where
  sampling : platform.engine.sampling = false
  dma0 : platform.engine.dma0.enabled = false
  dma0Interrupt : platform.engine.dma0.interruptEnabled = false
  dma1 : platform.engine.dma1.enabled = false
  dma1Interrupt : platform.engine.dma1.interruptEnabled = false
  bursting : platform.engine.bursting = false
  unflagged : platform.engine.burstFlagged = false

/-- A quiet platform is at rest. -/
theorem atRest_of_quiet
    {platform : Platform}
    (quiet : Quiet platform) :
    AtRest platform where
  sampling := quiet .sampling (by decide)
  dma0 := quiet .dma0 (by decide)
  dma0Interrupt := quiet .dma0Interrupt (by decide)
  dma1 := quiet .dma1 (by decide)
  dma1Interrupt := quiet .dma1Interrupt (by decide)
  bursting := quiet .bursting (by decide)
  unflagged := quiet .burstFlag (by decide)

/-- No disturbance changes the account of a quiet platform. -/
theorem account_of_disturb
    {platform : Platform}
    (quiet : Quiet platform)
    (disturbance : Disturbance) :
    (disturb disturbance platform).engine.account = platform.engine.account := by
  have rest := atRest_of_quiet quiet
  have disturbed := disturbed_of_disturb platform disturbance
  generalize (disturb disturbance platform).engine = next at disturbed
  cases disturbed with
  | unchanged => rfl
  | trigger word =>
      rw [Engine.trigger, rest.sampling]
      rfl
  | endPeriod =>
      rw [Engine.endPeriod, rest.bursting]
      rfl
  | filled flagged enabled => exact absurd enabled (by simp [rest.dma0Interrupt])
  | reached flagged enabled => exact absurd enabled (by simp [rest.dma1Interrupt])
  | halted => rfl
  | counted flagged more => exact absurd flagged (by simp [rest.unflagged])
  | ended flagged last => exact absurd flagged (by simp [rest.unflagged])
  | reset => rfl

/-- What holds at rest is stable. -/
theorem stable_resting (holds : Engine.Account → Findings → Prop) :
    Stable Around (Resting holds) := by
  rintro platform _ ⟨disturbance, rfl⟩ ⟨quiet, here⟩
  obtain ⟨quality, events, report⟩ := report_of_disturb platform disturbance
  refine ⟨stable_quiet _ _ ⟨disturbance, rfl⟩ quiet, ?_⟩
  rw [account_of_disturb quiet, report]
  exact here

/-- A calming statement at rest, and the others behind it. -/
theorem holds_resting
    {holds : Engine.Account → Findings → Prop}
    (next : Engine.Account → Findings → Prop)
    {after : Platform → Prop}
    {action : Action}
    {rest : List Action}
    (calming : Calming action)
    (changes :
      ∀ platform,
        holds platform.engine.account (findings platform.events.report) →
          next (action platform).engine.account
            (findings (action platform).events.report))
    (others :
      Code.Holds Around (Resting next) (.performAll rest : Main Unit)
        fun _ => after) :
    Code.Holds Around (Resting holds)
      (.performAll (action :: rest) : Main Unit) fun _ => after :=
  .cons (Resting next) (stable_resting _)
    (fun platform here => ⟨calming.free here.1, changes platform here.2⟩) others

/-- A calming statement beside the account and the findings. -/
theorem holds_beside
    {holds : Engine.Account → Findings → Prop}
    {action : Action}
    (calming : Calming action)
    (beside :
      ∀ platform, (action platform).engine.account = platform.engine.account ∧
        findings (action platform).events.report =
          findings platform.events.report) :
    Code.Holds Around (Resting holds) (.perform action : Main Unit)
      fun _ => Resting holds := by
  refine .perform (stable_resting _) (stable_resting _) fun platform here => ?_
  refine ⟨calming.free here.1, ?_⟩
  rw [(beside platform).1, (beside platform).2]
  exact here.2

/-- An operation on the bus at rest. -/
theorem holds_useBus_resting
    {holds : Engine.Account → Findings → Prop}
    {Result : Type}
    (operation : Operation Result) :
    Code.Holds Around (Resting holds) (useBus operation)
      fun _ => Resting holds := by
  refine .bind (.read (stable_resting _)) fun platform => ?_
  refine .imp (?_ : Code.Holds Around (Resting holds) _ _) (fun _ => And.right)
    fun _ _ => id
  refine .bind (holds_beside ?_ fun _ => ⟨rfl, rfl⟩) fun _ =>
    .give (stable_resting _) fun _ => id
  exact fun platform hazard => by cases hazard <;> exact id

/-- The report on the status register at rest. -/
theorem holds_reportStatus_resting
    {holds : Engine.Account → Findings → Prop}
    (bus : Bus) :
    Code.Holds Around (Resting holds) (reportStatus bus)
      fun _ => Resting holds := by
  refine .bind (holds_useBus_resting _) fun answer => ?_
  refine .bind (holds_beside (calming_onReport _) fun _ => ⟨rfl, rfl⟩)
    fun _ => ?_
  split
  · exact holds_beside (calming_onReport _) fun _ => ⟨rfl, rfl⟩
  · exact .give (stable_resting _) fun _ => id

/-! ## The variables a capture clears -/

/-- The account of a capture that has been activated. -/
def Begun
    (target : UInt16)
    (pulses : UInt8)
    (account : Engine.Account) :
    Prop :=
  account.captureActive = true ∧ account.target = target ∧
    account.remaining = pulses ∧ account.words = [] ∧ account.bursts = [] ∧
    account.periods = 0 ∧ account.late = 0

/-- Both channels are off. -/
def Emptied (engine : Engine) : Prop :=
  engine.dma0.enabled = false ∧ engine.dma1.enabled = false

/-- An account whose variables have been cleared is that of a fresh capture. -/
theorem fresh_of_begun
    {target : UInt16}
    {pulses : UInt8}
    (burst : pulses ≠ 0)
    {platform : Platform}
    (quiet : Quiet platform)
    (begun : Begun target pulses platform.engine.account)
    (unfilled : platform.engine.captureDma0Completed = false)
    (unended : platform.engine.captureBurstComplete = false) :
    platform.engine.Fresh target pulses ∧ Emptied platform.engine := by
  have rest := atRest_of_quiet quiet
  obtain ⟨active, aimed, remaining, wordless, burstless, periodless, punctual⟩ :=
    begun
  have left : platform.engine.captureBurstPeriodsRemaining.toNat = pulses.toNat :=
    congrArg UInt8.toNat remaining
  refine ⟨?_, rest.dma0, rest.dma1⟩
  exact {
    active := active
    aimed := aimed
    sampled := {
      filling := fun on => absurd on (by simp [rest.dma0])
      filled := fun _ on => absurd on (by simp [rest.dma0Interrupt])
      completed := fun done => absurd done (by simp [unfilled]) }
    triggered := {
      counting := fun on => absurd on (by simp [rest.dma1])
      counted := fun _ on => absurd on (by simp [rest.dma1Interrupt])
      awaited := fun on => absurd on (by simp [rest.dma1Interrupt])
      once := .inl burstless }
    paced := {
      begun := fun going => by simp [rest.bursting, rest.unflagged] at going
      left := left ▸ Nat.pos_of_ne_zero fun zero => burst (UInt8.toNat.inj zero)
      running := fun _ _ => by
        rw [left, rest.unflagged]
        simp only [Engine.account] at periodless punctual
        simp [periodless, punctual]
      atMost := fun _ => by
        simp only [Engine.account] at periodless punctual
        simp [left, periodless, punctual]
      done := fun done => absurd done (by simp [unended]) }
    still := rest.sampling
    wordless := wordless
    burstless := burstless }

/-- The statements that clear the variables. -/
theorem holds_clearCapture
    {target : UInt16}
    {pulses : UInt8}
    (burst : pulses ≠ 0) :
    Code.Holds Around
      (Resting fun account said => Begun target pulses account ∧ said.lost = lost)
      (.performAll clearCapture : Main Unit)
      fun _ => During lost fun engine =>
        engine.Fresh target pulses ∧ Emptied engine := by
  have calming :
      ∀ action ∈ clearCapture, Calming action := by
    simp only [clearCapture, List.forall_mem_cons, List.not_mem_nil,
      false_imp_iff, implies_true, and_true]
    refine ⟨?_, ?_, ?_, ?_⟩ <;> intro platform hazard <;> cases hazard <;>
      exact id
  simp only [clearCapture, List.forall_mem_cons, List.not_mem_nil,
    false_imp_iff, implies_true, and_true] at calming
  obtain ⟨complete, completed, ended, trigger⟩ := calming
  refine holds_resting
    (fun account said => Begun target pulses account ∧ said.lost = lost)
    complete (fun _ here => here) ?_
  refine holds_resting
    (fun account said => account.dma0Completed = false ∧
      Begun target pulses account ∧ said.lost = lost)
    completed (fun _ here => ⟨rfl, here⟩) ?_
  refine holds_resting
    (fun account said => account.burstComplete = false ∧
      account.dma0Completed = false ∧ Begun target pulses account ∧
        said.lost = lost)
    ended (fun _ here => ⟨rfl, here⟩) ?_
  refine holds_resting
    (fun account said => account.burstComplete = false ∧
      account.dma0Completed = false ∧ Begun target pulses account ∧
        said.lost = lost)
    trigger (fun _ here => here) ?_
  exact .give (stable_resting _) fun platform ⟨quiet, unended, unfilled, begun,
    synchronised⟩ =>
      ⟨fresh_of_begun burst quiet begun unfilled unended, synchronised⟩

/-! ## The channels of a capture -/

section Capture

variable {target : UInt16} {pulses : UInt8}

/-- What a stop does not change lasts while nothing has happened. -/
theorem lasting_fresh
    {holds : Engine → Prop}
    (halted : ∀ engine, holds engine → holds engine.halted)
    (reset : ∀ engine, holds engine → holds engine.reset) :
    Lasting fun engine => engine.Fresh target pulses ∧ holds engine := by
  rintro engine next disturbed ⟨fresh, here⟩
  refine ⟨fresh.disturbed disturbed, ?_⟩
  rcases fresh.cases disturbed with rfl | rfl | rfl
  · exact here
  · exact halted _ here
  · exact reset _ here

/-- A channel that is off stays off. -/
theorem lasting_emptied :
    Lasting fun engine => engine.Fresh target pulses ∧ Emptied engine :=
  lasting_fresh (fun _ _ => ⟨rfl, rfl⟩) fun _ _ => ⟨rfl, rfl⟩

/-- The size of the first channel is one block, and the second one is off. -/
def Loaded (engine : Engine) : Prop :=
  engine.dma0.size = captureSampleCount ∧
    engine.dma0.block = captureSampleCount ∧ engine.dma1.enabled = false

/-- The first channel is set up, and the second one is off. -/
def Armed (engine : Engine) : Prop :=
  engine.Sized ∧ engine.dma1.enabled = false

/-- The size of the second channel is the position of the trigger. -/
def Aimed (target : UInt16) (engine : Engine) : Prop :=
  Armed engine ∧ engine.dma1.size = target.toNat

/-- The channels are set up for a fresh capture. -/
def Ready (target : UInt16) (pulses : UInt8) (engine : Engine) : Prop :=
  engine.Fresh target pulses ∧ engine.Sized

/-- A fresh capture stays ready. -/
theorem lasting_ready : Lasting (Ready target pulses) :=
  lasting_fresh (fun _ sized => ⟨sized.1, sized.2, sized.3⟩)
    fun _ sized => ⟨sized.1, sized.2, sized.3⟩

/-- An action on the engine of a capture, and the others behind it. -/
theorem holds_engine
    {holds : Engine → Prop}
    (next : Engine → Prop)
    (lasting : Lasting holds)
    {action : Action}
    {rest : List Action}
    {after : Platform → Prop}
    (changes : ∀ platform, holds platform.engine → next (action platform).engine)
    (reports :
      ∀ platform, (action platform).events.report.syncTimedOut =
        platform.events.report.syncTimedOut)
    (others :
      Code.Holds Around (During lost next) (.performAll rest : Main Unit)
        fun _ => after) :
    Code.Holds Around (During lost holds) (.performAll (action :: rest) : Main Unit)
      fun _ => after :=
  .cons (During lost next) lasting.stable
    (fun platform here =>
      ⟨changes platform here.1, (reports platform).trans here.2⟩)
    others

/-- The statements that set up the two channels. -/
theorem holds_setUpDma :
    Code.Holds Around
      (During lost fun engine => engine.Fresh target pulses ∧ Emptied engine)
      (.performAll setUpDma : Main Unit)
      fun _ => During lost (Ready target pulses) := by
  refine holds_engine
    (fun engine => engine.Fresh target pulses ∧ Loaded engine)
    lasting_emptied ?_ (fun _ => rfl) ?_
  · rintro platform ⟨fresh, off, off1⟩
    have sampled := fresh.sampled
    exact ⟨{ fresh with
      sampled :=
        ⟨fun on => absurd (on.symm.trans off) (by decide), sampled.filled,
          sampled.completed⟩ }, rfl, rfl, off1⟩
  refine holds_engine (fun engine => engine.Fresh target pulses ∧ Armed engine)
    (lasting_fresh (fun _ loaded => ⟨loaded.1, loaded.2.1, rfl⟩)
      fun _ loaded => ⟨loaded.1, loaded.2.1, rfl⟩) ?_ (fun _ => rfl) ?_
  · rintro platform ⟨fresh, size, block, off1⟩
    refine ⟨{ fresh with sampled := ?_ },
      ⟨block, size ▸ Nat.zero_lt_succ _, size.le⟩, off1⟩
    exact {
      filling := fun _ => {
        block := block
        room := size ▸ Nat.zero_lt_succ _
        left := by
          show platform.engine.dma0.size + platform.engine.words.length = _
          rw [size, fresh.wordless]
          rfl
        stored := by
          show platform.engine.waveform.toList.take platform.engine.words.length =
            platform.engine.words
          rw [fresh.wordless]
          rfl }
      filled := fun flagged => absurd flagged Bool.false_ne_true
      completed := fun done => by
        have enough := (fresh.sampled.completed done).2.enough
        rw [fresh.wordless] at enough
        exact absurd enough (by decide) }
  refine holds_engine
    (fun engine => engine.Fresh target pulses ∧ Aimed target engine)
    (lasting_fresh (fun _ armed => ⟨⟨armed.1.1, armed.1.2, armed.1.3⟩, rfl⟩)
      fun _ armed => ⟨⟨armed.1.1, armed.1.2, armed.1.3⟩, rfl⟩) ?_
    (fun _ => rfl) ?_
  · rintro platform ⟨fresh, sized, off1⟩
    have triggered := fresh.triggered
    exact ⟨{ fresh with
      triggered :=
        ⟨fun on => absurd (on.symm.trans off1) (by decide), triggered.counted,
          triggered.awaited, triggered.once⟩ },
      ⟨⟨sized.1, sized.2, sized.3⟩, off1⟩,
      congrArg UInt16.toNat fresh.aimed⟩
  refine holds_engine (Ready target pulses)
    (lasting_fresh
      (fun _ aimed =>
        ⟨⟨⟨aimed.1.1.1, aimed.1.1.2, aimed.1.1.3⟩, rfl⟩, aimed.2⟩)
      fun _ aimed =>
        ⟨⟨⟨aimed.1.1.1, aimed.1.1.2, aimed.1.1.3⟩, rfl⟩, aimed.2⟩) ?_
    (fun _ => rfl) (.give lasting_ready.stable fun _ => id)
  rintro platform ⟨fresh, ⟨sized, off1⟩, size⟩
  have positive :
      (platform.engine.capturePretriggerTarget != 0) = true → target ≠ 0 := by
    rw [fresh.aimed]
    simp
  refine ⟨{ fresh with triggered := ?_ }, ⟨sized.1, sized.2, sized.3⟩⟩
  exact {
    counting := fun on => by
      have counted : 0 < target.toNat :=
        Nat.pos_of_ne_zero fun zero => positive on (UInt16.toNat.inj zero)
      refine ⟨fresh.burstless, size ▸ counted, ?_⟩
      show platform.engine.dma1.size + platform.engine.words.length = _
      rw [size, fresh.wordless]
      rfl
    counted := fun flagged => absurd flagged Bool.false_ne_true
    awaited := positive
    once := .inl fresh.burstless }

/-- The wait for the converter. -/
theorem holds_awaitAdcIdle
    {holds : Engine → Prop}
    (lasting : Lasting holds)
    (waits : Nat) :
    Code.Holds Around (During lost holds) (awaitAdcIdle waits)
      fun _ => During lost holds := by
  induction waits with
  | zero =>
      exact .bind (.request lasting.stable) fun _ =>
        .give lasting.stable fun _ => id
  | succ waits inductionHypothesis =>
      refine .bind (.request lasting.stable) fun signals => ?_
      split
      · exact inductionHypothesis
      · exact .give lasting.stable fun _ => id

/-- The path of the samples is prepared, or nothing has happened. -/
theorem holds_prepareAdcDmaCapturePath :
    Code.Holds Around
      (During lost fun engine => engine.Fresh target pulses ∧ Emptied engine)
      prepareAdcDmaCapturePath
      fun prepared => During lost fun engine =>
        engine.Fresh target pulses ∧ (prepared = true → engine.Sized) := by
  have lasting :
      Lasting fun engine => engine.Fresh target pulses ∧ Emptied engine :=
    lasting_emptied
  refine .bind (.performAll lasting.stable ?_) fun _ => ?_
  · simp only [List.forall_mem_cons, List.not_mem_nil, false_imp_iff,
      implies_true, and_true]
    refine ⟨?_, ?_, ?_, ?_⟩ <;> rintro platform ⟨⟨fresh, off⟩, synchronised⟩
    · exact ⟨⟨{ fresh with still := rfl }, off⟩, synchronised⟩
    · exact ⟨⟨{ fresh with sampled := fresh.sampled.off rfl rfl }, rfl, off.2⟩,
        synchronised⟩
    · exact ⟨⟨{ fresh with triggered := fresh.triggered.off rfl rfl }, off.1,
        rfl⟩, synchronised⟩
    · exact ⟨⟨fresh, off⟩, synchronised⟩
  refine .bind (holds_awaitAdcIdle lasting _) fun idle => ?_
  split
  · refine .bind holds_setUpDma fun _ => ?_
    exact .give lasting_ready.stable fun platform here =>
      ⟨⟨here.1.1, fun _ => here.1.2⟩, here.2⟩
  · exact .give lasting.stable fun platform here =>
      ⟨⟨here.1.1, fun prepared => absurd prepared Bool.false_ne_true⟩, here.2⟩

/-! ## The trigger -/

/-- The burst outputs are configured. -/
theorem holds_configureBurstOutputs (plan : BurstPlan) :
    Code.Holds Around (During lost (Ready target pulses))
      (.performAll (configureBurstOutputs plan) : Main Unit)
      fun _ => During lost (Ready target pulses) := by
  refine .performAll lasting_ready.stable ?_
  have beside :
      ∀ {action : Action}, Aside action → ∀ platform,
        During lost (Ready target pulses) platform →
          During lost (Ready target pulses) (action platform) :=
    fun aside _ here => aside.during here
  have stopped :
      ∀ platform, During lost (Ready target pulses) platform →
        During lost (Ready target pulses) (stopBurst platform) := by
    rintro platform ⟨⟨fresh, sized⟩, synchronised⟩
    exact ⟨⟨{ fresh with paced := fresh.paced.stopped id },
      sized.1, sized.2, sized.3⟩, synchronised⟩
  have enabled :
      ∀ platform, During lost (Ready target pulses) platform →
        During lost (Ready target pulses) (enableBurst platform) := by
    rintro platform ⟨⟨fresh, sized⟩, synchronised⟩
    have unflagged := fresh.resting.2
    have paced := fresh.paced
    rw [unflagged] at paced
    exact ⟨⟨{ fresh with paced := paced }, sized.1, sized.2, sized.3⟩,
      synchronised⟩
  unfold configureBurstOutputs
  split <;>
    simp only [List.forall_mem_append, List.forall_mem_cons, List.not_mem_nil,
      false_imp_iff, implies_true, and_true]
  · refine ⟨⟨?_, ?_, ?_, stopped, ?_, enabled, ?_, ?_⟩, ?_, ?_, ?_, ?_⟩ <;>
      exact beside fun _ => ⟨rfl, rfl⟩
  · refine ⟨⟨?_, ?_, ?_, stopped, ?_, enabled, ?_, ?_⟩, ?_, ?_⟩ <;>
      exact beside fun _ => ⟨rfl, rfl⟩

/-- The sample timer is configured. -/
theorem holds_configureSampling (sampleIntervalTicks : UInt16) :
    Code.Holds Around (During lost (Ready target pulses))
      (.performAll (configureSampling sampleIntervalTicks) : Main Unit)
      fun _ => During lost (Ready target pulses) := by
  refine .performAll lasting_ready.stable ?_
  have beside :
      ∀ {action : Action}, Aside action → ∀ platform,
        During lost (Ready target pulses) platform →
          During lost (Ready target pulses) (action platform) :=
    fun aside _ here => aside.during here
  simp only [configureSampling, List.forall_mem_cons, List.not_mem_nil,
    false_imp_iff, implies_true, and_true]
  refine ⟨?_, ?_, ?_, ?_, ?_, ?_⟩
  · rintro platform ⟨⟨fresh, sized⟩, synchronised⟩
    exact ⟨⟨{ fresh with still := rfl }, sized.1, sized.2, sized.3⟩,
      synchronised⟩
  all_goals exact beside fun _ => ⟨rfl, rfl⟩

/-- The wait for the synchronisation. -/
theorem holds_pollSync
    {holds : Engine → Prop}
    (lasting : Lasting holds)
    (timeoutQuanta : UInt16)
    (polls : Nat)
    (sawLow : Bool) :
    Code.Holds Around (During lost holds) (pollSync timeoutQuanta polls sawLow)
      fun _ => During lost holds := by
  induction polls generalizing sawLow with
  | zero => exact fun _ _ => trivial
  | succ polls inductionHypothesis =>
      have waiting :
          Code.Holds Around (During lost holds)
            (.perform ({ · with captureSyncWaiting := false }) : Main Unit)
            fun _ => During lost holds :=
        .perform lasting.stable lasting.stable fun _ here => here
      refine .bind (.read lasting.stable) fun platform => ?_
      refine .imp (?_ : Code.Holds Around (During lost holds) _ _)
        (fun _ => And.right) fun _ _ => id
      split
      · refine .bind (.request lasting.stable) fun signals => ?_
        split
        · exact inductionHypothesis true
        · split
          · exact .bind waiting fun _ => .give lasting.stable fun _ => id
          · exact inductionHypothesis sawLow
      · exact .bind waiting fun _ => .give lasting.stable fun _ => id

/-- The wait of a slave. -/
theorem holds_waitForSlaveSync
    {holds : Engine → Prop}
    (lasting : Lasting holds)
    (timeoutMs : UInt32) :
    Code.Holds Around (During lost holds) (waitForSlaveSync timeoutMs)
      fun _ => During lost holds := by
  refine .bind (.request lasting.stable) fun signals => ?_
  split
  · exact .give lasting.stable fun _ => id
  · refine .bind (holds_aside lasting ?_) fun _ => holds_pollSync lasting _ _ _
    simp only [List.forall_mem_cons, List.not_mem_nil, false_imp_iff,
      implies_true, and_true]
    exact ⟨fun _ => ⟨rfl, rfl⟩, fun _ => ⟨rfl, rfl⟩⟩

/-- The capture is under way. -/
def Running (target : UInt16) (pulses : UInt8) (engine : Engine) : Prop :=
  engine.Faithful target pulses ∧ engine.Sized

/-- It stays under way. -/
theorem lasting_running : Lasting (Running target pulses) :=
  fun _ _ disturbed here => ⟨here.1.disturbed disturbed, here.2.disturbed disturbed⟩

/-- The start of the events. -/
theorem aside_startEvents (signals : Signals) : Aside (startEvents signals) := by
  refine fun platform => ⟨rfl, ?_⟩
  simp only [startEvents, EventCapture.start]
  split_ifs <;> rfl

/-- The start of the events, and the edge of a master. -/
theorem holds_publishTrigger
    {holds : Engine → Prop}
    (lasting : Lasting holds)
    (platform : Platform) :
    Code.Holds Around (During lost holds) (publishTrigger platform)
      fun _ => During lost holds := by
  unfold publishTrigger
  split
  · refine .bind (.request lasting.stable) fun signals => ?_
    refine .bind (.perform lasting.stable lasting.stable fun _ here =>
      (aside_startEvents signals).during here) fun _ => ?_
    apply holds_aside lasting
    split
    · exact List.forall_mem_singleton.2 fun _ => ⟨rfl, rfl⟩
    · exact List.forall_mem_nil _
  · exact .give lasting.stable fun _ => id

/-- The burst, when there is nothing to sample before it. -/
theorem holds_burstAtOnce
    {platform : Platform}
    (aimed : platform.engine.capturePretriggerTarget = target) :
    Code.Holds Around (During lost (Ready target pulses)) (burstAtOnce platform)
      fun _ => During lost (Running target pulses) := by
  unfold burstAtOnce
  split
  · next zero =>
      have early : target = 0 := aimed ▸ zero
      refine holds_engine (Ready target pulses) lasting_ready
        (fun _ here => ⟨{ here.1 with },
          here.2.1, here.2.2, here.2.3⟩) (fun _ => rfl) ?_
      refine holds_engine (Ready target pulses) lasting_ready (fun _ => id)
        (fun _ => rfl) ?_
      refine holds_engine (Ready target pulses) lasting_ready (fun _ => id)
        (fun _ => rfl) ?_
      refine holds_engine (Running target pulses) lasting_ready ?_
        (fun _ => rfl) (.give lasting_running.stable fun _ => id)
      rintro platform ⟨fresh, sized⟩
      have off : platform.engine.dma1.enabled = false := by
        rw [Bool.eq_false_iff]
        intro on
        obtain ⟨-, room, left⟩ := fresh.triggered.counting on
        rw [early] at left
        have zero : (0 : UInt16).toNat = 0 := rfl
        omega
      have silent : platform.engine.dma1.interruptEnabled = false := by
        rw [Bool.eq_false_iff]
        exact fun on => fresh.triggered.awaited on early
      exact ⟨{ fresh with
        triggered :=
          fresh.triggered.started off fresh.burstless
            (early ▸ Nat.zero_le _) rfl rfl fun _ => silent
        paced := fresh.paced.started fresh.burstless _ }, sized.1, sized.2, sized.3⟩
  · exact .give lasting_ready.stable fun _ here =>
      ⟨⟨here.1.1.toFaithful, here.1.2⟩, here.2⟩

/-- The capture is triggered, or nothing has happened. -/
theorem holds_triggerCapture :
    Code.Holds Around (During lost (Ready target pulses)) triggerCapture
      fun triggered => During lost
        (cond triggered (Running target pulses) (Ready target pulses)) := by
  refine .bind (.read lasting_ready.stable) fun platform => ?_
  intro state here
  obtain ⟨⟨⟨seen, -⟩, -⟩, now⟩ := here
  have waited :
      Code.Holds Around (During lost (Ready target pulses)) (synchronise platform)
        fun _ => During lost (Ready target pulses) := by
    unfold synchronise
    split
    · exact holds_waitForSlaveSync lasting_ready _
    · exact .give lasting_ready.stable fun _ => id
  refine Code.Holds.bind waited (fun synchronised => ?_) state now
  split
  · refine .bind (holds_publishTrigger lasting_ready _) fun _ => ?_
    refine .bind (holds_burstAtOnce seen.aimed) fun _ => ?_
    exact .give lasting_running.stable fun _ => id
  · exact .give lasting_ready.stable fun _ => id

/-! ## The end of a capture -/

/-- What the account of a capture says when it is over. -/
structure Kept
    (target : UInt16)
    (pulses : UInt8)
    (account : Engine.Account) :
    Prop where
  completed :
    account.dma0Completed = true → Engine.Filled account.waveform account.words
  once :
    account.bursts = [] ∨
      ∃ count, target.toNat ≤ count ∧ account.bursts = [count]
  atMost : account.periods ≤ account.late + pulses.toNat
  ended :
    account.burstComplete = true →
      account.bursts ≠ [] ∧ account.periods = account.late + pulses.toNat

/-- What is true of the engine is true of its account. -/
theorem kept_of_faithful
    {engine : Engine}
    (faithful : engine.Faithful target pulses) :
    Kept target pulses engine.account where
  completed done := (faithful.sampled.completed done).2
  once := faithful.triggered.once
  atMost := by
    have left := faithful.paced.left
    cases closed : engine.captureBurstComplete with
    | false =>
        have bound := faithful.paced.atMost closed
        simp only [Engine.account]
        omega
    | true => exact (faithful.paced.done closed).2.2.2.le
  ended closed := (faithful.paced.done closed).2.2

/-- An assertion that a stop keeps. -/
structure Stoppable (holds : Engine → Prop) : Prop where
  timer : ∀ engine, holds engine → holds { engine with sampling := false }
  dma0 :
    ∀ engine, holds engine →
      holds
        { engine with
          dma0 :=
            { engine.dma0 with enabled := false, interruptEnabled := false } }
  dma1 :
    ∀ engine, holds engine →
      holds
        { engine with
          dma1 :=
            { engine.dma1 with enabled := false, interruptEnabled := false } }
  burst : ∀ engine, holds engine → holds { engine with bursting := false }
  flag :
    ∀ engine, engine.bursting = false → holds engine →
      holds { engine with burstInterruptEnabled := false, burstFlagged := false }

/-- A capture under way can be stopped. -/
theorem stoppable_running : Stoppable (Running target pulses) where
  timer _ here := ⟨{ here.1 with }, here.2.1, here.2.2, here.2.3⟩
  dma0 _ here :=
    ⟨{ here.1 with sampled := here.1.sampled.off rfl rfl },
      here.2.1, here.2.2, here.2.3⟩
  dma1 _ here :=
    ⟨{ here.1 with triggered := here.1.triggered.off rfl rfl },
      here.2.1, here.2.2, here.2.3⟩
  burst _ here :=
    ⟨{ here.1 with paced := here.1.paced.stopped id },
      here.2.1, here.2.2, here.2.3⟩
  flag _ off here :=
    ⟨{ here.1 with paced := here.1.paced.cleared off },
      here.2.1, here.2.2, here.2.3⟩

/-- So can one that has not begun. -/
theorem stoppable_fresh : Stoppable (Engine.Fresh target pulses) where
  timer _ fresh := { fresh with still := rfl }
  dma0 _ fresh := { fresh with sampled := fresh.sampled.off rfl rfl }
  dma1 _ fresh := { fresh with triggered := fresh.triggered.off rfl rfl }
  burst _ fresh := { fresh with paced := fresh.paced.stopped id }
  flag _ off fresh := { fresh with paced := fresh.paced.cleared off }

/-- Everything is stopped, and what a stop keeps still holds. -/
theorem holds_stopDuring
    {holds : Engine → Prop}
    (lasting : Lasting holds)
    (stoppable : Stoppable holds) :
    Code.Holds Around (During lost holds)
      (.performAll stopCaptureHardware : Main Unit)
      fun _ platform => Quiet platform ∧ During lost holds platform := by
  have stopped :
      Code.Holds Around (During lost holds)
        (.performAll stopAcquisition : Main Unit)
        fun _ platform =>
          Free Hazard.acquisition platform ∧ During lost holds platform := by
    refine .and (holds_stopAcquisition.imp (fun _ _ => trivial) fun _ _ => id) ?_
    refine .performAll lasting.stable ?_
    simp only [stopAcquisition, List.forall_mem_cons, List.not_mem_nil,
      false_imp_iff, implies_true, and_true]
    refine ⟨fun _ here => ⟨stoppable.timer _ here.1, here.2⟩, fun _ => id,
      fun _ => id, fun _ here => ⟨stoppable.dma0 _ here.1, here.2⟩,
      fun _ here => ⟨stoppable.dma1 _ here.1, here.2⟩, fun _ => id, fun _ => id⟩
  refine .append _ stopped (.and
    (holds_restoreIo2HighAndStopTimers.imp (fun _ => And.left) fun _ _ => id) ?_)
  -- The flag is cleared once the timer is off, and nothing restarts it.
  have still : Hazard.Closed Hazard.acquisition := by decide
  have off : Hazard.Closed (.bursting :: Hazard.acquisition) := by decide
  refine .cons
    (fun platform =>
      Free (.bursting :: Hazard.acquisition) platform ∧ During lost holds platform)
    ((stable_free still).and lasting.stable) ?_ ?_
  · rintro platform ⟨free, here⟩
    refine ⟨List.forall_mem_cons.2 ⟨rfl, ?_⟩, stoppable.burst _ here.1, here.2⟩
    exact Calming.free (calming_of_mem_restore _ List.mem_cons_self) free
  refine .cons (During lost holds) ((stable_free off).and lasting.stable) ?_ ?_
  · rintro platform ⟨free, here⟩
    have resting : platform.engine.bursting = false :=
      free .bursting List.mem_cons_self
    exact ⟨stoppable.flag _ resting here.1, here.2⟩
  apply holds_aside lasting
  simp only [List.forall_mem_cons, List.not_mem_nil, false_imp_iff, implies_true,
    and_true]
  exact ⟨fun _ => ⟨rfl, rfl⟩, fun _ => ⟨rfl, rfl⟩, fun _ => ⟨rfl, rfl⟩,
    fun _ => ⟨rfl, rfl⟩, fun _ => ⟨rfl, rfl⟩⟩

/-- What is true of a capture that has ended with a result. -/
structure Truthful
    (target : UInt16)
    (pulses : UInt8)
    (result : Bool)
    (account : Engine.Account) :
    Prop where
  once :
    account.bursts = [] ∨
      ∃ count, target.toNat ≤ count ∧ account.bursts = [count]
  atMost : account.periods ≤ account.late + pulses.toNat
  complete :
    result = true →
      Engine.Filled account.waveform account.words ∧ account.bursts ≠ [] ∧
        account.periods = account.late + pulses.toNat

/-- A capture that has ended, and what its report says of a lost
synchronisation. -/
def Ended
    (target : UInt16)
    (pulses : UInt8)
    (result : Bool)
    (account : Engine.Account)
    (said : Findings) :
    Prop :=
  Truthful target pulses result account ∧
    (said.lost = true → account.bursts = [])

/-- The findings say no more than the engine. -/
def Reported
    (target : UInt16)
    (pulses : UInt8)
    (account : Engine.Account)
    (said : Findings) :
    Prop :=
  Kept target pulses account ∧ said.lost = false ∧
    (said.remaining = 0 → account.dma0Completed = true) ∧
    (said.burst = true → account.burstComplete = true)

/-- The report on the samples and the burst of a capture that has been
stopped. -/
theorem holds_reportSamples_running :
    Code.Holds Around
      (fun platform => Quiet platform ∧
        During false (Running target pulses) platform)
      (.performAll reportSamples : Main Unit)
      fun _ => Resting (Reported target pulses) := by
  have calming : ∀ action ∈ reportSamples, Calming action := by
    simp only [reportSamples, List.forall_mem_cons, List.not_mem_nil,
      false_imp_iff, implies_true, and_true]
    exact ⟨fun _ => by
      intro hazard
      cases hazard <;> exact id, fun _ hazard => by
      cases hazard <;> exact id, fun _ hazard => by
      cases hazard <;> exact id⟩
  simp only [reportSamples, List.forall_mem_cons, List.not_mem_nil,
    false_imp_iff, implies_true, and_true] at calming
  obtain ⟨samples, trigger, burst⟩ := calming
  refine .imp (?_ : Code.Holds Around
    (Resting fun account said =>
      (Kept target pulses account ∧ said.lost = false) ∧ 0 < account.left ∧
        account.left ≤ captureSampleCount) _ _) ?_ fun _ _ => id
  · refine holds_resting
      (fun account said =>
        (Kept target pulses account ∧ said.lost = false) ∧
          (said.remaining = 0 → account.dma0Completed = true))
      samples ?_ ?_
    · rintro platform ⟨kept, room, bound⟩
      refine ⟨kept, fun none => ?_⟩
      cases completed : platform.engine.captureDma0Completed with
      | true => exact completed
      | false =>
          have left : UInt16.ofNat platform.engine.dma0.size = 0 := by
            simpa [findings, onReport, completed] using none
          have zero := congrArg UInt16.toNat left
          rw [UInt16.toNat_ofNat'] at zero
          have size : platform.engine.dma0.size ≤ 2048 := bound
          have positive : 0 < platform.engine.dma0.size := room
          rw [Nat.mod_eq_of_lt (by omega)] at zero
          exact absurd zero positive.ne'
    refine holds_resting
      (fun account said =>
        (Kept target pulses account ∧ said.lost = false) ∧
          (said.remaining = 0 → account.dma0Completed = true))
      trigger (fun _ => id) ?_
    refine holds_resting (Reported target pulses) burst ?_
      (.give (stable_resting _) fun _ => id)
    rintro platform ⟨⟨kept, said⟩, remaining⟩
    exact ⟨kept, said, remaining, id⟩
  · rintro platform ⟨quiet, ⟨faithful, sized⟩, said⟩
    exact ⟨quiet, ⟨kept_of_faithful faithful, said⟩, sized.room, sized.bound⟩

/-- A complete report says that no sample is left and that the burst has
ended. -/
theorem findings_of_isComplete
    {report : CaptureReport}
    {expected : UInt16}
    (complete : report.isComplete expected = true) :
    (findings report).remaining = 0 ∧ (findings report).burst = true := by
  simp only [CaptureReport.isComplete, Bool.and_eq_true, beq_iff_eq] at complete
  obtain ⟨⟨⟨⟨⟨-, remaining⟩, burst⟩, -⟩, -⟩, -⟩ := complete
  exact ⟨remaining, burst⟩

/-- A result that the report vouches for is true. -/
theorem truthful_of_reported
    {platform : Platform}
    {result : Bool}
    (vouched :
      result = true →
        ∃ expected, platform.events.report.isComplete expected = true)
    (reported :
      Reported target pulses platform.engine.account
        (findings platform.events.report)) :
    Ended target pulses result platform.engine.account
      (findings platform.events.report) := by
  obtain ⟨kept, synchronised, samples, burst⟩ := reported
  refine ⟨⟨kept.once, kept.atMost, fun succeeded => ?_⟩, fun lost => ?_⟩
  · obtain ⟨expected, complete⟩ := vouched succeeded
    obtain ⟨none, ended⟩ := findings_of_isComplete complete
    exact ⟨kept.completed (samples none), kept.ended (burst ended)⟩
  · exact absurd (lost.symm.trans synchronised) (by decide)

/-- The end of a capture under way: what it returns is true. -/
theorem holds_concludeCapture_running (bus : Bus) :
    Code.Holds Around (During false (Running target pulses))
      (concludeCapture bus)
      fun result => Resting (Ended target pulses result) := by
  have resting := stable_resting (Reported target pulses)
  refine .bind (holds_stopDuring lasting_running stoppable_running) fun _ => ?_
  refine .bind holds_reportSamples_running fun _ => ?_
  refine .bind (holds_reportStatus_resting bus) fun _ => ?_
  refine .look resting fun platform here => ?_
  have ended :
      ∀ expected,
        (Code.give (platform.events.report.isComplete expected) :
          Main Bool).Ensures Around
          (fun result => Resting (Ended target pulses result)) platform := by
    exact fun expected _ reaches => (stable_resting _).reaches reaches
      ⟨here.1, truthful_of_reported (fun succeeded => ⟨_, succeeded⟩) here.2⟩
  split
  · exact ended _
  · exact ended _

/-! ## The capture as a whole -/

/-- A capture that was given up before anything happened. -/
theorem ended_of_fresh
    {platform : Platform}
    (fresh : platform.engine.Fresh target pulses) :
    Ended target pulses false platform.engine.account
      (findings platform.events.report) :=
  ⟨⟨.inl fresh.burstless, (kept_of_faithful fresh.toFaithful).atMost,
    fun succeeded => absurd succeeded Bool.false_ne_true⟩,
    fun _ => fresh.burstless⟩

/-- A capture that is refused has done nothing. -/
theorem ended_of_begun
    {account : Engine.Account}
    {said : Findings}
    (begun : Begun target pulses account) :
    Ended target pulses false account said := by
  obtain ⟨-, -, -, -, burstless, periodless, -⟩ := begun
  exact ⟨⟨.inl burstless, periodless ▸ Nat.zero_le _,
    fun succeeded => absurd succeeded Bool.false_ne_true⟩, fun _ => burstless⟩

/-- A capture that has not begun may not begin. -/
theorem lasting_begun : Lasting (Engine.Fresh target pulses) :=
  fun _ _ disturbed fresh => fresh.disturbed disturbed

/-- A capture that is given up is stopped. -/
theorem holds_giveUp :
    Code.Holds Around (During lost (Engine.Fresh target pulses))
      (do
        .performAll stopCaptureHardware
        pure false : Main Bool)
      fun result => Resting (Ended target pulses result) := by
  refine .bind (holds_stopDuring lasting_begun stoppable_fresh) fun _ => ?_
  exact .give (stable_quiet.and lasting_begun.stable) fun platform here =>
    ⟨here.1, ended_of_fresh here.2.1⟩

/-- The wait for the last sample. -/
theorem holds_awaitComplete
    {holds : Engine → Prop}
    (lasting : Lasting holds)
    (waits : Nat) :
    Code.Holds Around (During lost holds) (awaitComplete waits)
      fun _ => During lost holds := by
  induction waits with
  | zero => exact .give lasting.stable fun _ => id
  | succ waits inductionHypothesis =>
      refine .look lasting.stable fun platform here => ?_
      split
      · exact fun _ reaches => lasting.stable.reaches reaches here
      · exact inductionHypothesis platform here

/-- The part of the capture that waits for the samples. -/
theorem holds_awaitSamples
    {holds : Engine → Prop}
    (lasting : Lasting holds) :
    Code.Holds Around (During lost holds) awaitSamples
      fun _ => During lost holds := by
  refine .bind (holds_awaitComplete lasting _) fun _ => ?_
  refine .look lasting.stable fun platform here => ?_
  split
  · exact fun _ reaches => lasting.stable.reaches reaches here
  · refine Code.Holds.bind (.request lasting.stable) (fun signals => ?_)
      platform here
    apply holds_aside lasting
    simp only [diagnoseTimeout, List.forall_mem_cons, List.not_mem_nil,
      false_imp_iff, implies_true, and_true]
    refine ⟨?_, ?_, ?_, ?_, ?_, ?_, ?_, ?_, ?_⟩ <;> exact fun _ => ⟨rfl, rfl⟩

/-- The diagnostic fields and the events of a capture that begins. -/
theorem holds_beginReport
    {holds : Engine → Prop}
    (lasting : Lasting holds)
    (interruptsEnabled : Bool)
    (sampleIntervalTicks : UInt16) :
    Code.Holds Around (During lost holds)
      (.performAll (beginReport interruptsEnabled sampleIntervalTicks) :
        Main Unit)
      fun _ => During lost holds := by
  apply holds_aside lasting
  simp only [beginReport, List.forall_mem_cons, List.not_mem_nil, false_imp_iff,
    implies_true, and_true]
  refine ⟨fun _ => ⟨rfl, rfl⟩, fun _ => ⟨rfl, rfl⟩, fun platform => ⟨rfl, ?_⟩⟩
  dsimp only
  split <;> rfl

/-- A capture that is activated and synchronised ends truthfully. -/
theorem holds_captureOnce_truthful
    (burst : pulses ≠ 0)
    (bus : Bus)
    (sampleIntervalTicks burstPeriodTicks : UInt16) :
    Code.Holds Around
      (Resting fun account said => Begun target pulses account ∧
        said.lost = false)
      (captureOnce bus sampleIntervalTicks burstPeriodTicks)
      fun result => Resting (Ended target pulses result) := by
  have beginning :=
    stable_resting fun account said => Begun target pulses account ∧
      said.lost = false
  refine .look beginning fun platform here => ?_
  have active : platform.engine.captureActive = true := here.2.1.1
  split
  · refine fun _ reaches => (stable_resting _).reaches reaches ⟨here.1, ?_⟩
    exact ended_of_begun here.2.1
  · refine Code.Holds.bind (holds_clearCapture burst) (fun _ => ?_) platform here
    refine .bind (.request lasting_emptied.stable) fun signals => ?_
    refine .bind (holds_beginReport lasting_emptied _ _) fun _ => ?_
    refine .bind holds_prepareAdcDmaCapturePath fun prepared => ?_
    split
    · next ready =>
        refine .imp (?_ : Code.Holds Around
            (During false (Ready target pulses)) _ _)
          (fun _ here => ⟨⟨here.1.1, here.1.2 ready⟩, here.2⟩) fun _ _ => id
        refine .bind (holds_configureBurstOutputs _) fun _ => ?_
        refine .bind (holds_configureSampling _) fun _ => ?_
        refine .bind holds_triggerCapture fun triggered => ?_
        cases triggered with
        | true =>
            refine .bind (.perform lasting_running.stable lasting_running.stable
              fun _ here => ⟨⟨{ here.1.1 with }, here.1.2.1, here.1.2.2,
                here.1.2.3⟩, here.2⟩) fun _ => ?_
            refine .bind (holds_awaitSamples lasting_running) fun _ => ?_
            exact holds_concludeCapture_running bus
        | false =>
            have lost :
                Stable Around (During true (Engine.Fresh target pulses)) :=
              lasting_begun.stable
            refine .bind (.perform lasting_ready.stable lost
              fun _ here => ⟨here.1.1, rfl⟩) fun _ => ?_
            exact holds_giveUp
    · refine .imp (?_ : Code.Holds Around
          (During false (Engine.Fresh target pulses)) _ _)
        (fun _ here => ⟨here.1.1, here.2⟩) fun _ _ => id
      refine .bind (.perform lasting_begun.stable lasting_begun.stable
        fun _ here => here) fun _ => ?_
      exact holds_giveUp

end Capture

end

end Platform

end Usac.Firmware
