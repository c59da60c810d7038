import Usac.Firmware.App
import Usac.Firmware.BurstPlan
import Usac.Firmware.Configurator
import Usac.Firmware.EventCapture
import Usac.Library.Interrupted

namespace Usac.Firmware

open Library Tuss4470

/-!
# The acquisition hardware

`usac_acquisition_platform_msp430.c` in its production build, and the two
functions of `usac_platform_msp430.c` that set the same registers. Every
statement of the main line that writes a register or a shared variable is one
action, and between any two of them the peripherals and the interrupts act.
What a DMA trigger finds in the converter, and what the main line finds on a
line or in a counter, is arbitrary. A USB bus error may interrupt the main line
anywhere, but no other interrupt.
-/

/-- The guarded number of timer quanta of `usac_sync_timeout_guarded_quanta`. -/
def syncTimeoutGuardedQuanta (timeoutMs : UInt32) : UInt16 :=
  if timeoutMs = 0 then
    0
  else
    ((timeoutMs * 32768 + 1000 * 320 - 1) / (1000 * 320)).toUInt16 + 1

/-- `CAPTURE_WAIT_LIMIT`. -/
def captureWaitLimit : Nat := 6000000

/-- A pin: its bits in the select, the output and the direction register. -/
structure Pin where
  selected : Bool
  high : Bool
  output : Bool
  deriving Repr, DecidableEq

/-- What a capture/compare unit does with its output. -/
inductive OutputMode where
  | off
  | resetSet
  | setReset
  deriving Repr, DecidableEq

/-- A channel of the DMA controller. Its size counts down to the last word of
the block. -/
structure DmaChannel where
  enabled : Bool
  interruptEnabled : Bool
  flagged : Bool
  size : Nat
  block : Nat
  deriving Repr, DecidableEq

/-- A channel that is triggered moves one word, if it is enabled. The last one
of a block disables it, raises its flag and reloads its size. -/
def DmaChannel.triggered (channel : DmaChannel) : DmaChannel :=
  if channel.enabled then
    if channel.size ≤ 1 then
      { channel with enabled := false, flagged := true, size := channel.block }
    else
      { channel with size := channel.size - 1 }
  else
    channel

/-- The sample timer, the burst timer and the DMA channels with the variables
their interrupts keep, and what has been seen of them since the capture began:
the words found at the DMA triggers, at how many of them a burst was started,
the burst periods, and those that ended before the interrupt of the one before
was served. -/
structure Engine where
  sampling : Bool
  bursting : Bool
  burstInterruptEnabled : Bool
  burstFlagged : Bool
  dma0 : DmaChannel
  dma1 : DmaChannel
  waveform : Waveform
  captureActive : Bool
  captureComplete : Bool
  captureDma0Completed : Bool
  captureBurstComplete : Bool
  captureTriggerSampleIndex : UInt16
  capturePretriggerTarget : UInt16
  captureBurstPeriodsRemaining : UInt8
  words : List UInt16
  bursts : List Nat
  periods : Nat
  late : Nat

/-- The registers of the acquisition and the variables of the file. The report
a capture fills is the one its events are recorded in. -/
structure Platform where
  io1 : Pin
  io2 : Pin
  syncMaster : Pin
  engine : Engine
  adcEnabled : Bool
  tb0Ccr0 : UInt16
  tb0Ccr1 : UInt16
  tb0Ccr2 : UInt16
  tb0Output1 : OutputMode
  ta2Ccr0 : UInt16
  ta2Ccr1 : UInt16
  ta2Ccr2 : UInt16
  ta2Output1 : OutputMode
  ta2Output2 : OutputMode
  captureBurstPlan : BurstPlan
  captureAuxFlags : UInt8
  captureTriggerSource : UInt8
  captureSyncTimeoutMs : UInt32
  captureSyncWaiting : Bool
  captureSyncWaitQuanta : UInt16
  events : EventCapture
  eventsArmed : Bool
  log : BusLog

/-- What the main line finds on a line or in a counter that nothing here
drives, and how often it polls before it is told to stop waiting. -/
structure Signals where
  interruptsEnabled : Bool
  adcBusy : Bool
  adcFlagged : Bool
  syncLow : Bool
  out3 : Bool
  out4 : Bool
  io2High : Bool
  tb0Counter : UInt16
  edge : Option UInt16
  overrun : Bool
  polls : Nat

/-- A statement of the main line or of an interrupt. -/
abbrev Platform.Action := Platform → Platform

/-- A piece of the main line. -/
abbrev Platform.Main (Result : Type) := Code Platform Signals Result

namespace Engine

/-- The waveform with one word stored, when the index is inside it. -/
def store (waveform : Waveform) (index : Nat) (word : UInt16) : Waveform :=
  if bound : index < captureSampleCount then
    waveform.set ⟨index, bound⟩ word
  else
    waveform

/-- A trigger of the sample timer, with the word in the converter: the first
channel stores it in the waveform, the second one counts it. -/
def trigger (engine : Engine) (word : UInt16) : Engine :=
  if engine.sampling then
    { engine with
      words := engine.words ++ [word]
      waveform :=
        if engine.dma0.enabled then
          store engine.waveform (engine.dma0.block - engine.dma0.size) word
        else
          engine.waveform
      dma0 := engine.dma0.triggered
      dma1 := engine.dma1.triggered }
  else
    engine

/-- The burst timer ends a period. -/
def endPeriod (engine : Engine) : Engine :=
  if engine.bursting then
    { engine with
      burstFlagged := true
      periods := engine.periods + 1
      late := engine.late + engine.burstFlagged.toNat }
  else
    engine

end Engine

namespace Platform

/-- An action on the engine alone. -/
def onEngine (change : Engine → Engine) : Action := fun platform =>
  { platform with engine := change platform.engine }

/-- An action on the report of the capture. -/
def onReport (change : CaptureReport → CaptureReport) : Action :=
  fun platform =>
    { platform with
      events := { platform.events with report := change platform.events.report } }

/-- Some actions, one after the other. -/
def applyAll (actions : List Action) : Action := fun platform =>
  actions.foldl (fun platform action => action platform) platform

/-! ## Single statements -/

/-- `P2OUT |= TUSS_IO1_BIT | TUSS_IO2_BIT`. -/
def raiseBoth : Action := fun platform =>
  { platform with
    io1 := { platform.io1 with high := true }
    io2 := { platform.io2 with high := true } }

/-- `P2DIR |= TUSS_IO1_BIT | TUSS_IO2_BIT`. -/
def driveBoth : Action := fun platform =>
  { platform with
    io1 := { platform.io1 with output := true }
    io2 := { platform.io2 with output := true } }

/-- `P2SEL &= ~(TUSS_IO1_BIT | TUSS_IO2_BIT)`. -/
def detachBoth : Action := fun platform =>
  { platform with
    io1 := { platform.io1 with selected := false }
    io2 := { platform.io2 with selected := false } }

/-- `P2OUT |= TUSS_IO2_BIT`. -/
def raiseIo2 : Action := fun platform =>
  { platform with io2 := { platform.io2 with high := true } }

/-- `P2DIR |= TUSS_IO2_BIT`. -/
def driveIo2 : Action := fun platform =>
  { platform with io2 := { platform.io2 with output := true } }

/-- `P2SEL &= ~TUSS_IO2_BIT`. -/
def detachIo2 : Action := fun platform =>
  { platform with io2 := { platform.io2 with selected := false } }

/-- `P2SEL |= TUSS_IO2_BIT`. -/
def attachIo2 : Action := fun platform =>
  { platform with io2 := { platform.io2 with selected := true } }

/-- `P2DIR &= ~TUSS_IO1_BIT`. -/
def releaseIo1 : Action := fun platform =>
  { platform with io1 := { platform.io1 with output := false } }

/-- `TA2CTL = TACLR`. -/
def stopBurst : Action :=
  onEngine ({ · with bursting := false })

/-- `TA2CTL = TASSEL_2 | MC_1 | TACLR`. -/
def runBurst : Action :=
  onEngine fun engine =>
    { engine with
      bursting := true
      bursts := engine.bursts ++ [engine.words.length] }

/-- `TA2CCTL0 = 0`. -/
def clearBurst : Action :=
  onEngine ({ · with burstInterruptEnabled := false, burstFlagged := false })

/-- `TA2CCTL0 = CCIE`. -/
def enableBurst : Action :=
  onEngine ({ · with burstInterruptEnabled := true, burstFlagged := false })

/-- `TA2CCTL1`. -/
def setOutput1 (mode : OutputMode) : Action := fun platform =>
  { platform with ta2Output1 := mode }

/-- `TA2CCTL2`. -/
def setOutput2 (mode : OutputMode) : Action := fun platform =>
  { platform with ta2Output2 := mode }

/-- `TB0CTL = TBCLR`. -/
def stopSampling : Action :=
  onEngine ({ · with sampling := false })

/-- `TB0CTL = TBSSEL_2 | MC_1 | TBCLR`. -/
def runSampling : Action :=
  onEngine ({ · with sampling := true })

/-- `TB0CCTL1`. -/
def setSampleOutput (mode : OutputMode) : Action := fun platform =>
  { platform with tb0Output1 := mode }

/-- `TB0CCR2`. -/
def setSampleTrigger (tick : UInt16) : Action := fun platform =>
  { platform with tb0Ccr2 := tick }

/-- `ADC12CTL0 &= ~ADC12ENC`, and `ADC12CTL0 = 0`. -/
def disableAdc : Action := fun platform =>
  { platform with adcEnabled := false }

/-- `ADC12CTL0 |= ADC12ENC`. -/
def enableAdc : Action := fun platform =>
  { platform with adcEnabled := true }

/-- `DMA0CTL &= ~(DMAEN | DMAIE)`. -/
def stopDma0 : Action :=
  onEngine fun engine =>
    { engine with
      dma0 := { engine.dma0 with enabled := false, interruptEnabled := false } }

/-- `DMA1CTL &= ~(DMAEN | DMAIE)`. -/
def stopDma1 : Action :=
  onEngine fun engine =>
    { engine with
      dma1 := { engine.dma1 with enabled := false, interruptEnabled := false } }

/-- `DMA0CTL`, with its enable and its interrupt bit alike. -/
def setDma0 (enabled : Bool) : Action :=
  onEngine fun engine =>
    { engine with
      dma0 :=
        { engine.dma0 with
          enabled := enabled
          interruptEnabled := enabled
          flagged := false } }

/-- `DMA1CTL`, with its enable and its interrupt bit alike. -/
def setDma1 (enabled : Bool) : Action :=
  onEngine fun engine =>
    { engine with
      dma1 :=
        { engine.dma1 with
          enabled := enabled
          interruptEnabled := enabled
          flagged := false } }

/-- `capture_complete = 1`. -/
def completeCapture : Action :=
  onEngine ({ · with captureComplete := true })

/-- `capture_events_stop`, while a configurable capture is active. -/
def stopEvents : Action := fun platform =>
  { platform with
    events :=
      { platform.events with
        eventFlags :=
          if platform.engine.captureActive then
            0
          else
            platform.events.eventFlags }
    eventsArmed := platform.eventsArmed && !platform.engine.captureActive }

/-! ## Statement lists that interrupts share with the main line -/

/-- `restore_io2_high_and_stop_timers`. -/
def restoreIo2HighAndStopTimers : List Action :=
  [stopBurst, clearBurst, setOutput1 .off, setOutput2 .off, detachBoth,
    raiseBoth, driveBoth]

/-- The part of `stop_capture_hardware` before the timers. -/
def stopAcquisition : List Action :=
  [stopSampling, setSampleOutput .off, setSampleTrigger 0, stopDma0, stopDma1,
    disableAdc, stopEvents]

/-- `stop_capture_hardware`. -/
def stopCaptureHardware : List Action :=
  stopAcquisition ++ restoreIo2HighAndStopTimers

/-- `usac_platform_enter_reset_safe`. -/
def enterResetSafe : List Action :=
  [raiseIo2, detachBoth, releaseIo1, driveIo2, setOutput1 .off, setOutput2 .off,
    stopBurst, stopSampling, setDma0 false, setDma1 false, disableAdc]

/-- The first statement of `start_burst_outputs`. -/
def enableIo1 : Action := fun platform =>
  { platform with
    io1 :=
      { platform.io1 with
        high :=
          platform.io1.high &&
            platform.captureBurstPlan.actionFlags &&& BurstPlan.useIo1Enable
              == 0 } }

/-- The second statement of `start_burst_outputs`. -/
def attachOutputs : Action := fun platform =>
  { platform with
    io1 :=
      { platform.io1 with
        selected :=
          platform.io1.selected ||
            platform.captureBurstPlan.actionFlags &&& BurstPlan.useIo1Timer
              != 0 }
    io2 := { platform.io2 with selected := true } }

/-- `start_burst_outputs`. -/
def startBurstOutputs : List Action :=
  [enableIo1, attachOutputs, runBurst]

/-! ## Interrupts and peripherals -/

/-- The branch of `DMA_ISR` for the first channel. -/
def waveformFilled : List Action :=
  [onEngine fun engine =>
      { engine with dma0 := { engine.dma0 with flagged := false } },
    stopSampling, disableAdc,
    onEngine ({ · with captureDma0Completed := true }), completeCapture]

/-- The branch of `DMA_ISR` for the second channel, before it starts the
burst. -/
def triggerReached : List Action :=
  [onEngine fun engine =>
      { engine with dma1 := { engine.dma1 with flagged := false } },
    onEngine fun engine =>
      { engine with
        captureTriggerSampleIndex := engine.capturePretriggerTarget }]

/-- The burst the second channel starts. -/
def startBurst : Action := fun platform =>
  if platform.engine.captureActive then
    applyAll startBurstOutputs platform
  else
    applyAll [attachIo2, runBurst] platform

/-- `DMA_ISR`, with the flag of the highest priority that is pending. -/
def dmaIsr : Action := fun platform =>
  if platform.engine.dma0.flagged && platform.engine.dma0.interruptEnabled then
    applyAll waveformFilled platform
  else if
      platform.engine.dma1.flagged && platform.engine.dma1.interruptEnabled then
    startBurst (applyAll triggerReached platform)
  else
    platform

/-- The default branch of `DMA_ISR`. -/
def dmaIsrDefault : Action :=
  applyAll (stopCaptureHardware ++ [completeCapture])

/-- The end of a burst in `TIMER2_A0_ISR`. -/
def burstEnded : List Action :=
  [stopBurst, clearBurst, setOutput1 .off, setOutput2 .off, detachBoth,
    raiseBoth, driveBoth] ++
  [onEngine ({ · with captureBurstComplete := true })]

/-- A burst period in `TIMER2_A0_ISR` that is not the last one. -/
def countPeriod : Action :=
  onEngine fun engine =>
    { engine with
      burstFlagged := false
      captureBurstPeriodsRemaining := engine.captureBurstPeriodsRemaining - 1 }

/-- `TIMER2_A0_ISR`. -/
def timer2A0Isr : Action := fun platform =>
  if platform.engine.burstFlagged && platform.engine.burstInterruptEnabled then
    if platform.engine.captureActive &&
        decide (platform.engine.captureBurstPeriodsRemaining > 1) then
      countPeriod platform
    else
      applyAll burstEnded platform
  else
    platform

/-- `TIMER0_A1_ISR`. Its sources are off while no report is armed. -/
def timer0A1Isr (pending : EventCapture.Interrupt) : Action := fun platform =>
  if platform.eventsArmed then
    { platform with events := platform.events.interrupt pending }
  else
    platform

/-- `usac_platform_on_aclk_quantum`. -/
def onAclkQuantum : Action := fun platform =>
  if platform.captureSyncWaiting && platform.captureSyncWaitQuanta != 0xFFFF then
    { platform with captureSyncWaitQuanta := platform.captureSyncWaitQuanta + 1 }
  else
    platform

/-- What happens around the main line. -/
inductive Disturbance where
  | trigger (word : UInt16)
  | endPeriod
  | dma
  | dmaDefault
  | timer2A0
  | timer0A1 (pending : EventCapture.Interrupt)
  | quantum
  | busError

/-- The effect of a disturbance. -/
def disturb : Disturbance → Action
  | .trigger word => onEngine (·.trigger word)
  | .endPeriod => onEngine (·.endPeriod)
  | .dma => dmaIsr
  | .dmaDefault => dmaIsrDefault
  | .timer2A0 => timer2A0Isr
  | .timer0A1 pending => timer0A1Isr pending
  | .quantum => onAclkQuantum
  | .busError => applyAll enterResetSafe

/-- One disturbance happens. -/
def Around (before after : Platform) : Prop :=
  ∃ disturbance, after = disturb disturbance before

/-! ## The main line -/

/-- An operation on the bus, which no interrupt uses. -/
def useBus {Result : Type} (operation : Operation Result) : Main Result := do
  let platform ← .read
  .perform ({ · with log := (operation platform.log).2 })
  pure (operation platform.log).1

/-- The loop of `prepare_adc_dma_capture_path` over the busy bit. -/
def awaitAdcIdle : Nat → Main Bool
  | 0 => do
      let signals ← .request
      pure !signals.adcBusy
  | waits + 1 => do
      let signals ← .request
      if signals.adcBusy then
        awaitAdcIdle waits
      else
        pure true

/-- The statements that set up the two channels. -/
def setUpDma : List Action :=
  [onEngine fun engine =>
      { engine with
        dma0 :=
          { engine.dma0 with
            size := captureSampleCount
            block := captureSampleCount } },
    setDma0 true,
    onEngine fun engine =>
      { engine with
        dma1 :=
          { engine.dma1 with
            size := engine.capturePretriggerTarget.toNat
            block := engine.capturePretriggerTarget.toNat } },
    fun platform =>
      setDma1 (platform.engine.capturePretriggerTarget != 0) platform]

/-- `prepare_adc_dma_capture_path`. -/
def prepareAdcDmaCapturePath : Main Bool := do
  .performAll [stopSampling, setDma0 false, setDma1 false, disableAdc]
  if ← awaitAdcIdle captureWaitLimit then
    .performAll setUpDma
    pure true
  else
    pure false

/-- `configure_burst_outputs`, for the plan of the capture. -/
def configureBurstOutputs (plan : BurstPlan) : List Action :=
  [raiseBoth, driveBoth, detachBoth, stopBurst,
    ({ · with ta2Ccr0 := plan.periodTicks - 1 }),
    enableBurst, setOutput1 .off, setOutput2 .off] ++
  if plan.actionFlags &&& BurstPlan.useIo1Timer ≠ 0 then
    [({ · with ta2Ccr1 := plan.io1FallTick }),
      ({ · with ta2Ccr2 := plan.io2RiseTick }),
      setOutput1 .resetSet, setOutput2 .setReset]
  else
    [({ · with ta2Ccr2 := plan.periodTicks / 2 }), setOutput2 .resetSet]

/-- The outputs of a capture that is not a configurable one. -/
def configureDefaultOutputs (burstPeriodTicks : UInt16) : List Action :=
  [raiseIo2, driveIo2, detachIo2, stopBurst,
    ({ · with ta2Ccr0 := burstPeriodTicks - 1 }),
    ({ · with ta2Ccr2 := burstPeriodTicks / 2 }),
    enableBurst, setOutput2 .resetSet]

/-- The sample timer and the converter. -/
def configureSampling (sampleIntervalTicks : UInt16) : List Action :=
  [stopSampling, ({ · with tb0Ccr0 := sampleIntervalTicks - 1 }),
    ({ · with tb0Ccr1 := 1 }), setSampleOutput .setReset,
    setSampleTrigger 111, enableAdc]

/-- `prepare_sync_pin`, as far as it drives the pin of the master. -/
def prepareSyncPin (triggerSource : UInt8) : List Action :=
  if triggerSource = 2 then
    [fun platform =>
        { platform with
          syncMaster := { platform.syncMaster with selected := false } },
      fun platform =>
        { platform with
          syncMaster := { platform.syncMaster with high := false } },
      fun platform =>
        { platform with
          syncMaster := { platform.syncMaster with output := true } }]
  else
    []

/-- `finish_sync_pin`. -/
def finishSyncPin (triggerSource : UInt8) : List Action :=
  if triggerSource = 2 then
    [fun platform =>
      { platform with
        syncMaster := { platform.syncMaster with high := false } }]
  else
    []

/-- The loop of `wait_for_slave_sync`. It may never end: then the polls run
out, and the main line waits for ever. -/
def pollSync (timeoutQuanta : UInt16) : Nat → Bool → Main Bool
  | 0, _ => .hang
  | polls + 1, sawLow => do
      let platform ← .read
      if platform.captureSyncWaitQuanta < timeoutQuanta then
        let signals ← .request
        if signals.syncLow then
          pollSync timeoutQuanta polls true
        else if sawLow then
          .perform ({ · with captureSyncWaiting := false })
          pure true
        else
          pollSync timeoutQuanta polls sawLow
      else
        .perform ({ · with captureSyncWaiting := false })
        pure false

/-- `wait_for_slave_sync`. -/
def waitForSlaveSync (timeoutMs : UInt32) : Main Bool := do
  let signals ← .request
  if syncTimeoutGuardedQuanta timeoutMs = 0 then
    pure false
  else
    .performAll [({ · with captureSyncWaitQuanta := 0 }),
      ({ · with captureSyncWaiting := true })]
    pollSync (syncTimeoutGuardedQuanta timeoutMs) signals.polls signals.syncLow

/-- `capture_events_start`. -/
def startEvents (signals : Signals) : Action := fun platform =>
  { platform with events := platform.events.start signals.out3 signals.out4 }

/-- The loop over `capture_complete`. -/
def awaitComplete : Nat → Main Unit
  | 0 => pure ()
  | waits + 1 => do
      let platform ← .read
      if platform.engine.captureComplete then
        pure ()
      else
        awaitComplete waits

/-- A diagnostic flag that is raised when the register says so. -/
def diagnose (flag : UInt16) (raised : Platform → Bool) : Action :=
  fun platform =>
    onReport (fun report =>
      { report with
        diagnosticFlags :=
          if raised platform then
            report.diagnosticFlags ||| flag
          else
            report.diagnosticFlags })
      platform

/-- The snapshot of a capture that did not complete in time. -/
def diagnoseTimeout (signals : Signals) : List Action :=
  [onReport ({ · with timedOut := true }),
    onReport ({ · with diagnosticTimerTick := signals.tb0Counter }),
    diagnose 0x0002 (·.engine.sampling),
    diagnose 0x0004 (·.adcEnabled),
    diagnose 0x0008 fun _ => signals.adcFlagged,
    diagnose 0x0010 (·.engine.dma0.enabled),
    diagnose 0x0020 (·.engine.dma0.flagged),
    diagnose 0x0040 (·.engine.dma1.flagged),
    diagnose 0x0080 (·.engine.captureBurstComplete)]

/-- The variables a capture clears first. -/
def clearCapture : List Action :=
  [onEngine ({ · with captureComplete := false }),
    onEngine ({ · with captureDma0Completed := false }),
    onEngine ({ · with captureBurstComplete := false }),
    onEngine ({ · with captureTriggerSampleIndex := 0 })]

/-- The diagnostic fields and the events of a capture that begins. -/
def beginReport
    (interruptsEnabled : Bool)
    (sampleIntervalTicks : UInt16) :
    List Action :=
  [onReport ({ · with diagnosticFlags := if interruptsEnabled then 1 else 0 }),
    onReport ({ · with diagnosticTimerTick := 0 }),
    fun platform =>
      { platform with
        events :=
          if platform.engine.captureActive then
            .arm platform.captureAuxFlags sampleIntervalTicks
              platform.events.report
          else
            { platform.events with
              report :=
                { platform.events.report with
                  out3StartLevel := 0xFF
                  out4StartLevel := 0xFF } }
        eventsArmed := platform.eventsArmed || platform.engine.captureActive }]

/-- What the report says about the samples. -/
def reportSamples : List Action :=
  [fun platform =>
      onReport ({ · with
        dmaRemaining :=
          if platform.engine.captureDma0Completed then
            0
          else
            .ofNat platform.engine.dma0.size
        capturedSamples :=
          if platform.engine.captureDma0Completed then
            .ofNat captureSampleCount
          else
            .ofNat (captureSampleCount - platform.engine.dma0.size) })
        platform,
    fun platform =>
      onReport ({ · with
        triggerSampleIndex := platform.engine.captureTriggerSampleIndex })
        platform,
    fun platform =>
      onReport ({ · with
        burstCompleted := platform.engine.captureBurstComplete })
        platform]

/-- The status register, at the end of a capture. -/
def reportStatus (bus : Bus) : Main Unit := do
  let (result, devStat) ← useBus (readRegister bus devStatRegister)
  .perform (onReport ({ · with tussDevStat := devStat }))
  if result ≠ .ok ∨ devStat &&& faultMask ≠ 0 then
    .perform (onReport ({ · with hardwareFault := true }))
  else
    pure ()

/-- The timing that `usac_platform_capture_once` accepts. -/
def acceptsTiming
    (captureActive : Bool)
    (sampleIntervalTicks burstPeriodTicks : UInt16) :
    Bool :=
  if captureActive then
    decide (120 ≤ sampleIntervalTicks ∧ sampleIntervalTicks ≤ 960 ∧
      24 ≤ burstPeriodTicks ∧ burstPeriodTicks ≤ 800)
  else
    sampleIntervalTicks == 120 && burstPeriodTicks == 50

/-- `usac_capture_report_is_default_complete`. -/
def isDefaultComplete (report : CaptureReport) : Bool :=
  report.isComplete 64

/-- The end of `usac_platform_capture_once`, from the stop on. -/
def concludeCapture (bus : Bus) : Main Bool := do
  .performAll stopCaptureHardware
  .performAll reportSamples
  reportStatus bus
  let platform ← .read
  if platform.engine.captureActive then
    pure (platform.events.report.isComplete
      platform.engine.capturePretriggerTarget)
  else
    pure (isDefaultComplete platform.events.report)

/-- The part of `usac_platform_capture_once` that waits for the samples. -/
def awaitSamples : Main Unit := do
  awaitComplete captureWaitLimit
  let platform ← .read
  if platform.engine.captureComplete then
    pure ()
  else
    .performAll (diagnoseTimeout (← .request))

/-- The wait of a slave, when the capture is one. -/
def synchronise (platform : Platform) : Main Bool :=
  if platform.engine.captureActive && platform.captureTriggerSource == 1 then
    waitForSlaveSync platform.captureSyncTimeoutMs
  else
    pure true

/-- `P2OUT |= SYNC_MASTER_OUTPUT_BIT`. -/
def raiseSync : Action := fun platform =>
  { platform with syncMaster := { platform.syncMaster with high := true } }

/-- The start of the events, and the edge of a master. -/
def publishTrigger (platform : Platform) : Main Unit :=
  if platform.engine.captureActive then do
    let signals ← .request
    .perform (startEvents signals)
    .performAll
      (if platform.captureTriggerSource = 2 then [raiseSync] else [])
  else
    pure ()

/-- The burst, when there is nothing to sample before it. -/
def burstAtOnce (platform : Platform) : Main Unit :=
  if platform.engine.capturePretriggerTarget = 0 then
    .performAll
      (onEngine ({ · with captureTriggerSampleIndex := 0 }) ::
        startBurstOutputs)
  else
    pure ()

/-- The trigger of a capture. -/
def triggerCapture : Main Bool := do
  let platform ← .read
  if ← synchronise platform then
    publishTrigger platform
    burstAtOnce platform
    pure true
  else
    pure false

/-- `usac_platform_capture_once`. -/
def captureOnce
    (bus : Bus)
    (sampleIntervalTicks burstPeriodTicks : UInt16) :
    Main Bool := do
  let platform ← .read
  if bus.read.isNone ∨
      acceptsTiming platform.engine.captureActive sampleIntervalTicks
        burstPeriodTicks = false then
    pure false
  else
    .performAll clearCapture
    .performAll
      (beginReport (← .request).interruptsEnabled sampleIntervalTicks)
    if ← prepareAdcDmaCapturePath then
      .performAll
        (if platform.engine.captureActive then
          configureBurstOutputs platform.captureBurstPlan
        else
          configureDefaultOutputs burstPeriodTicks)
      .performAll (configureSampling sampleIntervalTicks)
      if ← triggerCapture then
        .perform runSampling
        awaitSamples
        concludeCapture bus
      else
        .perform (onReport ({ · with syncTimedOut := true }))
        .performAll stopCaptureHardware
        pure false
    else
      .perform (onReport ({ · with timedOut := true }))
      .performAll stopCaptureHardware
      pure false

/-- The variables `usac_platform_capture` sets before the capture. -/
def activate
    (config : ConfigV2)
    (triggerSource : UInt8)
    (syncTimeoutMs : UInt32) :
    List Action :=
  [onEngine ({ · with capturePretriggerTarget := config.pretriggerCount }),
    onEngine ({ · with captureBurstPeriodsRemaining := config.pulseCount }),
    ({ · with captureAuxFlags := config.auxFlags }),
    ({ · with captureTriggerSource := triggerSource }),
    ({ · with captureSyncTimeoutMs := syncTimeoutMs }),
    onEngine ({ · with captureActive := true })]

/-- The variables `usac_platform_capture` clears behind the capture. -/
def deactivate : List Action :=
  [onEngine ({ · with captureActive := false }),
    ({ · with captureAuxFlags := 0 }),
    ({ · with captureTriggerSource := 0 }),
    ({ · with captureSyncTimeoutMs := 0 }),
    onEngine ({ · with captureBurstPeriodsRemaining := 0 })]

/-- A bus operation whose failure is a hardware fault. -/
def faultUnless (succeeded : Bool) : Main Unit :=
  if succeeded then
    pure ()
  else
    .perform (onReport ({ · with hardwareFault := true }))

/-- The write of the `CMD_TRIGGER` register. -/
def writeTof (bus : Bus) (value : UInt8) : Main Bool :=
  match bus.write with
  | none => pure false
  | some write =>
      useBus (Logged.perform (write · tofConfig value) (.write tofConfig value))

/-- `CMD_TRIGGER` is armed by a write that is read back; whether the write was
accepted, and whether the register has it. -/
def armCommandTrigger (bus : Bus) (base : UInt8) : Main (Bool × Bool) := do
  if ← writeTof bus (base ||| 0x01) then
    let (result, readback) ← useBus (readRegister bus tofConfig)
    pure (true, result == .ok && readback &&& 0x01 != 0)
  else
    pure (false, false)

/-- The register is put back, and read back. -/
def restoreTof (bus : Bus) (base : UInt8) : Main Bool := do
  if ← writeTof bus base then
    let (result, readback) ← useBus (readRegister bus tofConfig)
    pure (result == .ok && readback == base)
  else
    pure false

/-- The capture between the two states of the `CMD_TRIGGER` register: whether
it was armed, and the result. -/
def captureArmed
    (bus : Bus)
    (config : ConfigV2)
    (plan : BurstPlan) :
    Main (Bool × Bool) := do
  let capture :=
    captureOnce bus config.profile.sampleIntervalTicks
      config.profile.burstPeriodTicks
  if plan.actionFlags &&& BurstPlan.useCmdTrigger ≠ 0 then
    let (armed, accepted) ← armCommandTrigger bus (config.profile.value 9)
    faultUnless accepted
    if accepted then
      pure (armed, ← capture)
    else
      pure (armed, false)
  else
    pure (false, ← capture)

/-- The last part of `usac_platform_capture`. -/
def disarm (bus : Bus) (base : UInt8) (armed result : Bool) : Main Bool := do
  if armed then
    let restored ← restoreTof bus base
    faultUnless restored
    pure (restored && result)
  else
    pure result

/-- The report a capture is given, and nothing seen of it yet. -/
def beginCapture (report : CaptureReport) : Action := fun platform =>
  { platform with
    events := { platform.events with report := report }
    engine :=
      { platform.engine with words := [], bursts := [], periods := 0, late := 0 } }

/-- `usac_platform_capture`. -/
def capture
    (bus : Bus)
    (config : ConfigV2)
    (triggerSource : UInt8)
    (syncTimeoutMs : UInt32)
    (report : CaptureReport) :
    Main Bool := do
  .perform (beginCapture report)
  if bus.read.isNone ∨ bus.write.isNone then
    pure false
  else
    match config.prepareCapture triggerSource syncTimeoutMs with
    | none => pure false
    | some plan => do
        .perform ({ · with captureBurstPlan := plan })
        .performAll (prepareSyncPin triggerSource)
        .performAll (activate config triggerSource syncTimeoutMs)
        let (armed, result) ← captureArmed bus config plan
        .performAll (finishSyncPin triggerSource)
        let result ← disarm bus (config.profile.value 9) armed result
        .performAll deactivate
        pure result

end Platform

end Usac.Firmware
