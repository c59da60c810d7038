import Usac.Firmware.Loopback

namespace Usac.Firmware

open Library Tuss4470

/-!
# What every job of the acquisition leaves behind

However the peripherals and the interrupts interleave with the main line, the
acquisition hardware is quiet between two of its jobs: nothing samples, the
burst timer is off, and no burst output is driven low. A job ends with a list
of statements that removes one hazard after the other, and an interrupt brings
back none whose cause is gone.
-/

/-- What must not be left behind. The first output may be an input instead of
being high; whether it has been raised matters only while it is one. -/
inductive Hazard where
  | sampling
  | dma0
  | dma0Interrupt
  | dma1
  | dma1Interrupt
  | converter
  | bursting
  | burstFlag
  | io1Timed
  | io1Unraised
  | io1Low
  | io2Timed
  | io2Unraised
  | io2Undriven
  deriving Repr, DecidableEq

namespace Hazard

/-- The hazard without which no disturbance brings this one about. -/
def cause : Hazard → Option Hazard
  | burstFlag => some bursting
  | bursting | io1Timed | io1Unraised | io1Low | io2Timed => some dma1Interrupt
  | _ => none

/-- Every hazard comes with its cause. -/
def Closed (hazards : List Hazard) : Prop :=
  ∀ hazard ∈ hazards, ∀ cause, hazard.cause = some cause → cause ∈ hazards

instance (hazards : List Hazard) : Decidable (Closed hazards) :=
  decidable_of_iff
    (∀ hazard ∈ hazards, hazard.cause.all (· ∈ hazards) = true) (by
      unfold Closed
      refine forall₂_congr fun hazard _ => ?_
      cases hazard.cause <;> simp)

/-- Nothing samples. -/
def acquisition : List Hazard :=
  [sampling, dma0, dma0Interrupt, dma1, dma1Interrupt, converter]

/-- The hazards of a platform between two jobs. -/
def lasting : List Hazard :=
  acquisition ++
    [bursting, burstFlag, io1Timed, io1Low, io2Timed, io2Unraised, io2Undriven]

end Hazard

namespace Platform

/-- The hazards that are present. -/
def hazard (platform : Platform) : Hazard → Bool
  | .sampling => platform.engine.sampling
  | .dma0 => platform.engine.dma0.enabled
  | .dma0Interrupt => platform.engine.dma0.interruptEnabled
  | .dma1 => platform.engine.dma1.enabled
  | .dma1Interrupt => platform.engine.dma1.interruptEnabled
  | .converter => platform.adcEnabled
  | .bursting => platform.engine.bursting
  | .burstFlag => platform.engine.burstFlagged
  | .io1Timed => platform.io1.selected
  | .io1Unraised => !platform.io1.high
  | .io1Low => platform.io1.output && !platform.io1.high
  | .io2Timed => platform.io2.selected
  | .io2Unraised => !platform.io2.high
  | .io2Undriven => !platform.io2.output

/-- None of some hazards is present. -/
def Free (hazards : List Hazard) (platform : Platform) : Prop :=
  ∀ hazard ∈ hazards, platform.hazard hazard = false

/-- Nothing samples, the burst timer is off, and no burst output is low. -/
abbrev Quiet : Platform → Prop :=
  Free Hazard.lasting

/-- The action brings no hazard about. -/
def Calming (action : Action) : Prop :=
  ∀ platform hazard, (action platform).hazard hazard = true →
    platform.hazard hazard = true

/-! ## What a disturbance can bring about -/

/-- Calming actions, one after the other. -/
theorem Calming.applyAll
    {actions : List Action}
    (calming : ∀ action ∈ actions, Calming action) :
    Calming (Platform.applyAll actions) := by
  intro platform hazard raised
  induction actions generalizing platform with
  | nil => exact raised
  | cons action rest inductionHypothesis =>
      obtain ⟨first, others⟩ := List.forall_mem_cons.1 calming
      exact first _ _ (inductionHypothesis others _ raised)

/-- One list of actions after another. -/
theorem Calming.append
    {first second : List Action}
    (calmFirst : Calming (Platform.applyAll first))
    (calmSecond : Calming (Platform.applyAll second)) :
    Calming (Platform.applyAll (first ++ second)) := by
  intro platform hazard raised
  simp only [Platform.applyAll, List.foldl_append] at raised
  exact calmFirst _ _ (calmSecond _ _ raised)

/-- The statements that stop the samples bring no hazard about. -/
theorem calming_of_mem_stopAcquisition :
    ∀ action ∈ stopAcquisition, Calming action := by
  simp only [stopAcquisition, List.forall_mem_cons, List.not_mem_nil,
    false_imp_iff, implies_true, and_true]
  refine ⟨?_, ?_, ?_, ?_, ?_, ?_, ?_⟩ <;> intro platform hazard <;>
    cases hazard <;> first | exact id | exact fun raised => nomatch raised

/-- Neither do those of the reset-safe state. -/
theorem calming_of_mem_enterResetSafe :
    ∀ action ∈ enterResetSafe, Calming action := by
  simp only [enterResetSafe, List.forall_mem_cons, List.not_mem_nil,
    false_imp_iff, implies_true, and_true]
  refine ⟨?_, ?_, ?_, ?_, ?_, ?_, ?_, ?_, ?_, ?_, ?_⟩ <;>
    intro platform hazard <;> cases hazard <;>
    first | exact id | exact fun raised => nomatch raised

/-- The statements that put the outputs back bring no hazard about together:
they raise an output before they drive it. -/
theorem calming_restoreIo2HighAndStopTimers :
    Calming (Platform.applyAll restoreIo2HighAndStopTimers) := by
  intro platform hazard
  cases hazard <;> first | exact id | exact fun raised => nomatch raised

/-- The default branch of the DMA interrupt. -/
theorem calming_dmaIsrDefault : Calming dmaIsrDefault :=
  .append (.append (.applyAll calming_of_mem_stopAcquisition)
      calming_restoreIo2HighAndStopTimers)
    fun _ _ => id

/-- The end of a burst. -/
theorem calming_burstEnded : Calming (Platform.applyAll burstEnded) :=
  .append calming_restoreIo2HighAndStopTimers fun _ _ => id

/-- A trigger enables neither a channel nor its interrupt. -/
theorem triggered_enabled (channel : DmaChannel) :
    (channel.triggered.enabled = true → channel.enabled = true) ∧
      (channel.triggered.interruptEnabled = true →
        channel.interruptEnabled = true) := by
  unfold DmaChannel.triggered
  split_ifs with enabled last
  · exact ⟨fun _ => enabled, id⟩
  · exact ⟨id, id⟩
  · exact ⟨id, id⟩

/-- A DMA trigger. -/
theorem calming_trigger (word : UInt16) : Calming (onEngine (·.trigger word)) := by
  intro platform hazard
  simp only [onEngine, Engine.trigger]
  split
  · cases hazard with
    | dma0 => exact (triggered_enabled platform.engine.dma0).1
    | dma0Interrupt => exact (triggered_enabled platform.engine.dma0).2
    | dma1 => exact (triggered_enabled platform.engine.dma1).1
    | dma1Interrupt => exact (triggered_enabled platform.engine.dma1).2
    | _ => exact id
  · exact id

/-- The burst of the second channel brings about only hazards its interrupt
causes. -/
theorem hazard_of_startBurst
    {platform : Platform}
    {hazard : Hazard}
    (raised : (startBurst platform).hazard hazard = true) :
    platform.hazard hazard = true ∨
      hazard.cause = some .dma1Interrupt := by
  unfold startBurst at raised
  split at raised
  · cases hazard <;> first | exact .inr rfl | exact .inl raised
  · cases hazard <;> first | exact .inr rfl | exact .inl raised

/-- A disturbance brings about only hazards that are there already, or whose
cause is. -/
theorem hazard_of_disturb
    {platform : Platform}
    {disturbance : Disturbance}
    {hazard : Hazard}
    (raised : (disturb disturbance platform).hazard hazard = true) :
    platform.hazard hazard = true ∨
      ∃ cause, hazard.cause = some cause ∧ platform.hazard cause = true := by
  cases disturbance with
  | trigger word => exact .inl (calming_trigger word platform hazard raised)
  | endPeriod =>
      simp only [disturb, onEngine, Engine.endPeriod] at raised
      split at raised
      · next running =>
          cases hazard with
          | burstFlag => exact .inr ⟨.bursting, rfl, running⟩
          | _ => exact .inl raised
      · exact .inl raised
  | dma =>
      simp only [disturb, dmaIsr] at raised
      split_ifs at raised with filled reached
      · left
        cases hazard <;> first | exact raised | exact Bool.noConfusion raised
      · rcases hazard_of_startBurst raised with before | caused
        · left
          cases hazard <;> exact before
        · exact .inr ⟨_, caused, ((Bool.and_eq_true _ _).mp reached).2⟩
      · exact .inl raised
  | dmaDefault => exact .inl (calming_dmaIsrDefault platform hazard raised)
  | timer2A0 =>
      left
      simp only [disturb, timer2A0Isr] at raised
      split_ifs at raised with pending more
      · cases hazard <;> first | exact raised | exact Bool.noConfusion raised
      · exact calming_burstEnded platform hazard raised
      · exact raised
  | timer0A1 pending =>
      left
      simp only [disturb, timer0A1Isr] at raised
      split at raised
      · cases hazard <;> exact raised
      · exact raised
  | quantum =>
      left
      simp only [disturb, onAclkQuantum] at raised
      split at raised
      · cases hazard <;> exact raised
      · exact raised
  | busError =>
      exact .inl
        (Calming.applyAll calming_of_mem_enterResetSafe platform hazard raised)

/-- Hazards that come with their causes stay away. -/
theorem stable_free
    {hazards : List Hazard}
    (closed : Hazard.Closed hazards) :
    Stable Around (Free hazards) := by
  rintro platform _ ⟨disturbance, rfl⟩ free hazard member
  rw [Bool.eq_false_iff]
  intro raised
  rcases hazard_of_disturb raised with before | ⟨cause, caused, before⟩
  · exact Bool.eq_false_iff.1 (free hazard member) before
  · exact Bool.eq_false_iff.1 (free cause (closed hazard member cause caused))
      before

/-! ## Statements that bring nothing about -/

/-- A calming action keeps hazards away. -/
theorem Calming.free
    {action : Action}
    (calming : Calming action)
    {hazards : List Hazard}
    {platform : Platform}
    (free : Free hazards platform) :
    Free hazards (action platform) := by
  intro hazard member
  rw [Bool.eq_false_iff]
  intro raised
  exact Bool.eq_false_iff.1 (free hazard member)
    (calming platform hazard raised)

/-- Fewer hazards. -/
theorem Free.mono
    {hazards fewer : List Hazard}
    {platform : Platform}
    (free : Free hazards platform)
    (among : ∀ hazard ∈ fewer, hazard ∈ hazards) :
    Free fewer platform :=
  fun hazard member => free hazard (among hazard member)

/-- Calming statements keep hazards away. -/
theorem holds_calming
    {hazards : List Hazard}
    (closed : Hazard.Closed hazards)
    {actions : List Action}
    (calming : ∀ action ∈ actions, Calming action) :
    Code.Holds Around (Free hazards) (.performAll actions : Main Unit)
      fun _ => Free hazards :=
  .performAll (stable_free closed) fun action member _ free =>
    (calming action member).free free

/-- One calming statement. -/
theorem holds_calm
    {hazards : List Hazard}
    (closed : Hazard.Closed hazards)
    {action : Action}
    (calming : Calming action) :
    Code.Holds Around (Free hazards) (.perform action : Main Unit)
      fun _ => Free hazards :=
  .perform (stable_free closed) (stable_free closed) fun _ free =>
    calming.free free

/-- An operation on the bus. -/
theorem holds_useBus
    {hazards : List Hazard}
    (closed : Hazard.Closed hazards)
    {Result : Type}
    (operation : Operation Result) :
    Code.Holds Around (Free hazards) (useBus operation)
      fun _ => Free hazards := by
  refine .bind (.read (stable_free closed)) fun platform => ?_
  refine .bind (.imp (holds_calm closed ?_) (fun _ => And.right) fun _ _ => id)
    fun _ => .give (stable_free closed) fun _ => id
  exact fun platform hazard => by cases hazard <;> exact id

/-! ## Statements that remove hazards -/

/-- A statement that removes some hazards, and the others behind it. -/
theorem holds_removing
    {hazards : List Hazard}
    (removed : List Hazard)
    (closed : Hazard.Closed hazards)
    {action : Action}
    {rest : List Action}
    {after : Platform → Prop}
    (calming : Calming action)
    (removes :
      ∀ hazard ∈ removed, ∀ platform, (action platform).hazard hazard = false)
    (others :
      Code.Holds Around (Free (removed ++ hazards))
        (.performAll rest : Main Unit) fun _ => after) :
    Code.Holds Around (Free hazards)
      (.performAll (action :: rest) : Main Unit) fun _ => after := by
  refine .cons (Free (removed ++ hazards)) (stable_free closed) ?_ others
  intro platform free hazard member
  rcases List.mem_append.1 member with gone | away
  · exact removes hazard gone platform
  · exact calming.free free hazard away

/-- The samples are stopped, whatever goes on. -/
theorem holds_stopAcquisition :
    Code.Holds Around (fun _ => True) (.performAll stopAcquisition : Main Unit)
      fun _ => Free Hazard.acquisition := by
  have calming := calming_of_mem_stopAcquisition
  simp only [stopAcquisition, List.forall_mem_cons, List.not_mem_nil,
    false_imp_iff, implies_true, and_true] at calming
  obtain ⟨timer, output, trigger, dma0, dma1, adc, events⟩ := calming
  suffices stopped :
      Code.Holds Around (Free []) (.performAll stopAcquisition : Main Unit)
        fun _ => Free Hazard.acquisition from
    stopped.imp (fun _ _ _ member => absurd member List.not_mem_nil)
      fun _ _ => id
  refine holds_removing [.sampling] (by decide) timer
    (List.forall_mem_singleton.2 fun _ => rfl) ?_
  refine holds_removing [] (by decide) output (List.forall_mem_nil _) ?_
  refine holds_removing [] (by decide) trigger (List.forall_mem_nil _) ?_
  refine holds_removing [.dma0, .dma0Interrupt] (by decide) dma0
    (List.forall_mem_cons.2
      ⟨fun _ => rfl, List.forall_mem_singleton.2 fun _ => rfl⟩) ?_
  refine holds_removing [.dma1, .dma1Interrupt] (by decide) dma1
    (List.forall_mem_cons.2
      ⟨fun _ => rfl, List.forall_mem_singleton.2 fun _ => rfl⟩) ?_
  refine holds_removing [.converter] (by decide) adc
    (List.forall_mem_singleton.2 fun _ => rfl) ?_
  refine holds_removing [] (by decide) events (List.forall_mem_nil _) ?_
  exact .give (stable_free (by decide)) fun _ free => free.mono (by decide)

/-- The statements that put the outputs back, but for the last one, bring
nothing about. -/
theorem calming_of_mem_restore :
    ∀ action ∈ [stopBurst, clearBurst, setOutput1 .off, setOutput2 .off,
      detachBoth, raiseBoth], Calming action := by
  simp only [List.forall_mem_cons, List.not_mem_nil, false_imp_iff,
    implies_true, and_true]
  refine ⟨?_, ?_, ?_, ?_, ?_, ?_⟩ <;> intro platform hazard <;>
    cases hazard <;>
    first
    | exact id
    | exact fun raised => Bool.noConfusion raised
    | simp [Platform.hazard, raiseBoth]

/-- Once nothing samples, the outputs are put back for good. -/
theorem holds_restoreIo2HighAndStopTimers :
    Code.Holds Around (Free Hazard.acquisition)
      (.performAll restoreIo2HighAndStopTimers : Main Unit) fun _ => Quiet := by
  have calming := calming_of_mem_restore
  simp only [List.forall_mem_cons, List.not_mem_nil, false_imp_iff,
    implies_true, and_true] at calming
  obtain ⟨burst, flag, output1, output2, detach, raise⟩ := calming
  refine holds_removing [.bursting] (by decide) burst
    (List.forall_mem_singleton.2 fun _ => rfl) ?_
  refine holds_removing [.burstFlag] (by decide) flag
    (List.forall_mem_singleton.2 fun _ => rfl) ?_
  refine holds_removing [] (by decide) output1 (List.forall_mem_nil _) ?_
  refine holds_removing [] (by decide) output2 (List.forall_mem_nil _) ?_
  refine holds_removing [.io1Timed, .io2Timed] (by decide) detach
    (List.forall_mem_cons.2
      ⟨fun _ => rfl, List.forall_mem_singleton.2 fun _ => rfl⟩) ?_
  refine holds_removing [.io1Unraised, .io2Unraised] (by decide) raise
    (List.forall_mem_cons.2
      ⟨fun _ => rfl, List.forall_mem_singleton.2 fun _ => rfl⟩) ?_
  -- Driving the outputs is safe because they have just been raised.
  refine .cons Quiet (stable_free (by decide)) ?_
    (.give (stable_free (by decide)) fun _ => id)
  intro platform free hazard member
  have raised : platform.hazard .io1Unraised = false := free _ (by decide)
  have before := free hazard
  cases hazard <;> first | exact raised | rfl | exact before (by decide)

/-! ## Quietness -/

/-- Quietness lasts. -/
theorem stable_quiet : Stable Around Quiet :=
  stable_free (by decide)

/-- A change of the report. -/
theorem calming_onReport (change : CaptureReport → CaptureReport) :
    Calming (onReport change) := by
  intro platform hazard
  cases hazard <;> exact id

end Platform

end Usac.Firmware
