import Usac.Firmware.AcquisitionSafety

namespace Usac.Firmware

open Library Tuss4470

/-!
# The samples and the burst of a capture

What the timers, the DMA channels and their interrupts keep true of each other
from the moment a capture clears its variables: the waveform holds the words
found at the first triggers in their order, the burst starts once and not
before the trigger, and its periods are counted one by one, but for those that
ended while an interrupt was still pending.
-/

namespace Engine

/-- What a capture is judged by. -/
structure Account where
  captureActive : Bool
  target : UInt16
  remaining : UInt8
  dma0Completed : Bool
  burstComplete : Bool
  left : Nat
  waveform : Waveform
  words : List UInt16
  bursts : List Nat
  periods : Nat
  late : Nat

/-- The account of an engine. -/
def account (engine : Engine) : Account where
  captureActive := engine.captureActive
  target := engine.capturePretriggerTarget
  remaining := engine.captureBurstPeriodsRemaining
  dma0Completed := engine.captureDma0Completed
  burstComplete := engine.captureBurstComplete
  left := engine.dma0.size
  waveform := engine.waveform
  words := engine.words
  bursts := engine.bursts
  periods := engine.periods
  late := engine.late

/-- The engine after the default branch of the DMA interrupt. -/
def halted (engine : Engine) : Engine :=
  { engine with
    sampling := false
    dma0 := { engine.dma0 with enabled := false, interruptEnabled := false }
    dma1 := { engine.dma1 with enabled := false, interruptEnabled := false }
    bursting := false
    burstInterruptEnabled := false
    burstFlagged := false
    captureComplete := true }

/-- The engine in the reset-safe state. -/
def reset (engine : Engine) : Engine :=
  { engine with
    bursting := false
    sampling := false
    dma0 :=
      { engine.dma0 with
        enabled := false
        interruptEnabled := false
        flagged := false }
    dma1 :=
      { engine.dma1 with
        enabled := false
        interruptEnabled := false
        flagged := false } }

/-- What a disturbance does to the engine. -/
inductive Disturbed (engine : Engine) : Engine → Prop where
  | unchanged : Disturbed engine engine
  | trigger (word : UInt16) : Disturbed engine (engine.trigger word)
  | endPeriod : Disturbed engine engine.endPeriod
  | filled
      (flagged : engine.dma0.flagged = true)
      (enabled : engine.dma0.interruptEnabled = true) :
      Disturbed engine
        { engine with
          dma0 := { engine.dma0 with flagged := false }
          sampling := false
          captureDma0Completed := true
          captureComplete := true }
  | reached
      (flagged : engine.dma1.flagged = true)
      (enabled : engine.dma1.interruptEnabled = true) :
      Disturbed engine
        { engine with
          dma1 := { engine.dma1 with flagged := false }
          captureTriggerSampleIndex := engine.capturePretriggerTarget
          bursting := true
          bursts := engine.bursts ++ [engine.words.length] }
  | halted : Disturbed engine engine.halted
  | counted
      (flagged : engine.burstFlagged = true)
      (more : engine.captureBurstPeriodsRemaining > 1) :
      Disturbed engine
        { engine with
          burstFlagged := false
          captureBurstPeriodsRemaining :=
            engine.captureBurstPeriodsRemaining - 1 }
  | ended
      (flagged : engine.burstFlagged = true)
      (last :
        engine.captureActive = true →
          ¬engine.captureBurstPeriodsRemaining > 1) :
      Disturbed engine
        { engine with
          bursting := false
          burstInterruptEnabled := false
          burstFlagged := false
          captureBurstComplete := true }
  | reset : Disturbed engine engine.reset

end Engine

namespace Platform

/-- The statements that stop a capture, for the engine. -/
theorem engine_dmaIsrDefault (platform : Platform) :
    (dmaIsrDefault platform).engine = platform.engine.halted := by
  rfl

/-- Every disturbance does one of these to the engine. -/
theorem disturbed_of_disturb
    (platform : Platform)
    (disturbance : Disturbance) :
    platform.engine.Disturbed (disturb disturbance platform).engine := by
  cases disturbance with
  | trigger word => exact .trigger word
  | endPeriod => exact .endPeriod
  | dma =>
      simp only [disturb, dmaIsr]
      split_ifs with filled reached
      · rw [Bool.and_eq_true] at filled
        exact .filled filled.1 filled.2
      · rw [Bool.and_eq_true] at reached
        have started :
            (startBurst (applyAll triggerReached platform)).engine =
              { platform.engine with
                dma1 := { platform.engine.dma1 with flagged := false }
                captureTriggerSampleIndex :=
                  platform.engine.capturePretriggerTarget
                bursting := true
                bursts :=
                  platform.engine.bursts ++ [platform.engine.words.length] } := by
          unfold startBurst
          split <;> rfl
        rw [started]
        exact .reached reached.1 reached.2
      · exact .unchanged
  | dmaDefault =>
      rw [disturb, engine_dmaIsrDefault]
      exact .halted
  | timer2A0 =>
      simp only [disturb, timer2A0Isr]
      split_ifs with pending more
      · simp only [Bool.and_eq_true, decide_eq_true_eq] at pending more
        exact .counted pending.1 more.2
      · simp only [Bool.and_eq_true, decide_eq_true_eq, not_and] at pending more
        exact .ended pending.1 more
      · exact .unchanged
  | timer0A1 pending =>
      simp only [disturb, timer0A1Isr]
      split
      · exact .unchanged
      · exact .unchanged
  | quantum =>
      simp only [disturb, onAclkQuantum]
      split
      · exact .unchanged
      · exact .unchanged
  | busError => exact .reset

end Platform

namespace Engine

/-! ## The samples -/

/-- The words of the waveform are those found at the first triggers. -/
structure Filled (waveform : Waveform) (words : List UInt16) : Prop where
  enough : captureSampleCount ≤ words.length
  stored : waveform.toList = words.take captureSampleCount

/-- The waveform holds all the words found so far, and there is room for the
others. -/
structure Filling
    (dma0 : DmaChannel)
    (waveform : Waveform)
    (words : List UInt16) :
    Prop where
  block : dma0.block = captureSampleCount
  room : 0 < dma0.size
  left : dma0.size + words.length = captureSampleCount
  stored : waveform.toList.take words.length = words

/-- What holds of the first channel and the waveform of a capture. -/
structure Sampled
    (dma0 : DmaChannel)
    (completed : Bool)
    (waveform : Waveform)
    (words : List UInt16) :
    Prop where
  filling : dma0.enabled = true → Filling dma0 waveform words
  filled :
    dma0.flagged = true → dma0.interruptEnabled = true →
      dma0.enabled = false ∧ Filled waveform words
  completed :
    completed = true → dma0.enabled = false ∧ Filled waveform words

/-- A word stored behind those that are there. -/
theorem take_store
    {waveform : Waveform}
    {words : List UInt16}
    (word : UInt16)
    (room : words.length < captureSampleCount)
    (stored : waveform.toList.take words.length = words) :
    (store waveform words.length word).toList.take (words.length + 1) =
      words ++ [word] := by
  have length : waveform.toList.length = captureSampleCount :=
    waveform.toList_length
  rw [store, dif_pos room, List.Vector.toList_set]
  rw [List.take_succ_eq_append_getElem (by simp [length, room])]
  simp [List.take_set_of_le, stored]

/-- More words change nothing about a waveform that is full. -/
theorem Filled.more
    {waveform : Waveform}
    {words : List UInt16}
    (filled : Filled waveform words)
    (word : UInt16) :
    Filled waveform (words ++ [word]) where
  enough := by
    rw [List.length_append]
    exact filled.enough.trans (Nat.le_add_right _ _)
  stored := by
    rw [List.take_append_of_le_length filled.enough]
    exact filled.stored

section Samples

variable {dma0 : DmaChannel} {completed : Bool} {waveform : Waveform}
  {words : List UInt16}

/-- A trigger stores its word behind the others. -/
theorem Sampled.trigger
    (sampled : Sampled dma0 completed waveform words)
    (word : UInt16) :
    Sampled dma0.triggered completed
      (if dma0.enabled then
        store waveform (dma0.block - dma0.size) word
      else
        waveform)
      (words ++ [word]) := by
  cases enabled : dma0.enabled with
  | false =>
      have unmoved : dma0.triggered = dma0 := by
        simp [DmaChannel.triggered, enabled]
      rw [unmoved]
      exact {
        filling := fun on => absurd (on.symm.trans enabled) (by decide)
        filled := fun flagged interrupt =>
          (sampled.filled flagged interrupt).imp_right (·.more word)
        completed := fun done => (sampled.completed done).imp_right (·.more word) }
  | true =>
      obtain ⟨block, room, left, stored⟩ := sampled.filling enabled
      have on : dma0.enabled ≠ false := by simp [enabled]
      have index : dma0.block - dma0.size = words.length := by omega
      have next :=
        take_store word (show words.length < captureSampleCount by omega) stored
      rw [if_pos rfl, index]
      by_cases last : dma0.size ≤ 1
      · have moved :
            dma0.triggered =
              { dma0 with
                enabled := false, flagged := true, size := dma0.block } := by
          simp [DmaChannel.triggered, enabled, last]
        have all : words.length + 1 = captureSampleCount := by omega
        have full :
            (store waveform words.length word).toList =
              (words ++ [word]).take captureSampleCount := by
          rw [List.take_of_length_le (by simp [all]), ← next, all,
            List.take_of_length_le (by simp)]
        rw [moved]
        exact {
          filling := fun on => absurd on Bool.false_ne_true
          filled := fun _ _ => ⟨rfl, by simp [all], full⟩
          completed := fun done => absurd (sampled.completed done).1 on }
      · have moved : dma0.triggered = { dma0 with size := dma0.size - 1 } := by
          simp [DmaChannel.triggered, enabled, last]
        rw [moved]
        exact {
          filling := fun _ => {
            block := block
            room := Nat.sub_pos_of_lt (Nat.lt_of_not_le last)
            left := by
              simp only [List.length_append, List.length_singleton]
              omega
            stored := by simpa using next }
          filled := fun flagged interrupt =>
            absurd (sampled.filled flagged interrupt).1 on
          completed := fun done => absurd (sampled.completed done).1 on }

/-- A channel that is off, and its interrupt with it. -/
theorem Sampled.off
    (sampled : Sampled dma0 completed waveform words)
    {next : DmaChannel}
    (enabled : next.enabled = false)
    (interrupt : next.interruptEnabled = false) :
    Sampled next completed waveform words where
  filling on := absurd (on.symm.trans enabled) (by decide)
  filled _ on := absurd (on.symm.trans interrupt) (by decide)
  completed done := ⟨enabled, (sampled.completed done).2⟩

/-- The interrupt of a full waveform. -/
theorem Sampled.served
    (sampled : Sampled dma0 completed waveform words)
    (flagged : dma0.flagged = true)
    (interrupt : dma0.interruptEnabled = true) :
    Sampled { dma0 with flagged := false } true waveform words where
  filling on :=
    absurd (on.symm.trans (sampled.filled flagged interrupt).1) (by decide)
  filled on := absurd on Bool.false_ne_true
  completed _ := sampled.filled flagged interrupt

end Samples

/-! ## The trigger -/

/-- What holds of the second channel and the bursts of a capture, for its
trigger position. -/
structure Triggered
    (target : UInt16)
    (dma1 : DmaChannel)
    (words : List UInt16)
    (bursts : List Nat) :
    Prop where
  counting :
    dma1.enabled = true →
      bursts = [] ∧ 0 < dma1.size ∧ dma1.size + words.length = target.toNat
  counted :
    dma1.flagged = true → dma1.interruptEnabled = true →
      dma1.enabled = false ∧ bursts = [] ∧ target.toNat ≤ words.length
  awaited : dma1.interruptEnabled = true → target ≠ 0
  once : bursts = [] ∨ ∃ count, target.toNat ≤ count ∧ bursts = [count]

section Trigger

variable {target : UInt16} {dma1 : DmaChannel} {words : List UInt16}
  {bursts : List Nat}

/-- A trigger is counted until the position is reached. -/
theorem Triggered.trigger
    (triggered : Triggered target dma1 words bursts)
    (word : UInt16) :
    Triggered target dma1.triggered (words ++ [word]) bursts := by
  have length : (words ++ [word]).length = words.length + 1 := by simp
  cases enabled : dma1.enabled with
  | false =>
      have unmoved : dma1.triggered = dma1 := by
        simp [DmaChannel.triggered, enabled]
      rw [unmoved]
      exact {
        counting := fun on => absurd (on.symm.trans enabled) (by decide)
        counted := fun flagged interrupt => by
          obtain ⟨off, none, reached⟩ := triggered.counted flagged interrupt
          exact ⟨off, none, by omega⟩
        awaited := triggered.awaited
        once := triggered.once }
  | true =>
      obtain ⟨none, room, left⟩ := triggered.counting enabled
      by_cases last : dma1.size ≤ 1
      · have moved :
            dma1.triggered =
              { dma1 with
                enabled := false, flagged := true, size := dma1.block } := by
          simp [DmaChannel.triggered, enabled, last]
        rw [moved]
        exact {
          counting := fun on => absurd on Bool.false_ne_true
          counted := fun _ _ => ⟨rfl, none, by omega⟩
          awaited := triggered.awaited
          once := triggered.once }
      · have moved : dma1.triggered = { dma1 with size := dma1.size - 1 } := by
          simp [DmaChannel.triggered, enabled, last]
        rw [moved]
        exact {
          counting := fun _ =>
            ⟨none, Nat.sub_pos_of_lt (Nat.lt_of_not_le last), by
              show dma1.size - 1 + _ = _
              omega⟩
          counted := fun flagged interrupt =>
            absurd ((triggered.counted flagged interrupt).1.symm.trans enabled)
              (by decide)
          awaited := triggered.awaited
          once := triggered.once }

/-- A channel that is off, and its interrupt with it. -/
theorem Triggered.off
    (triggered : Triggered target dma1 words bursts)
    {next : DmaChannel}
    (enabled : next.enabled = false)
    (interrupt : next.interruptEnabled = false) :
    Triggered target next words bursts where
  counting on := absurd (on.symm.trans enabled) (by decide)
  counted _ on := absurd (on.symm.trans interrupt) (by decide)
  awaited on := absurd (on.symm.trans interrupt) (by decide)
  once := triggered.once

/-- A burst that is started at the position, or behind it. -/
theorem Triggered.started
    (triggered : Triggered target dma1 words bursts)
    (enabled : dma1.enabled = false)
    (none : bursts = [])
    (reached : target.toNat ≤ words.length)
    {next : DmaChannel}
    (off : next.enabled = dma1.enabled)
    (interrupt : next.interruptEnabled = dma1.interruptEnabled)
    (served : next.flagged = true → next.interruptEnabled = false) :
    Triggered target next words (bursts ++ [words.length]) where
  counting on := absurd (on.symm.trans (off.trans enabled)) (by decide)
  counted flagged on := absurd (on.symm.trans (served flagged)) (by decide)
  awaited on := triggered.awaited (interrupt ▸ on)
  once := .inr ⟨words.length, reached, by rw [none, List.nil_append]⟩

end Trigger

/-! ## The periods of the burst -/

/-- What holds of the burst timer and its counters, for a number of pulses. -/
structure Paced
    (pulses : UInt8)
    (bursting flagged complete : Bool)
    (remaining : UInt8)
    (bursts : List Nat)
    (periods late : Nat) :
    Prop where
  begun : bursting = true ∨ flagged = true → bursts ≠ []
  left : 0 < remaining.toNat
  running :
    complete = false → bursting = true ∨ flagged = true ∨ bursts = [] →
      periods + remaining.toNat = late + pulses.toNat + flagged.toNat
  atMost :
    complete = false → periods + remaining.toNat ≤ late + pulses.toNat + 1
  done :
    complete = true →
      bursting = false ∧ flagged = false ∧ bursts ≠ [] ∧
        periods = late + pulses.toNat

section Periods

variable {pulses : UInt8} {bursting flagged complete : Bool}
  {remaining : UInt8} {bursts : List Nat} {periods late : Nat}

/-- The timer ends a period. -/
theorem Paced.endPeriod
    (paced : Paced pulses true flagged complete remaining bursts periods late) :
    Paced pulses true true complete remaining bursts (periods + 1)
      (late + flagged.toNat) := by
  have open' : complete = false := by
    cases done : complete with
    | false => rfl
    | true => exact absurd (paced.done done).1 (by decide)
  have law := paced.running open' (.inl rfl)
  exact {
    begun := fun _ => paced.begun (.inl rfl)
    left := paced.left
    running := fun _ _ => by
      rw [Bool.toNat_true]
      omega
    atMost := fun _ => by omega
    done := fun done => absurd (done.symm.trans open') (by decide) }

/-- The timer is stopped, and its flag cleared or left as it is. -/
theorem Paced.stopped
    (paced : Paced pulses bursting flagged complete remaining bursts periods late)
    {next : Bool}
    (cleared : next = true → flagged = true) :
    Paced pulses false next complete remaining bursts periods late where
  begun pending := paced.begun (.inr (cleared (pending.resolve_left nofun)))
  left := paced.left
  running open' pending := by
    cases next with
    | true =>
        have raised := cleared rfl
        subst raised
        exact paced.running open' (.inr (.inl rfl))
    | false =>
        have none : bursts = [] := by simpa using pending
        have law := paced.running open' (.inr (.inr none))
        cases flagged with
        | true => exact absurd none (paced.begun (.inr rfl))
        | false => exact law
  atMost := paced.atMost
  done closed := by
    obtain ⟨-, unflagged, begun, law⟩ := paced.done closed
    refine ⟨rfl, ?_, begun, law⟩
    cases next with
    | true => exact absurd (cleared rfl) (by simp [unflagged])
    | false => rfl

/-- The flag of a timer that is stopped is cleared. -/
theorem Paced.cleared
    (paced : Paced pulses bursting flagged complete remaining bursts periods late)
    (off : bursting = false) :
    Paced pulses bursting false complete remaining bursts periods late := by
  subst off
  exact paced.stopped nofun

/-- The interrupt of a period that is not the last one. -/
theorem Paced.counted
    (paced : Paced pulses bursting true complete remaining bursts periods late)
    (more : remaining > 1) :
    Paced pulses bursting false complete (remaining - 1) bursts periods
      late := by
  have bound : 1 < remaining.toNat := more
  have next : (remaining - 1).toNat = remaining.toNat - 1 :=
    UInt8.toNat_sub_of_le _ _ (UInt8.le_of_lt more)
  have open' : complete = false := by
    cases done : complete with
    | false => rfl
    | true => exact absurd (paced.done done).2.1 (by decide)
  have law := paced.running open' (.inr (.inl rfl))
  rw [Bool.toNat_true] at law
  exact {
    begun := fun _ => paced.begun (.inr rfl)
    left := by omega
    running := fun _ _ => by
      rw [next, Bool.toNat_false]
      omega
    atMost := fun _ => by omega
    done := fun done => absurd (done.symm.trans open') (by decide) }

/-- The interrupt of the last period. -/
theorem Paced.ended
    (paced : Paced pulses bursting true complete remaining bursts periods late)
    (last : ¬remaining > 1) :
    Paced pulses false false true remaining bursts periods late := by
  have bound : remaining.toNat ≤ 1 := Nat.not_lt.1 last
  have left := paced.left
  have open' : complete = false := by
    cases done : complete with
    | false => rfl
    | true => exact absurd (paced.done done).2.1 (by decide)
  have law := paced.running open' (.inr (.inl rfl))
  rw [Bool.toNat_true] at law
  have begun := paced.begun (.inr rfl)
  exact {
    begun := fun _ => begun
    left := left
    running := fun closed => absurd closed (by decide)
    atMost := fun closed => absurd closed (by decide)
    done := fun _ => ⟨rfl, rfl, begun, by omega⟩ }

/-- The first burst is started. -/
theorem Paced.started
    (paced : Paced pulses bursting flagged complete remaining bursts periods late)
    (none : bursts = [])
    (count : Nat) :
    Paced pulses true flagged complete remaining (bursts ++ [count]) periods
      late where
  begun _ := by simp
  left := paced.left
  running open' _ := paced.running open' (.inr (.inr none))
  atMost := paced.atMost
  done closed := absurd none (paced.done closed).2.2.1

end Periods

/-! ## The capture -/

/-- What holds of the engine of a capture, for its trigger position and its
number of pulses. -/
structure Faithful
    (target : UInt16)
    (pulses : UInt8)
    (engine : Engine) :
    Prop where
  active : engine.captureActive = true
  aimed : engine.capturePretriggerTarget = target
  sampled :
    Sampled engine.dma0 engine.captureDma0Completed engine.waveform engine.words
  triggered : Triggered target engine.dma1 engine.words engine.bursts
  paced :
    Paced pulses engine.bursting engine.burstFlagged engine.captureBurstComplete
      engine.captureBurstPeriodsRemaining engine.bursts engine.periods
      engine.late

/-- A disturbance keeps it. -/
theorem Faithful.disturbed
    {target : UInt16}
    {pulses : UInt8}
    {engine next : Engine}
    (faithful : engine.Faithful target pulses)
    (disturbed : engine.Disturbed next) :
    next.Faithful target pulses := by
  obtain ⟨active, aimed, sampled, triggered, paced⟩ := faithful
  cases disturbed with
  | unchanged => exact ⟨active, aimed, sampled, triggered, paced⟩
  | trigger word =>
      unfold Engine.trigger
      split
      · exact ⟨active, aimed, sampled.trigger word, triggered.trigger word, paced⟩
      · exact ⟨active, aimed, sampled, triggered, paced⟩
  | endPeriod =>
      unfold Engine.endPeriod
      split
      · next running =>
          rw [running] at paced
          exact ⟨active, aimed, sampled, triggered, running ▸ paced.endPeriod⟩
      · exact ⟨active, aimed, sampled, triggered, paced⟩
  | filled flagged enabled =>
      exact ⟨active, aimed, sampled.served flagged enabled, triggered, paced⟩
  | reached flagged enabled =>
      obtain ⟨off, none, reached⟩ := triggered.counted flagged enabled
      exact ⟨active, aimed, sampled,
        triggered.started off none reached rfl rfl nofun, paced.started none _⟩
  | halted =>
      exact ⟨active, aimed, sampled.off rfl rfl, triggered.off rfl rfl,
        paced.stopped nofun⟩
  | counted flagged more =>
      rw [flagged] at paced
      exact ⟨active, aimed, sampled, triggered, paced.counted more⟩
  | ended flagged last =>
      rw [flagged] at paced
      exact ⟨active, aimed, sampled, triggered, paced.ended (last active)⟩
  | reset =>
      exact ⟨active, aimed, sampled.off rfl rfl, triggered.off rfl rfl,
        paced.stopped id⟩

/-! ## Before the first trigger -/

/-- The capture has cleared its variables, and nothing has happened yet. -/
structure Fresh
    (target : UInt16)
    (pulses : UInt8)
    (engine : Engine) :
    Prop extends Faithful target pulses engine where
  still : engine.sampling = false
  wordless : engine.words = []
  burstless : engine.bursts = []

section Fresh

variable {target : UInt16} {pulses : UInt8} {engine next : Engine}

/-- As long as nothing has happened, the burst timer is off. -/
theorem Fresh.resting
    (fresh : engine.Fresh target pulses) :
    engine.bursting = false ∧ engine.burstFlagged = false := by
  have begun := mt fresh.paced.begun (not_not.2 fresh.burstless)
  simpa using begun

/-- As long as nothing has happened, a disturbance can only stop the capture. -/
theorem Fresh.cases
    (fresh : engine.Fresh target pulses)
    (disturbed : engine.Disturbed next) :
    next = engine ∨ next = engine.halted ∨ next = engine.reset := by
  have resting := fresh.resting
  cases disturbed with
  | unchanged => exact .inl rfl
  | trigger word =>
      left
      rw [Engine.trigger, fresh.still]
      rfl
  | endPeriod =>
      left
      rw [Engine.endPeriod, resting.1]
      rfl
  | filled flagged enabled =>
      have enough := (fresh.sampled.filled flagged enabled).2.enough
      rw [fresh.wordless] at enough
      exact absurd enough (by decide)
  | reached flagged enabled =>
      have early := (fresh.triggered.counted flagged enabled).2.2
      have aimed := fresh.triggered.awaited enabled
      rw [fresh.wordless, List.length_nil, Nat.le_zero] at early
      exact absurd (UInt16.toNat_inj.1 early) aimed
  | halted => exact .inr (.inl rfl)
  | counted flagged more => exact absurd flagged (by simp [resting.2])
  | ended flagged last => exact absurd flagged (by simp [resting.2])
  | reset => exact .inr (.inr rfl)

/-- A disturbance keeps it. -/
theorem Fresh.disturbed
    (fresh : engine.Fresh target pulses)
    (disturbed : engine.Disturbed next) :
    next.Fresh target pulses := by
  have faithful := fresh.toFaithful.disturbed disturbed
  rcases fresh.cases disturbed with rfl | rfl | rfl
  · exact fresh
  · exact ⟨faithful, rfl, fresh.wordless, fresh.burstless⟩
  · exact ⟨faithful, rfl, fresh.wordless, fresh.burstless⟩

end Fresh

/-- The first channel counts down the samples of a capture. -/
structure Sized (engine : Engine) : Prop where
  block : engine.dma0.block = captureSampleCount
  room : 0 < engine.dma0.size
  bound : engine.dma0.size ≤ captureSampleCount

/-- A disturbance keeps it. -/
theorem Sized.disturbed
    {engine next : Engine}
    (sized : engine.Sized)
    (disturbed : engine.Disturbed next) :
    next.Sized := by
  obtain ⟨block, room, bound⟩ := sized
  cases disturbed with
  | trigger word =>
      unfold Engine.trigger
      split
      · have triggered :
            engine.dma0.triggered.block = captureSampleCount ∧
              0 < engine.dma0.triggered.size ∧
              engine.dma0.triggered.size ≤ captureSampleCount := by
          unfold DmaChannel.triggered
          split_ifs with enabled last
          · exact ⟨block, block ▸ Nat.zero_lt_succ _, block.le⟩
          · exact ⟨block, Nat.sub_pos_of_lt (Nat.lt_of_not_le last),
              (Nat.sub_le _ _).trans bound⟩
          · exact ⟨block, room, bound⟩
        exact ⟨triggered.1, triggered.2.1, triggered.2.2⟩
      · exact ⟨block, room, bound⟩
  | endPeriod =>
      unfold Engine.endPeriod
      split
      · exact ⟨block, room, bound⟩
      · exact ⟨block, room, bound⟩
  | _ => exact ⟨block, room, bound⟩

end Engine

end Usac.Firmware
