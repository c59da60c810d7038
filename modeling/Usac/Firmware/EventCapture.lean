import Usac.Firmware.Capture

namespace Usac.Firmware

open Library

/-!
# The edges recorded during a capture

Two lines of the receiver are watched while a capture runs: OUT3 once and OUT4
up to sixteen times. The timer interrupt records each edge with the time since
the trigger, which it splits into a sample index and the ticks beyond it. What
an interrupt finds in the timer registers is arbitrary here.
-/

namespace EventCapture

/-- `USAC_QUALITY_EVENT_OVERFLOW`. -/
def qualityEventOverflow : UInt32 := 0x00000040

/-- `USAC_QUALITY_EVENT_TIME_AMBIGUOUS`. -/
def qualityEventTimeAmbiguous : UInt32 := 0x00000080

/-- What an interrupt reads of a capture register and of the timer: the tick,
the overrun bit, the level of the line and a pending overflow. -/
structure Captured where
  tick : UInt16
  overrun : Bool
  level : Bool
  overflowPending : Bool

/-- The ticks since the trigger. An overflow that is pending has not reached
the epoch yet. -/
def frameOffset (epoch : UInt32) (captured : Captured) : UInt32 :=
  let epoch :=
    if captured.overflowPending && decide (captured.tick < 0x8000) then
      epoch + 1
    else
      epoch
  (epoch <<< 16) ||| captured.tick.toUInt32

/-- The event `capture_event_append` fills. -/
def recordedEvent
    (sampleInterval : UInt16)
    (channel levelAfter : UInt8)
    (offset : UInt32) :
    CaptureEvent where
  channel := channel
  edge := if levelAfter ≠ 0 then 1 else 2
  captureMethod := 2
  levelAfter := levelAfter
  sampleIndex := (offset / sampleInterval.toUInt32).toInt32
  subsampleTick := (offset % sampleInterval.toUInt32).toUInt16
  uncertaintyTicks := 1
  frameOffsetTicks := offset

/-- The report with a quality bit raised. -/
def raiseQuality (report : CaptureReport) (quality : UInt32) : CaptureReport :=
  { report with qualityFlags := report.qualityFlags ||| quality }

/-- The report with the overrun of a capture register noted. -/
def noteOverrun (report : CaptureReport) (captured : Captured) : CaptureReport :=
  if captured.overrun then
    raiseQuality report qualityEventTimeAmbiguous
  else
    report

/-- The report with one more event, if there is room for it. -/
def addEvent (report : CaptureReport) (event : CaptureEvent) : CaptureReport :=
  if room : report.events.val.length < maxCaptureEvents then
    { report with
      events := ⟨report.events.val ++ [event],
        by simpa using Nat.succ_le_of_lt room⟩ }
  else
    raiseQuality report qualityEventOverflow

/-- `capture_event_append`, with the report it is armed for. -/
def append
    (report : CaptureReport)
    (sampleInterval : UInt16)
    (epoch : UInt32)
    (channel levelAfter : UInt8)
    (captured : Captured) :
    CaptureReport :=
  addEvent (noteOverrun report captured)
    (recordedEvent sampleInterval channel levelAfter
      (frameOffset epoch captured))

end EventCapture

/-- The variables the timer interrupt keeps while it is armed for a report. -/
structure EventCapture where
  report : CaptureReport
  epoch : UInt32
  sampleInterval : UInt16
  eventFlags : UInt8
  out4Count : UInt8
  out4LastLevel : UInt8

namespace EventCapture

/-- `capture_events_arm`. -/
def arm
    (auxFlags : UInt8)
    (sampleInterval : UInt16)
    (report : CaptureReport) :
    EventCapture where
  report := { report with
    events := ⟨[], Nat.zero_le _⟩
    out3StartLevel := 0xFF
    out4StartLevel := 0xFF }
  epoch := 0
  sampleInterval := sampleInterval
  eventFlags := auxFlags &&& 0x03
  out4Count := 0
  out4LastLevel := 0

/-- A level as the code stores it. -/
def levelByte (level : Bool) : UInt8 :=
  if level then 1 else 0

/-- `capture_events_start`, with the levels of the two lines. -/
def start (events : EventCapture) (out3 out4 : Bool) : EventCapture :=
  let events :=
    if events.eventFlags &&& 0x01 ≠ 0 then
      { events with
        report := { events.report with out3StartLevel := levelByte out3 } }
    else
      events
  if events.eventFlags &&& 0x02 ≠ 0 then
    { events with
      report := { events.report with out4StartLevel := levelByte out4 }
      out4LastLevel := levelByte out4 }
  else
    events

/-- What the timer interrupt finds pending. -/
inductive Interrupt where
  | out4 (captured : Captured)
  | out3 (captured : Captured)
  | overflow
  | unknown

/-- The branch of `TIMER0_A1_ISR` for the register of OUT4. -/
def out4 (events : EventCapture) (captured : Captured) : EventCapture :=
  let levelAfter := levelByte captured.level
  if events.eventFlags &&& 0x02 = 0 then
    events
  else if captured.overrun || levelAfter == events.out4LastLevel then
    { events with
      report := raiseQuality events.report qualityEventTimeAmbiguous }
  else if events.out4Count < 16 then
    { events with
      report :=
        append events.report events.sampleInterval events.epoch 4 levelAfter
          captured
      out4LastLevel := levelAfter
      out4Count := events.out4Count + 1 }
  else
    { events with report := raiseQuality events.report qualityEventOverflow }

/-- The branch of `TIMER0_A1_ISR` for the register of OUT3. -/
def out3 (events : EventCapture) (captured : Captured) : EventCapture :=
  if events.eventFlags &&& 0x01 = 0 then
    events
  else
    { events with
      report :=
        if captured.overrun then
          raiseQuality events.report qualityEventTimeAmbiguous
        else
          append events.report events.sampleInterval events.epoch 3 1 captured
      eventFlags := events.eventFlags &&& ~~~0x01 }

/-- `TIMER0_A1_ISR`. -/
def interrupt (events : EventCapture) : Interrupt → EventCapture
  | .out4 captured => events.out4 captured
  | .out3 captured => events.out3 captured
  | .overflow => { events with epoch := events.epoch + 1 }
  | .unknown =>
      { events with
        report := raiseQuality events.report qualityEventTimeAmbiguous }

/-- An event as the interrupt records it for a sample interval. -/
inductive Recorded (sampleInterval : UInt16) : CaptureEvent → Prop where
  | out4 (level : Bool) (offset : UInt32) :
      Recorded sampleInterval
        (recordedEvent sampleInterval 4 (levelByte level) offset)
  | out3 (offset : UInt32) :
      Recorded sampleInterval (recordedEvent sampleInterval 3 1 offset)

/-- Every event of a report was recorded for a sample interval. -/
def AllRecorded (sampleInterval : UInt16) (report : CaptureReport) : Prop :=
  ∀ event ∈ report.events.val, Recorded sampleInterval event

/-- Appending an event the interrupt records keeps all of them recorded. -/
theorem AllRecorded.append
    {sampleInterval : UInt16}
    {report : CaptureReport}
    {channel levelAfter : UInt8}
    (recorded : AllRecorded sampleInterval report)
    (added : ∀ offset, Recorded sampleInterval
      (recordedEvent sampleInterval channel levelAfter offset))
    (epoch : UInt32)
    (captured : Captured) :
    AllRecorded sampleInterval
      (EventCapture.append report sampleInterval epoch channel levelAfter
        captured) := by
  have noted : AllRecorded sampleInterval (noteOverrun report captured) := by
    unfold noteOverrun
    split <;> exact recorded
  unfold EventCapture.append addEvent
  split
  · intro event member
    rcases List.mem_append.1 member with earlier | last
    · exact noted event earlier
    · rw [List.mem_singleton.1 last]
      exact added _
  · exact noted

/-- An interrupt keeps all events recorded, and the interval. -/
theorem interrupt_recorded
    {events : EventCapture}
    (recorded : AllRecorded events.sampleInterval events.report)
    (pending : Interrupt) :
    (events.interrupt pending).sampleInterval = events.sampleInterval ∧
      AllRecorded events.sampleInterval (events.interrupt pending).report := by
  cases pending with
  | out4 captured =>
      simp only [interrupt, out4]
      split_ifs
      · exact ⟨rfl, recorded⟩
      · exact ⟨rfl, recorded⟩
      · exact ⟨rfl, recorded.append (.out4 _) _ _⟩
      · exact ⟨rfl, recorded⟩
  | out3 captured =>
      simp only [interrupt, out3]
      split_ifs
      · exact ⟨rfl, recorded⟩
      · exact ⟨rfl, recorded⟩
      · exact ⟨rfl, recorded.append .out3 _ _⟩
  | overflow =>
      exact ⟨rfl, recorded⟩
  | unknown =>
      exact ⟨rfl, recorded⟩

/-- The interrupts of a capture, one after the other. -/
def runInterrupts : EventCapture → List Interrupt → EventCapture
  | events, [] => events
  | events, pending :: rest => runInterrupts (events.interrupt pending) rest

/-- All events of a capture are recorded, whatever its interrupts find. -/
theorem runInterrupts_recorded
    {events : EventCapture}
    (recorded : AllRecorded events.sampleInterval events.report)
    (pending : List Interrupt) :
    AllRecorded events.sampleInterval (events.runInterrupts pending).report := by
  induction pending generalizing events with
  | nil =>
      exact recorded
  | cons first rest inductionHypothesis =>
      obtain ⟨interval, kept⟩ := interrupt_recorded recorded first
      rw [← interval] at kept ⊢
      exact inductionHypothesis kept

/-- Starting a capture leaves its interval and its events alone. -/
theorem start_sampleInterval
    (events : EventCapture)
    (out3 out4 : Bool) :
    (events.start out3 out4).sampleInterval = events.sampleInterval ∧
      (events.start out3 out4).report.events = events.report.events := by
  unfold start
  dsimp only
  split_ifs <;> exact ⟨rfl, rfl⟩

/-- The report of a capture holds only events recorded for its interval,
whatever its interrupts find. -/
theorem recorded_of_capture
    (auxFlags : UInt8)
    (sampleInterval : UInt16)
    (report : CaptureReport)
    (out3 out4 : Bool)
    (pending : List Interrupt) :
    AllRecorded sampleInterval
      ((((arm auxFlags sampleInterval report).start out3 out4).runInterrupts
        pending).report) := by
  obtain ⟨interval, events⟩ :=
    start_sampleInterval (arm auxFlags sampleInterval report) out3 out4
  have started : AllRecorded
      ((arm auxFlags sampleInterval report).start out3 out4).sampleInterval
      ((arm auxFlags sampleInterval report).start out3 out4).report := by
    intro event member
    rw [events] at member
    exact absurd member List.not_mem_nil
  have recorded := runInterrupts_recorded started pending
  rwa [interval] at recorded

end EventCapture

end Usac.Firmware
