import Usac.Firmware.Run

namespace Usac.Firmware

open Library

/-!
# The application on its board

The operations of the application, in whatever order the main loop calls them,
share one waveform buffer with the frames that are streamed from it. Segments,
the transfer and the conditions of the loop are left out: a frame that is handed
over is one step, and a capture that is not pending any more another one.
Nothing keeps a command from being handled while a capture is pending, so that
is a condition of the laws that need it.
-/

/-- The application, the waveform buffer, and whether the frame of the pending
capture has been handed over. -/
structure Board where
  app : App
  waveform : Waveform
  sent : Bool

namespace Board

/-- The descriptor `initialize_pending_capture_stream` fills. -/
def descriptor (app : App) : CaptureDescriptor where
  requestId := app.captureRequestId
  scheduleId := app.captureScheduleId
  bootId := app.bootId
  deviceId := app.deviceId
  profileSha256 := app.config.profileSha256
  deviceConfigCrc32 := app.config.deviceConfigCrc32
  frameSequence := app.captureRequestSequence
  captureSequence := app.captureSequence
  asyncCapture := app.captureIsAsync
  sampleIntervalTicks := app.config.profile.sampleIntervalTicks
  burstPeriodTicks := app.config.profile.burstPeriodTicks
  pretriggerCount := app.config.pretriggerCount
  tussDevStat := app.captureReport.tussDevStat
  out3StartLevel :=
    if app.config.auxFlags &&& 0x01 ≠ 0 then
      app.captureReport.out3StartLevel
    else
      0xFF
  out4StartLevel :=
    if app.config.auxFlags &&& 0x02 ≠ 0 then
      app.captureReport.out4StartLevel
    else
      0xFF
  qualityFlags :=
    app.captureReport.qualityFlags ||| App.qualityTimingUncalibrated
  events := app.captureReport.events
  registerPairs := app.config.profile.registers

/-- The frame the main loop prepares for the pending capture. -/
def frame (board : Board) : List UInt8 :=
  CaptureStream.frame (descriptor board.app) board.waveform

/-- The waveform after the callbacks of a step. -/
def waveformAfter (waveform : Waveform) : List Invocation → Waveform
  | [] => waveform
  | invocation :: rest =>
      match invocation.call with
      | .capture _ _ _ _ _ samples => waveformAfter samples rest
      | _ => waveformAfter waveform rest

/-- An operation of the application, the frame of the pending capture, or the
end of its transfer. -/
inductive Input where
  | operate (input : App.Input)
  | stream
  | release

/-- What one turn shows to the outside. -/
structure Output where
  response : Option (List UInt8)
  calls : List Invocation
  streamed : Option (List UInt8)
  deriving DecidableEq

/-- The output of a turn that does nothing. -/
def Output.silent : Output where
  response := none
  calls := []
  streamed := none

/-- The board after an operation of the application. -/
def operate (board : Board) (input : App.Input) : Board × Output :=
  let outcome := board.app.perform input
  ({ app := outcome.app
     waveform := waveformAfter board.waveform outcome.calls
     sent := board.sent && outcome.app.capturePending },
    { response := outcome.response
      calls := outcome.calls
      streamed := none })

/-- The board after the frame of the pending capture has been handed over. -/
def handedOver (board : Board) : Board :=
  { board with sent := true }

/-- The board after the transfer of the pending capture. -/
def released (board : Board) : Board :=
  { board with
    app := { board.app with capturePending := false }
    sent := false }

/-- The application on its board as a machine. -/
def machine : Machine Board Input Output where
  step board
    | .operate input => board.operate input
    | .stream =>
        if board.app.capturePending = true ∧ board.sent = false then
          (board.handedOver,
            { Output.silent with streamed := some board.frame })
        else
          (board, Output.silent)
    | .release =>
        if board.app.capturePending = true ∧ board.sent = true then
          (board.released, Output.silent)
        else
          (board, Output.silent)

/-- The recorded turns. -/
abbrev Turn := Event Board Input Output

/-- A command that is handled finds no capture pending. -/
def Waits (turn : Turn) : Prop :=
  ∀ request hardware,
    turn.input = .operate (.handle request hardware) →
      turn.source.app.capturePending = false

/-- What one turn can be. -/
inductive TurnCases (board : Board) : Input → Board × Output → Prop where
  | idle
      (input : Input)
      (other : ∀ operation, input ≠ .operate operation) :
      TurnCases board input (board, Output.silent)
  | operated
      (input : App.Input)
      (effect :
        App.Effect board.app input
          (board.app.perform input).app (board.app.perform input).calls) :
      TurnCases board (.operate input) (board.operate input)
  | streamed
      (pending : board.app.capturePending = true)
      (fresh : board.sent = false) :
      TurnCases board .stream
        (board.handedOver,
          { Output.silent with streamed := some board.frame })
  | released
      (pending : board.app.capturePending = true)
      (sent : board.sent = true) :
      TurnCases board .release (board.released, Output.silent)

/-- Every turn is one of the cases. -/
theorem turn_cases
    (board : Board)
    (input : Input) :
    TurnCases board input (machine.step board input) := by
  cases input with
  | operate input =>
      exact .operated input (App.perform_effect board.app input)
  | stream =>
      simp only [machine]
      split_ifs with sends
      · exact .streamed sends.1 sends.2
      · exact .idle _ fun _ same => by cases same
  | release =>
      simp only [machine]
      split_ifs with ends
      · exact .released ends.1 ends.2
      · exact .idle _ fun _ same => by cases same

/-- The board as a run starts it, with whatever the waveform memory holds. -/
def started (app : App) (waveform : Waveform) : Board where
  app := app
  waveform := waveform
  sent := false

end Board

end Usac.Firmware
