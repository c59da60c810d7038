import Usac.Firmware.LoopHistory

namespace Usac.Firmware

open Library

/-!
# The configuration a schedule is bound to

A START_PERIODIC names the configuration its captures are to use. What the
schedule is bound to is read off the history: the last START_PERIODIC of that
schedule identity which the device acknowledged. The start compares the names
once; afterwards nothing but the order of commands ties the stored
configuration to the schedule.
-/

namespace Board

/-- The response acknowledges its request. -/
def acknowledged (response : Option (List UInt8)) : Bool :=
  response.any fun frame => byteAt frame 5 == Message.ack

/-- The configuration a turn binds a schedule identity to, if it does. -/
def boundBy? (scheduleId : Id16) (turn : Turn) : Option (Bytes 32 × UInt32) :=
  match turn.input with
  | .operate (.handle request _) =>
      if request.val.messageType = Message.startPeriodic ∧
          slice request.val.payload 16 16 = scheduleId ∧
          acknowledged turn.output.response = true then
        some (slice request.val.payload 32 32,
          readU32 request.val.payload 64)
      else
        none
  | _ => none

/-- The configuration a schedule identity is bound to by a history. -/
def bindingOf
    (scheduleId : Id16)
    (turns : List Turn) :
    Option (Bytes 32 × UInt32) :=
  (turns.filterMap (boundBy? scheduleId)).getLast?

/-- A turn that binds the identity decides its binding. -/
theorem bindingOf_concat_some
    {scheduleId : Id16}
    {turns : List Turn}
    {turn : Turn}
    {binding : Bytes 32 × UInt32}
    (bound : boundBy? scheduleId turn = some binding) :
    bindingOf scheduleId (turns ++ [turn]) = some binding := by
  simp [bindingOf, bound]

/-- A turn that does not bind the identity keeps its binding. -/
theorem bindingOf_concat_none
    {scheduleId : Id16}
    {turns : List Turn}
    {turn : Turn}
    (unbound : boundBy? scheduleId turn = none) :
    bindingOf scheduleId (turns ++ [turn]) = bindingOf scheduleId turns := by
  simp [bindingOf, unbound]

/-- The message type of a response frame. -/
theorem byteAt_reply_type
    (request : Mcu.FrameView)
    (messageType : UInt8)
    (payload : List UInt8) :
    byteAt (App.reply request messageType payload) 5 = messageType := by
  simp [App.reply, Mcu.frameBytes, Mcu.frameBody, Mcu.magic, byteAt]

/-- A refusal does not acknowledge. -/
theorem not_acknowledged_refuse
    (app : App)
    (request : Mcu.FrameView)
    (errorCode : UInt16)
    (detail0 detail1 : UInt32) :
    acknowledged
        (app.refuse request errorCode detail0 detail1
          App.responseCapacity).response =
      false := by
  simp only [App.refuse, App.answer, App.encodeError_fits, acknowledged,
    Option.any_some, byteAt_reply_type]
  decide

/-- A started schedule is acknowledged. -/
theorem acknowledged_encodeAck
    (app : App)
    (request : Mcu.FrameView)
    (ackedType : UInt8) :
    acknowledged (app.encodeAck request ackedType App.responseCapacity) =
      true := by
  rw [App.encodeAck, App.respond_fits (by simp)]
  simp [acknowledged, byteAt_reply_type]

/-- A dispatched START_PERIODIC reaches its handler. -/
theorem handle_dispatched_start
    {app : App}
    {request : Mcu.FrameView}
    (dispatched : app.Dispatched request Message.startPeriodic)
    (hardware : Hardware) :
    app.handle request App.responseCapacity hardware =
      app.handleStartPeriodic request App.responseCapacity := by
  simp [App.handle, dispatched.flags, dispatched.established,
    dispatched.messageType, Message.startPeriodic, Message.hello,
    Message.getCapabilities, Message.getStatus, Message.getConfig,
    Message.setConfig, Message.runIo2LoopbackTest, Message.captureOnce]

/-- A START_PERIODIC that is not dispatched is refused. -/
theorem not_acknowledged_of_not_dispatched
    {app : App}
    {request : Mcu.FrameView}
    (start : request.messageType = Message.startPeriodic)
    (undispatched : ¬app.Dispatched request Message.startPeriodic)
    (hardware : Hardware) :
    acknowledged
        (app.handle request App.responseCapacity hardware).response =
      false := by
  by_cases flags : request.flags = 0
  · have unestablished : app.helloEstablished = false := by
      by_contra established
      exact undispatched ⟨flags, by simpa using established, start⟩
    rw [App.handle, if_neg (not_not.2 flags),
      if_neg (by simp [start, Message.startPeriodic, Message.hello]),
      if_pos unestablished]
    exact not_acknowledged_refuse ..
  · rw [App.handle, if_pos flags]
    exact not_acknowledged_refuse ..

/-- A START_PERIODIC is acknowledged exactly when it starts its schedule. -/
theorem acknowledged_start_iff
    {app : App}
    {request : Mcu.FrameView}
    (start : request.messageType = Message.startPeriodic)
    (hardware : Hardware) :
    acknowledged
        (app.handle request App.responseCapacity hardware).response = true ↔
      ∃ schedule, app.Starts request schedule := by
  by_cases dispatched : app.Dispatched request Message.startPeriodic
  · rw [handle_dispatched_start dispatched, App.handleStartPeriodic]
    split_ifs with busy named
    · refine ⟨fun acked => by simp [not_acknowledged_refuse] at acked, ?_⟩
      rintro ⟨schedule, starts⟩
      simp [starts.idle, starts.valid, starts.free, starts.clock] at busy
    · refine ⟨fun acked => by simp [not_acknowledged_refuse] at acked, ?_⟩
      rintro ⟨schedule, starts⟩
      simp [starts.named] at named
    · push Not at busy
      split
      · rename_i schedule accepted
        simp only [App.answer, acknowledged_encodeAck, true_iff]
        exact ⟨schedule, dispatched, busy.1, by simpa using busy.2.1,
          by simpa using busy.2.2.1, busy.2.2.2, by simpa using named,
          accepted⟩
      · rename_i schedule result rejected shape
        refine ⟨fun acked => by simp [not_acknowledged_refuse] at acked, ?_⟩
        rintro ⟨schedule', starts⟩
        rw [starts.accepted] at shape
        exact absurd (congrArg Prod.snd shape).symm rejected
  · rw [not_acknowledged_of_not_dispatched start dispatched]
    refine ⟨fun acked => by simp at acked, ?_⟩
    rintro ⟨schedule, starts⟩
    exact absurd starts.dispatched dispatched

/-- What a schedule is bound to, seen from the stored configuration. -/
structure Bound (turns : List Turn) (app : App) : Prop where
  schedule :
    app.periodic.active = true →
    app.configValid = true ∧
      bindingOf app.periodic.scheduleId turns = some app.config.identity
  pending :
    app.captureIsAsync = true →
    (app.capturePending = true ∨ app.captureCache.valid = true) →
    bindingOf app.captureScheduleId turns = some app.config.identity

/-- A SET_CONFIG that reaches the hardware while a schedule is active carries
the stored configuration and has its profile applied. -/
def KeepsConfiguration (turn : Turn) : Prop :=
  ∀ request hardware candidate,
    turn.input = .operate (.handle request hardware) →
    turn.source.app.Configures request.val candidate →
    turn.source.app.periodic.active = true →
    hardware.applyResult = .ok ∧
      candidate.identity = turn.source.app.config.identity

/-- The capture uses the configuration its schedule is bound to, and that
configuration is still the valid one. -/
structure UsesBinding
    (earlier : List Turn)
    (moment : App)
    (config : ConfigV2) :
    Prop where
  valid : moment.configValid = true
  bound :
    bindingOf moment.periodic.scheduleId earlier = some config.identity

/-- Every periodic capture uses, and every frame of a periodic capture is
stamped with, the configuration its schedule is bound to. -/
structure PeriodicBound (earlier : List Turn) (turn : Turn) : Prop where
  captured :
    ∀ hardware,
      turn.input = .operate (.runPeriodicCapture hardware) →
      ∀ invocation ∈ turn.output.calls,
      ∀ config triggerSource syncTimeoutMs ran report samples,
        invocation.call =
          .capture config triggerSource syncTimeoutMs ran report samples →
        UsesBinding earlier invocation.moment config
  stamped :
    ∀ frame,
      turn.output.streamed = some frame →
      readU16 frame 6 = Flag.async →
      bindingOf (slice frame 36 16) earlier =
        some (slice frame 100 32, readU32 frame 132)

/-- A request that starts no schedule keeps every binding. -/
theorem Bound.handleEffect
    {app next : App}
    {turns : List Turn}
    {request : Mcu.FrameView}
    {hardware : Hardware}
    {calls : List Invocation}
    (bound : Bound turns app)
    (free : app.capturePending = false)
    (keeps :
      ∀ candidate, app.Configures request candidate →
        app.periodic.active = true →
        hardware.applyResult = .ok ∧
          candidate.identity = app.config.identity)
    (noStart : ∀ schedule, ¬app.Starts request schedule)
    (effect : App.HandleEffect app request hardware next calls) :
    Bound turns next := by
  cases effect with
  | answered | greeted | configRefused | loopedBack | captureDeclined |
    captureNotApplied | captureFailed =>
      exact ⟨bound.schedule, bound.pending⟩
  | restarted =>
      constructor
      · intro active
        simp [App.greeted, App.endSession, App.cleared,
          apply_ite App.periodic] at active
      · intro _ live
        simp [App.greeted, App.endSession, App.cleared,
          apply_ite App.capturePending, apply_ite App.captureCache,
          ReplyCache.invalidate] at live
  | configFailed candidate reply fits configures failed =>
      constructor
      · intro active
        exact absurd (keeps candidate configures active).1 failed
      · exact bound.pending
  | configApplied candidate reply fits configures applied =>
      constructor
      · intro active
        refine ⟨rfl, ?_⟩
        have sameIdentity := (keeps candidate configures active).2
        simpa [App.configApplied, sameIdentity] using
          (bound.schedule active).2
      · intro _ live
        simp [App.configApplied, free, ReplyCache.invalidate] at live
  | captureReplayed dispatched cached =>
      constructor
      · exact bound.schedule
      · intro async _
        have valid : app.captureCache.valid = true := by
          by_contra invalid
          simp [ReplyCache.lookup, invalid] at cached
        exact bound.pending async (.inr valid)
  | captureTaken =>
      constructor
      · exact bound.schedule
      · intro async _
        simp [App.captured] at async
  | started schedule starts =>
      exact absurd starts (noStart schedule)
  | renewed dispatched leaseSequence leaseTimeoutMs =>
      obtain ⟨sameActivity, sameId, -⟩ :=
        app.periodic.renew_frame (slice request.payload 16 16)
          leaseSequence leaseTimeoutMs
      constructor
      · intro active
        simpa [sameId] using bound.schedule (sameActivity.symm.trans active)
      · exact bound.pending
  | stopped =>
      constructor
      · intro active
        simp at active
      · exact bound.pending

/-- An operation that starts no schedule keeps every binding. -/
theorem Bound.effect
    {app next : App}
    {turns : List Turn}
    {input : App.Input}
    {calls : List Invocation}
    (bound : Bound turns app)
    (keeps :
      ∀ request hardware,
        input = .handle request hardware →
        app.capturePending = false ∧
          (∀ candidate, app.Configures request.val candidate →
            app.periodic.active = true →
            hardware.applyResult = .ok ∧
              candidate.identity = app.config.identity) ∧
          ∀ schedule, ¬app.Starts request.val schedule)
    (effect : App.Effect app input next calls) :
    Bound turns next := by
  cases effect with
  | handled handled =>
      obtain ⟨free, keeps, noStart⟩ := keeps _ _ rfl
      exact bound.handleEffect free keeps noStart handled
  | timePassed schedule sameActivity sameId =>
      constructor
      · intro active
        simpa [sameId] using bound.schedule (sameActivity.symm.trans active)
      · exact bound.pending
  | leaseExpired | periodicNotApplied | periodicFailed =>
      constructor
      · intro active
        simp at active
      · exact bound.pending
  | clockQuiet | periodicIdle =>
      exact bound
  | clockLatched schedule inactive =>
      constructor
      · intro active
        simp [inactive] at active
      · exact bound.pending
  | periodicTaken due =>
      simp only [App.periodicDue, Bool.and_eq_true] at due
      have running := bound.schedule due.1.1.1
      constructor
      · intro active
        have sameId := app.periodic.claimDue_frame.2
        by_cases claimed : app.periodic.claimDue.active = true
        · simpa [App.capturedPeriodic, claimed, sameId] using running
        · simp [App.capturedPeriodic, claimed] at active
      · intro _ _
        exact running.2
  | ended =>
      constructor
      · intro active
        simp [App.endSession, App.cleared, apply_ite App.periodic] at active
      · intro _ live
        simp [App.endSession, App.cleared, apply_ite App.capturePending,
          apply_ite App.captureCache, ReplyCache.invalidate] at live

/-- A turn that binds nothing leaves the bindings as they are. -/
theorem Bound.concat
    {turns : List Turn}
    {turn : Turn}
    {app : App}
    (bound : Bound turns app)
    (unbound : ∀ scheduleId, boundBy? scheduleId turn = none) :
    Bound (turns ++ [turn]) app := by
  constructor
  · intro active
    rw [bindingOf_concat_none (unbound _)]
    exact bound.schedule active
  · intro async live
    rw [bindingOf_concat_none (unbound _)]
    exact bound.pending async live

/-- What a START_PERIODIC that passes every check leaves behind. -/
theorem handle_starts
    {app : App}
    {request : Mcu.FrameView}
    {schedule : CaptureSchedule}
    (starts : app.Starts request schedule)
    (hardware : Hardware) :
    (app.handle request App.responseCapacity hardware).app =
      { app with
        periodic := schedule
        periodicRequestId := App.requestId request
        lastError := 0 } := by
  rw [handle_dispatched_start starts.dispatched, App.handleStartPeriodic]
  simp [starts.idle, starts.valid, starts.free, starts.clock, starts.named,
    starts.accepted, App.answer]

/-- A started schedule is bound to the stored configuration. -/
theorem Bound.start
    {turns : List Turn}
    {board : Board}
    {request : Mcu.ParsedFrame}
    {hardware : Hardware}
    {schedule : CaptureSchedule}
    (bound : Bound turns board.app)
    (start : request.val.messageType = Message.startPeriodic)
    (starts : board.app.Starts request.val schedule) :
    Bound
      (turns ++
        [⟨board, .operate (.handle request hardware),
          (board.operate (.handle request hardware)).2,
          (board.operate (.handle request hardware)).1⟩])
      (board.operate (.handle request hardware)).1.app := by
  have named :
      (slice request.val.payload 32 32, readU32 request.val.payload 64) =
        board.app.config.identity := by
    have named := starts.named
    simp only [App.namesConfig, Bool.and_eq_true, beq_iff_eq] at named
    exact Prod.ext named.1 named.2
  have acked :=
    (acknowledged_start_iff start hardware).2 ⟨schedule, starts⟩
  obtain ⟨-, active, sameId⟩ := CaptureSchedule.start_ok starts.accepted
  have next :
      (board.operate (.handle request hardware)).1.app =
        { board.app with
          periodic := schedule
          periodicRequestId := App.requestId request.val
          lastError := 0 } :=
    handle_starts starts hardware
  have binds (scheduleId : Id16) :
      boundBy? scheduleId
          ⟨board, .operate (.handle request hardware),
            (board.operate (.handle request hardware)).2,
            (board.operate (.handle request hardware)).1⟩ =
        if schedule.scheduleId = scheduleId then
          some board.app.config.identity
        else
          none := by
    simp only [boundBy?, start, true_and, operate, App.perform, acked,
      and_true, named, sameId]
  rw [next]
  constructor
  · intro _
    refine ⟨starts.valid, ?_⟩
    exact bindingOf_concat_some (by simp [binds])
  · intro async live
    by_cases same : schedule.scheduleId = board.app.captureScheduleId
    · exact bindingOf_concat_some (by simp [binds, same])
    · rw [bindingOf_concat_none (by simp [binds, same])]
      exact bound.pending async live

/-- A turn in which every command waits keeps the bindings. -/
theorem Bound.turn
    {turns : List Turn}
    {board : Board}
    {input : Input}
    {result : Board × Output}
    (bound : Bound turns board.app)
    (waits : Waits ⟨board, input, result.2, result.1⟩)
    (keeps : KeepsConfiguration ⟨board, input, result.2, result.1⟩)
    (cases : TurnCases board input result) :
    Bound (turns ++ [⟨board, input, result.2, result.1⟩])
      result.1.app := by
  cases cases with
  | idle =>
      refine bound.concat fun scheduleId => ?_
      unfold boundBy?
      split <;> simp [Output.silent, acknowledged]
  | streamed =>
      have kept : Bound turns board.handedOver.app := bound
      exact kept.concat fun scheduleId => rfl
  | released =>
      have kept : Bound turns board.released.app :=
        ⟨bound.schedule, fun async live =>
          bound.pending async (live.imp_left fun idle => by
            simp [released] at idle)⟩
      exact kept.concat fun scheduleId => rfl
  | operated input effect =>
      by_cases starting :
          ∃ request hardware schedule,
            input = .handle request hardware ∧
              request.val.messageType = Message.startPeriodic ∧
              board.app.Starts request.val schedule
      · obtain ⟨request, hardware, schedule, rfl, start, starts⟩ := starting
        exact bound.start start starts
      · have kept : Bound turns (board.operate input).1.app := by
          refine bound.effect ?_ effect
          rintro request hardware rfl
          refine ⟨waits request hardware rfl,
            fun candidate => keeps request hardware candidate rfl, ?_⟩
          intro schedule starts
          exact starting
            ⟨request, hardware, schedule, rfl,
              starts.dispatched.messageType, starts⟩
        refine kept.concat fun scheduleId => ?_
        unfold boundBy?
        split
        · rename_i request hardware shape
          cases shape
          refine if_neg ?_
          rintro ⟨start, -, acked⟩
          obtain ⟨schedule, starts⟩ :=
            (acknowledged_start_iff start hardware).1 acked
          exact starting ⟨request, hardware, schedule, rfl, start, starts⟩
        · rfl

/-- The only capture among the callbacks of the periodic path is that of a due
schedule, with the stored configuration. -/
theorem periodic_capture
    {app next : App}
    {hardware : Hardware}
    {calls : List Invocation}
    {invocation : Invocation}
    (effect : App.Effect app (.runPeriodicCapture hardware) next calls)
    (member : invocation ∈ calls)
    (isCapture : invocation.call.isCapture = true) :
    app.periodicDue = true ∧ invocation = app.capture 0 0 hardware := by
  cases effect with
  | periodicIdle =>
      simp at member
  | periodicNotApplied =>
      simp only [List.mem_cons, List.not_mem_nil, or_false] at member
      rcases member with rfl | rfl <;>
        simp [App.applyProfile, App.forceSafe, Call.isCapture] at isCapture
  | periodicFailed lastError due | periodicTaken due =>
      simp only [List.mem_cons, List.not_mem_nil, or_false] at member
      rcases member with rfl | rfl | rfl
      · simp [App.applyProfile, Call.isCapture] at isCapture
      · exact ⟨due, rfl⟩
      · simp [App.forceSafe, Call.isCapture] at isCapture

/-- Over bindings that hold, a turn captures and streams what is bound. -/
theorem Bound.periodicBound
    {turns : List Turn}
    {board : Board}
    {input : Input}
    {result : Board × Output}
    (bound : Bound turns board.app)
    (cases : TurnCases board input result) :
    PeriodicBound turns ⟨board, input, result.2, result.1⟩ := by
  cases cases with
  | idle | released =>
      constructor
      · intro hardware _ invocation member
        simp [Output.silent] at member
      · intro frame streamed
        simp [Output.silent] at streamed
  | streamed pending =>
      constructor
      · intro hardware impossible
        cases impossible
      · intro frame streamed async
        cases streamed
        obtain ⟨schedule, -, -, -, hash, crc⟩ :=
          CaptureStream.frame_fields (descriptor board.app) board.waveform
        have periodic : board.app.captureIsAsync = true := by
          by_contra commanded
          have flags :
              (descriptor board.app).asyncCapture = false := by
            simpa [descriptor] using commanded
          rw [frame, CaptureStream.frame_flags, flags] at async
          exact absurd async (by decide)
        rw [frame, schedule, hash, crc]
        exact bound.pending periodic (.inl pending)
  | operated input effect =>
      constructor
      · rintro hardware shape invocation member config triggerSource
          syncTimeoutMs ran report samples call
        cases shape
        obtain ⟨due, rfl⟩ :=
          periodic_capture effect member (by simp [call, Call.isCapture])
        simp only [App.periodicDue, Bool.and_eq_true] at due
        have running := bound.schedule due.1.1.1
        cases call
        exact ⟨running.1, running.2⟩
      · intro frame streamed
        simp [operate] at streamed

/-- No binding is needed in the state a run starts in. -/
theorem started_bound
    (deviceId bootId : Id16)
    (resetReason : UInt8)
    (initialState : FirmwareState)
    (result : ConfigResult)
    (devStat : UInt8) :
    Bound []
      (App.started deviceId bootId resetReason initialState result
        devStat) := by
  constructor
  · intro active
    simp [App.started, App.init, App.recordBootConfig] at active
  · intro async
    simp [App.started, App.init, App.recordBootConfig] at async

/-- Over turns in which every command waits and every SET_CONFIG keeps the
configuration of an active schedule, captures are bound. -/
theorem everyStep_bound
    (deviceId bootId : Id16)
    (resetReason : UInt8)
    (initialState : FirmwareState)
    (result : ConfigResult)
    (devStat : UInt8)
    (waveform : Waveform)
    (inputs : List Input)
    (keeps :
      EveryStep (fun _ turn => Waits turn ∧ KeepsConfiguration turn)
        (machine.trace
          (started
            (App.started deviceId bootId resetReason initialState result
              devStat)
            waveform)
          inputs)) :
    EveryStep PeriodicBound
      (machine.trace
        (started
          (App.started deviceId bootId resetReason initialState result
            devStat)
          waveform)
        inputs) :=
  machine.everyStep_of_invariant
    (fun turns board => Bound turns board.app)
    (started_bound deviceId bootId resetReason initialState result devStat)
    (fun _ board input bound keeps =>
      bound.turn keeps.1 keeps.2 (turn_cases board input))
    (fun _ board input bound _ =>
      bound.periodicBound (turn_cases board input))
    inputs keeps

end Board

namespace MainLoop

/--
Over every run of the main loop in which no capture is pending while the
condition of the last part, read twice, first fails and then holds, and in which
every SET_CONFIG that reaches the hardware under an active schedule carries the
stored configuration and has its profile applied: every periodic capture uses,
and every frame of one is stamped with, the configuration its schedule is bound
to.
-/
theorem periodicBound_of_keepsConfiguration
    (deviceId bootId : Id16)
    (resetReason : UInt8)
    (initialState : FirmwareState)
    (result : ConfigResult)
    (devStat : UInt8)
    (waveform : Waveform)
    (captureTx : CaptureTx)
    (inputs : List Surroundings)
    (steady :
      EveryStep (fun _ part => ¬part.source.Rereads part.input)
        (machine.trace
          (started
            (App.started deviceId bootId resetReason initialState result
              devStat)
            waveform captureTx)
          inputs))
    (keeps :
      EveryStep (fun _ turn => Board.KeepsConfiguration turn)
        (history
          (machine.trace
            (started
              (App.started deviceId bootId resetReason initialState result
                devStat)
              waveform captureTx)
            inputs))) :
    EveryStep Board.PeriodicBound
      (history
        (machine.trace
          (started
            (App.started deviceId bootId resetReason initialState result
              devStat)
            waveform captureTx)
          inputs)) :=
  history_law _ waveform captureTx
    (Board.everyStep_bound deviceId bootId resetReason initialState result
      devStat waveform) inputs steady keeps

/-- A session opens and a schedule starts on the default configuration. -/
def scheduled : List Surroundings :=
  turn false (commanded (Request.helloFrame 1 (Bytes.zero 16))) ++
    turn true (commanded Request.startDefault.val)

/-- The schedule comes due, its capture is taken and its frame is handed
over. -/
def captureDue (hardware : Hardware) : List Surroundings :=
  [{ calm with elapsedQuanta := 11 }, calm, calm,
      { calm with sendComplete := true }, calm,
      { calm with hardware := hardware }, calm] ++
    (List.replicate 3 (turn true calm)).flatten

/-- The turn serves no SET_CONFIG. -/
def servesNoSetConfig (turn : Board.Turn) : Bool :=
  match turn.input with
  | .operate (.handle request _) =>
      request.val.messageType != Message.setConfig
  | _ => true

/-- Where no SET_CONFIG is served, the configuration is kept. -/
theorem keepsConfiguration_of_servesNoSetConfig
    {turn : Board.Turn}
    (serves : servesNoSetConfig turn = true) :
    Board.KeepsConfiguration turn := by
  intro request hardware candidate input configures
  simp [servesNoSetConfig, input, configures.dispatched.messageType] at serves

set_option maxRecDepth 100000 in
/-- The frame of a scheduled capture is stamped with the bound
configuration. -/
theorem periodicBound_scheduled :
    let turns :=
      history (machine.trace booted (scheduled ++ captureDue .nominal))
    Board.bindingOf (Id16.ofByte 2) turns =
        some ConfigV2.initD10x4.identity ∧
      (turns.getLast?.bind fun last => last.output.streamed).isSome = true ∧
      EveryStep Board.PeriodicBound turns := by
  refine ⟨by decide +kernel, by decide +kernel,
    periodicBound_of_keepsConfiguration
      (Bytes.zero 16) (Bytes.zero 16) 0 .sessionWait .ok 0
      (List.Vector.replicate captureSampleCount 0) (.init CaptureTx.blank)
      (scheduled ++ captureDue .nominal) (by decide +kernel)
      ((EveryStep.forall_iff _ _).2 fun turn member => ?_)⟩
  have serves :
      ∀ turn ∈
          history
            (machine.trace booted (scheduled ++ captureDue .nominal)),
        servesNoSetConfig turn = true := by
    decide +kernel
  exact keepsConfiguration_of_servesNoSetConfig (serves turn member)

/-- The default configuration with one more sample before the trigger. -/
def shiftedD10x4 : ConfigV2 :=
  { ConfigV2.initD10x4 with pretriggerCount := 65 }.rehash

/-- A complete capture with that configuration. -/
def shiftedCapture : Hardware :=
  { Hardware.nominal with
    captureReport :=
      { Hardware.nominal.captureReport with triggerSampleIndex := 65 } }

/-- A turn of the loop that serves a SET_CONFIG which the hardware takes. -/
def reconfigured (config : ConfigV2) : List Surroundings :=
  turn true
    (commanded
      (Request.setConfigFrame 3 (Id16.ofByte 3)
        ConfigV2.initD10x4.profileSha256 config))

set_option maxRecDepth 100000 in
/-- The frame of the schedule is stamped with a configuration the schedule is
not bound to. -/
theorem reconfigured_due :
    let turns :=
      history
        (machine.trace booted
          (scheduled ++ reconfigured shiftedD10x4 ++
            captureDue shiftedCapture))
    (turns.getLast?.bind fun last => last.output.streamed).map
        (fun frame =>
          (readU16 frame 6,
            decide
              (Board.bindingOf (slice frame 36 16) turns.dropLast =
                some (slice frame 100 32, readU32 frame 132)))) =
      some (Flag.async, false) := by
  decide +kernel

/-- After another configuration was accepted under the schedule, the due
capture is stamped with a configuration the schedule is not bound to. -/
theorem not_periodicBound_reconfigured :
    ¬EveryStep Board.PeriodicBound
      (history
        (machine.trace booted
          (scheduled ++ reconfigured shiftedD10x4 ++
            captureDue shiftedCapture))) := by
  intro every
  have due := reconfigured_due
  dsimp only at due
  generalize history _ = turns at *
  cases ends : turns.getLast? with
  | none =>
      rw [ends] at due
      cases due
  | some turn =>
      rw [ends] at due
      obtain ⟨frame, streamed, stamps⟩ := Option.map_eq_some_iff.1 due
      obtain ⟨async, differs⟩ := Prod.mk.inj stamps
      have bound :=
        every turns.dropLast turn []
          (List.dropLast_append_getLast? turn ends).symm
      exact of_decide_eq_false differs (bound.stamped frame streamed async)

end MainLoop

end Usac.Firmware
