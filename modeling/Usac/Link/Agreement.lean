import Usac.Link.Exchanges

namespace Usac.Link

open Library
open Firmware (App Hardware ConfigResult ConfigV2)
open Host (AcquisitionConfigV2 Frame MessageType Raised ErrorResponse Ack
  SetConfigRequest bind_eq_ok require_eq_ok ok_bind error_bind require)

/-!
# Both sides agree on the current configuration

The client names the hash it has last read back, and the firmware compares it
with the hash of its configuration, or with zeros when it has none. Both sides
agree in every reachable state in which the firmware has a configuration.
-/

/-- The configuration of the firmware carries its identifiers, and while a
session is open the client has cached none other. -/
structure Coherent
    (app : App)
    (cached : Option AcquisitionConfigV2) :
    Prop where
  hashed : Hashed app
  agreed :
    Configured app →
      ∀ config, cached = some config →
        config.profileSha256 = app.config.profileSha256

namespace Coherent

/-- A client that has cached nothing agrees with every firmware. -/
theorem none
    {app : App}
    (hashed : Hashed app) :
    Coherent app Option.none where
  hashed := hashed
  agreed _ _ cached := nomatch cached

/-- Nothing cached disagrees with a firmware without a configuration. -/
theorem of_unconfigured
    {app : App}
    (hashed : Hashed app)
    (unconfigured : ¬Configured app)
    (cached : Option AcquisitionConfigV2) :
    Coherent app cached where
  hashed := hashed
  agreed configured := absurd configured unconfigured

/-- The cached configuration is that of the firmware. -/
theorem read
    {app : App}
    (hashed : Hashed app) :
    Coherent app (some (hostConfig app.config)) where
  hashed := hashed
  agreed _ config cached := by
    obtain rfl := Option.some.inj cached
    rfl

/-- A session that is still open was kept steady, so both sides still agree. -/
theorem steady
    {app next : App}
    {cached : Option AcquisitionConfigV2}
    (coherent : Coherent app cached)
    (hashed : Hashed next)
    (kept : next.helloEstablished = true → Steady app next) :
    Coherent next cached where
  hashed := hashed
  agreed configured config same := by
    have steady := kept configured.1
    rw [steady.config]
    exact coherent.agreed
      ⟨steady.established.symm.trans configured.1,
        steady.configValid.symm.trans configured.2⟩
      config same

/-- Both sides agree when the next command arrives. -/
theorem reached
    {app : App}
    {cached : Option AcquisitionConfigV2}
    (coherent : Coherent app cached)
    (exchange : Exchange) :
    Coherent (exchange.reached app) cached :=
  coherent.steady (exchange.reached_hashed coherent.hashed)
    Exchange.reached_of_established

end Coherent

namespace Method

/-- What a failed call leaves: the client keeps its session only when both
sides agree. -/
def Kept (raised : Raised) (call : Call) : Prop :=
  Hashed call.app ∧
    (raised.isA .osError = false →
      Coherent call.app call.client.deviceConfig)

/-- Reading and caching the configuration makes both sides agree. -/
theorem readAndCache_coherent :
    Ensures (do
        let config ← readConfig
        cache config
        return config)
      (fun call => Hashed call.app)
      (fun config call =>
        Coherent call.app call.client.deviceConfig ∧
          call.client.deviceConfig = some config)
      Kept := by
  intro call hashed
  rw [perform_bind]
  have reads := perform_readConfig hashed
  generalize readConfig.perform call = outcome at reads
  cases reads with
  | lost silent =>
      exact ⟨hashed, fun kept => absurd kept (by decide)⟩
  | read exchange rest met configured =>
      exact ⟨.read (exchange.reached_hashed hashed), rfl⟩
  | refused exchange rest met unconfigured raised kept =>
      have reached := exchange.reached_hashed hashed
      exact ⟨reached, fun _ => .of_unconfigured reached unconfigured _⟩

/-- A client that has cached nothing reads the configuration. -/
theorem perform_currentConfig_none
    {call : Call}
    (cached : call.client.deviceConfig = none) :
    currentConfig.perform call =
      (do
        let config ← readConfig
        cache config
        return config : Method AcquisitionConfigV2).perform call := by
  unfold currentConfig
  rw [perform_bind, show (get : Method Call).perform call =
    (.ok call, call) from rfl]
  dsimp only
  rw [cached]

/-- A client takes the configuration it has cached. -/
theorem perform_currentConfig_some
    {call : Call}
    {config : AcquisitionConfigV2}
    (cached : call.client.deviceConfig = some config) :
    currentConfig.perform call = (.ok config, call) := by
  unfold currentConfig
  rw [perform_bind, show (get : Method Call).perform call =
    (.ok call, call) from rfl]
  dsimp only
  rw [cached]
  rfl

/-- The configuration taken for the current one is the cached one. -/
theorem currentConfig_coherent :
    Ensures currentConfig
      (fun call => Coherent call.app call.client.deviceConfig)
      (fun config call =>
        Coherent call.app call.client.deviceConfig ∧
          call.client.deviceConfig = some config)
      Kept := by
  intro call coherent
  rcases cached : call.client.deviceConfig with _ | config
  · rw [perform_currentConfig_none cached]
    exact readAndCache_coherent call coherent.hashed
  · rw [perform_currentConfig_some cached]
    exact ⟨coherent, cached⟩

/-- A SET_CONFIG leaves the identifiers right, and raises only when both sides
still agree. -/
theorem setConfig_coherent
    (config : AcquisitionConfigV2)
    (requestId : Bytes 16)
    (expected : Bytes 32) :
    Ensures (setConfig config requestId expected)
      (fun call => Coherent call.app call.client.deviceConfig)
      (fun _ call => Hashed call.app)
      Kept := by
  intro call coherent
  have sends := setConfig_sends config requestId expected call
  generalize (setConfig config requestId expected).perform call = outcome
    at sends
  cases sends with
  | unsent raised => exact ⟨coherent.hashed, fun _ => coherent⟩
  | lost silent =>
      exact ⟨coherent.hashed, fun kept => absurd kept (by decide)⟩
  | unanswered exchange rest met =>
      exact ⟨exchange.reached_hashed coherent.hashed,
        fun kept => absurd kept (by decide)⟩
  | unchanged exchange rest met replyCache result refused =>
      have reached := coherent.reached exchange
      cases result with
      | error raised =>
          exact ⟨reached.hashed, fun _ => ⟨reached.hashed, reached.agreed⟩⟩
      | ok => exact reached.hashed
  | failed exchange rest met failure replyCache raised =>
      exact ⟨hashed_of_invalid rfl, fun _ =>
        .of_unconfigured (hashed_of_invalid rfl)
          (not_configured_of_invalid rfl) _⟩
  | applied exchange rest met established matching candidate identified =>
      exact fun _ => identified

/-- A call of `apply_config` keeps both sides in agreement, or loses the
session. -/
theorem applyConfig_coherent
    (config : AcquisitionConfigV2)
    (requestId : Bytes 16) :
    Ensures (applyConfig config requestId)
      (fun call => Coherent call.app call.client.deviceConfig)
      (fun _ call => Coherent call.app call.client.deviceConfig)
      Kept := by
  unfold applyConfig
  refine Ensures.bind currentConfig_coherent fun current => ?_
  refine Ensures.bind
    ((setConfig_coherent config requestId current.profileSha256).imp
      (fun call holds => holds.1) (fun _ _ holds => holds)
      (fun _ _ holds => holds)) fun _ => ?_
  exact readAndCache_coherent.imp (fun _ holds => holds)
    (fun _ _ holds => holds.1) (fun _ _ holds => holds)

end Method

/-! ## Every reachable state -/

/-- A request that neither opens a session nor configures. -/
theorem handle_steady
    {request : Firmware.Mcu.FrameView}
    (noHello : request.messageType ≠ Firmware.Message.hello)
    (noConfig : request.messageType ≠ Firmware.Message.setConfig)
    (app : App)
    (hardware : Hardware) :
    Steady app (app.handle request App.responseCapacity hardware).app := by
  have effect := App.handle_effect app request hardware
  generalize (app.handle request App.responseCapacity hardware).app = next
    at effect
  generalize (app.handle request App.responseCapacity hardware).calls = calls
    at effect
  cases effect with
  | greeted _ hello | restarted _ hello => exact absurd hello noHello
  | configRefused _ _ dispatched =>
      exact absurd dispatched.messageType noConfig
  | configFailed _ _ _ configures | configApplied _ _ _ configures =>
      exact absurd configures.dispatched.messageType noConfig
  | _ => exact ⟨rfl, rfl, rfl, rfl, rfl⟩

/-- A request that does not configure keeps the identifiers. -/
theorem handle_hashed
    {request : Firmware.Mcu.FrameView}
    {app : App}
    (noConfig : request.messageType ≠ Firmware.Message.setConfig)
    (hashed : Hashed app)
    (hardware : Hardware) :
    Hashed (app.handle request App.responseCapacity hardware).app := by
  have effect := App.handle_effect app request hardware
  generalize (app.handle request App.responseCapacity hardware).app = next
    at effect
  generalize (app.handle request App.responseCapacity hardware).calls = calls
    at effect
  cases effect with
  | restarted =>
      have ended := perform_hashed hashed (.endSession hardware)
      exact fun valid => ended valid
  | configRefused _ _ dispatched =>
      exact absurd dispatched.messageType noConfig
  | configFailed _ _ _ configures | configApplied _ _ _ configures =>
      exact absurd configures.dispatched.messageType noConfig
  | _ => exact fun valid => hashed valid

/-- The two message types have different codes. -/
theorem code_ne_of_ne
    {first second : MessageType}
    (different : first ≠ second) :
    first.code ≠ second.code := by
  intro same
  have found := MessageType.ofCode?_code first
  rw [same, MessageType.ofCode?_code] at found
  exact different (Option.some.inj found).symm

namespace Exchange

variable {exchange : Exchange} {app : App} {frame : Frame}

/-- An exchange that does not configure keeps the identifiers. -/
theorem deliver_hashed
    (noConfig : frame.messageType ≠ .setConfig)
    (hashed : Hashed app) :
    Hashed (exchange.deliver app frame).1 := by
  have reached := exchange.reached_hashed hashed
  unfold deliver
  split_ifs
  · exact handle_hashed (code_ne_of_ne noConfig) reached exchange.hardware
  · exact reached

/-- An exchange that neither opens a session nor configures keeps both sides
in agreement. -/
theorem deliver_coherent
    {cached : Option AcquisitionConfigV2}
    (noHello : frame.messageType ≠ .hello)
    (noConfig : frame.messageType ≠ .setConfig)
    (coherent : Coherent app cached) :
    Coherent (exchange.deliver app frame).1 cached := by
  have reached := coherent.reached exchange
  unfold deliver
  split_ifs
  · have steady :
        Steady (exchange.reached app)
          ((exchange.reached app).handle (received frame)
            App.responseCapacity exchange.hardware).app :=
      handle_steady (code_ne_of_ne noHello) (code_ne_of_ne noConfig) _ _
    exact reached.steady
      (handle_hashed (code_ne_of_ne noConfig) reached.hashed _)
      fun _ => steady
  · exact reached

end Exchange

namespace Method

/-- A new sequence number keeps what does not depend on it. -/
theorem nextSequence_ensures
    {holds : Call → Prop}
    (kept :
      ∀ call, holds call → holds (requested call call.app call.exchanges)) :
    Ensures nextSequence holds (fun _ => holds) (fun _ => holds) :=
  fun call start => kept call start

/-- A request keeps what every exchange keeps. -/
theorem request_ensures
    {holds : Call → Prop}
    {frame : Frame}
    (responseType : MessageType)
    (kept :
      ∀ call exchange rest, call.exchanges = exchange :: rest → holds call →
        holds (answered call exchange rest frame)) :
    Ensures (request frame responseType) holds (fun _ => holds)
      (fun _ => holds) := by
  intro call start
  rw [perform_request_cases]
  cases frame.encode with
  | error raised => exact start
  | ok bytes =>
      rcases met : call.exchanges with _ | ⟨exchange, rest⟩
      · exact start
      · have answer := kept call exchange rest met start
        dsimp only
        cases checked frame.sequence responseType
          (exchange.deliver call.app frame).2 <;> exact answer

/-- Opening a session keeps what new sequence numbers and the commands that do
not configure keep. -/
theorem init_ensures
    {holds : Call → Prop}
    (nonce : Bytes 16)
    (numbered :
      ∀ call, holds call → holds (requested call call.app call.exchanges))
    (kept :
      ∀ frame : Frame, frame.messageType ≠ .setConfig →
        ∀ call exchange rest, call.exchanges = exchange :: rest →
          holds call → holds (answered call exchange rest frame)) :
    Ensures (init nonce) holds (fun _ => holds) (fun _ => holds) := by
  have numbers :
      Ensures nextSequence holds (fun _ => holds) (fun _ => holds) :=
    nextSequence_ensures numbered
  have decodes {Result : Type} (computation : Except Raised Result) :
      Ensures (liftM computation) holds (fun _ => holds) (fun _ => holds) :=
    .lift computation (fun _ _ _ start => start) (fun _ _ _ start => start)
  have greets :
      Ensures (hello nonce) holds (fun _ => holds) (fun _ => holds) := by
    unfold hello
    refine .bind numbers fun sequence => ?_
    refine .bind (request_ensures _ (kept _ nofun)) fun frame => ?_
    refine .bind (decodes _) fun hello => ?_
    refine .bind (decodes _) fun _ => ?_
    exact .pure hello fun _ start => start
  have queries :
      Ensures queryCapabilities holds (fun _ => holds) (fun _ => holds) := by
    unfold queryCapabilities
    refine .bind numbers fun sequence => ?_
    refine .bind (request_ensures _ (kept _ nofun)) fun frame => ?_
    exact decodes _
  unfold init
  refine .bind greets fun _ => .bind queries fun _ => ?_
  exact .pure _ fun _ start => start

/-- Any other method keeps what a new sequence number and its command keep. -/
theorem command_ensures
    {holds : Call → Prop}
    {messageType : MessageType}
    (responseType : MessageType)
    (payload : List UInt8)
    (numbered :
      ∀ call, holds call → holds (requested call call.app call.exchanges))
    (kept :
      ∀ sequence call exchange rest, call.exchanges = exchange :: rest →
        holds call →
          holds (answered call exchange rest
            (.command messageType sequence payload))) :
    Ensures (command messageType responseType payload) holds
      (fun _ => holds) (fun _ => holds) := by
  unfold command
  refine .bind (nextSequence_ensures numbered) fun sequence => ?_
  refine .bind (request_ensures responseType (kept sequence)) fun frame => ?_
  exact .pure _ fun _ start => start

/-- A session that has read no configuration yet. -/
def Unread (call : Call) : Prop :=
  Hashed call.app ∧ call.client.deviceConfig = none

/-- Opening a session reads no configuration. -/
theorem init_unread (nonce : Bytes 16) :
    Ensures (init nonce) Unread (fun _ => Unread) (fun _ => Unread) :=
  init_ensures nonce (fun _ unread => unread)
    fun _ noConfig _ exchange _ _ unread =>
      ⟨exchange.deliver_hashed noConfig unread.1, unread.2⟩

/-- Any other method keeps both sides in agreement. -/
theorem command_coherent
    {messageType : MessageType}
    (noHello : messageType ≠ .hello)
    (noConfig : messageType ≠ .setConfig)
    (responseType : MessageType)
    (payload : List UInt8) :
    Ensures (command messageType responseType payload)
      (fun call => Coherent call.app call.client.deviceConfig)
      (fun _ call => Coherent call.app call.client.deviceConfig)
      (fun _ call => Coherent call.app call.client.deviceConfig) :=
  command_ensures responseType payload (fun _ coherent => coherent)
    fun _ _ exchange _ _ coherent =>
      exchange.deliver_coherent noHello noConfig coherent

end Method

namespace Joint

/-- Both sides agree on the current configuration. -/
def Coherent (joint : Joint) : Prop :=
  Link.Coherent joint.app (joint.client.bind Client.deviceConfig)

/-- A method that keeps the agreement or loses the session keeps the joint
state coherent. -/
theorem Coherent.invoke
    {Result : Type}
    {joint : Joint}
    {method : Method Result}
    (coherent : joint.Coherent)
    (ensured :
      method.Ensures
        (fun call => Link.Coherent call.app call.client.deviceConfig)
        (fun _ call => Link.Coherent call.app call.client.deviceConfig)
        Method.Kept)
    (exchanges : List Exchange) :
    (joint.invoke method exchanges).1.Coherent := by
  obtain ⟨app, client⟩ := joint
  cases client with
  | none => exact coherent
  | some client =>
      have after := ensured ⟨app, client, exchanges⟩ coherent
      unfold Joint.invoke
      dsimp only
      rcases outcome : method.perform ⟨app, client, exchanges⟩ with
        ⟨raised | result, call⟩
      · rw [outcome] at after
        obtain ⟨hashed, kept⟩ := after
        cases lost : raised.isA .osError with
        | true =>
            simp only [Joint.lost, lost, if_true]
            exact .none hashed
        | false =>
            simp only [Joint.lost, lost]
            exact kept lost
      · rw [outcome] at after
        exact after

/-- Every step keeps both sides in agreement. -/
theorem Coherent.step
    {joint : Joint}
    (coherent : joint.Coherent)
    (input : Input) :
    (machine.step joint input).1.Coherent := by
  cases input with
  | background event =>
      exact coherent.steady (perform_hashed coherent.hashed event)
        perform_of_established
  | disconnect => exact .none coherent.hashed
  | connect nonce exchanges =>
      have opened :=
        Method.init_unread nonce ⟨joint.app, ⟨0, none⟩, exchanges⟩
          ⟨coherent.hashed, rfl⟩
      simp only [machine, Joint.connect]
      rcases outcome :
          (Method.init nonce).perform ⟨joint.app, ⟨0, none⟩, exchanges⟩ with
        ⟨raised | result, call⟩
      · rw [outcome] at opened
        exact .none opened.1
      · rw [outcome] at opened
        obtain ⟨hashed, unread⟩ := opened
        simp only [Joint.Coherent, Option.bind_some, unread]
        exact .none hashed
  | applyConfig config requestId exchanges =>
      exact coherent.invoke (Method.applyConfig_coherent config requestId)
        exchanges
  | command messageType responseType payload exchanges =>
      have command :=
        Method.command_coherent messageType.property.1 messageType.property.2
          responseType payload
      exact coherent.invoke
        (command.imp (fun _ holds => holds) (fun _ _ holds => holds)
          fun _ _ holds => ⟨holds.hashed, fun _ => holds⟩)
        exchanges

/-- Both sides agree in every reachable state. -/
theorem coherent_after
    (deviceId : Bytes 16)
    (result : ConfigResult)
    (devStat : UInt8)
    (inputs : List Input) :
    (machine.after (started deviceId result devStat) inputs).Coherent := by
  have initially : (started deviceId result devStat).Coherent :=
    Link.Coherent.none (boot_hashed deviceId result devStat)
  exact machine.invariant_of_step Coherent initially
    (fun _ input coherent => coherent.step input) inputs

end Joint

end Usac.Link
