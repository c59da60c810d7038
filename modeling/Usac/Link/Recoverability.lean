import Usac.Link.Agreement

namespace Usac.Link

open Library
open Firmware (App Hardware ConfigResult ConfigV2)
open Host (AcquisitionConfigV2 Frame MessageType Raised ErrorResponse Ack
  SetConfigRequest bind_eq_ok require_eq_ok ok_bind error_bind require)

/-!
# A configured device stays configurable

A call of `apply_config` configures the device exactly when the client can name
the hash that the firmware requires. After a SET_CONFIG that the hardware
refused it cannot, and nothing but a new boot helps.
-/

/-! ## When a configuration is accepted -/

namespace Method

/-- The exchanges ahead are nominal, and there are enough of them. -/
structure Ahead (count : Nat) (call : Call) : Prop where
  nominal : ∀ exchange ∈ call.exchanges, exchange.Nominal
  enough : count ≤ call.exchanges.length

/-- The next exchange of a call that has one ahead. -/
theorem Ahead.next
    {count : Nat}
    {call : Call}
    (ahead : Ahead (count + 1) call)
    {exchange : Exchange}
    {rest : List Exchange}
    (met : call.exchanges = exchange :: rest) :
    exchange.Nominal ∧
      ∀ app, Ahead count (requested call app rest) := by
  obtain ⟨nominal, enough⟩ := ahead
  rw [met] at nominal enough
  obtain ⟨first, others⟩ := List.forall_mem_cons.1 nominal
  exact ⟨first, fun app => ⟨others, Nat.le_of_succ_le_succ enough⟩⟩

/-- An identity stays fresh while the firmware is steady. -/
theorem Fresh.steady
    {app next : App}
    {requestId : Bytes 16}
    (fresh : Fresh app requestId)
    (kept : Steady app next) :
    Fresh next requestId := by
  rw [Fresh, kept.setCache]
  exact fresh

/-- A call with an exchange ahead does not lose the connection. -/
theorem Ahead.not_silent
    {count : Nat}
    {call : Call}
    (ahead : Ahead (count + 1) call) :
    call.exchanges ≠ [] := by
  intro silent
  have enough := ahead.enough
  rw [silent] at enough
  exact absurd enough (Nat.not_succ_le_zero count)

/-- Reading and caching a configuration that the firmware has. -/
theorem readAndCache_returns
    (count : Nat)
    (holds : App → Prop)
    (steady : ∀ app next, holds app → Steady app next → holds next) :
    Ensures (do
        let config ← readConfig
        cache config
        return config)
      (fun call =>
        Ahead (count + 1) call ∧ Hashed call.app ∧ Configured call.app ∧
          holds call.app)
      (fun config call =>
        Ahead count call ∧ Hashed call.app ∧ Configured call.app ∧
          holds call.app ∧ config = hostConfig call.app.config)
      (fun _ _ => False) := by
  rintro call ⟨ahead, hashed, configured, holding⟩
  rw [perform_bind]
  have reads := perform_readConfig hashed
  generalize readConfig.perform call = outcome at reads
  cases reads with
  | lost silent => exact ahead.not_silent silent
  | read exchange rest met reachedConfigured =>
      obtain ⟨nominal, following⟩ := ahead.next met
      have kept : Steady call.app (exchange.reached call.app) :=
        nominal.reached
      exact ⟨⟨(following call.app).nominal, (following call.app).enough⟩,
        exchange.reached_hashed hashed, reachedConfigured,
        steady _ _ holding kept, rfl⟩
  | refused exchange rest met unconfigured raised kept =>
      obtain ⟨nominal, -⟩ := ahead.next met
      have steadyApp : Steady call.app (exchange.reached call.app) :=
        nominal.reached
      exact unconfigured
        ⟨steadyApp.established.trans configured.1,
          steadyApp.configValid.trans configured.2⟩

/-- The answer to a SET_CONFIG that configures. -/
theorem deliver_applied
    {exchange : Exchange}
    {app : App}
    {frame : Frame}
    {config : ConfigV2}
    (accepted : (received frame).Accepted)
    (configures :
      (exchange.reached app).Configures (received frame) config)
    (applies : exchange.hardware.applyResult = .ok) :
    let applied :=
      (exchange.reached app).configApplied config exchange.hardware.applyReport
    let reply :=
      App.reply (received frame) Firmware.Message.ack
        (applied.ackPayload (received frame) Firmware.Message.setConfig
          config.deviceConfigCrc32)
    exchange.deliver app frame =
      ({ applied with
          setCache := Firmware.ReplyCache.store (received frame) reply },
        some reply) := by
  have dispatched := configures.dispatched
  obtain ⟨next, response⟩ := handleSetConfig_applied configures applies
  dsimp only
  rw [Exchange.deliver, if_pos accepted]
  dsimp only
  rw [handle_setConfig dispatched.flags dispatched.messageType,
    if_neg (by simp [dispatched.established]), next, response]

/-- A fresh SET_CONFIG that names the current hash configures. -/
theorem configures_setConfigFrame
    {app : App}
    {config : ConfigV2}
    {requestId : Bytes 16}
    {expected : Bytes 32}
    (identified : config.Identified)
    (established : app.helloEstablished = true)
    (fresh : Fresh app requestId)
    (named : expected = app.currentHash)
    (sequence : UInt32) :
    app.Configures
      (Firmware.Request.setConfigFrame sequence requestId expected config)
      config := by
  have fields :
      (Firmware.Request.setConfigFrame sequence requestId expected
          config).payload =
        requestId.toList ++ expected.toList ++ config.wireForm :=
    rfl
  obtain ⟨identity, hash⟩ := received_setConfig fields
  have wire :
      (slice (requestId.toList ++ expected.toList ++ config.wireForm) 48
        ConfigV2.wireLength).toList = config.wireForm := by
    rw [slice_append_right (by simp),
      show 48 - (requestId.toList ++ expected.toList).length = 0 by simp]
    exact congrArg List.Vector.toList
      (slice_toList (⟨config.wireForm, ConfigV2.length_wireForm config⟩ :
        Bytes ConfigV2.wireLength))
  refine ⟨⟨rfl, established, rfl⟩, ?_, ?_, ?_⟩
  · apply lookup_ne_replay
    rw [identity]
    exact fresh
  · exact hashMismatch?_eq_none.2 (hash.trans named)
  · rw [fields, wire]
    exact decode_wireForm identified

/-- The SET_CONFIG of a safe configuration that names the current hash. -/
theorem setConfig_returns
    {count : Nat}
    {config : AcquisitionConfigV2}
    (safe : config.Safe)
    (requestId : Bytes 16)
    (expected : Bytes 32) :
    Ensures (setConfig config requestId expected)
      (fun call =>
        Ahead (count + 1) call ∧ call.app.helloEstablished = true ∧
          Fresh call.app requestId ∧ expected = call.app.currentHash)
      (fun _ call =>
        Ahead count call ∧ Hashed call.app ∧ Configured call.app ∧
          hostConfig call.app.config = config ∧ call.app.state = .idleSafe)
      (fun _ _ => False) := by
  obtain ⟨firmware, identified, rfl⟩ := exists_firmwareConfig safe
  rintro call ⟨ahead, established, fresh, named⟩
  have payload :
      SetConfigRequest.encode ⟨requestId, expected, hostConfig firmware⟩ =
        .ok (requestId.toList ++ expected.toList ++
          (hostConfig firmware).wireForm) := by
    refine bind_eq_ok.2 ⟨(hostConfig firmware).wireForm, ?_, rfl⟩
    exact AcquisitionConfigV2.encode_eq_ok.2 ⟨safe.consistent, rfl⟩
  rw [perform_setConfig, payload]
  rcases met : call.exchanges with _ | ⟨exchange, rest⟩
  · exact absurd met ahead.not_silent
  obtain ⟨nominal, following⟩ := ahead.next met
  have kept : Steady call.app (exchange.reached call.app) := nominal.reached
  dsimp only
  rw [wireForm_hostConfig]
  let frame :=
    Frame.command .setConfig (call.client.sequence + 1)
      (requestId.toList ++ expected.toList ++ firmware.wireForm)
  have accepted : (received frame).Accepted :=
    Firmware.Request.setConfigFrame_accepted (call.client.sequence + 1)
      requestId expected firmware
  have configures :
      (exchange.reached call.app).Configures (received frame) firmware :=
    configures_setConfigFrame identified (kept.established.trans established)
      (fresh.steady kept) (named.trans kept.currentHash.symm)
      (call.client.sequence + 1)
  have identity : slice (received frame).payload 0 16 = requestId :=
    (received_setConfig rfl).1
  rw [deliver_applied accepted configures nominal.applies]
  dsimp only
  rw [acknowledged_reply (received frame) identity (call.client.sequence + 1)
    rfl]
  exact ⟨following _, fun _ => identified,
    ⟨kept.established.trans established, rfl⟩, rfl, rfl⟩

/-- The client can name the hash that the firmware requires: their session is
open, and the firmware has a configuration, or requires zeros which are what the
client has cached. -/
def Nameable (app : App) (cached : Option AcquisitionConfigV2) : Prop :=
  app.helloEstablished = true ∧
    (app.configValid = true ∨
      ∃ config, cached = some config ∧ config.profileSha256 = Bytes.zero 32)

/-- The configuration taken for the current one has the required hash. -/
theorem currentConfig_returns (requestId : Bytes 16) :
    Ensures currentConfig
      (fun call =>
        Ahead 3 call ∧ Coherent call.app call.client.deviceConfig ∧
          Fresh call.app requestId ∧
          Nameable call.app call.client.deviceConfig)
      (fun current call =>
        Ahead 2 call ∧ call.app.helloEstablished = true ∧
          Fresh call.app requestId ∧
          current.profileSha256 = call.app.currentHash)
      (fun _ _ => False) := by
  rintro call ⟨ahead, coherent, fresh, established, nameable⟩
  rcases cached : call.client.deviceConfig with _ | config
  · rw [perform_currentConfig_none cached]
    have configured : Configured call.app := by
      refine ⟨established, nameable.resolve_right ?_⟩
      rintro ⟨config, same, -⟩
      exact nomatch cached.symm.trans same
    have returns :=
      readAndCache_returns 2 (fun app => Fresh app requestId)
        (fun _ _ fresh kept => fresh.steady kept) call
        ⟨ahead, coherent.hashed, configured, fresh⟩
    revert returns
    generalize Method.perform _ call = outcome
    rcases outcome with ⟨raised | current, next⟩
    · exact id
    · rintro ⟨ahead, -, ⟨established, valid⟩, fresh, rfl⟩
      refine ⟨ahead, established, fresh, ?_⟩
      rw [App.currentHash, if_pos valid]
      rfl
  · rw [perform_currentConfig_some cached]
    refine ⟨⟨ahead.nominal, Nat.le_of_succ_le ahead.enough⟩, established,
      fresh, ?_⟩
    unfold App.currentHash
    split_ifs with valid
    · exact coherent.agreed ⟨established, valid⟩ config cached
    · obtain ⟨_, same, zero⟩ := nameable.resolve_left valid
      obtain rfl := Option.some.inj (cached.symm.trans same)
      exact zero

/-- A nameable hash is enough for `apply_config` to configure the device. -/
theorem applyConfig_returns
    {config : AcquisitionConfigV2}
    (safe : config.Safe)
    (requestId : Bytes 16) :
    Ensures (applyConfig config requestId)
      (fun call =>
        Ahead 3 call ∧ Coherent call.app call.client.deviceConfig ∧
          Fresh call.app requestId ∧
          Nameable call.app call.client.deviceConfig)
      (fun result call =>
        result = config ∧ Configured call.app ∧
          hostConfig call.app.config = config ∧ call.app.state = .idleSafe)
      (fun _ _ => False) := by
  unfold applyConfig
  refine Ensures.bind (currentConfig_returns requestId) fun current => ?_
  refine Ensures.bind
    (setConfig_returns safe requestId current.profileSha256) fun _ => ?_
  have readback :=
    readAndCache_returns 0
      (fun app => hostConfig app.config = config ∧ app.state = .idleSafe)
      (fun _ _ holds kept =>
        ⟨kept.config.symm ▸ holds.1, kept.state.trans holds.2⟩)
  refine readback.imp (fun _ holds => holds) ?_ fun _ _ holds => holds
  rintro result call ⟨-, -, configured, ⟨same, idle⟩, rfl⟩
  exact ⟨same, configured, same, idle⟩

/-- A SET_CONFIG that cannot name the current hash is refused. -/
theorem setConfig_refused
    (config : AcquisitionConfigV2)
    (requestId : Bytes 16)
    (expected : Bytes 32) :
    Ensures (setConfig config requestId expected)
      (fun call =>
        Ahead 1 call ∧ Fresh call.app requestId ∧
          ¬(call.app.helloEstablished = true ∧
            expected = call.app.currentHash))
      (fun _ _ => False)
      (fun _ _ => True) := by
  rintro call ⟨ahead, fresh, unnamed⟩
  have sends := setConfig_sends config requestId expected call
  generalize (setConfig config requestId expected).perform call = outcome
    at sends
  cases sends with
  | unsent raised => trivial
  | lost silent => trivial
  | unanswered exchange rest met => trivial
  | unchanged exchange rest met replyCache result refused =>
      have kept : Steady call.app (exchange.reached call.app) :=
        (ahead.next met).1.reached
      obtain ⟨raised, rfl⟩ := refused (fresh.steady kept)
      trivial
  | failed exchange rest met failure replyCache raised => trivial
  | applied exchange rest met established matching candidate identified =>
      have kept : Steady call.app (exchange.reached call.app) :=
        (ahead.next met).1.reached
      exact unnamed ⟨kept.established.symm.trans established,
        matching.trans kept.currentHash⟩

/-- Without a nameable hash the client raises, or takes a configuration that
has another one. -/
theorem currentConfig_unnamed (requestId : Bytes 16) :
    Ensures currentConfig
      (fun call =>
        Ahead 3 call ∧ Hashed call.app ∧ Fresh call.app requestId ∧
          ¬Nameable call.app call.client.deviceConfig)
      (fun current call =>
        Ahead 1 call ∧ Fresh call.app requestId ∧
          ¬(call.app.helloEstablished = true ∧
            current.profileSha256 = call.app.currentHash))
      (fun _ _ => True) := by
  rintro call ⟨ahead, hashed, fresh, unnamed⟩
  rcases cached : call.client.deviceConfig with _ | config
  · rw [perform_currentConfig_none cached, perform_bind]
    have reads := perform_readConfig hashed
    generalize readConfig.perform call = outcome at reads
    cases reads with
    | lost silent => trivial
    | read exchange rest met configured =>
        have kept : Steady call.app (exchange.reached call.app) :=
          (ahead.next met).1.reached
        exact absurd
          ⟨kept.established.symm.trans configured.1,
            .inl (kept.configValid.symm.trans configured.2)⟩ unnamed
    | refused exchange rest met unconfigured raised kept => trivial
  · rw [perform_currentConfig_some cached]
    refine ⟨⟨ahead.nominal, le_trans (by decide) ahead.enough⟩, fresh, ?_⟩
    rintro ⟨established, named⟩
    apply unnamed
    unfold App.currentHash at named
    split_ifs at named with valid
    · exact ⟨established, .inl valid⟩
    · exact ⟨established, .inr ⟨config, cached, named⟩⟩

/-- Without a nameable hash `apply_config` never returns. -/
theorem applyConfig_unnamed
    (config : AcquisitionConfigV2)
    (requestId : Bytes 16) :
    Ensures (applyConfig config requestId)
      (fun call =>
        Ahead 3 call ∧ Hashed call.app ∧ Fresh call.app requestId ∧
          ¬Nameable call.app call.client.deviceConfig)
      (fun _ _ => False)
      (fun _ _ => True) := by
  unfold applyConfig
  refine Ensures.bind (currentConfig_unnamed requestId) fun current => ?_
  refine Ensures.bind
    (setConfig_refused config requestId current.profileSha256) fun _ => ?_
  exact fun _ impossible => impossible.elim

end Method

namespace Joint

/-- One call of `apply_config` with a safe configuration configures the device,
when nothing disturbs it and the request identity it draws is new. -/
def Recovers (joint : Joint) : Prop :=
  ∀ (config : AcquisitionConfigV2)
    (requestId : Bytes 16)
    (exchanges : List Exchange),
    config.Safe →
    Method.Fresh joint.app requestId →
    (∀ exchange ∈ exchanges, exchange.Nominal) →
    3 ≤ exchanges.length →
      let outcome :=
        machine.step joint (.applyConfig config requestId exchanges)
      outcome.2 = some (.ok config) ∧ Configured outcome.1.app ∧
        hostConfig outcome.1.app.config = config ∧
        outcome.1.app.state = .idleSafe

/-- The host has a session, and can name the hash that the firmware requires. -/
def Configurable (joint : Joint) : Prop :=
  ∃ client, joint.client = some client ∧
    Method.Nameable joint.app client.deviceConfig

/-- A configurable device is configured by one call. -/
theorem Coherent.recovers
    {joint : Joint}
    (coherent : joint.Coherent)
    (configurable : joint.Configurable) :
    joint.Recovers := by
  obtain ⟨app, _⟩ := joint
  obtain ⟨client, rfl, nameable⟩ := configurable
  intro config requestId exchanges safe fresh nominal enough
  have returns :=
    Method.applyConfig_returns safe requestId ⟨app, client, exchanges⟩
      ⟨⟨nominal, enough⟩, coherent, fresh, nameable⟩
  simp only [machine, Joint.invoke]
  rcases outcome :
      (Method.applyConfig config requestId).perform ⟨app, client, exchanges⟩
    with ⟨raised | result, call⟩
  · rw [outcome] at returns
    exact returns.elim
  · rw [outcome] at returns
    obtain ⟨rfl, configured, same, idle⟩ := returns
    exact ⟨rfl, configured, same, idle⟩

/-- The default configuration may be applied. -/
theorem safe_initD10x4 : (hostConfig ConfigV2.initD10x4).Safe where
  consistent := consistent_hostConfig ConfigV2.initD10x4_identified
  approved := by rfl

/-- There is always a request identity that the cache does not hold. -/
theorem exists_fresh (app : App) : ∃ requestId, Method.Fresh app requestId := by
  by_cases zero : app.setCache.requestId = Bytes.zero 16
  · refine ⟨Firmware.Id16.ofByte 1, fun _ same => ?_⟩
    exact absurd (same.trans zero) (by decide)
  · exact ⟨Bytes.zero 16, fun _ same => zero same.symm⟩

/-- An exchange with hardware that takes everything. -/
def undisturbed : Exchange := ⟨[], Hardware.nominal⟩

/-- Nothing disturbs it. -/
theorem undisturbed_nominal : undisturbed.Nominal where
  kept _ member := nomatch member
  applies := rfl

/-- A method that raises is not taken to return. -/
theorem invoke_raises
    {Result : Type}
    {joint : Joint}
    {method : Method Result}
    {exchanges : List Exchange}
    {before : Call → Prop}
    {raises : Raised → Call → Prop}
    (ensured : method.Ensures before (fun _ _ => False) raises)
    (ready :
      ∀ client, joint.client = some client →
        before ⟨joint.app, client, exchanges⟩)
    (result : Result) :
    (joint.invoke method exchanges).2 ≠ .ok result := by
  obtain ⟨app, client⟩ := joint
  cases client with
  | none => exact nofun
  | some client =>
      have after := ensured ⟨app, client, exchanges⟩ (ready client rfl)
      unfold Joint.invoke
      dsimp only
      rcases outcome : method.perform ⟨app, client, exchanges⟩ with
        ⟨raised | returned, call⟩
      · unfold invoked
        split_ifs
        · exact nofun
        · exact nofun
      · rw [outcome] at after
        exact after.elim

/-- A call that cannot name the hash does not return. -/
theorem Coherent.configurable
    {joint : Joint}
    (coherent : joint.Coherent)
    (recovers : joint.Recovers) :
    joint.Configurable := by
  by_contra unconfigurable
  obtain ⟨requestId, fresh⟩ := exists_fresh joint.app
  let exchanges := List.replicate 3 undisturbed
  have nominal : ∀ exchange ∈ exchanges, exchange.Nominal := by
    intro exchange member
    rw [List.eq_of_mem_replicate member]
    exact undisturbed_nominal
  have enough : 3 ≤ exchanges.length := by
    rw [List.length_replicate]
  obtain ⟨returned, -⟩ :=
    recovers _ requestId exchanges safe_initD10x4 fresh nominal enough
  refine invoke_raises (Method.applyConfig_unnamed _ requestId)
    (fun client same => ?_) _ (Option.some.inj returned)
  exact ⟨⟨nominal, enough⟩, coherent.hashed, fresh,
    fun nameable => unconfigurable ⟨client, same, nameable⟩⟩

/-- In every reachable state, one call of `apply_config` configures the device
if and only if the host can name the hash that the firmware requires. -/
theorem recovers_iff_configurable
    (deviceId : Bytes 16)
    (result : ConfigResult)
    (devStat : UInt8)
    (inputs : List Input) :
    (machine.after (started deviceId result devStat) inputs).Recovers ↔
      (machine.after (started deviceId result devStat) inputs).Configurable :=
  have coherent := coherent_after deviceId result devStat inputs
  ⟨coherent.configurable, coherent.recovers⟩

end Joint

/-! ## A failed SET_CONFIG -/

/-- A request other than a SET_CONFIG gives the firmware no configuration. -/
theorem handle_invalid
    {request : Firmware.Mcu.FrameView}
    {app : App}
    (noConfig : request.messageType ≠ Firmware.Message.setConfig)
    (invalid : app.configValid = false)
    (hardware : Hardware) :
    (app.handle request App.responseCapacity hardware).app.configValid =
      false := by
  have effect := App.handle_effect app request hardware
  generalize (app.handle request App.responseCapacity hardware).app = next
    at effect ⊢
  generalize (app.handle request App.responseCapacity hardware).calls = calls
    at effect
  cases effect with
  | restarted =>
      have powered : (Background.endSession hardware).keepsPower = true := rfl
      exact perform_invalid invalid powered
  | configRefused _ _ dispatched =>
      exact absurd dispatched.messageType noConfig
  | configFailed _ _ _ configures | configApplied _ _ _ configures =>
      exact absurd configures.dispatched.messageType noConfig
  | _ => exact invalid

/-- The board stays powered until the command has been handled. -/
def Exchange.Powered (exchange : Exchange) : Prop :=
  ∀ event ∈ exchange.before, event.keepsPower = true

namespace Method

/-- The firmware has no configuration and requires zeros, which are not what the
client would name. -/
structure Stranded (call : Call) : Prop where
  invalid : call.app.configValid = false
  nonzero :
    ∀ config, call.client.deviceConfig = some config →
      config.profileSha256 ≠ Bytes.zero 32
  powered : ∀ exchange ∈ call.exchanges, exchange.Powered

namespace Stranded

/-- The firmware still has no configuration when the next command arrives. -/
theorem reached
    {call : Call}
    (stranded : Stranded call)
    {exchange : Exchange}
    {rest : List Exchange}
    (met : call.exchanges = exchange :: rest) :
    (exchange.reached call.app).configValid = false :=
  exchange.reached_invalid stranded.invalid
    (stranded.powered exchange (met ▸ List.mem_cons_self))

/-- An exchange that gives the firmware no configuration strands it still. -/
theorem requested
    {call : Call}
    (stranded : Stranded call)
    {exchange : Exchange}
    {rest : List Exchange}
    (met : call.exchanges = exchange :: rest)
    {app : App}
    (invalid : app.configValid = false) :
    Stranded (Method.requested call app rest) where
  invalid := invalid
  nonzero := stranded.nonzero
  powered _ member :=
    stranded.powered _ (met ▸ List.mem_cons_of_mem exchange member)

/-- A new sequence number changes nothing. -/
theorem numbered
    {call : Call}
    (stranded : Stranded call) :
    Stranded (Method.requested call call.app call.exchanges) :=
  ⟨stranded.invalid, stranded.nonzero, stranded.powered⟩

/-- A lost connection changes nothing. -/
theorem silent
    {call : Call}
    (stranded : Stranded call) :
    Stranded (Method.requested call call.app []) where
  invalid := stranded.invalid
  nonzero := stranded.nonzero
  powered _ member := absurd member List.not_mem_nil

/-- A command that does not configure changes nothing. -/
theorem answered
    {call : Call}
    (stranded : Stranded call)
    {exchange : Exchange}
    {rest : List Exchange}
    (met : call.exchanges = exchange :: rest)
    {frame : Frame}
    (noConfig : frame.messageType ≠ .setConfig) :
    Stranded (Method.answered call exchange rest frame) := by
  have reached := stranded.reached met
  refine ⟨?_, stranded.nonzero, (stranded.requested met reached).powered⟩
  simp only [Method.answered, Exchange.deliver]
  split_ifs
  · exact handle_invalid (code_ne_of_ne noConfig) reached exchange.hardware
  · exact reached

end Stranded

/-- A firmware without a configuration has none to read. -/
theorem readAndCache_stranded :
    Ensures (do
        let config ← readConfig
        cache config
        return config)
      Stranded (fun _ _ => False) (fun _ => Stranded) := by
  intro call stranded
  rw [perform_bind]
  have reads := perform_readConfig (hashed_of_invalid stranded.invalid)
  generalize readConfig.perform call = outcome at reads
  cases reads with
  | lost silent => exact stranded.silent
  | read exchange rest met configured =>
      exact not_configured_of_invalid (stranded.reached met) configured
  | refused exchange rest met unconfigured raised kept =>
      exact stranded.requested met (stranded.reached met)

/-- The configuration taken for the current one does not name zeros. -/
theorem currentConfig_stranded :
    Ensures currentConfig Stranded
      (fun config call =>
        Stranded call ∧ config.profileSha256 ≠ Bytes.zero 32)
      (fun _ => Stranded) := by
  intro call stranded
  rcases cached : call.client.deviceConfig with _ | config
  · rw [perform_currentConfig_none cached]
    exact readAndCache_stranded.imp (fun _ holds => holds)
      (fun _ _ impossible => impossible.elim) (fun _ _ holds => holds) call
      stranded
  · rw [perform_currentConfig_some cached]
    exact ⟨stranded, stranded.nonzero config cached⟩

/-- A SET_CONFIG that does not name zeros configures nothing. -/
theorem setConfig_stranded
    (config : AcquisitionConfigV2)
    (requestId : Bytes 16)
    {expected : Bytes 32}
    (nonzero : expected ≠ Bytes.zero 32) :
    Ensures (setConfig config requestId expected) Stranded
      (fun _ => Stranded) (fun _ => Stranded) := by
  intro call stranded
  have sends := setConfig_sends config requestId expected call
  generalize (setConfig config requestId expected).perform call = outcome
    at sends
  cases sends with
  | unsent raised => exact stranded.numbered
  | lost silent => exact stranded.silent
  | unanswered exchange rest met =>
      exact stranded.requested met (stranded.reached met)
  | unchanged exchange rest met replyCache result refused =>
      have invalid := stranded.reached met
      cases result with
      | error raised => exact stranded.requested met invalid
      | ok => exact stranded.requested met invalid
  | failed exchange rest met failure replyCache raised =>
      exact stranded.requested met rfl
  | applied exchange rest met established matching candidate identified =>
      have required :
          (exchange.reached call.app).currentHash = Bytes.zero 32 := by
        rw [App.currentHash, if_neg (by simp [stranded.reached met])]
      exact absurd (matching.trans required) nonzero

/-- A stranded client never configures the device. -/
theorem applyConfig_stranded
    (config : AcquisitionConfigV2)
    (requestId : Bytes 16) :
    Ensures (applyConfig config requestId) Stranded (fun _ _ => False)
      (fun _ => Stranded) := by
  unfold applyConfig
  refine Ensures.bind currentConfig_stranded fun current => ?_
  rintro call ⟨stranded, nonzero⟩
  exact Ensures.bind (setConfig_stranded config requestId nonzero)
    (fun _ => readAndCache_stranded) call stranded

end Method

namespace Joint

/-- The firmware has no configuration, and the client has one cached that would
not name zeros. -/
structure Stranded (joint : Joint) : Prop where
  invalid : joint.app.configValid = false
  nonzero :
    ∀ client, joint.client = some client →
      ∀ config, client.deviceConfig = some config →
        config.profileSha256 ≠ Bytes.zero 32

/-- The board stays powered. -/
def Input.Powered : Input → Prop
  | .background event => event.keepsPower = true
  | .disconnect => True
  | .connect _ exchanges
  | .applyConfig _ _ exchanges
  | .command _ _ _ exchanges =>
      ∀ exchange ∈ exchanges, exchange.Powered

/-- A method of a stranded client leaves the host stranded. -/
theorem Stranded.invoke
    {Result : Type}
    {joint : Joint}
    {method : Method Result}
    {after : Result → Call → Prop}
    (stranded : joint.Stranded)
    (ensured :
      method.Ensures Method.Stranded after (fun _ => Method.Stranded))
    (remains : ∀ result call, after result call → Method.Stranded call)
    {exchanges : List Exchange}
    (powered : ∀ exchange ∈ exchanges, exchange.Powered) :
    (joint.invoke method exchanges).1.Stranded := by
  obtain ⟨app, client⟩ := joint
  cases client with
  | none => exact stranded
  | some client =>
      have next :=
        ensured ⟨app, client, exchanges⟩
          ⟨stranded.invalid, stranded.nonzero client rfl, powered⟩
      unfold Joint.invoke
      dsimp only
      rcases outcome : method.perform ⟨app, client, exchanges⟩ with
        ⟨raised | result, call⟩
      · rw [outcome] at next
        refine ⟨next.invalid, fun kept same => ?_⟩
        dsimp only at same
        split_ifs at same
        obtain rfl := Option.some.inj same
        exact next.nonzero
      · rw [outcome] at next
        have left := remains result call next
        refine ⟨left.invalid, fun kept same => ?_⟩
        obtain rfl := Option.some.inj same
        exact left.nonzero

/-- Nothing but a new boot helps a stranded host. -/
theorem Stranded.step
    {joint : Joint}
    (stranded : joint.Stranded)
    {input : Input}
    (powered : input.Powered) :
    (machine.step joint input).1.Stranded ∧
      ∀ config, (machine.step joint input).2 ≠ some (.ok config) := by
  cases input with
  | background event =>
      exact ⟨⟨perform_invalid stranded.invalid powered, stranded.nonzero⟩,
        by rintro _ ⟨⟩⟩
  | disconnect =>
      exact ⟨⟨stranded.invalid, by rintro _ ⟨⟩⟩, by rintro _ ⟨⟩⟩
  | connect nonce exchanges =>
      refine ⟨?_, by rintro _ ⟨⟩⟩
      have keeps :
          (Method.init nonce).Ensures Method.Stranded
            (fun _ => Method.Stranded) (fun _ => Method.Stranded) :=
        Method.init_ensures nonce (fun _ holds => holds.numbered)
          fun _ noConfig _ _ _ met holds => holds.answered met noConfig
      have opened :=
        keeps ⟨joint.app, ⟨0, none⟩, exchanges⟩
          ⟨stranded.invalid, by rintro _ ⟨⟩, powered⟩
      simp only [machine, Joint.connect]
      rcases outcome :
          (Method.init nonce).perform ⟨joint.app, ⟨0, none⟩, exchanges⟩ with
        ⟨raised | result, call⟩
      · rw [outcome] at opened
        exact ⟨opened.invalid, by rintro _ ⟨⟩⟩
      · rw [outcome] at opened
        refine ⟨opened.invalid, fun client same => ?_⟩
        obtain rfl := Option.some.inj same
        exact opened.nonzero
  | applyConfig config requestId exchanges =>
      have raises := Method.applyConfig_stranded config requestId
      refine ⟨stranded.invoke raises (fun _ _ holds => holds.elim) powered,
        fun result returned => ?_⟩
      have ready (client : Client) (same : joint.client = some client) :
          Method.Stranded ⟨joint.app, client, exchanges⟩ :=
        ⟨stranded.invalid, stranded.nonzero client same, powered⟩
      exact invoke_raises raises ready result (Option.some.inj returned)
  | command messageType responseType payload exchanges =>
      refine ⟨?_, by rintro _ ⟨⟩⟩
      have commanded :
          (Method.command messageType.val responseType payload).Ensures
            Method.Stranded (fun _ => Method.Stranded)
            (fun _ => Method.Stranded) :=
        Method.command_ensures responseType payload
          (fun _ stranded => stranded.numbered)
          fun _ _ _ _ met stranded =>
            stranded.answered met messageType.property.2
      exact stranded.invoke commanded (fun _ _ holds => holds) powered

/-- While the board stays powered, a stranded host never configures it. -/
theorem Stranded.never_configures
    {joint : Joint}
    (stranded : joint.Stranded)
    {inputs : List Input}
    (powered : ∀ input ∈ inputs, input.Powered) :
    ∀ event ∈ machine.trace joint inputs,
      ∀ config, event.output ≠ some (.ok config) := by
  induction inputs generalizing joint with
  | nil => exact fun _ member => absurd member List.not_mem_nil
  | cons input rest inductionHypothesis =>
      obtain ⟨first, others⟩ := List.forall_mem_cons.1 powered
      obtain ⟨next, unconfigured⟩ := stranded.step first
      intro event member
      rcases List.mem_cons.1 member with rfl | later
      · exact unconfigured
      · exact inductionHypothesis next others event later

/-- A session is opened, and the hardware refuses the first configuration. -/
def refusedOnce : List Input :=
  [.connect (Firmware.Id16.ofByte 1) [undisturbed, undisturbed],
    .applyConfig (hostConfig ConfigV2.initD10x4) (Firmware.Id16.ofByte 2)
      [undisturbed,
        ⟨[], { Hardware.nominal with applyResult := .driverFault }⟩]]

/-- The host and the board once that configuration was refused. -/
def refused : Joint :=
  machine.after (started (Firmware.Id16.ofByte 3) .ok 0x08) refusedOnce

set_option maxRecDepth 100000 in
/-- The client has cached the configuration that the firmware no longer has. -/
theorem refused_fields :
    refused.app.configValid = false ∧
      (refused.client.bind Client.deviceConfig).map
          AcquisitionConfigV2.profileSha256 =
        some ConfigV2.initD10x4.profileSha256 ∧
      ConfigV2.initD10x4.profileSha256 ≠ Bytes.zero 32 := by
  decide +kernel

/-- The refused configuration strands the host. -/
theorem refused_stranded : refused.Stranded := by
  obtain ⟨invalid, cached, nonzero⟩ := refused_fields
  refine ⟨invalid, fun client same config named => ?_⟩
  rw [same, Option.bind_some, named] at cached
  exact Option.some.inj cached ▸ nonzero

/-- One refused configuration, and no call of `apply_config` configures the
device until the next boot. -/
theorem not_recovers_refused :
    ¬refused.Recovers ∧
      ∀ inputs : List Input, (∀ input ∈ inputs, input.Powered) →
        ∀ event ∈ machine.trace refused inputs,
          ∀ config, event.output ≠ some (.ok config) := by
  refine ⟨fun recovers => ?_, fun _ => refused_stranded.never_configures⟩
  have coherent : refused.Coherent := coherent_after _ _ _ refusedOnce
  obtain ⟨client, same, established, valid | ⟨config, named, zero⟩⟩ :=
    coherent.configurable recovers
  · exact absurd (valid.symm.trans refused_stranded.invalid) (by decide)
  · exact refused_stranded.nonzero client same config named zero

end Joint

end Usac.Link
