import DisplayMux.Lib.Triple
import DisplayMux.LanMouse.Listen
import DisplayMux.LanMouse.Registry
import DisplayMux.LanMouse.Switching

/-! The service of a host. It handles one event after another: requests of the user
interface, reports of its tasks, and the timer of the current switch. What it tells the
user interface is left out. -/
namespace DisplayMux.LanMouse

inductive FrontendRequest where
  | activate (handle : ClientHandle) (active : Bool)
  | create
  | delete (handle : ClientHandle)
  | enableCapture
  | updateFixIps (handle : ClientHandle) (fixIps : List IpAddr)
  | updateHostname (handle : ClientHandle) (hostname : Option String)
  | updatePort (handle : ClientHandle) (port : UInt16)
  | updatePosition (handle : ClientHandle) (pos : Position)
  | resolveDns (handle : ClientHandle)
  | updateSwitchTarget (handle : ClientHandle) (target : Option SwitchHost)
  deriving DecidableEq, Repr

/-- A failed resolution finds no addresses. -/
inductive DnsEvent where
  | resolving (handle : ClientHandle)
  | resolved (handle : ClientHandle) (ips : Option (List IpAddr))
  deriving DecidableEq, Repr

/-- The port is only read when the service is made. -/
structure ServiceConfig where
  port : UInt16
  switchController : Option SwitchControllerConfig
  clients : List Configured
  releaseBind : List Scancode
  deriving DecidableEq, Repr

inductive ServiceEvent where
  | frontend (request : FrontendRequest)
  | emulation (event : EmulationEvent)
  | capture (event : ICaptureEvent)
  | resolver (event : DnsEvent)
  | switchTask (event : SwitchTaskEvent)
  | deadline
  | configChanged (config : ServiceConfig)
  deriving DecidableEq, Repr

/-- What a handler meets outside the service: how long it waits before each look at the
clock, the numbers it draws, whether the capture task still waits for a decision, and
whether the clipboard takes a fallback. -/
structure Outside where
  waits : List Nat
  requestNonce : BitVec 128
  leaseNonce : BitVec 128
  decisionOpen : Bool
  fallbackQueued : Bool
  deriving DecidableEq, Repr

inductive ServiceAct where
  | registry (act : RegistryAct)
  | switch (act : SwitchAct)
  | reenable
  | setReleaseBind (releaseBind : List Scancode)
  | requestCaptureRelease (addr : SocketAddr) (releaseEpoch : UInt64)
  deriving DecidableEq, Repr

structure Service where
  localCommit : Vector UInt8 8
  port : UInt16
  registry : Registry
  switch : Switch
  nextReleaseEpoch : UInt64
  pendingClipboardFallback : Option (ClientHandle × UInt64)

structure ServiceScene where
  clock : Nat
  waits : List Nat
  service : Service
  log : List ServiceAct

abbrev ServiceM := EStateM String ServiceScene

namespace ServiceScene

def record (s : ServiceScene) (act : ServiceAct) : ServiceScene := { s with log := s.log ++ [act] }

def withService (s : ServiceScene) (service : Service) : ServiceScene := { s with service }

def toSwitch (s : ServiceScene) : SwitchScene := ⟨s.clock, s.waits, s.service.switch, []⟩

def afterSwitch (s : ServiceScene) (t : SwitchScene) : ServiceScene :=
  ⟨t.clock, t.waits, { s.service with switch := t.switch }, s.log ++ t.log.map .switch⟩

def toRegistry (s : ServiceScene) : RegistryScene := ⟨s.service.registry, []⟩

def afterRegistry (s : ServiceScene) (t : RegistryScene) : ServiceScene :=
  { s with service := { s.service with registry := t.registry }, log := s.log ++ t.log.map .registry }

end ServiceScene

/-- Only the host that serves the display asks for two contacts with the edge. -/
def serverEdgeIntentGate (controller : Option SwitchControllerConfig) : Option EdgeIntentGate :=
  (controller.filter fun c => c.localHost = c.serverHost).map fun c =>
    .new (c.edgeDoubleTapMs * nsPerMs)

namespace Service

def peers (s : Service) : Peers := ⟨s.registry.clients, s.localCommit⟩

def perform (act : ServiceAct) : ServiceM Unit := modify fun s => s.record act

def update (f : Service → Service) : ServiceM Unit := modify fun s => s.withService (f s.service)

def onSwitch {α : Type} (x : Peers → SwitchM α) : ServiceM α := fun s =>
  match x s.service.peers s.toSwitch with
  | .ok a t => .ok a (s.afterSwitch t)
  | .error panic t => .error panic (s.afterSwitch t)

def onRegistry {α : Type} (x : RegistryM α) : ServiceM α := fun s =>
  match x s.toRegistry with
  | .ok a t => .ok a (s.afterRegistry t)
  | .error panic t => .error panic (s.afterRegistry t)

def clipboard (call : ClipboardCall) : ServiceM Unit :=
  onSwitch fun _ => Switch.perform (.clipboard call)

def editRegistry (f : Registry → Registry) : ServiceM Unit := onRegistry (Registry.update f)

def onEdgeIntent {α : Type} (call : EdgeIntentGate → Nat → α × EdgeIntentGate) : ServiceM (Option α) := do
  match (← get).service.registry.edgeIntentGate with
  | none => return none
  | some gate =>
    let now ← onSwitch fun _ => Switch.readClock
    let (answer, gate) := call gate now
    editRegistry ({ · with edgeIntentGate := some gate })
    return some answer

def handleFrontendRequest : FrontendRequest → ServiceM Unit
  | .activate handle active => onRegistry (Registry.setClientActive handle active)
  | .create => onRegistry Registry.addClient
  | .delete handle => onRegistry (Registry.removeClient handle)
  | .enableCapture => perform .reenable
  | .updateFixIps handle fixIps => onRegistry (Registry.updateFixIps handle fixIps)
  | .updateHostname handle hostname => onRegistry (Registry.updateHostname handle hostname)
  | .updatePort handle port => onRegistry (Registry.updatePort handle port)
  | .updatePosition handle pos => onRegistry (Registry.updatePos handle pos)
  | .resolveDns handle => onRegistry (Registry.resolve handle)
  | .updateSwitchTarget handle target => onRegistry (Registry.updateSwitchTarget handle target)

def restartClipboard : ServiceM Unit := do
  clipboard (.cancelCurrent .canceled)
  update ({ · with pendingClipboardFallback := none })
  clipboard .restart

def handleEmulationEvent : EmulationEvent → ServiceM Unit
  | .entered addr pos fingerprint => onRegistry (Registry.entered addr pos fingerprint)
  | .disconnected addr => do
    match (← get).service.registry.getClient addr with
    | none => pure ()
    | some handle =>
      editRegistry (·.changePeer handle .cleared)
      onSwitch (Switch.handlePeerReadinessChange · handle)
    onRegistry (Registry.removeIncoming addr)
  | .peerHello addr commit => do
    match (← get).service.registry.getClient addr with
    | none => return
    | some handle =>
      let changed := ((← get).service.registry.clients.setPeerCommit handle (some commit)).2
      editRegistry (·.changePeer handle (.commit (some commit)))
      if changed then onSwitch (Switch.handlePeerReadinessChange · handle)
  | .portChanged (some port) => do
    if (← get).service.port ≠ port then
      update ({ · with port })
      restartClipboard
  | .releaseCapture => onSwitch fun _ => Switch.perform (.release true)
  | .connected _ _ | .connectionAttempt _ | .portChanged none | .emulationDisabled _
  | .emulationEnabled _ _ _ | .releaseAcknowledged _ _ => return

def handleCaptureBegin (handle : CaptureHandle) : ServiceM Unit := do
  match (← get).service.registry.incomingConnInfo.find? (·.1 = handle) with
  | none => return
  | some (_, incoming) =>
    clipboard .captureProvisional
    match checkedAdd (← get).service.nextReleaseEpoch.toNat 1 with
    | none => throw "release epoch exhausted"
    | some epoch =>
      update ({ · with nextReleaseEpoch := UInt64.ofNat epoch })
      perform (.requestCaptureRelease incoming.addr (UInt64.ofNat epoch))

def handleCaptureCandidate (outside : Outside) (handle : CaptureHandle) : ServiceM Unit := do
  let service := (← get).service
  match service.registry.switchTarget handle with
  | none => onSwitch fun _ => Switch.perform (.failed none "switch_target_not_configured" none)
  | some target =>
    match service.switch.switchController with
    | none =>
      onSwitch fun _ =>
        Switch.perform (.failed (some target) "switch_controller_not_configured" none)
    | some controller =>
      if target = controller.config.serverHost ∨ service.switch.switchTask.isSome then return
      let readiness := service.peers.readiness handle
      let key := ⟨handle, target, readiness.elim 0 (·.sessionEpoch)⟩
      let decision ← onEdgeIntent (·.candidate key ·)
      if decision.all (· = .confirmed) then
        onSwitch (Switch.requestSwitch · controller handle target readiness outside.requestNonce
          outside.leaseNonce)

def handleClientReleased (handle : CaptureHandle) (reason : CaptureReleaseReason) : ServiceM Unit := do
  let fallback := (← get).service.pendingClipboardFallback
  update ({ · with pendingClipboardFallback := none })
  if reason = .peerReleaseRequested then
    match fallback with
    | none => pure ()
    | some (pendingHandle, releaseEpoch) =>
      if pendingHandle = handle then clipboard (.activate (.fallback releaseEpoch))
  onSwitch (Switch.handleClientReleased · reason)

def handlePeerReleaseStarted (outside : Outside) (handle : CaptureHandle) (releaseEpoch : UInt64) :
    ServiceM Unit := do
  match (← get).service.switch.switchController with
  | none => return
  | some controller =>
    clipboard (.beginFallback releaseEpoch controller.config.serverHost)
    if outside.fallbackQueued then
      update ({ · with pendingClipboardFallback := some (handle, releaseEpoch) })

def handleCaptureEvent (outside : Outside) : ICaptureEvent → ServiceM Unit
  | .captureBegin handle => handleCaptureBegin handle
  | .captureDisabled => do
    clipboard (.cancelCurrent .backendUnavailable)
    update ({ · with pendingClipboardFallback := none })
    editRegistry fun r => { r with edgeIntentGate := r.edgeIntentGate.map (·.clear) }
    onSwitch Switch.handleCaptureDisabled
  | .captureEnabled => return
  | .captureCandidate handle => handleCaptureCandidate outside handle
  | .edgeRetreated handle => discard (onEdgeIntent (·.retreat handle ·))
  | .commitRequested handle leaseEpoch peerSessionEpoch =>
    onSwitch (Switch.handleCommitRequested · handle leaseEpoch peerSessionEpoch outside.decisionOpen)
  | .commitDeniedReleased handle leaseEpoch =>
    onSwitch (Switch.handleCommitDeniedReleased · handle leaseEpoch)
  | .clientReleased handle reason => handleClientReleased handle reason
  | .peerReadiness handle => onSwitch (Switch.handlePeerReadinessChange · handle)
  | .peerReleaseStarted handle releaseEpoch => handlePeerReleaseStarted outside handle releaseEpoch

def handleResolverEvent : DnsEvent → ServiceM Unit
  | .resolving _ => return
  | .resolved handle ips =>
    editRegistry fun r => r.withClients (r.clients.setDnsIps handle (ips.getD []))

def handleConfigChange (config : ServiceConfig) : ServiceM Unit := do
  onSwitch (Switch.failGate · "config_changed")
  let startedAt ← onSwitch fun _ => Switch.readClock
  onSwitch fun _ =>
    Switch.update ({ · with switchController := config.switchController.map (⟨·, startedAt⟩) })
  editRegistry ({ · with edgeIntentGate := serverEdgeIntentGate config.switchController })
  restartClipboard
  onRegistry (Registry.reload config.clients)
  perform (.setReleaseBind config.releaseBind)

def handle (outside : Outside) : ServiceEvent → ServiceM Unit
  | .frontend request => handleFrontendRequest request
  | .emulation event => handleEmulationEvent event
  | .capture event => handleCaptureEvent outside event
  | .resolver event => handleResolverEvent event
  | .switchTask event => onSwitch (Switch.handleSwitchTaskEvent · event)
  | .deadline => onSwitch Switch.handleSwitchDeadline
  | .configChanged config => handleConfigChange config

def new (localCommit : Vector UInt8 8) (clock : Nat) (config : ServiceConfig) : Service :=
  ⟨localCommit, config.port, .new (serverEdgeIntentGate config.switchController),
    .new (config.switchController.map (⟨·, clock⟩)), 0, none⟩

/-- The timer can only go off when its time is over. -/
def offers (s : Service) (clock : Nat) : ServiceEvent → Bool
  | .deadline => s.switch.switchDeadline.any (·.elapsed clock)
  | _ => true

/-- One turn of the loop; `none` when the branch is not ready or the service panics. -/
def turn (s : Service) (clock : Nat) (event : ServiceEvent) (outside : Outside) : Option ServiceScene :=
  if s.offers clock event then
    match handle outside event ⟨clock, outside.waits, s, []⟩ with
    | .ok _ t => some t
    | .error _ _ => none
  else none

/-- The service once its clients are set up; `none` when it panics before. -/
def started (localCommit : Vector UInt8 8) (clock : Nat) (config : ServiceConfig) :
    Option ServiceScene :=
  match onRegistry (Registry.start config.clients) ⟨clock, [], new localCommit clock config, []⟩ with
  | .ok _ t => some t
  | .error _ _ => none

section Specs

open Std.Do

set_option mvcgen.warning false

abbrev Post (α : Type) := PostCond α (.except String (.arg ServiceScene .pure))

@[spec]
theorem perform_spec (act : ServiceAct) (Q : Post Unit) :
    ⦃fun s => Q.1 () (s.record act)⦄ perform act ⦃Q⦄ := by
  mvcgen [perform]

@[spec]
theorem update_spec (f : Service → Service) (Q : Post Unit) :
    ⦃fun s => Q.1 () (s.withService (f s.service))⦄ update f ⦃Q⦄ := by
  mvcgen [update]

theorem onSwitch_ok {α : Type} {x : Peers → SwitchM α} {s s' : ServiceScene} {a : α}
    (ran : onSwitch x s = .ok a s') :
    ∃ t, x s.service.peers s.toSwitch = .ok a t ∧ s' = s.afterSwitch t := by
  unfold onSwitch at ran
  split at ran
  · rename_i t done
    cases ran
    exact ⟨t, done, rfl⟩
  · contradiction

theorem onRegistry_ok {α : Type} {x : RegistryM α} {s s' : ServiceScene} {a : α}
    (ran : onRegistry x s = .ok a s') : ∃ t, x s.toRegistry = .ok a t ∧ s' = s.afterRegistry t := by
  unfold onRegistry at ran
  split at ran
  · rename_i t done
    cases ran
    exact ⟨t, done, rfl⟩
  · contradiction

theorem turn_ok {s : Service} {clock : Nat} {event : ServiceEvent} {outside : Outside}
    {t : ServiceScene} (done : s.turn clock event outside = some t) :
    handle outside event ⟨clock, outside.waits, s, []⟩ = .ok () t := by
  unfold turn at done
  split at done
  · split at done
    · rename_i ran
      exact (Option.some.inj done) ▸ ran
    · contradiction
  · contradiction

theorem started_ok {localCommit : Vector UInt8 8} {clock : Nat} {config : ServiceConfig}
    {t : ServiceScene} (done : started localCommit clock config = some t) :
    onRegistry (Registry.start config.clients) ⟨clock, [], new localCommit clock config, []⟩ = .ok () t := by
  unfold started at done
  split at done
  · rename_i ran
    exact (Option.some.inj done) ▸ ran
  · contradiction

end Specs

end Service

end DisplayMux.LanMouse
