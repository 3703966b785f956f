import DisplayMux.LanMouse.Registration
import DisplayMux.LanMouse.Service

/-! What the registry keeps by itself, it keeps inside the service: a handler changes the
registry only through calls of it, or in ways that no registration depends on. -/
namespace DisplayMux.LanMouse

def registryActs (log : List ServiceAct) : List RegistryAct :=
  log.filterMap fun
    | .registry act => some act
    | _ => none

section Acts

@[simp] theorem registryActs_append (log log' : List ServiceAct) :
    registryActs (log ++ log') = registryActs log ++ registryActs log' := List.filterMap_append

@[simp] theorem registryActs_registry (log : List RegistryAct) : registryActs (log.map .registry) = log := by
  simp [registryActs, List.filterMap_map]

@[simp] theorem registryActs_switch (log : List SwitchAct) : registryActs (log.map .switch) = [] := by
  simp [registryActs, List.filterMap_map]

end Acts

namespace Registry

/-- A property of the registry and of what it has asked for, kept by its calls. It can be
taken up again at any time with nothing asked for. -/
structure Conserved {ι : Type} (K : ι → RegistryScene → Prop) : Prop where
  resumes : ∀ {i r log}, K i ⟨r, log⟩ →
    ∃ j, K j ⟨r, []⟩ ∧ ∀ {r' log'}, K j ⟨r', log'⟩ → K i ⟨r', log ++ log'⟩
  untouched : ∀ {i s r}, K i s → Untouched s.registry r → K i (s.withRegistry r)
  resolve : ∀ i handle, Yields (K i) (K i) (resolve handle)
  setClientActive : ∀ i handle active, Yields (K i) (K i) (setClientActive handle active)
  addClient : ∀ i, Yields (K i) (K i) addClient
  removeClient : ∀ i handle, Yields (K i) (K i) (removeClient handle)
  updatePos : ∀ i handle pos, Yields (K i) (K i) (updatePos handle pos)
  entered : ∀ i addr pos fingerprint, Yields (K i) (K i) (entered addr pos fingerprint)
  removeIncoming : ∀ i addr, Yields (K i) (K i) (removeIncoming addr)
  reload : ∀ i configs, Yields (K i) (K i) (reload configs)

end Registry

section Lifting

open Std.Do

set_option mvcgen.warning false

variable {ι : Type} {K : ι → RegistryScene → Prop}

namespace Registry

section

variable (conserved : Conserved K) (i : ι) (handle : ClientHandle)
include conserved

theorem Conserved.update {f : Registry → Registry}
    (inert : ∀ r, Untouched r (f r)) : Yields (K i) (K i) (update f) := by
  mvcgen
  rename_i s kept
  exact conserved.untouched kept (inert s.registry)

theorem Conserved.updateHostname
    (hostname : Option String) : Yields (K i) (K i) (updateHostname handle hostname) := by
  have resolved := conserved.resolve i handle
  have named (r : Registry) : Untouched r (r.withClients (r.clients.setHostname handle hostname)) := by
    refine untouched_edit ?_
    intro c
    split <;> rfl
  mvcgen [Registry.updateHostname, resolved]
  all_goals
    rename_i s kept _ _
    exact conserved.untouched kept (named s.registry)

theorem Conserved.updatePort (port : UInt16) : Yields (K i) (K i) (updatePort handle port) := by
  refine conserved.update i fun _ => untouched_edit ?_
  intro c
  split <;> rfl

theorem Conserved.updateSwitchTarget
    (target : Option SwitchHost) : Yields (K i) (K i) (updateSwitchTarget handle target) := by
  mvcgen [Registry.updateSwitchTarget]
  · rename_i kept _
    exact conserved.untouched (conserved.untouched kept untouched_forgetIntent)
      (untouched_setSwitchTarget target)
  · rename_i kept _
    exact conserved.untouched kept untouched_forgetIntent

end

end Registry

namespace Service

abbrev Served (K : ι → RegistryScene → Prop) (i : ι) (s : ServiceScene) : Prop :=
  K i ⟨s.service.registry, registryActs s.log⟩

theorem Served.record {i : ι} {s : ServiceScene} {act : ServiceAct} (served : Served K i s)
    (other : registryActs [act] = []) : Served K i (s.record act) := by
  simpa [Served, ServiceScene.record, other] using served

section

variable (K : ι → RegistryScene → Prop) (i : ι)

theorem onSwitch_served {α : Type} (x : Peers → SwitchM α) :
    Yields (Served K i) (Served K i) (onSwitch x) := by
  rw [yields_iff]
  intro s a s' served ran
  obtain ⟨t, -, rfl⟩ := onSwitch_ok ran
  simpa [Served, ServiceScene.afterSwitch] using served

theorem clipboard_served (call : ClipboardCall) :
    Yields (Served K i) (Served K i) (clipboard call) := onSwitch_served K i _

theorem restartClipboard_served : Yields (Served K i) (Served K i) restartClipboard := by
  have called := clipboard_served K i
  mvcgen [restartClipboard, called]

theorem handleCaptureBegin_served (handle : CaptureHandle) :
    Yields (Served K i) (Served K i) (handleCaptureBegin handle) := by
  have called := clipboard_served K i
  mvcgen [handleCaptureBegin, called]
  rename_i served _ _
  exact Served.record served rfl

theorem handleClientReleased_served (handle : CaptureHandle) (reason : CaptureReleaseReason) :
    Yields (Served K i) (Served K i) (handleClientReleased handle reason) := by
  have called := clipboard_served K i
  have switched := fun x : Peers → SwitchM Unit => onSwitch_served K i x
  mvcgen [handleClientReleased, called, switched]

theorem handlePeerReleaseStarted_served (outside : Outside) (handle : CaptureHandle) (releaseEpoch : UInt64) :
    Yields (Served K i) (Served K i) (handlePeerReleaseStarted outside handle releaseEpoch) := by
  have called := clipboard_served K i
  mvcgen [handlePeerReleaseStarted, called]

end

variable (conserved : Registry.Conserved K) (i : ι)
include conserved

theorem onRegistry_served {α : Type} {x : RegistryM α} (keeps : ∀ i, Yields (K i) (K i) x) :
    Yields (Served K i) (Served K i) (onRegistry x) := by
  rw [yields_iff]
  intro s a s' served ran
  obtain ⟨t, done, rfl⟩ := onRegistry_ok ran
  obtain ⟨j, now, further⟩ := conserved.resumes served
  simpa [Served, ServiceScene.afterRegistry] using further ((keeps j).ok now done)

theorem editRegistry_served {f : Registry → Registry} (inert : ∀ r, Registry.Untouched r (f r)) :
    Yields (Served K i) (Served K i) (editRegistry f) :=
  onRegistry_served conserved i fun i => conserved.update i inert

theorem onEdgeIntent_served {α : Type}
    (call : EdgeIntentGate → Nat → α × EdgeIntentGate) :
    Yields (Served K i) (Served K i) (onEdgeIntent call) := by
  have looked := onSwitch_served K i fun _ => Switch.readClock
  have edited := fun gate => editRegistry_served (f := ({ · with edgeIntentGate := some gate })) conserved i
    fun r => ⟨fun _ => rfl, rfl, rfl, rfl⟩
  mvcgen [onEdgeIntent, looked, edited]

theorem handleFrontendRequest_served (request : FrontendRequest) :
    Yields (Served K i) (Served K i) (handleFrontendRequest request) := by
  cases request with
  | activate handle active =>
    exact onRegistry_served conserved i fun i => conserved.setClientActive i handle active
  | create => exact onRegistry_served conserved i conserved.addClient
  | delete handle => exact onRegistry_served conserved i fun i => conserved.removeClient i handle
  | enableCapture =>
    mvcgen [handleFrontendRequest]
    rename_i served
    exact Served.record served rfl
  | updateFixIps handle fixIps =>
    exact editRegistry_served conserved i fun r => Registry.untouched_edit fun _ => rfl
  | updateHostname handle hostname =>
    exact onRegistry_served conserved i fun i => conserved.updateHostname i handle hostname
  | updatePort handle port =>
    exact onRegistry_served conserved i fun i => conserved.updatePort i handle port
  | updatePosition handle pos =>
    exact onRegistry_served conserved i fun i => conserved.updatePos i handle pos
  | resolveDns handle => exact onRegistry_served conserved i fun i => conserved.resolve i handle
  | updateSwitchTarget handle target =>
    exact onRegistry_served conserved i fun i => conserved.updateSwitchTarget i handle target

theorem handleEmulationEvent_served (event : EmulationEvent) :
    Yields (Served K i) (Served K i) (handleEmulationEvent event) := by
  have edited := fun handle change => editRegistry_served (f := (·.changePeer handle change)) conserved i
    fun r => Registry.untouched_changePeer change
  have switched := fun x : Peers → SwitchM Unit => onSwitch_served K i x
  have restarted := restartClipboard_served K i
  cases event with
  | entered addr pos fingerprint =>
    exact onRegistry_served conserved i fun i => conserved.entered i addr pos fingerprint
  | disconnected addr =>
    have removed := onRegistry_served conserved i fun i => conserved.removeIncoming i addr
    mvcgen [handleEmulationEvent, edited, switched, removed]
  | peerHello addr commit => mvcgen [handleEmulationEvent, edited, switched]
  | portChanged port => mvcgen [handleEmulationEvent, restarted]
  | _ => mvcgen [handleEmulationEvent, switched]

theorem handleCaptureCandidate_served (outside : Outside)
    (handle : CaptureHandle) :
    Yields (Served K i) (Served K i) (handleCaptureCandidate outside handle) := by
  have switched := fun x : Peers → SwitchM Unit => onSwitch_served K i x
  have asked := fun call : EdgeIntentGate → Nat → EdgeIntentDecision × EdgeIntentGate =>
    onEdgeIntent_served conserved i call
  mvcgen [handleCaptureCandidate, switched, asked]

theorem handleCaptureEvent_served (outside : Outside)
    (event : ICaptureEvent) :
    Yields (Served K i) (Served K i) (handleCaptureEvent outside event) := by
  have switched := fun x : Peers → SwitchM Unit => onSwitch_served K i x
  cases event with
  | captureBegin handle => exact handleCaptureBegin_served K i handle
  | captureDisabled =>
    have called := clipboard_served K i
    have edited := editRegistry_served
      (f := fun r => { r with edgeIntentGate := r.edgeIntentGate.map (·.clear) }) conserved i
        fun r => ⟨fun _ => rfl, rfl, rfl, rfl⟩
    mvcgen [handleCaptureEvent, called, edited, switched]
  | captureEnabled => mvcgen [handleCaptureEvent]
  | captureCandidate handle => exact handleCaptureCandidate_served conserved i outside handle
  | edgeRetreated handle =>
    have asked := onEdgeIntent_served conserved i (·.retreat handle ·)
    mvcgen [handleCaptureEvent, asked]
  | clientReleased handle reason => exact handleClientReleased_served K i handle reason
  | peerReleaseStarted handle releaseEpoch =>
    exact handlePeerReleaseStarted_served K i outside handle releaseEpoch
  | _ => mvcgen [handleCaptureEvent, switched]

theorem handleResolverEvent_served (event : DnsEvent) :
    Yields (Served K i) (Served K i) (handleResolverEvent event) := by
  cases event with
  | resolving handle => mvcgen [handleResolverEvent]
  | resolved handle ips => exact editRegistry_served conserved i fun r => Registry.untouched_edit fun _ => rfl

theorem handleConfigChange_served (config : ServiceConfig) :
    Yields (Served K i) (Served K i) (handleConfigChange config) := by
  have switched := fun x : Peers → SwitchM Unit => onSwitch_served K i x
  have looked := onSwitch_served K i fun _ => Switch.readClock
  have edited := fun gate => editRegistry_served (f := ({ · with edgeIntentGate := gate })) conserved i
    fun r => ⟨fun _ => rfl, rfl, rfl, rfl⟩
  have restarted := restartClipboard_served K i
  have reloaded := onRegistry_served conserved i fun i => conserved.reload i config.clients
  mvcgen [handleConfigChange, switched, looked, edited, restarted, reloaded]
  rename_i served
  exact Served.record served rfl

theorem handle_served (outside : Outside) (event : ServiceEvent) :
    Yields (Served K i) (Served K i) (handle outside event) := by
  cases event with
  | frontend request => exact handleFrontendRequest_served conserved i request
  | emulation event => exact handleEmulationEvent_served conserved i event
  | capture event => exact handleCaptureEvent_served conserved i outside event
  | resolver event => exact handleResolverEvent_served conserved i event
  | switchTask event => exact onSwitch_served K i (Switch.handleSwitchTaskEvent · event)
  | deadline => exact onSwitch_served K i Switch.handleSwitchDeadline
  | configChanged config => exact handleConfigChange_served conserved i config

theorem turn_conserved {s : Service} {log : List RegistryAct} {clock : Nat} {event : ServiceEvent}
    {outside : Outside} {t : ServiceScene} (kept : K i ⟨s.registry, log⟩)
    (done : s.turn clock event outside = some t) : K i ⟨t.service.registry, log ++ registryActs t.log⟩ := by
  obtain ⟨j, now, further⟩ := conserved.resumes kept
  exact further ((handle_served conserved j outside event).ok now (turn_ok done))

end Service

end Lifting

end DisplayMux.LanMouse
