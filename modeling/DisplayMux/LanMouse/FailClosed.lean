import DisplayMux.LanMouse.Service
import DisplayMux.LanMouse.SwitchSafety

/-! The whole service fails closed, whatever events it handles in whatever order. A
commit is only asked for with a permit that the service has armed, once for each. -/
namespace DisplayMux.LanMouse

open BundleLeaseManager

def switchActs (log : List ServiceAct) : List SwitchAct :=
  log.filterMap fun
    | .switch act => some act
    | _ => none

section Acts

@[simp] theorem switchActs_append (log log' : List ServiceAct) :
    switchActs (log ++ log') = switchActs log ++ switchActs log' := List.filterMap_append

@[simp] theorem switchActs_switch (log : List SwitchAct) : switchActs (log.map .switch) = log := by
  simp [switchActs, List.filterMap_map]

@[simp] theorem switchActs_registry (log : List RegistryAct) : switchActs (log.map .registry) = [] := by
  simp [switchActs, List.filterMap_map]

end Acts

/-- While the capture of a switch is active, no commit that would cost a lease fails, and
no release of a refused commit ends the cleanup that the capture waits for. -/
def Service.undisturbed (s : Service) (clock : Nat) : ServiceEvent → Bool
  | .capture (.commitRequested handle leaseEpoch peerSessionEpoch) =>
    s.switch.harmless s.peers clock handle leaseEpoch peerSessionEpoch
  | .capture (.commitDeniedReleased handle leaseEpoch) => s.switch.spares handle leaseEpoch
  | _ => true

def ServiceAct.permit : ServiceAct → Option (CaptureHandle × UInt64 × UInt64)
  | .switch (.arm handle leaseEpoch peerSessionEpoch _) => some (handle, leaseEpoch, peerSessionEpoch)
  | _ => none

/-- A service with the permits that it has armed and that no commit has used yet. -/
structure Station where
  service : Service
  clock : Nat
  permits : List (CaptureHandle × UInt64 × UInt64)

inductive StationMove where
  | elapse (ns : Nat)
  | connection (handle : ClientHandle) (change : PeerChange)
  | event (event : ServiceEvent) (outside : Outside)

namespace Station

def opened (localCommit : Vector UInt8 8) (clock : Nat) (config : ServiceConfig) : Option Station :=
  (Service.started localCommit clock config).map fun t => ⟨t.service, t.clock, []⟩

def spend (s : Station) : ServiceEvent → Option (List (CaptureHandle × UInt64 × UInt64))
  | .capture (.commitRequested handle leaseEpoch peerSessionEpoch) =>
    if (handle, leaseEpoch, peerSessionEpoch) ∈ s.permits then
      some (s.permits.erase (handle, leaseEpoch, peerSessionEpoch))
    else none
  | _ => some s.permits

def step (s : Station) : StationMove → Option (Station × List ServiceAct)
  | .elapse ns => some ({ s with clock := s.clock + ns }, [])
  | .connection handle change =>
    let registry := s.service.registry.changePeer handle change
    some ({ s with service := { s.service with registry } }, [])
  | .event event outside => do
    let permits ← s.spend event
    let t ← s.service.turn s.clock event outside
    return (⟨t.service, t.clock, permits ++ t.log.filterMap (·.permit)⟩, t.log)

/-- The clock is read once more before a commit is decided. -/
def undisturbed (s : Station) : StationMove → Bool
  | .event event outside => s.service.undisturbed (s.clock + outside.waits.headD 0) event
  | .elapse _ | .connection _ _ => true

end Station

def station : Machine Station StationMove (List ServiceAct) := ⟨Station.step⟩

abbrev StationEntry := Entry Station StationMove (List ServiceAct)

def StationEntry.acts (trace : List StationEntry) : List SwitchAct :=
  switchActs (trace.flatMap (·.output))

variable {past : List SwitchAct}

section Lifting

open Std.Do

set_option mvcgen.warning false

namespace Service

abbrev Kept (past : List SwitchAct) (s : ServiceScene) : Prop :=
  Secure (past ++ switchActs s.log) s.service.switch

theorem Kept.record {s : ServiceScene} {act : ServiceAct} (kept : Kept past s)
    (other : switchActs [act] = []) : Kept past (s.record act) := by
  simpa [Kept, ServiceScene.record, other] using kept

variable {α : Type}

theorem onSwitch_yields {P Q : List SwitchAct → Switch → Prop} {x : Peers → SwitchM α}
    (past : List SwitchAct)
    (yields : ∀ past peers, Yields (fun s => P (past ++ s.log) s.switch)
      (fun s => Q (past ++ s.log) s.switch) (x peers)) :
    Yields (fun s => P (past ++ switchActs s.log) s.service.switch)
      (fun s => Q (past ++ switchActs s.log) s.service.switch) (onSwitch x) := by
  rw [yields_iff]
  intro s a s' holds ran
  obtain ⟨t, done, rfl⟩ := onSwitch_ok ran
  have before : P (past ++ switchActs s.log ++ s.toSwitch.log) s.toSwitch.switch := by
    simpa [ServiceScene.toSwitch] using holds
  have after := (yields (past ++ switchActs s.log) s.service.peers).ok before done
  simpa [ServiceScene.afterSwitch] using after

theorem onRegistry_yields (P : List SwitchAct → Switch → Prop) (past : List SwitchAct)
    (x : RegistryM α) :
    Yields (fun s => P (past ++ switchActs s.log) s.service.switch)
      (fun s => P (past ++ switchActs s.log) s.service.switch) (onRegistry x) := by
  rw [yields_iff]
  intro s a s' holds ran
  obtain ⟨t, -, rfl⟩ := onRegistry_ok ran
  simpa [ServiceScene.afterRegistry] using holds

section

variable (past : List SwitchAct)

theorem onSwitch_kept {x : Peers → SwitchM α}
    (safe : ∀ past peers, Yields (Switch.Safe past) (Switch.Safe past) (x peers)) :
    Yields (Kept past) (Kept past) (onSwitch x) :=
  onSwitch_yields (P := Secure) (Q := Secure) past safe

theorem onRegistry_kept (x : RegistryM α) : Yields (Kept past) (Kept past) (onRegistry x) :=
  onRegistry_yields Secure past x

theorem performed_kept (act : SwitchAct) :
    Yields (Kept past) (Kept past) (onSwitch fun _ => Switch.perform act) := by
  refine onSwitch_kept past ?_
  intro past _
  mvcgen
  rename_i safe
  exact safe.record _

theorem clipboard_kept (call : ClipboardCall) :
    Yields (Kept past) (Kept past) (clipboard call) := performed_kept past (.clipboard call)

theorem editRegistry_kept (f : Registry → Registry) :
    Yields (Kept past) (Kept past) (editRegistry f) := onRegistry_kept past _

end

theorem readClock_yields (P : List SwitchAct → Switch → Prop) (past : List SwitchAct) :
    Yields (fun s => P (past ++ switchActs s.log) s.service.switch)
      (fun s => P (past ++ switchActs s.log) s.service.switch)
      (onSwitch fun _ => Switch.readClock) := by
  refine onSwitch_yields past ?_
  intro past _
  mvcgen

section

variable (past : List SwitchAct)

theorem handleFrontendRequest_kept (request : FrontendRequest) :
    Yields (Kept past) (Kept past) (handleFrontendRequest request) := by
  cases request with
  | enableCapture =>
    mvcgen [handleFrontendRequest]
    rename_i kept
    exact Kept.record kept rfl
  | _ => mvcgen [handleFrontendRequest, onRegistry_kept]

theorem restartClipboard_kept : Yields (Kept past) (Kept past) restartClipboard := by
  mvcgen [restartClipboard, clipboard_kept]

theorem readinessChanged_kept (handle : ClientHandle) :
    Yields (Kept past) (Kept past) (onSwitch (Switch.handlePeerReadinessChange · handle)) :=
  onSwitch_kept past fun past peers => Switch.handlePeerReadinessChange_safe past peers handle

theorem handleEmulationEvent_kept (event : EmulationEvent) :
    Yields (Kept past) (Kept past) (handleEmulationEvent event) := by
  cases event with
  | entered addr pos fingerprint => exact onRegistry_kept past _
  | disconnected addr =>
    have removed := onRegistry_kept past (Registry.removeIncoming addr)
    mvcgen [handleEmulationEvent, editRegistry_kept, readinessChanged_kept, removed]
  | peerHello addr commit => mvcgen [handleEmulationEvent, editRegistry_kept, readinessChanged_kept]
  | portChanged port => mvcgen [handleEmulationEvent, restartClipboard_kept]
  | releaseCapture => exact performed_kept past (.release true)
  | _ => mvcgen [handleEmulationEvent]

theorem handleCaptureBegin_kept (handle : CaptureHandle) :
    Yields (Kept past) (Kept past) (handleCaptureBegin handle) := by
  mvcgen [handleCaptureBegin, clipboard_kept]
  rename_i kept _ _
  exact Kept.record kept rfl

end

theorem onEdgeIntent_yields (P : List SwitchAct → Switch → Prop) (past : List SwitchAct)
    (call : EdgeIntentGate → Nat → α × EdgeIntentGate) :
    Yields (fun s => P (past ++ switchActs s.log) s.service.switch)
      (fun s => P (past ++ switchActs s.log) s.service.switch) (onEdgeIntent call) := by
  have looked := readClock_yields P past
  have edited := fun f => onRegistry_yields P past (Registry.update f)
  mvcgen [onEdgeIntent, editRegistry, looked, edited]

section

variable (past : List SwitchAct) (outside : Outside)

theorem requestSwitch_kept {controller : SwitchController}
    (handle : ClientHandle) {target : SwitchHost} (other : target ≠ controller.config.serverHost)
    (readiness : Option PeerBundleReadiness) (requestNonce leaseNonce : BitVec 128) :
    Yields (fun s => Kept past s ∧ s.service.switch.switchController = some controller) (Kept past)
      (onSwitch (Switch.requestSwitch · controller handle target readiness requestNonce leaseNonce)) :=
  onSwitch_yields (P := fun log switch => Secure log switch ∧ switch.switchController = some controller)
    (Q := Secure) past fun past peers =>
      Switch.requestSwitch_safe past peers handle other readiness requestNonce leaseNonce

theorem handleCaptureCandidate_kept (handle : CaptureHandle) :
    Yields (Kept past) (Kept past) (handleCaptureCandidate outside handle) := by
  have asked := fun controller (call : EdgeIntentGate → Nat → EdgeIntentDecision × EdgeIntentGate) =>
    onEdgeIntent_yields (fun log switch => Secure log switch ∧ switch.switchController = some controller)
      past call
  mvcgen [handleCaptureCandidate, performed_kept, asked]
  · rename_i present other _ _ _ _
    intro s secure same
    refine requestSwitch_kept past handle ?_ _ _ _ s ⟨secure, same⟩
    exact fun here => other (.inl here)
  · rename_i kept
    exact kept.1

theorem handleClientReleased_kept (handle : CaptureHandle) (reason : CaptureReleaseReason) :
    Yields (Kept past) (Kept past) (handleClientReleased handle reason) := by
  have released := onSwitch_kept past fun past peers =>
    Switch.handleClientReleased_safe past peers reason
  mvcgen [handleClientReleased, clipboard_kept, released]

theorem handlePeerReleaseStarted_kept (handle : CaptureHandle) (releaseEpoch : UInt64) :
    Yields (Kept past) (Kept past) (handlePeerReleaseStarted outside handle releaseEpoch) := by
  mvcgen [handlePeerReleaseStarted, clipboard_kept]

theorem handleCaptureDisabled_kept :
    Yields (Kept past) (Kept past) (handleCaptureEvent outside .captureDisabled) := by
  have disabled := onSwitch_kept past Switch.handleCaptureDisabled_safe
  mvcgen [handleCaptureEvent, clipboard_kept, editRegistry_kept, disabled]

theorem handleConfigChange_kept (config : ServiceConfig) :
    Yields (Kept past) (Kept past) (handleConfigChange config) := by
  have failed := onSwitch_yields (P := Secure) (Q := fun log switch => Secure log switch ∧
    switch.bundleLease.state = .localState) past fun past peers =>
      Switch.failGate_free past peers "config_changed"
  have looked := readClock_yields (fun log switch => Secure log switch ∧
    switch.bundleLease.state = .localState) past
  have replaced : ∀ startedAt, Yields (fun s => Kept past s ∧
      s.service.switch.bundleLease.state = .localState) (Kept past) (onSwitch fun _ =>
        Switch.update ({ · with switchController := config.switchController.map (⟨·, startedAt⟩) })) := by
    intro startedAt
    refine onSwitch_yields (P := fun log switch => Secure log switch ∧
      switch.bundleLease.state = .localState) (Q := Secure) past ?_
    intro past _
    mvcgen
    rename_i safe
    obtain ⟨safe, free⟩ := safe
    refine ⟨⟨safe.captured, safe.decided, ?_⟩, ?_⟩
    · simp [context, free]
    · simp [deadlineMs, free]
  mvcgen [handleConfigChange, failed, looked, replaced, editRegistry_kept, restartClipboard_kept,
    onRegistry_kept]
  rename_i kept
  exact Kept.record kept rfl

theorem handle_kept (event : ServiceEvent) (asks : ∀ handle leaseEpoch peerSessionEpoch,
      event ≠ .capture (.commitRequested handle leaseEpoch peerSessionEpoch))
    (denied : ∀ handle leaseEpoch, event ≠ .capture (.commitDeniedReleased handle leaseEpoch)) :
    Yields (Kept past) (Kept past) (handle outside event) := by
  cases event with
  | frontend request => exact handleFrontendRequest_kept past request
  | emulation event => exact handleEmulationEvent_kept past event
  | resolver event =>
    have edited := fun f => editRegistry_kept past f
    cases event <;> mvcgen [handle, handleResolverEvent, edited]
  | switchTask event =>
    exact onSwitch_kept past fun past peers => Switch.handleSwitchTaskEvent_safe past peers event
  | deadline => exact onSwitch_kept past Switch.handleSwitchDeadline_safe
  | configChanged config => exact handleConfigChange_kept past config
  | capture event =>
    cases event with
    | captureBegin client => exact handleCaptureBegin_kept past client
    | captureDisabled => exact handleCaptureDisabled_kept past outside
    | captureEnabled => mvcgen [handle, handleCaptureEvent]
    | captureCandidate client => exact handleCaptureCandidate_kept past outside client
    | edgeRetreated client =>
      have asked := onEdgeIntent_yields Secure past (·.retreat client ·)
      mvcgen [handle, handleCaptureEvent, asked]
    | commitRequested client leaseEpoch peerSessionEpoch => exact absurd rfl (asks _ _ _)
    | commitDeniedReleased client leaseEpoch => exact absurd rfl (denied _ _)
    | clientReleased client reason => exact handleClientReleased_kept past client reason
    | peerReadiness client => exact readinessChanged_kept past client
    | peerReleaseStarted client releaseEpoch =>
      exact handlePeerReleaseStarted_kept past outside client releaseEpoch

end

theorem turn_secure {s : Service} {clock : Nat} {event : ServiceEvent}
    {outside : Outside} {t : ServiceScene} (secure : Secure past s.switch)
    (done : s.turn clock event outside = some t)
    (undisturbed : s.undisturbed (clock + outside.waits.headD 0) event = true) :
    Secure (past ++ switchActs t.log) t.service.switch := by
  have ran := turn_ok done
  have before : Kept past ⟨clock, outside.waits, s, []⟩ := by simpa [Kept, switchActs] using secure
  cases event with
  | capture event =>
    cases event with
    | commitRequested client leaseEpoch peerSessionEpoch =>
      change onSwitch (Switch.handleCommitRequested · client leaseEpoch peerSessionEpoch
        outside.decisionOpen) _ = _ at ran
      obtain ⟨t, decided, rfl⟩ := onSwitch_ok ran
      have after := (Switch.handleCommitRequested_safe past s.peers client leaseEpoch peerSessionEpoch
        outside.decisionOpen).ok ⟨before, by exact undisturbed⟩ decided
      simpa [ServiceScene.afterSwitch] using after
    | commitDeniedReleased client leaseEpoch =>
      have released := onSwitch_yields (P := fun log switch => Secure log switch ∧
        switch.spares client leaseEpoch = true) (Q := Secure) past
          fun past peers => Switch.handleCommitDeniedReleased_safe past peers client leaseEpoch
      exact released.ok ⟨before, undisturbed⟩ ran
    | _ => exact (handle_kept past outside _ (by simp) (by simp)).ok before ran
  | _ => exact (handle_kept past outside _ (by simp) (by simp)).ok before ran

end Service

end Lifting

theorem Secure.failClosed {log : List SwitchAct} {s : Switch} (secure : Secure log s) :
    FailClosed log s where
  captured := secure.captured
  timed stands := by
    obtain ⟨deadlineMs, due⟩ := Option.ne_none_iff_exists'.mp
      (fun missing => stands (deadlineMs_eq_none.mp missing))
    exact ⟨deadlineMs, due, secure.timed deadlineMs due⟩

section Runs

theorem Station.step_secure {e : StationEntry} (secure : Secure past e.pre.service.switch)
    (step : station.step e.pre e.input = some (e.post, e.output))
    (undisturbed : e.pre.undisturbed e.input = true) :
    Secure (past ++ switchActs e.output) e.post.service.switch := by
  obtain ⟨s, move, output, s'⟩ := e
  cases move with
  | elapse ns =>
    obtain ⟨rfl, rfl⟩ : { s with clock := s.clock + ns } = s' ∧ [] = output := by
      simpa [station, Station.step] using step
    simpa [switchActs] using secure
  | connection handle change =>
    obtain ⟨rfl, rfl⟩ : _ = s' ∧ [] = output := by
      simpa [station, Station.step] using step
    simpa [switchActs] using secure
  | event event outside =>
    obtain ⟨permits, -, t, done, rfl, rfl⟩ : ∃ permits, s.spend event = some permits ∧ ∃ t,
        s.service.turn s.clock event outside = some t ∧
          ⟨t.service, t.clock, permits ++ t.log.filterMap (·.permit)⟩ = s' ∧ t.log = output := by
      simpa [station, Station.step, Option.bind_eq_some_iff] using step
    exact Service.turn_secure secure done undisturbed

theorem Station.opened_secure {localCommit : Vector UInt8 8} {clock : Nat} {config : ServiceConfig}
    {start : Station} (opened : Station.opened localCommit clock config = some start) :
    Secure [] start.service.switch := by
  obtain ⟨t, started, rfl⟩ := Option.map_eq_some_iff.mp opened
  obtain ⟨t', -, rfl⟩ := Service.onRegistry_ok (Service.started_ok started)
  refine secure_of_idle rfl ?_ ?_
  · simp [ServiceScene.afterRegistry, Service.new, Switch.new, new,
      context]
  · simp [ServiceScene.afterRegistry, Service.new, Switch.new, new,
      deadlineMs]

/-- A run of the service in which nothing is disturbed fails closed. -/
theorem station_fails_closed {localCommit : Vector UInt8 8} {clock : Nat} {config : ServiceConfig}
    {start s : Station} {trace : List StationEntry}
    (opened : Station.opened localCommit clock config = some start)
    (run : Run station start trace s) (undisturbed : ∀ e ∈ trace, e.pre.undisturbed e.input = true) :
    FailClosed (StationEntry.acts trace) s.service.switch := by
  have kept : (∀ e ∈ trace, e.pre.undisturbed e.input = true) →
      Secure (StationEntry.acts trace) s.service.switch := by
    refine run.history (P := fun trace s => (∀ e ∈ trace, e.pre.undisturbed e.input = true) →
      Secure (StationEntry.acts trace) s.service.switch) ?_ ?_
    · exact fun _ => Station.opened_secure opened
    · intro trace s move s' output _ kept step undisturbed
      have before := kept fun e member => undisturbed e (List.mem_append_left _ member)
      have after := Station.step_secure (e := ⟨s, move, output, s'⟩) before step (undisturbed _ (by simp))
      simpa [StationEntry.acts] using after
  exact (kept undisturbed).failClosed

namespace Station

def twoClients : ServiceConfig where
  port := 4242
  switchController := some ⟨true, .controller, .controller, 1000, 10000, 500⟩
  clients := [(⟨[.v4 1], none, 4242, .left, true⟩, some .left),
    (⟨[.v4 2], none, 4242, .right, true⟩, some .right)]
  releaseBind := []

def still : Outside := ⟨[], 0, 0, true, false⟩

def report (event : ICaptureEvent) : StationMove := .event (.capture event) still

def connectMoves (handle : ClientHandle) (sessionEpoch : UInt64) : List StationMove :=
  [.connection handle (.alive true), .connection handle (.commit (some (.replicate 8 0))),
    .connection handle (.readiness true true sessionEpoch)]

def switchContext (handle : ClientHandle) (target : SwitchHost) (leaseEpoch sessionEpoch : UInt64) :
    GateContext :=
  ⟨handle, target, "request-" ++ hexadecimal 0, "lease-" ++ hexadecimal 0, leaseEpoch, sessionEpoch,
    10000⟩

def armMoves (context : GateContext) (taskEpoch : Nat) : List StationMove :=
  [report (.captureCandidate context.handle), report (.edgeRetreated context.handle),
    report (.captureCandidate context.handle),
    .event (.switchTask (.prepared taskEpoch context (.ok ⟨1, 1, 10000, 10000⟩))) still]

def enterMoves : List StationMove :=
  connectMoves 0 7 ++ connectMoves 1 9 ++ armMoves (switchContext 0 .left 1 7) 1 ++
    [report (.commitRequested 0 1 7)]

/-- Client 0 loses its peer, so that its capture is to be released. Before that happens,
client 1 gets its grant. -/
def takeoverMoves : List StationMove :=
  [.connection 0 (.readiness false true 7), report (.peerReadiness 0)] ++
    armMoves (switchContext 1 .right 2 9) 3

theorem entered_client_fails_closed :
    ∃ start trace s, Station.opened (.replicate 8 0) 0 twoClients = some start ∧
      Run station start trace s ∧ s.service.switch.activeSwitchCapture = some (1, 2) ∧
      FailClosed (StationEntry.acts trace) s.service.switch := by
  let moves := enterMoves ++ [report (.commitDeniedReleased 1 5)] ++ takeoverMoves ++
    [report (.commitRequested 1 2 9)]
  obtain ⟨start, trace, s, opened, run, active, undisturbed⟩ := station.exists_run_from moves
    (fun trace s => s.service.switch.activeSwitchCapture = some (1, 2) ∧
      ∀ e ∈ trace, e.pre.undisturbed e.input = true) (Station.opened (.replicate 8 0) 0 twoClients)
    (by decide +kernel)
  exact ⟨start, trace, s, opened, run, active, station_fails_closed opened run undisturbed⟩

def refusalMoves : List StationMove :=
  takeoverMoves ++ [.connection 1 (.readiness false true 9), report (.commitRequested 1 2 9)]

theorem refused_commit_hides_capture :
    ∃ start trace s, Station.opened (.replicate 8 0) 0 twoClients = some start ∧
      Run station start trace s ∧ ¬ FailClosed (StationEntry.acts trace) s.service.switch := by
  obtain ⟨start, trace, s, opened, run, active, free, other⟩ := station.exists_run_from
    (enterMoves ++ refusalMoves)
    (fun _ s => s.service.switch.activeSwitchCapture = some (0, 1) ∧
      s.service.switch.bundleLease.state = .localState ∧
      s.service.switch.pendingSwitchCleanup.all fun p => p.1.handle ≠ 0)
    (Station.opened (.replicate 8 0) 0 twoClients) (by decide +kernel)
  refine ⟨start, trace, s, opened, run, ?_⟩
  intro closed
  rcases closed.captured 0 1 active with ⟨_, _, _, owned, -⟩ | ⟨context, reason, pending, own, -⟩
  · rw [free] at owned
    exact absurd owned (by simp)
  · simp [pending, own] at other

end Station

end Runs

end DisplayMux.LanMouse
