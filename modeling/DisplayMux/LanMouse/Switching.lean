import Mathlib.Algebra.Group.Nat.Defs
import DisplayMux.Clipboard.Types
import DisplayMux.LanMouse.Client
import DisplayMux.LanMouse.Capture
import DisplayMux.LanMouse.Controller

/-! The part of the service that gives the input bundle to a peer and takes it back. It
sees the clients only through `Peers`. A handler keeps what it changed even when it
panics, and records what it did in order. Time may pass before every look at the clock. -/
namespace DisplayMux.LanMouse

open Clipboard (ClipboardReason)

inductive ClipboardTransitionId where
  | outgoing (leaseEpoch : UInt64)
  | fallback (releaseEpoch : UInt64)
  deriving DecidableEq, Repr

inductive ClipboardCall where
  | captureProvisional
  | beginRemote (leaseEpoch : UInt64) (target : SwitchHost)
  | beginFallback (releaseEpoch : UInt64) (serverHost : SwitchHost)
  | activate (transition : ClipboardTransitionId)
  | cancel (transition : ClipboardTransitionId) (reason : ClipboardReason)
  | cancelCurrent (reason : ClipboardReason)
  | restart
  deriving DecidableEq, Repr

inductive SwitchJob where
  | prepare (context : GateContext) (readiness : PeerBundleReadiness)
  | commit (context : GateContext) (grant : GrantIdentity)
  | renew (context : GateContext)
  | cleanup (context : GateContext) (reason : String) (readiness : Option PeerBundleReadiness)
  | armManualRecovery (target : SwitchHost) (reason detail : String)
  deriving DecidableEq, Repr

inductive SwitchAct where
  | arm (handle : CaptureHandle) (leaseEpoch peerSessionEpoch : UInt64) (validForMs : Nat)
  | disarm (leaseEpoch : UInt64)
  | release (completion : Bool)
  | decided (handle : CaptureHandle) (leaseEpoch : UInt64) (authorized : Bool)
  | spawn (epoch : Nat) (job : SwitchJob)
  | abort (epoch : Nat)
  | clipboard (call : ClipboardCall)
  | failed (target : Option SwitchHost) (reason : String) (detail : Option String)
  deriving DecidableEq, Repr

def GateError.text : GateError → String
  | .busy => "input bundle is already reserved"
  | .peerNotReady => "peer keyboard and pointer bundle is not ready"
  | .invalidIdentity => "request or lease identity is invalid"
  | .staleIdentity => "request, lease, or grant identity is stale"
  | .expired => "bundle lease or grant expired"
  | .invalidState => "gate transition is not valid in the current state"

/-- An error of the controller's client and how it prints itself. An error of the HTTP
client also tells whether it timed out or could not connect. -/
structure SwitchFailure where
  error : SwitchClientError
  text : String
  timedOut : Bool
  unconnected : Bool
  deriving DecidableEq, Repr

def controllerDenialNotification (status reason : String) : String × String :=
  if reason = "target_signal_absent" then
    ("target_signal_absent",
      "The TV selected the target input, but did not detect an active HDMI signal before " ++
        "verification timed out")
  else if reason = "target_signal_stale" then
    ("target_signal_stale",
      "The TV returned HDMI signal state from an older switch attempt, so ownership was not transferred")
  else if reason = "target_signal_not_observed" then
    ("target_signal_not_observed",
      "The TV did not return HDMI signal state for the target input before verification timed out")
  else if reason = "target_input_not_observed" then
    ("target_input_not_observed",
      "The TV did not confirm that it reached the target input before verification timed out")
  else if reason = "target_not_fullscreen" then
    ("target_not_fullscreen", "The TV did not confirm fullscreen mode before verification timed out")
  else if reason = "target_verification_timeout" ∨ reason = "observation_timeout" then
    ("target_verification_timeout",
      "The TV did not confirm fullscreen mode, the target input, and an active HDMI signal " ++
        "before verification timed out")
  else ("controller_denied", "The TV controller ended the request as " ++ status ++ ": " ++ reason)

def SwitchFailure.code (f : SwitchFailure) : String :=
  match f.error with
  | .timeout => "controller_timeout"
  | .staleIdentity => "controller_identity_race"
  | .request =>
    if f.timedOut then "controller_timeout"
    else if f.unconnected then "controller_unreachable"
    else "controller_request_failed"
  | .cancelled => "controller_cancelled"
  | .responseTooLarge => "controller_response_too_large"
  | .protocolVersion _ => "controller_protocol_mismatch"
  | .denied status reason => (controllerDenialNotification status reason).1
  | .http _ _ _ => "controller_http_error"
  | .invalidBaseUrl => "controller_configuration_invalid"
  | .json => "controller_response_invalid"

def SwitchFailure.notificationDetail (f : SwitchFailure) (operation : String) : String × String :=
  match f.error with
  | .denied status reason => controllerDenialNotification status reason
  | _ => (f.code, operation ++ ": " ++ f.text)

/-- What a controller task reports when it is done; a renewing task reports every time. -/
inductive SwitchTaskEvent where
  | prepared (taskEpoch : Nat) (context : GateContext) (result : Except SwitchFailure PreparedGrant)
  | committed (taskEpoch : Nat) (context : GateContext) (grant : GrantIdentity)
      (result : Except SwitchFailure Nat)
  | renewed (taskEpoch : Nat) (context : GateContext) (result : Except SwitchFailure Nat)
  | cleanupFinished (taskEpoch : Nat) (requestId : String) (result : Except SwitchFailure Unit)
  | manualRecoveryArmed (taskEpoch : Nat) (target : SwitchHost) (reason detail : String)
      (result : Except SwitchFailure Unit)
  deriving DecidableEq, Repr

def nsPerMs : Nat := 1000000

def hexadecimal (n : BitVec 128) : String :=
  String.ofList (List.ofFn fun i : Fin 32 => Nat.digitChar (n.toNat / 16 ^ (31 - i.val) % 16))

structure SwitchController where
  config : SwitchControllerConfig
  startedAt : Nat
  deriving DecidableEq, Repr

def SwitchController.nowMs (c : SwitchController) (clock : Nat) : Nat :=
  min ((clock - c.startedAt) / nsPerMs) u64Max

structure SwitchTimer where
  setAt : Nat
  sleepMs : Nat
  deriving DecidableEq, Repr

def SwitchTimer.elapsed (t : SwitchTimer) (clock : Nat) : Bool := t.setAt + t.sleepMs * nsPerMs ≤ clock

structure Peers where
  clients : ClientManager
  localCommit : Vector UInt8 8

namespace Peers

def protocolCompatible (p : Peers) (handle : ClientHandle) : Bool :=
  (p.clients.get handle).any (·.state.peerCommit = some p.localCommit)

def readiness (p : Peers) (handle : ClientHandle) : Option PeerBundleReadiness :=
  (p.clients.get handle).map fun c =>
    let compatible := p.protocolCompatible handle
    ⟨c.state.alive, compatible && c.state.keyboardReady, compatible && c.state.pointerReady,
      c.state.peerSessionEpoch⟩

def failureDetail (p : Peers) (handle : ClientHandle) (readiness : PeerBundleReadiness) :
    String × String :=
  if readiness.online = false then
    ("peer_offline", "No lan-mouse heartbeat was received; the target may be asleep, stopped, or unreachable")
  else if p.protocolCompatible handle = false then
    ("peer_revision_mismatch", "The target lan-mouse revision does not match the server")
  else if readiness.sessionEpoch = 0 then
    ("peer_readiness_handshake_missing", "The target did not publish a current input-readiness session")
  else match readiness.keyboardReady, readiness.pointerReady with
    | false, false =>
      ("peer_input_unavailable", "The target keyboard and pointer emulation backends are unavailable")
    | false, true =>
      ("peer_keyboard_unavailable", "The target keyboard emulation backend is unavailable")
    | true, false => ("peer_pointer_unavailable", "The target pointer emulation backend is unavailable")
    | true, true => ("peer_bundle_not_ready", "The target input bundle changed during reservation")

end Peers

def PeerBundleReadiness.bundleReady (r : PeerBundleReadiness) : Bool :=
  r.online && r.keyboardReady && r.pointerReady

structure Switch where
  bundleLease : BundleLeaseManager
  switchController : Option SwitchController
  switchDeadline : Option SwitchTimer
  switchTask : Option Nat
  nextSwitchTaskEpoch : Nat
  activeSwitchCapture : Option (CaptureHandle × UInt64)
  pendingSwitchCleanup : Option (GateContext × String)
  deriving DecidableEq, Repr

structure SwitchScene where
  clock : Nat
  waits : List Nat
  switch : Switch
  log : List SwitchAct

abbrev SwitchM := EStateM String SwitchScene

namespace SwitchScene

def record (s : SwitchScene) (act : SwitchAct) : SwitchScene := { s with log := s.log ++ [act] }

def withSwitch (s : SwitchScene) (switch : Switch) : SwitchScene := { s with switch }

def waited (s : SwitchScene) : SwitchScene :=
  { s with clock := s.clock + s.waits.headD 0, waits := s.waits.tail }

section

variable (s : SwitchScene) (act : SwitchAct) (switch : Switch)

@[simp] theorem record_switch : (s.record act).switch = s.switch := rfl

@[simp] theorem record_log : (s.record act).log = s.log ++ [act] := rfl

@[simp] theorem withSwitch_switch : (s.withSwitch switch).switch = switch := rfl

@[simp] theorem withSwitch_log : (s.withSwitch switch).log = s.log := rfl

@[simp] theorem waited_switch : s.waited.switch = s.switch := rfl

@[simp] theorem waited_log : s.waited.log = s.log := rfl

end

end SwitchScene

namespace Switch

def new (controller : Option SwitchController) : Switch := ⟨.new, controller, none, none, 0, none, none⟩

def perform (act : SwitchAct) : SwitchM Unit := modify fun s => s.record act

def update (f : Switch → Switch) : SwitchM Unit := modify fun s => s.withSwitch (f s.switch)

def readClock : SwitchM Nat := do
  modify fun s => s.waited
  return (← get).clock

def onLease {α : Type} (call : BundleLeaseManager → α × BundleLeaseManager) : SwitchM α := do
  let (answer, bundleLease) := call (← get).switch.bundleLease
  update ({ · with bundleLease })
  return answer

def controllerNowMs : SwitchM Nat := do
  match (← get).switch.switchController with
  | none => return u64Max
  | some controller => return controller.nowMs (← readClock)

def beginSwitchTask : SwitchM (Option Nat) := do
  let switch := (← get).switch
  if switch.switchTask.isSome then return none
  match checkedAdd switch.nextSwitchTaskEpoch 1 with
  | none => throw "switch task epoch exhausted"
  | some epoch =>
    update ({ · with nextSwitchTaskEpoch := epoch })
    return some epoch

/-- The tasks are all started alike; tells whether there is a controller and no other
task. -/
def startTask (job : SwitchJob) : SwitchM Bool := do
  if (← get).switch.switchController.isNone then return false
  match ← beginSwitchTask with
  | none => return false
  | some epoch =>
    perform (.spawn epoch job)
    update ({ · with switchTask := some epoch })
    return true

def startPrepareTask (context : GateContext) (readiness : PeerBundleReadiness) : SwitchM Bool :=
  startTask (.prepare context readiness)

def startCommitTask (context : GateContext) (grant : GrantIdentity) : SwitchM Bool :=
  startTask (.commit context grant)

def startRenewalTask (context : GateContext) : SwitchM Bool := startTask (.renew context)

def startCleanupTask (peers : Peers) (context : GateContext) (reason : String) : SwitchM Unit :=
  discard (startTask (.cleanup context reason (peers.readiness context.handle)))

def armManualRecoveryThenNotify (target : SwitchHost) (reason detail : String) : SwitchM Unit := do
  unless ← startTask (.armManualRecovery target reason detail) do
    perform (.failed (some target) reason (some detail))

/-- Tells whether the report comes from the current task, which is then done. -/
def finishSwitchTask (taskEpoch : Nat) : SwitchM Bool := do
  if (← get).switch.switchTask ≠ some taskEpoch then return false
  update ({ · with switchTask := none })
  return true

def cancelSwitchTask : SwitchM Unit := do
  match (← get).switch.switchTask with
  | none => return
  | some epoch =>
    update ({ · with switchTask := none })
    perform (.abort epoch)

def resetSwitchDeadline : SwitchM Unit := do
  match (← get).switch.bundleLease.deadlineMs with
  | none => update ({ · with switchDeadline := none })
  | some deadlineMs =>
    let nowMs ← controllerNowMs
    let setAt := (← get).clock
    update ({ · with switchDeadline := some ⟨setAt, deadlineMs - nowMs⟩ })

def cancelClipboard (context : GateContext) : SwitchM Unit :=
  perform (.clipboard (.cancel (.outgoing context.lease.leaseEpoch) .canceled))

/-- What a failed switch undoes at once: its lease, its permit, its task and its timer. -/
def closeContext (context : GateContext) : SwitchM Unit := do
  cancelClipboard context
  if (← get).switch.bundleLease.context.any (·.sameIdentity context) then
    discard (onLease (·.invalidate))
  perform (.disarm context.lease.leaseEpoch)
  cancelSwitchTask
  update ({ · with switchDeadline := none })

/-- The controller is told at once, or after the capture has been released. -/
def failContextInner (peers : Peers) (context : GateContext) (reason : String)
    (detail : Option String) : SwitchM Unit := do
  closeContext context
  perform (.failed (some context.target) reason detail)
  if (← get).switch.activeSwitchCapture = some (context.handle, context.lease.leaseEpoch) then
    update ({ · with pendingSwitchCleanup := some (context, reason) })
    perform (.release false)
  else
    startCleanupTask peers context reason

def failContext (peers : Peers) (context : GateContext) (reason : String) : SwitchM Unit :=
  failContextInner peers context reason none

def failContextWithDetail (peers : Peers) (context : GateContext) (reason detail : String) :
    SwitchM Unit :=
  failContextInner peers context reason (some detail)

def failGate (peers : Peers) (reason : String) : SwitchM Unit := do
  match ← onLease (·.invalidate) with
  | none => return
  | some context => failContext peers context reason

def failGateWithDetail (peers : Peers) (reason detail : String) : SwitchM Unit := do
  match ← onLease (·.invalidate) with
  | none => return
  | some context => failContextWithDetail peers context reason detail

/-- The task is about to release the capture by itself, so no release is requested. -/
def deferFailureUntilCaptureRelease (context : GateContext) (reason : String) : SwitchM Unit := do
  closeContext context
  update ({ · with pendingSwitchCleanup := some (context, reason) })
  perform (.failed (some context.target) reason none)

def releaseGateAfterCapture (peers : Peers) (reason : String) (notifyFailure : Bool) :
    SwitchM Unit := do
  match ← onLease (·.invalidate) with
  | none => return
  | some context =>
    cancelClipboard context
    cancelSwitchTask
    update ({ · with switchDeadline := none })
    if notifyFailure then perform (.failed (some context.target) reason none)
    startCleanupTask peers context reason

def completePendingSwitchCleanup (peers : Peers) : SwitchM Unit := do
  match (← get).switch.pendingSwitchCleanup with
  | none => return
  | some (context, reason) =>
    update ({ · with pendingSwitchCleanup := none })
    startCleanupTask peers context reason

/-- The bundle is reserved; the controller is asked to prepare the switch. -/
def startSwitch (peers : Peers) (context : GateContext) (readiness : PeerBundleReadiness) :
    SwitchM Unit := do
  perform (.clipboard (.beginRemote context.lease.leaseEpoch context.target))
  resetSwitchDeadline
  unless ← startPrepareTask context readiness do
    failContext peers context "controller_busy"

/-- The rest of `handle_capture_candidate`, once the intent is confirmed. -/
def requestSwitch (peers : Peers) (controller : SwitchController) (handle : ClientHandle)
    (target : SwitchHost) (readiness : Option PeerBundleReadiness)
    (requestNonce leaseNonce : BitVec 128) : SwitchM Unit := do
  match readiness with
  | none =>
    armManualRecoveryThenNotify target "peer_missing" "The target lan-mouse peer is unavailable"
  | some readiness =>
    let bundleReady := readiness.bundleReady && readiness.sessionEpoch != 0
    let nowMs := controller.nowMs (← readClock)
    let reserved ← onLease (·.reserve handle target ("request-" ++ hexadecimal requestNonce)
      ("lease-" ++ hexadecimal leaseNonce) readiness.sessionEpoch bundleReady nowMs
        controller.config.leaseTtlMs)
    match reserved with
    | .error .peerNotReady =>
      let (reason, detail) := peers.failureDetail handle readiness
      armManualRecoveryThenNotify target reason detail
    | .error .busy =>
      perform (.failed (some target) "controller_busy" (some "Another switch operation is already active"))
    | .error .expired =>
      perform (.failed (some target) "local_lease_expired"
        (some "The local keyboard and pointer lease expired"))
    | .error error =>
      perform (.failed (some target) "local_gate_race"
        (some ("A stale or conflicting local gate transition was rejected: " ++ error.text)))
    | .ok context => startSwitch peers context readiness

/-- The grant has been armed; the capture is told how long it may be used. -/
def armCapture (peers : Peers) (context : GateContext) (grant : GrantIdentity) : SwitchM Unit := do
  resetSwitchDeadline
  match (← get).switch.switchController with
  | none => failContext peers context "controller_missing_after_grant"
  | some controller =>
    if context.target = controller.config.serverHost then
      unless ← startCommitTask context grant do
        failContext peers context "commit_task_busy"
      return
    let nowMs := controller.nowMs (← readClock)
    match (← get).switch.bundleLease.deadlineMs with
    | none => failContext peers context "grant_deadline_missing"
    | some deadlineMs =>
      if deadlineMs ≤ nowMs then
        failContext peers context "grant_expired_before_arm"
      else
        perform (.arm context.handle context.lease.leaseEpoch context.lease.peerSessionEpoch
          (deadlineMs - nowMs))

def current (context : GateContext) : SwitchM Bool := do
  return (← get).switch.bundleLease.context.any (·.sameIdentity context)

def handlePrepared (peers : Peers) (context : GateContext)
    (result : Except SwitchFailure PreparedGrant) : SwitchM Unit := do
  unless ← current context do return
  match result with
  | .error failure =>
    let (reason, detail) := failure.notificationDetail "TV switch preparation failed"
    failGateWithDetail peers reason detail
  | .ok prepared =>
    match peers.readiness context.handle with
    | none => failContext peers context "peer_missing_before_grant"
    | some readiness =>
      let nowMs ← controllerNowMs
      let armed ← onLease (·.armGrant context prepared.requestEpoch prepared.grantEpoch
        prepared.leaseExpiresAtMs prepared.grantExpiresAtMs readiness.bundleReady
        readiness.sessionEpoch nowMs)
      match armed with
      | .error error =>
        failContextWithDetail peers context "grant_rejected_locally"
          ("A stale, conflicting, or expired TV grant was rejected: " ++ error.text)
      | .ok (context, grant) => armCapture peers context grant

def commitSwitch (context : GateContext) (grant : GrantIdentity) : SwitchM Bool := do
  perform (.clipboard (.activate (.outgoing context.lease.leaseEpoch)))
  resetSwitchDeadline
  unless ← startCommitTask context grant do
    deferFailureUntilCaptureRelease context "commit_task_busy"
    return false
  return true

def authorizeClientEnter (peers : Peers) (handle : CaptureHandle)
    (leaseEpoch permitPeerSessionEpoch : UInt64) : SwitchM Bool := do
  match (← get).switch.bundleLease.context with
  | none => return false
  | some context =>
    if context.handle ≠ handle ∨ context.lease.leaseEpoch ≠ leaseEpoch ∨
        context.lease.peerSessionEpoch ≠ permitPeerSessionEpoch then
      deferFailureUntilCaptureRelease context "capture_permit_stale"
      return false
    match peers.readiness handle with
    | none =>
      deferFailureUntilCaptureRelease context "peer_missing_before_commit"
      return false
    | some readiness =>
      let nowMs ← controllerNowMs
      let committed ← onLease (·.commit handle leaseEpoch readiness.bundleReady
        readiness.sessionEpoch nowMs)
      match committed with
      | .error _ =>
        deferFailureUntilCaptureRelease context "capture_commit_rejected"
        return false
      | .ok (context, grant) => commitSwitch context grant

/-- A permit has reached the edge. `decisionOpen` tells whether the task still waits for
the answer. -/
def handleCommitRequested (peers : Peers) (handle : CaptureHandle)
    (leaseEpoch peerSessionEpoch : UInt64) (decisionOpen : Bool) : SwitchM Unit := do
  let authorized ← authorizeClientEnter peers handle leaseEpoch peerSessionEpoch
  if authorized then
    update ({ · with activeSwitchCapture := some (handle, leaseEpoch) })
  perform (.decided handle leaseEpoch authorized)
  if decisionOpen = false ∧ authorized = true then
    match (← get).switch.bundleLease.context with
    | none => return
    | some context => failContext peers context "capture_commit_decision_dropped"

def startRenewing (peers : Peers) (context : GateContext) : SwitchM Unit := do
  unless ← startRenewalTask context do
    failContext peers context "renewal_task_busy"

def handleCommitted (peers : Peers) (context : GateContext) (result : Except SwitchFailure Nat) :
    SwitchM Unit := do
  unless ← current context do return
  match result with
  | .error failure =>
    let (reason, detail) := failure.notificationDetail "Input commit failed"
    failGateWithDetail peers reason detail
  | .ok renewedUntilMs =>
    match (← get).switch.switchController with
    | none => failContext peers context "controller_missing_after_commit"
    | some controller =>
      if context.target = controller.config.serverHost then
        discard (onLease (·.invalidate))
        update ({ · with switchDeadline := none })
        return
      match peers.readiness context.handle with
      | none => failContext peers context "peer_missing_after_commit"
      | some readiness =>
        let nowMs := controller.nowMs (← readClock)
        let renewed ← onLease (·.renew context.lease.requestId renewedUntilMs
          readiness.bundleReady readiness.sessionEpoch nowMs)
        match renewed with
        | .error _ => failContext peers context "commit_ack_rejected"
        | .ok _ =>
          resetSwitchDeadline
          match (← get).switch.bundleLease.context with
          | none => throw "renewed lease has context"
          | some context => startRenewing peers context

def handleRenewed (peers : Peers) (taskEpoch : Nat) (context : GateContext)
    (result : Except SwitchFailure Nat) : SwitchM Unit := do
  unless ← current context do
    cancelSwitchTask
    return
  match result with
  | .error failure =>
    discard (finishSwitchTask taskEpoch)
    let (reason, detail) := failure.notificationDetail "Input lease renewal failed"
    failGateWithDetail peers reason detail
  | .ok renewedUntilMs =>
    match peers.readiness context.handle with
    | none =>
      discard (finishSwitchTask taskEpoch)
      failContext peers context "peer_missing_during_renewal"
    | some readiness =>
      let nowMs ← controllerNowMs
      let renewed ← onLease (·.renew context.lease.requestId renewedUntilMs readiness.bundleReady
        readiness.sessionEpoch nowMs)
      match renewed with
      | .error _ =>
        discard (finishSwitchTask taskEpoch)
        failContext peers context "renewal_ack_rejected"
      | .ok _ => resetSwitchDeadline

def handleSwitchTaskEvent (peers : Peers) : SwitchTaskEvent → SwitchM Unit
  | .prepared taskEpoch context result => do
    unless ← finishSwitchTask taskEpoch do return
    handlePrepared peers context result
  | .committed taskEpoch context _ result => do
    unless ← finishSwitchTask taskEpoch do return
    handleCommitted peers context result
  | .renewed taskEpoch context result => do
    if (← get).switch.switchTask ≠ some taskEpoch then return
    handleRenewed peers taskEpoch context result
  | .cleanupFinished taskEpoch _ _ => discard (finishSwitchTask taskEpoch)
  | .manualRecoveryArmed taskEpoch target reason detail result => do
    unless ← finishSwitchTask taskEpoch do return
    let detail := match result with
      | .ok _ => detail
      | .error failure =>
        detail ++ ". Manual OLED recovery could not be authorized: " ++ failure.text
    perform (.failed (some target) reason (some detail))

def handlePeerReadinessChange (peers : Peers) (handle : ClientHandle) : SwitchM Unit := do
  match (← get).switch.bundleLease.context.filter (·.handle = handle) with
  | none => return
  | some context =>
    match peers.readiness handle with
    | none => failContext peers context "peer_removed"
    | some readiness =>
      if readiness.bundleReady = false ∨ readiness.sessionEpoch ≠ context.lease.peerSessionEpoch then
        failContext peers context "peer_readiness_lost"

def handleSwitchDeadline (peers : Peers) : SwitchM Unit := do
  update ({ · with switchDeadline := none })
  let nowMs ← controllerNowMs
  match ← onLease (·.expire nowMs) with
  | some context => failContext peers context "local_lease_expired"
  | none => resetSwitchDeadline

/-- A pending cleanup goes first; otherwise the lease ends with the capture. -/
def captureEnded (peers : Peers) (reason : String) (notifyFailure : Bool) : SwitchM Unit := do
  if (← get).switch.pendingSwitchCleanup.isSome then
    completePendingSwitchCleanup peers
  else
    releaseGateAfterCapture peers reason notifyFailure

def handleCaptureDisabled (peers : Peers) : SwitchM Unit := do
  update ({ · with activeSwitchCapture := none })
  captureEnded peers "capture_backend_disabled" true

def forgetCapture (handle : CaptureHandle) (leaseEpoch : UInt64) : SwitchM Unit := do
  if (← get).switch.activeSwitchCapture = some (handle, leaseEpoch) then
    update ({ · with activeSwitchCapture := none })

def handleCommitDeniedReleased (peers : Peers) (handle : CaptureHandle) (leaseEpoch : UInt64) :
    SwitchM Unit := do
  forgetCapture handle leaseEpoch
  if (← get).switch.pendingSwitchCleanup.isSome then
    completePendingSwitchCleanup peers
  else if (← get).switch.bundleLease.context.any fun context =>
      context.handle = handle ∧ context.lease.leaseEpoch = leaseEpoch then
    releaseGateAfterCapture peers "capture_commit_not_authorized" true

end Switch

def CaptureReleaseReason.failureReason : CaptureReleaseReason → Option String
  | .localCaptureLost => some "local_pointer_capture_lost"
  | .peerReadinessLost => some "peer_readiness_lost_during_capture"
  | .transportFailed => some "peer_transport_failed_during_capture"
  | .peerLeft | .peerReleaseRequested | .serviceRequested | .releaseBind => none

def Switch.handleClientReleased (peers : Peers) (reason : CaptureReleaseReason) : SwitchM Unit := do
  update ({ · with activeSwitchCapture := none })
  captureEnded peers (reason.failureReason.getD "capture_released") reason.failureReason.isSome

end DisplayMux.LanMouse
