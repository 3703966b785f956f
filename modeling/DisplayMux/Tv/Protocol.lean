import DisplayMux.Tv.Domain

/-! The reducer of the display daemon. A step takes the state, one event and the
time, and returns the next state with the effects to run, or refuses. The code
edits a copy of the state and a list of effects in place; here the pair is
passed along as a `Transition`. A failed `expect` is the `panicked` result.
Every handler ends in the same call of `validated`, also where the code returns
early, except for the two repeated messages that are answered unchecked; so a
handler returns a `Draft` and `apply` makes the call. -/
namespace DisplayMux.Tv

structure ProtocolTiming where
  commandMs : Nat
  observationMs : Nat
  grantMs : Nat
  wakeMs : Nat
  leaseMs : Nat
  signalPollMs : Nat
  deriving DecidableEq, Repr

inductive Event where
  | transportConnecting
  | transportRegistering
  | transportSubscribed
  | transportSynchronized (mode : TvMode) (input : Option Host) (signals : HostMap Bool)
  | transportDisconnected (reason : String)
  | peerReadinessUpdated (host : Host) (readiness : PeerReadiness)
  | armManualRecovery (target : Host)
  | createEnter (requestId clientId : String) (target : Host) (lease : LeaseIdentity)
  | commandAcknowledged (switchEpoch : Nat) (target : Host)
  | commandFailed (switchEpoch : Nat) (reason : String)
  | observation (switchEpoch : Nat) (mode : TvMode) (input : Option Host) (signals : HostMap Bool)
  | commit (requestId : String) (requestEpoch grantEpoch : Nat) (leaseId : String) (leaseEpoch : Nat)
  | cancel (requestId reason : String)
  | renew (requestId leaseId : String) (leaseEpoch peerSessionEpoch : Nat)
  | multiViewRequested (enabled : Bool)
  | multiViewAcknowledged (switchEpoch : Nat) (enabled : Bool)
  | subscriptionObserved (mode : TvMode) (input : Option Host)
  | tick
  | shutdown
  deriving DecidableEq, Repr

inductive Effect where
  | setInput (target : Host) (switchEpoch : Nat) (fallback : Bool)
  | observe (switchEpoch : Nat)
  | wake (target : Host) (requestEpoch : Nat)
  | setMultiView (enabled : Bool) (switchEpoch : Nat)
  deriving DecidableEq, Repr

structure Transition where
  next : ProtocolState
  effects : List Effect
  deriving DecidableEq, Repr

inductive ProtocolError where
  | unavailable
  | busy (activeRequestId : String)
  | requestIdentityConflict
  | invalidLease
  | requestNotFound
  | staleIdentity
  | inputNotLocal
  | invalidManualRecoveryTarget
  | invariant (message : String)
  deriving DecidableEq, Repr

/-- How a step ends without a transition. -/
inductive Halt where
  | refused (error : ProtocolError)
  | panicked (message : String)
  deriving DecidableEq, Repr

def refuse {α : Type} (error : ProtocolError) : Except Halt α := .error (.refused error)

inductive Draft where
  | unchecked (t : Transition)
  | check (t : Transition)

def validated (t : Transition) (nowMs : Nat) : Except Halt Transition :=
  match t.next.validate nowMs with
  | .error violation => refuse (.invariant violation.message)
  | .ok () => .ok t

@[simps] def releaseToServer (s : ProtocolState) : ProtocolState :=
  { s with keyboardOwner := s.serverHost, pointerOwner := s.serverHost, activeSession := none }

@[simps] def setCount (s : ProtocolState) (switchCount : HostMap Nat) : ProtocolState :=
  { s with switchCount }

def recordVerifiedSwitch (s : ProtocolState) (target : Host) : Except Halt ProtocolState :=
  if s.switchEpoch = 0 then .ok s
  else match s.switchCount.get target with
    | none => .error (.panicked "all host counters initialized")
    | some count => .ok (setCount s (s.switchCount.insert target (saturatingAdd count 1)))

def storeSignal (signals : HostMap Bool) (switchEpoch nowMs : Nat)
    (stored : HostMap SignalObservation) (host : Host) : HostMap SignalObservation :=
  match signals.get host with
  | none => stored
  | some present => stored.insert host { present, switchEpoch, observedAtMs := nowMs }

@[simps] def storeObservation (s : ProtocolState) (switchEpoch nowMs : Nat) (mode : TvMode)
    (input : Option Host) (signals : HostMap Bool) : ProtocolState :=
  { s with
    tvMode := mode
    observedInput := input
    inputSignal := Host.all.foldl (storeSignal signals switchEpoch nowMs) s.inputSignal }

def targetDisplayVerified (s : ProtocolState) (target : Host) (switchEpoch : Nat) : Bool :=
  s.tvMode == .fullscreen && s.observedInput == some target &&
    (s.inputSignal.get target).any fun g => g.present && g.switchEpoch == switchEpoch

def serverDisplayVerified (s : ProtocolState) (switchEpoch : Nat) : Bool :=
  targetDisplayVerified s s.serverHost switchEpoch

def targetVerificationFailureReason (s : ProtocolState) (target : Host) (switchEpoch : Nat) : String :=
  if s.tvMode ≠ .fullscreen then "target_not_fullscreen"
  else if s.observedInput ≠ some target then "target_input_not_observed"
  else match s.inputSignal.get target with
    | none => "target_signal_not_observed"
    | some g =>
      if g.switchEpoch = switchEpoch ∧ !g.present then "target_signal_absent"
      else if g.switchEpoch ≠ switchEpoch then "target_signal_stale"
      else "target_signal_not_observed"

def verificationTimeoutReason (s : ProtocolState) : String :=
  if s.phase ≠ .verifying then "observation_timeout"
  else match s.activeRequest with
    | none => "target_verification_timeout"
    | some r => targetVerificationFailureReason s r.target (r.switchEpoch.getD s.switchEpoch)

def displayRestoreRequired (s : ProtocolState) : Bool :=
  s.fallbackRequired || s.pendingMultiview.isSome ||
    (s.activeRequest.any fun r => r.switchEpoch.isSome && s.hasDisplayRoute r.target) ||
    s.activeSession.any fun a => s.hasDisplayRoute a.target

def manualDisplayObserved (s : ProtocolState) : Bool :=
  (s.tvMode != .fullscreen || s.observedInput != some s.serverHost) &&
    s.keyboardOwner == s.serverHost && s.pointerOwner == s.serverHost &&
    s.activeRequest.isNone && s.activeSession.isNone

@[simps] def acceptManualDisplay (s : ProtocolState) : ProtocolState :=
  { releaseToServer s with
    commandedInput := none
    manualRecoveryTarget := none
    fallbackRequired := false
    fallbackReason := none
    pendingMultiview := none
    phase := .idle
    phaseDeadlineMs := none
    observationInFlight := none
    nextSignalPollMs := none }

/-- What `finish_fallback` writes before it counts the switch. -/
@[simps] def fallbackFinished (s : ProtocolState) : ProtocolState :=
  { releaseToServer s with
    fallbackRequired := false
    fallbackReason := none
    phase := .idle
    phaseDeadlineMs := none
    observationInFlight := none
    nextSignalPollMs := none
    verifiedEpoch := some s.switchEpoch }

def finishFallback (s : ProtocolState) : Except Halt ProtocolState :=
  recordVerifiedSwitch (fallbackFinished s) s.serverHost

@[simps] def requestObservation (t : Transition) (nowMs : Nat) (timing : ProtocolTiming)
    (switchEpoch : Nat) : Transition where
  next := { t.next with
    observationInFlight := some switchEpoch
    nextSignalPollMs := none
    phaseDeadlineMs := some (saturatingAdd nowMs timing.observationMs) }
  effects := t.effects ++ [.observe switchEpoch]

@[simps] def requestObservationPreservingDeadline (t : Transition) (nowMs : Nat)
    (timing : ProtocolTiming) (switchEpoch : Nat) : Transition where
  next := { (requestObservation t nowMs timing switchEpoch).next with
    phaseDeadlineMs := t.next.phaseDeadlineMs }
  effects := (requestObservation t nowMs timing switchEpoch).effects

@[simps] def grantRequest (r : EnterRequest) (grantEpoch switchEpoch nowMs : Nat)
    (timing : ProtocolTiming) : EnterRequest :=
  let expiresAtMs := min (saturatingAdd nowMs timing.grantMs) r.lease.expiresAtMs
  { r with
    status := .grant
    deadlineMs := expiresAtMs
    grant := some { grantEpoch, switchEpoch, expiresAtMs } }

/-- What `issue_grant` writes for the active request before it counts the switch. -/
@[simps] def grantIssued (s : ProtocolState) (r : EnterRequest) (switchEpoch nowMs : Nat)
    (timing : ProtocolTiming) : ProtocolState :=
  let granted := grantRequest r (saturatingAdd s.grantEpoch 1) switchEpoch nowMs timing
  { s with
    grantEpoch := saturatingAdd s.grantEpoch 1
    activeRequest := some granted
    verifiedEpoch := some switchEpoch
    phase := .grantPending
    phaseDeadlineMs := some granted.deadlineMs }

def issueGrant (s : ProtocolState) (nowMs : Nat) (timing : ProtocolTiming) :
    Except Halt ProtocolState :=
  match s.activeRequest with
  | none => .error (.panicked "active request")
  | some r =>
    match r.switchEpoch with
    | none => .error (.panicked "switch epoch")
    | some switchEpoch =>
      recordVerifiedSwitch (grantIssued s r switchEpoch nowMs timing) r.target

@[simps] def switchRequest (r : EnterRequest) (switchEpoch nowMs : Nat) (timing : ProtocolTiming) :
    EnterRequest :=
  { r with
    status := .switching
    switchEpoch := some switchEpoch
    deadlineMs := saturatingAdd (saturatingAdd nowMs timing.commandMs) timing.observationMs }

@[simps] def switchStarted (s : ProtocolState) (r : EnterRequest) (nowMs : Nat)
    (timing : ProtocolTiming) : ProtocolState :=
  { s with
    switchEpoch := saturatingAdd s.switchEpoch 1
    activeRequest := some (switchRequest r (saturatingAdd s.switchEpoch 1) nowMs timing) }

/-- A switch whose target has a display route: the TV command goes out. -/
@[simps] def switchCommanded (s : ProtocolState) (target : Host) (nowMs : Nat)
    (timing : ProtocolTiming) : ProtocolState :=
  { s with
    commandedInput := some target
    phase := .switching
    phaseDeadlineMs := some (saturatingAdd nowMs timing.commandMs) }

/-- A switch whose target has no display route: no TV command is outstanding. -/
@[simps] def switchUncommanded (s : ProtocolState) : ProtocolState :=
  { s with commandedInput := none, phaseDeadlineMs := none }

def beginSwitch (t : Transition) (nowMs : Nat) (timing : ProtocolTiming) :
    Except Halt Transition :=
  match t.next.activeRequest with
  | none => .error (.panicked "active request")
  | some r =>
    let started := switchStarted t.next r nowMs timing
    if !started.hasDisplayRoute r.target then do
      let next ← issueGrant (switchUncommanded started) nowMs timing
      .ok ⟨next, t.effects⟩
    else
      .ok ⟨switchCommanded started r.target nowMs timing,
        t.effects ++ [.setInput r.target started.switchEpoch false]⟩

@[simps] def issueFallbackCommand (t : Transition) (nowMs : Nat) (timing : ProtocolTiming) :
    Transition where
  next := { t.next with
    switchEpoch := saturatingAdd t.next.switchEpoch 1
    commandedInput := some t.next.serverHost
    phase := .fallbackCommandPending
    phaseDeadlineMs := some (saturatingAdd nowMs timing.commandMs) }
  effects := t.effects ++ [.setInput t.next.serverHost (saturatingAdd t.next.switchEpoch 1) true]

/-- The manual recovery target after a failure: a remote `target` with a display
route replaces the one remembered so far. -/
def recoveryTarget (s : ProtocolState) (target : Option Host) : Option Host :=
  (target.filter fun h => h != s.serverHost && s.hasDisplayRoute h).or s.manualRecoveryTarget

/-- The history after a fallback: the request of the running session, when still
committed, and then the active request are marked as fallen back. -/
def fallenHistory (s : ProtocolState) (reason : String) : List EnterRequest :=
  let fall (r : EnterRequest) := { r with status := .fallback, reason := some reason }
  let fallCommitted (r : EnterRequest) := if r.status = .committed then fall r else r
  let history := match s.activeSession with
    | none => s.requestHistory
    | some a => ProtocolState.modifyArchived a.requestId fallCommitted s.requestHistory
  match s.activeRequest with
  | none => history
  | some r => ProtocolState.archiveInto history s.retainedRequestLimit (fall r)

/-- What every fallback writes, before it decides on the TV command. -/
@[simps] def fallbackReleased (s : ProtocolState) (reason : String) (restoreDisplay : Bool) :
    ProtocolState :=
  { releaseToServer s with
    manualRecoveryTarget := recoveryTarget s (s.activeRequest.map (·.target))
    requestHistory := fallenHistory s reason
    fallbackRequired := restoreDisplay
    fallbackReason := some reason
    verifiedEpoch := none
    pendingMultiview := none
    observationInFlight := none
    nextSignalPollMs := none
    activeRequest := none }

def beginFallbackWithRestore (t : Transition) (nowMs : Nat) (timing : ProtocolTiming)
    (reason : String) (restoreDisplay : Bool) : Transition :=
  let s := fallbackReleased t.next reason restoreDisplay
  if restoreDisplay && s.daemonHealthy then issueFallbackCommand ⟨s, t.effects⟩ nowMs timing
  else if restoreDisplay || !s.daemonHealthy then
    ⟨{ s with phase := .fallbackDeferred, phaseDeadlineMs := none }, t.effects⟩
  else ⟨{ s with fallbackReason := none, phase := .idle, phaseDeadlineMs := none }, t.effects⟩

def beginFallback (t : Transition) (nowMs : Nat) (timing : ProtocolTiming) (reason : String) :
    Transition :=
  beginFallbackWithRestore t nowMs timing reason (displayRestoreRequired t.next)

@[simps] def noteSessionTarget (s : ProtocolState) : ProtocolState :=
  { s with manualRecoveryTarget := recoveryTarget s (s.activeSession.map (·.target)) }

def beginActiveSessionFailureFallback (t : Transition) (nowMs : Nat) (timing : ProtocolTiming)
    (reason : String) : Transition :=
  beginFallback ⟨noteSessionTarget t.next, t.effects⟩ nowMs timing reason

@[simps] def multiviewCompleted (s : ProtocolState) : ProtocolState :=
  { s with pendingMultiview := none, phase := .idle, phaseDeadlineMs := none }

def completeMultiviewObservation (t : Transition) (nowMs : Nat) (timing : ProtocolTiming) :
    Transition :=
  match t.next.pendingMultiview with
  | none => t
  | some enabled =>
    let expected := if enabled then TvMode.multiview else TvMode.fullscreen
    if t.next.tvMode ≠ expected then
      beginFallback t nowMs timing "multiview_observation_mismatch"
    else if enabled then ⟨multiviewCompleted t.next, t.effects⟩
    else beginFallback t nowMs timing "multiview_exit_server_verify"

/-- The three transport events that only move the link state. -/
@[simps] def moveLink (s : ProtocolState) (wsState : WsState) (subscribeActive : Bool) :
    ProtocolState :=
  { s with wsState, subscribeActive, synchronized := false }

@[simps] def linkUp (s : ProtocolState) : ProtocolState :=
  { s with wsState := .connected, subscribeActive := true, synchronized := true }

@[simps] def linkDown (s : ProtocolState) (reason : String) : ProtocolState :=
  { s with
    wsState := .disconnected
    subscribeActive := false
    synchronized := false
    reconnectTotal := saturatingAdd s.reconnectTotal 1
    lastError := some reason }

def applyTransportSynchronized (s : ProtocolState) (mode : TvMode) (input : Option Host)
    (signals : HostMap Bool) (nowMs : Nat) (timing : ProtocolTiming) : Except Halt Transition :=
  let next := storeObservation (linkUp s) s.switchEpoch nowMs mode input signals
  if serverDisplayVerified next s.switchEpoch then do
    let next ← finishFallback next
    .ok ⟨next, []⟩
  else if manualDisplayObserved next then .ok ⟨acceptManualDisplay next, []⟩
  else .ok (beginFallback ⟨next, []⟩ nowMs timing "startup_or_reconnect_resync")

def applyTransportDisconnected (s : ProtocolState) (reason : String) (nowMs : Nat)
    (timing : ProtocolTiming) : Transition :=
  beginFallback ⟨linkDown s reason, []⟩ nowMs timing reason

/-- The part of a readiness update that concerns the active request. -/
def requestReadiness (t : Transition) (host : Host) (readiness : PeerReadiness) (nowMs : Nat)
    (timing : ProtocolTiming) : Except Halt Transition :=
  match t.next.activeRequest with
  | none => .ok t
  | some r =>
    if r.target ≠ host then .ok t
    else if t.next.phase = .waking ∧ readiness.bundleReady r.lease.peerSessionEpoch then
      beginSwitch t nowMs timing
    else if (t.next.phase = .switching ∨ t.next.phase = .verifying ∨ t.next.phase = .grantPending) ∧
        !readiness.bundleReady r.lease.peerSessionEpoch then
      .ok (beginFallback t nowMs timing "target_readiness_lost")
    else .ok t

/-- The part of a readiness update that concerns the remote input owner. -/
def ownerReadiness (t : Transition) (host : Host) (readiness : PeerReadiness) (nowMs : Nat)
    (timing : ProtocolTiming) : Transition :=
  let sessionEpoch := (t.next.activeSession.map (·.lease.peerSessionEpoch)).getD 0
  if t.next.keyboardOwner = host ∧ host ≠ t.next.serverHost ∧ !readiness.bundleReady sessionEpoch then
    beginActiveSessionFailureFallback t nowMs timing "active_peer_readiness_lost"
  else t

@[simps] def setPeer (s : ProtocolState) (host : Host) (readiness : PeerReadiness) : ProtocolState :=
  { s with peers := s.peers.insert host readiness }

def applyPeerReadinessUpdated (s : ProtocolState) (host : Host) (readiness : PeerReadiness)
    (nowMs : Nat) (timing : ProtocolTiming) : Except Halt Transition := do
  let t ← requestReadiness ⟨setPeer s host readiness, []⟩ host readiness nowMs timing
  .ok (ownerReadiness t host readiness nowMs timing)

@[simps] def setRecoveryTarget (s : ProtocolState) (target : Option Host) : ProtocolState :=
  { s with manualRecoveryTarget := target }

def applyArmManualRecovery (s : ProtocolState) (target : Host) : Except Halt Transition :=
  if target = s.serverHost then refuse .invalidManualRecoveryTarget
  else if !s.ready ∨ s.phase ≠ .idle ∨ s.keyboardOwner ≠ s.serverHost ∨
      s.pointerOwner ≠ s.serverHost ∨ s.activeRequest.isSome ∨ s.activeSession.isSome ∨
      !serverDisplayVerified s s.switchEpoch then
    refuse .unavailable
  else .ok ⟨setRecoveryTarget s (some target), []⟩

@[simps] def setRequest (s : ProtocolState) (r : EnterRequest) : ProtocolState :=
  { s with activeRequest := some r }

@[simps] def wakeRequest (r : EnterRequest) (deadlineMs : Nat) : EnterRequest :=
  { r with status := .waking, deadlineMs }

/-- An enter request for an offline host waits for it to wake up. -/
@[simps] def startWaking (s : ProtocolState) (r : EnterRequest) (nowMs : Nat)
    (timing : ProtocolTiming) : ProtocolState :=
  let deadlineMs := saturatingAdd nowMs timing.wakeMs
  { s with
    phase := .waking
    phaseDeadlineMs := some deadlineMs
    activeRequest := some (wakeRequest r deadlineMs) }

def admitEnter (s : ProtocolState) (r : EnterRequest) (nowMs : Nat) (timing : ProtocolTiming) :
    Except Halt Transition :=
  if r.target = s.serverHost then
    beginSwitch ⟨setRequest (releaseToServer s) r, []⟩ nowMs timing
  else
    let readiness := (s.peers.get r.target).getD {}
    if !readiness.online then
      .ok ⟨startWaking s r nowMs timing, [.wake r.target r.requestEpoch]⟩
    else if !readiness.bundleReady r.lease.peerSessionEpoch then
      let denied := { r with status := .denied, reason := some "target_input_not_ready" }
      .ok ⟨(setRecoveryTarget s (some r.target)).archiveRequest denied, []⟩
    else beginSwitch ⟨setRequest s r, []⟩ nowMs timing

@[simps] def openRequestEpoch (s : ProtocolState) : ProtocolState :=
  { s with manualRecoveryTarget := none, requestEpoch := saturatingAdd s.requestEpoch 1 }

def applyCreateEnter (s : ProtocolState) (requestId clientId : String) (target : Host)
    (lease : LeaseIdentity) (nowMs : Nat) (timing : ProtocolTiming) : Except Halt Draft :=
  match s.request requestId with
  | some existing =>
    if existing.clientId = clientId ∧ existing.target = target ∧
        existing.lease.leaseId = lease.leaseId ∧ existing.lease.leaseEpoch = lease.leaseEpoch then
      .ok (.unchecked ⟨s, []⟩)
    else refuse .requestIdentityConflict
  | none =>
    match s.activeRequest with
    | some active => refuse (.busy active.requestId)
    | none =>
      if !s.ready then refuse .unavailable
      else if lease.leaseId.isEmpty ∨ lease.expiresAtMs ≤ nowMs then refuse .invalidLease
      else
        let requestEpoch := saturatingAdd s.requestEpoch 1
        let r : EnterRequest := {
          requestId
          clientId
          target
          requestEpoch
          lease
          status := .switching
          switchEpoch := none
          grant := none
          deadlineMs := saturatingAdd nowMs timing.commandMs
          reason := none }
        (admitEnter (openRequestEpoch s) r nowMs timing).map .check

@[simps] def setPhase (s : ProtocolState) (phase : ProtocolPhase) : ProtocolState :=
  { s with phase }

def applyCommandAcknowledged (s : ProtocolState) (switchEpoch : Nat) (target : Host) (nowMs : Nat)
    (timing : ProtocolTiming) : Draft :=
  if s.switchEpoch ≠ switchEpoch ∨ s.commandedInput ≠ some target then .unchecked ⟨s, []⟩
  else if s.observationInFlight.isNone ∧
      (s.phase = .switching ∨ s.phase = .fallbackCommandPending) then
    let phase := if s.fallbackRequired then .fallbackVerifying else .verifying
    .check (requestObservation ⟨setPhase s phase, []⟩ nowMs timing switchEpoch)
  else .check ⟨s, []⟩

@[simps] def setLastError (s : ProtocolState) (reason : String) : ProtocolState :=
  { s with lastError := some reason }

def applyCommandFailed (s : ProtocolState) (switchEpoch : Nat) (reason : String) (nowMs : Nat)
    (timing : ProtocolTiming) : Transition :=
  if s.switchEpoch = switchEpoch then
    beginFallback ⟨setLastError s reason, []⟩ nowMs timing reason
  else ⟨s, []⟩

/-- An observation that carries the epoch of the active request. -/
def observeRequest (s : ProtocolState) (r : EnterRequest) (switchEpoch nowMs : Nat)
    (timing : ProtocolTiming) : Except Halt Transition :=
  let verified := targetDisplayVerified s r.target switchEpoch
  if s.phase = .verifying ∧ verified then
    let ready := (s.peers.get r.target).any fun p => p.bundleReady r.lease.peerSessionEpoch
    if r.target ≠ s.serverHost ∧ (!ready ∨ r.lease.expiresAtMs ≤ nowMs) then
      .ok (beginFallback ⟨s, []⟩ nowMs timing "lease_or_readiness_lost_before_grant")
    else do
      let next ← issueGrant s nowMs timing
      .ok ⟨next, []⟩
  else if s.phase = .grantPending ∧ !verified then
    .ok (beginFallback ⟨s, []⟩ nowMs timing "target_observation_failed")
  else .ok ⟨s, []⟩

@[simps] def schedulePoll (s : ProtocolState) (nowMs : Nat) (timing : ProtocolTiming) : ProtocolState :=
  { s with
    phaseDeadlineMs := none
    nextSignalPollMs := some (saturatingAdd nowMs timing.signalPollMs) }

/-- An observation while a remote host owns the input and no request is active. -/
def observeSession (s : ProtocolState) (switchEpoch nowMs : Nat) (timing : ProtocolTiming) :
    Transition :=
  match s.activeSession with
  | none => ⟨s, []⟩
  | some a =>
    if a.switchEpoch = switchEpoch ∧ !targetDisplayVerified s a.target switchEpoch then
      beginActiveSessionFailureFallback ⟨s, []⟩ nowMs timing "active_signal_lost"
    else ⟨schedulePoll s nowMs timing, []⟩

/-- An observation that was asked for is no longer in flight. -/
@[simps] def landObservation (s : ProtocolState) (switchEpoch : Nat) : ProtocolState :=
  { s with observationInFlight :=
      if s.observationInFlight = some switchEpoch then none else s.observationInFlight }

def applyObservation (s : ProtocolState) (switchEpoch : Nat) (mode : TvMode) (input : Option Host)
    (signals : HostMap Bool) (nowMs : Nat) (timing : ProtocolTiming) : Except Halt Transition :=
  let next := landObservation (storeObservation s switchEpoch nowMs mode input signals) switchEpoch
  if next.fallbackRequired ∧ next.switchEpoch = switchEpoch then
    if serverDisplayVerified next switchEpoch then do
      let next ← finishFallback next
      .ok ⟨next, []⟩
    else .ok ⟨setPhase next .fallbackVerifying, []⟩
  else match next.activeRequest with
    | some r =>
      if r.switchEpoch ≠ some switchEpoch then .ok ⟨next, []⟩
      else observeRequest next r switchEpoch nowMs timing
    | none =>
      if next.phase = .remoteOwned then .ok (observeSession next switchEpoch nowMs timing)
      else if next.phase = .multiviewChanging then
        .ok (completeMultiviewObservation ⟨next, []⟩ nowMs timing)
      else .ok ⟨next, []⟩

@[simps] def committedRequest (r : EnterRequest) (nowMs : Nat) (timing : ProtocolTiming) :
    EnterRequest :=
  { r with
    status := .committed
    reason := none
    lease := { r.lease with expiresAtMs := saturatingAdd nowMs timing.leaseMs } }

@[simps] def openSession (r : EnterRequest) (requestEpoch switchEpoch nowMs : Nat)
    (timing : ProtocolTiming) : ActiveSession where
  requestId := r.requestId
  target := r.target
  requestEpoch := requestEpoch
  switchEpoch := switchEpoch
  lease := (committedRequest r nowMs timing).lease
  renewedUntilMs := saturatingAdd nowMs timing.leaseMs

@[simps] def commitRequest (s : ProtocolState) (r : EnterRequest)
    (requestEpoch switchEpoch nowMs : Nat) (timing : ProtocolTiming) : ProtocolState :=
  { s with
    activeRequest := none
    keyboardOwner := r.target
    pointerOwner := r.target
    fallbackRequired := false
    fallbackReason := none
    manualRecoveryTarget := none
    phaseDeadlineMs := none
    observationInFlight := none
    activeSession :=
      if r.target = s.serverHost then none
      else some (openSession r requestEpoch switchEpoch nowMs timing)
    phase := if r.target = s.serverHost then .idle else .remoteOwned
    nextSignalPollMs :=
      if r.target ≠ s.serverHost ∧ s.hasDisplayRoute r.target then
        some (saturatingAdd nowMs timing.signalPollMs)
      else none
    requestHistory := ProtocolState.archiveInto s.requestHistory s.retainedRequestLimit
      (committedRequest r nowMs timing) }

def applyCommit (s : ProtocolState) (requestId : String) (requestEpoch grantEpoch : Nat)
    (leaseId : String) (leaseEpoch nowMs : Nat) (timing : ProtocolTiming) : Except Halt Transition :=
  let isCommitted (r : EnterRequest) := r.requestId == requestId && r.status == .committed
  match s.requestHistory.reverse.find? isCommitted with
  | some committed =>
    if committed.requestEpoch = requestEpoch ∧ committed.lease.leaseId = leaseId ∧
        committed.lease.leaseEpoch = leaseEpoch ∧
        committed.grant.map (·.grantEpoch) = some grantEpoch then
      .ok ⟨s, []⟩
    else refuse .staleIdentity
  | none =>
    match s.activeRequest with
    | none => refuse .requestNotFound
    | some r =>
      match r.grant with
      | none => refuse .staleIdentity
      | some g =>
        if r.requestId ≠ requestId ∨ r.requestEpoch ≠ requestEpoch ∨ r.status ≠ .grant ∨
            r.lease.leaseId ≠ leaseId ∨ r.lease.leaseEpoch ≠ leaseEpoch ∨
            g.grantEpoch ≠ grantEpoch ∨ g.expiresAtMs ≤ nowMs ∨ r.lease.expiresAtMs ≤ nowMs then
          refuse .staleIdentity
        else if r.target ≠ s.serverHost ∧
            !(s.peers.get r.target).any fun p => p.bundleReady r.lease.peerSessionEpoch then
          .ok (beginFallback ⟨s, []⟩ nowMs timing "readiness_lost_before_commit")
        else match r.switchEpoch with
          | none => .error (.panicked "grant switch epoch")
          | some switchEpoch => .ok ⟨commitRequest s r requestEpoch switchEpoch nowMs timing, []⟩

@[simps] def takeActive (s : ProtocolState) (r : EnterRequest) : ProtocolState :=
  { s with
    activeRequest := none
    manualRecoveryTarget :=
      if r.target ≠ s.serverHost then some r.target else s.manualRecoveryTarget }

@[simps] def settleIdle (s : ProtocolState) : ProtocolState :=
  { s with phase := .idle, phaseDeadlineMs := none }

/-- Cancel the active request: it leaves the state before the fallback looks. -/
def cancelActive (s : ProtocolState) (r : EnterRequest) (reason : String) (nowMs : Nat)
    (timing : ProtocolTiming) : Transition :=
  let next := (takeActive s r).archiveRequest { r with status := .cancelled, reason := some reason }
  if r.switchEpoch.isSome then beginFallback ⟨next, []⟩ nowMs timing reason
  else ⟨settleIdle next, []⟩

@[simps] def cancelCommitted (s : ProtocolState) (requestId reason : String) : ProtocolState :=
  let cancel (r : EnterRequest) := { r with status := .cancelled, reason := some reason }
  { s with requestHistory := ProtocolState.modifyArchived requestId cancel s.requestHistory }

def applyCancel (s : ProtocolState) (requestId reason : String) (nowMs : Nat)
    (timing : ProtocolTiming) : Except Halt Transition :=
  if s.requestHistory.reverse.any fun r =>
      r.requestId == requestId && (r.status == .cancelled || r.status == .fallback) then
    .ok ⟨s, []⟩
  else if s.activeSession.any fun a => a.requestId == requestId then
    match s.archivedRequest requestId with
    | none => refuse .requestNotFound
    | some _ =>
      .ok (beginFallback ⟨cancelCommitted s requestId reason, []⟩ nowMs timing reason)
  else match s.activeRequest with
    | none => refuse .requestNotFound
    | some r =>
      if r.requestId ≠ requestId then refuse .requestNotFound
      else .ok (cancelActive s r reason nowMs timing)

/-- The running session, when a renewal names it and its peer is still ready. -/
def renewable (s : ProtocolState) (requestId leaseId : String) (leaseEpoch peerSessionEpoch : Nat) :
    Bool :=
  s.activeSession.any fun a =>
    a.requestId == requestId && a.lease.leaseId == leaseId && a.lease.leaseEpoch == leaseEpoch &&
      a.lease.peerSessionEpoch == peerSessionEpoch &&
      (s.peers.get a.target).any fun p => p.bundleReady peerSessionEpoch

@[simps] def renewedSession (a : ActiveSession) (nowMs : Nat) (timing : ProtocolTiming) : ActiveSession :=
  let expiresAtMs := saturatingAdd nowMs timing.leaseMs
  { a with renewedUntilMs := expiresAtMs, lease := { a.lease with expiresAtMs } }

@[simps] def setSession (s : ProtocolState) (a : ActiveSession) : ProtocolState :=
  { s with activeSession := some a }

def applyRenew (s : ProtocolState) (requestId leaseId : String) (leaseEpoch peerSessionEpoch nowMs : Nat)
    (timing : ProtocolTiming) : Except Halt Transition :=
  if !renewable s requestId leaseId leaseEpoch peerSessionEpoch then
    .ok (beginActiveSessionFailureFallback ⟨s, []⟩ nowMs timing "lease_renewal_rejected")
  else match s.activeSession with
    | none => .error (.panicked "validated session")
    | some a => .ok ⟨setSession s (renewedSession a nowMs timing), []⟩

@[simps] def changeMultiview (s : ProtocolState) (enabled : Bool) (nowMs : Nat)
    (timing : ProtocolTiming) : ProtocolState :=
  { s with
    switchEpoch := saturatingAdd s.switchEpoch 1
    pendingMultiview := some enabled
    phase := .multiviewChanging
    phaseDeadlineMs := some (saturatingAdd nowMs timing.commandMs) }

def applyMultiViewRequested (s : ProtocolState) (enabled : Bool) (nowMs : Nat)
    (timing : ProtocolTiming) : Except Halt Transition :=
  if !s.ready then refuse .unavailable
  else if s.keyboardOwner ≠ s.serverHost ∨ s.pointerOwner ≠ s.serverHost then refuse .inputNotLocal
  else if s.activeRequest.isSome ∨ s.pendingMultiview.isSome then
    refuse (.busy ((s.activeRequest.map (·.requestId)).getD "multiview"))
  else
    let next := changeMultiview s enabled nowMs timing
    .ok ⟨next, [.setMultiView enabled next.switchEpoch]⟩

def applyMultiViewAcknowledged (s : ProtocolState) (switchEpoch : Nat) (enabled : Bool) (nowMs : Nat)
    (timing : ProtocolTiming) : Transition :=
  if s.switchEpoch = switchEpoch ∧ s.pendingMultiview = some enabled then
    let t := requestObservation ⟨s, []⟩ nowMs timing switchEpoch
    ⟨setPhase t.next .multiviewChanging, t.effects⟩
  else ⟨s, []⟩

/-- What the reducer does with an observed display, once it is stored. -/
def reactToSubscription (s : ProtocolState) (mode : TvMode) (input : Option Host) (nowMs : Nat)
    (timing : ProtocolTiming) : Transition :=
  let onTarget (target : Host) := mode == .fullscreen && input == some target
  let activeTarget := s.activeRequest.map (·.target)
  let sessionTarget := s.activeSession.map (·.target)
  if s.fallbackRequired ∧ s.phase = .fallbackVerifying ∧ mode = .fullscreen ∧
      input = some s.serverHost ∧ s.observationInFlight.isNone then
    requestObservationPreservingDeadline ⟨s, []⟩ nowMs timing s.switchEpoch
  else if s.phase = .verifying ∧ activeTarget.any onTarget ∧ s.observationInFlight.isNone then
    requestObservationPreservingDeadline ⟨s, []⟩ nowMs timing s.switchEpoch
  else if s.phase = .grantPending ∧
      activeTarget.any fun target => s.hasDisplayRoute target && !onTarget target then
    beginFallback ⟨s, []⟩ nowMs timing "unexpected_tv_subscription"
  else if sessionTarget.any fun target => s.hasDisplayRoute target && !onTarget target then
    beginFallback ⟨s, []⟩ nowMs timing "unexpected_tv_subscription"
  else if manualDisplayObserved s then ⟨acceptManualDisplay s, []⟩
  else if s.phase = .idle ∧ mode = .fullscreen ∧ input = some s.serverHost then
    ⟨setRecoveryTarget s none, []⟩
  else if s.phase = .idle ∧
      (mode ≠ .fullscreen ∨ input.any fun observed => observed != s.serverHost) then
    beginFallback ⟨s, []⟩ nowMs timing "manual_tv_override"
  else ⟨s, []⟩

@[simps] def storeDisplay (s : ProtocolState) (mode : TvMode) (input : Option Host) : ProtocolState :=
  { s with tvMode := mode, observedInput := input }

def applySubscriptionObserved (s : ProtocolState) (mode : TvMode) (input : Option Host) (nowMs : Nat)
    (timing : ProtocolTiming) : Transition :=
  reactToSubscription (storeDisplay s mode input) mode input nowMs timing

def dueAt (deadlineMs : Option Nat) (nowMs : Nat) : Bool := deadlineMs.any fun d => d ≤ nowMs

/-- The first half of a tick: an active request past its deadline. -/
def expireRequest (s : ProtocolState) (nowMs : Nat) (timing : ProtocolTiming) : Transition :=
  match s.activeRequest with
  | none => ⟨s, []⟩
  | some r =>
    if r.deadlineMs ≤ nowMs then
      let restoreDisplay := displayRestoreRequired s
      let next := (takeActive s r).archiveRequest
        { r with status := .expired, reason := some "request_deadline" }
      if r.status = .waking then ⟨settleIdle next, []⟩
      else beginFallbackWithRestore ⟨next, []⟩ nowMs timing "request_deadline" restoreDisplay
    else ⟨s, []⟩

def sessionExpired (s : ProtocolState) (nowMs : Nat) : Bool :=
  s.activeSession.any fun a => a.renewedUntilMs ≤ nowMs || a.lease.expiresAtMs ≤ nowMs

/-- The second half of a tick: one branch for the deadlines that remain. -/
def serveDeadlines (t : Transition) (nowMs : Nat) (timing : ProtocolTiming) :
    Except Halt Transition :=
  let s := t.next
  if sessionExpired s nowMs then
    .ok (beginActiveSessionFailureFallback t nowMs timing "active_lease_expired")
  else if s.phase = .remoteOwned ∧ s.observationInFlight.isNone ∧ dueAt s.nextSignalPollMs nowMs then
    match s.activeSession with
    | none => .error (.panicked "remote owned session")
    | some a => .ok (requestObservation t nowMs timing a.switchEpoch)
  else if s.observationInFlight.isSome ∧ dueAt s.phaseDeadlineMs nowMs then
    if s.activeSession.isSome then
      .ok (beginActiveSessionFailureFallback t nowMs timing (verificationTimeoutReason s))
    else .ok (beginFallback t nowMs timing (verificationTimeoutReason s))
  else if s.phase = .verifying ∧ dueAt s.phaseDeadlineMs nowMs then
    .ok (beginFallback t nowMs timing (verificationTimeoutReason s))
  else if ((s.phase = .fallbackCommandPending ∨ s.phase = .fallbackVerifying) ∧
      dueAt s.phaseDeadlineMs nowMs) ∨ (s.phase = .fallbackDeferred ∧ s.daemonHealthy) then
    .ok (issueFallbackCommand t nowMs timing)
  else if s.phase = .multiviewChanging ∧ dueAt s.phaseDeadlineMs nowMs then
    .ok (beginFallback t nowMs timing "multiview_timeout")
  else .ok t

def applyTick (s : ProtocolState) (nowMs : Nat) (timing : ProtocolTiming) :
    Except Halt Transition :=
  serveDeadlines (expireRequest s nowMs timing) nowMs timing

@[simps] def applyShutdown (s : ProtocolState) : ProtocolState :=
  { releaseToServer s with
    wsState := .disconnected
    subscribeActive := false
    synchronized := false
    fallbackRequired := true
    fallbackReason := some "shutdown"
    phase := .fallbackDeferred
    activeRequest := none
    pendingMultiview := none
    phaseDeadlineMs := none }

def react (s : ProtocolState) (event : Event) (nowMs : Nat) (timing : ProtocolTiming) :
    Except Halt Draft :=
  match event with
  | .transportConnecting => .ok (.check ⟨moveLink s .connecting false, []⟩)
  | .transportRegistering => .ok (.check ⟨moveLink s .registering false, []⟩)
  | .transportSubscribed => .ok (.check ⟨moveLink s .synchronizing true, []⟩)
  | .transportSynchronized mode input signals =>
    (applyTransportSynchronized s mode input signals nowMs timing).map .check
  | .transportDisconnected reason => .ok (.check (applyTransportDisconnected s reason nowMs timing))
  | .peerReadinessUpdated host readiness =>
    (applyPeerReadinessUpdated s host readiness nowMs timing).map .check
  | .armManualRecovery target => (applyArmManualRecovery s target).map .check
  | .createEnter requestId clientId target lease =>
    applyCreateEnter s requestId clientId target lease nowMs timing
  | .commandAcknowledged switchEpoch target =>
    .ok (applyCommandAcknowledged s switchEpoch target nowMs timing)
  | .commandFailed switchEpoch reason =>
    .ok (.check (applyCommandFailed s switchEpoch reason nowMs timing))
  | .observation switchEpoch mode input signals =>
    (applyObservation s switchEpoch mode input signals nowMs timing).map .check
  | .commit requestId requestEpoch grantEpoch leaseId leaseEpoch =>
    (applyCommit s requestId requestEpoch grantEpoch leaseId leaseEpoch nowMs timing).map .check
  | .cancel requestId reason => (applyCancel s requestId reason nowMs timing).map .check
  | .renew requestId leaseId leaseEpoch peerSessionEpoch =>
    (applyRenew s requestId leaseId leaseEpoch peerSessionEpoch nowMs timing).map .check
  | .multiViewRequested enabled => (applyMultiViewRequested s enabled nowMs timing).map .check
  | .multiViewAcknowledged switchEpoch enabled =>
    .ok (.check (applyMultiViewAcknowledged s switchEpoch enabled nowMs timing))
  | .subscriptionObserved mode input =>
    .ok (.check (applySubscriptionObserved s mode input nowMs timing))
  | .tick => (applyTick s nowMs timing).map .check
  | .shutdown => .ok (.check ⟨applyShutdown s, []⟩)

def apply (s : ProtocolState) (event : Event) (nowMs : Nat) (timing : ProtocolTiming) :
    Except Halt Transition := do
  match ← react s event nowMs timing with
  | .unchecked t => .ok t
  | .check t => validated t nowMs

end DisplayMux.Tv
