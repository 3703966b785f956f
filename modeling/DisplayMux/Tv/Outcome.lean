import DisplayMux.Tv.Invariant

/-! Everything a successful step can make of the state, in one list of cases. A case
names the helper that wrote the result and what the handler had found by then; the
state it starts from has only reports and notes changed. Invariants of the reducer
are proved by going through this list and never look into a handler. -/
namespace DisplayMux.Tv

open ProtocolState

/-- What stays with a request from the moment it is let in. -/
def EnterRequest.identity (r : EnterRequest) :=
  (r.requestId, r.clientId, r.target, r.requestEpoch, r.lease.leaseId, r.lease.leaseEpoch)

/-- The commit of a granted request: all identities agree and nothing has expired. -/
structure Commits (s : ProtocolState) (event : Event) (nowMs : Nat) (r : EnterRequest) : Prop where
  active : s.activeRequest = some r
  status : r.status = .grant
  granted : ∃ g, r.grant = some g ∧ nowMs < g.expiresAtMs ∧
    event = .commit r.requestId r.requestEpoch g.grantEpoch r.lease.leaseId r.lease.leaseEpoch
  leased : nowMs < r.lease.expiresAtMs
  ready : r.target ≠ s.serverHost →
    (s.peers.get r.target).any (fun p => p.bundleReady r.lease.peerSessionEpoch) = true
  switched : r.switchEpoch.isSome = true

/-- The events that report on the TV connection, and the shutdown. -/
def Event.movesLink : Event → Bool
  | .transportConnecting | .transportRegistering | .transportSubscribed
  | .transportSynchronized _ _ _ | .transportDisconnected _ | .shutdown => true
  | _ => false

def ProtocolState.link (s : ProtocolState) := (s.wsState, s.subscribeActive, s.synchronized)

/-- Somebody calls a request or a session off. -/
def Event.cancels : Event → Bool
  | .cancel _ _ => true
  | _ => false

/-- Epochs, requests, the session and the owners are the same. -/
structure SameBooks (event : Event) (s n : ProtocolState) : Prop where
  server : n.serverHost = s.serverHost
  routes : n.displayHosts = s.displayHosts
  counts : n.switchCount = s.switchCount
  keyboard : n.keyboardOwner = s.keyboardOwner
  pointer : n.pointerOwner = s.pointerOwner
  requestEpoch : n.requestEpoch = s.requestEpoch
  switchEpoch : n.switchEpoch = s.switchEpoch
  grantEpoch : n.grantEpoch = s.grantEpoch
  request : n.activeRequest = s.activeRequest
  history : n.requestHistory = s.requestHistory
  limit : n.retainedRequestLimit = s.retainedRequestLimit
  session : n.activeSession = s.activeSession
  pending : n.pendingMultiview = s.pendingMultiview
  owed : n.fallbackRequired = s.fallbackRequired
  link : event.movesLink = true ∨ n.link = s.link

/-- So is what the daemon is doing. The connection may only have got worse. -/
structure SameCourse (event : Event) (s n : ProtocolState) : Prop extends SameBooks event s n where
  phase : n.phase = s.phase
  deadline : n.phaseDeadlineMs = s.phaseDeadlineMs
  poll : n.nextSignalPollMs = s.nextSignalPollMs
  healthy : n.daemonHealthy = true → s.daemonHealthy = true

def ProtocolState.books (s : ProtocolState) :=
  (s.serverHost, s.displayHosts, s.switchCount, s.keyboardOwner, s.pointerOwner, s.requestEpoch,
    s.switchEpoch, s.grantEpoch, s.activeRequest, s.requestHistory, s.retainedRequestLimit, s.activeSession,
    s.pendingMultiview, s.fallbackRequired)

def ProtocolState.course (s : ProtocolState) :=
  (s.phase, s.phaseDeadlineMs, s.nextSignalPollMs, s.daemonHealthy)

/-- A new request passes the guards of `CreateEnter`. -/
structure Admits (s : ProtocolState) (event : Event) (nowMs : Nat) (r : EnterRequest) : Prop where
  asked : event = .createEnter r.requestId r.clientId r.target r.lease
  unknown : s.request r.requestId = none
  free : s.activeRequest = none
  ready : s.ready = true
  leased : r.lease.leaseId.isEmpty = false ∧ nowMs < r.lease.expiresAtMs
  epoch : r.requestEpoch = saturatingAdd s.requestEpoch 1
  unswitched : r.switchEpoch = none
  ungranted : r.grant = none

def enterAdmitted (s : ProtocolState) (requestId : String) (lease : LeaseIdentity) (nowMs : Nat) : Bool :=
  (s.request requestId).isNone && s.activeRequest.isNone && s.ready && !lease.leaseId.isEmpty &&
    decide (nowMs < lease.expiresAtMs)

theorem Admits.admitted {s : ProtocolState} {event : Event} {nowMs : Nat} {r : EnterRequest}
    (admits : Admits s event nowMs r) : enterAdmitted s r.requestId r.lease nowMs = true := by
  simp [enterAdmitted, admits.unknown, admits.free, admits.ready, admits.leased]

/-- The request `r` leaves the state and is archived as `r'`. -/
structure Closes (s : ProtocolState) (r r' : EnterRequest) : Prop where
  active : s.activeRequest = some r
  identity : r'.identity = r.identity
  status : r'.status ≠ .committed

/-- The answer of the TV that leads to a look at what it shows. -/
def Heard (event : Event) (s n : ProtocolState) : Prop :=
  (s.phase = .switching ∧ n.phase = .verifying) ∨
    (s.phase = .fallbackCommandPending ∧ n.phase = .fallbackVerifying) ∨
    ((s.phase = .fallbackVerifying ∨ s.phase = .verifying) ∧ n.phase = s.phase) ∨
    ∃ enabled, event = .multiViewAcknowledged s.switchEpoch enabled ∧
      s.pendingMultiview = some enabled ∧ n.phase = .multiviewChanging

inductive Outcome (s : ProtocolState) (event : Event) (nowMs : Nat) (timing : ProtocolTiming) :
    Transition → Prop where
  | kept {n : ProtocolState} (same : SameCourse event s n)
      (flight : n.observationInFlight = s.observationInFlight ∨ s.phase ≠ .remoteOwned) :
      Outcome s event nowMs timing ⟨n, []⟩
  | fellBack {n : ProtocolState} {reason : String} {b : Bool} (same : SameBooks event s n)
      (restore : b = displayRestoreRequired s) (uncancelled : event.cancels = false) :
      Outcome s event nowMs timing (beginFallbackWithRestore ⟨n, []⟩ nowMs timing reason b)
  -- the session is cancelled under its own id
  | calledOff {a : ActiveSession} {reason : String} (running : s.activeSession = some a)
      (asked : event = .cancel a.requestId reason) : Outcome s event nowMs timing
        (beginFallback ⟨cancelCommitted s a.requestId reason, []⟩ nowMs timing reason)
  -- the active request is cancelled or expires, and the daemon falls back; when it is
  -- cancelled, the display is looked at without it
  | closed {r r' : EnterRequest} {n : ProtocolState} {reason : String} {b : Bool}
      (closes : Closes s r r') (same : SameBooks event ((takeActive s r).archiveRequest r') n)
      (cause : (event.cancels = false ∧ (b = displayRestoreRequired s ∨
          r.switchEpoch = none ∧ b = displayRestoreRequired n)) ∨
        ∃ requestId, event = .cancel requestId reason ∧ b = displayRestoreRequired n ∧
          (s.activeSession.any fun a => a.requestId == requestId) = false) :
      Outcome s event nowMs timing (beginFallbackWithRestore ⟨n, []⟩ nowMs timing reason b)
  -- a command that is overdue as soon as it is sent is sent twice
  | closedTwice {r r' : EnterRequest} {reason : String} {b : Bool} (closes : Closes s r r')
      (overdue : saturatingAdd nowMs timing.commandMs ≤ nowMs) (restore : b = true)
      (healthy : s.daemonHealthy = true) (uncancelled : event.cancels = false) :
      Outcome s event nowMs timing (issueFallbackCommand (beginFallbackWithRestore
        ⟨(takeActive s r).archiveRequest r', []⟩ nowMs timing reason b) nowMs timing)
  | settled {r r' : EnterRequest} (closes : Closes s r r') (remote : r.target ≠ s.serverHost)
      (unswitched : r.switchEpoch = none) :
      Outcome s event nowMs timing ⟨settleIdle ((takeActive s r).archiveRequest r'), []⟩
  | finished {n : ProtocolState} {counts : HostMap Nat} (same : SameBooks event s n)
      (cause : (s.fallbackRequired = true ∧ serverDisplayVerified n s.switchEpoch = true ∧
          ∃ mode input signals, event = .observation s.switchEpoch mode input signals) ∨
        ∃ mode input signals, event = .transportSynchronized mode input signals ∧
          serverDisplayVerified (storeObservation s s.switchEpoch nowMs mode input signals)
            s.switchEpoch = true)
      (counted : ∀ k, (n.switchCount.get k).isSome = true → (counts.get k).isSome = true) :
      Outcome s event nowMs timing ⟨setCount (fallbackFinished n) counts, []⟩
  | accepted {n : ProtocolState} (same : SameBooks event s n) (free : s.activeRequest = none)
      (ended : s.activeSession = none)
      (cause : (∃ mode input signals, event = .transportSynchronized mode input signals) ∨
        ∃ mode input, event = .subscriptionObserved mode input ∧
          ¬ (mode = .fullscreen ∧ input = some s.serverHost) ∧ s.keyboardOwner = s.serverHost ∧
          s.pointerOwner = s.serverHost) : Outcome s event nowMs timing ⟨acceptManualDisplay n, []⟩
  -- an answer has come, and the next thing to know is what the TV shows
  | asked {n : ProtocolState} (same : SameBooks event s n)
      (healthy : n.daemonHealthy = true → s.daemonHealthy = true)
      (phase : Heard event s n)
      (deadline : n.phaseDeadlineMs.isSome = true ∨
        (n.phase = s.phase ∧ n.phaseDeadlineMs = s.phaseDeadlineMs))
      (unpolled : n.nextSignalPollMs = none) :
      Outcome s event nowMs timing ⟨n, [.observe s.switchEpoch]⟩
  | polled {a : ActiveSession} (running : s.activeSession = some a) (owned : s.phase = .remoteOwned)
      (due : dueAt s.nextSignalPollMs nowMs = true) :
      Outcome s event nowMs timing (requestObservation ⟨s, []⟩ nowMs timing a.switchEpoch)
  | answered {n : ProtocolState} {e : Nat} {mode : TvMode} {input : Option Host} {signals : HostMap Bool}
      (same : SameCourse event s n) (owned : s.phase = .remoteOwned)
      (seen : event = .observation e mode input signals) :
      Outcome s event nowMs timing ⟨schedulePoll n nowMs timing, []⟩
  | reverified {n : ProtocolState} (same : SameCourse event s n) (owed : s.fallbackRequired = true) :
      Outcome s event nowMs timing ⟨setPhase n .fallbackVerifying, []⟩
  | granted {n : ProtocolState} {r : EnterRequest} {e : Nat} {counts : HostMap Nat}
      {signals : HostMap Bool} (same : SameCourse event s n) (active : s.activeRequest = some r)
      (epoch : r.switchEpoch = some e) (verified : targetDisplayVerified n r.target e = true)
      (seen : event = .observation e .fullscreen (some r.target) signals)
      (counted : ∀ k, (n.switchCount.get k).isSome = true → (counts.get k).isSome = true) :
      Outcome s event nowMs timing ⟨setCount (grantIssued n r e nowMs timing) counts, []⟩
  | restarted {n : ProtocolState} {r : EnterRequest} {t : Transition} (same : SameCourse event s n)
      (active : s.activeRequest = some r) (began : beginSwitch ⟨n, []⟩ nowMs timing = .ok t) :
      Outcome s event nowMs timing t
  | opened {n : ProtocolState} {r : EnterRequest} {t : Transition} (admits : Admits s event nowMs r)
      (start : (r.target = s.serverHost ∧ n = setRequest (releaseToServer (openRequestEpoch s)) r) ∨
        (((s.peers.get r.target).getD {}).bundleReady r.lease.peerSessionEpoch = true ∧
          n = setRequest (openRequestEpoch s) r))
      (began : beginSwitch ⟨n, []⟩ nowMs timing = .ok t) : Outcome s event nowMs timing t
  | woken {r : EnterRequest} (admits : Admits s event nowMs r)
      (offline : ((s.peers.get r.target).getD {}).online = false) (remote : r.target ≠ s.serverHost) :
      Outcome s event nowMs timing
        ⟨startWaking (openRequestEpoch s) r nowMs timing, [.wake r.target r.requestEpoch]⟩
  | denied {r r' : EnterRequest} (admits : Admits s event nowMs r) (identity : r'.identity = r.identity)
      (status : r'.status = .denied) : Outcome s event nowMs timing
        ⟨(setRecoveryTarget (openRequestEpoch s) (some r.target)).archiveRequest r', []⟩
  | committed {r : EnterRequest} {e : Nat} (commits : Commits s event nowMs r)
      (epoch : r.switchEpoch = some e) :
      Outcome s event nowMs timing ⟨commitRequest s r r.requestEpoch e nowMs timing, []⟩
  | renewed {a : ActiveSession} (running : s.activeSession = some a) :
      Outcome s event nowMs timing ⟨setSession s (renewedSession a nowMs timing), []⟩
  | changed {enabled : Bool} (ready : s.ready = true) (free : s.activeRequest = none)
      (ended : s.activeSession = none) (asked : event = .multiViewRequested enabled) :
      Outcome s event nowMs timing
        ⟨changeMultiview s enabled nowMs timing, [.setMultiView enabled (saturatingAdd s.switchEpoch 1)]⟩
  | completed {n : ProtocolState} (same : SameCourse event s n) (free : s.activeRequest = none)
      (phase : s.phase = .multiviewChanging) : Outcome s event nowMs timing ⟨multiviewCompleted n, []⟩
  | commandedAgain (phase : s.phase = .fallbackCommandPending ∨ s.phase = .fallbackVerifying)
      (due : dueAt s.phaseDeadlineMs nowMs = true) :
      Outcome s event nowMs timing (issueFallbackCommand ⟨s, []⟩ nowMs timing)
  | stopped (shut : event = .shutdown) : Outcome s event nowMs timing ⟨applyShutdown s, []⟩

section Handlers

variable {s n : ProtocolState} {event : Event} {t : Transition} {nowMs : Nat}
  {timing : ProtocolTiming}

variable {mode : TvMode} {input : Option Host} {signals : HostMap Bool} {r : EnterRequest} {e : Nat}

theorem SameBooks.of_moved (same : n.books = s.books)
    (link : event.movesLink = true ∨ n.link = s.link) : SameBooks event s n := by
  simp only [books, Prod.mk.injEq] at same
  obtain ⟨server, routes, counts, keyboard, pointer, requests, switches, grants, request, history, limit,
    session, pending, owed⟩ := same
  exact ⟨server, routes, counts, keyboard, pointer, requests, switches, grants, request, history, limit,
    session, pending, owed, link⟩

theorem SameBooks.of_eq (same : (n.books, n.link) = (s.books, s.link)) : SameBooks event s n :=
  .of_moved (Prod.mk.inj same).1 (.inr (Prod.mk.inj same).2)

theorem SameCourse.of_eq (same : (n.books, n.link) = (s.books, s.link)) (course : n.course = s.course) :
    SameCourse event s n := by
  simp only [ProtocolState.course, Prod.mk.injEq] at course
  obtain ⟨phase, deadline, poll, healthy⟩ := course
  exact ⟨.of_eq same, phase, deadline, poll, fun h => healthy ▸ h⟩

theorem SameBooks.route (same : SameBooks event s n) (h : Host) :
    n.hasDisplayRoute h = s.hasDisplayRoute h := by
  rw [hasDisplayRoute, same.routes, hasDisplayRoute]

theorem SameBooks.restore (same : SameBooks event s n) :
    displayRestoreRequired n = displayRestoreRequired s := by
  simp only [displayRestoreRequired, same.owed, same.pending, same.request, same.session, same.route]

/-- The host that the active request waits for has come up. -/
def Wakes (s : ProtocolState) (host : Host) (readiness : PeerReadiness) : Prop :=
  s.phase = .waking ∧ ∃ r, s.activeRequest = some r ∧ r.target = host ∧
    readiness.bundleReady r.lease.peerSessionEpoch = true

theorem ownerReadiness_cases (t : Transition) (host : Host) (readiness : PeerReadiness) (nowMs : Nat)
    (timing : ProtocolTiming) :
    (t.next.keyboardOwner = host ∧ host ≠ t.next.serverHost ∧
      ownerReadiness t host readiness nowMs timing =
        beginActiveSessionFailureFallback t nowMs timing "active_peer_readiness_lost") ∨
    ((t.next.keyboardOwner = host → host ≠ t.next.serverHost → readiness.bundleReady
        ((t.next.activeSession.map (·.lease.peerSessionEpoch)).getD 0) = true) ∧
      ownerReadiness t host readiness nowMs timing = t) := by
  unfold ownerReadiness
  dsimp only
  split
  · rename_i lost
    exact .inl ⟨lost.1, lost.2.1, rfl⟩
  · rename_i ready
    refine .inr ⟨fun here remote => ?_, rfl⟩
    by_contra lost
    exact ready ⟨here, remote, by simpa using lost⟩

theorem ownerReadiness_apart {host : Host} (readiness : PeerReadiness)
    (apart : t.next.keyboardOwner = host → host = t.next.serverHost) :
    ownerReadiness t host readiness nowMs timing = t := by
  rcases ownerReadiness_cases t host readiness nowMs timing with ⟨here, remote, -⟩ | ⟨-, same⟩
  · exact absurd (apart here) remote
  · exact same

theorem Shape.waking_apart (shape : Shape s) {past : Nat} (valid : Valid s past)
    (waking : s.phase = .waking) (active : s.activeRequest = some r)
    (here : s.keyboardOwner = r.target) : r.target = s.serverHost := by
  by_contra remote
  obtain ⟨a, running, checked⟩ := valid.remote (here ▸ remote)
  obtain ⟨_, active', status, -⟩ := shape.waking waking
  cases active.symm.trans active'
  have asked := shape.request r active
  exact asked.apart (asked.waking.mp status) a running (by rw [checked.target, here])

/-- What a readiness update does. A request that it restarts is not for the host
that owns the input, so the two halves of the handler never both act. -/
theorem peerReadiness_cases (shape : Shape s) {past : Nat} (valid : Valid s past) {host : Host}
    {readiness : PeerReadiness}
    (h : applyPeerReadinessUpdated s host readiness nowMs timing = .ok t) :
    (Wakes s host readiness ∧ beginSwitch ⟨setPeer s host readiness, []⟩ nowMs timing = .ok t) ∨
    (¬ Wakes s host readiness ∧
      ((∃ r, s.activeRequest = some r ∧ r.target = host ∧
        t = beginFallback ⟨setPeer s host readiness, []⟩ nowMs timing "target_readiness_lost") ∨
      (s.keyboardOwner = host ∧ host ≠ s.serverHost ∧
        t = beginActiveSessionFailureFallback ⟨setPeer s host readiness, []⟩ nowMs timing
          "active_peer_readiness_lost") ∨
      ((s.keyboardOwner = host → host ≠ s.serverHost → readiness.bundleReady
          ((s.activeSession.map (·.lease.peerSessionEpoch)).getD 0) = true) ∧
        t = ⟨setPeer s host readiness, []⟩))) := by
  obtain ⟨t', answered, done⟩ := bind_ok.mp h
  cases done
  have owner := ownerReadiness_cases ⟨setPeer s host readiness, []⟩ host readiness nowMs timing
  unfold requestReadiness at answered
  split at answered
  · rename_i free
    cases answered
    have asleep : ¬ Wakes s host readiness := by
      rintro ⟨-, r, active, -⟩
      exact absurd (active.symm.trans free) (by simp)
    exact .inr ⟨asleep, .inr owner⟩
  rename_i r active
  have active : s.activeRequest = some r := active
  have wakes_iff : Wakes s host readiness ↔ s.phase = .waking ∧ r.target = host ∧
      readiness.bundleReady r.lease.peerSessionEpoch = true := by
    simp [Wakes, active]
  split at answered
  · rename_i other
    cases answered
    exact .inr ⟨fun wakes => other (wakes_iff.mp wakes).2.1, .inr owner⟩
  rename_i target
  have target : r.target = host := not_not.mp target
  split at answered
  · rename_i woken
    have kept : t'.next.keyboardOwner = s.keyboardOwner ∧ t'.next.serverHost = s.serverHost := by
      obtain ⟨_, -, ⟨-, rfl⟩ | ⟨-, _, rfl, -⟩⟩ := beginSwitch_ok answered <;> simp
    have apart := shape.waking_apart valid woken.1 active
    rw [ownerReadiness_apart readiness (by rwa [kept.1, kept.2, ← target])]
    exact .inl ⟨wakes_iff.mpr ⟨woken.1, target, woken.2⟩, answered⟩
  rename_i waits
  have asleep : ¬ Wakes s host readiness := fun wakes =>
    waits ⟨(wakes_iff.mp wakes).1, (wakes_iff.mp wakes).2.2⟩
  split at answered <;> cases answered
  · rw [ownerReadiness_apart readiness (fun here => by simpa [beginFallback] using here.symm)]
    exact .inr ⟨asleep, .inl ⟨r, active, target, rfl⟩⟩
  · exact .inr ⟨asleep, .inr owner⟩

theorem outcome_synchronized
    (h : applyTransportSynchronized s mode input signals nowMs timing = .ok t) :
    Outcome s (.transportSynchronized mode input signals) nowMs timing t := by
  have same : SameBooks (.transportSynchronized mode input signals) s
      (storeObservation (linkUp s) s.switchEpoch nowMs mode input signals) := .of_moved rfl (.inl rfl)
  rcases synchronized_cases h with ⟨shown, m, finished, rfl⟩ | ⟨manual, rfl⟩ | rfl
  · obtain ⟨counts, rfl, counted⟩ := finishFallback_ok finished
    exact .finished same (.inr ⟨_, _, _, rfl, shown⟩) counted
  · obtain ⟨free, ended⟩ := manualDisplayObserved_idle manual
    exact .accepted same free ended (.inl ⟨_, _, _, rfl⟩)
  · exact .fellBack same rfl rfl

theorem outcome_readiness (shape : Shape s) {past : Nat} (valid : Valid s past) {host : Host}
    {readiness : PeerReadiness}
    (h : applyPeerReadinessUpdated s host readiness nowMs timing = .ok t) :
    Outcome s (.peerReadinessUpdated host readiness) nowMs timing t := by
  rcases peerReadiness_cases shape valid h with
    ⟨⟨-, r, active, -⟩, began⟩ | ⟨-, ⟨-, -, -, rfl⟩ | ⟨-, -, rfl⟩ | ⟨-, rfl⟩⟩
  · exact .restarted (n := setPeer s host readiness) (.of_eq rfl rfl) active began
  · exact .fellBack (.of_eq rfl) rfl rfl
  · exact .fellBack (.of_eq rfl) rfl rfl
  · exact .kept (.of_eq rfl rfl) (.inl rfl)

theorem outcome_arm {target : Host} (h : applyArmManualRecovery s target = .ok t) :
    Outcome s event nowMs timing t := by
  obtain ⟨-, -, -, rfl⟩ := arm_ok h
  exact .kept (.of_eq rfl rfl) (.inl rfl)

theorem outcome_admit {r : EnterRequest} (admits : Admits s event nowMs r)
    (h : admitEnter (openRequestEpoch s) r nowMs timing = .ok t) : Outcome s event nowMs timing t := by
  rcases admitEnter_cases h with ⟨here, began⟩ | ⟨remote, offline, rfl⟩ | ⟨-, rfl⟩ | ⟨ready, began⟩
  · exact .opened admits (.inl ⟨here, rfl⟩) began
  · exact .woken admits offline remote
  · exact .denied admits rfl rfl
  · exact .opened admits (.inr ⟨ready, rfl⟩) began

theorem outcome_created {requestId clientId : String} {target : Host} {lease : LeaseIdentity}
    {draft : Draft}
    (h : applyCreateEnter s requestId clientId target lease nowMs timing = .ok draft) :
    draft = .unchecked ⟨s, []⟩ ∨
      ∃ t, draft = .check t ∧ Outcome s (.createEnter requestId clientId target lease) nowMs timing t := by
  rcases createEnter_cases h with rfl | ⟨unknown, free, ready, named, leased, t, rfl, admitted⟩
  · exact .inl rfl
  · refine .inr ⟨t, rfl, outcome_admit ?_ admitted⟩
    exact ⟨rfl, unknown, free, ready, ⟨named, leased⟩, rfl, rfl, rfl⟩

theorem outcome_acknowledged (shape : Shape s) {target : Host} {draft : Draft}
    (h : applyCommandAcknowledged s e target nowMs timing = draft) :
    draft = .unchecked ⟨s, []⟩ ∨ ∃ t, draft = .check t ∧ Outcome s event nowMs timing t := by
  unfold applyCommandAcknowledged at h
  split at h
  · exact .inl h.symm
  rename_i current
  simp only [not_or, not_not] at current
  obtain ⟨rfl, -⟩ := current
  split at h
  · rename_i waits
    -- a switch is under way when nothing is owed, a fallback when something is
    rcases waits.2 with switching | pending
    · have settled : s.fallbackRequired = false := by
        by_contra owed
        obtain ⟨-, -, -, phase⟩ := shape.owed (by simpa using owed)
        simp [switching] at phase
      exact .inr ⟨_, h.symm, .asked (.of_eq rfl) id (.inl ⟨switching, by simp [settled]⟩) (.inl rfl) rfl⟩
    · have owed := shape.owing (.inl pending)
      exact .inr ⟨_, h.symm, .asked (.of_eq rfl) id (.inr (.inl ⟨pending, by simp [owed]⟩)) (.inl rfl) rfl⟩
  · exact .inr ⟨_, h.symm, .kept (.of_eq rfl rfl) (.inl rfl)⟩

theorem outcome_commandFailed {reason : String} :
    Outcome s (.commandFailed e reason) nowMs timing (applyCommandFailed s e reason nowMs timing) := by
  unfold applyCommandFailed
  split
  · exact .fellBack (.of_eq rfl) rfl rfl
  · exact .kept (.of_eq rfl rfl) (.inl rfl)

theorem Shape.unowned (shape : Shape s) (active : s.activeRequest = some r) : s.phase ≠ .remoteOwned := by
  intro owned
  simp [(shape.remoteOwned owned).1] at active

theorem outcome_observeRequest (shape : Shape s) (same : SameCourse (.observation e mode input signals) s n)
    (epoch : r.switchEpoch = some e) (active : s.activeRequest = some r)
    (shown : n.tvMode = mode ∧ n.observedInput = input)
    (h : observeRequest n r e nowMs timing = .ok t) :
    Outcome s (.observation e mode input signals) nowMs timing t := by
  unfold observeRequest at h
  dsimp only at h
  split at h
  · rename_i verified
    split at h
    · cases h
      exact .fellBack same.toSameBooks same.restore rfl
    · obtain ⟨n', granted, done⟩ := bind_ok.mp h
      cases done
      obtain ⟨r', e', counts, active', epoch', rfl, counted⟩ := issueGrant_ok granted
      cases (same.request.trans active).symm.trans active'
      cases epoch.symm.trans epoch'
      have display := verified.2
      simp only [targetDisplayVerified, Bool.and_eq_true, beq_iff_eq] at display
      have seen : Event.observation e mode input signals =
          .observation e .fullscreen (some r.target) signals := by
        rw [← shown.1, ← shown.2, display.1.1, display.1.2]
      exact .granted same active epoch verified.2 seen counted
  · split at h <;> cases h
    · exact .fellBack same.toSameBooks same.restore rfl
    · exact .kept same (.inr (shape.unowned active))

theorem outcome_observeSession (shape : Shape s) (same : SameCourse (.observation e mode input signals) s n)
    (owned : s.phase = .remoteOwned) : Outcome s (.observation e mode input signals) nowMs timing
      (observeSession n e nowMs timing) := by
  unfold observeSession
  split
  · rename_i ended
    have running := (shape.remoteOwned owned).2.1
    simp [← same.session, ended] at running
  · split
    · exact .fellBack ⟨same.server, same.routes, same.counts, same.keyboard, same.pointer, same.requestEpoch,
        same.switchEpoch, same.grantEpoch, same.request, same.history, same.limit, same.session,
        same.pending, same.owed, same.link⟩ same.restore rfl
    · exact .answered same owned rfl

theorem outcome_completeMultiview (same : SameCourse (.observation e mode input signals) s n)
    (free : s.activeRequest = none) (phase : s.phase = .multiviewChanging) :
    Outcome s (.observation e mode input signals) nowMs timing
      (completeMultiviewObservation ⟨n, []⟩ nowMs timing) := by
  rcases completeMultiview_cases ⟨n, []⟩ nowMs timing with
    ⟨-, done⟩ | ⟨-, -, done⟩ | ⟨enabled, reason, -, -, done⟩
  all_goals rw [done]
  · exact .kept same (.inr (by simp [phase]))
  · exact .completed same free phase
  · exact .fellBack same.toSameBooks same.restore rfl

theorem outcome_observed (shape : Shape s)
    (h : applyObservation s e mode input signals nowMs timing = .ok t) :
    Outcome s (.observation e mode input signals) nowMs timing t := by
  have same : SameCourse (.observation e mode input signals) s
      (landObservation (storeObservation s e nowMs mode input signals) e) := .of_eq rfl rfl
  rcases observation_cases h with ⟨owed, rfl, ⟨verified, m, finished, rfl⟩ | rfl⟩ |
    ⟨r, active, ⟨-, rfl⟩ | ⟨epoch, seen⟩⟩ | ⟨free, ⟨owned, rfl⟩ | ⟨changing, rfl⟩ | ⟨unowned, -, rfl⟩⟩
  · obtain ⟨counts, rfl, counted⟩ := finishFallback_ok finished
    exact .finished same.toSameBooks (.inl ⟨owed, verified, _, _, _, rfl⟩) counted
  · exact .reverified same owed
  · exact .kept same (.inr (shape.unowned active))
  · exact outcome_observeRequest shape same epoch active ⟨rfl, rfl⟩ seen
  · exact outcome_observeSession shape same owned
  · exact outcome_completeMultiview same free changing
  · exact .kept same (.inr unowned)

theorem outcome_commit {requestId leaseId : String} {requestEpoch grantEpoch leaseEpoch : Nat}
    (h : applyCommit s requestId requestEpoch grantEpoch leaseId leaseEpoch nowMs timing = .ok t) :
    Outcome s (.commit requestId requestEpoch grantEpoch leaseId leaseEpoch) nowMs timing t := by
  rcases commit_cases h with rfl |
    ⟨r, g, active, granted, status, ⟨rfl, rfl, rfl, rfl, rfl⟩, fresh, leased, rfl | ⟨ready, e, epoch, rfl⟩⟩
  · exact .kept (.of_eq rfl rfl) (.inl rfl)
  · exact .fellBack (.of_eq rfl) rfl rfl
  · exact .committed ⟨active, status, ⟨g, granted, fresh, rfl⟩, leased, ready, by simp [epoch]⟩ epoch

theorem outcome_cancel (shape : Shape s) {requestId reason : String}
    (h : applyCancel s requestId reason nowMs timing = .ok t) :
    Outcome s (.cancel requestId reason) nowMs timing t := by
  rcases cancel_cases h with rfl | ⟨a, running, rfl, rfl⟩ | ⟨unnamed, r, active, rfl⟩
  · exact .kept (.of_eq rfl rfl) (.inl rfl)
  · exact .calledOff running rfl
  have closes : Closes s r { r with status := .cancelled, reason := some reason } :=
    ⟨active, rfl, by simp⟩
  rcases cancelActive_cases s r reason nowMs timing with ⟨-, done⟩ | ⟨unswitched, done⟩
  all_goals rw [done]
  · exact .closed closes (.of_eq rfl) (.inr ⟨requestId, rfl, rfl, unnamed⟩)
  · exact .settled closes ((shape.request r active).remote unswitched) unswitched

theorem outcome_renew {requestId leaseId : String} {leaseEpoch peerSessionEpoch : Nat}
    (h : applyRenew s requestId leaseId leaseEpoch peerSessionEpoch nowMs timing = .ok t) :
    Outcome s (.renew requestId leaseId leaseEpoch peerSessionEpoch) nowMs timing t := by
  rcases renew_cases h with rfl | ⟨a, running, rfl⟩
  · exact .fellBack (n := noteSessionTarget s) (.of_eq rfl) rfl rfl
  · exact .renewed running

theorem outcome_multiviewRequested (shape : Shape s) {enabled : Bool}
    (h : applyMultiViewRequested s enabled nowMs timing = .ok t) :
    Outcome s (.multiViewRequested enabled) nowMs timing t := by
  obtain ⟨ready, here, free, rfl⟩ := multiviewRequested_ok h
  refine .changed ready free ?_ rfl
  by_contra running
  obtain ⟨a, running⟩ := Option.ne_none_iff_exists'.mp running
  have held := shape.session a running
  exact held.remote (held.keyboard.symm.trans here)

theorem outcome_multiviewAcknowledged {enabled : Bool} :
    Outcome s (.multiViewAcknowledged e enabled) nowMs timing
      (applyMultiViewAcknowledged s e enabled nowMs timing) := by
  unfold applyMultiViewAcknowledged
  split
  · rename_i current
    obtain ⟨rfl, pending⟩ := current
    exact .asked (.of_eq rfl) id (.inr (.inr (.inr ⟨enabled, rfl, pending, rfl⟩))) (.inl rfl) rfl
  · exact .kept (.of_eq rfl rfl) (.inl rfl)

theorem outcome_subscription : Outcome s (.subscriptionObserved mode input) nowMs timing
      (applySubscriptionObserved s mode input nowMs timing) := by
  rcases subscription_cases s mode input nowMs timing with
    ⟨again, result⟩ | ⟨-, ⟨reason, result⟩ | ⟨manual, result⟩ | ⟨-, result | result⟩⟩
  all_goals rw [result]
  · have phase : s.phase = .fallbackVerifying ∨ s.phase = .verifying := again.imp And.left And.left
    exact .asked (.of_eq rfl) id (.inr (.inr (.inl ⟨phase, rfl⟩))) (.inr ⟨rfl, rfl⟩) rfl
  · exact .fellBack (n := storeDisplay s mode input) (.of_eq rfl) rfl rfl
  · simp only [manualDisplayObserved, Bool.and_eq_true, Bool.or_eq_true, bne_iff_ne, beq_iff_eq,
      Option.isNone_iff_eq_none] at manual
    obtain ⟨⟨⟨⟨away, keyboard⟩, pointer⟩, free⟩, ended⟩ := manual
    refine .accepted (.of_eq rfl) free ended (.inr ⟨_, _, rfl, ?_, keyboard, pointer⟩)
    rintro ⟨full, home⟩
    exact away.elim (· full) (· home)
  · exact .kept (.of_eq rfl rfl) (.inl rfl)
  · exact .kept (.of_eq rfl rfl) (.inl rfl)

theorem outcome_served (shape : Shape s) (uncancelled : event.cancels = false)
    (h : serveDeadlines ⟨s, []⟩ nowMs timing = .ok t) : Outcome s event nowMs timing t := by
  have branches := Shape.serve_cases (t := ⟨s, []⟩) shape nowMs timing
  rcases branches with ⟨n, reason, source, -, served⟩ | ⟨a, running, -, owned, -, due, served⟩ |
    ⟨phase, late, served⟩ | ⟨-, -, -, served⟩
  all_goals
    rw [served] at h
    cases h
  · rcases source with rfl | rfl
    all_goals exact .fellBack (.of_eq rfl) rfl uncancelled
  · exact .polled running owned due
  · exact .commandedAgain phase late
  · exact .kept (.of_eq rfl rfl) (.inl rfl)

theorem outcome_tick (shape : Shape s) (h : applyTick s nowMs timing = .ok t) :
    Outcome s .tick nowMs timing t := by
  unfold applyTick at h
  rcases expire_cases s nowMs timing with
    ⟨-, same⟩ | ⟨r, active, -, waking, settled⟩ | ⟨r, active, -, -, fell⟩
  · rw [same] at h
    exact outcome_served shape rfl h
  · have expired := shape.expired nowMs timing
    rw [settled] at h expired
    have closes : Closes s r { r with status := .expired, reason := some "request_deadline" } :=
      ⟨active, rfl, by simp⟩
    have asked := shape.request r active
    have unswitched := asked.waking.mp waking
    have branches := Shape.serve_cases (t := ⟨_, []⟩) expired nowMs timing
    -- the phase is idle by now, so only the session can still have expired
    rcases branches with ⟨n, reason, source, -, served⟩ | ⟨a, -, -, owned, -⟩ | ⟨phase, -⟩ |
      ⟨-, -, -, served⟩
    · rw [served] at h
      cases h
      rcases source with rfl | rfl
      all_goals exact .closed closes (.of_eq rfl) (.inl ⟨rfl, .inr ⟨unswitched, rfl⟩⟩)
    · simp at owned
    · simp at phase
    · rw [served] at h
      cases h
      exact .settled closes (asked.remote unswitched) unswitched
  rw [fell] at h
  have closes : Closes s r { r with status := .expired, reason := some "request_deadline" } :=
    ⟨active, rfl, by simp⟩
  rcases serve_fallback shape.serverRouted shape.counted h with rfl | ⟨restore, healthy, overdue, rfl⟩
  · exact .closed closes (.of_eq rfl) (.inl ⟨rfl, .inl rfl⟩)
  · exact .closedTwice closes overdue restore healthy rfl

end Handlers

section Results

variable {s : ProtocolState} {event : Event} {nowMs : Nat} {timing : ProtocolTiming} {past : Nat}

theorem react_outcome (shape : Shape s) (valid : Valid s past) {draft : Draft}
    (h : react s event nowMs timing = .ok draft) :
    draft = .unchecked ⟨s, []⟩ ∨ ∃ t, draft = .check t ∧ Outcome s event nowMs timing t := by
  have checked {x : Except Halt Transition}
      (outcome : ∀ t, x = .ok t → Outcome s event nowMs timing t) (h : x.map Draft.check = .ok draft) :
      draft = .unchecked ⟨s, []⟩ ∨ ∃ t, draft = .check t ∧ Outcome s event nowMs timing t := by
    obtain ⟨t, applied, rfl⟩ := map_ok.mp h
    exact .inr ⟨t, rfl, outcome t applied⟩
  cases event with
  | transportConnecting | transportRegistering | transportSubscribed =>
    cases h
    refine .inr ⟨_, rfl, .kept ⟨.of_moved rfl (.inl rfl), rfl, rfl, rfl, fun up => ?_⟩ (.inl rfl)⟩
    simp [daemonHealthy] at up
  | transportSynchronized => exact checked (fun _ => outcome_synchronized) h
  | transportDisconnected =>
    cases h
    exact .inr ⟨_, rfl, .fellBack (.of_moved rfl (.inl rfl)) rfl rfl⟩
  | peerReadinessUpdated => exact checked (fun _ => outcome_readiness shape valid) h
  | armManualRecovery => exact checked (fun _ => outcome_arm) h
  | createEnter => exact outcome_created h
  | commandAcknowledged => exact outcome_acknowledged shape (Except.ok.inj h)
  | commandFailed => cases h; exact .inr ⟨_, rfl, outcome_commandFailed⟩
  | observation => exact checked (fun _ => outcome_observed shape) h
  | commit => exact checked (fun _ => outcome_commit) h
  | cancel => exact checked (fun _ => outcome_cancel shape) h
  | renew => exact checked (fun _ => outcome_renew) h
  | multiViewRequested => exact checked (fun _ => outcome_multiviewRequested shape) h
  | multiViewAcknowledged => cases h; exact .inr ⟨_, rfl, outcome_multiviewAcknowledged⟩
  | subscriptionObserved => cases h; exact .inr ⟨_, rfl, outcome_subscription⟩
  | tick => exact checked (fun _ => outcome_tick shape) h
  | shutdown => cases h; exact .inr ⟨_, rfl, .stopped rfl⟩

variable {t : Transition} {n : ProtocolState}

/-- A successful step has an outcome, and either validates its result or changes nothing. -/
theorem apply_outcome_checked (shape : Shape s) (valid : Valid s past)
    (h : apply s event nowMs timing = .ok t) :
    Outcome s event nowMs timing t ∧ (Valid t.next nowMs ∨ t = ⟨s, []⟩) := by
  rcases apply_ok.mp h with reacted | ⟨reacted, checked⟩
  · rcases react_outcome shape valid reacted with same | ⟨_, other, -⟩
    · cases same
      exact ⟨.kept (.of_eq rfl rfl) (.inl rfl), .inr rfl⟩
    · contradiction
  · rcases react_outcome shape valid reacted with other | ⟨_, same, outcome⟩
    · contradiction
    · cases same
      exact ⟨outcome, .inl checked⟩

theorem apply_outcome (shape : Shape s) (valid : Valid s past)
    (h : apply s event nowMs timing = .ok t) : Outcome s event nowMs timing t :=
  (apply_outcome_checked shape valid h).1

theorem SameBooks.holdings (same : SameBooks event s n) (held : Holdings s) : Holdings n := by
  refine held.frame ?_
  simp only [ProtocolState.holdings, same.server, same.routes, same.counts, same.switchEpoch,
    same.keyboard, same.pointer, same.request, same.session]

theorem SameCourse.shape (same : SameCourse event s n) (shape : Shape s)
    (flight : n.observationInFlight = s.observationInFlight ∨ s.phase ≠ .remoteOwned) : Shape n := by
  refine ⟨same.holdings shape.toHoldings, ?_⟩
  obtain ⟨h₁, h₂, h₃, h₄, h₅, h₆, h₇, h₈⟩ := shape.toPhases
  have deferred : s.phase = .fallbackDeferred → n.daemonHealthy = false := fun phase => by
    by_contra up
    simp [same.healthy (by simpa using up)] at h₃
    exact h₃ phase
  constructor
  all_goals
    simp only [same.phase, same.owed, same.request, same.session, same.pending, same.deadline, same.poll]
    try assumption
  intro owned
  rw [flight.resolve_right (not_not.mpr owned)]
  exact h₆ owned

theorem SameBooks.asked (same : SameBooks event s n) (shape : Shape s)
    (phase : Heard event s n)
    (unpolled : n.nextSignalPollMs = none) : Shape n := by
  refine ⟨same.holdings shape.toHoldings, ?_⟩
  have owed := shape.owed
  have owing := shape.owing
  rw [← same.owed, ← same.request, ← same.session, ← same.pending] at owed
  rw [← same.owed] at owing
  rcases phase with ⟨before, after⟩ | ⟨before, after⟩ | ⟨before | before, after⟩ |
    ⟨enabled, -, pending, after⟩
  case inr.inr.inr =>
    rw [← same.pending] at pending
    constructor <;> simp_all
  all_goals constructor <;> simp_all

theorem Outcome.shape (outcome : Outcome s event nowMs timing t) (shape : Shape s)
    (valid : Valid s past) : Shape t.next := by
  have held := shape.toHoldings
  have fallen {n m : ProtocolState} {reason : String} {b : Bool} (same : SameBooks event m n)
      (kept : (m.serverHost, m.displayHosts, m.switchCount) = (s.serverHost, s.displayHosts, s.switchCount)) :
      Shape (beginFallbackWithRestore ⟨n, []⟩ nowMs timing reason b).next := by
    simp only [Prod.mk.injEq] at kept
    refine fallback_shape ?_ ?_
    · rw [same.route, same.server, kept.1, hasDisplayRoute, kept.2.1]
      exact held.serverRouted
    · rw [same.counts, kept.2.2]
      exact held.counted
  cases outcome with
  | kept same flight => exact same.shape shape flight
  | fellBack same | closed _ same => exact fallen same rfl
  | calledOff => exact fallback_shape held.serverRouted held.counted
  | @closedTwice r r' reason b _ overdue restore healthy =>
    have first : Shape (beginFallbackWithRestore ⟨(takeActive s r).archiveRequest r', []⟩ nowMs timing
        reason b).next := fallback_shape held.serverRouted held.counted
    rcases fallback_cases ⟨(takeActive s r).archiveRequest r', []⟩ nowMs timing reason b with
      ⟨-, -, phase, deadline, -⟩ | ⟨unhealthy, -⟩ | ⟨unasked, -⟩
    · exact first.commandAgain (.inl phase) (by simp [dueAt, deadline, overdue])
    · exact absurd (healthy.symm.trans unhealthy) (by simp)
    · simp [restore] at unasked
  | settled closes => exact shape.settle closes.active _
  | finished same _ counted => exact (same.holdings held).finished counted
  | accepted same free => exact (same.holdings held).accept (same.request.trans free)
  | asked same _ phase _ unpolled => exact same.asked shape phase unpolled
  | polled running owned =>
    have settled := shape.not_owed_of_session running
    refine ⟨held.frame rfl, ?_⟩
    constructor <;> simp [owned, settled, (shape.remoteOwned owned).1, running]
  | answered same owned =>
    obtain ⟨free, running, -⟩ := shape.remoteOwned owned
    obtain ⟨a, running⟩ := Option.isSome_iff_exists.mp running
    have settled := shape.not_owed_of_session running
    refine ⟨(same.holdings held).frame rfl, ?_⟩
    constructor <;> simp [same.phase, same.owed, same.request, same.session, owned, settled, free, running]
  | reverified same owed =>
    refine (same.shape shape (.inr fun owned => ?_)).reverify (same.owed.trans owed)
    simpa [(shape.owed owed).2.1] using (shape.remoteOwned owned).2.1
  | granted same active epoch _ _ counted =>
    obtain rfl := ((shape.request _ active).current _ epoch).trans same.switchEpoch.symm
    have kept := same.holdings held
    exact grantIssued_shape kept.serverRouted (fun k => counted k (kept.counted k)) kept.session
      (same.owed.trans (shape.not_owed_of_request active)) epoch
  | restarted same active began =>
    have kept := same.holdings held
    exact switch_shape began kept.serverRouted kept.counted kept.session
      (same.owed.trans (shape.not_owed_of_request active)) fun r g here => (kept.request r here).inRange g
  | @opened n r t admits start began =>
    have inRange : ∀ r' g, some r = some r' → r'.grant = some g → g.expiresAtMs ≤ u64Max := by
      rintro r' g ⟨⟩ granted
      simp [admits.ungranted] at granted
    have settled := ready_settled admits.ready
    rcases start with ⟨-, rfl⟩ | ⟨-, rfl⟩
    · exact switch_shape began held.serverRouted held.counted (by simp) settled inRange
    · exact switch_shape began held.serverRouted held.counted
        (fun a running => (held.session a running).frame rfl rfl rfl) settled inRange
  | woken admits offline remote =>
    have opened : Shape (openRequestEpoch s) := shape.frame rfl rfl
    exact opened.wake (ready_settled admits.ready) admits.unswitched admits.ungranted remote
      (valid.offline_apart shape offline)
  | denied => exact shape.frame rfl rfl
  | committed => exact shape.commit
  | renewed running => exact shape.renewed running
  | changed ready free =>
    refine ⟨⟨held.serverRouted, held.counted, fun a running => (held.session a running).frame rfl rfl rfl,
      by simp [free]⟩, ?_⟩
    constructor <;> simp [ready_settled ready]
  | completed same free phase =>
    have settled : s.fallbackRequired = false := by
      by_contra owed
      have fallen := (shape.owed (by simpa using owed)).2.2.2
      simp [phase] at fallen
    refine ⟨(same.holdings held).frame rfl, ?_⟩
    constructor <;> simp [same.owed, same.request, settled, free]
  | commandedAgain phase due => exact shape.commandAgain phase due
  | stopped =>
    refine ⟨⟨held.serverRouted, held.counted, by simp, by simp⟩, ?_⟩
    constructor <;> simp [daemonHealthy]

/-- A successful step keeps the invariant, and either validates its result or
changes nothing. -/
theorem Shape.apply (shape : Shape s) (valid : Valid s past) (h : apply s event nowMs timing = .ok t) :
    Shape t.next ∧ (Valid t.next nowMs ∨ t = ⟨s, []⟩) := by
  obtain ⟨outcome, checked⟩ := apply_outcome_checked shape valid h
  exact ⟨outcome.shape shape valid, checked⟩

end Results

end DisplayMux.Tv
