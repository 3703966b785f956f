import DisplayMux.Tv.Check
import DisplayMux.Tv.Deadlines
import DisplayMux.Tv.Moves

/-! Which events are refused only because the handler built a state that fails the
final check. The cases are conditions on the state before; every one of them
needs a session that is already running, beside which a second request was let
in or a report of another epoch arrived. -/
namespace DisplayMux.Tv

/-- A grant without a display route moves the verified epoch away from a session
that is shown on the TV. -/
def strandsSession (s : ProtocolState) (target : Host) : Bool :=
  !s.hasDisplayRoute target && s.activeSession.any fun a =>
    s.hasDisplayRoute a.target && saturatingAdd s.switchEpoch 1 != a.switchEpoch

def enterClashes (s : ProtocolState) (requestId : String) (target : Host) (lease : LeaseIdentity)
    (nowMs : Nat) : Bool :=
  (s.request requestId).isNone && s.activeRequest.isNone && s.ready && !lease.leaseId.isEmpty &&
    decide (nowMs < lease.expiresAtMs) && target != s.serverHost &&
    let readiness := (s.peers.get target).getD {}
    readiness.online &&
      if readiness.bundleReady lease.peerSessionEpoch then strandsSession s target
      else s.activeSession.isSome

def readinessClashes (s : ProtocolState) (host : Host) (readiness : PeerReadiness) : Bool :=
  s.phase == .waking &&
    (s.activeRequest.any fun r =>
      r.target == host && readiness.bundleReady r.lease.peerSessionEpoch) &&
    strandsSession s host

/-- The target of a verified request may still be granted. -/
def grantable (n : ProtocolState) (r : EnterRequest) (nowMs : Nat) : Bool :=
  r.target == n.serverHost ||
    ((n.peers.get r.target).any (fun p => p.bundleReady r.lease.peerSessionEpoch) &&
      decide (nowMs < r.lease.expiresAtMs))

/-- The observation, once stored, grants the active request. -/
def observationGrants (n : ProtocolState) (switchEpoch nowMs : Nat) : Bool :=
  n.activeRequest.any fun r => r.switchEpoch == some switchEpoch && n.phase == .verifying &&
    targetDisplayVerified n r.target switchEpoch && grantable n r nowMs

/-- The observation, once stored, makes the daemon fall back. -/
def observationFalls (n : ProtocolState) (switchEpoch nowMs : Nat) : Bool :=
  match n.activeRequest with
  | some r =>
    r.switchEpoch == some switchEpoch &&
      if targetDisplayVerified n r.target switchEpoch then n.phase == .verifying && !grantable n r nowMs
      else n.phase == .grantPending
  | none =>
    (n.phase == .remoteOwned && n.activeSession.any fun a =>
        a.switchEpoch == switchEpoch && !targetDisplayVerified n a.target switchEpoch) ||
      (n.phase == .multiviewChanging && n.pendingMultiview.any fun enabled =>
        !(enabled && n.tvMode == .multiview))

def observationClashes (s : ProtocolState) (switchEpoch : Nat) (mode : TvMode) (input : Option Host)
    (signals : HostMap Bool) (nowMs : Nat) : Bool :=
  let n := landObservation (storeObservation s switchEpoch nowMs mode input signals) switchEpoch
  !observationFalls n switchEpoch nowMs && s.activeSession.any fun a => s.hasDisplayRoute a.target &&
    !(targetDisplayVerified n a.target a.switchEpoch &&
      (!observationGrants n switchEpoch nowMs || a.switchEpoch == switchEpoch))

def commitClashes (s : ProtocolState) (requestId : String) (requestEpoch grantEpoch : Nat)
    (leaseId : String) (leaseEpoch nowMs : Nat) : Bool :=
  !(s.requestHistory.any fun r => r.requestId == requestId && r.status == .committed) &&
    s.activeRequest.any fun r => r.requestId == requestId && r.requestEpoch == requestEpoch &&
      r.status == .grant && r.lease.leaseId == leaseId && r.lease.leaseEpoch == leaseEpoch &&
      (r.grant.any fun g => g.grantEpoch == grantEpoch && decide (nowMs < g.expiresAtMs)) &&
      decide (nowMs < r.lease.expiresAtMs) && r.target != s.serverHost && grantable s r nowMs &&
      s.hasDisplayRoute r.target &&
      r.switchEpoch.any fun e => !targetDisplayVerified s r.target e

def cancelClashes (s : ProtocolState) (requestId : String) : Bool :=
  !(s.requestHistory.any fun r =>
      r.requestId == requestId && (r.status == .cancelled || r.status == .fallback)) &&
    (s.activeSession.any fun a => a.requestId != requestId) &&
    s.activeRequest.any fun r => r.requestId == requestId && r.switchEpoch.isNone

def subscriptionClashes (s : ProtocolState) (mode : TvMode) (input : Option Host) : Bool :=
  s.phase == .verifying && s.observationInFlight.isNone && mode == .fullscreen &&
    s.activeRequest.any fun r => input == some r.target &&
      s.activeSession.any fun a => s.hasDisplayRoute a.target && r.target != a.target

def tickClashes (s : ProtocolState) (nowMs : Nat) : Bool :=
  (s.activeRequest.any fun r => decide (r.deadlineMs ≤ nowMs) && r.status == .waking) &&
    s.activeSession.isSome && !sessionExpired s nowMs

/-- The event gets past its handler but not past the final check. -/
def clashes (s : ProtocolState) (event : Event) (nowMs : Nat) : Bool :=
  match event with
  | .createEnter requestId _ target lease => enterClashes s requestId target lease nowMs
  | .peerReadinessUpdated host readiness => readinessClashes s host readiness
  | .observation switchEpoch mode input signals =>
    observationClashes s switchEpoch mode input signals nowMs
  | .commit requestId requestEpoch grantEpoch leaseId leaseEpoch =>
    commitClashes s requestId requestEpoch grantEpoch leaseId leaseEpoch nowMs
  | .cancel requestId _ => cancelClashes s requestId
  | .subscriptionObserved mode input => subscriptionClashes s mode input
  | .tick => tickClashes s nowMs
  | _ => false

section Enter

variable {s n : ProtocolState} {r : EnterRequest} {nowMs : Nat} {timing : ProtocolTiming}

theorem switch_fails (held : Holdings s) (valid : Valid s nowMs) (owners : n.ownerFields = s.ownerFields)
    (picture : n.picture = s.picture) (verified : n.verifiedEpoch = s.verifiedEpoch)
    (epoch : n.switchEpoch = s.switchEpoch) (recovery : n.manualRecoveryTarget = none)
    (counted : ∀ h, (n.switchCount.get h).isSome = true) (active : n.activeRequest = some r) :
    Fails (beginSwitch ⟨n, []⟩ nowMs timing) nowMs ↔ strandsSession s r.target = true := by
  have routes : n.displayHosts = s.displayHosts := congrArg (fun f => f.2.1) owners
  have route : n.hasDisplayRoute r.target = s.hasDisplayRoute r.target := by
    rw [ProtocolState.hasDisplayRoute, routes, ProtocolState.hasDisplayRoute]
  have shown := valid.shown held
  obtain ⟨t, switched⟩ := beginSwitch_total (t := ⟨n, []⟩) counted active nowMs timing
  rw [switched, fails_ok]
  obtain ⟨r', active', ⟨routed, rfl⟩ | ⟨unrouted, counts, rfl, -⟩⟩ := beginSwitch_ok switched
  all_goals obtain rfl : r = r' := Option.some.inj (active.symm.trans active')
  · have unharmed : strandsSession s r.target = false := by
      simp only [route] at routed
      simp [strandsSession, routed]
    refine iff_of_false (not_not.mpr ?_) (by simp [unharmed])
    let commanded := switchCommanded (switchStarted n r nowMs timing) r.target nowMs timing
    have same : commanded.ownerFields = s.ownerFields := owners
    have unarmed : commanded.manualRecoveryTarget = none := recovery
    have verdict := valid_iff_shown held valid same (.inl unarmed) (by simp [commanded, GrantVerified])
    refine verdict.mpr ((shown_iff_epoch shown picture).mpr ?_)
    exact fun a running routed => verified.trans (shown.epoch a running routed)
  simp only [route] at unrouted
  let issued := setCount (grantIssued (switchUncommanded (switchStarted n r nowMs timing))
    (switchRequest r (saturatingAdd n.switchEpoch 1) nowMs timing) (saturatingAdd n.switchEpoch 1)
    nowMs timing) counts
  have same : issued.ownerFields = s.ownerFields := by
    simpa [issued, ProtocolState.ownerFields] using owners
  have seen : issued.picture = s.picture := by
    simpa [issued, ProtocolState.picture] using picture
  have unarmed : issued.manualRecoveryTarget = none := by simpa [issued] using recovery
  have verdict := valid_iff_shown held valid same (.inl unarmed) (by simp [issued, GrantVerified])
  rw [verdict, shown_iff_epoch shown seen]
  simp [issued, strandsSession, unrouted, epoch, Option.any_eq_true]

theorem strandsSession_ended (ended : s.activeSession = none) (target : Host) :
    strandsSession s target = false := by
  simp [strandsSession, ended]

theorem Holdings.released (held : Holdings s) : Holdings (releaseToServer s) :=
  ⟨held.serverRouted, held.counted, by simp,
    fun r active => (held.request r active).frame (.inr rfl) rfl rfl⟩

theorem admit_fails (held : Holdings s) (valid : Valid s nowMs) (free : s.activeRequest = none)
    (forgotten : s.manualRecoveryTarget = none) :
    Fails (admitEnter s r nowMs timing) nowMs ↔ r.target ≠ s.serverHost ∧
      ((s.peers.get r.target).getD {}).online = true ∧
      (if ((s.peers.get r.target).getD {}).bundleReady r.lease.peerSessionEpoch then
        strandsSession s r.target else s.activeSession.isSome) = true := by
  unfold admitEnter
  split
  · rename_i home
    have released : Valid (releaseToServer s) nowMs :=
      valid_of_local rfl rfl (by simp [forgotten]) (by simp [forgotten]) (by simp [GrantVerified, free])
    rw [switch_fails (n := setRequest (releaseToServer s) r) held.released released rfl rfl rfl rfl
      forgotten held.counted rfl]
    simp [home, strandsSession_ended]
  rename_i remote
  dsimp only
  split
  · rename_i offline
    have waits := (valid_iff_shown (n := startWaking s r nowMs timing) held valid rfl (.inl forgotten)
      (by simp [GrantVerified])).mpr (valid.shown held)
    rw [fails_ok]
    simp_all
  rename_i online
  simp only [Bool.not_eq_true, Bool.not_eq_false'] at online
  split
  · rename_i unready
    simp only [Bool.not_eq_true'] at unready
    have verdict := valid_iff_ended (n := (setRecoveryTarget s (some r.target)).archiveRequest
      { r with status := .denied, reason := some "target_input_not_ready" }) valid rfl rfl remote free
    rw [fails_ok, verdict]
    simp [remote, online, unready, Option.isSome_iff_ne_none]
  · rename_i ready
    rw [switch_fails (n := setRequest s r) held valid rfl rfl rfl rfl forgotten held.counted rfl]
    simp_all

theorem enter_fails (held : Holdings s) (valid : Valid s nowMs) {requestId clientId : String}
    {target : Host} {lease : LeaseIdentity} :
    (∃ t, applyCreateEnter s requestId clientId target lease nowMs timing = .ok (.check t) ∧
      ¬ Valid t.next nowMs) ↔ enterClashes s requestId target lease nowMs = true := by
  unfold applyCreateEnter enterClashes
  split
  · rename_i existing found
    split <;> simp [found, refuse]
  split
  · rename_i active busy
    simp [busy, refuse]
  rename_i free
  split
  · rename_i unready
    simp_all [refuse]
  split
  · rename_i bad
    simp only [refuse, reduceCtorEq, false_and, exists_false, false_iff]
    rcases bad with empty | expired
    · simp [empty]
    · simp [Nat.not_lt.mpr expired]
  rename_i leased
  rw [fails_map, admit_fails (s := openRequestEpoch s) (held.frame rfl)
    ((valid.forget held).frame rfl) free rfl]
  have same : strandsSession (openRequestEpoch s) target = strandsSession s target := rfl
  simp_all

end Enter

section Readiness

variable {s : ProtocolState} {nowMs : Nat} {timing : ProtocolTiming} {host : Host}
  {readiness : PeerReadiness}

theorem readiness_total (held : Holdings s) :
    ∃ t, applyPeerReadinessUpdated s host readiness nowMs timing = .ok t := by
  have answered : ∃ t, requestReadiness ⟨setPeer s host readiness, []⟩ host readiness nowMs timing =
      .ok t := by
    unfold requestReadiness
    split
    · exact ⟨_, rfl⟩
    rename_i r active
    split
    · exact ⟨_, rfl⟩
    · split
      · exact beginSwitch_total held.counted active nowMs timing
      · split <;> exact ⟨_, rfl⟩
  obtain ⟨t, answered⟩ := answered
  exact ⟨_, by rw [applyPeerReadinessUpdated, answered]; rfl⟩

theorem Valid.peer (valid : Valid s nowMs) (ready : ∀ a, s.activeSession = some a → a.target = host →
    readiness.bundleReady a.lease.peerSessionEpoch = true) : Valid (setPeer s host readiness) nowMs := by
  obtain ⟨h₁, h₂, h₃, h₄, h₅, h₆⟩ := valid
  refine ⟨h₁, h₂, h₃, h₄, fun remote => ?_, h₆⟩
  obtain ⟨a, running, checked⟩ := h₅ remote
  refine ⟨a, running, checked.target, checked.renewed, checked.leased, ?_, checked.display⟩
  rw [setPeer_peers, HostMap.get_insert]
  split
  · rename_i here
    exact ready a running here.symm
  · exact checked.peer

theorem wakes_iff_clash : Wakes s host readiness ∧ strandsSession s host = true ↔
    readinessClashes s host readiness = true := by
  simp [Wakes, readinessClashes, Option.any_eq_true, and_assoc]

theorem readiness_fails (shape : Shape s) (valid : Valid s nowMs) :
    Fails (applyPeerReadinessUpdated s host readiness nowMs timing) nowMs ↔
      readinessClashes s host readiness = true := by
  obtain ⟨t, handled⟩ : ∃ t, applyPeerReadinessUpdated s host readiness nowMs timing = .ok t :=
    readiness_total shape.toHoldings
  rw [← wakes_iff_clash, handled, fails_ok]
  rcases peerReadiness_cases shape valid handled with ⟨wakes, switched⟩ | ⟨asleep, result⟩
  · obtain ⟨phase, r, active, rfl, ready⟩ := id wakes
    obtain ⟨_, active', status, -⟩ := shape.waking phase
    cases active.symm.trans active'
    have asked := shape.request r active
    have apart : ∀ a, s.activeSession = some a → a.target ≠ r.target := fun a running same =>
      asked.apart (asked.waking.mp status) a running same.symm
    have stored : Valid (setPeer s r.target readiness) nowMs :=
      valid.peer fun a running same => absurd same (apart a running)
    have unarmed := valid.unarmed active
    have verdict : Fails (beginSwitch ⟨setPeer s r.target readiness, []⟩ nowMs timing) nowMs ↔
        strandsSession s r.target = true :=
      switch_fails (s := setPeer s r.target readiness) (shape.toHoldings.frame rfl) stored rfl rfl rfl
        rfl unarmed shape.counted active
    rw [switched, fails_ok] at verdict
    rw [verdict]
    exact ⟨fun strands => ⟨wakes, strands⟩, fun both => both.2⟩
  refine iff_of_false (not_not.mpr ?_) fun both => asleep both.1
  rcases result with ⟨r, -, -, rfl⟩ | ⟨-, -, rfl⟩ | ⟨ready, rfl⟩
  · exact fallback_valid _ _ _ _ _ valid.recoveryRemote
  · exact fallback_valid _ _ _ _ _ (recoveryTarget_remote valid.recoveryRemote _)
  · refine valid.peer fun a running here => ?_
    have owner := shape.session a running
    have fit := ready (owner.keyboard.trans here) (here ▸ owner.remote)
    simpa [running] using fit

end Readiness

section Settle

variable {s : ProtocolState} {r : EnterRequest} {nowMs : Nat} {timing : ProtocolTiming}

/-- A request that is put away before its switch leaves its target behind as the
recovery target, which no running session may see. -/
theorem settled_valid (shape : Shape s) (valid : Valid s nowMs) (active : s.activeRequest = some r)
    (fresh : r.switchEpoch = none) (archived : EnterRequest) :
    Valid (settleIdle ((takeActive s r).archiveRequest archived)) nowMs ↔ s.activeSession = none := by
  have remote := (shape.request r active).remote fresh
  exact valid_iff_ended (n := settleIdle ((takeActive s r).archiveRequest archived)) valid rfl
    (by simp [remote]) remote rfl

theorem takeActive_recovery (valid : Valid s nowMs) :
    (takeActive s r).manualRecoveryTarget ≠ some s.serverHost := by
  rw [takeActive_manualRecoveryTarget]
  split
  · rename_i remote
    simpa using remote
  · exact valid.recoveryRemote

theorem cancel_fails (shape : Shape s) (valid : Valid s nowMs) {requestId reason : String} :
    Fails (applyCancel s requestId reason nowMs timing) nowMs ↔ cancelClashes s requestId = true := by
  unfold applyCancel cancelClashes
  rw [List.any_reverse]
  split
  · rename_i done
    rw [fails_ok]
    exact iff_of_false (not_not.mpr valid) (by simp [done])
  rename_i pending
  split
  · rename_i named
    have unclashed : (s.activeSession.any fun a => a.requestId != requestId) = false := by
      cases session : s.activeSession <;> simp_all
    simp only [unclashed, Bool.and_false, Bool.false_and, Bool.false_eq_true, iff_false]
    split
    · exact not_fails_error
    · rw [fails_ok, not_not]
      exact fallback_valid _ _ _ _ _ valid.recoveryRemote
  split
  · rename_i free
    exact iff_of_false not_fails_error (by simp [free])
  rename_i r active
  split
  · rename_i other
    exact iff_of_false not_fails_error (by simp [active, other])
  rw [fails_ok, cancelActive]
  split
  · rename_i switched
    refine iff_of_false (not_not.mpr ?_) ?_
    · exact fallback_valid _ _ _ _ _ (takeActive_recovery valid)
    · obtain ⟨e, epoch⟩ := Option.isSome_iff_exists.mp switched
      simp [active, epoch]
  · rename_i fresh
    have fresh : r.switchEpoch = none := by simpa using fresh
    rw [settled_valid shape valid active fresh]
    cases session : s.activeSession <;> simp_all

/-- Without an overdue wake-up a tick is never refused. -/
theorem serve_valid {t : Transition} (shape : Shape t.next) {past : Nat} (valid : Valid t.next past) :
    ¬ Fails (serveDeadlines t nowMs timing) nowMs := by
  rcases shape.serve_cases nowMs timing with
    ⟨n, reason, from_, -, served⟩ | ⟨a, -, running, -, -, -, served⟩ | ⟨phase, -, served⟩ |
      ⟨running, -, -, served⟩
  all_goals rw [served, fails_ok, not_not]
  · rcases from_ with rfl | rfl
    · exact fallback_valid _ _ _ _ _ valid.recoveryRemote
    · exact fallback_valid _ _ _ _ _ (recoveryTarget_remote valid.recoveryRemote _)
  · exact (valid.until_expired running).frame rfl
  · obtain ⟨-, ended, -, -⟩ := shape.owed (shape.owing phase)
    exact (valid.until_expired (by simp [sessionExpired, ended])).frame rfl
  · exact valid.until_expired running

theorem tick_fails (shape : Shape s) {past : Nat} (valid : Valid s past) :
    Fails (applyTick s nowMs timing) nowMs ↔ tickClashes s nowMs = true := by
  unfold applyTick
  rcases expire_cases s nowMs timing with
    ⟨waits, same⟩ | ⟨r, active, due, status, settled⟩ | ⟨r, active, -, status, fell⟩
  · rw [same]
    refine iff_of_false (serve_valid shape valid) ?_
    cases request : s.activeRequest with
    | none => simp [tickClashes, request]
    | some r =>
      have waits := waits r request
      simp [tickClashes, request, Nat.not_le.mpr waits]
  · have fresh := (shape.request r active).waking.mp status
    have clash : tickClashes s nowMs = (s.activeSession.isSome && !sessionExpired s nowMs) := by
      simp [tickClashes, active, due, status]
    rw [settled, serve_settled rfl, clash, fails_ok]
    cases lapsed : sessionExpired s nowMs with
    | true =>
      refine iff_of_false (not_not.mpr ?_) (by simp)
      exact fallback_valid _ _ _ _ _ (recoveryTarget_remote (takeActive_recovery valid) _)
    | false =>
      rw [if_neg (by simp), settled_valid shape (valid.until_expired lapsed) active fresh]
      simp [Option.isSome_iff_ne_none]
  rw [fell]
  refine iff_of_false (not_fails_of_valid fun t served => ?_) (by simp [tickClashes, active, status])
  rcases serve_fallback shape.serverRouted shape.counted served with rfl | ⟨-, -, -, rfl⟩
  · exact fallback_valid _ _ _ _ _ (takeActive_recovery valid)
  · exact (fallback_valid _ _ _ _ _ (takeActive_recovery valid)).frame rfl

end Settle

section Commit

variable {s : ProtocolState} {r : EnterRequest} {nowMs : Nat} {timing : ProtocolTiming}

theorem committed_here {requestEpoch e : Nat} (here : r.target = s.serverHost) :
    Valid (commitRequest s r requestEpoch e nowMs timing) nowMs := by
  refine valid_of_local ?_ ?_ ?_ ?_ ?_ <;> simp [here, GrantVerified]

theorem committed_valid {requestEpoch e : Nat} (remote : r.target ≠ s.serverHost)
    (ready : (s.peers.get r.target).any (fun p => p.bundleReady r.lease.peerSessionEpoch) = true)
    (later : nowMs < saturatingAdd nowMs timing.leaseMs) (verified : s.verifiedEpoch = some e) :
    Valid (commitRequest s r requestEpoch e nowMs timing) nowMs ↔
      (s.hasDisplayRoute r.target = true → targetDisplayVerified s r.target e = true) := by
  have opened : (commitRequest s r requestEpoch e nowMs timing).activeSession =
      some (openSession r requestEpoch e nowMs timing) := if_neg remote
  have display : (commitRequest s r requestEpoch e nowMs timing).sessionDisplayVerified
      (openSession r requestEpoch e nowMs timing) = true ↔ targetDisplayVerified s r.target e = true := by
    rw [sessionDisplayVerified_iff]
    exact and_iff_left verified
  constructor
  · intro checked routed
    obtain ⟨a, running, facts⟩ := checked.remote remote
    cases opened.symm.trans running
    exact display.mp (facts.display routed)
  · intro shown
    refine ⟨rfl, by simp, by simp, by simp, fun _ => ?_, by simp⟩
    exact ⟨_, opened, rfl, later, later, ready, fun routed => display.mpr (shown routed)⟩

theorem commit_fails (positive : 0 < timing.leaseMs) (shape : Shape s) (valid : Valid s nowMs)
    {requestId leaseId : String} {requestEpoch grantEpoch leaseEpoch : Nat} :
    Fails (applyCommit s requestId requestEpoch grantEpoch leaseId leaseEpoch nowMs timing) nowMs ↔
      commitClashes s requestId requestEpoch grantEpoch leaseId leaseEpoch nowMs = true := by
  have recorded (p : EnterRequest → Bool) :
      s.requestHistory.any p = (s.requestHistory.reverse.find? p).isSome := by
    rw [Bool.eq_iff_iff, List.find?_isSome, List.any_eq_true]
    simp
  unfold applyCommit commitClashes
  dsimp only
  rw [recorded]
  split
  · rename_i old found
    simp only [found, Option.isSome_some, Bool.not_true, Bool.false_and, Bool.false_eq_true, iff_false]
    split
    · rw [fails_ok, not_not]
      exact valid
    · exact not_fails_error
  rename_i absent
  simp only [absent, Option.isSome_none, Bool.not_false, Bool.true_and]
  split
  · rename_i free
    exact iff_of_false not_fails_error (by simp [free])
  rename_i r active
  simp only [active, Option.any_some]
  split
  · rename_i ungranted
    exact iff_of_false not_fails_error (by simp [ungranted])
  rename_i g granted
  split
  · rename_i stale
    refine iff_of_false not_fails_error ?_
    simp only [granted, Option.any_some, Bool.and_eq_true, beq_iff_eq, decide_eq_true_eq]
    rintro ⟨⟨⟨⟨⟨⟨⟨⟨identity, lease⟩, leaseEpoch⟩, issued⟩, leased⟩, -⟩, -⟩, -⟩, -⟩
    simp [identity, lease, leaseEpoch, issued.1, Nat.not_le.mpr issued.2,
      Nat.not_le.mpr leased] at stale
  rename_i current
  simp only [not_or, not_not, Nat.not_le] at current
  obtain ⟨rfl, rfl, status, rfl, rfl, rfl, fresh, leased⟩ := current
  split
  · rename_i lost
    refine iff_of_false ?_ ?_
    · rw [fails_ok, not_not]
      exact fallback_valid _ _ _ _ _ valid.recoveryRemote
    · have unready := lost.2
      simp only [Bool.not_eq_true'] at unready
      simp [grantable, lost.1, unready]
  rename_i ready
  obtain ⟨g', granted', epoch, verified⟩ := valid.grant r active status
  simp only [epoch, fails_ok]
  by_cases here : r.target = s.serverHost
  · exact iff_of_false (not_not.mpr (committed_here here)) (by simp [here])
  have ready : (s.peers.get r.target).any
      (fun p => p.bundleReady r.lease.peerSessionEpoch) = true := by simpa [here] using ready
  have room := (shape.request r active).inRange g granted
  have later := lt_saturatingAdd positive (Nat.lt_of_lt_of_le fresh room)
  rw [committed_valid here ready later verified]
  simp [granted, status, fresh, leased, here, grantable, ready]

end Commit

section Subscription

variable {s : ProtocolState} {mode : TvMode} {input : Option Host} {nowMs : Nat} {timing : ProtocolTiming}

theorem stored_valid (held : Holdings s) (valid : Valid s nowMs) :
    Valid (storeDisplay s mode input) nowMs ↔ ∀ a, s.activeSession = some a →
      s.hasDisplayRoute a.target = true → mode = .fullscreen ∧ input = some a.target :=
  (valid_iff_shown (n := storeDisplay s mode input) held valid rfl (.inr ⟨rfl, rfl⟩) valid.grant).trans
    (shown_iff_display (valid.shown held) rfl rfl)

theorem accepted_valid {n : ProtocolState} (free : n.activeRequest = none) :
    Valid (acceptManualDisplay n) nowMs := by
  refine valid_of_local ?_ ?_ ?_ ?_ ?_ <;> simp [GrantVerified, free]

theorem subscription_fails (shape : Shape s) (valid : Valid s nowMs) :
    ¬ Valid (applySubscriptionObserved s mode input nowMs timing).next nowMs ↔
      subscriptionClashes s mode input = true := by
  have stored : Valid (storeDisplay s mode input) nowMs ↔ _ := stored_valid shape.toHoldings valid
  have unclashed (other : ¬ VerifiesAgain s mode input) : subscriptionClashes s mode input ≠ true := by
    intro clash
    simp only [subscriptionClashes, Bool.and_eq_true, beq_iff_eq, Option.isNone_iff_eq_none,
      Option.any_eq_true] at clash
    obtain ⟨⟨⟨phase, landed⟩, full⟩, r, active, shown, -⟩ := clash
    exact other ⟨phase, landed, r, active, full, shown⟩
  rcases subscription_cases s mode input nowMs timing with
    ⟨⟨phase, owed⟩ | ⟨phase, landed, r, active, rfl, rfl⟩, result⟩ |
      ⟨other, ⟨reason, result⟩ | ⟨manual, result⟩ | ⟨shown, result | result⟩⟩
  all_goals rw [result]
  · obtain ⟨-, ended, -⟩ := shape.owed owed
    refine iff_of_false (not_not.mpr ?_) (by simp [subscriptionClashes, phase])
    exact (stored.mpr (by simp [ended])).frame rfl
  · have same : Valid (requestObservationPreservingDeadline ⟨storeDisplay s .fullscreen (some r.target), []⟩
        nowMs timing s.switchEpoch).next nowMs ↔ Valid (storeDisplay s .fullscreen (some r.target)) nowMs :=
      ⟨fun checked => checked.frame rfl, fun checked => checked.frame rfl⟩
    rw [same, stored]
    simp [subscriptionClashes, phase, landed, active, Option.any_eq_true]
  · refine iff_of_false (not_not.mpr ?_) (unclashed other)
    exact fallback_valid _ _ _ _ _ valid.recoveryRemote
  · refine iff_of_false (not_not.mpr (accepted_valid ?_)) (unclashed other)
    simp only [manualDisplayObserved, Bool.and_eq_true, Option.isNone_iff_eq_none] at manual
    exact manual.1.2
  · exact iff_of_false (not_not.mpr ((stored.mpr shown).forget (shape.toHoldings.frame rfl)))
      (unclashed other)
  · exact iff_of_false (not_not.mpr (stored.mpr shown)) (unclashed other)

end Subscription

variable {signals : HostMap Bool} {input : Option Host}

section Observation

variable {s n m : ProtocolState} {e nowMs : Nat} {timing : ProtocolTiming}

def ProtocolState.unpictured (s : ProtocolState) :=
  (s.ownerFields, s.manualRecoveryTarget, s.activeRequest, s.verifiedEpoch)

open ProtocolState

theorem unpictured_recovery (valid : Valid s nowMs) (same : n.unpictured = s.unpictured) :
    n.manualRecoveryTarget ≠ some n.serverHost := by
  simp only [unpictured, ownerFields, Prod.mk.injEq] at same
  rw [same.2.1, same.1.1]
  exact valid.recoveryRemote

theorem pictured_valid (held : Holdings s) (valid : Valid s nowMs) (same : n.unpictured = s.unpictured) :
    Valid n nowMs ↔ ∀ a, s.activeSession = some a → s.hasDisplayRoute a.target = true →
      targetDisplayVerified n a.target a.switchEpoch = true := by
  simp only [unpictured, Prod.mk.injEq] at same
  obtain ⟨owners, recovery, request, verified⟩ := same
  have grant : GrantVerified n := by
    rw [GrantVerified, request, verified]
    exact valid.grant
  rw [valid_iff_shown held valid owners (.inr ⟨recovery, request⟩) grant]
  refine forall₃_congr fun a running routed => ?_
  rw [sessionDisplayVerified_iff, verified]
  exact and_iff_left ((valid.shown held).epoch a running routed)

/-- A finished fallback gives the input back, and a grant that is still in hand
carries the epoch that is now the verified one. -/
theorem finished_valid (held : Holdings n) (valid : Valid s nowMs) (same : n.unpictured = s.unpictured)
    (finished : finishFallback n = .ok m) : Valid m nowMs := by
  have known := unpictured_recovery valid same
  simp only [unpictured, Prod.mk.injEq] at same
  obtain ⟨-, recovery, request, -⟩ := same
  obtain ⟨counts, rfl, -⟩ := finishFallback_ok finished
  refine valid_of_local rfl rfl known (fun armed => ⟨?_, rfl⟩) ?_
  · exact request.trans (valid.recoveryQuiet (recovery ▸ armed)).1
  · intro r active status
    obtain ⟨g, granted, epoch, -⟩ := valid.grant r (request ▸ active) status
    have current := (held.request r active).current g.switchEpoch epoch
    exact ⟨g, granted, epoch, congrArg some current.symm⟩

theorem granted_valid (held : Holdings s) (valid : Valid s nowMs) (same : n.unpictured = s.unpictured)
    {r : EnterRequest} (active : s.activeRequest = some r) (epoch : r.switchEpoch = some e)
    (granted : issueGrant n nowMs timing = .ok m) :
    Valid m nowMs ↔ ∀ a, s.activeSession = some a → s.hasDisplayRoute a.target = true →
      targetDisplayVerified n a.target a.switchEpoch = true ∧ a.switchEpoch = e := by
  simp only [unpictured, Prod.mk.injEq] at same
  obtain ⟨owners, recovery, request, -⟩ := same
  obtain ⟨r', e', counts, active', epoch', rfl, -⟩ := issueGrant_ok granted
  cases active.symm.trans (request.symm.trans active')
  cases epoch.symm.trans epoch'
  have unarmed : n.manualRecoveryTarget = none := by
    rw [recovery]
    exact valid.unarmed active
  have verdict := valid_iff_shown (n := setCount (grantIssued n r e nowMs timing) counts) held valid
    owners (.inl unarmed) (by simp [GrantVerified, epoch])
  rw [verdict]
  refine forall₃_congr fun a running routed => ?_
  rw [sessionDisplayVerified_iff]
  refine and_congr_right fun _ => ?_
  simp [eq_comm]

/-- The observation, stored as `n`, leaves the session without its display. -/
def Unshown (s n : ProtocolState) (e nowMs : Nat) : Prop :=
  observationFalls n e nowMs = false ∧
    ¬ ∀ a, s.activeSession = some a → s.hasDisplayRoute a.target = true →
      targetDisplayVerified n a.target a.switchEpoch = true ∧
        (observationGrants n e nowMs = true → a.switchEpoch = e)

theorem observationClashes_iff {mode : TvMode}
    (landed : landObservation (storeObservation s e nowMs mode input signals) e = n) :
    observationClashes s e mode input signals nowMs = true ↔ Unshown s n e nowMs := by
  simp only [observationClashes, Unshown, landed, Bool.and_eq_true, Bool.not_eq_true',
    Option.any_eq_true]
  refine and_congr_right fun _ => ?_
  constructor
  · rintro ⟨a, running, routed, wrong⟩ all
    obtain ⟨shown, same⟩ := all a running routed
    cases grants : observationGrants n e nowMs <;> simp_all
  intro some
  simp only [not_forall] at some
  obtain ⟨a, running, routed, wrong⟩ := some
  cases grants : observationGrants n e nowMs <;> simp_all

theorem unshown_fallen {t : Transition} {reason : String} {b : Bool}
    (falls : observationFalls n e nowMs = true)
    (known : t.next.manualRecoveryTarget ≠ some t.next.serverHost) :
    ¬ Valid (beginFallbackWithRestore t nowMs timing reason b).next nowMs ↔ Unshown s n e nowMs :=
  iff_of_false (not_not.mpr (fallback_valid _ _ _ _ _ known)) fun wrong => by simp [Unshown, falls] at wrong

theorem unshown_kept (held : Holdings s) (valid : Valid s nowMs) (same : n.unpictured = s.unpictured)
    (falls : observationFalls n e nowMs = false) (grants : observationGrants n e nowMs = false)
    (view : m.checkedFields = n.checkedFields) : ¬ Valid m nowMs ↔ Unshown s n e nowMs := by
  have kept : Valid m nowMs ↔ Valid n nowMs :=
    ⟨fun checked => checked.frame view.symm, fun checked => checked.frame view⟩
  rw [kept, pictured_valid held valid same]
  simp [Unshown, falls, grants]

theorem observeRequest_fails (held : Holdings s) (valid : Valid s nowMs)
    (same : n.unpictured = s.unpictured) (counted : ∀ h, (n.switchCount.get h).isSome = true)
    {r : EnterRequest} (active : n.activeRequest = some r) (epoch : r.switchEpoch = some e) :
    Fails (observeRequest n r e nowMs timing) nowMs ↔ Unshown s n e nowMs := by
  have known := unpictured_recovery valid same
  have request : n.activeRequest = s.activeRequest := congrArg (fun f => f.2.2.1) same
  unfold observeRequest
  dsimp only
  split
  · rename_i verified
    have grants : observationGrants n e nowMs = grantable n r nowMs := by
      simp [observationGrants, active, epoch, verified.1, verified.2]
    have falls : observationFalls n e nowMs = !grantable n r nowMs := by
      simp [observationFalls, active, epoch, verified.1, verified.2]
    split
    · rename_i lost
      have barred : grantable n r nowMs = false := by
        simp only [grantable, Bool.or_eq_false_iff, beq_eq_false_iff_ne]
        refine ⟨lost.1, ?_⟩
        rcases lost.2 with unready | expired
        · simp_all
        · simp [Nat.not_lt.mpr expired]
      rw [fails_ok]
      exact unshown_fallen (by simp [falls, barred]) known
    rename_i admitted
    have free : grantable n r nowMs = true := by
      by_cases here : r.target = n.serverHost
      · simp [grantable, here]
      · simp only [ne_eq, here, not_false_eq_true, true_and, not_or, Nat.not_le] at admitted
        simpa [grantable, here] using admitted
    obtain ⟨m, granted⟩ := issueGrant_total counted active epoch nowMs timing
    rw [granted]
    change Fails (.ok ⟨m, []⟩) nowMs ↔ _
    rw [fails_ok, granted_valid held valid same (request ▸ active) epoch granted]
    simp [Unshown, falls, grants, free]
  rename_i other
  have unverified : n.phase = .verifying → targetDisplayVerified n r.target e = false := by
    intro phase
    simpa [phase] using other
  have grants : observationGrants n e nowMs = false := by
    by_cases phase : n.phase = .verifying
    · simp [observationGrants, active, unverified phase]
    · simp [observationGrants, active, phase]
  have falls : observationFalls n e nowMs =
      (n.phase == .grantPending && !targetDisplayVerified n r.target e) := by
    cases shown : targetDisplayVerified n r.target e with
    | false => simp [observationFalls, active, epoch, shown]
    | true =>
      have phase : n.phase ≠ .verifying := fun phase => by simp [unverified phase] at shown
      simp [observationFalls, active, epoch, shown, phase]
  split
  · rename_i lost
    rw [fails_ok]
    exact unshown_fallen (by simpa [falls, lost.1] using lost.2) known
  · rename_i stays
    rw [fails_ok]
    exact unshown_kept held valid same (by simpa [falls] using stays) grants rfl

theorem observeSession_fails (held : Holdings s) (valid : Valid s nowMs)
    (same : n.unpictured = s.unpictured) (free : n.activeRequest = none) (owned : n.phase = .remoteOwned) :
    ¬ Valid (observeSession n e nowMs timing).next nowMs ↔ Unshown s n e nowMs := by
  have known := unpictured_recovery valid same
  have grants : observationGrants n e nowMs = false := by simp [observationGrants, free]
  have falls : observationFalls n e nowMs = n.activeSession.any fun a =>
      a.switchEpoch == e && !targetDisplayVerified n a.target e := by
    simp [observationFalls, free, owned]
  unfold observeSession
  split
  · rename_i ended
    exact unshown_kept held valid same (by simp [falls, ended]) grants rfl
  rename_i a running
  split
  · rename_i lost
    exact unshown_fallen (by simpa [falls, running] using lost) (recoveryTarget_remote known _)
  · rename_i stays
    exact unshown_kept held valid same (by simpa [falls, running] using stays) grants rfl

theorem multiview_fails (held : Holdings s) (valid : Valid s nowMs)
    (same : n.unpictured = s.unpictured) (free : n.activeRequest = none)
    (changing : n.phase = .multiviewChanging) :
    ¬ Valid (completeMultiviewObservation ⟨n, []⟩ nowMs timing).next nowMs ↔ Unshown s n e nowMs := by
  have known := unpictured_recovery valid same
  have grants : observationGrants n e nowMs = false := by simp [observationGrants, free]
  have falls : observationFalls n e nowMs =
      n.pendingMultiview.any fun enabled => !(enabled && n.tvMode == .multiview) := by
    simp [observationFalls, free, changing]
  rcases completeMultiview_cases ⟨n, []⟩ nowMs timing with
    ⟨settled, done⟩ | ⟨pending, shown, done⟩ | ⟨enabled, reason, pending, other, done⟩
  all_goals
    dsimp only at *
    rw [done]
  · exact unshown_kept held valid same (by simp [falls, settled]) grants rfl
  · exact unshown_kept held valid same (by simp [falls, pending, shown]) grants rfl
  · exact unshown_fallen (by rw [falls, pending, Option.any_some, other, Bool.not_false]) known

theorem observation_fails (shape : Shape s) (valid : Valid s nowMs) {mode : TvMode} :
    Fails (applyObservation s e mode input signals nowMs timing) nowMs ↔
      observationClashes s e mode input signals nowMs = true := by
  generalize landed : landObservation (storeObservation s e nowMs mode input signals) e = n
  have held : Holdings n := landed ▸ shape.toHoldings.frame rfl
  have same : n.unpictured = s.unpictured := landed ▸ rfl
  have fallback : n.fallbackRequired = s.fallbackRequired := landed ▸ rfl
  rw [observationClashes_iff landed, applyObservation, landed]
  split
  · rename_i owed
    obtain ⟨free, ended, -⟩ := shape.owed (fallback ▸ owed.1)
    refine iff_of_false (not_fails_of_valid fun t handled => ?_) (by simp [Unshown, ended])
    split at handled
    · obtain ⟨m, finished, done⟩ := bind_ok.mp handled
      cases done
      exact finished_valid held valid same finished
    · cases handled
      exact ((pictured_valid shape.toHoldings valid same).mpr (by simp [ended])).frame rfl
  split
  · rename_i r active
    split
    · rename_i other
      rw [fails_ok]
      exact unshown_kept shape.toHoldings valid same (by simp [observationFalls, active, other])
        (by simp [observationGrants, active, other]) rfl
    · rename_i epoch
      exact observeRequest_fails shape.toHoldings valid same held.counted active (not_not.mp epoch)
  rename_i free
  split
  · rename_i owned
    rw [fails_ok]
    exact observeSession_fails shape.toHoldings valid same free owned
  rename_i elsewhere
  split
  · rename_i changing
    rw [fails_ok]
    exact multiview_fails shape.toHoldings valid same free changing
  · rename_i idle
    rw [fails_ok]
    exact unshown_kept shape.toHoldings valid same
      (by simp [observationFalls, free, elsewhere, idle]) (by simp [observationGrants, free]) rfl

end Observation

section Others

variable {s : ProtocolState} {nowMs : Nat} {timing : ProtocolTiming}

theorem synchronized_valid (shape : Shape s) (valid : Valid s nowMs) {mode : TvMode} :
    ¬ Fails (applyTransportSynchronized s mode input signals nowMs timing) nowMs := by
  refine not_fails_of_valid fun t handled => ?_
  rcases synchronized_cases handled with ⟨-, m, finished, rfl⟩ | ⟨manual, rfl⟩ | rfl
  · exact finished_valid (n := storeObservation (linkUp s) s.switchEpoch nowMs mode input signals)
      (shape.toHoldings.frame rfl) valid rfl finished
  · exact accepted_valid (manualDisplayObserved_idle manual).1
  · exact fallback_valid _ _ _ _ _ valid.recoveryRemote

theorem arm_valid (valid : Valid s nowMs) {target : Host} :
    ¬ Fails (applyArmManualRecovery s target) nowMs := by
  refine not_fails_of_valid fun t handled => ?_
  obtain ⟨remote, free, ended, rfl⟩ := arm_ok handled
  exact (valid_iff_ended (n := setRecoveryTarget s (some target)) valid rfl rfl remote free).mpr ended

/-- A renewal moves the end of a session that is still running, so there is time
left for the new one. -/
theorem renew_valid (positive : 0 < timing.leaseMs) (shape : Shape s) (valid : Valid s nowMs)
    {requestId leaseId : String} {leaseEpoch peerSessionEpoch : Nat} :
    ¬ Fails (applyRenew s requestId leaseId leaseEpoch peerSessionEpoch nowMs timing) nowMs := by
  refine not_fails_of_valid fun t handled => ?_
  rcases renew_cases handled with rfl | ⟨a, running, rfl⟩
  · exact fallback_valid _ _ _ _ _ (recoveryTarget_remote valid.recoveryRemote _)
  have owner := shape.session a running
  have later : nowMs < saturatingAdd nowMs timing.leaseMs := by
    obtain ⟨a', running', facts⟩ := valid.remote (by rw [owner.keyboard]; exact owner.remote)
    cases running.symm.trans running'
    exact lt_saturatingAdd positive (Nat.lt_of_lt_of_le facts.renewed owner.inRange)
  exact (renewed_valid_iff shape.toHoldings valid running).mpr later

section

variable (valid : Valid s nowMs)
include valid

theorem multiviewRequested_valid {enabled : Bool} :
    ¬ Fails (applyMultiViewRequested s enabled nowMs timing) nowMs := by
  refine not_fails_of_valid fun t handled => ?_
  obtain ⟨-, -, -, rfl⟩ := multiviewRequested_ok handled
  exact valid.frame rfl

theorem acknowledged_valid {e : Nat} {target : Host} {t : Transition}
    (handled : applyCommandAcknowledged s e target nowMs timing = .check t) : Valid t.next nowMs := by
  unfold applyCommandAcknowledged at handled
  split at handled
  · contradiction
  · split at handled <;> cases handled
    · exact valid.frame rfl
    · exact valid

theorem commandFailed_valid {e : Nat} {reason : String} :
    Valid (applyCommandFailed s e reason nowMs timing).next nowMs := by
  unfold applyCommandFailed
  split
  · exact fallback_valid _ _ _ _ _ valid.recoveryRemote
  · exact valid

theorem multiviewAcknowledged_valid {e : Nat} {enabled : Bool} :
    Valid (applyMultiViewAcknowledged s e enabled nowMs timing).next nowMs := by
  unfold applyMultiViewAcknowledged
  split
  · exact valid.frame rfl
  · exact valid

end

end Others

/-- In a state that is still valid, the check refuses exactly the events that
clash with the running session. -/
theorem refused_iff_clashes {s : ProtocolState} {event : Event} {nowMs : Nat} {timing : ProtocolTiming}
    (positive : 0 < timing.leaseMs) (shape : Shape s) (valid : Valid s nowMs) :
    RefusedByCheck s event nowMs timing ↔ clashes s event nowMs = true := by
  have quiet {P : Prop} (unrefused : ¬ P) : P ↔ false = true := iff_of_false unrefused (by simp)
  rw [refusedByCheck_iff]
  cases event with
  | transportConnecting | transportRegistering | transportSubscribed =>
    exact quiet (fails_check.not.mpr (not_not.mpr (valid.frame rfl)))
  | transportSynchronized => exact quiet (fails_map.not.mpr (synchronized_valid shape valid))
  | transportDisconnected reason =>
    have fell := fallback_valid ⟨linkDown s reason, []⟩ nowMs timing reason
      (displayRestoreRequired (linkDown s reason)) valid.recoveryRemote
    exact quiet (fails_check.not.mpr (not_not.mpr fell))
  | peerReadinessUpdated => exact fails_map.trans (readiness_fails shape valid)
  | armManualRecovery => exact quiet (fails_map.not.mpr (arm_valid valid))
  | createEnter => exact enter_fails shape.toHoldings valid
  | commandAcknowledged =>
    refine quiet ?_
    rintro ⟨t, handled, invalid⟩
    exact invalid (acknowledged_valid valid (Except.ok.inj handled))
  | commandFailed => exact quiet (fails_check.not.mpr (not_not.mpr (commandFailed_valid valid)))
  | observation => exact fails_map.trans (observation_fails shape valid)
  | commit => exact fails_map.trans (commit_fails positive shape valid)
  | cancel => exact fails_map.trans (cancel_fails shape valid)
  | renew => exact quiet (fails_map.not.mpr (renew_valid positive shape valid))
  | multiViewRequested => exact quiet (fails_map.not.mpr (multiviewRequested_valid valid))
  | multiViewAcknowledged =>
    exact quiet (fails_check.not.mpr (not_not.mpr (multiviewAcknowledged_valid valid)))
  | subscriptionObserved => exact fails_check.trans (subscription_fails shape valid)
  | tick => exact fails_map.trans (tick_fails shape valid)
  | shutdown => exact quiet (fails_check.not.mpr (not_not.mpr (shutdown_valid valid)))

/-- No event is refused by the final check in a reachable state whose deadlines
are served, unless it clashes with the running session. -/
theorem no_refusal_iff {timing : ProtocolTiming} {c : Clocked} (reachable : Reachable timing c)
    (positive : timing.Positive) {event : Event} {nowMs : Nat}
    (served : event = .tick ∨ dueAt c.state.nextDeadlineMs nowMs = false) :
    ¬ RefusedByCheck c.state event nowMs timing ↔ clashes c.state event nowMs = false := by
  obtain ⟨shape, past, -, valid⟩ := reachable.sound
  rw [← Bool.not_eq_true]
  refine not_congr ?_
  rcases served with rfl | waiting
  · rw [refusedByCheck_iff]
    exact fails_map.trans (tick_fails shape valid)
  · rw [nextDeadline_due] at waiting
    simp only [Bool.or_eq_false_iff] at waiting
    exact refused_iff_clashes positive.lease shape (valid.until_expired waiting.2)

/-- While the host on the right owns the input, a wake-up of the other one may begin. -/
theorem wake_beside_session_unrefused : ∃ c, Reachable sampleTiming c ∧
    dueAt c.state.nextDeadlineMs 50 = false ∧
    ¬ RefusedByCheck c.state (.createEnter "r2" "user" .left ⟨"other", 1, 12, 1000⟩) 50 sampleTiming := by
  obtain ⟨c, reachable, waiting, fits⟩ := play_reachable Host.all takeRight
    (fun c => dueAt c.state.nextDeadlineMs 50 = false ∧
      clashes c.state (.createEnter "r2" "user" .left ⟨"other", 1, 12, 1000⟩) 50 = false) (by decide)
  have positive : sampleTiming.Positive := by constructor <;> decide
  exact ⟨c, reachable, waiting, (no_refusal_iff reachable positive (.inr waiting)).mpr fits⟩

/-- The wake-up cannot be cancelled: putting the request away arms the recovery
target beside the running session, which the check refuses. -/
theorem cancelled_wake_refused : ∃ c, Reachable sampleTiming c ∧ c.clock ≤ 51 ∧
    dueAt c.state.nextDeadlineMs 51 = false ∧
    RefusedByCheck c.state (.cancel "r2" "user left") 51 sampleTiming := by
  obtain ⟨c, reachable, past, waiting, refused⟩ := play_reachable Host.all
    (takeRight ++ [(.createEnter "r2" "user" .left ⟨"other", 1, 12, 1000⟩, 50)])
    (fun c => c.clock ≤ 51 ∧ dueAt c.state.nextDeadlineMs 51 = false ∧
      apply c.state (.cancel "r2" "user left") 51 sampleTiming = .error (.refused (.invariant
        "manual recovery cannot be armed while an input transaction is active"))) (by decide)
  exact ⟨c, reachable, past, waiting, _, refused⟩

end DisplayMux.Tv
