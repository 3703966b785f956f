import DisplayMux.Tv.Validate

/-! One specification for each helper of the reducer. -/
namespace DisplayMux.Tv

variable {s n : ProtocolState}

theorem recordVerifiedSwitch_ok {target : Host} (h : recordVerifiedSwitch s target = .ok n) :
    ∃ counts, n = setCount s counts ∧
      ∀ k, (s.switchCount.get k).isSome → (counts.get k).isSome := by
  unfold recordVerifiedSwitch at h
  split at h
  · cases h
    exact ⟨s.switchCount, rfl, fun _ => id⟩
  split at h
  · contradiction
  cases h
  refine ⟨_, rfl, fun k counted => ?_⟩
  rw [HostMap.get_insert]
  split
  · rfl
  · exact counted

theorem finishFallback_ok (h : finishFallback s = .ok n) :
    ∃ counts, n = setCount (fallbackFinished s) counts ∧
      ∀ k, (s.switchCount.get k).isSome → (counts.get k).isSome :=
  recordVerifiedSwitch_ok h

theorem issueGrant_ok {nowMs : Nat} {timing : ProtocolTiming} (h : issueGrant s nowMs timing = .ok n) :
    ∃ r e counts, s.activeRequest = some r ∧ r.switchEpoch = some e ∧
      n = setCount (grantIssued s r e nowMs timing) counts ∧
      ∀ k, (s.switchCount.get k).isSome → (counts.get k).isSome := by
  unfold issueGrant at h
  split at h
  · contradiction
  rename_i r active
  split at h
  · contradiction
  · rename_i e epoch
    obtain ⟨counts, rfl, counted⟩ := recordVerifiedSwitch_ok h
    exact ⟨r, e, counts, active, epoch, rfl, counted⟩

theorem beginSwitch_ok {t t' : Transition} {nowMs : Nat} {timing : ProtocolTiming}
    (h : beginSwitch t nowMs timing = .ok t') :
    ∃ r, t.next.activeRequest = some r ∧
      ((t.next.hasDisplayRoute r.target = true ∧
          t' = ⟨switchCommanded (switchStarted t.next r nowMs timing) r.target nowMs timing,
            t.effects ++ [.setInput r.target (saturatingAdd t.next.switchEpoch 1) false]⟩) ∨
        (t.next.hasDisplayRoute r.target = false ∧ ∃ counts,
          t' = ⟨setCount (grantIssued (switchUncommanded (switchStarted t.next r nowMs timing))
            (switchRequest r (saturatingAdd t.next.switchEpoch 1) nowMs timing)
            (saturatingAdd t.next.switchEpoch 1) nowMs timing) counts, t.effects⟩ ∧
          ∀ k, (t.next.switchCount.get k).isSome → (counts.get k).isSome)) := by
  unfold beginSwitch at h
  split at h
  · contradiction
  rename_i r active
  refine ⟨r, active, ?_⟩
  have route : (switchStarted t.next r nowMs timing).hasDisplayRoute r.target =
    t.next.hasDisplayRoute r.target := rfl
  simp only [route] at h
  split at h
  · rename_i unrouted
    obtain ⟨n, granted, done⟩ := bind_ok.mp h
    cases done
    obtain ⟨r', e, counts, active', epoch, rfl, counted⟩ := issueGrant_ok granted
    obtain rfl : switchRequest r _ nowMs timing = r' := Option.some.inj active'
    obtain rfl : saturatingAdd t.next.switchEpoch 1 = e := Option.some.inj epoch
    exact .inr ⟨by simpa using unrouted, counts, rfl, counted⟩
  · rename_i routed
    exact .inl ⟨by simpa using routed, (Except.ok.inj h).symm⟩

section Fallback

variable (t : Transition) (nowMs : Nat) (timing : ProtocolTiming) (reason : String) (b : Bool)

@[simp] theorem fallback_frame :
    (beginFallbackWithRestore t nowMs timing reason b).next.serverHost = t.next.serverHost ∧
    (beginFallbackWithRestore t nowMs timing reason b).next.displayHosts = t.next.displayHosts ∧
    (beginFallbackWithRestore t nowMs timing reason b).next.wsState = t.next.wsState ∧
    (beginFallbackWithRestore t nowMs timing reason b).next.subscribeActive =
      t.next.subscribeActive ∧
    (beginFallbackWithRestore t nowMs timing reason b).next.synchronized = t.next.synchronized ∧
    (beginFallbackWithRestore t nowMs timing reason b).next.switchCount = t.next.switchCount := by
  unfold beginFallbackWithRestore
  dsimp only
  split
  · simp
  · split <;> simp

@[simp] theorem fallback_local :
    (beginFallbackWithRestore t nowMs timing reason b).next.keyboardOwner = t.next.serverHost ∧
    (beginFallbackWithRestore t nowMs timing reason b).next.pointerOwner = t.next.serverHost ∧
    (beginFallbackWithRestore t nowMs timing reason b).next.activeSession = none ∧
    (beginFallbackWithRestore t nowMs timing reason b).next.activeRequest = none ∧
    (beginFallbackWithRestore t nowMs timing reason b).next.fallbackRequired = b ∧
    (beginFallbackWithRestore t nowMs timing reason b).next.pendingMultiview = none ∧
    (beginFallbackWithRestore t nowMs timing reason b).next.observationInFlight = none ∧
    (beginFallbackWithRestore t nowMs timing reason b).next.nextSignalPollMs = none ∧
    (beginFallbackWithRestore t nowMs timing reason b).next.verifiedEpoch = none ∧
    (beginFallbackWithRestore t nowMs timing reason b).next.manualRecoveryTarget =
      recoveryTarget t.next (t.next.activeRequest.map (·.target)) := by
  unfold beginFallbackWithRestore
  dsimp only
  split
  · simp
  · split <;> simp

@[simp] theorem fallback_books :
    (beginFallbackWithRestore t nowMs timing reason b).next.requestEpoch = t.next.requestEpoch ∧
    (beginFallbackWithRestore t nowMs timing reason b).next.grantEpoch = t.next.grantEpoch ∧
    (beginFallbackWithRestore t nowMs timing reason b).next.retainedRequestLimit =
      t.next.retainedRequestLimit ∧
    (beginFallbackWithRestore t nowMs timing reason b).next.requestHistory =
      fallenHistory t.next reason := by
  unfold beginFallbackWithRestore
  dsimp only
  split
  · simp
  · split <;> simp

@[simp] theorem fallback_healthy :
    (beginFallbackWithRestore t nowMs timing reason b).next.daemonHealthy =
      t.next.daemonHealthy := by
  simp [ProtocolState.daemonHealthy]

@[simp] theorem fallback_route (h : Host) :
    (beginFallbackWithRestore t nowMs timing reason b).next.hasDisplayRoute h =
      t.next.hasDisplayRoute h := by
  simp [ProtocolState.hasDisplayRoute]

theorem fallback_cases :
    let t' := beginFallbackWithRestore t nowMs timing reason b
    (b = true ∧ t.next.daemonHealthy = true ∧ t'.next.phase = .fallbackCommandPending ∧
      t'.next.phaseDeadlineMs = some (saturatingAdd nowMs timing.commandMs) ∧
      t'.next.switchEpoch = saturatingAdd t.next.switchEpoch 1 ∧
      t'.effects = t.effects ++ [.setInput t.next.serverHost t'.next.switchEpoch true]) ∨
    (t.next.daemonHealthy = false ∧ t'.next.phase = .fallbackDeferred ∧
      t'.next.phaseDeadlineMs = none ∧ t'.next.switchEpoch = t.next.switchEpoch ∧
      t'.effects = t.effects) ∨
    (b = false ∧ t.next.daemonHealthy = true ∧ t'.next.phase = .idle ∧
      t'.next.phaseDeadlineMs = none ∧ t'.next.switchEpoch = t.next.switchEpoch ∧
      t'.effects = t.effects) := by
  have healthy : (fallbackReleased t.next reason b).daemonHealthy = t.next.daemonHealthy := rfl
  simp only [beginFallbackWithRestore, healthy]
  cases b <;> cases t.next.daemonHealthy <;> simp

theorem fallback_phase :
    (beginFallbackWithRestore t nowMs timing reason b).next.phase = .fallbackCommandPending ∨
    (beginFallbackWithRestore t nowMs timing reason b).next.phase = .fallbackDeferred ∨
    (beginFallbackWithRestore t nowMs timing reason b).next.phase = .idle := by
  rcases fallback_cases t nowMs timing reason b with
    ⟨-, -, phase, -⟩ | ⟨-, phase, -⟩ | ⟨-, -, phase, -⟩
  · exact .inl phase
  · exact .inr (.inl phase)
  · exact .inr (.inr phase)

theorem fallback_unchanging :
    (beginFallbackWithRestore t nowMs timing reason b).next.phase ≠ .multiviewChanging := by
  rcases fallback_phase t nowMs timing reason b with phase | phase | phase <;> simp [phase]

theorem recoveryTarget_remote {s : ProtocolState} (known : s.manualRecoveryTarget ≠ some s.serverHost)
    (target : Option Host) : recoveryTarget s target ≠ some s.serverHost := by
  intro h
  rcases Option.or_eq_some_iff.mp h with found | ⟨-, kept⟩
  · simp [Option.filter_eq_some_iff] at found
  · exact known kept

theorem fallback_valid (known : t.next.manualRecoveryTarget ≠ some t.next.serverHost) :
    Valid (beginFallbackWithRestore t nowMs timing reason b).next nowMs := by
  have remote := recoveryTarget_remote known (t.next.activeRequest.map (·.target))
  constructor <;> simp [remote]

end Fallback

section Handlers

variable {s : ProtocolState} {t : Transition} {nowMs : Nat} {timing : ProtocolTiming}

theorem manualDisplayObserved_idle (manual : manualDisplayObserved s = true) :
    s.activeRequest = none ∧ s.activeSession = none := by
  simp only [manualDisplayObserved, Bool.and_eq_true, Option.isNone_iff_eq_none] at manual
  exact ⟨manual.1.2, manual.2⟩

theorem synchronized_cases {mode : TvMode} {input : Option Host} {signals : HostMap Bool}
    (h : applyTransportSynchronized s mode input signals nowMs timing = .ok t) :
    let n := storeObservation (linkUp s) s.switchEpoch nowMs mode input signals
    (serverDisplayVerified n s.switchEpoch = true ∧ ∃ m, finishFallback n = .ok m ∧ t = ⟨m, []⟩) ∨
    (manualDisplayObserved n = true ∧ t = ⟨acceptManualDisplay n, []⟩) ∨
    t = beginFallback ⟨n, []⟩ nowMs timing "startup_or_reconnect_resync" := by
  unfold applyTransportSynchronized at h
  dsimp only at h ⊢
  split at h
  · rename_i shown
    obtain ⟨m, finished, done⟩ := bind_ok.mp h
    cases done
    exact .inl ⟨shown, m, finished, rfl⟩
  · split at h <;> cases h
    · rename_i manual
      exact .inr (.inl ⟨manual, rfl⟩)
    · exact .inr (.inr rfl)

theorem arm_ok {target : Host} (h : applyArmManualRecovery s target = .ok t) :
    target ≠ s.serverHost ∧ s.activeRequest = none ∧ s.activeSession = none ∧
      t = ⟨setRecoveryTarget s (some target), []⟩ := by
  unfold applyArmManualRecovery at h
  split at h
  · cases h
  rename_i remote
  split at h <;> cases h
  rename_i idle
  simp only [not_or, Option.not_isSome_iff_eq_none] at idle
  obtain ⟨-, -, -, -, free, ended, -⟩ := idle
  exact ⟨remote, free, ended, rfl⟩

theorem admitEnter_cases {r : EnterRequest} (h : admitEnter s r nowMs timing = .ok t) :
    (r.target = s.serverHost ∧
      beginSwitch ⟨setRequest (releaseToServer s) r, []⟩ nowMs timing = .ok t) ∨
    (r.target ≠ s.serverHost ∧ ((s.peers.get r.target).getD {}).online = false ∧
      t = ⟨startWaking s r nowMs timing, [.wake r.target r.requestEpoch]⟩) ∨
    (r.target ≠ s.serverHost ∧ t = ⟨(setRecoveryTarget s (some r.target)).archiveRequest
      { r with status := .denied, reason := some "target_input_not_ready" }, []⟩) ∨
    (((s.peers.get r.target).getD {}).bundleReady r.lease.peerSessionEpoch = true ∧
      beginSwitch ⟨setRequest s r, []⟩ nowMs timing = .ok t) := by
  unfold admitEnter at h
  split at h
  · rename_i here
    exact .inl ⟨here, h⟩
  rename_i remote
  dsimp only at h
  split at h
  · rename_i offline
    cases h
    exact .inr (.inl ⟨remote, by simpa using offline, rfl⟩)
  split at h
  · cases h
    exact .inr (.inr (.inl ⟨remote, rfl⟩))
  · rename_i ready
    exact .inr (.inr (.inr ⟨by simpa using ready, h⟩))

theorem createEnter_cases {requestId clientId : String} {target : Host} {lease : LeaseIdentity}
    {draft : Draft} (h : applyCreateEnter s requestId clientId target lease nowMs timing = .ok draft) :
    draft = .unchecked ⟨s, []⟩ ∨
    (s.request requestId = none ∧ s.activeRequest = none ∧ s.ready = true ∧
      lease.leaseId.isEmpty = false ∧ nowMs < lease.expiresAtMs ∧ ∃ t, draft = .check t ∧
      admitEnter (openRequestEpoch s)
        ⟨requestId, clientId, target, saturatingAdd s.requestEpoch 1, lease, .switching, none, none,
          saturatingAdd nowMs timing.commandMs, none⟩ nowMs timing = .ok t) := by
  unfold applyCreateEnter at h
  split at h
  · split at h <;> cases h
    exact .inl rfl
  rename_i unknown
  split at h
  · cases h
  rename_i free
  split at h
  · cases h
  rename_i ready
  split at h
  · cases h
  · rename_i leased
    simp only [not_or, Bool.not_eq_true, Nat.not_le] at leased
    obtain ⟨t, admitted, rfl⟩ := map_ok.mp h
    exact .inr ⟨unknown, free, by simpa using ready, leased.1, leased.2, t, rfl, admitted⟩

theorem completeMultiview_cases (t : Transition) (nowMs : Nat) (timing : ProtocolTiming) :
    (t.next.pendingMultiview = none ∧ completeMultiviewObservation t nowMs timing = t) ∨
    (t.next.pendingMultiview = some true ∧ t.next.tvMode = .multiview ∧
      completeMultiviewObservation t nowMs timing = ⟨multiviewCompleted t.next, t.effects⟩) ∨
    (∃ enabled reason, t.next.pendingMultiview = some enabled ∧
      (enabled && t.next.tvMode == .multiview) = false ∧
      completeMultiviewObservation t nowMs timing = beginFallback t nowMs timing reason) := by
  unfold completeMultiviewObservation
  cases pending : t.next.pendingMultiview with
  | none => exact .inl ⟨rfl, rfl⟩
  | some enabled =>
    cases enabled with
    | false =>
      refine .inr (.inr ?_)
      by_cases shown : t.next.tvMode = .fullscreen
      · exact ⟨false, "multiview_exit_server_verify", rfl, rfl, by simp [shown]⟩
      · exact ⟨false, "multiview_observation_mismatch", rfl, rfl, by simp [shown]⟩
    | true =>
      by_cases shown : t.next.tvMode = .multiview
      · exact .inr (.inl ⟨rfl, shown, by simp [shown]⟩)
      · refine .inr (.inr ⟨true, "multiview_observation_mismatch", rfl, ?_, by simp [shown]⟩)
        simpa using shown

theorem observation_cases {e : Nat} {mode : TvMode} {input : Option Host} {signals : HostMap Bool}
    (h : applyObservation s e mode input signals nowMs timing = .ok t) :
    let n := landObservation (storeObservation s e nowMs mode input signals) e
    (s.fallbackRequired = true ∧ s.switchEpoch = e ∧
      ((serverDisplayVerified n e = true ∧ ∃ m, finishFallback n = .ok m ∧ t = ⟨m, []⟩) ∨
        t = ⟨setPhase n .fallbackVerifying, []⟩)) ∨
    (∃ r, s.activeRequest = some r ∧
      ((r.switchEpoch ≠ some e ∧ t = ⟨n, []⟩) ∨
        (r.switchEpoch = some e ∧ observeRequest n r e nowMs timing = .ok t))) ∨
    (s.activeRequest = none ∧
      ((s.phase = .remoteOwned ∧ t = observeSession n e nowMs timing) ∨
        (s.phase = .multiviewChanging ∧ t = completeMultiviewObservation ⟨n, []⟩ nowMs timing) ∨
        (s.phase ≠ .remoteOwned ∧ s.phase ≠ .multiviewChanging ∧ t = ⟨n, []⟩))) := by
  unfold applyObservation at h
  dsimp only at h ⊢
  split at h
  · rename_i owed
    refine .inl ⟨owed.1, owed.2, ?_⟩
    split at h
    · rename_i verified
      obtain ⟨m, finished, done⟩ := bind_ok.mp h
      cases done
      exact .inl ⟨verified, m, finished, rfl⟩
    · cases h
      exact .inr rfl
  split at h
  · rename_i r active
    refine .inr (.inl ⟨r, active, ?_⟩)
    split at h
    · rename_i other
      cases h
      exact .inl ⟨other, rfl⟩
    · rename_i current
      exact .inr ⟨not_not.mp current, h⟩
  rename_i free
  refine .inr (.inr ⟨free, ?_⟩)
  split at h
  · rename_i owned
    cases h
    exact .inl ⟨owned, rfl⟩
  rename_i unowned
  split at h <;> cases h
  · rename_i changing
    exact .inr (.inl ⟨changing, rfl⟩)
  · rename_i settled
    exact .inr (.inr ⟨unowned, settled, rfl⟩)

/-- A commit of the granted request gives up when its target is no longer ready, and opens
the session otherwise; one that was committed already changes nothing. -/
theorem commit_cases {requestId leaseId : String} {requestEpoch grantEpoch leaseEpoch : Nat}
    (h : applyCommit s requestId requestEpoch grantEpoch leaseId leaseEpoch nowMs timing = .ok t) :
    t = ⟨s, []⟩ ∨ ∃ r g, s.activeRequest = some r ∧ r.grant = some g ∧ r.status = .grant ∧
      (r.requestId = requestId ∧ r.requestEpoch = requestEpoch ∧ r.lease.leaseId = leaseId ∧
        r.lease.leaseEpoch = leaseEpoch ∧ g.grantEpoch = grantEpoch) ∧
      nowMs < g.expiresAtMs ∧ nowMs < r.lease.expiresAtMs ∧
      (t = beginFallback ⟨s, []⟩ nowMs timing "readiness_lost_before_commit" ∨
        ((r.target ≠ s.serverHost →
            (s.peers.get r.target).any (fun p => p.bundleReady r.lease.peerSessionEpoch) = true) ∧
          ∃ e, r.switchEpoch = some e ∧ t = ⟨commitRequest s r requestEpoch e nowMs timing, []⟩)) := by
  unfold applyCommit at h
  dsimp only at h
  split at h
  · split at h <;> cases h
    exact .inl rfl
  split at h
  · cases h
  rename_i r active
  split at h
  · cases h
  rename_i g granted
  split at h
  · cases h
  rename_i identity
  simp only [not_or, not_not, Nat.not_le] at identity
  obtain ⟨id, epoch, status, lease, leaseEpoch, grant, fresh, leased⟩ := identity
  refine .inr ⟨r, g, active, granted, status, ⟨id, epoch, lease, leaseEpoch, grant⟩, fresh,
    leased, ?_⟩
  split at h
  · cases h
    exact .inl rfl
  rename_i ready
  split at h
  · cases h
  rename_i e switched
  cases h
  refine .inr ⟨fun remote => ?_, e, switched, rfl⟩
  by_contra unready
  exact ready ⟨remote, by simpa using unready⟩

theorem cancel_cases {requestId reason : String}
    (h : applyCancel s requestId reason nowMs timing = .ok t) :
    t = ⟨s, []⟩ ∨
    (∃ a, s.activeSession = some a ∧ a.requestId = requestId ∧
      t = beginFallback ⟨cancelCommitted s requestId reason, []⟩ nowMs timing reason) ∨
    (s.activeSession.any (fun a => a.requestId == requestId) = false ∧
      ∃ r, s.activeRequest = some r ∧ t = cancelActive s r reason nowMs timing) := by
  unfold applyCancel at h
  split at h
  · cases h
    exact .inl rfl
  split at h
  · rename_i named
    obtain ⟨a, running, same⟩ := Option.any_eq_true _ _ |>.mp named
    split at h <;> cases h
    exact .inr (.inl ⟨a, running, by simpa using same, rfl⟩)
  rename_i unnamed
  split at h
  · cases h
  · rename_i r active
    split at h <;> cases h
    exact .inr (.inr ⟨by simpa using unnamed, r, active, rfl⟩)

theorem cancelActive_cases (s : ProtocolState) (r : EnterRequest) (reason : String) (nowMs : Nat)
    (timing : ProtocolTiming) :
    let n := (takeActive s r).archiveRequest { r with status := .cancelled, reason := some reason }
    (r.switchEpoch.isSome = true ∧
      cancelActive s r reason nowMs timing = beginFallback ⟨n, []⟩ nowMs timing reason) ∨
    (r.switchEpoch = none ∧ cancelActive s r reason nowMs timing = ⟨settleIdle n, []⟩) := by
  unfold cancelActive
  split
  · rename_i switched
    exact .inl ⟨switched, rfl⟩
  · rename_i unswitched
    exact .inr ⟨by simpa using unswitched, rfl⟩

theorem renew_cases {requestId leaseId : String} {leaseEpoch peerSessionEpoch : Nat}
    (h : applyRenew s requestId leaseId leaseEpoch peerSessionEpoch nowMs timing = .ok t) :
    t = beginActiveSessionFailureFallback ⟨s, []⟩ nowMs timing "lease_renewal_rejected" ∨
    ∃ a, s.activeSession = some a ∧ t = ⟨setSession s (renewedSession a nowMs timing), []⟩ := by
  unfold applyRenew at h
  split at h
  · cases h
    exact .inl rfl
  · split at h <;> cases h
    rename_i a running
    exact .inr ⟨a, running, rfl⟩

theorem multiviewRequested_ok {enabled : Bool}
    (h : applyMultiViewRequested s enabled nowMs timing = .ok t) :
    s.ready = true ∧ s.keyboardOwner = s.serverHost ∧ s.activeRequest = none ∧
      t = ⟨changeMultiview s enabled nowMs timing,
        [.setMultiView enabled (saturatingAdd s.switchEpoch 1)]⟩ := by
  unfold applyMultiViewRequested at h
  split at h
  · cases h
  rename_i ready
  split at h
  · cases h
  rename_i here
  split at h <;> cases h
  rename_i busy
  simp only [not_or, not_not, Option.not_isSome_iff_eq_none] at here busy
  exact ⟨by simpa using ready, here.1, busy.1, rfl⟩

end Handlers

end DisplayMux.Tv
