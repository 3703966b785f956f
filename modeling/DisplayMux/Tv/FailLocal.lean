import DisplayMux.Tv.Check
import DisplayMux.Tv.Quiet

/-! The exits of the daemon: the events after which the input is local again
whatever the state was, and the renewals that should not have been such an exit. -/
namespace DisplayMux.Tv

/-- The events that must bring the input home. -/
inductive FailsLocal (s : ProtocolState) : Event → Prop where
  | disconnected (reason : String) : FailsLocal s (.transportDisconnected reason)
  | commandFailed (reason : String) : FailsLocal s (.commandFailed s.switchEpoch reason)
  | shutdown : FailsLocal s .shutdown
  | renewal (a : ActiveSession) (running : s.activeSession = some a) (leaseId : String)
      (leaseEpoch peerSessionEpoch : Nat)
      (unfit : a.lease.leaseId ≠ leaseId ∨ a.lease.leaseEpoch ≠ leaseEpoch ∨
        a.lease.peerSessionEpoch ≠ peerSessionEpoch ∨
        (s.peers.get a.target).any (fun p => p.bundleReady peerSessionEpoch) = false) :
      FailsLocal s (.renew a.requestId leaseId leaseEpoch peerSessionEpoch)

section Exits

variable {s : ProtocolState} {past nowMs : Nat} {timing : ProtocolTiming}

theorem fallback_accepted {event : Event} {n : ProtocolState} {reason : String}
    (reacted : react s event nowMs timing = .ok (.check (beginFallback ⟨n, []⟩ nowMs timing reason)))
    (known : n.manualRecoveryTarget ≠ some n.serverHost) :
    apply s event nowMs timing = .ok (beginFallback ⟨n, []⟩ nowMs timing reason) :=
  apply_ok.mpr (.inr ⟨reacted, fallback_valid _ _ _ _ _ known⟩)

theorem renewal_rejected (valid : Valid s past) {requestId leaseId : String}
    {leaseEpoch peerSessionEpoch : Nat}
    (unfit : renewable s requestId leaseId leaseEpoch peerSessionEpoch = false) :
    apply s (.renew requestId leaseId leaseEpoch peerSessionEpoch) nowMs timing =
      .ok (beginFallback ⟨noteSessionTarget s, []⟩ nowMs timing "lease_renewal_rejected") := by
  refine fallback_accepted ?_ (recoveryTarget_remote valid.recoveryRemote _)
  simp only [react, applyRenew, unfit]
  rfl

theorem FailsLocal.exit {event : Event} (exits : FailsLocal s event) (valid : Valid s past) :
    ∃ t, apply s event nowMs timing = .ok t ∧ Local t.next := by
  cases exits with
  | disconnected reason =>
    exact ⟨_, disconnected_accepted valid reason, fallback_home⟩
  | commandFailed reason =>
    have reacted : react s (.commandFailed s.switchEpoch reason) nowMs timing =
        .ok (.check (beginFallback ⟨setLastError s reason, []⟩ nowMs timing reason)) := by
      simp only [react, applyCommandFailed, if_true]
    exact ⟨_, fallback_accepted reacted valid.recoveryRemote, fallback_home⟩
  | shutdown =>
    exact ⟨_, apply_ok.mpr (.inr ⟨rfl, shutdown_valid valid⟩), rfl, rfl, rfl, rfl⟩
  | renewal a running leaseId leaseEpoch peerSessionEpoch unfit =>
    refine ⟨_, renewal_rejected valid ?_, fallback_home⟩
    simp only [renewable, running, Option.any_some]
    rcases unfit with lease | epoch | peer | unready
    · simp [lease]
    · simp [epoch]
    · simp [peer]
    · simp [unready]

end Exits

/-- The safety exits are never refused, and they leave nothing behind that is remote. -/
theorem fail_local_succeeds {timing : ProtocolTiming} {c : Clocked} {event : Event}
    (reachable : Reachable timing c) (exits : FailsLocal c.state event) (nowMs : Nat) :
    ∃ t, apply c.state event nowMs timing = .ok t ∧ Local t.next := by
  obtain ⟨k, -, valid⟩ := reachable.sound.valid
  exact exits.exit valid

/-- The right host owns the input; a renewal of its session under another lease ends it. -/
theorem wrong_lease_ends_session : ∃ c a t, Reachable sampleTiming c ∧
    c.state.activeSession = some a ∧ a.requestId = "r1" ∧
    apply c.state (.renew "r1" "other" 1 11) 50 sampleTiming = .ok t ∧ Local t.next := by
  obtain ⟨c, reachable, a, running, named, lease⟩ := play_reachable Host.all takeRight
    (fun c => ∃ a, c.state.activeSession = some a ∧ a.requestId = "r1" ∧ a.lease.leaseId = "lease") (by decide)
  have exits : FailsLocal c.state (.renew a.requestId "other" 1 11) :=
    .renewal a running "other" 1 11 (.inl (by simp [lease]))
  rw [named] at exits
  obtain ⟨t, applied, home⟩ := fail_local_succeeds reachable exits 50
  exact ⟨c, a, t, reachable, running, named, applied, home⟩

/-- A step that hurts nobody: what is running and what is owed stay as they are. -/
structure Unhurt (s : ProtocolState) (t : Transition) : Prop where
  session : t.next.activeSession = s.activeSession
  request : t.next.activeRequest = s.activeRequest
  keyboard : t.next.keyboardOwner = s.keyboardOwner
  pointer : t.next.pointerOwner = s.pointerOwner
  phase : t.next.phase = s.phase
  owed : t.next.fallbackRequired = s.fallbackRequired
  effects : t.effects = []

/-- There is nothing that a fallback could end. -/
structure AtEase (s : ProtocolState) : Prop where
  session : s.activeSession = none
  request : s.activeRequest = none
  pending : s.pendingMultiview = none
  phase : s.phase = .fallbackDeferred ∨ (s.phase = .idle ∧ s.daemonHealthy = true)

section Renewals

variable {s : ProtocolState} {past nowMs : Nat} {timing : ProtocolTiming}

theorem AtEase.restore (ease : AtEase s) : displayRestoreRequired s = s.fallbackRequired := by
  simp [displayRestoreRequired, ease.session, ease.request, ease.pending]

theorem fallback_unhurt_iff (shape : Shape s) (valid : Valid s past) {n : ProtocolState} {reason : String}
    (server : n.serverHost = s.serverHost) (healthy : n.daemonHealthy = s.daemonHealthy) :
    Unhurt s (beginFallbackWithRestore ⟨n, []⟩ nowMs timing reason (displayRestoreRequired s)) ↔
      AtEase s := by
  have cases := fallback_cases ⟨n, []⟩ nowMs timing reason (displayRestoreRequired s)
  rw [healthy] at cases
  constructor
  · intro unhurt
    have ended : s.activeSession = none := by simpa using unhurt.session.symm
    have free : s.activeRequest = none := by simpa using unhurt.request.symm
    have owed : displayRestoreRequired s = s.fallbackRequired := by simpa using unhurt.owed
    have settled : s.pendingMultiview = none := by
      by_contra pending
      have pending := Option.isSome_iff_ne_none.mpr pending
      have required : displayRestoreRequired s = true := by simp [displayRestoreRequired, pending]
      have none := (shape.owed (owed.symm.trans required)).2.2.1
      simp [none] at pending
    refine ⟨ended, free, settled, ?_⟩
    rcases cases with ⟨-, -, -, -, -, sent⟩ | ⟨-, phase, -⟩ | ⟨-, up, phase, -⟩
    · have quiet := unhurt.effects
      simp [sent] at quiet
    · exact .inl (unhurt.phase.symm.trans phase)
    · exact .inr ⟨unhurt.phase.symm.trans phase, up⟩
  intro ease
  have here := valid.local_of_ended ease.session
  have away : s.pointerOwner = s.serverHost := valid.together ▸ here
  have course : (beginFallbackWithRestore ⟨n, []⟩ nowMs timing reason
        (displayRestoreRequired s)).next.phase = s.phase ∧
      (beginFallbackWithRestore ⟨n, []⟩ nowMs timing reason (displayRestoreRequired s)).effects = [] := by
    rcases cases with ⟨owed, up, -⟩ | ⟨down, phase, -, -, quiet⟩ | ⟨-, up, phase, -, -, quiet⟩
    · exfalso
      have restoring := (shape.owed (ease.restore.symm.trans owed)).2.2.2
      rcases ease.phase with deferred | ⟨idle, -⟩
      · simp [shape.deferred deferred] at up
      · simp [idle] at restoring
    · rcases ease.phase with deferred | ⟨-, up⟩
      · exact ⟨phase.trans deferred.symm, quiet⟩
      · simp [down] at up
    · rcases ease.phase with deferred | ⟨idle, -⟩
      · simp [shape.deferred deferred] at up
      · exact ⟨phase.trans idle.symm, quiet⟩
  refine ⟨by simp [ease.session], by simp [ease.request], by simp [server, here],
    by simp [server, away], course.1, by simp [ease.restore], course.2⟩

end Renewals

section Reached

variable {timing : ProtocolTiming} {c : Clocked} {requestId leaseId : String}
  {leaseEpoch peerSessionEpoch nowMs : Nat}

/-- A renewal that does not name the running session leaves the others alone exactly
where there is nothing to leave alone. -/
theorem stale_renewal_unhurt_iff (reachable : Reachable timing c)
    (stale : ∀ a, c.state.activeSession = some a → a.requestId ≠ requestId) {t : Transition}
    (applied : apply c.state (.renew requestId leaseId leaseEpoch peerSessionEpoch) nowMs timing = .ok t) :
    Unhurt c.state t ↔ AtEase c.state := by
  obtain ⟨k, -, valid⟩ := reachable.sound.valid
  have unfit : renewable c.state requestId leaseId leaseEpoch peerSessionEpoch = false := by
    cases running : c.state.activeSession with
    | none => simp [renewable, running]
    | some a => simp [renewable, running, stale a running]
  have rejected := (renewal_rejected valid unfit).symm.trans applied
  cases rejected
  exact fallback_unhurt_iff reachable.sound.shape valid rfl rfl

/-- Nothing is running, so a renewal from the past does no harm. -/
theorem idle_renewal_unhurt : ∃ c t, Reachable sampleTiming c ∧ c.state.activeSession = none ∧
    apply c.state (.renew "r1" "lease" 1 11) 5 sampleTiming = .ok t ∧ Unhurt c.state t := by
  obtain ⟨c, reachable, ended, free, settled, idle, healthy, t, applied, -⟩ :=
    play_reachable Host.all (enterRight.take 2) (fun c => c.state.activeSession = none ∧
      c.state.activeRequest = none ∧ c.state.pendingMultiview = none ∧ c.state.phase = .idle ∧
      c.state.daemonHealthy = true ∧
      ∃ t, apply c.state (.renew "r1" "lease" 1 11) 5 sampleTiming = .ok t ∧ True) (by decide)
  have ease : AtEase c.state := ⟨ended, free, settled, .inr ⟨idle, healthy⟩⟩
  have unhurt := (stale_renewal_unhurt_iff reachable (by simp [ended]) applied).mpr ease
  exact ⟨c, t, reachable, ended, applied, unhurt⟩

/-- A renewal under an old id ends the session of the right host. -/
theorem stale_renewal_ends_session : ∃ c a t, Reachable sampleTiming c ∧
    c.state.activeSession = some a ∧ a.requestId ≠ "r0" ∧
    apply c.state (.renew "r0" "lease0" 1 11) 50 sampleTiming = .ok t ∧
    t.next.activeSession = none ∧ t.next.keyboardOwner ≠ c.state.keyboardOwner ∧
    t.effects = [.setInput .controller 2 true] := by
  simp only [exists_and_left]
  exact play_reachable Host.all takeRight _ (by decide)

/-- The session ends or the step is refused; in either case it is not extended. -/
def NotExtended (x : Except Halt Transition) : Prop :=
  (∃ halt, x = .error halt) ∨ ∃ t, x = .ok t ∧ t.next.activeSession = none ∧
    t.next.keyboardOwner = t.next.serverHost ∧ t.next.pointerOwner = t.next.serverHost

/-- An expired session is extended by every renewal that fits it, unless the new
end is already past. -/
theorem expired_renewal_iff (reachable : Reachable timing c)
    (expired : sessionExpired c.state nowMs = true) :
    NotExtended (apply c.state (.renew requestId leaseId leaseEpoch peerSessionEpoch) nowMs timing) ↔
      renewable c.state requestId leaseId leaseEpoch peerSessionEpoch = false ∨
        saturatingAdd nowMs timing.leaseMs ≤ nowMs := by
  obtain ⟨k, -, valid⟩ := reachable.sound.valid
  obtain ⟨a, running, -⟩ := Option.any_eq_true _ _ |>.mp expired
  cases fit : renewable c.state requestId leaseId leaseEpoch peerSessionEpoch with
  | false =>
    refine iff_of_true (.inr ⟨_, renewal_rejected valid fit, ?_⟩) (.inl rfl)
    exact ⟨fallback_home.session, fallback_home.keyboard, fallback_home.pointer⟩
  | true =>
    have checked : apply c.state (.renew requestId leaseId leaseEpoch peerSessionEpoch) nowMs timing =
        validated ⟨setSession c.state (renewedSession a nowMs timing), []⟩ nowMs := by
      simp only [apply, react, applyRenew, fit, running]
      rfl
    rw [checked]
    have extended : Valid (setSession c.state (renewedSession a nowMs timing)) nowMs ↔
        nowMs < saturatingAdd nowMs timing.leaseMs :=
      renewed_valid_iff reachable.sound.shape.toHoldings valid running
    by_cases later : nowMs < saturatingAdd nowMs timing.leaseMs
    · refine iff_of_false ?_ (by simpa using later)
      rw [validated_ok.mpr ⟨rfl, extended.mpr later⟩]
      rintro (⟨halt, refused⟩ | ⟨t, accepted, ended, -⟩)
      · contradiction
      · cases accepted
        simp at ended
    · refine iff_of_true (.inl ?_) (.inr (Nat.le_of_not_lt later))
      cases answer : validated ⟨setSession c.state (renewedSession a nowMs timing), []⟩ nowMs with
      | error halt => exact ⟨halt, rfl⟩
      | ok t => exact absurd (extended.mp (validated_ok.mp answer).2) later

/-- An expired session is not extended by a renewal under another lease. -/
theorem expired_session_other_lease : ∃ c, Reachable sampleTiming c ∧
    sessionExpired c.state 400 = true ∧
    NotExtended (apply c.state (.renew "r1" "other" 1 11) 400 sampleTiming) := by
  obtain ⟨c, reachable, expired, unfit⟩ := play_reachable Host.all takeRight
    (fun c => sessionExpired c.state 400 = true ∧ renewable c.state "r1" "other" 1 11 = false) (by decide)
  exact ⟨c, reachable, expired, (expired_renewal_iff reachable expired).mpr (.inl unfit)⟩

/-- The lease of the right host has run out at 340, and a renewal at 400 extends it. -/
theorem expired_session_extended : ∃ c t a, Reachable sampleTiming c ∧
    sessionExpired c.state 400 = true ∧
    apply c.state (.renew "r1" "lease" 1 11) 400 sampleTiming = .ok t ∧
    t.next.activeSession = some a ∧ a.renewedUntilMs = 700 ∧ t.next.keyboardOwner = .right := by
  simp only [exists_and_left]
  exact play_reachable Host.all takeRight _ (by decide)

end Reached

end DisplayMux.Tv
