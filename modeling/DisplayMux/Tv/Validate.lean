import DisplayMux.Lib.Except
import DisplayMux.Tv.Protocol

/-! What a validated state looks like, and what it means for a step to succeed.
The checks of `validate` are read off once as a structure; later proofs use its
fields and never unfold the checks again. -/
namespace DisplayMux.Tv

open ProtocolState

structure SessionValid (s : ProtocolState) (a : ActiveSession) (nowMs : Nat) : Prop where
  target : a.target = s.keyboardOwner
  renewed : nowMs < a.renewedUntilMs
  leased : nowMs < a.lease.expiresAtMs
  peer : (s.peers.get a.target).any (fun p => p.bundleReady a.lease.peerSessionEpoch) = true
  display : s.hasDisplayRoute a.target = true → s.sessionDisplayVerified a = true

structure Valid (s : ProtocolState) (nowMs : Nat) : Prop where
  together : s.keyboardOwner = s.pointerOwner
  owedLocal : s.fallbackRequired = true → s.keyboardOwner = s.serverHost
  recoveryRemote : s.manualRecoveryTarget ≠ some s.serverHost
  recoveryQuiet : s.manualRecoveryTarget.isSome →
    s.activeRequest = none ∧ s.activeSession = none ∧ s.keyboardOwner = s.serverHost
  remote : s.keyboardOwner ≠ s.serverHost →
    ∃ a, s.activeSession = some a ∧ SessionValid s a nowMs
  grant : ∀ r, s.activeRequest = some r → r.status = .grant →
    ∃ g, r.grant = some g ∧ r.switchEpoch = some g.switchEpoch ∧
      s.verifiedEpoch = some g.switchEpoch

theorem validateRemoteOwner_ok (s : ProtocolState) (nowMs : Nat) :
    s.validateRemoteOwner nowMs = .ok () ↔ (s.keyboardOwner ≠ s.serverHost →
      ∃ a, s.activeSession = some a ∧ SessionValid s a nowMs) := by
  unfold validateRemoteOwner
  by_cases here : s.keyboardOwner = s.serverHost
  · simp [here]
  cases session : s.activeSession with
  | none => simp [here]
  | some a =>
    simp only [here, if_false, ne_eq, not_false_eq_true, forall_const, Option.some.injEq,
      exists_eq_left']
    constructor
    · intro h
      iterate 4
        split at h <;> try contradiction
      rename_i target lease peer display
      simp only [not_or, Nat.not_le] at lease
      simp only [Bool.not_eq_true, Bool.not_eq_false'] at peer
      refine ⟨not_not.mp target, lease.1, lease.2, peer, ?_⟩
      intro routed
      simpa [routed] using display
    intro h
    rw [if_neg (not_not.mpr h.target),
      if_neg (not_or.mpr ⟨Nat.not_le.mpr h.renewed, Nat.not_le.mpr h.leased⟩),
      if_neg (by simp [h.peer])]
    cases routed : s.hasDisplayRoute a.target with
    | false => simp
    | true => simp [h.display routed]

theorem validateGrant_ok (s : ProtocolState) :
    s.validateGrant = .ok () ↔ (∀ r, s.activeRequest = some r → r.status = .grant →
      ∃ g, r.grant = some g ∧ r.switchEpoch = some g.switchEpoch ∧
        s.verifiedEpoch = some g.switchEpoch) := by
  unfold validateGrant
  cases active : s.activeRequest with
  | none => simp
  | some r =>
    simp only [Option.some.injEq, forall_eq']
    by_cases granted : r.status = .grant
    · cases identity : r.grant with
      | none => simp [granted]
      | some g =>
        simp only [granted, if_true, forall_const, Option.some.injEq, exists_eq_left']
        by_cases agree : r.switchEpoch = some g.switchEpoch ∧ s.verifiedEpoch = some g.switchEpoch
        · simp [agree]
        · rw [if_pos (not_and_or.mp agree)]
          simp [agree]
    · simp [granted]

theorem validate_ok (s : ProtocolState) (nowMs : Nat) : s.validate nowMs = .ok () ↔ Valid s nowMs := by
  unfold validate
  constructor
  · intro h
    iterate 5
      split at h <;> try contradiction
    rename_i together owed remote quiet _ owner
    refine ⟨not_not.mp together, ?_, remote, ?_, (validateRemoteOwner_ok s nowMs).mp owner,
      (validateGrant_ok s).mp h⟩
    · intro fallback
      by_contra ne
      exact owed ⟨fallback, ne⟩
    · intro some
      simp only [not_and, not_or, not_not, Option.not_isSome_iff_eq_none] at quiet
      exact quiet some
  intro h
  have quiet : ¬ (s.manualRecoveryTarget.isSome ∧ (s.activeRequest.isSome ∨
      s.activeSession.isSome ∨ s.keyboardOwner ≠ s.serverHost)) := by
    rintro ⟨some, busy⟩
    obtain ⟨h₁, h₂, h₃⟩ := h.recoveryQuiet some
    simp [h₁, h₂, h₃] at busy
  rw [if_neg (not_not.mpr h.together), if_neg (fun c => c.2 (h.owedLocal c.1)),
    if_neg h.recoveryRemote, if_neg quiet, (validateRemoteOwner_ok s nowMs).mpr h.remote]
  exact (validateGrant_ok s).mpr h.grant

def ProtocolState.checkedFields (s : ProtocolState) :=
  (s.serverHost, s.displayHosts, s.tvMode, s.observedInput, s.inputSignal, s.peers, s.verifiedEpoch,
    s.keyboardOwner, s.pointerOwner, s.activeRequest, s.activeSession, s.fallbackRequired,
    s.manualRecoveryTarget)

variable {s : ProtocolState} {nowMs : Nat}

theorem Valid.frame {s n : ProtocolState} (valid : Valid s nowMs)
    (same : n.checkedFields = s.checkedFields) : Valid n nowMs := by
  simp only [checkedFields, Prod.mk.injEq] at same
  obtain ⟨server, routes, mode, input, signals, peers, verified, keyboard, pointer, request, session,
    fallback, recovery⟩ := same
  obtain ⟨h₁, h₂, h₃, h₄, h₅, h₆⟩ := valid
  refine ⟨?_, ?_, ?_, ?_, ?_, ?_⟩
  · rwa [keyboard, pointer]
  · rwa [fallback, keyboard, server]
  · rwa [recovery, server]
  · rwa [recovery, request, session, keyboard, server]
  · rw [keyboard, server, session]
    intro remote
    obtain ⟨a, running, checked⟩ := h₅ remote
    refine ⟨a, running, keyboard ▸ checked.target, checked.renewed, checked.leased,
      peers ▸ checked.peer, ?_⟩
    rw [hasDisplayRoute, routes, sessionDisplayVerified, input, verified,
      mode, signals]
    exact checked.display
  · rwa [request, verified]

theorem Valid.local_of_ended (valid : Valid s nowMs)
    (ended : s.activeSession = none) : s.keyboardOwner = s.serverHost := by
  by_contra remote
  obtain ⟨a, running, -⟩ := valid.remote remote
  simp [ended] at running

theorem Valid.unarmed (valid : Valid s nowMs) {r : EnterRequest}
    (active : s.activeRequest = some r) : s.manualRecoveryTarget = none := by
  by_contra armed
  have free := (valid.recoveryQuiet (Option.isSome_iff_ne_none.mpr armed)).1
  simp [active] at free

theorem Valid.until_expired {past nowMs : Nat} (valid : Valid s past)
    (running : sessionExpired s nowMs = false) : Valid s nowMs := by
  obtain ⟨h₁, h₂, h₃, h₄, h₅, h₆⟩ := valid
  refine ⟨h₁, h₂, h₃, h₄, fun remote => ?_, h₆⟩
  obtain ⟨a, session, checked⟩ := h₅ remote
  simp only [sessionExpired, session, Option.any_some, Bool.or_eq_false_iff, decide_eq_false_iff_not,
    Nat.not_le] at running
  exact ⟨a, session, checked.target, running.1, running.2, checked.peer, checked.display⟩

theorem validated_ok {t t' : Transition} :
    validated t nowMs = .ok t' ↔ t' = t ∧ Valid t.next nowMs := by
  unfold validated
  rw [← validate_ok]
  cases checked : t.next.validate nowMs with
  | error violation => simp [refuse]
  | ok _ => simp [eq_comm]

theorem validated_refused {t : Transition} {halt : Halt} (h : validated t nowMs = .error halt) :
    ¬ Valid t.next nowMs ∧ ∃ m, halt = .refused (.invariant m) := by
  unfold validated at h
  rw [← validate_ok]
  cases checked : t.next.validate nowMs with
  | error violation =>
    rw [checked] at h
    exact ⟨by simp, violation.message, by simpa [refuse] using h.symm⟩
  | ok _ => simp [checked] at h

/-- A successful step is a handled event whose result is valid, or one of the
two repeated messages that leave the state as it is. -/
theorem apply_ok {event : Event} {timing : ProtocolTiming}
    {t : Transition} : apply s event nowMs timing = .ok t ↔
      react s event nowMs timing = .ok (.unchecked t) ∨
      (react s event nowMs timing = .ok (.check t) ∧ Valid t.next nowMs) := by
  unfold apply
  rw [bind_ok]
  constructor
  · rintro ⟨draft, reacted, h⟩
    cases draft with
    | unchecked t' => simp only [Except.ok.injEq] at h; exact .inl (h ▸ reacted)
    | check t' =>
      obtain ⟨rfl, valid⟩ := validated_ok.mp h
      exact .inr ⟨reacted, valid⟩
  · rintro (reacted | ⟨reacted, valid⟩)
    · exact ⟨_, reacted, rfl⟩
    · exact ⟨_, reacted, validated_ok.mpr ⟨rfl, valid⟩⟩

/-- Only the final check speaks of an invariant; any other refusal is the handler's. -/
theorem apply_refused {event : Event} {timing : ProtocolTiming}
    {error : ProtocolError} (h : apply s event nowMs timing = .error (.refused error)) :
    react s event nowMs timing = .error (.refused error) ∨ ∃ message, error = .invariant message := by
  unfold apply at h
  cases reacted : react s event nowMs timing with
  | error halt =>
    rw [reacted] at h
    exact .inl (by simpa [bind, Except.bind] using h)
  | ok draft =>
    rw [reacted] at h
    cases draft with
    | unchecked t => contradiction
    | check t =>
      obtain ⟨-, message, invariant⟩ := validated_refused (t := t) h
      exact .inr ⟨message, Halt.refused.inj invariant⟩

end DisplayMux.Tv
