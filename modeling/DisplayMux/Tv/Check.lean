import DisplayMux.Tv.Invariant

/-! When the final check turns a handled event down. A handler itself never speaks
of an invariant, so a refusal of this kind is a draft that is not valid; and where
only the display has moved, the draft is valid exactly when the display of the
running session is still the verified one. -/
namespace DisplayMux.Tv

open ProtocolState

def RefusedByCheck (s : ProtocolState) (event : Event) (nowMs : Nat) (timing : ProtocolTiming) : Prop :=
  ∃ message, apply s event nowMs timing = .error (.refused (.invariant message))

section Totality

variable {s : ProtocolState} {t : Transition}

theorem recordVerifiedSwitch_total (counted : ∀ h, (s.switchCount.get h).isSome = true)
    (target : Host) : ∃ n, recordVerifiedSwitch s target = .ok n := by
  obtain ⟨count, known⟩ := Option.isSome_iff_exists.mp (counted target)
  unfold recordVerifiedSwitch
  split
  · exact ⟨_, rfl⟩
  · rw [known]
    exact ⟨_, rfl⟩

theorem issueGrant_total (counted : ∀ h, (s.switchCount.get h).isSome = true) {r : EnterRequest}
    {e : Nat} (active : s.activeRequest = some r) (epoch : r.switchEpoch = some e) (nowMs : Nat)
    (timing : ProtocolTiming) : ∃ n, issueGrant s nowMs timing = .ok n := by
  obtain ⟨n, recorded⟩ := recordVerifiedSwitch_total
    (s := grantIssued s r e nowMs timing) counted r.target
  exact ⟨n, by simp only [issueGrant, active, epoch, recorded]⟩

theorem beginSwitch_total (counted : ∀ h, (t.next.switchCount.get h).isSome = true) {r : EnterRequest}
    (active : t.next.activeRequest = some r) (nowMs : Nat) (timing : ProtocolTiming) :
    ∃ t', beginSwitch t nowMs timing = .ok t' := by
  simp only [beginSwitch, active]
  split
  · obtain ⟨n, granted⟩ := issueGrant_total
      (s := switchUncommanded (switchStarted t.next r nowMs timing)) counted rfl rfl nowMs timing
    exact ⟨_, by rw [granted]; rfl⟩
  · exact ⟨_, rfl⟩

end Totality

/-- A handler itself never speaks of an invariant; only the final check does. -/
def NoInvariant {α : Type} (x : Except Halt α) : Prop :=
  ∀ message, x ≠ .error (.refused (.invariant message))

section Handlers

variable {α β : Type} {s : ProtocolState} {t : Transition} {nowMs : Nat} {timing : ProtocolTiming}

theorem noInvariant_ok (a : α) : NoInvariant (.ok a : Except Halt α) := by simp [NoInvariant]

theorem noInvariant_panicked (message : String) :
    NoInvariant (.error (.panicked message) : Except Halt α) := by simp [NoInvariant]

theorem NoInvariant.bind {x : Except Halt α} {f : α → Except Halt β} (first : NoInvariant x)
    (then_ : ∀ a, NoInvariant (f a)) : NoInvariant (x >>= f) := by
  cases x with
  | error halt =>
    intro message same
    exact first message (congrArg Except.error (Except.error.inj same))
  | ok a => exact then_ a

theorem NoInvariant.map {x : Except Halt α} (first : NoInvariant x) (f : α → β) :
    NoInvariant (x.map f) := by
  cases x with
  | error halt =>
    intro message same
    exact first message (congrArg Except.error (Except.error.inj same))
  | ok a => exact noInvariant_ok _

theorem recordVerifiedSwitch_noInvariant (s : ProtocolState) (target : Host) :
    NoInvariant (recordVerifiedSwitch s target) := by
  unfold recordVerifiedSwitch
  split
  · exact noInvariant_ok _
  · split
    · exact noInvariant_panicked _
    · exact noInvariant_ok _

theorem issueGrant_noInvariant (s : ProtocolState) (nowMs : Nat) (timing : ProtocolTiming) :
    NoInvariant (issueGrant s nowMs timing) := by
  unfold issueGrant
  split
  · exact noInvariant_panicked _
  · split
    · exact noInvariant_panicked _
    · exact recordVerifiedSwitch_noInvariant _ _

theorem beginSwitch_noInvariant (t : Transition) (nowMs : Nat) (timing : ProtocolTiming) :
    NoInvariant (beginSwitch t nowMs timing) := by
  unfold beginSwitch
  split
  · exact noInvariant_panicked _
  · dsimp only
    split
    · exact (issueGrant_noInvariant _ _ _).bind fun _ => noInvariant_ok _
    · exact noInvariant_ok _

theorem serveDeadlines_noInvariant (t : Transition) (nowMs : Nat) (timing : ProtocolTiming) :
    NoInvariant (serveDeadlines t nowMs timing) := by
  unfold serveDeadlines
  dsimp only
  repeat' split
  all_goals first | exact noInvariant_ok _ | exact noInvariant_panicked _

theorem observation_noInvariant {e : Nat} {mode : TvMode} {input : Option Host}
    {signals : HostMap Bool} : NoInvariant (applyObservation s e mode input signals nowMs timing) := by
  unfold applyObservation observeRequest
  dsimp only
  repeat' split
  all_goals first
    | exact noInvariant_ok _
    | exact (recordVerifiedSwitch_noInvariant _ _).bind fun _ => noInvariant_ok _
    | exact (issueGrant_noInvariant _ _ _).bind fun _ => noInvariant_ok _

theorem createEnter_noInvariant {requestId clientId : String} {target : Host} {lease : LeaseIdentity} :
    NoInvariant (applyCreateEnter s requestId clientId target lease nowMs timing) := by
  unfold applyCreateEnter
  split
  · split <;> simp [NoInvariant, refuse]
  split
  · simp [NoInvariant, refuse]
  split
  · simp [NoInvariant, refuse]
  split
  · simp [NoInvariant, refuse]
  refine NoInvariant.map ?_ _
  unfold admitEnter
  dsimp only
  repeat' split
  all_goals first | exact noInvariant_ok _ | exact beginSwitch_noInvariant _ _ _

theorem react_noInvariant (s : ProtocolState) (event : Event) (nowMs : Nat) (timing : ProtocolTiming) :
    NoInvariant (react s event nowMs timing) := by
  cases event with
  | transportSynchronized =>
    refine NoInvariant.map ?_ _
    unfold applyTransportSynchronized
    dsimp only
    repeat' split
    all_goals first
      | exact noInvariant_ok _
      | exact (recordVerifiedSwitch_noInvariant _ _).bind fun _ => noInvariant_ok _
  | peerReadinessUpdated =>
    refine NoInvariant.map (NoInvariant.bind ?_ fun _ => noInvariant_ok _) _
    unfold requestReadiness
    repeat' split
    all_goals first | exact noInvariant_ok _ | exact beginSwitch_noInvariant _ _ _
  | armManualRecovery =>
    refine NoInvariant.map ?_ _
    unfold applyArmManualRecovery
    repeat' split
    all_goals simp [NoInvariant, refuse]
  | createEnter => exact createEnter_noInvariant
  | observation => exact observation_noInvariant.map _
  | commit =>
    refine NoInvariant.map ?_ _
    unfold applyCommit
    dsimp only
    repeat' split
    all_goals simp [NoInvariant, refuse]
  | cancel =>
    refine NoInvariant.map ?_ _
    unfold applyCancel
    repeat' split
    all_goals simp [NoInvariant, refuse]
  | renew =>
    refine NoInvariant.map ?_ _
    unfold applyRenew
    repeat' split
    all_goals simp [NoInvariant]
  | multiViewRequested =>
    refine NoInvariant.map ?_ _
    unfold applyMultiViewRequested
    repeat' split
    all_goals simp [NoInvariant, refuse]
  | tick => exact (serveDeadlines_noInvariant _ _ _).map _
  | _ => exact noInvariant_ok _

theorem refusedByCheck_iff {event : Event} : RefusedByCheck s event nowMs timing ↔
    ∃ t, react s event nowMs timing = .ok (.check t) ∧ ¬ Valid t.next nowMs := by
  have handled := react_noInvariant s event nowMs timing
  unfold RefusedByCheck apply
  cases reacted : react s event nowMs timing with
  | error halt =>
    rw [reacted] at handled
    constructor
    · rintro ⟨message, refused⟩
      exact absurd (congrArg Except.error (Except.error.inj refused)) (handled message)
    · rintro ⟨t, other, -⟩
      contradiction
  | ok draft =>
    cases draft with
    | unchecked t =>
      constructor
      · rintro ⟨message, refused⟩
        contradiction
      · rintro ⟨t, other, -⟩
        cases other
    | check t =>
      constructor
      · rintro ⟨message, refused⟩
        exact ⟨t, rfl, (validated_refused refused).1⟩
      rintro ⟨t', same, invalid⟩
      cases same
      cases checked : validated t nowMs with
      | ok t' => exact absurd (validated_ok.mp checked).2 invalid
      | error halt =>
        obtain ⟨-, message, rfl⟩ := validated_refused checked
        exact ⟨message, checked⟩

end Handlers

/-- A handler comes back with a state that the check refuses. -/
def Fails (x : Except Halt Transition) (nowMs : Nat) : Prop :=
  ∃ t, x = .ok t ∧ ¬ Valid t.next nowMs

section Fails

variable {s n : ProtocolState} {x : Except Halt Transition} {nowMs : Nat}

theorem fails_ok {t : Transition} : Fails (.ok t) nowMs ↔ ¬ Valid t.next nowMs := by
  simp [Fails]

theorem not_fails_error {halt : Halt} : ¬ Fails (.error halt) nowMs := by
  simp [Fails]

theorem fails_map : (∃ t, x.map Draft.check = .ok (.check t) ∧ ¬ Valid t.next nowMs) ↔
    Fails x nowMs := by
  cases x <;> simp [Fails, Except.map]

theorem fails_check {t : Transition} :
    (∃ t', (.ok (.check t) : Except Halt Draft) = .ok (.check t') ∧ ¬ Valid t'.next nowMs) ↔
      ¬ Valid t.next nowMs := by
  simp

theorem not_fails_of_valid (valid : ∀ t, x = .ok t → Valid t.next nowMs) : ¬ Fails x nowMs := by
  rintro ⟨t, returned, invalid⟩
  exact invalid (valid t returned)

end Fails

section Display

variable {s n : ProtocolState} {nowMs : Nat}

def ProtocolState.ownerFields (s : ProtocolState) :=
  (s.serverHost, s.displayHosts, s.peers, s.keyboardOwner, s.pointerOwner, s.activeSession,
    s.fallbackRequired)

/-- The session on a routed host still has its display in front of it. -/
def SessionShown (s n : ProtocolState) : Prop :=
  ∀ a, s.activeSession = some a → s.hasDisplayRoute a.target = true → n.sessionDisplayVerified a = true

theorem sessionDisplayVerified_iff {a : ActiveSession} : s.sessionDisplayVerified a = true ↔
    targetDisplayVerified s a.target a.switchEpoch = true ∧ s.verifiedEpoch = some a.switchEpoch := by
  simp only [sessionDisplayVerified, targetDisplayVerified, Bool.and_eq_true, beq_iff_eq]
  constructor
  · rintro ⟨⟨⟨input, epoch⟩, mode⟩, signal⟩
    exact ⟨⟨⟨mode, input⟩, signal⟩, epoch⟩
  · rintro ⟨⟨⟨mode, input⟩, signal⟩, epoch⟩
    exact ⟨⟨⟨input, epoch⟩, mode⟩, signal⟩

/-- A grant in the active request carries the verified epoch. -/
def GrantVerified (n : ProtocolState) : Prop :=
  ∀ r, n.activeRequest = some r → r.status = .grant → ∃ g, r.grant = some g ∧
    r.switchEpoch = some g.switchEpoch ∧ n.verifiedEpoch = some g.switchEpoch

/-- When only the display, the request and the recovery target have changed, the
display of the session is all that the check can still find wrong. -/
theorem valid_iff_shown (held : Holdings s) (valid : Valid s nowMs)
    (same : n.ownerFields = s.ownerFields)
    (recovery : n.manualRecoveryTarget = none ∨
      (n.manualRecoveryTarget = s.manualRecoveryTarget ∧ n.activeRequest = s.activeRequest))
    (grant : GrantVerified n) : Valid n nowMs ↔ SessionShown s n := by
  simp only [ownerFields, Prod.mk.injEq] at same
  obtain ⟨server, routes, peers, keyboard, pointer, session, fallback⟩ := same
  constructor
  · intro checked a running routed
    have owner := held.session a running
    have remote : n.keyboardOwner ≠ n.serverHost := by
      rw [keyboard, server, owner.keyboard]
      exact owner.remote
    obtain ⟨a', running', facts⟩ := checked.remote remote
    cases running.symm.trans (session.symm.trans running')
    refine facts.display ?_
    rwa [hasDisplayRoute, routes]
  intro shown
  refine ⟨?_, ?_, ?_, ?_, ?_, grant⟩
  · rw [keyboard, pointer]
    exact valid.together
  · rw [fallback, keyboard, server]
    exact valid.owedLocal
  · rcases recovery with none | ⟨kept, -⟩
    · simp [none]
    · rw [kept, server]
      exact valid.recoveryRemote
  · rcases recovery with none | ⟨kept, request⟩
    · simp [none]
    · rw [kept, request, session, keyboard, server]
      exact valid.recoveryQuiet
  rw [keyboard, server, session]
  intro remote
  obtain ⟨a, running, facts⟩ := valid.remote remote
  refine ⟨a, running, keyboard ▸ facts.target, facts.renewed, facts.leased, peers ▸ facts.peer, ?_⟩
  intro routed
  rw [hasDisplayRoute, routes] at routed
  exact shown a running routed

theorem Valid.shown (held : Holdings s) (valid : Valid s nowMs) : SessionShown s s :=
  (valid_iff_shown held valid rfl (.inr ⟨rfl, rfl⟩) valid.grant).mp valid

theorem Valid.forget (held : Holdings s) (valid : Valid s nowMs) : Valid (setRecoveryTarget s none) nowMs :=
  (valid_iff_shown (n := setRecoveryTarget s none) held valid rfl (.inl rfl) valid.grant).mpr
    (valid.shown held)

def ProtocolState.picture (s : ProtocolState) := (s.tvMode, s.observedInput, s.inputSignal)

theorem shown_iff_epoch (shown : SessionShown s s) (same : n.picture = s.picture) :
    SessionShown s n ↔ ∀ a, s.activeSession = some a → s.hasDisplayRoute a.target = true →
      n.verifiedEpoch = some a.switchEpoch := by
  simp only [picture, Prod.mk.injEq] at same
  obtain ⟨mode, input, signals⟩ := same
  constructor
  · intro kept a running routed
    exact (sessionDisplayVerified_iff.mp (kept a running routed)).2
  · intro epoch a running routed
    have before := (sessionDisplayVerified_iff.mp (shown a running routed)).1
    refine sessionDisplayVerified_iff.mpr ⟨?_, epoch a running routed⟩
    rwa [targetDisplayVerified, mode, input, signals]

theorem SessionShown.epoch (shown : SessionShown s s) (a : ActiveSession)
    (running : s.activeSession = some a) (routed : s.hasDisplayRoute a.target = true) :
    s.verifiedEpoch = some a.switchEpoch :=
  (sessionDisplayVerified_iff.mp (shown a running routed)).2

/-- While the signals and the verified epoch stay, the session needs the TV to show
its host in full. -/
theorem shown_iff_display (shown : SessionShown s s) (signals : n.inputSignal = s.inputSignal)
    (verified : n.verifiedEpoch = s.verifiedEpoch) :
    SessionShown s n ↔ ∀ a, s.activeSession = some a → s.hasDisplayRoute a.target = true →
      n.tvMode = .fullscreen ∧ n.observedInput = some a.target := by
  constructor
  · intro kept a running routed
    have display := kept a running routed
    simp only [sessionDisplayVerified, Bool.and_eq_true, beq_iff_eq] at display
    exact ⟨display.1.2, display.1.1.1⟩
  intro display a running routed
  obtain ⟨mode, input⟩ := display a running routed
  have before := shown a running routed
  simp only [sessionDisplayVerified, Bool.and_eq_true, beq_iff_eq] at before ⊢
  rw [signals, verified]
  exact ⟨⟨⟨input, before.1.1.2⟩, mode⟩, before.2⟩

/-- A remembered recovery target is in order only when no session is running. -/
theorem valid_iff_ended (valid : Valid s nowMs) (same : n.ownerFields = s.ownerFields) {target : Host}
    (armed : n.manualRecoveryTarget = some target) (remote : target ≠ s.serverHost)
    (free : n.activeRequest = none) : Valid n nowMs ↔ s.activeSession = none := by
  simp only [ownerFields, Prod.mk.injEq] at same
  obtain ⟨server, -, -, keyboard, pointer, session, fallback⟩ := same
  constructor
  · intro checked
    exact session ▸ (checked.recoveryQuiet (by simp [armed])).2.1
  intro ended
  have home := valid.local_of_ended ended
  refine ⟨?_, ?_, ?_, ?_, ?_, by simp [free]⟩
  · rw [keyboard, pointer]
    exact valid.together
  · simp [keyboard, server, home]
  · simpa [armed, server] using remote
  · simp [free, session, ended, keyboard, server, home]
  · simp [keyboard, server, home]

theorem valid_of_local (keyboard : n.keyboardOwner = n.serverHost) (pointer : n.pointerOwner = n.serverHost)
    (recovery : n.manualRecoveryTarget ≠ some n.serverHost)
    (quiet : n.manualRecoveryTarget.isSome → n.activeRequest = none ∧ n.activeSession = none)
    (grant : GrantVerified n) : Valid n nowMs :=
  ⟨keyboard.trans pointer.symm, fun _ => keyboard, recovery,
    fun armed => ⟨(quiet armed).1, (quiet armed).2, keyboard⟩, fun remote => absurd keyboard remote, grant⟩

theorem shutdown_valid {past : Nat} (valid : Valid s past) : Valid (applyShutdown s) nowMs :=
  valid_of_local rfl rfl valid.recoveryRemote (fun _ => ⟨rfl, rfl⟩) (by simp [GrantVerified])

theorem renewed_valid_iff {past : Nat} {timing : ProtocolTiming} (held : Holdings s)
    (valid : Valid s past) {a : ActiveSession} (running : s.activeSession = some a) :
    Valid (setSession s (renewedSession a nowMs timing)) nowMs ↔
      nowMs < saturatingAdd nowMs timing.leaseMs := by
  have owner := held.session a running
  have remote : s.keyboardOwner ≠ s.serverHost := owner.keyboard ▸ owner.remote
  constructor
  · intro checked
    obtain ⟨a', running', facts⟩ := checked.remote remote
    cases running'
    exact facts.renewed
  intro later
  obtain ⟨h₁, h₂, h₃, h₄, h₅, h₆⟩ := valid
  refine ⟨h₁, h₂, h₃, fun armed => ?_, fun _ => ?_, h₆⟩
  · have ended := (h₄ armed).2.1
    simp [running] at ended
  · obtain ⟨a', running', facts⟩ := h₅ remote
    cases running.symm.trans running'
    exact ⟨_, rfl, facts.target, later, later, facts.peer, facts.display⟩

end Display

end DisplayMux.Tv
