import DisplayMux.Tv.Refusal

/-! From a well shaped state every handler comes to an answer: the counters are
there, a request that is verified has its epoch, and an owner has its session. -/
namespace DisplayMux.Tv

/-- No `expect` on the way to this result has failed. -/
def Answered {α : Type} (x : Except Halt α) : Prop := ∀ message, x ≠ .error (.panicked message)

section Answers

variable {α β : Type} {s : ProtocolState} {nowMs : Nat} {timing : ProtocolTiming}

theorem answered_ok {x : Except Halt α} (total : ∃ a, x = .ok a) : Answered x := by
  obtain ⟨a, rfl⟩ := total
  simp [Answered]

theorem Answered.map {x : Except Halt α} (answered : Answered x) (f : α → β) : Answered (x.map f) := by
  cases x with
  | ok a => simp [Answered, Except.map]
  | error halt => simpa [Answered, Except.map] using answered

theorem finish_total (counted : ∀ h, (s.switchCount.get h).isSome = true) :
    ∃ t : Transition, (finishFallback s >>= fun next => .ok ⟨next, []⟩) = .ok t := by
  obtain ⟨n, recorded⟩ := recordVerifiedSwitch_total (s := fallbackFinished s) counted s.serverHost
  exact ⟨⟨n, []⟩, by rw [finishFallback, recorded]; rfl⟩

section

variable (held : Holdings s)
include held

theorem synchronized_total (mode : TvMode) (input : Option Host) (signals : HostMap Bool) :
    ∃ t, applyTransportSynchronized s mode input signals nowMs timing = .ok t := by
  unfold applyTransportSynchronized
  dsimp only
  split
  · exact finish_total held.counted
  · split <;> exact ⟨_, rfl⟩

theorem admit_total (r : EnterRequest) : ∃ t, admitEnter s r nowMs timing = .ok t := by
  unfold admitEnter
  dsimp only
  split
  · exact beginSwitch_total held.counted rfl nowMs timing
  split
  · exact ⟨_, rfl⟩
  · split
    · exact ⟨_, rfl⟩
    · exact beginSwitch_total held.counted rfl nowMs timing

theorem enter_answered {requestId clientId : String} {target : Host} {lease : LeaseIdentity} :
    Answered (applyCreateEnter s requestId clientId target lease nowMs timing) := by
  unfold applyCreateEnter
  split
  · split <;> simp [Answered, refuse]
  split
  · simp [Answered, refuse]
  split
  · simp [Answered, refuse]
  · split
    · simp [Answered, refuse]
    · have held' : Holdings (openRequestEpoch s) := held.frame rfl
      exact (answered_ok (admit_total held' _)).map _

theorem observation_total (e : Nat) (mode : TvMode) (input : Option Host)
    (signals : HostMap Bool) : ∃ t, applyObservation s e mode input signals nowMs timing = .ok t := by
  unfold applyObservation
  dsimp only
  split
  · split
    · exact finish_total held.counted
    · exact ⟨_, rfl⟩
  split
  · rename_i r active
    split
    · exact ⟨_, rfl⟩
    rename_i current
    unfold observeRequest
    dsimp only
    split
    · split
      · exact ⟨_, rfl⟩
      · obtain ⟨n, granted⟩ := issueGrant_total
          (s := landObservation (storeObservation s e nowMs mode input signals) e)
          held.counted active (not_not.mp current) nowMs timing
        exact ⟨⟨n, []⟩, by rw [granted]; rfl⟩
    · split <;> exact ⟨_, rfl⟩
  · split
    · exact ⟨_, rfl⟩
    · split <;> exact ⟨_, rfl⟩

theorem commit_answered {requestId leaseId : String} {requestEpoch grantEpoch leaseEpoch : Nat} :
    Answered (applyCommit s requestId requestEpoch grantEpoch leaseId leaseEpoch nowMs timing) := by
  unfold applyCommit
  dsimp only
  split
  · split <;> simp [Answered, refuse]
  split
  · simp [Answered, refuse]
  rename_i r active
  split
  · simp [Answered, refuse]
  split
  · simp [Answered, refuse]
  rename_i current
  split
  · simp [Answered]
  -- only a waking request has no switch epoch, and this one is granted
  split
  · rename_i unswitched
    have waking := (held.request r active).waking.mpr unswitched
    simp [waking] at current
  · simp [Answered]

end

theorem renew_answered {requestId leaseId : String} {leaseEpoch peerSessionEpoch : Nat} :
    Answered (applyRenew s requestId leaseId leaseEpoch peerSessionEpoch nowMs timing) := by
  unfold applyRenew
  split
  · simp [Answered]
  rename_i named
  split
  · rename_i ended
    simp [renewable, ended] at named
  · simp [Answered]

theorem tick_total (shape : Shape s) : ∃ t, applyTick s nowMs timing = .ok t := by
  rcases (shape.expired nowMs timing).serve_cases nowMs timing with
    ⟨_, _, _, _, served⟩ | ⟨_, _, _, _, _, _, served⟩ | ⟨_, _, served⟩ | ⟨_, _, _, served⟩
  all_goals exact ⟨_, served⟩

theorem react_answered (shape : Shape s) (event : Event) (nowMs : Nat) (timing : ProtocolTiming) :
    Answered (react s event nowMs timing) := by
  have held := shape.toHoldings
  cases event with
  | transportSynchronized mode input signals =>
    exact (answered_ok (synchronized_total held mode input signals)).map _
  | peerReadinessUpdated => exact (answered_ok (readiness_total held)).map _
  | armManualRecovery =>
    refine Answered.map ?_ _
    unfold applyArmManualRecovery
    repeat' split
    all_goals simp [Answered, refuse]
  | createEnter => exact enter_answered held
  | observation e mode input signals =>
    exact (answered_ok (observation_total held e mode input signals)).map _
  | commit => exact (commit_answered held).map _
  | cancel =>
    refine Answered.map ?_ _
    unfold applyCancel
    repeat' split
    all_goals simp [Answered, refuse]
  | renew => exact renew_answered.map _
  | multiViewRequested =>
    refine Answered.map ?_ _
    unfold applyMultiViewRequested
    repeat' split
    all_goals simp [Answered, refuse]
  | tick => exact (answered_ok (tick_total shape)).map _
  | transportConnecting | transportRegistering | transportSubscribed | transportDisconnected
  | commandAcknowledged | commandFailed | multiViewAcknowledged | subscriptionObserved | shutdown =>
    exact answered_ok ⟨_, rfl⟩

theorem apply_answered (shape : Shape s) (event : Event) (nowMs : Nat) (timing : ProtocolTiming) :
    Answered (apply s event nowMs timing) := by
  have handled := react_answered shape event nowMs timing
  unfold apply
  cases reacted : react s event nowMs timing with
  | error halt =>
    rw [reacted] at handled
    simpa [Answered, bind, Except.bind] using handled
  | ok draft =>
    cases draft with
    | unchecked t => exact answered_ok ⟨t, rfl⟩
    | check t =>
      intro message failed
      obtain ⟨-, m, other⟩ := validated_refused (t := t) failed
      contradiction

end Answers

end DisplayMux.Tv
