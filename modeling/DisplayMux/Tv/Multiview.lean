import DisplayMux.Tv.Reach

/-! Multi-view changes and input switches share the phase, the epoch and the phase
deadline. They keep out of each other's way as long as nothing interrupts a change
that is still pending. -/
namespace DisplayMux.Tv

/-- The steps that leave a pending change behind in another phase: a request that
starts to switch or to wake its host, and a synchronization that finds the server's
display. -/
def interruptsMultiview (s : ProtocolState) (event : Event) (nowMs : Nat) : Bool :=
  s.pendingMultiview.isSome &&
    match event with
    | .createEnter requestId _ target lease =>
      let readiness := (s.peers.get target).getD {}
      enterAdmitted s requestId lease nowMs &&
        (target == s.serverHost || !readiness.online || readiness.bundleReady lease.peerSessionEpoch)
    | .transportSynchronized mode input signals =>
      serverDisplayVerified (storeObservation s s.switchEpoch nowMs mode input signals) s.switchEpoch
    | _ => false

/-- A change is pending exactly in its own phase, and then nothing else is. -/
structure Exclusive (s : ProtocolState) : Prop where
  changing : s.pendingMultiview.isSome = true ↔ s.phase = .multiviewChanging
  alone : s.pendingMultiview.isSome = true → s.activeRequest = none ∧ s.activeSession = none

section Steps

variable {s n : ProtocolState} {t : Transition} {event : Event} {nowMs : Nat}
  {timing : ProtocolTiming}

theorem exclusive_unchanging (settled : n.pendingMultiview = none) (phase : n.phase ≠ .multiviewChanging) :
    Exclusive n := by
  constructor <;> simp [settled, phase]

theorem Exclusive.frame (exclusive : Exclusive s) (pending : n.pendingMultiview = s.pendingMultiview)
    (phase : n.phase = s.phase) (request : n.activeRequest = s.activeRequest)
    (session : n.activeSession = s.activeSession) : Exclusive n := by
  refine ⟨?_, ?_⟩
  · rw [pending, phase]
    exact exclusive.changing
  · rw [pending, request, session]
    exact exclusive.alone

theorem Exclusive.settled_of_phase (exclusive : Exclusive s) (phase : s.phase ≠ .multiviewChanging) :
    s.pendingMultiview = none := by
  have none := mt exclusive.changing.mp phase
  simpa using none

theorem Exclusive.settled_of_request (exclusive : Exclusive s) {r : EnterRequest}
    (active : s.activeRequest = some r) : s.pendingMultiview = none := by
  by_contra pending
  have free := (exclusive.alone (Option.isSome_iff_ne_none.mpr pending)).1
  simp [active] at free

theorem fallback_exclusive {reason : String} {b : Bool} :
    Exclusive (beginFallbackWithRestore t nowMs timing reason b).next := by
  exact exclusive_unchanging (by simp) (fallback_unchanging _ _ _ _ _)

theorem switch_exclusive (began : beginSwitch ⟨n, []⟩ nowMs timing = .ok t)
    (settled : n.pendingMultiview = none) : Exclusive t.next := by
  obtain ⟨r, -, ⟨-, rfl⟩ | ⟨-, counts, rfl, -⟩⟩ := beginSwitch_ok began
  · exact exclusive_unchanging (by simpa using settled) (by simp)
  · exact exclusive_unchanging (by simpa using settled) (by simp)

theorem Exclusive.step (exclusive : Exclusive s) (shape : Shape s)
    (outcome : Outcome s event nowMs timing t) (kept : interruptsMultiview s event nowMs = false) :
    Exclusive t.next := by
  have unowed (owed : s.fallbackRequired = true) : s.pendingMultiview = none :=
    (shape.owed owed).2.2.1
  have uninterrupted {r : EnterRequest} (admits : Admits s event nowMs r)
      (starts : (r.target == s.serverHost || !((s.peers.get r.target).getD {}).online ||
        ((s.peers.get r.target).getD {}).bundleReady r.lease.peerSessionEpoch) = true) :
      s.pendingMultiview = none := by
    rw [admits.asked] at kept
    simpa [interruptsMultiview, admits.admitted, starts] using kept
  cases outcome with
  | kept same => exact exclusive.frame same.pending same.phase same.request same.session
  | fellBack | calledOff | closed => exact fallback_exclusive
  | closedTwice => exact exclusive_unchanging (by simp) (by simp)
  | settled closes =>
    exact exclusive_unchanging (exclusive.settled_of_request closes.active) (by simp)
  | finished same cause =>
    refine exclusive_unchanging (same.pending.trans ?_) (by simp)
    rcases cause with ⟨owed, -⟩ | ⟨mode, input, signals, rfl, shown⟩
    · exact unowed owed
    · simpa [interruptsMultiview, shown] using kept
  | accepted => exact exclusive_unchanging rfl (by simp)
  | asked same _ phase =>
    have settled (before : s.phase ≠ .multiviewChanging) :=
      same.pending.trans (exclusive.settled_of_phase before)
    rcases phase with ⟨before, after⟩ | ⟨before, after⟩ | ⟨before, stays⟩ | ⟨enabled, -, pending, after⟩
    · exact exclusive_unchanging (settled (by simp [before])) (by simp [after])
    · exact exclusive_unchanging (settled (by simp [before])) (by simp [after])
    · exact exclusive.frame same.pending stays same.request same.session
    · obtain ⟨free, ended⟩ := exclusive.alone (by simp [pending])
      refine ⟨?_, fun _ => ⟨same.request.trans free, same.session.trans ended⟩⟩
      simp [same.pending, pending, after]
  | polled => exact exclusive.frame rfl rfl rfl rfl
  | @renewed a running =>
    refine ⟨exclusive.changing, fun pending => ?_⟩
    have ended := (exclusive.alone pending).2
    simp [running] at ended
  | answered same => exact exclusive.frame same.pending same.phase same.request same.session
  | reverified same owed => exact exclusive_unchanging (same.pending.trans (unowed owed)) (by simp)
  | granted same active =>
    have settled := exclusive.settled_of_request active
    exact exclusive_unchanging (same.pending.trans settled) (by simp)
  | restarted same active began =>
    exact switch_exclusive began (same.pending.trans (exclusive.settled_of_request active))
  | opened admits start began =>
    rcases start with ⟨here, rfl⟩ | ⟨ready, rfl⟩
    · exact switch_exclusive began (uninterrupted admits (by simp [here]))
    · exact switch_exclusive began (uninterrupted admits (by simp [ready]))
  | woken admits offline =>
    exact exclusive_unchanging (uninterrupted admits (by simp [offline])) (by simp)
  | denied => exact exclusive.frame (by simp) (by simp) (by simp) (by simp)
  | @committed r e commits =>
    refine exclusive_unchanging (exclusive.settled_of_request commits.active) ?_
    by_cases here : r.target = s.serverHost
    · simp [here]
    · simp [here]
  | changed _ free ended => exact ⟨by simp, fun _ => ⟨free, ended⟩⟩
  | completed => exact exclusive_unchanging rfl (by simp)
  | commandedAgain phase =>
    exact exclusive_unchanging (unowed (shape.owing phase)) (by simp)
  | stopped => exact exclusive_unchanging rfl (by simp)

end Steps

theorem busy_of_refused {s : ProtocolState} {enabled : Bool} {nowMs : Nat} {timing : ProtocolTiming}
    {active : String}
    (h : apply s (.multiViewRequested enabled) nowMs timing = .error (.refused (.busy active))) :
    s.activeRequest.isSome = true ∨ s.pendingMultiview.isSome = true := by
  rcases apply_refused h with reacted | ⟨message, other⟩
  · have handled := map_error.mp reacted
    unfold applyMultiViewRequested at handled
    split at handled
    · simp [refuse] at handled
    split at handled
    · simp [refuse] at handled
    · split at handled
      · assumption
      · contradiction
  · contradiction

section Runs

variable {timing : ProtocolTiming} {start c : Clocked} {trace : List Step}

/-- As long as nothing interrupts a pending change, the two kinds of transaction
exclude each other, and a multi-view request is turned away as busy only beside one
that is in progress. -/
theorem multiview_exclusive (started : Started start) (run : Run (reducer timing) start trace c)
    (kept : ∀ y ∈ trace, interruptsMultiview y.pre.state y.input.1 y.input.2 = false) :
    (c.state.pendingMultiview.isSome = true ↔ c.state.phase = .multiviewChanging) ∧
      (c.state.pendingMultiview.isSome = true →
        c.state.activeRequest = none ∧ c.state.activeSession = none ∧
          c.state.keyboardOwner = c.state.serverHost ∧ c.state.pointerOwner = c.state.serverHost) ∧
      (∀ enabled nowMs active, apply c.state (.multiViewRequested enabled) nowMs timing =
          .error (.refused (.busy active)) →
        c.state.phase = .multiviewChanging ∨ c.state.activeRequest.isSome = true) := by
  have exclusive : Exclusive c.state := by
    refine run_keeps (C := fun s event nowMs => interruptsMultiview s event nowMs = false) ?_ ?_
      started run kept
    · have fresh := started_fresh started
      exact exclusive_unchanging fresh.pending (by simp [fresh.phase])
    · exact fun _ _ _ _ shape _ kept outcome exclusive => exclusive.step shape outcome kept
  obtain ⟨k, -, valid⟩ := (run_sound started run).valid
  refine ⟨exclusive.changing, fun pending => ?_, fun enabled nowMs active refused => ?_⟩
  · obtain ⟨free, ended⟩ := exclusive.alone pending
    have here := valid.local_of_ended ended
    exact ⟨free, ended, here, valid.together ▸ here⟩
  · rcases busy_of_refused refused with asked | pending
    · exact .inr asked
    · exact .inl (exclusive.changing.mp pending)

def changeView : List (Event × Nat) :=
  [(.transportSynchronized .fullscreen (some .controller) (signalAt .controller), 1),
    (.peerReadinessUpdated .right ⟨true, true, true, 11, 1⟩, 2), (.multiViewRequested true, 5)]

theorem change_keeps_others_out : ∃ start trace c, Started start ∧
    Run (reducer sampleTiming) start trace c ∧
    (∀ y ∈ trace, interruptsMultiview y.pre.state y.input.1 y.input.2 = false) ∧
    c.state.pendingMultiview.isSome = true ∧ c.state.phase = .multiviewChanging ∧
    c.state.activeRequest = none ∧ c.state.keyboardOwner = c.state.serverHost := by
  obtain ⟨start, trace, c, started, run, kept, pending⟩ := play_run sampleTiming Host.all changeView
    (fun trace c => (∀ y ∈ trace, interruptsMultiview y.pre.state y.input.1 y.input.2 = false) ∧
      c.state.pendingMultiview.isSome = true) (by decide)
  obtain ⟨changing, alone, -⟩ := multiview_exclusive started run kept
  obtain ⟨free, -, here, -⟩ := alone pending
  exact ⟨start, trace, c, started, run, kept, pending, changing.mp pending, free, here⟩

/-- A user enters the right host in the middle of a change and comes back. The change
is pending ever after, and no other one can be asked for. -/
theorem interrupted_change_stays_pending : ∃ c, Reachable sampleTiming c ∧
    c.state.pendingMultiview = some true ∧ c.state.phase = .idle ∧
    c.state.activeRequest = none ∧ c.state.activeSession = none ∧
    apply c.state (.multiViewRequested false) 90 sampleTiming = refuse (.busy "multiview") :=
  play_reachable Host.all
    (changeView ++ [(.createEnter "r1" "user" .right ⟨"lease", 1, 11, 1000⟩, 10),
      (.commandAcknowledged 2 .right, 20),
      (.observation 2 .fullscreen (some .right) (signalAt .right), 30),
      (.commit "r1" 1 1 "lease" 1, 40),
      (.createEnter "r2" "user" .controller ⟨"lease2", 1, 0, 1000⟩, 50),
      (.commandAcknowledged 3 .controller, 60),
      (.observation 3 .fullscreen (some .controller) (signalAt .controller), 70),
      (.commit "r2" 2 2 "lease2" 1, 80)]) _ (by decide)

end Runs

end DisplayMux.Tv
