import DisplayMux.Tv.Progress

/-! Answers of the TV carry the switch epoch they were asked under. An answer from
another epoch should leave nothing but a trace in the record of what the TV shows. -/
namespace DisplayMux.Tv

/-- The epoch of an answer of the TV. -/
def Event.answers : Event → Option Nat
  | .commandAcknowledged switchEpoch _ => some switchEpoch
  | .commandFailed switchEpoch _ => some switchEpoch
  | .multiViewAcknowledged switchEpoch _ => some switchEpoch
  | .observation switchEpoch _ _ _ => some switchEpoch
  | _ => none

/-- No effect, and only the recorded display and the flight of the old epoch differ. -/
structure Fenced (s : ProtocolState) (e : Nat) (t : Transition) : Prop where
  effects : t.effects = []
  rest : t.next = { s with
    tvMode := t.next.tvMode
    observedInput := t.next.observedInput
    inputSignal := t.next.inputSignal
    observationInFlight := t.next.observationInFlight }
  flight : t.next.observationInFlight = s.observationInFlight ∨
    (s.observationInFlight = some e ∧ t.next.observationInFlight = none)

/-- The observations that are acted on whatever their epoch is: one that arrives
during a multi-view change, and one that moves the timers of a remote owner. -/
def actsStale (s : ProtocolState) (event : Event) (nowMs : Nat) (timing : ProtocolTiming) : Bool :=
  match event with
  | .observation _ _ _ _ => s.activeRequest.isNone && (s.phase == .multiviewChanging ||
      (s.phase == .remoteOwned && (s.phaseDeadlineMs.isSome ||
        s.nextSignalPollMs != some (saturatingAdd nowMs timing.signalPollMs))))
  | _ => false

section Steps

variable {s : ProtocolState} {e nowMs : Nat} {timing : ProtocolTiming} {t : Transition}
  {mode : TvMode} {input : Option Host} {signals : HostMap Bool}

theorem fenced_self : Fenced s e ⟨s, []⟩ := ⟨rfl, rfl, .inl rfl⟩

theorem fenced_stored :
    Fenced s e ⟨landObservation (storeObservation s e nowMs mode input signals) e, []⟩ := by
  refine ⟨rfl, rfl, ?_⟩
  by_cases flying : s.observationInFlight = some e
  · exact .inr ⟨flying, by simp [flying]⟩
  · exact .inl (by simp [flying])

theorem completeMultiview_phase (pending : t.next.pendingMultiview.isSome = true) :
    (completeMultiviewObservation t nowMs timing).next.phase ≠ .multiviewChanging := by
  rcases completeMultiview_cases t nowMs timing with
    ⟨settled, -⟩ | ⟨-, -, done⟩ | ⟨enabled, reason, -, -, done⟩
  · simp [settled] at pending
  · simp [done]
  · rw [done]
    exact fallback_unchanging _ _ _ _ _

theorem stale_observation (shape : Shape s) (timed : Timed s) (old : e ≠ s.switchEpoch)
    (h : applyObservation s e mode input signals nowMs timing = .ok t) :
    let n := landObservation (storeObservation s e nowMs mode input signals) e
    (t = ⟨n, []⟩ ∧ (s.activeRequest.isSome = true ∨
        (s.phase ≠ .remoteOwned ∧ s.phase ≠ .multiviewChanging))) ∨
      (s.activeRequest = none ∧ s.phase = .remoteOwned ∧ t = ⟨schedulePoll n nowMs timing, []⟩) ∨
      (s.activeRequest = none ∧ s.phase = .multiviewChanging ∧ t.next.phase ≠ .multiviewChanging) := by
  rcases observation_cases h with ⟨-, current, -⟩ | ⟨r, active, ⟨-, rfl⟩ | ⟨current, -⟩⟩ |
    ⟨free, ⟨owned, rfl⟩ | ⟨changing, rfl⟩ | ⟨unowned, settled, rfl⟩⟩
  · exact absurd current.symm old
  · exact .inl ⟨rfl, .inl (by simp [active])⟩
  · exact absurd ((shape.request r active).current e current) old
  · obtain ⟨a, running⟩ := Option.isSome_iff_exists.mp (shape.remoteOwned owned).2.1
    have current := timed.owned owned a running
    refine .inr (.inl ⟨free, owned, ?_⟩)
    simp [observeSession, running, current, old.symm]
  · exact .inr (.inr ⟨free, changing, completeMultiview_phase (timed.changing changing).1⟩)
  · exact .inl ⟨rfl, .inr ⟨unowned, settled⟩⟩

theorem schedulePoll_again (deadline : s.phaseDeadlineMs = none)
    (poll : s.nextSignalPollMs = some (saturatingAdd nowMs timing.signalPollMs)) :
    schedulePoll s nowMs timing = s := by
  cases s
  simp only [schedulePoll] at deadline poll ⊢
  rw [deadline, poll]

theorem stale_observation_fenced_iff (shape : Shape s) (timed : Timed s) (old : e ≠ s.switchEpoch)
    (h : applyObservation s e mode input signals nowMs timing = .ok t) :
    Fenced s e t ↔ actsStale s (.observation e mode input signals) nowMs timing = false := by
  rcases stale_observation shape timed old h with
    ⟨rfl, idle⟩ | ⟨free, owned, rfl⟩ | ⟨free, changing, settled⟩
  · refine iff_of_true fenced_stored ?_
    rcases idle with asked | ⟨unowned, settled⟩
    · simp [actsStale, Option.isNone_iff_eq_none, Option.isSome_iff_ne_none.mp asked]
    · simp [actsStale, unowned, settled]
  · constructor
    · intro fenced
      have deadline : none = s.phaseDeadlineMs := congrArg (·.phaseDeadlineMs) fenced.rest
      have poll : some (saturatingAdd nowMs timing.signalPollMs) = s.nextSignalPollMs :=
        congrArg (·.nextSignalPollMs) fenced.rest
      simp [actsStale, owned, ← deadline, ← poll]
    intro quiet
    simp only [actsStale, free, owned, Option.isNone_none, beq_self_eq_true, Bool.true_and,
      Bool.or_eq_false_iff, Option.isSome_eq_false_iff, Option.isNone_iff_eq_none, bne_eq_false_iff_eq]
      at quiet
    obtain ⟨-, deadline, poll⟩ := quiet
    have again : schedulePoll (landObservation (storeObservation s e nowMs mode input signals) e)
        nowMs timing = landObservation (storeObservation s e nowMs mode input signals) e :=
      schedulePoll_again deadline poll
    rw [again]
    exact fenced_stored
  · refine iff_of_false (fun fenced => settled ?_) (by simp [actsStale, free, changing])
    have phase : t.next.phase = s.phase := congrArg (·.phase) fenced.rest
    exact phase.trans changing

end Steps

/-- An answer of another epoch is fenced off, except for the observations that are
acted on whatever their epoch is. -/
theorem stale_answer_fenced_iff {timing : ProtocolTiming} {c : Clocked} {event : Event} {e nowMs : Nat}
    {t : Transition} (reachable : Reachable timing c) (answers : event.answers = some e)
    (old : e ≠ c.state.switchEpoch) (applied : apply c.state event nowMs timing = .ok t) :
    Fenced c.state e t ↔ actsStale c.state event nowMs timing = false := by
  have unmoved (reacted : react c.state event nowMs timing = .ok (.unchecked ⟨c.state, []⟩) ∨
      react c.state event nowMs timing = .ok (.check ⟨c.state, []⟩)) : t = ⟨c.state, []⟩ := by
    rcases apply_ok.mp applied with answered | ⟨answered, -⟩
    all_goals
      rcases reacted with reacted | reacted
      all_goals
        rw [reacted] at answered
        cases answered
    · rfl
    · rfl
  cases event with
  | commandAcknowledged epoch target =>
    cases answers
    have same := unmoved (.inl (by simp only [react, applyCommandAcknowledged, old.symm, ne_eq,
      not_false_eq_true, true_or, if_true]))
    exact iff_of_true (same ▸ fenced_self) rfl
  | commandFailed epoch reason =>
    cases answers
    have same := unmoved (.inr (by simp only [react, applyCommandFailed, old.symm, if_false]))
    exact iff_of_true (same ▸ fenced_self) rfl
  | multiViewAcknowledged epoch enabled =>
    cases answers
    have same := unmoved (.inr (by simp only [react, applyMultiViewAcknowledged, old.symm, false_and,
      if_false]))
    exact iff_of_true (same ▸ fenced_self) rfl
  | observation epoch mode input signals =>
    cases answers
    rcases apply_ok.mp applied with answered | ⟨answered, -⟩
    · obtain ⟨_, -, other⟩ := map_ok.mp answered
      contradiction
    · obtain ⟨t', observed, same⟩ := map_ok.mp answered
      cases same
      exact stale_observation_fenced_iff reachable.sound.shape reachable.timed old observed
  | _ => contradiction

/-- An old observation while the TV switches to the right host. -/
theorem old_observation_fenced : ∃ c t, Reachable sampleTiming c ∧ c.state.switchEpoch = 1 ∧
    apply c.state (.observation 0 .fullscreen (some .right) (signalAt .right)) 25 sampleTiming = .ok t ∧
    Fenced c.state 0 t := by
  obtain ⟨c, reachable, epoch, ⟨r, active, -⟩, t, applied, -⟩ := play_reachable Host.all
    (enterRight ++ [(.commandAcknowledged 1 .right, 20)])
    (fun c => c.state.switchEpoch = 1 ∧ (∃ r, c.state.activeRequest = some r ∧ True) ∧
      ∃ t, apply c.state (.observation 0 .fullscreen (some .right) (signalAt .right)) 25 sampleTiming =
        .ok t ∧ True) (by decide)
  have fenced := (stale_answer_fenced_iff reachable rfl (by simp [epoch]) applied).mpr
    (by simp [actsStale, active])
  exact ⟨c, t, reachable, epoch, applied, fenced⟩

/-- A change to multi-view times out and is undone; the observation that it had asked
for arrives during the next change and makes the daemon fall back once more. -/
theorem late_observation_ends_change : ∃ c t, Reachable sampleTiming c ∧ c.state.switchEpoch = 3 ∧
    c.state.phase = .multiviewChanging ∧
    apply c.state (.observation 1 .fullscreen (some .controller) (signalAt .controller)) 150 sampleTiming =
      .ok t ∧ t.next.phase ≠ c.state.phase ∧ t.next.pendingMultiview ≠ c.state.pendingMultiview ∧
    t.effects = [.setInput .controller 4 true] := by
  simp only [exists_and_left]
  exact play_reachable Host.all
    [(.transportSynchronized .fullscreen (some .controller) (signalAt .controller), 1),
      (.multiViewRequested true, 5), (.multiViewAcknowledged 1 true, 10), (.tick, 110),
      (.observation 2 .fullscreen (some .controller) (signalAt .controller), 130),
      (.multiViewRequested true, 140)]
    _ (by decide)

end DisplayMux.Tv
