import DisplayMux.Tv.CommandOrder
import DisplayMux.Tv.Progress
import DisplayMux.Tv.Total

/-! What holds of the daemon in every order of its turns, and of its phases in every run. -/
namespace DisplayMux.Tv

section Turns

variable {timing : ProtocolTiming} {inputs : HostMap String} {start d : Daemon} {trace : List Round}

theorem handle_isSome (started : DaemonStarted start) (run : Run (daemon timing inputs) start trace d)
    (event : Event) (nowMs : Nat) : (d.handle event nowMs timing).isSome = true := by
  have answered := apply_answered (daemon_reachable started run).sound.shape event nowMs timing
  unfold Daemon.handle
  split
  · rfl
  · rfl
  · rename_i panicked
    exact absurd panicked (answered _)

/-- Whatever comes next, the coordinator handles it: the reducer does not panic, and every effect is
queued or has failed. -/
theorem coordinator_turn_completes (started : DaemonStarted start)
    (run : Run (daemon timing inputs) start trace d) (event : Event) (nowMs : Nat) :
    (d.handle event nowMs timing).isSome = true ∧ ∀ t, apply d.state event nowMs timing = .ok t →
      (dispatchEffects t.next t.effects nowMs timing d.ordinary d.safety).pending = [] :=
  ⟨handle_isSome started run event nowMs, fun _ _ => dispatchEffects_complete _ _ _ _⟩

theorem asked_daemon_shuts_down : ∃ start trace d, DaemonStarted start ∧
    Run (daemon sampleTiming sampleInputs) start trace d ∧ d.state.activeRequest.isSome = true ∧
    (d.handle .shutdown 20 sampleTiming).isSome = true := by
  obtain ⟨start, trace, d, started, run, asked⟩ := serve_run askRight
    (fun _ d => d.state.activeRequest.isSome = true) (by decide)
  exact ⟨start, trace, d, started, run, asked, (coordinator_turn_completes started run .shutdown 20).1⟩

end Turns

/-- In each phase the daemon holds what the phase is about. -/
theorem phase_fits_holdings {timing : ProtocolTiming} {clock : Nat} {s : ProtocolState}
    (reachable : Reachable timing ⟨clock, s⟩) :
    (s.phase = .waking → ∃ r, s.activeRequest = some r ∧ r.switchEpoch = none ∧
      s.phaseDeadlineMs = some r.deadlineMs) ∧
    (s.phase = .grantPending → ∃ r, s.activeRequest = some r ∧ r.switchEpoch = some s.switchEpoch ∧
      s.phaseDeadlineMs = some r.deadlineMs) ∧
    (s.phase = .remoteOwned → s.activeRequest = none ∧
      ∃ a, s.activeSession = some a ∧ a.switchEpoch = s.switchEpoch) ∧
    (s.phase = .idle ∨ s.phase = .fallbackDeferred → s.phaseDeadlineMs = none) := by
  have shape := reachable.sound.shape
  refine ⟨fun phase => ?_, fun phase => ?_, fun phase => ?_, fun quiet => shape.quiet (quiet.imp_right .inl)⟩
  · obtain ⟨r, active, status, ends⟩ := shape.waking phase
    exact ⟨r, active, (shape.request r active).waking.mp status, ends⟩
  · obtain ⟨r, active, status, ends⟩ := shape.grantPending phase
    obtain ⟨e, epoch⟩ : ∃ e, r.switchEpoch = some e := by
      refine Option.ne_none_iff_exists'.mp fun none => ?_
      simp [(shape.request r active).waking.mpr none] at status
    exact ⟨r, active, (shape.request r active).current e epoch ▸ epoch, ends⟩
  · obtain ⟨free, held, -⟩ := shape.remoteOwned phase
    obtain ⟨a, running⟩ := Option.isSome_iff_exists.mp held
    exact ⟨free, a, running, reachable.timed.owned phase a running⟩

theorem remote_phase_holds_session : ∃ c, Reachable sampleTiming c ∧ c.state.phase = .remoteOwned ∧
    ∃ a, c.state.activeSession = some a ∧ a.switchEpoch = c.state.switchEpoch := by
  obtain ⟨c, reachable, phase⟩ := play_reachable Host.all takeRight
    (fun c => c.state.phase = .remoteOwned) (by decide)
  exact ⟨c, reachable, phase, ((phase_fits_holdings reachable).2.2.1 phase).2⟩

end DisplayMux.Tv
