import Mathlib.Data.List.ReduceOption
import DisplayMux.Tv.Reach

/-! Each phase of a healthy daemon waits for something with a deadline: for the
request, for the session, or for the phase itself. -/
namespace DisplayMux.Tv

structure Timed (s : ProtocolState) : Prop where
  begun : s.phase ≠ .starting
  switching : s.phase = .switching ∨ s.phase = .verifying → s.activeRequest.isSome = true
  changing : s.phase = .multiviewChanging →
    s.pendingMultiview.isSome = true ∧ s.phaseDeadlineMs.isSome = true
  restoring : s.daemonHealthy = true →
    s.phase = .fallbackCommandPending ∨ s.phase = .fallbackVerifying →
    s.phaseDeadlineMs.isSome = true
  owned : s.phase = .remoteOwned → ∀ a, s.activeSession = some a → a.switchEpoch = s.switchEpoch

section Steps

variable {s n : ProtocolState} {t : Transition} {event : Event} {nowMs : Nat}
  {timing : ProtocolTiming}

theorem timed_idle (idle : n.phase = .idle) : Timed n := by constructor <;> simp [idle]

theorem timed_owned (owned : n.phase = .remoteOwned)
    (current : ∀ a, n.activeSession = some a → a.switchEpoch = n.switchEpoch) : Timed n :=
  ⟨by simp [owned], by simp [owned], by simp [owned], by simp [owned], fun _ => current⟩

theorem Timed.frame (timed : Timed s) (phase : n.phase = s.phase)
    (request : n.activeRequest = s.activeRequest) (session : n.activeSession = s.activeSession)
    (epoch : n.switchEpoch = s.switchEpoch) (pending : n.pendingMultiview = s.pendingMultiview)
    (deadline : n.phaseDeadlineMs = s.phaseDeadlineMs)
    (healthy : n.daemonHealthy = true → s.daemonHealthy = true) : Timed n := by
  refine ⟨phase ▸ timed.begun, ?_, ?_, ?_, ?_⟩
  · rw [phase, request]
    exact timed.switching
  · rw [phase, pending, deadline]
    exact timed.changing
  · rw [phase, deadline]
    exact fun up => timed.restoring (healthy up)
  · rw [phase, session, epoch]
    exact timed.owned

theorem SameCourse.timed (same : SameCourse event s n) (timed : Timed s) : Timed n :=
  timed.frame same.phase same.request same.session same.switchEpoch same.pending same.deadline
    same.healthy

theorem fallback_timed {reason : String} {b : Bool} :
    Timed (beginFallbackWithRestore t nowMs timing reason b).next := by
  rcases fallback_cases t nowMs timing reason b with
    ⟨-, -, phase, deadline, -⟩ | ⟨-, phase, -⟩ | ⟨-, -, phase, -⟩
  · constructor <;> simp [phase, deadline]
  · constructor <;> simp [phase]
  · exact timed_idle phase

theorem command_timed : Timed (issueFallbackCommand t nowMs timing).next := by
  constructor <;> simp

theorem switch_timed (began : beginSwitch ⟨n, []⟩ nowMs timing = .ok t) : Timed t.next := by
  obtain ⟨r, -, ⟨-, rfl⟩ | ⟨-, counts, rfl, -⟩⟩ := beginSwitch_ok began
  · constructor <;> simp
  · constructor <;> simp

theorem Timed.asked (timed : Timed s) (same : SameBooks event s n)
    (healthy : n.daemonHealthy = true → s.daemonHealthy = true)
    (phase : Heard event s n)
    (deadline : n.phaseDeadlineMs.isSome = true ∨
      (n.phase = s.phase ∧ n.phaseDeadlineMs = s.phaseDeadlineMs)) : Timed n := by
  rcases deadline with armed | ⟨stays, kept⟩
  · rcases phase with ⟨before, after⟩ | ⟨-, after⟩ | ⟨-, stays⟩ | ⟨enabled, -, changes, after⟩
    · have asked := timed.switching (.inl before)
      rw [← same.request] at asked
      constructor <;> simp [after, asked]
    · constructor <;> simp [after, armed]
    · refine ⟨stays ▸ timed.begun, ?_, ?_, fun _ _ => armed, ?_⟩
      · rw [stays, same.request]
        exact timed.switching
      · rw [stays, same.pending]
        exact fun changing => ⟨(timed.changing changing).1, armed⟩
      · rw [stays, same.session, same.switchEpoch]
        exact timed.owned
    · rw [← same.pending] at changes
      constructor <;> simp [after, armed, changes]
  · exact timed.frame stays same.request same.session same.switchEpoch same.pending kept healthy

theorem Timed.restored (timed : Timed s) (shape : Shape s) (owed : s.fallbackRequired = true)
    (healthy : s.daemonHealthy = true) :
    (s.phase = .fallbackCommandPending ∨ s.phase = .fallbackVerifying) ∧
      s.phaseDeadlineMs.isSome = true := by
  obtain ⟨-, -, -, pending | verifying | deferred⟩ := shape.owed owed
  · exact ⟨.inl pending, timed.restoring healthy (.inl pending)⟩
  · exact ⟨.inr verifying, timed.restoring healthy (.inr verifying)⟩
  · simp [shape.deferred deferred] at healthy

theorem Timed.step (shape : Shape s) (outcome : Outcome s event nowMs timing t) (timed : Timed s) :
    Timed t.next := by
  cases outcome with
  | kept same => exact same.timed timed
  | fellBack | calledOff | closed => exact fallback_timed
  | closedTwice | commandedAgain => exact command_timed
  | settled | finished | accepted | completed => exact timed_idle rfl
  | asked same healthy phase deadline => exact timed.asked same healthy phase deadline
  | polled _ owned => exact timed_owned owned (timed.owned owned)
  | answered same owned =>
    have owned' := same.phase.trans owned
    exact timed_owned owned' ((same.timed timed).owned owned')
  | @reverified n same owed =>
    have armed (up : n.daemonHealthy = true) : n.phaseDeadlineMs.isSome = true := by
      rw [same.deadline]
      exact (timed.restored shape owed (same.healthy up)).2
    refine ⟨by simp, by simp, by simp, fun up _ => armed up, by simp⟩
  | granted => constructor <;> simp
  | restarted _ _ began | opened _ _ began => exact switch_timed began
  | woken | stopped => constructor <;> simp
  | denied =>
    exact timed.frame (by simp) (by simp) (by simp) (by simp) (by simp) (by simp)
      (by simp [ProtocolState.daemonHealthy])
  | @committed r e commits epoch =>
    by_cases here : r.target = s.serverHost
    · exact timed_idle (by simp [here])
    · have current := (shape.request r commits.active).current e epoch
      exact timed_owned (by simp [here]) (by simp [here, current])
  | @renewed a running =>
    refine ⟨timed.begun, timed.switching, timed.changing, timed.restoring, ?_⟩
    rintro owned _ ⟨⟩
    exact timed.owned owned a running
  | changed => constructor <;> simp

end Steps

theorem Reachable.timed {timing : ProtocolTiming} {c : Clocked} (reachable : Reachable timing c) :
    Timed c.state := by
  refine reachable.keeps ?_ fun _ _ _ _ shape _ outcome timed => timed.step shape outcome
  intro start started
  constructor <;> simp [(started_fresh started).phase]

theorem nextDeadline_isSome {s : ProtocolState} (armed : s.phaseDeadlineMs.isSome = true ∨
    s.activeRequest.isSome = true ∨ s.activeSession.isSome = true) :
    s.nextDeadlineMs.isSome = true := by
  have listed (deadline : Nat) (member : some deadline ∈ [s.phaseDeadlineMs, s.nextSignalPollMs,
      s.activeRequest.map (·.deadlineMs),
      s.activeSession.map fun a => min a.renewedUntilMs a.lease.expiresAtMs]) :
      s.nextDeadlineMs.isSome = true :=
    List.isSome_min?_of_mem (List.reduceOption_mem_iff.mpr member)
  rcases armed with phase | request | session
  · obtain ⟨deadline, phase⟩ := Option.isSome_iff_exists.mp phase
    exact listed deadline (by simp [phase])
  · obtain ⟨r, active⟩ := Option.isSome_iff_exists.mp request
    exact listed r.deadlineMs (by simp [active])
  · obtain ⟨a, running⟩ := Option.isSome_iff_exists.mp session
    exact listed (min a.renewedUntilMs a.lease.expiresAtMs) (by simp [running])

/-- Whatever a healthy daemon is in the middle of, a timer will wake it up. -/
theorem unfinished_has_deadline {timing : ProtocolTiming} {c : Clocked}
    (reachable : Reachable timing c) (healthy : c.state.daemonHealthy = true) :
    (c.state.phase ≠ .idle ∨ c.state.fallbackRequired = true → c.state.nextDeadlineMs.isSome = true) ∧
      (c.state.fallbackRequired = true →
        (c.state.phase = .fallbackCommandPending ∨ c.state.phase = .fallbackVerifying) ∧
          c.state.phaseDeadlineMs.isSome = true) := by
  have shape := reachable.sound.shape
  have timed := reachable.timed
  refine ⟨fun unfinished => ?_, fun owed => timed.restored shape owed healthy⟩
  apply nextDeadline_isSome
  rcases unfinished with busy | owed
  · cases phase : c.state.phase with
    | starting => exact absurd phase timed.begun
    | idle => exact absurd phase busy
    | waking =>
      obtain ⟨r, active, -⟩ := shape.waking phase
      exact .inr (.inl (by simp [active]))
    | switching => exact .inr (.inl (timed.switching (.inl phase)))
    | verifying => exact .inr (.inl (timed.switching (.inr phase)))
    | grantPending =>
      obtain ⟨r, active, -⟩ := shape.grantPending phase
      exact .inr (.inl (by simp [active]))
    | remoteOwned => exact .inr (.inr (shape.remoteOwned phase).2.1)
    | fallbackCommandPending => exact .inl (timed.restoring healthy (.inl phase))
    | fallbackVerifying => exact .inl (timed.restoring healthy (.inr phase))
    | fallbackDeferred => simp [shape.deferred phase] at healthy
    | multiviewChanging => exact .inl (timed.changing phase).2
  · exact .inl (timed.restored shape owed healthy).2

/-- A switch that expires owes the restoration of the display, which has its deadline. -/
theorem expired_switch_has_deadline : ∃ c, Reachable sampleTiming c ∧
    c.state.daemonHealthy = true ∧ c.state.fallbackRequired = true ∧
      c.state.nextDeadlineMs.isSome = true ∧ c.state.phaseDeadlineMs.isSome = true := by
  obtain ⟨c, reachable, healthy, owed⟩ := play_reachable Host.all (enterRight ++ [(.tick, 210)])
    (fun c => c.state.daemonHealthy = true ∧ c.state.fallbackRequired = true) (by decide)
  obtain ⟨timer, restoring⟩ := unfinished_has_deadline reachable healthy
  exact ⟨c, reachable, healthy, owed, timer (.inr owed), (restoring owed).2⟩

end DisplayMux.Tv
