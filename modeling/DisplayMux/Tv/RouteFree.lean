import DisplayMux.Tv.Moves
import DisplayMux.Tv.Progress

/-! A remote host without a display route owns the input. The display says nothing
about such a session, and as long as nobody reports an observation to the reducer
meanwhile, the reducer does not ask for one. -/
namespace DisplayMux.Tv

/-- The session of a host that has no display route owns the input. -/
structure RouteFree (s : ProtocolState) (a : ActiveSession) : Prop where
  owned : s.phase = .remoteOwned
  running : s.activeSession = some a
  unrouted : s.hasDisplayRoute a.target = false

instance (s : ProtocolState) (a : ActiveSession) : Decidable (RouteFree s a) :=
  decidable_of_iff (_ ∧ _ ∧ _) ⟨fun ⟨x, y, z⟩ => ⟨x, y, z⟩, fun ⟨x, y, z⟩ => ⟨x, y, z⟩⟩

def routeFree (s : ProtocolState) : Bool :=
  s.phase == .remoteOwned && s.activeSession.any fun a => !s.hasDisplayRoute a.target

theorem routeFree_iff {s : ProtocolState} : routeFree s = true ↔ ∃ a, RouteFree s a := by
  simp only [routeFree, Bool.and_eq_true, beq_iff_eq, Option.any_eq_true, Bool.not_eq_true']
  constructor
  · rintro ⟨owned, a, running, unrouted⟩
    exact ⟨a, owned, running, unrouted⟩
  · rintro ⟨a, owned, running, unrouted⟩
    exact ⟨owned, a, running, unrouted⟩

/-- The step does not let the display touch such a session: no poll is scheduled after
it, it asks for no observation of the session, and no observation ends the session. -/
structure Undisturbed (y : Step) : Prop where
  unpolled : ∀ a, RouteFree y.post.state a → y.post.state.nextSignalPollMs = none
  unasked : ∀ a, RouteFree y.pre.state a → .observe a.switchEpoch ∉ y.output.effects
  kept : ∀ a, RouteFree y.pre.state a → ∀ e mode input signals,
    y.input.1 = .observation e mode input signals → y.post.state.activeSession = some a

/-- The two events by which a report on the display reaches a remote owner: any
observation, and the acknowledgement of a multiview change that is still pending. -/
def Event.reports (s : ProtocolState) : Event → Bool
  | .observation _ _ _ _ => true
  | .multiViewAcknowledged switchEpoch enabled =>
    s.switchEpoch == switchEpoch && s.pendingMultiview == some enabled
  | _ => false

def Reply.isAccepted : Reply → Bool
  | .accepted _ => true
  | .rejected _ => false

/-- The reducer accepts such a report while a session without a display runs. -/
def reportsRouteFree (y : Step) : Bool :=
  routeFree y.pre.state && y.input.1.reports y.pre.state && y.output.isAccepted

/-- Neither a poll nor a question comes out of the step. -/
structure Calm (t : Transition) : Prop where
  unpolled : t.next.phase = .remoteOwned → t.next.nextSignalPollMs = none
  unasked : ∀ e, .observe e ∉ t.effects

section Steps

variable {s n : ProtocolState} {t : Transition} {event : Event} {nowMs : Nat}
  {timing : ProtocolTiming}

theorem calm_elsewhere (phase : n.phase ≠ .remoteOwned) : Calm ⟨n, []⟩ :=
  ⟨fun owned => absurd owned phase, by simp⟩

theorem calm_fallback {reason : String} {b : Bool} :
    Calm (beginFallbackWithRestore ⟨n, []⟩ nowMs timing reason b) := by
  refine ⟨by simp, fun e asked => ?_⟩
  rcases fallback_cases ⟨n, []⟩ nowMs timing reason b with
    ⟨-, -, -, -, -, sent⟩ | ⟨-, -, -, -, sent⟩ | ⟨-, -, -, -, -, sent⟩
  all_goals simp [sent] at asked

theorem calm_switch (began : beginSwitch ⟨n, []⟩ nowMs timing = .ok t) : Calm t := by
  obtain ⟨r, -, ⟨-, rfl⟩ | ⟨-, counts, rfl, -⟩⟩ := beginSwitch_ok began
  · exact ⟨by simp, by simp⟩
  · exact calm_elsewhere (by simp)

theorem Outcome.calm (outcome : Outcome s event nowMs timing t) (shape : Shape s)
    (owned : s.phase = .remoteOwned) (unpolled : s.nextSignalPollMs = none)
    (silent : event.reports s = false) : Calm t := by
  have free := (shape.remoteOwned owned).1
  cases outcome with
  | kept same => exact ⟨fun _ => same.poll.trans unpolled, by simp⟩
  | denied | renewed => exact ⟨fun _ => unpolled, by simp⟩
  | fellBack | calledOff => exact calm_fallback
  | closed closes | closedTwice closes | settled closes => simpa [free] using closes.active
  | finished | accepted | stopped => exact calm_elsewhere (by simp)
  | asked _ _ phase =>
    rcases phase with ⟨phase, -⟩ | ⟨phase, -⟩ | ⟨phase | phase, -⟩ | ⟨enabled, rfl, pending, -⟩
    all_goals first | simp [owned] at phase | simp [Event.reports, pending] at silent
  | polled _ _ due => simp [dueAt, unpolled] at due
  | answered _ _ seen => simp [seen, Event.reports] at silent
  | reverified same => exact calm_elsewhere (by simp)
  | granted _ active | restarted _ active => simp [free] at active
  | opened _ _ began => exact calm_switch began
  | woken => exact ⟨by simp, by simp⟩
  | committed commits => simpa [free] using commits.active
  | changed _ _ ended => simpa [ended] using (shape.remoteOwned owned).2.1
  | completed _ _ phase | commandedAgain phase => simp [owned] at phase

theorem Outcome.owned (outcome : Outcome s event nowMs timing t) (owned : t.next.phase = .remoteOwned) :
    (s.phase = .remoteOwned ∧
      t.next.activeSession.map (·.target) = s.activeSession.map (·.target)) ∨
    ∃ r e, t = ⟨commitRequest s r r.requestEpoch e nowMs timing, []⟩ := by
  cases outcome with
  | kept same | answered same => exact .inl ⟨same.phase.symm.trans owned, congrArg _ same.session⟩
  | asked _ _ phase =>
    rcases phase with ⟨-, moved⟩ | ⟨-, moved⟩ | ⟨before, stays⟩ | ⟨_, -, -, moved⟩
    all_goals simp_all
  | polled | denied => exact .inl ⟨owned, rfl⟩
  | renewed running => exact .inl ⟨owned, by simp [running]⟩
  | committed => exact .inr ⟨_, _, rfl⟩
  | fellBack | calledOff | closed =>
    rcases fallback_phase _ _ _ _ _ with phase | phase | phase
    all_goals exact absurd (phase.symm.trans owned) (by simp)
  | restarted _ _ began | opened _ _ began =>
    obtain ⟨r, -, ⟨-, rfl⟩ | ⟨-, counts, rfl, -⟩⟩ := beginSwitch_ok began
    · simp at owned
    · simp at owned
  | closedTwice | settled | finished | accepted | reverified | granted | woken | changed | completed
  | commandedAgain | stopped => simp at owned

theorem routeFree_unpolled (shape : Shape s) {past : Nat} (valid : Valid s past)
    (before : ∀ a, RouteFree s a → s.nextSignalPollMs = none)
    (silent : ∀ a, RouteFree s a → event.reports s = false)
    (applied : apply s event nowMs timing = .ok t) {a : ActiveSession} (after : RouteFree t.next a) :
    t.next.nextSignalPollMs = none := by
  have routes := (apply_moves shape valid applied).route
  rcases (apply_outcome shape valid applied).owned after.owned with ⟨owned, session⟩ | ⟨r, e, rfl⟩
  · rw [after.running, Option.map_some, eq_comm, Option.map_eq_some_iff] at session
    obtain ⟨a', running, same⟩ := session
    have free : RouteFree s a' := ⟨owned, running, by rw [same, ← routes]; exact after.unrouted⟩
    exact ((apply_outcome shape valid applied).calm shape owned (before a' free)
      (silent a' free)).unpolled after.owned
  obtain ⟨-, running, unrouted⟩ := after
  by_cases here : r.target = s.serverHost
  · simp [here] at running
  · simp only [commitRequest_activeSession, if_neg here, Option.some.injEq] at running
    subst running
    have unrouted : s.hasDisplayRoute r.target = false := unrouted
    simp [unrouted]

theorem reported_disturbs (shape : Shape s) (timed : Timed s) {a : ActiveSession} (free : RouteFree s a)
    (reports : event.reports s = true) (applied : apply s event nowMs timing = .ok t) :
    (∃ e mode input signals, event = .observation e mode input signals ∧
      (t.next.activeSession = none ∨
        (RouteFree t.next a ∧ t.next.nextSignalPollMs = some (saturatingAdd nowMs timing.signalPollMs)))) ∨
    .observe a.switchEpoch ∈ t.effects := by
  obtain ⟨owned, running, unrouted⟩ := free
  have request := (shape.remoteOwned owned).1
  have settled := shape.not_owed_of_session running
  cases event with
  | observation e mode input signals =>
    refine .inl ⟨e, mode, input, signals, rfl, ?_⟩
    rcases apply_ok.mp applied with reacted | ⟨reacted, -⟩
    · obtain ⟨_, -, other⟩ := map_ok.mp reacted
      contradiction
    obtain ⟨t', observed, same⟩ := map_ok.mp reacted
    cases same
    generalize landed : landObservation (storeObservation s e nowMs mode input signals) e = n
    have fields : n.fallbackRequired = false ∧ n.activeRequest = none ∧ n.phase = .remoteOwned ∧
        n.activeSession = some a ∧ n.hasDisplayRoute a.target = false := by
      subst landed
      exact ⟨settled, request, owned, running, unrouted⟩
    obtain ⟨h₁, h₂, h₃, h₄, h₅⟩ := fields
    simp only [applyObservation, landed, h₁, h₂, h₃, Bool.false_eq_true, false_and, if_false, if_true,
      Except.ok.injEq, observeSession, h₄] at observed
    subst observed
    split
    · exact .inl (by simp [beginActiveSessionFailureFallback, beginFallback])
    · exact .inr ⟨⟨h₃, h₄, h₅⟩, rfl⟩
  | multiViewAcknowledged e enabled =>
    have matching : s.switchEpoch = e ∧ s.pendingMultiview = some enabled := by
      simpa [Event.reports] using reports
    rcases apply_ok.mp applied with reacted | ⟨reacted, -⟩
    all_goals
      simp only [react, applyMultiViewAcknowledged, if_pos matching] at reacted
      cases reacted
    rw [timed.owned owned a running, matching.1]
    simp
  | _ => simp [Event.reports] at reports

end Steps

section Runs

variable {timing : ProtocolTiming} {start c : Clocked} {trace : List Step}

theorem run_unpolled (started : Started start) (run : Run (reducer timing) start trace c)
    (silent : ∀ y ∈ trace, reportsRouteFree y = false) :
    ∀ a, RouteFree c.state a → c.state.nextSignalPollMs = none := by
  have both : Sound c ∧ ∀ a, RouteFree c.state a → c.state.nextSignalPollMs = none := by
    refine run.invariant_where (C := fun y => reportsRouteFree y = false)
      (P := fun c => Sound c ∧ ∀ a, RouteFree c.state a → c.state.nextSignalPollMs = none)
      ⟨started_sound started, fun a free => ?_⟩ ?_ silent
    · exact absurd ((started_fresh started).phase.symm.trans free.owned) (by simp)
    rintro ⟨pre, input, output, post⟩ ⟨sound, before⟩ step silent
    refine ⟨sound.step step, fun a after => ?_⟩
    obtain ⟨past, -, valid⟩ := sound.valid
    obtain ⟨-, -, ⟨effects, applied, answer⟩ | ⟨error, -, -, same⟩⟩ := reducer_step step
    · refine routeFree_unpolled sound.shape valid before (fun a free => ?_) applied after
      have here := routeFree_iff.mpr ⟨a, free⟩
      have answer : output = .accepted effects := answer
      simpa [reportsRouteFree, here, answer, Reply.isAccepted] using silent
    · rw [same] at after ⊢
      exact before a after
  exact both.2

/-- A run leaves every session without a display route alone exactly when the reducer
accepts no report on the display while such a session runs. -/
theorem route_free_undisturbed_iff (started : Started start) (run : Run (reducer timing) start trace c) :
    (∀ y ∈ trace, Undisturbed y) ↔ ∀ y ∈ trace, reportsRouteFree y = false := by
  constructor
  · intro undisturbed y member
    by_contra reported
    simp only [reportsRouteFree, Bool.not_eq_false, Bool.and_eq_true, routeFree_iff] at reported
    obtain ⟨⟨⟨a, free⟩, reports⟩, accepted⟩ := reported
    obtain ⟨before, reached, step⟩ := run.entry_step member
    have reachable : Reachable timing y.pre := ⟨start, before, started, reached⟩
    have calm := undisturbed y member
    obtain ⟨-, -, ⟨effects, applied, answer⟩ | ⟨error, -, answer, -⟩⟩ := reducer_step step
    · rcases reported_disturbs reachable.sound.shape reachable.timed free reports applied with
        ⟨e, mode, input, signals, seen, ended | ⟨free', polled⟩⟩ | asked
      · have kept := calm.kept a free e mode input signals seen
        exact absurd (ended.symm.trans kept) (by simp)
      · have unpolled := calm.unpolled a free'
        exact absurd (polled.symm.trans unpolled) (by simp)
      · refine calm.unasked a free ?_
        rw [answer]
        exact asked
    · rw [answer] at accepted
      contradiction
  intro silent y member
  obtain ⟨before, after, rfl⟩ := List.append_of_mem member
  obtain ⟨reached, step, -⟩ := run.split rfl
  have sound := run_sound started reached
  obtain ⟨past, -, valid⟩ := sound.valid
  have unpolled := run_unpolled started reached fun z old => silent z (List.mem_append_left _ old)
  have unpolled' := run_unpolled started (reached.snoc step) fun z old => by
    rcases List.mem_append.mp old with old | new
    · exact silent z (List.mem_append_left _ old)
    · rw [List.mem_singleton.mp new]
      exact silent y member
  obtain ⟨-, -, ⟨effects, applied, answer⟩ | ⟨error, -, answer, same⟩⟩ := reducer_step step
  · have quiet (a : ActiveSession) (free : RouteFree y.pre.state a) :
        y.input.1.reports y.pre.state = false := by
      have here := routeFree_iff.mpr ⟨a, free⟩
      simpa [reportsRouteFree, here, answer, Reply.isAccepted] using silent y member
    refine ⟨unpolled', fun a free => ?_, fun a free e mode input signals seen => ?_⟩
    · rw [answer]
      exact ((apply_outcome sound.shape valid applied).calm sound.shape free.owned (unpolled a free)
        (quiet a free)).unasked _
    · have reported := quiet a free
      rw [seen] at reported
      contradiction
  refine ⟨unpolled', fun a free => ?_, fun a free e mode input signals seen => ?_⟩
  · rw [answer]
    simp [Reply.effects]
  · rw [same]
    exact free.running

/-- The left host has no display route. -/
def enterLeft : List (Event × Nat) :=
  [(.transportSynchronized .fullscreen (some .controller) (signalAt .controller), 1),
    (.peerReadinessUpdated .left ⟨true, true, true, 12, 2⟩, 2),
    (.createEnter "r1" "user" .left ⟨"lease", 1, 12, 1000⟩, 10), (.commit "r1" 1 1 "lease" 1, 12)]

theorem left_session_undisturbed : ∃ start trace c, Started start ∧
    Run (reducer sampleTiming) start trace c ∧ (∃ a, RouteFree c.state a) ∧
    (∀ y ∈ trace, reportsRouteFree y = false) ∧ ∀ y ∈ trace, Undisturbed y := by
  obtain ⟨start, trace, c, started, run, free, unreported⟩ := play_run sampleTiming [.controller, .right]
    (enterLeft ++ [(.subscriptionObserved .fullscreen (some .right), 20), (.tick, 200)])
    (fun trace c => routeFree c.state = true ∧ ∀ y ∈ trace, reportsRouteFree y = false) (by decide +kernel)
  exact ⟨start, trace, c, started, run, routeFree_iff.mp free, unreported,
    (route_free_undisturbed_iff started run).mpr unreported⟩

/-- A multiview change asks for an observation, and the left host is entered before the
answer comes. The answer schedules a poll, the poll asks about the display of the
session, and what it shows ends the session. -/
theorem late_observation_ends_route_free : ∃ start trace c, Started start ∧
    Run (reducer sampleTiming) start trace c ∧
    (∃ x ∈ trace, ∃ a, RouteFree x.post.state a ∧ x.post.state.nextSignalPollMs = some 120) ∧
    (∃ y ∈ trace, ∃ a, RouteFree y.pre.state a ∧ .observe a.switchEpoch ∈ y.output.effects) ∧
    (∃ z ∈ trace, ∃ a, RouteFree z.pre.state a ∧ z.input.1 = .observation 2 .fullscreen
      (some .controller) (signalAt .controller) ∧ z.post.state.activeSession = none) := by
  obtain ⟨start, trace, c, started, run, ⟨x, inX, a, -, polled⟩, ⟨y, inY, b, -, asked⟩,
    z, inZ, d, -, ended⟩ := play_run sampleTiming [.controller, .right]
    (enterLeft.take 2 ++ [(.multiViewRequested true, 5), (.multiViewAcknowledged 1 true, 6)] ++
      enterLeft.drop 2 ++ [(.observation 1 .multiview (some .controller) (signalAt .controller), 20),
        (.tick, 120), (.observation 2 .fullscreen (some .controller) (signalAt .controller), 130)])
    (fun trace _ => (∃ x ∈ trace, ∃ a, x.post.state.activeSession = some a ∧ RouteFree x.post.state a ∧
        x.post.state.nextSignalPollMs = some 120) ∧
      (∃ y ∈ trace, ∃ a, y.pre.state.activeSession = some a ∧ RouteFree y.pre.state a ∧
        .observe a.switchEpoch ∈ y.output.effects) ∧
      ∃ z ∈ trace, ∃ a, z.pre.state.activeSession = some a ∧ RouteFree z.pre.state a ∧
        z.input.1 = .observation 2 .fullscreen (some .controller) (signalAt .controller) ∧
        z.post.state.activeSession = none) (by decide +kernel)
  exact ⟨start, trace, c, started, run, ⟨x, inX, a, polled⟩, ⟨y, inY, b, asked⟩, z, inZ, d, ended⟩

end Runs

end DisplayMux.Tv
