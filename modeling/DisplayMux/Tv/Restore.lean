import DisplayMux.Tv.Moves

/-! The display after a failure. A request that has switched the TV and a session
on a routed host both use the display; when one of them ends, the TV has to be
brought back to the server. All paths ask for that before they let go of the
request, except the cancellation of the active request. -/
namespace DisplayMux.Tv

/-- A request that has switched the TV, or a session, is on a routed host. -/
def displayInUse (s : ProtocolState) : Bool :=
  (s.activeRequest.any fun r => r.switchEpoch.isSome && s.hasDisplayRoute r.target) ||
    s.activeSession.any fun a => s.hasDisplayRoute a.target

/-- The step from `s` to `n` takes away a request or a session that uses the display. -/
def EndsDisplayUse (s n : ProtocolState) : Prop :=
  (n.activeRequest = none ∧
      (s.activeRequest.any fun r => r.switchEpoch.isSome && s.hasDisplayRoute r.target) = true) ∨
    (n.activeSession = none ∧ (s.activeSession.any fun a => s.hasDisplayRoute a.target) = true)

/-- The events that end a request or a session because something went wrong or
was called off. A commit is one of them when it finds the target not ready. -/
def givesUp (s : ProtocolState) : Event → Bool
  | .cancel _ _ | .tick | .commandFailed _ _ | .peerReadinessUpdated _ _
  | .subscriptionObserved _ _ | .renew _ _ _ _ | .transportDisconnected _ => true
  | .commit _ _ _ _ _ => s.activeRequest.any fun r => r.target != s.serverHost &&
      !(s.peers.get r.target).any fun p => p.bundleReady r.lease.peerSessionEpoch
  | _ => false

instance (s n : ProtocolState) : Decidable (EndsDisplayUse s n) := inferInstanceAs (Decidable (_ ∨ _))

/-- The fallback is owed, and under way when the TV can be reached. -/
def Restores (t : Transition) : Prop :=
  t.next.fallbackRequired = true ∧
    (t.next.daemonHealthy = true → .setInput t.next.serverHost t.next.switchEpoch true ∈ t.effects)

/-- The cancellation of a request that is not the session's: the request is taken
out before the display is looked at, so only a pending change of the multi-view
or a session on a routed host still asks for the display. -/
def forgetsDisplay (s : ProtocolState) : Event → Bool
  | .cancel requestId _ => !(s.activeSession.any fun a => a.requestId == requestId) &&
      !(s.pendingMultiview.isSome || s.activeSession.any fun a => s.hasDisplayRoute a.target)
  | _ => false

section Fallback

variable {s n : ProtocolState} {t : Transition} {nowMs : Nat} {timing : ProtocolTiming}

theorem EndsDisplayUse.inUse (ends : EndsDisplayUse s n) : displayInUse s = true := by
  rcases ends with ⟨-, used⟩ | ⟨-, used⟩ <;> simp [displayInUse, used]

theorem not_endsDisplayUse (request : n.activeRequest = s.activeRequest)
    (session : n.activeSession = s.activeSession) : ¬ EndsDisplayUse s n := by
  rintro (⟨gone, used⟩ | ⟨gone, used⟩)
  · rw [request] at gone
    simp [gone] at used
  · rw [session] at gone
    simp [gone] at used

theorem restore_of_inUse (used : displayInUse s = true) : displayRestoreRequired s = true := by
  simp only [displayInUse, Bool.or_eq_true] at used
  rcases used with used | used <;> simp [displayRestoreRequired, used]

theorem fallback_restores (t : Transition) (nowMs : Nat) (timing : ProtocolTiming) (reason : String)
    (b : Bool) : Restores (beginFallbackWithRestore t nowMs timing reason b) ↔ b = true := by
  constructor
  · intro restored
    simpa using restored.1
  rintro rfl
  refine ⟨by simp, fun healthy => ?_⟩
  rcases fallback_cases t nowMs timing reason true with
    ⟨-, -, -, -, -, sent⟩ | ⟨down, -⟩ | ⟨off, -⟩
  · simp [sent]
  · simp [down] at healthy
  · contradiction

theorem SameBooks.ends {event : Event} (same : SameBooks event s n) : ¬ EndsDisplayUse s n :=
  not_endsDisplayUse same.request same.session

theorem switch_endsNothing (h : beginSwitch ⟨n, []⟩ nowMs timing = .ok t)
    (session : n.activeSession = s.activeSession) : ¬ EndsDisplayUse s t.next := by
  obtain ⟨_, -, ⟨-, rfl⟩ | ⟨-, _, rfl, -⟩⟩ := beginSwitch_ok h
  all_goals
    rintro (⟨gone, -⟩ | ⟨gone, used⟩)
    · simp at gone
    · simp_all

theorem cancelled_restores {requestId reason : String} {r r' : EnterRequest} (closes : Closes s r r')
    (shape : Shape s) (same : SameBooks (.cancel requestId reason) ((takeActive s r).archiveRequest r') n)
    (unnamed : (s.activeSession.any fun a => a.requestId == requestId) = false) :
    displayRestoreRequired n = true ↔ forgetsDisplay s (.cancel requestId reason) = false := by
  have settled := shape.not_owed_of_request closes.active
  rw [same.restore]
  cases pending : s.pendingMultiview <;>
    simp [displayRestoreRequired, forgetsDisplay, settled, unnamed, pending, ProtocolState.hasDisplayRoute]

theorem unforgotten {event : Event} (uncancelled : event.cancels = false) :
    forgetsDisplay s event = false := by
  cases event with
  | cancel => contradiction
  | _ => rfl

/-- A failure that ends the use of the display restores it, unless the active request is
cancelled and nothing else asks for the display. -/
theorem Outcome.restores {event : Event} (outcome : Outcome s event nowMs timing t) (shape : Shape s)
    (failure : givesUp s event = true) (ends : EndsDisplayUse s t.next) :
    Restores t ↔ forgetsDisplay s event = false := by
  have used := restore_of_inUse ends.inUse
  cases outcome with
  | kept same | asked same | answered same | reverified same | completed same =>
    exact absurd ends same.ends
  | polled | denied | commandedAgain => exact absurd ends (not_endsDisplayUse rfl rfl)
  | fellBack _ restore uncancelled =>
    exact iff_of_true ((fallback_restores _ _ _ _ _).mpr (restore.trans used)) (unforgotten uncancelled)
  | calledOff running asked =>
    refine iff_of_true ((fallback_restores _ _ _ _ _).mpr used) ?_
    simp [asked, forgetsDisplay, running]
  | @closed r r' n reason b closes same cause =>
    rw [fallback_restores]
    rcases cause with ⟨uncancelled, restore | ⟨unswitched, restore⟩⟩ | ⟨requestId, rfl, rfl, unnamed⟩
    · exact iff_of_true (restore.trans used) (unforgotten uncancelled)
    · -- a request that never switched does not use the display, so the session does
      refine iff_of_true ?_ (unforgotten uncancelled)
      rcases ends with ⟨-, used⟩ | ⟨-, used⟩
      · simp [closes.active, unswitched] at used
      · rw [restore, same.restore]
        simp only [displayRestoreRequired, takeActive_activeSession, ProtocolState.archiveRequest]
        simpa using .inr used
    · exact cancelled_restores closes shape same unnamed
  | closedTwice _ _ restore _ uncancelled =>
    exact iff_of_true ⟨by simp [restore], by simp⟩ (unforgotten uncancelled)
  | settled closes _ unswitched =>
    rcases ends with ⟨-, used⟩ | ⟨gone, used⟩
    · simp [closes.active, unswitched] at used
    · have gone : s.activeSession = none := gone
      simp [gone] at used
  | finished _ cause =>
    rcases cause with ⟨-, -, _, _, _, rfl⟩ | ⟨_, _, _, rfl, -⟩ <;> simp [givesUp] at failure
  | accepted _ free ended => simpa [displayInUse, free, ended] using ends.inUse
  | granted same =>
    rcases ends with ⟨gone, -⟩ | ends
    · simp at gone
    · exact absurd (.inr ends) same.ends
  | restarted same _ began => exact absurd ends (switch_endsNothing began same.session)
  | opened admits | woken admits => simp [admits.asked, givesUp] at failure
  | committed commits =>
    obtain ⟨g, -, -, rfl⟩ := commits.granted
    simp only [givesUp, commits.active, Option.any_some, Bool.and_eq_true, bne_iff_ne] at failure
    simp [commits.ready failure.1] at failure
  | renewed running =>
    rcases ends with ⟨gone, used⟩ | ⟨gone, -⟩
    · simp_all
    · simp at gone
  | changed _ _ _ asked => simp [asked, givesUp] at failure
  | stopped shut => simp [shut, givesUp] at failure

end Fallback

/-- The display is restored after every failure of a reachable state, except when
the active request is cancelled and nothing else asks for the display. -/
theorem display_restored_iff {timing : ProtocolTiming} {c : Clocked} {event : Event} {nowMs : Nat}
    {t : Transition} (reachable : Reachable timing c)
    (applied : apply c.state event nowMs timing = .ok t) (failure : givesUp c.state event = true)
    (ends : EndsDisplayUse c.state t.next) :
    Restores t ↔ forgetsDisplay c.state event = false := by
  obtain ⟨shape, k, -, valid⟩ := reachable.sound
  exact (apply_outcome shape valid applied).restores shape failure ends

theorem expired_switch_restores : ∃ c t, Reachable sampleTiming c ∧
    apply c.state .tick 210 sampleTiming = .ok t ∧ EndsDisplayUse c.state t.next ∧ Restores t := by
  obtain ⟨c, reachable, t, ticked, ends⟩ := play_reachable Host.all enterRight
    (fun c => ∃ t, apply c.state .tick 210 sampleTiming = .ok t ∧ EndsDisplayUse c.state t.next) (by decide)
  exact ⟨c, t, reachable, ticked, ends, (display_restored_iff reachable ticked rfl ends).mpr rfl⟩

/-- The request of `enterRight` is cancelled after the TV was told to switch: the
daemon is connected, and still it neither owes nor starts a fallback. -/
theorem cancelled_switch_forgets_display : ∃ c t, Reachable sampleTiming c ∧
    apply c.state (.cancel "r1" "user left") 11 sampleTiming = .ok t ∧
    EndsDisplayUse c.state t.next ∧ t.next.daemonHealthy = true ∧
    t.next.fallbackRequired = false ∧ t.effects = [] := by
  simp only [exists_and_left]
  exact play_reachable Host.all enterRight _ (by decide)

/-- The step from owing a fallback to not owing one. -/
def ClearsFallback (y : Step) : Prop :=
  y.pre.state.fallbackRequired = true ∧ y.post.state.fallbackRequired = false

instance (y : Step) : Decidable (ClearsFallback y) := inferInstanceAs (Decidable (_ ∧ _))

theorem recovery_ends_on_evidence {timing : ProtocolTiming} {start c : Clocked} {trace : List Step}
    (started : Started start) (run : Run (reducer timing) start trace c) {y : Step}
    (member : y ∈ trace) (cleared : ClearsFallback y) :
    ∃ effects, y.output = .accepted effects ∧
      Recovered y.pre.state y.input.1 ⟨y.post.state, effects⟩ := by
  obtain ⟨earlier, past, step⟩ := run.entry_step member
  obtain ⟨owed, settled⟩ := cleared
  obtain ⟨effects, answer, moves⟩ | ⟨error, -, same⟩ := (run_sound started past).moves step
  · rcases moves.recovery owed with still | evidence
    · simp [settled] at still
    · exact ⟨effects, answer, evidence⟩
  · simp [same, owed] at settled

theorem recovery_ends_on_synchronization : ∃ start trace c y, Started start ∧
    Run (reducer sampleTiming) start trace c ∧ y ∈ trace ∧ ClearsFallback y ∧
    ∃ effects, y.output = .accepted effects ∧
      Recovered y.pre.state y.input.1 ⟨y.post.state, effects⟩ := by
  obtain ⟨start, trace, c, started, run, y, member, cleared⟩ := play_run sampleTiming Host.all enterRight
    (fun trace _ => ∃ y ∈ trace, ClearsFallback y) (by decide)
  exact ⟨start, trace, c, y, started, run, member, cleared,
    recovery_ends_on_evidence started run member cleared⟩

end DisplayMux.Tv
