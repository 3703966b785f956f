import DisplayMux.Tv.Steps

/-! The structural invariant of the reducer: how phase, request, session, owed
fallback and timers fit together. Every helper keeps it without the help of
`validate`; the one fact that needs a validated state is that a host which is
still being woken is not the host that owns the input. -/
namespace DisplayMux.Tv

structure RequestShape (s : ProtocolState) (r : EnterRequest) : Prop where
  current : ∀ e, r.switchEpoch = some e → e = s.switchEpoch
  waking : r.status = .waking ↔ r.switchEpoch = none
  inProgress : r.status = .waking ∨ r.status = .switching ∨ r.status = .grant
  remote : r.switchEpoch = none → r.target ≠ s.serverHost
  apart : r.switchEpoch = none → ∀ a, s.activeSession = some a → r.target ≠ a.target
  inRange : ∀ g, r.grant = some g → g.expiresAtMs ≤ u64Max

structure SessionShape (s : ProtocolState) (a : ActiveSession) : Prop where
  keyboard : s.keyboardOwner = a.target
  pointer : s.pointerOwner = a.target
  remote : a.target ≠ s.serverHost
  inRange : a.renewedUntilMs ≤ u64Max

structure Holdings (s : ProtocolState) : Prop where
  serverRouted : s.hasDisplayRoute s.serverHost = true
  counted : ∀ h, (s.switchCount.get h).isSome = true
  session : ∀ a, s.activeSession = some a → SessionShape s a
  request : ∀ r, s.activeRequest = some r → RequestShape s r

/-- What each phase says about the rest of the state. -/
structure Phases (s : ProtocolState) : Prop where
  owed : s.fallbackRequired = true → s.activeRequest = none ∧ s.activeSession = none ∧
    s.pendingMultiview = none ∧ (s.phase = .fallbackCommandPending ∨ s.phase = .fallbackVerifying ∨
      s.phase = .fallbackDeferred)
  owing : s.phase = .fallbackCommandPending ∨ s.phase = .fallbackVerifying →
    s.fallbackRequired = true
  deferred : s.phase = .fallbackDeferred → s.daemonHealthy = false
  waking : s.phase = .waking → ∃ r, s.activeRequest = some r ∧ r.status = .waking ∧
    s.phaseDeadlineMs = some r.deadlineMs
  grantPending : s.phase = .grantPending → ∃ r, s.activeRequest = some r ∧ r.status = .grant ∧
    s.phaseDeadlineMs = some r.deadlineMs
  remoteOwned : s.phase = .remoteOwned → s.activeRequest = none ∧ s.activeSession.isSome = true ∧
    (s.phaseDeadlineMs.isSome = true → s.observationInFlight.isSome = true)
  quiet : s.phase = .idle ∨ s.phase = .fallbackDeferred ∨ s.phase = .starting →
    s.phaseDeadlineMs = none
  polled : s.phase = .fallbackCommandPending ∨ s.phase = .fallbackVerifying →
    s.phaseDeadlineMs.isSome = true → s.nextSignalPollMs = none

structure Shape (s : ProtocolState) : Prop extends Holdings s, Phases s

def ProtocolState.holdings (s : ProtocolState) :=
  (s.serverHost, s.displayHosts, s.switchCount, s.switchEpoch, s.keyboardOwner, s.pointerOwner,
    s.activeRequest, s.activeSession)

def ProtocolState.timers (s : ProtocolState) :=
  (s.daemonHealthy, s.phase, s.activeRequest, s.activeSession, s.pendingMultiview,
    s.observationInFlight, s.phaseDeadlineMs, s.nextSignalPollMs, s.fallbackRequired)

variable {a : ActiveSession}

section Frames

variable {s n : ProtocolState}

theorem SessionShape.frame (shape : SessionShape s a)
    (server : n.serverHost = s.serverHost) (keyboard : n.keyboardOwner = s.keyboardOwner)
    (pointer : n.pointerOwner = s.pointerOwner) : SessionShape n a :=
  ⟨keyboard.trans shape.keyboard, pointer.trans shape.pointer, server ▸ shape.remote,
    shape.inRange⟩

theorem RequestShape.frame {r : EnterRequest} (shape : RequestShape s r)
    (session : n.activeSession = s.activeSession ∨ n.activeSession = none)
    (server : n.serverHost = s.serverHost) (epoch : n.switchEpoch = s.switchEpoch) :
    RequestShape n r := by
  refine ⟨epoch ▸ shape.current, shape.waking, shape.inProgress, server ▸ shape.remote, ?_,
    shape.inRange⟩
  intro fresh a running
  rcases session with same | ended
  · exact shape.apart fresh a (same ▸ running)
  · rw [ended] at running
    contradiction

theorem Holdings.frame (held : Holdings s) (same : n.holdings = s.holdings) : Holdings n := by
  simp only [ProtocolState.holdings, Prod.mk.injEq] at same
  obtain ⟨server, routes, counts, epoch, keyboard, pointer, request, session⟩ := same
  refine ⟨?_, counts ▸ held.counted, ?_, ?_⟩
  · have routed := held.serverRouted
    rwa [ProtocolState.hasDisplayRoute, ← server, ← routes] at routed
  · intro a running
    exact (held.session a (session ▸ running)).frame server keyboard pointer
  · intro r active
    exact (held.request r (request ▸ active)).frame (.inl session) server epoch

theorem Phases.frame (fit : Phases s) (same : n.timers = s.timers) : Phases n := by
  simp only [ProtocolState.timers, Prod.mk.injEq] at same
  obtain ⟨healthy, phase, request, session, multiview, flight, deadline, poll, fallback⟩ := same
  obtain ⟨h₁, h₂, h₃, h₄, h₅, h₆, h₇, h₈⟩ := fit
  constructor
  all_goals
    rw [phase]
    try simp only [healthy, request, session, multiview, flight, deadline, poll, fallback]
    assumption

theorem Shape.frame (shape : Shape s) (held : n.holdings = s.holdings) (fit : n.timers = s.timers) :
    Shape n :=
  ⟨shape.toHoldings.frame held, shape.toPhases.frame fit⟩

theorem Phases.not_owed_of_request (fit : Phases s) {r : EnterRequest}
    (active : s.activeRequest = some r) : s.fallbackRequired = false := by
  by_contra owed
  have none := (fit.owed (by simpa using owed)).1
  simp [active] at none

theorem Phases.not_owed_of_session (fit : Phases s)
    (running : s.activeSession = some a) : s.fallbackRequired = false := by
  by_contra owed
  have none := (fit.owed (by simpa using owed)).2.1
  simp [running] at none

end Frames

section Helpers

variable {s n : ProtocolState} {t t' : Transition} {nowMs : Nat} {timing : ProtocolTiming}

theorem fallback_shape {reason : String} {b : Bool}
    (routed : t.next.hasDisplayRoute t.next.serverHost = true)
    (counted : ∀ h, (t.next.switchCount.get h).isSome = true) :
    Shape (beginFallbackWithRestore t nowMs timing reason b).next := by
  refine ⟨⟨by simpa using routed, by simpa using counted, by simp, by simp⟩, ?_⟩
  rcases fallback_cases t nowMs timing reason b with
    ⟨rfl, -, phase, deadline, -⟩ | ⟨healthy, phase, deadline, -⟩ | ⟨rfl, -, phase, deadline, -⟩
  · constructor <;> simp [phase, deadline]
  · constructor <;> simp [phase, deadline, healthy]
  · constructor <;> simp [phase, deadline]

theorem Holdings.finished {counts : HostMap Nat} (held : Holdings s)
    (kept : ∀ k, (s.switchCount.get k).isSome = true → (counts.get k).isSome = true) :
    Shape (setCount (fallbackFinished s) counts) := by
  refine ⟨⟨held.serverRouted, fun k => kept k (held.counted k), by simp, ?_⟩, ?_⟩
  · exact fun r active => (held.request r active).frame (.inr rfl) rfl rfl
  · constructor <;> simp

theorem Holdings.accept (held : Holdings s) (none : s.activeRequest = none) :
    Shape (acceptManualDisplay s) := by
  refine ⟨⟨held.serverRouted, held.counted, by simp, by simp [none]⟩, ?_⟩
  constructor <;> simp

variable {r : EnterRequest}

theorem grantIssued_shape {counts : HostMap Nat} (routed : s.hasDisplayRoute s.serverHost = true)
    (counted : ∀ h, (counts.get h).isSome = true)
    (session : ∀ a, s.activeSession = some a → SessionShape s a)
    (settled : s.fallbackRequired = false) (epoch : r.switchEpoch = some s.switchEpoch) :
    Shape (setCount (grantIssued s r s.switchEpoch nowMs timing) counts) := by
  refine ⟨⟨routed, counted, fun a running => (session a running).frame rfl rfl rfl, ?_⟩, ?_⟩
  · rintro r' ⟨⟩
    refine ⟨?_, ?_, ?_, ?_, ?_, ?_⟩
    · simp [epoch]
    · simp [epoch]
    · simp
    · simp [epoch]
    · simp [epoch]
    · rintro g ⟨⟩
      exact Nat.le_trans (Nat.min_le_left _ _) (saturatingAdd_le_max _ _)
  · constructor <;> simp [settled]

/-- A new switch asks nothing of the request that it starts, beyond the range of
an old grant. -/
theorem switch_shape (h : beginSwitch t nowMs timing = .ok t')
    (routed : t.next.hasDisplayRoute t.next.serverHost = true)
    (counted : ∀ h, (t.next.switchCount.get h).isSome = true)
    (session : ∀ a, t.next.activeSession = some a → SessionShape t.next a)
    (settled : t.next.fallbackRequired = false)
    (inRange : ∀ r g, t.next.activeRequest = some r → r.grant = some g → g.expiresAtMs ≤ u64Max) :
    Shape t'.next := by
  obtain ⟨r, active, ⟨-, rfl⟩ | ⟨-, counts, rfl, kept⟩⟩ := beginSwitch_ok h
  · refine ⟨⟨routed, counted, fun a running => (session a running).frame rfl rfl rfl, ?_⟩, ?_⟩
    · rintro r' ⟨⟩
      refine ⟨?_, ?_, ?_, ?_, ?_, fun g => inRange r g active⟩ <;> simp
    · constructor <;> simp [settled]
  · exact grantIssued_shape (s := switchUncommanded (switchStarted t.next r nowMs timing)) routed
      (fun k => kept k (counted k)) (fun a running => (session a running).frame rfl rfl rfl) settled rfl

theorem Shape.wake (shape : Shape s) (settled : s.fallbackRequired = false)
    (fresh : r.switchEpoch = none) (ungranted : r.grant = none) (remote : r.target ≠ s.serverHost)
    (apart : ∀ a, s.activeSession = some a → r.target ≠ a.target) :
    Shape (startWaking s r nowMs timing) := by
  refine ⟨⟨shape.serverRouted, shape.counted,
    fun a running => (shape.session a running).frame rfl rfl rfl, ?_⟩,
    ?_⟩
  · rintro r' ⟨⟩
    refine ⟨?_, ?_, ?_, fun _ => remote, fun _ => apart, ?_⟩ <;> simp [fresh, ungranted]
  · constructor <;> simp [settled]

theorem Shape.commit {requestEpoch e : Nat} (shape : Shape s) :
    Shape (commitRequest s r requestEpoch e nowMs timing) := by
  refine ⟨⟨shape.serverRouted, shape.counted, ?_, by simp⟩, ?_⟩
  · intro a running
    by_cases here : r.target = s.serverHost
    · simp [here] at running
    · simp only [commitRequest_activeSession, here, if_false, Option.some.injEq] at running
      subst running
      exact ⟨rfl, rfl, here, saturatingAdd_le_max _ _⟩
  · by_cases here : r.target = s.serverHost
    · constructor <;> simp [here]
    · constructor <;> simp [here]

theorem Shape.settle (shape : Shape s) (active : s.activeRequest = some r)
    (archived : EnterRequest) : Shape (settleIdle ((takeActive s r).archiveRequest archived)) := by
  have settled := shape.not_owed_of_request active
  refine ⟨⟨shape.serverRouted, shape.counted, fun a running => (shape.session a running).frame rfl rfl rfl,
    by simp⟩, ?_⟩
  constructor <;> simp [settled]

end Helpers

section Handlers

variable {s n : ProtocolState} {t t' : Transition} {nowMs : Nat} {timing : ProtocolTiming}

theorem Shape.reverify (shape : Shape s) (owed : s.fallbackRequired = true) :
    Shape (setPhase s .fallbackVerifying) := by
  obtain ⟨free, ended, still, phase⟩ := shape.owed owed
  refine ⟨shape.toHoldings.frame rfl, ?_⟩
  rcases phase with pending | verifying | deferred
  · constructor <;> simp [owed, free, ended, still]
    exact shape.polled (.inl pending)
  · constructor <;> simp [owed, free, ended, still]
    exact shape.polled (.inr verifying)
  · have unset := shape.quiet (.inr (.inl deferred))
    constructor <;> simp [owed, free, ended, still, unset]

theorem Shape.renewed (shape : Shape s) (running : s.activeSession = some a) :
    Shape (setSession s (renewedSession a nowMs timing)) := by
  have old := shape.session a running
  refine ⟨⟨shape.serverRouted, shape.counted, ?_, ?_⟩, ?_⟩
  · rintro a' ⟨⟩
    exact ⟨old.keyboard, old.pointer, old.remote, saturatingAdd_le_max _ _⟩
  · intro r active
    have asked := shape.request r active
    refine ⟨asked.current, asked.waking, asked.inProgress, asked.remote, ?_, asked.inRange⟩
    rintro fresh a' ⟨⟩
    exact asked.apart fresh a running
  · have settled := shape.not_owed_of_session running
    obtain ⟨-, h₂, h₃, h₄, h₅, h₆, h₇, h₈⟩ := shape.toPhases
    exact ⟨by simp [settled], h₂, h₃, h₄, h₅, fun owned => ⟨(h₆ owned).1, rfl, (h₆ owned).2.2⟩,
      h₇, h₈⟩

theorem ready_settled (ready : s.ready = true) : s.fallbackRequired = false := by
  simp only [ProtocolState.ready, Bool.and_eq_true, Bool.not_eq_true'] at ready
  exact ready.1.2

/-- The display report shows the target that is being verified. -/
def VerifiesAgain (s : ProtocolState) (mode : TvMode) (input : Option Host) : Prop :=
  s.phase = .verifying ∧ s.observationInFlight = none ∧
    ∃ r, s.activeRequest = some r ∧ mode = .fullscreen ∧ input = some r.target

theorem subscription_cases (s : ProtocolState) (mode : TvMode) (input : Option Host) (nowMs : Nat)
    (timing : ProtocolTiming) :
    let n := storeDisplay s mode input
    let t := applySubscriptionObserved s mode input nowMs timing
    let shows (h : Host) := mode = .fullscreen ∧ input = some h
    let sessionShown := ∀ a, s.activeSession = some a → s.hasDisplayRoute a.target = true →
      shows a.target
    (((s.phase = .fallbackVerifying ∧ s.fallbackRequired = true) ∨ VerifiesAgain s mode input) ∧
      t = requestObservationPreservingDeadline ⟨n, []⟩ nowMs timing s.switchEpoch) ∨
    (¬ VerifiesAgain s mode input ∧
      ((∃ reason, t = beginFallback ⟨n, []⟩ nowMs timing reason) ∨
      (manualDisplayObserved n = true ∧ t = ⟨acceptManualDisplay n, []⟩) ∨
      (sessionShown ∧ (t = ⟨setRecoveryTarget n none, []⟩ ∨ t = ⟨n, []⟩)))) := by
  have shownOf : ¬ ((s.activeSession.map (·.target)).any fun target =>
      (storeDisplay s mode input).hasDisplayRoute target &&
        !(mode == .fullscreen && input == some target)) = true →
      ∀ a, s.activeSession = some a → s.hasDisplayRoute a.target = true →
        mode = .fullscreen ∧ input = some a.target := by
    intro none a running routed
    have route : (storeDisplay s mode input).hasDisplayRoute a.target = true := routed
    simpa [running, route] using none
  generalize applied : applySubscriptionObserved s mode input nowMs timing = t
  dsimp only [applySubscriptionObserved, reactToSubscription] at applied
  split at applied
  · rename_i again
    exact .inl ⟨.inl ⟨again.2.1, again.1⟩, applied.symm⟩
  split at applied
  · rename_i again
    obtain ⟨target, asked, shown⟩ := Option.any_eq_true _ _ |>.mp again.2.1
    obtain ⟨r, active, rfl⟩ := Option.map_eq_some_iff.mp asked
    have landed : s.observationInFlight = none := by simpa using again.2.2
    exact .inl ⟨.inr ⟨again.1, landed, r, active, by simpa using shown⟩, applied.symm⟩
  rename_i other
  refine .inr ⟨?_, ?_⟩
  · rintro ⟨phase, landed, r, active, full, shown⟩
    exact other ⟨phase, by simp [active, full, shown], by simp [landed]⟩
  split at applied
  · exact .inl ⟨_, applied.symm⟩
  split at applied
  · exact .inl ⟨_, applied.symm⟩
  rename_i on
  have shown := shownOf on
  split at applied
  · rename_i manual
    exact .inr (.inl ⟨manual, applied.symm⟩)
  split at applied
  · exact .inr (.inr ⟨shown, .inl applied.symm⟩)
  · split at applied
    · exact .inl ⟨_, applied.symm⟩
    · exact .inr (.inr ⟨shown, .inr applied.symm⟩)

theorem expire_cases (s : ProtocolState) (nowMs : Nat) (timing : ProtocolTiming) :
    ((∀ r, s.activeRequest = some r → nowMs < r.deadlineMs) ∧
      expireRequest s nowMs timing = ⟨s, []⟩) ∨
    (∃ r, s.activeRequest = some r ∧ r.deadlineMs ≤ nowMs ∧ r.status = .waking ∧
      expireRequest s nowMs timing = ⟨settleIdle ((takeActive s r).archiveRequest
        { r with status := .expired, reason := some "request_deadline" }), []⟩) ∨
    (∃ r, s.activeRequest = some r ∧ r.deadlineMs ≤ nowMs ∧ r.status ≠ .waking ∧
      expireRequest s nowMs timing = beginFallbackWithRestore ⟨(takeActive s r).archiveRequest
        { r with status := .expired, reason := some "request_deadline" }, []⟩ nowMs timing
        "request_deadline" (displayRestoreRequired s)) := by
  unfold expireRequest
  split
  · rename_i free
    exact .inl ⟨by simp [free], rfl⟩
  rename_i r active
  split
  · rename_i due
    split
    · rename_i status
      exact .inr (.inl ⟨r, active, due, status, rfl⟩)
    · rename_i status
      exact .inr (.inr ⟨r, active, due, status, rfl⟩)
  · rename_i waits
    refine .inl ⟨fun r' active' => ?_, rfl⟩
    cases active.symm.trans active'
    omega

theorem Shape.expired (shape : Shape s) (nowMs : Nat) (timing : ProtocolTiming) :
    Shape (expireRequest s nowMs timing).next := by
  rcases expire_cases s nowMs timing with
    ⟨-, same⟩ | ⟨r, active, -, -, settled⟩ | ⟨r, active, -, -, fell⟩
  · rw [same]
    exact shape
  · rw [settled]
    exact shape.settle active _
  · rw [fell]
    exact fallback_shape shape.serverRouted shape.counted

theorem dueAt_some {deadline : Option Nat} (due : dueAt deadline nowMs = true) :
    ∃ d, deadline = some d ∧ d ≤ nowMs := by
  cases deadline with
  | none => simp [dueAt] at due
  | some d => exact ⟨d, rfl, by simpa [dueAt] using due⟩

theorem Shape.serve_cases (shape : Shape t.next) (nowMs : Nat) (timing : ProtocolTiming) :
    (∃ n reason, (n = t.next ∨ n = noteSessionTarget t.next) ∧
      (sessionExpired t.next nowMs = true ∨ (dueAt t.next.phaseDeadlineMs nowMs = true ∧
        (t.next.observationInFlight.isSome = true ∨ t.next.phase = .verifying ∨
          t.next.phase = .multiviewChanging))) ∧
      serveDeadlines t nowMs timing = .ok (beginFallback ⟨n, t.effects⟩ nowMs timing reason)) ∨
    (∃ a, t.next.activeSession = some a ∧ sessionExpired t.next nowMs = false ∧
      t.next.phase = .remoteOwned ∧ t.next.observationInFlight = none ∧
      dueAt t.next.nextSignalPollMs nowMs = true ∧
      serveDeadlines t nowMs timing = .ok (requestObservation t nowMs timing a.switchEpoch)) ∨
    ((t.next.phase = .fallbackCommandPending ∨ t.next.phase = .fallbackVerifying) ∧
      dueAt t.next.phaseDeadlineMs nowMs = true ∧
      serveDeadlines t nowMs timing = .ok (issueFallbackCommand t nowMs timing)) ∨
    (sessionExpired t.next nowMs = false ∧
      ¬ (t.next.phase = .remoteOwned ∧ t.next.observationInFlight = none ∧
        dueAt t.next.nextSignalPollMs nowMs = true) ∧
      (dueAt t.next.phaseDeadlineMs nowMs = true → t.next.observationInFlight = none ∧
        t.next.phase ≠ .verifying ∧ t.next.phase ≠ .fallbackCommandPending ∧
        t.next.phase ≠ .fallbackVerifying ∧ t.next.phase ≠ .multiviewChanging) ∧
      serveDeadlines t nowMs timing = .ok t) := by
  generalize served : serveDeadlines t nowMs timing = r
  unfold serveDeadlines at served
  dsimp only at served
  split at served
  · rename_i lapsed
    exact .inl ⟨_, _, .inr rfl, .inl lapsed, served.symm⟩
  rename_i running
  simp only [Bool.not_eq_true] at running
  split at served
  · rename_i poll
    obtain ⟨owned, landed, due⟩ := poll
    obtain ⟨-, session, -⟩ := shape.remoteOwned owned
    obtain ⟨a, session⟩ := Option.isSome_iff_exists.mp session
    rw [session] at served
    exact .inr (.inl ⟨a, session, running, owned, by simpa using landed, due, served.symm⟩)
  rename_i unpolled
  split at served
  · rename_i late
    split at served
    · exact .inl ⟨_, _, .inr rfl, .inr ⟨late.2, .inl late.1⟩, served.symm⟩
    · exact .inl ⟨_, _, .inl rfl, .inr ⟨late.2, .inl late.1⟩, served.symm⟩
  split at served
  · rename_i late
    exact .inl ⟨_, _, .inl rfl, .inr ⟨late.2, .inr (.inl late.1)⟩, served.symm⟩
  split at served
  · rename_i pending
    rcases pending with ⟨phase, due⟩ | ⟨phase, healthy⟩
    · exact .inr (.inr (.inl ⟨phase, due, served.symm⟩))
    · simp [shape.deferred phase] at healthy
  split at served
  · rename_i late
    exact .inl ⟨_, _, .inl rfl, .inr ⟨late.2, .inr (.inr late.1)⟩, served.symm⟩
  refine .inr (.inr (.inr ⟨running, ?_, ?_, served.symm⟩))
  · simpa using unpolled
  · intro due
    simp_all

/-- After a fallback the second half of a tick only repeats a command that is
overdue as soon as it is sent. -/
theorem serve_fallback {reason : String} {b : Bool}
    (routed : t.next.hasDisplayRoute t.next.serverHost = true)
    (counted : ∀ h, (t.next.switchCount.get h).isSome = true)
    (h : serveDeadlines (beginFallbackWithRestore t nowMs timing reason b) nowMs timing = .ok t') :
    t' = beginFallbackWithRestore t nowMs timing reason b ∨
      (b = true ∧ t.next.daemonHealthy = true ∧
        saturatingAdd nowMs timing.commandMs ≤ nowMs ∧
        t' = issueFallbackCommand (beginFallbackWithRestore t nowMs timing reason b) nowMs timing) := by
  have shape : Shape (beginFallbackWithRestore t nowMs timing reason b).next :=
    fallback_shape routed counted
  rcases shape.serve_cases nowMs timing with
    ⟨_, _, -, guard, -⟩ | ⟨a, running, -⟩ | ⟨phase, due, served⟩ | ⟨-, -, -, served⟩
  · exfalso
    rcases fallback_cases t nowMs timing reason b with
      ⟨-, -, phase, -⟩ | ⟨-, phase, -⟩ | ⟨-, -, phase, -⟩
    all_goals simp [sessionExpired, phase] at guard
  · simp at running
  · refine .inr ?_
    rw [served] at h
    cases h
    rcases fallback_cases t nowMs timing reason b with
      ⟨restore, healthy, -, deadline, -⟩ | ⟨-, deferred, -⟩ | ⟨-, -, idle, -⟩
    · simp only [deadline, dueAt, Option.any_some, decide_eq_true_eq] at due
      exact ⟨restore, healthy, due, rfl⟩
    · simp [deferred] at phase
    · simp [idle] at phase
  · rw [served] at h
    cases h
    exact .inl rfl

theorem Shape.commandAgain (shape : Shape t.next)
    (phase : t.next.phase = .fallbackCommandPending ∨ t.next.phase = .fallbackVerifying)
    (due : dueAt t.next.phaseDeadlineMs nowMs = true) :
    Shape (issueFallbackCommand t nowMs timing).next := by
  obtain ⟨d, deadline, -⟩ := dueAt_some due
  have owed := shape.owing phase
  have unpolled := shape.polled phase (by simp [deadline])
  obtain ⟨free, ended, still, -⟩ := shape.owed owed
  refine ⟨⟨shape.serverRouted, shape.counted, by simp [ended], by simp [free]⟩, ?_⟩
  constructor <;> simp [owed, free, ended, still, unpolled]

/-- A host that is still offline is not the one that owns the input: the owner of
a validated state is ready. -/
theorem Valid.offline_apart {clock : Nat} (valid : Valid s clock) (shape : Shape s) {target : Host}
    (offline : ((s.peers.get target).getD {}).online = false) (a : ActiveSession)
    (running : s.activeSession = some a) : target ≠ a.target := by
  rintro rfl
  have old := shape.session a running
  obtain ⟨a', running', checked⟩ := valid.remote (by rw [old.keyboard]; exact old.remote)
  obtain rfl : a = a' := Option.some.inj (running.symm.trans running')
  have ready := checked.peer
  cases stored : s.peers.get a.target with
  | none => simp [stored] at ready
  | some p => simp_all [PeerReadiness.bundleReady]

end Handlers

end DisplayMux.Tv
