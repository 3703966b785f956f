import DisplayMux.Tv.Reach
import Mathlib.Data.List.ReduceOption
import Mathlib.Order.MinMax

/-! Which due deadlines a tick moves. The coordinator feeds itself a tick as long
as a deadline is due, so a tick that leaves one behind keeps it from reading its
queues. -/
namespace DisplayMux.Tv

structure ProtocolTiming.Positive (timing : ProtocolTiming) : Prop where
  command : 0 < timing.commandMs
  observation : 0 < timing.observationMs
  grant : 0 < timing.grantMs
  wake : 0 < timing.wakeMs
  lease : 0 < timing.leaseMs
  signalPoll : 0 < timing.signalPollMs

def requestDue (s : ProtocolState) (nowMs : Nat) : Bool :=
  s.activeRequest.any fun r => r.deadlineMs ≤ nowMs

section Due

variable {s : ProtocolState} {nowMs : Nat}

theorem dueAt_min (deadlines : List (Option Nat)) :
    dueAt deadlines.reduceOption.min? nowMs = deadlines.any (dueAt · nowMs) := by
  rw [Bool.eq_iff_iff, List.any_eq_true]
  constructor
  · intro due
    obtain ⟨d, least, past⟩ := dueAt_some due
    have member := List.reduceOption_mem_iff.mp (List.min?_mem least)
    exact ⟨some d, member, by simpa [dueAt] using past⟩
  rintro ⟨deadline, member, due⟩
  obtain ⟨d, rfl, past⟩ := dueAt_some due
  have listed := List.reduceOption_mem_iff.mpr member
  cases least : deadlines.reduceOption.min? with
  | none => simp_all
  | some m =>
    have below := (List.le_min?_iff least).mp (Nat.le_refl m) d listed
    simp only [dueAt, Option.any_some, decide_eq_true_eq]
    omega

theorem nextDeadline_due : dueAt s.nextDeadlineMs nowMs =
    (dueAt s.phaseDeadlineMs nowMs || dueAt s.nextSignalPollMs nowMs || requestDue s nowMs ||
      sessionExpired s nowMs) := by
  rw [ProtocolState.nextDeadlineMs, dueAt_min]
  cases request : s.activeRequest <;> cases session : s.activeSession <;>
    simp [dueAt, requestDue, sessionExpired, request, session, Bool.decide_or, Bool.or_assoc]

end Due

/-- A woken host did not answer in time, and the tick puts the request away
beside a running session or a poll that is due. -/
def WakeStalls (s : ProtocolState) (nowMs : Nat) : Prop :=
  (s.activeRequest.any fun r => r.deadlineMs ≤ nowMs && r.status == .waking) = true ∧
    (s.activeSession.isSome = true ∨ dueAt s.nextSignalPollMs nowMs = true)

/-- The TV command was not acknowledged in time: no branch of the tick looks at
the deadline of the switching phase. -/
def CommandStalls (s : ProtocolState) (nowMs : Nat) : Prop :=
  s.phase = .switching ∧ s.observationInFlight = none ∧ dueAt s.phaseDeadlineMs nowMs = true

/-- A signal poll is due that the tick does not start. -/
def PollStalls (s : ProtocolState) (nowMs : Nat) : Prop :=
  dueAt s.nextSignalPollMs nowMs = true ∧ dueAt s.phaseDeadlineMs nowMs = false ∧
    ¬ (s.phase = .remoteOwned ∧ s.observationInFlight = none)

def Stalls (s : ProtocolState) (nowMs : Nat) : Prop :=
  sessionExpired s nowMs = false ∧ (WakeStalls s nowMs ∨
    (requestDue s nowMs = false ∧ (CommandStalls s nowMs ∨ PollStalls s nowMs)))

instance (s : ProtocolState) (nowMs : Nat) : Decidable (WakeStalls s nowMs) :=
  inferInstanceAs (Decidable (_ ∧ _))

instance (s : ProtocolState) (nowMs : Nat) : Decidable (CommandStalls s nowMs) :=
  inferInstanceAs (Decidable (_ ∧ _))

instance (s : ProtocolState) (nowMs : Nat) : Decidable (PollStalls s nowMs) :=
  inferInstanceAs (Decidable (_ ∧ _))

instance (s : ProtocolState) (nowMs : Nat) : Decidable (Stalls s nowMs) :=
  inferInstanceAs (Decidable (_ ∧ _))

def Discharges (s : ProtocolState) (nowMs : Nat) (timing : ProtocolTiming) : Prop :=
  ∃ t, apply s .tick nowMs timing = .ok t ∧ dueAt t.next.nextDeadlineMs nowMs = false

section Tick

variable {s : ProtocolState} {t t' : Transition} {nowMs past : Nat} {timing : ProtocolTiming}

theorem tick_ok : apply s .tick nowMs timing = .ok t ↔
    serveDeadlines (expireRequest s nowMs timing) nowMs timing = .ok t ∧ Valid t.next nowMs := by
  rw [apply_ok]
  simp only [react, applyTick, map_ok]
  constructor
  · rintro (⟨_, _, h⟩ | ⟨⟨_, served, h⟩, valid⟩)
    · contradiction
    · cases h
      exact ⟨served, valid⟩
  · rintro ⟨served, valid⟩
    exact .inr ⟨⟨t, served, rfl⟩, valid⟩

section

variable (positive : 0 < timing.commandMs) (room : nowMs < u64Max)
include positive room

theorem fallback_not_due (t : Transition) (reason : String) (b : Bool) :
    dueAt (beginFallbackWithRestore t nowMs timing reason b).next.phaseDeadlineMs nowMs = false ∧
      dueAt (beginFallbackWithRestore t nowMs timing reason b).next.nextDeadlineMs nowMs = false := by
  have later := lt_saturatingAdd positive room
  have phase : dueAt (beginFallbackWithRestore t nowMs timing reason b).next.phaseDeadlineMs nowMs =
      false := by
    rcases fallback_cases t nowMs timing reason b with
      ⟨-, -, -, deadline, -⟩ | ⟨-, -, deadline, -⟩ | ⟨-, -, -, deadline, -⟩
    · simpa [deadline, dueAt] using later
    · simp [deadline, dueAt]
    · simp [deadline, dueAt]
  rw [nextDeadline_due, phase]
  simp [dueAt, requestDue, sessionExpired]

theorem discharges_of_fallback
    {reason : String} {b : Bool} (known : t.next.manualRecoveryTarget ≠ some t.next.serverHost)
    (h : serveDeadlines (expireRequest s nowMs timing) nowMs timing =
      .ok (beginFallbackWithRestore t nowMs timing reason b)) : Discharges s nowMs timing :=
  ⟨_, tick_ok.mpr ⟨h, fallback_valid t nowMs timing reason b known⟩,
    (fallback_not_due positive room t reason b).2⟩

theorem serve_fallback_later (t : Transition) (reason : String) (b : Bool) :
    serveDeadlines (beginFallbackWithRestore t nowMs timing reason b) nowMs timing =
      .ok (beginFallbackWithRestore t nowMs timing reason b) := by
  have notDue := (fallback_not_due positive room t reason b).1
  unfold serveDeadlines
  rcases fallback_cases t nowMs timing reason b with
    ⟨-, -, phase, -⟩ | ⟨down, phase, -⟩ | ⟨-, -, phase, -⟩
  · simp [sessionExpired, phase, notDue]
  · simp [sessionExpired, phase, down]
  · simp [sessionExpired, phase]

theorem discharges_of_request (known : s.manualRecoveryTarget ≠ some s.serverHost) {r : EnterRequest}
    (active : s.activeRequest = some r) (due : r.deadlineMs ≤ nowMs) (status : r.status ≠ .waking) :
    Discharges s nowMs timing := by
  have target : (takeActive s r).manualRecoveryTarget ≠ some s.serverHost := by
    by_cases remote : r.target = s.serverHost
    · simpa [remote] using known
    · simp [remote]
  have served : serveDeadlines (expireRequest s nowMs timing) nowMs timing =
      .ok (beginFallbackWithRestore ⟨(takeActive s r).archiveRequest
        { r with status := .expired, reason := some "request_deadline" }, []⟩ nowMs timing
        "request_deadline" (displayRestoreRequired s)) := by
    rw [← serve_fallback_later positive room]
    simp [expireRequest, active, due, status]
  exact discharges_of_fallback positive room target served

end

theorem serve_settled {r archived : EnterRequest} {n : ProtocolState}
    (put : settleIdle ((takeActive s r).archiveRequest archived) = n) :
    serveDeadlines ⟨n, []⟩ nowMs timing = .ok (if sessionExpired s nowMs then
      beginActiveSessionFailureFallback ⟨n, []⟩ nowMs timing "active_lease_expired" else ⟨n, []⟩) := by
  have expired : sessionExpired n nowMs = sessionExpired s nowMs := by simp [sessionExpired, ← put]
  have phase : n.phase = .idle := by simp [← put]
  have deadline : n.phaseDeadlineMs = none := by simp [← put]
  cases lapsed : sessionExpired s nowMs with
  | true => simp [serveDeadlines, expired, lapsed]
  | false => simp [serveDeadlines, expired, lapsed, phase, deadline, dueAt]

theorem discharges_waking (positive : 0 < timing.commandMs) (room : nowMs < u64Max)
    (shape : Shape s) (valid : Valid s past) {r : EnterRequest}
    (active : s.activeRequest = some r) (due : r.deadlineMs ≤ nowMs) (status : r.status = .waking) :
    Discharges s nowMs timing ↔ (sessionExpired s nowMs = true ∨
      (s.activeSession = none ∧ dueAt s.nextSignalPollMs nowMs = false)) := by
  have asked := shape.request r active
  have remote : r.target ≠ s.serverHost := asked.remote (asked.waking.mp status)
  generalize put : settleIdle ((takeActive s r).archiveRequest
    { r with status := .expired, reason := some "request_deadline" }) = n
  have expire : expireRequest s nowMs timing = ⟨n, []⟩ := by
    simp [expireRequest, active, due, status, put]
  have session : n.activeSession = s.activeSession := by simp [← put]
  have expired : sessionExpired n nowMs = sessionExpired s nowMs := by simp [sessionExpired, session]
  have recovery : n.manualRecoveryTarget = some r.target := by simp [← put, remote]
  have server : n.serverHost = s.serverHost := by simp [← put]
  cases lapsed : sessionExpired s nowMs with
  | true =>
    refine iff_of_true ?_ (.inl rfl)
    have served : serveDeadlines (expireRequest s nowMs timing) nowMs timing =
        .ok (beginActiveSessionFailureFallback ⟨n, []⟩ nowMs timing "active_lease_expired") := by
      rw [expire, serve_settled put, if_pos lapsed]
    have known : n.manualRecoveryTarget ≠ some n.serverHost := by simpa [recovery, server] using remote
    exact discharges_of_fallback positive room (t := ⟨noteSessionTarget n, []⟩)
      (recoveryTarget_remote known _) served
  | false =>
    have served : serveDeadlines ⟨n, []⟩ nowMs timing = .ok ⟨n, []⟩ := by
      rw [serve_settled put, if_neg (by simp [lapsed])]
    simp only [Bool.false_eq_true, false_or]
    constructor
    · rintro ⟨t, ticked, notDue⟩
      obtain ⟨done, checked⟩ := tick_ok.mp ticked
      rw [expire, served] at done
      cases done
      have quiet := (checked.recoveryQuiet (by simp [recovery])).2.1
      rw [nextDeadline_due] at notDue
      simp only [Bool.or_eq_false_iff] at notDue
      refine ⟨session ▸ quiet, ?_⟩
      simpa [← put] using notDue.1.1.2
    rintro ⟨ended, unpolled⟩
    refine ⟨⟨n, []⟩, tick_ok.mpr ⟨by rw [expire, served], ?_⟩, ?_⟩
    · have here := valid.local_of_ended ended
      have together := valid.together
      subst put
      constructor <;> simp_all
    · have poll : n.nextSignalPollMs = s.nextSignalPollMs := by simp [← put]
      rw [nextDeadline_due, expired, lapsed, poll, unpolled]
      simp [← put, dueAt, requestDue]

theorem expire_idle (waiting : requestDue s nowMs = false) (timing : ProtocolTiming) :
    expireRequest s nowMs timing = ⟨s, []⟩ := by
  rcases expire_cases s nowMs timing with
    ⟨-, same⟩ | ⟨r, active, due, -⟩ | ⟨r, active, due, -⟩
  · exact same
  all_goals simp [requestDue, active, due] at waiting

theorem stalls_of_unserved (shape : Shape s) (waiting : requestDue s nowMs = false)
    (running : sessionExpired s nowMs = false) (due : dueAt s.nextDeadlineMs nowMs = true)
    (unpolled : ¬ (s.phase = .remoteOwned ∧ s.observationInFlight = none ∧
      dueAt s.nextSignalPollMs nowMs = true))
    (unserved : dueAt s.phaseDeadlineMs nowMs = true → s.observationInFlight = none ∧
      s.phase ≠ .verifying ∧ s.phase ≠ .fallbackCommandPending ∧ s.phase ≠ .fallbackVerifying ∧
      s.phase ≠ .multiviewChanging) :
    CommandStalls s nowMs ∨ PollStalls s nowMs := by
  rw [nextDeadline_due, waiting, running] at due
  cases phaseDue : dueAt s.phaseDeadlineMs nowMs with
  | false =>
    have poll : dueAt s.nextSignalPollMs nowMs = true := by simpa [phaseDue] using due
    exact .inr ⟨poll, phaseDue, fun owned => unpolled ⟨owned.1, owned.2, poll⟩⟩
  | true =>
    obtain ⟨landed, h₁, h₂, h₃, h₄⟩ := unserved phaseDue
    obtain ⟨d, deadline, past⟩ := dueAt_some phaseDue
    refine .inl ⟨?_, landed, phaseDue⟩
    have waits : ∀ r, s.activeRequest = some r → s.phaseDeadlineMs = some r.deadlineMs → False := by
      intro r active same
      simp only [requestDue, active, Option.any_some, decide_eq_false_iff_not] at waiting
      rw [deadline, Option.some.injEq] at same
      omega
    cases phase : s.phase with
    | switching => rfl
    | waking =>
      obtain ⟨r, active, -, same⟩ := shape.waking phase
      exact (waits r active same).elim
    | grantPending =>
      obtain ⟨r, active, -, same⟩ := shape.grantPending phase
      exact (waits r active same).elim
    | remoteOwned =>
      have flying := (shape.remoteOwned phase).2.2 (by simp [deadline])
      simp [landed] at flying
    | idle => simp [shape.quiet (.inl phase)] at deadline
    | fallbackDeferred => simp [shape.quiet (.inr (.inl phase))] at deadline
    | starting => simp [shape.quiet (.inr (.inr phase))] at deadline
    | verifying | fallbackCommandPending | fallbackVerifying | multiviewChanging => contradiction

theorem discharges_others (positive : timing.Positive) (room : nowMs < u64Max) (shape : Shape s)
    (valid : Valid s past) (waiting : requestDue s nowMs = false)
    (due : dueAt s.nextDeadlineMs nowMs = true) :
    Discharges s nowMs timing ↔ (sessionExpired s nowMs = true ∨
      ¬ (CommandStalls s nowMs ∨ PollStalls s nowMs)) := by
  have ticked : ∀ t, apply s .tick nowMs timing = .ok t ↔
      serveDeadlines ⟨s, []⟩ nowMs timing = .ok t ∧ Valid t.next nowMs := by
    intro t
    rw [tick_ok, expire_idle waiting]
  have branches := Shape.serve_cases (t := ⟨s, []⟩) shape nowMs timing
  dsimp only at branches
  rcases branches with
    ⟨n, reason, source, guard, served⟩ | ⟨a, session, lapsed, owned, landed, poll, served⟩ |
      ⟨phase, late, served⟩ | ⟨lapsed, unpolled, unserved, served⟩
  · -- a fallback: the session has expired, or an observation, a verification or a
    -- change of the multi-view is overdue
    have known : n.manualRecoveryTarget ≠ some n.serverHost := by
      rcases source with rfl | rfl
      · exact valid.recoveryRemote
      · exact recoveryTarget_remote valid.recoveryRemote _
    refine iff_of_true ?_ ?_
    · exact ⟨_, (ticked _).mpr ⟨served, fallback_valid _ _ _ _ _ known⟩,
        (fallback_not_due positive.command room _ _ _).2⟩
    rcases guard with lapsed | ⟨late, kind⟩
    · exact .inl lapsed
    · refine .inr ?_
      rintro (⟨switching, landed, -⟩ | ⟨-, early, -⟩)
      · simp [switching, landed] at kind
      · simp [late] at early
  · have later := lt_saturatingAdd positive.observation room
    refine iff_of_true ⟨_, (ticked _).mpr ⟨served, (valid.until_expired lapsed).frame rfl⟩, ?_⟩ (.inr ?_)
    · rw [nextDeadline_due]
      simp_all [dueAt, requestDue, sessionExpired]
    · rintro (⟨switching, -⟩ | ⟨-, -, elsewhere⟩)
      · simp [owned] at switching
      · exact elsewhere ⟨owned, landed⟩
  · have later := lt_saturatingAdd positive.command room
    obtain ⟨free, ended, -⟩ := shape.owed (shape.owing phase)
    obtain ⟨d, deadline, -⟩ := dueAt_some late
    have unpolled := shape.polled phase (by simp [deadline])
    have running : sessionExpired s nowMs = false := by simp [sessionExpired, ended]
    refine iff_of_true ⟨_, (ticked _).mpr ⟨served, (valid.until_expired running).frame rfl⟩, ?_⟩
      (.inr ?_)
    · rw [nextDeadline_due]
      simp_all [dueAt, requestDue, sessionExpired]
    · rintro (⟨switching, -⟩ | ⟨-, early, -⟩)
      · simp [switching] at phase
      · simp [late] at early
  refine iff_of_false ?_ ?_
  · rintro ⟨t, tick, notDue⟩
    obtain ⟨done, -⟩ := (ticked t).mp tick
    rw [served] at done
    cases done
    simp [due] at notDue
  · have stalled := stalls_of_unserved shape waiting lapsed due unpolled unserved
    simp [lapsed, stalled]

/-- A tick moves every due deadline of a reachable state exactly when it does not
stall. -/
theorem tick_discharges_iff {c : Clocked} (reachable : Reachable timing c)
    (positive : timing.Positive) (room : nowMs < u64Max)
    (due : dueAt c.state.nextDeadlineMs nowMs = true) :
    Discharges c.state nowMs timing ↔ ¬ Stalls c.state nowMs := by
  obtain ⟨shape, k, -, valid⟩ := reachable.sound
  cases waiting : requestDue c.state nowMs with
  | false =>
    have untouched : ¬ WakeStalls c.state nowMs := by
      rintro ⟨waking, -⟩
      obtain ⟨r, active, late⟩ := Option.any_eq_true _ _ |>.mp waking
      simp only [requestDue, active, Option.any_some, decide_eq_false_iff_not] at waiting
      simp_all
    rw [discharges_others positive room shape valid waiting due, Stalls]
    simp only [untouched, waiting, true_and, false_or, not_and]
    rw [or_iff_not_imp_left]
    simp only [Bool.not_eq_true]
  | true =>
    obtain ⟨r, active, late⟩ := Option.any_eq_true _ _ |>.mp waiting
    have late : r.deadlineMs ≤ nowMs := by simpa using late
    by_cases status : r.status = .waking
    · rw [discharges_waking positive.command room shape valid active late status, Stalls]
      cases lapsed : sessionExpired c.state nowMs with
      | true => simp
      | false => simp [WakeStalls, active, late, status, waiting, Option.isSome_iff_ne_none]
    refine iff_of_true ?_ ?_
    · exact discharges_of_request positive.command room valid.recoveryRemote active late status
    · rintro ⟨-, ⟨waking, -⟩ | ⟨early, -⟩⟩
      · simp [active, status] at waking
      · simp [waiting] at early

end Tick

theorem tick_discharges_expired_switch : ∃ c, Reachable sampleTiming c ∧
    c.state.nextDeadlineMs = some 110 ∧ Discharges c.state 210 sampleTiming := by
  obtain ⟨c, reachable, deadline, moves⟩ := play_reachable Host.all enterRight
    (fun c => c.state.nextDeadlineMs = some 110 ∧ ¬ Stalls c.state 210) (by decide)
  refine ⟨c, reachable, deadline, ?_⟩
  refine (tick_discharges_iff reachable ⟨?_, ?_, ?_, ?_, ?_, ?_⟩ ?_ ?_).mpr moves
  all_goals first | decide | simp [deadline, dueAt]

/-- The switch command of the request is not acknowledged: from its deadline on
the tick answers with the same state again and again. -/
theorem tick_keeps_command_deadline : ∃ c, Reachable sampleTiming c ∧
    c.state.nextDeadlineMs = some 110 ∧ apply c.state .tick 110 sampleTiming = .ok ⟨c.state, []⟩ :=
  play_reachable Host.all enterRight _ (by decide)

end DisplayMux.Tv
