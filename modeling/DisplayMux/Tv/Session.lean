import DisplayMux.Tv.Ledger
import DisplayMux.Tv.Progress
import DisplayMux.Tv.Total

/-! The session that owns the remote input: what its existence says about the rest
of the state, and what its end leaves in the books. -/
namespace DisplayMux.Tv

open Retained ProtocolState

section Structure

variable {timing : ProtocolTiming} {c : Clocked}

theorem Sound.session_iff (sound : Sound c) :
    c.state.activeSession.isSome = true ↔ c.state.keyboardOwner ≠ c.state.serverHost := by
  constructor
  · intro running
    obtain ⟨a, running⟩ := Option.isSome_iff_exists.mp running
    have held := sound.shape.session a running
    rw [held.keyboard]
    exact held.remote
  · intro remote
    obtain ⟨k, -, valid⟩ := sound.valid
    obtain ⟨a, running, -⟩ := valid.remote remote
    simp [running]

/-- A session is running exactly while a remote host owns the input, it is the one
the newest entry of the history was committed for, and no step from here can fail
one of its expectations. -/
theorem session_structure (reachable : Reachable timing c) :
    (c.state.activeSession.isSome = true ↔ c.state.keyboardOwner ≠ c.state.serverHost) ∧
      (∀ a, c.state.activeSession = some a →
        c.state.keyboardOwner = a.target ∧ c.state.pointerOwner = a.target ∧
          ∃ r, c.state.requestHistory.getLast? = some r ∧ Entered a r) ∧
      (c.state.phase = .remoteOwned →
        ∃ a, c.state.activeSession = some a ∧ c.state.switchEpoch = a.switchEpoch) ∧
      (c.state.fallbackRequired = true →
        c.state.activeRequest = none ∧ c.state.activeSession = none) ∧
      (c.state.phase = .fallbackDeferred → c.state.daemonHealthy = false) ∧
      (∀ event nowMs message, apply c.state event nowMs timing ≠ .error (.panicked message)) := by
  have shape := reachable.sound.shape
  refine ⟨reachable.sound.session_iff, ?_, ?_, ?_, shape.deferred, ?_⟩
  · intro a running
    have held := shape.session a running
    exact ⟨held.keyboard, held.pointer, reachable.booked.entered a running⟩
  · intro owned
    obtain ⟨a, running⟩ := Option.isSome_iff_exists.mp (shape.remoteOwned owned).2.1
    exact ⟨a, running, (reachable.timed.owned owned a running).symm⟩
  · intro owed
    obtain ⟨free, ended, -⟩ := shape.owed owed
    exact ⟨free, ended⟩
  · exact fun event nowMs => apply_answered shape event nowMs timing

/-- The right host owns the input under the newest committed request. -/
theorem right_session_structure : ∃ c a r, Reachable sampleTiming c ∧
    c.state.phase = .remoteOwned ∧ c.state.activeSession = some a ∧
    c.state.switchEpoch = a.switchEpoch ∧ c.state.keyboardOwner = a.target ∧
    c.state.requestHistory.getLast? = some r ∧ Entered a r := by
  obtain ⟨c, reachable, phase⟩ := play_reachable Host.all takeRight
    (fun c => c.state.phase = .remoteOwned) (by decide)
  obtain ⟨-, entered, owned, -⟩ := session_structure reachable
  obtain ⟨a, running, current⟩ := owned phase
  obtain ⟨keyboard, -, r, newest, made⟩ := entered a running
  exact ⟨c, a, r, reachable, phase, running, current, keyboard, newest, made⟩

end Structure

/-- The commit names the granted request and passes every check. -/
def commitTakes (s : ProtocolState) (requestId : String) (requestEpoch grantEpoch : Nat)
    (leaseId : String) (leaseEpoch nowMs : Nat) (timing : ProtocolTiming) : Bool :=
  s.activeRequest.any fun r => r.requestId == requestId && r.requestEpoch == requestEpoch &&
    r.status == .grant && r.lease.leaseId == leaseId && r.lease.leaseEpoch == leaseEpoch &&
    (r.grant.any fun g => g.grantEpoch == grantEpoch && decide (nowMs < g.expiresAtMs)) &&
    decide (nowMs < r.lease.expiresAtMs) && grantable s r nowMs &&
    (r.target == s.serverHost || (decide (nowMs < saturatingAdd nowMs timing.leaseMs) &&
      (!s.hasDisplayRoute r.target || r.switchEpoch.any (targetDisplayVerified s r.target))))

/-- The steps that end the running session and leave its request committed: back to
the server's own input, a synchronization that finds the server's display, a
shutdown, and the commit of another request. -/
def abandonsSession (s : ProtocolState) (event : Event) (nowMs : Nat) (timing : ProtocolTiming) : Bool :=
  s.activeSession.isSome &&
    match event with
    | .createEnter requestId _ target lease =>
      target == s.serverHost && enterAdmitted s requestId lease nowMs
    | .transportSynchronized mode input signals =>
      serverDisplayVerified (storeObservation s s.switchEpoch nowMs mode input signals) s.switchEpoch
    | .shutdown => true
    | .commit requestId requestEpoch grantEpoch leaseId leaseEpoch =>
      -- a history of one entry forgets the old request with the new one
      s.retainedRequestLimit != 1 &&
        commitTakes s requestId requestEpoch grantEpoch leaseId leaseEpoch nowMs timing
    | _ => false

/-- Every committed request for a remote host is the running session's. -/
def CommittedRuns (s : ProtocolState) : Prop :=
  ∀ r ∈ s.requestHistory, r.status = .committed → r.target ≠ s.serverHost →
    ∃ a, s.activeSession = some a ∧ Entered a r

section Owning

variable {s n : ProtocolState} {t : Transition} {event : Event} {nowMs : Nat}
  {timing : ProtocolTiming} {r : EnterRequest}

section

variable (runs : CommittedRuns s)
include runs

theorem CommittedRuns.carry (history : n.requestHistory = s.requestHistory)
    (server : n.serverHost = s.serverHost) (session : n.activeSession = s.activeSession) :
    CommittedRuns n := by
  unfold CommittedRuns
  rw [history, server, session]
  exact runs

theorem CommittedRuns.archive (status : r.status ≠ .committed)
    (history : n.requestHistory = archiveInto s.requestHistory s.retainedRequestLimit r)
    (server : n.serverHost = s.serverHost) (session : n.activeSession = s.activeSession) :
    CommittedRuns n := by
  intro b member committed remote
  rw [history, archiveInto_eq] at member
  rcases mem_push member with rfl | old
  · exact absurd committed status
  · rw [session]
    exact runs b old committed (server ▸ remote)

theorem CommittedRuns.demoted (tidy : Tidy s) {reason : String}
    {b : EnterRequest} (member : b ∈ demoted s reason) (committed : b.status = .committed) :
    b.target = s.serverHost := by
  by_contra remote
  unfold Tv.demoted at member
  split at member
  · rename_i ended
    obtain ⟨a, running, -⟩ := runs b member committed remote
    simp [ended] at running
  rename_i a running
  rw [modifyArchived_eq] at member
  rcases mem_amend tidy.history_distinct member with ⟨old, other⟩ | ⟨old, -, -, rfl⟩
  · obtain ⟨a', running', entered⟩ := runs b old committed remote
    cases running.symm.trans running'
    exact other entered.requestId
  · split at committed
    · contradiction
    · contradiction

theorem CommittedRuns.cancelled (tidy : Tidy s) {requestId reason : String} :
    CommittedRuns (cancelCommitted s requestId reason) := by
  intro b member committed remote
  simp only [cancelCommitted_requestHistory, modifyArchived_eq] at member
  rcases mem_amend tidy.history_distinct member with ⟨old, -⟩ | ⟨old, -, -, rfl⟩
  · exact runs b old committed remote
  · contradiction

end

theorem CommittedRuns.fallback (runs : CommittedRuns n) (tidy : Tidy n) {reason : String} {b : Bool} :
    CommittedRuns (beginFallbackWithRestore ⟨n, []⟩ nowMs timing reason b).next := by
  intro r member committed remote
  refine absurd ?_ remote
  simp only [fallback_books, fallback_frame, fallenHistory_eq] at member ⊢
  split at member
  · exact runs.demoted tidy member committed
  · rw [archiveInto_eq] at member
    rcases mem_push member with rfl | old
    · contradiction
    · exact runs.demoted tidy old committed

theorem commit_takes {e : Nat} (commits : Commits s event nowMs r) (epoch : r.switchEpoch = some e)
    (checked : Valid (commitRequest s r r.requestEpoch e nowMs timing) nowMs)
    {a : ActiveSession} (running : s.activeSession = some a) (room : s.retainedRequestLimit ≠ 1) :
    abandonsSession s event nowMs timing = true := by
  obtain ⟨g, granted, fresh, rfl⟩ := commits.granted
  have current : nowMs < g.expiresAtMs ∧ nowMs < r.lease.expiresAtMs := ⟨fresh, commits.leased⟩
  by_cases here : r.target = s.serverHost
  · simp [abandonsSession, commitTakes, grantable, running, room, commits.active, commits.status,
      granted, current, here]
  have ready := commits.ready here
  have opened : (commitRequest s r r.requestEpoch e nowMs timing).activeSession =
      some (openSession r r.requestEpoch e nowMs timing) := if_neg here
  obtain ⟨a', running', facts⟩ := checked.remote here
  cases opened.symm.trans running'
  have later : nowMs < saturatingAdd nowMs timing.leaseMs := facts.renewed
  have shown (routed : s.hasDisplayRoute r.target = true) :
      targetDisplayVerified s r.target e = true :=
    (sessionDisplayVerified_iff.mp (facts.display routed)).1
  have display : (!s.hasDisplayRoute r.target || targetDisplayVerified s r.target e) = true := by
    cases routed : s.hasDisplayRoute r.target with
    | false => rfl
    | true => simp [shown routed]
  simp only [abandonsSession, commitTakes, grantable, running, commits.active, commits.status,
    granted, epoch, Option.any_some, display, later, current, ready]
  simp [room]

theorem CommittedRuns.step (runs : CommittedRuns s) (tidy : Tidy s) (shape : Shape s)
    (checked : Valid t.next nowMs) (outcome : Outcome s event nowMs timing t)
    (kept : abandonsSession s event nowMs timing = false) : CommittedRuns t.next := by
  cases outcome with
  | kept same | asked same | answered same | reverified same | granted same | completed same =>
    exact runs.carry same.history same.server same.session
  | polled | woken | changed | commandedAgain => exact runs.carry rfl rfl rfl
  | accepted same _ ended => exact runs.carry same.history same.server ended.symm
  | @finished n counts same cause =>
    have ended : s.activeSession = none := by
      rcases cause with ⟨owed, -⟩ | ⟨mode, input, signals, rfl, shown⟩
      · exact (shape.owed owed).2.1
      · simpa [abandonsSession, shown] using kept
    exact runs.carry same.history same.server ended.symm
  | fellBack same =>
    have runs' := runs.carry same.history same.server same.session
    exact runs'.fallback (same.tidy tidy)
  | @calledOff a reason =>
    exact (runs.cancelled tidy).fallback (tidy.cancelled a.requestId reason).1
  | closed closes same =>
    have runs' := runs.archive closes.status same.history same.server same.session
    exact runs'.fallback (tidy.closed closes same).1
  | @closedTwice r r' reason b closes =>
    have runs' : CommittedRuns ((takeActive s r).archiveRequest r') :=
      runs.archive closes.status rfl rfl rfl
    have fallen : CommittedRuns (beginFallbackWithRestore ⟨_, []⟩ nowMs timing reason b).next :=
      runs'.fallback (tidy.closed closes (.of_eq rfl : SameBooks event _ _)).1
    exact fallen.carry rfl rfl rfl
  | settled closes => exact runs.archive closes.status rfl rfl rfl
  | restarted same _ began =>
    obtain ⟨-, history, -, session, -⟩ := switch_books began
    exact runs.carry (history.trans same.history) ((switch_server began).trans same.server)
      (session.trans same.session)
  | @opened n r t admits start began =>
    obtain ⟨-, history, -, session, -⟩ := switch_books began
    have server := switch_server began
    rcases start with ⟨here, rfl⟩ | ⟨-, rfl⟩
    · have ended : s.activeSession = none := by
        rw [admits.asked] at kept
        simpa [abandonsSession, here, admits.admitted] using kept
      exact runs.carry history server (session.trans ended.symm)
    · exact runs.carry history server session
  | @denied r r' _ _ status =>
    exact runs.archive (r := r') (by simp [status]) (by simp) (by simp) (by simp)
  | @committed r e commits epoch =>
    intro b member committed remote
    have new (made : b = committedRequest r nowMs timing) :
        ∃ a, (commitRequest s r r.requestEpoch e nowMs timing).activeSession = some a ∧ Entered a b := by
      subst made
      exact ⟨_, if_neg remote, rfl, rfl, rfl, epoch, rfl, rfl, rfl⟩
    by_cases one : s.retainedRequestLimit = 1
    · simp only [commitRequest_requestHistory, archiveInto_eq, one, push_one,
        List.mem_singleton] at member
      exact new member
    · rcases mem_push member with made | old
      · exact new made
      · obtain ⟨a, running, -⟩ := runs b old committed remote
        simp [commit_takes commits epoch checked running one] at kept
  | @renewed a running =>
    intro b member committed remote
    obtain ⟨a', running', entered⟩ := runs b member committed remote
    cases running.symm.trans running'
    exact ⟨_, rfl, entered.requestId, entered.requestEpoch, entered.target, entered.switchEpoch,
      entered.leaseId, entered.leaseEpoch, entered.status⟩
  | stopped shut =>
    subst shut
    have ended : s.activeSession = none := by simpa [abandonsSession] using kept
    exact runs.carry rfl rfl ended.symm

end Owning

section Committed

variable {timing : ProtocolTiming} {start c : Clocked} {trace : List Step}

/-- The session of `r` holds both inputs. -/
def Owns (s : ProtocolState) (r : EnterRequest) : Prop :=
  ∃ a, s.activeSession = some a ∧ Entered a r ∧ s.keyboardOwner = r.target ∧ s.pointerOwner = r.target

/-- As long as no step abandons the session, a request is shown as committed only
while it owns the input, in the history and to whoever asks for it by its id. -/
theorem committed_owns (started : Started start) (run : Run (reducer timing) start trace c)
    (kept : ∀ y ∈ trace, abandonsSession y.pre.state y.input.1 y.input.2 timing = false) :
    (∀ r ∈ c.state.requestHistory, r.status = .committed → r.target ≠ c.state.serverHost →
      Owns c.state r) ∧
    (∀ requestId r, c.state.request requestId = some r → r.status = .committed →
      r.target ≠ c.state.serverHost → Owns c.state r) := by
  have both : Tidy c.state ∧ CommittedRuns c.state := by
    refine run_keeps (P := fun s => Tidy s ∧ CommittedRuns s)
      (C := fun s event nowMs => abandonsSession s event nowMs timing = false) ?_ ?_ started run kept
    · refine ⟨(started_booked started).toTidy, ?_⟩
      simp [CommittedRuns, (started_fresh started).history]
    · rintro s event nowMs t shape checked kept outcome ⟨tidy, runs⟩
      exact ⟨tidy.step outcome, runs.step tidy shape checked outcome kept⟩
  have shape := (run_sound started run).shape
  have archived : ∀ r ∈ c.state.requestHistory, r.status = .committed →
      r.target ≠ c.state.serverHost → Owns c.state r := by
    intro r member committed remote
    obtain ⟨a, running, entered⟩ := both.2 r member committed remote
    have held := shape.session a running
    exact ⟨a, running, entered, entered.target ▸ held.keyboard, entered.target ▸ held.pointer⟩
  refine ⟨archived, fun requestId r known committed remote => ?_⟩
  rcases List.mem_append.mp (request_mem known).1 with old | active
  · exact archived r old committed remote
  · -- an active request is still on its way
    have progress := (shape.request r (by simpa using active)).inProgress
    simp [committed] at progress

/-- The committed request of the right host owns the input. -/
theorem committed_right_owns : ∃ start trace c r, Started start ∧
    Run (reducer sampleTiming) start trace c ∧
    (∀ y ∈ trace, abandonsSession y.pre.state y.input.1 y.input.2 sampleTiming = false) ∧
    r ∈ c.state.requestHistory ∧ r.status = .committed ∧ Owns c.state r := by
  obtain ⟨start, trace, c, started, run, kept, r, member, committed, remote⟩ := play_run sampleTiming
    Host.all takeRight (fun trace c =>
      (∀ y ∈ trace, abandonsSession y.pre.state y.input.1 y.input.2 sampleTiming = false) ∧
      ∃ r ∈ c.state.requestHistory, r.status = .committed ∧ r.target ≠ c.state.serverHost) (by decide)
  obtain ⟨owns, -⟩ := committed_owns started run kept
  exact ⟨start, trace, c, r, started, run, kept, member, committed, owns r member committed remote⟩

/-- The server's user takes the input back, and the request of the right host is
still shown as committed. -/
theorem released_request_stays_committed : ∃ c r, Reachable sampleTiming c ∧
    r ∈ c.state.requestHistory ∧ r.status = .committed ∧ r.target ≠ c.state.serverHost ∧
    c.state.activeSession = none ∧ c.state.keyboardOwner = c.state.serverHost ∧
    apply c.state (.commit "r1" 1 1 "lease" 1) 60 sampleTiming = .ok ⟨c.state, []⟩ ∧
    c.state.request "r1" = some r := by
  simp only [exists_and_left]
  exact play_reachable Host.all
    (takeRight ++ [(.createEnter "r2" "user" .controller ⟨"lease2", 1, 0, 1000⟩, 50)]) _ (by decide)

end Committed

end DisplayMux.Tv
