import DisplayMux.Tv.Daemon

/-! The order of TV commands on the wire. A command of a fallback overtakes the
ordinary ones, so the commands arrive in the order of their epochs only while the
coordinator does not give up a request whose command still waits in the ordinary
queue. Then the epochs that were sent, those in the safety queue and the one in the
ordinary queue form one increasing sequence. -/
namespace DisplayMux.Tv

abbrev Round := Entry Daemon Turn (List Effect)

def sentCommands (trace : List Round) : List Effect := trace.flatMap (·.output)

/-- The event leaves alone the active request `r`, whose command has not gone out yet. -/
def ProtocolState.spares (s : ProtocolState) (r : EnterRequest) (nowMs : Nat) : Event → Bool
  | .transportSynchronized _ _ _ | .transportDisconnected _ | .shutdown => false
  | .peerReadinessUpdated host readiness =>
    let sessionEpoch := (s.activeSession.map (·.lease.peerSessionEpoch)).getD 0
    (r.target ≠ host ∨ readiness.bundleReady r.lease.peerSessionEpoch) ∧
      (s.keyboardOwner ≠ host ∨ host = s.serverHost ∨ readiness.bundleReady sessionEpoch)
  | .commandAcknowledged e _ | .commandFailed e _ | .observation e _ _ _ | .multiViewAcknowledged e _ =>
    e ≠ s.switchEpoch
  | .cancel requestId _ =>
    r.requestId ≠ requestId ∧ (s.activeSession.any fun a => a.requestId == requestId) = false ∨
    s.requestHistory.reverse.any fun past =>
      past.requestId == requestId && (past.status == .cancelled || past.status == .fallback)
  | .renew requestId leaseId leaseEpoch peerSessionEpoch =>
    renewable s requestId leaseId leaseEpoch peerSessionEpoch
  | .subscriptionObserved mode input => s.activeSession.all fun a =>
    s.hasDisplayRoute a.target = false ∨ mode = .fullscreen ∧ input = some a.target
  | .tick => nowMs < r.deadlineMs ∧ sessionExpired s nowMs = false ∧
    (s.observationInFlight = none ∨ dueAt s.phaseDeadlineMs nowMs = false)
  | _ => true

/-- While a command waits in the ordinary queue, the coordinator turns to no event that
gives up its request. -/
def Daemon.patient (d : Daemon) : Turn → Bool
  | .coordinate checkedMs nowMs timer => commandEpochs d.ordinary.items = [] ||
    (d.nextEvent checkedMs nowMs timer).all fun x =>
      d.state.activeRequest.all fun r => d.state.spares r nowMs x.1
  | _ => true

/-- The epochs of all commands, from the first one sent to the last one waiting. -/
def pipeline (sent : List Effect) (d : Daemon) : List Nat :=
  commandEpochs sent ++ commandEpochs d.safety.items ++ commandEpochs d.ordinary.items

structure Ordered (sent : List Effect) (d : Daemon) : Prop where
  increasing : (pipeline sent d).Pairwise (· < ·)
  opened : ∀ e ∈ pipeline sent d, e ≤ d.state.switchEpoch
  current : ∀ e ∈ commandEpochs d.ordinary.items, d.state.Commands e
  fallbacks : ∀ x ∈ d.safety.items, x.isSafety = true

section Order

variable {timing : ProtocolTiming} {inputs : HostMap String} {d d' : Daemon} {sent : List Effect}
  {nowMs : Nat} {event : Event}

theorem commandEpochs_append (front back : List Effect) :
    commandEpochs (front ++ back) = commandEpochs front ++ commandEpochs back :=
  List.filterMap_append

theorem commandEpochs_cons (effect : Effect) (rest : List Effect) :
    commandEpochs (effect :: rest) = commandEpochs [effect] ++ commandEpochs rest :=
  commandEpochs_append [effect] rest

theorem Ordered.frame (ordered : Ordered sent d) (opened : d.state.switchEpoch ≤ d'.state.switchEpoch)
    (current : ∀ e ∈ commandEpochs d.ordinary.items, d'.state.Commands e)
    (ordinary : d'.ordinary = d.ordinary) (safety : d'.safety = d.safety) : Ordered sent d' := by
  have line : pipeline sent d' = pipeline sent d := by rw [pipeline, ordinary, safety, pipeline]
  refine ⟨line ▸ ordered.increasing, ?_, ordinary ▸ current, safety ▸ ordered.fallbacks⟩
  rw [line]
  exact fun e member => Nat.le_trans (ordered.opened e member) opened

theorem Ordered.takes (ordered : Ordered sent d) {effect : Effect} {written : List Effect}
    (takes : Takes d d' effect written) : Ordered (sent ++ written) d' := by
  have kept : (commandEpochs written).Sublist (commandEpochs [effect]) := by
    rcases takes.written with rfl | rfl
    · exact List.nil_sublist _
    · exact List.Sublist.refl _
  have shorter : (pipeline (sent ++ written) d').Sublist (pipeline sent d) := by
    rcases takes.queue with ⟨first, same⟩ | ⟨empty, same, first⟩
    · rw [pipeline, pipeline, first, same, commandEpochs_append, commandEpochs_cons effect d'.safety.items]
      simp only [List.append_assoc]
      exact (kept.append_right _).append_left _
    · rw [pipeline, pipeline, first, same, empty, commandEpochs_append,
        commandEpochs_cons effect d'.ordinary.items]
      simp only [List.append_assoc]
      exact (kept.append_right _).append_left _
  refine ⟨ordered.increasing.sublist shorter, ?_, ?_, ?_⟩
  · rw [takes.state]
    exact fun e member => ordered.opened e (shorter.subset member)
  · rw [takes.state]
    intro e member
    refine ordered.current e ?_
    rcases takes.queue with ⟨-, same⟩ | ⟨-, -, first⟩
    · rwa [← same]
    · rw [first, commandEpochs_cons]
      exact List.mem_append_right _ member
  intro x member
  refine ordered.fallbacks x ?_
  rcases takes.queue with ⟨first, -⟩ | ⟨-, same, -⟩
  · rw [first]
    exact List.mem_cons_of_mem _ member
  · rwa [← same]

theorem increasing_snoc {epochs : List Nat} {past e : Nat} (increasing : epochs.Pairwise (· < ·))
    (opened : ∀ k ∈ epochs, k ≤ past) (later : past < e) : (epochs ++ [e]).Pairwise (· < ·) := by
  refine List.pairwise_append.mpr ⟨increasing, by simp, ?_⟩
  intro k member j last
  rw [List.mem_singleton.mp last]
  exact Nat.lt_of_le_of_lt (opened k member) later

theorem drain_epoch (fuel : Nat) (r : Dispatch)
    (room : (drain nowMs timing fuel r).state.switchEpoch < u64Max) :
    r.state.switchEpoch ≤ (drain nowMs timing fuel r).state.switchEpoch := by
  have grows := drain_keeps nowMs timing
    (P := fun s => r.state.switchEpoch ≤ s.switchEpoch ∨ u64Max ≤ s.switchEpoch)
    (fun s e reason t before failed => by
      rcases commandFailed_cases failed with rfl | ⟨-, kept⟩ | ⟨-, opened⟩
      · exact before
      · simpa [kept] using before
      · rw [opened]
        unfold saturatingAdd
        omega) fuel r (.inl (Nat.le_refl _))
  omega

theorem Ordered.issues (ordered : Ordered sent d) {r : Dispatch} {plain safe : List Nat}
    (gains : Gains d.ordinary d.safety r plain safe) (issues : Issues d.state r.state plain safe)
    (state : d'.state = r.state) (ordinary : d'.ordinary = r.ordinary) (safety : d'.safety = r.safety)
    (empty : commandEpochs d.ordinary.items = []) : Ordered sent d' := by
  have fallbacks : ∀ x ∈ d'.safety.items, x.isSafety = true := by
    rw [safety]
    exact gains.fallbacks ordered.fallbacks
  have inOrdinary := gains.inOrdinary
  have inSafety := gains.inSafety
  rw [← ordinary, empty, List.nil_append] at inOrdinary
  rw [← safety] at inSafety
  rw [← state] at issues
  have last (opened : d.state.switchEpoch < d'.state.switchEpoch)
      (line : pipeline sent d' = pipeline sent d ++ [d'.state.switchEpoch]) :
      (pipeline sent d').Pairwise (· < ·) ∧ ∀ e ∈ pipeline sent d', e ≤ d'.state.switchEpoch := by
    rw [line]
    refine ⟨increasing_snoc ordered.increasing ordered.opened opened, ?_⟩
    intro e member
    rcases List.mem_append.mp member with old | new
    · exact Nat.le_of_lt (Nat.lt_of_le_of_lt (ordered.opened e old) opened)
    · exact Nat.le_of_eq (List.mem_singleton.mp new)
  cases issues with
  | none later =>
    have line : pipeline sent d' = pipeline sent d := by simp [pipeline, inOrdinary, inSafety, empty]
    refine ⟨line ▸ ordered.increasing, ?_, by simp [inOrdinary], fallbacks⟩
    rw [line]
    exact fun e member => Nat.le_trans (ordered.opened e member) later
  | switch opened current =>
    obtain ⟨increasing, bounded⟩ := last opened (by simp [pipeline, inOrdinary, inSafety, empty])
    refine ⟨increasing, bounded, ?_, fallbacks⟩
    rw [inOrdinary]
    intro e member
    rw [List.mem_singleton.mp member]
    exact current
  | fallback opened =>
    obtain ⟨increasing, bounded⟩ := last opened (by simp [pipeline, inOrdinary, inSafety, empty])
    exact ⟨increasing, bounded, by simp [inOrdinary], fallbacks⟩

/-- What an event that spares the request leaves as it was. -/
structure Spared (s : ProtocolState) (t : Transition) : Prop where
  silent : t.effects = []
  request : t.next.activeRequest = s.activeRequest
  phase : t.next.phase = s.phase

section Sparing

variable {s : ProtocolState} {t : Transition} {r : EnterRequest}

theorem spared_readiness {host : Host} {readiness : PeerReadiness} (active : s.activeRequest = some r)
    (phase : s.phase = .switching) (spares : s.spares r nowMs (.peerReadinessUpdated host readiness) = true)
    (h : applyPeerReadinessUpdated s host readiness nowMs timing = .ok t) : Spared s t := by
  obtain ⟨ready, owner⟩ := of_decide_eq_true spares
  have request : requestReadiness ⟨setPeer s host readiness, []⟩ host readiness nowMs timing =
      .ok ⟨setPeer s host readiness, []⟩ := by
    simp only [requestReadiness, setPeer_activeRequest, active, setPeer_phase, phase]
    grind
  simp only [applyPeerReadinessUpdated, request] at h
  cases h
  have kept : ownerReadiness ⟨setPeer s host readiness, []⟩ host readiness nowMs timing =
      ⟨setPeer s host readiness, []⟩ := by
    simp only [ownerReadiness, setPeer_activeSession, setPeer_keyboardOwner, setPeer_serverHost]
    grind
  rw [kept]
  exact ⟨rfl, rfl, rfl⟩

theorem spared_subscription {mode : TvMode} {input : Option Host} (active : s.activeRequest = some r)
    (phase : s.phase = .switching) (settled : s.fallbackRequired = false)
    (spares : s.spares r nowMs (.subscriptionObserved mode input) = true) :
    Spared s (applySubscriptionObserved s mode input nowMs timing) := by
  have onTarget : ((s.activeSession.map (·.target)).any fun target =>
      s.hasDisplayRoute target && !(mode == .fullscreen && input == some target)) = false := by
    simp only [ProtocolState.spares] at spares
    cases session : s.activeSession <;> grind
  have kept : applySubscriptionObserved s mode input nowMs timing = ⟨storeDisplay s mode input, []⟩ := by
    simp only [applySubscriptionObserved, reactToSubscription, storeDisplay, manualDisplayObserved, active,
      phase, settled, ProtocolState.hasDisplayRoute, Bool.not_and] at onTarget ⊢
    simp [onTarget]
  rw [kept]
  exact ⟨rfl, rfl, rfl⟩

theorem spared_tick (active : s.activeRequest = some r) (phase : s.phase = .switching)
    (spares : s.spares r nowMs .tick = true) (h : applyTick s nowMs timing = .ok t) : Spared s t := by
  obtain ⟨early, held, unseen⟩ := of_decide_eq_true spares
  have waits : expireRequest s nowMs timing = ⟨s, []⟩ := by
    simp only [expireRequest, active]
    grind
  have late : ¬ (s.observationInFlight.isSome = true ∧ dueAt s.phaseDeadlineMs nowMs = true) := by grind
  simp [applyTick, waits, serveDeadlines, held, phase, late] at h
  cases h
  exact ⟨rfl, rfl, rfl⟩

theorem checked_ok {x : Except Halt Transition}
    (h : x.map Draft.check = .ok (.unchecked t) ∨ x.map Draft.check = .ok (.check t)) : x = .ok t := by
  simpa [map_ok] using h

end Sparing

theorem spared {s : ProtocolState} {t : Transition} {e : Nat} (shape : Shape s)
    (commands : s.Commands e) {r : EnterRequest} (active : s.activeRequest = some r)
    (spares : s.spares r nowMs event = true) (applied : apply s event nowMs timing = .ok t) :
    Spared s t := by
  obtain ⟨r', active', epoch, status, phase⟩ := commands
  cases active.symm.trans active'
  have settled := shape.not_owed_of_request active
  have current := (shape.request r active).current e epoch
  have same (kept : t = ⟨s, []⟩) : Spared s t := kept ▸ ⟨rfl, rfl, rfl⟩
  have reacted : react s event nowMs timing = .ok (.unchecked t) ∨
      react s event nowMs timing = .ok (.check t) := (apply_ok.mp applied).imp_right And.left
  cases event with
  | transportConnecting | transportRegistering | transportSubscribed =>
    cases checked_ok (x := .ok _) reacted
    exact ⟨rfl, rfl, rfl⟩
  | transportSynchronized | transportDisconnected | shutdown => cases spares
  | peerReadinessUpdated => exact spared_readiness active phase spares (checked_ok reacted)
  | armManualRecovery =>
    have armed := checked_ok reacted
    simp only [applyArmManualRecovery, phase, refuse] at armed
    grind
  | createEnter =>
    simp only [react, applyCreateEnter, active, refuse] at reacted
    exact same (by grind)
  | commandAcknowledged =>
    have stale := of_decide_eq_true spares
    simp only [react, applyCommandAcknowledged] at reacted
    exact same (by grind)
  | commandFailed =>
    have stale := of_decide_eq_true spares
    have failed := checked_ok (x := .ok _) reacted
    simp only [applyCommandFailed] at failed
    exact same (by grind)
  | observation e' =>
    have stale : e' ≠ s.switchEpoch := of_decide_eq_true spares
    have other : r.switchEpoch ≠ some e' := by grind
    have observed := checked_ok reacted
    simp [applyObservation, settled, active, other] at observed
    cases observed
    exact ⟨rfl, rfl, rfl⟩
  | commit =>
    have committed := checked_ok reacted
    simp only [applyCommit, active, status, refuse] at committed
    exact same (by grind)
  | cancel =>
    have other := of_decide_eq_true spares
    have cancelled := checked_ok reacted
    simp only [applyCancel, active, refuse] at cancelled
    exact same (by grind)
  | renew =>
    have renews : renewable s _ _ _ _ = true := spares
    have renewed := checked_ok reacted
    simp only [applyRenew, renews] at renewed
    cases running : s.activeSession with
    | none => simp [running] at renewed
    | some a =>
      simp only [running] at renewed
      cases renewed
      exact ⟨rfl, rfl, rfl⟩
  | multiViewRequested =>
    have requested := checked_ok reacted
    simp [applyMultiViewRequested, active, refuse] at requested
    grind
  | multiViewAcknowledged =>
    have stale := of_decide_eq_true spares
    have acknowledged := checked_ok (x := .ok _) reacted
    simp only [applyMultiViewAcknowledged] at acknowledged
    exact same (by grind)
  | subscriptionObserved =>
    cases checked_ok (x := .ok _) reacted
    exact spared_subscription active phase settled spares
  | tick => exact spared_tick active phase spares (checked_ok reacted)

theorem Issues.grows {s n : ProtocolState} {plain safe : List Nat} (issues : Issues s n plain safe) :
    s.switchEpoch ≤ n.switchEpoch := by
  cases issues with
  | none later => exact later
  | switch opened | fallback opened => exact Nat.le_of_lt opened

theorem Handles.issues (handles : Handles d d' event nowMs timing) (sound : Sound ⟨d.clock, d.state⟩)
    (punctual : nowMs < saturatingAdd nowMs timing.commandMs)
    (room : d'.state.switchEpoch < u64Max) :
    (d'.state = d.state ∧ d'.ordinary = d.ordinary ∧ d'.safety = d.safety) ∨
    ∃ r plain safe, Gains d.ordinary d.safety r plain safe ∧ Issues d.state r.state plain safe ∧
      d'.state = r.state ∧ d'.ordinary = r.ordinary ∧ d'.safety = r.safety := by
  refine handles.accepted.imp_right ?_
  rintro ⟨t, r, applied, dispatched, state, queues⟩
  obtain ⟨shape, past, -, valid⟩ := sound
  have moves := apply_moves shape valid applied
  rw [state] at room
  have grown : t.next.switchEpoch ≤ r.state.switchEpoch := by
    rw [dispatched] at room ⊢
    exact drain_epoch _ _ room
  obtain ⟨plain, safe, gains, issues⟩ :=
    dispatch_issues moves.command punctual dispatched grown room
  exact ⟨r, plain, safe, gains, issues, state, queues⟩

theorem Handles.spared (handles : Handles d d' event nowMs timing) (shape : Shape d.state)
    {e : Nat} (commands : d.state.Commands e)
    (spares : (d.state.activeRequest.all fun r => d.state.spares r nowMs event) = true) :
    d'.ordinary = d.ordinary ∧ d'.safety = d.safety ∧
      ∀ k, d.state.Commands k → d'.state.Commands k := by
  rcases handles.accepted with ⟨state, ordinary, safety⟩ | ⟨t, r, applied, rfl, state, ordinary, safety⟩
  · exact ⟨ordinary, safety, fun k commands => state ▸ commands⟩
  · obtain ⟨r, active, -⟩ := id commands
    rw [active, Option.all_some] at spares
    have kept := Tv.spared shape commands active spares applied
    rw [kept.silent] at state ordinary safety
    refine ⟨ordinary, safety, ?_⟩
    rintro k ⟨r, active, epoch, status, phase⟩
    rw [state]
    exact ⟨r, kept.request.trans active, epoch, status, kept.phase.trans phase⟩

theorem Handles.reachable (handles : Handles d d' event nowMs timing)
    (reachable : Reachable timing ⟨d.clock, d.state⟩) : Reachable timing ⟨d'.clock, d'.state⟩ := by
  rw [handles.clock]
  rcases handles.accepted with ⟨same, -⟩ | ⟨t, r, applied, rfl, same, -⟩
  · rw [same]
    exact reachable.wait handles.later
  · rw [same]
    have first : Reachable timing ⟨nowMs, t.next⟩ := reachable.accepted handles.later applied
    exact drain_keeps nowMs timing (P := fun s => Reachable timing ⟨nowMs, s⟩)
      (fun s e reason t held failed => held.accepted (Nat.le_refl _) failed) _ _ first

end Order

section Runs

variable {timing : ProtocolTiming} {inputs : HostMap String} {start d : Daemon} {trace : List Round}

theorem daemon_reachable (started : DaemonStarted start)
    (run : Run (daemon timing inputs) start trace d) : Reachable timing ⟨d.clock, d.state⟩ := by
  refine run.invariant (P := fun d => Reachable timing ⟨d.clock, d.state⟩)
    ⟨⟨start.clock, start.state⟩, [], started.1, .nil⟩ ?_
  intro d turn d' sent reachable step
  rcases daemon_step step with ⟨same, -⟩ | ⟨_, nowMs, _, event, _, -, -, -, handles⟩ | ⟨effect, takes⟩
  · simp only [Daemon.view, Prod.mk.injEq] at same
    rw [same.1, same.2.1]
    exact reachable
  · exact handles.reachable reachable
  · rw [takes.clock, takes.state]
    exact reachable

/-- A command that is not part of a fallback is written while its request is the
active one. -/
def Backed (y : Round) : Prop :=
  ∀ target e, .setInput target e false ∈ y.output →
    ∃ r, y.pre.state.activeRequest = some r ∧ r.switchEpoch = some e

theorem Ordered.backed {sent : List Effect} (ordered : Ordered sent d) {d' : Daemon} {turn : Turn}
    {effect : Effect} {written : List Effect} (takes : Takes d d' effect written) :
    Backed ⟨d, turn, written, d'⟩ := by
  intro target e member
  have same : effect = .setInput target e false := by
    rcases takes.written with rfl | rfl
    · cases member
    · exact (List.mem_singleton.mp member).symm
  subst same
  rcases takes.queue with ⟨first, -⟩ | ⟨-, -, first⟩
  · have safe := ordered.fallbacks (.setInput target e false) (by simp [first])
    cases safe
  · have current := ordered.current e (by simp [first, commandEpochs, Effect.command])
    exact current.imp fun r current => ⟨current.1, current.2.1⟩

theorem order_history (positive : 0 < timing.commandMs) (started : DaemonStarted start)
    (run : Run (daemon timing inputs) start trace d) :
    d.clock < u64Max → d.state.switchEpoch < u64Max → (∀ y ∈ trace, y.pre.patient y.input = true) →
      Ordered (sentCommands trace) d ∧ ∀ y ∈ trace, Backed y := by
  refine run.history (P := fun trace d => d.clock < u64Max → d.state.switchEpoch < u64Max →
    (∀ y ∈ trace, y.pre.patient y.input = true) → Ordered (sentCommands trace) d ∧ ∀ y ∈ trace, Backed y) ?_ ?_
  · obtain ⟨-, ordinary, safety, -⟩ := started
    intro _ _ _
    refine ⟨⟨?_, ?_, ?_, ?_⟩, by simp⟩ <;>
      simp [pipeline, sentCommands, ordinary, safety, commandEpochs]
  intro trace d turn d' sent run ih step clock room patient
  have sound := (daemon_reachable started run).sound
  have before : ∀ y ∈ trace, y.pre.patient y.input = true :=
    fun y member => patient y (List.mem_append_left _ member)
  have extend (ordered : Ordered (sentCommands trace ++ sent) d') (backed : ∀ y ∈ trace, Backed y)
      (last : Backed ⟨d, turn, sent, d'⟩) : Ordered (sentCommands (trace ++ [⟨d, turn, sent, d'⟩])) d' ∧
        ∀ y ∈ trace ++ [⟨d, turn, sent, d'⟩], Backed y := by
    refine ⟨by simpa [sentCommands] using ordered, ?_⟩
    intro y member
    rcases List.mem_append.mp member with old | new
    · exact backed y old
    · rw [List.mem_singleton.mp new]
      exact last
  rcases daemon_step step with ⟨same, rfl⟩ | ⟨_, nowMs, _, event, next, rfl, rfl, chosen, handles⟩ |
    ⟨effect, takes⟩
  · simp only [Daemon.view, Prod.mk.injEq] at same
    obtain ⟨ordered, backed⟩ := ih (by omega) (same.2.1 ▸ room) before
    refine extend ?_ backed (by simp [Backed])
    simpa using ordered.frame (Nat.le_of_eq (by rw [same.2.1])) (same.2.1 ▸ ordered.current) same.2.2.1
      same.2.2.2
  · have later := handles.later
    have now := handles.clock
    have punctual := lt_saturatingAdd positive (show nowMs < u64Max by omega)
    have waits := patient ⟨d, _, _, d'⟩ (List.mem_append_right _ (List.mem_singleton_self _))
    have issues := handles.issues sound punctual room
    have grows : d.state.switchEpoch ≤ d'.state.switchEpoch := by
      rcases issues with ⟨state, -⟩ | ⟨r, _, _, -, issues, state, -⟩
      · exact Nat.le_of_eq (by rw [state])
      · exact state ▸ issues.grows
    obtain ⟨ordered, backed⟩ := ih (by omega) (by omega) before
    refine extend ?_ backed (by simp [Backed])
    rw [List.append_nil]
    by_cases empty : commandEpochs d.ordinary.items = []
    · rcases issues with ⟨state, ordinary, safety⟩ |
        ⟨r, plain, safe, gains, issues, state, ordinary, safety⟩
      · exact ordered.frame grows (state ▸ ordered.current) ordinary safety
      · exact ordered.issues gains issues state ordinary safety empty
    · obtain ⟨e, waiting⟩ := List.exists_mem_of_ne_nil _ empty
      simp only [Daemon.patient, empty, chosen, decide_false, Bool.false_or, Option.all_some] at waits
      obtain ⟨ordinary, safety, commands⟩ :=
        handles.spared sound.shape (ordered.current e waiting) waits
      exact ordered.frame grows (fun k member => commands k (ordered.current k member)) ordinary safety
  · obtain ⟨ordered, backed⟩ := ih (takes.clock ▸ clock) (takes.state ▸ room) before
    exact extend (ordered.takes takes) backed (ordered.backed takes)

end Runs

/-- TV commands go out in the order of their epochs, and an ordinary one only for
the active request, as long as the coordinator gives up no request whose command waits. -/
theorem commands_in_epoch_order {timing : ProtocolTiming} {inputs : HostMap String} {start d : Daemon}
    {trace : List Round} (positive : 0 < timing.commandMs) (started : DaemonStarted start)
    (run : Run (daemon timing inputs) start trace d) (clock : d.clock < u64Max)
    (room : d.state.switchEpoch < u64Max) (patient : ∀ y ∈ trace, y.pre.patient y.input = true) :
    (commandEpochs (sentCommands trace)).Pairwise (· < ·) ∧
      ∀ y ∈ trace, ∀ target e, .setInput target e false ∈ y.output →
        ∃ r, y.pre.state.activeRequest = some r ∧ r.switchEpoch = some e := by
  obtain ⟨ordered, backed⟩ := order_history positive started run clock room patient
  have increasing := ordered.increasing
  rw [pipeline, List.append_assoc] at increasing
  exact ⟨(List.pairwise_append.mp increasing).1, backed⟩

section Sample

def sampleInputs : HostMap String := ⟨some "HDMI_4", some "HDMI_3", some "HDMI_2"⟩

def daemonWith (state : ProtocolState) : Daemon :=
  ⟨0, state, [], [], ⟨8, false, []⟩, ⟨4, false, []⟩, .offline⟩

theorem serve_run (turns : List Turn) (P : List Round → Daemon → Prop) [∀ trace d, Decidable (P trace d)]
    (served : ((ProtocolState.withDisplayHosts .controller 32 Host.all).any fun state =>
      ((daemon sampleTiming sampleInputs).replay (daemonWith state) turns).any fun r => P r.1 r.2) = true) :
    ∃ start trace d, DaemonStarted start ∧ Run (daemon sampleTiming sampleInputs) start trace d ∧
      P trace d := by
  obtain ⟨state, built, served⟩ := Option.any_eq_true _ _ |>.mp served
  obtain ⟨trace, d, run, holds⟩ := (daemon sampleTiming sampleInputs).exists_run _ turns P served
  exact ⟨_, trace, d, ⟨⟨rfl, _, _, _, built⟩, rfl, rfl, rfl, rfl, rfl⟩, run, holds⟩

def sessionUp (ms : Nat) (input : Option Host) (signals : HostMap Bool) : List Turn :=
  [.connect, .coordinate ms ms false, .register, .coordinate ms ms false, .subscribe,
    .coordinate ms ms false, .synchronize input signals, .coordinate ms ms false]

def askRight : List Turn :=
  sessionUp 1 (some .controller) (signalAt .controller) ++
    [.submit (.peerReadinessUpdated .right ⟨true, true, true, 11, 1⟩), .coordinate 2 2 false,
      .submit (.createEnter "r1" "user" .right ⟨"lease", 1, 11, 1000⟩), .coordinate 10 10 false]

/-- While the command waits, the other host comes up. Once it is taken, the connection
is lost and its request given up. -/
theorem served_command_is_backed : ∃ start trace d, DaemonStarted start ∧
    Run (daemon sampleTiming sampleInputs) start trace d ∧ (∀ y ∈ trace, y.pre.patient y.input = true) ∧
    sentCommands trace = [.setInput .right 1 false, .setInput .controller 2 true] ∧
    (commandEpochs (sentCommands trace)).Pairwise (· < ·) ∧
      ∀ y ∈ trace, ∀ target e, .setInput target e false ∈ y.output →
        ∃ r, y.pre.state.activeRequest = some r ∧ r.switchEpoch = some e := by
  obtain ⟨start, trace, d, started, run, patient, clock, room, sent⟩ := serve_run
    (askRight ++ [.submit (.peerReadinessUpdated .left ⟨true, true, true, 12, 1⟩), .coordinate 11 11 false,
      .take none, .fail "ssap_closed", .coordinate 20 20 false] ++
      sessionUp 30 (some .controller) HostMap.empty ++ [.take none])
    (fun trace d => (∀ y ∈ trace, y.pre.patient y.input = true) ∧ d.clock < u64Max ∧
      d.state.switchEpoch < u64Max ∧
      sentCommands trace = [.setInput .right 1 false, .setInput .controller 2 true]) (by decide)
  exact ⟨start, trace, d, started, run, patient, sent,
    commands_in_epoch_order (by decide) started run clock room patient⟩

/-- The connection is lost before the command of the request is taken. After the
reconnect the TV shows the controller's input without a signal, so a fallback goes
out first, and then the command of the request that was given up before. -/
theorem stale_command_follows_fallback : ∃ start trace d, DaemonStarted start ∧
    Run (daemon sampleTiming sampleInputs) start trace d ∧ d.state.activeRequest = none ∧
    sentCommands trace = [.setInput .controller 2 true, .setInput .right 1 false] :=
  serve_run (askRight ++ [.fail "ssap_closed", .coordinate 20 20 false] ++
    sessionUp 30 (some .controller) HostMap.empty ++ [.take none, .answer .acknowledged, .take none])
    _ (by decide)

end Sample

end DisplayMux.Tv
