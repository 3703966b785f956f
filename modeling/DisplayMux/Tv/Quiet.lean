import DisplayMux.Tv.Moves

/-! States with nothing in hand. While the TV is not connected the inputs stay
with the server; and a display that was chosen by hand is left alone until
somebody asks the daemon for something. -/
namespace DisplayMux.Tv

/-- Both inputs are with the server and nobody is about to take them. -/
structure Local (s : ProtocolState) : Prop where
  keyboard : s.keyboardOwner = s.serverHost
  pointer : s.pointerOwner = s.serverHost
  request : s.activeRequest = none
  session : s.activeSession = none

section Unhealthy

variable {s : ProtocolState} {event : Event} {nowMs : Nat} {t : Transition}

theorem ready_healthy (ready : s.ready = true) : s.daemonHealthy = true := by
  simp only [ProtocolState.ready, Bool.and_eq_true] at ready
  exact ready.1.1

theorem Local.moves (held : Local s) (down : s.daemonHealthy = false) (moves : Moves s event nowMs timing t)
    (shape : Shape t.next) : Local t.next := by
  have idle : ¬ (s.activeRequest.isSome = true ∨ s.ready = true) := by
    rintro (asked | ready)
    · simp [held.request] at asked
    · simp [ready_healthy ready] at down
  have owners : t.next.keyboardOwner = t.next.serverHost ∧ t.next.pointerOwner = t.next.serverHost := by
    rw [moves.server]
    cases moves.owners with
    | kept keyboard pointer => exact ⟨keyboard.trans held.keyboard, pointer.trans held.pointer⟩
    | released keyboard pointer => exact ⟨keyboard, pointer⟩
    | committed r commits =>
      have active := commits.active
      simp [held.request] at active
  refine ⟨owners.1, owners.2, ?_, ?_⟩
  · by_contra some
    obtain ⟨r, active⟩ := Option.ne_none_iff_exists'.mp some
    cases moves.request r active with
    | kept old => simp [held.request] at old
    | waking source | switched source | unrouted source => exact idle source
    | verified old _ _ _ asked => simp [held.request] at asked
  · by_contra some
    obtain ⟨a, running⟩ := Option.ne_none_iff_exists'.mp some
    have owner := shape.session a running
    exact owner.remote (owner.keyboard.symm.trans owners.1)

end Unhealthy

/-- Where the TV connection is in its cycle of reports. -/
inductive Cycle where
  | down | connecting | registering | subscribed | synchronized
  deriving DecidableEq, Repr

/-- The order in which the connection reports; other events come at any time. -/
def Cycle.next : Cycle → Event → Option Cycle
  | .down, .transportConnecting => some .connecting
  | .connecting, .transportRegistering => some .registering
  | .registering, .transportSubscribed => some .subscribed
  | .subscribed, .transportSynchronized _ _ _ => some .synchronized
  | .down, .transportDisconnected _ => none
  | _, .transportDisconnected _ => some .down
  | _, .transportConnecting | _, .transportRegistering | _, .transportSubscribed
  | _, .transportSynchronized _ _ _ => none
  | l, _ => some l

def Cycle.follow (l : Cycle) (trace : List Step) : Option Cycle :=
  (trace.map fun y => y.input.1).foldlM Cycle.next l

theorem Cycle.follow_snoc {l l' : Cycle} {trace : List Step} {y : Step}
    (followed : l.follow (trace ++ [y]) = some l') :
    ∃ m, l.follow trace = some m ∧ m.next y.input.1 = some l' := by
  simpa [Cycle.follow, Option.bind_eq_some_iff] using followed

variable {event : Event}

theorem Cycle.next_still {l l' : Cycle} (still : event.movesLink = false)
    (reported : l.next event = some l') : l' = l := by
  cases event with
  | transportConnecting | transportRegistering | transportSubscribed | transportSynchronized
  | transportDisconnected | shutdown => contradiction
  | _ => cases l <;> exact (Option.some.inj reported).symm

theorem Cycle.next_synchronized {l : Cycle} (reported : Cycle.synchronized.next event = some l) :
    l = .synchronized ∨ ∃ reason, event = .transportDisconnected reason := by
  cases event with
  | transportConnecting | transportRegistering | transportSubscribed | transportSynchronized =>
    contradiction
  | transportDisconnected reason => exact .inr ⟨reason, rfl⟩
  | _ => exact .inl (Option.some.inj reported).symm

/-- What the connection and the inputs have to do with each other. -/
structure Guarded (l : Cycle) (s : ProtocolState) : Prop where
  held : s.daemonHealthy = false → Local s
  down : l ≠ .synchronized → s.daemonHealthy = false

variable {timing : ProtocolTiming} {s : ProtocolState}

theorem fallback_home {t : Transition} {nowMs : Nat} {reason : String} {b : Bool} :
    Local (beginFallbackWithRestore t nowMs timing reason b).next := by
  constructor <;> simp

theorem disconnected_accepted {past nowMs : Nat} (valid : Valid s past) (reason : String) :
    apply s (.transportDisconnected reason) nowMs timing =
      .ok (applyTransportDisconnected s reason nowMs timing) := by
  refine apply_ok.mpr (.inr ⟨rfl, ?_⟩)
  exact fallback_valid _ _ _ _ _ valid.recoveryRemote

theorem Moves.healthy {nowMs : Nat} {t : Transition}
    (moves : Moves s event nowMs timing t) (still : event.movesLink = false) :
    t.next.daemonHealthy = s.daemonHealthy := by
  rcases moves.link with other | same
  · simp [still] at other
  · simp only [ProtocolState.link, Prod.mk.injEq] at same
    simp [ProtocolState.daemonHealthy, same]

theorem Guarded.apply {past nowMs : Nat} {t : Transition} {l l' : Cycle}
    (guarded : Guarded l s) (shape : Shape s) (valid : Valid s past)
    (reported : l.next event = some l') (applied : Tv.apply s event nowMs timing = .ok t) :
    Guarded l' t.next := by
  have moves := apply_moves shape valid applied
  have kept := fun down => (guarded.held down).moves down moves (shape.apply valid applied).1
  have moved (link : WsState) (subscribed : Bool) (behind : l ≠ .synchronized)
      (reacted : react s event nowMs timing = .ok (.check ⟨moveLink s link subscribed, []⟩)) :
      Guarded l' t.next := by
    have down : t.next.daemonHealthy = false := by
      rcases apply_ok.mp applied with other | ⟨same, -⟩
      · simp [reacted] at other
      · rw [reacted] at same
        cases same
        simp [ProtocolState.daemonHealthy]
    exact ⟨fun _ => kept (guarded.down behind), fun _ => down⟩
  have still (quiet : event.movesLink = false) : Guarded l' t.next := by
    have healthy := moves.healthy quiet
    have same := Cycle.next_still quiet reported
    exact ⟨fun down => kept (healthy ▸ down), fun behind => healthy.trans (guarded.down (same ▸ behind))⟩
  cases event with
  | transportConnecting =>
    refine moved .connecting false ?_ rfl
    rintro rfl
    contradiction
  | transportRegistering =>
    refine moved .registering false ?_ rfl
    rintro rfl
    contradiction
  | transportSubscribed =>
    refine moved .synchronizing true ?_ rfl
    rintro rfl
    contradiction
  | transportSynchronized mode input signals =>
    have behind : l ≠ .synchronized := by
      rintro rfl
      contradiction
    have done : l' = .synchronized := by
      cases l with
      | subscribed => exact (Option.some.inj reported).symm
      | _ => contradiction
    exact ⟨fun _ => kept (guarded.down behind), fun ne => absurd done ne⟩
  | transportDisconnected reason =>
    rw [disconnected_accepted valid reason] at applied
    cases applied
    refine ⟨fun _ => fallback_home, fun _ => ?_⟩
    simp [applyTransportDisconnected, beginFallback]
    simp [ProtocolState.daemonHealthy]
  | shutdown =>
    rcases apply_ok.mp applied with other | ⟨same, -⟩
    · simp [react] at other
    · cases same
      exact ⟨fun _ => ⟨rfl, rfl, rfl, rfl⟩, fun _ => rfl⟩
  | _ => exact still rfl

/-- As long as the connection reports in order, an unhealthy daemon holds both
inputs at the server and has nothing in progress. -/
theorem unhealthy_local {timing : ProtocolTiming} {start c : Clocked} {trace : List Step} {l : Cycle}
    (started : Started start) (run : Run (reducer timing) start trace c)
    (ordered : Cycle.down.follow trace = some l) (down : c.state.daemonHealthy = false) :
    Local c.state := by
  have guarded : ∀ l, Cycle.down.follow trace = some l → Guarded l c.state := by
    refine run.history (P := fun trace c => ∀ l, Cycle.down.follow trace = some l →
      Guarded l c.state) ?_ ?_
    · rintro l -
      have fresh := started_fresh started
      obtain ⟨-, k, -, valid⟩ := started_sound started
      have here := valid.local_of_ended fresh.session
      exact ⟨fun _ => ⟨here, valid.together ▸ here, fresh.request, fresh.session⟩, fun _ => fresh.down⟩
    intro trace c i c' reply run ih step l ordered
    obtain ⟨m, followed, reported⟩ := Cycle.follow_snoc ordered
    obtain ⟨shape, k, -, valid⟩ := run_sound started run
    obtain ⟨-, -, ⟨effects, applied, -⟩ | ⟨error, refused, -, same⟩⟩ := reducer_step step
    · exact (ih m followed).apply shape valid reported applied
    obtain ⟨held, behind⟩ := ih m followed
    rw [same]
    refine ⟨held, fun ne => behind ?_⟩
    rintro rfl
    rcases Cycle.next_synchronized reported with rfl | ⟨reason, lost⟩
    · exact ne rfl
    · rw [lost, disconnected_accepted valid reason] at refused
      contradiction
  exact (guarded l ordered).held down

theorem disconnected_owner_loses_input : ∃ start trace c, Started start ∧
    Run (reducer sampleTiming) start trace c ∧ Cycle.down.follow trace = some .down ∧
    c.state.daemonHealthy = false ∧ Local c.state := by
  obtain ⟨start, trace, c, started, run, ordered, down⟩ := play_run sampleTiming Host.all
    ([(.transportConnecting, 0), (.transportRegistering, 0), (.transportSubscribed, 0)] ++ takeRight ++
      [(.transportDisconnected "lost", 50)])
    (fun trace c => Cycle.down.follow trace = some .down ∧ c.state.daemonHealthy = false) (by decide)
  exact ⟨start, trace, c, started, run, ordered, down, unhealthy_local started run ordered down⟩

/-- Nothing is asked of the daemon and nothing is owed by it. -/
structure AtRest (s : ProtocolState) : Prop where
  phase : s.phase = .idle ∨ s.phase = .fallbackDeferred
  settled : s.fallbackRequired = false
  request : s.activeRequest = none
  session : s.activeSession = none
  multiview : s.pendingMultiview = none

/-- The events by which somebody asks for something, and the shutdown. -/
def Event.asks : Event → Bool
  | .createEnter _ _ _ _ | .multiViewRequested _ | .shutdown => true
  | _ => false

/-- A step that commands nothing and stays at rest. -/
structure Rests (t : Transition) : Prop where
  state : AtRest t.next
  quiet : t.effects = []

section Rest

variable {s n : ProtocolState} {t : Transition} {nowMs past : Nat} {timing : ProtocolTiming}

theorem AtRest.fallback (rest : AtRest s) {reason : String} {b : Bool}
    (restore : b = displayRestoreRequired s) :
    Rests (beginFallbackWithRestore ⟨n, []⟩ nowMs timing reason b) := by
  have unasked : b = false := by
    simp [restore, displayRestoreRequired, rest.settled, rest.request, rest.session, rest.multiview]
  subst unasked
  rcases fallback_cases ⟨n, []⟩ nowMs timing reason false with
    ⟨asked, -⟩ | ⟨-, phase, -, -, quiet⟩ | ⟨-, -, phase, -, -, quiet⟩
  · contradiction
  · exact ⟨⟨.inr phase, by simp, by simp, by simp, by simp⟩, quiet⟩
  · exact ⟨⟨.inl phase, by simp, by simp, by simp, by simp⟩, quiet⟩

theorem AtRest.not_phase (rest : AtRest s) {phase : ProtocolPhase} (here : s.phase = phase)
    (other : phase ≠ .idle ∧ phase ≠ .fallbackDeferred) : False := by
  rcases rest.phase with idle | deferred
  · exact other.1 (here.symm.trans idle)
  · exact other.2 (here.symm.trans deferred)

theorem AtRest.outcome (rest : AtRest s) (unasked : event.asks = false)
    (outcome : Outcome s event nowMs timing t) : Rests t := by
  cases outcome with
  | kept same =>
    exact ⟨⟨same.phase ▸ rest.phase, same.owed.trans rest.settled, same.request.trans rest.request,
      same.session.trans rest.session, same.pending.trans rest.multiview⟩, rfl⟩
  | fellBack _ restore => exact rest.fallback restore
  | finished same =>
    exact ⟨⟨.inl rfl, rfl, same.request.trans rest.request, rfl, same.pending.trans rest.multiview⟩, rfl⟩
  | accepted same => exact ⟨⟨.inl rfl, rfl, same.request.trans rest.request, rfl, rfl⟩, rfl⟩
  | asked _ _ phase =>
    exfalso
    rcases phase with ⟨phase, -⟩ | ⟨phase, -⟩ | ⟨phase | phase, -⟩ | ⟨enabled, -, pending, -⟩
    all_goals first | exact rest.not_phase phase (by simp) | simp [rest.multiview] at pending
  | calledOff running | polled running | renewed running => simp [rest.session] at running
  | closed closes | closedTwice closes | settled closes => simpa [rest.request] using closes.active
  | answered _ owned => exact (rest.not_phase owned (by simp)).elim
  | completed _ _ phase => exact (rest.not_phase phase (by simp)).elim
  | commandedAgain phase =>
    exfalso
    rcases phase with phase | phase <;> exact rest.not_phase phase (by simp)
  | reverified _ owed => simp [rest.settled] at owed
  | granted _ active | restarted _ active => simp [rest.request] at active
  | committed commits => simpa [rest.request] using commits.active
  | opened admits | woken admits | denied admits => simp [admits.asked, Event.asks] at unasked
  | changed _ _ _ asked => simp [asked, Event.asks] at unasked
  | stopped shut => simp [shut, Event.asks] at unasked

end Rest

theorem AtRest.run {c c' : Clocked} {trace : List Step}
    (rest : AtRest c.state) (sound : Sound c) (run : Run (reducer timing) c trace c')
    (unasked : ∀ y ∈ trace, y.input.1.asks = false) :
    Sound c' ∧ AtRest c'.state ∧ ∀ y ∈ trace, y.output.effects = [] := by
  induction run with
  | nil => exact ⟨sound, rest, by simp⟩
  | @snoc trace d d' i reply _ step ih =>
    obtain ⟨sound, rest, quiet⟩ := ih fun y member => unasked y (List.mem_append_left _ member)
    have calm : i.1.asks = false := unasked ⟨d, i, reply, d'⟩ (by simp)
    obtain ⟨k, -, valid⟩ := sound.valid
    have next : AtRest d'.state ∧ reply.effects = [] := by
      obtain ⟨-, -, ⟨effects, applied, rfl⟩ | ⟨error, -, rfl, same⟩⟩ := reducer_step step
      · have rests := rest.outcome calm (apply_outcome sound.shape valid applied)
        exact ⟨rests.state, rests.quiet⟩
      · exact ⟨same ▸ rest, rfl⟩
    refine ⟨sound.step step, next.1, fun y member => ?_⟩
    rcases List.mem_append.mp member with old | new
    · exact quiet y old
    · rw [List.mem_singleton.mp new]
      exact next.2

/-- A display chosen by hand is left alone: until somebody asks for something, an
idle daemon commands nothing, through losses of the connection too. -/
theorem idle_commands_nothing {timing : ProtocolTiming} {c c' : Clocked} {trace : List Step}
    (reachable : Reachable timing c) (idle : c.state.phase = .idle)
    (settled : c.state.fallbackRequired = false) (request : c.state.activeRequest = none)
    (session : c.state.activeSession = none) (multiview : c.state.pendingMultiview = none)
    (run : Run (reducer timing) c trace c') (unasked : ∀ y ∈ trace, y.input.1.asks = false) :
    ∀ y ∈ trace, y.output.effects = [] := by
  have rest : AtRest c.state := ⟨.inl idle, settled, request, session, multiview⟩
  exact (rest.run reachable.sound run unasked).2.2

/-- The display is switched by hand, the connection is lost and comes back. -/
def handPicked : List (Event × Nat) :=
  [(.subscriptionObserved .fullscreen (some .left), 5), (.transportDisconnected "lost", 6), (.tick, 7),
    (.transportSynchronized .fullscreen (some .left) (signalAt .left), 8), (.tick, 9)]

theorem hand_picked_display_stays : ∃ c trace c', Reachable sampleTiming c ∧
    Run (reducer sampleTiming) c trace c' ∧ trace.length = 5 ∧ ∀ y ∈ trace, y.output.effects = [] := by
  obtain ⟨c, reachable, ⟨idle, settled, request, session, multiview⟩, played⟩ := play_reachable Host.all
    [(.transportSynchronized .fullscreen (some .controller) (signalAt .controller), 1)]
    (fun c => (c.state.phase = .idle ∧ c.state.fallbackRequired = false ∧
      c.state.activeRequest = none ∧ c.state.activeSession = none ∧ c.state.pendingMultiview = none) ∧
      ((reducer sampleTiming).replay c handPicked).any fun r =>
        r.1.length = 5 ∧ ∀ y ∈ r.1, y.input.1.asks = false) (by decide)
  obtain ⟨trace, c', run, length, unasked⟩ := (reducer sampleTiming).exists_run c handPicked
    (fun trace _ => trace.length = 5 ∧ ∀ y ∈ trace, y.input.1.asks = false) played
  exact ⟨c, trace, c', reachable, run, length,
    idle_commands_nothing reachable idle settled request session multiview run unasked⟩

end DisplayMux.Tv
