import DisplayMux.Tv.Moves

/-! Where input ownership comes from. A remote host takes the two inputs only in
the commit of a granted request, and the trace tells where that grant was issued:
for a host with a display route, at the observation that showed its picture after
the TV had been told to. The request stays active from the grant to the commit. -/
namespace DisplayMux.Tv

/-- The TV was told to show this host under this epoch, not as a fallback. -/
def Commanded (trace : List Step) (target : Host) (e : Nat) : Prop :=
  ∃ x ∈ trace, .setInput target e false ∈ x.output.effects

/-- The step `y` after `earlier` is the one that issued the grant of `r`. -/
structure GrantOrigin (earlier : List Step) (y : Step) (r : EnterRequest) (routed : Prop) : Prop where
  before : y.pre.state.activeRequest ≠ some r
  after : y.post.state.activeRequest = some r
  verified : routed → ∃ e signals, r.switchEpoch = some e ∧ Commanded earlier r.target e ∧
    y.input.1 = .observation e .fullscreen (some r.target) signals ∧
    targetDisplayVerified y.post.state r.target e = true

/-- The grant of `r` was issued in this trace and `r` has been active since. -/
def GrantHistory (trace : List Step) (r : EnterRequest) (routed : Prop) : Prop :=
  ∃ earlier y later, trace = earlier ++ y :: later ∧ GrantOrigin earlier y r routed ∧
    ∀ z ∈ later, z.post.state.activeRequest = some r

variable {timing : ProtocolTiming} {start c : Clocked} {trace : List Step}

theorem Commanded.append {target : Host} {e : Nat} (sent : Commanded trace target e)
    (later : List Step) : Commanded (trace ++ later) target e := by
  obtain ⟨x, member, effect⟩ := sent
  exact ⟨x, List.mem_append_left _ member, effect⟩

theorem GrantHistory.extend {r : EnterRequest} {routed : Prop} (history : GrantHistory trace r routed)
    {y : Step} (still : y.post.state.activeRequest = some r) :
    GrantHistory (trace ++ [y]) r routed := by
  obtain ⟨earlier, x, later, rfl, origin, kept⟩ := history
  refine ⟨earlier, x, later ++ [y], by simp, origin, ?_⟩
  intro z member
  rcases List.mem_append.mp member with old | new
  · exact kept z old
  · rw [List.mem_singleton.mp new]
    exact still

/-- A request with a switch epoch and a routed target owes it to a TV command. -/
theorem command_history (started : Started start) (run : Run (reducer timing) start trace c) :
    ∀ r e, c.state.activeRequest = some r → r.switchEpoch = some e →
      c.state.hasDisplayRoute r.target = true → Commanded trace r.target e := by
  refine run.history (P := fun trace c => ∀ r e, c.state.activeRequest = some r →
    r.switchEpoch = some e → c.state.hasDisplayRoute r.target = true → Commanded trace r.target e)
    ?_ ?_
  · intro r e active
    simp [(started_fresh started).request] at active
  intro trace c i c' reply run ih step r e active epoch routed
  obtain ⟨effects, rfl, moves⟩ | ⟨error, -, same⟩ := (run_sound started run).moves step
  · have route : c.state.hasDisplayRoute r.target = true := (moves.route r.target).symm.trans routed
    cases moves.request r active with
    | kept old => exact (ih r e old epoch route).append _
    | waking _ _ fresh => simp [fresh] at epoch
    | switched _ e' _ epoch' commanded =>
      cases epoch.symm.trans epoch'
      exact ⟨⟨c, i, .accepted effects, c'⟩, by simp, commanded⟩
    | unrouted _ _ unrouted => simp [route] at unrouted
    | verified old e' _ _ asked target before epoch' =>
      cases epoch.symm.trans epoch'
      rw [← target] at route ⊢
      exact (ih old e asked before route).append _
  · rw [same] at active routed
    exact (ih r e active epoch routed).append _

theorem grant_history (started : Started start) (run : Run (reducer timing) start trace c) :
    ∀ r, c.state.activeRequest = some r → r.status = .grant →
      GrantHistory trace r (c.state.hasDisplayRoute r.target = true) := by
  refine run.history (P := fun trace c => ∀ r, c.state.activeRequest = some r → r.status = .grant →
    GrantHistory trace r (c.state.hasDisplayRoute r.target = true)) ?_ ?_
  · intro r active
    simp [(started_fresh started).request] at active
  intro trace c i c' reply run ih step r active granted
  obtain ⟨effects, rfl, moves⟩ | ⟨error, -, same⟩ := (run_sound started run).moves step
  · have route : c'.state.hasDisplayRoute r.target = c.state.hasDisplayRoute r.target :=
      moves.route r.target
    rw [route]
    by_cases old : c.state.activeRequest = some r
    · exact (ih r old granted).extend active
    refine ⟨trace, _, [], rfl, ⟨old, active, fun routed => ?_⟩, by simp⟩
    cases moves.request r active with
    | kept same => exact absurd same old
    | waking _ status | switched _ _ status => simp [status] at granted
    | unrouted _ _ unrouted => simp [routed] at unrouted
    | verified asked e signals _ active' target before epoch observed display =>
      have sent := command_history started run asked e active' before (target ▸ routed)
      exact ⟨e, signals, epoch, target ▸ sent, observed, display⟩
  · rw [same] at active ⊢
    exact (ih r active granted).extend (by simpa [same] using active)

/-- The keyboard or the pointer goes over to a host other than the server. -/
def Taken (y : Step) : Prop :=
  (y.post.state.keyboardOwner ≠ y.pre.state.keyboardOwner ∧
      y.post.state.keyboardOwner ≠ y.pre.state.serverHost) ∨
    (y.post.state.pointerOwner ≠ y.pre.state.pointerOwner ∧
      y.post.state.pointerOwner ≠ y.pre.state.serverHost)

instance (y : Step) : Decidable (Taken y) := inferInstanceAs (Decidable (_ ∨ _))

theorem taken_by_verified_commit (started : Started start)
    (run : Run (reducer timing) start trace c) {earlier later : List Step} {y : Step}
    (here : trace = earlier ++ y :: later) (taken : Taken y) :
    ∃ r effects, y.output = .accepted effects ∧ Commits y.pre.state y.input.1 y.input.2 r ∧
      r.target ≠ y.pre.state.serverHost ∧ y.post.state.keyboardOwner = r.target ∧
      y.post.state.pointerOwner = r.target ∧
      GrantHistory earlier r (y.pre.state.hasDisplayRoute r.target = true) := by
  obtain ⟨past, step, -⟩ := run.split here
  obtain ⟨effects, answer, moves⟩ | ⟨error, -, same⟩ := (run_sound started past).moves step
  · cases moves.owners with
    | kept keyboard pointer | released keyboard pointer => simp_all [Taken]
    | committed r commits keyboard pointer =>
      have remote : r.target ≠ y.pre.state.serverHost := by
        rcases taken with ⟨-, remote⟩ | ⟨-, remote⟩
        · exact keyboard ▸ remote
        · exact pointer ▸ remote
      exact ⟨r, effects, answer, commits, remote, keyboard, pointer,
        grant_history started past r commits.active commits.status⟩
  · simp [Taken, same] at taken

theorem right_takes_the_input : ∃ start earlier y c, Started start ∧
    Run (reducer sampleTiming) start (earlier ++ [y]) c ∧ Taken y ∧ ∃ r effects,
      y.output = .accepted effects ∧ Commits y.pre.state y.input.1 y.input.2 r ∧
      r.target ≠ y.pre.state.serverHost ∧ y.post.state.keyboardOwner = r.target ∧
      y.post.state.pointerOwner = r.target ∧
      GrantHistory earlier r (y.pre.state.hasDisplayRoute r.target = true) := by
  obtain ⟨start, trace, c, started, run, y, last, taken⟩ := play_run sampleTiming Host.all takeRight
    (fun trace _ => ∃ y, trace.getLast? = some y ∧ Taken y) (by decide)
  obtain ⟨earlier, rfl⟩ := List.getLast?_eq_some_iff.mp last
  exact ⟨start, earlier, y, c, started, run, taken,
    taken_by_verified_commit started run rfl taken⟩

end DisplayMux.Tv
