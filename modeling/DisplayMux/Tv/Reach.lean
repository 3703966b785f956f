import DisplayMux.Lib.Machine
import DisplayMux.Tv.Outcome

/-! The reducer as a machine that is driven by events and their times. The clock
never runs backwards; a refused event leaves the state as it is, and a step that
would panic is no step. -/
namespace DisplayMux.Tv

open ProtocolState

structure Clocked where
  clock : Nat
  state : ProtocolState
  deriving DecidableEq, Repr

inductive Reply where
  | accepted (effects : List Effect)
  | rejected (error : ProtocolError)
  deriving DecidableEq, Repr

def Reply.effects : Reply → List Effect
  | accepted effects => effects
  | rejected _ => []

def reducer (timing : ProtocolTiming) : Machine Clocked (Event × Nat) Reply where
  step c i :=
    if i.2 < c.clock then none
    else match apply c.state i.1 i.2 timing with
      | .ok t => some (⟨i.2, t.next⟩, .accepted t.effects)
      | .error (.refused error) => some (⟨i.2, c.state⟩, .rejected error)
      | .error (.panicked _) => none

abbrev Step := Entry Clocked (Event × Nat) Reply

def Started (c : Clocked) : Prop :=
  c.clock = 0 ∧ ∃ serverHost limit hosts,
    withDisplayHosts serverHost limit hosts = some c.state

def Reachable (timing : ProtocolTiming) (c : Clocked) : Prop :=
  ∃ start trace, Started start ∧ Run (reducer timing) start trace c

variable {timing : ProtocolTiming} {c c' : Clocked} {i : Event × Nat} {reply : Reply}

theorem reducer_step (h : (reducer timing).step c i = some (c', reply)) :
    c.clock ≤ i.2 ∧ c'.clock = i.2 ∧
      ((∃ effects, apply c.state i.1 i.2 timing = .ok ⟨c'.state, effects⟩ ∧
          reply = .accepted effects) ∨
        (∃ error, apply c.state i.1 i.2 timing = .error (.refused error) ∧
          reply = .rejected error ∧ c'.state = c.state)) := by
  simp only [reducer] at h
  split at h
  · contradiction
  rename_i later
  split at h
  · rename_i t applied
    cases h
    exact ⟨Nat.le_of_not_lt later, rfl, .inl ⟨t.effects, applied, rfl⟩⟩
  · rename_i error refused
    cases h
    exact ⟨Nat.le_of_not_lt later, rfl, .inr ⟨error, refused, rfl, rfl⟩⟩
  · contradiction

/-- The states of a run: well shaped, and validated not later than now. -/
structure Sound (c : Clocked) : Prop where
  shape : Shape c.state
  valid : ∃ k ≤ c.clock, Valid c.state k

theorem started_sound (started : Started c) : Sound c := by
  obtain ⟨zero, serverHost, limit, hosts, built⟩ := started
  obtain ⟨clock, state⟩ := c
  simp only [withDisplayHosts] at built
  split at built
  · contradiction
  split at built
  · contradiction
  rename_i routed
  cases built
  refine ⟨⟨⟨?_, ?_, by simp, by simp⟩, ?_⟩, 0, by simp, ?_⟩
  · simpa [hasDisplayRoute, Option.isSome_iff_ne_none] using routed
  · intro h
    cases h <;> rfl
  · constructor <;> simp [daemonHealthy]
  · constructor <;> simp

/-- A daemon that has nothing in hand and is not connected. Its books are empty, and
there is room for at least one request. -/
structure Fresh (s : ProtocolState) : Prop where
  request : s.activeRequest = none
  session : s.activeSession = none
  down : s.daemonHealthy = false
  phase : s.phase = .fallbackDeferred
  pending : s.pendingMultiview = none
  history : s.requestHistory = []
  room : 0 < s.retainedRequestLimit

theorem started_fresh (started : Started c) : Fresh c.state := by
  obtain ⟨-, serverHost, limit, hosts, built⟩ := started
  simp only [withDisplayHosts] at built
  split at built
  · contradiction
  rename_i room
  split at built
  · contradiction
  · rw [← Option.some.inj built]
    exact ⟨rfl, rfl, rfl, rfl, rfl, rfl, Nat.pos_of_ne_zero room⟩

theorem Sound.step (sound : Sound c) (h : (reducer timing).step c i = some (c', reply)) :
    Sound c' := by
  obtain ⟨later, now, ⟨effects, applied, -⟩ | ⟨error, -, -, same⟩⟩ := reducer_step h
  all_goals obtain ⟨k, past, valid⟩ := sound.valid
  · obtain ⟨shape, checked | same⟩ := sound.shape.apply valid applied
    · exact ⟨shape, i.2, Nat.le_of_eq now.symm, checked⟩
    · have same : c'.state = c.state := congrArg Transition.next same
      exact ⟨shape, k, by omega, same ▸ valid⟩
  · exact ⟨same ▸ sound.shape, k, by omega, same ▸ valid⟩

theorem run_sound {start : Clocked} {trace : List Step}
    (started : Started start) (run : Run (reducer timing) start trace c) : Sound c :=
  run.invariant (started_sound started) fun _ _ _ _ sound step => sound.step step

theorem Reachable.sound (reachable : Reachable timing c) : Sound c := by
  obtain ⟨_, _, started, run⟩ := reachable
  exact run_sound started run

theorem Reachable.accepted (reachable : Reachable timing c) {event : Event} {nowMs : Nat}
    {t : Transition} (later : c.clock ≤ nowMs) (applied : apply c.state event nowMs timing = .ok t) :
    Reachable timing ⟨nowMs, t.next⟩ := by
  obtain ⟨start, trace, started, run⟩ := reachable
  refine ⟨start, _, started, run.snoc (i := (event, nowMs)) (o := .accepted t.effects) ?_⟩
  simp [reducer, applied, later]

/-- Time may pass: the failure of a command that is not the current one changes nothing. -/
theorem Reachable.wait (reachable : Reachable timing c) {nowMs : Nat} (later : c.clock ≤ nowMs) :
    Reachable timing ⟨nowMs, c.state⟩ := by
  have other : apply c.state (.commandFailed (c.state.switchEpoch + 1) "") nowMs timing =
      validated ⟨c.state, []⟩ nowMs := by
    have apart : c.state.switchEpoch ≠ c.state.switchEpoch + 1 := by omega
    simp only [apply, react, applyCommandFailed, if_neg apart]
    rfl
  cases checked : validated ⟨c.state, []⟩ nowMs with
  | ok t =>
    obtain ⟨rfl, -⟩ := validated_ok.mp checked
    exact reachable.accepted later (other.trans checked)
  | error halt =>
    obtain ⟨-, message, rfl⟩ := validated_refused checked
    obtain ⟨start, trace, started, run⟩ := reachable
    refine ⟨start, _, started, run.snoc (i := (.commandFailed (c.state.switchEpoch + 1) "", nowMs))
      (o := .rejected (.invariant message)) ?_⟩
    simp [reducer, other, checked, later]

section Sample

def sampleTiming : ProtocolTiming := ⟨100, 100, 100, 500, 300, 100⟩

def signalAt (host : Host) : HostMap Bool :=
  HostMap.collect (Host.all.map fun h => (h, decide (h = host)))

section Play

variable (timing : ProtocolTiming) (routes : List Host) (events : List (Event × Nat))

theorem play_run (P : List Step → Clocked → Prop) [∀ trace c, Decidable (P trace c)]
    (played : ((withDisplayHosts .controller 32 routes).any fun state =>
      ((reducer timing).replay ⟨0, state⟩ events).any fun r => P r.1 r.2) = true) :
    ∃ start trace c, Started start ∧ Run (reducer timing) start trace c ∧ P trace c := by
  obtain ⟨state, built, played⟩ := Option.any_eq_true _ _ |>.mp played
  obtain ⟨trace, c, run, holds⟩ := (reducer timing).exists_run _ events P played
  exact ⟨⟨0, state⟩, trace, c, ⟨rfl, _, _, _, built⟩, run, holds⟩

theorem play_reachable (P : Clocked → Prop) [DecidablePred P]
    (played : ((withDisplayHosts .controller 32 routes).any fun state =>
      ((reducer sampleTiming).replay ⟨0, state⟩ events).any fun r => P r.2) = true) :
    ∃ c, Reachable sampleTiming c ∧ P c := by
  obtain ⟨start, trace, c, started, run, holds⟩ := play_run sampleTiming routes events (fun _ => P) played
  exact ⟨c, ⟨start, trace, started, run⟩, holds⟩

end Play

/-- The controller's display is up, the host on the right is ready and one of its
users asks to enter. -/
def enterRight : List (Event × Nat) :=
  [(.transportSynchronized .fullscreen (some .controller) (signalAt .controller), 1),
    (.peerReadinessUpdated .right ⟨true, true, true, 11, 1⟩, 2),
    (.createEnter "r1" "user" .right ⟨"lease", 1, 11, 1000⟩, 10)]

/-- The request of `enterRight` is verified, granted and committed. -/
def takeRight : List (Event × Nat) :=
  enterRight ++ [(.commandAcknowledged 1 .right, 20),
    (.observation 1 .fullscreen (some .right) (signalAt .right), 30), (.commit "r1" 1 1 "lease" 1, 40)]

end Sample

section Runs

variable {timing : ProtocolTiming} {c c' : Clocked} {i : Event × Nat} {reply : Reply}

theorem Sound.outcome (sound : Sound c) (h : (reducer timing).step c i = some (c', reply)) :
    (∃ effects, reply = .accepted effects ∧
        Outcome c.state i.1 i.2 timing ⟨c'.state, effects⟩) ∨
      (∃ error, reply = .rejected error ∧ c'.state = c.state) := by
  obtain ⟨k, -, valid⟩ := sound.valid
  obtain ⟨-, -, ⟨effects, applied, answer⟩ | ⟨error, -, answer, same⟩⟩ := reducer_step h
  · exact .inl ⟨effects, answer, apply_outcome sound.shape valid applied⟩
  · exact .inr ⟨error, answer, same⟩

/-- A property that every validated outcome keeps under a condition on the step
holds after every run whose steps all meet the condition. -/
theorem run_keeps {P : ProtocolState → Prop} {C : ProtocolState → Event → Nat → Prop}
    {start : Clocked} {trace : List Step} (initial : P start.state)
    (keep : ∀ s event nowMs t, Shape s → Valid t.next nowMs → C s event nowMs →
      Outcome s event nowMs timing t → P s → P t.next)
    (started : Started start) (run : Run (reducer timing) start trace c)
    (meets : ∀ y ∈ trace, C y.pre.state y.input.1 y.input.2) : P c.state := by
  have both : Sound c ∧ P c.state := by
    refine run.invariant_where (C := fun y => C y.pre.state y.input.1 y.input.2)
      (P := fun c => Sound c ∧ P c.state) ⟨started_sound started, initial⟩ ?_ meets
    rintro ⟨pre, input, output, post⟩ ⟨sound, holds⟩ step meets
    refine ⟨sound.step step, ?_⟩
    obtain ⟨k, -, valid⟩ := sound.valid
    obtain ⟨-, -, ⟨effects, applied, -⟩ | ⟨error, -, -, same⟩⟩ := reducer_step step
    · rcases (sound.shape.apply valid applied).2 with checked | same
      · exact keep _ _ _ _ sound.shape checked meets (apply_outcome sound.shape valid applied) holds
      · have same : post.state = pre.state := congrArg Transition.next same
        exact same ▸ holds
    · exact same ▸ holds
  exact both.2

theorem Reachable.keeps {P : ProtocolState → Prop} (initial : ∀ start, Started start → P start.state)
    (keep : ∀ s event nowMs t, Shape s → Valid t.next nowMs → Outcome s event nowMs timing t →
      P s → P t.next)
    (reachable : Reachable timing c) : P c.state := by
  obtain ⟨start, trace, started, run⟩ := reachable
  exact run_keeps (C := fun _ _ _ => True) (initial start started)
    (fun s event nowMs t shape checked _ => keep s event nowMs t shape checked) started run
    (fun _ _ => trivial)

end Runs

end DisplayMux.Tv
