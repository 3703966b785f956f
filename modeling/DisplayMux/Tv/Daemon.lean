import DisplayMux.Tv.Dispatch

/-! The daemon as a whole: the coordinator loop, which steps the reducer and hands
out its effects, and the SSAP task, which talks to the TV. The two run side by
side and share four queues: requests and reports to the coordinator, ordinary and
safety effects to the task. What the TV answers, when it hangs up and what clients
ask for is free. -/
namespace DisplayMux.Tv

def Host.asStr : Host → String
  | .controller => "controller"
  | .right => "right"
  | .left => "left"

/-- Where the SSAP task stands. While an effect is being executed it remembers the
display mode that an observation will report. -/
inductive Session where
  | offline | connecting | registering | subscribing | serving
  | executing (effect : Effect) (mode : TvMode)
  deriving DecidableEq, Repr

structure Daemon where
  clock : Nat
  state : ProtocolState
  safetyRequests : List Event
  ordinaryRequests : List Event
  ordinary : Channel Effect
  safety : Channel Effect
  session : Session
  deriving DecidableEq, Repr

open Daemon

/-- How the TV answers an executed effect. A lost connection is no answer. -/
inductive Answer where
  | acknowledged
  | observed (input : Option Host) (signals : HostMap Bool)
  | rejected
  | woken
  deriving DecidableEq, Repr

/-- Whose turn it is, and what the outside world does in it. -/
inductive Turn where
  | submit (event : Event)
  | coordinate (checkedMs nowMs : Nat) (timer : Bool)
  | connect
  | register
  | subscribe
  | synchronize (input : Option Host) (signals : HostMap Bool)
  | take (failure : Option String)
  | answer (answer : Answer)
  | unsolicited (input : Option Host)
  | fail (reason : String)
  deriving DecidableEq, Repr

namespace Daemon

/-- The task tells the coordinator through the queue that is read first. -/
def report (d : Daemon) (event : Event) : Daemon :=
  { d with safetyRequests := d.safetyRequests ++ [event] }

/-- A request of a client. Entering and committing wait behind everything else;
the other events of the HTTP interface and the shutdown do not. -/
def submit (d : Daemon) : Event → Option Daemon
  | event@(.createEnter _ _ _ _) | event@(.commit _ _ _ _ _) =>
    some { d with ordinaryRequests := d.ordinaryRequests ++ [event] }
  | event@(.cancel _ _) | event@(.renew _ _ _ _) | event@(.peerReadinessUpdated _ _)
  | event@(.armManualRecovery _) | event@(.multiViewRequested _) | event@.shutdown =>
    some (d.report event)
  | _ => none

/-- What the loop of the coordinator turns to next: a deadline that is due, its
timer, or the next request. -/
def nextEvent (d : Daemon) (checkedMs nowMs : Nat) (timer : Bool) : Option (Event × Daemon) :=
  if dueAt d.state.nextDeadlineMs checkedMs then some (.tick, d)
  else if timer then
    if d.state.nextDeadlineMs.all fun deadline => deadline ≤ nowMs then some (.tick, d) else none
  else match d.safetyRequests, d.ordinaryRequests with
    | event :: safetyRequests, _ => some (event, { d with safetyRequests })
    | [], event :: ordinaryRequests => some (event, { d with ordinaryRequests })
    | [], [] => none

/-- A refused event only answers its sender; a panic ends the loop. -/
def handle (d : Daemon) (event : Event) (nowMs : Nat) (timing : ProtocolTiming) : Option Daemon :=
  match apply d.state event nowMs timing with
  | .ok t =>
    let r := dispatchEffects t.next t.effects nowMs timing d.ordinary d.safety
    some { d with clock := nowMs, state := r.state, ordinary := r.ordinary, safety := r.safety }
  | .error (.refused _) => some { d with clock := nowMs }
  | .error (.panicked _) => none

def coordinate (d : Daemon) (checkedMs nowMs : Nat) (timer : Bool) (timing : ProtocolTiming) :
    Option Daemon :=
  if checkedMs < d.clock ∨ nowMs < checkedMs then none
  else match d.nextEvent checkedMs nowMs timer with
    | none => none
    | some (event, d) => d.handle event nowMs timing

def nextEffect (d : Daemon) : Option (Effect × Daemon) :=
  match d.safety.receive with
  | some (effect, safety) => some (effect, { d with safety })
  | none => match d.ordinary.receive with
    | some (effect, ordinary) => some (effect, { d with ordinary })
    | none => none

/-- The mode that an observation reports is read from the coordinator's snapshot. -/
def observedMode (d : Daemon) : TvMode :=
  match d.state.pendingMultiview with
  | some true => .multiview
  | some false => .fullscreen
  | none => d.state.tvMode

def fail (d : Daemon) (reason : String) : Daemon :=
  ({ d with session := .offline }).report (.transportDisconnected reason)

/-- The task takes an effect and writes it to the TV, unless the write fails. -/
def execute (d : Daemon) (effect : Effect) (failure : Option String) (inputs : HostMap String) :
    Daemon × List Effect :=
  let started := { d with session := .executing effect d.observedMode }
  match effect with
  | .setInput target switchEpoch _ =>
    match inputs.get target, failure with
    | none, _ => (d.report (.commandFailed switchEpoch ("display_route_missing:" ++ target.asStr)), [])
    | some _, none => (started, [effect])
    | some _, some reason => (d.fail reason, [])
  | _ =>
    match failure with
    | none => (started, [])
    | some reason => (d.fail reason, [])

def take (d : Daemon) (failure : Option String) (inputs : HostMap String) :
    Option (Daemon × List Effect) :=
  if d.session ≠ .serving then none
  else d.nextEffect.map fun next => next.2.execute next.1 failure inputs

def answered (d : Daemon) (answer : Answer) : Option Daemon :=
  let idle := { d with session := .serving }
  match d.session, answer with
  | .executing (.setInput target switchEpoch _) _, .acknowledged =>
    some (idle.report (.commandAcknowledged switchEpoch target))
  | .executing (.setMultiView enabled switchEpoch) _, .acknowledged =>
    some (idle.report (.multiViewAcknowledged switchEpoch enabled))
  | .executing (.observe switchEpoch) mode, .observed input signals =>
    some (idle.report (.observation switchEpoch mode input signals))
  | .executing (.setInput _ switchEpoch _) _, .rejected
  | .executing (.observe switchEpoch) _, .rejected
  | .executing (.setMultiView _ switchEpoch) _, .rejected =>
    some (idle.report (.commandFailed switchEpoch "ssap_command_failed"))
  | .executing (.wake _ _) _, .woken => some idle
  | _, _ => none

def stage (d : Daemon) (current next : Session) (event : Event) : Option Daemon :=
  if d.session ≠ current then none else some (({ d with session := next }).report event)

def unsolicited (d : Daemon) (input : Option Host) : Option Daemon :=
  match d.session with
  | .offline | .connecting | .registering => none
  | .subscribing | .serving | .executing _ _ =>
    some (d.report (.subscriptionObserved d.state.tvMode input))

end Daemon

def daemon (timing : ProtocolTiming) (inputs : HostMap String) :
    Machine Daemon Turn (List Effect) where
  step d
    | .submit event => (d.submit event).map (·, [])
    | .coordinate checkedMs nowMs timer => (d.coordinate checkedMs nowMs timer timing).map (·, [])
    | .connect => (d.stage .offline .connecting .transportConnecting).map (·, [])
    | .register => (d.stage .connecting .registering .transportRegistering).map (·, [])
    | .subscribe => (d.stage .registering .subscribing .transportSubscribed).map (·, [])
    | .synchronize input signals =>
      (d.stage .subscribing .serving (.transportSynchronized .fullscreen input signals)).map (·, [])
    | .take failure => d.take failure inputs
    | .answer answer => (d.answered answer).map (·, [])
    | .unsolicited input => (d.unsolicited input).map (·, [])
    | .fail reason => if d.session = .offline then none else some (d.fail reason, [])

def DaemonStarted (d : Daemon) : Prop :=
  Started ⟨d.clock, d.state⟩ ∧ d.ordinary.items = [] ∧ d.safety.items = [] ∧
    d.session = .offline ∧ d.safetyRequests = [] ∧ d.ordinaryRequests = []

section Steps

variable {timing : ProtocolTiming} {inputs : HostMap String} {d d' : Daemon} {turn : Turn}
  {sent : List Effect}

def Daemon.view (d : Daemon) := (d.clock, d.state, d.ordinary, d.safety)

structure Handles (d d' : Daemon) (event : Event) (nowMs : Nat) (timing : ProtocolTiming) : Prop where
  later : d.clock ≤ nowMs
  clock : d'.clock = nowMs
  accepted : (d'.state = d.state ∧ d'.ordinary = d.ordinary ∧ d'.safety = d.safety) ∨
    ∃ t r, apply d.state event nowMs timing = .ok t ∧
      r = dispatchEffects t.next t.effects nowMs timing d.ordinary d.safety ∧
      d'.state = r.state ∧ d'.ordinary = r.ordinary ∧ d'.safety = r.safety

structure Takes (d d' : Daemon) (effect : Effect) (sent : List Effect) : Prop where
  clock : d'.clock = d.clock
  state : d'.state = d.state
  queue : (d.safety.items = effect :: d'.safety.items ∧ d'.ordinary = d.ordinary) ∨
    (d.safety.items = [] ∧ d'.safety = d.safety ∧ d.ordinary.items = effect :: d'.ordinary.items)
  written : sent = [] ∨ sent = [effect]

theorem Daemon.coordinate_handles {checkedMs nowMs : Nat} {timer : Bool}
    (h : d.coordinate checkedMs nowMs timer timing = some d') :
    ∃ event next, d.nextEvent checkedMs nowMs timer = some (event, next) ∧
      Handles d d' event nowMs timing := by
  unfold coordinate at h
  split at h
  · contradiction
  split at h
  · contradiction
  rename_i event next chosen
  refine ⟨event, next, chosen, ?_⟩
  have same : next.view = d.view := by
    unfold nextEvent at chosen
    repeat' split at chosen
    all_goals cases chosen <;> rfl
  simp only [view, Prod.mk.injEq] at same
  obtain ⟨clock, state, ordinary, safety⟩ := same
  unfold handle at h
  split at h
  · rename_i t applied
    cases h
    refine ⟨by omega, rfl, .inr ⟨t, _, state ▸ applied, rfl, ?_⟩⟩
    simp [ordinary, safety]
  · cases h
    exact ⟨by omega, rfl, .inl ⟨state, ordinary, safety⟩⟩
  · contradiction

theorem Daemon.execute_view (d : Daemon) (effect : Effect) (failure : Option String)
    (inputs : HostMap String) :
    (d.execute effect failure inputs).1.view = d.view ∧
      ((d.execute effect failure inputs).2 = [] ∨ (d.execute effect failure inputs).2 = [effect]) := by
  unfold execute
  repeat' split
  all_goals exact ⟨rfl, by simp⟩

theorem Daemon.take_takes {failure : Option String} (h : d.take failure inputs = some (d', sent)) :
    ∃ effect, Takes d d' effect sent := by
  unfold take at h
  split at h
  · contradiction
  obtain ⟨⟨effect, next⟩, chosen, done⟩ := Option.map_eq_some_iff.mp h
  obtain ⟨same, written⟩ := next.execute_view effect failure inputs
  rw [done] at same written
  simp only [view, Prod.mk.injEq] at same
  obtain ⟨clock, state, ordinary, safety⟩ := same
  refine ⟨effect, ?_⟩
  unfold nextEffect at chosen
  split at chosen
  · rename_i first rest received
    cases chosen
    refine ⟨clock, state, .inl ⟨?_, ordinary⟩, written⟩
    rw [safety]
    exact Channel.receive_items received
  rename_i empty
  split at chosen
  · rename_i first rest received
    cases chosen
    refine ⟨clock, state, .inr ⟨Channel.receive_none empty, safety, ?_⟩, written⟩
    rw [ordinary]
    exact Channel.receive_items received
  · contradiction

/-- A turn is idle as far as TV commands go, or it is one of the two above. -/
theorem daemon_step (h : (daemon timing inputs).step d turn = some (d', sent)) :
    (d'.view = d.view ∧ sent = []) ∨
    (∃ checkedMs nowMs timer event next, turn = .coordinate checkedMs nowMs timer ∧ sent = [] ∧
      d.nextEvent checkedMs nowMs timer = some (event, next) ∧ Handles d d' event nowMs timing) ∨
    (∃ effect, Takes d d' effect sent) := by
  have idle {x : Option Daemon} (kept : ∀ n, x = some n → n.view = d.view)
      (h : x.map (·, ([] : List Effect)) = some (d', sent)) : d'.view = d.view ∧ sent = [] := by
    obtain ⟨n, found, done⟩ := Option.map_eq_some_iff.mp h
    cases done
    exact ⟨kept _ found, rfl⟩
  have staged {current next : Session} {event : Event} (n : Daemon)
      (h : d.stage current next event = some n) : n.view = d.view := by
    unfold stage at h
    split at h <;> cases h
    rfl
  cases turn with
  | coordinate checkedMs nowMs timer =>
    obtain ⟨n, found, done⟩ := Option.map_eq_some_iff.mp h
    cases done
    obtain ⟨event, next, chosen, handles⟩ := coordinate_handles found
    exact .inr (.inl ⟨checkedMs, nowMs, timer, event, next, rfl, rfl, chosen, handles⟩)
  | take failure => exact .inr (.inr (take_takes h))
  | submit event =>
    refine .inl (idle (fun n submitted => ?_) h)
    unfold submit at submitted
    split at submitted <;> cases submitted <;> rfl
  | connect | register | subscribe | synchronize => exact .inl (idle staged h)
  | answer answer =>
    refine .inl (idle (fun n told => ?_) h)
    unfold answered at told
    split at told <;> cases told <;> rfl
  | unsolicited input =>
    refine .inl (idle (fun n told => ?_) h)
    unfold unsolicited at told
    split at told <;> cases told <;> rfl
  | fail reason =>
    simp only [daemon] at h
    split at h <;> cases h
    exact .inl ⟨rfl, rfl⟩

end Steps

end DisplayMux.Tv
