import DisplayMux.Lib.Coalesce
import DisplayMux.Lib.Machine
import DisplayMux.LanMouse.InputCapture

/-! The queue between the hooks of a capture backend and its stream. It keeps every event
that is not a motion, up to a capacity, and the last of several motions in a row. The lock
around it makes every call one step. -/
namespace DisplayMux.LanMouse

abbrev QueuedEvent := Position × CaptureEvent

def scanCodeSlots : Nat := 2 * (255 + 1)
def pointerTransitions : Nat := 16
def criticalEventCapacity : Nat := 2 * scanCodeSlots + pointerTransitions

structure QueueState where
  events : List QueuedEvent
  criticalCount : Nat
  overflowed : Bool
  closed : Bool
  deriving DecidableEq, Repr

inductive PushOutcome where
  | queued | overflow
  deriving DecidableEq, Repr

inductive QueuePoll where
  | event (event : QueuedEvent)
  | overflow
  | closed
  deriving DecidableEq, Repr

def isMotion : CaptureEvent → Bool
  | .input (.pointer (.motion ..)) => true
  | _ => false

def QueuedEvent.isMotion (event : QueuedEvent) : Bool := LanMouse.isMotion event.2

def QueuedEvent.isCritical (event : QueuedEvent) : Bool := !event.isMotion

inductive QueueCall where
  | push (position : Position) (event : CaptureEvent)
  | poll
  | close
  deriving DecidableEq, Repr

inductive QueueReply where
  | pushed (outcome : PushOutcome)
  | polled (poll : Poll QueuePoll)
  | done
  deriving DecidableEq, Repr

namespace QueueState

def new : QueueState := ⟨[], 0, false, false⟩

def push (q : QueueState) (position : Position) (event : CaptureEvent) : QueueState × PushOutcome :=
  if q.closed || q.overflowed then (q, .overflow)
  else if isMotion event then
    if q.events.getLast?.any QueuedEvent.isMotion then
      ({ q with events := q.events.dropLast ++ [(position, event)] }, .queued)
    else ({ q with events := q.events ++ [(position, event)] }, .queued)
  else if q.criticalCount < criticalEventCapacity then
    ({ q with events := q.events ++ [(position, event)], criticalCount := q.criticalCount + 1 }, .queued)
  else ({ q with events := [], criticalCount := 0, overflowed := true }, .overflow)

/-- `none` when the count of critical events would become negative. -/
def poll (q : QueueState) : Option (QueueState × Poll QueuePoll) :=
  if q.overflowed then some ({ q with overflowed := false }, .ready .overflow)
  else match q.events with
    | event :: events =>
      if event.isMotion then some ({ q with events }, .ready (.event event))
      else if q.criticalCount = 0 then none
      else some ({ q with events, criticalCount := q.criticalCount - 1 }, .ready (.event event))
    | [] => if q.closed then some (q, .ready .closed) else some (q, .pending)

def close (q : QueueState) : QueueState := { q with closed := true }

def perform (q : QueueState) : QueueCall → Option (QueueState × QueueReply)
  | .push position event =>
    let (q, outcome) := q.push position event
    some (q, .pushed outcome)
  | .poll => q.poll.map fun (q, poll) => (q, .polled poll)
  | .close => some (q.close, .done)

end QueueState

def eventQueue : Machine QueueState QueueCall QueueReply := ⟨QueueState.perform⟩

abbrev QueueEntry := Entry QueueState QueueCall QueueReply

/-- The queue as a list of everything that was accepted and not yet passed on. -/
structure QueueSpec where
  accepted : List QueuedEvent
  overflowed : Bool
  closed : Bool
  deriving DecidableEq, Repr

namespace QueueSpec

def new : QueueSpec := ⟨[], false, false⟩

def push (q : QueueSpec) (event : QueuedEvent) : QueueSpec × PushOutcome :=
  if q.closed || q.overflowed then (q, .overflow)
  else if event.isMotion || q.accepted.countP QueuedEvent.isCritical < criticalEventCapacity then
    ({ q with accepted := q.accepted ++ [event] }, .queued)
  else ({ q with accepted := [], overflowed := true }, .overflow)

/-- The first run of motions counts as its last one, and so leaves the queue at once. -/
def poll (q : QueueSpec) : QueueSpec × Poll QueuePoll :=
  if q.overflowed then ({ q with overflowed := false }, .ready .overflow)
  else match (firstRun QueuedEvent.isMotion q.accepted).1.getLast? with
    | some event =>
      ({ q with accepted := (firstRun QueuedEvent.isMotion q.accepted).2 }, .ready (.event event))
    | none => (q, if q.closed then .ready .closed else .pending)

def close (q : QueueSpec) : QueueSpec := { q with closed := true }

def perform (q : QueueSpec) : QueueCall → QueueSpec × QueueReply
  | .push position event =>
    let (q, outcome) := q.push (position, event)
    (q, .pushed outcome)
  | .poll =>
    let (q, poll) := q.poll
    (q, .polled poll)
  | .close => (q.close, .done)

end QueueSpec

def queueSpec : Machine QueueSpec QueueCall QueueReply := ⟨fun q call => some (q.perform call)⟩

/-- What the queue stores for the list: each run of motions as its last one. -/
def QueueSpec.stored (q : QueueSpec) : QueueState where
  events := coalesce QueuedEvent.isMotion q.accepted
  criticalCount := q.accepted.countP QueuedEvent.isCritical
  overflowed := q.overflowed
  closed := q.closed

open QueueSpec

section Refinement

variable (q : QueueSpec)

theorem countP_coalesce (l : List QueuedEvent) :
    (coalesce QueuedEvent.isMotion l).countP QueuedEvent.isCritical = l.countP QueuedEvent.isCritical := by
  rw [List.countP_eq_length_filter, List.countP_eq_length_filter]
  exact congrArg List.length (filter_coalesce QueuedEvent.isMotion l)

theorem stored_push (position : Position) (event : CaptureEvent) :
    q.stored.push position event = ((q.push (position, event)).1.stored, (q.push (position, event)).2) := by
  have joins := coalesce_concat QueuedEvent.isMotion q.accepted (position, event)
  have more : (q.accepted ++ [(position, event)]).countP QueuedEvent.isCritical =
      q.accepted.countP QueuedEvent.isCritical +
        if QueuedEvent.isCritical (position, event) then 1 else 0 := by
    rw [List.countP_append, List.countP_singleton]
  simp only [QueueState.push, push, stored, getLast?_coalesce]
  split
  · rfl
  cases kind : isMotion event with
  | true =>
    have motion : QueuedEvent.isMotion (position, event) = true := kind
    simp only [motion, QueuedEvent.isCritical, Bool.true_and, Bool.not_true, Bool.false_eq_true,
      if_false, Nat.add_zero] at joins more
    simp only [motion, if_true, Bool.true_or, joins, more]
    split <;> rfl
  | false =>
    have critical : QueuedEvent.isMotion (position, event) = false := kind
    simp only [critical, QueuedEvent.isCritical, Bool.false_and, Bool.not_false, Bool.false_eq_true,
      if_false, if_true] at joins more
    by_cases room : q.accepted.countP QueuedEvent.isCritical < criticalEventCapacity
    · simp [critical, room, joins, more]
    · simp [critical, room, coalesce]

theorem stored_events_cons {event : QueuedEvent}
    (last : (firstRun QueuedEvent.isMotion q.accepted).1.getLast? = some event) :
    q.stored.events =
      event :: coalesce QueuedEvent.isMotion (firstRun QueuedEvent.isMotion q.accepted).2 := by
  simp only [stored]
  rw [coalesce_firstRun, last]
  rfl

theorem stored_count {event : QueuedEvent}
    (last : (firstRun QueuedEvent.isMotion q.accepted).1.getLast? = some event) :
    q.stored.criticalCount =
      (firstRun QueuedEvent.isMotion q.accepted).2.countP QueuedEvent.isCritical +
        if event.isMotion then 0 else 1 := by
  have member := List.mem_of_getLast? last
  have some : q.accepted ≠ [] := by
    rintro empty
    rw [firstRun_eq_nil.mpr empty] at member
    cases member
  have count : q.stored.criticalCount =
      ((firstRun QueuedEvent.isMotion q.accepted).1 ++
        (firstRun QueuedEvent.isMotion q.accepted).2).countP QueuedEvent.isCritical := by
    rw [firstRun_append]
    rfl
  rw [count, List.countP_append, Nat.add_comm]
  congr 1
  rcases firstRun_cases QueuedEvent.isMotion q.accepted some with ⟨single, is, critical⟩ | ⟨motions, -⟩
  · rw [is] at last
    obtain rfl := Option.some.inj last
    simp [is, QueuedEvent.isCritical, critical]
  · rw [List.countP_eq_zero.mpr fun e here => by simp [QueuedEvent.isCritical, motions e here],
      if_pos (motions event member)]

theorem stored_poll : q.stored.poll = some (q.poll.1.stored, q.poll.2) := by
  by_cases lost : q.overflowed = true
  · simp [QueueState.poll, poll, stored, lost]
  have kept : q.stored.overflowed = false := Bool.eq_false_iff.mpr lost
  simp only [QueueState.poll, poll, kept, lost, Bool.false_eq_true, if_false]
  cases last : (firstRun QueuedEvent.isMotion q.accepted).1.getLast? with
  | none =>
    have empty : q.stored.events = [] :=
      coalesce_eq_nil.mpr (firstRun_eq_nil.mp (List.getLast?_eq_none_iff.mp last))
    rw [empty]
    by_cases closed : q.closed = true
    · simp [stored, closed]
    · simp [stored, closed]
  | some event =>
    have count := stored_count q last
    rw [stored_events_cons q last]
    by_cases motion : event.isMotion = true
    · rw [if_pos motion, Nat.add_zero] at count
      simp only [motion, if_true]
      simp [stored] at count ⊢
      exact count
    · rw [if_neg motion] at count
      simp only [motion, count, Bool.false_eq_true, if_false, Nat.succ_ne_zero]
      rfl

theorem stored_perform (call : QueueCall) :
    q.stored.perform call = some ((q.perform call).1.stored, (q.perform call).2) := by
  cases call with
  | push position event => simp [QueueState.perform, QueueSpec.perform, stored_push]
  | poll => simp [QueueState.perform, QueueSpec.perform, stored_poll]
  | close => rfl

end Refinement

section Runs

def acceptedIn (trace : List QueueEntry) : List QueuedEvent :=
  trace.filterMap fun e => match e.input, e.output with
    | .push position event, .pushed .queued => some (position, event)
    | _, _ => none

def deliveredIn (trace : List QueueEntry) : List QueuedEvent :=
  trace.filterMap fun e => match e.output with
    | .polled (.ready (.event event)) => some event
    | _ => none

def Discards (e : QueueEntry) : Prop := e.pre.overflowed = false ∧ e.post.overflowed = true

def Lost : List QueueEntry → Prop := Since (fun _ => Discards) (·.input ≠ .poll)

def Shut (trace : List QueueEntry) : Prop := ∃ e ∈ trace, e.input = .close

def IsRun (run : List QueuedEvent) : Prop :=
  (∃ event, run = [event] ∧ event.isCritical = true) ∨ run ≠ [] ∧ ∀ event ∈ run, event.isMotion = true

structure QueueLaw (trace : List QueueEntry) (s : QueueState) : Prop where
  /-- The list answers every call alike, and the queue stores what it comes to. -/
  refines : ∃ spec trace', Run queueSpec .new trace' spec ∧ s = spec.stored ∧
    trace'.map (fun e => (e.input, e.output)) = trace.map fun e => (e.input, e.output)
  /-- Since the start or the last overflow, each run is passed on as its last event. -/
  delivers : ∀ before since after, trace = before ++ since ++ after →
    (before = [] ∨ ∃ e, before.getLast? = some e ∧ Discards e) → (∀ e ∈ since, ¬ Discards e) →
      ∃ (runs : List (List QueuedEvent)) (queued : List QueuedEvent),
        acceptedIn since = runs.flatten ++ queued ∧
        deliveredIn since = runs.filterMap List.getLast? ∧ (∀ run ∈ runs, IsRun run) ∧
        ∀ e, (before ++ since).getLast? = some e → e.post.events = coalesce QueuedEvent.isMotion queued
  counts : ∀ e ∈ trace, e.post.criticalCount = e.post.events.countP QueuedEvent.isCritical ∧
    e.post.events.length ≤ 2 * criticalEventCapacity + 1
  pushes : ∀ before e after position event, trace = before ++ e :: after → e.input = .push position event →
    (e.output = .pushed .queued ↔ ¬ Shut before ∧ ¬ Lost before ∧
      (isMotion event = true ∨ e.pre.events.countP QueuedEvent.isCritical < criticalEventCapacity)) ∧
    (Discards e ↔ ¬ Shut before ∧ ¬ Lost before ∧
      isMotion event = false ∧ criticalEventCapacity ≤ e.pre.events.countP QueuedEvent.isCritical)
  discards : ∀ e ∈ trace, Discards e → e.output = .pushed .overflow ∧ e.post.events = []
  polls : ∀ before e after, trace = before ++ e :: after → e.input = .poll →
    (e.output = .polled (.ready .overflow) ↔ Lost before) ∧
    (∀ event, e.output = .polled (.ready (.event event)) ↔
      ¬ Lost before ∧ e.pre.events.head? = some event) ∧
    (e.output = .polled (.ready .closed) ↔ ¬ Lost before ∧ Shut before ∧ e.pre.events = [])
  answers : ∀ call, ∃ s' reply, eventQueue.step s call = some (s', reply)

inductive QueueSpec.Performs (q : QueueSpec) : QueueCall → QueueReply → QueueSpec → Prop where
  | refused (position : Position) (event : CaptureEvent) (off : q.closed = true ∨ q.overflowed = true) :
    Performs q (.push position event) (.pushed .overflow) q
  | accepted (position : Position) (event : CaptureEvent) (opened : q.closed = false)
    (kept : q.overflowed = false)
    (room : isMotion event = true ∨ q.accepted.countP QueuedEvent.isCritical < criticalEventCapacity) :
    Performs q (.push position event) (.pushed .queued)
      { q with accepted := q.accepted ++ [(position, event)] }
  | discarded (position : Position) (event : CaptureEvent) (opened : q.closed = false)
    (kept : q.overflowed = false) (critical : isMotion event = false)
    (full : criticalEventCapacity ≤ q.accepted.countP QueuedEvent.isCritical) :
    Performs q (.push position event) (.pushed .overflow) { q with accepted := [], overflowed := true }
  | reported (lost : q.overflowed = true) :
    Performs q .poll (.polled (.ready .overflow)) { q with overflowed := false }
  | passed (run rest : List QueuedEvent) (event : QueuedEvent) (kept : q.overflowed = false)
    (split : q.accepted = run ++ rest) (last : run.getLast? = some event) (is : IsRun run) :
    Performs q .poll (.polled (.ready (.event event))) { q with accepted := rest }
  | empty (kept : q.overflowed = false) (none : q.accepted = []) :
    Performs q .poll (.polled (if q.closed then .ready .closed else .pending)) q
  | closed : Performs q .close .done q.close

theorem QueueSpec.perform_performs (q : QueueSpec) (call : QueueCall) :
    q.Performs call (q.perform call).2 (q.perform call).1 := by
  cases call with
  | push position event =>
    simp only [perform, push]
    split
    · rename_i off
      exact .refused position event (by simpa using off)
    rename_i on
    simp only [Bool.or_eq_true, not_or, Bool.not_eq_true] at on
    split
    · rename_i room
      exact .accepted position event on.1 on.2 (by simpa [QueuedEvent.isMotion] using room)
    · rename_i full
      simp only [Bool.or_eq_true, not_or, Bool.not_eq_true, decide_eq_true_eq] at full
      exact .discarded position event on.1 on.2 full.1 (not_lt.mp full.2)
  | poll =>
    simp only [perform, poll]
    split
    · rename_i lost
      exact .reported lost
    rename_i kept
    have kept := Bool.eq_false_iff.mpr kept
    split
    · rename_i event last
      have some : q.accepted ≠ [] := by
        intro empty
        rw [firstRun_eq_nil.mpr empty] at last
        cases last
      refine .passed _ _ event kept (firstRun_append _ _).symm last ?_
      rcases firstRun_cases QueuedEvent.isMotion q.accepted some with ⟨single, is, critical⟩ | ⟨motions, -⟩
      · exact .inl ⟨single, is, by simp [QueuedEvent.isCritical, critical]⟩
      · exact .inr ⟨mt firstRun_eq_nil.mp some, motions⟩
    · rename_i none
      exact .empty kept (firstRun_eq_nil.mp (List.getLast?_eq_none_iff.mp none))
  | close => exact .closed

variable {trace : List QueueEntry} {s s' : QueueState} {call : QueueCall} {reply : QueueReply} {q : QueueSpec}

def Stores (s : QueueState) (q : QueueSpec) : Prop :=
  s = q.stored ∧ q.accepted.countP QueuedEvent.isCritical ≤ criticalEventCapacity

theorem QueueSpec.Performs.bounded {q' : QueueSpec} (performs : q.Performs call reply q')
    (bound : q.accepted.countP QueuedEvent.isCritical ≤ criticalEventCapacity) :
    q'.accepted.countP QueuedEvent.isCritical ≤ criticalEventCapacity := by
  cases performs with
  | accepted position event opened kept room =>
    simp only [List.countP_append, List.countP_singleton]
    rcases room with motion | room
    · have motion : QueuedEvent.isCritical (position, event) = false := by
        simp [QueuedEvent.isCritical, QueuedEvent.isMotion, motion]
      simpa [motion] using bound
    · split <;> omega
  | discarded => exact Nat.zero_le _
  | passed run rest event kept split last is =>
    rw [split, List.countP_append] at bound
    exact Nat.le_trans (Nat.le_add_left _ _) bound
  | refused | reported | empty | closed => exact bound

theorem Stores.step (stores : Stores s q) (step : eventQueue.step s call = some (s', reply)) :
    q.Performs call reply (q.perform call).1 ∧ reply = (q.perform call).2 ∧ Stores s' (q.perform call).1 := by
  obtain ⟨rfl, bound⟩ := stores
  have performs := q.perform_performs call
  have performed := Option.some.inj ((stored_perform q call).symm.trans step)
  obtain ⟨rfl, rfl⟩ := Prod.mk.inj performed
  exact ⟨performs, rfl, rfl, performs.bounded bound⟩

theorem exists_spec_run (run : Run eventQueue .new trace s) :
    ∃ spec trace', Run queueSpec .new trace' spec ∧ Stores s spec ∧
      trace'.map (fun e => (e.input, e.output)) = trace.map fun e => (e.input, e.output) := by
  induction run with
  | nil => exact ⟨.new, [], .nil, ⟨rfl, Nat.zero_le _⟩, rfl⟩
  | @snoc trace s s' call reply _ step ih =>
    obtain ⟨spec, trace', spec_run, stores, same⟩ := ih
    obtain ⟨-, rfl, stores⟩ := stores.step step
    have spec_step : queueSpec.step spec call = some (spec.perform call) := rfl
    exact ⟨_, _, spec_run.snoc spec_step, stores, by rw [List.map_append, List.map_append, same]; rfl⟩

theorem exists_stores (run : Run eventQueue .new trace s) : ∃ q, Stores s q := by
  obtain ⟨q, -, -, stores, -⟩ := exists_spec_run run
  exact ⟨q, stores⟩

theorem Stores.counts (stores : Stores s q) :
    s.criticalCount = s.events.countP QueuedEvent.isCritical ∧
      s.events.length ≤ 2 * criticalEventCapacity + 1 := by
  obtain ⟨rfl, bound⟩ := stores
  refine ⟨(countP_coalesce q.accepted).symm, ?_⟩
  have short : q.stored.events.length ≤ 2 * q.accepted.countP QueuedEvent.isCritical + 1 :=
    (length_coalesce_le QueuedEvent.isMotion q.accepted).1
  omega

section Flags

variable (stores : Stores s q) (step : eventQueue.step s call = some (s', reply))
include stores step

theorem overflowed_step : s'.overflowed = true ↔
    Discards ⟨s, call, reply, s'⟩ ∨ s.overflowed = true ∧ call ≠ .poll := by
  obtain ⟨performs, -, after⟩ := stores.step step
  unfold Discards
  rw [after.1, stores.1]
  generalize (q.perform call).1 = q' at performs
  cases performs with
  | discarded position event opened kept critical full | passed run rest event kept split last is
  | empty kept none => simp [stored, kept]
  | refused | accepted | reported | closed => simp [stored, close]

theorem closed_step : s'.closed = true ↔ s.closed = true ∨ call = .close := by
  obtain ⟨performs, -, after⟩ := stores.step step
  rw [after.1, stores.1]
  generalize (q.perform call).1 = q' at performs
  cases performs <;> simp [stored, close]

theorem discards_iff : Discards ⟨s, call, reply, s'⟩ ↔
    ∃ position event, call = .push position event ∧ s.closed = false ∧ s.overflowed = false ∧
      isMotion event = false ∧ criticalEventCapacity ≤ s.events.countP QueuedEvent.isCritical := by
  obtain ⟨performs, -, after⟩ := stores.step step
  unfold Discards
  rw [after.1, ← stores.counts.1, stores.1]
  generalize (q.perform call).1 = q' at performs
  cases performs with
  | refused position event off =>
    simp only [stored, QueueCall.push.injEq]
    constructor
    · rintro ⟨kept, lost⟩
      exact absurd (kept.symm.trans lost) nofun
    · rintro ⟨_, _, ⟨rfl, rfl⟩, opened, kept, -⟩
      simp [opened, kept] at off
  | accepted position event opened kept room =>
    constructor
    · rintro ⟨kept, lost⟩
      exact absurd (kept.symm.trans lost) nofun
    · rintro ⟨_, _, ⟨rfl, rfl⟩, -, -, critical, full⟩
      rcases room with motion | room
      · exact absurd (critical.symm.trans motion) nofun
      · exact absurd full (not_le.mpr room)
  | discarded position event opened kept critical full =>
    simp only [stored, and_true]
    exact ⟨fun _ => ⟨position, event, rfl, opened, kept, critical, full⟩, fun _ => kept⟩
  | reported lost => simp [stored]
  | passed run rest event kept split last is | empty kept none => simp [stored, kept]
  | closed => simp [stored, close]

theorem discards_empties (discards : Discards ⟨s, call, reply, s'⟩) :
    reply = .pushed .overflow ∧ s'.events = [] := by
  obtain ⟨performs, -, after⟩ := stores.step step
  rw [after.1, stores.1] at discards
  rw [after.1]
  generalize (q.perform call).1 = q' at performs discards
  cases performs with
  | discarded => exact ⟨rfl, rfl⟩
  | passed run rest event kept | empty kept => exact absurd (kept.symm.trans discards.2) nofun
  | refused | accepted | closed => exact absurd (discards.1.symm.trans discards.2) nofun
  | reported => exact absurd discards.2 nofun

theorem queued_iff {position : Position} {event : CaptureEvent} (is : call = .push position event) :
    reply = .pushed .queued ↔ s.closed = false ∧ s.overflowed = false ∧
      (isMotion event = true ∨ s.events.countP QueuedEvent.isCritical < criticalEventCapacity) := by
  obtain ⟨performs, -, -⟩ := stores.step step
  rw [← stores.counts.1, stores.1]
  subst is
  generalize (q.perform (.push position event)).1 = q' at performs
  cases performs with
  | refused _ _ off =>
    simp only [stored, reduceCtorEq, QueueReply.pushed.injEq, false_iff]
    rintro ⟨opened, kept, -⟩
    simp [opened, kept] at off
  | accepted _ _ opened kept room => exact iff_of_true rfl ⟨opened, kept, room⟩
  | discarded _ _ opened kept critical full =>
    simp only [stored, reduceCtorEq, QueueReply.pushed.injEq, false_iff]
    rintro ⟨-, -, motion | room⟩
    · exact absurd (critical.symm.trans motion) nofun
    · exact absurd full (not_le.mpr room)

omit stores in
theorem poll_iff (is : call = .poll) :
    (reply = .polled (.ready .overflow) ↔ s.overflowed = true) ∧
      (∀ event, reply = .polled (.ready (.event event)) ↔
        s.overflowed = false ∧ s.events.head? = some event) ∧
      (reply = .polled (.ready .closed) ↔ s.overflowed = false ∧ s.closed = true ∧ s.events = []) := by
  subst is
  have replied : s.poll.map (fun p => QueueReply.polled p.2) = some reply := by
    have step : s.poll.map (fun (s, poll) => (s, QueueReply.polled poll)) = some (s', reply) := step
    obtain ⟨⟨_, poll⟩, polled, same⟩ := Option.map_eq_some_iff.mp step
    cases same
    rw [polled]
    rfl
  unfold QueueState.poll at replied
  by_cases lost : s.overflowed = true
  · rw [if_pos lost] at replied
    cases replied
    simp [lost]
  rw [if_neg lost] at replied
  cases queued : s.events with
  | nil =>
    rw [queued] at replied
    by_cases closed : s.closed = true
    · rw [if_pos closed] at replied
      cases replied
      simp [lost, closed]
    · rw [if_neg closed] at replied
      cases replied
      simp [lost, closed]
  | cons event events =>
    rw [queued] at replied
    simp only at replied
    split at replied
    · cases replied
      simp [lost]
    · split at replied
      · cases replied
      · cases replied
        simp [lost]

end Flags

theorem flags_of_run (run : Run eventQueue .new trace s) :
    (s.overflowed = true ↔ Lost trace) ∧ (s.closed = true ↔ Shut trace) := by
  refine run.history (P := fun trace s => (s.overflowed = true ↔ Lost trace) ∧ (s.closed = true ↔ Shut trace))
    (by simp [QueueState.new, Lost, Since, Shut]) ?_
  rintro trace s call s' reply earlier ⟨lost, shut⟩ step
  obtain ⟨q, stores⟩ := exists_stores earlier
  constructor
  · rw [overflowed_step stores step, lost]
    constructor
    · rintro (discards | ⟨since, other⟩)
      · exact .now discards
      · exact since.later other
    · exact Since.of_snoc
  · rw [closed_step stores step, shut]
    simp [Shut, or_and_right, exists_or]

theorem acceptedIn_snoc (e : QueueEntry) : acceptedIn (trace ++ [e]) = acceptedIn trace ++ acceptedIn [e] :=
  List.filterMap_append

theorem deliveredIn_snoc (e : QueueEntry) :
    deliveredIn (trace ++ [e]) = deliveredIn trace ++ deliveredIn [e] :=
  List.filterMap_append

theorem Stores.delivers (stores : Stores s q) (run : Run eventQueue s trace s')
    (quiet : ∀ e ∈ trace, ¬ Discards e) :
    ∃ (q' : QueueSpec) (runs : List (List QueuedEvent)), Stores s' q' ∧
      q.accepted ++ acceptedIn trace = runs.flatten ++ q'.accepted ∧
      deliveredIn trace = runs.filterMap List.getLast? ∧ ∀ run ∈ runs, IsRun run := by
  induction run with
  | nil => exact ⟨q, [], stores, by simp [acceptedIn], rfl, by simp⟩
  | @snoc trace s₁ s₂ call reply run step ih =>
    obtain ⟨q₁, runs, stores₁, same, delivered, each⟩ := ih fun e member => quiet e (by simp [member])
    obtain ⟨performs, -, stores₂⟩ := stores₁.step step
    have still := quiet ⟨s₁, call, reply, s₂⟩ (by simp)
    rw [acceptedIn_snoc, deliveredIn_snoc, ← List.append_assoc, same, delivered]
    generalize (q₁.perform call).1 = q₂ at performs stores₂
    cases performs with
    | accepted position event => exact ⟨_, runs, stores₂, by simp [acceptedIn], by simp [deliveredIn], each⟩
    | discarded position event opened kept =>
      refine absurd ⟨?_, ?_⟩ still
      · rw [stores₁.1]
        exact kept
      · rw [stores₂.1]
        rfl
    | passed run rest event kept split last is =>
      refine ⟨_, runs ++ [run], stores₂, by simp [acceptedIn, split], by simp [deliveredIn, last], ?_⟩
      intro run' member
      rcases List.mem_append.mp member with old | new
      · exact each run' old
      · rw [List.mem_singleton.mp new]
        exact is
    | empty kept none =>
      refine ⟨_, runs, stores₂, by simp [acceptedIn], ?_, each⟩
      cases closed : q₁.closed <;> simp [deliveredIn]
    | refused | reported | closed =>
      exact ⟨_, runs, stores₂, by simp [acceptedIn, close], by simp [deliveredIn], each⟩

theorem exists_stores_empty (run : Run eventQueue .new trace s)
    (fresh : trace = [] ∨ ∃ e, trace.getLast? = some e ∧ Discards e) : ∃ q, Stores s q ∧ q.accepted = [] := by
  cases run with
  | nil => exact ⟨.new, ⟨rfl, Nat.zero_le _⟩, rfl⟩
  | snoc earlier step =>
    obtain ⟨q, stores⟩ := exists_stores earlier
    obtain ⟨-, -, after⟩ := stores.step step
    rcases fresh with none | ⟨e, last, discards⟩
    · exact absurd none (by simp)
    rw [List.getLast?_concat] at last
    obtain rfl := Option.some.inj last
    refine ⟨_, after, ?_⟩
    have emptied := (discards_empties stores step discards).2
    rw [after.1] at emptied
    exact coalesce_eq_nil.mp emptied

end Runs

/-- The queue answers every call as the list of accepted events does. It loses nothing but
motions that another one follows, except when it overflows, which the next poll reports. -/
theorem event_queue_refines_list {trace : List QueueEntry} {s : QueueState}
    (run : Run eventQueue .new trace s) : QueueLaw trace s where
  refines := by
    obtain ⟨spec, trace', spec_run, stores, same⟩ := exists_spec_run run
    exact ⟨spec, trace', spec_run, stores.1, same⟩
  delivers := by
    rintro before since after here fresh quiet
    subst here
    obtain ⟨s₂, run, -⟩ := run.of_append
    obtain ⟨s₁, first, second⟩ := run.of_append
    obtain ⟨q, stores, none⟩ := exists_stores_empty first fresh
    obtain ⟨q', runs, stores', accepted, delivered, each⟩ := stores.delivers second quiet
    rw [none, List.nil_append] at accepted
    refine ⟨runs, q'.accepted, accepted, delivered, each, fun e last => ?_⟩
    rw [run.last_post last, stores'.1]
    rfl
  counts := by
    intro e member
    obtain ⟨before, earlier, step⟩ := run.entry_step member
    obtain ⟨q, stores⟩ := exists_stores earlier
    exact (stores.step step).2.2.counts
  pushes := by
    rintro before ⟨s, call, reply, s'⟩ after position event here is
    obtain ⟨earlier, step, -⟩ := run.split here
    obtain ⟨q, stores⟩ := exists_stores earlier
    obtain ⟨lost, shut⟩ := flags_of_run earlier
    rw [← lost, ← shut, queued_iff stores step is, discards_iff stores step]
    cases is
    simp
  discards := by
    rintro ⟨s, call, reply, s'⟩ member discards
    obtain ⟨before, earlier, step⟩ := run.entry_step member
    obtain ⟨q, stores⟩ := exists_stores earlier
    exact discards_empties stores step discards
  polls := by
    rintro before ⟨s, call, reply, s'⟩ after here is
    obtain ⟨earlier, step, -⟩ := run.split here
    obtain ⟨lost, shut⟩ := flags_of_run earlier
    rw [← lost, ← shut, Bool.not_eq_true]
    exact poll_iff step is
  answers := by
    intro call
    obtain ⟨q, rfl, -⟩ := exists_stores run
    exact ⟨_, _, stored_perform q call⟩

/-- Two motions and a button: the first motion is dropped, and the queue is closed only once
it is empty. -/
theorem event_queue_keeps_latest_motion : ∃ trace s, Run eventQueue .new trace s ∧ QueueLaw trace s ∧
    deliveredIn trace = [(.left, .input (.pointer (.motion 0 2 0))),
      (.left, .input (.pointer (.button 0 1 1)))] :=
  eventQueue.exists_lawful .new
    [.push .left (.input (.pointer (.motion 0 1 0))), .push .left (.input (.pointer (.motion 0 2 0))),
      .push .left (.input (.pointer (.button 0 1 1))), .close, .poll, .poll, .poll]
    _ event_queue_refines_list (by decide)

end DisplayMux.LanMouse
