import DisplayMux.LanMouse.Speech
import DisplayMux.LanMouse.Listen

/-! A sender and a receiver that are joined by a reliable link in each direction, for as
long as the connection lasts. Acknowledgements do not say what they acknowledge. -/
namespace DisplayMux.LanMouse

open ProtoEvent

/-- A sender and a receiver with the messages on the way between them. -/
structure Pair where
  sender : Process
  receiver : ListenTask
  up : List ProtoEvent
  down : List ProtoEvent

structure PairOutput where
  acts : List Act
  effects : List ListenEffect

/-- What happens next: a turn of the sender or the receiver, or one of them takes the next
message off its link. The sender's connection also pings and greets on its own. -/
inductive PairMove where
  | capture (turn : Turn)
  | hear (answers : Answers)
  | listen (turn : ListenTurn)
  | deliver (fingerprint : Option String)
  | beat (event : ProtoEvent)
  deriving DecidableEq, Repr

def Turn.hears (handle : CaptureHandle) : Turn → Bool
  | .receive own _ _ => own = handle
  | _ => false

def Turn.reliable : Turn → Bool
  | .poll _ answers => answers.sendOk
  | _ => true

def ListenTurn.about (addr : SocketAddr) : ListenTurn → Bool
  | .listen (some (.msg _ a)) _ | .listen (some (.accept a _)) _
  | .listen (some (.disconnected a)) _ => a = addr
  | _ => false

def repliesTo (addr : SocketAddr) (effects : List ListenEffect) : List ProtoEvent :=
  effects.filterMap fun
    | .reply a event => if a = addr then some event else none
    | .broadcast event => some event
    | _ => none

def ProtoEvent.beats : ProtoEvent → Bool
  | ping | hello _ => true
  | _ => false

section Pair

variable (localCommit : Vector UInt8 8) (handle : CaptureHandle) (addr : SocketAddr)

namespace Pair

def new (clock : Nat) (releaseBind : List Scancode) : Pair :=
  ⟨.new clock releaseBind, .new clock, [], []⟩

def said (p : Pair) (sender : Process) (acts : List Act) : Pair × PairOutput :=
  ({ p with sender, up := p.up ++ sentTo handle acts }, ⟨acts, []⟩)

def replied (p : Pair) (receiver : ListenTask) (effects : List ListenEffect) : Pair × PairOutput :=
  ({ p with receiver, down := p.down ++ repliesTo addr effects }, ⟨[], effects⟩)

/-- The sender knows the receiver as `handle`, the receiver knows the sender as `addr`. What
either of them does with others is free. -/
def step (p : Pair) (move : PairMove) : Option (Pair × PairOutput) :=
  match move with
  | .capture turn => do
    if turn.hears handle then none
    let (sender, acts) ← p.sender.step turn
    if turn.reliable ∨ sentTo handle acts = [] then return p.said handle sender acts else none
  | .hear answers => match p.down with
    | [] => none
    | event :: down => do
      let (sender, acts) ← p.sender.step (.receive handle event answers)
      return { p with down }.said handle sender acts
  | .listen turn => do
    if turn.about addr then none
    let (receiver, effects) ← p.receiver.step localCommit turn
    return p.replied addr receiver effects
  | .deliver fingerprint => match p.up with
    | [] => none
    | event :: up => do
      let (receiver, effects) ← p.receiver.step localCommit (.listen (some (.msg event addr)) fingerprint)
      return { p with up }.replied addr receiver effects
  | .beat event => if event.beats then some ({ p with up := p.up ++ [event] }, ⟨[], []⟩) else none

end Pair

def pair : Machine Pair PairMove PairOutput := ⟨Pair.step localCommit handle addr⟩

inductive Pair.Step (p : Pair) : PairMove → Pair → PairOutput → Prop where
  | capture {turn : Turn} {sender : Process} {acts : List Act} (foreign : turn.hears handle = false)
      (sent : turn.reliable = true ∨ sentTo handle acts = [])
      (step : p.sender.step turn = some (sender, acts)) :
      Step p (.capture turn) { p with sender, up := p.up ++ sentTo handle acts } ⟨acts, []⟩
  | hear {answers : Answers} {event : ProtoEvent} {down : List ProtoEvent} {sender : Process}
      {acts : List Act} (next : p.down = event :: down)
      (step : p.sender.step (.receive handle event answers) = some (sender, acts)) :
      Step p (.hear answers) { p with sender, down, up := p.up ++ sentTo handle acts } ⟨acts, []⟩
  | listen {turn : ListenTurn} {receiver : ListenTask} {effects : List ListenEffect}
      (foreign : turn.about addr = false)
      (step : p.receiver.step localCommit turn = some (receiver, effects)) :
      Step p (.listen turn) { p with receiver, down := p.down ++ repliesTo addr effects } ⟨[], effects⟩
  | deliver {fingerprint : Option String} {event : ProtoEvent} {up : List ProtoEvent}
      {receiver : ListenTask} {effects : List ListenEffect} (next : p.up = event :: up)
      (step : p.receiver.step localCommit (.listen (some (.msg event addr)) fingerprint) =
        some (receiver, effects)) :
      Step p (.deliver fingerprint) { p with receiver, up, down := p.down ++ repliesTo addr effects }
        ⟨[], effects⟩
  | beat {event : ProtoEvent} (beats : event.beats = true) :
      Step p (.beat event) { p with up := p.up ++ [event] } ⟨[], []⟩

theorem Pair.step_cases {localCommit : Vector UInt8 8} {handle : CaptureHandle} {addr : SocketAddr}
    {p p' : Pair} {move : PairMove} {output : PairOutput}
    (step : (pair localCommit handle addr).step p move = some (p', output)) :
    Pair.Step localCommit handle addr p move p' output := by
  simp only [pair, Pair.step] at step
  cases move with
  | capture turn =>
    simp only at step
    split at step
    · contradiction
    rename_i foreign
    obtain ⟨⟨sender, acts⟩, taken, said⟩ := Option.bind_eq_some_iff.mp step
    split at said
    · rename_i sent
      cases said
      exact .capture (by simpa using foreign) sent taken
    · contradiction
  | hear answers =>
    simp only at step
    split at step
    · contradiction
    · rename_i event down next
      obtain ⟨⟨sender, acts⟩, taken, said⟩ := Option.bind_eq_some_iff.mp step
      cases said
      exact .hear next taken
  | listen turn =>
    simp only at step
    split at step
    · contradiction
    · rename_i foreign
      obtain ⟨⟨receiver, effects⟩, taken, replied⟩ := Option.bind_eq_some_iff.mp step
      cases replied
      exact .listen (by simpa using foreign) taken
  | deliver fingerprint =>
    simp only at step
    split at step
    · contradiction
    · rename_i event up next
      obtain ⟨⟨receiver, effects⟩, taken, replied⟩ := Option.bind_eq_some_iff.mp step
      cases replied
      exact .deliver next taken
  | beat event =>
    simp only at step
    split at step
    · rename_i beats
      cases step
      exact .beat beats
    · contradiction

abbrev PairEntry := Entry Pair PairMove PairOutput

def ProtoEvent.isLeave : ProtoEvent → Bool
  | leave _ => true
  | _ => false

def ProtoEvent.isAck : ProtoEvent → Bool
  | ack _ => true
  | _ => false

def ListenEffect.enters (addr : SocketAddr) : ListenEffect → Bool
  | toService (.entered a _ _) => a = addr
  | _ => false

def ListenEffect.types (addr : SocketAddr) : ListenEffect → Bool
  | toProxy (.input _ a) => a = addr
  | _ => false

def PairMove.delivers : PairMove → Bool
  | deliver _ => true
  | _ => false

namespace PairEntry

def completes (e : PairEntry) : Bool :=
  e.output.effects.contains (.reply addr (.ack 0)) && e.output.effects.any (ListenEffect.enters addr)

def takesLeave (e : PairEntry) : Bool :=
  e.input.delivers && e.pre.up.head?.any isLeave

def passesInput (e : PairEntry) : Bool := e.output.effects.any (ListenEffect.types addr)

end PairEntry

namespace Pair

/-- The turn of the sender that a move brings. -/
def turn (p : Pair) : PairMove → Option Turn
  | .capture turn => some turn
  | .hear answers => p.down.head?.map (.receive handle · answers)
  | _ => none

/-- The sender leaves before its handoff was acknowledged. -/
def leavesEarly (p : Pair) (turn : Turn) : Bool :=
  p.sender.task.activeClient = some handle && p.sender.releases turn &&
    !(p.sender.task.state = .sending || p.down.any isAck)

/-- The sender starts a handoff while a leave is unanswered or an acknowledgement is on its
way. -/
def startsEarly (p : Pair) (turn : Turn) : Bool :=
  p.sender.starts handle turn && (p.up.any isLeave || p.down.any isAck)

def patient (p : Pair) (move : PairMove) : Bool :=
  (p.turn handle move).all fun turn => !p.leavesEarly handle turn && !p.startsEarly handle turn

end Pair

/-- Since the last leave a handoff was completed. -/
def HandedOver (trace : List PairEntry) : Prop :=
  Since (fun _ e => PairEntry.completes addr e = true) (fun e => PairEntry.takesLeave e = false) trace

end Pair

namespace ListenTask.Outcome

variable {t : ListenTask} {turn : ListenTurn} {r : ListenTask × List ListenEffect} {addr : SocketAddr}

theorem keeps (outcome : Outcome t turn r) (stays : departs turn ≠ some addr)
    (entered : addr ∈ t.enteredConnections) : addr ∈ r.1.enteredConnections := by
  cases outcome with
  | quiet _ same _ | acknowledged _ _ _ same | typed _ _ _ same | silenced same => exact same ▸ entered
  | left n other fingerprint same | gone other fingerprint same =>
    have different : addr ≠ other := fun h => stays (by rw [h, departs])
    rw [same]
    exact List.mem_filter.mpr ⟨entered, by simpa using different⟩
  | completed other pos fingerprint same =>
    rw [same]
    exact List.mem_insert_of_mem entered

theorem forgets (outcome : Outcome t turn r) (goes : departs turn = some addr) :
    addr ∉ r.1.enteredConnections := by
  cases outcome with
  | quiet stays _ _ | acknowledged _ stays _ _ =>
    rw [stays] at goes
    contradiction
  | left n other fingerprint same | gone other fingerprint same =>
    cases goes
    simp [same]
  | typed _ _ _ _ | completed _ _ _ _ | silenced _ => contradiction

theorem repliesTo_plain {effects : List ListenEffect} (silent : ∀ effect ∈ effects, plain effect = true)
    (n : UInt32) : .ack n ∉ repliesTo addr effects := by
  intro acked
  obtain ⟨effect, member, replied⟩ := List.mem_filterMap.mp acked
  have silent := silent effect member
  cases effect with
  | reply other event =>
    simp only at replied
    split at replied
    · cases replied
      contradiction
    · contradiction
  | broadcast event =>
    cases replied
    contradiction
  | _ => contradiction

theorem acknowledges (outcome : Outcome t turn r) {n : UInt32} (acked : .ack n ∈ repliesTo addr r.2) :
    addr ∈ r.1.enteredConnections ∨ departs turn = some addr := by
  cases outcome with
  | quiet _ _ silent => exact absurd acked (repliesTo_plain silent n)
  | acknowledged other _ member same =>
    by_cases own : other = addr
    · subst own
      exact .inl (same ▸ member)
    · simp [repliesTo, own] at acked
  | left n other fingerprint same =>
    by_cases own : other = addr
    · exact .inr (by rw [departs, own])
    · simp [repliesTo, own] at acked
  | completed other pos fingerprint same =>
    by_cases own : other = addr
    · subst own
      rw [same]
      exact .inl List.mem_insert_self
    · simp [repliesTo, own] at acked
  | typed _ _ _ _ | gone _ _ _ => simp [repliesTo] at acked
  | silenced _ =>
    obtain ⟨effect, member, replied⟩ := List.mem_filterMap.mp acked
    obtain ⟨other, -, member⟩ := List.mem_flatMap.mp member
    rcases List.mem_pair.mp member with rfl | rfl <;> contradiction

theorem completes (outcome : Outcome t turn r) (entered : addr ∈ r.1.enteredConnections) :
    addr ∈ t.enteredConnections ∨
      (r.2.contains (.reply addr (.ack 0)) && r.2.any (ListenEffect.enters addr)) = true := by
  cases outcome with
  | quiet _ same _ | acknowledged _ _ _ same | typed _ _ _ same | silenced same => exact .inl (same ▸ entered)
  | left n other fingerprint same | gone other fingerprint same =>
    rw [same] at entered
    exact .inl (List.mem_filter.mp entered).1
  | completed other pos fingerprint same =>
    rw [same] at entered
    rcases List.mem_insert_iff.mp entered with rfl | old
    · exact .inr (by simp [ListenEffect.enters])
    · exact .inl old

theorem passes (outcome : Outcome t turn r) (passed : r.2.any (ListenEffect.types addr) = true) :
    ∃ event fingerprint, turn = .listen (some (.msg (.input event) addr)) fingerprint := by
  obtain ⟨effect, member, types⟩ := List.any_eq_true.mp passed
  obtain ⟨event, rfl⟩ : ∃ event, effect = .toProxy (.input event addr) := by
    unfold ListenEffect.types at types
    split at types
    · rw [decide_eq_true_eq] at types
      exact ⟨_, by rw [types]⟩
    · contradiction
  cases outcome with
  | quiet _ _ silent => exact absurd (silent _ member) (by simp [plain])
  | typed e other fingerprint same =>
    obtain ⟨rfl, rfl⟩ : event = e ∧ addr = other := by simpa using member
    exact ⟨event, fingerprint, rfl⟩
  | acknowledged _ _ _ _ | left _ _ _ _ | gone _ _ _ | completed _ _ _ _ | silenced _ =>
    simp at member

end ListenTask.Outcome

section Invariant

variable {localCommit : Vector UInt8 8} {handle : CaptureHandle} {addr : SocketAddr} {p : Pair}

/-- What the sender may assume about the receiver. Input on its way is for a peer that has
entered, and comes before any leave; while the client is active no leave is on its way, and
an acknowledgement, on its way or received, means that the peer has entered. -/
structure Agreed (handle : CaptureHandle) (addr : SocketAddr) (p : Pair) : Prop where
  typed : ∀ event, .input event ∈ p.up → addr ∈ p.receiver.enteredConnections
  order : ∀ before n after event, p.up = before ++ .leave n :: after → .input event ∉ after
  joined : p.sender.task.activeClient = some handle → ∀ n, .leave n ∉ p.up
  sending : p.sender.task.activeClient = some handle → p.sender.task.state = .sending →
    addr ∈ p.receiver.enteredConnections
  acked : p.sender.task.activeClient = some handle → ∀ n, .ack n ∈ p.down →
    addr ∈ p.receiver.enteredConnections

theorem Agreed.new (clock : Nat) (releaseBind : List Scancode) :
    Agreed handle addr (.new clock releaseBind) := by
  refine ⟨?_, ?_, ?_, ?_, ?_⟩ <;> simp [Pair.new, Process.new, CaptureTask.new]

section

variable (agreed : Agreed handle addr p)
include agreed

theorem Agreed.dropDown {down : List ProtoEvent}
    (fewer : ∀ m ∈ down, m ∈ p.down) : Agreed handle addr { p with down } :=
  ⟨agreed.typed, agreed.order, agreed.joined, agreed.sending,
    fun active n member => agreed.acked active n (fewer _ member)⟩

section

variable {sent : List ProtoEvent} (timely : ∀ n, .leave n ∈ sent →
  p.sender.task.activeClient = some handle ∧ (p.sender.task.state = .sending ∨ ∃ k, .ack k ∈ p.down))
include timely

theorem Agreed.speaking {active : Option CaptureHandle} {state : AckState}
    (spoken : Spoken handle p.sender.task sent active state) {event : Event} (typed : .input event ∈ sent) :
    p.sender.task.activeClient = some handle ∧ addr ∈ p.receiver.enteredConnections := by
  rcases spoken.input event typed with ⟨own, sending⟩ | ⟨n, left⟩
  · exact ⟨own, agreed.sending own sending⟩
  obtain ⟨own, sending | ⟨k, acked⟩⟩ := timely n left
  · exact ⟨own, agreed.sending own sending⟩
  · exact ⟨own, agreed.acked own k acked⟩

theorem Agreed.said {sender : Process}
    (spoken : Spoken handle p.sender.task sent sender.task.activeClient sender.task.state)
    (quiet : p.sender.task.activeClient ≠ some handle → sender.task.activeClient = some handle →
      (∀ n, .leave n ∉ p.up) ∧ ∀ n, .ack n ∉ p.down) :
    Agreed handle addr { p with sender, up := p.up ++ sent } := by
  refine ⟨?_, ?_, ?_, ?_, ?_⟩
  · intro event member
    rcases List.mem_append.mp member with old | new
    · exact agreed.typed event old
    · exact (agreed.speaking timely spoken new).2
  · intro before n after event split typed
    rcases List.append_eq_append_iff.mp split with ⟨middle, -, ends⟩ | ⟨middle, ends, starts⟩
    · exact spoken.order middle n after event ends typed
    cases middle with
    | nil => exact spoken.order [] n after event (by simpa using starts.symm) typed
    | cons first middle =>
      obtain ⟨rfl, rfl⟩ := List.cons.inj starts
      rcases List.mem_append.mp typed with old | new
      · exact agreed.order before n middle event ends old
      · have active := (agreed.speaking timely spoken new).1
        exact agreed.joined active n (by simp [ends])
  · intro active n member
    rcases List.mem_append.mp member with old | new
    · rcases spoken.active active with ⟨before, -⟩ | ⟨fresh, -⟩
      · exact agreed.joined before n old
      · exact (quiet fresh active).1 n old
    · exact spoken.left n new active
  · intro active sending
    rcases spoken.active active with ⟨before, same⟩ | ⟨-, waiting⟩
    · exact agreed.sending before (same ▸ sending)
    · rw [sending] at waiting
      contradiction
  · intro active n member
    rcases spoken.active active with ⟨before, -⟩ | ⟨fresh, -⟩
    · exact agreed.acked before n member
    · exact absurd member ((quiet fresh active).2 n)

end

theorem Agreed.heard {own : CaptureHandle} {n : UInt32}
    {answers : Answers} {sender : Process} {acts : List Act}
    (step : p.sender.step (.receive own (.ack n) answers) = some (sender, acts))
    (sent : own = handle → ∃ k, .ack k ∈ p.down) :
    Agreed handle addr { p with sender, up := p.up ++ sentTo handle acts } := by
  obtain ⟨rfl, same, state⟩ := ack_step step
  have up : p.up ++ sentTo handle [] = p.up := List.append_nil _
  rw [up]
  refine ⟨agreed.typed, agreed.order, ?_, ?_, ?_⟩
  · intro active
    exact agreed.joined (same ▸ active)
  · intro active sending
    have before : p.sender.task.activeClient = some handle := same ▸ active
    rcases state with unchanged | free
    · exact agreed.sending before (unchanged ▸ sending)
    have mine : own = handle := by
      rw [before, Option.any_some, decide_eq_true_eq, not_not] at free
      exact free.symm
    obtain ⟨k, member⟩ := sent mine
    exact agreed.acked before k member
  · intro active
    exact agreed.acked (same ▸ active)

theorem Agreed.replied {turn : ListenTurn} {receiver : ListenTask}
    {effects : List ListenEffect} (outcome : ListenTask.Outcome p.receiver turn (receiver, effects))
    (stays : ListenTask.departs turn ≠ some addr) :
    Agreed handle addr { p with receiver, down := p.down ++ repliesTo addr effects } := by
  have keeps := outcome.keeps stays
  refine ⟨?_, agreed.order, agreed.joined, ?_, ?_⟩
  · intro event member
    exact keeps (agreed.typed event member)
  · intro active sending
    exact keeps (agreed.sending active sending)
  · intro active n member
    rcases List.mem_append.mp member with old | new
    · exact keeps (agreed.acked active n old)
    · exact (outcome.acknowledges new).resolve_right stays

theorem Agreed.tail {m : ProtoEvent} {up : List ProtoEvent}
    (split : p.up = m :: up) : Agreed handle addr { p with up } := by
  refine ⟨?_, ?_, ?_, agreed.sending, agreed.acked⟩
  · intro event member
    exact agreed.typed event (by simp [split, member])
  · intro before n after event here
    exact agreed.order (m :: before) n after event (split.trans (congrArg (m :: ·) here))
  · intro active n member
    exact agreed.joined active n (by simp [split, member])

theorem Agreed.left {n : UInt32} {up : List ProtoEvent}
    (split : p.up = .leave n :: up) (receiver : ListenTask) (down : List ProtoEvent) :
    Agreed handle addr { p with receiver, up, down } := by
  have inactive : p.sender.task.activeClient ≠ some handle := by
    intro active
    exact agreed.joined active n (by simp [split])
  refine ⟨?_, (agreed.tail split).order, ?_, ?_, ?_⟩
  · intro event member
    exact absurd member (agreed.order [] n up event split)
  all_goals exact fun active => absurd active inactive

end

variable {p' : Pair} {move : PairMove} {output : PairOutput}

theorem stays_of_foreign {turn : ListenTurn} (foreign : turn.about addr = false) :
    ListenTask.departs turn ≠ some addr := by
  intro departs
  unfold ListenTask.departs at departs
  split at departs <;> cases departs <;> simp [ListenTurn.about] at foreign

variable {turn : Turn} {sender : Process} {acts : List Act}

theorem ack_of_any {messages : List ProtoEvent} (acked : messages.any isAck = true) :
    ∃ k, .ack k ∈ messages := by
  obtain ⟨m, member, is⟩ := List.any_eq_true.mp acked
  cases m with
  | ack k => exact ⟨k, member⟩
  | _ => contradiction

theorem starts_turn (starts : p.sender.starts handle turn = true) :
    ∃ backend answers, turn = .poll backend answers := by
  cases turn with
  | poll backend answers => exact ⟨backend, answers, rfl⟩
  | _ => contradiction

/-- A reliable turn does not leave a client that it enters. -/
theorem starts_stays (reliable : turn.reliable = true) (starts : p.sender.starts handle turn = true) :
    p.sender.releases turn = false := by
  obtain ⟨backend, answers, rfl⟩ := starts_turn starts
  have sent : answers.sendOk = true := reliable
  unfold Process.starts Scene.starts at starts
  split at starts
  · rename_i own told found
    have same : told = answers := by
      simp only [Process.finds] at found
      split at found <;> cases found
      rfl
    simp_all [Process.releases, Scene.releases]
  · contradiction

theorem Agreed.capture (agreed : Agreed handle addr p)
    (step : p.sender.step turn = some (sender, acts))
    (sent : turn.reliable = true ∨ sentTo handle acts = [])
    (timely : p.leavesEarly handle turn = false ∧ p.startsEarly handle turn = false)
    (heard : ∀ n answers, turn = .receive handle (.ack n) answers → ∃ k, .ack k ∈ p.down) :
    Agreed handle addr { p with sender, up := p.up ++ sentTo handle acts } := by
  by_cases ack : ∃ own n answers, turn = .receive own (.ack n) answers
  · obtain ⟨own, n, answers, rfl⟩ := ack
    refine agreed.heard step ?_
    rintro rfl
    exact heard n answers rfl
  · have spoken :
        Spoken handle p.sender.task (sentTo handle acts) sender.task.activeClient sender.task.state :=
      step_spoken step fun own n answers given => ack ⟨own, n, answers, given⟩
    refine agreed.said ?_ spoken ?_
    · intro n left
      obtain ⟨releases, active | starts⟩ := step_left step left
      · have early : p.sender.task.state = .sending ∨ p.down.any isAck = true := by
          simpa only [Pair.leavesEarly, active, releases, decide_true, Bool.and_self, Bool.true_and,
            Bool.not_eq_false', Bool.or_eq_true, decide_eq_true_eq] using timely.1
        exact ⟨active, early.imp_right ack_of_any⟩
      · have reliable := sent.resolve_right fun silent => by simp [silent] at left
        rw [starts_stays reliable starts] at releases
        contradiction
    · intro fresh active
      have quiet : p.up.any isLeave = false ∧ p.down.any isAck = false := by
        simpa only [Pair.startsEarly, step_started step fresh active, Bool.true_and,
          Bool.or_eq_false_iff] using timely.2
      constructor
      · intro n member
        exact absurd (List.any_eq_true.mpr ⟨_, member, rfl⟩) (Bool.eq_false_iff.mp quiet.1)
      · intro n member
        exact absurd (List.any_eq_true.mpr ⟨_, member, rfl⟩) (Bool.eq_false_iff.mp quiet.2)

theorem agreed_step {e : PairEntry} (agreed : Agreed handle addr e.pre)
    (step : (pair localCommit handle addr).step e.pre e.input = some (e.post, e.output))
    (patient : e.pre.patient handle e.input = true) : Agreed handle addr e.post := by
  obtain ⟨p, move, output, p'⟩ := e
  have taken : Pair.Step localCommit handle addr p move p' output := Pair.step_cases step
  cases taken with
  | capture foreign sent took =>
    refine agreed.capture took sent (by simpa [Pair.patient, Pair.turn] using patient) ?_
    rintro n answers rfl
    simp [Turn.hears] at foreign
  | @hear _ event down _ _ next took =>
    have spoken := agreed.capture took (.inl rfl) (by simpa [Pair.patient, Pair.turn, next] using patient) (by
      rintro n answers ⟨⟩
      exact ⟨n, by simp [next]⟩)
    exact spoken.dropDown fun m member => by simp [next, member]
  | listen foreign took => exact agreed.replied (ListenTask.step_outcome took) (stays_of_foreign foreign)
  | @deliver _ event up _ _ next took =>
    have outcome := ListenTask.step_outcome took
    by_cases left : ∃ n, event = .leave n
    · obtain ⟨n, rfl⟩ := left
      exact agreed.left next _ _
    · refine (agreed.tail next).replied outcome ?_
      cases event with
      | leave n => exact absurd ⟨n, rfl⟩ left
      | _ => simp [ListenTask.departs]
  | @beat event beats =>
    have spoken : Spoken handle p.sender.task [event] p.sender.task.activeClient p.sender.task.state := by
      refine Spoken.snoc (.nothing rfl rfl) ?_ ?_
      all_goals
        rintro _ rfl
        contradiction
    refine agreed.said ?_ spoken ?_
    · intro n left
      rw [← List.mem_singleton.mp left] at beats
      contradiction
    · exact fun fresh active => absurd active fresh

theorem entered_step {e : PairEntry} {trace : List PairEntry}
    (step : (pair localCommit handle addr).step e.pre e.input = some (e.post, e.output))
    (handed : addr ∈ e.pre.receiver.enteredConnections → HandedOver addr trace)
    (entered : addr ∈ e.post.receiver.enteredConnections) : HandedOver addr (trace ++ [e]) := by
  obtain ⟨p, move, output, p'⟩ := e
  have taken : Pair.Step localCommit handle addr p move p' output := Pair.step_cases step
  have keeps {turn : ListenTurn} {receiver : ListenTask} {effects : List ListenEffect}
      (outcome : ListenTask.Outcome p.receiver turn (receiver, effects))
      (same : output.effects = effects) (member : addr ∈ receiver.enteredConnections)
      (stays : PairEntry.takesLeave ⟨p, move, output, p'⟩ = false) :
      HandedOver addr (trace ++ [⟨p, move, output, p'⟩]) := by
    rcases outcome.completes member with old | completed
    · exact (handed old).later stays
    · subst same
      exact Since.now completed
  cases taken with
  | capture _ _ _ | hear _ _ | beat _ => exact (handed entered).later rfl
  | listen foreign took =>
    exact keeps (ListenTask.step_outcome took) rfl entered rfl
  | @deliver fingerprint event up receiver effects next took =>
    have outcome := ListenTask.step_outcome took
    refine keeps outcome rfl entered ?_
    cases event with
    | leave n => exact absurd entered (outcome.forgets rfl)
    | _ => simp [PairEntry.takesLeave, PairMove.delivers, next, isLeave]

/-- As long as no handoff and no leave is started too early, the receiver passes on input
of the sender only after it has acknowledged a complete handoff since the last leave. -/
theorem input_after_handoff {clock : Nat} {releaseBind : List Scancode} {trace : List PairEntry}
    (run : Run (pair localCommit handle addr) (.new clock releaseBind) trace p)
    (patient : ∀ e ∈ trace, e.pre.patient handle e.input = true) {before after : List PairEntry}
    {e : PairEntry} (here : trace = before ++ e :: after) (passes : PairEntry.passesInput addr e = true) :
    HandedOver addr before := by
  obtain ⟨run, step, -⟩ := run.split here
  have patient : ∀ x ∈ before, x.pre.patient handle x.input = true := by
    intro x member
    exact patient x (by simp [here, member])
  have agreed : Agreed handle addr e.pre :=
    run.invariant_where (.new clock releaseBind) (fun x agreed step patient => agreed_step agreed step patient)
      patient
  have handed : addr ∈ e.pre.receiver.enteredConnections → HandedOver addr before := by
    refine run.history (P := fun trace p => addr ∈ p.receiver.enteredConnections → HandedOver addr trace) ?_ ?_
    · exact fun member => absurd member List.not_mem_nil
    · exact fun trace p move p' output _ handed step => entered_step (e := ⟨p, move, output, p'⟩) step handed
  refine handed ?_
  obtain ⟨p, move, output, p'⟩ := e
  have taken : Pair.Step localCommit handle addr p move p' output := Pair.step_cases step
  cases taken with
  | capture _ _ _ | hear _ _ | beat _ => contradiction
  | listen foreign took =>
    obtain ⟨event, fingerprint, rfl⟩ := (ListenTask.step_outcome took).passes passes
    simp [ListenTurn.about] at foreign
  | deliver next took =>
    obtain ⟨event, fingerprint, same⟩ := (ListenTask.step_outcome took).passes passes
    cases same
    exact agreed.typed event (by simp [next])

end Invariant

section Runs

def handedOver (addr : SocketAddr) (trace : List PairEntry) : Bool :=
  trace.foldl (fun handed e => PairEntry.completes addr e || (handed && !PairEntry.takesLeave e)) false

theorem handedOver_of_since {addr : SocketAddr} {trace : List PairEntry}
    (handed : HandedOver addr trace) :
    handedOver addr trace = true := by
  obtain ⟨before, e, after, rfl, completed, kept⟩ := handed
  rw [handedOver, List.foldl_append, List.foldl_cons, completed, Bool.true_or]
  induction after with
  | nil => rfl
  | cons x after ih =>
    rw [List.foldl_cons, kept x (by simp), Bool.not_false, Bool.and_true, Bool.or_true]
    exact ih fun y member => kept y (List.mem_cons_of_mem _ member)

def handoffMoves : List PairMove :=
  let agree : Answers := ⟨true, true, true⟩
  [.listen (.proxy (.enabled true true 1)), .capture (.opened none), .hear agree,
    .capture (.request (.create 1 .left .default) agree), .capture (.arm 1 1 7 1000),
    .capture (.poll (.ready (.value (.left, .begin))) agree), .deliver (some "key"),
    .listen (.progress (.released true) true), .listen (.progress (.centered true) true), .hear agree]

def motion : PairMove :=
  .capture (.poll (.ready (.value (.left, .input (.pointer (.motion 0 0 0))))) ⟨true, true, true⟩)

theorem entered_peer_passes : let addr : SocketAddr := ⟨.v4 1, 1⟩
    ∃ before e p, Run (pair (.replicate 8 0) 1 addr) (.new 0 [42]) (before ++ [e]) p ∧
      PairEntry.passesInput addr e = true ∧ HandedOver addr before := by
  intro addr
  obtain ⟨before, e, p, run, passes, patient⟩ := (pair (.replicate 8 0) 1 addr).exists_last (.new 0 [42])
    (handoffMoves ++ [motion]) (.deliver none) (fun before e => PairEntry.passesInput addr e = true ∧
      ∀ x ∈ before ++ [e], x.pre.patient 1 x.input = true) (by decide +kernel)
  exact ⟨before, e, p, run, passes, input_after_handoff run patient rfl passes⟩

/-- The client is left and entered again before the acknowledgement of the leave arrives.
The sender takes it for that of the new handoff. -/
def reentryMoves : List PairMove :=
  let agree : Answers := ⟨true, true, true⟩
  [.capture (.request (.release false) agree), .deliver none, .deliver none, .capture (.arm 1 2 7 1000),
    .capture (.poll (.ready (.value (.left, .begin))) agree), .hear agree, motion, .deliver (some "key")]

/-- The handoff of the second entry has only started when its first input is passed on. -/
theorem reentry_overtakes_handoff : let addr : SocketAddr := ⟨.v4 1, 1⟩
    ∃ before e p, Run (pair (.replicate 8 0) 1 addr) (.new 0 [42]) (before ++ [e]) p ∧
      PairEntry.passesInput addr e = true ∧ ¬ HandedOver addr before := by
  intro addr
  obtain ⟨before, e, p, run, passes, early⟩ := (pair (.replicate 8 0) 1 addr).exists_last (.new 0 [42])
    (handoffMoves ++ reentryMoves) (.deliver none) (fun before e => PairEntry.passesInput addr e = true ∧
      handedOver addr before ≠ true) (by decide +kernel)
  exact ⟨before, e, p, run, passes, fun handed => early (handedOver_of_since handed)⟩

end Runs

end DisplayMux.LanMouse
