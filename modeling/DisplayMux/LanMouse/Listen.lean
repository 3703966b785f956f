import Mathlib.Data.List.AList
import Mathlib.Data.List.Induction
import DisplayMux.Lib.Machine
import DisplayMux.LanMouse.Client

/-! The listen task: it serves the peers that control this device. One branch of its
loop is one step; how the listener, the capture and the emulation answer is free. -/
namespace DisplayMux.LanMouse

inductive EmulationEvent where
  | connected (addr : SocketAddr) (fingerprint : String)
  | connectionAttempt (fingerprint : String)
  | entered (addr : SocketAddr) (pos : Position) (fingerprint : String)
  | disconnected (addr : SocketAddr)
  | portChanged (port : Option UInt16)
  | emulationDisabled (sessionEpoch : UInt64)
  | emulationEnabled (keyboardReady pointerReady : Bool) (sessionEpoch : UInt64)
  | releaseCapture
  | peerHello (addr : SocketAddr) (commit : Vector UInt8 8)
  | releaseAcknowledged (addr : SocketAddr) (releaseEpoch : UInt64)
  deriving DecidableEq, Repr

open EmulationEvent

inductive EmulationRequest where
  | reenable
  | release (addr : SocketAddr) (releaseEpoch : UInt64)
  | changePort (port : UInt16)
  | terminate
  deriving DecidableEq, Repr

inductive ProxyRequest where
  | input (event : Event) (addr : SocketAddr)
  | centerPointer (addr : SocketAddr)
  | remove (addr : SocketAddr)
  | terminate
  | reenable
  deriving DecidableEq, Repr

inductive ProxyEvent where
  | disabled (sessionEpoch : UInt64)
  | enabled (keyboardReady pointerReady : Bool) (sessionEpoch : UInt64)
  deriving DecidableEq, Repr

def ProxyEvent.toEmulation : ProxyEvent → EmulationEvent
  | disabled sessionEpoch => .emulationDisabled sessionEpoch
  | enabled keyboardReady pointerReady sessionEpoch =>
    .emulationEnabled keyboardReady pointerReady sessionEpoch

inductive ListenEffect where
  | reply (addr : SocketAddr) (event : ProtoEvent)
  | broadcast (event : ProtoEvent)
  | disconnect (addr : SocketAddr)
  | requestPortChange (port : UInt16)
  | toService (event : EmulationEvent)
  | toProxy (request : ProxyRequest)
  deriving DecidableEq, Repr

structure EmulationProxy where
  keyboardReady : Bool
  pointerReady : Bool
  sessionEpoch : UInt64
  deriving DecidableEq, Repr

namespace EmulationProxy

def new : EmulationProxy := ⟨false, false, 0⟩

def event : EmulationProxy → ProxyEvent → EmulationProxy
  | _, .enabled keyboardReady pointerReady sessionEpoch => ⟨keyboardReady, pointerReady, sessionEpoch⟩
  | _, .disabled sessionEpoch => ⟨false, false, sessionEpoch⟩

def readiness (p : EmulationProxy) : ProtoEvent := .readiness p.keyboardReady p.pointerReady p.sessionEpoch

def controlReady (p : EmulationProxy) : Bool := p.keyboardReady && p.pointerReady

def consume (p : EmulationProxy) (event : Event) (addr : SocketAddr) : List ListenEffect :=
  if p.controlReady then [.toProxy (.input event addr)] else []

/-- The flag tells whether the emulation was asked; otherwise the answer is no. -/
def requestCenterPointer (p : EmulationProxy) (addr : SocketAddr) : Bool × List ListenEffect :=
  if p.controlReady then (true, [.toProxy (.centerPointer addr)]) else (false, [])

end EmulationProxy

inductive PendingEnterStep where
  | releasing
  | centering (asked : Bool)
  deriving DecidableEq, Repr

structure PendingEnter where
  addr : SocketAddr
  pos : Position
  fingerprint : String
  step : PendingEnterStep
  deadline : Nat
  deriving DecidableEq, Repr

inductive PendingEnterProgress where
  | released (ok : Bool)
  | centered (ok : Bool)
  | timedOut
  deriving DecidableEq, Repr

inductive EnterDisposition where
  | start | waitForPending | acknowledge | rejectBusy
  deriving DecidableEq, Repr

def enterDisposition (entered : List SocketAddr) (pending : Option PendingEnter) (addr : SocketAddr) :
    EnterDisposition :=
  if addr ∈ entered then .acknowledge
  else if pending.any (·.addr = addr) then .waitForPending
  else if pending.isSome then .rejectBusy
  else .start

inductive ListenEvent where
  | msg (event : ProtoEvent) (addr : SocketAddr)
  | accept (addr : SocketAddr) (fingerprint : String)
  | rejected (fingerprint : String)
  | disconnected (addr : SocketAddr)
  deriving DecidableEq, Repr

def second : Nat := 1000000000

def enterHandoffTimeout : Nat := 2 * second

structure ListenTask where
  clock : Nat
  running : Bool
  proxy : EmulationProxy
  lastResponse : AList fun _ : SocketAddr => Nat
  rejectedConnections : AList fun _ : String => Nat
  pendingReleases : AList fun _ : SocketAddr => UInt64
  pendingEnter : Option PendingEnter
  enteredConnections : List SocketAddr

/-- What happens next: which branch of the loop is taken, with what it finds. -/
inductive ListenTurn where
  | elapse (ns : Nat)
  | listen (event : Option ListenEvent) (fingerprint : Option String)
  | progress (progress : PendingEnterProgress) (replied : Bool)
  | proxy (event : ProxyEvent)
  | request (request : EmulationRequest) (port : Option UInt16)
  | tick
  deriving DecidableEq, Repr

namespace ListenTask

def new (clock : Nat) : ListenTask := ⟨clock, true, .new, ∅, ∅, ∅, none, []⟩

def forget (t : ListenTask) (addr : SocketAddr) : ListenTask :=
  { t with
    pendingEnter := t.pendingEnter.filter (·.addr ≠ addr)
    enteredConnections := t.enteredConnections.filter (· ≠ addr) }

/-- A peer whose certificate is not known is not answered. -/
def enter (t : ListenTask) (addr : SocketAddr) (pos : Position) (fingerprint : Option String) :
    ListenTask × List ListenEffect :=
  match fingerprint with
  | none => (t, [])
  | some fingerprint =>
    match enterDisposition t.enteredConnections t.pendingEnter addr with
    | .acknowledge => (t, [.reply addr (.ack 0)])
    | .waitForPending | .rejectBusy => (t, [])
    | .start =>
      ({ t with pendingEnter := some ⟨addr, pos, fingerprint, .releasing, t.clock + enterHandoffTimeout⟩ },
        [.toService .releaseCapture])

def message (localCommit : Vector UInt8 8) (t : ListenTask) (event : ProtoEvent) (addr : SocketAddr)
    (fingerprint : Option String) : ListenTask × List ListenEffect :=
  let t := { t with lastResponse := t.lastResponse.insert addr t.clock }
  match event with
  | .enter pos => t.enter addr pos fingerprint
  | .leave _ => (t.forget addr, [.toProxy (.remove addr), .reply addr (.ack 0)])
  | .input event => (t, t.proxy.consume event addr)
  | .ping =>
    (t, [.reply addr (.pong t.proxy.controlReady), .reply addr t.proxy.readiness] ++
      ((t.pendingReleases.lookup addr).map fun releaseEpoch =>
        .reply addr (.releaseRequest releaseEpoch)).toList)
  | .hello commit =>
    (t, [.reply addr (.hello localCommit), .reply addr t.proxy.readiness,
      .toService (.peerHello addr commit)])
  | .releaseAck releaseEpoch =>
    if t.pendingReleases.lookup addr = some releaseEpoch then
      ({ t with pendingReleases := t.pendingReleases.erase addr },
        [.toService (.releaseAcknowledged addr releaseEpoch)])
    else (t, [])
  | .readiness _ _ _ | .ack _ | .pong _ | .releaseRequest _ => (t, [])

def stop (t : ListenTask) : ListenTask × List ListenEffect :=
  ({ t with running := false }, [.toProxy .terminate])

def listen (localCommit : Vector UInt8 8) (t : ListenTask) (event : Option ListenEvent)
    (fingerprint : Option String) : ListenTask × List ListenEffect :=
  match event with
  | some (.msg event addr) => t.message localCommit event addr fingerprint
  | some (.accept addr fingerprint) => (t, [.toService (.connected addr fingerprint)])
  | some (.rejected fingerprint) =>
    let earlier := t.rejectedConnections.lookup fingerprint
    ({ t with rejectedConnections := t.rejectedConnections.insert fingerprint t.clock },
      if earlier.all fun instant => 2 * second ≤ t.clock - instant then
        [.toService (.connectionAttempt fingerprint)]
      else [])
  | some (.disconnected addr) =>
    ({ t.forget addr with
        lastResponse := t.lastResponse.erase addr
        pendingReleases := t.pendingReleases.erase addr },
      [.toProxy (.remove addr), .toService (.disconnected addr)])
  | none => t.stop

/-- The handoff is given up without an acknowledgement. -/
def giveUp (t : ListenTask) (pending : PendingEnter) : ListenTask × List ListenEffect :=
  ({ t with pendingEnter := none }, [.toProxy (.remove pending.addr), .disconnect pending.addr])

def center (t : ListenTask) (pending : PendingEnter) : ListenTask × List ListenEffect :=
  let (asked, effects) := t.proxy.requestCenterPointer pending.addr
  ({ t with pendingEnter := some { pending with step := .centering asked } }, effects)

/-- The handoff is complete once its acknowledgement is sent. -/
def complete (t : ListenTask) (pending : PendingEnter) (replied : Bool) :
    ListenTask × List ListenEffect :=
  if replied then
    ({ t with
        pendingEnter := none
        enteredConnections := t.enteredConnections.insert pending.addr },
      [.reply pending.addr (.ack 0),
        .toService (.entered pending.addr pending.pos pending.fingerprint)])
  else t.giveUp pending

/-- `none` for an answer that the pending handoff is not waiting for. -/
def advance (t : ListenTask) (progress : PendingEnterProgress) (replied : Bool) :
    Option (ListenTask × List ListenEffect) := do
  let pending ← t.pendingEnter
  match pending.step, progress with
  | .releasing, .released ok => return if ok then t.center pending else t.giveUp pending
  | .centering true, .centered true => return t.complete pending replied
  | .centering _, .centered false => return t.giveUp pending
  | _, .timedOut => if pending.deadline ≤ t.clock then return t.giveUp pending else none
  | _, _ => none

def request (t : ListenTask) (request : EmulationRequest) (port : Option UInt16) :
    ListenTask × List ListenEffect :=
  match request with
  | .reenable => (t, [.toProxy .reenable])
  | .release addr releaseEpoch =>
    ({ t with pendingReleases := t.pendingReleases.insert addr releaseEpoch },
      [.reply addr (.releaseRequest releaseEpoch)])
  | .changePort asked => (t, [.requestPortChange asked, .toService (.portChanged port)])
  | .terminate => t.stop

/-- The peers that have not been heard of for more than a second. -/
def silent (t : ListenTask) : List SocketAddr :=
  t.lastResponse.keys.filter fun addr =>
    (t.lastResponse.lookup addr).any fun instant => second < t.clock - instant

def tick (t : ListenTask) : ListenTask × List ListenEffect :=
  ({ t with
      lastResponse := t.silent.foldl (fun m addr => m.erase addr) t.lastResponse
      pendingReleases := t.silent.foldl (fun m addr => m.erase addr) t.pendingReleases },
    t.silent.flatMap fun addr => [.toProxy (.remove addr), .toService (.disconnected addr)])

def step (localCommit : Vector UInt8 8) (t : ListenTask) (turn : ListenTurn) :
    Option (ListenTask × List ListenEffect) :=
  if t.running then
    match turn with
    | .elapse ns => some ({ t with clock := t.clock + ns }, [])
    | .listen event fingerprint => some (t.listen localCommit event fingerprint)
    | .progress progress replied => t.advance progress replied
    | .proxy event =>
      let proxy := t.proxy.event event
      some ({ t with proxy }, [.broadcast proxy.readiness, .toService event.toEmulation])
    | .request request port => some (t.request request port)
    | .tick => some t.tick
  else none

end ListenTask

open ListenTask

def listenTask (localCommit : Vector UInt8 8) : Machine ListenTask ListenTurn (List ListenEffect) :=
  ⟨step localCommit⟩

def told (effects : List ListenEffect) : List EmulationEvent :=
  effects.filterMap fun
    | .toService event => some event
    | _ => none

inductive Presence where
  | entered | gone
  deriving DecidableEq, Repr

/-- What an event says about whether the peer at `addr` has entered. -/
def EmulationEvent.presence (addr : SocketAddr) : EmulationEvent → Option Presence
  | entered a _ _ => if a = addr then some .entered else none
  | disconnected a => if a = addr then some .gone else none
  | _ => none

def lastPresence (addr : SocketAddr) (events : List EmulationEvent) : Option Presence :=
  (events.filterMap (·.presence addr)).getLast?

/-- The connections for which the service keeps a barrier to return through. -/
def incomingConns (events : List EmulationEvent) : List SocketAddr :=
  events.foldl (fun conns event =>
    match event with
    | .entered addr _ _ => conns.insert addr
    | .disconnected addr => conns.filter (· ≠ addr)
    | _ => conns) []

section Presence

variable {addr : SocketAddr}

theorem lastPresence_append (before after : List EmulationEvent) :
    lastPresence addr (before ++ after) = (lastPresence addr after).or (lastPresence addr before) := by
  simp only [lastPresence, List.filterMap_append, List.getLast?_append]

theorem mem_incomingConns (events : List EmulationEvent) :
    addr ∈ incomingConns events ↔ lastPresence addr events = some .entered := by
  induction events using List.reverseRecOn with
  | nil => simp [incomingConns, lastPresence]
  | append_singleton events event ih =>
    rw [lastPresence_append, incomingConns, List.foldl_append, ← incomingConns]
    cases event with
    | entered a pos fingerprint =>
      by_cases same : a = addr
      · simp [lastPresence, presence, same]
      · simp [lastPresence, presence, same, Ne.symm same, ih]
    | disconnected a =>
      by_cases same : a = addr
      · simp [lastPresence, presence, same]
      · simp [lastPresence, presence, same, Ne.symm same, ih]
    | _ => exact ih

end Presence

namespace ListenTask

variable {localCommit : Vector UInt8 8} {t : ListenTask} {turn : ListenTurn} {addr : SocketAddr}

/-- The watchdog reports a peer as gone that has entered. -/
def disowns (t : ListenTask) (turn : ListenTurn) : Bool :=
  turn = .tick ∧ t.silent.any (· ∈ t.enteredConnections)

/-- The effects that neither acknowledge, nor type, nor report that a peer entered or went. -/
def plain : ListenEffect → Bool
  | .reply _ (.ack _) | .broadcast (.ack _) | .toProxy (.input _ _) | .toService (.entered _ _ _)
  | .toService (.disconnected _) => false
  | _ => true

/-- The peer that a turn takes leave of. -/
def departs : ListenTurn → Option SocketAddr
  | .listen (some (.msg (.leave _) addr)) _ | .listen (some (.disconnected addr)) _ => some addr
  | _ => none

/-- What a step does to the peers that have entered, with everything it says about them. -/
inductive Outcome (t : ListenTask) : ListenTurn → ListenTask × List ListenEffect → Prop where
  | quiet {turn : ListenTurn} {r : ListenTask × List ListenEffect} (stays : departs turn = none)
      (entered : r.1.enteredConnections = t.enteredConnections)
      (silent : ∀ effect ∈ r.2, plain effect = true) : Outcome t turn r
  | acknowledged {turn : ListenTurn} {t' : ListenTask} (addr : SocketAddr)
      (stays : departs turn = none) (member : addr ∈ t.enteredConnections)
      (entered : t'.enteredConnections = t.enteredConnections) :
      Outcome t turn (t', [.reply addr (.ack 0)])
  | left {t' : ListenTask} (n : UInt32) (addr : SocketAddr) (fingerprint : Option String)
      (entered : t'.enteredConnections = t.enteredConnections.filter (· ≠ addr)) :
      Outcome t (.listen (some (.msg (.leave n) addr)) fingerprint)
        (t', [.toProxy (.remove addr), .reply addr (.ack 0)])
  | typed {t' : ListenTask} (event : Event) (addr : SocketAddr) (fingerprint : Option String)
      (entered : t'.enteredConnections = t.enteredConnections) :
      Outcome t (.listen (some (.msg (.input event) addr)) fingerprint)
        (t', [.toProxy (.input event addr)])
  | gone {t' : ListenTask} (addr : SocketAddr) (fingerprint : Option String)
      (entered : t'.enteredConnections = t.enteredConnections.filter (· ≠ addr)) :
      Outcome t (.listen (some (.disconnected addr)) fingerprint)
        (t', [.toProxy (.remove addr), .toService (.disconnected addr)])
  | completed {t' : ListenTask} (addr : SocketAddr) (pos : Position) (fingerprint : String)
      (entered : t'.enteredConnections = t.enteredConnections.insert addr) :
      Outcome t (.progress (.centered true) true)
        (t', [.reply addr (.ack 0), .toService (.entered addr pos fingerprint)])
  | silenced {t' : ListenTask} (entered : t'.enteredConnections = t.enteredConnections) :
      Outcome t .tick (t', t.silent.flatMap fun addr =>
        [.toProxy (.remove addr), .toService (.disconnected addr)])

theorem enterDisposition_acknowledge {pending : Option PendingEnter} :
    enterDisposition t.enteredConnections pending addr = .acknowledge ↔ addr ∈ t.enteredConnections := by
  unfold enterDisposition
  split
  · simp_all
  · split
    · simp_all
    · split <;> simp_all

theorem message_outcome (event : ProtoEvent) (addr : SocketAddr) (fingerprint : Option String) :
    Outcome t (.listen (some (.msg event addr)) fingerprint)
      (t.message localCommit event addr fingerprint) := by
  unfold message
  cases event with
  | enter pos =>
    dsimp only
    unfold enter
    split
    · exact .quiet rfl rfl (by simp)
    split
    · rename_i direct
      exact .acknowledged addr rfl (enterDisposition_acknowledge.mp direct) rfl
    · exact .quiet rfl rfl (by simp)
    · exact .quiet rfl rfl (by simp)
    · exact .quiet rfl rfl (by simp [plain])
  | leave n => exact .left n addr fingerprint rfl
  | input event =>
    dsimp only
    unfold EmulationProxy.consume
    split
    · exact .typed event addr fingerprint rfl
    · exact .quiet rfl rfl (by simp)
  | ping =>
    refine .quiet rfl rfl ?_
    cases given : t.pendingReleases.lookup addr <;>
      simp [plain, EmulationProxy.readiness, given]
  | releaseAck releaseEpoch =>
    dsimp only
    split
    · exact .quiet rfl rfl (by simp [plain])
    · exact .quiet rfl rfl (by simp)
  | hello commit => exact .quiet rfl rfl (by simp [plain, EmulationProxy.readiness])
  | readiness _ _ _ | ack _ | pong _ | releaseRequest _ => exact .quiet rfl rfl (by simp)

theorem listen_outcome (event : Option ListenEvent) (fingerprint : Option String) :
    Outcome t (.listen event fingerprint) (t.listen localCommit event fingerprint) := by
  unfold listen
  split
  · exact message_outcome _ _ _
  · exact .quiet rfl rfl (by simp [plain])
  · refine .quiet rfl rfl ?_
    dsimp only
    split <;> simp [plain]
  · exact .gone _ fingerprint rfl
  · exact .quiet rfl rfl (by simp [stop, plain])

variable {r : ListenTask × List ListenEffect}

theorem advance_outcome {progress : PendingEnterProgress} {replied : Bool}
    (advanced : t.advance progress replied = some r) :
    Outcome t (.progress progress replied) r := by
  have givenUp (progress : PendingEnterProgress) (replied : Bool) (pending : PendingEnter) :
      Outcome t (.progress progress replied) (t.giveUp pending) :=
    .quiet rfl rfl (by simp [giveUp, plain])
  obtain ⟨pending, -, advanced⟩ := Option.bind_eq_some_iff.mp advanced
  split at advanced
  · rename_i ok _ _
    cases advanced
    cases ok with
    | false => exact givenUp _ _ pending
    | true =>
      refine .quiet rfl rfl ?_
      simp only [if_true, center, EmulationProxy.requestCenterPointer]
      split <;> simp [plain]
  · cases advanced
    cases replied with
    | false => exact givenUp _ _ pending
    | true => exact .completed pending.addr pending.pos pending.fingerprint rfl
  · cases advanced
    exact givenUp _ _ pending
  · split at advanced
    · cases advanced
      exact givenUp _ _ pending
    · contradiction
  · contradiction

/-- The one case analysis of a step; what the runs keep is derived from it. -/
theorem step_outcome (step : t.step localCommit turn = some r) : Outcome t turn r := by
  unfold ListenTask.step at step
  split at step
  · cases turn with
    | elapse ns =>
      cases step
      exact .quiet rfl rfl (by simp)
    | listen event fingerprint =>
      rw [← Option.some.inj step]
      exact listen_outcome event fingerprint
    | progress progress replied => exact advance_outcome step
    | proxy event =>
      cases step
      refine .quiet rfl rfl ?_
      cases event <;> simp [plain, EmulationProxy.readiness, ProxyEvent.toEmulation]
    | request request port =>
      rw [← Option.some.inj step]
      cases request <;> exact .quiet rfl rfl (by simp [request, stop, plain])
    | tick =>
      rw [← Option.some.inj step]
      exact .silenced rfl
  · contradiction

theorem lastPresence_plain {effects : List ListenEffect}
    (silent : ∀ effect ∈ effects, plain effect = true) : lastPresence addr (told effects) = none := by
  induction effects with
  | nil => rfl
  | cons effect effects ih =>
    have rest := ih fun x member => silent x (List.mem_cons_of_mem _ member)
    have first := silent effect (by simp)
    cases effect with
    | toService event =>
      have unsaid : event.presence addr = none := by
        cases event with
        | entered | disconnected => simp [plain] at first
        | _ => rfl
      simpa [told, lastPresence, unsaid] using rest
    | _ => exact rest

theorem lastPresence_gone (addrs : List SocketAddr) (absent : addr ∉ addrs) :
    lastPresence addr (told (addrs.flatMap fun addr =>
      [.toProxy (.remove addr), .toService (.disconnected addr)])) = none := by
  induction addrs with
  | nil => rfl
  | cons other addrs ih =>
    rw [List.mem_cons, not_or] at absent
    rw [List.flatMap_cons, told, List.filterMap_append, lastPresence_append, ← told, ih absent.2]
    simp [lastPresence, presence, Ne.symm absent.1]

theorem Outcome.reported (outcome : Outcome t turn r)
    (owned : t.disowns turn = false) (entered : addr ∈ r.1.enteredConnections) :
    (addr ∈ t.enteredConnections ∧ lastPresence addr (told r.2) = none) ∨
      lastPresence addr (told r.2) = some .entered := by
  cases outcome with
  | quiet _ same silent => exact .inl ⟨same ▸ entered, lastPresence_plain silent⟩
  | acknowledged _ _ _ same | typed _ _ _ same => exact .inl ⟨same ▸ entered, rfl⟩
  | left n other fingerprint same =>
    rw [same] at entered
    exact .inl ⟨(List.mem_filter.mp entered).1, rfl⟩
  | gone other fingerprint same =>
    rw [same] at entered
    obtain ⟨old, kept⟩ := List.mem_filter.mp entered
    have different : ¬ other = addr := by
      rintro rfl
      simp at kept
    exact .inl ⟨old, by simp [told, lastPresence, presence, different]⟩
  | completed other pos fingerprint same =>
    rw [same] at entered
    by_cases different : addr = other
    · exact .inr (by simp [told, lastPresence, presence, different])
    · have old := (List.mem_insert_iff.mp entered).resolve_left different
      exact .inl ⟨old, by simp [told, lastPresence, presence, Ne.symm different]⟩
  | silenced same =>
    rw [same] at entered
    refine .inl ⟨entered, lastPresence_gone _ ?_⟩
    intro silent
    have disowned : t.disowns .tick = true := by
      simp only [disowns, List.any_eq_true, decide_eq_true_eq, true_and]
      exact ⟨addr, silent, entered⟩
    simp [disowned] at owned

end ListenTask

abbrev ListenEntry := Entry ListenTask ListenTurn (List ListenEffect)

def reports (trace : List ListenEntry) : List EmulationEvent := trace.flatMap fun e => told e.output

/-- The step answers an enter of `addr` at once, because the peer has entered before. -/
def acknowledgesEntered (e : ListenEntry) (addr : SocketAddr) : Prop :=
  ∃ pos fingerprint, e.input = .listen (some (.msg (.enter pos) addr)) (some fingerprint) ∧
    enterDisposition e.pre.enteredConnections e.pre.pendingEnter addr = .acknowledge ∧
    .reply addr (.ack 0) ∈ e.output

section Runs

variable {localCommit : Vector UInt8 8} {clock : Nat} {trace : List ListenEntry} {t : ListenTask}

theorem reports_snoc (trace : List ListenEntry) (e : ListenEntry) :
    reports (trace ++ [e]) = reports trace ++ told e.output := by
  simp [reports]

theorem entered_reported (run : Run (listenTask localCommit) (.new clock) trace t)
    (owned : ∀ e ∈ trace, e.pre.disowns e.input = false) {addr : SocketAddr}
    (entered : addr ∈ t.enteredConnections) : lastPresence addr (reports trace) = some .entered := by
  induction run with
  | nil => exact absurd entered List.not_mem_nil
  | @snoc trace t t' turn effects _ step ih =>
    have outcome := step_outcome step
    rw [reports_snoc, lastPresence_append]
    rcases outcome.reported (owned ⟨t, turn, effects, t'⟩ (by simp)) entered with
      ⟨old, silent⟩ | reported
    · rw [silent, Option.none_or]
      exact ih (fun e member => owned e (List.mem_append_left _ member)) old
    · rw [reported, Option.some_or]

/-- While the watchdog does not report a peer that has entered as gone, an enter is answered
at once only if the service was last told that the peer entered, and so keeps the barrier
for its return. -/
theorem direct_ack_registered (run : Run (listenTask localCommit) (.new clock) trace t)
    (owned : ∀ e ∈ trace, e.pre.disowns e.input = false) {before after : List ListenEntry}
    {e : ListenEntry} (here : trace = before ++ e :: after) {addr : SocketAddr}
    (acknowledged : acknowledgesEntered e addr) :
    lastPresence addr (reports before) = some .entered ∧ addr ∈ incomingConns (reports before) := by
  obtain ⟨-, -, -, direct, -⟩ := acknowledged
  have entered := enterDisposition_acknowledge.mp direct
  have told := entered_reported (run.split here).1 (fun x member => owned x (by simp [here, member]))
    entered
  exact ⟨told, (mem_incomingConns _).mpr told⟩

theorem acknowledges_step {addr : SocketAddr} (pos : Position) (fingerprint : String)
    (run : Run (listenTask localCommit) (.new clock) trace t) (running : t.running = true)
    (entered : addr ∈ t.enteredConnections) :
    ∃ e t', Run (listenTask localCommit) (.new clock) (trace ++ [e]) t' ∧ e.pre = t ∧
      e.input = .listen (some (.msg (.enter pos) addr)) (some fingerprint) ∧
      acknowledgesEntered e addr := by
  have direct : enterDisposition t.enteredConnections t.pendingEnter addr = .acknowledge :=
    enterDisposition_acknowledge.mpr entered
  have step : (listenTask localCommit).step t
      (.listen (some (.msg (.enter pos) addr)) (some fingerprint)) =
        some ({ t with lastResponse := t.lastResponse.insert addr t.clock }, [.reply addr (.ack 0)]) := by
    simp [listenTask, step, running, ListenTask.listen, message, enter, direct]
  exact ⟨_, _, .snoc run step, rfl, rfl, pos, fingerprint, rfl, direct, by simp⟩

def arrival (addr : SocketAddr) : List ListenTurn :=
  [.proxy (.enabled true true 1), .listen (some (.accept addr "key")) none,
    .listen (some (.msg (.enter .left) addr)) (some "key"), .progress (.released true) true,
    .progress (.centered true) true]

theorem repeated_enter_registered : let addr : SocketAddr := ⟨.v4 1, 1⟩
    ∃ before e t, Run (listenTask (.replicate 8 0)) (.new 0) (before ++ [e]) t ∧
      acknowledgesEntered e addr ∧
      lastPresence addr (reports before) = some .entered ∧ addr ∈ incomingConns (reports before) := by
  intro addr
  obtain ⟨before, t, run, running, entered, earlier⟩ := (listenTask (.replicate 8 0)).exists_run (.new 0)
    (arrival addr) (fun before t => t.running = true ∧ addr ∈ t.enteredConnections ∧
      ∀ e ∈ before, e.pre.disowns e.input = false) (by decide)
  obtain ⟨e, t', run', pre, input, acknowledged⟩ := acknowledges_step .left "key" run running entered
  have owned : ∀ x ∈ before ++ [e], x.pre.disowns x.input = false := by
    intro x member
    rcases List.mem_append.mp member with old | new
    · exact earlier x old
    · rw [List.mem_singleton.mp new, input]
      rfl
  exact ⟨before, e, t', run', acknowledged, direct_ack_registered run' owned rfl acknowledged⟩

/-- A peer that has entered is silent for two seconds. The watchdog reports it as gone, yet
its next enter is acknowledged at once and never reported. -/
theorem silent_peer_acknowledged : let addr : SocketAddr := ⟨.v4 1, 1⟩
    ∃ before e t, Run (listenTask (.replicate 8 0)) (.new 0) (before ++ [e]) t ∧
      acknowledgesEntered e addr ∧
      lastPresence addr (reports before) = some .gone ∧ addr ∉ incomingConns (reports before) := by
  intro addr
  obtain ⟨before, t, run, running, entered, gone⟩ := (listenTask (.replicate 8 0)).exists_run (.new 0)
    (arrival addr ++ [.elapse (2 * second), .tick]) (fun before t => t.running = true ∧
      addr ∈ t.enteredConnections ∧ lastPresence addr (reports before) = some .gone) (by decide)
  obtain ⟨e, t', run', -, -, acknowledged⟩ := acknowledges_step .left "key" run running entered
  refine ⟨before, e, t', run', acknowledged, gone, ?_⟩
  rw [mem_incomingConns, gone]
  decide

end Runs

end DisplayMux.LanMouse
