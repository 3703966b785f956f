import DisplayMux.Lib.Triple
import DisplayMux.LanMouse.Capture

/-! What a turn of the capture task does, said once: a turn is made of a few kinds of deeds,
and no client is made active or spoken to after one was left. -/
namespace DisplayMux.LanMouse

open Scene

/-- The acts that make a client active: the capture begins at its edge, the gate hands
out its permit, and the service agrees. -/
def grant (handle : CaptureHandle) (permit : CapturePermit) : List Act :=
  [.captured handle .begin, .notify (.captureBegin handle), .consumed permit,
    .notify (.commitRequested handle permit.leaseEpoch permit.peerSessionEpoch), .decided permit true]

/-- The acts that tell a client nothing, but for the answer to its request for a release. -/
def Act.quiet : Act → Bool
  | .send (.releaseAck _) _ => true
  | .send .. | .released | .sessionEnded => false
  | _ => true

def farewell (active : Option CaptureHandle) (keys : List Scancode) (reason : CaptureReleaseReason) :
    List Act :=
  match active with
  | none => []
  | some handle => keys.map (fun key => .send (keyUp key) handle) ++
    [.send modsZero handle, .send (.leave 0) handle, .notify (.clientReleased handle reason)]

/-- The client is left; it is told so unless the backend has failed. -/
def Scene.leave (s : Scene) (task : CaptureTask) (told : Bool) (reason : CaptureReleaseReason) : Scene :=
  { s with
    task
    capture := s.capture.release
    log := s.log ++ ((if told then farewell s.task.activeClient s.capture.pressedKeys reason else []) ++
      [.released]) }

/-- What a turn answers: an event handed out by the front end, a message or a request. -/
inductive Cause where
  | captured (handle : CaptureHandle) (event : CaptureEvent) (answers : Answers)
  | heard (handle : CaptureHandle) (event : ProtoEvent)
  | asked (request : CaptureRequest)
  | other

def Cause.acks : Cause → Bool
  | .heard _ (.ack _) => true
  | _ => false

namespace Scene

/-- The client becomes active: its edge is crossed under a permit and without the release
bind, and the service agrees. -/
def starts (s : Scene) (handle : CaptureHandle) : Cause → Bool
  | .captured own .begin answers =>
    own = handle && s.task.activeClient ≠ some handle && !s.capture.keysPressed s.task.releaseBind &&
      (s.task.gate.consume handle s.now).1.isSome && answers.authorized
  | _ => false

theorem inactive_of_starts {s : Scene} {handle : CaptureHandle} {cause : Cause}
    (starts : s.starts handle cause = true) : s.task.activeClient ≠ some handle := by
  unfold Scene.starts at starts
  split at starts <;> simp_all

/-- The active client is left: it lost the edge, the release bind is held, an event that is
forwarded cannot be sent, or the client or the service asks for it. -/
def releases (s : Scene) : Cause → Bool
  | .captured handle event answers =>
    if event = .edgeRetreated then s.task.activeClient = some handle
    else s.capture.keysPressed s.task.releaseBind ||
      (!answers.sendOk && (s.task.activeClient = some handle || event = .begin))
  | .heard handle event => !s.task.activeClient.any (· ≠ handle) && match event with
    | .leave _ | .releaseRequest _ => true
    | .readiness keyboardReady pointerReady sessionEpoch =>
      !keyboardReady || !pointerReady || s.task.activePeerSessionEpoch ≠ some sessionEpoch
    | _ => false
  | .asked (.release _) => true
  | _ => false

/-- The local input is given back although the active client stays: the event is for a capture
that neither forwards it nor leaves it to another one at its side. -/
def frees (s : Scene) (cause : Cause) : Bool :=
  match cause with
  | .captured handle event _ =>
    event ≠ .edgeRetreated && !s.capture.keysPressed s.task.releaseBind &&
      match s.task.captures.find? (·.1 = handle) with
      | some (_, pos, .enterOnly) => !s.task.isDefaultCaptureAt pos
      | some (_, _, .default) => s.task.activeClient ≠ some handle && !s.starts handle cause
      | none => false
  | _ => false

end Scene

/-- The scenes that a turn can reach. A client is made active only where nothing but that
was done, and spoken to only while it is active. -/
inductive Deeds (start : Scene) (cause : Cause) : Scene → Prop where
  | start : Deeds start cause start
  | note {s : Scene} (a : Act) (quiet : a.quiet = true) (deeds : Deeds start cause s) :
      Deeds start cause (s.record a)
  | adjust {s : Scene} (task : CaptureTask) (active : task.activeClient = s.task.activeClient)
      (state : cause.acks = true ∧ task.state = .sending ∨ task.state = s.task.state)
      (deeds : Deeds start cause s) :
      Deeds start cause (s.withTask task)
  | giveBack {s : Scene} (frees : start.frees cause = true) (deeds : Deeds start cause s) :
      Deeds start cause (s.withCapture s.capture.release)
  | rebuild {s : Scene} (capture : InputCapture) (keys : capture.pressedKeys = s.capture.pressedKeys)
      (pending : capture.pending = s.capture.pending) (deeds : Deeds start cause s) :
      Deeds start cause (s.withCapture capture)
  | enter {s : Scene} (handle : CaptureHandle) (permit : CapturePermit) (own : permit.handle = handle)
      (starts : start.starts handle cause = true)
      (granted : s.log = start.log ++ grant handle permit) (deeds : Deeds start cause s) :
      Deeds start cause (s.withTask { s.task with
        state := .waitingForAck
        activeClient := some handle
        activePeerSessionEpoch := some permit.peerSessionEpoch })
  | forward {s : Scene} (handle : CaptureHandle) (opposite : Position) (event : CaptureEvent)
      (answers : Answers) (message : ProtoEvent) (active : s.task.activeClient = some handle)
      (known : cause = .captured handle event answers)
      (routing : routed s.task.state opposite event = some message) (deeds : Deeds start cause s) :
      Deeds start cause (s.record (.send message handle))
  | leave {s : Scene} (task : CaptureTask) (told : Bool) (reason : CaptureReleaseReason)
      (releases : start.releases cause = true) (gone : task.activeClient = none)
      (keys : s.capture.pressedKeys = start.capture.pressedKeys)
      (deeds : Deeds start cause s) : Deeds start cause (s.leave task told reason)

variable {c c' : InputCapture}

section Turns

open Std.Do

set_option mvcgen.warning false

abbrev Post (α : Type) := PostCond α (.except Halt (.arg Scene .pure))

@[spec]
theorem perform_spec (act : Act) (Q : Post Unit) :
    ⦃fun s => Q.1 () (s.record act)⦄ perform act ⦃Q⦄ := by
  mvcgen [perform]

@[spec]
theorem updateTask_spec (f : CaptureTask → CaptureTask) (Q : Post Unit) :
    ⦃fun s => Q.1 () (s.withTask (f s.task))⦄ updateTask f ⦃Q⦄ := by
  mvcgen [updateTask]

@[spec]
theorem setCapture_spec (capture : InputCapture) (Q : Post Unit) :
    ⦃fun s => Q.1 () (s.withCapture capture)⦄ setCapture capture ⦃Q⦄ := by
  mvcgen [setCapture]

@[spec]
theorem send_spec (event : ProtoEvent) (handle : CaptureHandle) (Q : Post Unit) :
    ⦃fun s => Q.1 () (s.record (.send event handle))⦄ send event handle ⦃Q⦄ := by
  mvcgen [send]

@[spec]
theorem notify_spec (event : ICaptureEvent) (Q : Post Unit) :
    ⦃fun s => Q.1 () (s.record (.notify event))⦄ notify event ⦃Q⦄ := by
  mvcgen [notify]

@[spec]
theorem keyUps_spec (handle : CaptureHandle) (keys : List Scancode) (Q : Post Unit) :
    ⦃fun s => Q.1 () { s with log := s.log ++ keys.map fun key => .send (keyUp key) handle }⦄
    keys.forM fun key => send (keyUp key) handle ⦃Q⦄ := by
  induction keys generalizing Q with
  | nil =>
    change ⦃_⦄ (pure () : CaptureM Unit) ⦃_⦄
    mvcgen
    simp_all
  | cons key keys ih =>
    change ⦃_⦄ (do send (keyUp key) handle; keys.forM fun key => send (keyUp key) handle) ⦃_⦄
    mvcgen [ih]
    simp_all [record]

/-- The keys that are down are still known. -/
structure Unreleased (start : Scene) (cause : Cause) (s : Scene) : Prop where
  deeds : Deeds start cause s
  keys : s.capture.pressedKeys = start.capture.pressedKeys

variable (start : Scene) (cause : Cause) (answers : Answers)

theorem releaseCapture_leaves (reason : CaptureReleaseReason) (s : Scene) :
    Ensures (· = s) (fun s' => s'.task.activeClient = none ∧ ∃ told, s' = s.leave s'.task told reason)
      (releaseCapture answers reason) := by
  mvcgen [releaseCapture, takeClient, leaveClient]
  all_goals subst_vars
  · exact ⟨rfl, false, rfl⟩
  · exact ⟨rfl, false, rfl⟩
  · rename_i active _ _
    refine ⟨rfl, true, ?_⟩
    simp [leave, withTask, withCapture, record, active, farewell,
      InputCapture.takePressedKeys, InputCapture.release]
  · exact ⟨rfl, false, rfl⟩

theorem releaseCapture_deeds (reason : CaptureReleaseReason) :
    Ensures (fun s => Unreleased start cause s ∧ start.releases cause = true) (Deeds start cause)
      (releaseCapture answers reason) := by
  refine .of_start (releaseCapture_leaves answers reason) ?_
  rintro s s' ⟨⟨deeds, keys⟩, releases⟩ ⟨gone, told, same⟩
  rw [same]
  exact deeds.leave s'.task told reason releases gone keys

theorem releaseBackend_deeds :
    Ensures (fun s => Deeds start cause s ∧ start.frees cause = true) (Deeds start cause)
      (releaseBackend answers) := by
  mvcgen [releaseBackend, backend]
  all_goals
    rename_i told _
    exact told.1.giveBack told.2

section

variable (handle : CaptureHandle)

/-- The turn has only told what it saw: the event, and the capture that begins with it. -/
structure Noted (event : CaptureEvent) (s : Scene) : Prop where
  deeds : Deeds start (.captured handle event answers) s
  task : s.task = start.task
  capture : s.capture = start.capture
  now : s.now = start.now
  log : event = .begin → s.log = start.log ++ [.captured handle .begin, .notify (.captureBegin handle)]

theorem admitBegin_deeds (event : CaptureEvent) :
    ⦃fun s => ⌜Noted start answers handle event s ∧ event = .begin ∧ s.task.activeClient ≠ some handle ∧
      start.capture.keysPressed start.task.releaseBind = false ∧
        (start.starts handle (.captured handle event answers) = false →
        start.frees (.captured handle event answers) = true)⌝⦄
    admitBegin answers handle
    ⦃post⟨fun admitted s => ⌜Deeds start (.captured handle event answers) s ∧
        (admitted = true → s.task.activeClient = some handle ∧
          s.capture.pressedKeys = start.capture.pressedKeys)⌝,
      fun _ s => ⌜Deeds start (.captured handle event answers) s⌝⟩⦄ := by
  mvcgen [admitBegin, requestCommitAuthorization, releaseBackend_deeds]
  · rename_i told consumed
    obtain ⟨noted, rfl, -, -, denied⟩ := told
    refine ⟨noted.deeds.adjust _ rfl (.inr rfl), denied ?_⟩
    rw [noted.task, noted.now] at consumed
    simp [starts, consumed]
  · rename_i deeds
    exact ⟨deeds.note _ rfl, by simp⟩
  · rename_i told permit consumed authorized
    obtain ⟨noted, rfl, other, free, -⟩ := told
    have starts : start.starts handle (.captured handle .begin answers) = true := by
      rw [noted.task, noted.now] at consumed
      rw [noted.task] at other
      simp [starts, consumed, other, free, authorized]
    refine ⟨.enter handle permit (CaptureGate.consume_handle consumed) starts ?_
      (.note _ rfl (.note _ rfl (.note _ rfl (.adjust _ rfl (.inr rfl) noted.deeds)))), rfl,
      congrArg _ noted.capture⟩
    simp [record, withTask, noted.log rfl, grant, authorized]
  · rename_i told permit _ refused
    obtain ⟨noted, rfl, -, -, denied⟩ := told
    refine ⟨.note _ rfl (.note _ rfl (.note _ rfl (.adjust _ rfl (.inr rfl) noted.deeds))), denied ?_⟩
    simp [starts, refused]
  · rename_i deeds
    exact ⟨deeds.note _ rfl, by simp⟩

theorem forward_deeds (pos : Position) (event : CaptureEvent) :
    Ensures (fun s => Unreleased start (.captured handle event answers) s ∧
        s.task.activeClient = some handle ∧ (start.task.activeClient = some handle ∨ event = .begin))
      (Deeds start (.captured handle event answers)) (forward answers handle pos event) := by
  mvcgen [forward, releaseCapture_deeds]
  · rename_i told _
    exact told.1.deeds
  · rename_i told message routing _
    exact told.1.deeds.forward handle _ event answers message told.2.1 rfl routing
  · rename_i told message routing lost
    refine ⟨⟨told.1.deeds.forward handle _ event answers message told.2.1 rfl routing, told.1.keys⟩, ?_⟩
    have inside : event ≠ .edgeRetreated := by
      rintro rfl
      contradiction
    rcases told.2.2 with active | begins <;> simp_all [releases]

theorem routeEvent_deeds (event : CaptureEvent) :
    Ensures (fun s => Noted start answers handle event s ∧ event ≠ .edgeRetreated ∧
        start.capture.keysPressed start.task.releaseBind = false)
      (Deeds start (.captured handle event answers)) (routeEvent answers handle event) := by
  have admitted := admitBegin_deeds start answers handle event
  mvcgen [routeEvent, getCapture, releaseBackend_deeds, admitted, forward_deeds]
  · rename_i told _ _ _ _ _ _ _
    exact told.1.deeds
  · rename_i told _ _ _ found observes _ alone
    obtain ⟨noted, inside, free⟩ := told
    rw [noted.task] at found alone
    exact ⟨noted.deeds, by simp_all [frees]⟩
  · rename_i told _ _ type found default _ begins
    obtain ⟨noted, inside, free⟩ := told
    refine ⟨noted, begins.1, begins.2, free, fun denied => ?_⟩
    have other := begins.2
    rw [noted.task] at found other
    cases type <;> simp_all [frees]
  · rename_i admitted other
    exact absurd (admitted.2 ‹_›).1 other
  · rename_i begins _ _ _ admitted active
    exact ⟨⟨admitted.1, (admitted.2 ‹_›).2⟩, not_not.mp active, .inr begins.1⟩
  · rename_i admitted
    exact admitted.1
  · rename_i told _ _ type found default _ other inactive
    obtain ⟨noted, inside, free⟩ := told
    refine ⟨noted.deeds, ?_⟩
    have later : event ≠ .begin := fun begins => other ⟨begins, inactive⟩
    rw [noted.task] at found inactive
    cases type <;> cases event <;> simp_all [frees, starts]
  · rename_i told _ _ _ _ _ _ _ active
    have active := not_not.mp active
    exact ⟨⟨told.1.deeds, congrArg _ told.1.capture⟩, active, .inl (told.1.task ▸ active)⟩
  · rename_i told _
    exact told.1.deeds

theorem handleCaptureEvent_deeds (event : CaptureEvent) :
    Ensures (· = start) (Deeds start (.captured handle event answers))
      (handleCaptureEvent answers handle event) := by
  mvcgen [handleCaptureEvent, releaseCapture_deeds, routeEvent_deeds]
  · rename_i is retreats _ active
    subst is retreats
    exact ⟨⟨.note _ rfl .start, rfl⟩, decide_eq_true active⟩
  · rename_i is _ _ _
    exact is ▸ .note _ rfl (.note _ rfl .start)
  · rename_i is inside held
    subst is
    refine ⟨⟨.note _ rfl .start, rfl⟩, ?_⟩
    rw [releases, if_neg inside]
    exact Bool.or_eq_true_iff.mpr (.inl held)
  · rename_i is inside free _ begins
    subst is
    exact ⟨⟨.note _ rfl (.note _ rfl .start), rfl, rfl, rfl, fun _ => by simp [record, begins]⟩,
      inside, Bool.eq_false_iff.mpr free⟩
  · rename_i is inside free _ other
    subst is
    exact ⟨⟨.note _ rfl .start, rfl, rfl, rfl, fun begins => absurd begins other⟩, inside,
      Bool.eq_false_iff.mpr free⟩

theorem handlePeerEvent_deeds (own : CaptureHandle) (event : ProtoEvent) :
    Ensures (· = start) (Deeds start (.heard own event)) (handlePeerEvent answers own event) := by
  cases event with
  | ack n =>
    mvcgen [handlePeerEvent]
    all_goals subst_vars
    · exact .start
    · exact .adjust _ rfl (.inl ⟨rfl, rfl⟩) .start
  | hello _ =>
    mvcgen [handlePeerEvent]
    all_goals subst_vars
    · exact .start
    · exact .note _ rfl .start
  | readiness _ _ _ =>
    mvcgen [handlePeerEvent, releaseCapture_deeds]
    · subst_vars
      exact .start
    · rename_i is task free _ lost
      subst is
      exact ⟨⟨.start, rfl⟩, by simp_all [releases, task, or_assoc]⟩
    · exact (‹Deeds start _ _›).note _ rfl
    · subst_vars
      exact .note _ rfl .start
  | releaseRequest epoch =>
    mvcgen [handlePeerEvent, releaseCapture_deeds]
    · subst_vars
      exact .start
    · rename_i is task free _ _
      subst is
      exact ⟨⟨.note _ rfl .start, rfl⟩, by simp_all [releases, task]⟩
    · exact (‹Deeds start _ _›).note _ rfl
    · rename_i is task free _ _
      subst is
      exact ⟨⟨.start, rfl⟩, by simp_all [releases, task]⟩
    · exact (‹Deeds start _ _›).note _ rfl
  | leave _ =>
    mvcgen [handlePeerEvent, releaseCapture_deeds]
    · subst_vars
      exact .start
    · rename_i is task free
      subst is
      exact ⟨⟨.start, rfl⟩, by simp_all [releases, task]⟩
  | enter _ | input _ | ping | pong _ | releaseAck _ =>
    mvcgen [handlePeerEvent, releaseCapture_deeds]
    all_goals
      subst_vars
      exact .start

theorem create_keeps {id : CaptureHandle} {pos : Position} {asked : Bool}
    (made : c.create id pos = some (c', asked)) :
    c'.pressedKeys = c.pressedKeys ∧ c'.pending = c.pending := by
  unfold InputCapture.create at made
  split at made
  · contradiction
  dsimp only at made
  split at made <;> cases made <;> exact ⟨rfl, rfl⟩

theorem destroy_keeps {id : CaptureHandle} {asked : Bool} (gone : c.destroy id = some (c', asked)) :
    c'.pressedKeys = c.pressedKeys ∧ c'.pending = c.pending := by
  simp only [InputCapture.destroy, Option.bind_eq_bind, Option.bind_eq_some_iff] at gone
  obtain ⟨pos, -, ids, -, gone⟩ := gone
  split at gone <;> cases gone <;> exact ⟨rfl, rfl⟩

theorem createBarrier_deeds (pos : Position) :
    Ensures (Deeds start cause) (Deeds start cause) (createBarrier answers handle pos) := by
  mvcgen [createBarrier, backend]
  all_goals
    have kept := create_keeps ‹_›
    exact .rebuild _ kept.1 kept.2 ‹_›

theorem destroyBarrier_deeds :
    Ensures (Deeds start cause) (Deeds start cause) (destroyBarrier answers handle) := by
  mvcgen [destroyBarrier, backend]
  all_goals
    have kept := destroy_keeps ‹_›
    exact .rebuild _ kept.1 kept.2 ‹_›

end

theorem handleRequest_deeds (request : CaptureRequest) :
    Ensures (· = start) (Deeds start (.asked request)) (handleRequest answers request) := by
  have released := releaseCapture_deeds start (.asked request) answers
  cases request with
  | release completion =>
    mvcgen [handleRequest, released]
    · subst_vars
      exact ⟨⟨.adjust _ rfl (.inr rfl) .start, rfl⟩, rfl⟩
    · rename_i deeds
      exact deeds.note _ rfl
    · rename_i deeds
      exact deeds.note (.completed false) rfl
  | reenable | resumeIfFocused _ =>
    mvcgen [handleRequest, backend]
    all_goals
      subst_vars
      exact .start
  | create _ _ _ | destroy _ | setReleaseBind _ =>
    mvcgen [handleRequest, createBarrier_deeds, destroyBarrier_deeds]
    subst_vars
    exact .adjust _ rfl (.inr rfl) .start

end Turns

section Steps

def Phase.front : Phase → InputCapture
  | .capturing capture => capture
  | _ => .new

def Phase.live : Phase → Bool
  | .capturing _ => true
  | _ => false

/-- The front end as a turn finds it, and what the turn answers. -/
def Process.finds (p : Process) : Turn → InputCapture × Cause
  | .poll backend answers => match p.phase.front.pollNext backend with
    | (capture, .ready (.value (handle, event))) => (capture, .captured handle event answers)
    | (capture, _) => (capture, .other)
  | .receive handle event _ => (p.phase.front, .heard handle event)
  | .request request _ => (p.phase.front, .asked request)
  | _ => (p.phase.front, .other)

def Process.scene (p : Process) (capture : InputCapture) : Scene := ⟨p.clock, p.task, capture, []⟩

/-- A turn of the capture task is made of deeds, and may end the session. -/
def Turned (p : Process) (capture : InputCapture) (cause : Cause) (p' : Process) (acts : List Act) : Prop :=
  ∃ s, Deeds (p.scene capture) cause s ∧ p'.task = s.task ∧
    (p'.phase.front = s.capture ∨ p'.phase.live = false) ∧
    (acts = s.log ∨ p'.phase = .idle ∧ acts = s.log ++ [.sessionEnded, .notify .captureDisabled])

variable {p p' : Process} {acts : List Act} {capture : InputCapture} {cause : Cause}

theorem serve_turned {turn : CaptureM Unit}
    (ensures : Ensures (· = p.scene capture) (Deeds (p.scene capture) cause) turn)
    (served : p.serve capture turn = (p', acts)) : Turned p capture cause p' acts := by
  unfold Process.serve at served
  split at served
  · rename_i s ran
    cases served
    exact ⟨s, ensures.ok rfl ran, rfl, .inl rfl, .inl rfl⟩
  · rename_i s ran
    cases served
    exact ⟨s, ensures.error rfl ran, rfl, .inr rfl, .inr ⟨rfl, rfl⟩⟩
  · rename_i s ran
    cases served
    exact ⟨_, .note (.notify .captureDisabled) rfl (ensures.error rfl ran), rfl, .inr rfl, .inl rfl⟩

theorem Turned.adjust (front : p'.phase.front = p.phase.front)
    (active : p'.task.activeClient = p.task.activeClient) (state : p'.task.state = p.task.state) :
    Turned p p.phase.front cause p' [] :=
  ⟨_, .adjust p'.task active (.inr state) .start, rfl, .inl front, .inl rfl⟩

theorem createCaptures_keeps {captures : List (CaptureHandle × Position × CaptureType)}
    {stop : Option (Nat × Interrupt)} (made : createCaptures captures stop c = .ok c') :
    c'.pressedKeys = c.pressedKeys ∧ c'.pending = c.pending := by
  fun_induction createCaptures captures stop c <;> grind [create_keeps]

theorem opened_turned {stop : Option (Nat × Interrupt)} (opened : p.opened stop = (p', acts)) :
    Turned p .new cause p' acts := by
  unfold Process.opened at opened
  split at opened <;> cases opened
  · rename_i made
    have kept := createCaptures_keeps made
    exact ⟨_, .note _ rfl (.rebuild _ kept.1 kept.2 .start), rfl, .inl rfl, .inl rfl⟩
  · exact ⟨_, .note (.notify .captureEnabled) rfl .start, rfl, .inr rfl, .inr ⟨rfl, rfl⟩⟩
  · exact ⟨_, .note _ rfl (.note (.notify .captureEnabled) rfl .start), rfl, .inr rfl, .inl rfl⟩

theorem idleRequest_turned {request : CaptureRequest} (idle : p.phase = .idle)
    (answered : p.idleRequest request = (p', acts)) : Turned p p.phase.front cause p' acts := by
  cases request with
  | release completion =>
    cases completion <;> cases answered
    · exact .adjust rfl rfl rfl
    · exact ⟨_, .note (.completed true) rfl (.adjust (p.withGate p.task.gate.clear).task rfl (.inr rfl)
        .start), rfl, .inl rfl, .inl rfl⟩
  | reenable =>
    cases answered
    exact .adjust (by simp [idle, Phase.front]) rfl rfl
  | _ =>
    cases answered
    exact .adjust rfl rfl rfl

theorem poll_turned {backend : Poll (Item (Position × CaptureEvent))} {answers : Answers}
    (phase : p.phase = .capturing capture) (polled : p.poll capture backend answers = (p', acts)) :
    Turned p (p.finds (.poll backend answers)).1 (p.finds (.poll backend answers)).2 p' acts := by
  simp only [Process.finds, phase, Phase.front]
  unfold Process.poll at polled
  split at polled
  · rename_i next
    cases polled
    simp only [next]
    exact ⟨_, .start, rfl, .inl rfl, .inl rfl⟩
  · rename_i next
    cases polled
    exact ⟨_, .start, rfl, .inr rfl, .inr ⟨rfl, rfl⟩⟩
  · rename_i next
    cases polled
    exact ⟨_, .start, rfl, .inr rfl, .inr ⟨rfl, rfl⟩⟩
  · rename_i next
    simp only [next]
    exact serve_turned (handleCaptureEvent_deeds _ answers _ _) polled

theorem select_turned {turn : Turn} (selected : p.select turn = some (p', acts)) :
    Turned p (p.finds turn).1 (p.finds turn).2 p' acts := by
  unfold Process.select at selected
  split at selected
  · rename_i phase
    have front : p.phase.front = .new := by rw [phase]; rfl
    simp only [Process.finds, front]
    exact opened_turned (Option.some.inj selected)
  · rename_i phase
    cases selected
    exact .adjust (by rw [phase]; rfl) rfl rfl
  · rename_i phase
    cases selected
    exact .adjust (by rw [phase]; rfl) rfl rfl
  · rename_i phase
    exact poll_turned phase (Option.some.inj selected)
  · rename_i capture own event answers phase
    have front : p.phase.front = capture := by rw [phase]; rfl
    simp only [Process.finds, front]
    exact serve_turned (handlePeerEvent_deeds _ answers own event) (Option.some.inj selected)
  · rename_i capture request answers phase
    have front : p.phase.front = capture := by rw [phase]; rfl
    simp only [Process.finds, front]
    exact serve_turned (handleRequest_deeds _ answers request) (Option.some.inj selected)
  · cases selected
    exact ⟨_, .start, rfl, .inr rfl, .inr ⟨rfl, rfl⟩⟩
  · rename_i phase
    exact idleRequest_turned phase (Option.some.inj selected)
  · rename_i phase
    cases selected
    exact .adjust (by rw [phase]; rfl) rfl rfl
  · contradiction

theorem step_turned {turn : Turn} (step : p.step turn = some (p', acts)) :
    Turned p (p.finds turn).1 (p.finds turn).2 p' acts := by
  cases turn with
  | elapse _ | arm _ _ _ _ | disarm _ | clear =>
    cases step
    exact .adjust rfl rfl rfl
  | opened _ | openFailed | poll _ _ | receive _ _ _ | request _ _ | cancel =>
    exact select_turned step

end Steps

end DisplayMux.LanMouse
