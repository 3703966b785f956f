import DisplayMux.Lib.Machine
import DisplayMux.LanMouse.InputCapture

/-! The capture task: it decides which captured events go to which peer. One turn of
its loops is one step. A turn keeps what it changed even when it fails, and records
what it did in order. How the backend, the connection and the service answer is free. -/
namespace DisplayMux.LanMouse

/-- The largest instant in nanoseconds: an instant counts its seconds in 63 bits. -/
def instantMax : Nat := 9223372036854775808 * 1000000000 - 1

structure CapturePermit where
  handle : CaptureHandle
  leaseEpoch : UInt64
  peerSessionEpoch : UInt64
  expiresAt : Nat
  deriving DecidableEq, Repr

structure CaptureGate where
  armed : Option CapturePermit
  lastEpoch : UInt64
  deriving DecidableEq, Repr

namespace CaptureGate

def new : CaptureGate := ⟨none, 0⟩

def arm (g : CaptureGate) (handle : CaptureHandle) (leaseEpoch peerSessionEpoch : UInt64)
    (validFor now : Nat) : CaptureGate × Bool :=
  if g.lastEpoch < leaseEpoch ∧ now + validFor ≤ instantMax then
    (⟨some ⟨handle, leaseEpoch, peerSessionEpoch, now + validFor⟩, leaseEpoch⟩, true)
  else (g, false)

def clear (g : CaptureGate) : CaptureGate := { g with armed := none }

def consume (g : CaptureGate) (handle : CaptureHandle) (now : Nat) :
    Option CapturePermit × CaptureGate :=
  match g.armed with
  | none => (none, g)
  | some permit =>
    if permit.expiresAt ≤ now then (none, g.clear)
    else if permit.handle ≠ handle then (none, g)
    else (some permit, g.clear)

def disarm (g : CaptureGate) (leaseEpoch : UInt64) : CaptureGate :=
  if g.armed.any (·.leaseEpoch = leaseEpoch) then g.clear else g

def remove (g : CaptureGate) (handle : CaptureHandle) : CaptureGate :=
  if g.armed.any (·.handle = handle) then g.clear else g

theorem consume_handle {g : CaptureGate} {handle : CaptureHandle} {now : Nat} {permit : CapturePermit}
    (consumed : (g.consume handle now).1 = some permit) : permit.handle = handle := by
  unfold consume at consumed
  split at consumed
  · contradiction
  split at consumed
  · contradiction
  split at consumed
  · contradiction
  · rename_i same
    cases consumed
    exact not_not.mp same

end CaptureGate

inductive CaptureReleaseReason where
  | localCaptureLost | peerLeft | peerReadinessLost | peerReleaseRequested | serviceRequested
  | releaseBind | transportFailed
  deriving DecidableEq, Repr

inductive CaptureType where
  | default | enterOnly
  deriving DecidableEq, Repr

inductive AckState where
  | waitingForAck | sending
  deriving DecidableEq, Repr

/-- What the task tells the service. -/
inductive ICaptureEvent where
  | captureBegin (handle : CaptureHandle)
  | captureDisabled
  | captureEnabled
  | captureCandidate (handle : CaptureHandle)
  | edgeRetreated (handle : CaptureHandle)
  | commitRequested (handle : CaptureHandle) (leaseEpoch peerSessionEpoch : UInt64)
  | commitDeniedReleased (handle : CaptureHandle) (leaseEpoch : UInt64)
  | clientReleased (handle : CaptureHandle) (reason : CaptureReleaseReason)
  | peerReadiness (handle : CaptureHandle)
  | peerReleaseStarted (handle : CaptureHandle) (releaseEpoch : UInt64)
  deriving DecidableEq, Repr

inductive CaptureRequest where
  | release (completion : Bool)
  | create (handle : CaptureHandle) (pos : Position) (type : CaptureType)
  | destroy (handle : CaptureHandle)
  | reenable
  | setReleaseBind (bind : List Scancode)
  | resumeIfFocused (handle : CaptureHandle)
  deriving DecidableEq, Repr

structure CaptureTask where
  activePeerSessionEpoch : Option UInt64
  activeClient : Option CaptureHandle
  captures : List (CaptureHandle × Position × CaptureType)
  gate : CaptureGate
  releaseBind : List Scancode
  state : AckState
  deriving DecidableEq, Repr

namespace CaptureTask

def new (releaseBind : List Scancode) : CaptureTask := ⟨none, none, [], .new, releaseBind, .waitingForAck⟩

def addCapture (t : CaptureTask) (handle : CaptureHandle) (pos : Position) (type : CaptureType) :
    CaptureTask :=
  { t with captures := t.captures ++ [(handle, pos, type)] }

def removeCapture (t : CaptureTask) (handle : CaptureHandle) : CaptureTask :=
  { t with captures := t.captures.filter (·.1 ≠ handle), gate := t.gate.remove handle }

def isDefaultCaptureAt (t : CaptureTask) (pos : Position) : Bool :=
  t.captures.any fun (_, p, type) => p = pos ∧ type = .default

end CaptureTask

/-- What a turn does, in order. The end of a call of `releaseCapture` and the end of
a capture session are recorded as well. -/
inductive Act where
  | captured (handle : CaptureHandle) (event : CaptureEvent)
  | notify (event : ICaptureEvent)
  | consumed (permit : CapturePermit)
  | decided (permit : CapturePermit) (authorized : Bool)
  | send (event : ProtoEvent) (handle : CaptureHandle)
  | completed (ok : Bool)
  | released
  | sessionEnded
  deriving DecidableEq, Repr

/-- How the others answer in one turn: the backend, the connection when an event is
forwarded, and the service when it is asked for a decision. A turn asks each of them
at most once; the connection's answers while a release cleans up change nothing. -/
structure Answers where
  backendOk : Bool
  sendOk : Bool
  authorized : Bool
  deriving DecidableEq, Repr

inductive Halt where
  | failed | panicked
  deriving DecidableEq, Repr

structure Scene where
  now : Nat
  task : CaptureTask
  capture : InputCapture
  log : List Act

abbrev CaptureM := EStateM Halt Scene

namespace Scene

def withTask (s : Scene) (task : CaptureTask) : Scene := { s with task }

def withCapture (s : Scene) (capture : InputCapture) : Scene := { s with capture }

def record (s : Scene) (act : Act) : Scene := { s with log := s.log ++ [act] }

end Scene

def perform (act : Act) : CaptureM Unit := modify fun s => s.record act

def notify (event : ICaptureEvent) : CaptureM Unit := perform (.notify event)

def send (event : ProtoEvent) (handle : CaptureHandle) : CaptureM Unit := perform (.send event handle)

def updateTask (f : CaptureTask → CaptureTask) : CaptureM Unit := modify fun s => s.withTask (f s.task)

def setCapture (capture : InputCapture) : CaptureM Unit := modify fun s => s.withCapture capture

def backend (answers : Answers) : CaptureM Unit := unless answers.backendOk do throw .failed

/-- `capture.release()` -/
def releaseBackend (answers : Answers) : CaptureM Unit := do
  setCapture (← get).capture.release
  backend answers

/-- `get_pos` and `get_type`, which panic alike. -/
def getCapture (handle : CaptureHandle) : CaptureM (Position × CaptureType) := do
  match (← get).task.captures.find? (·.1 = handle) with
  | some (_, pos, type) => return (pos, type)
  | none => throw .panicked

def keyUp (code : Scancode) : ProtoEvent := .input (.keyboard (.key 0 code.toU32 0))

def modsZero : ProtoEvent := .input (.keyboard (.modifiers 0 0 0 0))

def takeClient : CaptureM (Option CaptureHandle × List Scancode) := do
  let s ← get
  updateTask fun t => { t with activeClient := none }
  match s.task.activeClient with
  | none => return (none, [])
  | some handle =>
    let (keys, capture) := s.capture.takePressedKeys
    setCapture capture
    return (some handle, keys)

def leaveClient (released : Option CaptureHandle) (keys : List Scancode)
    (reason : CaptureReleaseReason) : CaptureM Unit :=
  match released with
  | none => return
  | some handle => do
    updateTask fun t => { t with activePeerSessionEpoch := none }
    keys.forM fun key => send (keyUp key) handle
    send modsZero handle
    send (.leave 0) handle
    notify (.clientReleased handle reason)

/-- The local input is given back before the client is told. When that fails nothing
is told, and the client is forgotten all the same. -/
def releaseCapture (answers : Answers) (reason : CaptureReleaseReason) : CaptureM Unit := do
  let (released, keys) ← takeClient
  setCapture (← get).capture.release
  unless answers.backendOk do
    perform .released
    throw .failed
  leaveClient released keys reason
  perform .released

def requestCommitAuthorization (answers : Answers) (handle : CaptureHandle) (permit : CapturePermit) :
    CaptureM Bool := do
  notify (.commitRequested handle permit.leaseEpoch permit.peerSessionEpoch)
  perform (.decided permit answers.authorized)
  return answers.authorized

/-- A capture that begins at another client's edge asks the gate and then the service.
Tells whether the event is to be routed. -/
def admitBegin (answers : Answers) (handle : CaptureHandle) : CaptureM Bool := do
  let s ← get
  let (permit, gate) := s.task.gate.consume handle s.now
  updateTask fun t => { t with gate }
  match permit with
  | none =>
    releaseBackend answers
    notify (.captureCandidate handle)
    return false
  | some permit =>
    perform (.consumed permit)
    if ← requestCommitAuthorization answers handle permit then
      updateTask fun t => { t with
        state := .waitingForAck
        activeClient := some handle
        activePeerSessionEpoch := some permit.peerSessionEpoch }
      return true
    else
      releaseBackend answers
      notify (.commitDeniedReleased handle permit.leaseEpoch)
      return false

/-- The message that an event of the active client becomes. An edge that is retreated
from never gets here. -/
def routed (state : AckState) (opposite : Position) : CaptureEvent → Option ProtoEvent
  | .begin => some (.enter opposite)
  | .edgeRetreated => none
  | .input e => match state with
    | .waitingForAck => some (.enter opposite)
    | .sending => some (.input e)

def forward (answers : Answers) (handle : CaptureHandle) (pos : Position) (event : CaptureEvent) :
    CaptureM Unit := do
  match routed (← get).task.state pos.opposite event with
  | none => throw .panicked
  | some message =>
    send message handle
    unless answers.sendOk do
      releaseCapture answers .transportFailed

/-- The part of `handle_capture_event` for events that no release has answered. -/
def routeEvent (answers : Answers) (handle : CaptureHandle) (event : CaptureEvent) : CaptureM Unit := do
  let (pos, type) ← getCapture handle
  if type = .enterOnly then
    unless (← get).task.isDefaultCaptureAt pos do
      releaseBackend answers
    return
  if event = .begin ∧ (← get).task.activeClient ≠ some handle then
    unless ← admitBegin answers handle do return
  if (← get).task.activeClient ≠ some handle then
    releaseBackend answers
    return
  forward answers handle pos event

def handleCaptureEvent (answers : Answers) (handle : CaptureHandle) (event : CaptureEvent) :
    CaptureM Unit := do
  perform (.captured handle event)
  if event = .edgeRetreated then
    if (← get).task.activeClient = some handle then
      releaseCapture answers .localCaptureLost
    else
      notify (.edgeRetreated handle)
    return
  if (← get).capture.keysPressed (← get).task.releaseBind then
    releaseCapture answers .releaseBind
    return
  if event = .begin then
    notify (.captureBegin handle)
  routeEvent answers handle event

def handlePeerEvent (answers : Answers) (handle : CaptureHandle) (event : ProtoEvent) :
    CaptureM Unit := do
  let task := (← get).task
  if task.activeClient.any (· ≠ handle) then return
  match event with
  | .ack _ => updateTask fun t => { t with state := .sending }
  | .leave _ => releaseCapture answers .peerLeft
  | .readiness keyboardReady pointerReady sessionEpoch =>
    if task.activeClient = some handle ∧
        (keyboardReady = false ∨ pointerReady = false ∨
          task.activePeerSessionEpoch ≠ some sessionEpoch) then
      releaseCapture answers .peerReadinessLost
    notify (.peerReadiness handle)
  | .hello _ => notify (.peerReadiness handle)
  | .releaseRequest releaseEpoch =>
    if task.activeClient = some handle then
      notify (.peerReleaseStarted handle releaseEpoch)
    releaseCapture answers .peerReleaseRequested
    send (.releaseAck releaseEpoch) handle
  | .enter _ | .input _ | .ping | .pong _ | .releaseAck _ => return

def createBarrier (answers : Answers) (handle : CaptureHandle) (pos : Position) : CaptureM Unit := do
  match (← get).capture.create handle pos with
  | none => throw .panicked
  | some (capture, asked) =>
    setCapture capture
    if asked then backend answers

def destroyBarrier (answers : Answers) (handle : CaptureHandle) : CaptureM Unit := do
  match (← get).capture.destroy handle with
  | none => throw .panicked
  | some (capture, asked) =>
    setCapture capture
    if asked then backend answers

def handleRequest (answers : Answers) : CaptureRequest → CaptureM Unit
  | .reenable => return
  | .release completion => do
    updateTask fun t => { t with gate := t.gate.clear }
    try
      releaseCapture answers .serviceRequested
    catch halt =>
      if completion then perform (.completed false)
      throw halt
    if completion then perform (.completed true)
  | .create handle pos type => do
    updateTask fun t => t.addCapture handle pos type
    createBarrier answers handle pos
  | .destroy handle => do
    updateTask fun t => t.removeCapture handle
    destroyBarrier answers handle
  | .setReleaseBind releaseBind => updateTask fun t => { t with releaseBind }
  | .resumeIfFocused handle => do
    if handle ∈ (← get).capture.idMap then backend answers else throw .panicked

/-- What stops the creation of the barriers: an error of the backend, or the task being
cancelled before or after the current barrier was registered. -/
inductive Interrupt where
  | failed
  | cancelled (registered : Bool)
  deriving DecidableEq, Repr

/-- The barriers for the registered captures. `stop` counts those made before it. -/
def createCaptures (captures : List (CaptureHandle × Position × CaptureType))
    (stop : Option (Nat × Interrupt)) (c : InputCapture) : Except Halt InputCapture :=
  match captures, stop with
  | [], _ => .ok c
  | _ :: _, some (0, .cancelled false) => .ok c
  | (handle, pos, _) :: rest, stop =>
    match c.create handle pos with
    | none => .error .panicked
    | some (c, asked) => match stop with
      | none => createCaptures rest none c
      | some (n + 1, interrupt) => createCaptures rest (some (n, interrupt)) c
      | some (0, .cancelled _) => .ok c
      | some (0, .failed) => if asked then .error .failed else createCaptures rest none c

inductive Phase where
  | opening
  | capturing (capture : InputCapture)
  | idle
  | returned
  | panicked

structure Process where
  clock : Nat
  phase : Phase
  task : CaptureTask

/-- What happens next. The service changes the gate directly and everything else by
requests; a cancelled task may still take other branches of its loops first. -/
inductive Turn where
  | elapse (ns : Nat)
  | arm (handle : CaptureHandle) (leaseEpoch peerSessionEpoch : UInt64) (validFor : Nat)
  | disarm (leaseEpoch : UInt64)
  | clear
  | opened (stop : Option (Nat × Interrupt))
  | openFailed
  | poll (backend : Poll (Item (Position × CaptureEvent))) (answers : Answers)
  | receive (handle : CaptureHandle) (event : ProtoEvent) (answers : Answers)
  | request (request : CaptureRequest) (answers : Answers)
  | cancel
  deriving DecidableEq, Repr

namespace Process

def new (clock : Nat) (releaseBind : List Scancode) : Process := ⟨clock, .opening, .new releaseBind⟩

def withGate (p : Process) (gate : CaptureGate) : Process := { p with task := { p.task with gate } }

def finish (p : Process) (task : CaptureTask) (log : List Act) : Process × List Act :=
  ({ p with phase := .idle, task }, log ++ [.sessionEnded, .notify .captureDisabled])

def panic (p : Process) (task : CaptureTask) (log : List Act) : Process × List Act :=
  ({ p with phase := .panicked, task }, log ++ [.notify .captureDisabled])

def serve (p : Process) (capture : InputCapture) (turn : CaptureM Unit) : Process × List Act :=
  match turn ⟨p.clock, p.task, capture, []⟩ with
  | .ok _ s => ({ p with phase := .capturing s.capture, task := s.task }, s.log)
  | .error .failed s => p.finish s.task s.log
  | .error .panicked s => p.panic s.task s.log

def opened (p : Process) (stop : Option (Nat × Interrupt)) : Process × List Act :=
  match createCaptures p.task.captures stop .new with
  | .ok capture => ({ p with phase := .capturing capture }, [.notify .captureEnabled])
  | .error .failed => p.finish p.task [.notify .captureEnabled]
  | .error .panicked => p.panic p.task [.notify .captureEnabled]

def poll (p : Process) (capture : InputCapture) (backend : Poll (Item (Position × CaptureEvent)))
    (answers : Answers) : Process × List Act :=
  match capture.pollNext backend with
  | (capture, .pending) => ({ p with phase := .capturing capture }, [])
  | (_, .ready .closed) | (_, .ready .error) => p.finish p.task []
  | (capture, .ready (.value (handle, event))) =>
    p.serve capture (handleCaptureEvent answers handle event)

def idleRequest (p : Process) : CaptureRequest → Process × List Act
  | .reenable => ({ p with phase := .opening }, [])
  | .create handle pos type => ({ p with task := p.task.addCapture handle pos type }, [])
  | .destroy handle => ({ p with task := p.task.removeCapture handle }, [])
  | .release completion =>
    (p.withGate p.task.gate.clear, if completion then [.completed true] else [])
  | .setReleaseBind releaseBind => ({ p with task := { p.task with releaseBind } }, [])
  | .resumeIfFocused _ => (p, [])

def select (p : Process) (turn : Turn) : Option (Process × List Act) :=
  match p.phase, turn with
  | .opening, .opened stop => some (p.opened stop)
  | .opening, .openFailed | .opening, .cancel => some ({ p with phase := .idle }, [])
  | .capturing capture, .poll backend answers => some (p.poll capture backend answers)
  | .capturing capture, .receive handle event answers =>
    some (p.serve capture (handlePeerEvent answers handle event))
  | .capturing capture, .request request answers =>
    some (p.serve capture (handleRequest answers request))
  | .capturing _, .cancel => some (p.finish p.task [])
  | .idle, .request request _ => some (p.idleRequest request)
  | .idle, .cancel => some ({ p with phase := .returned }, [])
  | _, _ => none

def step (p : Process) : Turn → Option (Process × List Act)
  | .elapse ns => some ({ p with clock := p.clock + ns }, [])
  | .arm handle leaseEpoch peerSessionEpoch validFor =>
    some (p.withGate (p.task.gate.arm handle leaseEpoch peerSessionEpoch validFor p.clock).1, [])
  | .disarm leaseEpoch => some (p.withGate (p.task.gate.disarm leaseEpoch), [])
  | .clear => some (p.withGate p.task.gate.clear, [])
  | turn => p.select turn

end Process

def captureTask : Machine Process Turn (List Act) := ⟨Process.step⟩

def actsOf (trace : List (Entry Process Turn (List Act))) : List Act := trace.flatMap (·.output)

end DisplayMux.LanMouse
