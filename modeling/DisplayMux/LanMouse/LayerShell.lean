import DisplayMux.Lib.Except
import DisplayMux.LanMouse.EventQueue

/-! The capture backend for Wayland compositors with the layer shell. A thin window on each
outer edge gets the pointer's focus; the backend then locks the pointer and reports what
happens until the compositor takes the focus away. The compositor's events are dispatched
one by one; objects of the compositor are numbers that are never used twice. -/
namespace DisplayMux.LanMouse

structure Window where
  surface : Nat
  pos : Position
  deriving DecidableEq, Repr

structure OutputInfo where
  position : Int32 × Int32
  size : Int32 × Int32
  deriving DecidableEq, Repr

structure Output where
  name : UInt32
  info : Option OutputInfo
  pendingInfo : OutputInfo
  hasXdgInfo : Bool
  deriving DecidableEq, Repr

inductive PointerLockState where
  | released | pending | locked
  deriving DecidableEq, Repr

structure LayerShell where
  activePositions : List Position
  pointer : Bool
  pointerLock : Option Nat
  pointerLockState : PointerLockState
  pendingBegin : Option Position
  activeWindows : List Window
  focused : Option Window
  focusedSerial : Option UInt32
  pendingEvents : List QueuedEvent
  outputs : List Output
  scrollDiscretePending : Bool
  nextObject : Nat
  /-- A call of `resume_if_focused` waits for its roundtrip. -/
  resuming : Bool
  deriving DecidableEq, Repr

open LayerShell

/-- The lookups that end the program when they find nothing. -/
inductive LayerShellPanic where
  | focused | output
  deriving DecidableEq, Repr

inductive WaylandEvent where
  | capabilities (pointer : Bool)
  | enter (serial : UInt32) (surface : Nat)
  | leave
  | button (time button state : UInt32)
  | axis (time axis : UInt32) (value : UInt64)
  | axisValue120 (axis : UInt32) (value120 : Int32)
  | key (time key state : UInt32)
  | modifiers (depressed latched locked group : UInt32)
  | relativeMotion (utimeHi utimeLo : UInt32) (dx dy : UInt64)
  | locked (lock : Nat)
  | unlocked (lock : Nat)
  | global (name : UInt32) (isOutput : Bool)
  | globalRemove (name : UInt32)
  | logicalPosition (name : UInt32) (x y : Int32)
  | logicalSize (name : UInt32) (width height : Int32)
  /-- The name or the description of an output, which are only logged. -/
  | described (name : UInt32)
  | outputDone (name : UInt32)
  deriving DecidableEq, Repr

def CaptureEvent.isInput : CaptureEvent → Bool
  | .input _ => true
  | _ => false

def OutputInfo.edge (info : OutputInfo) : Position → Int32
  | .left => info.position.1
  | .right => info.position.1 + info.size.1
  | .top => info.position.2
  | .bottom => info.position.2 + info.size.2

def getEdges (outputs : List Output) (pos : Position) : List (Output × Int32) :=
  outputs.filterMap fun output => output.info.map fun info => (output, info.edge pos)

/-- The outputs whose edge does not touch another output. -/
def getOutputConfiguration (outputs : List Output) (pos : Position) : List Output :=
  let oppositeEdges := getEdges outputs pos.opposite
  ((getEdges outputs pos).filter fun (_, edge) => !oppositeEdges.any fun (_, e) => e = edge).map (·.1)

/-- `Begin` goes before what was already reported for its position. -/
def queueConfirmedBegin (pendingEvents : List QueuedEvent) (pos : Position) : List QueuedEvent :=
  let other (e : QueuedEvent) : Bool := !(e.1 = pos && e.2.isInput)
  pendingEvents.takeWhile other ++ (pos, .begin) :: pendingEvents.dropWhile other

namespace LayerShell

def new : LayerShell where
  activePositions := []
  pointer := false
  pointerLock := none
  pointerLockState := .released
  pendingBegin := none
  activeWindows := []
  focused := none
  focusedSerial := none
  pendingEvents := []
  outputs := []
  scrollDiscretePending := false
  nextObject := 0
  resuming := false

def createWindow (s : LayerShell) (pos : Position) : LayerShell :=
  { s with activeWindows := s.activeWindows ++ [⟨s.nextObject, pos⟩], nextObject := s.nextObject + 1 }

def addClient (s : LayerShell) (pos : Position) : LayerShell :=
  (getOutputConfiguration s.outputs pos).foldl
    (fun s output => if output.info.isSome then s.createWindow pos else s)
    { s with activePositions := s.activePositions.insert pos }

/-- The focus goes with any window that is removed. -/
def deleteClient (s : LayerShell) (pos : Position) : LayerShell :=
  { s with
    activePositions := s.activePositions.erase pos
    activeWindows := s.activeWindows.filter (·.pos ≠ pos)
    focused := if s.activeWindows.any (·.pos = pos) then none else s.focused }

def updateWindows (s : LayerShell) : LayerShell :=
  s.activePositions.foldl addClient { s with activeWindows := [] }

def onOutput (s : LayerShell) (name : UInt32) (f : Output → Output) : Except LayerShellPanic LayerShell :=
  match s.outputs.findIdx? (·.name = name) with
  | some i => .ok { s with outputs := s.outputs.modify i f }
  | none => .error .output

def updateOutputInfo (s : LayerShell) (name : UInt32) : Except LayerShellPanic LayerShell := do
  let updated ← s.onOutput name fun o => if o.hasXdgInfo then { o with info := some o.pendingInfo } else o
  pure <| if (s.outputs.find? (·.name = name)).any (·.hasXdgInfo) then updated.updateWindows else updated

def focusedWindow (s : LayerShell) : Except LayerShellPanic Window :=
  match s.focused with
  | some window => .ok window
  | none => .error .focused

def lockPointer (s : LayerShell) : LayerShell :=
  if s.pointerLock.isNone then
    { s with
      pointerLockState := .pending
      pointerLock := some s.nextObject
      nextObject := s.nextObject + 1 }
  else s

def grab (s : LayerShell) : Except LayerShellPanic LayerShell := do
  let _ ← s.focusedWindow
  pure s.lockPointer

def beginWhenPointerLocked (s : LayerShell) (pos : Position) : LayerShell :=
  if s.pointerLockState = .locked then
    { s with pendingEvents := queueConfirmedBegin s.pendingEvents pos }
  else { s with pendingBegin := some pos }

def pointerLocked (s : LayerShell) : LayerShell :=
  let s' := { s with pointerLockState := .locked, pendingBegin := none }
  match s.pendingBegin with
  | some pos => { s' with pendingEvents := queueConfirmedBegin s.pendingEvents pos }
  | none => s'

/-- Without a focus nothing is given back. -/
def ungrab (s : LayerShell) : LayerShell :=
  match s.focused with
  | some _ => { s with pointerLock := none, pointerLockState := .released, pendingBegin := none }
  | none => s

def pushBack (s : LayerShell) (pos : Position) (event : CaptureEvent) : LayerShell :=
  { s with pendingEvents := s.pendingEvents ++ [(pos, event)] }

def enter (s : LayerShell) (serial : UInt32) (surface : Nat) : Except LayerShellPanic LayerShell :=
  match s.activeWindows.find? (·.surface = surface) with
  | some window => do
    let s ← { s with focused := some window, focusedSerial := some serial }.grab
    pure (s.beginWhenPointerLocked window.pos)
  | none => .ok s

def leave (s : LayerShell) : LayerShell :=
  let left := { s.ungrab with focused := none, focusedSerial := none }
  match s.focused with
  | some window => left.pushBack window.pos .edgeRetreated
  | none => left

def unlocked (s : LayerShell) : LayerShell :=
  match s.focused with
  | some window =>
    let kept := s.pendingEvents.filter (· ≠ (window.pos, CaptureEvent.begin))
    { s.ungrab with pendingEvents := kept }.pushBack window.pos .edgeRetreated
  | none => s.ungrab

/-- The keyboard and the relative pointer report only while a window has the focus. -/
def whileFocused (s : LayerShell) (event : Event) : LayerShell :=
  match s.focused with
  | some window => s.pushBack window.pos (.input event)
  | none => s

def dispatch (s : LayerShell) : WaylandEvent → Except LayerShellPanic LayerShell
  | .capabilities pointer => .ok (if pointer then { s with pointer := true } else s)
  | .enter serial surface => s.enter serial surface
  | .leave => .ok s.leave
  | .button time button state => do
    let window ← s.focusedWindow
    pure (s.pushBack window.pos (.input (.pointer (.button time button state))))
  | .axis time axis value => do
    let window ← s.focusedWindow
    -- the event that accompanies a discrete one
    pure <| if s.scrollDiscretePending then { s with scrollDiscretePending := false }
      else s.pushBack window.pos (.input (.pointer (.axis time axis.toUInt8 value)))
  | .axisValue120 axis value120 => do
    let window ← s.focusedWindow
    let s := { s with scrollDiscretePending := true }
    pure (s.pushBack window.pos (.input (.pointer (.axisDiscrete120 axis.toUInt8 value120))))
  | .key time key state => .ok (s.whileFocused (.keyboard (.key time key state.toUInt8)))
  | .modifiers depressed latched locked group =>
    .ok (s.whileFocused (.keyboard (.modifiers depressed latched locked group)))
  | .relativeMotion utimeHi utimeLo dx dy =>
    let time := ((utimeHi.toUInt64 <<< 32 ||| utimeLo.toUInt64) / 1000).toUInt32
    .ok (s.whileFocused (.pointer (.motion time dx dy)))
  | .locked lock => .ok (if s.pointerLock = some lock then s.pointerLocked else s)
  | .unlocked lock => .ok (if s.pointerLock = some lock then s.unlocked else s)
  | .global name isOutput =>
    .ok (if isOutput then { s with outputs := s.outputs ++ [⟨name, none, ⟨(0, 0), (0, 0)⟩, false⟩] } else s)
  | .globalRemove name => .ok { s with outputs := s.outputs.filter (·.name ≠ name) }
  | .logicalPosition name x y =>
    s.onOutput name fun o => { o with pendingInfo.position := (x, y), hasXdgInfo := true }
  | .logicalSize name width height =>
    s.onOutput name fun o => { o with pendingInfo.size := (width, height), hasXdgInfo := true }
  | .described name => s.onOutput name fun o => { o with hasXdgInfo := true }
  | .outputDone name => s.updateOutputInfo name

end LayerShell

inductive LayerShellCall where
  | create (pos : Position)
  | destroy (pos : Position)
  | release
  | resumeIfFocused (pos : Position)
  /-- The roundtrip of the resumption is over, or it failed. -/
  | roundtrip (failed : Bool)
  | dispatch (event : WaylandEvent)
  | pollNext
  deriving DecidableEq, Repr

open LayerShellCall

inductive LayerShellReply where
  | done
  | resumed (resumed : Bool)
  | yielded (event : QueuedEvent)
  deriving DecidableEq, Repr

namespace LayerShell

def handle (s : LayerShell) : LayerShellCall → Except LayerShellPanic (LayerShell × LayerShellReply)
  | .create pos => .ok (s.addClient pos, .done)
  | .destroy pos => .ok (s.deleteClient pos, .done)
  | .release => .ok (s.ungrab, .done)
  | .resumeIfFocused pos =>
    if s.focused.map (·.pos) = some pos ∧ s.pointer = true ∧ s.focusedSerial.isSome then do
      let s ← s.grab
      pure ({ s.beginWhenPointerLocked pos with resuming := true }, .done)
    else .ok (s, .resumed false)
  | .roundtrip failed =>
    if failed then .ok ({ s with resuming := false }, .done)
    else if s.pointerLockState = .locked then .ok ({ s with resuming := false }, .resumed true)
    else .ok ({ s.ungrab with resuming := false }, .resumed false)
  | .dispatch event => (s.dispatch event).map fun s => (s, .done)
  | .pollNext =>
    match s.pendingEvents with
    | event :: rest => .ok ({ s with pendingEvents := rest }, .yielded event)
    | [] => .ok (s, .done)

/-- A resumption keeps the backend to itself; only the compositor speaks meanwhile. -/
def admits (s : LayerShell) : LayerShellCall → Bool
  | .dispatch _ => true
  | .roundtrip _ => s.resuming
  | _ => !s.resuming

end LayerShell

/-- The backend under any calls and any events, up to the first panic. The source dispatches
in `poll_next` and in the roundtrip only; here it may do so at any time. -/
def layerShell : Machine LayerShell LayerShellCall LayerShellReply where
  step s call := if s.admits call then (s.handle call).toOption else none

abbrev LayerShellEntry := Entry LayerShell LayerShellCall LayerShellReply

namespace LayerShell

variable {s s' t : LayerShell} {call : LayerShellCall} {reply : LayerShellReply}

theorem handle_of_step (step : layerShell.step s call = some (s', reply)) :
    s.handle call = .ok (s', reply) := by
  simp only [layerShell] at step
  split at step
  · cases handled : s.handle call with
    | error panic => simp [handled, Except.toOption] at step
    | ok result => simpa [handled, Except.toOption] using step
  · contradiction

def Rearranges (s s' : LayerShell) : Prop :=
  ∃ positions windows outputs next, s' = { s with
    activePositions := positions, activeWindows := windows, outputs, nextObject := next }

theorem Rearranges.trans (first : s.Rearranges s') (second : s'.Rearranges t) : s.Rearranges t := by
  obtain ⟨_, _, _, _, rfl⟩ := first
  obtain ⟨_, _, _, _, rfl⟩ := second
  exact ⟨_, _, _, _, rfl⟩

theorem addClient_rearranges (s : LayerShell) (pos : Position) : s.Rearranges (s.addClient pos) := by
  refine List.foldlRecOn _ _ ⟨_, _, _, _, rfl⟩ ?_
  intro t before output _
  split
  · exact before.trans ⟨_, _, _, _, rfl⟩
  · exact before

theorem onOutput_rearranges {name : UInt32} {f : Output → Output} (found : s.onOutput name f = .ok s') :
    s.Rearranges s' := by
  unfold onOutput at found
  split at found
  · cases found
    exact ⟨_, _, _, _, rfl⟩
  · contradiction

theorem updateOutputInfo_rearranges {name : UInt32} (updated : s.updateOutputInfo name = .ok s') :
    s.Rearranges s' := by
  obtain ⟨t, found, rest⟩ := bind_ok.mp updated
  obtain rfl := pure_ok.mp rest
  have before := onOutput_rearranges found
  split
  · refine before.trans (List.foldlRecOn _ _ ⟨_, _, _, _, rfl⟩ ?_)
    exact fun u first pos _ => first.trans (u.addClient_rearranges pos)
  · exact before

def refocused (s : LayerShell) : LayerShellCall → Option Window
  | .dispatch (.enter _ surface) => (s.activeWindows.find? (·.surface = surface)).or s.focused
  | .dispatch .leave => none
  | .destroy pos => if s.activeWindows.any (·.pos = pos) then none else s.focused
  | _ => s.focused

/-- The calls that give back the lock. -/
def surrenders (s : LayerShell) (call : LayerShellCall) : Bool :=
  s.focused.isSome && match call with
    | .release | .dispatch .leave => true
    | .dispatch (.unlocked lock) => s.pointerLock = some lock
    | .roundtrip failed => !failed && s.pointerLockState ≠ .locked
    | _ => false

inductive LockTurn (s : LayerShell) (call : LayerShellCall) (s' : LayerShell) : Prop where
  | kept (lock : s'.pointerLock = s.pointerLock) (state : s'.pointerLockState = s.pointerLockState)
  | confirmed (held : s.pointerLock ≠ none) (lock : s'.pointerLock = s.pointerLock)
      (state : s'.pointerLockState = .locked)
  | taken (free : s.pointerLock = none) (lock : s'.pointerLock ≠ none)
      (state : s'.pointerLockState = .pending)
  | dropped (given : s.surrenders call = true) (lock : s'.pointerLock = none)
      (state : s'.pointerLockState = .released)

inductive QueueTurn (s : LayerShell) (call : LayerShellCall) (s' : LayerShell) : LayerShellReply → Prop where
  | same (reply : LayerShellReply) (silent : ∀ event, reply ≠ .yielded event)
      (events : s'.pendingEvents = s.pendingEvents) : QueueTurn s call s' reply
  | reported (pos : Position) (event : CaptureEvent) (other : event ≠ .begin)
      (events : s'.pendingEvents = s.pendingEvents ++ [(pos, event)]) : QueueTurn s call s' .done
  | struck (given : s.surrenders call = true) (pos : Position) (events : s'.pendingEvents =
      s.pendingEvents.filter (· ≠ (pos, .begin)) ++ [(pos, .edgeRetreated)]) : QueueTurn s call s' .done
  | begun (pos : Position) (locked : s'.pointerLockState = .locked)
      (events : s'.pendingEvents = queueConfirmedBegin s.pendingEvents pos) : QueueTurn s call s' .done
  | yielded (polled : call = .pollNext) (event : QueuedEvent)
      (events : s.pendingEvents = event :: s'.pendingEvents) : QueueTurn s call s' (.yielded event)

structure Does (s : LayerShell) (call : LayerShellCall) (reply : LayerShellReply) (s' : LayerShell) :
    Prop where
  focus : s'.focused = s.refocused call
  lock : LockTurn s call s'
  queue : QueueTurn s call s' reply

theorem Rearranges.does (rearranges : s.Rearranges s') (focus : s.refocused call = s.focused) :
    Does s call .done s' := by
  obtain ⟨_, _, _, _, rfl⟩ := rearranges
  exact ⟨focus.symm, .kept rfl rfl, .same _ nofun rfl⟩

theorem ungrab_does (s : LayerShell) (resuming : Bool) (focus : s.refocused call = s.focused)
    (given : s.focused.isSome = true → s.surrenders call = true)
    (silent : ∀ event, reply ≠ .yielded event) : Does s call reply { s.ungrab with resuming } := by
  unfold ungrab
  split
  · rename_i focused
    exact ⟨focus.symm, .dropped (given (by simp [focused])) rfl rfl, .same _ silent rfl⟩
  · exact ⟨focus.symm, .kept rfl rfl, .same _ silent rfl⟩

theorem grab_does {focused : Option Window} {serial : Option UInt32} {pos : Position}
    (grabbed : { s with focused, focusedSerial := serial }.grab = .ok t) (resuming : Bool)
    (focus : s.refocused call = focused) :
    Does s call .done { t.beginWhenPointerLocked pos with resuming } := by
  obtain ⟨_, -, locked⟩ := bind_ok.mp grabbed
  obtain rfl := pure_ok.mp locked
  by_cases free : s.pointerLock = none
  · rw [lockPointer, if_pos (by simp [free])]
    exact ⟨focus.symm, .taken free nofun rfl, .same _ nofun rfl⟩
  rw [lockPointer, if_neg (by simpa using free), beginWhenPointerLocked]
  split
  · rename_i already
    exact ⟨focus.symm, .kept rfl rfl, .begun pos already rfl⟩
  · exact ⟨focus.symm, .kept rfl rfl, .same _ nofun rfl⟩

theorem leave_does (s : LayerShell) : Does s (.dispatch .leave) .done s.leave := by
  unfold leave ungrab
  split
  · rename_i focused
    exact ⟨rfl, .dropped (by simp [surrenders, focused]) rfl rfl, .reported _ .edgeRetreated nofun rfl⟩
  · exact ⟨rfl, .kept rfl rfl, .same _ nofun rfl⟩

theorem unlocked_does {lock : Nat} (held : s.pointerLock = some lock) :
    Does s (.dispatch (.unlocked lock)) .done s.unlocked := by
  unfold unlocked ungrab
  split
  · rename_i focused
    have given : s.surrenders (.dispatch (.unlocked lock)) = true := by simp [surrenders, focused, held]
    exact ⟨rfl, .dropped given rfl rfl, .struck given _ rfl⟩
  · exact ⟨rfl, .kept rfl rfl, .same _ nofun rfl⟩

theorem pointerLocked_does {lock : Nat} (held : s.pointerLock = some lock) :
    Does s (.dispatch (.locked lock)) .done s.pointerLocked := by
  have some : s.pointerLock ≠ none := by simp [held]
  unfold pointerLocked
  split
  · exact ⟨rfl, .confirmed some rfl rfl, .begun _ rfl rfl⟩
  · exact ⟨rfl, .confirmed some rfl rfl, .same _ nofun rfl⟩

theorem whileFocused_does (s : LayerShell) (event : Event) (focus : s.refocused call = s.focused) :
    Does s call .done (s.whileFocused event) := by
  unfold whileFocused
  split
  · exact ⟨focus.symm, .kept rfl rfl, .reported _ (.input event) nofun rfl⟩
  · exact ⟨focus.symm, .kept rfl rfl, .same _ nofun rfl⟩

theorem dispatch_does {event : WaylandEvent} (dispatched : s.dispatch event = .ok s') :
    Does s (.dispatch event) .done s' := by
  cases event with
  | enter serial surface =>
    simp only [dispatch, enter] at dispatched
    split at dispatched
    · rename_i window found
      obtain ⟨t, grabbed, rest⟩ := bind_ok.mp dispatched
      obtain rfl := pure_ok.mp rest
      exact grab_does grabbed _ (by simp [refocused, found])
    · rename_i absent
      cases dispatched
      exact ⟨by simp [refocused, absent], .kept rfl rfl, .same _ nofun rfl⟩
  | leave =>
    cases dispatched
    exact s.leave_does
  | button | axisValue120 =>
    obtain ⟨window, -, rest⟩ := bind_ok.mp dispatched
    obtain rfl := pure_ok.mp rest
    exact ⟨rfl, .kept rfl rfl, .reported _ (.input _) nofun rfl⟩
  | axis =>
    obtain ⟨window, -, rest⟩ := bind_ok.mp dispatched
    obtain rfl := pure_ok.mp rest
    split
    · exact ⟨rfl, .kept rfl rfl, .same _ nofun rfl⟩
    · exact ⟨rfl, .kept rfl rfl, .reported _ (.input _) nofun rfl⟩
  | key | modifiers | relativeMotion =>
    cases dispatched
    exact s.whileFocused_does _ rfl
  | locked lock =>
    cases dispatched
    split
    · rename_i held
      exact pointerLocked_does held
    · exact ⟨rfl, .kept rfl rfl, .same _ nofun rfl⟩
  | unlocked lock =>
    cases dispatched
    split
    · rename_i held
      exact unlocked_does held
    · exact ⟨rfl, .kept rfl rfl, .same _ nofun rfl⟩
  | logicalPosition | logicalSize | described => exact (onOutput_rearranges dispatched).does rfl
  | outputDone => exact (updateOutputInfo_rearranges dispatched).does rfl
  | capabilities | global =>
    cases dispatched
    split <;> exact ⟨rfl, .kept rfl rfl, .same _ nofun rfl⟩
  | globalRemove =>
    cases dispatched
    exact ⟨rfl, .kept rfl rfl, .same _ nofun rfl⟩

theorem handle_does (handled : s.handle call = .ok (s', reply)) : Does s call reply s' := by
  cases call with
  | create pos =>
    cases handled
    exact (s.addClient_rearranges pos).does rfl
  | destroy pos =>
    cases handled
    exact ⟨rfl, .kept rfl rfl, .same _ nofun rfl⟩
  | release =>
    cases handled
    exact s.ungrab_does s.ungrab.resuming rfl (by simp [surrenders]) nofun
  | resumeIfFocused pos =>
    simp only [handle] at handled
    split at handled
    · obtain ⟨t, grabbed, rest⟩ := bind_ok.mp handled
      cases rest
      exact grab_does grabbed true rfl
    · cases handled
      exact ⟨rfl, .kept rfl rfl, .same _ nofun rfl⟩
  | roundtrip failed =>
    simp only [handle] at handled
    split at handled
    · cases handled
      exact ⟨rfl, .kept rfl rfl, .same _ nofun rfl⟩
    split at handled
    · cases handled
      exact ⟨rfl, .kept rfl rfl, .same _ nofun rfl⟩
    · rename_i working unconfirmed
      cases handled
      exact s.ungrab_does false rfl (by simp [surrenders, working, unconfirmed]) nofun
  | dispatch event =>
    obtain ⟨t, dispatched, same⟩ := map_ok.mp handled
    cases same
    exact dispatch_does dispatched
  | pollNext =>
    simp only [handle] at handled
    split at handled
    · rename_i event rest queued
      cases handled
      exact ⟨rfl, .kept rfl rfl, .yielded rfl event queued⟩
    · cases handled
      exact ⟨rfl, .kept rfl rfl, .same _ nofun rfl⟩

theorem focusedWindow_error : s.focusedWindow = .error .focused ↔ s.focused = none := by
  unfold focusedWindow
  cases s.focused <;> simp

theorem grab_error : s.grab = .error .focused ↔ s.focused = none := by
  rw [grab, bind_error, focusedWindow_error]
  simp [pure, Except.pure]

theorem onOutput_error {name : UInt32} {f : Output → Output} : s.onOutput name f ≠ .error .focused := by
  unfold onOutput
  split <;> simp

theorem enter_error {serial : UInt32} {surface : Nat} : s.enter serial surface ≠ .error .focused := by
  unfold enter
  split
  · simp [bind_error, grab_error, pure, Except.pure]
  · simp

end LayerShell

def LayerShellCall.unwraps : LayerShellCall → Bool
  | .dispatch (.button ..) | .dispatch (.axis ..) | .dispatch (.axisValue120 ..) => true
  | _ => false

theorem LayerShell.handle_error {s : LayerShell} {call : LayerShellCall} :
    s.handle call = .error .focused ↔ call.unwraps = true ∧ s.focused = none := by
  cases call with
  | resumeIfFocused pos =>
    simp only [handle, unwraps]
    split
    · rename_i focused
      simp only [bind_error, grab_error]
      have some : s.focused ≠ none := by
        intro none
        simp [none] at focused
      simp [some, pure, Except.pure]
    · simp
  | roundtrip failed =>
    simp only [handle, unwraps]
    split
    · simp
    · split <;> simp
  | pollNext =>
    simp only [handle, unwraps]
    split <;> simp
  | create | destroy | release => simp [handle, unwraps]
  | dispatch event =>
    rw [handle, map_error]
    cases event with
    | button | axis | axisValue120 =>
      simp [dispatch, bind_error, focusedWindow_error, pure, Except.pure, unwraps]
    | enter => simp [dispatch, enter_error, unwraps]
    | outputDone =>
      simp [dispatch, updateOutputInfo, bind_error, onOutput_error, pure, Except.pure, unwraps]
    | logicalPosition | logicalSize | described => simp [dispatch, onOutput_error, unwraps]
    | _ => simp [dispatch, unwraps]

namespace LayerShellEntry

def Enters (e : LayerShellEntry) : Prop :=
  ∃ serial surface, e.input = .dispatch (.enter serial surface) ∧
    ∃ window ∈ e.pre.activeWindows, window.surface = surface

/-- The pointer leaves, or a position that has windows is destroyed. -/
def Unfocuses (e : LayerShellEntry) : Prop :=
  e.input = .dispatch .leave ∨
    ∃ pos, e.input = .destroy pos ∧ ∃ window ∈ e.pre.activeWindows, window.pos = pos

theorem refocused_iff (e : LayerShellEntry) :
    e.pre.refocused e.input ≠ none ↔ e.Enters ∨ e.pre.focused ≠ none ∧ ¬ e.Unfocuses := by
  obtain ⟨s, call, reply, s'⟩ := e
  simp only [Enters, Unfocuses]
  cases call with
  | destroy pos => simp [refocused, and_comm, eq_comm (a := pos)]
  | dispatch event =>
    cases event with
    | enter serial surface => simp [refocused, imp_iff_not_or, or_comm, and_comm,
        eq_comm (a := surface)]
    | _ => simp [refocused]
  | _ => simp [refocused]

end LayerShellEntry

/-- A window got the pointer and nothing has taken the focus since. -/
def FocusHeld : List LayerShellEntry → Prop := Since (fun _ e => e.Enters) (¬ ·.Unfocuses)

theorem focused_iff_held {trace : List LayerShellEntry} {s : LayerShell}
    (run : Run layerShell .new trace s) : s.focused ≠ none ↔ FocusHeld trace := by
  refine run.history (P := fun trace s => s.focused ≠ none ↔ FocusHeld trace) ?_ ?_
  · simp [new, FocusHeld, Since]
  · intro trace s call s' reply _ ih step
    rw [(handle_does (handle_of_step step)).focus,
      LayerShellEntry.refocused_iff ⟨s, call, reply, s'⟩, ih]
    constructor
    · rintro (enters | ⟨held, kept⟩)
      · exact .now enters
      · exact held.later kept
    · exact Since.of_snoc

/-- The handlers look up an absent focus exactly when a button or a scroll event comes while
no window holds the focus. -/
theorem panics_iff_unfocused {trace : List LayerShellEntry} {s : LayerShell}
    (run : Run layerShell .new trace s) (call : LayerShellCall) :
    s.handle call = .error .focused ↔ call.unwraps = true ∧ ¬ FocusHeld trace := by
  rw [handle_error, ← focused_iff_held run, ne_eq, not_not]

def enteringLeft : List LayerShellCall :=
  [.dispatch (.capabilities true), .dispatch (.global 1 true), .dispatch (.logicalSize 1 1920 1080),
    .dispatch (.outputDone 1), .create .left, .dispatch (.enter 7 0)]

theorem entered_window_takes_button : ∃ trace s, Run layerShell .new trace s ∧
    trace.map (·.input) = enteringLeft ∧ s.handle (.dispatch (.button 0 272 1)) ≠ .error .focused := by
  obtain ⟨trace, s, run, inputs, focused⟩ := layerShell.exists_run_on .new enteringLeft
    (fun _ s => s.focused ≠ none) (by decide)
  refine ⟨trace, s, run, inputs, fun panics => ?_⟩
  have unfocused := ((panics_iff_unfocused run _).mp panics).2
  exact unfocused ((focused_iff_held run).mp focused)

/-- The position is destroyed while its window has the pointer, and a button is pressed before
the compositor sends the leave. -/
theorem destroyed_window_panics : ∃ trace s, Run layerShell .new trace s ∧
    trace.map (·.input) = enteringLeft ++ [.destroy .left] ∧ (∃ e ∈ trace, LayerShellEntry.Enters e) ∧
    s.handle (.dispatch (.button 0 272 1)) = .error .focused := by
  obtain ⟨trace, s, run, inputs, ⟨e, member, entered, windows⟩, panics⟩ :=
    layerShell.exists_run_on .new (enteringLeft ++ [.destroy .left])
      (fun trace s => (∃ e ∈ trace, e.input = .dispatch (.enter 7 0) ∧
        ∃ window ∈ e.pre.activeWindows, window.surface = 0) ∧
        s.handle (.dispatch (.button 0 272 1)) = .error .focused) (by decide)
  exact ⟨trace, s, run, inputs, ⟨e, member, 7, 0, entered, windows⟩, panics⟩

end DisplayMux.LanMouse
