import DisplayMux.LanMouse.EventQueue

/-! The thread behind the capture under Windows. Its hooks see every movement of the pointer
and decide when it crosses an edge of the screen; requests of the capture arrive in between.
A released edge stays blocked until the pointer has moved away from it. Coordinates wrap as
in a release build. -/
namespace DisplayMux.LanMouse

abbrev Point := Int32 × Int32

structure Rect where
  left : Int32
  right : Int32
  top : Int32
  bottom : Int32
  deriving DecidableEq, Repr

def barriers : List Position := [.left, .right, .top, .bottom]

def isWithinDpBoundary (point : Point) (display : Rect) : Position → Bool
  | .left => display.left ≤ point.1
  | .right => display.right > point.1
  | .top => display.top ≤ point.2
  | .bottom => display.bottom > point.2

def isWithinDpRegion (point : Point) (display : Rect) : Bool :=
  barriers.all (isWithinDpBoundary point display)

def inBounds (point : Point) (displays : List Rect) (pos : Position) : Bool :=
  displays.any (isWithinDpBoundary point · pos)

def inDisplayRegion (point : Point) (displays : List Rect) : Bool :=
  displays.any (isWithinDpRegion point)

def movedAcrossBoundary (prevPos currPos : Point) (displays : List Rect) (pos : Position) : Bool :=
  inDisplayRegion prevPos displays && !inBounds currPos displays pos

def enteredBarrier (prevPos currPos : Point) (displays : List Rect) : Option Position :=
  barriers.find? (movedAcrossBoundary prevPos currPos displays)

/-- `none` when the bounds are out of order, which panics. -/
def clamp (x min max : Int32) : Option Int32 :=
  if min ≤ max then some (if x < min then min else if max < x then max else x) else none

/-- `none` when no display is found, or one of the two panics. -/
def clampToDisplayBounds (displays : List Rect) (prevPoint point : Point) : Option Point := do
  let display ← displays.find? (isWithinDpRegion prevPoint)
  let x ← clamp point.1 display.left (display.right - 1)
  let y ← clamp point.2 display.top (display.bottom - 1)
  return (x, y)

def edgeRearmDistance : Int32 := 3

def edgeRetreatObserved (position : Position) (entry previous current : Point) : Bool :=
  match position with
  | .left => current.1 ≥ entry.1 + edgeRearmDistance && current.1 > previous.1
  | .right => current.1 ≤ entry.1 - edgeRearmDistance && current.1 < previous.1
  | .top => current.2 ≥ entry.2 + edgeRearmDistance && current.2 > previous.2
  | .bottom => current.2 ≤ entry.2 - edgeRearmDistance && current.2 < previous.2

structure HookThread where
  clients : List Position
  activeClient : Option Position
  rearmClient : Option Position
  entryPoint : Point
  prevPos : Option Point
  displays : List Rect
  generation : Int32
  displayResolutionGeneration : Int32
  deriving DecidableEq, Repr

/-- Who moved the pointer: the user, this program for a remote peer, or another program. -/
inductive MouseSource where
  | user | lanMouse | foreign
  deriving DecidableEq, Repr

/-- A message of the thread. The display list is what the system would enumerate, the event
what the hook's data translates to, and the outcome that of the one push a message can make. -/
inductive HookCall where
  | create (pos : Position)
  | destroy (pos : Position)
  | release
  | resumeIfFocused (pos : Position) (outcome : PushOutcome)
  | displayChange
  | mouse (source : MouseSource) (moved : Option Point) (event : Option PointerEvent)
      (enumerated : List Rect) (outcome : PushOutcome)
  | keyboard (injected : Bool) (event : Option KeyboardEvent) (outcome : PushOutcome)
  deriving DecidableEq, Repr

abbrev Pushed := Option (QueuedEvent × PushOutcome)

namespace HookThread

def new : HookThread where
  clients := []
  activeClient := none
  rearmClient := none
  entryPoint := (0, 0)
  prevPos := none
  displays := []
  generation := 0
  displayResolutionGeneration := 1

def updateDisplayRegions (s : HookThread) (enumerated : List Rect) : HookThread :=
  if s.generation ≠ s.displayResolutionGeneration then
    { s with displays := enumerated, generation := s.displayResolutionGeneration }
  else s

/-- Also whether a client was active before. -/
def checkClientActivation (s : HookThread) (moved : Option Point) (enumerated : List Rect)
    (outcome : PushOutcome) : Option (HookThread × Bool × Pushed) :=
  match moved with
  | none => some (s, s.activeClient.isSome, none)
  | some currPos =>
    let prevPos := s.prevPos.getD currPos
    let s := { s with prevPos := some currPos }
    if s.activeClient.isSome then some (s, true, none)
    else match s.rearmClient with
    | some pos =>
      if edgeRetreatObserved pos s.entryPoint prevPos currPos then
        let s := if outcome = .queued then { s with rearmClient := none } else s
        some (s, false, some ((pos, .edgeRetreated), outcome))
      else some (s, false, none)
    | none =>
      let s := s.updateDisplayRegions enumerated
      match enteredBarrier prevPos currPos s.displays with
      | none => some (s, false, none)
      | some pos =>
        if pos ∉ s.clients then some (s, false, none)
        else do
          let entryPoint ← clampToDisplayBounds s.displays prevPos currPos
          let activeClient := if outcome = .overflow then none else some pos
          some ({ s with activeClient, entryPoint }, false, some ((pos, .begin), outcome))

/-- An input for the active client, which stops being active when the queue overflows. -/
def sendInput (s : HookThread) (pos : Position) (event : Event) (outcome : PushOutcome) :
    HookThread × Pushed :=
  (if outcome = .overflow then { s with activeClient := none } else s, some ((pos, .input event), outcome))

def mouseProc (s : HookThread) (source : MouseSource) (moved : Option Point) (event : Option PointerEvent)
    (enumerated : List Rect) (outcome : PushOutcome) : Option (HookThread × Pushed) :=
  if source = .foreign ∨ source = .lanMouse ∧ moved = none then some (s, none)
  else do
    let (s, active, pushed) ← s.checkClientActivation moved enumerated outcome
    if source = .lanMouse ∨ active = false then return (s, pushed)
    match s.activeClient, event with
    | some pos, some event => return s.sendInput pos (.pointer event) outcome
    | _, _ => return (s, pushed)

def kybrdProc (s : HookThread) (injected : Bool) (event : Option KeyboardEvent) (outcome : PushOutcome) :
    HookThread × Pushed :=
  if injected then (s, none)
  else match s.activeClient, event with
  | some client, some event => s.sendInput client (.keyboard event) outcome
  | _, _ => (s, none)

def release (s : HookThread) : HookThread :=
  match s.activeClient with
  | some pos => { s with activeClient := none, rearmClient := some pos }
  | none => s

def resumeIfFocused (s : HookThread) (pos : Position) (outcome : PushOutcome) : HookThread × Pushed :=
  if s.activeClient = none ∧ s.rearmClient = some pos then
    (if outcome = .queued then { s with activeClient := some pos, rearmClient := none } else s,
      some ((pos, .begin), outcome))
  else (s, none)

def destroy (s : HookThread) (pos : Position) : HookThread :=
  { s with
    activeClient := if s.activeClient = some pos then none else s.activeClient
    rearmClient := if s.rearmClient = some pos then none else s.rearmClient
    clients := s.clients.erase pos }

/-- Requests that come in one message are steps of their own here. -/
def handle (s : HookThread) : HookCall → Option (HookThread × Pushed)
  | .create pos => some ({ s with clients := s.clients.insert pos }, none)
  | .destroy pos => some (s.destroy pos, none)
  | .release => some (s.release, none)
  | .resumeIfFocused pos outcome => some (s.resumeIfFocused pos outcome)
  | .displayChange => some ({ s with displayResolutionGeneration := s.displayResolutionGeneration + 1 }, none)
  | .mouse source moved event enumerated outcome => s.mouseProc source moved event enumerated outcome
  | .keyboard injected event outcome => some (s.kybrdProc injected event outcome)

end HookThread

def hookThread : Machine HookThread HookCall Pushed := ⟨HookThread.handle⟩

abbrev HookEntry := Entry HookThread HookCall Pushed

section Geometry

variable {prevPos currPos : Point} {displays : List Rect} {display : Rect}

theorem isWithinDpRegion_iff {point : Point} : isWithinDpRegion point display = true ↔
    display.left ≤ point.1 ∧ point.1 < display.right ∧ display.top ≤ point.2 ∧ point.2 < display.bottom := by
  simp [isWithinDpRegion, barriers, isWithinDpBoundary]

theorem clamp_inside {x y low high : Int32} (above : low ≤ y) (below : y < high) :
    ∃ z, clamp x low (high - 1) = some z ∧ low ≤ z ∧ z < high := by
  have bounds : low ≤ high - 1 ∧ high - 1 < high := by grind
  rw [clamp, if_pos bounds.1]
  exact ⟨_, rfl, by grind⟩

/-- The pointer enters a barrier only from a display, and the entry point stays in it. -/
theorem clamp_of_entered {pos : Position} (entered : enteredBarrier prevPos currPos displays = some pos) :
    ∃ display entry, displays.find? (isWithinDpRegion prevPos) = some display ∧
      clampToDisplayBounds displays prevPos currPos = some entry ∧ isWithinDpRegion entry display = true := by
  have moved := List.find?_some entered
  simp only [movedAcrossBoundary, Bool.and_eq_true, inDisplayRegion] at moved
  obtain ⟨display, found⟩ := Option.isSome_iff_exists.mp (List.find?_isSome.mpr (List.any_eq_true.mp moved.1))
  obtain ⟨left, right, top, bottom⟩ := isWithinDpRegion_iff.mp (List.find?_some found)
  obtain ⟨x, clampedX, insideX⟩ := clamp_inside (x := currPos.1) left right
  obtain ⟨y, clampedY, insideY⟩ := clamp_inside (x := currPos.2) top bottom
  refine ⟨display, (x, y), found, ?_, isWithinDpRegion_iff.mpr ⟨insideX.1, insideX.2, insideY⟩⟩
  simp [clampToDisplayBounds, found, clampedX, clampedY]

end Geometry

namespace HookThread

variable {s s' : HookThread} {call : HookCall} {pushed : Pushed} {pos : Position} {outcome : PushOutcome}

inductive Does (s : HookThread) (call : HookCall) : Pushed → HookThread → Prop where
  | kept {pushed : Pushed} {s' : HookThread}
      (plain : ∀ pos event outcome, pushed = some ((pos, event), outcome) →
        event ≠ .begin ∧ (event = .edgeRetreated → outcome ≠ .queued))
      (active : s'.activeClient = s.activeClient ∨ s'.activeClient = none)
      (rearm : s'.rearmClient = s.rearmClient) : Does s call pushed s'
  | released {s' : HookThread} (pos : Position) (is : call = .release) (active : s.activeClient = some pos)
      (ended : s'.activeClient = none) (blocked : s'.rearmClient = some pos) : Does s call none s'
  | destroyed (pos : Position) (is : call = .destroy pos) : Does s call none (s.destroy pos)
  | retreated {s' : HookThread} (pos : Position) (blocked : s.rearmClient = some pos)
      (active : s'.activeClient = s.activeClient) (free : s'.rearmClient = none) :
      Does s call (some ((pos, .edgeRetreated), .queued)) s'
  | resumed {s' : HookThread} (pos : Position) (outcome : PushOutcome)
      (is : call = .resumeIfFocused pos outcome) (idle : s.activeClient = none)
      (blocked : s.rearmClient = some pos)
      (after : s' = s ∧ outcome = .overflow ∨
        outcome = .queued ∧ s'.activeClient = some pos ∧ s'.rearmClient = none) :
      Does s call (some ((pos, .begin), outcome)) s'
  | crossed {s' : HookThread} (pos : Position) (outcome : PushOutcome) (point : Point)
      (source : MouseSource) (event : Option PointerEvent) (enumerated : List Rect)
      (is : call = .mouse source (some point) event enumerated outcome)
      (idle : s.activeClient = none) (free : s.rearmClient = none)
      (active : s'.activeClient = if outcome = .overflow then none else some pos)
      (rearm : s'.rearmClient = none)
      (inside : ∃ display, s'.displays.find? (isWithinDpRegion (s.prevPos.getD point)) = some display ∧
        isWithinDpRegion s'.entryPoint display = true) :
      Does s call (some ((pos, .begin), outcome)) s'

theorem Does.quiet (active : s'.activeClient = s.activeClient ∨ s'.activeClient = none)
    (rearm : s'.rearmClient = s.rearmClient) : Does s call none s' := .kept nofun active rearm

theorem sendInput_does (s' : HookThread) (active : s'.activeClient = s.activeClient)
    (rearm : s'.rearmClient = s.rearmClient) (event : Event) :
    Does s call (s'.sendInput pos event outcome).2 (s'.sendInput pos event outcome).1 := by
  refine .kept ?_ ?_ ?_
  · rintro _ _ _ ⟨⟩
    exact ⟨nofun, nofun⟩
  · unfold sendInput
    split
    · exact .inr rfl
    · exact .inl active
  · unfold sendInput
    split <;> exact rearm

section

variable (s : HookThread) (source : MouseSource) (moved : Option Point) (event : Option PointerEvent)
  (enumerated : List Rect) (outcome : PushOutcome)

theorem updateDisplayRegions_keeps : (s.updateDisplayRegions enumerated).activeClient = s.activeClient ∧
      (s.updateDisplayRegions enumerated).rearmClient = s.rearmClient := by
  unfold updateDisplayRegions
  split <;> exact ⟨rfl, rfl⟩

theorem activation_does :
    ∃ s' active pushed, s.checkClientActivation moved enumerated outcome = some (s', active, pushed) ∧
      Does s (.mouse source moved event enumerated outcome) pushed s' ∧
      (active = true → pushed = none ∧ s'.activeClient = s.activeClient ∧ s'.rearmClient = s.rearmClient) := by
  cases moved with
  | none => exact ⟨s, _, none, rfl, .quiet (.inl rfl) rfl, fun _ => ⟨rfl, rfl, rfl⟩⟩
  | some point =>
    simp only [checkClientActivation]
    split
    · exact ⟨_, _, _, rfl, .quiet (.inl rfl) rfl, fun _ => ⟨rfl, rfl, rfl⟩⟩
    rename_i idle
    have idle : s.activeClient = none := by simpa using idle
    split
    · rename_i pos blocked
      split
      · refine ⟨_, _, _, rfl, ?_, nofun⟩
        cases outcome with
        | queued => exact .retreated pos blocked rfl rfl
        | overflow => exact .kept (by rintro _ _ _ ⟨⟩; exact ⟨nofun, nofun⟩) (.inl rfl) rfl
      · exact ⟨_, _, _, rfl, .quiet (.inl rfl) rfl, nofun⟩
    rename_i free
    generalize updated : updateDisplayRegions { s with prevPos := some point } enumerated = t
    have active : t.activeClient = s.activeClient := updated ▸ (updateDisplayRegions_keeps _ _).1
    have rearm : t.rearmClient = s.rearmClient := updated ▸ (updateDisplayRegions_keeps _ _).2
    split
    · exact ⟨_, _, _, rfl, .quiet (.inl active) rearm, nofun⟩
    rename_i pos entered
    split
    · exact ⟨_, _, _, rfl, .quiet (.inl active) rearm, nofun⟩
    obtain ⟨display, entry, found, clamped, inside⟩ := clamp_of_entered entered
    rw [clamped]
    exact ⟨_, _, _, rfl, .crossed pos outcome point source event enumerated rfl idle free rfl
      (rearm.trans free) ⟨display, found, inside⟩, nofun⟩

theorem mouse_does : ∃ s' pushed, s.mouseProc source moved event enumerated outcome = some (s', pushed) ∧
      Does s (.mouse source moved event enumerated outcome) pushed s' := by
  unfold mouseProc
  split
  · exact ⟨s, none, rfl, .quiet (.inl rfl) rfl⟩
  obtain ⟨s', active, pushed, checked, does, kept⟩ :=
    s.activation_does source moved event enumerated outcome
  rw [checked]
  simp only [Option.bind_eq_bind, Option.bind_some]
  split
  · exact ⟨s', pushed, rfl, does⟩
  rename_i heard
  obtain ⟨rfl, same, rearm⟩ := kept (by simpa using fun h => heard (.inr h))
  split
  · exact ⟨_, _, rfl, sendInput_does s' same rearm _⟩
  · exact ⟨s', none, rfl, does⟩

theorem handle_does (call : HookCall) :
    ∃ s' pushed, s.handle call = some (s', pushed) ∧ Does s call pushed s' := by
  cases call with
  | create | displayChange => exact ⟨_, _, rfl, .quiet (.inl rfl) rfl⟩
  | destroy pos => exact ⟨_, _, rfl, .destroyed pos rfl⟩
  | mouse source moved event enumerated outcome => exact s.mouse_does source moved event enumerated outcome
  | release =>
    refine ⟨_, _, rfl, ?_⟩
    unfold release
    split
    · rename_i pos active
      exact .released pos rfl active rfl rfl
    · exact .quiet (.inl rfl) rfl
  | resumeIfFocused pos outcome =>
    simp only [handle, resumeIfFocused]
    split
    · rename_i blocked
      refine ⟨_, _, rfl, .resumed pos outcome rfl blocked.1 blocked.2 ?_⟩
      cases outcome with
      | queued => exact .inr ⟨rfl, rfl, rfl⟩
      | overflow => exact .inl ⟨rfl, rfl⟩
    · exact ⟨_, _, rfl, .quiet (.inl rfl) rfl⟩
  | keyboard injected event outcome =>
    simp only [handle, kybrdProc]
    split
    · exact ⟨_, _, rfl, .quiet (.inl rfl) rfl⟩
    split
    · exact ⟨_, _, rfl, sendInput_does s rfl rfl _⟩
    · exact ⟨_, _, rfl, .quiet (.inl rfl) rfl⟩

end

end HookThread

open HookThread

namespace HookEntry

/-- The released edge is free again. -/
def Rearms (pos : Position) (e : HookEntry) : Prop :=
  e.output = some ((pos, .edgeRetreated), .queued) ∨ e.input = .destroy pos ∨
    e.input = .resumeIfFocused pos .queued ∧ e.output = some ((pos, .begin), .queued)

def Ends (e : HookEntry) : Prop := e.pre.activeClient ≠ none ∧ e.post.activeClient = none

end HookEntry

/-- A release ended a capture at the edge, which is not free again yet. -/
def Blocked (pos : Position) : List HookEntry → Prop :=
  Since (fun _ e => e.input = .release ∧ e.pre.activeClient = some pos) fun e => ¬ HookEntry.Rearms pos e

def Capturing : List HookEntry → Prop :=
  Since (fun _ e => ∃ pos, e.output = some ((pos, .begin), .queued)) fun e => ¬ HookEntry.Ends e

structure EdgeLaw (trace : List HookEntry) (s : HookThread) : Prop where
  blocked : ∀ before e after pos, trace = before ++ e :: after → Blocked pos before →
    ∀ p outcome, e.output = some ((p, .begin), outcome) → p = pos ∧ e.input = .resumeIfFocused pos outcome
  alternates : ∀ before e after, trace = before ++ e :: after →
    ∀ pos outcome, e.output = some ((pos, .begin), outcome) → ¬ Capturing before
  inside : ∀ e ∈ trace, ∀ source moved event enumerated outcome,
    e.input = .mouse source moved event enumerated outcome → ∀ pos, e.output = some ((pos, .begin), outcome) →
    ∃ point display, moved = some point ∧
      e.post.displays.find? (isWithinDpRegion (e.pre.prevPos.getD point)) = some display ∧
      isWithinDpRegion e.post.entryPoint display = true
  /-- No message panics. -/
  total : ∀ call, ∃ s' pushed, hookThread.step s call = some (s', pushed)

section Runs

variable {trace : List HookEntry} {s s' : HookThread} {call : HookCall} {pushed : Pushed} {pos : Position}

theorem does_of_step (step : hookThread.step s call = some (s', pushed)) : Does s call pushed s' := by
  obtain ⟨t, other, handled, does⟩ := s.handle_does call
  obtain ⟨rfl, rfl⟩ := Prod.mk.inj (Option.some.inj (handled.symm.trans step))
  exact does

section

variable (run : Run hookThread .new trace s)
include run

theorem exclusive_of_run : s.activeClient = none ∨ s.rearmClient = none := by
  refine run.invariant (P := fun s => s.activeClient = none ∨ s.rearmClient = none) (.inl rfl) ?_
  intro s call s' pushed before step
  cases does_of_step step with
  | kept _ active rearm =>
    rcases active with same | ended
    · rwa [same, rearm]
    · exact .inl ended
  | released _ _ _ ended => exact .inl ended
  | retreated _ _ _ free => exact .inr free
  | crossed _ _ _ _ _ _ _ _ _ _ rearm => exact .inr rearm
  | resumed _ _ _ _ _ after =>
    rcases after with ⟨rfl, -⟩ | ⟨-, -, free⟩
    · exact before
    · exact .inr free
  | destroyed pos =>
    rcases before with idle | free
    · exact .inl (by simp [destroy, idle])
    · exact .inr (by simp [destroy, free])

theorem Blocked.rearmClient (blocked : Blocked pos trace) : s.rearmClient = some pos := by
  refine run.history (P := fun trace s => Blocked pos trace → s.rearmClient = some pos) ?_ ?_ blocked
  · rintro ⟨before, e, after, split, -⟩
    simp at split
  intro trace s call s' pushed run ih step window
  have exclusive := exclusive_of_run run
  rcases window.of_snoc with ⟨rfl, active⟩ | ⟨earlier, still⟩
  · cases step
    simp [HookThread.release, show s.activeClient = some pos from active]
  have before := ih earlier
  cases does_of_step step with
  | kept _ _ rearm => exact rearm.trans before
  | released _ _ active => simp [active, before] at exclusive
  | crossed _ _ _ _ _ _ _ _ free => simp [before] at free
  | retreated p rearm =>
    obtain rfl := Option.some.inj (before.symm.trans rearm)
    exact absurd (.inl rfl) still
  | resumed p outcome is _ rearm after =>
    obtain rfl := Option.some.inj (before.symm.trans rearm)
    rcases after with ⟨rfl, -⟩ | ⟨rfl, -⟩
    · exact before
    · exact absurd (.inr (.inr ⟨is, rfl⟩)) still
  | destroyed p is =>
    have apart : p ≠ pos := fun same => still (.inr (.inl (same ▸ is)))
    simp [destroy, before, apart.symm]

theorem Capturing.activeClient (capturing : Capturing trace) : s.activeClient ≠ none := by
  refine run.history (P := fun trace s => Capturing trace → s.activeClient ≠ none) ?_ ?_ capturing
  · rintro ⟨before, e, after, split, -⟩
    simp at split
  intro trace s call s' pushed _ ih step capturing
  rcases capturing.of_snoc with ⟨pos, rfl⟩ | ⟨earlier, still⟩
  · cases does_of_step step with
    | kept plain => exact absurd rfl (plain _ _ _ rfl).1
    | crossed _ _ _ _ _ _ _ _ _ active => simp [active]
    | resumed _ _ _ _ _ after =>
      rcases after with ⟨-, overflow⟩ | ⟨-, active, -⟩
      · cases overflow
      · simp [active]
  · exact fun ended => still ⟨ih earlier, ended⟩

end

end Runs

/-- After a release no crossing begins a capture until the edge is free again, a capture
begins only when the last one has ended, and the entry point is in the display that the
pointer came from. -/
theorem released_edge_rearmed {trace : List HookEntry} {s : HookThread}
    (run : Run hookThread .new trace s) : EdgeLaw trace s where
  blocked := by
    rintro before ⟨s, call, _, s'⟩ after pos here blocked p outcome rfl
    obtain ⟨earlier, step, -⟩ := run.split here
    have rearm : s.rearmClient = some pos := blocked.rearmClient earlier
    cases does_of_step step with
    | kept plain => exact absurd rfl (plain _ _ _ rfl).1
    | crossed _ _ _ _ _ _ _ _ free => simp [rearm] at free
    | resumed _ _ is _ rearm' =>
      obtain rfl := Option.some.inj (rearm.symm.trans rearm')
      exact ⟨rfl, is⟩
  alternates := by
    rintro before ⟨s, call, _, s'⟩ after here pos outcome rfl capturing
    obtain ⟨earlier, step, -⟩ := run.split here
    refine capturing.activeClient earlier ?_
    cases does_of_step step with
    | kept plain => exact absurd rfl (plain _ _ _ rfl).1
    | crossed _ _ _ _ _ _ _ idle | resumed _ _ _ idle => exact idle
  inside := by
    rintro ⟨s, _, _, s'⟩ member source moved event enumerated outcome rfl pos rfl
    obtain ⟨before, -, step⟩ := run.entry_step member
    cases does_of_step step with
    | kept plain => exact absurd rfl (plain _ _ _ rfl).1
    | resumed _ _ is => cases is
    | crossed _ _ point _ _ _ is _ _ _ _ inside =>
      cases is
      obtain ⟨display, found, entry⟩ := inside
      exact ⟨point, display, rfl, found, entry⟩
  total call := by
    obtain ⟨s', pushed, handled, -⟩ := s.handle_does call
    exact ⟨s', pushed, handled⟩

/-- The released edge is entered again only after the pointer has moved three units away. -/
theorem retreated_edge_entered_again : ∃ trace s, Run hookThread .new trace s ∧ EdgeLaw trace s ∧
    trace.map (·.output) = [none, none, some ((.left, .begin), .queued), none, none,
      some ((.left, .edgeRetreated), .queued), some ((.left, .begin), .queued)] :=
  let move (x : Int32) : HookCall := .mouse .user (some (x, 5)) none [⟨0, 100, 0, 100⟩] .queued
  hookThread.exists_lawful .new [.create .left, move 2, move (-1), .release, move (-1), move 3, move (-1)] _
    released_edge_rearmed (by decide)

end DisplayMux.LanMouse
