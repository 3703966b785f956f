import Mathlib.Data.List.TakeWhile
import DisplayMux.LanMouse.LayerShell

/-! What the stream of the layer-shell backend says about its pointer lock: when an input is
reported after the `Begin` of its grab, and when a `Begin` under a lock that still stands. -/
namespace DisplayMux.LanMouse

namespace LayerShell

/-- The call starts a grab for the position. -/
def grabs (s : LayerShell) (pos : Position) : LayerShellCall → Bool
  | .dispatch (.enter _ surface) => (s.activeWindows.find? (·.surface = surface)).any (·.pos = pos)
  | .resumeIfFocused p =>
    p = pos ∧ s.focused.map (·.pos) = some p ∧ s.pointer = true ∧ s.focusedSerial.isSome = true
  | _ => false

/-- The lock of a grab for the position is confirmed, or the grab starts under a confirmed one. -/
def confirms (s : LayerShell) (pos : Position) : LayerShellCall → Bool
  | .dispatch (.locked lock) => s.pointerLock = some lock ∧ s.pendingBegin = some pos
  | call => s.pointerLockState = .locked ∧ s.grabs pos call = true

end LayerShell

namespace LayerShellEntry

def Begins (pos : Position) (e : LayerShellEntry) : Prop :=
  e.pre.pendingEvents.count (pos, .begin) < e.post.pendingEvents.count (pos, .begin)

def Drops (e : LayerShellEntry) : Prop :=
  e.pre.pointerLock ≠ none ∧ e.post.pointerLock ≠ e.pre.pointerLock

end LayerShellEntry

open LayerShellEntry LayerShell

/-- A `Begin` was yielded since the last grab for the position. -/
def BeginYielded (pos : Position) : List LayerShellEntry → Prop :=
  Since (fun _ e => e.output = .yielded (pos, .begin)) fun e => e.pre.grabs pos e.input = false

/-- The lock was confirmed since the last grab for the position. -/
def Confirmed (pos : Position) : List LayerShellEntry → Prop :=
  Since (fun _ e => e.pre.confirms pos e.input = true) fun e => e.pre.grabs pos e.input = false

/-- The lock stands under which a `Begin` for the position was queued. -/
def LockHeld (pos : Position) : List LayerShellEntry → Prop := Since (fun _ e => Begins pos e) (¬ Drops ·)

instance (pos : Position) (trace : List LayerShellEntry) : Decidable (Confirmed pos trace) :=
  inferInstanceAs (Decidable (Since _ _ trace))

/-- No input is polled before the lock of its grab is confirmed. -/
def promptInput (past : List LayerShellEntry) (e : LayerShellEntry) : Bool :=
  match e.input, e.pre.pendingEvents with
  | .pollNext, (pos, .input _) :: _ => Confirmed pos past
  | _, _ => true

/-- The lock is not given back while a `Begin` is queued. -/
def LayerShell.holdsOn (s : LayerShell) (call : LayerShellCall) : Bool :=
  s.surrenders call = false ∨ s.pendingEvents.all (·.2 ≠ .begin)

structure BeginLaw (trace : List LayerShellEntry) : Prop where
  input : ∀ before e after pos event, trace = before ++ e :: after →
    e.output = .yielded (pos, .input event) → BeginYielded pos before
  locked : ∀ before e after pos, trace = before ++ e :: after → e.output = .yielded (pos, .begin) →
    e.pre.pointerLockState = .locked ∧ LockHeld pos before

def InOrder : List QueuedEvent → Prop := List.Pairwise fun a b => a.2.isInput = true → b ≠ (a.1, .begin)

theorem InOrder.begun {events : List QueuedEvent} (order : InOrder events) (pos : Position) :
    InOrder (queueConfirmedBegin events pos) := by
  unfold queueConfirmedBegin
  generalize other : (fun e : QueuedEvent => !(decide (e.1 = pos) && e.2.isInput)) = p
  rw [← List.takeWhile_append_dropWhile (p := p) (l := events)] at order
  obtain ⟨first, rest, between⟩ := List.pairwise_append.mp order
  refine List.pairwise_append.mpr ⟨first, List.pairwise_cons.mpr ⟨by simp [CaptureEvent.isInput], rest⟩, ?_⟩
  intro a here b there input
  rcases List.mem_cons.mp there with rfl | later
  · have apart := List.mem_takeWhile_imp here
    subst other
    rintro same
    simp [input, (Prod.mk.inj same).1] at apart
  · exact between a here b later input

theorem InOrder.reported {events : List QueuedEvent} (order : InOrder events) {pos : Position}
    {event : CaptureEvent} (other : event ≠ .begin) : InOrder (events ++ [(pos, event)]) := by
  refine List.pairwise_append.mpr ⟨order, List.pairwise_singleton _ _, ?_⟩
  intro a _ b last _ same
  rw [List.mem_singleton.mp last] at same
  exact other (Prod.mk.inj same).2

structure Tidy (s : LayerShell) : Prop where
  order : InOrder s.pendingEvents
  lock : s.pointerLock = none ↔ s.pointerLockState = .released

section Steps

variable {s s' t : LayerShell} {call : LayerShellCall} {reply : LayerShellReply} {pos : Position}

theorem Tidy.step (tidy : Tidy s) (does : Does s call reply s') : Tidy s' where
  order := by
    cases does.queue with
    | same _ _ events => exact events ▸ tidy.order
    | reported pos event other events => exact events ▸ tidy.order.reported other
    | struck _ pos events =>
      rw [events]
      exact InOrder.reported (tidy.order.filter _) nofun
    | begun pos _ events => exact events ▸ tidy.order.begun pos
    | yielded _ event events => exact (List.pairwise_cons.mp (events ▸ tidy.order)).2
  lock := by
    cases does.lock with
    | kept lock state => rw [lock, state, tidy.lock]
    | confirmed held lock state => simp [lock, state, held]
    | taken free lock state | dropped _ lock state => simp [lock, state]

theorem LayerShell.Does.yielded_head {event : QueuedEvent} (does : Does s call (.yielded event) s') :
    call = .pollNext ∧ s.pendingEvents = event :: s'.pendingEvents := by
  cases does.queue with
  | same _ silent => exact absurd rfl (silent event)
  | yielded polled _ events => exact ⟨polled, events⟩

theorem LayerShell.Does.begun_locked (does : Does s call reply s') (absent : (pos, .begin) ∉ s.pendingEvents)
    (queued : (pos, .begin) ∈ s'.pendingEvents) : s'.pointerLockState = .locked := by
  cases does.queue with
  | same _ _ events => exact absurd (events ▸ queued) absent
  | begun _ locked => exact locked
  | yielded _ event events => exact absurd (events ▸ List.mem_cons_of_mem event queued) absent
  | reported _ event other events =>
    rw [events] at queued
    rcases List.mem_append.mp queued with old | new
    · exact absurd old absent
    · exact absurd (Prod.mk.inj (List.mem_singleton.mp new)).2.symm other
  | struck _ _ events =>
    rw [events] at queued
    rcases List.mem_append.mp queued with old | new
    · exact absurd (List.mem_of_mem_filter old) absent
    · exact absurd (List.mem_singleton.mp new) (by simp)

theorem LayerShell.holdsOn.kept (kept : s.holdsOn call = true) (queued : (pos, .begin) ∈ s.pendingEvents) :
    s.surrenders call ≠ true := by
  rcases of_decide_eq_true kept with kept | clean
  · simp [kept]
  · simpa using List.all_eq_true.mp clean _ queued

theorem LayerShell.Does.stays_locked (does : Does s call reply s') (tidy : Tidy s)
    (locked : s.pointerLockState = .locked) (kept : s.surrenders call ≠ true) :
    s'.pointerLockState = .locked ∧ ¬ Drops ⟨s, call, reply, s'⟩ := by
  have held : s.pointerLock ≠ none := by simp [tidy.lock, locked]
  cases does.lock with
  | kept lock state => exact ⟨state.trans locked, fun drops => drops.2 lock⟩
  | confirmed _ lock state => exact ⟨state, fun drops => drops.2 lock⟩
  | taken free => exact absurd free held
  | dropped given => exact absurd given kept

theorem LayerShell.Does.stays_queued (does : Does s call reply s') (kept : s.surrenders call ≠ true)
    (queued : (pos, .begin) ∈ s.pendingEvents) :
    (pos, .begin) ∈ s'.pendingEvents ∨ reply = .yielded (pos, .begin) := by
  cases does.queue with
  | same _ _ events => exact .inl (events ▸ queued)
  | reported _ _ _ events => exact .inl (by simp [events, queued])
  | struck given => exact absurd given kept
  | begun other _ events =>
    refine .inl ?_
    rw [← List.takeWhile_append_dropWhile (p := fun e => !(decide (e.1 = other) && e.2.isInput))
      (l := s.pendingEvents)] at queued
    rw [events, queueConfirmedBegin]
    simp only [List.mem_append, List.mem_cons] at queued ⊢
    exact queued.imp_right .inr
  | yielded _ event events =>
    rw [events] at queued
    exact (List.mem_cons.mp queued).symm.imp_right (congrArg _ ·.symm)

theorem LayerShell.grab_locked {focused : Option Window} {serial : Option UInt32} (tidy : Tidy s)
    (locked : s.pointerLockState = .locked)
    (grabbed : { s with focused, focusedSerial := serial }.grab = .ok t) :
    (pos, .begin) ∈ (t.beginWhenPointerLocked pos).pendingEvents := by
  obtain ⟨_, -, rest⟩ := bind_ok.mp grabbed
  obtain rfl := pure_ok.mp rest
  have held : s.pointerLock ≠ none := by simp [tidy.lock, locked]
  rw [lockPointer, if_neg (by simpa using held), beginWhenPointerLocked, if_pos locked]
  simp [queueConfirmedBegin]

/-- A grab whose lock is confirmed has its `Begin` in the queue. -/
theorem LayerShell.confirms_queued (tidy : Tidy s) (handled : s.handle call = .ok (s', reply))
    (confirms : s.confirms pos call = true) : (pos, .begin) ∈ s'.pendingEvents := by
  unfold LayerShell.confirms at confirms
  split at confirms
  · obtain ⟨own, waiting⟩ := of_decide_eq_true confirms
    simp only [handle, dispatch, own, if_pos, pointerLocked, waiting] at handled
    cases handled
    simp [queueConfirmedBegin]
  obtain ⟨locked, grabs⟩ := of_decide_eq_true confirms
  unfold LayerShell.grabs at grabs
  split at grabs
  · obtain ⟨window, found, own⟩ := Option.any_eq_true _ _ |>.mp grabs
    obtain rfl := of_decide_eq_true own
    simp only [handle, dispatch, enter, found] at handled
    obtain ⟨u, entered, same⟩ := map_ok.mp handled
    obtain ⟨t, grabbed, rest⟩ := bind_ok.mp entered
    obtain rfl := pure_ok.mp rest
    cases same
    exact grab_locked tidy locked grabbed
  · obtain ⟨rfl, focused⟩ := of_decide_eq_true grabs
    rw [handle, if_pos focused] at handled
    obtain ⟨t, grabbed, rest⟩ := bind_ok.mp handled
    cases rest
    exact grab_locked tidy locked grabbed
  · cases grabs

end Steps

section Runs

variable {trace : List LayerShellEntry} {s : LayerShell} {pos : Position}

section

variable (run : Run layerShell .new trace s)
include run

theorem tidy_of_run : Tidy s := by
  have fresh : Tidy .new := ⟨List.Pairwise.nil, by simp [LayerShell.new]⟩
  exact run.invariant fresh fun _ _ _ _ tidy step => tidy.step (handle_does (handle_of_step step))

theorem Confirmed.pending (clean : ∀ e ∈ trace, e.pre.holdsOn e.input = true)
    (confirmed : Confirmed pos trace) : (pos, .begin) ∈ s.pendingEvents ∨ BeginYielded pos trace := by
  refine run.history (P := fun trace s => (∀ e ∈ trace, e.pre.holdsOn e.input = true) →
    Confirmed pos trace → (pos, .begin) ∈ s.pendingEvents ∨ BeginYielded pos trace) ?_ ?_ clean confirmed
  · rintro - ⟨before, e, after, split, -⟩
    simp at split
  intro trace s call s' reply run ih step clean confirmed
  have handled := handle_of_step step
  rcases confirmed.of_snoc with confirms | ⟨earlier, still⟩
  · exact .inl (confirms_queued (tidy_of_run run) handled confirms)
  rcases ih (fun e member => clean e (by simp [member])) earlier with queued | begun
  · have kept := holdsOn.kept (clean ⟨s, call, reply, s'⟩ (by simp)) queued
    exact ((handle_does handled).stays_queued kept queued).imp_right .now
  · exact .inr (begun.later still)

theorem pending_locked (clean : ∀ e ∈ trace, e.pre.holdsOn e.input = true)
    (queued : (pos, .begin) ∈ s.pendingEvents) : s.pointerLockState = .locked ∧ LockHeld pos trace := by
  refine run.history (P := fun trace s => (∀ e ∈ trace, e.pre.holdsOn e.input = true) →
    (pos, .begin) ∈ s.pendingEvents → s.pointerLockState = .locked ∧ LockHeld pos trace) ?_ ?_ clean queued
  · rintro - none
    cases none
  intro trace s call s' reply run ih step clean queued
  have does := handle_does (handle_of_step step)
  by_cases before : (pos, .begin) ∈ s.pendingEvents
  · obtain ⟨locked, held⟩ := ih (fun e member => clean e (by simp [member])) before
    have kept := holdsOn.kept (clean ⟨s, call, reply, s'⟩ (by simp)) before
    obtain ⟨still, undropped⟩ := does.stays_locked (tidy_of_run run) locked kept
    exact ⟨still, held.later undropped⟩
  · refine ⟨does.begun_locked before queued, .now ?_⟩
    rw [Begins, List.count_eq_zero.mpr before]
    exact List.count_pos_iff.mpr queued

end

end Runs

/-- Provided that no input is polled before the lock of its grab is confirmed, and that the
lock is not given back while a `Begin` is queued. -/
theorem begin_precedes_input {trace : List LayerShellEntry} {s : LayerShell}
    (run : Run layerShell .new trace s) (prompt : allWithPast promptInput [] trace = true)
    (clean : ∀ e ∈ trace, e.pre.holdsOn e.input = true) : BeginLaw trace where
  input := by
    rintro before ⟨s, call, _, s'⟩ after pos event here rfl
    obtain ⟨earlier, step, -⟩ := run.split here
    obtain ⟨rfl, head⟩ := (handle_does (handle_of_step step)).yielded_head
    change s.pendingEvents = _ at head
    rw [here, allWithPast_append, Bool.and_eq_true, allWithPast, Bool.and_eq_true] at prompt
    have confirmed : Confirmed pos before := by simpa [promptInput, head] using prompt.2.1
    rcases confirmed.pending earlier (fun e member => clean e (by simp [here, member])) with queued | begun
    · have order : InOrder s.pendingEvents := (tidy_of_run earlier).order
      rw [head] at order queued
      rcases List.mem_cons.mp queued with same | later
      · cases same
      · exact absurd rfl ((List.pairwise_cons.mp order).1 _ later rfl)
    · exact begun
  locked := by
    rintro before ⟨s, call, _, s'⟩ after pos here rfl
    obtain ⟨earlier, step, -⟩ := run.split here
    have head : s.pendingEvents = _ := (handle_does (handle_of_step step)).yielded_head.2
    exact pending_locked earlier (fun e member => clean e (by simp [here, member])) (by simp [head])

/-- The lock is confirmed before the key is polled, and given back after that. -/
theorem confirmed_grab_in_order : ∃ trace s, Run layerShell .new trace s ∧ BeginLaw trace ∧
    trace.getLast?.map (·.output) = some (.yielded (.left, .input (.keyboard (.key 0 31 1)))) := by
  obtain ⟨trace, s, run, prompt, clean, last⟩ := layerShell.exists_run .new
    (enteringLeft ++ [.dispatch (.key 0 30 1), .dispatch (.locked 1), .pollNext, .dispatch (.key 0 31 1),
      .release, .pollNext, .pollNext])
    (fun trace _ => allWithPast promptInput [] trace = true ∧ (∀ e ∈ trace, e.pre.holdsOn e.input = true) ∧
      trace.getLast?.map (·.output) = some (.yielded (.left, .input (.keyboard (.key 0 31 1))))) (by decide)
  exact ⟨trace, s, run, begin_precedes_input run prompt clean, last⟩

/-- A key is taken from the queue before the lock is confirmed, and a `Begin` after the
pointer has left. -/
theorem unlocked_stream_out_of_order :
    (∃ before e s, Run layerShell .new (before ++ [e]) s ∧
      e.output = .yielded (.left, .input (.keyboard (.key 0 30 1))) ∧
      ∀ x ∈ before, x.output ≠ .yielded (.left, .begin)) ∧
    ∃ before e s, Run layerShell .new (before ++ [e]) s ∧
      e.output = .yielded (.left, .begin) ∧ e.pre.pointerLockState = .released := by
  constructor
  · exact layerShell.exists_last .new (enteringLeft ++ [.dispatch (.key 0 30 1)]) .pollNext _ (by decide)
  · exact layerShell.exists_last .new (enteringLeft ++ [.dispatch (.locked 1), .dispatch .leave])
      .pollNext _ (by decide)

end DisplayMux.LanMouse
