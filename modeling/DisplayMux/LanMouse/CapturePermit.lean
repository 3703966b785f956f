import DisplayMux.LanMouse.CaptureTurn

/-! Nothing moves a peer's pointer or keyboard without a fresh permit, as long as every
capture session is opened with no client active. -/
namespace DisplayMux.LanMouse

def Act.ends : Act → Bool
  | .released | .sessionEnded => true
  | _ => false

/-- Since the last release and the last end of a session, `handle` was granted. -/
def Permitted (log : List Act) (handle : CaptureHandle) : Prop :=
  ∃ permit before after, permit.handle = handle ∧ log = before ++ grant handle permit ++ after ∧
    ∀ act ∈ after, act.ends = false

def Sound (log : List Act) : Prop :=
  ∀ before event handle after, log = before ++ .send event handle :: after → event.controls = true →
    Permitted before handle

variable {act : Act}

theorem Permitted.record {log : List Act} {handle : CaptureHandle} (permitted : Permitted log handle)
    (quiet : act.ends = false) : Permitted (log ++ [act]) handle := by
  obtain ⟨permit, before, after, same, rfl, fresh⟩ := permitted
  refine ⟨permit, before, after ++ [act], same, by simp, ?_⟩
  intro a member
  rcases List.mem_append.mp member with old | new
  · exact fresh a old
  · rw [List.mem_singleton.mp new]
    exact quiet

theorem Sound.record {log : List Act} (sound : Sound log)
    (backed : ∀ event handle, act = .send event handle → event.controls = true → Permitted log handle) :
    Sound (log ++ [act]) := by
  intro before event handle after here controls
  rcases List.eq_nil_or_concat after with rfl | ⟨rest, last, rfl⟩
  · obtain ⟨rfl, he⟩ := List.append_inj' here rfl
    exact backed event handle (List.cons.inj he).1 controls
  · have at' : log ++ [act] = (before ++ .send event handle :: rest) ++ [last] := by
      simpa using here
    exact sound before event handle rest (List.append_inj' at' rfl).1 controls

structure Held (log : List Act) (active : Option CaptureHandle) : Prop where
  sound : Sound log
  permitted : ∀ handle, active = some handle → Permitted log handle

namespace Held

variable {past log : List Act} {active : Option CaptureHandle} {s : Scene}

theorem idle (sound : Sound log) : Held log none := ⟨sound, by simp⟩

section

variable (held : Held log active)
include held

theorem snoc (quiet : act.ends = false)
    (own : ∀ event handle, act = .send event handle → event.controls = true →
      active = some handle) : Held (log ++ [act]) active := by
  refine ⟨?_, ?_⟩
  · exact held.sound.record fun event handle sent controls =>
      held.permitted handle (own event handle sent controls)
  · intro handle same
    exact (held.permitted handle same).record quiet

theorem append {acts : List Act} (quiet : ∀ act ∈ acts, act.ends = false)
    (own : ∀ event handle, .send event handle ∈ acts → event.controls = true →
      active = some handle) : Held (log ++ acts) active := by
  induction acts generalizing log with
  | nil => simpa using held
  | cons act acts ih =>
    have first := held.snoc (quiet act (by simp)) fun event handle is => own event handle (by simp [is])
    simpa using ih first (fun a member => quiet a (by simp [member]))
      fun event handle member => own event handle (by simp [member])

theorem ended (ends : act.ends = true) : Held (log ++ [act]) none := by
  refine .idle (held.sound.record ?_)
  rintro event handle rfl
  contradiction

theorem grant {handle : CaptureHandle} {permit : CapturePermit}
    (own : permit.handle = handle) {rest : List Act} (granted : log = rest ++ grant handle permit) :
    Held log (some handle) := by
  refine ⟨held.sound, ?_⟩
  rintro _ ⟨⟩
  exact ⟨permit, rest, [], own, by simp [granted], by simp⟩

theorem farewell (keys : List Scancode) (reason : CaptureReleaseReason) :
    Held (log ++ farewell active keys reason) active := by
  refine held.append ?_ ?_
  · cases active <;> simp [LanMouse.farewell, Act.ends, or_imp, forall_and]
  · cases active with
    | none => simp [LanMouse.farewell]
    | some own =>
      simp only [LanMouse.farewell, List.mem_append, List.mem_map]
      grind

end

end Held

theorem Deeds.held {past : List Act} {start s : Scene} {cause : Cause} (deeds : Deeds start cause s)
    (held : Held (past ++ start.log) start.task.activeClient) :
    Held (past ++ s.log) s.task.activeClient := by
  induction deeds with
  | start => exact held
  | @note s a quiet _ ih =>
    rw [Scene.record, ← List.append_assoc]
    refine ih.snoc ?_ ?_
    · cases a <;> simp_all [Act.quiet, Act.ends]
    · rintro event handle rfl controls
      cases event <;> simp_all [Act.quiet, ProtoEvent.controls]
  | adjust task active _ _ ih =>
    change Held _ task.activeClient
    rwa [active]
  | giveBack _ _ ih | rebuild _ _ _ _ ih => exact ih
  | enter handle permit own _ granted _ ih =>
    refine Held.grant ih own (?_ : _ = (past ++ start.log) ++ grant handle permit)
    simp [granted]
  | @forward s handle _ _ _ message active _ _ _ ih =>
    rw [Scene.record, ← List.append_assoc]
    refine ih.snoc rfl ?_
    rintro _ _ ⟨⟩ -
    exact active
  | @leave s task told reason _ gone _ _ ih =>
    change Held _ task.activeClient
    rw [gone, Scene.leave, ← List.append_assoc, ← List.append_assoc]
    cases told with
    | false => exact (Held.append ih (by simp) (by simp)).ended rfl
    | true => exact (ih.farewell _ reason).ended rfl

section Runs

/-- The turn opens a capture session while a client is still active from an earlier one. -/
def Process.resumes (p : Process) : Turn → Bool
  | .opened _ => p.task.activeClient.isSome
  | _ => false

/-- The client that captured events can reach: outside of a session there is none. -/
def Process.present (p : Process) : Option CaptureHandle :=
  if p.phase.live then p.task.activeClient else none

variable {log acts : List Act} {p p' : Process} {turn : Turn}

theorem Held.present (held : Held log p.task.activeClient) : Held log p.present := by
  unfold Process.present
  split
  · exact held
  · exact .idle held.sound

/-- Between two sessions nothing is sent, and only the opening starts the next one. -/
theorem between_sessions (between : p.phase.live = false) (closed : ∀ stop, turn ≠ .opened stop)
    (step : p.step turn = some (p', acts)) :
    p'.phase.live = false ∧ (acts = [] ∨ acts = [.completed true]) := by
  cases turn with
  | elapse _ | arm _ _ _ _ | disarm _ | clear =>
    cases step
    exact ⟨between, .inl rfl⟩
  | opened stop => exact absurd rfl (closed stop)
  | openFailed | poll _ _ | receive _ _ _ | cancel =>
    change p.select _ = _ at step
    cases phase : p.phase <;> simp [Process.select, phase] at step
    all_goals first
      | (obtain ⟨rfl, rfl⟩ := step; exact ⟨rfl, .inl rfl⟩)
      | (rw [phase] at between; cases between)
  | request request answers =>
    change p.select _ = _ at step
    cases phase : p.phase <;> simp [Process.select, phase] at step
    · rw [phase] at between
      cases between
    cases request with
    | release completion =>
      cases completion <;> cases step
      · exact ⟨between, .inl rfl⟩
      · exact ⟨between, .inr rfl⟩
    | reenable =>
      cases step
      exact ⟨rfl, .inl rfl⟩
    | create _ _ _ | destroy _ | setReleaseBind _ | resumeIfFocused _ =>
      cases step
      exact ⟨between, .inl rfl⟩

theorem turn_held (held : Held log p.task.activeClient) (step : p.step turn = some (p', acts)) :
    Held (log ++ acts) p'.present := by
  obtain ⟨s, deeds, task, -, ended⟩ := step_turned step
  have held : Held (log ++ s.log) s.task.activeClient := deeds.held (by simpa [Process.scene] using held)
  rcases ended with rfl | ⟨idle, rfl⟩
  · rw [← task] at held
    exact held.present
  have told : Held (log ++ s.log ++ [.sessionEnded] ++ [.notify .captureDisabled]) none :=
    (held.ended rfl).snoc rfl (by simp)
  simpa [Process.present, idle, Phase.live] using told

theorem step_held (held : Held log p.present) (step : p.step turn = some (p', acts))
    (fresh : p.resumes turn = false) : Held (log ++ acts) p'.present := by
  by_cases live : p.phase.live = true
  · exact turn_held (by simpa [Process.present, live] using held) step
  by_cases opens : ∃ stop, turn = .opened stop
  · obtain ⟨stop, rfl⟩ := opens
    have free : p.task.activeClient = none := by simpa [Process.resumes] using fresh
    exact turn_held (free ▸ .idle held.sound) step
  obtain ⟨between, silent⟩ := between_sessions (by simpa using live) (not_exists.mp opens) step
  simp only [Process.present, between, Bool.false_eq_true, if_false]
  refine (Held.idle held.sound).append ?_ ?_ <;> rcases silent with rfl | rfl <;> simp [Act.ends]

theorem run_held {clock : Nat} {releaseBind : List Scancode}
    {trace : List (Entry Process Turn (List Act))}
    (run : Run captureTask (.new clock releaseBind) trace p)
    (fresh : ∀ e ∈ trace, e.pre.resumes e.input = false) : Held (actsOf trace) p.present := by
  refine run.history (P := fun trace p => (∀ e ∈ trace, e.pre.resumes e.input = false) →
    Held (actsOf trace) p.present) ?_ ?_ fresh
  · intro _
    exact .idle (by simp [Sound, actsOf])
  · intro trace p turn p' acts _ ih step fresh
    have held := ih fun e member => fresh e (List.mem_append_left _ member)
    simpa [actsOf] using step_held held step (fresh ⟨p, turn, acts, p'⟩ (by simp))

/-- As long as no capture session is opened while a client is active, whatever controls a
peer is sent under a permit that was consumed and authorised since the last release and the
last end of a session. -/
theorem control_needs_fresh_permit {clock : Nat} {releaseBind : List Scancode}
    {trace : List (Entry Process Turn (List Act))}
    (run : Run captureTask (.new clock releaseBind) trace p)
    (fresh : ∀ e ∈ trace, e.pre.resumes e.input = false)
    {before after : List Act} {event : ProtoEvent} {handle : CaptureHandle}
    (sent : actsOf trace = before ++ .send event handle :: after) (controls : event.controls = true) :
    Permitted before handle :=
  (run_held run fresh).sound before event handle after sent controls

def enterTurns : List Turn :=
  let agree : Answers := ⟨true, true, true⟩
  [.opened none, .request (.create 1 .left .default) agree, .arm 1 1 7 1000,
    .poll (.ready (.value (.left, .begin))) agree]

def enterActs : List Act :=
  [.notify .captureEnabled, .captured 1 .begin, .notify (.captureBegin 1), .consumed ⟨1, 1, 7, 1000⟩,
    .notify (.commitRequested 1 1 7), .decided ⟨1, 1, 7, 1000⟩ true]

/-- The client is entered, and the task is cancelled with the client active. -/
theorem entered_under_permit : ∃ trace p, Run captureTask (.new 0 [42]) trace p ∧
    (∀ e ∈ trace, e.pre.resumes e.input = false) ∧ p.task.activeClient = some 1 ∧
    actsOf trace = enterActs ++ .send (.enter .right) 1 :: [.sessionEnded, .notify .captureDisabled] ∧
    Permitted enterActs 1 := by
  obtain ⟨trace, p, run, fresh, active, acts⟩ := captureTask.exists_run (.new 0 [42])
    (enterTurns ++ [.cancel]) (fun trace p => (∀ e ∈ trace, e.pre.resumes e.input = false) ∧
      p.task.activeClient = some 1 ∧ actsOf trace =
        enterActs ++ .send (.enter .right) 1 :: [.sessionEnded, .notify .captureDisabled]) (by decide)
  exact ⟨trace, p, run, fresh, active, acts, control_needs_fresh_permit run fresh acts rfl⟩

def reenterTurns : List Turn :=
  let agree : Answers := ⟨true, true, true⟩
  [.poll (.ready .error) agree, .request .reenable agree, .opened none,
    .poll (.ready (.value (.left, .begin))) agree]

def reenterActs : List Act :=
  [.notify .captureDisabled, .notify .captureEnabled, .captured 1 .begin, .notify (.captureBegin 1)]

theorem not_permitted_of_ended {log rest : List Act} {handle : CaptureHandle}
    (undecided : ∀ permit, .decided permit true ∉ rest) :
    ¬ Permitted (log ++ .sessionEnded :: rest) handle := by
  rintro ⟨permit, before, after, -, same, fresh⟩
  have outside : .sessionEnded ∉ after := fun member => by simpa [Act.ends] using fresh _ member
  rcases List.append_eq_append_iff.mp same with ⟨gap, granted, tail⟩ | ⟨gap, -, tail⟩
  · -- the decision is the last act before `after`, so it lies behind the end of the session
    cases gap with
    | nil => exact outside (by rw [← List.nil_append after, ← tail]; simp)
    | cons act gap =>
      obtain ⟨rfl, rfl⟩ := List.cons.inj tail
      have decided : before ++ (grant handle permit).dropLast ++ [.decided permit true] =
          log ++ .sessionEnded :: gap := by simpa [grant] using granted
      rcases List.eq_nil_or_concat gap with rfl | ⟨gap, last, rfl⟩
      · exact absurd (List.append_inj' decided rfl).2 (by simp)
      · have ends : _ = (log ++ .sessionEnded :: gap) ++ [last] := decided.trans (by simp)
        obtain rfl := List.singleton_inj.mp (List.append_inj' ends rfl).2
        exact undecided permit (by simp)
  · exact outside (by simp [tail])

/-- The backend fails while the client is active, and capture is enabled again: the
next crossing enters the client although the gate holds no permit. -/
theorem reenabled_session_enters_without_permit : ∃ trace p before,
    Run captureTask (.new 0 [42]) trace p ∧ actsOf trace = before ++ [.send (.enter .right) 1] ∧
    ¬ Permitted before 1 := by
  obtain ⟨trace, p, run, acts⟩ := captureTask.exists_run (.new 0 [42]) (enterTurns ++ reenterTurns)
    (fun trace _ => actsOf trace = (enterActs ++ [.send (.enter .right) 1]) ++ .sessionEnded :: reenterActs ++
      [.send (.enter .right) 1]) (by decide)
  exact ⟨trace, p, _, run, acts, not_permitted_of_ended (by simp [reenterActs])⟩

end Runs

end DisplayMux.LanMouse
