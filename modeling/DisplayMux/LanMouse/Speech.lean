import DisplayMux.LanMouse.CapturePermit

/-! What the capture task says to one client in a turn, and how the client's state moves
with it. -/
namespace DisplayMux.LanMouse

def sentTo (handle : CaptureHandle) (log : List Act) : List ProtoEvent :=
  log.filterMap fun
    | .send event h => if h = handle then some event else none
    | _ => none

/-- What a turn of the capture task says to one client. Input is sent while the client is
active and has acknowledged, or before a leave that ends it. After a leave nothing more is
typed, and the client is not active. A client becomes active without an acknowledgement. -/
structure Spoken (handle : CaptureHandle) (start : CaptureTask) (sent : List ProtoEvent)
    (active : Option CaptureHandle) (state : AckState) : Prop where
  input : ∀ event, .input event ∈ sent →
    (start.activeClient = some handle ∧ start.state = .sending) ∨ ∃ n, .leave n ∈ sent
  order : ∀ before n after event, sent = before ++ .leave n :: after → .input event ∉ after
  left : ∀ n, .leave n ∈ sent → active ≠ some handle
  active : active = some handle →
    (start.activeClient = some handle ∧ state = start.state) ∨
      (start.activeClient ≠ some handle ∧ state = .waitingForAck)

variable {own : CaptureHandle}

namespace Spoken

variable {handle : CaptureHandle} {start : CaptureTask} {sent : List ProtoEvent}
  {active : Option CaptureHandle} {state : AckState}

theorem nothing (same : active = start.activeClient) (alike : state = start.state) :
    Spoken handle start [] active state := by
  refine ⟨by simp, by simp, by simp, ?_⟩
  intro own
  exact .inl ⟨same ▸ own, alike⟩

theorem admitted (fresh : start.activeClient ≠ some own) :
    Spoken handle start [] (some own) .waitingForAck := by
  refine ⟨by simp, by simp, by simp, ?_⟩
  rintro ⟨⟩
  exact .inr ⟨fresh, rfl⟩

theorem inactive (spoken : Spoken handle start sent active state) (state' : AckState) :
    Spoken handle start sent none state' :=
  ⟨spoken.input, spoken.order, by simp, by simp⟩

theorem snoc (spoken : Spoken handle start sent active state) {m : ProtoEvent}
    (quiet : ∀ n, m ≠ .leave n)
    (typed : ∀ event, m = .input event → active = some handle ∧ state = .sending) :
    Spoken handle start (sent ++ [m]) active state := by
  refine ⟨?_, ?_, ?_, spoken.active⟩
  · intro event member
    rcases List.mem_append.mp member with old | new
    · rcases spoken.input event old with own | ⟨n, left⟩
      · exact .inl own
      · exact .inr ⟨n, List.mem_append_left _ left⟩
    obtain ⟨own, sending⟩ := typed event (List.mem_singleton.mp new).symm
    rcases spoken.active own with ⟨before, same⟩ | ⟨-, waiting⟩
    · exact .inl ⟨before, same ▸ sending⟩
    · rw [sending] at waiting
      contradiction
  · intro before n after event split typing
    rcases List.eq_nil_or_concat after with rfl | ⟨rest, last, rfl⟩
    · exact absurd typing List.not_mem_nil
    have whole : sent ++ [m] = (before ++ .leave n :: rest) ++ [last] := by simpa using split
    obtain ⟨first, same⟩ := List.append_inj' whole rfl
    obtain rfl := (List.cons.inj same).1
    rw [List.concat_eq_append] at typing
    rcases List.mem_append.mp typing with old | new
    · exact spoken.order before n rest event first old
    · have own := (typed event (List.mem_singleton.mp new).symm).1
      exact spoken.left n (by simp [first]) own
  · intro n member
    rcases List.mem_append.mp member with old | new
    · exact spoken.left n old
    · exact absurd (List.mem_singleton.mp new).symm (quiet n)

theorem leave (fresh : ∀ n, .leave n ∉ sent) (n : UInt32) :
    Spoken handle start (sent ++ [.leave n]) none state := by
  refine ⟨?_, ?_, by simp, by simp⟩
  · intro event _
    exact .inr ⟨n, by simp⟩
  intro before k after event split
  rcases List.eq_nil_or_concat after with rfl | ⟨rest, last, rfl⟩
  · simp
  · have whole : sent ++ [.leave n] = (before ++ .leave k :: rest) ++ [last] := by simpa using split
    obtain ⟨whole, -⟩ := List.append_inj' whole rfl
    exact absurd (by simp [whole]) (fresh k)

end Spoken

theorem sentTo_append (handle : CaptureHandle) (log rest : List Act) :
    sentTo handle (log ++ rest) = sentTo handle log ++ sentTo handle rest := by
  simp [sentTo]

theorem sentTo_other {handle h : CaptureHandle} (other : h ≠ handle) (event : ProtoEvent) :
    sentTo handle [.send event h] = [] := by
  simp [sentTo, other]

theorem sentTo_own (handle : CaptureHandle) (event : ProtoEvent) :
    sentTo handle [.send event handle] = [event] := by
  simp [sentTo]

section Turns

variable {handle : CaptureHandle} {start : CaptureTask} {log : List Act}
  {active : Option CaptureHandle} {state : AckState}

theorem Spoken.quiet (spoken : Spoken handle start (sentTo handle log) active state) {a : Act}
    (quiet : a.quiet = true) : Spoken handle start (sentTo handle (log ++ [a])) active state := by
  rw [sentTo_append]
  by_cases said : ∃ epoch, a = .send (.releaseAck epoch) handle
  · obtain ⟨epoch, rfl⟩ := said
    rw [sentTo_own]
    exact spoken.snoc (by simp) (by simp)
  have silent : sentTo handle [a] = [] := by
    cases a with
    | send event h => cases event <;> grind [sentTo, Act.quiet]
    | _ => rfl
  rwa [silent, List.append_nil]

theorem Spoken.send (spoken : Spoken handle start (sentTo handle log) (some own) state)
    {opposite : Position} {event : CaptureEvent} {message : ProtoEvent}
    (routing : routed state opposite event = some message) :
    Spoken handle start (sentTo handle (log ++ [.send message own])) (some own) state := by
  rw [sentTo_append]
  by_cases same : own = handle
  · subst same
    rw [sentTo_own]
    cases event with
    | begin =>
      cases routing
      exact spoken.snoc (by simp) (by simp)
    | edgeRetreated => contradiction
    | input e =>
      cases state with
      | waitingForAck =>
        cases routing
        exact spoken.snoc (by simp) (by simp)
      | sending =>
        cases routing
        exact spoken.snoc (by simp) fun _ _ => ⟨rfl, rfl⟩
  · rwa [sentTo_other same, List.append_nil]

theorem sentTo_farewell (other : active ≠ some handle) (keys : List Scancode)
    (reason : CaptureReleaseReason) : sentTo handle (farewell active keys reason) = [] := by
  cases active with
  | none => rfl
  | some own =>
    have apart : own ≠ handle := fun is => other (by rw [is])
    simp [sentTo, farewell, List.filterMap_map, apart]

theorem Spoken.farewell (spoken : Spoken handle start (sentTo handle log) active state)
    (keys : List Scancode) (reason : CaptureReleaseReason) (state' : AckState) :
    Spoken handle start (sentTo handle (log ++ farewell active keys reason)) none state' := by
  rw [sentTo_append]
  by_cases same : active = some handle
  · subst same
    have said : sentTo handle (LanMouse.farewell (some handle) keys reason) =
        keys.map keyUp ++ [modsZero] ++ [.leave 0] := by
      simp [sentTo, LanMouse.farewell, List.filterMap_map]
    rw [said, ← List.append_assoc]
    refine .leave ?_ 0
    intro n member
    simp only [List.mem_append, List.mem_map, List.mem_singleton] at member
    rcases member with old | ⟨_, -, is⟩ | is
    · exact spoken.left n old rfl
    · cases is
    · cases is
  rw [sentTo_farewell same, List.append_nil]
  exact spoken.inactive state'

theorem routed_stays (state : AckState) (opposite : Position) (event : CaptureEvent) (n : UInt32) :
    routed state opposite event ≠ some (.leave n) := by
  cases event <;> cases state <;> simp [routed]

theorem Deeds.spoken {start s : Scene} {cause : Cause} (deeds : Deeds start cause s)
    (fresh : start.log = []) (other : cause.acks = false) :
    Spoken handle start.task (sentTo handle s.log) s.task.activeClient s.task.state := by
  induction deeds with
  | start =>
    rw [fresh]
    exact .nothing rfl rfl
  | note a quiet _ ih => exact ih.quiet quiet
  | adjust task active state _ ih =>
    change Spoken _ _ _ task.activeClient task.state
    rwa [active, state.resolve_left fun acked => Bool.eq_false_iff.mp other acked.1]
  | giveBack _ _ ih | rebuild _ _ _ _ ih => exact ih
  | @enter s own permit _ starts granted _ _ =>
    have silent : sentTo handle s.log = [] := by
      rw [granted, fresh]
      rfl
    change Spoken _ _ (sentTo handle s.log) _ _
    rw [silent]
    exact .admitted (Scene.inactive_of_starts starts)
  | @forward s own _ _ _ message active _ routing _ ih =>
    change Spoken _ _ (sentTo handle (s.log ++ [.send message own])) s.task.activeClient s.task.state
    rw [active] at ih ⊢
    exact ih.send routing
  | @leave s task told reason _ gone _ _ ih =>
    have released (told : List Act) :
        sentTo handle (s.log ++ (told ++ [.released])) = sentTo handle (s.log ++ told) := by
      simp [sentTo]
    change Spoken _ _ (sentTo handle (s.log ++ (_ ++ [.released]))) task.activeClient task.state
    rw [gone, released]
    cases told with
    | false => simpa using ih.inactive task.state
    | true => exact ih.farewell _ reason _

end Turns

/-- A client that becomes active does so under a permit. -/
theorem Deeds.started {start s : Scene} {cause : Cause} {handle : CaptureHandle}
    (deeds : Deeds start cause s) (other : start.task.activeClient ≠ some handle)
    (active : s.task.activeClient = some handle) : start.starts handle cause = true := by
  induction deeds with
  | start => exact absurd active other
  | adjust _ same _ _ ih => exact ih (same ▸ active)
  | enter _ _ _ starts =>
    cases active
    exact starts
  | leave _ _ _ _ gone => cases gone.symm.trans active
  | note _ _ _ ih | giveBack _ _ ih | rebuild _ _ _ _ ih | forward _ _ _ _ _ _ _ _ _ ih => exact ih active

/-- A client is left when it was active, or became active, in a turn that releases. -/
theorem Deeds.left {start s : Scene} {cause : Cause} {handle : CaptureHandle} {n : UInt32}
    (deeds : Deeds start cause s) (fresh : start.log = []) (left : .leave n ∈ sentTo handle s.log) :
    start.releases cause = true ∧
      (start.task.activeClient = some handle ∨ start.starts handle cause = true) := by
  induction deeds with
  | start => simp [fresh, sentTo] at left
  | note a quiet _ ih =>
    rw [Scene.record, sentTo_append] at left
    rcases List.mem_append.mp left with old | new
    · exact ih old
    · cases a with
      | send event own => cases event <;> simp_all [sentTo, Act.quiet]
      | _ => simp [sentTo] at new
  | adjust _ _ _ _ ih | giveBack _ _ ih | rebuild _ _ _ _ ih | enter _ _ _ _ _ _ ih => exact ih left
  | @forward _ own _ _ _ message _ _ routing _ ih =>
    rw [Scene.record, sentTo_append] at left
    rcases List.mem_append.mp left with old | new
    · exact ih old
    · obtain ⟨-, rfl⟩ : own = handle ∧ message = .leave n := by simpa [sentTo] using new
      exact absurd routing (routed_stays _ _ _ n)
  | @leave s task told reason releases gone _ deeds ih =>
    refine ⟨releases, or_iff_not_imp_left.mpr fun before => ?_⟩
    by_cases active : s.task.activeClient = some handle
    · exact deeds.started before active
    refine (ih ?_).2.resolve_left before
    have silent : sentTo handle [.released] = [] := rfl
    cases told <;> simpa [Scene.leave, sentTo_append, sentTo_farewell active, silent] using left

section Steps

def Process.releases (p : Process) (turn : Turn) : Bool :=
  (p.scene (p.finds turn).1).releases (p.finds turn).2

def Process.starts (p : Process) (handle : CaptureHandle) (turn : Turn) : Bool :=
  (p.scene (p.finds turn).1).starts handle (p.finds turn).2

variable {handle : CaptureHandle} {p p' : Process} {acts : List Act} {turn : Turn}

theorem finds_acked (acked : (p.finds turn).2.acks = true) :
    ∃ own n answers, turn = .receive own (.ack n) answers := by
  cases turn with
  | receive own event answers => cases event <;> simp_all [Process.finds, Cause.acks]
  | poll backend answers =>
    simp only [Process.finds] at acked
    split at acked <;> contradiction
  | _ => contradiction

theorem step_spoken (step : p.step turn = some (p', acts))
    (other : ∀ own n answers, turn ≠ .receive own (.ack n) answers) :
    Spoken handle p.task (sentTo handle acts) p'.task.activeClient p'.task.state := by
  obtain ⟨s, deeds, task, -, log⟩ := step_turned step
  have spoken : Spoken handle p.task (sentTo handle s.log) s.task.activeClient s.task.state := by
    refine deeds.spoken rfl (Bool.eq_false_iff.mpr ?_)
    intro acked
    obtain ⟨own, n, answers, is⟩ := finds_acked acked
    exact other own n answers is
  have same : sentTo handle acts = sentTo handle s.log := by
    rcases log with rfl | ⟨-, rfl⟩
    · rfl
    · simp [sentTo]
  rw [same, task]
  exact spoken

theorem step_started (step : p.step turn = some (p', acts))
    (other : p.task.activeClient ≠ some handle) (active : p'.task.activeClient = some handle) :
    p.starts handle turn = true := by
  obtain ⟨s, deeds, task, -⟩ := step_turned step
  exact deeds.started other (task ▸ active)

theorem step_left {n : UInt32} (step : p.step turn = some (p', acts))
    (left : .leave n ∈ sentTo handle acts) :
    p.releases turn = true ∧ (p.task.activeClient = some handle ∨ p.starts handle turn = true) := by
  obtain ⟨s, deeds, -, -, log⟩ := step_turned step
  refine deeds.left rfl (n := n) ?_
  rcases log with rfl | ⟨-, rfl⟩
  · exact left
  · simpa [sentTo] using left

theorem handlePeerEvent_ack (answers : Answers) (own : CaptureHandle) (n : UInt32) (s : Scene) :
    handlePeerEvent answers own (.ack n) s =
      .ok () (if s.task.activeClient.any (· ≠ own) then s
        else s.withTask { s.task with state := .sending }) := by
  change (if s.task.activeClient.any (· ≠ own) then (pure () : CaptureM Unit)
    else updateTask fun t => { t with state := .sending }) s = _
  split <;> rfl

theorem receive_step {event : ProtoEvent} {answers : Answers}
    (step : p.step (.receive own event answers) = some (p', acts)) :
    ∃ capture, p.serve capture (handlePeerEvent answers own event) = (p', acts) := by
  have selected : p.select (.receive own event answers) = some (p', acts) := step
  cases phase : p.phase with
  | capturing capture =>
    simp only [Process.select, phase, Option.some.injEq] at selected
    exact ⟨capture, selected⟩
  | opening | idle | returned | panicked => simp [Process.select, phase] at selected

theorem ack_step {n : UInt32} {answers : Answers}
    (step : p.step (.receive own (.ack n) answers) = some (p', acts)) :
    acts = [] ∧ p'.task.activeClient = p.task.activeClient ∧
      (p'.task.state = p.task.state ∨ ¬ p.task.activeClient.any (· ≠ own)) := by
  obtain ⟨capture, served⟩ := receive_step step
  simp only [Process.serve, handlePeerEvent_ack] at served
  cases served
  split
  · exact ⟨rfl, rfl, .inl rfl⟩
  · rename_i free
    exact ⟨rfl, rfl, .inr free⟩

end Steps

end DisplayMux.LanMouse
