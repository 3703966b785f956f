import Mathlib.Order.Fin.Basic
import DisplayMux.LanMouse.Speech

/-! Which keys the capture task leaves down at a client. The front end remembers the keys that
the backend reported as down, and the client is told of them when it is left. That covers what
the client was sent as long as the two are not driven apart. -/
namespace DisplayMux.LanMouse

open Scancode InputCapture

/-- What an act makes of a key at a client: that it is down, or up. A client that becomes active
starts with every key up. -/
def Act.presses (h : CaptureHandle) (k : UInt32) : Act → Option Bool
  | .send (.input (.keyboard (.key _ key state))) handle =>
    if handle = h ∧ key = k then some (state ≠ 0) else none
  | .decided permit true => if permit.handle = h then some false else none
  | _ => none

/-- The last that the client was told of the key is that it is down. -/
def down (h : CaptureHandle) (k : UInt32) (log : List Act) : Bool :=
  log.foldl (fun d a => (a.presses h k).getD d) false

/-- No key is down at the client when it is left. -/
def KeysUp (h : CaptureHandle) (k : UInt32) (log : List Act) : Prop :=
  ∀ before after, log = before ++ .send (.leave 0) h :: after → down h k before = false

/-- The event says that the key is up. -/
def CaptureEvent.raises (k : UInt32) : CaptureEvent → Bool
  | .input (.keyboard (.key _ key state)) => key = k && state = 0
  | _ => false

/-- A key-up for the client waits in the front end. -/
def InputCapture.owes (h : CaptureHandle) (k : UInt32) (c : InputCapture) : Bool :=
  c.pending.any fun (id, event) => id = h && event.raises k

/-- The events of the capture are forwarded while its client is active. -/
def Scene.forwards (s : Scene) (h : CaptureHandle) : Bool :=
  !s.capture.keysPressed s.task.releaseBind && (s.task.captures.find? (·.1 = h)).any (·.2.2 = .default)

namespace Process

variable (h : CaptureHandle) (k : UInt32) (code : Scancode) (p : Process)

/-- The backend reports a state of the key that is neither up nor down, or that a key which the
front end holds for down is up, at a side where the client is not. -/
def misses : Turn → Bool
  | .poll (.ready (.value (pos, .input (.keyboard (.key _ key state))))) _ =>
    p.phase.front.pending.isEmpty && key = k && state ≠ 1 && (state ≠ 0 ||
      code ∈ p.phase.front.pressedKeys && h ∉ (p.phase.front.positionMap.lookup pos).getD [])
  | _ => false

/-- The client is not told of a key-up that is handed out for it, or is left while one waits. -/
def swallows (s : Scene) (cause : Cause) : Bool :=
  s.capture.owes h k && s.releases cause || match cause with
    | .captured own event _ => own = h && event.raises k && !s.forwards h
    | _ => false

/-- While the client is active, the turn drives apart what the front end remembers of the key
and what the client was told: by an event that it mistakes, by giving the local input back
with the key down, by a key-up that does not reach the client, or by a new session. -/
def strays (turn : Turn) : Bool :=
  let (c, cause) := p.finds turn
  p.task.activeClient = some h && match turn with
    | .opened _ => true
    | _ => p.phase.live && (p.misses h k code turn || code ∈ c.pressedKeys && (p.scene c).frees cause ||
      swallows h k (p.scene c) cause)

end Process

section Logs

variable {h : CaptureHandle} {k : UInt32} {log : List Act}

theorem down_append (log acts : List Act) : down h k (log ++ acts) =
    acts.foldl (fun d a => (a.presses h k).getD d) (down h k log) := by
  rw [down, List.foldl_append]
  rfl

theorem down_snoc (log : List Act) (a : Act) :
    down h k (log ++ [a]) = (a.presses h k).getD (down h k log) := by
  rw [down_append]
  rfl

theorem presses_quiet {a : Act} (quiet : a.quiet = true) : a.presses h k ≠ some true := by
  cases a with
  | send event _ => cases event <;> simp_all [Act.quiet, Act.presses]
  | decided permit authorized => cases authorized <;> simp [Act.presses]
  | _ => simp [Act.presses]

theorem KeysUp.snoc (up : KeysUp h k log) {a : Act}
    (left : a = .send (.leave 0) h → down h k log = false) : KeysUp h k (log ++ [a]) := by
  intro before after here
  rcases List.eq_nil_or_concat after with rfl | ⟨rest, last, rfl⟩
  · obtain ⟨rfl, is⟩ := List.append_inj' here rfl
    exact left (List.cons.inj is).1
  · have whole : log ++ [a] = (before ++ .send (.leave 0) h :: rest) ++ [last] := by simpa using here
    exact up before rest (List.append_inj' whole rfl).1

theorem KeysUp.append (up : KeysUp h k log) {acts : List Act}
    (stays : .send (.leave 0) h ∉ acts) : KeysUp h k (log ++ acts) := by
  induction acts generalizing log with
  | nil => simpa using up
  | cons a acts ih =>
    have first : KeysUp h k (log ++ [a]) := up.snoc fun is => absurd (by simp [is]) stays
    simpa using ih first fun member => stays (by simp [member])

variable {code : Scancode} (known : tryFrom k = some code)

include known

theorem toU32_eq_iff (c : Scancode) : c.toU32 = k ↔ c = code := by
  unfold tryFrom at known
  split at known
  · rename_i small
    cases known
    rw [← UInt32.toNat_inj, Fin.ext_iff]
    simp only [toU32, UInt32.toNat_ofNat']
    omega
  · contradiction

theorem down_keyUps (keys : List Scancode) (log : List Act) :
    down h k (log ++ keys.map fun key => .send (keyUp key) h) = (down h k log && decide (code ∉ keys)) := by
  induction keys generalizing log with
  | nil => simp
  | cons key keys ih =>
    rw [List.map_cons, List.append_cons, ih, down_snoc]
    have up : (Act.send (keyUp key) h).presses h k = if key = code then some false else none := by
      simp [keyUp, Act.presses, toU32_eq_iff known]
    by_cases same : key = code
    · rw [up, if_pos same]
      simp [same]
    · simp [up, same, Ne.symm same]

/-- The client is told that the key is up before it is left, when the front end knew of it. -/
theorem KeysUp.farewell (up : KeysUp h k log) {keys : List Scancode} (reason : CaptureReleaseReason)
    (held : down h k log = true → code ∈ keys) :
    KeysUp h k (log ++ farewell (some h) keys reason) := by
  have off := down_keyUps (h := h) known keys log
  have raised : KeysUp h k (log ++ keys.map fun key => .send (keyUp key) h) :=
    up.append (by simp [keyUp])
  have moded : KeysUp h k (log ++ (keys.map fun key => .send (keyUp key) h) ++ [.send modsZero h]) :=
    raised.snoc (by simp [modsZero])
  have left := moded.snoc (a := .send (.leave 0) h) fun _ => by
    rw [down_snoc]
    change down h k (log ++ keys.map fun key => .send (keyUp key) h) = false
    rw [off]
    cases pressed : down h k log <;> simp_all
  have told := left.snoc (a := .notify (.clientReleased h reason)) (by simp)
  simpa [LanMouse.farewell] using told

omit known in
theorem farewell_other {own : Option CaptureHandle} (other : own ≠ some h) (keys : List Scancode)
    (reason : CaptureReleaseReason) : .send (.leave 0) h ∉ farewell own keys reason := by
  intro left
  have said : .leave 0 ∈ sentTo h (LanMouse.farewell own keys reason) :=
    List.mem_filterMap.mpr ⟨_, left, by simp⟩
  rw [sentTo_farewell other] at said
  contradiction

end Logs

section Turns

variable {h : CaptureHandle} {k : UInt32} {code : Scancode} {start s : Scene} {cause : Cause}
  {event : CaptureEvent} {past : List Act}

theorem Deeds.pending (deeds : Deeds start cause s) : s.capture.pending = start.capture.pending := by
  induction deeds with
  | start => rfl
  | rebuild _ _ pending _ ih => exact pending.trans ih
  | note _ _ _ ih | adjust _ _ _ _ ih | giveBack _ _ ih | enter _ _ _ _ _ _ ih
    | forward _ _ _ _ _ _ _ _ _ ih | leave _ _ _ _ _ _ _ ih => exact ih

theorem Deeds.remains (deeds : Deeds start cause s) (unreleased : start.releases cause = false)
    (fixed : ∀ own, start.starts own cause = false) : s.task.activeClient = start.task.activeClient ∧
      (start.task.state = .sending → s.task.state = .sending) := by
  induction deeds with
  | start => exact ⟨rfl, id⟩
  | adjust task active state _ ih =>
    exact ⟨active.trans ih.1, fun sending => state.elim (·.2) (·.trans (ih.2 sending))⟩
  | enter own _ _ starts => exact absurd starts (Bool.eq_false_iff.mp (fixed own))
  | leave _ _ _ releases => exact absurd releases (Bool.eq_false_iff.mp unreleased)
  | note _ _ _ ih | giveBack _ _ ih | rebuild _ _ _ _ ih | forward _ _ _ _ _ _ _ _ _ ih => exact ih

theorem Deeds.keeps (deeds : Deeds start cause s) (active : start.task.activeClient = some h)
    (found : code ∈ start.capture.pressedKeys) (kept : start.frees cause = false)
    (still : s.task.activeClient = some h) : code ∈ s.capture.pressedKeys := by
  induction deeds with
  | start => exact found
  | adjust _ same _ _ ih => exact ih (same ▸ still)
  | giveBack frees => exact absurd frees (Bool.eq_false_iff.mp kept)
  | rebuild _ keys _ _ ih => exact keys ▸ ih still
  | enter _ _ _ starts =>
    cases still
    exact absurd active (Scene.inactive_of_starts starts)
  | leave _ _ _ _ gone => cases gone.symm.trans still
  | note _ _ _ ih | forward _ _ _ _ _ _ _ _ _ ih => exact ih still

/-- The event says that the key is down. -/
def CaptureEvent.presses (k : UInt32) : CaptureEvent → Prop
  | .input (.keyboard (.key _ key state)) => key = k ∧ state ≠ 0
  | _ => False

theorem raises_not_presses (raises : event.raises k = true) : ¬ event.presses k := by
  unfold CaptureEvent.raises at raises
  split at raises <;> simp_all [CaptureEvent.presses]

theorem presses_routed {state : AckState} {opposite : Position} {message : ProtoEvent}
    {own : CaptureHandle} (routing : routed state opposite event = some message)
    (pressed : (Act.send message own).presses h k = some true) :
    own = h ∧ event.presses k ∧ state = .sending ∧ ∃ e, event = .input e := by
  cases event with
  | begin =>
    cases routing
    simp [Act.presses] at pressed
  | edgeRetreated => contradiction
  | input e =>
    cases state with
    | waitingForAck =>
      cases routing
      simp [Act.presses] at pressed
    | sending =>
      cases routing
      cases e with
      | pointer _ => simp [Act.presses] at pressed
      | keyboard event =>
        cases event <;> simp_all [Act.presses, CaptureEvent.presses]

/-- A client is left only with the key up, and stays active with the key down only if the front
end knew of it. -/
structure Minds (h : CaptureHandle) (k : UInt32) (code : Scancode) (past : List Act) (start s : Scene) :
    Prop where
  up : KeysUp h k (past ++ s.log)
  held : s.task.activeClient = some h → down h k (past ++ s.log) = true →
    start.task.activeClient = some h ∧ code ∈ start.capture.pressedKeys ∧ s.task.state = .sending

theorem Minds.snoc {a : Act} (minds : Minds h k code past start s)
    (stays : a ≠ .send (.leave 0) h)
    (typed : a.presses h k = some true → s.task.activeClient = some h →
      start.task.activeClient = some h ∧ code ∈ start.capture.pressedKeys ∧ s.task.state = .sending) :
    Minds h k code past start (s.record a) := by
  refine ⟨?_, ?_⟩
  · rw [Scene.record, ← List.append_assoc]
    exact minds.up.snoc fun is => absurd is stays
  intro active pressed
  rw [Scene.record, ← List.append_assoc, down_snoc] at pressed
  cases told : a.presses h k with
  | none =>
    rw [told] at pressed
    exact minds.held active pressed
  | some pressing =>
    rw [told] at pressed
    obtain rfl : pressing = true := pressed
    exact typed told active

theorem KeysUp.leave (known : tryFrom k = some code) (up : KeysUp h k (past ++ s.log))
    (held : s.task.activeClient = some h → down h k (past ++ s.log) = true → code ∈ s.capture.pressedKeys)
    (task : CaptureTask) (told : Bool) (reason : CaptureReleaseReason) :
    KeysUp h k (past ++ (s.leave task told reason).log) := by
  have said : KeysUp h k (past ++ s.log ++
      if told then LanMouse.farewell s.task.activeClient s.capture.pressedKeys reason else []) := by
    split
    · by_cases active : s.task.activeClient = some h
      · rw [active]
        exact up.farewell known reason (held active)
      · exact up.append (farewell_other active _ reason)
    · simpa using up
  have released := said.snoc (a := .released) (by simp)
  simpa [Scene.leave] using released

theorem Deeds.minds (known : tryFrom k = some code) (deeds : Deeds start cause s)
    (fresh : start.log = []) (up : KeysUp h k past)
    (held : start.task.activeClient = some h → down h k past = true →
      code ∈ start.capture.pressedKeys ∧ start.task.state = .sending)
    (typed : ∀ own event answers, start.task.activeClient = some h →
      cause = .captured own event answers → event.presses k → code ∈ start.capture.pressedKeys) :
    Minds h k code past start s := by
  induction deeds with
  | start =>
    refine ⟨by simpa [fresh] using up, fun active pressed => ⟨active, held active ?_⟩⟩
    simpa [fresh] using pressed
  | note a quiet _ ih =>
    refine ih.snoc ?_ fun told => absurd told (presses_quiet quiet)
    rintro rfl
    contradiction
  | adjust task same state _ ih =>
    refine ⟨ih.up, fun active pressed => ?_⟩
    obtain ⟨was, found, sending⟩ := ih.held (same ▸ active) pressed
    exact ⟨was, found, state.elim (·.2) (·.trans sending)⟩
  | giveBack _ _ ih | rebuild _ _ _ _ ih => exact ⟨ih.up, ih.held⟩
  | @enter s handle permit own _ granted _ ih =>
    refine ⟨ih.up, ?_⟩
    rintro ⟨⟩ pressed
    have log : past ++ s.log = past ++ (grant h permit).dropLast ++ [.decided permit true] := by
      simp [granted, fresh, grant]
    change down h k (past ++ s.log) = true at pressed
    rw [log, down_snoc] at pressed
    simp [Act.presses, own] at pressed
  | @forward s own _ _ answers message active heard routing deeds ih =>
    refine ih.snoc ?_ ?_
    · rintro ⟨⟩
      exact routed_stays _ _ _ _ routing
    intro told _
    obtain ⟨rfl, pressed, sending, e, rfl⟩ := presses_routed routing told
    have was : start.task.activeClient = some own := by
      by_contra other
      have starts := deeds.started other active
      rw [heard] at starts
      contradiction
    exact ⟨was, typed _ _ answers was heard pressed, sending⟩
  | @leave s task told reason _ gone keys _ ih =>
    refine ⟨ih.up.leave known ?_ task told reason, fun active => absurd (gone.symm.trans active) (by simp)⟩
    intro active pressed
    rw [keys]
    exact (ih.held active pressed).2.1

end Turns

variable {event : CaptureEvent}

section Told

open Std.Do

set_option mvcgen.warning false

variable {h : CaptureHandle} {k : UInt32} {code : Scancode} {past : List Act}

/-- No key is down at the client that is active or was left. -/
def Raised (h : CaptureHandle) (k : UInt32) (past : List Act) (s : Scene) : Prop :=
  KeysUp h k (past ++ s.log) ∧ (s.task.activeClient = some h → down h k (past ++ s.log) = false)

theorem releaseCapture_raised (known : tryFrom k = some code) (answers : Answers)
    (reason : CaptureReleaseReason) :
    Ensures (Raised h k past) (Raised h k past) (releaseCapture answers reason) := by
  refine .of_start (releaseCapture_leaves answers reason) ?_
  rintro s s' ⟨up, raised⟩ ⟨gone, told, same⟩
  rw [same]
  refine ⟨up.leave known (fun active pressed => ?_) _ told reason, fun active => ?_⟩
  · rw [raised active] at pressed
    contradiction
  · cases gone.symm.trans active

theorem forwarded_eq {s : Scene} {e : Event} (answers : Answers)
    (active : s.task.activeClient = some h) (sending : s.task.state = .sending)
    (forwards : s.forwards h = true) :
    handleCaptureEvent answers h (.input e) s = (do
      send (.input e) h
      unless answers.sendOk do releaseCapture answers .transportFailed : CaptureM Unit)
        (s.record (.captured h (.input e))) := by
  simp only [Scene.forwards, Bool.and_eq_true, Bool.not_eq_true', Option.any_eq_true, decide_eq_true_eq]
    at forwards
  obtain ⟨free, ⟨own, pos, type⟩, found, rfl⟩ := forwards
  simp [handleCaptureEvent, routeEvent, getCapture, forward, perform, get_bind, modify_bind,
    Scene.record, free, found, active, sending, routed]

theorem raise_told {start : Scene} (known : tryFrom k = some code)
    (answers : Answers) (fresh : start.log = []) (up : KeysUp h k past)
    (active : start.task.activeClient = some h) (sending : start.task.state = .sending)
    (forwards : start.forwards h = true) (raises : event.raises k = true) :
    Ensures (· = start) (Raised h k past) (handleCaptureEvent answers h event) := by
  unfold CaptureEvent.raises at raises
  split at raises
  · rename_i time key state
    obtain ⟨rfl, rfl⟩ : key = k ∧ state = 0 := by simpa using raises
    have released (reason : CaptureReleaseReason) :
        Ensures (Raised h key past) (Raised h key past) (releaseCapture answers reason) :=
      releaseCapture_raised known answers reason
    have sent : Ensures (· = start.record (.captured h (.input (.keyboard (.key time key 0)))))
        (Raised h key past) (do
          send (.input (.keyboard (.key time key 0))) h
          unless answers.sendOk do releaseCapture answers .transportFailed : CaptureM Unit) := by
      have told : Raised h key past ((start.record (.captured h (.input (.keyboard (.key time key 0))))).record
          (.send (.input (.keyboard (.key time key 0))) h)) := by
        constructor
        · have stays (e : CaptureEvent) (e' : Event) :
              .send (.leave 0) h ∉ [Act.captured h e, .send (.input e') h] := by simp
          simpa [Scene.record, fresh] using up.append (stays _ _)
        · intro _
          rw [Scene.record, ← List.append_assoc, down_snoc]
          simp [Act.presses]
      mvcgen [released]
      all_goals
        subst_vars
        exact told
    rintro _ rfl
    have ends := sent _ rfl
    simp only [WP.wp, PredTrans.apply, EStateM.run, forwarded_eq answers active sending forwards] at ends ⊢
    exact ends
  · contradiction

end Told

section Polls

variable {h : CaptureHandle} {k : UInt32} {code : Scancode} {c : InputCapture}

theorem track_press (known : tryFrom k = some code) (time : UInt32) :
    code ∈ (c.track (.input (.keyboard (.key time k 1)))).pressedKeys := by
  simp [track, updatePressedKeys, known]

theorem track_other (known : tryFrom k = some code)
    (other : ∀ time state, event ≠ .input (.keyboard (.key time k state))) :
    code ∈ (c.track event).pressedKeys ↔ code ∈ c.pressedKeys := by
  unfold track
  split
  · rename_i time key state
    have apart : key ≠ k := fun is => other time state (by rw [is])
    unfold updatePressedKeys
    split
    · rfl
    · rename_i own found
      have differs : code ≠ own := by
        rintro rfl
        exact apart (((toU32_eq_iff found code).mpr rfl).symm.trans ((toU32_eq_iff known code).mpr rfl))
      split
      · simp [differs]
      · simp [List.mem_erase_of_ne differs]
  · rfl

/-- Where the front end of a turn comes from: it is as the last turn left it, or it hands on
an event that was waiting, or it follows an event of the backend, for the captures at its side. -/
theorem finds_cases (p : Process) (turn : Turn) :
    ((p.finds turn).1 = p.phase.front ∧ ∀ id event answers, (p.finds turn).2 ≠ .captured id event answers) ∨
    (∃ id event answers, p.phase.front.pending = (id, event) :: (p.finds turn).1.pending ∧
      (p.finds turn).1.pressedKeys = p.phase.front.pressedKeys ∧
      (p.finds turn).2 = .captured id event answers) ∨
    ∃ pos event answers ids, turn = .poll (.ready (.value (pos, event))) answers ∧
      p.phase.front.pending = [] ∧ (p.phase.front.positionMap.lookup pos).getD [] = ids ∧
      (p.finds turn).1.pressedKeys = (p.phase.front.track event).pressedKeys ∧
      (p.finds turn).1.pending = ids.tail.map (·, event) ∧
      (p.finds turn).2 = ids.head?.elim .other (.captured · event answers) := by
  cases turn with
  | poll backend answers =>
    cases waiting : p.phase.front.pending with
    | cons x rest =>
      simp only [Process.finds, pollNext, waiting]
      exact .inr (.inl ⟨x.1, x.2, answers, rfl, trivial, rfl⟩)
    | nil =>
      simp only [Process.finds, pollNext, waiting]
      cases backend with
      | pending => exact .inl ⟨rfl, by simp⟩
      | ready item =>
        cases item with
        | error | closed => exact .inl ⟨rfl, by simp⟩
        | value item =>
          obtain ⟨pos, event⟩ := item
          dsimp only
          have same := p.phase.front.track_idMap event
          refine .inr (.inr ⟨pos, event, answers, _, rfl, trivial, rfl, ?_⟩)
          rw [same.2.1]
          cases (p.phase.front.positionMap.lookup pos).getD [] with
          | nil => exact ⟨rfl, by simp [same.2.2, waiting], rfl⟩
          | cons id ids => exact ⟨rfl, rfl, rfl⟩
  | _ => exact .inl ⟨rfl, by simp [Process.finds]⟩

/-- All that waits with a captured event is that event. -/
theorem alike_found {p : Process} {turn : Turn}
    (alike : ∀ x ∈ p.phase.front.pending, ∀ y ∈ p.phase.front.pending, x.2 = y.2) :
    (∀ x ∈ (p.finds turn).1.pending, ∀ y ∈ (p.finds turn).1.pending, x.2 = y.2) ∧
      ∀ id event answers, (p.finds turn).2 = .captured id event answers →
        ∀ x ∈ (p.finds turn).1.pending, x.2 = event := by
  rcases finds_cases p turn with ⟨same, other⟩ | ⟨id, event, answers, waiting, -, is⟩ |
    ⟨-, event, answers, ids, -, -, -, -, pending, is⟩
  · rw [same]
    exact ⟨alike, fun id event answers is => absurd is (other id event answers)⟩
  · rw [waiting] at alike
    refine ⟨fun x hx y hy => alike x (by simp [hx]) y (by simp [hy]), ?_⟩
    intro own other _ cause x hx
    rw [is] at cause
    cases cause
    exact alike x (by simp [hx]) (id, event) (by simp)
  · have all (x : CaptureHandle × CaptureEvent) (hx : x ∈ (p.finds turn).1.pending) : x.2 = event := by
      rw [pending] at hx
      obtain ⟨_, -, rfl⟩ := List.mem_map.mp hx
      rfl
    refine ⟨fun x hx y hy => (all x hx).trans (all y hy).symm, ?_⟩
    intro own other _ cause x hx
    rw [is] at cause
    cases ids with
    | nil => contradiction
    | cons id ids =>
      cases cause
      exact all x hx

end Polls

section Runs

variable {h : CaptureHandle} {k : UInt32} {code : Scancode} {p p' : Process} {turn : Turn}
  {acts past : List Act} {trace : List (Entry Process Turn (List Act))}

/-- A key that is down at the client is down for the front end, or a key-up is on its way. -/
structure Followed (h : CaptureHandle) (k : UInt32) (code : Scancode) (past : List Act) (p : Process) :
    Prop where
  up : KeysUp h k past
  told : p.present = some h → down h k past = true → p.task.state = .sending ∧
    (code ∈ p.phase.front.pressedKeys ∨ p.phase.front.owes h k = true)
  alike : ∀ x ∈ p.phase.front.pending, ∀ y ∈ p.phase.front.pending, x.2 = y.2
  waiting : p.present = some h → ∀ x ∈ p.phase.front.pending, x.2.presses k →
    code ∈ p.phase.front.pressedKeys

theorem present_iff : p.present = some h ↔ p.phase.live = true ∧ p.task.activeClient = some h := by
  unfold Process.present
  split <;> simp_all

theorem front_of_dead (dead : p.phase.live = false) : p.phase.front = .new := by
  cases phase : p.phase with
  | capturing _ => simp [phase, Phase.live] at dead
  | _ => rfl

theorem Followed.dead (dead : p.phase.live = false) (up : KeysUp h k past) : Followed h k code past p := by
  have absent : p.present ≠ some h := fun present => by simp [(present_iff.mp present).1] at dead
  refine ⟨up, fun present => absurd present absent, ?_, fun present => absurd present absent⟩
  simp [front_of_dead dead, InputCapture.new]

theorem steady (ok : p.strays h k code turn = false) (present : p.present = some h) :
    p.misses h k code turn = false ∧
    (code ∈ (p.finds turn).1.pressedKeys →
      (p.scene (p.finds turn).1).frees (p.finds turn).2 = false) ∧
    Process.swallows h k (p.scene (p.finds turn).1) (p.finds turn).2 = false := by
  obtain ⟨live, active⟩ := present_iff.mp present
  cases turn with
  | opened _ => simp [Process.strays, active] at ok
  | _ =>
    simp only [Process.strays, active, live, decide_true, Bool.true_and, Bool.or_eq_false_iff,
      Bool.and_eq_false_imp, decide_eq_true_eq] at ok
    exact ⟨ok.1.1, ok.1.2, ok.2⟩

theorem press_found (known : tryFrom k = some code) (followed : Followed h k code past p)
    (ok : p.strays h k code turn = false) (present : p.present = some h)
    (heard : (∃ id answers, (p.finds turn).2 = .captured id event answers) ∨
      ∃ x ∈ (p.finds turn).1.pending, x.2 = event)
    (pressed : event.presses k) : code ∈ (p.finds turn).1.pressedKeys := by
  rcases finds_cases p turn with ⟨same, other⟩ | ⟨id, first, answers, waiting, keys, is⟩ |
    ⟨pos, polled, answers, ids, rfl, idle, -, keys, pending, is⟩
  · rcases heard with ⟨_, _, cause⟩ | ⟨x, member, rfl⟩
    · exact absurd cause (other _ event _)
    · rw [same] at member ⊢
      exact followed.waiting present x member pressed
  · rw [keys]
    rcases heard with ⟨_, _, cause⟩ | ⟨x, member, rfl⟩
    · cases is.symm.trans cause
      exact followed.waiting present (id, event) (by simp [waiting]) pressed
    · exact followed.waiting present x (by simp [waiting, member]) pressed
  · obtain rfl : event = polled := by
      rcases heard with ⟨_, _, cause⟩ | ⟨x, member, rfl⟩
      · rw [is] at cause
        cases ids <;> cases cause
        rfl
      · rw [pending] at member
        obtain ⟨_, -, rfl⟩ := List.mem_map.mp member
        rfl
    rw [keys]
    unfold CaptureEvent.presses at pressed
    split at pressed
    · obtain ⟨rfl, nonzero⟩ := pressed
      have missed := (steady ok present).1
      simp only [Process.misses, idle] at missed
      simp [nonzero] at missed
      rw [missed]
      exact track_press known _
    · contradiction

/-- When the front end has dropped a key that is down at the client, a key-up is handed to the
client or waits for it. -/
theorem raise_owed (known : tryFrom k = some code) (followed : Followed h k code past p)
    (ok : p.strays h k code turn = false) (present : p.present = some h) (pressed : down h k past = true)
    (dropped : code ∉ (p.finds turn).1.pressedKeys) :
    (p.finds turn).1.owes h k = true ∨
      ∃ event answers, (p.finds turn).2 = .captured h event answers ∧ event.raises k = true := by
  have before := (followed.told present pressed).2
  rcases finds_cases p turn with ⟨same, -⟩ | ⟨id, event, answers, waiting, keys, is⟩ |
    ⟨pos, event, answers, ids, rfl, idle, listed, keys, pending, is⟩
  · rw [same] at dropped ⊢
    exact .inl (before.resolve_left dropped)
  · have owes := before.resolve_left (keys ▸ dropped)
    simp only [InputCapture.owes, waiting, List.any_cons, Bool.or_eq_true, Bool.and_eq_true,
      decide_eq_true_eq] at owes
    rcases owes with ⟨rfl, raises⟩ | later
    · exact .inr ⟨event, answers, is, raises⟩
    · exact .inl later
  have held : code ∈ p.phase.front.pressedKeys := by
    refine before.resolve_right fun owes => ?_
    simp [InputCapture.owes, idle] at owes
  rw [keys] at dropped
  by_cases own : ∃ time state, event = .input (.keyboard (.key time k state))
  · obtain ⟨time, state, rfl⟩ := own
    have missed := (steady ok present).1
    simp only [Process.misses, idle, listed] at missed
    simp [held] at missed
    have nonzero : state ≠ 1 := by
      rintro rfl
      exact dropped (track_press known time)
    obtain ⟨rfl, here⟩ := missed nonzero
    cases ids with
    | nil => contradiction
    | cons id ids =>
      rcases List.mem_cons.mp here with rfl | later
      · exact .inr ⟨_, answers, is, by simp [CaptureEvent.raises]⟩
      · exact .inl (by simpa [InputCapture.owes, pending, CaptureEvent.raises] using later)
  · push Not at own
    exact absurd ((track_other known own).mpr held) dropped

/-- What the deeds of a turn establish holds after the turn, which may end the session. -/
theorem Followed.turned (step : p.step turn = some (p', acts))
    (alike : ∀ x ∈ p.phase.front.pending, ∀ y ∈ p.phase.front.pending, x.2 = y.2)
    (follows : ∀ s, Deeds (p.scene (p.finds turn).1) (p.finds turn).2 s → KeysUp h k (past ++ s.log) ∧
      (s.task.activeClient = some h → (down h k (past ++ s.log) = true → s.task.state = .sending ∧
        (code ∈ s.capture.pressedKeys ∨ s.capture.owes h k = true)) ∧
        ∀ x ∈ s.capture.pending, x.2.presses k → code ∈ s.capture.pressedKeys)) :
    Followed h k code (past ++ acts) p' := by
  obtain ⟨s, deeds, task, front, log⟩ := step_turned step
  obtain ⟨up, rest⟩ := follows s deeds
  have here (present : p'.present = some h) :
      s.task.activeClient = some h ∧ p'.phase.front = s.capture ∧ acts = s.log := by
    obtain ⟨live, active⟩ := present_iff.mp present
    refine ⟨task ▸ active, front.resolve_right (by simp [live]), log.resolve_right ?_⟩
    rintro ⟨idle, -⟩
    simp [idle, Phase.live] at live
  refine ⟨?_, ?_, ?_, ?_⟩
  · rcases log with rfl | ⟨-, rfl⟩
    · exact up
    · rw [← List.append_assoc]
      exact up.append (by simp)
  · intro present pressed
    obtain ⟨active, same, rfl⟩ := here present
    rw [same, task]
    exact (rest active).1 pressed
  · rcases front with same | dead
    · rw [same, deeds.pending]
      exact (alike_found alike).1
    · simp [front_of_dead dead, InputCapture.new]
  · intro present
    obtain ⟨active, same, -⟩ := here present
    rw [same]
    exact (rest active).2

theorem Followed.away (known : tryFrom k = some code) (followed : Followed h k code past p)
    (step : p.step turn = some (p', acts)) (other : p.task.activeClient ≠ some h) :
    Followed h k code (past ++ acts) p' := by
  refine .turned step followed.alike fun s deeds => ?_
  have minds : Minds h k code past (p.scene (p.finds turn).1) s := deeds.minds known rfl followed.up
    (fun active => absurd active other) fun _ _ _ active => absurd active other
  refine ⟨minds.up, fun active => ⟨fun pressed => absurd (minds.held active pressed).1 other, ?_⟩⟩
  intro x member pressed
  have starts := deeds.started other active
  unfold Scene.starts at starts
  split at starts
  · rename_i own answers cause
    rw [deeds.pending] at member
    rw [(alike_found followed.alike).2 own .begin answers cause x member] at pressed
    contradiction
  · contradiction

/-- The client stays active and is not left, and the key-up still waits for it. -/
theorem Followed.owing (followed : Followed h k code past p) (step : p.step turn = some (p', acts))
    (ok : p.strays h k code turn = false) (present : p.present = some h) (pressed : down h k past = true)
    (owes : (p.finds turn).1.owes h k = true) : Followed h k code (past ++ acts) p' := by
  have kept : (p.scene (p.finds turn).1).releases (p.finds turn).2 = false := by
    have swallowed := (steady ok present).2.2
    simp only [Process.swallows, Bool.or_eq_false_iff, Process.scene, owes, Bool.true_and] at swallowed
    exact swallowed.1
  obtain ⟨⟨id, raised⟩, member, raises⟩ := List.any_eq_true.mp owes
  obtain ⟨-, raises⟩ := Bool.and_eq_true_iff.mp raises
  have fixed (own : CaptureHandle) : (p.scene (p.finds turn).1).starts own (p.finds turn).2 = false := by
    unfold Scene.starts
    split
    · rename_i other answers cause
      obtain rfl := (alike_found followed.alike).2 other .begin answers cause _ member
      contradiction
    · rfl
  refine .turned step followed.alike fun s deeds => ?_
  obtain ⟨-, sending⟩ := deeds.remains kept fixed
  refine ⟨followed.up.append fun left => ?_, fun _ => ⟨fun _ => ?_, ?_⟩⟩
  · have said : .leave 0 ∈ sentTo h s.log := List.mem_filterMap.mpr ⟨_, left, by simp⟩
    rw [(deeds.left rfl said).1] at kept
    contradiction
  · refine ⟨sending (followed.told present pressed).1, .inr ?_⟩
    rw [InputCapture.owes, deeds.pending]
    exact owes
  · intro x hx presses
    rw [deeds.pending] at hx
    rw [(alike_found followed.alike).1 x hx _ member] at presses
    exact absurd presses (raises_not_presses raises)

theorem captured_step {answers : Answers} (step : p.step turn = some (p', acts))
    (live : p.phase.live = true) (cause : (p.finds turn).2 = .captured h event answers) :
    p.serve (p.finds turn).1 (handleCaptureEvent answers h event) = (p', acts) := by
  cases turn with
  | poll backend answers =>
    cases phase : p.phase with
    | capturing c =>
      change p.select _ = _ at step
      simp only [Process.select, phase, Process.poll, Option.some.injEq] at step
      simp only [Process.finds, phase, Phase.front] at cause ⊢
      split at step <;> simp_all
    | _ => simp [phase, Phase.live] at live
  | _ => contradiction

/-- The key-up is handed to the client, which is told. -/
theorem Followed.raised (known : tryFrom k = some code) (followed : Followed h k code past p)
    (step : p.step turn = some (p', acts)) (ok : p.strays h k code turn = false)
    (present : p.present = some h) (pressed : down h k past = true)
    {answers : Answers} (cause : (p.finds turn).2 = .captured h event answers)
    (raises : event.raises k = true) : Followed h k code (past ++ acts) p' := by
  obtain ⟨live, active⟩ := present_iff.mp present
  have forwards : (p.scene (p.finds turn).1).forwards h = true := by
    have swallowed := (steady ok present).2.2
    simpa [Process.swallows, cause, raises] using (Bool.or_eq_false_iff.mp swallowed).2
  have told := raise_told known answers rfl followed.up active
    (followed.told present pressed).1 forwards raises
  have deeds := handleCaptureEvent_deeds (p.scene (p.finds turn).1) answers h event
  have served := captured_step step live cause
  unfold Process.serve at served
  split at served <;> rename_i s ran <;> cases served
  · obtain ⟨up, raised⟩ := told.ok rfl ran
    have pending := (deeds.ok rfl ran).pending
    refine ⟨up, fun present down => ?_, ?_, fun _ x member presses => ?_⟩
    · rw [raised (present_iff.mp present).2] at down
      contradiction
    · simp only [Phase.front, pending]
      exact (alike_found followed.alike).1
    · simp only [Phase.front, pending] at member
      rw [(alike_found followed.alike).2 h event answers cause x member] at presses
      exact absurd presses (raises_not_presses raises)
  all_goals
    refine .dead rfl ?_
    rw [← List.append_assoc]
    exact (told.error rfl ran).1.append (by simp)

theorem Followed.step (known : tryFrom k = some code) (followed : Followed h k code past p)
    (step : p.step turn = some (p', acts)) (ok : p.strays h k code turn = false) :
    Followed h k code (past ++ acts) p' := by
  by_cases active : p.task.activeClient = some h
  · by_cases live : p.phase.live = true
    · have present := present_iff.mpr ⟨live, active⟩
      by_cases dropped : down h k past = true ∧ code ∉ (p.finds turn).1.pressedKeys
      · rcases raise_owed known followed ok present dropped.1 dropped.2 with
          owes | ⟨event, answers, cause, raises⟩
        · exact followed.owing step ok present dropped.1 owes
        · exact followed.raised known step ok present dropped.1 cause raises
      have known_down (pressed : down h k past = true) : code ∈ (p.finds turn).1.pressedKeys :=
        not_not.mp fun missing => dropped ⟨pressed, missing⟩
      refine .turned step followed.alike fun s deeds => ?_
      have minds : Minds h k code past (p.scene (p.finds turn).1) s := deeds.minds known rfl followed.up
        (fun _ pressed => ⟨known_down pressed, (followed.told present pressed).1⟩)
        fun id event answers _ cause => press_found known followed ok present (.inl ⟨id, answers, cause⟩)
      have keeps (still : s.task.activeClient = some h) (found : code ∈ (p.finds turn).1.pressedKeys) :
          code ∈ s.capture.pressedKeys := deeds.keeps active found ((steady ok present).2.1 found) still
      refine ⟨minds.up, fun still => ⟨fun pressed => ?_, fun x member pressed => keeps still ?_⟩⟩
      · obtain ⟨-, found, sending⟩ := minds.held still pressed
        exact ⟨sending, .inl (keeps still found)⟩
      · rw [deeds.pending] at member
        exact press_found known followed ok present (.inr ⟨x, member, rfl⟩) pressed
    · have closed (stop : Option (Nat × Interrupt)) : turn ≠ .opened stop := by
        rintro rfl
        simp [Process.strays, active] at ok
      obtain ⟨dead, silent⟩ := between_sessions (by simpa using live) closed step
      refine .dead dead (followed.up.append ?_)
      rcases silent with rfl | rfl <;> simp
  · exact followed.away known step active

/-- A client is left with the key up, for every key that the front end can name, as long as
no turn drives apart the front end's record of it and what the client was sent. -/
theorem keys_up_when_left {clock : Nat} {releaseBind : List Scancode}
    (run : Run captureTask (.new clock releaseBind) trace p) (known : tryFrom k = some code)
    (ok : ∀ e ∈ trace, e.pre.strays h k code e.input = false) : KeysUp h k (actsOf trace) := by
  refine (run.history (P := fun trace p => (∀ e ∈ trace, e.pre.strays h k code e.input = false) →
    Followed h k code (actsOf trace) p) ?_ ?_ ok).up
  · intro _
    refine ⟨by simp [KeysUp, actsOf], ?_, ?_, ?_⟩ <;>
      simp [Process.new, Process.present, Phase.live, Phase.front, new]
  · intro trace p turn p' acts _ ih step ok
    have followed := ih fun e member => ok e (List.mem_append_left _ member)
    simpa [actsOf] using followed.step known step (ok ⟨p, turn, acts, p'⟩ (by simp))

/-- The client is entered and acknowledges, a key is pressed, and the client leaves. -/
def typeTurns (key : UInt32) (state : UInt8) : List Turn :=
  let agree : Answers := ⟨true, true, true⟩
  enterTurns ++ [.receive 1 (.ack 0) agree,
    .poll (.ready (.value (.left, .input (.keyboard (.key 0 key state))))) agree,
    .receive 1 (.leave 0) agree]

def typedActs (key : UInt32) (state : UInt8) : List Act :=
  enterActs ++ [.send (.enter .right) 1, .captured 1 (.input (.keyboard (.key 0 key state))),
    .send (.input (.keyboard (.key 0 key state))) 1]

def leftActs : List Act :=
  [.send modsZero 1, .send (.leave 0) 1, .notify (.clientReleased 1 .peerLeft), .released]

/-- The same with another capture at the edge that only reports being entered: every event is
handed to it first. The key is pressed, released and pressed again. -/
def sharedTurns : List Turn :=
  let agree : Answers := ⟨true, true, true⟩
  let key (state : UInt8) : List Turn :=
    [.poll (.ready (.value (.left, .input (.keyboard (.key 0 30 state))))) agree, .poll .pending agree]
  [.opened none, .request (.create 2 .left .enterOnly) agree, .request (.create 1 .left .default) agree,
    .arm 1 1 7 1000, .poll (.ready (.value (.left, .begin))) agree, .poll .pending agree,
    .receive 1 (.ack 0) agree] ++ key 1 ++ key 0 ++ key 1 ++ [.receive 1 (.leave 0) agree]

theorem pressed_key_released : ∃ trace p, Run captureTask (.new 0 [42]) trace p ∧
    .send (keyUp 30) 1 :: leftActs <:+ actsOf trace ∧ KeysUp 1 30 (actsOf trace) := by
  obtain ⟨trace, p, run, kept, left⟩ := captureTask.exists_run (.new 0 [42]) sharedTurns
    (fun trace _ => (∀ e ∈ trace, e.pre.strays 1 30 30 e.input = false) ∧
      .send (keyUp 30) 1 :: leftActs <:+ actsOf trace) (by decide +kernel)
  exact ⟨trace, p, run, left, keys_up_when_left run rfl kept⟩

/-- A key is down when the client is left, if the last it was sent of the key is a press. -/
theorem left_down {key : UInt32} {state : UInt8}
    (pressed : down 1 key (typedActs key state ++ [.send modsZero 1]) = true) :
    ¬ KeysUp 1 key (typedActs key state ++ leftActs) := by
  intro up
  have raised := up (typedActs key state ++ [.send modsZero 1]) (leftActs.drop 2) (by simp [leftActs])
  rw [pressed] at raised
  contradiction

/-- A key above the codes that the front end can name is sent to the client as down, and so is
a key whose state is neither up nor down; neither is up when the client is left. -/
theorem unnamed_key_left_down :
    (∃ trace p, Run captureTask (.new 0 [42]) trace p ∧ actsOf trace = typedActs 300 1 ++ leftActs ∧
      ¬ KeysUp 1 300 (actsOf trace)) ∧
    ∃ trace p, Run captureTask (.new 0 [42]) trace p ∧ actsOf trace = typedActs 30 2 ++ leftActs ∧
      ¬ KeysUp 1 30 (actsOf trace) := by
  obtain ⟨high, p, first, unnamed⟩ := captureTask.exists_run (.new 0 [42]) (typeTurns 300 1)
    (fun trace _ => actsOf trace = typedActs 300 1 ++ leftActs) (by decide +kernel)
  obtain ⟨odd, q, second, unknown⟩ := captureTask.exists_run (.new 0 [42]) (typeTurns 30 2)
    (fun trace _ => actsOf trace = typedActs 30 2 ++ leftActs) (by decide +kernel)
  refine ⟨⟨high, p, first, unnamed, ?_⟩, odd, q, second, unknown, ?_⟩
  · rw [unnamed]
    exact left_down (by decide +kernel)
  · rw [unknown]
    exact left_down (by decide +kernel)

end Runs

end DisplayMux.LanMouse
