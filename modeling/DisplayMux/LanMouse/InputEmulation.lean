import Mathlib.Data.List.AList
import DisplayMux.Lib.Machine
import DisplayMux.Lib.Roster
import DisplayMux.LanMouse.Event

/-! The emulation front end: it passes the input of several peers to one backend, drops what
would press a key twice or release it twice, and releases what is still down when a peer
goes. In which order a hash set is walked, and which events the backend refuses, is free. -/
namespace DisplayMux.LanMouse

abbrev EmulationHandle := Nat

/-- The keys or the buttons that are down, for each handle. -/
abbrev PressedCodes := AList fun _ : EmulationHandle => List UInt32

structure InputEmulation where
  handles : List EmulationHandle
  pressedButtons : PressedCodes
  pressedKeys : PressedCodes

open InputEmulation

inductive BackendCall where
  | create (handle : EmulationHandle)
  | destroy (handle : EmulationHandle)
  | consume (event : Event) (handle : EmulationHandle)
  | terminate
  deriving DecidableEq, Repr

open BackendCall

/-- How the sets are walked and the backend answers during one call. -/
structure Conduct where
  drainedKeys : EmulationHandle → List UInt32 → List UInt32
  drainedButtons : EmulationHandle → List UInt32 → List UInt32
  listed : List EmulationHandle → List EmulationHandle
  accepts : Event → EmulationHandle → Bool
  keys_perm : ∀ handle codes, (drainedKeys handle codes).Perm codes
  buttons_perm : ∀ handle codes, (drainedButtons handle codes).Perm codes
  listed_perm : ∀ handles, (listed handles).Perm handles

/-- The calls of the backend, and the result: whether `create` is the first for its handle,
and whether `consume` and `release_inputs` return without an error. -/
structure EmulationReply where
  calls : List BackendCall
  ok : Bool
  deriving DecidableEq, Repr

namespace PressedCodes

def codes (pressed : PressedCodes) (handle : EmulationHandle) : List UInt32 := (pressed.lookup handle).getD []

/-- `update_pressed_button` and `update_pressed_keys`: whether the event is to be processed. -/
def update (pressed : PressedCodes) (handle : EmulationHandle) (code : UInt32) (down : Bool) :
    PressedCodes × Bool :=
  match pressed.lookup handle with
  | none => (pressed, false)
  | some codes =>
    if down then
      if code ∈ codes then (pressed, false) else (pressed.insert handle (codes ++ [code]), true)
    else
      if code ∈ codes then (pressed.insert handle (codes.erase code), true) else (pressed, false)

/-- The codes of a handle are taken out of its set. -/
def drain (pressed : PressedCodes) (handle : EmulationHandle) : PressedCodes :=
  match pressed.lookup handle with
  | none => pressed
  | some _ => pressed.insert handle []

end PressedCodes

namespace InputEmulation

def new : InputEmulation := ⟨[], ∅, ∅⟩

def updatePressedButton (e : InputEmulation) (handle : EmulationHandle) (button state : UInt32) :
    InputEmulation × Bool :=
  let (pressedButtons, forward) := e.pressedButtons.update handle button (state ≠ 0)
  ({ e with pressedButtons }, forward)

def updatePressedKeys (e : InputEmulation) (handle : EmulationHandle) (key : UInt32) (state : UInt8) :
    InputEmulation × Bool :=
  let (pressedKeys, forward) := e.pressedKeys.update handle key (state ≠ 0)
  ({ e with pressedKeys }, forward)

/-- The events go to the backend one after the other; an error does not stop the rest. -/
def passOn (conduct : Conduct) (events : List Event) (handle : EmulationHandle) : EmulationReply :=
  ⟨events.map (.consume · handle), events.all (conduct.accepts · handle)⟩

def consume (conduct : Conduct) (e : InputEmulation) (event : Event) (handle : EmulationHandle) :
    InputEmulation × EmulationReply :=
  match event with
  | .keyboard (.key _ key state) =>
    let (e, forward) := e.updatePressedKeys handle key state
    (e, passOn conduct (if forward then [event] else []) handle)
  | .pointer (.button _ button state) =>
    let (e, forward) := e.updatePressedButton handle button state
    (e, passOn conduct (if forward then [event] else []) handle)
  | _ => (e, passOn conduct [event] handle)

def create (e : InputEmulation) (handle : EmulationHandle) : InputEmulation × EmulationReply :=
  if handle ∈ e.handles then (e, ⟨[], false⟩)
  else ({ e with
    handles := e.handles ++ [handle]
    pressedButtons := e.pressedButtons.insert handle []
    pressedKeys := e.pressedKeys.insert handle [] }, ⟨[.create handle], true⟩)

def keyUp (key : UInt32) : Event := .keyboard (.key 0 key 0)

def buttonUp (button : UInt32) : Event := .pointer (.button 0 button 0)

def releaseInputs (conduct : Conduct) (e : InputEmulation) (handle : EmulationHandle) :
    InputEmulation × EmulationReply :=
  ({ e with pressedKeys := e.pressedKeys.drain handle, pressedButtons := e.pressedButtons.drain handle },
    passOn conduct
      ((conduct.drainedKeys handle (e.pressedKeys.codes handle)).map keyUp ++
        (conduct.drainedButtons handle (e.pressedButtons.codes handle)).map buttonUp ++
        [.keyboard (.modifiers 0 0 0 0)]) handle)

def destroy (conduct : Conduct) (e : InputEmulation) (handle : EmulationHandle) :
    InputEmulation × List BackendCall :=
  let (e, reply) := e.releaseInputs conduct handle
  if handle ∈ e.handles then
    (⟨e.handles.erase handle, e.pressedButtons.erase handle, e.pressedKeys.erase handle⟩,
      reply.calls ++ [.destroy handle])
  else (e, reply.calls)

def destroyAll (conduct : Conduct) (e : InputEmulation) : List EmulationHandle →
    InputEmulation × List BackendCall
  | [] => (e, [])
  | handle :: handles =>
    let (e, calls) := e.destroy conduct handle
    let (e, more) := e.destroyAll conduct handles
    (e, calls ++ more)

def terminate (conduct : Conduct) (e : InputEmulation) : InputEmulation × List BackendCall :=
  let (e, calls) := e.destroyAll conduct (conduct.listed e.handles)
  (e, calls ++ [.terminate])

end InputEmulation

inductive EmulationCall where
  | create (handle : EmulationHandle)
  | consume (event : Event) (handle : EmulationHandle)
  | releaseInputs (handle : EmulationHandle)
  | destroy (handle : EmulationHandle)
  | terminate
  deriving DecidableEq, Repr

def EmulationCall.handle? : EmulationCall → Option EmulationHandle
  | .create handle | .consume _ handle | .releaseInputs handle | .destroy handle => some handle
  | .terminate => none

/-- The calls after which nothing of the handle is pressed. -/
def EmulationCall.lifts (handle : EmulationHandle) : EmulationCall → Prop
  | .releaseInputs handle' | .destroy handle' => handle' = handle
  | .terminate => True
  | .create _ | .consume .. => False

def InputEmulation.perform (e : InputEmulation) (conduct : Conduct) :
    EmulationCall → InputEmulation × EmulationReply
  | .create handle => e.create handle
  | .consume event handle => e.consume conduct event handle
  | .releaseInputs handle => e.releaseInputs conduct handle
  | .destroy handle =>
    let (e, calls) := e.destroy conduct handle
    (e, ⟨calls, true⟩)
  | .terminate =>
    let (e, calls) := e.terminate conduct
    (e, ⟨calls, true⟩)

def inputEmulation : Machine InputEmulation (EmulationCall × Conduct) EmulationReply :=
  ⟨fun e call => some (e.perform call.2 call.1)⟩

abbrev EmulationEntry := Entry InputEmulation (EmulationCall × Conduct) EmulationReply

inductive Code where
  | key (key : UInt32)
  | button (button : UInt32)
  deriving DecidableEq, Repr

def Code.ofEvent : Event → Option (Code × Bool)
  | .keyboard (.key _ code state) => some (.key code, state ≠ 0)
  | .pointer (.button _ code state) => some (.button code, state ≠ 0)
  | _ => none

def BackendCall.press? : BackendCall → Option (Order (EmulationHandle × Code))
  | .consume event handle => (Code.ofEvent event).map fun (code, down) =>
    if down then .enrol (handle, code) else .dismiss (handle, code)
  | _ => none

/-- Which handles the backend is told about, and when it is given their input. -/
def BackendCall.handle? : BackendCall → Option (Order EmulationHandle)
  | .create handle => some (.enrol handle)
  | .destroy handle => some (.dismiss handle)
  | .consume event handle => (Code.ofEvent event).map fun _ => .call handle
  | .terminate => none

def BackendCall.about? : BackendCall → Option EmulationHandle
  | .create handle | .destroy handle | .consume _ handle => some handle
  | .terminate => none

def presses (calls : List BackendCall) : List (Order (EmulationHandle × Code)) :=
  calls.filterMap press?

def handlings (calls : List BackendCall) : List (Order EmulationHandle) :=
  calls.filterMap handle?

def PressedCodes.held (pressed : PressedCodes) : Set (EmulationHandle × UInt32) :=
  { x | x.2 ∈ pressed.codes x.1 }

def InputEmulation.tracked (e : InputEmulation) : Set (EmulationHandle × Code)
  | (handle, .key key) => (handle, key) ∈ e.pressedKeys.held
  | (handle, .button button) => (handle, button) ∈ e.pressedButtons.held

def InputEmulation.created (e : InputEmulation) : Set EmulationHandle := { handle | handle ∈ e.handles }

/-- Every created handle has a set of codes, and no other handle has one. -/
structure PressedCodes.Valid (pressed : PressedCodes) (handles : List EmulationHandle) : Prop where
  mem_iff : ∀ handle, handle ∈ pressed ↔ handle ∈ handles
  nodup : ∀ handle, (pressed.codes handle).Nodup

structure InputEmulation.Valid (e : InputEmulation) : Prop where
  once : e.handles.Nodup
  buttons : e.pressedButtons.Valid e.handles
  keys : e.pressedKeys.Valid e.handles

open PressedCodes

namespace PressedCodes

variable {pressed : PressedCodes} {handles : List EmulationHandle} {handle : EmulationHandle}
  {code : UInt32}

section

variable (handle' : EmulationHandle)

theorem codes_insert (codes : List UInt32) : PressedCodes.codes (pressed.insert handle codes) handle' =
      if handle' = handle then codes else pressed.codes handle' := by
  unfold PressedCodes.codes
  split
  · rename_i same
    rw [same, AList.lookup_insert]
    rfl
  · rename_i other
    rw [AList.lookup_insert_ne other]

theorem codes_erase : PressedCodes.codes (pressed.erase handle) handle' =
      if handle' = handle then [] else pressed.codes handle' := by
  unfold codes
  split
  · rename_i same
    rw [same, AList.lookup_erase]
    rfl
  · rename_i other
    rw [AList.lookup_erase_ne other]

theorem codes_of_notMem (absent : handle ∉ pressed) : pressed.codes handle = [] := by
  rw [codes, AList.lookup_eq_none.mpr absent]
  rfl

theorem codes_drain : PressedCodes.codes (pressed.drain handle) handle' =
      if handle' = handle then [] else pressed.codes handle' := by
  unfold drain
  split
  · rename_i absent
    split
    · rename_i same
      rw [same, codes, absent]
      rfl
    · rfl
  · exact codes_insert handle' []

end

theorem Valid.insert (valid : pressed.Valid handles) (member : handle ∈ pressed) {list : List UInt32}
    (once : list.Nodup) : PressedCodes.Valid (pressed.insert handle list) handles where
  mem_iff := by
    intro handle'
    rw [AList.mem_insert, ← valid.mem_iff]
    exact or_iff_right_of_imp fun same => same ▸ member
  nodup := by
    intro handle'
    rw [codes_insert]
    split
    · exact once
    · exact valid.nodup handle'

@[simp] theorem mem_held :
    (handle, code) ∈ pressed.held ↔ code ∈ pressed.codes handle := Iff.rfl

def Turned {α : Type} (held : Set α) (a : α) (down : Bool) (held' : Set α) : Prop :=
  if down then a ∉ held ∧ held' = insert a held else a ∈ held ∧ held' = held \ {a}

theorem held_press :
    PressedCodes.held (pressed.insert handle (pressed.codes handle ++ [code])) =
    insert (handle, code) pressed.held := by
  ext ⟨handle', code'⟩
  rw [mem_held, codes_insert]
  split
  · rename_i same
    simp [same, or_comm]
  · rename_i other
    simp [other]

theorem held_lift (once : (pressed.codes handle).Nodup) :
    PressedCodes.held (pressed.insert handle ((pressed.codes handle).erase code)) =
      pressed.held \ {(handle, code)} := by
  ext ⟨handle', code'⟩
  rw [mem_held, codes_insert]
  split
  · rename_i same
    simp [same, once.mem_erase_iff, and_comm]
  · rename_i other
    simp [other]

section

variable (valid : pressed.Valid handles)
include valid

theorem update_cases {down forward : Bool}
    {pressed' : PressedCodes} (updated : pressed.update handle code down = (pressed', forward)) :
    (forward = false ∧ pressed' = pressed) ∨
      forward = true ∧ handle ∈ handles ∧ pressed'.Valid handles ∧
        Turned pressed.held (handle, code) down pressed'.held := by
  unfold update at updated
  split at updated
  · cases updated
    exact .inl ⟨rfl, rfl⟩
  rename_i list found
  have member : handle ∈ pressed := AList.lookup_isSome.mp (by simp [found])
  have created := (valid.mem_iff handle).mp member
  have once := valid.nodup handle
  obtain rfl : pressed.codes handle = list := by rw [codes, found]; rfl
  split at updated
  · rename_i down
    subst down
    split at updated
    · cases updated
      exact .inl ⟨rfl, rfl⟩
    · rename_i up
      cases updated
      have once' : (pressed.codes handle ++ [code]).Nodup := List.nodup_append.mpr ⟨once, by simp, by grind⟩
      exact .inr ⟨rfl, created, valid.insert member once', up, held_press⟩
  rename_i lifts
  obtain rfl := Bool.eq_false_iff.mpr lifts
  split at updated
  · rename_i held
    cases updated
    exact .inr ⟨rfl, created, valid.insert member (once.erase code), held, held_lift once⟩
  · cases updated
    exact .inl ⟨rfl, rfl⟩

theorem Valid.drain (handle : EmulationHandle) : (pressed.drain handle).Valid handles := by
  unfold PressedCodes.drain
  split
  · exact valid
  · rename_i found
    exact valid.insert (AList.lookup_isSome.mp (by simp [found])) .nil

theorem Valid.create (handle : EmulationHandle) :
    PressedCodes.Valid (pressed.insert handle []) (handles ++ [handle]) where
  mem_iff := by
    intro handle'
    rw [AList.mem_insert, valid.mem_iff, List.mem_append, List.mem_singleton, or_comm]
  nodup := by
    intro handle'
    rw [codes_insert]
    split
    · exact .nil
    · exact valid.nodup handle'

theorem Valid.destroy (once : handles.Nodup) (handle : EmulationHandle) :
    PressedCodes.Valid (pressed.erase handle) (handles.erase handle) where
  mem_iff := by
    intro handle'
    rw [AList.mem_erase, valid.mem_iff, once.mem_erase_iff]
  nodup := by
    intro handle'
    rw [codes_erase]
    split
    · exact .nil
    · exact valid.nodup handle'

end

end PressedCodes

/-- The calls press and release in turn, and end at what is tracked; they speak of handles
only between their creation and their destruction. -/
structure InputEmulation.Balanced (e : InputEmulation) (calls : List BackendCall) (e' : InputEmulation) :
    Prop where
  valid : e'.Valid
  presses : Accepts e.tracked (presses calls) ∧ carryOut e.tracked (presses calls) = e'.tracked
  handles : Accepts e.created (handlings calls) ∧ carryOut e.created (handlings calls) = e'.created

namespace InputEmulation

variable {e e' e'' : InputEmulation} {calls more : List BackendCall} {handle : EmulationHandle}
  {call : EmulationCall} {conduct : Conduct}

theorem Balanced.trans (first : e.Balanced calls e') (second : e'.Balanced more e'') :
    e.Balanced (calls ++ more) e'' where
  valid := second.valid
  presses := by
    rw [LanMouse.presses, List.filterMap_append, accepts_append, carryOut_append]
    have middle := first.presses.2
    unfold LanMouse.presses at middle
    rw [middle]
    exact ⟨⟨first.presses.1, second.presses.1⟩, second.presses.2⟩
  handles := by
    rw [handlings, List.filterMap_append, accepts_append, carryOut_append]
    have middle := first.handles.2
    unfold handlings at middle
    rw [middle]
    exact ⟨⟨first.handles.1, second.handles.1⟩, second.handles.2⟩

theorem Balanced.quiet (valid : e.Valid) (pressless : LanMouse.presses calls = [])
    (handleless : handlings calls = []) : e.Balanced calls e where
  valid := valid
  presses := by
    rw [pressless]
    exact ⟨trivial, rfl⟩
  handles := by
    rw [handleless]
    exact ⟨trivial, rfl⟩

@[simp] theorem mem_tracked_key {key : UInt32} :
    (handle, Code.key key) ∈ e.tracked ↔ (handle, key) ∈ e.pressedKeys.held := Iff.rfl

@[simp] theorem mem_tracked_button {button : UInt32} :
    (handle, Code.button button) ∈ e.tracked ↔ (handle, button) ∈ e.pressedButtons.held := Iff.rfl

@[simp] theorem mem_created : handle ∈ e.created ↔ handle ∈ e.handles := Iff.rfl

theorem Balanced.single {event : Event} {code : Code} {down : Bool} (valid : e'.Valid)
    (coded : Code.ofEvent event = some (code, down)) (member : handle ∈ e.handles)
    (same : e'.handles = e.handles) (turned : PressedCodes.Turned e.tracked (handle, code) down e'.tracked) :
    e.Balanced [.consume event handle] e' where
  valid := valid
  presses := by
    cases down with
    | true =>
      have pressed : LanMouse.presses [.consume event handle] = [.enrol (handle, code)] := by
        simp [LanMouse.presses, press?, coded]
      rw [pressed]
      exact ⟨⟨turned.1, trivial⟩, turned.2.symm⟩
    | false =>
      have pressed : LanMouse.presses [.consume event handle] = [.dismiss (handle, code)] := by
        simp [LanMouse.presses, press?, coded]
      rw [pressed]
      exact ⟨⟨turned.1, trivial⟩, turned.2.symm⟩
  handles := by
    have handled : handlings [.consume event handle] = [.call handle] := by
      simp [handlings, handle?, coded]
    have created : e'.created = e.created := by rw [created, same, created]
    rw [handled, created]
    exact ⟨⟨member, trivial⟩, rfl⟩

theorem turned_key {key : UInt32} {down : Bool} {pressedKeys : PressedCodes}
    (turned : PressedCodes.Turned e.pressedKeys.held (handle, key) down pressedKeys.held) :
    PressedCodes.Turned e.tracked (handle, .key key) down { e with pressedKeys }.tracked := by
  cases down with
  | true | false =>
    refine ⟨turned.1, ?_⟩
    ext ⟨handle', code⟩
    cases code <;> simp [turned.2]

theorem turned_button {button : UInt32} {down : Bool} {pressedButtons : PressedCodes}
    (turned : PressedCodes.Turned e.pressedButtons.held (handle, button) down pressedButtons.held) :
    PressedCodes.Turned e.tracked (handle, .button button) down { e with pressedButtons }.tracked := by
  cases down with
  | true | false =>
    refine ⟨turned.1, ?_⟩
    ext ⟨handle', code⟩
    cases code <;> simp [turned.2]

theorem consume_balanced (valid : e.Valid) (conduct : Conduct) (event : Event) (handle : EmulationHandle) :
    e.Balanced (e.consume conduct event handle).2.calls (e.consume conduct event handle).1 := by
  cases event with
  | keyboard event =>
    cases event with
    | modifiers => exact .quiet valid rfl rfl
    | key time key state =>
      rcases updated : e.pressedKeys.update handle key (state ≠ 0) with ⟨pressedKeys, forward⟩
      simp only [consume, updatePressedKeys, updated]
      rcases update_cases valid.keys updated with ⟨rfl, rfl⟩ | ⟨rfl, member, after, turned⟩
      · exact .quiet valid rfl rfl
      · exact .single ⟨valid.once, valid.buttons, after⟩ rfl member rfl (turned_key turned)
  | pointer event =>
    cases event with
    | button time button state =>
      rcases updated : e.pressedButtons.update handle button (state ≠ 0) with ⟨pressedButtons, forward⟩
      simp only [consume, updatePressedButton, updated]
      rcases update_cases valid.buttons updated with ⟨rfl, rfl⟩ | ⟨rfl, member, after, turned⟩
      · exact .quiet valid rfl rfl
      · exact .single ⟨valid.once, after, valid.keys⟩ rfl member rfl (turned_button turned)
    | _ => exact .quiet valid rfl rfl

theorem tracked_congr (keys : ∀ handle, e'.pressedKeys.codes handle = e.pressedKeys.codes handle)
    (buttons : ∀ handle, e'.pressedButtons.codes handle = e.pressedButtons.codes handle) :
    e'.tracked = e.tracked := by
  ext ⟨handle, code⟩
  cases code with
  | key key => simp [keys]
  | button button => simp [buttons]

theorem create_balanced (valid : e.Valid) (handle : EmulationHandle) :
    e.Balanced (e.create handle).2.calls (e.create handle).1 := by
  unfold create
  split
  · exact .quiet valid rfl rfl
  rename_i fresh
  have none (pressed : PressedCodes) (valid : pressed.Valid e.handles) (handle' : EmulationHandle) :
      codes (pressed.insert handle []) handle' = pressed.codes handle' := by
    rw [codes_insert]
    split
    · rename_i same
      rw [same, codes_of_notMem fun member => fresh ((valid.mem_iff handle).mp member)]
    · rfl
  refine ⟨⟨?_, valid.buttons.create handle, valid.keys.create handle⟩, ⟨trivial, ?_⟩, ⟨⟨fresh, trivial⟩, ?_⟩⟩
  · exact List.nodup_append.mpr ⟨valid.once, by simp, by grind⟩
  · exact (tracked_congr (none _ valid.keys) (none _ valid.buttons)).symm
  · ext handle'
    simp [handlings, handle?, Order.apply, or_comm]

def letGo (conduct : Conduct) (e : InputEmulation) (handle : EmulationHandle) :
    List (EmulationHandle × Code) :=
  (conduct.drainedKeys handle (e.pressedKeys.codes handle)).map (fun key => (handle, .key key)) ++
    (conduct.drainedButtons handle (e.pressedButtons.codes handle)).map
      (fun button => (handle, .button button))

theorem mem_letGo {x : EmulationHandle × Code} :
    x ∈ e.letGo conduct handle ↔ x.1 = handle ∧ x ∈ e.tracked := by
  obtain ⟨handle', code⟩ := x
  cases code with
  | key key =>
    simp [letGo, (conduct.keys_perm handle _).mem_iff]
    grind
  | button button =>
    simp [letGo, (conduct.buttons_perm handle _).mem_iff]
    grind

theorem letGo_nodup (valid : e.Valid) (conduct : Conduct) (handle : EmulationHandle) :
    (e.letGo conduct handle).Nodup := by
  refine List.nodup_append.mpr ⟨?_, ?_, ?_⟩
  · exact ((conduct.keys_perm handle _).nodup_iff.mpr (valid.keys.nodup handle)).map
      fun a b same => by simpa using same
  · exact ((conduct.buttons_perm handle _).nodup_iff.mpr (valid.buttons.nodup handle)).map
      fun a b same => by simpa using same
  · intro x key y button same
    grind

theorem presses_releaseInputs (conduct : Conduct) : presses (e.releaseInputs conduct handle).2.calls =
    (e.letGo conduct handle).map .dismiss := by
  simp [presses, releaseInputs, passOn, letGo, List.filterMap_map, List.filterMap_cons, press?,
    Code.ofEvent, keyUp, buttonUp, Function.comp_def]

theorem handlings_releaseInputs (conduct : Conduct) : handlings (e.releaseInputs conduct handle).2.calls =
    ((e.letGo conduct handle).map Prod.fst).map .call := by
  simp [handlings, releaseInputs, passOn, letGo, List.filterMap_map, List.filterMap_cons, handle?,
    Code.ofEvent, keyUp, buttonUp, Function.comp_def]

theorem Valid.created_of_tracked (valid : e.Valid) {code : Code} (held : (handle, code) ∈ e.tracked) :
    handle ∈ e.handles := by
  by_contra absent
  cases code with
  | key key =>
    have none := codes_of_notMem (mt (valid.keys.mem_iff handle).mp absent)
    simp [none] at held
  | button button =>
    have none := codes_of_notMem (mt (valid.buttons.mem_iff handle).mp absent)
    simp [none] at held

theorem tracked_without
    (keys : ∀ handle', e'.pressedKeys.codes handle' =
      if handle' = handle then [] else e.pressedKeys.codes handle')
    (buttons : ∀ handle', e'.pressedButtons.codes handle' =
      if handle' = handle then [] else e.pressedButtons.codes handle') :
    e'.tracked = e.tracked \ { x | x.1 = handle } := by
  ext ⟨handle', code⟩
  by_cases same : handle' = handle
  · cases code <;> simp [keys, buttons, same]
  · cases code <;> simp [keys, buttons, same]

theorem tracked_releaseInputs (conduct : Conduct) (handle : EmulationHandle) :
    (e.releaseInputs conduct handle).1.tracked = e.tracked \ { x | x.1 = handle } :=
  tracked_without codes_drain codes_drain

theorem releaseInputs_balanced (valid : e.Valid) (conduct : Conduct) (handle : EmulationHandle) :
    e.Balanced (e.releaseInputs conduct handle).2.calls (e.releaseInputs conduct handle).1 where
  valid := ⟨valid.once, valid.buttons.drain handle, valid.keys.drain handle⟩
  presses := by
    rw [presses_releaseInputs, tracked_releaseInputs]
    have here : ∀ x ∈ e.letGo conduct handle, x ∈ e.tracked := fun x member => (mem_letGo.mp member).2
    obtain ⟨accepted, rest⟩ := accepts_dismissals _ (letGo_nodup valid conduct handle) here
    refine ⟨accepted, rest.trans ?_⟩
    simp only [mem_letGo]
    grind
  handles := by
    rw [handlings_releaseInputs]
    refine accepts_calls _ ?_
    intro handle' member
    obtain ⟨x, tracked, rfl⟩ := List.mem_map.mp member
    exact valid.created_of_tracked (mem_letGo.mp tracked).2

theorem tracked_erase (handle : EmulationHandle) :
    tracked ⟨e.handles.erase handle, e.pressedButtons.erase handle, e.pressedKeys.erase handle⟩ =
      e.tracked \ { x | x.1 = handle } :=
  tracked_without codes_erase codes_erase

section

variable (valid : e.Valid) (conduct : Conduct)
include valid

theorem erase_balanced (member : handle ∈ e.handles) (free : ∀ code, (handle, code) ∉ e.tracked) :
    e.Balanced [.destroy handle]
      ⟨e.handles.erase handle, e.pressedButtons.erase handle, e.pressedKeys.erase handle⟩ where
  valid := ⟨valid.once.erase handle, valid.buttons.destroy valid.once handle,
    valid.keys.destroy valid.once handle⟩
  presses := by
    refine ⟨trivial, ?_⟩
    rw [tracked_erase]
    ext ⟨handle', code⟩
    refine ⟨fun held => ⟨held, ?_⟩, And.left⟩
    rintro rfl
    exact free code held
  handles := by
    refine ⟨⟨member, trivial⟩, ?_⟩
    ext handle'
    simp [handlings, handle?, Order.apply, valid.once.mem_erase_iff, and_comm]

theorem destroy_balanced (handle : EmulationHandle) :
    e.Balanced (e.destroy conduct handle).2 (e.destroy conduct handle).1 := by
  have released := releaseInputs_balanced valid conduct handle
  unfold destroy
  dsimp only
  split
  · rename_i member
    refine released.trans (erase_balanced released.valid member ?_)
    intro code
    rw [tracked_releaseInputs]
    exact fun held => held.2 rfl
  · exact released

theorem destroyAll_balanced (handles : List EmulationHandle) :
    e.Balanced (e.destroyAll conduct handles).2 (e.destroyAll conduct handles).1 := by
  induction handles generalizing e with
  | nil => exact .quiet valid rfl rfl
  | cons handle handles ih =>
    have first := destroy_balanced valid conduct handle
    exact first.trans (ih first.valid)

theorem terminate_balanced : e.Balanced (e.terminate conduct).2 (e.terminate conduct).1 := by
  have destroyed := destroyAll_balanced valid conduct (conduct.listed e.handles)
  exact destroyed.trans (.quiet destroyed.valid rfl rfl)

theorem perform_balanced (call : EmulationCall) :
    e.Balanced (e.perform conduct call).2.calls (e.perform conduct call).1 := by
  cases call with
  | create handle => exact create_balanced valid handle
  | consume event handle => exact consume_balanced valid conduct event handle
  | releaseInputs handle => exact releaseInputs_balanced valid conduct handle
  | destroy handle => exact destroy_balanced valid conduct handle
  | terminate => exact terminate_balanced valid conduct

end

theorem tracked_destroy (conduct : Conduct) (handle : EmulationHandle) :
    (e.destroy conduct handle).1.tracked = e.tracked \ { x | x.1 = handle } := by
  have released := e.tracked_releaseInputs conduct handle
  unfold destroy
  dsimp only
  split
  · rw [tracked_erase, released]
    ext x
    simp
  · exact released

theorem tracked_destroyAll (conduct : Conduct) (handles : List EmulationHandle) :
    (e.destroyAll conduct handles).1.tracked = e.tracked \ { x | x.1 ∈ handles } := by
  induction handles generalizing e with
  | nil =>
    ext x
    simp [destroyAll]
  | cons handle handles ih =>
    simp only [destroyAll]
    rw [ih, tracked_destroy]
    ext x
    simp [and_assoc, not_or]

theorem tracked_terminate (valid : e.Valid) (conduct : Conduct) : (e.terminate conduct).1.tracked = ∅ := by
  have destroyed := e.tracked_destroyAll conduct (conduct.listed e.handles)
  refine destroyed.trans (Set.eq_empty_of_forall_notMem ?_)
  rintro ⟨handle, code⟩ ⟨held, unlisted⟩
  exact unlisted ((conduct.listed_perm e.handles).mem_iff.mpr (valid.created_of_tracked held))

theorem about_passOn {events : List Event} {call : BackendCall}
    (member : call ∈ (passOn conduct events handle).calls) : call.about? = some handle := by
  obtain ⟨event, -, rfl⟩ := List.mem_map.mp member
  rfl

theorem about_releaseInputs {sent : BackendCall}
    (member : sent ∈ (e.releaseInputs conduct handle).2.calls) : sent.about? = some handle :=
  about_passOn member

theorem about_perform (conduct : Conduct) (on : call.handle? = some handle) :
    ∀ sent ∈ (e.perform conduct call).2.calls, sent.about? = some handle := by
  intro sent member
  cases call with
  | terminate => cases on
  | create handle' =>
    cases on
    simp only [perform, create] at member
    split at member
    · cases member
    · rw [List.mem_singleton.mp member]
      rfl
  | consume event handle' =>
    cases on
    simp only [perform, consume] at member
    split at member <;> exact about_passOn member
  | releaseInputs handle' =>
    cases on
    exact about_releaseInputs member
  | destroy handle' =>
    cases on
    simp only [perform, destroy] at member
    split at member
    · rcases List.mem_append.mp member with released | destroyed
      · exact about_releaseInputs released
      · rw [List.mem_singleton.mp destroyed]
        rfl
    · exact about_releaseInputs member

theorem turns_presses_nil {calls : List BackendCall} {handle' : EmulationHandle}
    (about : ∀ sent ∈ calls, sent.about? = some handle) (other : handle' ≠ handle) (code : Code) :
    turns (handle', code) (presses calls) = [] := by
  refine List.filterMap_eq_nil_iff.mpr ?_
  intro order member
  obtain ⟨sent, made, pressed⟩ := List.mem_filterMap.mp member
  have own := about sent made
  cases sent with
  | create | destroy | terminate => cases pressed
  | consume event handle'' =>
    obtain rfl : handle'' = handle := Option.some.inj own
    obtain ⟨⟨code', down⟩, -, rfl⟩ := Option.map_eq_some_iff.mp pressed
    cases down <;> simp [Order.turn?, other.symm]

theorem lifted_perform (valid : e.Valid) (conduct : Conduct) (lifts : call.lifts handle)
    (code : Code) : (handle, code) ∉ (e.perform conduct call).1.tracked := by
  cases call with
  | create | consume => exact lifts.elim
  | releaseInputs handle' =>
    subst lifts
    rw [perform, tracked_releaseInputs]
    exact fun held => held.2 rfl
  | destroy handle' =>
    subst lifts
    have without := e.tracked_destroy conduct handle'
    exact fun held => (without ▸ held).2 rfl
  | terminate =>
    have empty := tracked_terminate valid conduct
    exact fun held => Set.notMem_empty _ (empty ▸ held)

theorem perform_frame (valid : e.Valid) (conduct : Conduct)
    (on : call.handle? = some handle) : ∀ handle' ≠ handle, ∀ code,
    (handle', code) ∈ (e.perform conduct call).1.tracked ↔ (handle', code) ∈ e.tracked := by
  intro handle' other code
  rw [← (perform_balanced valid conduct call).presses.2]
  exact mem_carryOut_of_turns_nil (turns_presses_nil (about_perform conduct on) other code)

end InputEmulation

def toBackend (trace : List EmulationEntry) : List BackendCall := trace.flatMap fun e => e.output.calls

structure BalanceLaw (trace : List EmulationEntry) (s : InputEmulation) : Prop where
  alternates : ∀ handle code, Alternating (turns (handle, code) (presses (toBackend trace)))
  pressed : carryOut ∅ (presses (toBackend trace)) = s.tracked
  created : Accepts ∅ (handlings (toBackend trace)) ∧ carryOut ∅ (handlings (toBackend trace)) = s.created
  lifted : ∀ e ∈ trace, ∀ handle, e.input.1.lifts handle → ∀ code, (handle, code) ∉ e.post.tracked
  others : ∀ e ∈ trace, ∀ handle, e.input.1.handle? = some handle →
    (∀ sent ∈ e.output.calls, sent.about? = some handle) ∧
      ∀ handle' ≠ handle, ∀ code, (handle', code) ∈ e.post.tracked ↔ (handle', code) ∈ e.pre.tracked

section Run

variable {trace : List EmulationEntry} {s : InputEmulation}

theorem new_valid : new.Valid where
  once := .nil
  buttons := ⟨fun handle => by simp [new], fun handle => .nil⟩
  keys := ⟨fun handle => by simp [new], fun handle => .nil⟩

theorem run_balanced (run : Run inputEmulation .new trace s) : new.Balanced (toBackend trace) s := by
  induction run with
  | nil => exact .quiet new_valid rfl rfl
  | @snoc trace s s' call reply run step ih =>
    obtain rfl := congrArg Prod.fst (Option.some.inj step)
    obtain rfl := congrArg Prod.snd (Option.some.inj step)
    have next := ih.trans (perform_balanced ih.valid call.2 call.1)
    simpa [toBackend] using next

theorem tracked_new : new.tracked = ∅ := by
  ext ⟨handle, code⟩
  cases code <;> simp [new, codes]

theorem created_new : new.created = ∅ := by
  ext handle
  simp [new]

theorem entry_perform (run : Run inputEmulation .new trace s) {e : EmulationEntry} (member : e ∈ trace) :
    e.pre.Valid ∧ e.pre.perform e.input.2 e.input.1 = (e.post, e.output) := by
  obtain ⟨before, earlier, step⟩ := run.entry_step member
  exact ⟨(run_balanced earlier).valid, Option.some.inj step⟩

/-- The front end keeps what it tells the backend balanced, in every sequence of calls. -/
theorem emulated_input_balanced (run : Run inputEmulation .new trace s) : BalanceLaw trace s := by
  obtain ⟨-, presses, handles⟩ := run_balanced run
  rw [tracked_new] at presses
  rw [created_new] at handles
  refine ⟨fun handle code => alternating_of_accepts presses.1 (handle, code), presses.2, handles, ?_, ?_⟩
  · intro e member handle lifts code
    obtain ⟨valid, performed⟩ := entry_perform run member
    have lifted := lifted_perform valid e.input.2 lifts code
    rwa [performed] at lifted
  intro e member handle on
  obtain ⟨valid, performed⟩ := entry_perform run member
  have about := e.pre.about_perform e.input.2 on
  have frame := perform_frame valid e.input.2 on
  rw [performed] at about frame
  exact ⟨about, frame⟩

end Run

/-- Sets that are walked in the order of their insertion, and a backend that takes every event. -/
def Conduct.plain : Conduct where
  drainedKeys _ := id
  drainedButtons _ := id
  listed := id
  accepts _ _ := true
  keys_perm _ _ := .rfl
  buttons_perm _ _ := .rfl
  listed_perm _ := .rfl

/-- A key is pressed twice by one peer and once by another, which then goes; the repetition does
not reach the backend, and the key is still down for the first. -/
theorem repeated_press_balanced : ∃ trace s, Run inputEmulation .new trace s ∧ BalanceLaw trace s ∧
    turns (1, .key 30) (presses (toBackend trace)) = [true] ∧
    turns (2, .key 30) (presses (toBackend trace)) = [true, false] :=
  inputEmulation.exists_lawful .new
    ([.create 1, .create 2, .consume (.keyboard (.key 0 30 1)) 1, .consume (.keyboard (.key 1 30 1)) 1,
      .consume (.keyboard (.key 2 30 1)) 2, .destroy 2].map (·, Conduct.plain)) _
    emulated_input_balanced (by decide)

end DisplayMux.LanMouse
