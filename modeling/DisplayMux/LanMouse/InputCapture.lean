import Mathlib.Data.List.AList
import DisplayMux.LanMouse.Event

/-! The capture front end: it spreads what the backend reports at a side of the
screen over the captures registered there, and remembers which keys are down. The
backend itself is outside the model; its answers are parameters. -/
namespace DisplayMux.LanMouse

inductive Poll (α : Type) where
  | pending
  | ready (value : α)
  deriving DecidableEq, Repr

inductive Item (α : Type) where
  | value (value : α)
  | error
  | closed
  deriving DecidableEq, Repr

structure InputCapture where
  pressedKeys : List Scancode
  positionMap : AList fun _ : Position => List CaptureHandle
  idMap : AList fun _ : CaptureHandle => Position
  pending : List (CaptureHandle × CaptureEvent)

namespace InputCapture

def new : InputCapture := ⟨[], ∅, ∅, []⟩

/-- `none` when the assertion on the identifier fails. The flag tells whether the
backend is asked for a barrier. -/
def create (c : InputCapture) (id : CaptureHandle) (pos : Position) : Option (InputCapture × Bool) :=
  if id ∈ c.idMap then none
  else
    let c := { c with idMap := c.idMap.insert id pos }
    match c.positionMap.lookup pos with
    | some ids => some ({ c with positionMap := c.positionMap.insert pos (ids ++ [id]) }, false)
    | none => some ({ c with positionMap := c.positionMap.insert pos [id] }, true)

/-- `none` when one of the two lookups panics. The flag tells whether the backend is
asked to remove the barrier. -/
def destroy (c : InputCapture) (id : CaptureHandle) : Option (InputCapture × Bool) := do
  let pos ← c.idMap.lookup id
  let ids ← c.positionMap.lookup pos
  let c := { c with idMap := c.idMap.erase id }
  let remaining := ids.filter (· ≠ id)
  if remaining.isEmpty then some ({ c with positionMap := c.positionMap.erase pos }, true)
  else some ({ c with positionMap := c.positionMap.insert pos remaining }, false)

def release (c : InputCapture) : InputCapture := { c with pressedKeys := [] }

def takePressedKeys (c : InputCapture) : List Scancode × InputCapture :=
  (c.pressedKeys, { c with pressedKeys := [] })

def keysPressed (c : InputCapture) (keys : List Scancode) : Bool :=
  keys.all fun key => c.pressedKeys.contains key

def updatePressedKeys (c : InputCapture) (key : UInt32) (state : UInt8) : InputCapture :=
  match Scancode.tryFrom key with
  | none => c
  | some code =>
    if state = 1 then { c with pressedKeys := c.pressedKeys.insert code }
    else { c with pressedKeys := c.pressedKeys.erase code }

/-- Keys are followed before it is known whether anyone is registered at the side. -/
def track (c : InputCapture) : CaptureEvent → InputCapture
  | .input (.keyboard (.key _ key state)) => c.updatePressedKeys key state
  | _ => c

theorem track_idMap (c : InputCapture) (event : CaptureEvent) : (c.track event).idMap = c.idMap ∧
    (c.track event).positionMap = c.positionMap ∧ (c.track event).pending = c.pending := by
  unfold track
  split
  · unfold updatePressedKeys
    split
    · exact ⟨rfl, rfl, rfl⟩
    · split <;> exact ⟨rfl, rfl, rfl⟩
  · exact ⟨rfl, rfl, rfl⟩

/-- One poll of the stream. The backend is polled only when nothing is pending. -/
def pollNext (c : InputCapture) (backend : Poll (Item (Position × CaptureEvent))) :
    InputCapture × Poll (Item (CaptureHandle × CaptureEvent)) :=
  match c.pending with
  | event :: pending => ({ c with pending }, .ready (.value event))
  | [] => match backend with
    | .pending => (c, .pending)
    | .ready .closed => (c, .ready .closed)
    | .ready .error => (c, .ready .error)
    | .ready (.value (pos, event)) =>
      let c := c.track event
      match (c.positionMap.lookup pos).getD [] with
      | [] => (c, .pending)
      | id :: ids => ({ c with pending := ids.map fun id => (id, event) }, .ready (.value (id, event)))

end InputCapture

end DisplayMux.LanMouse
