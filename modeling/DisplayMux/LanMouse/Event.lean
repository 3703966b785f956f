import Mathlib.Tactic.TypeStar

/-! Input events, what a capture backend yields, and the messages that two peers
exchange. Fixed-width numbers are kept as such; a floating point number is kept as
its 64 bits, because the peers only pass it on. -/
namespace DisplayMux.LanMouse

/-- A side of the screen. The capture, protocol and IPC crates each declare these
four values and convert them one to one. -/
inductive Position where
  | left | right | top | bottom
  deriving DecidableEq, Repr

def Position.opposite : Position → Position
  | left => right
  | right => left
  | top => bottom
  | bottom => top

abbrev CaptureHandle := Nat

/-- The key codes of the `Linux` enumeration, which has every value up to 249. -/
abbrev Scancode := Fin 250

def Scancode.tryFrom (key : UInt32) : Option Scancode :=
  if h : key.toNat < 250 then some ⟨key.toNat, h⟩ else none

def Scancode.toU32 (code : Scancode) : UInt32 := UInt32.ofNat code.val

inductive PointerEvent where
  | motion (time : UInt32) (dx dy : UInt64)
  | button (time button state : UInt32)
  | axis (time : UInt32) (axis : UInt8) (value : UInt64)
  | axisDiscrete120 (axis : UInt8) (value : Int32)
  deriving DecidableEq, Repr

inductive KeyboardEvent where
  | key (time key : UInt32) (state : UInt8)
  | modifiers (depressed latched locked group : UInt32)
  deriving DecidableEq, Repr

inductive Event where
  | pointer (event : PointerEvent)
  | keyboard (event : KeyboardEvent)
  deriving DecidableEq, Repr

inductive CaptureEvent where
  | begin
  | edgeRetreated
  | input (event : Event)
  deriving DecidableEq, Repr

inductive ProtoEvent where
  | enter (pos : Position)
  | leave (serial : UInt32)
  | ack (serial : UInt32)
  | input (event : Event)
  | ping
  | pong (controlReady : Bool)
  | hello (commit : Vector UInt8 8)
  | readiness (keyboardReady pointerReady : Bool) (sessionEpoch : UInt64)
  | releaseRequest (releaseEpoch : UInt64)
  | releaseAck (releaseEpoch : UInt64)
  deriving DecidableEq, Repr

/-- The messages that move a peer's pointer and keyboard. -/
def ProtoEvent.controls : ProtoEvent → Bool
  | enter _ | input _ => true
  | _ => false

end DisplayMux.LanMouse
