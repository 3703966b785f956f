import DisplayMux.Lib.Codec
import DisplayMux.LanMouse.Event

/-! The format of the messages between two peers. Each is written into a fixed buffer, and
the receiver decodes the whole buffer, whatever stands behind the message. -/
namespace DisplayMux.LanMouse

/-- As long as the longest message, the motion of a pointer. -/
def maxEventSize : Nat := 1 + 4 + 2 * 8

inductive EventType where
  | pointerMotion | pointerButton | pointerAxis | pointerAxisValue120 | keyboardKey
  | keyboardModifiers | ping | pong | enter | leave | ack | hello | readiness | releaseRequest
  | releaseAck
  deriving DecidableEq, Repr

/-- A buffer that ends too early is a panic of the decoder. -/
inductive DecodeError where
  | invalidEventId (id : UInt8)
  | invalidPosition (pos : UInt8)
  | panicked
  deriving DecidableEq, Repr

def EventType.toU8 : EventType → UInt8
  | .pointerMotion => 0
  | .pointerButton => 1
  | .pointerAxis => 2
  | .pointerAxisValue120 => 3
  | .keyboardKey => 4
  | .keyboardModifiers => 5
  | .ping => 6
  | .pong => 7
  | .enter => 8
  | .leave => 9
  | .ack => 10
  | .hello => 11
  | .readiness => 12
  | .releaseRequest => 13
  | .releaseAck => 14

def EventType.tryFrom (id : UInt8) : Except DecodeError EventType :=
  match id.toNat with
  | 0 => .ok .pointerMotion
  | 1 => .ok .pointerButton
  | 2 => .ok .pointerAxis
  | 3 => .ok .pointerAxisValue120
  | 4 => .ok .keyboardKey
  | 5 => .ok .keyboardModifiers
  | 6 => .ok .ping
  | 7 => .ok .pong
  | 8 => .ok .enter
  | 9 => .ok .leave
  | 10 => .ok .ack
  | 11 => .ok .hello
  | 12 => .ok .readiness
  | 13 => .ok .releaseRequest
  | 14 => .ok .releaseAck
  | _ => .error (.invalidEventId id)

def Position.toU8 : Position → UInt8
  | .left => 0
  | .right => 1
  | .top => 2
  | .bottom => 3

def Position.tryFrom (pos : UInt8) : Except DecodeError Position :=
  match pos.toNat with
  | 0 => .ok .left
  | 1 => .ok .right
  | 2 => .ok .top
  | 3 => .ok .bottom
  | _ => .error (.invalidPosition pos)

def ProtoEvent.eventType : ProtoEvent → EventType
  | .input (.pointer (.motion _ _ _)) => .pointerMotion
  | .input (.pointer (.button _ _ _)) => .pointerButton
  | .input (.pointer (.axis _ _ _)) => .pointerAxis
  | .input (.pointer (.axisDiscrete120 _ _)) => .pointerAxisValue120
  | .input (.keyboard (.key _ _ _)) => .keyboardKey
  | .input (.keyboard (.modifiers _ _ _ _)) => .keyboardModifiers
  | .ping => .ping
  | .pong _ => .pong
  | .enter _ => .enter
  | .leave _ => .leave
  | .ack _ => .ack
  | .hello _ => .hello
  | .readiness _ _ _ => .readiness
  | .releaseRequest _ => .releaseRequest
  | .releaseAck _ => .releaseAck

section Decode

def decodeU8 : Reader DecodeError UInt8 := do return UInt8.ofNat (beValue (← Reader.take .panicked 1))
def decodeU32 : Reader DecodeError UInt32 := do return UInt32.ofNat (beValue (← Reader.take .panicked 4))
def decodeU64 : Reader DecodeError UInt64 := do return UInt64.ofNat (beValue (← Reader.take .panicked 8))
def decodeI32 : Reader DecodeError Int32 := do return (← decodeU32).toInt32
def decodeF64 : Reader DecodeError UInt64 := decodeU64
def decodeBool : Reader DecodeError Bool := do return (← decodeU8) != 0

def decodeCommit : (count : Nat) → Reader DecodeError (Vector UInt8 count)
  | 0 => return #v[]
  | count + 1 => do return (← decodeCommit count).push (← decodeU8)

def decodeEvent : EventType → Reader DecodeError ProtoEvent
  | .pointerMotion => do
    return .input (.pointer (.motion (← decodeU32) (← decodeF64) (← decodeF64)))
  | .pointerButton => do
    return .input (.pointer (.button (← decodeU32) (← decodeU32) (← decodeU32)))
  | .pointerAxis => do
    return .input (.pointer (.axis (← decodeU32) (← decodeU8) (← decodeF64)))
  | .pointerAxisValue120 => do
    return .input (.pointer (.axisDiscrete120 (← decodeU8) (← decodeI32)))
  | .keyboardKey => do
    return .input (.keyboard (.key (← decodeU32) (← decodeU32) (← decodeU8)))
  | .keyboardModifiers => do
    return .input (.keyboard (.modifiers (← decodeU32) (← decodeU32) (← decodeU32) (← decodeU32)))
  | .ping => return .ping
  | .pong => do return .pong (← decodeBool)
  | .enter => do return .enter (← StateT.lift (Position.tryFrom (← decodeU8)))
  | .leave => do return .leave (← decodeU32)
  | .ack => do return .ack (← decodeU32)
  | .hello => do return .hello (← decodeCommit 8)
  | .readiness => do return .readiness (← decodeBool) (← decodeBool) (← decodeU64)
  | .releaseRequest => do return .releaseRequest (← decodeU64)
  | .releaseAck => do return .releaseAck (← decodeU64)

def decodeProto : Reader DecodeError ProtoEvent := do
  decodeEvent (← StateT.lift (EventType.tryFrom (← decodeU8)))

def ProtoEvent.tryFrom (buf : Vector UInt8 maxEventSize) : Except DecodeError ProtoEvent :=
  (decodeProto.run buf.toList).map (·.1)

end Decode

section Encode

abbrev Encoder := Writer maxEventSize Unit

def encodeU8 (n : UInt8) : Encoder := .put (beBytes 1 n.toNat)
def encodeU32 (n : UInt32) : Encoder := .put (beBytes 4 n.toNat)
def encodeU64 (n : UInt64) : Encoder := .put (beBytes 8 n.toNat)
def encodeI32 (n : Int32) : Encoder := encodeU32 n.toUInt32
def encodeF64 (n : UInt64) : Encoder := encodeU64 n
def encodeBool (b : Bool) : Encoder := encodeU8 b.toUInt8

def encodeFields : ProtoEvent → Encoder
  | .input (.pointer (.motion time dx dy)) => do
    encodeU32 time
    encodeF64 dx
    encodeF64 dy
  | .input (.pointer (.button time button state)) => do
    encodeU32 time
    encodeU32 button
    encodeU32 state
  | .input (.pointer (.axis time axis value)) => do
    encodeU32 time
    encodeU8 axis
    encodeF64 value
  | .input (.pointer (.axisDiscrete120 axis value)) => do
    encodeU8 axis
    encodeI32 value
  | .input (.keyboard (.key time key state)) => do
    encodeU32 time
    encodeU32 key
    encodeU8 state
  | .input (.keyboard (.modifiers depressed latched locked group)) => do
    encodeU32 depressed
    encodeU32 latched
    encodeU32 locked
    encodeU32 group
  | .ping => return
  | .pong alive => encodeBool alive
  | .enter pos => encodeU8 pos.toU8
  | .leave serial => encodeU32 serial
  | .ack serial => encodeU32 serial
  | .hello commit => commit.toList.forM encodeU8
  | .readiness keyboardReady pointerReady sessionEpoch => do
    encodeBool keyboardReady
    encodeBool pointerReady
    encodeU64 sessionEpoch
  | .releaseRequest releaseEpoch => encodeU64 releaseEpoch
  | .releaseAck releaseEpoch => encodeU64 releaseEpoch

/-- The buffer and the number of bytes written to it; `none` when the encoder panics. -/
def ProtoEvent.encode (event : ProtoEvent) : Option (Vector UInt8 maxEventSize × Nat) := do
  let write : Encoder := do
    encodeU8 event.eventType.toU8
    encodeFields event
  let ((), filled) ← write.run (.empty maxEventSize)
  return (filled.buffer, filled.len)

end Encode

def ProtoEvent.fields : ProtoEvent → Bytes
  | .input (.pointer (.motion time dx dy)) =>
    beBytes 4 time.toNat ++ (beBytes 8 dx.toNat ++ beBytes 8 dy.toNat)
  | .input (.pointer (.button time button state)) =>
    beBytes 4 time.toNat ++ (beBytes 4 button.toNat ++ beBytes 4 state.toNat)
  | .input (.pointer (.axis time axis value)) =>
    beBytes 4 time.toNat ++ (beBytes 1 axis.toNat ++ beBytes 8 value.toNat)
  | .input (.pointer (.axisDiscrete120 axis value)) =>
    beBytes 1 axis.toNat ++ beBytes 4 value.toUInt32.toNat
  | .input (.keyboard (.key time key state)) =>
    beBytes 4 time.toNat ++ (beBytes 4 key.toNat ++ beBytes 1 state.toNat)
  | .input (.keyboard (.modifiers depressed latched locked group)) =>
    beBytes 4 depressed.toNat ++ (beBytes 4 latched.toNat ++
      (beBytes 4 locked.toNat ++ beBytes 4 group.toNat))
  | .ping => []
  | .pong alive => beBytes 1 alive.toUInt8.toNat
  | .enter pos => beBytes 1 pos.toU8.toNat
  | .leave serial | .ack serial => beBytes 4 serial.toNat
  | .hello commit => commit.toList.flatMap fun b => beBytes 1 b.toNat
  | .readiness keyboardReady pointerReady sessionEpoch =>
    beBytes 1 keyboardReady.toUInt8.toNat ++
      (beBytes 1 pointerReady.toUInt8.toNat ++ beBytes 8 sessionEpoch.toNat)
  | .releaseRequest releaseEpoch | .releaseAck releaseEpoch => beBytes 8 releaseEpoch.toNat

section Fields

open Reader Writer

theorem decodeU8_recovers (n : UInt8) : Recovers decodeU8 n (beBytes 1 n.toNat) :=
  (Reads.number _ 1 _ UInt8.toNat UInt8.toNat_lt (by simp) (by simp +contextual)).recovers trivial

theorem decodeU32_recovers (n : UInt32) : Recovers decodeU32 n (beBytes 4 n.toNat) :=
  (Reads.number _ 4 _ UInt32.toNat UInt32.toNat_lt (by simp) (by simp +contextual)).recovers trivial

theorem decodeU64_recovers (n : UInt64) : Recovers decodeU64 n (beBytes 8 n.toNat) :=
  (Reads.number _ 8 _ UInt64.toNat UInt64.toNat_lt (by simp) (by simp +contextual)).recovers trivial

theorem decodeI32_recovers (n : Int32) : Recovers decodeI32 n (beBytes 4 n.toUInt32.toNat) :=
  (decodeU32_recovers n.toUInt32).map UInt32.toInt32

theorem decodeBool_recovers (b : Bool) : Recovers decodeBool b (beBytes 1 b.toUInt8.toNat) := by
  have read := (decodeU8_recovers b.toUInt8).map (· != 0)
  cases b <;> exact read

theorem decodeCommit_recovers (count : Nat) (commit : Vector UInt8 count) :
    Recovers (decodeCommit count) commit (commit.toList.flatMap fun b => beBytes 1 b.toNat) := by
  induction count with
  | zero =>
    obtain rfl : commit = #v[] := Vector.eq_empty
    exact .pure _
  | succ count ih =>
    have parts : commit.pop.push commit.back = commit := Vector.push_pop_back commit
    have read := (ih commit.pop).bind (f := fun front => do return front.push (← decodeU8))
      ((decodeU8_recovers commit.back).map _)
    rw [parts] at read
    have bytes : commit.toList = commit.pop.toList ++ [commit.back] := by
      rw [← Vector.toList_push, parts]
    rw [bytes, List.flatMap_append, List.flatMap_singleton]
    exact read

theorem tryFrom_toU8 (t : EventType) : EventType.tryFrom t.toU8 = .ok t := by cases t <;> rfl

theorem position_tryFrom_toU8 (pos : Position) : Position.tryFrom pos.toU8 = .ok pos := by
  cases pos <;> rfl

theorem decodeEvent_recovers (event : ProtoEvent) :
    Recovers (decodeEvent event.eventType) event event.fields := by
  cases event with
  | input event =>
    cases event with
    | pointer event =>
      cases event with
      | motion time dx dy =>
        exact (decodeU32_recovers time).bind ((decodeU64_recovers dx).bind ((decodeU64_recovers dy).map _))
      | button time button state =>
        exact (decodeU32_recovers time).bind ((decodeU32_recovers button).bind
          ((decodeU32_recovers state).map _))
      | axis time axis value =>
        exact (decodeU32_recovers time).bind ((decodeU8_recovers axis).bind
          ((decodeU64_recovers value).map _))
      | axisDiscrete120 axis value => exact (decodeU8_recovers axis).bind ((decodeI32_recovers value).map _)
    | keyboard event =>
      cases event with
      | key time key state =>
        exact (decodeU32_recovers time).bind ((decodeU32_recovers key).bind ((decodeU8_recovers state).map _))
      | modifiers depressed latched locked group =>
        exact (decodeU32_recovers depressed).bind ((decodeU32_recovers latched).bind
          ((decodeU32_recovers locked).bind ((decodeU32_recovers group).map _)))
  | ping => exact .pure _
  | pong alive => exact (decodeBool_recovers alive).map _
  | enter pos =>
    have read := (decodeU8_recovers pos.toU8).bind
      (f := fun byte => do return ProtoEvent.enter (← StateT.lift (Position.tryFrom byte)))
      ((Recovers.lift (position_tryFrom_toU8 pos)).map _)
    rwa [List.append_nil] at read
  | leave serial | ack serial => exact (decodeU32_recovers serial).map _
  | hello commit => exact (decodeCommit_recovers 8 commit).map _
  | readiness keyboardReady pointerReady sessionEpoch =>
    exact (decodeBool_recovers keyboardReady).bind ((decodeBool_recovers pointerReady).bind
      ((decodeU64_recovers sessionEpoch).map _))
  | releaseRequest releaseEpoch | releaseAck releaseEpoch =>
    exact (decodeU64_recovers releaseEpoch).map _

theorem encodeFields_writes (event : ProtoEvent) : Writes (encodeFields event) event.fields := by
  rcases event with _ | _ | _ | ⟨⟨_ | _ | _ | _⟩ | ⟨_ | _⟩⟩ | _ | _ | _ | _ | _ | _
  case hello commit => exact .forM (fun b => .put _) commit.toList
  case ping => exact .nothing
  case input.pointer.axisDiscrete120 => exact (Writes.put _).seq (.put _)
  case input.keyboard.modifiers =>
    exact (Writes.put _).seq ((Writes.put _).seq ((Writes.put _).seq (.put _)))
  case enter | leave | ack | pong | releaseRequest | releaseAck => exact .put _
  all_goals exact (Writes.put _).seq ((Writes.put _).seq (.put _))

theorem length_fields (event : ProtoEvent) : event.fields.length < maxEventSize := by
  rcases event with _ | _ | _ | ⟨⟨_ | _ | _ | _⟩ | ⟨_ | _⟩⟩ | _ | _ | _ | _ | _ | _ <;>
    simp [ProtoEvent.fields, maxEventSize, List.map_const']

def ProtoEvent.bytes (event : ProtoEvent) : Bytes := beBytes 1 event.eventType.toU8.toNat ++ event.fields

theorem length_bytes (event : ProtoEvent) : event.bytes.length ≤ maxEventSize := by
  have short := length_fields event
  simp only [ProtoEvent.bytes, List.length_append, length_beBytes]
  omega

theorem encode_eq (event : ProtoEvent) :
    ∃ buf, event.encode = some (buf, event.bytes.length) ∧
      buf.toList = event.bytes ++ List.replicate (maxEventSize - event.bytes.length) 0 := by
  have written := (Writer.Writes.put (beBytes 1 event.eventType.toU8.toNat)).seq (encodeFields_writes event)
  have fits : event.bytes.length ≤ (Filling.empty maxEventSize).free.length := by
    simpa [Filling.empty] using length_bytes event
  refine ⟨((Filling.empty maxEventSize).put event.bytes fits).buffer, ?_, ?_⟩
  · have ran := written (.empty maxEventSize) fits
    refine (congrArg (Option.bind · fun p => some (p.2.buffer, p.2.len)) ran).trans ?_
    simp [Filling.put, Filling.empty, ProtoEvent.bytes]
  · simp [Filling.buffer, Filling.put, Filling.empty]

theorem decodeProto_recovers (event : ProtoEvent) : Recovers decodeProto event event.bytes := by
  have read := (decodeU8_recovers event.eventType.toU8).bind
    (f := fun byte => do decodeEvent (← StateT.lift (EventType.tryFrom byte)))
    ((Recovers.lift (tryFrom_toU8 event.eventType)).bind (decodeEvent_recovers event))
  exact read

end Fields

/-- A message fits the buffer, and is decoded from any buffer that begins with it. -/
theorem proto_round_trip (event : ProtoEvent) :
    ∃ bytes buf len, event.encode = some (buf, len) ∧ len ≤ maxEventSize ∧
      buf.toList = bytes ++ List.replicate (maxEventSize - len) 0 ∧ bytes.length = len ∧
      ∀ received : Vector UInt8 maxEventSize, received.toList.take len = buf.toList.take len →
        ProtoEvent.tryFrom received = .ok event := by
  obtain ⟨buf, encoded, content⟩ := encode_eq event
  refine ⟨event.bytes, buf, event.bytes.length, encoded, length_bytes event, content, rfl, ?_⟩
  intro received same
  rw [content, List.take_left] at same
  have split := List.take_append_drop event.bytes.length received.toList
  rw [same] at split
  unfold ProtoEvent.tryFrom
  rw [← split, decodeProto_recovers event]
  rfl

end DisplayMux.LanMouse
