import DisplayMux.LanMouse.Connect
import DisplayMux.LanMouse.Listen
import DisplayMux.LanMouse.Proto

/-! What the two receive loops make of the datagrams on one connection. A loop keeps one
buffer for the whole connection: the transport writes each datagram over the front of it,
and the loop decodes all of it, without asking how much was written. -/
namespace DisplayMux.LanMouse

open ProtoEvent

abbrev Buffer := Vector UInt8 maxEventSize

/-- A longer datagram does not fit the buffer, and the transport fails. -/
abbrev Datagram := { bytes : Bytes // bytes.length ≤ maxEventSize }

/-- `recv` into a buffer, which keeps what stands behind the datagram. -/
def recvInto (buffer : Buffer) (datagram : Datagram) : Buffer where
  toArray := (datagram.1 ++ buffer.toList.drop datagram.1.length).toArray
  size_toArray := by
    have fits := datagram.2
    simp
    omega

def emptyBuffer : Buffer := Vector.replicate maxEventSize 0

def EventType.size : EventType → Nat
  | .pointerMotion => 20
  | .pointerButton => 12
  | .pointerAxis => 13
  | .pointerAxisValue120 => 5
  | .keyboardKey => 9
  | .keyboardModifiers => 16
  | .ping => 0
  | .pong | .enter => 1
  | .leave | .ack => 4
  | .hello => 8
  | .readiness => 10
  | .releaseRequest | .releaseAck => 8

/-- All that the type of a datagram announces is in the datagram itself. -/
def complete (datagram : Datagram) : Bool :=
  match datagram.1 with
  | [] => false
  | type :: fields => match EventType.tryFrom type with
    | .error _ => true
    | .ok type => type.size ≤ fields.length

/-- What a loop makes of a datagram: what it decoded, and what it does next. A loop that is
left before it decodes has no result. -/
structure Received (ο : Type) where
  result : Option (Except DecodeError ProtoEvent)
  effects : List ο
  deriving DecidableEq

/-- `read_loop` of the listener -/
def readLoop (addr : SocketAddr) : Machine Buffer Datagram (Received ListenEvent) where
  step buffer datagram :=
    let buffer := recvInto buffer datagram
    match tryFrom buffer with
    | .ok event => some (buffer, ⟨some (.ok event), [.msg event addr]⟩)
    | .error e => some (buffer, ⟨some (.error e), []⟩)

/-- A datagram on the connection of the loop, or anything else that happens meanwhile. -/
inductive Arrival where
  | datagram (datagram : Datagram)
  | meanwhile (move : Move)
  deriving DecidableEq

/-- `receive_loop` on the connection `conn`, which reads what no other loop does. -/
def receiveLoop (conn : Nat) : Machine (Network × Buffer) Arrival (Received Signal) where
  step
  | (n, buffer), .datagram datagram => do
    let buffer := recvInto buffer datagram
    let result := tryFrom buffer
    let link ← n.links[conn]?
    let (n', signals) ← n.datagram conn result.toOption
    return ((n', buffer), ⟨if n.current link.addr conn then some result else none, signals⟩)
  | (n, buffer), .meanwhile move => do
    if let .datagram other _ := move then
      if other = conn then none
    let (n, signals) ← n.step move
    return ((n, buffer), ⟨none, signals⟩)

section Decode

open Reader

theorem decodeU8_fixed : Fixed decodeU8 1 := .number _ 1 _

theorem decodeU32_fixed : Fixed decodeU32 4 := .number _ 4 _

theorem decodeU64_fixed : Fixed decodeU64 8 := .number _ 8 _

theorem decodeBool_fixed : Fixed decodeBool 1 := decodeU8_fixed.map _

theorem decodeCommit_fixed (count : Nat) : Fixed (decodeCommit count) count := by
  induction count with
  | zero => exact ⟨.pure _, fun front empty => ⟨#v[], by rw [List.length_eq_zero_iff.mp empty]; rfl⟩⟩
  | succ count ih => exact ih.bind fun _ => decodeU8_fixed.map _

theorem decodeU8_sharp : Sharp decodeU8 1 :=
  .number _ 1 _ UInt8.toNat UInt8.toNat_lt (by simp) (by simp +contextual)

theorem decodeU32_sharp : Sharp decodeU32 4 :=
  .number _ 4 _ UInt32.toNat UInt32.toNat_lt (by simp) (by simp +contextual)

theorem decodeU64_sharp : Sharp decodeU64 8 :=
  .number _ 8 _ UInt64.toNat UInt64.toNat_lt (by simp) (by simp +contextual)

theorem decodeI32_sharp : Sharp decodeI32 4 :=
  decodeU32_sharp.map fun _ _ same => by simpa using congrArg Int32.toUInt32 same

theorem decodeEvent_sharp (type : EventType) : Sharp (decodeEvent type) type.size := by
  cases type with
  | pointerMotion =>
    exact .bind decodeU32_fixed (fun _ => .bind decodeU64_fixed (fun _ =>
      decodeU64_sharp.map fun _ _ same => by simpa using same) (by decide)) (by decide)
  | pointerButton =>
    exact .bind decodeU32_fixed (fun _ => .bind decodeU32_fixed (fun _ =>
      decodeU32_sharp.map fun _ _ same => by simpa using same) (by decide)) (by decide)
  | pointerAxis =>
    exact .bind decodeU32_fixed (fun _ => .bind decodeU8_fixed (fun _ =>
      decodeU64_sharp.map fun _ _ same => by simpa using same) (by decide)) (by decide)
  | pointerAxisValue120 =>
    exact .bind decodeU8_fixed (fun _ => decodeI32_sharp.map fun _ _ same => by simpa using same)
      (by decide)
  | keyboardKey =>
    exact .bind decodeU32_fixed (fun _ => .bind decodeU32_fixed (fun _ =>
      decodeU8_sharp.map fun _ _ same => by simpa using same) (by decide)) (by decide)
  | keyboardModifiers =>
    exact .bind decodeU32_fixed (fun _ => .bind decodeU32_fixed (fun _ => .bind decodeU32_fixed (fun _ =>
      decodeU32_sharp.map fun _ _ same => by simpa using same) (by decide)) (by decide)) (by decide)
  | ping => exact .pure _
  | pong =>
    refine ⟨(decodeBool_fixed.map _).takes, ?_⟩
    intro front size
    rw [List.length_eq_zero_iff.mp (Nat.succ.inj size)]
    decide
  | enter =>
    refine ⟨decodeU8_fixed.takes.bind fun _ => (Takes.lift _).map _, ?_⟩
    intro front size
    rw [List.length_eq_zero_iff.mp (Nat.succ.inj size)]
    decide
  | leave | ack => exact decodeU32_sharp.map fun _ _ same => by simpa using same
  | hello =>
    have commit : Sharp (decodeCommit 8) (7 + 1) :=
      .bind (decodeCommit_fixed 7) (fun _ => decodeU8_sharp.map fun _ _ same =>
        (Vector.push_eq_push.mp same).1) (by decide)
    exact commit.map fun _ _ same => by simpa using same
  | readiness =>
    exact .bind decodeBool_fixed (fun _ => .bind decodeBool_fixed (fun _ =>
      decodeU64_sharp.map fun _ _ same => by simpa using same) (by decide)) (by decide)
  | releaseRequest | releaseAck => exact decodeU64_sharp.map fun _ _ same => by simpa using same

theorem tryFrom_cons {buffer : Buffer} {type : UInt8} {rest : Bytes} (is : buffer.toList = type :: rest) :
    tryFrom buffer =
      (EventType.tryFrom type).bind fun type => ((decodeEvent type).run rest).map Prod.fst := by
  have byte : decodeU8.run (type :: rest) = .ok (type, rest) := by
    have read := decodeU8_recovers type rest
    have same : beBytes 1 type.toNat = [type] := by simp [beBytes]
    rwa [same] at read
  unfold tryFrom decodeProto
  rw [is, StateT.run_bind, byte]
  simp only [Bind.bind, Except.bind]
  cases EventType.tryFrom type <;> rfl

end Decode

section Isolation

@[simp] theorem toList_recvInto (buffer : Buffer) (datagram : Datagram) :
    (recvInto buffer datagram).toList = datagram.1 ++ buffer.toList.drop datagram.1.length := by
  simp [recvInto, Vector.toList]

theorem recvInto_full (buffer full : Buffer) :
    recvInto buffer ⟨full.toList, Nat.le_of_eq full.length_toList⟩ = full := by
  apply Vector.toList_inj.mp
  simp

theorem EventType.size_lt (type : EventType) : type.size < maxEventSize := by cases type <;> decide

theorem tryFrom_recvInto_of_complete {datagram : Datagram} (whole : complete datagram = true)
    (buffer buffer' : Buffer) :
    tryFrom (recvInto buffer datagram) = tryFrom (recvInto buffer' datagram) := by
  obtain ⟨bytes, fits⟩ := datagram
  cases bytes with
  | nil => simp [complete] at whole
  | cons type fields =>
    have read (b : Buffer) : tryFrom (recvInto b ⟨type :: fields, fits⟩) = _ :=
      tryFrom_cons (toList_recvInto b _)
    rw [read, read]
    simp only [complete] at whole
    cases known : EventType.tryFrom type with
    | error e => rfl
    | ok type =>
      rw [known] at whole
      have enough : (fields.take type.size).length = type.size :=
        List.length_take_of_le (of_decide_eq_true whole)
      have local_ := (decodeEvent_sharp type).takes (fields.take type.size)
      have apart (rest : Bytes) :
          fields ++ rest = fields.take type.size ++ (fields.drop type.size ++ rest) := by
        rw [← List.append_assoc, List.take_append_drop]
      simp only [Except.bind]
      rw [List.append_eq, List.append_eq, apart, apart (List.drop _ buffer'.toList),
        local_ _ enough, local_ _ enough]
      cases (decodeEvent type).run (fields.take type.size) <;> rfl

theorem exists_tryFrom_ne {datagram : Datagram} (short : complete datagram = false) :
    ∃ buffer buffer' : Buffer,
      tryFrom (recvInto buffer datagram) ≠ tryFrom (recvInto buffer' datagram) := by
  obtain ⟨bytes, fits⟩ := datagram
  cases bytes with
  | nil =>
    have apart : tryFrom (recvInto (emptyBuffer.set 0 6) ⟨[], Nat.zero_le _⟩) ≠
        tryFrom (recvInto (emptyBuffer.set 0 7) ⟨[], Nat.zero_le _⟩) := by decide
    exact ⟨_, _, apart⟩
  | cons type fields =>
    simp only [complete] at short
    split at short
    · cases short
    rename_i kind known
    have missing : fields.length < kind.size := not_le.mp (of_decide_eq_false short)
    have room := kind.size_lt
    -- the announced fields up to the last byte, which is the one that varies
    let front := fields ++ List.replicate (kind.size - fields.length - 1) 0
    have size : front.length + 1 = kind.size := by
      simp only [front, List.length_append, List.length_replicate]
      omega
    let filled (byte : UInt8) : Buffer :=
      ⟨(type :: (front ++ [byte] ++ List.replicate (maxEventSize - 1 - kind.size) 0)).toArray, by
        simp only [List.size_toArray, List.length_cons, List.length_append, List.length_replicate,
          List.length_nil]
        omega⟩
    have kept (byte : UInt8) : (recvInto (filled byte) ⟨type :: fields, fits⟩).toList =
        type :: (front ++ [byte] ++ List.replicate (maxEventSize - 1 - kind.size) 0) := by
      rw [toList_recvInto]
      simp [filled, front, Vector.toList]
    have read (byte : UInt8) : tryFrom (recvInto (filled byte) ⟨type :: fields, fits⟩) =
        ((decodeEvent kind).run (front ++ [byte])).map Prod.fst := by
      rw [tryFrom_cons (kept byte), known]
      simp only [Except.bind]
      rw [(decodeEvent_sharp kind).takes (front ++ [byte]) _ (by simpa using size)]
      cases (decodeEvent kind).run (front ++ [byte]) <;> rfl
    refine ⟨filled 0, filled 1, ?_⟩
    rw [read, read]
    exact (decodeEvent_sharp kind).tells front size

end Isolation

section Loops

/-- Whatever the connection carried before, and whatever else happened, the datagram is
decoded alike. -/
def Isolated {σ ι ο : Type} (m : Machine σ ι (Received ο)) (start : σ → Prop) (carry : Datagram → ι)
    (datagram : Datagram) : Prop :=
  ∀ s s' trace trace' last last', start s → start s' → Run m s trace last → Run m s' trace' last' →
    ∀ e ∈ trace, ∀ e' ∈ trace', e.input = carry datagram → e'.input = carry datagram →
      ∀ r ∈ e.output.result, ∀ r' ∈ e'.output.result, r = r'

section Buffered

variable {σ ι ο : Type} {m : Machine σ ι (Received ο)} {start : σ → Prop} {carry : Datagram → ι}
  {datagram : Datagram}

theorem isolated_of_complete (buffer : σ → Buffer)
    (decodes : ∀ s d s' o r, m.step s (carry d) = some (s', o) → r ∈ o.result →
      r = tryFrom (recvInto (buffer s) d))
    (whole : complete datagram = true) : Isolated m start carry datagram := by
  intro s s' trace trace' last last' _ _ run run' e member e' member' is is' r result r' result'
  obtain ⟨-, -, step⟩ := run.entry_step member
  obtain ⟨-, -, step'⟩ := run'.entry_step member'
  rw [is] at step
  rw [is'] at step'
  rw [decodes _ _ _ _ r step result, decodes _ _ _ _ r' step' result']
  exact tryFrom_recvInto_of_complete whole _ _

theorem complete_of_isolated
    (reads : ∀ full : Buffer, ∃ s trace last, start s ∧ Run m s trace last ∧
      ∃ e ∈ trace, e.input = carry datagram ∧
        e.output.result = some (tryFrom (recvInto full datagram)))
    (isolated : Isolated m start carry datagram) : complete datagram = true := by
  by_contra short
  obtain ⟨full, full', apart⟩ := exists_tryFrom_ne (Bool.eq_false_iff.mpr short)
  obtain ⟨s, trace, last, begun, run, e, member, is, result⟩ := reads full
  obtain ⟨s', trace', last', begun', run', e', member', is', result'⟩ := reads full'
  exact apart (isolated _ _ _ _ _ _ begun begun' run run' e member e' member' is is' _ result _ result')

end Buffered

theorem readLoop_decodes {addr : SocketAddr} {buffer buffer' : Buffer} {datagram : Datagram}
    {o : Received ListenEvent} {r : Except DecodeError ProtoEvent}
    (step : (readLoop addr).step buffer datagram = some (buffer', o)) (result : r ∈ o.result) :
    r = tryFrom (recvInto buffer datagram) := by
  simp only [readLoop] at step
  split at step
  all_goals
    rename_i decoded
    cases step
    rw [decoded]
    exact (Option.some.inj result).symm

theorem readLoop_step (addr : SocketAddr) (buffer : Buffer) (datagram : Datagram) :
    ∃ o, (readLoop addr).step buffer datagram = some (recvInto buffer datagram, o) ∧
      o.result = some (tryFrom (recvInto buffer datagram)) := by
  cases decoded : tryFrom (recvInto buffer datagram) with
  | ok event => exact ⟨⟨some (.ok event), [.msg event addr]⟩, by simp [readLoop, decoded], rfl⟩
  | error e => exact ⟨⟨some (.error e), []⟩, by simp [readLoop, decoded], rfl⟩

theorem readLoop_reads (addr : SocketAddr) (datagram : Datagram) (full : Buffer) :
    ∃ s trace last, s = emptyBuffer ∧ Run (readLoop addr) s trace last ∧
      ∃ e ∈ trace, e.input = id datagram ∧
        e.output.result = some (tryFrom (recvInto full datagram)) := by
  obtain ⟨first, step, -⟩ := readLoop_step addr emptyBuffer ⟨full.toList, by simp⟩
  obtain ⟨second, step', result⟩ := readLoop_step addr full datagram
  rw [recvInto_full] at step
  exact ⟨_, _, _, rfl, .snoc (.snoc .nil step) step', _, List.mem_append_right _ (List.mem_singleton.mpr rfl),
    rfl, result⟩

theorem receiveLoop_decodes {conn : Nat} {s s' : Network × Buffer} {datagram : Datagram}
    {o : Received Signal} {r : Except DecodeError ProtoEvent}
    (step : (receiveLoop conn).step s (.datagram datagram) = some (s', o)) (result : r ∈ o.result) :
    r = tryFrom (recvInto s.2 datagram) := by
  simp only [receiveLoop, Option.bind_eq_bind, Option.bind_eq_some_iff] at step
  obtain ⟨link, -, ⟨n, signals⟩, -, step⟩ := step
  cases step
  split at result
  · exact (Option.some.inj result).symm
  · cases result

/-- The loop of the connection runs, and the connection was not replaced. -/
def Network.Reading (n : Network) (conn : Nat) : Prop :=
  ∃ link, n.links[conn]? = some link ∧ link.receiving = true ∧ n.current link.addr conn = true

theorem Network.Reading.datagram {n : Network} {conn : Nat} (reading : n.Reading conn)
    (event : Option ProtoEvent) :
    ∃ n' signals, n.datagram conn event = some (n', signals) ∧ n'.Reading conn := by
  obtain ⟨link, found, receiving, current⟩ := reading
  have here : conn < n.links.length := (List.getElem?_eq_some_iff.mp found).1
  cases event with
  | none =>
    exact ⟨n, [], by simp [Network.datagram, found, receiving, current], link, found, receiving, current⟩
  | some event =>
    refine ⟨(n.receive conn link event).1, (n.receive conn link event).2,
      by simp [Network.datagram, found, receiving, current], ?_⟩
    cases event with
    | readiness keyboardReady pointerReady sessionEpoch =>
      simp only [Network.receive]
      split
      · exact ⟨link, found, receiving, current⟩
      · rename_i latest _
        exact ⟨{ link with latestPeerSessionEpoch := latest },
          by simp [Network.withClients, Network.setLink, here], receiving, current⟩
    | _ => exact ⟨link, found, receiving, current⟩

theorem receiveLoop_step {n : Network} {conn : Nat} (reading : n.Reading conn) (buffer : Buffer)
    (datagram : Datagram) :
    ∃ n' o, (receiveLoop conn).step (n, buffer) (.datagram datagram) =
        some ((n', recvInto buffer datagram), o) ∧ n'.Reading conn ∧
      o.result = some (tryFrom (recvInto buffer datagram)) := by
  obtain ⟨n', signals, received, still⟩ :=
    reading.datagram (tryFrom (recvInto buffer datagram)).toOption
  obtain ⟨link, found, -, current⟩ := reading
  exact ⟨n', ⟨some (tryFrom (recvInto buffer datagram)), signals⟩,
    by simp [receiveLoop, found, received, current], still, rfl⟩

theorem exists_reading :
    ∃ trace n, Run (receiveLoop 0) (Network.new [], emptyBuffer) trace (n, emptyBuffer) ∧ n.Reading 0 := by
  obtain ⟨trace, ⟨n, _⟩, run, rfl, reads⟩ := (receiveLoop 0).exists_run (Network.new [], emptyBuffer)
    ([.create, .setFixIps 0 [.v4 0], .setActive 0 true, .request 0, .start 0,
      .established 0 ⟨.v4 0, defaultPort⟩].map .meanwhile)
    (fun _ s => s.2 = emptyBuffer ∧
      (s.1.links[0]?.any fun link => link.receiving && s.1.current link.addr 0) = true) (by decide)
  simp only [Option.any_eq_true, Bool.and_eq_true] at reads
  exact ⟨trace, n, run, reads⟩

theorem receiveLoop_reads (datagram : Datagram) (full : Buffer) :
    ∃ s trace last, (∃ configs, s = (Network.new configs, emptyBuffer)) ∧
      Run (receiveLoop 0) s trace last ∧ ∃ e ∈ trace, e.input = .datagram datagram ∧
        e.output.result = some (tryFrom (recvInto full datagram)) := by
  obtain ⟨trace, n, run, reading⟩ := exists_reading
  obtain ⟨n', first, step, reading, -⟩ := receiveLoop_step reading emptyBuffer ⟨full.toList, by simp⟩
  rw [recvInto_full] at step
  obtain ⟨n'', second, step', -, result⟩ := receiveLoop_step reading full datagram
  exact ⟨_, _, _, ⟨[], rfl⟩, .snoc (.snoc run step) step', _,
    List.mem_append_right _ (List.mem_singleton.mpr rfl), rfl, result⟩

/-- Each loop decodes a datagram from its own bytes alone exactly when these are all that its
type announces. -/
theorem isolated_iff_complete (addr : SocketAddr) (datagram : Datagram) :
    (Isolated (readLoop addr) (· = emptyBuffer) id datagram ↔ complete datagram = true) ∧
      ((∀ conn, Isolated (receiveLoop conn) (fun s => ∃ configs, s = (Network.new configs, emptyBuffer))
        .datagram datagram) ↔ complete datagram = true) := by
  refine ⟨⟨?_, ?_⟩, ?_, ?_⟩
  · exact complete_of_isolated (readLoop_reads addr datagram)
  · exact isolated_of_complete id fun _ _ _ _ _ => readLoop_decodes
  · intro isolated
    exact complete_of_isolated (receiveLoop_reads datagram) (isolated 0)
  · intro whole conn
    exact isolated_of_complete Prod.snd (fun _ _ _ _ _ => receiveLoop_decodes) whole

/-- One byte after a motion repeats the motion; as the first datagram it is another one. -/
theorem short_datagram_completed_from_earlier :
    ∃ addr : SocketAddr, ∃ motion short : Datagram, complete short = false ∧
      ((readLoop addr).replay emptyBuffer [motion, short]).map (·.1.map (·.output.effects)) =
        some [[.msg (.input (.pointer (.motion 1 2 3))) addr],
          [.msg (.input (.pointer (.motion 1 2 3))) addr]] ∧
      ((readLoop addr).replay emptyBuffer [short]).map (·.1.map (·.output.effects)) =
        some [[.msg (.input (.pointer (.motion 0 0 0))) addr]] :=
  ⟨⟨.v4 0, 0⟩, ⟨(input (.pointer (.motion 1 2 3))).bytes, by decide⟩, ⟨[0], by decide⟩,
    by decide, by decide, by decide⟩

end Loops

end DisplayMux.LanMouse
