import DisplayMux.Clipboard.RoundTrip

/-! Frames on a stream: what is read is exactly what is written. -/
namespace DisplayMux.Clipboard

open WireMessage EncodedFrame HeaderWriter

section Prefix

variable {bytes a b : Bytes} {start mid stop : Nat}

theorem length_slice (within : stop ≤ bytes.length) :
    (slice bytes start stop).length = stop - start := by
  simp only [slice, List.length_take, List.length_drop]
  omega

theorem slice_eq_append (first : start ≤ mid) (second : mid ≤ stop) (within : stop ≤ bytes.length)
    (size : a.length = mid - start) :
    slice bytes start stop = a ++ b ↔ slice bytes start mid = a ∧ slice bytes mid stop = b := by
  have whole : slice bytes start stop = slice bytes start mid ++ slice bytes mid stop := by
    have both : stop - start = (mid - start) + (stop - mid) := by omega
    have skip : start + (mid - start) = mid := by omega
    simp only [slice]
    rw [both, List.take_add, List.drop_drop, skip]
  rw [whole]
  constructor
  · intro same
    refine List.append_inj same ?_
    rw [size, length_slice (Nat.le_trans second within)]
  · rintro ⟨rfl, rfl⟩
    rfl

section

variable (within : stop ≤ bytes.length)
include within

theorem u16_slice (size : stop - start = 2) {v : UInt16} :
    UInt16.ofNat (beValue (slice bytes start stop)) = v ↔
      slice bytes start stop = u16 v :=
  ofNat_beValue (fun v => v.toNat_lt) (fun _ => UInt16.ofNat_toNat)
    (fun _ fits => UInt16.toNat_ofNat_of_lt' fits) ((length_slice within).trans size)

theorem u32_slice (size : stop - start = 4) {v : UInt32} :
    UInt32.ofNat (beValue (slice bytes start stop)) = v ↔
      slice bytes start stop = u32 v :=
  ofNat_beValue (fun v => v.toNat_lt) (fun _ => UInt32.ofNat_toNat)
    (fun _ fits => UInt32.toNat_ofNat_of_lt' fits) ((length_slice within).trans size)

theorem u64_slice (size : stop - start = 8) {v : UInt64} :
    UInt64.ofNat (beValue (slice bytes start stop)) = v ↔
      slice bytes start stop = u64 v :=
  ofNat_beValue (fun v => v.toNat_lt) (fun _ => UInt64.ofNat_toNat)
    (fun _ fits => UInt64.toNat_ofNat_of_lt' fits) ((length_slice within).trans size)

end

end Prefix

variable {pre : Bytes}

theorem prefix_fields (size : pre.length = prefixBytes) {type : MessageType}
    {headerLength : UInt32} {payloadLength : UInt64} :
    pre = encodePrefix type headerLength payloadLength ↔
      slice pre 0 4 = magic ∧ UInt16.ofNat (beValue (slice pre 4 6)) = protocolVersion ∧
      UInt16.ofNat (beValue (slice pre 6 8)) = type.toU16 ∧
      UInt32.ofNat (beValue (slice pre 8 12)) = knownFlags ∧
      UInt32.ofNat (beValue (slice pre 12 16)) = headerLength ∧
      UInt64.ofNat (beValue (slice pre 16 24)) = payloadLength := by
  have long : pre.length = 24 := size
  have whole : slice pre 0 24 = pre := by simp [slice, ← long]
  have cut (mid : Nat) {a b : Bytes} {stop : Nat} (ordered : mid ≤ stop) (within : stop ≤ 24)
      (size : a.length = mid) :
      slice pre 0 stop = a ++ b ↔ slice pre 0 mid = a ∧ slice pre mid stop = b :=
    slice_eq_append (Nat.zero_le mid) ordered (by omega) size
  rw [u16_slice (by omega) rfl, u16_slice (by omega) rfl, u32_slice (by omega) rfl,
    u32_slice (by omega) rfl, u64_slice (by omega) rfl]
  calc pre = encodePrefix type headerLength payloadLength
    _ ↔ slice pre 0 24 = encodePrefix type headerLength payloadLength := by rw [whole]
    _ ↔ _ := by
      unfold encodePrefix u16 u32
      rw [cut 16 (by decide) (by decide) (by simp [magic]),
        cut 12 (by decide) (by decide) (by simp [magic]),
        cut 8 (by decide) (by decide) (by simp [magic]),
        cut 6 (by decide) (by decide) (by simp [magic]),
        cut 4 (by decide) (by decide) rfl]
      simp only [and_assoc]

theorem checkedPayloadLength_ok {declared max : UInt64} {length : Nat} :
    checkedPayloadLength declared max 0xffffffffffffffff = .ok length ↔
      declared.toNat = length ∧ length ≤ max.toNat := by
  have fits : ¬ (0xffffffffffffffff : UInt64) < declared := by
    rw [UInt64.lt_iff_toNat_lt]
    have small := declared.toNat_lt
    simp
    omega
  unfold checkedPayloadLength
  split
  · rename_i large
    rw [UInt64.lt_iff_toNat_lt] at large
    simp only [reduceCtorEq, false_iff, not_and]
    omega
  · rename_i small
    rw [UInt64.lt_iff_toNat_lt] at small
    rw [Except.ok.injEq]
    omega

theorem decodePrefix_ok (size : pre.length = prefixBytes) {max : UInt64} {d : DecodedPrefix} :
    decodePrefix pre max = .ok d ↔
      pre = encodePrefix d.messageType (UInt32.ofNat d.headerLength) (UInt64.ofNat d.payloadLength) ∧
        d.headerLength ≤ maxHeaderBytes ∧ d.payloadLength ≤ max.toNat := by
  rw [prefix_fields size]
  simp only [decodePrefix, guarded_ok, bind_ok, pure_ok, ne_eq, not_not, MessageType.tryFrom_ok,
    checkedPayloadLength_ok]
  constructor
  · rintro ⟨same, version, type, typed, flags, header, _, ⟨rfl, payload⟩, rfl⟩
    exact ⟨⟨same, version, typed, flags, UInt32.ofNat_toNat.symm, UInt64.ofNat_toNat.symm⟩,
      Nat.le_of_not_lt header, payload⟩
  rintro ⟨⟨same, version, typed, flags, header, payload⟩, short, fits⟩
  have headerFits : d.headerLength < UInt32.size := Nat.lt_of_le_of_lt short (by decide)
  have payloadFits : d.payloadLength < UInt64.size := Nat.lt_of_le_of_lt fits max.toNat_lt
  rw [header, payload, UInt32.toNat_ofNat_of_lt' headerFits, UInt64.toNat_ofNat_of_lt' payloadFits]
  exact ⟨same, version, _, typed, flags, Nat.not_lt.mpr short, _, ⟨rfl, fits⟩, rfl⟩

def WireMessage.frame (hash : Hash) (m : WireMessage) : EncodedFrame :=
  ⟨encodePrefix m.messageType (UInt32.ofNat (m.parsed hash).bytes.length)
    (UInt64.ofNat (m.payload?.getD []).length), (m.parsed hash).bytes, m.payload?⟩

section Frames

variable {hash : Hash} {maxPayloadBytes : UInt64} {m : WireMessage} {f : EncodedFrame}

theorem encodeMessage_ok :
    encodeMessage hash m maxPayloadBytes = .ok f ↔ Encodable maxPayloadBytes m ∧ m.frame hash = f := by
  simp only [encodeMessage, bind_ok, Prod.exists, encodeHeader_ok]
  constructor
  · rintro ⟨_, _, ⟨encodable, rfl, rfl⟩, framed⟩
    rw [if_neg (Nat.not_lt.mpr (length_header encodable.hosts)), Except.ok.injEq] at framed
    refine ⟨encodable, ?_⟩
    rw [← framed, frame]
    cases m.payload? <;> rfl
  · rintro ⟨encodable, rfl⟩
    refine ⟨_, _, ⟨encodable, rfl, rfl⟩, ?_⟩
    rw [if_neg (Nat.not_lt.mpr (length_header encodable.hosts)), frame]
    cases m.payload? <;> rfl

theorem length_encodePrefix {type : MessageType} {headerLength : UInt32} {payloadLength : UInt64} :
    (encodePrefix type headerLength payloadLength).length = prefixBytes := by
  simp [encodePrefix, u16, u32, u64, magic, prefixBytes]

end Frames

section Reading

variable {ε : Type} {s s' : Stream}

theorem buffer_ok {count : Nat} {u : Unit} :
    (buffer count : EStateM ε Stream Unit) s = .ok u s' ↔
      s' = { s with buffered := s.buffered + count } := by
  have done : (buffer count : EStateM ε Stream Unit) s =
    .ok () { s with buffered := s.buffered + count } := rfl
  simp [done, eq_comm]

theorem liftFrame_ok {α : Type} {ofFrame : FrameError → ε} {x : Except FrameError α} {a : α} :
    liftFrame ofFrame x s = .ok a s' ↔ x = .ok a ∧ s = s' := by
  cases x with
  | error e =>
    have failed : liftFrame ofFrame (.error e : Except FrameError α) s = .error (ofFrame e) s := rfl
    simp [failed]
  | ok b => simp [liftFrame, pure, EStateM.pure]

theorem readExactBefore_ok {ofFrame : FrameError → ε} {interrupt : Option Interrupt} {count : Nat}
    {bytes : Bytes} :
    readExactBefore ofFrame interrupt count s = .ok bytes s' ↔
      interrupt = none ∧ bytes.length = count ∧ s = ⟨bytes ++ s'.input, s'.buffered⟩ := by
  cases interrupt with
  | some interrupt =>
    obtain ⟨e, failed⟩ : ∃ e, readExactBefore ofFrame (some interrupt) count s = .error e s := by
      cases interrupt <;> exact ⟨_, rfl⟩
    simp [failed]
  | none =>
    simp only [readExactBefore, run_bind_ok, run_guarded_ok]
    constructor
    · rintro ⟨_, _, ⟨⟩, enough, _, _, ⟨⟩, ⟨⟩⟩
      exact ⟨trivial, List.length_take_of_le (Nat.le_of_not_lt enough), by simp⟩
    · rintro ⟨-, rfl, rfl⟩
      refine ⟨_, _, rfl, by simp, _, _, rfl, ?_⟩
      simp [pure, EStateM.pure]

end Reading

section Validated

variable {ε : Type} {hash : Hash} {ofFrame : FrameError → ε}
  {validator : FrameMetadata → Except ε Unit} {maxPayloadBytes : UInt64} {interrupts : Interrupts}
  {s s' : Stream} {m : WireMessage}

theorem readFrameAfterPrefix_ok :
    readFrameAfterPrefix hash ofFrame validator maxPayloadBytes interrupts pre s = .ok m s' ↔
      ∃ d header p payload, decodePrefix pre maxPayloadBytes = .ok d ∧
        (interrupts.header = none ∧ header.length = d.headerLength) ∧
        parseHeader d.messageType header = .ok p ∧
        ¬ (d.messageType ≠ .snapshotOffer ∧ d.messageType ≠ .snapshotDeliver ∧ d.payloadLength ≠ 0) ∧
        validator (frameMetadata d.messageType p) = .ok () ∧
        (interrupts.payload = none ∧ payload.length = d.payloadLength) ∧
        finishMessage hash d.messageType p payload = .ok m ∧
        s.input = header ++ (payload ++ s'.input) ∧
        s'.buffered = s.buffered + maxHeaderBytes + d.payloadLength := by
  simp only [readFrameAfterPrefix, run_bind_ok, buffer_ok, readExactBefore_ok, liftFrame_ok,
    run_guarded_ok]
  constructor
  · rintro ⟨d, _, ⟨decoded, rfl⟩, _, _, rfl, header, t, ⟨calm, size, taken⟩, p, _, ⟨parsed, rfl⟩,
      expected, rest⟩
    cases valid : validator (frameMetadata d.messageType p) with
    | error e =>
      rw [valid] at rest
      contradiction
    | ok =>
      simp only [valid, run_bind_ok, buffer_ok, readExactBefore_ok, liftFrame_ok] at rest
      obtain ⟨_, _, rfl, payload, _, ⟨still, length, cut⟩, finished, rfl⟩ := rest
      simp only [Stream.mk.injEq] at taken cut
      refine ⟨d, header, p, payload, decoded, ⟨calm, size⟩, parsed, expected, valid,
        ⟨still, length⟩, finished, ?_, ?_⟩
      · rw [taken.1, cut.1]
      · rw [← cut.2, ← taken.2]
  rintro ⟨d, header, p, payload, decoded, ⟨calm, size⟩, parsed, expected, valid, ⟨still, length⟩,
    finished, input, buffered⟩
  refine ⟨d, _, ⟨decoded, rfl⟩, (), _, rfl, header,
    ⟨payload ++ s'.input, s.buffered + maxHeaderBytes⟩, ⟨calm, size, by rw [input]⟩, p, _,
    ⟨parsed, rfl⟩, expected, ?_⟩
  simp only [valid, run_bind_ok, buffer_ok, readExactBefore_ok, liftFrame_ok]
  exact ⟨(), _, rfl, payload, _, ⟨still, length, by rw [buffered]⟩, finished, rfl⟩

theorem payload_expected :
    ¬ (m.messageType ≠ .snapshotOffer ∧ m.messageType ≠ .snapshotDeliver ∧
      (m.payload?.getD []).length ≠ 0) := by
  cases m <;> simp [messageType, payload?, snapshot?]

theorem Encodable.payload_fits (ok : Encodable maxPayloadBytes m) :
    (m.payload?.getD []).length ≤ maxPayloadBytes.toNat := by
  unfold payload?
  cases sent : m.snapshot? with
  | none => exact Nat.zero_le _
  | some snapshot => exact (ok.data snapshot sent).2

/-- A read succeeds exactly on the frames of the messages that can be sent and that the
validator lets through. -/
theorem readFrameValidated_ok :
    readFrameValidated hash ofFrame validator maxPayloadBytes interrupts s = .ok m s' ↔
      interrupts = .none ∧ Encodable maxPayloadBytes m ∧
      validator (frameMetadata m.messageType (m.parsed hash)) = .ok () ∧
      s.input = (m.frame hash).toVec ++ s'.input ∧
      s'.buffered = s.buffered + prefixBytes + maxHeaderBytes + (m.payload?.getD []).length := by
  simp only [readFrameValidated, run_bind_ok, buffer_ok, readExactBefore_ok, readFrameAfterPrefix_ok]
  constructor
  · rintro ⟨_, _, rfl, pre, t, ⟨calm, size, taken⟩, d, header, p, payload, decoded, ⟨quiet, sizeH⟩,
      parsed, -, valid, ⟨still, sizeP⟩, finished, input, buffered⟩
    obtain ⟨prefixed, -, small⟩ := (decodePrefix_ok size).mp decoded
    obtain ⟨⟨-, hosts⟩, headed⟩ := parseHeader_ok.mp parsed
    obtain ⟨typed, rfl, loaded, sound⟩ := finishMessage_ok.mp finished
    rw [parsed_hosts] at hosts
    rw [loaded] at sizeP input
    rw [headed] at sizeH input
    rw [typed] at valid prefixed
    rw [← sizeP] at prefixed small buffered
    rw [← sizeH] at prefixed
    simp only [Stream.mk.injEq] at taken
    refine ⟨?_, ⟨hosts, ?_⟩, valid, ?_, ?_⟩
    · obtain ⟨pre, header, payload⟩ := interrupts
      cases calm
      cases quiet
      cases still
      rfl
    · intro snapshot sent
      rw [payload?, sent] at small
      exact ⟨sound snapshot sent, small⟩
    · rw [taken.1, input, prefixed, toVec, frame]
      simp only [List.append_assoc]
    · rw [buffered, ← taken.2]
  rintro ⟨rfl, encodable, valid, input, buffered⟩
  refine ⟨(), _, rfl, (m.frame hash).pre,
    ⟨(m.parsed hash).bytes ++ (m.payload?.getD [] ++ s'.input), s.buffered + prefixBytes⟩,
    ⟨rfl, length_encodePrefix, ?_⟩, ?_⟩
  · rw [input, toVec, frame]
    simp only [List.append_assoc]
  refine ⟨⟨m.messageType, (m.parsed hash).bytes.length, (m.payload?.getD []).length⟩,
    (m.parsed hash).bytes, m.parsed hash, m.payload?.getD [], ?_, ⟨rfl, rfl⟩, ?_, payload_expected,
    valid, ⟨rfl, rfl⟩, ?_, rfl, buffered⟩
  · exact (decodePrefix_ok length_encodePrefix).mpr
      ⟨rfl, length_header encodable.hosts, encodable.payload_fits⟩
  · refine parseHeader_ok.mpr ⟨⟨parsed_fits, ?_⟩, rfl⟩
    rw [parsed_hosts]
    exact encodable.hosts
  · exact finishMessage_ok.mpr ⟨rfl, rfl, rfl, fun snapshot sent => (encodable.data snapshot sent).1⟩

end Validated

section Stream

variable {hash : Hash} {maxPayloadBytes : UInt64} {interrupts : Interrupts} {s s' : Stream}
  {m : WireMessage}

theorem readFrame_ok :
    readFrame hash maxPayloadBytes interrupts s = .ok m s' ↔
      interrupts = .none ∧ Encodable maxPayloadBytes m ∧ s.input = (m.frame hash).toVec ++ s'.input ∧
      s'.buffered = s.buffered + prefixBytes + maxHeaderBytes + (m.payload?.getD []).length := by
  simp only [readFrame, readFrameValidated_ok, true_and]

theorem readFrame_encoded :
    readFrame hash maxPayloadBytes interrupts s = .ok m s' ↔
      interrupts = .none ∧
      (∃ f, encodeMessage hash m maxPayloadBytes = .ok f ∧ s.input = f.toVec ++ s'.input) ∧
      s'.buffered = s.buffered + prefixBytes + maxHeaderBytes + (m.payload?.getD []).length := by
  simp only [readFrame_ok, encodeMessage_ok, and_assoc, exists_and_left, exists_eq_left']

theorem length_toVec (f : EncodedFrame) : f.toVec.length = f.encodedLen := by
  obtain ⟨pre, header, payload⟩ := f
  cases payload <;> simp [toVec, encodedLen, Nat.add_assoc]

variable (hash maxPayloadBytes)

/-- Frames read one after the other, each message with the number of bytes that it took. -/
def readFrames : Nat → EStateM FrameError Stream (List (WireMessage × Nat))
  | 0 => return []
  | count + 1 => do
    let before ← get
    let message ← readFrame hash maxPayloadBytes .none
    let after ← get
    return (message, before.input.length - after.input.length) :: (← readFrames count)

variable {hash maxPayloadBytes}

theorem readFrames_succ {count : Nat} {results : List (WireMessage × Nat)} :
    readFrames hash maxPayloadBytes (count + 1) s = .ok results s' ↔
      ∃ m t tail, readFrame hash maxPayloadBytes .none s = .ok m t ∧
        readFrames hash maxPayloadBytes count t = .ok tail s' ∧
        (m, s.input.length - t.input.length) :: tail = results := by
  simp only [readFrames, run_bind_ok]
  constructor
  · rintro ⟨_, _, ⟨⟩, m, t, read, _, _, ⟨⟩, tail, _, continued, ⟨⟩⟩
    exact ⟨m, t, tail, read, continued, rfl⟩
  · rintro ⟨m, t, tail, read, continued, rfl⟩
    exact ⟨_, _, rfl, m, t, read, _, _, rfl, tail, _, continued, rfl⟩

theorem readFrames_encoded {ms : List WireMessage} {frames : List EncodedFrame} (rest : Bytes)
    (encoded : ms.mapM (encodeMessage hash · maxPayloadBytes) = .ok frames) (buffered : Nat) :
    ∃ buffered', readFrames hash maxPayloadBytes ms.length
        ⟨(frames.map toVec).flatten ++ rest, buffered⟩ =
      .ok (ms.zip (frames.map encodedLen)) ⟨rest, buffered'⟩ := by
  induction ms generalizing frames buffered with
  | nil =>
    rw [List.mapM_nil, pure_ok] at encoded
    subst encoded
    exact ⟨buffered, rfl⟩
  | cons m ms ih =>
    simp only [List.mapM_cons, bind_ok, pure_ok] at encoded
    obtain ⟨f, encodes, fs, encoded, rfl⟩ := encoded
    obtain ⟨buffered', continued⟩ :=
      ih encoded (buffered + prefixBytes + maxHeaderBytes + (m.payload?.getD []).length)
    refine ⟨buffered', ?_⟩
    rw [List.map_cons, List.flatten_cons, List.append_assoc]
    refine readFrames_succ.mpr
      ⟨m, _, _, readFrame_encoded.mpr ⟨rfl, ⟨f, encodes, rfl⟩, rfl⟩, continued, ?_⟩
    rw [List.map_cons, List.zip_cons_cons, List.length_append, length_toVec, Nat.add_sub_cancel]

end Stream

section Buffered

def Stream.after {ε α : Type} : EStateM.Result ε Stream α → Stream
  | .ok _ s | .error _ s => s

/-- The computation buffers at most so many bytes, in every outcome. -/
def Buffers {ε α : Type} (x : EStateM ε Stream α) (limit : Nat) : Prop :=
  ∀ s, (Stream.after (x s)).buffered ≤ s.buffered + limit

variable {ε α β : Type} {x : EStateM ε Stream α} {first second limit : Nat}

theorem Buffers.bind {f : α → EStateM ε Stream β} (starts : Buffers x first)
    (continues : ∀ a s s', x s = .ok a s' → Buffers (f a) second) :
    Buffers (x >>= f) (first + second) := by
  intro s
  have started := starts s
  simp only [Bind.bind, EStateM.bind]
  cases result : x s with
  | error e t =>
    rw [result] at started
    simp only [Stream.after] at started ⊢
    omega
  | ok a t =>
    rw [result] at started
    have continued := continues a s t result t
    simp only [Stream.after] at started
    simp only
    omega

theorem Buffers.after {f : α → EStateM ε Stream β} (starts : Buffers x 0)
    (continues : ∀ a s s', x s = .ok a s' → Buffers (f a) limit) : Buffers (x >>= f) limit := by
  have both := starts.bind continues
  rwa [Nat.zero_add] at both

theorem Buffers.mono (bounded : Buffers x first) (less : first ≤ limit) : Buffers x limit := by
  intro s
  exact Nat.le_trans (bounded s) (Nat.add_le_add_left less _)

theorem buffers_throw (e : ε) : Buffers (throw e : EStateM ε Stream α) limit := by
  intro s
  exact Nat.le_add_right _ _

theorem buffers_buffer (count : Nat) : Buffers (buffer count : EStateM ε Stream Unit) count := by
  intro s
  exact Nat.le_refl _

theorem buffers_liftFrame (ofFrame : FrameError → ε) (y : Except FrameError α) :
    Buffers (liftFrame ofFrame y) 0 := by
  intro s
  cases y <;> exact Nat.le_refl _

theorem buffers_readExactBefore (ofFrame : FrameError → ε) (interrupt : Option Interrupt)
    (count : Nat) : Buffers (readExactBefore ofFrame interrupt count) 0 := by
  intro s
  cases interrupt with
  | some interrupt => cases interrupt <;> exact Nat.le_refl _
  | none =>
    by_cases short : s.input.length < count
    · have failed : readExactBefore ofFrame none count s = .error (ofFrame .io) s :=
        congrFun (if_pos short) s
      simp [failed, Stream.after]
    · have read : readExactBefore ofFrame none count s =
          .ok (s.input.take count) { s with input := s.input.drop count } := congrFun (if_neg short) s
      simp [read, Stream.after]

variable (hash : Hash) (ofFrame : FrameError → ε) (validator : FrameMetadata → Except ε Unit)
  (maxPayloadBytes : UInt64) (interrupts : Interrupts)

theorem buffers_readFrameAfterPrefix (size : pre.length = prefixBytes) :
    Buffers (readFrameAfterPrefix hash ofFrame validator maxPayloadBytes interrupts pre)
      (maxHeaderBytes + maxPayloadBytes.toNat) := by
  refine (buffers_liftFrame _ _).after fun d t t' checked => ?_
  obtain ⟨decoded, -⟩ := liftFrame_ok.mp checked
  obtain ⟨-, -, small⟩ := (decodePrefix_ok size).mp decoded
  refine (buffers_buffer maxHeaderBytes).bind fun _ _ _ _ => ?_
  refine (buffers_readExactBefore _ _ _).after fun header _ _ _ => ?_
  refine (buffers_liftFrame _ _).after fun p _ _ _ => ?_
  cases verdict : validator (frameMetadata d.messageType p) with
  | error e =>
    dsimp only
    split
    · exact (buffers_throw _).after fun _ _ _ _ => buffers_throw _
    · exact buffers_throw _
  | ok u =>
    have loaded := (buffers_buffer d.payloadLength).bind fun _ _ _ _ =>
      (buffers_readExactBefore ofFrame interrupts.payload d.payloadLength).after fun payload _ _ _ =>
        buffers_liftFrame ofFrame (finishMessage hash d.messageType p payload)
    dsimp only
    split
    · exact (buffers_throw _).after fun _ _ _ _ => loaded.mono small
    · exact loaded.mono small

theorem buffers_readFrameValidated :
    Buffers (readFrameValidated hash ofFrame validator maxPayloadBytes interrupts)
      (prefixBytes + (maxHeaderBytes + maxPayloadBytes.toNat)) := by
  refine (buffers_buffer prefixBytes).bind fun _ _ _ _ => ?_
  refine (buffers_readExactBefore _ _ _).after fun pre _ _ read => ?_
  exact buffers_readFrameAfterPrefix hash ofFrame validator maxPayloadBytes interrupts
    (readExactBefore_ok.mp read).2.1

end Buffered

/-- Encoded messages that follow each other on a stream are read back in order, each with
exactly its bytes, whatever comes after them. A message can be encoded exactly when its
host names have 1 to 255 bytes and the data of a snapshot is available, valid and not too
long; no header that is built is over the limit. -/
theorem frames_round_trip (hash : Hash) (maxPayloadBytes : UInt64) :
    (∀ (ms : List WireMessage) (frames : List EncodedFrame) (rest : Bytes) (buffered : Nat),
      ms.mapM (encodeMessage hash · maxPayloadBytes) = .ok frames →
      ∃ buffered', readFrames hash maxPayloadBytes ms.length
          ⟨(frames.map toVec).flatten ++ rest, buffered⟩ =
        .ok (ms.zip (frames.map encodedLen)) ⟨rest, buffered'⟩) ∧
    (∀ m, (∃ f, encodeMessage hash m maxPayloadBytes = .ok f) ↔
      (∀ host ∈ m.hosts, 1 ≤ (asBytes host).length ∧ (asBytes host).length ≤ 255) ∧
      ∀ s, m.snapshot? = some s → (∀ reason, s.data ≠ .unavailable reason) ∧
        ∀ bytes, s.data = .text bytes →
          (∃ text, bytes = asBytes text) ∧ bytes.length ≤ maxPayloadBytes.toNat) ∧
    ∀ m header payload, encodeHeader hash maxPayloadBytes m = .ok (header, payload) →
      header.length ≤ maxHeaderBytes := by
  refine ⟨?_, ?_, ?_⟩
  · intro ms frames rest buffered encoded
    exact readFrames_encoded rest encoded buffered
  · intro m
    simp only [encodeMessage_ok, exists_and_left, exists_eq', and_true]
    constructor
    · intro encodable
      refine ⟨encodable.hosts, ?_⟩
      intro s sent
      obtain ⟨sound, small⟩ := encodable.data s sent
      constructor
      · intro reason unavailable
        rw [unavailable] at sound
        exact sound
      · intro bytes text
        rw [text] at sound small
        exact ⟨sound, small⟩
    rintro ⟨hosts, data⟩
    refine ⟨hosts, ?_⟩
    intro s sent
    obtain ⟨available, text⟩ := data s sent
    cases same : s.data with
    | text bytes => exact text bytes same
    | empty => exact ⟨trivial, Nat.zero_le _⟩
    | unavailable reason => exact (available reason same).elim
  · intro m header payload encoded
    obtain ⟨encodable, rfl, -⟩ := encodeHeader_ok.mp encoded
    exact length_header encodable.hosts

def zeroHash : Hash := ⟨fun _ => List.replicate 32 0, fun _ => rfl⟩

/-- A cancellation and an error on one stream, then the start of another frame. -/
theorem two_frames_read_back :
    ∃ frames buffered,
      [cancelHandoff ⟨7, 3⟩, .protocolError .canceled].mapM
        (encodeMessage zeroHash · 1024) = .ok frames ∧
      readFrames zeroHash 1024 2 ⟨(frames.map toVec).flatten ++ [76, 77], 0⟩ =
        .ok [(.cancelHandoff ⟨7, 3⟩, 48), (.protocolError .canceled, 26)] ⟨[76, 77], buffered⟩ := by
  have encoded : [cancelHandoff ⟨7, 3⟩, .protocolError .canceled].mapM
      (encodeMessage zeroHash · 1024) =
      .ok [frame zeroHash (.cancelHandoff ⟨7, 3⟩),
        frame zeroHash (.protocolError .canceled)] := by decide
  obtain ⟨buffered, read⟩ := (frames_round_trip zeroHash 1024).1 _ _ [76, 77] 0 encoded
  exact ⟨_, buffered, encoded, read⟩

/-- What is read is the encoding of the message that comes out, so no two byte strings are
read as the same message; and in every outcome the buffers of one frame are bounded. -/
theorem frames_canonical (hash : Hash) (maxPayloadBytes : UInt64) :
    (∀ interrupts s m s', readFrame hash maxPayloadBytes interrupts s = .ok m s' →
      ∃ f, encodeMessage hash m maxPayloadBytes = .ok f ∧ s.input = f.toVec ++ s'.input) ∧
    (∀ interrupts interrupts' s t m s' t',
      readFrame hash maxPayloadBytes interrupts s = .ok m s' →
      readFrame hash maxPayloadBytes interrupts' t = .ok m t' →
      ∃ bytes, s.input = bytes ++ s'.input ∧ t.input = bytes ++ t'.input) ∧
    ∀ interrupts s, (Stream.after (readFrame hash maxPayloadBytes interrupts s)).buffered ≤
      s.buffered + (prefixBytes + (maxHeaderBytes + maxPayloadBytes.toNat)) := by
  have canonical : ∀ interrupts s m s', readFrame hash maxPayloadBytes interrupts s = .ok m s' →
      ∃ f, encodeMessage hash m maxPayloadBytes = .ok f ∧ s.input = f.toVec ++ s'.input := by
    intro interrupts s m s' read
    exact (readFrame_encoded.mp read).2.1
  refine ⟨canonical, ?_, ?_⟩
  · intro interrupts interrupts' s t m s' t' read read'
    obtain ⟨f, encoded, same⟩ := canonical _ _ _ _ read
    obtain ⟨f', encoded', same'⟩ := canonical _ _ _ _ read'
    obtain rfl : f = f' := Except.ok.inj (encoded.symm.trans encoded')
    exact ⟨f.toVec, same, same'⟩
  · intro interrupts s
    exact buffers_readFrameValidated hash id (fun _ => .ok ()) maxPayloadBytes interrupts s

/-- The one way to write a cancellation. -/
theorem cancellation_canonical :
    let bytes : Bytes := [76, 77, 67, 66, 0, 1, 0, 9, 0, 0, 0, 0, 0, 0, 0, 24, 0, 0, 0, 0, 0, 0, 0, 0,
      0, 0, 0, 0, 0, 0, 0, 0, 0, 0, 0, 0, 0, 0, 0, 7, 0, 0, 0, 0, 0, 0, 0, 3]
    readFrame zeroHash 1024 .none ⟨bytes ++ [5], 0⟩ = .ok (.cancelHandoff ⟨7, 3⟩) ⟨[5], 937⟩ ∧
      ∃ f, encodeMessage zeroHash (.cancelHandoff ⟨7, 3⟩) 1024 = .ok f ∧ bytes ++ [5] = f.toVec ++ [5] := by
  intro bytes
  have read : readFrame zeroHash 1024 .none ⟨bytes ++ [5], 0⟩ =
      .ok (.cancelHandoff ⟨7, 3⟩) ⟨[5], 937⟩ := by rfl
  exact ⟨read, (frames_canonical zeroHash 1024).1 _ _ _ _ read⟩

end DisplayMux.Clipboard
