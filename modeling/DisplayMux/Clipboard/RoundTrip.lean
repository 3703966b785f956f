import DisplayMux.Clipboard.Frame

/-! Reading a frame is the exact inverse of encoding a message. Each reader of a header is
specified by the values it accepts and their bytes, and the writers write those bytes. -/
namespace DisplayMux.Clipboard

open WireMessage OperationResult

variable {type : MessageType}

theorem MessageType.tryFrom_ok {value : UInt16} :
    MessageType.tryFrom value = .ok type ↔ value = type.toU16 := by
  constructor
  · intro read
    unfold tryFrom at read
    split at read <;> cases read <;> rfl
  · rintro rfl
    cases type <;> rfl

theorem reasonFromU16_ok {value : UInt16} {reason : ClipboardReason} :
    reasonFromU16 value = .ok reason ↔ value = reasonToU16 reason := by
  constructor
  · intro read
    unfold reasonFromU16 at read
    split at read <;> cases read <;> rfl
  · rintro rfl
    cases reason <;> rfl

theorem fromUtf8_eq_some {bytes : Bytes} {text : String} :
    fromUtf8 bytes = some text ↔ bytes = asBytes text := by
  unfold fromUtf8 String.fromUTF8?
  constructor
  · intro read
    split at read
    · cases read
      rfl
    · contradiction
  rintro rfl
  have same : (⟨(asBytes text).toArray⟩ : ByteArray) = text.toByteArray := by
    simp [asBytes]
  simp only [same, text.isValidUTF8, dite_true]
  rfl

def HostOk (host : HostId) : Prop :=
  0 < (asBytes host).length ∧ (asBytes host).length ≤ maxHostIdBytes

def hostBytes (host : HostId) : Bytes :=
  HeaderWriter.u8 (UInt8.ofNat (asBytes host).length) ++ asBytes host

def tokenBytes (t : OwnershipToken) : Bytes :=
  HeaderWriter.u128 t.authoritySessionId ++ HeaderWriter.u64 t.ownershipEpoch ++
    hostBytes t.ownerHostId

def envelopeBytes (e : HandoffEnvelope) : Bytes :=
  HeaderWriter.handoff e.handoffId ++ tokenBytes e.sourceToken ++
    HeaderWriter.u128 e.sourceProcessSessionId ++ tokenBytes e.targetToken ++
    HeaderWriter.u128 e.targetProcessSessionId

def HandoffEnvelope.hosts (e : HandoffEnvelope) : List HostId :=
  [e.sourceToken.ownerHostId, e.targetToken.ownerHostId]

section Readers

open HeaderReader Reader

theorem u8_reads : Reads u8 (fun _ => True) HeaderWriter.u8 := by
  refine (Reads.number FrameError.invalidHeaderLength 1 UInt8.ofNat UInt8.toNat (fun v => v.toNat_lt)
    (fun _ => UInt8.ofNat_toNat) (fun _ fits => UInt8.toNat_ofNat_of_lt' fits)).congr (by simp) ?_
  simp [beBytes, HeaderWriter.u8]

theorem u16_reads : Reads u16 (fun _ => True) HeaderWriter.u16 :=
  Reads.number FrameError.invalidHeaderLength 2 UInt16.ofNat UInt16.toNat (fun v => v.toNat_lt)
    (fun _ => UInt16.ofNat_toNat) (fun _ fits => UInt16.toNat_ofNat_of_lt' fits)

theorem u64_reads : Reads u64 (fun _ => True) HeaderWriter.u64 :=
  Reads.number FrameError.invalidHeaderLength 8 UInt64.ofNat UInt64.toNat (fun v => v.toNat_lt)
    (fun _ => UInt64.ofNat_toNat) (fun _ fits => UInt64.toNat_ofNat_of_lt' fits)

theorem u128_reads : Reads u128 (fun _ => True) HeaderWriter.u128 :=
  Reads.number FrameError.invalidHeaderLength 16 (BitVec.ofNat 128) BitVec.toNat (fun v => v.isLt)
    (fun v => by simp) (fun _ fits => Nat.mod_eq_of_lt fits)

theorem array_reads (count : Nat) : Reads (array count) (·.length = count) id :=
  Reads.take FrameError.invalidHeaderLength count

theorem handoff_reads : Reads handoff (fun _ => True) HeaderWriter.handoff := by
  refine (u128_reads.field HandoffId.authoritySessionId (fun session =>
    u64_reads.map HandoffId.handoffEpoch (HandoffId.mk session) fun _ => rfl) fun _ _ => rfl).congr ?_ ?_
  · simp
  · simp [HeaderWriter.handoff]

theorem snapshot_reads : Reads snapshot (fun _ => True) HeaderWriter.snapshot := by
  refine (u128_reads.field SnapshotId.sourceProcessSessionId (fun session =>
    u64_reads.map SnapshotId.sequence (SnapshotId.mk session) fun _ => rfl) fun _ _ => rfl).congr ?_ ?_
  · simp
  · simp [HeaderWriter.snapshot]

theorem hostFrom_ok {bytes : Bytes} {host : HostId} :
    hostFrom bytes = .ok host ↔ bytes = asBytes host := by
  rw [← fromUtf8_eq_some]
  unfold hostFrom
  split <;> simp_all

theorem length_fits_byte {n : Nat} :
    UInt8.ofNat n ≠ 0 ∧ n = (UInt8.ofNat n).toNat ↔ 0 < n ∧ n ≤ maxHostIdBytes := by
  have value : (UInt8.ofNat n).toNat = n % 256 := rfl
  unfold maxHostIdBytes
  constructor
  · rintro ⟨some, same⟩
    refine ⟨Nat.pos_of_ne_zero ?_, by omega⟩
    rintro rfl
    exact some rfl
  rintro ⟨positive, small⟩
  refine ⟨?_, by omega⟩
  intro zero
  have none := congrArg UInt8.toNat zero
  simp at none
  omega

theorem host_reads : Reads host HostOk hostBytes := by
  have named : ∀ len : UInt8, Reads (if len = 0 then throw .invalidHostId else do
      hostFrom (← array len.toNat)) (fun h => len ≠ 0 ∧ (asBytes h).length = len.toNat) asBytes := by
    intro len
    split
    · rename_i zero
      exact .throw _ (by simp [zero])
    rename_i some
    refine ((array_reads len.toNat).bind asBytes (fun bytes => .lift (hostFrom bytes)) ?_).congr ?_ ?_
    · intro bytes h _ read
      exact (hostFrom_ok.mp read).symm
    · simp [hostFrom_ok, some]
    · simp
  refine (u8_reads.bind (fun h => UInt8.ofNat (asBytes h).length) named ?_).congr ?_ ?_
  · rintro len h - ⟨-, same⟩
    rw [same, UInt8.ofNat_toNat]
  · intro h
    rw [true_and]
    exact length_fits_byte
  · simp [hostBytes]

theorem token_reads : Reads token (fun t => HostOk t.ownerHostId) tokenBytes := by
  refine (u128_reads.field OwnershipToken.authoritySessionId (fun session =>
    u64_reads.field OwnershipToken.ownershipEpoch (fun epoch =>
      host_reads.map OwnershipToken.ownerHostId (OwnershipToken.mk session epoch) fun _ => rfl)
    fun _ _ => rfl) fun _ _ => rfl).congr ?_ ?_
  · simp
  · simp [tokenBytes]

theorem envelope_reads : Reads envelope (fun e => ∀ host ∈ e.hosts, HostOk host) envelopeBytes := by
  refine (handoff_reads.field HandoffEnvelope.handoffId (fun id =>
    token_reads.field HandoffEnvelope.sourceToken (fun source =>
      u128_reads.field HandoffEnvelope.sourceProcessSessionId (fun session =>
        token_reads.field HandoffEnvelope.targetToken (fun target =>
          u128_reads.map HandoffEnvelope.targetProcessSessionId
            (HandoffEnvelope.mk id source session target) fun _ => rfl)
    fun _ _ => rfl) fun _ _ => rfl) fun _ _ => rfl) fun _ _ => rfl).congr ?_ ?_
  · simp [HandoffEnvelope.hosts]
  · simp [envelopeBytes]

theorem generationFrom_ok {present : UInt8} {value : UInt64} {g : Option NativeGeneration} :
    generationFrom present value = .ok g ↔
      (if g.isSome then 1 else 0) = present ∧ g.getD 0 = value := by
  unfold generationFrom
  cases g with
  | none | some value =>
    split
    · simp_all
    · split <;> simp_all [eq_comm]

theorem optionalGeneration_reads :
    Reads optionalGeneration (fun _ => True) HeaderWriter.optionalGeneration := by
  refine (u8_reads.bind (fun g : Option NativeGeneration => if g.isSome then 1 else 0) (fun present =>
    u64_reads.bind (fun g => g.getD 0) (fun value => .lift (generationFrom present value)) ?_) ?_).congr
    ?_ ?_
  · intro value g _ read
    exact (generationFrom_ok.mp read).2
  · rintro present g - ⟨-, read⟩
    exact (generationFrom_ok.mp read).1
  · simp [generationFrom_ok]
  · simp [HeaderWriter.optionalGeneration]

def OperationResult.status : OperationResult → UInt8
  | .completed => 0
  | .skipped _ => 1

def OperationResult.code : OperationResult → UInt16
  | .completed => 0
  | .skipped reason => reasonToU16 reason

theorem resultFrom_ok {status : UInt8} {code : UInt16} {r : OperationResult} :
    resultFrom status code = .ok r ↔ r.status = status ∧ r.code = code := by
  constructor
  · intro read
    unfold resultFrom at read
    split at read
    · rename_i zero
      cases read
      exact ⟨zero.1.symm, zero.2.symm⟩
    split at read
    · rename_i one
      obtain ⟨reason, known, rfl⟩ := map_ok.mp read
      exact ⟨one.symm, (reasonFromU16_ok.mp known).symm⟩
    · contradiction
  rintro ⟨rfl, rfl⟩
  cases r with
  | completed => rfl
  | skipped reason =>
    have known : reasonFromU16 (reasonToU16 reason) = .ok reason := reasonFromU16_ok.mpr rfl
    simp [resultFrom, status, code, known, Except.map]

theorem operationResult_reads :
    Reads operationResult (fun _ => True) HeaderWriter.operationResult := by
  refine (u8_reads.bind status (fun status =>
    u16_reads.bind code (fun code => .lift (resultFrom status code)) ?_) ?_).congr ?_ ?_
  · intro code r _ read
    exact (resultFrom_ok.mp read).2
  · rintro status r - ⟨-, read⟩
    exact (resultFrom_ok.mp read).1
  · simp [resultFrom_ok]
  · rintro (_ | reason) -
    · simp [HeaderWriter.operationResult, status, code]
    · simp [HeaderWriter.operationResult, HeaderWriter.reason, status,
        code]

theorem reason_reads : Reads reason (fun _ => True) HeaderWriter.reason := by
  refine (u16_reads.bind reasonToU16 (fun code => .lift (reasonFromU16 code)) ?_).congr ?_ ?_
  · intro code r _ read
    exact (reasonFromU16_ok.mp read).symm
  · simp [reasonFromU16_ok]
  · simp [HeaderWriter.reason]

def kindTag : ClipboardKind → UInt8
  | .text => 1
  | .empty => 2

theorem kindFrom_ok {tag : UInt8} {k : ClipboardKind} : kindFrom tag = .ok k ↔ kindTag k = tag := by
  unfold kindFrom
  cases k with
  | text | empty =>
    split
    · simp_all [kindTag]
    · split <;> simp_all [kindTag, eq_comm]

theorem kind_reads : Reads kind (fun _ => True) (fun k => HeaderWriter.u8 (kindTag k)) := by
  refine (u8_reads.bind kindTag (fun tag => .lift (kindFrom tag)) ?_).congr ?_ ?_
  · intro tag k _ read
    exact kindFrom_ok.mp read
  · simp [kindFrom_ok]
  · simp

def activeTag (active : Option HandoffEnvelope) : UInt8 := if active.isSome then 1 else 0

def activeBytes (active : Option HandoffEnvelope) : Bytes := (active.map envelopeBytes).getD []

theorem activeHandoff_reads :
    Reads activeHandoff (fun active => ∀ e ∈ active, ∀ host ∈ e.hosts, HostOk host)
      (fun active => HeaderWriter.u8 (activeTag active) ++ activeBytes active) := by
  have rest : ∀ present : UInt8, Reads (if present = 0 then return none
      else if present = 1 then return some (← envelope) else throw .invalidField)
      (fun active => activeTag active = present ∧ ∀ e ∈ active, ∀ host ∈ e.hosts, HostOk host)
      activeBytes := by
    intro present
    split
    · rename_i absent
      subst absent
      refine (Reads.pure none).congr ?_ ?_
      · rintro (_ | e) <;> simp [activeTag]
      · rintro _ rfl
        rfl
    rename_i more
    split
    · rename_i given
      subst given
      refine (envelope_reads.wrap some activeBytes fun _ => rfl).congr ?_ (fun _ _ => rfl)
      rintro (_ | e) <;> simp [activeTag]
    rename_i other
    refine .throw _ ?_
    rintro (_ | e) ⟨same, -⟩
    · exact more same.symm
    · exact other same.symm
  refine (u8_reads.bind activeTag rest ?_).congr ?_ ?_
  · rintro present active - ⟨same, -⟩
    exact same
  · simp
  · simp

def helloBytes (h : ClipboardHello) : Bytes :=
  hostBytes h.hostId ++ HeaderWriter.u128 h.processSessionId ++
    HeaderWriter.u64 h.offeredCapabilities ++ HeaderWriter.u64 h.maxReceiveBytes

theorem clipboardHello_reads : Reads clipboardHello (fun h => HostOk h.hostId) helloBytes := by
  refine (host_reads.field ClipboardHello.hostId (fun host =>
    u128_reads.field ClipboardHello.processSessionId (fun session =>
      u64_reads.field ClipboardHello.offeredCapabilities (fun offered =>
        u64_reads.map ClipboardHello.maxReceiveBytes (ClipboardHello.mk host session offered) fun _ => rfl)
    fun _ _ => rfl) fun _ _ => rfl) fun _ _ => rfl).congr ?_ ?_
  · simp
  · simp [helloBytes]

def authorityBytes (s : AuthorityState) : Bytes :=
  HeaderWriter.u128 s.authorityProcessSessionId ++ tokenBytes s.currentToken ++
    HeaderWriter.u8 (activeTag s.activeHandoff) ++ activeBytes s.activeHandoff

def AuthorityState.hosts (s : AuthorityState) : List HostId :=
  s.currentToken.ownerHostId :: (s.activeHandoff.map HandoffEnvelope.hosts).getD []

theorem authorityState_reads :
    Reads authorityState (fun s => ∀ host ∈ s.hosts, HostOk host) authorityBytes := by
  refine (u128_reads.field AuthorityState.authorityProcessSessionId (fun session =>
    token_reads.field AuthorityState.currentToken (fun token =>
      activeHandoff_reads.map AuthorityState.activeHandoff (AuthorityState.mk session token) fun _ => rfl)
    fun _ _ => rfl) fun _ _ => rfl).congr ?_ ?_
  · rintro ⟨session, token, _ | active⟩ <;> simp [AuthorityState.hosts]
  · simp [authorityBytes]

def prepareResultBytes (r : PrepareResult) : Bytes :=
  HeaderWriter.handoff r.handoffId ++ tokenBytes r.targetToken ++
    HeaderWriter.u128 r.targetProcessSessionId ++
    HeaderWriter.optionalGeneration r.baselineGeneration ++ HeaderWriter.operationResult r.result

theorem prepareResult_reads :
    Reads prepareResult (fun r => HostOk r.targetToken.ownerHostId) prepareResultBytes := by
  refine (handoff_reads.field PrepareResult.handoffId (fun id =>
    token_reads.field PrepareResult.targetToken (fun token =>
      u128_reads.field PrepareResult.targetProcessSessionId (fun session =>
        optionalGeneration_reads.field PrepareResult.baselineGeneration (fun generation =>
          operationResult_reads.map PrepareResult.result
            (PrepareResult.mk id token session generation) fun _ => rfl)
    fun _ _ => rfl) fun _ _ => rfl) fun _ _ => rfl) fun _ _ => rfl).congr ?_ ?_
  · simp
  · simp [prepareResultBytes]

def snapshotBytes (s : SnapshotHeader) : Bytes :=
  envelopeBytes s.handoff ++ HeaderWriter.snapshot s.snapshotId ++ HeaderWriter.u8 (kindTag s.kind) ++
    s.digest

theorem snapshotHeader_reads :
    Reads snapshotHeader (fun s => (∀ host ∈ s.handoff.hosts, HostOk host) ∧ s.digest.length = 32)
      snapshotBytes := by
  refine (envelope_reads.field SnapshotHeader.handoff (fun handoff =>
    snapshot_reads.field SnapshotHeader.snapshotId (fun id =>
      kind_reads.field SnapshotHeader.kind (fun kind =>
        (array_reads 32).map SnapshotHeader.digest (SnapshotHeader.mk handoff id kind) fun _ => rfl)
    fun _ _ => rfl) fun _ _ => rfl) fun _ _ => rfl).congr ?_ ?_
  · simp
  · simp [snapshotBytes]

def applyResultBytes (r : ApplyResult) : Bytes :=
  HeaderWriter.handoff r.handoffId ++ tokenBytes r.targetToken ++
    HeaderWriter.u128 r.targetProcessSessionId ++ HeaderWriter.snapshot r.snapshotId ++
    HeaderWriter.optionalGeneration r.postWriteGeneration ++ HeaderWriter.operationResult r.result

theorem applyResult_reads :
    Reads applyResult (fun r => HostOk r.targetToken.ownerHostId) applyResultBytes := by
  refine (handoff_reads.field ApplyResult.handoffId (fun id =>
    token_reads.field ApplyResult.targetToken (fun token =>
      u128_reads.field ApplyResult.targetProcessSessionId (fun session =>
        snapshot_reads.field ApplyResult.snapshotId (fun snapshot =>
          optionalGeneration_reads.field ApplyResult.postWriteGeneration (fun generation =>
            operationResult_reads.map ApplyResult.result
              (ApplyResult.mk id token session snapshot generation) fun _ => rfl)
    fun _ _ => rfl) fun _ _ => rfl) fun _ _ => rfl) fun _ _ => rfl) fun _ _ => rfl).congr ?_ ?_
  · simp
  · simp [applyResultBytes]

end Readers

namespace ParsedHeader

def bytes : ParsedHeader → Bytes
  | .hello h => helloBytes h
  | .authority s => authorityBytes s
  | .envelope e => envelopeBytes e
  | .prepareResult r => prepareResultBytes r
  | .snapshot s => snapshotBytes s
  | .applyResult r => applyResultBytes r
  | .handoff id => HeaderWriter.handoff id
  | .reason r => HeaderWriter.reason r

def hosts : ParsedHeader → List HostId
  | .hello h => [h.hostId]
  | .authority s => s.hosts
  | .envelope e => e.hosts
  | .prepareResult r => [r.targetToken.ownerHostId]
  | .snapshot s => s.handoff.hosts
  | .applyResult r => [r.targetToken.ownerHostId]
  | .handoff _ | .reason _ => []

def Fits : MessageType → ParsedHeader → Prop
  | .clipboardHello, .hello _ | .authorityState, .authority _ | .prepareTarget, .envelope _
  | .ownershipActivated, .envelope _ | .prepareResult, .prepareResult _
  | .applyResult, .applyResult _ | .cancelHandoff, .handoff _ | .protocolError, .reason _ => True
  | .snapshotOffer, .snapshot s | .snapshotDeliver, .snapshot s => s.digest.length = 32
  | _, _ => False

end ParsedHeader

open Reader in
theorem readHeader_reads (type : MessageType) :
    Reads (readHeader type) (fun p => p.Fits type ∧ ∀ host ∈ p.hosts, HostOk host)
      ParsedHeader.bytes := by
  have wrapped {α : Type} {r : Reader FrameError α} {valid : α → Prop} {bytes : α → Bytes}
      (reads : Reads r valid bytes) (make : α → ParsedHeader) (same : ∀ a, (make a).bytes = bytes a)
      (fits : ∀ p, (∃ a, valid a ∧ make a = p) ↔ p.Fits type ∧ ∀ host ∈ p.hosts, HostOk host) :
      Reads (do return make (← r)) (fun p => p.Fits type ∧ ∀ host ∈ p.hosts, HostOk host)
        ParsedHeader.bytes :=
    (reads.wrap make ParsedHeader.bytes same).congr fits fun _ _ => rfl
  cases type with
  | clipboardHello =>
    refine wrapped clipboardHello_reads .hello (fun _ => rfl) ?_
    intro p
    cases p <;> simp [ParsedHeader.Fits, ParsedHeader.hosts]
  | authorityState =>
    refine wrapped authorityState_reads .authority (fun _ => rfl) ?_
    intro p
    cases p <;> simp [ParsedHeader.Fits, ParsedHeader.hosts]
  | prepareTarget | ownershipActivated =>
    refine wrapped envelope_reads .envelope (fun _ => rfl) ?_
    intro p
    cases p <;> simp [ParsedHeader.Fits, ParsedHeader.hosts]
  | prepareResult =>
    refine wrapped prepareResult_reads .prepareResult (fun _ => rfl) ?_
    intro p
    cases p <;> simp [ParsedHeader.Fits, ParsedHeader.hosts]
  | snapshotOffer | snapshotDeliver =>
    refine wrapped snapshotHeader_reads .snapshot (fun _ => rfl) ?_
    intro p
    cases p <;> simp [ParsedHeader.Fits, ParsedHeader.hosts, and_comm]
  | applyResult =>
    refine wrapped applyResult_reads .applyResult (fun _ => rfl) ?_
    intro p
    cases p <;> simp [ParsedHeader.Fits, ParsedHeader.hosts]
  | cancelHandoff =>
    refine wrapped handoff_reads .handoff (fun _ => rfl) ?_
    intro p
    cases p <;> simp [ParsedHeader.Fits, ParsedHeader.hosts]
  | protocolError =>
    refine wrapped reason_reads .reason (fun _ => rfl) ?_
    intro p
    cases p <;> simp [ParsedHeader.Fits, ParsedHeader.hosts]

theorem parseHeader_ok {header : Bytes} {p : ParsedHeader} :
    parseHeader type header = .ok p ↔
      (p.Fits type ∧ ∀ host ∈ p.hosts, HostOk host) ∧ header = p.bytes := by
  have reads := readHeader_reads type header p []
  rw [List.append_nil] at reads
  rw [← reads, parseHeader, bind_ok]
  constructor
  · rintro ⟨⟨q, rest⟩, read, done⟩
    simp only at done
    split at done
    · contradiction
    · rename_i empty
      cases done
      rw [read, not_not.mp empty]
  · intro read
    exact ⟨(p, []), read, rfl⟩

section Writers

open HeaderWriter

variable {out : Bytes}

theorem host_ok {h : HostId} : host h = .ok out ↔ HostOk h ∧ hostBytes h = out := by
  unfold host HostOk
  dsimp only
  split
  · rename_i bad
    simp only [reduceCtorEq, false_iff, not_and]
    rintro ⟨some, small⟩
    rcases bad with empty | large
    · simp [empty] at some
    · omega
  · rename_i good
    rw [not_or] at good
    have some : 0 < (asBytes h).length := List.length_pos_iff.mpr good.1
    simp [some, Nat.le_of_not_lt good.2, hostBytes]

theorem token_ok {t : OwnershipToken} :
    token t = .ok out ↔ HostOk t.ownerHostId ∧ tokenBytes t = out := by
  simp only [token, bind_ok, pure_ok, host_ok, tokenBytes, and_assoc, exists_and_left, exists_eq_left']

theorem envelope_ok {e : HandoffEnvelope} :
    envelope e = .ok out ↔ (∀ host ∈ e.hosts, HostOk host) ∧ envelopeBytes e = out := by
  simp only [envelope, bind_ok, pure_ok, token_ok, HandoffEnvelope.hosts, List.forall_mem_cons,
    List.not_mem_nil, false_imp_iff, implies_true, and_true, envelopeBytes, and_assoc,
    exists_and_left, exists_eq_left']

end Writers

namespace ClipboardData

def Sound : ClipboardData → Prop
  | .text bytes => ∃ text, bytes = asBytes text
  | .empty => True
  | .unavailable _ => False

/-- What a snapshot's header says the data is; data that is not available is never sent. -/
def wireKind : ClipboardData → ClipboardKind
  | .text _ => .text
  | .empty | .unavailable _ => .empty

def payload : ClipboardData → Bytes
  | .text bytes => bytes
  | .empty | .unavailable _ => []

end ClipboardData

theorem fromUtf8_isSome {bytes : Bytes} :
    (fromUtf8 bytes).isSome = true ↔ ∃ text, bytes = asBytes text := by
  simp [Option.isSome_iff_exists, fromUtf8_eq_some]

theorem encodeData_ok {data : ClipboardData} {tag : UInt8} {bytes : Bytes} :
    encodeData data = .ok (tag, bytes) ↔
      data.Sound ∧ tag = kindTag data.wireKind ∧ bytes = data.payload := by
  cases data with
  | text payload =>
    simp only [encodeData, ClipboardData.Sound, ← fromUtf8_isSome, kindTag, ClipboardData.wireKind,
      ClipboardData.payload]
    split
    · simp_all only [Except.ok.injEq, Prod.mk.injEq, true_and]
      constructor <;> rintro ⟨rfl, rfl⟩ <;> exact ⟨rfl, rfl⟩
    · simp_all
  | empty =>
    simp only [encodeData, ClipboardData.Sound, kindTag, ClipboardData.wireKind, ClipboardData.payload,
      Except.ok.injEq, Prod.mk.injEq, true_and]
    constructor <;> rintro ⟨rfl, rfl⟩ <;> exact ⟨rfl, rfl⟩
  | unavailable reason => simp [encodeData, ClipboardData.Sound]

variable {payload : Bytes}

theorem dataFrom_ok {kind : ClipboardKind} {data : ClipboardData} :
    dataFrom kind payload = .ok data ↔
      data.Sound ∧ kind = data.wireKind ∧ payload = data.payload := by
  constructor
  · intro read
    unfold dataFrom at read
    split at read
    · split at read
      · rename_i valid
        cases read
        exact ⟨fromUtf8_isSome.mp valid, rfl, rfl⟩
      · contradiction
    split at read
    · rename_i empty
      cases read
      exact ⟨trivial, rfl, empty⟩
    · contradiction
  rintro ⟨sound, rfl, rfl⟩
  cases data with
  | text bytes => simp [dataFrom, ClipboardData.wireKind, ClipboardData.payload, fromUtf8_isSome.mpr sound]
  | empty => rfl
  | unavailable reason => exact sound.elim

namespace WireMessage

def hosts : WireMessage → List HostId
  | .clipboardHello hello => [hello.hostId]
  | .authorityState state => state.hosts
  | .prepareTarget handoff | .ownershipActivated handoff => handoff.hosts
  | .prepareResult result => [result.targetToken.ownerHostId]
  | .snapshotOffer snapshot | .snapshotDeliver snapshot => snapshot.handoff.hosts
  | .applyResult result => [result.targetToken.ownerHostId]
  | .cancelHandoff _ | .protocolError _ => []

def snapshot? : WireMessage → Option ClipboardPayload
  | .snapshotOffer snapshot | .snapshotDeliver snapshot => some snapshot
  | _ => none

def payload? (m : WireMessage) : Option Bytes := m.snapshot?.map (·.data.payload)

def parsed (hash : Hash) : WireMessage → ParsedHeader
  | .clipboardHello hello => .hello hello
  | .authorityState state => .authority state
  | .prepareTarget handoff | .ownershipActivated handoff => .envelope handoff
  | .prepareResult result => .prepareResult result
  | .snapshotOffer s | .snapshotDeliver s =>
    .snapshot ⟨s.handoff, s.snapshotId, s.data.wireKind, hash.digest s.data.payload⟩
  | .applyResult result => .applyResult result
  | .cancelHandoff id => .handoff id
  | .protocolError reason => .reason reason

end WireMessage

/-- The messages that can be sent: every host name has 1 to 255 bytes, and the data of a
snapshot is available, valid and not too long. -/
structure Encodable (maxPayloadBytes : UInt64) (m : WireMessage) : Prop where
  hosts : ∀ host ∈ m.hosts, HostOk host
  data : ∀ s, m.snapshot? = some s →
    s.data.Sound ∧ s.data.payload.length ≤ maxPayloadBytes.toNat

section Messages

variable {hash : Hash} {maxPayloadBytes : UInt64} {m : WireMessage} {s : ClipboardPayload}

theorem encodeSnapshot_ok {header : Bytes} {payload : Option Bytes} :
    encodeSnapshot hash s maxPayloadBytes = .ok (header, payload) ↔
      ((∀ host ∈ s.handoff.hosts, HostOk host) ∧
        s.data.Sound ∧ s.data.payload.length ≤ maxPayloadBytes.toNat) ∧
      snapshotBytes ⟨s.handoff, s.snapshotId, s.data.wireKind, hash.digest s.data.payload⟩ = header ∧
      some s.data.payload = payload := by
  simp only [encodeSnapshot, bind_ok, envelope_ok, snapshotBytes]
  constructor
  · rintro ⟨_, ⟨hosts, rfl⟩, ⟨tag, bytes⟩, data, rest⟩
    obtain ⟨sound, rfl, rfl⟩ := encodeData_ok.mp data
    split at rest
    · contradiction
    · rename_i small
      simp only [Except.ok.injEq, Prod.mk.injEq] at rest
      exact ⟨⟨hosts, sound, Nat.le_of_not_lt small⟩, rest⟩
  · rintro ⟨⟨hosts, sound, small⟩, made⟩
    refine ⟨_, ⟨hosts, rfl⟩, _, encodeData_ok.mpr ⟨sound, rfl, rfl⟩, ?_⟩
    simp only [Nat.not_lt.mpr small, if_false, Except.ok.injEq, Prod.mk.injEq]
    exact made

theorem encodable_iff_hosts (none : m.snapshot? = none) :
    Encodable maxPayloadBytes m ↔ ∀ host ∈ m.hosts, HostOk host := by
  constructor
  · exact Encodable.hosts
  · intro hosts
    exact ⟨hosts, by simp [none]⟩

theorem encodable_snapshot (sent : m.snapshot? = some s) :
    Encodable maxPayloadBytes m ↔ (∀ host ∈ m.hosts, HostOk host) ∧
      s.data.Sound ∧ s.data.payload.length ≤ maxPayloadBytes.toNat := by
  constructor
  · intro ok
    exact ⟨ok.hosts, ok.data s sent⟩
  rintro ⟨hosts, data⟩
  refine ⟨hosts, ?_⟩
  intro t same
  cases sent.symm.trans same
  exact data

theorem encodeHeader_ok {header : Bytes} {payload : Option Bytes} :
    encodeHeader hash maxPayloadBytes m = .ok (header, payload) ↔
      Encodable maxPayloadBytes m ∧ (m.parsed hash).bytes = header ∧ m.payload? = payload := by
  cases m with
  | clipboardHello hello =>
    simp only [encodable_iff_hosts (m := .clipboardHello hello) rfl, encodeHeader, bind_ok, pure_ok, host_ok,
      Prod.mk.injEq, and_assoc, exists_and_left, exists_eq_left', hosts,
      List.forall_mem_singleton]
    exact Iff.rfl
  | authorityState state =>
    obtain ⟨session, current, active⟩ := state
    cases active with
    | none =>
      simp only [encodable_iff_hosts (m := .authorityState ⟨session, current, none⟩) rfl, encodeHeader,
        bind_ok, pure_ok, token_ok, Except.ok.injEq, Prod.mk.injEq, and_assoc, exists_and_left,
        exists_eq_left', hosts, AuthorityState.hosts, Option.map_none, Option.getD_none,
        List.forall_mem_singleton]
      exact Iff.rfl
    | some handoff =>
      simp only [encodable_iff_hosts (m := .authorityState ⟨session, current, some handoff⟩) rfl, encodeHeader,
        bind_ok, pure_ok, token_ok, envelope_ok, Prod.mk.injEq, and_assoc, exists_and_left,
        exists_eq_left', hosts, AuthorityState.hosts, Option.map_some, Option.getD_some,
        List.forall_mem_cons]
      exact Iff.rfl
  | prepareTarget handoff | ownershipActivated handoff =>
    simp only [encodable_iff_hosts (m := .prepareTarget handoff) rfl,
      encodable_iff_hosts (m := .ownershipActivated handoff) rfl, encodeHeader, bind_ok, pure_ok, envelope_ok,
      Prod.mk.injEq, and_assoc, exists_and_left, exists_eq_left', hosts]
    exact Iff.rfl
  | prepareResult result =>
    simp only [encodable_iff_hosts (m := .prepareResult result) rfl, encodeHeader, bind_ok, pure_ok, token_ok,
      Prod.mk.injEq, and_assoc, exists_and_left, exists_eq_left', hosts,
      List.forall_mem_singleton]
    exact Iff.rfl
  | snapshotOffer s =>
    rw [encodable_snapshot (m := .snapshotOffer s) rfl]
    exact encodeSnapshot_ok
  | snapshotDeliver s =>
    rw [encodable_snapshot (m := .snapshotDeliver s) rfl]
    exact encodeSnapshot_ok
  | applyResult result =>
    simp only [encodable_iff_hosts (m := .applyResult result) rfl, encodeHeader, bind_ok, pure_ok, token_ok,
      Prod.mk.injEq, and_assoc, exists_and_left, exists_eq_left', hosts,
      List.forall_mem_singleton]
    exact Iff.rfl
  | cancelHandoff id =>
    simp only [encodable_iff_hosts (m := .cancelHandoff id) rfl, encodeHeader, hosts,
      List.not_mem_nil, false_imp_iff, implies_true, true_and, Except.ok.injEq, Prod.mk.injEq]
    exact Iff.rfl
  | protocolError reason =>
    simp only [encodable_iff_hosts (m := .protocolError reason) rfl, encodeHeader, hosts,
      List.not_mem_nil, false_imp_iff, implies_true, true_and, Except.ok.injEq, Prod.mk.injEq]
    exact Iff.rfl

theorem parsed_hosts : (m.parsed hash).hosts = m.hosts := by
  cases m <;> rfl

theorem parsed_fits : (m.parsed hash).Fits m.messageType := by
  cases m with
  | snapshotOffer s | snapshotDeliver s => exact hash.size _
  | _ => trivial

theorem emptied_ok {made : WireMessage} :
    ((requireEmptyPayload payload).map fun _ => made) = .ok m ↔ payload = [] ∧ made = m := by
  unfold requireEmptyPayload
  split <;> simp_all [Except.map]

theorem finishSnapshot_ok {h : SnapshotHeader} :
    finishSnapshot hash h payload = .ok s ↔
      h = ⟨s.handoff, s.snapshotId, s.data.wireKind, hash.digest s.data.payload⟩ ∧
        payload = s.data.payload ∧ s.data.Sound := by
  obtain ⟨handoff, id, kind, digest⟩ := h
  unfold finishSnapshot
  constructor
  · intro finished
    split at finished
    · contradiction
    · rename_i intact
      obtain ⟨data, read, rfl⟩ := map_ok.mp finished
      obtain ⟨sound, rfl, rfl⟩ := dataFrom_ok.mp read
      exact ⟨by rw [not_not.mp intact], rfl, sound⟩
  · rintro ⟨same, rfl, sound⟩
    cases same
    simp only [ne_eq, not_true_eq_false, if_false]
    exact map_ok.mpr ⟨s.data, dataFrom_ok.mpr ⟨sound, rfl, rfl⟩, rfl⟩

theorem finishMessage_ok {p : ParsedHeader} :
    finishMessage hash type p payload = .ok m ↔
      type = m.messageType ∧ p = m.parsed hash ∧ payload = m.payload?.getD [] ∧
        ∀ s, m.snapshot? = some s → s.data.Sound := by
  constructor
  · intro finished
    unfold finishMessage at finished
    split at finished
    case h_6 | h_7 =>
      obtain ⟨s, read, rfl⟩ := map_ok.mp finished
      obtain ⟨rfl, rfl, sound⟩ := finishSnapshot_ok.mp read
      refine ⟨rfl, rfl, rfl, ?_⟩
      rintro _ ⟨⟩
      exact sound
    case h_11 => contradiction
    all_goals
      obtain ⟨rfl, rfl⟩ := emptied_ok.mp finished
      exact ⟨rfl, rfl, rfl, by simp [snapshot?]⟩
  rintro ⟨rfl, rfl, rfl, sound⟩
  cases m with
  | snapshotOffer s | snapshotDeliver s =>
    exact map_ok.mpr ⟨s, finishSnapshot_ok.mpr ⟨rfl, rfl, sound s rfl⟩, rfl⟩
  | _ => rfl

section Lengths

theorem length_hostBytes {h : HostId} (ok : HostOk h) : (hostBytes h).length ≤ 1 + maxHostIdBytes := by
  have small := ok.2
  simp only [hostBytes, HeaderWriter.u8, List.length_append, List.length_singleton]
  omega

theorem length_tokenBytes {t : OwnershipToken} (ok : HostOk t.ownerHostId) :
    (tokenBytes t).length ≤ maxTokenBytes := by
  have host := length_hostBytes ok
  simp only [tokenBytes, HeaderWriter.u128, HeaderWriter.u64, List.length_append, length_beBytes,
    maxTokenBytes, tokenFixedBytes]
  omega

theorem length_handoff {id : HandoffId} : (HeaderWriter.handoff id).length = handoffBytes := by
  simp [HeaderWriter.handoff, HeaderWriter.u128, HeaderWriter.u64, handoffBytes]

theorem length_snapshot {id : SnapshotId} : (HeaderWriter.snapshot id).length = 24 := by
  simp [HeaderWriter.snapshot, HeaderWriter.u128, HeaderWriter.u64]

theorem length_optionalGeneration {g : Option NativeGeneration} :
    (HeaderWriter.optionalGeneration g).length = 9 := by
  simp [HeaderWriter.optionalGeneration, HeaderWriter.u8, HeaderWriter.u64]

theorem length_operationResult {r : OperationResult} : (HeaderWriter.operationResult r).length = 3 := by
  cases r <;>
    simp [HeaderWriter.operationResult, HeaderWriter.reason, HeaderWriter.u8, HeaderWriter.u16]

theorem length_envelopeBytes {e : HandoffEnvelope} (ok : ∀ host ∈ e.hosts, HostOk host) :
    (envelopeBytes e).length ≤ envelopeFixedBytes := by
  have source := length_tokenBytes (ok e.sourceToken.ownerHostId (by simp [HandoffEnvelope.hosts]))
  have target := length_tokenBytes (ok e.targetToken.ownerHostId (by simp [HandoffEnvelope.hosts]))
  simp only [envelopeBytes, HeaderWriter.u128, List.length_append, length_beBytes, length_handoff,
    envelopeFixedBytes]
  omega

theorem length_activeBytes {active : Option HandoffEnvelope}
    (ok : ∀ host ∈ (active.map HandoffEnvelope.hosts).getD [], HostOk host) :
    (activeBytes active).length ≤ envelopeFixedBytes := by
  cases active with
  | none => exact Nat.zero_le _
  | some handoff => exact length_envelopeBytes ok

/-- The limit on headers is the size of the largest header, so it rejects none. -/
theorem length_header (hosts : ∀ host ∈ m.hosts, HostOk host) :
    (m.parsed hash).bytes.length ≤ maxHeaderBytes := by
  cases m with
  | clipboardHello hello =>
    have host := length_hostBytes (hosts hello.hostId (by simp [WireMessage.hosts]))
    simp only [maxHostIdBytes] at host
    simp only [WireMessage.parsed, ParsedHeader.bytes, helloBytes, HeaderWriter.u128, HeaderWriter.u64,
      List.length_append, length_beBytes]
    refine Nat.le_trans (m := 288) (by omega) (by decide)
  | authorityState state =>
    have token := length_tokenBytes (hosts state.currentToken.ownerHostId
      (by simp [WireMessage.hosts, AuthorityState.hosts]))
    have active := length_activeBytes (fun host given =>
      hosts host (List.mem_cons_of_mem _ given))
    simp only [WireMessage.parsed, ParsedHeader.bytes, authorityBytes, HeaderWriter.u128, HeaderWriter.u8,
      List.length_append, length_beBytes, List.length_singleton, maxHeaderBytes]
    omega
  | prepareTarget handoff | ownershipActivated handoff =>
    exact Nat.le_trans (length_envelopeBytes hosts) (by decide)
  | prepareResult result =>
    have token := length_tokenBytes (hosts result.targetToken.ownerHostId (by simp [WireMessage.hosts]))
    simp only [WireMessage.parsed, ParsedHeader.bytes, prepareResultBytes, HeaderWriter.u128,
      List.length_append, length_beBytes, length_handoff, length_optionalGeneration,
      length_operationResult, maxHeaderBytes, envelopeFixedBytes]
    omega
  | snapshotOffer s | snapshotDeliver s =>
    have handoff := length_envelopeBytes hosts
    simp only [parsed, ParsedHeader.bytes, snapshotBytes, HeaderWriter.u8,
      List.length_append, length_snapshot, List.length_singleton, hash.size, maxHeaderBytes,
      maxTokenBytes, maxHostIdBytes]
    omega
  | applyResult result =>
    have token := length_tokenBytes (hosts result.targetToken.ownerHostId (by simp [WireMessage.hosts]))
    simp only [WireMessage.parsed, ParsedHeader.bytes, applyResultBytes, HeaderWriter.u128,
      List.length_append, length_beBytes, length_handoff, length_snapshot, length_optionalGeneration,
      length_operationResult, maxHeaderBytes, envelopeFixedBytes, maxTokenBytes, maxHostIdBytes] at token ⊢
    omega
  | cancelHandoff id =>
    rw [parsed, ParsedHeader.bytes, length_handoff]
    decide
  | protocolError reason =>
    rw [parsed, ParsedHeader.bytes, HeaderWriter.reason, HeaderWriter.u16, length_beBytes]
    decide

end Lengths

end Messages

end DisplayMux.Clipboard
