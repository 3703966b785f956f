import DisplayMux.Clipboard.Types

/-! Frames of the clipboard protocol: a prefix of fixed size, a header that depends on the
type of the message, and a payload for snapshots only. The hash is an arbitrary function
with results of 32 bytes. -/
namespace DisplayMux.Clipboard

def protocolVersion : UInt16 := 1
def magic : Bytes := [76, 77, 67, 66]
def prefixBytes : Nat := 24
def knownFlags : UInt32 := 0
def maxHostIdBytes : Nat := 255
def tokenFixedBytes : Nat := 16 + 8 + 1
def handoffBytes : Nat := 16 + 8
def maxTokenBytes : Nat := tokenFixedBytes + maxHostIdBytes
def envelopeFixedBytes : Nat := handoffBytes + maxTokenBytes * 2 + 16 * 2
def maxHeaderBytes : Nat := 16 + maxTokenBytes + 1 + envelopeFixedBytes

structure Hash where
  digest : Bytes → Bytes
  size : ∀ bytes, (digest bytes).length = 32

inductive FrameError where
  | io | canceled | transferTimeout | invalidMagic
  | unsupportedVersion (version : UInt16)
  | unknownMessageType (type : UInt16)
  | unknownFlags (flags : UInt32)
  | invalidHeaderLength | payloadTooLarge | platformLengthOverflow | unexpectedPayload
  | integrityFailed | invalidUtf8 | invalidHostId | invalidField | unavailableData
  deriving DecidableEq, Repr

def MessageType.toU16 : MessageType → UInt16
  | .clipboardHello => 1
  | .authorityState => 2
  | .prepareTarget => 3
  | .prepareResult => 4
  | .ownershipActivated => 5
  | .snapshotOffer => 6
  | .snapshotDeliver => 7
  | .applyResult => 8
  | .cancelHandoff => 9
  | .protocolError => 10

def MessageType.tryFrom : UInt16 → Except FrameError MessageType
  | 1 => .ok .clipboardHello
  | 2 => .ok .authorityState
  | 3 => .ok .prepareTarget
  | 4 => .ok .prepareResult
  | 5 => .ok .ownershipActivated
  | 6 => .ok .snapshotOffer
  | 7 => .ok .snapshotDeliver
  | 8 => .ok .applyResult
  | 9 => .ok .cancelHandoff
  | 10 => .ok .protocolError
  | other => .error (.unknownMessageType other)

def reasonToU16 : ClipboardReason → UInt16
  | .capabilityMissing => 1
  | .backendUnavailable => 2
  | .permissionDenied => 3
  | .privateContent => 4
  | .unsupportedFormat => 5
  | .oversize => 6
  | .sourceChanged => 7
  | .targetNotPrepared => 8
  | .destinationChanged => 9
  | .staleAuthoritySession => 10
  | .stalePeerSession => 11
  | .staleHandoff => 12
  | .staleOwnerToken => 13
  | .duplicate => 14
  | .channelUnavailable => 15
  | .transferTimeout => 16
  | .protocolError => 17
  | .integrityFailed => 18
  | .invalidUtf8 => 19
  | .canceled => 20
  | .queueFull => 21
  | .identityExhausted => 22

def reasonFromU16 : UInt16 → Except FrameError ClipboardReason
  | 1 => .ok .capabilityMissing
  | 2 => .ok .backendUnavailable
  | 3 => .ok .permissionDenied
  | 4 => .ok .privateContent
  | 5 => .ok .unsupportedFormat
  | 6 => .ok .oversize
  | 7 => .ok .sourceChanged
  | 8 => .ok .targetNotPrepared
  | 9 => .ok .destinationChanged
  | 10 => .ok .staleAuthoritySession
  | 11 => .ok .stalePeerSession
  | 12 => .ok .staleHandoff
  | 13 => .ok .staleOwnerToken
  | 14 => .ok .duplicate
  | 15 => .ok .channelUnavailable
  | 16 => .ok .transferTimeout
  | 17 => .ok .protocolError
  | 18 => .ok .integrityFailed
  | 19 => .ok .invalidUtf8
  | 20 => .ok .canceled
  | 21 => .ok .queueFull
  | 22 => .ok .identityExhausted
  | _ => .error .invalidField

def asBytes (text : String) : Bytes := text.toByteArray.data.toList

def fromUtf8 (bytes : Bytes) : Option String := String.fromUTF8? ⟨bytes.toArray⟩

namespace HeaderWriter

/-! What each write appends to the header. -/

def u8 (value : UInt8) : Bytes := [value]
def u16 (value : UInt16) : Bytes := beBytes 2 value.toNat
def u32 (value : UInt32) : Bytes := beBytes 4 value.toNat
def u64 (value : UInt64) : Bytes := beBytes 8 value.toNat
def u128 (value : BitVec 128) : Bytes := beBytes 16 value.toNat

def host (host : HostId) : Except FrameError Bytes :=
  let bytes := asBytes host
  if bytes = [] ∨ maxHostIdBytes < bytes.length then .error .invalidHostId
  else .ok (u8 (UInt8.ofNat bytes.length) ++ bytes)

def token (t : OwnershipToken) : Except FrameError Bytes := do
  return u128 t.authoritySessionId ++ u64 t.ownershipEpoch ++ (← host t.ownerHostId)

def handoff (id : HandoffId) : Bytes := u128 id.authoritySessionId ++ u64 id.handoffEpoch

def snapshot (id : SnapshotId) : Bytes := u128 id.sourceProcessSessionId ++ u64 id.sequence

def envelope (e : HandoffEnvelope) : Except FrameError Bytes := do
  let source ← token e.sourceToken
  let target ← token e.targetToken
  return handoff e.handoffId ++ source ++ u128 e.sourceProcessSessionId ++ target ++
    u128 e.targetProcessSessionId

def optionalGeneration (generation : Option NativeGeneration) : Bytes :=
  u8 (if generation.isSome then 1 else 0) ++ u64 (generation.getD 0)

def reason (r : ClipboardReason) : Bytes := u16 (reasonToU16 r)

def operationResult : OperationResult → Bytes
  | .completed => u8 0 ++ u16 0
  | .skipped r => u8 1 ++ reason r

end HeaderWriter

structure EncodedFrame where
  pre : Bytes
  header : Bytes
  payload : Option Bytes
  deriving DecidableEq, Repr

namespace EncodedFrame

def encodedLen (f : EncodedFrame) : Nat := f.pre.length + f.header.length + (f.payload.map (·.length)).getD 0

def toVec (f : EncodedFrame) : Bytes := f.pre ++ f.header ++ f.payload.getD []

end EncodedFrame

section Encode

variable (hash : Hash)

open HeaderWriter

def encodeData : ClipboardData → Except FrameError (UInt8 × Bytes)
  | .text bytes => if (fromUtf8 bytes).isSome then .ok (1, bytes) else .error .invalidUtf8
  | .empty => .ok (2, [])
  | .unavailable _ => .error .unavailableData

def encodeSnapshot (snapshot : ClipboardPayload) (maxPayloadBytes : UInt64) :
    Except FrameError (Bytes × Option Bytes) := do
  let envelope ← envelope snapshot.handoff
  let (kind, bytes) ← encodeData snapshot.data
  if maxPayloadBytes.toNat < bytes.length then .error .payloadTooLarge
  else .ok (envelope ++ HeaderWriter.snapshot snapshot.snapshotId ++ u8 kind ++ hash.digest bytes,
    some bytes)

def encodeHeader (maxPayloadBytes : UInt64) : WireMessage → Except FrameError (Bytes × Option Bytes)
  | .clipboardHello hello => do
    let host ← host hello.hostId
    return (host ++ u128 hello.processSessionId ++ u64 hello.offeredCapabilities ++
      u64 hello.maxReceiveBytes, none)
  | .authorityState state => do
    let token ← token state.currentToken
    let active ← match state.activeHandoff with
      | none => .ok []
      | some handoff => envelope handoff
    return (u128 state.authorityProcessSessionId ++ token ++
      u8 (if state.activeHandoff.isSome then 1 else 0) ++ active, none)
  | .prepareTarget handoff | .ownershipActivated handoff => do return (← envelope handoff, none)
  | .prepareResult result => do
    let token ← token result.targetToken
    return (handoff result.handoffId ++ token ++ u128 result.targetProcessSessionId ++
      optionalGeneration result.baselineGeneration ++ operationResult result.result, none)
  | .snapshotOffer snapshot | .snapshotDeliver snapshot => encodeSnapshot hash snapshot maxPayloadBytes
  | .applyResult result => do
    let token ← token result.targetToken
    return (handoff result.handoffId ++ token ++ u128 result.targetProcessSessionId ++
      HeaderWriter.snapshot result.snapshotId ++ optionalGeneration result.postWriteGeneration ++
      operationResult result.result, none)
  | .cancelHandoff id => .ok (handoff id, none)
  | .protocolError r => .ok (reason r, none)

def encodePrefix (type : MessageType) (headerLength : UInt32) (payloadLength : UInt64) : Bytes :=
  magic ++ u16 protocolVersion ++ u16 type.toU16 ++ u32 knownFlags ++ u32 headerLength ++
    u64 payloadLength

def encodeMessage (message : WireMessage) (maxPayloadBytes : UInt64) :
    Except FrameError EncodedFrame := do
  let (header, payload) ← encodeHeader hash maxPayloadBytes message
  if maxHeaderBytes < header.length then .error .invalidHeaderLength
  else .ok ⟨encodePrefix message.messageType (UInt32.ofNat header.length)
    (UInt64.ofNat ((payload.map (·.length)).getD 0)), header, payload⟩

end Encode

structure SnapshotHeader where
  handoff : HandoffEnvelope
  snapshotId : SnapshotId
  kind : ClipboardKind
  digest : Bytes
  deriving DecidableEq, Repr

namespace HeaderReader

/-! The reader keeps the bytes that are left of the header. -/

def array (count : Nat) : Reader FrameError Bytes := Reader.take .invalidHeaderLength count

def u8 : Reader FrameError UInt8 := do return UInt8.ofNat (beValue (← array 1))
def u16 : Reader FrameError UInt16 := do return UInt16.ofNat (beValue (← array 2))
def u64 : Reader FrameError UInt64 := do return UInt64.ofNat (beValue (← array 8))
def u128 : Reader FrameError (BitVec 128) := do return BitVec.ofNat 128 (beValue (← array 16))

def hostFrom (bytes : Bytes) : Except FrameError HostId :=
  match fromUtf8 bytes with
  | none => .error .invalidHostId
  | some value => .ok value

def host : Reader FrameError HostId := do
  let len ← u8
  if len = 0 then throw .invalidHostId
  else hostFrom (← array len.toNat)

def token : Reader FrameError OwnershipToken := do
  return ⟨← u128, ← u64, ← host⟩

def handoff : Reader FrameError HandoffId := do
  return ⟨← u128, ← u64⟩

def snapshot : Reader FrameError SnapshotId := do
  return ⟨← u128, ← u64⟩

def envelope : Reader FrameError HandoffEnvelope := do
  return ⟨← handoff, ← token, ← u128, ← token, ← u128⟩

def generationFrom (present : UInt8) (value : UInt64) : Except FrameError (Option NativeGeneration) :=
  if present = 0 ∧ value = 0 then .ok none
  else if present = 1 then .ok (some value)
  else .error .invalidField

def optionalGeneration : Reader FrameError (Option NativeGeneration) := do
  generationFrom (← u8) (← u64)

def resultFrom (status : UInt8) (reason : UInt16) : Except FrameError OperationResult :=
  if status = 0 ∧ reason = 0 then .ok .completed
  else if status = 1 then (reasonFromU16 reason).map .skipped
  else .error .invalidField

def operationResult : Reader FrameError OperationResult := do
  resultFrom (← u8) (← u16)

def reason : Reader FrameError ClipboardReason := do
  reasonFromU16 (← u16)

def activeHandoff : Reader FrameError (Option HandoffEnvelope) := do
  let present ← u8
  if present = 0 then return none
  else if present = 1 then return some (← envelope)
  else throw .invalidField

def kindFrom (tag : UInt8) : Except FrameError ClipboardKind :=
  if tag = 1 then .ok .text else if tag = 2 then .ok .empty else .error .invalidField

def kind : Reader FrameError ClipboardKind := do
  kindFrom (← u8)

def clipboardHello : Reader FrameError ClipboardHello := do
  return ⟨← host, ← u128, ← u64, ← u64⟩

def authorityState : Reader FrameError AuthorityState := do
  return ⟨← u128, ← token, ← activeHandoff⟩

def prepareResult : Reader FrameError PrepareResult := do
  return ⟨← handoff, ← token, ← u128, ← optionalGeneration, ← operationResult⟩

def snapshotHeader : Reader FrameError SnapshotHeader := do
  return ⟨← envelope, ← snapshot, ← kind, ← array 32⟩

def applyResult : Reader FrameError ApplyResult := do
  return ⟨← handoff, ← token, ← u128, ← snapshot, ← optionalGeneration, ← operationResult⟩

end HeaderReader

inductive ParsedHeader where
  | hello (hello : ClipboardHello)
  | authority (state : AuthorityState)
  | envelope (handoff : HandoffEnvelope)
  | prepareResult (result : PrepareResult)
  | snapshot (header : SnapshotHeader)
  | applyResult (result : ApplyResult)
  | handoff (handoffId : HandoffId)
  | reason (reason : ClipboardReason)
  deriving DecidableEq, Repr

open HeaderReader in
def readHeader : MessageType → Reader FrameError ParsedHeader
  | .clipboardHello => do return .hello (← clipboardHello)
  | .authorityState => do return .authority (← authorityState)
  | .prepareTarget | .ownershipActivated => do return .envelope (← envelope)
  | .prepareResult => do return .prepareResult (← prepareResult)
  | .snapshotOffer | .snapshotDeliver => do return .snapshot (← snapshotHeader)
  | .applyResult => do return .applyResult (← applyResult)
  | .cancelHandoff => do return .handoff (← handoff)
  | .protocolError => do return .reason (← reason)

def parseHeader (type : MessageType) (header : Bytes) : Except FrameError ParsedHeader := do
  let (parsed, rest) ← (readHeader type).run header
  if rest ≠ [] then throw .invalidHeaderLength
  return parsed

def FrameMetadata.setEnvelope (m : FrameMetadata) (handoff : HandoffEnvelope) : FrameMetadata :=
  { m with
    handoffId := some handoff.handoffId
    sourceToken := some handoff.sourceToken
    sourceProcessSessionId := some handoff.sourceProcessSessionId
    targetToken := some handoff.targetToken
    targetProcessSessionId := some handoff.targetProcessSessionId }

def frameMetadata (type : MessageType) (header : ParsedHeader) : FrameMetadata :=
  let metadata : FrameMetadata := ⟨type, none, none, none, none, none, none⟩
  match header with
  | .authority state =>
    match state.activeHandoff with
    | some handoff => metadata.setEnvelope handoff
    | none => metadata
  | .envelope handoff => metadata.setEnvelope handoff
  | .prepareResult result =>
    { metadata with
      handoffId := some result.handoffId
      targetToken := some result.targetToken
      targetProcessSessionId := some result.targetProcessSessionId }
  | .snapshot header =>
    { metadata.setEnvelope header.handoff with snapshotId := some header.snapshotId }
  | .applyResult result =>
    { metadata with
      handoffId := some result.handoffId
      targetToken := some result.targetToken
      targetProcessSessionId := some result.targetProcessSessionId
      snapshotId := some result.snapshotId }
  | .handoff handoffId => { metadata with handoffId := some handoffId }
  | .hello _ | .reason _ => metadata

structure DecodedPrefix where
  messageType : MessageType
  headerLength : Nat
  payloadLength : Nat
  deriving DecidableEq, Repr

def checkedPayloadLength (declared negotiatedMax platformMax : UInt64) : Except FrameError Nat :=
  if negotiatedMax < declared then .error .payloadTooLarge
  else if platformMax < declared then .error .platformLengthOverflow
  else .ok declared.toNat

def slice (bytes : Bytes) (start stop : Nat) : Bytes := (bytes.drop start).take (stop - start)

/-- The sizes are counted in 64 bits. -/
def decodePrefix (pre : Bytes) (maxPayloadBytes : UInt64) : Except FrameError DecodedPrefix := do
  if slice pre 0 4 ≠ magic then throw .invalidMagic
  let version := UInt16.ofNat (beValue (slice pre 4 6))
  if version ≠ protocolVersion then throw (.unsupportedVersion version)
  let messageType ← MessageType.tryFrom (UInt16.ofNat (beValue (slice pre 6 8)))
  let flags := UInt32.ofNat (beValue (slice pre 8 12))
  if flags ≠ knownFlags then throw (.unknownFlags flags)
  let headerLength := (UInt32.ofNat (beValue (slice pre 12 16))).toNat
  if maxHeaderBytes < headerLength then throw .invalidHeaderLength
  let payloadLength ← checkedPayloadLength (UInt64.ofNat (beValue (slice pre 16 24)))
    maxPayloadBytes 0xffffffffffffffff
  return ⟨messageType, headerLength, payloadLength⟩

def requireEmptyPayload (payload : Bytes) : Except FrameError Unit :=
  if payload = [] then .ok () else .error .unexpectedPayload

section Finish

variable (hash : Hash)

def dataFrom (kind : ClipboardKind) (payload : Bytes) : Except FrameError ClipboardData :=
  match kind with
  | .text => if (fromUtf8 payload).isSome then .ok (.text payload) else .error .invalidUtf8
  | .empty => if payload = [] then .ok .empty else .error .unexpectedPayload

def finishSnapshot (header : SnapshotHeader) (payload : Bytes) :
    Except FrameError ClipboardPayload :=
  if hash.digest payload ≠ header.digest then .error .integrityFailed
  else (dataFrom header.kind payload).map (⟨header.handoff, header.snapshotId, ·⟩)

def finishMessage (type : MessageType) (header : ParsedHeader) (payload : Bytes) :
    Except FrameError WireMessage :=
  match type, header with
  | .clipboardHello, .hello hello =>
    (requireEmptyPayload payload).map fun _ => .clipboardHello hello
  | .authorityState, .authority state =>
    (requireEmptyPayload payload).map fun _ => .authorityState state
  | .prepareTarget, .envelope handoff =>
    (requireEmptyPayload payload).map fun _ => .prepareTarget handoff
  | .ownershipActivated, .envelope handoff =>
    (requireEmptyPayload payload).map fun _ => .ownershipActivated handoff
  | .prepareResult, .prepareResult result =>
    (requireEmptyPayload payload).map fun _ => .prepareResult result
  | .snapshotOffer, .snapshot header => (finishSnapshot hash header payload).map .snapshotOffer
  | .snapshotDeliver, .snapshot header => (finishSnapshot hash header payload).map .snapshotDeliver
  | .applyResult, .applyResult result =>
    (requireEmptyPayload payload).map fun _ => .applyResult result
  | .cancelHandoff, .handoff handoffId =>
    (requireEmptyPayload payload).map fun _ => .cancelHandoff handoffId
  | .protocolError, .reason reason =>
    (requireEmptyPayload payload).map fun _ => .protocolError reason
  | _, _ => .error .invalidField

end Finish

/-- What stops a read before its bytes have come. -/
inductive Interrupt where
  | canceled | timedOut
  deriving DecidableEq, Repr

structure Interrupts where
  pre : Option Interrupt
  header : Option Interrupt
  payload : Option Interrupt
  deriving DecidableEq, Repr

def Interrupts.none : Interrupts := ⟨.none, .none, .none⟩

/-- The stream that a frame is read from, and the size of the buffers made for it. -/
structure Stream where
  input : Bytes
  buffered : Nat
  deriving DecidableEq, Repr

section Read

variable {ε : Type}

def buffer (count : Nat) : EStateM ε Stream Unit :=
  modify fun s => { s with buffered := s.buffered + count }

def readExactBefore (ofFrame : FrameError → ε) (interrupt : Option Interrupt) (count : Nat) :
    EStateM ε Stream Bytes := do
  match interrupt with
  | some .canceled => throw (ofFrame .canceled)
  | some .timedOut => throw (ofFrame .transferTimeout)
  | none =>
    let s ← get
    if s.input.length < count then throw (ofFrame .io)
    set { s with input := s.input.drop count }
    return s.input.take count

def liftFrame {α : Type} (ofFrame : FrameError → ε) : Except FrameError α → EStateM ε Stream α
  | .ok a => return a
  | .error e => throw (ofFrame e)

variable (hash : Hash) (ofFrame : FrameError → ε) (validator : FrameMetadata → Except ε Unit)
  (maxPayloadBytes : UInt64) (interrupts : Interrupts)

def readFrameAfterPrefix (pre : Bytes) : EStateM ε Stream WireMessage := do
  let decoded ← liftFrame ofFrame (decodePrefix pre maxPayloadBytes)
  buffer maxHeaderBytes
  let header ← readExactBefore ofFrame interrupts.header decoded.headerLength
  let parsed ← liftFrame ofFrame (parseHeader decoded.messageType header)
  if decoded.messageType ≠ .snapshotOffer ∧ decoded.messageType ≠ .snapshotDeliver ∧
      decoded.payloadLength ≠ 0 then throw (ofFrame .unexpectedPayload)
  match validator (frameMetadata decoded.messageType parsed) with
  | .error e => throw e
  | .ok () =>
    buffer decoded.payloadLength
    let payload ← readExactBefore ofFrame interrupts.payload decoded.payloadLength
    liftFrame ofFrame (finishMessage hash decoded.messageType parsed payload)

def readFrameValidated : EStateM ε Stream WireMessage := do
  buffer prefixBytes
  let pre ← readExactBefore ofFrame interrupts.pre prefixBytes
  readFrameAfterPrefix hash ofFrame validator maxPayloadBytes interrupts pre

def readFrame : EStateM FrameError Stream WireMessage :=
  readFrameValidated hash id (fun _ => .ok ()) maxPayloadBytes interrupts

end Read

end DisplayMux.Clipboard
