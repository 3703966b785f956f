import DisplayMux.Lib.Codec

/-! The identities, values and messages of the clipboard protocol. A host name is a
string, so it is valid UTF-8 by construction; clipboard text is bytes that have yet to be
checked. -/
namespace DisplayMux.Clipboard

abbrev ProcessSessionId := BitVec 128
abbrev AuthoritySessionId := BitVec 128
abbrev OwnershipEpoch := UInt64
abbrev HandoffEpoch := UInt64
abbrev SnapshotSequence := UInt64
abbrev NativeGeneration := UInt64

abbrev HostId := String

structure OwnershipToken where
  authoritySessionId : AuthoritySessionId
  ownershipEpoch : OwnershipEpoch
  ownerHostId : HostId
  deriving DecidableEq, Repr

structure HandoffId where
  authoritySessionId : AuthoritySessionId
  handoffEpoch : HandoffEpoch
  deriving DecidableEq, Repr

structure SnapshotId where
  sourceProcessSessionId : ProcessSessionId
  sequence : SnapshotSequence
  deriving DecidableEq, Repr

inductive ClipboardKind where
  | text | empty
  deriving DecidableEq, Repr

inductive ClipboardReason where
  | capabilityMissing | backendUnavailable | permissionDenied | privateContent | unsupportedFormat
  | oversize | sourceChanged | targetNotPrepared | destinationChanged | staleAuthoritySession
  | stalePeerSession | staleHandoff | staleOwnerToken | duplicate | channelUnavailable
  | transferTimeout | protocolError | integrityFailed | invalidUtf8 | canceled | queueFull
  | identityExhausted
  deriving DecidableEq, Repr

inductive ClipboardData where
  | text (bytes : Bytes)
  | empty
  | unavailable (reason : ClipboardReason)
  deriving DecidableEq, Repr

structure ClipboardHello where
  hostId : HostId
  processSessionId : ProcessSessionId
  offeredCapabilities : UInt64
  maxReceiveBytes : UInt64
  deriving DecidableEq, Repr

structure HandoffEnvelope where
  handoffId : HandoffId
  sourceToken : OwnershipToken
  sourceProcessSessionId : ProcessSessionId
  targetToken : OwnershipToken
  targetProcessSessionId : ProcessSessionId
  deriving DecidableEq, Repr

structure AuthorityState where
  authorityProcessSessionId : ProcessSessionId
  currentToken : OwnershipToken
  activeHandoff : Option HandoffEnvelope
  deriving DecidableEq, Repr

inductive OperationResult where
  | completed
  | skipped (reason : ClipboardReason)
  deriving DecidableEq, Repr

structure PrepareResult where
  handoffId : HandoffId
  targetToken : OwnershipToken
  targetProcessSessionId : ProcessSessionId
  baselineGeneration : Option NativeGeneration
  result : OperationResult
  deriving DecidableEq, Repr

structure ClipboardPayload where
  handoff : HandoffEnvelope
  snapshotId : SnapshotId
  data : ClipboardData
  deriving DecidableEq, Repr

structure ApplyResult where
  handoffId : HandoffId
  targetToken : OwnershipToken
  targetProcessSessionId : ProcessSessionId
  snapshotId : SnapshotId
  postWriteGeneration : Option NativeGeneration
  result : OperationResult
  deriving DecidableEq, Repr

inductive WireMessage where
  | clipboardHello (hello : ClipboardHello)
  | authorityState (state : AuthorityState)
  | prepareTarget (handoff : HandoffEnvelope)
  | prepareResult (result : PrepareResult)
  | ownershipActivated (handoff : HandoffEnvelope)
  | snapshotOffer (snapshot : ClipboardPayload)
  | snapshotDeliver (snapshot : ClipboardPayload)
  | applyResult (result : ApplyResult)
  | cancelHandoff (handoffId : HandoffId)
  | protocolError (reason : ClipboardReason)
  deriving DecidableEq, Repr

inductive MessageType where
  | clipboardHello | authorityState | prepareTarget | prepareResult | ownershipActivated
  | snapshotOffer | snapshotDeliver | applyResult | cancelHandoff | protocolError
  deriving DecidableEq, Repr

def WireMessage.messageType : WireMessage → MessageType
  | .clipboardHello _ => .clipboardHello
  | .authorityState _ => .authorityState
  | .prepareTarget _ => .prepareTarget
  | .prepareResult _ => .prepareResult
  | .ownershipActivated _ => .ownershipActivated
  | .snapshotOffer _ => .snapshotOffer
  | .snapshotDeliver _ => .snapshotDeliver
  | .applyResult _ => .applyResult
  | .cancelHandoff _ => .cancelHandoff
  | .protocolError _ => .protocolError

/-- What a frame's header says about its sender's view of a handoff. -/
structure FrameMetadata where
  messageType : MessageType
  handoffId : Option HandoffId
  sourceToken : Option OwnershipToken
  sourceProcessSessionId : Option ProcessSessionId
  targetToken : Option OwnershipToken
  targetProcessSessionId : Option ProcessSessionId
  snapshotId : Option SnapshotId
  deriving DecidableEq, Repr

end DisplayMux.Clipboard
