import DisplayMux.Clipboard.RoundTrip

/-! Who is at the other end of a clipboard connection, and which messages are taken from
there. The header of a frame is checked against the connection before its payload is read. -/
namespace DisplayMux.Clipboard

inductive TransportError where
  | hostIdentityMismatch | identityExhausted | queueFull | channelClosed | payloadOnControlQueue
  | controlInPayloadSlot | authenticatedHostMismatch | stalePeerSession | staleAuthoritySession
  | missingIdentity
  deriving DecidableEq, Repr

def TransportError.reason : TransportError → ClipboardReason
  | .identityExhausted => .identityExhausted
  | .queueFull => .queueFull
  | .channelClosed => .channelUnavailable
  | .stalePeerSession => .stalePeerSession
  | .staleAuthoritySession => .staleAuthoritySession
  | .hostIdentityMismatch | .payloadOnControlQueue | .controlInPayloadSlot | .authenticatedHostMismatch
  | .missingIdentity => .protocolError

abbrev ConnectionId := UInt64

structure NegotiatedPeer where
  connectionId : ConnectionId
  hostId : HostId
  processSessionId : ProcessSessionId
  effectiveMaxBytes : Option UInt64
  deriving DecidableEq, Repr

def clipboardTextV1 : UInt64 := 1

namespace ClipboardHello

def supportsTextV1 (hello : ClipboardHello) : Bool := hello.offeredCapabilities &&& clipboardTextV1 ≠ 0

/-- The peer that a greeting makes, with the smaller of both ends' limits. -/
def negotiated (hello : ClipboardHello) (connectionId : ConnectionId) (localMaxBytes : UInt64) :
    NegotiatedPeer where
  connectionId
  hostId := hello.hostId
  processSessionId := hello.processSessionId
  effectiveMaxBytes := if hello.supportsTextV1 then some (min localMaxBytes hello.maxReceiveBytes) else none

end ClipboardHello

def NegotiatedPeer.maxPayloadBytes (peer : NegotiatedPeer) (maxBytes : UInt64) : UInt64 :=
  peer.effectiveMaxBytes.getD maxBytes

namespace WireMessage

def isPayload : WireMessage → Bool
  | .snapshotOffer _ | .snapshotDeliver _ => true
  | _ => false

def metadata (m : WireMessage) : FrameMetadata :=
  let metadata : FrameMetadata := ⟨m.messageType, none, none, none, none, none, none⟩
  match m with
  | .authorityState state => state.activeHandoff.elim metadata metadata.setEnvelope
  | .prepareTarget handoff | .ownershipActivated handoff => metadata.setEnvelope handoff
  | .prepareResult result =>
    { metadata with
      handoffId := some result.handoffId
      targetToken := some result.targetToken
      targetProcessSessionId := some result.targetProcessSessionId }
  | .snapshotOffer snapshot | .snapshotDeliver snapshot =>
    { metadata.setEnvelope snapshot.handoff with snapshotId := some snapshot.snapshotId }
  | .applyResult result =>
    { metadata with
      handoffId := some result.handoffId
      targetToken := some result.targetToken
      targetProcessSessionId := some result.targetProcessSessionId
      snapshotId := some result.snapshotId }
  | .cancelHandoff handoffId => { metadata with handoffId := some handoffId }
  | .clipboardHello _ | .protocolError _ => metadata

def fromPeer : WireMessage → Bool
  | .snapshotOffer _ | .prepareResult _ | .applyResult _ | .protocolError _ => true
  | .clipboardHello _ | .authorityState _ | .prepareTarget _ | .ownershipActivated _ | .snapshotDeliver _
  | .cancelHandoff _ => false

end WireMessage

structure PeerFence where
  authoritySessionId : AuthoritySessionId
  hostId : HostId
  processSessionId : ProcessSessionId
  connectionId : ConnectionId
  deriving DecidableEq, Repr

namespace PeerFence

variable (fence : PeerFence) (metadata : FrameMetadata)

def validateMetadataAuthority : Except TransportError Unit :=
  match metadata.handoffId with
  | none => .error .missingIdentity
  | some handoffId =>
    if handoffId.authoritySessionId ≠ fence.authoritySessionId ∨
        (metadata.sourceToken.any fun token => token.authoritySessionId ≠ fence.authoritySessionId) = true ∨
        (metadata.targetToken.any fun token =>
          token.authoritySessionId ≠ fence.authoritySessionId) = true then
      .error .staleAuthoritySession
    else .ok ()

/-- The checks of one end: the token names the host of the connection, and the session is
the one of its process. -/
def validateEnd (token : Option OwnershipToken) (session : Option ProcessSessionId) :
    Except TransportError Unit :=
  match fence.validateMetadataAuthority metadata, token with
  | .error error, _ => .error error
  | .ok (), none => .error .missingIdentity
  | .ok (), some token =>
    if token.ownerHostId ≠ fence.hostId then .error .authenticatedHostMismatch
    else match session with
      | none => .error .missingIdentity
      | some session => if session ≠ fence.processSessionId then .error .stalePeerSession else .ok ()

def validateSourceMetadata : Except TransportError Unit :=
  fence.validateEnd metadata metadata.sourceToken metadata.sourceProcessSessionId

def validateTargetMetadata : Except TransportError Unit :=
  fence.validateEnd metadata metadata.targetToken metadata.targetProcessSessionId

end PeerFence

def NegotiatedPeer.fence (peer : NegotiatedPeer) (authoritySessionId : AuthoritySessionId) : PeerFence :=
  ⟨authoritySessionId, peer.hostId, peer.processSessionId, peer.connectionId⟩

/-- A peer sees no message of another authority than the one it heard of last, and none that
is for another host. -/
def validateAuthorityMetadata (metadata : FrameMetadata) (authoritySession : Option AuthoritySessionId)
    (localHost : HostId) (localProcessSessionId : ProcessSessionId) : Except TransportError Unit :=
  if metadata.messageType = .authorityState ∨ metadata.messageType = .protocolError then .ok ()
  else match authoritySession, metadata.handoffId with
    | none, _ => .error .staleAuthoritySession
    | some _, none => .error .missingIdentity
    | some authoritySessionId, some handoffId =>
      if handoffId.authoritySessionId ≠ authoritySessionId then .error .staleAuthoritySession
      else match metadata.messageType with
        | .prepareTarget | .ownershipActivated | .snapshotDeliver =>
          if (metadata.targetToken.any fun token => token.ownerHostId = localHost) = false then
            .error .authenticatedHostMismatch
          else if metadata.targetProcessSessionId ≠ some localProcessSessionId then .error .stalePeerSession
          else .ok ()
        | _ => .ok ()

inductive ClipboardTransportRole where
  | authority (authoritySessionId : AuthoritySessionId)
  | peer (authoritySessionId : Option AuthoritySessionId)
  deriving DecidableEq, Repr

def metadataValidator (role : ClipboardTransportRole) (peer : NegotiatedPeer) (localHost : HostId)
    (localProcessSessionId : ProcessSessionId) (metadata : FrameMetadata) : Except TransportError Unit :=
  match role with
  | .authority authoritySessionId =>
    match metadata.messageType with
    | .snapshotOffer => (peer.fence authoritySessionId).validateSourceMetadata metadata
    | .prepareResult | .applyResult => (peer.fence authoritySessionId).validateTargetMetadata metadata
    | .protocolError => .ok ()
    | _ => .error .authenticatedHostMismatch
  | .peer authoritySessionId =>
    validateAuthorityMetadata metadata authoritySessionId localHost localProcessSessionId

theorem fromPeer_of_valid {authoritySessionId : AuthoritySessionId} {peer : NegotiatedPeer}
    {localHost : HostId}
    {session : ProcessSessionId} {message : WireMessage}
    (valid : metadataValidator (.authority authoritySessionId)
      peer localHost session message.metadata = .ok ()) :
    message.fromPeer = true := by
  cases message with
  | snapshotOffer | prepareResult | applyResult | protocolError => rfl
  | authorityState state =>
    cases active : state.activeHandoff <;>
      simp [metadataValidator, WireMessage.metadata, WireMessage.messageType, active,
        FrameMetadata.setEnvelope] at valid
  | clipboardHello | prepareTarget | ownershipActivated | snapshotDeliver | cancelHandoff =>
    simp [metadataValidator, WireMessage.metadata, WireMessage.messageType, FrameMetadata.setEnvelope]
      at valid

theorem PeerFence.validateEnd_ok {fence : PeerFence} {metadata : FrameMetadata}
    {token : Option OwnershipToken}
    {session : Option ProcessSessionId} (valid : fence.validateEnd metadata token session = .ok ()) :
    token.map (·.ownerHostId) = some fence.hostId ∧ session = some fence.processSessionId := by
  unfold validateEnd at valid
  split at valid
  · contradiction
  · contradiction
  split at valid
  · contradiction
  rename_i own
  split at valid
  · contradiction
  split at valid
  · contradiction
  · rename_i current
    rw [not_ne_iff.mp current, Option.map_some, not_ne_iff.mp own]
    exact ⟨rfl, rfl⟩

end DisplayMux.Clipboard
