import DisplayMux.Clipboard.Actor
import DisplayMux.Clipboard.Coordinator
import DisplayMux.Clipboard.Transport
import DisplayMux.LanMouse.Switching

/-! The clipboard runtime of a host: the authority with its coordinator, or a peer that
follows one. It answers the hooks of the service, the transport, and its own actor. What it
sends out is kept in order; whether a queue takes it is up to the other side. -/
namespace DisplayMux.Clipboard

open LanMouse (ClipboardTransitionId)

inductive ServiceHook where
  | begin (transition : ClipboardTransitionId) (target : HostId)
  | captureProvisional
  | activate (transition : ClipboardTransitionId)
  | cancel (transition : ClipboardTransitionId) (reason : ClipboardReason)
  | cancelCurrent (reason : ClipboardReason)
  | shutdown
  deriving DecidableEq, Repr

inductive ClipboardTransportEvent where
  | connected (peer : NegotiatedPeer)
  | disconnected (hostId : HostId) (processSessionId : ProcessSessionId) (connectionId : ConnectionId)
  | message (hostId : HostId) (processSessionId : ProcessSessionId) (connectionId : ConnectionId)
    (message : WireMessage)
  deriving DecidableEq, Repr

structure PendingTransition where
  id : ClipboardTransitionId
  handoffId : HandoffId
  targetToken : OwnershipToken
  targetProcessSessionId : ProcessSessionId
  activated : Bool
  deriving DecidableEq, Repr

structure PeerPreparation where
  handoff : HandoffEnvelope
  baselineGeneration : Option NativeGeneration
  deriving DecidableEq, Repr

structure PeerRole where
  localHost : HostId
  serverHost : HostId
  authorityState : Option AuthorityState
  preparation : Option PeerPreparation
  deriving DecidableEq, Repr

inductive RuntimeRole where
  | authority (coordinator : Coordinator)
  | peer (role : PeerRole)
  | unavailable

structure ClipboardConfig where
  enabled : Bool
  maxBytes : UInt64
  deriving DecidableEq, Repr

/-- The runtime; `actor` tells whether one is installed, and a connection stands for the
handle that sends on it. -/
structure RuntimeCore where
  localHost : Option HostId
  processSessionId : ProcessSessionId
  actorEnabled : Bool
  maxBytes : UInt64
  role : RuntimeRole
  pending : Option PendingTransition
  actor : Bool
  pendingPayload : Option ClipboardPayload
  networkPeers : AList fun _ : HostId => NegotiatedPeer

inductive Effect where
  | actor (command : ActorCommand)
  | control (peer : NegotiatedPeer) (message : WireMessage)
  | payload (peer : NegotiatedPeer) (message : WireMessage)
  | cancelPayload (peer : NegotiatedPeer) (handoffId : HandoffId)
  | shutdown (peer : NegotiatedPeer)
  deriving DecidableEq, Repr

/-- What the queues make of what is sent: the actor's, a connection's, and whether the
payload slot of a connection is free. -/
structure Links where
  actor : ActorCommand → TrySend
  control : NegotiatedPeer → WireMessage → TrySend
  payloadFree : NegotiatedPeer → Bool

def Links.free : Links := ⟨fun _ => .sent, fun _ _ => .sent, fun _ => true⟩

def TrySend.result : TrySend → Except ClipboardReason Unit
  | .sent => .ok ()
  | .full => .error .queueFull
  | .closed => .error .channelUnavailable

abbrev Sent := Except ClipboardReason Unit × List Effect

abbrev Turned := RuntimeCore × List Effect

def ActiveHandoff.envelope (h : ActiveHandoff) : HandoffEnvelope :=
  ⟨h.id, h.sourceToken, h.sourceProcessSessionId, h.targetToken, h.targetProcessSessionId⟩

def Links.trySendControl (links : Links) (peer : NegotiatedPeer) (message : WireMessage) :
    Except ClipboardReason Unit :=
  if message.isPayload then .error TransportError.payloadOnControlQueue.reason
  else (links.control peer message).result

def Links.trySendPayload (links : Links) (peer : NegotiatedPeer) (message : WireMessage) :
    Except ClipboardReason Unit :=
  if !message.isPayload then .error TransportError.controlInPayloadSlot.reason
  else if links.payloadFree peer then .ok ()
  else .error TransportError.queueFull.reason

namespace RuntimeCore

def authority (config : ClipboardConfig) (serverHost : HostId) (processSessionId : ProcessSessionId)
    (authoritySessionId : AuthoritySessionId) : RuntimeCore where
  localHost := some serverHost
  processSessionId
  actorEnabled := config.enabled
  maxBytes := config.maxBytes
  role := .authority (.new config.enabled authoritySessionId serverHost processSessionId config.maxBytes)
  pending := none
  actor := false
  pendingPayload := none
  networkPeers := ∅

def peer (config : ClipboardConfig) (localHost serverHost : HostId) (processSessionId : ProcessSessionId) :
    RuntimeCore where
  localHost := some localHost
  processSessionId
  actorEnabled := config.enabled
  maxBytes := config.maxBytes
  role := .peer ⟨localHost, serverHost, none, none⟩
  pending := none
  actor := false
  pendingPayload := none
  networkPeers := ∅

def unavailable (processSessionId : ProcessSessionId) : RuntimeCore where
  localHost := none
  processSessionId
  actorEnabled := false
  maxBytes := 0
  role := .unavailable
  pending := none
  actor := false
  pendingPayload := none
  networkPeers := ∅

def actorInitialToken (core : RuntimeCore) : Option OwnershipToken :=
  match core.role with
  | .authority coordinator => some coordinator.currentToken
  | .peer role => some ((role.authorityState.map (·.currentToken)).getD ⟨0, 0, role.serverHost⟩)
  | .unavailable => none

/-- The token that an actor is started with, where one is wanted. -/
def startNativeActor (core : RuntimeCore) : Option OwnershipToken :=
  if core.actorEnabled && core.localHost.isSome then core.actorInitialToken else none

def coordinator (core : RuntimeCore) : Option Coordinator :=
  match core.role with
  | .authority coordinator => some coordinator
  | .peer _ | .unavailable => none

theorem coordinator_eq_some {core : RuntimeCore} {c : Coordinator} :
    core.coordinator = some c ↔ core.role = .authority c := by
  unfold coordinator
  split <;> rename_i role <;> simp [role]

def isAuthority (core : RuntimeCore) : Bool := core.coordinator.isSome

def active (core : RuntimeCore) : Option ActiveHandoff := core.coordinator.bind (·.active)

def withCoordinator (core : RuntimeCore) (coordinator : Coordinator) : RuntimeCore :=
  { core with role := .authority coordinator }

def activeEnvelope (core : RuntimeCore) (handoffId : HandoffId) : Option HandoffEnvelope :=
  (core.active.filter (·.id = handoffId)).map (·.envelope)

def installActor (core : RuntimeCore) : RuntimeCore := { core with actor := true }

def uninstallActor (core : RuntimeCore) : RuntimeCore :=
  let core := { core with actor := false, pendingPayload := none }
  match core.role with
  | .authority coordinator =>
    match coordinator.active with
    | some handoff => core.withCoordinator (coordinator.skip handoff.id .backendUnavailable).2
    | none => core
  | .peer role => { core with role := .peer { role with preparation := none } }
  | .unavailable => core

def skip (core : RuntimeCore) (handoffId : HandoffId) (reason : ClipboardReason) : RuntimeCore :=
  match core.role with
  | .authority coordinator =>
    match coordinator.skip handoffId reason with
    | (.ok _, coordinator) => { core with role := .authority coordinator, pendingPayload := none }
    | (.error _, coordinator) => core.withCoordinator coordinator
  | .peer _ | .unavailable => core

def orSkip (core : RuntimeCore) (handoffId : HandoffId) (sent : Sent) : Turned :=
  match sent.1 with
  | .ok _ => (core, sent.2)
  | .error reason => (core.skip handoffId reason, sent.2)

def peerHandoff (core : RuntimeCore) (handoffId : HandoffId) : Option HandoffEnvelope :=
  match core.role with
  | .peer role =>
    ((role.preparation.map (·.handoff)).filter (·.handoffId = handoffId)).or
      ((role.authorityState.bind (·.activeHandoff)).filter (·.handoffId = handoffId))
  | .authority _ | .unavailable => none

section Sending

variable (links : Links) (core : RuntimeCore)

def queueActor (command : ActorCommand) : Sent :=
  if core.actor then
    match (links.actor command).result with
    | .ok _ => (.ok (), [.actor command])
    | .error reason => (.error reason, [])
  else (.error .backendUnavailable, [])

/-- Send on a connection; one that does not take it is given up. -/
def sendOrShutdown (peer : NegotiatedPeer) (message : WireMessage) : Sent :=
  match links.trySendControl peer message with
  | .ok _ => (.ok (), [.control peer message])
  | .error reason => (.error reason, [.shutdown peer])

def trySendControl (host : HostId) (processSessionId : ProcessSessionId) (message : WireMessage) : Sent :=
  match core.networkPeers.lookup host with
  | none => (.error .channelUnavailable, [])
  | some peer =>
    if peer.processSessionId ≠ processSessionId then (.error .stalePeerSession, [])
    else sendOrShutdown links peer message

def sendToServerControl (message : WireMessage) : List Effect :=
  match core.role with
  | .peer role => (core.networkPeers.lookup role.serverHost).elim [] fun peer =>
      (sendOrShutdown links peer message).2
  | .authority _ | .unavailable => []

def sendToServerPayload (message : WireMessage) : List Effect :=
  match core.role with
  | .peer role => (core.networkPeers.lookup role.serverHost).elim [] fun peer =>
      match links.trySendPayload peer message with
      | .ok _ => [.payload peer message]
      | .error _ => [.shutdown peer]
  | .authority _ | .unavailable => []

def sendPrepareResult (handoff : HandoffEnvelope) (baseline : Option NativeGeneration)
    (result : OperationResult) : List Effect :=
  core.sendToServerControl links (.prepareResult
    ⟨handoff.handoffId, handoff.targetToken, core.processSessionId, baseline, result⟩)

def sendApplyResult (handoff : HandoffEnvelope) (snapshotId : SnapshotId) (result : OperationResult) :
    List Effect :=
  core.sendToServerControl links (.applyResult
    ⟨handoff.handoffId, handoff.targetToken, core.processSessionId, snapshotId, none, result⟩)

def publishAuthorityState (host : HostId) : List Effect :=
  match core.role, core.networkPeers.lookup host with
  | .authority coordinator, some peer =>
    let message := WireMessage.authorityState
      ⟨core.processSessionId, coordinator.currentToken, coordinator.active.map (·.envelope)⟩
    match links.trySendControl peer message with
    | .ok _ => [.control peer message]
    | .error _ => []
  | _, _ => []

def publishAuthorityStateAll : List Effect :=
  core.networkPeers.keys.flatMap (core.publishAuthorityState links)

/-- A cancelled handoff is taken out of every queue, and every peer is told. -/
def cancelEverywhere (handoffId : HandoffId) : List Effect :=
  (core.queueActor links (.cancelHandoff handoffId)).2 ++
    core.networkPeers.entries.flatMap fun entry =>
      .cancelPayload entry.2 handoffId ::
        match links.trySendControl entry.2 (.cancelHandoff handoffId) with
        | .ok _ => [.control entry.2 (.cancelHandoff handoffId)]
        | .error _ => []

end Sending

section Dispatch

variable (links : Links)

/-- The payload goes to this host's own actor or to the payload slot of the target, as long as
its handoff is the active one. -/
def publishPayload (core : RuntimeCore) (payload : ClipboardPayload) : Turned :=
  match core.active with
  | none => (core, [])
  | some active =>
    if active.id ≠ payload.handoff.handoffId ∨ active.sourceToken ≠ payload.handoff.sourceToken ∨
        active.targetToken ≠ payload.handoff.targetToken then (core, [])
    else if core.localHost = some active.targetHost then
      match active.targetPreparation with
      | none => (core, [])
      | some preparation =>
        core.orSkip payload.handoff.handoffId <| core.queueActor links <| .stageSnapshot
          ⟨payload.handoff.handoffId, payload.snapshotId, payload.handoff.targetToken,
            payload.handoff.targetProcessSessionId, preparation.baselineGeneration, payload.data⟩
    else match core.networkPeers.lookup payload.handoff.targetToken.ownerHostId with
      | none => (core.skip payload.handoff.handoffId .channelUnavailable, [])
      | some peer =>
        if peer.processSessionId ≠ payload.handoff.targetProcessSessionId then
          (core.skip payload.handoff.handoffId .channelUnavailable, [])
        else match links.trySendPayload peer (.snapshotDeliver payload) with
          | .ok _ => (core, [.payload peer (.snapshotDeliver payload)])
          | .error _ => (core.skip payload.handoff.handoffId .channelUnavailable, [])

/-- The waiting payload is gone afterwards, also when it is another one. -/
def publishPendingPayload (core : RuntimeCore) (handoffId : HandoffId) (snapshotId : SnapshotId) : Turned :=
  match core.pendingPayload with
  | none => (core, [])
  | some payload =>
    let core := { core with pendingPayload := none }
    if payload.handoff.handoffId ≠ handoffId ∨ payload.snapshotId ≠ snapshotId then (core, [])
    else core.publishPayload links payload

def dispatchOne (core : RuntimeCore) : CoordinatorCommand → Turned
  | .prepareTarget handoffId targetToken targetProcessSessionId =>
    if core.localHost = some targetToken.ownerHostId then
      core.orSkip handoffId (core.queueActor links (.prepareTarget handoffId targetToken))
    else match core.activeEnvelope handoffId with
      | none => (core, [])
      | some envelope => core.orSkip handoffId
          (core.trySendControl links targetToken.ownerHostId targetProcessSessionId (.prepareTarget envelope))
  | .captureSource handoffId sourceToken _ maxBytes =>
    if core.localHost = some sourceToken.ownerHostId then
      core.orSkip handoffId (core.queueActor links (.captureSource handoffId sourceToken maxBytes.toNat))
    else (core, core.publishAuthorityState links sourceToken.ownerHostId)
  | .publishSnapshot handoffId snapshotId =>
    if (core.activeEnvelope handoffId).any fun handoff =>
        core.localHost = some handoff.sourceToken.ownerHostId then
      core.orSkip handoffId (core.queueActor links (.publishSnapshot handoffId snapshotId))
    else core.publishPendingPayload links handoffId snapshotId
  | .activateTarget handoffId targetToken targetProcessSessionId =>
    if core.localHost = some targetToken.ownerHostId then
      core.orSkip handoffId (core.queueActor links (.activateTarget handoffId targetToken))
    else match core.activeEnvelope handoffId with
      | none => (core, [])
      | some envelope => core.orSkip handoffId
          (core.trySendControl links targetToken.ownerHostId targetProcessSessionId
            (.ownershipActivated envelope))
  | .cancelHandoff handoffId =>
    ({ core with pendingPayload := none }, core.cancelEverywhere links handoffId)

def dispatch (core : RuntimeCore) : List CoordinatorCommand → Turned
  | [] => (core, [])
  | command :: commands =>
    let (core, effects) := core.dispatchOne links command
    let (core, more) := core.dispatch commands
    (core, effects ++ more)

end Dispatch

section Hooks

variable (links : Links)

def callCoordinator (core : RuntimeCore)
    (call : Coordinator → Except CoordinatorError (List CoordinatorCommand) × Coordinator) :
    Except CoordinatorError Unit × Turned :=
  match core.role with
  | .authority coordinator =>
    match call coordinator with
    | (.ok commands, coordinator) => (.ok (), (core.withCoordinator coordinator).dispatch links commands)
    | (.error error, coordinator) => (.error error, core.withCoordinator coordinator, [])
  | .peer _ | .unavailable => (.error .staleHandoff, core, [])

def begin (core : RuntimeCore) (transition : ClipboardTransitionId) (target : HostId) : Turned :=
  match core.role with
  | .authority coordinator =>
    match coordinator.beginHandoff target with
    | (.error _, coordinator) => (core.withCoordinator coordinator, [])
    | (.ok b, coordinator) =>
      let session := (coordinator.active.map (·.targetProcessSessionId)).getD 0
      let core := { core.withCoordinator coordinator with
        pending := some ⟨transition, b.handoffId, b.targetToken, session, false⟩ }
      core.dispatch links b.commands
  | .peer _ | .unavailable => (core, [])

def activate (core : RuntimeCore) (transition : ClipboardTransitionId) : Turned :=
  match core.pending, core.role with
  | some pending, .authority coordinator =>
    if pending.id ≠ transition then (core, [])
    else match coordinator.ownershipActivated pending.handoffId pending.targetToken
        pending.targetProcessSessionId with
      | (.error _, coordinator) => (core.withCoordinator coordinator, [])
      | (.ok commands, coordinator) =>
        let core := { core.withCoordinator coordinator with
          pending := if coordinator.active.isSome then some { pending with activated := true } else none }
        let (core, effects) := core.dispatch links commands
        (core, effects ++ core.publishAuthorityStateAll links)
  | _, _ => (core, [])

def cancelCurrent (core : RuntimeCore) : Turned :=
  match core.pending with
  | none => (core, [])
  | some pending =>
    let core := { core with pending := none }
    (core.callCoordinator links fun coordinator => coordinator.abort pending.handoffId).2

def cancel (core : RuntimeCore) (transition : ClipboardTransitionId) : Turned :=
  if core.pending.any (·.id = transition) then core.cancelCurrent links else (core, [])

def captureProvisional (core : RuntimeCore) : Turned :=
  match core.role with
  | .peer role =>
    match role.authorityState.filter (·.currentToken.ownerHostId = role.localHost) with
    | some state =>
      (core, (core.queueActor links (.captureProvisional state.currentToken core.maxBytes.toNat)).2)
    | none => (core, [])
  | .authority _ | .unavailable => (core, [])

def handle (core : RuntimeCore) : ServiceHook → Turned
  | .begin transition target => core.begin links transition target
  | .activate transition => core.activate links transition
  | .cancel transition _ => core.cancel links transition
  | .cancelCurrent _ => core.cancelCurrent links
  | .captureProvisional => core.captureProvisional links
  | .shutdown => core.cancelCurrent links

end Hooks

section Messages

variable (links : Links)

def targetPrepared (core : RuntimeCore) (handoffId : HandoffId) (targetToken : OwnershipToken)
    (session : ProcessSessionId) (baseline : NativeGeneration) : Turned :=
  (core.callCoordinator links fun coordinator =>
    coordinator.targetPrepared handoffId targetToken session baseline).2

def acceptAuthorityState (core : RuntimeCore) (state : AuthorityState) : Turned :=
  match core.role with
  | .peer role =>
    let changed := role.authorityState.any fun previous =>
      previous.currentToken.authoritySessionId ≠ state.currentToken.authoritySessionId
    let core := { core with role := .peer { role with
      preparation := if changed then none else role.preparation
      authorityState := some state } }
    let bind := match state.activeHandoff.filter (·.sourceToken.ownerHostId = role.localHost) with
      | some handoff =>
        (core.queueActor links (.bindProvisional handoff.handoffId handoff.sourceToken)).2
      | none => []
    (core, (core.queueActor links (.synchronizeAuthority state.currentToken)).2 ++ bind)
  | .authority _ | .unavailable => (core, [])

def acceptSnapshotOffer (core : RuntimeCore) (host : HostId) (payload : ClipboardPayload) : Turned :=
  if !core.isAuthority || payload.handoff.sourceToken.ownerHostId ≠ host ||
      core.activeEnvelope payload.handoff.handoffId ≠ some payload.handoff then (core, [])
  else match payload.data.kind with
    | .error _ => (core, [])
    | .ok kind =>
      let core := { core with pendingPayload := some payload }
      match core.callCoordinator links fun coordinator =>
          coordinator.sourceCaptured payload.handoff.handoffId payload.handoff.sourceToken
            payload.handoff.sourceProcessSessionId ⟨payload.snapshotId, kind, payload.data.len⟩ with
      | (.ok _, turned) => turned
      | (.error _, core, effects) => ({ core with pendingPayload := none }, effects)

def stageDeliveredSnapshot (core : RuntimeCore) (payload : ClipboardPayload) : Turned :=
  match core.role with
  | .peer role =>
    let fits := role.preparation.filter fun preparation =>
      preparation.handoff.handoffId = payload.handoff.handoffId ∧
        preparation.handoff.targetToken = payload.handoff.targetToken
    match fits.bind (·.baselineGeneration) with
    | none => (core, [])
    | some baseline => (core, (core.queueActor links <| .stageSnapshot
        ⟨payload.handoff.handoffId, payload.snapshotId, payload.handoff.targetToken,
          payload.handoff.targetProcessSessionId, baseline, payload.data⟩).2)
  | .authority _ | .unavailable => (core, [])

def prepareAsPeer (core : RuntimeCore) (handoff : HandoffEnvelope) : Turned :=
  match core.role with
  | .peer role =>
    let core := { core with role := .peer { role with preparation := some ⟨handoff, none⟩ } }
    match core.queueActor links (.prepareTarget handoff.handoffId handoff.targetToken) with
    | (.ok _, effects) => (core, effects)
    | (.error reason, effects) =>
      (core, effects ++ core.sendPrepareResult links handoff none (.skipped reason))
  | .authority _ | .unavailable => (core, [])

def activateAsTold (core : RuntimeCore) (handoff : HandoffEnvelope) : Turned :=
  let core := match core.role with
    | .peer role => { core with role := .peer { role with
        authorityState := role.authorityState.map fun state =>
          { state with currentToken := handoff.targetToken, activeHandoff := some handoff } } }
    | .authority _ | .unavailable => core
  (core, (core.queueActor links (.activateTarget handoff.handoffId handoff.targetToken)).2)

def cancelAsTold (core : RuntimeCore) (handoffId : HandoffId) : Turned :=
  let core := match core.role with
    | .peer role => { core with role := .peer { role with preparation := none } }
    | .authority _ | .unavailable => core
  (core, (core.queueActor links (.cancelHandoff handoffId)).2)

def completed (core : RuntimeCore) (handoffId : HandoffId) (snapshotId : SnapshotId) : RuntimeCore :=
  match core.role with
  | .authority coordinator => core.withCoordinator (coordinator.applied handoffId snapshotId).2
  | .peer _ | .unavailable => core

def handleWireMessage (core : RuntimeCore) (host : HostId) : WireMessage → Turned
  | .authorityState state => core.acceptAuthorityState links state
  | .prepareTarget handoff => core.prepareAsPeer links handoff
  | .prepareResult result =>
    match result.result, result.baselineGeneration with
    | .completed, some generation => core.targetPrepared links result.handoffId result.targetToken
        result.targetProcessSessionId generation
    | .completed, none => (core, [])
    | .skipped reason, _ => (core.skip result.handoffId reason, [])
  | .ownershipActivated handoff => core.activateAsTold links handoff
  | .snapshotOffer payload => core.acceptSnapshotOffer links host payload
  | .snapshotDeliver payload => core.stageDeliveredSnapshot links payload
  | .applyResult result =>
    match result.result with
    | .completed => (core.completed result.handoffId result.snapshotId, [])
    | .skipped reason => (core.skip result.handoffId reason, [])
  | .cancelHandoff handoffId => core.cancelAsTold links handoffId
  | .protocolError _ | .clipboardHello _ => (core, [])

def peerSessionChanged (core : RuntimeCore) (host : HostId) (session : ProcessSessionId) : Turned :=
  match core.role with
  | .authority coordinator =>
    let (commands, coordinator) := coordinator.setProcessSession host session
    (core.withCoordinator coordinator).dispatch links commands
  | .peer _ | .unavailable => core.dispatch links []

def connected (core : RuntimeCore) (peer : NegotiatedPeer) : Turned :=
  let (core, effects) :=
    if peer.effectiveMaxBytes.isSome then core.peerSessionChanged links peer.hostId peer.processSessionId
    else (core, [])
  let core := { core with networkPeers := core.networkPeers.insert peer.hostId peer }
  (core, effects ++ core.publishAuthorityState links peer.hostId)

def knows (core : RuntimeCore) (host : HostId) (session : ProcessSessionId) (connectionId : ConnectionId) :
    Bool :=
  (core.networkPeers.lookup host).any fun peer =>
    peer.connectionId = connectionId ∧ peer.processSessionId = session

def disconnected (core : RuntimeCore) (host : HostId) (session : ProcessSessionId)
    (connectionId : ConnectionId) : Turned :=
  if core.knows host session connectionId then
    let core := { core with networkPeers := core.networkPeers.erase host }
    match core.role with
    | .authority coordinator =>
      let (commands, coordinator) := coordinator.removeProcessSession host
      (core.withCoordinator coordinator).dispatch links commands
    | .peer role =>
      if role.serverHost = host then
        let core := { core with role := .peer { role with authorityState := none, preparation := none } }
        match role.authorityState.bind (·.activeHandoff) with
        | some handoff => (core, (core.queueActor links (.cancelHandoff handoff.handoffId)).2)
        | none => (core, [])
      else (core, [])
    | .unavailable => (core, [])
  else (core, [])

def handleTransportEvent (core : RuntimeCore) : ClipboardTransportEvent → Turned
  | .connected peer => core.connected links peer
  | .disconnected host session connectionId => core.disconnected links host session connectionId
  | .message host session connectionId message =>
    if core.knows host session connectionId then core.handleWireMessage links host message else (core, [])

end Messages

section ActorEvents

variable (links : Links)

def actorPrepared (core : RuntimeCore) (handoffId : HandoffId) (targetToken : OwnershipToken)
    (session : ProcessSessionId) (baseline : NativeGeneration) : Turned :=
  match core.role with
  | .authority _ => core.targetPrepared links handoffId targetToken session baseline
  | .peer role =>
    match role.preparation.filter fun preparation =>
        preparation.handoff.handoffId = handoffId ∧ preparation.handoff.targetToken = targetToken ∧
          preparation.handoff.targetProcessSessionId = session with
    | some preparation =>
      let core := { core with role := .peer { role with
        preparation := some { preparation with baselineGeneration := some baseline } } }
      (core, core.sendPrepareResult links preparation.handoff (some baseline) .completed)
    | none => (core, [])
  | .unavailable => (core, [])

def actorCaptured (core : RuntimeCore) (handoffId : HandoffId) (sourceToken : OwnershipToken)
    (snapshot : SnapshotMetadata) : Turned :=
  if core.isAuthority then
    (core.callCoordinator links fun coordinator =>
      coordinator.sourceCaptured handoffId sourceToken core.processSessionId snapshot).2
  else (core, (core.queueActor links (.publishSnapshot handoffId snapshot.snapshotId)).2)

def actorApplied (core : RuntimeCore) (identity : AppliedIdentity) : Turned :=
  if core.isAuthority then (core.completed identity.handoffId identity.snapshotId, [])
  else match core.peerHandoff identity.handoffId with
    | some handoff => (core, core.sendApplyResult links handoff identity.snapshotId .completed)
    | none => (core, [])

def actorSkipped (core : RuntimeCore) (command : ActorCommand) (handoffId : Option HandoffId)
    (reason : ClipboardReason) : Turned :=
  match handoffId with
  | none => (core, [])
  | some handoffId =>
    if core.isAuthority then (core.skip handoffId reason, [])
    else match command with
      | .prepareTarget _ _ =>
        match core.peerHandoff handoffId with
        | some handoff => (core, core.sendPrepareResult links handoff none (.skipped reason))
        | none => (core, [])
      | .stageSnapshot stage =>
        match core.peerHandoff handoffId with
        | some handoff => (core, core.sendApplyResult links handoff stage.snapshotId (.skipped reason))
        | none => (core, [])
      | _ => (core, core.sendToServerControl links (.protocolError reason))

def staged (core : RuntimeCore) (handoffId : HandoffId) : RuntimeCore :=
  match core.role with
  | .authority coordinator => core.withCoordinator (coordinator.snapshotStaged handoffId).2
  | .peer _ | .unavailable => core

def handleActorEvent (core : RuntimeCore) (command : ActorCommand) : ActorEvent → Turned
  | .prepared handoffId targetToken session baseline =>
    core.actorPrepared links handoffId targetToken session baseline
  | .captured handoffId sourceToken snapshotId kind bytes =>
    core.actorCaptured links handoffId sourceToken ⟨snapshotId, kind, bytes⟩
  | .staged handoffId _ => (core.staged handoffId, [])
  | .applied identity => core.actorApplied links identity
  | .skipped handoffId reason | .backendUnavailable handoffId reason =>
    core.actorSkipped links command handoffId reason
  | .authoritySynchronized _ | .generation _ | .provisionalCaptured _ _ _ _ | .activated _ _
  | .published _ _ | .canceled _ | .shutdown => (core, [])

def handleActorPayload (core : RuntimeCore) (payload : ActorPayload) : Turned :=
  let own (handoff : HandoffEnvelope) := handoff.sourceToken = payload.sourceToken ∧
    handoff.sourceProcessSessionId = core.processSessionId ∧
    payload.snapshotId.sourceProcessSessionId = core.processSessionId
  match core.activeEnvelope payload.handoffId, core.peerHandoff payload.handoffId with
  | some handoff, _ =>
    if own handoff then core.publishPayload links ⟨handoff, payload.snapshotId, payload.data⟩ else (core, [])
  | none, some handoff =>
    if own handoff then
      (core, core.sendToServerPayload links (.snapshotOffer ⟨handoff, payload.snapshotId, payload.data⟩))
    else (core, [])
  | none, none => (core, [])

end ActorEvents

end RuntimeCore

end DisplayMux.Clipboard
