import DisplayMux.Lib.Saturating
import Mathlib.Tactic.Simps.Basic

/-! The data of the display daemon: hosts, requests, leases, sessions and the
one state record that the reducer rewrites. Times and epochs are natural
numbers; the maps keyed by a host have one optional slot for each of the three
hosts, as a map over a closed enumeration does. -/
namespace DisplayMux.Tv

inductive Host where
  | controller | right | left
  deriving DecidableEq, Repr

def Host.all : List Host := [.controller, .left, .right]

structure HostMap (α : Type) where
  controller : Option α
  right : Option α
  left : Option α
  deriving DecidableEq, Repr

namespace HostMap

variable {α : Type}

def empty : HostMap α := ⟨none, none, none⟩

def get (m : HostMap α) : Host → Option α
  | .controller => m.controller
  | .right => m.right
  | .left => m.left

def insert (m : HostMap α) (h : Host) (a : α) : HostMap α :=
  match h with
  | .controller => { m with controller := some a }
  | .right => { m with right := some a }
  | .left => { m with left := some a }

def collect (entries : List (Host × α)) : HostMap α :=
  entries.foldl (fun m e => m.insert e.1 e.2) empty

theorem get_insert (m : HostMap α) (h k : Host) (a : α) :
    (m.insert h a).get k = if h = k then some a else m.get k := by
  cases h <;> cases k <;> rfl

end HostMap

inductive TvMode where
  | unknown | fullscreen | multiview
  deriving DecidableEq, Repr

inductive WsState where
  | disconnected | connecting | registering | synchronizing | connected
  deriving DecidableEq, Repr

inductive ProtocolPhase where
  | starting | idle | waking | switching | verifying | grantPending | remoteOwned
  | fallbackCommandPending | fallbackVerifying | fallbackDeferred | multiviewChanging
  deriving DecidableEq, Repr

structure PeerReadiness where
  online : Bool := false
  keyboardReady : Bool := false
  pointerReady : Bool := false
  sessionEpoch : Nat := 0
  observedAtMs : Nat := 0
  deriving DecidableEq, Repr

def PeerReadiness.bundleReady (p : PeerReadiness) (sessionEpoch : Nat) : Bool :=
  p.online && p.keyboardReady && p.pointerReady && p.sessionEpoch == sessionEpoch

structure LeaseIdentity where
  leaseId : String
  leaseEpoch : Nat
  peerSessionEpoch : Nat
  expiresAtMs : Nat
  deriving DecidableEq, Repr

structure GrantIdentity where
  grantEpoch : Nat
  switchEpoch : Nat
  expiresAtMs : Nat
  deriving DecidableEq, Repr

inductive RequestStatus where
  | waking | switching | grant | committed | denied | cancelled | fallback | expired
  deriving DecidableEq, Repr

structure EnterRequest where
  requestId : String
  clientId : String
  target : Host
  requestEpoch : Nat
  lease : LeaseIdentity
  status : RequestStatus
  switchEpoch : Option Nat
  grant : Option GrantIdentity
  deadlineMs : Nat
  reason : Option String
  deriving DecidableEq, Repr

structure ActiveSession where
  requestId : String
  target : Host
  requestEpoch : Nat
  switchEpoch : Nat
  lease : LeaseIdentity
  renewedUntilMs : Nat
  deriving DecidableEq, Repr

structure SignalObservation where
  present : Bool := false
  switchEpoch : Nat := 0
  observedAtMs : Nat := 0
  deriving DecidableEq, Repr

structure ProtocolState where
  serverHost : Host
  displayHosts : HostMap Unit
  wsState : WsState
  subscribeActive : Bool
  synchronized : Bool
  phase : ProtocolPhase
  tvMode : TvMode
  commandedInput : Option Host
  observedInput : Option Host
  inputSignal : HostMap SignalObservation
  peers : HostMap PeerReadiness
  requestEpoch : Nat
  switchEpoch : Nat
  verifiedEpoch : Option Nat
  grantEpoch : Nat
  keyboardOwner : Host
  pointerOwner : Host
  activeRequest : Option EnterRequest
  requestHistory : List EnterRequest
  retainedRequestLimit : Nat
  activeSession : Option ActiveSession
  pendingMultiview : Option Bool
  observationInFlight : Option Nat
  phaseDeadlineMs : Option Nat
  nextSignalPollMs : Option Nat
  fallbackRequired : Bool
  fallbackReason : Option String
  manualRecoveryTarget : Option Host
  reconnectTotal : Nat
  switchCount : HostMap Nat
  lastError : Option String
  deriving DecidableEq, Repr

inductive InvariantViolation where
  | splitInputOwnership
  | fallbackOwnsRemoteInput
  | manualRecoveryTargetsServer
  | manualRecoveryWhileInputActive
  | remoteOwnerWithoutSession
  | remoteOwnerSessionMismatch
  | remoteOwnerLeaseExpired
  | remoteOwnerNotReady
  | remoteOwnerWithoutVerifiedDisplay
  | grantStateWithoutGrant
  | grantEpochMismatch
  deriving DecidableEq, Repr

def InvariantViolation.message : InvariantViolation → String
  | splitInputOwnership => "keyboard and pointer ownership split"
  | fallbackOwnsRemoteInput => "fallback required while remote input remains owned"
  | manualRecoveryTargetsServer => "manual recovery target must be a remote host"
  | manualRecoveryWhileInputActive =>
    "manual recovery cannot be armed while an input transaction is active"
  | remoteOwnerWithoutSession => "remote owner has no active bundle session"
  | remoteOwnerSessionMismatch => "remote owner does not match active bundle session"
  | remoteOwnerLeaseExpired => "remote owner bundle lease expired"
  | remoteOwnerNotReady => "remote owner peer is not ready for both input paths"
  | remoteOwnerWithoutVerifiedDisplay => "remote owner lacks a fresh verified display observation"
  | grantStateWithoutGrant => "grant state has no grant identity"
  | grantEpochMismatch => "grant and verified switch epochs differ"

namespace ProtocolState

/-- The constructor of the daemon. Its two assertions are the `none` results. -/
def withDisplayHosts (serverHost : Host) (retainedRequestLimit : Nat) (displayHosts : List Host) :
    Option ProtocolState :=
  let routes := HostMap.collect (displayHosts.map fun h => (h, ()))
  if retainedRequestLimit = 0 then none
  else if (routes.get serverHost).isNone then none
  else some {
    serverHost
    displayHosts := routes
    wsState := .disconnected
    subscribeActive := false
    synchronized := false
    phase := .fallbackDeferred
    tvMode := .unknown
    commandedInput := none
    observedInput := none
    inputSignal := HostMap.collect (Host.all.map fun h => (h, {}))
    peers := HostMap.collect (Host.all.map fun h => (h, {}))
    requestEpoch := 0
    switchEpoch := 0
    verifiedEpoch := none
    grantEpoch := 0
    keyboardOwner := serverHost
    pointerOwner := serverHost
    activeRequest := none
    requestHistory := []
    retainedRequestLimit
    activeSession := none
    pendingMultiview := none
    observationInFlight := none
    phaseDeadlineMs := none
    nextSignalPollMs := none
    fallbackRequired := true
    fallbackReason := some "startup_unsynchronized"
    manualRecoveryTarget := none
    reconnectTotal := 0
    switchCount := HostMap.collect (Host.all.map fun h => (h, 0))
    lastError := none }

def hasDisplayRoute (s : ProtocolState) (h : Host) : Bool := (s.displayHosts.get h).isSome

def daemonHealthy (s : ProtocolState) : Bool :=
  s.wsState == .connected && s.subscribeActive && s.synchronized

def ready (s : ProtocolState) : Bool :=
  s.daemonHealthy && !s.fallbackRequired && s.phase != .fallbackDeferred

/-- The active request under this id, or else the newest archived one. -/
def request (s : ProtocolState) (requestId : String) : Option EnterRequest :=
  (s.activeRequest.filter fun r => r.requestId == requestId).or
    (s.requestHistory.reverse.find? fun r => r.requestId == requestId)

/-- The newest archived request under this id, as `archived_request_mut` finds it. -/
def archivedRequest (s : ProtocolState) (requestId : String) : Option EnterRequest :=
  s.requestHistory.reverse.find? fun r => r.requestId == requestId

/-- Write through the reference that `archived_request_mut` returns. The history
keeps its oldest entry first, so the entry to write is the last one that matches. -/
def modifyArchived (requestId : String) (f : EnterRequest → EnterRequest) :
    List EnterRequest → List EnterRequest
  | [] => []
  | r :: rest =>
    if rest.any fun later => later.requestId == requestId then r :: modifyArchived requestId f rest
    else if r.requestId == requestId then f r :: rest
    else r :: rest

/-- The history after a request is archived under the retention limit: an older
entry with the same id goes, then the oldest entries until one place is free. -/
def archiveInto (history : List EnterRequest) (limit : Nat) (r : EnterRequest) : List EnterRequest :=
  let others := history.eraseP fun old => old.requestId == r.requestId
  others.drop (others.length + 1 - limit) ++ [r]

@[simps] def archiveRequest (s : ProtocolState) (r : EnterRequest) : ProtocolState :=
  { s with requestHistory := archiveInto s.requestHistory s.retainedRequestLimit r }

def nextDeadlineMs (s : ProtocolState) : Option Nat :=
  [s.phaseDeadlineMs, s.nextSignalPollMs, s.activeRequest.map (·.deadlineMs),
    s.activeSession.map fun a => min a.renewedUntilMs a.lease.expiresAtMs].reduceOption.min?

/-- The display that a remote owner with a display route must have in front of it. -/
def sessionDisplayVerified (s : ProtocolState) (a : ActiveSession) : Bool :=
  s.observedInput == some a.target && s.verifiedEpoch == some a.switchEpoch &&
    s.tvMode == .fullscreen &&
    (s.inputSignal.get a.target).any fun g => g.present && g.switchEpoch == a.switchEpoch

def validateRemoteOwner (s : ProtocolState) (nowMs : Nat) : Except InvariantViolation Unit :=
  if s.keyboardOwner = s.serverHost then .ok ()
  else match s.activeSession with
    | none => .error .remoteOwnerWithoutSession
    | some a =>
      if a.target ≠ s.keyboardOwner then .error .remoteOwnerSessionMismatch
      else if a.renewedUntilMs ≤ nowMs ∨ a.lease.expiresAtMs ≤ nowMs then
        .error .remoteOwnerLeaseExpired
      else if !(s.peers.get a.target).any fun p => p.bundleReady a.lease.peerSessionEpoch then
        .error .remoteOwnerNotReady
      else if s.hasDisplayRoute a.target && !s.sessionDisplayVerified a then
        .error .remoteOwnerWithoutVerifiedDisplay
      else .ok ()

def validateGrant (s : ProtocolState) : Except InvariantViolation Unit :=
  match s.activeRequest with
  | none => .ok ()
  | some r =>
    if r.status = .grant then
      match r.grant with
      | none => .error .grantStateWithoutGrant
      | some g =>
        if r.switchEpoch ≠ some g.switchEpoch ∨ s.verifiedEpoch ≠ some g.switchEpoch then
          .error .grantEpochMismatch
        else .ok ()
    else .ok ()

def validate (s : ProtocolState) (nowMs : Nat) : Except InvariantViolation Unit :=
  if s.keyboardOwner ≠ s.pointerOwner then .error .splitInputOwnership
  else if s.fallbackRequired ∧ s.keyboardOwner ≠ s.serverHost then .error .fallbackOwnsRemoteInput
  else if s.manualRecoveryTarget = some s.serverHost then .error .manualRecoveryTargetsServer
  else if s.manualRecoveryTarget.isSome ∧
      (s.activeRequest.isSome ∨ s.activeSession.isSome ∨ s.keyboardOwner ≠ s.serverHost) then
    .error .manualRecoveryWhileInputActive
  else match s.validateRemoteOwner nowMs with
    | .error violation => .error violation
    | .ok () => s.validateGrant

end ProtocolState

end DisplayMux.Tv
