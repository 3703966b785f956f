import Mathlib.Data.List.AList
import DisplayMux.Lib.Machine
import DisplayMux.Lib.Saturating
import DisplayMux.Clipboard.Types

/-! The coordinator of the clipboard. It knows who owns the clipboard and moves one
snapshot at a time to the next owner. A call that fails still returns the state that it
leaves behind. -/
namespace DisplayMux.Clipboard

inductive HandoffPhase where
  | capturing | ready | inFlight | staged
  deriving DecidableEq, Repr

structure SnapshotMetadata where
  snapshotId : SnapshotId
  kind : ClipboardKind
  bytes : Nat
  deriving DecidableEq, Repr

structure TargetPreparation where
  processSessionId : ProcessSessionId
  baselineGeneration : NativeGeneration
  deriving DecidableEq, Repr

structure ActiveHandoff where
  id : HandoffId
  sourceHost : HostId
  sourceToken : OwnershipToken
  sourceProcessSessionId : ProcessSessionId
  targetHost : HostId
  targetToken : OwnershipToken
  targetProcessSessionId : ProcessSessionId
  phase : HandoffPhase
  snapshot : Option SnapshotMetadata
  targetPreparation : Option TargetPreparation
  targetActivated : Bool
  snapshotPublished : Bool
  deriving DecidableEq, Repr

structure PendingOwnership where
  handoffId : HandoffId
  targetToken : OwnershipToken
  deriving DecidableEq, Repr

inductive CoordinatorCommand where
  | prepareTarget (handoffId : HandoffId) (targetToken : OwnershipToken)
    (targetProcessSessionId : ProcessSessionId)
  | captureSource (handoffId : HandoffId) (sourceToken : OwnershipToken)
    (sourceProcessSessionId : ProcessSessionId) (maxBytes : UInt64)
  | publishSnapshot (handoffId : HandoffId) (snapshotId : SnapshotId)
  | activateTarget (handoffId : HandoffId) (targetToken : OwnershipToken)
    (targetProcessSessionId : ProcessSessionId)
  | cancelHandoff (handoffId : HandoffId)
  deriving DecidableEq, Repr

def CoordinatorCommand.handoffId : CoordinatorCommand → HandoffId
  | .prepareTarget id _ _ | .captureSource id _ _ _ | .publishSnapshot id _ | .activateTarget id _ _
  | .cancelHandoff id => id

structure BeginHandoff where
  handoffId : HandoffId
  sourceToken : OwnershipToken
  targetToken : OwnershipToken
  commands : List CoordinatorCommand
  deriving DecidableEq, Repr

inductive CoordinatorError where
  | identityExhausted | sameHost | staleHandoff | staleOwnerToken | staleProcessSession
  | invalidSnapshot
  deriving DecidableEq, Repr

structure Coordinator where
  enabled : Bool
  authoritySessionId : AuthoritySessionId
  currentToken : OwnershipToken
  nextOwnershipEpoch : OwnershipEpoch
  nextHandoffEpoch : HandoffEpoch
  maxBytes : UInt64
  processSessions : AList fun _ : HostId => ProcessSessionId
  pendingOwnership : Option PendingOwnership
  active : Option ActiveHandoff
  lastTerminal : Option (HandoffId × Except ClipboardReason Unit)

/-- The snapshot is published once it is captured and its target is prepared. -/
def ActiveHandoff.publishIfReady (h : ActiveHandoff) : ActiveHandoff × List CoordinatorCommand :=
  match h.snapshotPublished, h.snapshot, h.targetPreparation with
  | false, some snapshot, some _ =>
    ({ h with snapshotPublished := true, phase := .inFlight }, [.publishSnapshot h.id snapshot.snapshotId])
  | _, _, _ => (h, [])

namespace Coordinator

abbrev Outcome (α : Type) := Except CoordinatorError α × Coordinator

def new (enabled : Bool) (authoritySessionId : AuthoritySessionId) (serverHost : HostId)
    (serverProcessSessionId : ProcessSessionId) (maxBytes : UInt64) : Coordinator where
  enabled
  authoritySessionId
  currentToken := ⟨authoritySessionId, 0, serverHost⟩
  nextOwnershipEpoch := 0
  nextHandoffEpoch := 0
  maxBytes
  processSessions := AList.singleton serverHost serverProcessSessionId
  pendingOwnership := none
  active := none
  lastTerminal := none

def cancel (c : Coordinator) (reason : ClipboardReason) : List CoordinatorCommand × Coordinator :=
  match c.active with
  | none => ([], c)
  | some handoff =>
    ([.cancelHandoff handoff.id], { c with active := none, lastTerminal := some (handoff.id, .error reason) })

def involves (c : Coordinator) (host : HostId) : Bool :=
  c.active.any fun handoff => handoff.sourceHost = host ∨ handoff.targetHost = host

def setProcessSession (c : Coordinator) (host : HostId) (session : ProcessSessionId) :
    List CoordinatorCommand × Coordinator :=
  let changed := (c.processSessions.lookup host).any (· ≠ session)
  let c := { c with processSessions := c.processSessions.insert host session }
  if changed && c.involves host then c.cancel .stalePeerSession else ([], c)

def removeProcessSession (c : Coordinator) (host : HostId) : List CoordinatorCommand × Coordinator :=
  match c.processSessions.lookup host with
  | none => ([], c)
  | some _ =>
    let c := { c with processSessions := c.processSessions.erase host }
    if c.involves host then c.cancel .channelUnavailable else ([], c)

def setEnabled (c : Coordinator) (enabled : Bool) : List CoordinatorCommand × Coordinator :=
  if c.enabled = enabled then ([], c)
  else
    let c := { c with enabled }
    if enabled then ([], c) else c.cancel .canceled

def beginHandoff (c : Coordinator) (targetHost : HostId) : Outcome BeginHandoff :=
  if targetHost = c.currentToken.ownerHostId then (.error .sameHost, c)
  else match checkedAdd c.nextOwnershipEpoch.toNat 1, checkedAdd c.nextHandoffEpoch.toNat 1 with
    | some ownershipEpoch, some handoffEpoch =>
      let sourceSession := c.processSessions.lookup c.currentToken.ownerHostId
      let targetSession := c.processSessions.lookup targetHost
      let (canceled, c) := c.cancel .canceled
      let handoffId : HandoffId := ⟨c.authoritySessionId, .ofNat handoffEpoch⟩
      let targetToken : OwnershipToken := ⟨c.authoritySessionId, .ofNat ownershipEpoch, targetHost⟩
      let sourceToken := c.currentToken
      let c := { c with
        nextOwnershipEpoch := .ofNat ownershipEpoch
        nextHandoffEpoch := .ofNat handoffEpoch
        pendingOwnership := some ⟨handoffId, targetToken⟩ }
      match c.enabled, sourceSession, targetSession with
      | true, some sourceSession, some targetSession =>
        let active : ActiveHandoff := ⟨handoffId, sourceToken.ownerHostId, sourceToken, sourceSession,
          targetHost, targetToken, targetSession, .capturing, none, none, false, false⟩
        (.ok ⟨handoffId, sourceToken, targetToken, canceled ++
          [.prepareTarget handoffId targetToken targetSession,
            .captureSource handoffId sourceToken sourceSession c.maxBytes]⟩, { c with active := some active })
      | enabled, _, _ =>
        let reason := if enabled then ClipboardReason.capabilityMissing else .canceled
        (.ok ⟨handoffId, sourceToken, targetToken, canceled⟩,
          { c with active := none, lastTerminal := some (handoffId, .error reason) })
    | _, _ => (.error .identityExhausted, c)

def matchActive (c : Coordinator) (handoffId : HandoffId) : Option ActiveHandoff :=
  c.active.filter (·.id = handoffId)

def targetPrepared (c : Coordinator) (handoffId : HandoffId) (targetToken : OwnershipToken)
    (session : ProcessSessionId) (baseline : NativeGeneration) : Outcome (List CoordinatorCommand) :=
  match c.matchActive handoffId with
  | none => (.error .staleHandoff, c)
  | some handoff =>
    if handoff.targetToken ≠ targetToken then (.error .staleOwnerToken, c)
    else if handoff.targetProcessSessionId ≠ session then (.error .staleProcessSession, c)
    else
      let (handoff, commands) := ActiveHandoff.publishIfReady
        { handoff with targetPreparation := some ⟨session, baseline⟩ }
      (.ok commands, { c with active := some handoff })

def sourceCaptured (c : Coordinator) (handoffId : HandoffId) (sourceToken : OwnershipToken)
    (session : ProcessSessionId) (snapshot : SnapshotMetadata) : Outcome (List CoordinatorCommand) :=
  if c.maxBytes.toNat < snapshot.bytes then (.error .invalidSnapshot, c)
  else match c.matchActive handoffId with
    | none => (.error .staleHandoff, c)
    | some handoff =>
      if handoff.sourceToken ≠ sourceToken then (.error .staleOwnerToken, c)
      else if handoff.sourceProcessSessionId ≠ session ∨
          snapshot.snapshotId.sourceProcessSessionId ≠ session then (.error .staleProcessSession, c)
      else
        let (handoff, commands) := ActiveHandoff.publishIfReady
          { handoff with snapshot := some snapshot, phase := .ready }
        (.ok commands, { c with active := some handoff })

/-- The clipboard has a new owner, even when the call fails after that. -/
def ownershipActivated (c : Coordinator) (handoffId : HandoffId) (targetToken : OwnershipToken)
    (session : ProcessSessionId) : Outcome (List CoordinatorCommand) :=
  match c.pendingOwnership with
  | none => (.error .staleHandoff, c)
  | some pending =>
    if pending.handoffId ≠ handoffId then (.error .staleHandoff, c)
    else if pending.targetToken ≠ targetToken then (.error .staleOwnerToken, c)
    else
      let c := { c with pendingOwnership := none, currentToken := targetToken }
      match c.active with
      | none => (.ok [], c)
      | some handoff =>
        if handoff.id ≠ handoffId then (.error .staleHandoff, c)
        else if handoff.targetToken ≠ targetToken then (.error .staleOwnerToken, c)
        else if handoff.targetProcessSessionId ≠ session then (.error .staleProcessSession, c)
        else
          let (handoff, commands) := ActiveHandoff.publishIfReady { handoff with targetActivated := true }
          (.ok (.activateTarget handoffId targetToken session :: commands), { c with active := some handoff })

def snapshotStaged (c : Coordinator) (handoffId : HandoffId) : Outcome Unit :=
  match c.matchActive handoffId with
  | none => (.error .staleHandoff, c)
  | some handoff => (.ok (), { c with active := some { handoff with phase := .staged } })

def applied (c : Coordinator) (handoffId : HandoffId) (snapshotId : SnapshotId) : Outcome Unit :=
  match c.matchActive handoffId with
  | none => (.error .staleHandoff, c)
  | some handoff =>
    if !handoff.targetActivated || handoff.snapshot.map (·.snapshotId) ≠ some snapshotId then
      (.error .invalidSnapshot, c)
    else (.ok (), { c with active := none, lastTerminal := some (handoffId, .ok ()) })

def skip (c : Coordinator) (handoffId : HandoffId) (reason : ClipboardReason) : Outcome Unit :=
  match c.matchActive handoffId with
  | none => (.error .staleHandoff, c)
  | some _ => (.ok (), { c with active := none, lastTerminal := some (handoffId, .error reason) })

def abort (c : Coordinator) (handoffId : HandoffId) : Outcome (List CoordinatorCommand) :=
  match c.pendingOwnership with
  | none => (.error .staleHandoff, c)
  | some pending =>
    if pending.handoffId ≠ handoffId then (.error .staleHandoff, c)
    else
      let (commands, c) := { c with pendingOwnership := none }.cancel .canceled
      (.ok commands, c)

section Lemmas

variable {c c' : Coordinator}

theorem cancel_eq (reason : ClipboardReason) : c.cancel reason =
    ((c.active.map fun handoff => .cancelHandoff handoff.id).toList,
      { c with
        active := none
        lastTerminal := (c.active.map fun handoff => (handoff.id, .error reason)).or c.lastTerminal }) := by
  obtain ⟨_, _, _, _, _, _, _, _, active, _⟩ := c
  cases active <;> rfl

theorem matchActive_eq_some {id : HandoffId} {handoff : ActiveHandoff} :
    c.matchActive id = some handoff ↔ c.active = some handoff ∧ handoff.id = id := by
  simp [matchActive, Option.filter_eq_some_iff]

/-- A handoff begins with the next epochs, and waits for its activation. It is active when
both hosts can take part in it. -/
structure Begins (c : Coordinator) (targetHost : HostId) (b : BeginHandoff) (c' : Coordinator) : Prop where
  other : targetHost ≠ c.currentToken.ownerHostId
  ownership : c'.nextOwnershipEpoch.toNat = c.nextOwnershipEpoch.toNat + 1
  handoff : c'.nextHandoffEpoch.toNat = c.nextHandoffEpoch.toNat + 1
  handoffId : b.handoffId = ⟨c.authoritySessionId, c'.nextHandoffEpoch⟩
  sourceToken : b.sourceToken = c.currentToken
  targetToken : b.targetToken = ⟨c.authoritySessionId, c'.nextOwnershipEpoch, targetHost⟩
  pending : c'.pendingOwnership = some ⟨b.handoffId, b.targetToken⟩
  rest : c' = { c with
    nextOwnershipEpoch := c'.nextOwnershipEpoch
    nextHandoffEpoch := c'.nextHandoffEpoch
    pendingOwnership := c'.pendingOwnership
    active := c'.active
    lastTerminal := c'.lastTerminal }
  outcome :
    (∃ sourceSession targetSession, c.enabled = true ∧
      c.processSessions.lookup c.currentToken.ownerHostId = some sourceSession ∧
      c.processSessions.lookup targetHost = some targetSession ∧
      c'.active = some ⟨b.handoffId, c.currentToken.ownerHostId, c.currentToken, sourceSession, targetHost,
        b.targetToken, targetSession, .capturing, none, none, false, false⟩ ∧
      b.commands = (c.cancel .canceled).1 ++
        [.prepareTarget b.handoffId b.targetToken targetSession,
          .captureSource b.handoffId c.currentToken sourceSession c.maxBytes] ∧
      c'.lastTerminal = (c.cancel .canceled).2.lastTerminal) ∨
    (c'.active = none ∧ b.commands = (c.cancel .canceled).1 ∧
      ∃ reason, c'.lastTerminal = some (b.handoffId, .error reason))

section Begins

variable {targetHost : HostId} {b : BeginHandoff} (begins : Begins c targetHost b c')
include begins

theorem Begins.session : c'.authoritySessionId = c.authoritySessionId := by rw [begins.rest]

theorem Begins.current : c'.currentToken = c.currentToken := by rw [begins.rest]

theorem Begins.nextOwnership_lt : c.nextOwnershipEpoch < c'.nextOwnershipEpoch := by
  rw [UInt64.lt_iff_toNat_lt, begins.ownership]
  exact Nat.lt_succ_self _

theorem Begins.nextHandoff_lt : c.nextHandoffEpoch < c'.nextHandoffEpoch := by
  rw [UInt64.lt_iff_toNat_lt, begins.handoff]
  exact Nat.lt_succ_self _

theorem Begins.active_eq {h : ActiveHandoff} (is : c'.active = some h) :
    h.id = b.handoffId ∧ h.targetToken = b.targetToken := by
  rcases begins.outcome with ⟨_, _, -, -, -, active, -, -⟩ | ⟨inactive, -, -⟩
  · obtain rfl := Option.some.inj (is.symm.trans active)
    exact ⟨rfl, rfl⟩
  · exact absurd (inactive.symm.trans is) nofun

end Begins

theorem beginHandoff_cases (c : Coordinator) (targetHost : HostId) :
    (∃ error, c.beginHandoff targetHost = (.error error, c)) ∨
      ∃ b c', c.beginHandoff targetHost = (.ok b, c') ∧ Begins c targetHost b c' := by
  unfold beginHandoff
  split
  · exact .inl ⟨_, rfl⟩
  rename_i other
  split
  · rename_i ownershipEpoch handoffEpoch nextOwnership nextHandoff
    have ownership := toNat_ofNat_succ nextOwnership
    have handoff := toNat_ofNat_succ nextHandoff
    simp only [cancel_eq]
    refine .inr ?_
    split
    · rename_i sourceSession targetSession enabled source target
      exact ⟨_, _, rfl, other, ownership, handoff, rfl, rfl, rfl, rfl, rfl,
        .inl ⟨sourceSession, targetSession, enabled, source, target, rfl, by rw [cancel_eq],
          by rw [cancel_eq]⟩⟩
    · exact ⟨_, _, rfl, other, ownership, handoff, rfl, rfl, rfl, rfl, rfl,
        .inr ⟨rfl, by rw [cancel_eq], _, rfl⟩⟩
  · exact .inl ⟨_, rfl⟩

end Lemmas

end Coordinator

inductive CoordinatorOp where
  | setProcessSession (host : HostId) (session : ProcessSessionId)
  | removeProcessSession (host : HostId)
  | setEnabled (enabled : Bool)
  | beginHandoff (targetHost : HostId)
  | targetPrepared (handoffId : HandoffId) (targetToken : OwnershipToken) (session : ProcessSessionId)
    (baseline : NativeGeneration)
  | sourceCaptured (handoffId : HandoffId) (sourceToken : OwnershipToken) (session : ProcessSessionId)
    (snapshot : SnapshotMetadata)
  | ownershipActivated (handoffId : HandoffId) (targetToken : OwnershipToken)
    (session : ProcessSessionId)
  | snapshotStaged (handoffId : HandoffId)
  | applied (handoffId : HandoffId) (snapshotId : SnapshotId)
  | skip (handoffId : HandoffId) (reason : ClipboardReason)
  | abort (handoffId : HandoffId)
  deriving DecidableEq, Repr

inductive CoordinatorReply where
  | done (commands : List CoordinatorCommand)
  | begun (b : BeginHandoff)
  | failed (error : CoordinatorError)
  deriving DecidableEq, Repr

namespace CoordinatorReply

def commands : CoordinatorReply → List CoordinatorCommand
  | .done commands => commands
  | .begun b => b.commands
  | .failed _ => []

def isDone : CoordinatorReply → Bool
  | .done _ => true
  | .begun _ | .failed _ => false

def begun? : CoordinatorReply → Option BeginHandoff
  | .begun b => some b
  | .done _ | .failed _ => none

def ofResult : Except CoordinatorError (List CoordinatorCommand) → CoordinatorReply
  | .ok commands => .done commands
  | .error error => .failed error

end CoordinatorReply

def Coordinator.perform (c : Coordinator) : CoordinatorOp → Coordinator × CoordinatorReply
  | .setProcessSession host session => let r := c.setProcessSession host session; (r.2, .done r.1)
  | .removeProcessSession host => let r := c.removeProcessSession host; (r.2, .done r.1)
  | .setEnabled enabled => let r := c.setEnabled enabled; (r.2, .done r.1)
  | .beginHandoff targetHost =>
    match c.beginHandoff targetHost with
    | (.ok b, c) => (c, .begun b)
    | (.error error, c) => (c, .failed error)
  | .targetPrepared handoffId targetToken session baseline =>
    let r := c.targetPrepared handoffId targetToken session baseline; (r.2, .ofResult r.1)
  | .sourceCaptured handoffId sourceToken session snapshot =>
    let r := c.sourceCaptured handoffId sourceToken session snapshot; (r.2, .ofResult r.1)
  | .ownershipActivated handoffId targetToken session =>
    let r := c.ownershipActivated handoffId targetToken session; (r.2, .ofResult r.1)
  | .snapshotStaged handoffId => let r := c.snapshotStaged handoffId; (r.2, .ofResult (r.1.map fun _ => []))
  | .applied handoffId snapshotId =>
    let r := c.applied handoffId snapshotId; (r.2, .ofResult (r.1.map fun _ => []))
  | .skip handoffId reason => let r := c.skip handoffId reason; (r.2, .ofResult (r.1.map fun _ => []))
  | .abort handoffId => let r := c.abort handoffId; (r.2, .ofResult r.1)

def CoordinatorOp.sets : CoordinatorOp → Bool
  | .setProcessSession _ _ | .removeProcessSession _ | .setEnabled _ => true
  | _ => false

namespace Coordinator

/-- All that a call can do. -/
inductive Performs (c : Coordinator) : CoordinatorOp → CoordinatorReply → Coordinator → Prop where
  | began {targetHost : HostId} {b : BeginHandoff} {c' : Coordinator} (begins : Begins c targetHost b c') :
    Performs c (.beginHandoff targetHost) (.begun b) c'
  | refused {op : CoordinatorOp} {error : CoordinatorError} (activates : ∀ id token session,
      op = .ownershipActivated id token session → c.pendingOwnership ≠ some ⟨id, token⟩)
    (aborts : ∀ id p, op = .abort id → c.pendingOwnership = some p → p.handoffId ≠ id) :
    Performs c op (.failed error) c
  | set {op : CoordinatorOp} (enabled : Bool) (processSessions : AList fun _ : HostId => ProcessSessionId)
    (sets : op.sets = true) : Performs c op (.done []) { c with enabled, processSessions }
  | cancelled {op : CoordinatorOp} (enabled : Bool)
    (processSessions : AList fun _ : HostId => ProcessSessionId) (reason : ClipboardReason)
    (sets : op.sets = true) : Performs c op (.done ({ c with enabled, processSessions }.cancel reason).1)
      ({ c with enabled, processSessions }.cancel reason).2
  | aborted {p : PendingOwnership} (waits : c.pendingOwnership = some p) :
    Performs c (.abort p.handoffId) (.done ({ c with pendingOwnership := none }.cancel .canceled).1)
      ({ c with pendingOwnership := none }.cancel .canceled).2
  | misled {id : HandoffId} {token : OwnershipToken} {session : ProcessSessionId} {h : ActiveHandoff}
    {error : CoordinatorError} (waits : c.pendingOwnership = some ⟨id, token⟩) (was : c.active = some h)
    (other : ¬(h.id = id ∧ h.targetToken = token ∧ h.targetProcessSessionId = session))
    (stale : error ≠ .identityExhausted) : Performs c (.ownershipActivated id token session) (.failed error)
      { c with pendingOwnership := none, currentToken := token }
  | adopted {id : HandoffId} {token : OwnershipToken} {session : ProcessSessionId}
    (waits : c.pendingOwnership = some ⟨id, token⟩) (free : c.active = none) :
    Performs c (.ownershipActivated id token session) (.done [])
      { c with pendingOwnership := none, currentToken := token }
  | activated {h h' : ActiveHandoff} (waits : c.pendingOwnership = some ⟨h.id, h.targetToken⟩)
    (was : c.active = some h) (is : h' = { h with targetActivated := true }) :
    Performs c (.ownershipActivated h.id h.targetToken h.targetProcessSessionId)
      (.done (.activateTarget h.id h.targetToken h.targetProcessSessionId :: h'.publishIfReady.2))
      { c with pendingOwnership := none, currentToken := h.targetToken, active := some h'.publishIfReady.1 }
  | prepared {h h' : ActiveHandoff} {baseline : NativeGeneration} (was : c.active = some h)
    (is : h' = { h with targetPreparation := some ⟨h.targetProcessSessionId, baseline⟩ }) :
    Performs c (.targetPrepared h.id h.targetToken h.targetProcessSessionId baseline)
      (.done h'.publishIfReady.2) { c with active := some h'.publishIfReady.1 }
  | captured {h h' : ActiveHandoff} {snapshot : SnapshotMetadata} (was : c.active = some h)
    (is : h' = { h with snapshot := some snapshot, phase := .ready }) :
    Performs c (.sourceCaptured h.id h.sourceToken h.sourceProcessSessionId snapshot)
      (.done h'.publishIfReady.2) { c with active := some h'.publishIfReady.1 }
  | staged {h : ActiveHandoff} (was : c.active = some h) : Performs c (.snapshotStaged h.id) (.done [])
      { c with active := some { h with phase := .staged } }
  | applied {h : ActiveHandoff} {snapshotId : SnapshotId} (was : c.active = some h) :
    Performs c (.applied h.id snapshotId) (.done [])
      { c with active := none, lastTerminal := some (h.id, .ok ()) }
  | skipped {h : ActiveHandoff} {reason : ClipboardReason} (was : c.active = some h) :
    Performs c (.skip h.id reason) (.done [])
      { c with active := none, lastTerminal := some (h.id, .error reason) }

def Performed (c : Coordinator) (op : CoordinatorOp) : Prop := Performs c op (c.perform op).2 (c.perform op).1

section Operations

variable (c : Coordinator) (id : HandoffId) (token : OwnershipToken) (session : ProcessSessionId)

theorem setProcessSession_performed (host : HostId) : c.Performed (.setProcessSession host session) := by
  simp only [Performed, perform, setProcessSession]
  split
  · exact .cancelled c.enabled _ _ rfl
  · exact .set c.enabled _ rfl

theorem removeProcessSession_performed (host : HostId) : c.Performed (.removeProcessSession host) := by
  simp only [Performed, perform, removeProcessSession]
  split
  · exact .set c.enabled c.processSessions rfl
  · split
    · exact .cancelled c.enabled _ _ rfl
    · exact .set c.enabled _ rfl

theorem setEnabled_performed (enabled : Bool) : c.Performed (.setEnabled enabled) := by
  simp only [Performed, perform, setEnabled]
  split
  · exact .set c.enabled c.processSessions rfl
  · split
    · exact .set enabled c.processSessions rfl
    · exact .cancelled enabled c.processSessions _ rfl

theorem beginHandoff_performed (targetHost : HostId) : c.Performed (.beginHandoff targetHost) := by
  unfold Performed
  rcases beginHandoff_cases c targetHost with ⟨error, refused⟩ | ⟨b, c', begun, begins⟩
  · simp only [perform, refused]
    exact .refused nofun nofun
  · simp only [perform, begun]
    exact .began begins

theorem targetPrepared_performed (baseline : NativeGeneration) :
    c.Performed (.targetPrepared id token session baseline) := by
  simp only [Performed, perform, targetPrepared]
  split
  · exact .refused nofun nofun
  rename_i h found
  obtain ⟨was, rfl⟩ := matchActive_eq_some.mp found
  split
  · exact .refused nofun nofun
  split
  · exact .refused nofun nofun
  rename_i own current
  obtain rfl := not_ne_iff.mp own
  obtain rfl := not_ne_iff.mp current
  exact .prepared was rfl

theorem sourceCaptured_performed (snapshot : SnapshotMetadata) :
    c.Performed (.sourceCaptured id token session snapshot) := by
  simp only [Performed, perform, sourceCaptured]
  split
  · exact .refused nofun nofun
  split
  · exact .refused nofun nofun
  rename_i h found
  obtain ⟨was, rfl⟩ := matchActive_eq_some.mp found
  split
  · exact .refused nofun nofun
  split
  · exact .refused nofun nofun
  rename_i own current
  obtain rfl := not_ne_iff.mp own
  obtain rfl := not_ne_iff.mp (not_or.mp current).1
  exact .captured was rfl

theorem ownershipActivated_performed : c.Performed (.ownershipActivated id token session) := by
  have elsewhere {error : CoordinatorError} (other : c.pendingOwnership ≠ some ⟨id, token⟩) :
      Performs c (.ownershipActivated id token session) (.failed error) c := by
    refine .refused ?_ nofun
    rintro _ _ _ ⟨⟩
    exact other
  simp only [Performed, perform, ownershipActivated]
  split
  · rename_i free
    exact elsewhere (by simp [free])
  rename_i p waits
  split
  · rename_i other
    exact elsewhere fun is => other (congrArg (·.handoffId) (Option.some.inj (waits.symm.trans is)))
  rename_i own
  split
  · rename_i other
    exact elsewhere fun is => other (congrArg (·.targetToken) (Option.some.inj (waits.symm.trans is)))
  rename_i current
  obtain rfl := not_ne_iff.mp own
  obtain rfl := not_ne_iff.mp current
  split
  · rename_i free
    exact .adopted waits free
  rename_i h was
  split
  · rename_i other
    exact .misled waits was (fun same => other same.1) nofun
  rename_i handoff
  split
  · rename_i other
    exact .misled waits was (fun same => other same.2.1) nofun
  rename_i token
  split
  · rename_i other
    exact .misled waits was (fun same => other same.2.2) nofun
  rename_i target
  have handoff := not_ne_iff.mp handoff
  have token := not_ne_iff.mp token
  obtain rfl := not_ne_iff.mp target
  rw [← handoff, ← token]
  exact .activated (by rw [waits, handoff, token]) was rfl

theorem snapshotStaged_performed : c.Performed (.snapshotStaged id) := by
  simp only [Performed, perform, snapshotStaged]
  split
  · exact .refused nofun nofun
  rename_i h found
  obtain ⟨was, rfl⟩ := matchActive_eq_some.mp found
  exact .staged was

theorem applied_performed (snapshotId : SnapshotId) : c.Performed (.applied id snapshotId) := by
  simp only [Performed, perform, applied]
  split
  · exact .refused nofun nofun
  rename_i h found
  obtain ⟨was, rfl⟩ := matchActive_eq_some.mp found
  split
  · exact .refused nofun nofun
  · exact .applied was

theorem skip_performed (reason : ClipboardReason) : c.Performed (.skip id reason) := by
  simp only [Performed, perform, skip]
  split
  · exact .refused nofun nofun
  rename_i h found
  obtain ⟨was, rfl⟩ := matchActive_eq_some.mp found
  exact .skipped was

theorem abort_performed : c.Performed (.abort id) := by
  simp only [Performed, perform, abort]
  split
  · rename_i free
    exact .refused nofun fun _ p _ is => absurd (free.symm.trans is) nofun
  rename_i p waits
  split
  · rename_i other
    refine .refused nofun ?_
    rintro _ p' ⟨⟩ is
    exact Option.some.inj (waits.symm.trans is) ▸ other
  rename_i own
  obtain rfl := not_ne_iff.mp own
  exact .aborted waits

end Operations

theorem perform_performs (c : Coordinator) (op : CoordinatorOp) :
    Performs c op (c.perform op).2 (c.perform op).1 := by
  cases op with
  | setProcessSession host session => exact c.setProcessSession_performed session host
  | removeProcessSession host => exact c.removeProcessSession_performed host
  | setEnabled enabled => exact c.setEnabled_performed enabled
  | beginHandoff targetHost => exact c.beginHandoff_performed targetHost
  | targetPrepared id token session baseline => exact c.targetPrepared_performed id token session baseline
  | sourceCaptured id token session snapshot => exact c.sourceCaptured_performed id token session snapshot
  | ownershipActivated id token session => exact c.ownershipActivated_performed id token session
  | snapshotStaged id => exact c.snapshotStaged_performed id
  | applied id snapshotId => exact c.applied_performed id snapshotId
  | skip id reason => exact c.skip_performed id reason
  | abort id => exact c.abort_performed id

end Coordinator

def coordinator : Machine Coordinator CoordinatorOp CoordinatorReply := ⟨fun c op => some (c.perform op)⟩

abbrev CoordinatorEntry := Entry Coordinator CoordinatorOp CoordinatorReply

end DisplayMux.Clipboard
