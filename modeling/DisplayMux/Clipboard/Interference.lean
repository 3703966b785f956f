import DisplayMux.Clipboard.Runtime

/-! What the messages of one peer do to a handoff between others. -/
namespace DisplayMux.Clipboard

open WireMessage RuntimeCore

/-- The message came to nothing: the coordinator, the payload that waits and the actor are left
alone. -/
structure Untouched (core : RuntimeCore) (after : Turned) : Prop where
  role : after.1.role = core.role
  pendingPayload : after.1.pendingPayload = core.pendingPayload
  actor : ∀ command, .actor command ∉ after.2

namespace WireMessage

def asSource (h : ActiveHandoff) : WireMessage → Bool
  | .snapshotOffer payload => payload.handoff = h.envelope
  | _ => false

def asTarget (h : ActiveHandoff) : WireMessage → Bool
  | .prepareResult result => result.handoffId = h.id
  | .applyResult result => result.handoffId = h.id
  | _ => false

/-- A peer that is not the target reports an end of the handoff, which is taken as one. -/
def forged (h : ActiveHandoff) (sender : HostId) : WireMessage → Bool
  | .prepareResult result =>
    result.handoffId = h.id ∧ sender ≠ h.targetToken.ownerHostId ∧ result.result ≠ .completed
  | .applyResult result =>
    result.handoffId = h.id ∧ sender ≠ h.targetToken.ownerHostId ∧
      (result.result = .completed →
        h.targetActivated = true ∧ h.snapshot.map (·.snapshotId) = some result.snapshotId)
  | _ => false

end WireMessage

/-- A peer does nothing to the handoff, or what its source or its target may do. -/
def Fenced (links : Links) (core : RuntimeCore) (h : ActiveHandoff) (peer : NegotiatedPeer)
    (message : WireMessage) : Prop :=
  Untouched core (core.handleTransportEvent links
      (.message peer.hostId peer.processSessionId peer.connectionId message)) ∨
    (peer.hostId = h.sourceToken.ownerHostId ∧ message.asSource h = true) ∨
    (peer.hostId = h.targetToken.ownerHostId ∧ message.asTarget h = true)

section Authority

variable {links : Links} {core : RuntimeCore} {c : Coordinator} {h : ActiveHandoff} {peer : NegotiatedPeer}
  {message : WireMessage}

theorem untouched_refl : Untouched core (core, []) := ⟨rfl, rfl, by simp⟩

section

variable (authority : core.role = .authority c)
include authority

theorem activeEnvelope_eq (active : c.active = some h) (id : HandoffId) :
    core.activeEnvelope id = if h.id = id then some h.envelope else none := by
  simp only [RuntimeCore.activeEnvelope, RuntimeCore.active, RuntimeCore.coordinator, authority,
    Option.bind_some,
    active]
  split <;> simp_all [Option.filter]

theorem skip_untouched (active : c.active = some h) (id : HandoffId)
    (reason : ClipboardReason) : Untouched core (core.skip id reason, []) ↔ id ≠ h.id := by
  by_cases own : h.id = id
  · refine ⟨fun untouched => ?_, fun other => absurd own.symm other⟩
    have role := untouched.role
    have found : c.matchActive id = some h := Coordinator.matchActive_eq_some.mpr ⟨active, own⟩
    simp only [skip, authority, Coordinator.skip, found, RuntimeRole.authority.injEq] at role
    exact absurd (congrArg Coordinator.active role) (by simp [active])
  · refine ⟨fun _ same => own same.symm, fun _ => ?_⟩
    have missing : c.matchActive id = none := by simp [Coordinator.matchActive, active, Option.filter, own]
    simp only [skip, authority, Coordinator.skip, missing]
    exact ⟨authority.symm, rfl, by simp⟩

theorem withCoordinator_untouched (c' : Coordinator) :
    Untouched core (core.withCoordinator c', []) ↔ c' = c := by
  refine ⟨fun untouched => ?_, fun same => ⟨?_, rfl, by simp⟩⟩
  · have role := untouched.role
    rw [authority] at role
    exact RuntimeRole.authority.inj role
  · rw [same, authority]
    rfl

theorem completed_untouched (active : c.active = some h) (id : HandoffId)
    (snapshotId : SnapshotId) : Untouched core (core.completed id snapshotId, []) ↔
      ¬(id = h.id ∧ h.targetActivated = true ∧ h.snapshot.map (·.snapshotId) = some snapshotId) := by
  have run : core.completed id snapshotId = core.withCoordinator (c.applied id snapshotId).2 := by
    simp only [completed, authority]
  rw [run, withCoordinator_untouched authority]
  by_cases own : h.id = id
  · have found : c.matchActive id = some h := Coordinator.matchActive_eq_some.mpr ⟨active, own⟩
    simp only [Coordinator.applied, found]
    split
    · rename_i refused
      simp only [Bool.or_eq_true, Bool.not_eq_true', decide_eq_true_eq] at refused
      refine ⟨fun _ taken => ?_, fun _ => rfl⟩
      rcases refused with inactive | other
      · simp [inactive] at taken
      · exact other taken.2.2
    rename_i taken
    simp only [Bool.or_eq_true, Bool.not_eq_true', decide_eq_true_eq, not_or, Bool.not_eq_false, ne_eq,
      not_not] at taken
    refine ⟨fun same => ?_, fun refused => absurd ⟨own.symm, taken⟩ refused⟩
    exact absurd (congrArg Coordinator.active same) (by simp [active])
  · have missing : c.matchActive id = none := by simp [Coordinator.matchActive, active, Option.filter, own]
    simp only [Coordinator.applied, missing, true_iff]
    exact fun taken => own taken.1.symm

theorem targetPrepared_untouched (active : c.active = some h)
    {id : HandoffId} {token : OwnershipToken} (other : ¬(h.id = id ∧ h.targetToken = token))
    (session : ProcessSessionId) (baseline : NativeGeneration) :
    Untouched core (core.targetPrepared links id token session baseline) := by
  have refused : ∃ error, c.targetPrepared id token session baseline = (.error error, c) := by
    by_cases own : h.id = id
    · have found : c.matchActive id = some h := Coordinator.matchActive_eq_some.mpr ⟨active, own⟩
      have stale : h.targetToken ≠ token := fun same => other ⟨own, same⟩
      exact ⟨.staleOwnerToken, by simp only [Coordinator.targetPrepared, found, if_pos stale]⟩
    · have missing : c.matchActive id = none := by simp [Coordinator.matchActive, active, Option.filter, own]
      exact ⟨.staleHandoff, by simp only [Coordinator.targetPrepared, missing]⟩
  obtain ⟨error, refused⟩ := refused
  simp only [targetPrepared, callCoordinator, authority, refused]
  exact (withCoordinator_untouched authority c).mpr rfl

end

theorem snapshotOffer_fenced (links : Links) (peer : NegotiatedPeer) (authority : core.role = .authority c)
    (active : c.active = some h) (payload : ClipboardPayload) :
    Untouched core (core.handleWireMessage links peer.hostId (.snapshotOffer payload)) ∨
      (peer.hostId = h.sourceToken.ownerHostId ∧ payload.handoff = h.envelope) := by
  simp only [handleWireMessage, acceptSnapshotOffer]
  split
  · exact .inl untouched_refl
  rename_i fits
  simp only [Bool.or_eq_true, not_or, decide_eq_true_eq, not_not, ne_eq,
    activeEnvelope_eq authority active] at fits
  obtain ⟨⟨-, own⟩, envelope⟩ := fits
  split at envelope
  · have same := Option.some.inj envelope
    refine .inr ⟨?_, same.symm⟩
    rw [← own, ← same]
    rfl
  · contradiction

theorem prepareResult_fenced (authority : core.role = .authority c) (active : c.active = some h)
    (result : PrepareResult) (sender : result.targetToken.ownerHostId = peer.hostId) :
    Untouched core (core.handleWireMessage links peer.hostId (.prepareResult result)) ∨
        (peer.hostId = h.targetToken.ownerHostId ∧ result.handoffId = h.id) ↔
      ¬(result.handoffId = h.id ∧ peer.hostId ≠ h.targetToken.ownerHostId ∧ result.result ≠ .completed) := by
  simp only [handleWireMessage]
  cases outcome : result.result with
  | completed =>
    simp only [ne_eq, not_true_eq_false, and_false, not_false_eq_true, iff_true]
    cases result.baselineGeneration with
    | none => exact .inl untouched_refl
    | some generation =>
      by_cases own : h.id = result.handoffId ∧ h.targetToken = result.targetToken
      · exact .inr ⟨by rw [own.2, sender], own.1.symm⟩
      · exact .inl (targetPrepared_untouched authority active own _ _)
  | skipped reason =>
    rw [skip_untouched authority active]
    tauto

theorem applyResult_fenced (authority : core.role = .authority c) (active : c.active = some h)
    (result : ApplyResult) :
    Untouched core (core.handleWireMessage links peer.hostId (.applyResult result)) ∨
        (peer.hostId = h.targetToken.ownerHostId ∧ result.handoffId = h.id) ↔
      ¬(result.handoffId = h.id ∧ peer.hostId ≠ h.targetToken.ownerHostId ∧
        (result.result = .completed →
          h.targetActivated = true ∧ h.snapshot.map (·.snapshotId) = some result.snapshotId)) := by
  simp only [handleWireMessage]
  cases outcome : result.result with
  | completed =>
    rw [completed_untouched authority active]
    tauto
  | skipped reason =>
    rw [skip_untouched authority active]
    tauto

/-- A message that the connection lets through is fenced, unless it is a forged end of the
handoff. -/
theorem peers_fenced_iff (authority : core.role = .authority c) (active : c.active = some h)
    (localHost : HostId) (accepted : metadataValidator (.authority c.authoritySessionId) peer localHost
      core.processSessionId message.metadata = .ok ()) :
    Fenced links core h peer message ↔
      ¬(core.knows peer.hostId peer.processSessionId peer.connectionId = true ∧
        message.forged h peer.hostId = true) := by
  unfold Fenced
  simp only [handleTransportEvent]
  by_cases known : core.knows peer.hostId peer.processSessionId peer.connectionId = true
  · simp only [known, if_true, true_and]
    cases message with
    | snapshotOffer payload =>
      have fenced := snapshotOffer_fenced links peer authority active payload
      simpa [asSource, asTarget, forged] using fenced
    | prepareResult result =>
      have valid : (peer.fence c.authoritySessionId).validateTargetMetadata _ = .ok () := accepted
      have sender : result.targetToken.ownerHostId = peer.hostId :=
        Option.some.inj (PeerFence.validateEnd_ok valid).1
      simpa [asSource, asTarget, forged]
        using prepareResult_fenced authority active result sender
    | applyResult result =>
      simpa [asSource, asTarget, forged]
        using applyResult_fenced authority active result
    | protocolError reason =>
      simp [forged, handleWireMessage, untouched_refl]
    | authorityState | clipboardHello | prepareTarget | ownershipActivated | snapshotDeliver |
      cancelHandoff =>
      exact absurd (fromPeer_of_valid accepted) (by simp [fromPeer])
  · simp [known, untouched_refl]

theorem active_eq_some (active : core.active = some h) :
    ∃ c, core.role = .authority c ∧ core.coordinator = some c ∧ c.active = some h := by
  obtain ⟨c, own, active⟩ := Option.bind_eq_some_iff.mp active
  exact ⟨c, coordinator_eq_some.mp own, own, active⟩

end Authority

def handingOver : RuntimeCore :=
  let core := (authority ⟨true, 64⟩ "server" 1 7).installActor
  let core := (core.connected .free ⟨1, "mac", 2, some 64⟩).1
  let core := (core.connected .free ⟨2, "linux", 3, some 64⟩).1
  (core.begin .free (.outgoing 1) "mac").1

def handedOver : ActiveHandoff :=
  ⟨⟨7, 1⟩, "server", ⟨7, 0, "server"⟩, 1, "mac", ⟨7, 1, "mac"⟩, 2, .capturing, none, none,
    false, false⟩

theorem handingOver_active :
    ∃ c, handingOver.role = .authority c ∧ c.authoritySessionId = 7 ∧ c.active = some handedOver := by
  obtain ⟨c, authority, own, active⟩ :=
    active_eq_some (show handingOver.active = some handedOver by decide +kernel)
  have session : handingOver.coordinator.map (·.authoritySessionId) = some 7 := by decide +kernel
  rw [own] at session
  exact ⟨c, authority, Option.some.inj session, active⟩

/-- A third peer reports that it is prepared for the handoff, which comes to nothing. -/
theorem third_peer_fenced : handedOver.sourceHost ≠ "linux" ∧ handedOver.targetHost ≠ "linux" ∧
    Fenced .free handingOver handedOver ⟨2, "linux", 3, some 64⟩
      (.prepareResult ⟨⟨7, 1⟩, ⟨7, 0, "linux"⟩, 3, some 5, .completed⟩) := by
  obtain ⟨c, authority, session, active⟩ := handingOver_active
  refine ⟨by decide, by decide, (peers_fenced_iff authority active "server" ?_).mpr (by decide +kernel)⟩
  rw [session]
  decide +kernel

/-- A third peer ends the handoff with a refusal under a token of its own. -/
theorem third_peer_ends_handoff : ∃ c, handingOver.role = .authority c ∧ c.active = some handedOver ∧
    handedOver.sourceHost ≠ "linux" ∧ handedOver.targetHost ≠ "linux" ∧
    metadataValidator (.authority c.authoritySessionId) ⟨2, "linux", 3, some 64⟩ "server"
      handingOver.processSessionId (prepareResult
        ⟨⟨7, 1⟩, ⟨7, 0, "linux"⟩, 3, none, .skipped .canceled⟩).metadata = .ok () ∧
    ¬Fenced .free handingOver handedOver ⟨2, "linux", 3, some 64⟩
      (.prepareResult ⟨⟨7, 1⟩, ⟨7, 0, "linux"⟩, 3, none, .skipped .canceled⟩) := by
  obtain ⟨c, authority, session, active⟩ := handingOver_active
  refine ⟨c, authority, active, by decide, by decide, by rw [session]; decide +kernel, ?_⟩
  rintro (untouched | ⟨source, -⟩ | ⟨target, -⟩)
  · have kept : (handingOver.handleTransportEvent .free (.message "linux" 3 2 (.prepareResult
        ⟨⟨7, 1⟩, ⟨7, 0, "linux"⟩, 3, none,
          .skipped .canceled⟩))).1.active = handingOver.active := by
      simp only [RuntimeCore.active, RuntimeCore.coordinator, untouched.role]
    exact absurd kept (by decide +kernel)
  · exact absurd source (by decide)
  · exact absurd target (by decide)

end DisplayMux.Clipboard
