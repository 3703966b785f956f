import DisplayMux.Clipboard.Runtime

/-! What a cancellation takes away at a peer, beside what it should leave alone. -/
namespace DisplayMux.Clipboard

/-- What a peer hears of its handoffs: messages, and what its actor answers to a command. -/
inductive HandoffInput where
  | message (host : HostId) (message : WireMessage)
  | answer (command : ActorCommand) (event : ActorEvent)

/-- The event is answered from what is known of this handoff. -/
def ActorEvent.asks (id : HandoffId) : ActorEvent → Bool
  | .prepared handoffId _ _ _ => handoffId = id
  | .applied identity => identity.handoffId = id
  | .skipped handoffId _ | .backendUnavailable handoffId _ => handoffId = some id
  | _ => false

def HandoffInput.asks (id : HandoffId) : HandoffInput → Bool
  | .message _ (.snapshotDeliver payload) => payload.handoff.handoffId = id
  | .message _ _ => false
  | .answer _ event => event.asks id

def PeerPreparation.isOf (id : HandoffId) (x : PeerPreparation) : Prop := x.handoff.handoffId = id

namespace RuntimeCore

def hear (core : RuntimeCore) (links : Links) : HandoffInput → Turned
  | .message host message => core.handleWireMessage links host message
  | .answer command event => core.handleActorEvent links command event

def after (core : RuntimeCore) (inputs : List (Links × HandoffInput)) : RuntimeCore :=
  inputs.foldl (fun core i => (core.hear i.1 i.2).1) core

def preparation (core : RuntimeCore) : Option PeerPreparation :=
  match core.role with
  | .peer role => role.preparation
  | .authority _ | .unavailable => none

def following (core : RuntimeCore) (role : PeerRole) (preparation : Option PeerPreparation) : RuntimeCore :=
  { core with role := .peer { role with preparation } }

/-- Two peers that differ at most in what they have prepared for this handoff. -/
inductive Alike (id : HandoffId) : RuntimeCore → RuntimeCore → Prop where
  | same (core : RuntimeCore) : Alike id core core
  | apart (core : RuntimeCore) (role : PeerRole) (p q : Option PeerPreparation)
    (own : ∀ x ∈ p, x.isOf id) (own' : ∀ x ∈ q, x.isOf id) :
    Alike id (core.following role p) (core.following role q)

variable {id : HandoffId} {core core' : RuntimeCore} {links : Links} {role : PeerRole}
  {p q : Option PeerPreparation}

theorem filter_own (own : ∀ x ∈ p, x.isOf id) {other : HandoffId} (apart : decide (other = id) = false)
    {fits : PeerPreparation → Prop} [DecidablePred fits] :
    p.filter (fun x => x.handoff.handoffId = other ∧ fits x) = none := by
  refine Option.filter_eq_none_iff.mpr fun x held named => of_decide_eq_false apart ?_
  rw [← (of_decide_eq_true named).1]
  exact own x held

theorem actorPrepared_following (own : ∀ x ∈ p, x.isOf id) (handoffId : HandoffId)
    (token : OwnershipToken) (session : ProcessSessionId) (baseline : NativeGeneration) :
    ∃ p', ((core.following role p).actorPrepared links handoffId token session baseline).1 =
      core.following role p' ∧ ∀ x ∈ p', x.isOf id := by
  simp only [actorPrepared, following]
  split
  · rename_i x found
    refine ⟨_, rfl, ?_⟩
    rintro _ ⟨⟩
    exact own x (Option.filter_eq_some_iff.mp found).1
  · exact ⟨p, rfl, own⟩

theorem peerHandoff_following (own : ∀ x ∈ p, x.isOf id) {other : HandoffId} (apart : other ≠ id) :
    (core.following role p).peerHandoff other = (core.following role none).peerHandoff other := by
  have absent : (p.map (·.handoff)).filter (·.handoffId = other) = none := by
    refine Option.filter_eq_none_iff.mpr ?_
    intro handoff mapped named
    obtain ⟨x, held, rfl⟩ := Option.map_eq_some_iff.mp mapped
    exact apart ((of_decide_eq_true named).symm.trans (own x held))
  simp [peerHandoff, following, absent]

theorem actorSkipped_following (command : ActorCommand) (handoffId : Option HandoffId)
    (reason : ClipboardReason) :
    (core.following role p).actorSkipped links command handoffId reason = (core.following role p,
      handoffId.elim [] fun handoffId =>
        let known := (core.following role p).peerHandoff handoffId
        match command with
        | .prepareTarget _ _ => known.elim [] fun handoff =>
          (core.following role none).sendPrepareResult links handoff none (.skipped reason)
        | .stageSnapshot stage => known.elim [] fun handoff =>
          (core.following role none).sendApplyResult links handoff stage.snapshotId (.skipped reason)
        | _ => (core.following role none).sendToServerControl links (.protocolError reason)) := by
  cases handoffId with
  | none => rfl
  | some handoffId =>
    have peer : (core.following role p).isAuthority = false := rfl
    simp only [actorSkipped, peer, Bool.false_eq_true, if_false, Option.elim_some]
    cases command with
    | prepareTarget | stageSnapshot => cases (core.following role p).peerHandoff handoffId <;> rfl
    | _ => rfl

theorem actorApplied_following (identity : AppliedIdentity) :
    (core.following role p).actorApplied links identity = (core.following role p,
      ((core.following role p).peerHandoff identity.handoffId).elim [] fun handoff =>
        (core.following role none).sendApplyResult links handoff identity.snapshotId .completed) := by
  have peer : (core.following role p).isAuthority = false := rfl
  simp only [actorApplied, peer, Bool.false_eq_true, if_false]
  cases (core.following role p).peerHandoff identity.handoffId <;> rfl

theorem Alike.answers (core : RuntimeCore) (role : PeerRole) (own : ∀ x ∈ p, x.isOf id)
    (own' : ∀ x ∈ q, x.isOf id) (command : ActorCommand) (event : ActorEvent) :
    Alike id ((core.following role p).handleActorEvent links command event).1
        ((core.following role q).handleActorEvent links command event).1 ∧
      (event.asks id = false → ((core.following role q).handleActorEvent links command event).2 =
        ((core.following role p).handleActorEvent links command event).2) := by
  have kept := Alike.apart core role p q own own'
  cases event with
  | prepared handoffId token session baseline =>
    obtain ⟨p', is, owned⟩ := actorPrepared_following own handoffId token session baseline
    obtain ⟨q', is', owned'⟩ := actorPrepared_following own' handoffId token session baseline
    refine ⟨?_, fun apart => ?_⟩
    · rw [handleActorEvent, is, handleActorEvent, is']
      exact .apart core role p' q' owned owned'
    · simp only [handleActorEvent, actorPrepared, following, filter_own own apart, filter_own own' apart]
  | applied identity =>
    simp only [handleActorEvent, actorApplied_following]
    refine ⟨kept, fun apart => ?_⟩
    have apart := of_decide_eq_false apart
    rw [peerHandoff_following own apart, peerHandoff_following own' apart]
  | skipped handoffId reason | backendUnavailable handoffId reason =>
    simp only [handleActorEvent, actorSkipped_following]
    refine ⟨kept, fun apart => ?_⟩
    cases handoffId with
    | none => rfl
    | some handoffId =>
      have apart : handoffId ≠ id := fun same => of_decide_eq_false apart (congrArg some same)
      simp only [Option.elim_some, peerHandoff_following own apart, peerHandoff_following own' apart]
  | _ => exact ⟨kept, fun _ => rfl⟩

theorem Alike.hears (alike : Alike id core core') (input : HandoffInput) :
    Alike id (core.hear links input).1 (core'.hear links input).1 ∧
      (input.asks id = false → (core'.hear links input).2 = (core.hear links input).2) := by
  cases alike with
  | same => exact ⟨.same _, fun _ => rfl⟩
  | apart core role p q own own' =>
  have kept := Alike.apart core role p q own own'
  cases input with
  | answer command event => exact Alike.answers core role own own' command event
  | message host message =>
    cases message with
    | authorityState state =>
      simp only [hear, handleWireMessage, acceptAuthorityState, following]
      refine ⟨.apart core { role with authorityState := some state } _ _ ?_ ?_, fun _ => rfl⟩
      · split <;> first | exact own | simp
      · split <;> first | exact own' | simp
    | prepareTarget | cancelHandoff => exact ⟨.same _, fun _ => rfl⟩
    | ownershipActivated =>
      exact ⟨.apart core { role with authorityState := _ } _ _ own own', fun _ => rfl⟩
    | snapshotDeliver payload =>
      simp only [hear, handleWireMessage, stageDeliveredSnapshot, following]
      refine ⟨?_, fun apart => ?_⟩
      · split <;> split <;> exact kept
      · rw [filter_own own apart, filter_own own' apart]
        rfl
    | prepareResult result =>
      simp only [hear, handleWireMessage, targetPrepared, callCoordinator, skip, following]
      split <;> exact ⟨kept, fun _ => rfl⟩
    | applyResult result =>
      simp only [hear, handleWireMessage, completed, skip, following]
      split <;> exact ⟨kept, fun _ => rfl⟩
    | snapshotOffer | protocolError | clipboardHello => exact ⟨kept, fun _ => rfl⟩

theorem Alike.after (alike : Alike id core core') (inputs : List (Links × HandoffInput)) :
    Alike id (core.after inputs) (core'.after inputs) := by
  induction inputs generalizing core core' with
  | nil => exact alike
  | cons i inputs ih => exact ih (alike.hears i.2).1

theorem Alike.preparation (alike : Alike id core core') {x : PeerPreparation} (apart : ¬x.isOf id) :
    core'.preparation = some x ↔ core.preparation = some x := by
  cases alike with
  | same => rfl
  | apart core role p q own own' =>
    exact iff_of_false (fun held => apart (own' x held)) (fun held => apart (own x held))

end RuntimeCore

open RuntimeCore

/-- A peer goes on after the cancellation as it would have without it exactly when it has
prepared no other handoff: whatever it hears next, it has the same other handoffs prepared, and
it answers the same to all that is not asked of the cancelled one. The actor always does. -/
theorem cancellation_frames_handoffs {core : RuntimeCore} {role : PeerRole} (peer : core.role = .peer role)
    (id : HandoffId) (links : Links) (host : HostId) :
    (∀ {β : Type} (a : Actor β), (∀ x, x.handoffId ≠ id →
      ((a.cancelHandoff id).actor.preparation = some x ↔ a.preparation = some x)) ∧
      ∀ x, x.handoffId ≠ id → ((a.cancelHandoff id).actor.stage = some x ↔ a.stage = some x)) ∧
    ((∀ x ∈ role.preparation, x.handoff.handoffId = id) ↔ ∀ later : List (Links × HandoffInput),
      let kept := core.after later
      let cancelled := (core.handleWireMessage links host (.cancelHandoff id)).1.after later
      (∀ x : PeerPreparation, x.handoff.handoffId ≠ id →
        (cancelled.preparation = some x ↔ kept.preparation = some x)) ∧
        ∀ links (input : HandoffInput), input.asks id = false →
          (cancelled.hear links input).2 = (kept.hear links input).2) := by
  have cancels : (core.handleWireMessage links host (.cancelHandoff id)).1 = core.following role none := by
    simp only [handleWireMessage, cancelAsTold, peer, following]
  refine ⟨fun a => ⟨?_, ?_⟩, ?_, ?_⟩
  · intro x apart
    simp [Actor.cancelHandoff, Option.filter_eq_some_iff, apart]
  · intro x apart
    simp [Actor.cancelHandoff, Option.filter_eq_some_iff, apart]
  · intro own later
    have start : core.following role role.preparation = core := by simp only [following, ← peer]
    have alike := Alike.apart core role role.preparation none own (by simp)
    rw [start, ← cancels] at alike
    have alike := alike.after later
    exact ⟨fun x apart => alike.preparation apart, fun links input apart => (alike.hears input).2 apart⟩
  · intro frames x held
    -- what else is prepared is gone at once
    by_contra apart
    have gone := ((frames []).1 x apart).mpr (by simpa [after, RuntimeCore.preparation, peer] using held)
    simp [after, cancels, RuntimeCore.preparation, following] at gone

def handoffToMac (epoch : HandoffEpoch) : HandoffEnvelope :=
  ⟨⟨7, epoch⟩, ⟨7, 0, "server"⟩, 1, ⟨7, 1, "mac"⟩, 2⟩

def macPreparing (epoch : HandoffEpoch) : List (Links × HandoffInput) :=
  [(.free, .message "server" (.prepareTarget (handoffToMac epoch))),
    (.free, .answer (.prepareTarget ⟨7, epoch⟩ ⟨7, 1, "mac"⟩)
      (.prepared ⟨7, epoch⟩ ⟨7, 1, "mac"⟩ 2 5))]

def macStart : RuntimeCore := (RuntimeCore.peer ⟨true, 64⟩ "mac" "server" 2).installActor

def macDelivery : HandoffInput :=
  .message "server" (.snapshotDeliver ⟨handoffToMac 2, ⟨1, 5⟩, .text [104]⟩)

/-- The cancellation of the handoff that was prepared leaves the next one alone. -/
theorem cancellation_frames_next_handoff :
    (((macStart.after (macPreparing 1)).handleWireMessage .free "server" (.cancelHandoff ⟨7, 1⟩)).1.after
      (macPreparing 2)).preparation = some ⟨handoffToMac 2, some 5⟩ :=
  (((@cancellation_frames_handoffs (macStart.after (macPreparing 1)) _ rfl ⟨7, 1⟩ .free "server").2.mp
    (by decide) (macPreparing 2)).1 ⟨handoffToMac 2, some 5⟩ (by decide)).mpr (by decide)

/-- The cancellation of an old handoff comes late: the peer forgets the new one that it has
prepared, and drops its snapshot. -/
theorem late_cancellation_drops_snapshot :
    let prepared := macStart.after (macPreparing 2)
    let cancelled := (prepared.handleWireMessage .free "server" (.cancelHandoff ⟨7, 1⟩)).1
    prepared.preparation = some ⟨handoffToMac 2, some 5⟩ ∧ cancelled.preparation = none ∧
      (prepared.hear .free macDelivery).2 ≠ [] ∧ (cancelled.hear .free macDelivery).2 = [] := by
  decide

end DisplayMux.Clipboard
