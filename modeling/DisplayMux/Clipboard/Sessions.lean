import DisplayMux.Clipboard.Turn

/-! The process sessions that the coordinator knows, beside the connections of the runtime. -/
namespace DisplayMux.Clipboard

open RuntimeCore

inductive RuntimeInput where
  | transport (event : ClipboardTransportEvent)
  | hook (hook : ServiceHook)
  | actorEvent (command : ActorCommand) (event : ActorEvent)
  | actorPayload (payload : ActorPayload)
  | installed
  | lost

def RuntimeCore.turn (core : RuntimeCore) (links : Links) : RuntimeInput → Turned
  | .transport event => core.handleTransportEvent links event
  | .hook hook => core.handle links hook
  | .actorEvent command event => core.handleActorEvent links command event
  | .actorPayload payload => core.handleActorPayload links payload
  | .installed => (core.installActor, [])
  | .lost => (core.uninstallActor, [])

def runtime : Machine RuntimeCore (Links × RuntimeInput) (List Effect) :=
  ⟨fun core i => some (core.turn i.1 i.2)⟩

/-- The process session of a peer that can take part in handoffs. -/
def NegotiatedPeer.textSession (peer : NegotiatedPeer) : Option ProcessSessionId :=
  peer.effectiveMaxBytes.map fun _ => peer.processSessionId

/-- No connection without the text capability takes the place of one that has it. -/
def RuntimeInput.keepsText (core : RuntimeCore) : RuntimeInput → Bool
  | .transport (.connected peer) => peer.effectiveMaxBytes.isSome ||
      ((core.networkPeers.lookup peer.hostId).bind (·.textSession)).isNone
  | _ => true

namespace Coordinator

variable {c c' : Coordinator} {op : CoordinatorOp} {reply : CoordinatorReply}

@[simp]
theorem cancel_processSessions (reason : ClipboardReason) :
    (c.cancel reason).2.processSessions = c.processSessions := by
  rw [cancel_eq]

theorem Performs.sessions (performs : Performs c op reply c') (keeps : op.sets = false) :
    c'.processSessions = c.processSessions := by
  cases performs with
  | began begins => rw [begins.rest]
  | set _ _ sets | cancelled _ _ _ sets => simp [keeps] at sets
  | aborted => exact cancel_processSessions _
  | _ => rfl

theorem setProcessSession_processSessions (host : HostId) (session : ProcessSessionId) :
    (c.setProcessSession host session).2.processSessions = c.processSessions.insert host session := by
  simp only [setProcessSession]
  split
  · exact cancel_processSessions _
  · rfl

theorem removeProcessSession_lookup (host other : HostId) :
    (c.removeProcessSession host).2.processSessions.lookup other =
      (c.processSessions.erase host).lookup other := by
  simp only [removeProcessSession]
  split
  · rename_i unknown
    by_cases same : other = host
    · rw [same, unknown, AList.lookup_erase]
    · rw [AList.lookup_erase_ne same]
  split
  · rw [cancel_processSessions]
  · rfl

end Coordinator

/-- The coordinator's sessions of the remote hosts are those of the connections. -/
def SessionsMatch (server : HostId) (peers : AList fun _ : HostId => NegotiatedPeer)
    (sessions : AList fun _ : HostId => ProcessSessionId) : Prop :=
  ∀ host, host ≠ server → sessions.lookup host = (peers.lookup host).bind (·.textSession)

variable {server : HostId} {core : RuntimeCore} {c : Coordinator} {links : Links}

theorem SessionsMatch.calls {contact : Contact} {op : Option CoordinatorOp}
    (matched : SessionsMatch server core.networkPeers c.processSessions) (calls : contact.Calls op)
    (kept : ∀ peer, contact = .joined peer → peer.effectiveMaxBytes = none →
      (core.networkPeers.lookup peer.hostId).bind (·.textSession) = none) :
    SessionsMatch server (contact.peers core.networkPeers) (c.calls op).1.processSessions := by
  intro host remote
  have was := matched host remote
  cases contact with
  | settled =>
    cases op with
    | none => exact was
    | some op =>
      have same := (c.perform_performs op).sessions (calls op rfl)
      exact (congrArg (·.lookup host) same).trans was
  | joined peer =>
    by_cases same : host = peer.hostId
    · subst same
      rw [Contact.peers, AList.lookup_insert]
      cases text : peer.effectiveMaxBytes with
      | none =>
        rw [calls, text]
        exact (was.trans (kept peer rfl text)).trans (by simp [NegotiatedPeer.textSession, text])
      | some limit =>
        rw [calls, text]
        simp [Coordinator.calls, Coordinator.perform, Coordinator.setProcessSession_processSessions,
          NegotiatedPeer.textSession, text]
    · rw [Contact.peers, AList.lookup_insert_ne same, ← was, calls]
      split
      · simp [Coordinator.calls, Coordinator.perform, Coordinator.setProcessSession_processSessions,
          AList.lookup_insert_ne same]
      · rfl
  | left gone =>
    rw [calls]
    simp only [Coordinator.calls, Coordinator.perform, Coordinator.removeProcessSession_lookup, Contact.peers]
    by_cases same : host = gone
    · rw [same, AList.lookup_erase, AList.lookup_erase]
      rfl
    · rw [AList.lookup_erase_ne same, AList.lookup_erase_ne same, was]

/-- The runtime is the authority's, and knows its peers. -/
def Known (server : HostId) (core : RuntimeCore) : Prop :=
  ∃ c, core.role = .authority c ∧ SessionsMatch server core.networkPeers c.processSessions

theorem known_of_turns {plan : Plan} {turned : Turned} (turns : core.Turns links c plan turned)
    (matched : SessionsMatch server (plan.contact.peers core.networkPeers)
      (c.calls plan.op).1.processSessions) : Known server turned.1 := by
  obtain ⟨c', role, relaxed⟩ := turns.relaxed
  refine ⟨c', role, ?_⟩
  rw [turns.peers]
  cases relaxed <;> exact matched

theorem Known.uninstall (known : Known server core) : Known server core.uninstallActor := by
  obtain ⟨c, role, matched⟩ := known
  unfold uninstallActor
  simp only [role]
  split
  · rename_i handoff active
    refine ⟨_, rfl, ?_⟩
    have same := (c.perform_performs (.skip handoff.id .backendUnavailable)).sessions rfl
    simp only [Coordinator.perform] at same
    rwa [same]
  · exact ⟨c, rfl, matched⟩

theorem Known.step {input : RuntimeInput} (known : Known server core)
    (kept : input.keepsText core = true) : Known server (core.turn links input).1 := by
  obtain ⟨c, authority, matched⟩ := known
  have answered {brought : Option ClipboardData} {contact : Contact} {turned : Turned}
      (answers : core.Answers links c brought contact turned)
      (kept : ∀ peer, contact = .joined peer → peer.effectiveMaxBytes = none →
        (core.networkPeers.lookup peer.hostId).bind (·.textSession) = none) : Known server turned.1 := by
    obtain ⟨plan, mild, rfl, turns⟩ := answers
    exact known_of_turns turns (matched.calls mild.calls kept)
  cases input with
  | transport event =>
    cases event with
    | connected peer =>
      refine answered (connected_answers authority peer) ?_
      rintro _ ⟨⟩ textless
      simpa [RuntimeInput.keepsText, textless] using kept
    | disconnected host session connectionId =>
      refine answered (disconnected_answers authority host session connectionId) ?_
      intro peer joins
      split at joins <;> contradiction
    | message host session connectionId message =>
      simp only [turn, handleTransportEvent]
      split
      · cases fromPeer : message.fromPeer with
        | true => exact answered (handleWireMessage_answers authority host fromPeer) nofun
        | false =>
          have same : (core.handleWireMessage links host message).1 = core := by
            cases message <;> first | contradiction | simp only [handleWireMessage,
              acceptAuthorityState, prepareAsPeer, activateAsTold,
              stageDeliveredSnapshot, cancelAsTold, authority]
          rw [same]
          exact ⟨c, authority, matched⟩
      · exact ⟨c, authority, matched⟩
  | hook hook =>
    obtain ⟨plan, turns, -, -, settled, calls⟩ := @handle_hooked links core c authority hook
    refine known_of_turns turns (matched.calls calls ?_)
    simp [settled]
  | actorEvent command event =>
    exact answered (handleActorEvent_answers authority command event) nofun
  | actorPayload payload => exact answered (handleActorPayload_answers authority payload) nofun
  | installed => exact ⟨c, authority, matched⟩
  | lost => exact Known.uninstall ⟨c, authority, matched⟩

/-- The coordinator knows a process session of a remote host exactly if a connection of the host
with this session and with the text capability is held. -/
theorem sessions_match_peers {config : ClipboardConfig} {session : ProcessSessionId}
    {authoritySession : AuthoritySessionId}
    {trace : List (Entry RuntimeCore (Links × RuntimeInput) (List Effect))}
    (run : Run runtime (.authority config server session authoritySession) trace core)
    (kept : ∀ e ∈ trace, e.input.2.keepsText e.pre = true) :
    ∃ c, core.role = .authority c ∧ ∀ host, host ≠ server →
      ∀ session, c.processSessions.lookup host = some session ↔ ∃ peer,
        core.networkPeers.lookup host = some peer ∧ peer.processSessionId = session ∧
          peer.effectiveMaxBytes.isSome = true := by
  have known : Known server core := by
    refine run.invariant_where (C := fun e => e.input.2.keepsText e.pre = true) ?_ ?_ kept
    · refine ⟨_, rfl, fun host remote => ?_⟩
      have unknown : (AList.singleton (β := fun _ => ProcessSessionId) server session).lookup host = none :=
        AList.lookup_eq_none.mpr (by simpa [AList.mem_keys] using remote)
      simpa [authority, Coordinator.new] using unknown
    · intro e known step kept
      have is : (e.pre.turn e.input.1 e.input.2).1 = e.post := congrArg Prod.fst (Option.some.inj step)
      exact is ▸ known.step kept
  obtain ⟨c, role, matched⟩ := known
  refine ⟨c, role, fun host remote session => ?_⟩
  rw [matched host remote, Option.bind_eq_some_iff]
  simp [NegotiatedPeer.textSession, Option.map_eq_some_iff, Option.isSome_iff_exists, and_comm]

def textPeer (connectionId : ConnectionId) (text : Bool) : NegotiatedPeer :=
  ClipboardHello.negotiated ⟨"mac", 2, if text then clipboardTextV1 else 0, 64⟩ connectionId 64

/-- A peer connects twice, the first connection is reported lost after it was replaced. -/
theorem sessions_match_replaced_peer : ∃ trace core c,
    Run runtime (.authority ⟨true, 64⟩ "server" 1 7) trace core ∧ core.role = .authority c ∧
      core.networkPeers.lookup "mac" = some (textPeer 1 true) ∧
        c.processSessions.lookup "mac" = some 2 := by
  obtain ⟨trace, core, run, kept, held⟩ := runtime.exists_run (.authority ⟨true, 64⟩ "server" 1 7)
    [(.free, .transport (.connected (textPeer 0 true))), (.free, .transport (.connected (textPeer 1 true))),
      (.free, .transport (.disconnected "mac" 2 0))]
    (fun trace core => (∀ e ∈ trace, e.input.2.keepsText e.pre = true) ∧
      core.networkPeers.lookup "mac" = some (textPeer 1 true)) (by decide +kernel)
  obtain ⟨c, role, matched⟩ := sessions_match_peers run kept
  exact ⟨trace, core, c, run, role, held, (matched "mac" (by decide) 2).mpr ⟨_, held, rfl, rfl⟩⟩

/-- The second connection comes without the text capability; the coordinator still knows the
session of the first. -/
theorem textless_peer_keeps_session : ∃ trace core,
    Run runtime (.authority ⟨true, 64⟩ "server" 1 7) trace core ∧
      core.networkPeers.lookup "mac" = some (textPeer 1 false) ∧
      (textPeer 1 false).effectiveMaxBytes = none ∧
      core.coordinator.any (fun c => c.processSessions.lookup "mac" = some 2) = true :=
  runtime.exists_run (.authority ⟨true, 64⟩ "server" 1 7)
    [(.free, .transport (.connected (textPeer 0 true))), (.free, .transport (.connected (textPeer 1 false)))]
    _ (by decide +kernel)

end DisplayMux.Clipboard
