import DisplayMux.Clipboard.Authority

/-! How large a payload can be that the authority hands to the connection of a peer. -/
namespace DisplayMux.Clipboard

open AuthorityHost

section Encode

open HeaderWriter

theorem token_error {t : OwnershipToken} {error : FrameError} (failed : token t = .error error) :
    error = .invalidHostId := by
  simp only [token, bind_error] at failed
  rcases failed with failed | ⟨bytes, -, failed⟩
  · unfold host at failed
    dsimp only at failed
    split at failed
    · exact (Except.error.inj failed).symm
    · contradiction
  · contradiction

theorem envelope_error {e : HandoffEnvelope} {error : FrameError} (failed : envelope e = .error error) :
    error = .invalidHostId := by
  simp only [envelope, bind_error] at failed
  rcases failed with failed | ⟨source, -, failed | ⟨target, -, failed⟩⟩
  · exact token_error failed
  · exact token_error failed
  · contradiction

theorem encodeMessage_fits (hash : Hash) {payload : ClipboardPayload} {limit : UInt64}
    (fits : payload.data.len ≤ limit.toNat) :
    encodeMessage hash (.snapshotDeliver payload) limit ≠ .error .payloadTooLarge := by
  intro failed
  simp only [encodeMessage, encodeHeader, encodeSnapshot, bind_error] at failed
  rcases failed with (failed | ⟨envelope, -, failed | ⟨⟨kind, bytes⟩, data, failed⟩⟩) |
    ⟨⟨header, payload⟩, -, failed⟩
  · exact absurd (envelope_error failed) (by simp)
  · unfold encodeData at failed
    split at failed
    · split at failed <;> cases failed
    · cases failed
    · cases failed
  · have length : bytes.length = payload.data.len := by
      unfold encodeData at data
      cases held : payload.data with
      | text bytes' =>
        simp only [held] at data
        split at data <;> cases data
        rfl
      | empty =>
        simp only [held] at data
        cases data
        rfl
      | unavailable reason =>
        simp only [held] at data
        cases data
    dsimp only at failed
    rw [if_neg (by omega)] at failed
    contradiction
  · split at failed <;> cases failed

end Encode

section Sized

variable {max : UInt64} {core : RuntimeCore} {c : Coordinator}

def ActorCommand.Modest (max : UInt64) : ActorCommand → Prop
  | .captureSource _ _ maxBytes | .captureProvisional _ maxBytes => maxBytes ≤ max.toNat
  | .synchronizeAuthority _ | .observeGeneration | .prepareTarget _ _ | .bindProvisional _ _
  | .publishSnapshot _ _ | .activateTarget _ _ | .stageSnapshot _ | .cancelHandoff _ | .shutdown => True

theorem calls_captures {op : Option CoordinatorOp} {id : HandoffId} {token : OwnershipToken}
    {session : ProcessSessionId} {maxBytes : UInt64}
    (issued : .captureSource id token session maxBytes ∈ (c.calls op).2) : maxBytes = c.maxBytes := by
  cases op with
  | none => simp [Coordinator.calls] at issued
  | some op =>
    have canceled (c : Coordinator) (reason : ClipboardReason) :
        .captureSource id token session maxBytes ∉ (c.cancel reason).1 := by simp [Coordinator.cancel_eq]
    have published (h : ActiveHandoff) : .captureSource id token session maxBytes ∉ h.publishIfReady.2 := by
      rcases h.publishIfReady_cases with ⟨same, -⟩ | ⟨_, _, -, -, -, same⟩ <;> simp [same]
    simp only [Coordinator.calls] at issued
    have performs := c.perform_performs op
    generalize c.perform op = r at issued performs
    obtain ⟨c', reply⟩ := r
    cases performs with
    | began begins =>
      simp only [CoordinatorReply.commands] at issued
      rcases begins.outcome with ⟨_, _, -, -, -, -, commands, -⟩ | ⟨-, commands, -⟩
      · simp only [commands, List.mem_append, canceled, List.mem_cons,
          List.not_mem_nil, or_false, false_or, CoordinatorCommand.captureSource.injEq, reduceCtorEq] at issued
        exact issued.2.2.2
      · exact absurd (commands ▸ issued) (canceled _ _)
    | cancelled | aborted => exact absurd issued (canceled _ _)
    | activated => simp [CoordinatorReply.commands, published] at issued
    | prepared | captured => exact absurd issued (published _)
    | _ => contradiction

theorem commands_modest {links : Links} {plan : Plan} {turned : Turned}
    (turns : core.Turns links c plan turned) : ∀ k ∈ commandsOf turned.2, k.Modest c.maxBytes := by
  intro k member
  cases steers : k.steers with
  | false => cases k <;> trivial
  | true =>
    have order : k ∈ ordersOf turned.2 := List.mem_filter.mpr ⟨member, steers⟩
    obtain ⟨command, issued, order⟩ := List.mem_flatMap.mp (turns.carries.only.subset order)
    cases command with
    | captureSource id token session maxBytes =>
      simp only [CoordinatorCommand.orders] at order
      split at order
      · obtain rfl := List.mem_singleton.mp order
        rw [calls_captures issued]
        exact Nat.le_refl _
      · contradiction
    | prepareTarget | activateTarget =>
      simp only [CoordinatorCommand.orders] at order
      split at order
      · obtain rfl := List.mem_singleton.mp order
        trivial
      · contradiction
    | cancelHandoff id =>
      obtain rfl := List.mem_singleton.mp order
      trivial
    | publishSnapshot id snapshotId => contradiction

/-- Nothing that is on its way out of the authority's host is larger than its own limit, and
no peer has a smaller one. -/
structure SizedCore (max : UInt64) (core : RuntimeCore) : Prop where
  authority : ∃ c, core.role = .authority c ∧ c.maxBytes = max
  limit : core.maxBytes = max
  waiting : ∀ p, core.pendingPayload = some p → p.data.len ≤ max.toNat
  peers : ∀ host peer, core.networkPeers.lookup host = some peer → peer.maxPayloadBytes max = max

def Delivered (max : UInt64) (effects : List Effect) : Prop :=
  ∀ peer message, .payload peer message ∈ effects → ∃ p, message = .snapshotDeliver p ∧
    p.data.len ≤ (peer.maxPayloadBytes max).toNat

theorem SizedCore.turns {links : Links} {plan : Plan} {turned : Turned}
    (sized : SizedCore max core) (authority : core.role = .authority c)
      (turns : core.Turns links c plan turned)
    (waiting : ∀ p, plan.waiting = some p → p.data.len ≤ max.toNat)
    (given : ∀ p, plan.given = some p → p.data.len ≤ max.toNat)
    (joined : ∀ peer, plan.contact = .joined peer → peer.maxPayloadBytes max = max) :
    SizedCore max turned.1 ∧ Delivered max turned.2 ∧ ∀ k ∈ commandsOf turned.2, k.Modest max := by
  obtain ⟨c', is, bound⟩ := sized.authority
  obtain rfl : c' = c := RuntimeRole.authority.inj (is.symm.trans authority)
  refine ⟨⟨?_, turns.maxBytes.trans sized.limit, ?_, ?_⟩, ?_, bound ▸ commands_modest turns⟩
  · obtain ⟨c'', authority', relaxed⟩ := turns.relaxed
    refine ⟨c'', authority', ?_⟩
    have calls : (c'.calls plan.op).1.maxBytes = c'.maxBytes := by
      cases plan.op with
      | none => rfl
      | some op => exact c'.perform_maxBytes op
    rw [← bound, ← calls]
    cases relaxed <;> rfl
  · intro p waits
    rcases turns.waiting with same | gone
    · exact waiting p (same ▸ waits)
    · exact absurd (gone ▸ waits) nofun
  · intro host peer found
    rw [turns.peers] at found
    rcases Contact.lookup_peers found with known | joins
    · exact sized.peers host peer known
    · exact joined peer joins
  intro peer message sent
  have delivery : (peer, message) ∈ deliveriesOf turned.2 := List.mem_filterMap.mpr ⟨_, sent, rfl⟩
  obtain ⟨p, host, gives, is, known⟩ := turns.delivers _ delivery
  refine ⟨p, is, ?_⟩
  rw [sized.peers host peer known]
  exact given p gives

theorem SizedCore.uninstall (sized : SizedCore max core) :
    SizedCore max core.uninstallActor := by
  obtain ⟨c, authority, bound⟩ := sized.authority
  unfold RuntimeCore.uninstallActor
  simp only [authority]
  split
  · rename_i handoff active
    exact ⟨⟨_, rfl, (c.perform_maxBytes (.skip handoff.id .backendUnavailable)).trans bound⟩,
      sized.limit, nofun,
      sized.peers⟩
  · exact ⟨⟨c, rfl, bound⟩, sized.limit, nofun, sized.peers⟩

section Actor

variable {β : Type}

def StoredSnapshot.Modest (max : UInt64) (snapshot : StoredSnapshot) : Prop :=
  snapshot.data.data.len ≤ max.toNat

variable [ClipboardBackend β] {a : Actor β} {command : ActorCommand}

theorem handle_modest (modest : command.Modest max) (held : ∀ snapshot, a.sourceSnapshot = some snapshot →
      snapshot.Modest max) (slot : TrySend) :
    (∀ snapshot, (a.handle slot command).actor.sourceSnapshot = some snapshot → snapshot.Modest max) ∧
      ∀ p ∈ (a.handle slot command).acts.filterMap (·.payload?), p.data.len ≤ max.toNat := by
  generalize answered : a.handle slot command = r
  have move := a.handle_sourceMove slot command
  rw [answered] at move
  have left {side : SourceSide} (source : r.actor.source = side) {snapshot : StoredSnapshot}
      (is : r.actor.sourceSnapshot = some snapshot) :=
    (congrArg SourceSide.sourceSnapshot source).symm.trans is
  cases move with
  | kept unconcerned silent source =>
    exact ⟨fun snapshot is => held snapshot (left source is), by simp [silent]⟩
  | dropped silent source =>
    refine ⟨fun snapshot is => ?_, by simp [silent]⟩
    exact absurd (left source is) nofun
  | captured id maxBytes data sequence call event valid stable next silent source =>
    refine ⟨fun snapshot is => ?_, by simp [silent]⟩
    obtain rfl := Option.some.inj (left source is)
    have limit : maxBytes ≤ max.toNat := by
      rw [call] at modest
      cases id <;> exact modest
    exact Nat.le_trans (Actor.checkCaptured_ok valid).2.2 limit
  | bound id snapshot was free call event silent source =>
    refine ⟨fun snapshot' is => ?_, by simp [silent]⟩
    obtain rfl := Option.some.inj (left source is)
    exact held snapshot was
  | sent id snapshot was own call gives source =>
    refine ⟨fun snapshot' is => ?_, fun p member => ?_⟩
    · exact absurd (left source is) nofun
    · obtain rfl := List.mem_singleton.mp (gives ▸ member)
      exact held snapshot was

end Actor

section Runs

variable {β : Type} {s s' : AuthorityHost β} {i : HostInput β} {o : HostOutput}

structure Sized (max : UInt64) (s : AuthorityHost β) : Prop where
  core : SizedCore max s.core
  queue : ∀ k ∈ s.queue, k.Modest max
  held : ∀ t, s.thread = some t → ∀ snapshot, t.actor.sourceSnapshot = some snapshot → snapshot.Modest max
  slot : ∀ p, s.slot = some p → p.data.len ≤ max.toNat

/-- A peer that joins can receive all that this host may send. -/
def HostEntry.generous (e : HostEntry β) : Bool :=
  match e.input with
  | .connected _ _ hello => !hello.supportsTextV1 || e.pre.core.maxBytes ≤ hello.maxReceiveBytes
  | _ => true

theorem negotiated_generous {hello : ClipboardHello} (connectionId : ConnectionId)
    (generous : hello.supportsTextV1 = true → max ≤ hello.maxReceiveBytes) :
    (hello.negotiated connectionId max).maxPayloadBytes max = max := by
  unfold ClipboardHello.negotiated NegotiatedPeer.maxPayloadBytes
  split
  · rename_i text
    exact if_pos (generous text)
  · rfl

theorem sized_start (config : ClipboardConfig) (server : HostId) (session : ProcessSessionId)
    (authoritySession : AuthoritySessionId) :
    Sized config.maxBytes (start (β := β) config server session authoritySession) where
  core := ⟨⟨_, rfl, rfl⟩, rfl, nofun, by simp [start, RuntimeCore.authority]⟩
  queue := by simp [start]
  held := by simp [start]
  slot := by simp [start]

variable [ClipboardBackend β]

theorem Sized.step (sized : Sized max s) (step : s.step i = some (s', o))
    (generous : HostEntry.generous ⟨s, i, o, s'⟩ = true) : Sized max s' ∧ Delivered max o.effects := by
  obtain ⟨c, authority, bound⟩ := sized.core.authority
  have grown {effects : List Effect} (modest : ∀ k ∈ commandsOf effects, k.Modest max) :
      ∀ k ∈ s.queue ++ commandsOf effects, k.Modest max := by
    intro k member
    rcases List.mem_append.mp member with old | new
    · exact sized.queue k old
    · exact modest k new
  have silent : Delivered max [] := by simp [Delivered]
  cases step_moves authority step with
  | hooked links hook call is =>
    obtain ⟨rfl, rfl⟩ := Prod.mk.inj is
    obtain ⟨plan, turns, waiting, given, settled, -⟩ :=
      @RuntimeCore.handle_hooked links s.core c authority hook
    obtain ⟨core, delivered, modest⟩ := sized.core.turns authority turns
      (fun p is => sized.core.waiting p (waiting ▸ is)) (fun p is => sized.core.waiting p (given p is))
      (fun peer is => absurd (settled ▸ is) nofun)
    exact ⟨⟨core, grown modest, sized.held, sized.slot⟩, delivered⟩
  | answered links brought contact turned linked answers brings joins is slot output =>
    obtain ⟨plan, mild, joins', turns⟩ := answers
    have waiting (p : ClipboardPayload) (waits : plan.waiting = some p) : p.data.len ≤ max.toNat := by
      rcases mild.waiting p waits with old | fits
      · exact sized.core.waiting p old
      · exact bound ▸ fits
    have given (p : ClipboardPayload) (gives : plan.given = some p) : p.data.len ≤ max.toNat := by
      rcases mild.given p gives with old | fits | own
      · exact sized.core.waiting p old
      · exact bound ▸ fits
      · obtain ⟨payload, waits, same⟩ := Option.map_eq_some_iff.mp (brings _ own)
        exact same ▸ sized.slot payload waits
    have joining (peer : NegotiatedPeer) (comes : plan.contact = .joined peer) :
      peer.maxPayloadBytes max = max := by
      obtain ⟨connectionId, hello, rfl, rfl⟩ := joins peer (joins' ▸ comes)
      simp only [HostEntry.generous, sized.core.limit, Bool.or_eq_true, Bool.not_eq_true', decide_eq_true_eq]
        at generous
      rw [sized.core.limit]
      exact negotiated_generous connectionId fun text => generous.resolve_left (by simp [text])
    obtain ⟨core, delivered, modest⟩ := sized.core.turns authority turns waiting given joining
    rw [output]
    refine ⟨⟨by rw [is]; exact core, by rw [is]; exact grown modest, by rw [is]; exact sized.held, ?_⟩,
      delivered⟩
    intro p waits
    rcases slot with same | gone
    · exact sized.slot p (same ▸ waits)
    · exact absurd (gone.symm.trans waits) nofun
  | worked t t' command reply call was taken answer is output =>
    obtain ⟨r, steps⟩ := ActorThread.step_cases answer
    have modest : command.Modest max := sized.queue command (by simp [taken])
    obtain ⟨held, published⟩ := handle_modest modest (sized.held t was) s.slotAnswer
    rw [output]
    refine ⟨⟨by rw [is]; exact sized.core, ?_, ?_, ?_⟩, silent⟩
    · exact fun k member => sized.queue k (taken ▸ List.mem_cons_of_mem _ member)
    · intro t'' same snapshot stored
      rw [is] at same
      obtain rfl := Option.some.inj same
      have stored := steps.snapshot snapshot stored
      rw [steps.handled] at stored
      exact held snapshot stored
    intro p waits
    rw [is] at waits
    rcases Option.or_eq_some_iff.mp waits with old | ⟨-, new⟩
    · exact sized.slot p old
    · rw [steps.acts, steps.handled] at new
      exact published p (List.mem_of_mem_head? new)
  | lost call is output =>
    rw [is, output]
    exact ⟨⟨sized.core.uninstall, by simp, by simp, by simp⟩, silent⟩
  | retried call gone is output =>
    rw [is, output]
    exact ⟨⟨sized.core, sized.queue, sized.held, sized.slot⟩, silent⟩
  | installed backend host token observed call started is output =>
    rw [is, output]
    refine
      ⟨⟨⟨sized.core.authority, sized.core.limit, sized.core.waiting, sized.core.peers⟩, by simp, ?_, by simp⟩,
      silent⟩
    simp [ActorThread.spawned, Actor.new]

theorem sized_of_run {start : AuthorityHost β} {trace : List (HostEntry β)} (initial : Sized max start)
    (run : Run authorityHost start trace s) (generous : ∀ e ∈ trace, e.generous = true) : Sized max s :=
  run.invariant_where (C := fun e => HostEntry.generous e = true) initial
    (fun _ sized step generous => (sized.step step generous).1) generous

/-- Every payload fits the connection it is handed to, and its writer agrees. -/
theorem payloads_fit_their_peers {config : ClipboardConfig} {server : HostId} {session : ProcessSessionId}
    {authoritySession : AuthoritySessionId} {trace : List (HostEntry β)}
    (run : Run authorityHost (.start config server session authoritySession) trace s)
    (generous : ∀ e ∈ trace, e.generous = true) {e : HostEntry β} (member : e ∈ trace) {peer : NegotiatedPeer}
    {message : WireMessage} (sent : .payload peer message ∈ e.output.effects) :
    ∃ p, message = .snapshotDeliver p ∧ p.data.len ≤ (peer.maxPayloadBytes config.maxBytes).toNat ∧
      ∀ hash, encodeMessage hash message (peer.maxPayloadBytes config.maxBytes) ≠
        .error .payloadTooLarge := by
  obtain ⟨before, after, here⟩ := List.append_of_mem member
  obtain ⟨earlier, step, -⟩ := run.split here
  have sized : Sized config.maxBytes e.pre :=
    sized_of_run (sized_start config server session authoritySession) earlier
    fun e' member' => generous e' (by simp [here, member'])
  obtain ⟨p, rfl, fits⟩ := (sized.step step (generous e member)).2 peer message sent
  exact ⟨p, rfl, fits, fun hash => encodeMessage_fits hash fits⟩

end Runs

end Sized

section Fixed

def tenBytesTo (maxReceiveBytes : UInt64) : List (HostInput Pasteboard) :=
  [.installed ⟨3, .text (List.replicate 10 104)⟩ 3, .connected .free 1 ⟨"mac", 2, 1, maxReceiveBytes⟩,
    .hook .free (.begin (.outgoing 1) "mac"), .work,
    .message .free ⟨1, "mac", 2, some maxReceiveBytes⟩
      (.prepareResult ⟨⟨7, 1⟩, ⟨7, 1, "mac"⟩, 2, some 5, .completed⟩),
    .completion .free 0, .work, .payload .free]

def tenBytes : ClipboardPayload :=
  ⟨⟨⟨7, 1⟩, ⟨7, 0, "server"⟩, 1, ⟨7, 1, "mac"⟩, 2⟩, ⟨1, 1⟩,
    .text (List.replicate 10 104)⟩

theorem full_payload_fits : ∃ trace s,
    Run (authorityHost (β := Pasteboard)) (.start ⟨true, 10⟩ "server" 1 7) trace s ∧
    ∃ e ∈ trace, .payload ⟨1, "mac", 2, some 10⟩ (.snapshotDeliver tenBytes) ∈ e.output.effects ∧
      ∃ p, .snapshotDeliver tenBytes = WireMessage.snapshotDeliver p ∧ p.data.len ≤ 10 ∧
        ∀ hash, encodeMessage hash (.snapshotDeliver tenBytes) 10 ≠ .error .payloadTooLarge := by
  obtain ⟨trace, s, run, generous, e, member, sent⟩ := (authorityHost (β := Pasteboard)).exists_run
    (.start ⟨true, 10⟩ "server" 1 7) (tenBytesTo 10) (fun trace _ =>
      (∀ e ∈ trace, HostEntry.generous e = true) ∧ ∃ e ∈ trace,
        .payload ⟨1, "mac", 2, some 10⟩ (.snapshotDeliver tenBytes) ∈ e.output.effects)
    (by decide +kernel)
  have fits := payloads_fit_their_peers run generous member sent
  have limit : NegotiatedPeer.maxPayloadBytes ⟨1, "mac", 2, some 10⟩ 10 = 10 := by decide
  exact ⟨trace, s, run, e, member, sent, fits⟩

/-- A peer with a smaller limit is sent the same, and its connection ends. -/
theorem payload_exceeds_peer : ∃ trace s,
    Run (authorityHost (β := Pasteboard)) (.start ⟨true, 64⟩ "server" 1 7) trace s ∧
    ∃ e ∈ trace, .payload ⟨1, "mac", 2, some 8⟩ (.snapshotDeliver tenBytes) ∈ e.output.effects ∧
      8 < tenBytes.data.len ∧
        ∀ hash, encodeMessage hash (.snapshotDeliver tenBytes) 8 = .error .payloadTooLarge := by
  obtain ⟨trace, s, run, e, member, sent⟩ := (authorityHost (β := Pasteboard)).exists_run
    (.start ⟨true, 64⟩ "server" 1 7) (tenBytesTo 8) (fun trace _ => ∃ e ∈ trace,
      .payload ⟨1, "mac", 2, some 8⟩ (.snapshotDeliver tenBytes) ∈ e.output.effects)
    (by decide +kernel)
  refine ⟨trace, s, run, e, member, sent, by decide, fun hash => ?_⟩
  rfl

end Fixed

end DisplayMux.Clipboard
