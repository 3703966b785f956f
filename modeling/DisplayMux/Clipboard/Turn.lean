import DisplayMux.Clipboard.Publication
import DisplayMux.Clipboard.Runtime

/-! What one turn of the authority's runtime does: to its coordinator, to the queue of its own
actor and to the payload slots of its peers. -/
namespace DisplayMux.Clipboard

open Coordinator

open ActiveHandoff (SameParties)
open LanMouse (ClipboardTransitionId)

/-- A command that can change what the actor owns, prepares or captures. -/
def ActorCommand.steers : ActorCommand → Bool
  | .publishSnapshot _ _ | .stageSnapshot _ => false
  | .synchronizeAuthority _ | .observeGeneration | .prepareTarget _ _ | .captureSource _ _ _
  | .captureProvisional _ _ | .bindProvisional _ _ | .activateTarget _ _ | .cancelHandoff _ |
    .shutdown => true

namespace Effect

def command? : Effect → Option ActorCommand
  | .actor command => some command
  | .control _ _ | .payload _ _ | .cancelPayload _ _ | .shutdown _ => none

def delivery? : Effect → Option (NegotiatedPeer × WireMessage)
  | .payload peer message => some (peer, message)
  | .actor _ | .control _ _ | .cancelPayload _ _ | .shutdown _ => none

end Effect

def commandsOf (effects : List Effect) : List ActorCommand := effects.filterMap (·.command?)

def ordersOf (effects : List Effect) : List ActorCommand := (commandsOf effects).filter (·.steers)

def deliveriesOf (effects : List Effect) : List (NegotiatedPeer × WireMessage) :=
  effects.filterMap (·.delivery?)

@[simp] theorem commandsOf_nil : commandsOf [] = [] := rfl

@[simp] theorem commandsOf_append (effects more : List Effect) :
    commandsOf (effects ++ more) = commandsOf effects ++ commandsOf more := List.filterMap_append

@[simp] theorem commandsOf_actor (command : ActorCommand) : commandsOf [.actor command] = [command] := rfl

@[simp] theorem deliveriesOf_nil : deliveriesOf [] = [] := rfl

@[simp] theorem deliveriesOf_append (effects more : List Effect) :
    deliveriesOf (effects ++ more) = deliveriesOf effects ++ deliveriesOf more := List.filterMap_append

@[simp] theorem ordersOf_nil : ordersOf [] = [] := rfl

@[simp] theorem ordersOf_append (effects more : List Effect) :
    ordersOf (effects ++ more) = ordersOf effects ++ ordersOf more := by simp [ordersOf]

def CoordinatorCommand.orders (localHost : Option HostId) : CoordinatorCommand → List ActorCommand
  | .prepareTarget id token _ => if localHost = some token.ownerHostId then [.prepareTarget id token] else []
  | .captureSource id token _ maxBytes =>
    if localHost = some token.ownerHostId then [.captureSource id token maxBytes.toNat] else []
  | .activateTarget id token _ => if localHost = some token.ownerHostId then [.activateTarget id token]
    else []
  | .cancelHandoff id => [.cancelHandoff id]
  | .publishSnapshot _ _ => []

def Effect.isTalk : Effect → Bool
  | .control _ _ | .cancelPayload _ _ | .shutdown _ => true
  | .actor _ | .payload _ _ => false

variable {effects : List Effect} {turned : Turned} {op : CoordinatorOp} {plan : Plan}

theorem ordersOf_talk (talk : ∀ e ∈ effects, e.isTalk = true) :
    ordersOf effects = [] := by
  have silent : commandsOf effects = [] := by
    refine List.filterMap_eq_nil_iff.mpr (fun e member => ?_)
    have := talk e member
    cases e <;> simp_all [Effect.isTalk, Effect.command?]
  rw [ordersOf, silent, List.filter_nil]

theorem deliveriesOf_talk (talk : ∀ e ∈ effects, e.isTalk = true) :
    deliveriesOf effects = [] := by
  refine List.filterMap_eq_nil_iff.mpr (fun e member => ?_)
  have := talk e member
  cases e <;> simp_all [Effect.isTalk, Effect.delivery?]

namespace RuntimeCore

variable {links : Links} {core : RuntimeCore}

theorem sendOrShutdown_talk (peer : NegotiatedPeer) (message : WireMessage) :
    ∀ e ∈ (sendOrShutdown links peer message).2, e.isTalk = true := by
  unfold sendOrShutdown
  split <;> simp [Effect.isTalk]

theorem trySendControl_talk (host : HostId) (session : ProcessSessionId) (message : WireMessage) :
    ∀ e ∈ (core.trySendControl links host session message).2, e.isTalk = true := by
  unfold trySendControl
  split
  · simp
  · split
    · simp
    · exact sendOrShutdown_talk _ _

theorem publishAuthorityState_talk (host : HostId) :
    ∀ e ∈ core.publishAuthorityState links host, e.isTalk = true := by
  unfold publishAuthorityState
  split
  · dsimp only
    split <;> simp [Effect.isTalk]
  · simp

theorem publishAuthorityStateAll_talk : ∀ e ∈ core.publishAuthorityStateAll links, e.isTalk = true := by
  intro e member
  obtain ⟨host, -, member⟩ := List.mem_flatMap.mp member
  exact publishAuthorityState_talk host e member

def Attended (links : Links) (core : RuntimeCore) : Prop :=
  core.actor = true ∧ ∀ command, links.actor command = .sent

/-- The effects bring the actor these orders, unless it does not take them all. -/
structure Carries (links : Links) (core : RuntimeCore) (orders : List ActorCommand) (effects : List Effect) :
    Prop where
  only : (ordersOf effects).Sublist orders
  all : core.Attended links → ordersOf effects = orders

theorem Carries.of_talk (talk : ∀ e ∈ effects, e.isTalk = true) :
    core.Carries links [] effects := by
  have silent := ordersOf_talk talk
  exact ⟨by rw [silent], fun _ => silent⟩

theorem Carries.nil : core.Carries links [] [] := .of_talk (by simp)

theorem Carries.append {core' : RuntimeCore} {orders orders' : List ActorCommand}
    {effects effects' : List Effect}
    (same : core'.actor = core.actor) (first : core.Carries links orders effects)
    (second : core'.Carries links orders' effects') :
    core.Carries links (orders ++ orders') (effects ++ effects') := by
  refine ⟨?_, fun attended => ?_⟩
  · rw [ordersOf_append]
    exact first.only.append second.only
  · rw [ordersOf_append, first.all attended, second.all ⟨same ▸ attended.1, attended.2⟩]

section

variable (command : ActorCommand)

theorem queueActor_cases : (core.queueActor links command).2 = [.actor command] ∨
      ¬core.Attended links ∧ (core.queueActor links command).2 = [] := by
  unfold queueActor
  split
  · rename_i installed
    cases answer : links.actor command with
    | sent => exact .inl rfl
    | full | closed => exact .inr ⟨fun attended => by simp [attended.2] at answer, rfl⟩
  · rename_i missing
    exact .inr ⟨fun attended => missing attended.1, rfl⟩

theorem queueActor_carries :
    core.Carries links ([command].filter (·.steers)) (core.queueActor links command).2 := by
  rcases @queueActor_cases links core command with queued | ⟨refused, none⟩
  · rw [queued]
    exact ⟨.refl _, fun _ => rfl⟩
  · rw [none]
    exact ⟨List.nil_sublist _, fun attended => absurd attended refused⟩

theorem queueActor_deliveries : deliveriesOf (core.queueActor links command).2 = [] := by
  rcases @queueActor_cases links core command with queued | ⟨-, none⟩
  · rw [queued]
    rfl
  · rw [none]
    rfl

end

end RuntimeCore

/-- At most the active handoff was given up. -/
inductive Coordinator.Relaxed (c : Coordinator) : Coordinator → Prop where
  | same : Relaxed c c
  | ended (terminal : Option (HandoffId × Except ClipboardReason Unit)) :
    Relaxed c { c with active := none, lastTerminal := terminal }

theorem Coordinator.Relaxed.trans {c c' c'' : Coordinator} (first : c.Relaxed c') (second : c'.Relaxed c'') :
    c.Relaxed c'' := by
  cases first with
  | same => exact second
  | ended terminal =>
    cases second with
    | same => exact .ended terminal
    | ended terminal => exact .ended terminal

namespace RuntimeCore

variable {links : Links} {core core' : RuntimeCore} {c c' : Coordinator}

/-- The payload that waits goes to its target. -/
def Delivers (core : RuntimeCore) (payload : Option ClipboardPayload)
    (d : NegotiatedPeer × WireMessage) : Prop :=
  ∃ p, payload = some p ∧ d.2 = .snapshotDeliver p ∧
    core.networkPeers.lookup p.handoff.targetToken.ownerHostId = some d.1

/-- What was to be sent is sent, or the handoff is given up for it. -/
structure Passes (links : Links) (core : RuntimeCore) (c : Coordinator) (payload : Option ClipboardPayload)
    (orders : List ActorCommand) (turned : Turned) : Prop where
  relaxed : ∃ c', turned.1.role = .authority c' ∧ c.Relaxed c'
  rest : turned.1 = { core with role := turned.1.role, pendingPayload := turned.1.pendingPayload }
  waiting : turned.1.pendingPayload = core.pendingPayload ∨ turned.1.pendingPayload = none
  carries : core.Carries links orders turned.2
  delivers : ∀ d ∈ deliveriesOf turned.2, core.Delivers payload d

theorem skip_relaxed (authority : core.role = .authority c) (id : HandoffId) (reason : ClipboardReason) :
    ∃ c' payload, core.skip id reason = { core with role := .authority c', pendingPayload := payload } ∧
      c.Relaxed c' ∧ (payload = core.pendingPayload ∨ payload = none) := by
  simp only [skip, authority, Coordinator.skip]
  split
  · rename_i found
    split at found <;> obtain ⟨_, rfl⟩ := Prod.mk.inj found
    · contradiction
    · exact ⟨_, none, rfl, .ended _, .inr rfl⟩
  · rename_i found
    split at found <;> obtain ⟨_, rfl⟩ := Prod.mk.inj found
    · exact ⟨c, core.pendingPayload, rfl, .same, .inl rfl⟩
    · contradiction

variable {payload : Option ClipboardPayload} {orders : List ActorCommand}

section

variable (authority : core.role = .authority c) (id : HandoffId)
include authority

theorem passes_refl (carries : core.Carries links orders effects)
    (delivers : ∀ d ∈ deliveriesOf effects, core.Delivers payload d) :
    core.Passes links c payload orders (core, effects) :=
  ⟨⟨c, authority, .same⟩, rfl, .inl rfl, carries, delivers⟩

theorem skip_passes (reason : ClipboardReason) (carries : core.Carries links orders effects)
    (delivers : ∀ d ∈ deliveriesOf effects, core.Delivers payload d) :
    core.Passes links c payload orders (core.skip id reason, effects) := by
  obtain ⟨c', pendingPayload, skipped, relaxed, kept⟩ := skip_relaxed authority id reason
  rw [skipped]
  exact ⟨⟨c', rfl, relaxed⟩, rfl, kept, carries, delivers⟩

theorem orSkip_passes {sent : Sent} (carries : core.Carries links orders sent.2)
    (silent : deliveriesOf sent.2 = []) :
    core.Passes links c payload orders (core.orSkip id sent) := by
  have delivers : ∀ d ∈ deliveriesOf sent.2, core.Delivers payload d := by simp [silent]
  unfold orSkip
  split
  · exact passes_refl authority carries delivers
  · exact skip_passes authority id _ carries delivers

theorem publishPayload_passes (payload : ClipboardPayload) :
    core.Passes links c (some payload) [] (core.publishPayload links payload) := by
  have nothing : core.Passes links c (some payload) [] (core, []) := passes_refl authority .nil (by simp)
  unfold publishPayload
  split
  · exact nothing
  split
  · exact nothing
  split
  · split
    · exact nothing
    · exact orSkip_passes authority _ (queueActor_carries (.stageSnapshot _)) (queueActor_deliveries _)
  split
  · exact skip_passes authority _ _ .nil (by simp)
  rename_i peer found
  split
  · exact skip_passes authority _ _ .nil (by simp)
  split
  · refine passes_refl authority ⟨.refl _, fun _ => rfl⟩ ?_
    intro d member
    obtain rfl := List.mem_singleton.mp member
    exact ⟨payload, rfl, rfl, found⟩
  · exact skip_passes authority _ _ .nil (by simp)

end

theorem Passes.forget
    (passes : { core with pendingPayload := none }.Passes links c payload orders turned) :
    core.Passes links c payload orders turned where
  relaxed := passes.relaxed
  rest := passes.rest
  waiting := .inr (passes.waiting.elim id id)
  carries := ⟨passes.carries.only, passes.carries.all⟩
  delivers := passes.delivers

theorem publishPendingPayload_passes (authority : core.role = .authority c) (id : HandoffId)
    (snapshotId : SnapshotId) :
    core.Passes links c core.pendingPayload [] (core.publishPendingPayload links id snapshotId) := by
  unfold publishPendingPayload
  split
  · exact passes_refl authority .nil (by simp)
  rename_i payload waiting
  have authority' : { core with pendingPayload := none }.role = .authority c := authority
  split
  · exact .forget (passes_refl authority' .nil (by simp))
  · rw [waiting]
    exact .forget (publishPayload_passes authority' payload)

theorem cancelEverywhere_carries (id : HandoffId) :
    core.Carries links [.cancelHandoff id] (core.cancelEverywhere links id) ∧
      deliveriesOf (core.cancelEverywhere links id) = [] := by
  unfold cancelEverywhere
  generalize told : core.networkPeers.entries.flatMap _ = effects
  have talk : ∀ e ∈ effects, e.isTalk = true := by
    intro e member
    rw [← told] at member
    obtain ⟨entry, -, member⟩ := List.mem_flatMap.mp member
    rcases List.mem_cons.mp member with rfl | member
    · rfl
    · split at member
      · obtain rfl := List.mem_singleton.mp member
        rfl
      · contradiction
  refine ⟨Carries.append rfl (queueActor_carries (.cancelHandoff id)) (.of_talk talk), ?_⟩
  rw [deliveriesOf_append, queueActor_deliveries]
  exact deliveriesOf_talk talk

theorem dispatchOne_passes (authority : core.role = .authority c) (command : CoordinatorCommand) :
    core.Passes links c core.pendingPayload (command.orders core.localHost)
      (core.dispatchOne links command) := by
  have nothing : core.Passes links c core.pendingPayload [] (core, []) := passes_refl authority .nil (by simp)
  cases command with
  | prepareTarget id token session =>
    simp only [dispatchOne, CoordinatorCommand.orders]
    split
    · exact orSkip_passes authority _ (queueActor_carries (.prepareTarget _ _)) (queueActor_deliveries _)
    · split
      · exact nothing
      · exact orSkip_passes authority _ (.of_talk (trySendControl_talk _ _ _))
          (deliveriesOf_talk (trySendControl_talk _ _ _))
  | captureSource id token session maxBytes =>
    simp only [dispatchOne, CoordinatorCommand.orders]
    split
    · exact orSkip_passes authority _ (queueActor_carries (.captureSource _ _ _)) (queueActor_deliveries _)
    · have talk := @publishAuthorityState_talk links core token.ownerHostId
      exact passes_refl authority (.of_talk talk) (by simp [deliveriesOf_talk talk])
  | publishSnapshot id snapshotId =>
    simp only [dispatchOne, CoordinatorCommand.orders]
    split
    · exact orSkip_passes authority _ (queueActor_carries (.publishSnapshot _ _)) (queueActor_deliveries _)
    · exact publishPendingPayload_passes authority id snapshotId
  | activateTarget id token session =>
    simp only [dispatchOne, CoordinatorCommand.orders]
    split
    · exact orSkip_passes authority _ (queueActor_carries (.activateTarget _ _)) (queueActor_deliveries _)
    · split
      · exact nothing
      · exact orSkip_passes authority _ (.of_talk (trySendControl_talk _ _ _))
          (deliveriesOf_talk (trySendControl_talk _ _ _))
  | cancelHandoff id =>
    obtain ⟨carries, silent⟩ := @cancelEverywhere_carries links core id
    exact ⟨⟨c, authority, .same⟩, rfl, .inr rfl, carries, by simp [dispatchOne, silent]⟩

theorem Passes.append {orders orders' : List ActorCommand} {effects effects' : List Effect}
    {core'' : RuntimeCore}
    (first : core.Passes links c core.pendingPayload orders (core', effects))
    (second : ∀ c', core'.role = .authority c' →
      core'.Passes links c' core'.pendingPayload orders' (core'', effects')) :
    core.Passes links c core.pendingPayload (orders ++ orders') (core'', effects ++ effects') := by
  obtain ⟨c', role, relaxed⟩ := first.relaxed
  have second := second c' role
  obtain ⟨c'', role', relaxed'⟩ := second.relaxed
  have rest : core' = { core with role := core'.role, pendingPayload := core'.pendingPayload } := first.rest
  refine ⟨⟨c'', role', relaxed.trans relaxed'⟩, ?_, ?_, ?_, ?_⟩
  · have rest' : core'' = { core' with role := core''.role, pendingPayload := core''.pendingPayload } :=
    second.rest
    rw [rest', rest]
  · rcases second.waiting with same | gone
    · rcases first.waiting with same' | gone'
      · exact .inl (same.trans same')
      · exact .inr (same.trans gone')
    · exact .inr gone
  · exact first.carries.append (by rw [rest]) second.carries
  intro d member
  rcases List.mem_append.mp (deliveriesOf_append _ _ ▸ member) with old | new
  · exact first.delivers d old
  obtain ⟨p, waits, message, peer⟩ := second.delivers d new
  rw [rest] at peer
  rcases first.waiting with same | gone
  · exact ⟨p, same ▸ waits, message, peer⟩
  · exact absurd (gone ▸ waits) nofun

theorem dispatch_passes (authority : core.role = .authority c) (commands : List CoordinatorCommand) :
    core.Passes links c core.pendingPayload (commands.flatMap (CoordinatorCommand.orders core.localHost))
      (core.dispatch links commands) := by
  induction commands generalizing core c with
  | nil => exact passes_refl authority .nil (by simp)
  | cons command commands ih =>
    have first := @dispatchOne_passes links core c authority command
    simp only [dispatch]
    generalize core.dispatchOne links command = turned at first
    have kept : turned.1.localHost = core.localHost := by rw [first.rest]
    have both := first.append fun c' role => ih role
    rw [kept] at both
    exact both

end RuntimeCore

def Coordinator.calls (c : Coordinator) : Option CoordinatorOp → Coordinator × List CoordinatorCommand
  | none => (c, [])
  | some op => ((c.perform op).1, (c.perform op).2.commands)

/-- What a turn does to the connections. -/
inductive Contact where
  | settled
  | joined (peer : NegotiatedPeer)
  | left (host : HostId)

namespace Contact

def peers (known : AList fun _ : HostId => NegotiatedPeer) : Contact → AList fun _ : HostId => NegotiatedPeer
  | settled => known
  | joined peer => known.insert peer.hostId peer
  | left host => known.erase host

/-- The coordinator is told of sessions when the connections change, and only then. -/
def Calls (op : Option CoordinatorOp) : Contact → Prop
  | settled => ∀ op', op = some op' → op'.sets = false
  | joined peer => op = if peer.effectiveMaxBytes.isSome then
      some (.setProcessSession peer.hostId peer.processSessionId) else none
  | left host => op = some (.removeProcessSession host)

theorem lookup_peers {known : AList fun _ : HostId => NegotiatedPeer} {contact : Contact} {host : HostId}
    {peer : NegotiatedPeer} (found : (contact.peers known).lookup host = some peer) :
    known.lookup host = some peer ∨ contact = joined peer := by
  cases contact with
  | settled => exact .inl found
  | joined new =>
    by_cases same : host = new.hostId
    · rw [same, peers, AList.lookup_insert] at found
      exact .inr (congrArg joined (Option.some.inj found))
    · exact .inl ((AList.lookup_insert_ne same).symm.trans found)
  | left gone =>
    by_cases same : host = gone
    · rw [same, peers, AList.lookup_erase] at found
      contradiction
    · exact .inl ((AList.lookup_erase_ne same).symm.trans found)

end Contact

/-- What a turn is about: the call of the coordinator, the transition that is pending after it,
the payload that waits, the one that can be delivered, and the connections. -/
structure Plan where
  op : Option CoordinatorOp
  pending : Option PendingTransition
  waiting : Option ClipboardPayload
  given : Option ClipboardPayload
  contact : Contact

namespace RuntimeCore

structure Turns (links : Links) (core : RuntimeCore) (c : Coordinator) (plan : Plan) (turned : Turned) :
    Prop where
  relaxed : ∃ c', turned.1.role = .authority c' ∧ (c.calls plan.op).1.Relaxed c'
  pending : turned.1.pending = plan.pending
  localHost : turned.1.localHost = core.localHost
  processSession : turned.1.processSessionId = core.processSessionId
  maxBytes : turned.1.maxBytes = core.maxBytes
  actor : turned.1.actor = core.actor
  waiting : turned.1.pendingPayload = plan.waiting ∨ turned.1.pendingPayload = none
  peers : turned.1.networkPeers = plan.contact.peers core.networkPeers
  carries : core.Carries links ((c.calls plan.op).2.flatMap (CoordinatorCommand.orders core.localHost))
    turned.2
  delivers : ∀ d ∈ deliveriesOf turned.2, ∃ p host, plan.given = some p ∧ d.2 = .snapshotDeliver p ∧
    core.networkPeers.lookup host = some d.1

def resting (core : RuntimeCore) (given : Option ClipboardPayload) : Plan :=
  ⟨none, core.pending, core.pendingPayload, given, .settled⟩

def answering (core : RuntimeCore) (op : CoordinatorOp) : Plan :=
  ⟨some op, core.pending, core.pendingPayload, core.pendingPayload, .settled⟩

variable {links : Links} {core : RuntimeCore} {c : Coordinator}

theorem Passes.turns_among (alone : ∀ peer, plan.contact ≠ .joined peer) (passes : { core with
        role := .authority (c.calls plan.op).1
        pending := plan.pending
        pendingPayload := plan.waiting
        networkPeers := plan.contact.peers core.networkPeers }.Passes links (c.calls plan.op).1 plan.given
      ((c.calls plan.op).2.flatMap (CoordinatorCommand.orders core.localHost)) turned) :
        core.Turns links c plan turned := by
  have rest := passes.rest
  refine
    ⟨passes.relaxed, by rw [rest], by rw [rest], by rw [rest], by rw [rest], by rw [rest], passes.waiting,
    by rw [rest], ⟨passes.carries.only, passes.carries.all⟩, ?_⟩
  intro d member
  obtain ⟨p, given, message, found⟩ := passes.delivers d member
  exact ⟨p, _, given, message, (Contact.lookup_peers found).resolve_right (alone _)⟩

theorem Passes.turns (settled : plan.contact = .settled) (passes : { core with
        role := .authority (c.calls plan.op).1
        pending := plan.pending
        pendingPayload := plan.waiting }.Passes links (c.calls plan.op).1 plan.given
      ((c.calls plan.op).2.flatMap (CoordinatorCommand.orders core.localHost)) turned) :
    core.Turns links c plan turned := by
  refine Passes.turns_among (by simp [settled]) ?_
  rw [settled]
  exact passes

theorem Turns.talk (turns : core.Turns links c plan turned)
    (talk : ∀ e ∈ effects, e.isTalk = true) : core.Turns links c plan (turned.1, turned.2 ++ effects) := by
  refine { turns with carries := ?_, delivers := ?_ }
  · simpa using turns.carries.append rfl (.of_talk talk)
  · simpa [deliveriesOf_talk talk] using turns.delivers

theorem resting_turns (authority : core.role = .authority c) (given : Option ClipboardPayload) :
    core.Turns links c (core.resting given) (core, []) :=
  ⟨⟨c, authority, .same⟩, rfl, rfl, rfl, rfl, rfl, .inl rfl, rfl, .nil, by simp⟩

theorem withCoordinator_self (authority : core.role = .authority c) : core.withCoordinator c = core := by
  rw [withCoordinator, ← authority]

section Hooks

theorem begin_turns (authority : core.role = .authority c) (transition : ClipboardTransitionId)
    (target : HostId) :
    ((∃ error, c.beginHandoff target = (.error error, c)) ∧
      core.Turns links c (core.resting none) (core.begin links transition target)) ∨
    ∃ b c', c.beginHandoff target = (.ok b, c') ∧ c.Begins target b c' ∧ core.Turns links c
      { core.answering (.beginHandoff target) with pending := some ⟨transition, b.handoffId, b.targetToken,
          (c'.active.map (·.targetProcessSessionId)).getD 0, false⟩ }
      (core.begin links transition target) := by
  rcases c.beginHandoff_cases target with ⟨error, refused⟩ | ⟨b, c', begun, begins⟩
  · refine .inl ⟨⟨error, refused⟩, ?_⟩
    simp only [begin, authority, refused, withCoordinator_self authority]
    exact resting_turns authority none
  · refine .inr ⟨b, c', begun, begins, ?_⟩
    refine Passes.turns rfl ?_
    simp only [begin, authority, begun, withCoordinator, answering, calls, perform]
    exact dispatch_passes rfl b.commands

theorem callCoordinator_turns (authority : core.role = .authority c) (op : CoordinatorOp)
    {call : Coordinator → Except CoordinatorError (List CoordinatorCommand) × Coordinator}
    (performs : c.perform op = ((call c).2, .ofResult (call c).1)) :
    core.Turns links c (core.answering op) (core.callCoordinator links call).2 := by
  refine Passes.turns rfl ?_
  simp only [callCoordinator, authority, answering, calls, performs, withCoordinator]
  generalize call c = r
  obtain ⟨result, c'⟩ := r
  cases result with
  | error error => exact passes_refl rfl .nil (by simp)
  | ok commands => exact dispatch_passes rfl commands

def activating (core : RuntimeCore) (p : PendingTransition) (pending : Option PendingTransition) : Plan :=
  { core.answering (.ownershipActivated p.handoffId p.targetToken p.targetProcessSessionId) with pending }

theorem activate_turns (authority : core.role = .authority c) (transition : ClipboardTransitionId) :
    (core.pending.any (·.id = transition) = false ∧
      core.Turns links c (core.resting none) (core.activate links transition)) ∨
    ∃ p pending, core.pending = some p ∧ p.id = transition ∧
      (∀ p', pending = some p' → ∃ activated, p' = { p with activated }) ∧
      core.Turns links c (core.activating p pending) (core.activate links transition) := by
  cases was : core.pending with
  | none =>
    refine .inl ⟨rfl, ?_⟩
    simp only [activate, was]
    exact resting_turns authority none
  | some p =>
    by_cases own : p.id = transition
    · refine .inr ?_
      cases call : c.ownershipActivated p.handoffId p.targetToken p.targetProcessSessionId with
      | mk result c' =>
        have performs : c.perform (.ownershipActivated p.handoffId p.targetToken p.targetProcessSessionId) =
            (c', .ofResult result) := by simp only [perform, call]
        cases result with
        | error error =>
          refine ⟨p, some p, rfl, own, fun p' is => ⟨p.activated, (Option.some.inj is).symm⟩, ?_⟩
          refine Passes.turns rfl ?_
          simp only [activate, was, authority, own, ne_eq, not_true_eq_false, if_false, call,
            activating, answering,
            calls, performs, withCoordinator]
          exact passes_refl rfl .nil (by simp)
        | ok commands =>
          refine ⟨p, if c'.active.isSome then some { p with activated := true } else none, rfl, own, ?_, ?_⟩
          · intro p' is
            split at is
            · exact ⟨true, (Option.some.inj is).symm⟩
            · contradiction
          simp only [activate, was, authority, own, ne_eq, not_true_eq_false, if_false, call]
          refine Turns.talk ?_ publishAuthorityStateAll_talk
          refine Passes.turns rfl ?_
          simp only [activating, answering, calls, performs, withCoordinator]
          exact dispatch_passes rfl commands
    · refine .inl ⟨by simp [own], ?_⟩
      simp only [activate, was, authority, ne_eq, own, not_false_eq_true, if_true]
      exact resting_turns authority none

def withdrawing (core : RuntimeCore) (p : PendingTransition) : Plan :=
  { core.answering (.abort p.handoffId) with pending := none }

theorem cancelCurrent_turns (authority : core.role = .authority c) :
    (core.pending = none ∧ core.Turns links c (core.resting none) (core.cancelCurrent links)) ∨
    ∃ p, core.pending = some p ∧ core.Turns links c (core.withdrawing p) (core.cancelCurrent links) := by
  cases was : core.pending with
  | none =>
    refine .inl ⟨rfl, ?_⟩
    simp only [cancelCurrent, was]
    exact resting_turns authority none
  | some p =>
    refine .inr ⟨p, rfl, ?_⟩
    simp only [cancelCurrent, was]
    have turns := @callCoordinator_turns links { core with pending := none } c authority (.abort p.handoffId)
      (·.abort p.handoffId) rfl
    exact { turns with carries := ⟨turns.carries.only, turns.carries.all⟩ }

/-- The plan of a hook: it leaves the payload that waits or gives it out, and no connection
is concerned. -/
structure HookPlan (core : RuntimeCore) (plan : Plan) : Prop where
  waiting : plan.waiting = core.pendingPayload
  given : ∀ p, plan.given = some p → core.pendingPayload = some p
  settled : plan.contact = .settled
  calls : plan.contact.Calls plan.op

def Hooked (core : RuntimeCore) (links : Links) (c : Coordinator) (turned : Turned) : Prop :=
  ∃ plan : Plan, core.Turns links c plan turned ∧ core.HookPlan plan

theorem hooked_of_resting (turns : core.Turns links c (core.resting none) turned) :
    core.Hooked links c turned :=
  ⟨core.resting none, turns, rfl, by simp [resting], rfl, nofun⟩

theorem settled_calls (keeps : op.sets = false) : Contact.settled.Calls (some op) := by
  rintro _ ⟨⟩
  exact keeps

theorem cancelCurrent_hooked (authority : core.role = .authority c) :
    core.Hooked links c (core.cancelCurrent links) := by
  rcases cancelCurrent_turns authority with ⟨-, turns⟩ | ⟨p, -, turns⟩
  · exact hooked_of_resting turns
  · exact ⟨core.withdrawing p, turns, rfl, fun _ => id, rfl, settled_calls rfl⟩

theorem handle_hooked (authority : core.role = .authority c) (hook : ServiceHook) :
    core.Hooked links c (core.handle links hook) := by
  cases hook with
  | begin transition target =>
    rcases begin_turns authority transition target with ⟨-, turns⟩ | ⟨b, c', -, -, turns⟩
    · exact hooked_of_resting turns
    · exact ⟨_, turns, rfl, fun _ => id, rfl, settled_calls rfl⟩
  | activate transition =>
    rcases activate_turns authority transition with ⟨-, turns⟩ | ⟨p, pending, -, -, -, turns⟩
    · exact hooked_of_resting turns
    · exact ⟨core.activating p pending, turns, rfl, fun _ => id, rfl, settled_calls rfl⟩
  | cancel transition reason =>
    simp only [handle, cancel]
    split
    · exact cancelCurrent_hooked authority
    · exact hooked_of_resting (resting_turns authority none)
  | cancelCurrent reason => exact cancelCurrent_hooked authority
  | captureProvisional =>
    simp only [handle, captureProvisional, authority]
    exact hooked_of_resting (resting_turns authority none)
  | shutdown => exact cancelCurrent_hooked authority

end Hooks

end RuntimeCore

def CoordinatorOp.owns : CoordinatorOp → Bool
  | .beginHandoff _ | .ownershipActivated _ _ _ | .abort _ => true
  | .setProcessSession _ _ | .removeProcessSession _ | .setEnabled _ | .targetPrepared _ _ _ _
  | .sourceCaptured _ _ _ _ | .snapshotStaged _ | .applied _ _ | .skip _ _ => false

namespace Coordinator

/-- The active handoff goes on between the same hosts, or it ends and may be cancelled. -/
structure Eases (c c' : Coordinator) (commands : List CoordinatorCommand) : Prop where
  active : ∀ h', c'.active = some h' → ∃ h, c.active = some h ∧ SameParties h h'
  commands : ∀ k ∈ commands, (∃ id snapshotId, k = .publishSnapshot id snapshotId) ∨
    (∃ id, k = .cancelHandoff id) ∧ c'.active = none

variable {c c' : Coordinator}

theorem Eases.idle (same : c'.active = c.active) : Eases c c' [] :=
  ⟨fun h is => ⟨h, same ▸ is, rfl, rfl, rfl, rfl, rfl⟩, by simp⟩

theorem Eases.ended (is : c'.active = none) : Eases c c' [] :=
  ⟨fun h is' => absurd (is.symm.trans is') nofun, by simp⟩

theorem Eases.cancel (c c' : Coordinator) (reason : ClipboardReason) :
    Eases c (c'.cancel reason).2 (c'.cancel reason).1 := by
  rw [cancel_eq]
  refine ⟨nofun, fun k issued => .inr ⟨?_, rfl⟩⟩
  obtain ⟨h, -, rfl⟩ := Option.map_eq_some_iff.mp (Option.mem_toList.mp issued)
  exact ⟨h.id, rfl⟩

theorem Eases.progress {h h' : ActiveHandoff} (was : c.active = some h) (parties : SameParties h h') :
    Eases c { c with active := some h'.publishIfReady.1 } h'.publishIfReady.2 := by
  refine ⟨fun h'' is => ⟨h, was, ?_⟩, fun k issued => .inl ?_⟩
  · obtain rfl := Option.some.inj is
    exact parties.trans h'.publishIfReady_parties
  · rcases h'.publishIfReady_cases with ⟨same, -⟩ | ⟨snapshot, _, -, -, -, same⟩
    · simp [same] at issued
    · rw [same] at issued
      exact ⟨_, _, List.mem_singleton.mp issued⟩

theorem Performs.eases {reply : CoordinatorReply} (performs : Performs c op reply c')
    (mild : op.owns = false ∨ ∃ id, op = .abort id) : Eases c c' reply.commands := by
  cases performs with
  | refused | set => exact .idle rfl
  | cancelled | aborted => exact .cancel _ _ _
  | began | misled | adopted | activated => simp [CoordinatorOp.owns] at mild
  | prepared was is | captured was is =>
    subst is
    exact .progress was ⟨rfl, rfl, rfl, rfl, rfl⟩
  | staged was =>
    refine ⟨fun h' is => ⟨_, was, ?_⟩, by simp [CoordinatorReply.commands]⟩
    obtain rfl := Option.some.inj is
    exact ⟨rfl, rfl, rfl, rfl, rfl⟩
  | applied | skipped => exact .ended rfl

theorem perform_eases (c : Coordinator) (mild : op.owns = false ∨ ∃ id, op = .abort id) :
    Eases c (c.perform op).1 (c.perform op).2.commands := (c.perform_performs op).eases mild

theorem calls_mild (c : Coordinator) {op : Option CoordinatorOp}
    (mild : ∀ op', op = some op' → op'.owns = false) :
    SameOwnership c (c.calls op).1 ∧ Eases c (c.calls op).1 (c.calls op).2 := by
  cases op with
  | none => exact ⟨.refl, .idle rfl⟩
  | some op =>
    have mild := mild op rfl
    refine ⟨?_, perform_eases c (.inl mild)⟩
    cases c.perform_transfers op with
    | began target b call => exact absurd (call ▸ mild) nofun
    | activated id session call => exact absurd (call ▸ mild) nofun
    | aborted id call => exact absurd (call ▸ mild) nofun
    | kept quiet refused same => exact same

theorem calls_abort (c : Coordinator) (id : HandoffId) :
    (SameOwnership c (c.calls (some (.abort id))).1 ∨
      SameOwnership { c with pendingOwnership := none } (c.calls (some (.abort id))).1) ∧
      Eases c (c.calls (some (.abort id))).1 (c.calls (some (.abort id))).2 := by
  refine ⟨?_, perform_eases c (.inr ⟨id, rfl⟩)⟩
  cases c.perform_transfers (.abort id) with
  | began target b call | activated id session call => contradiction
  | aborted id call quiet same => exact .inr same
  | kept quiet refused same => exact .inl same

theorem Performs.maxBytes {reply : CoordinatorReply} (performs : Performs c op reply c') :
    c'.maxBytes = c.maxBytes := by
  cases performs with
  | began begins => rw [begins.rest]
  | cancelled | aborted => rw [cancel_eq]
  | _ => rfl

theorem perform_maxBytes (c : Coordinator) (op : CoordinatorOp) : (c.perform op).1.maxBytes = c.maxBytes :=
  (c.perform_performs op).maxBytes

/-- The new owner is told when it has an active handoff, which is then the one that waited. -/
inductive Activates (c : Coordinator) (id : HandoffId) (token : OwnershipToken) (session : ProcessSessionId) :
    Coordinator × List CoordinatorCommand → Prop where
  | refused (other : c.pendingOwnership ≠ some ⟨id, token⟩) : Activates c id token session (c, [])
  | silent (waited : c.pendingOwnership = some ⟨id, token⟩) (other : ∀ h, c.active = some h →
      ¬(h.id = id ∧ h.targetToken = token ∧ h.targetProcessSessionId = session)) :
    Activates c id token session ({ c with pendingOwnership := none, currentToken := token }, [])
  | told (h : ActiveHandoff) (commands : List CoordinatorCommand)
    (waited : c.pendingOwnership = some ⟨id, token⟩)
    (was : c.active = some h) (handoff : h.id = id) (active : Option ActiveHandoff)
    (publishes : ∀ k ∈ commands, ∃ id snapshotId, k = .publishSnapshot id snapshotId) :
    Activates c id token session
      ({ c with pendingOwnership := none, currentToken := token, active },
        .activateTarget id token session :: commands)

theorem ownershipActivated_activates (c : Coordinator) (id : HandoffId) (token : OwnershipToken)
    (session : ProcessSessionId) :
    Activates c id token session (c.calls (some (.ownershipActivated id token session))) := by
  simp only [calls]
  have performs := c.perform_performs (.ownershipActivated id token session)
  generalize c.perform (.ownershipActivated id token session) = r at performs
  obtain ⟨c', reply⟩ := r
  cases performs with
  | refused activates => exact .refused (activates _ _ _ rfl)
  | set _ _ sets | cancelled _ _ _ sets => contradiction
  | misled waits was other =>
    exact .silent waits fun h' is same => other (Option.some.inj (was.symm.trans is) ▸ same)
  | adopted waits free => exact .silent waits fun h is => absurd (free.symm.trans is) nofun
  | @activated h h' waits was is =>
    refine .told h _ waits was rfl _ fun k issued => ?_
    have parties : SameParties h h' := is ▸ ⟨rfl, rfl, rfl, rfl, rfl⟩
    have eases := Eases.progress was parties
    rcases eases.commands k issued with publishes | ⟨-, ended⟩
    · exact publishes
    · contradiction

end Coordinator

/-- A turn that leaves the ownership alone. Payloads are as large as the coordinator allows,
unless one waited already or is brought by the actor. -/
structure Plan.Mild (core : RuntimeCore) (c : Coordinator) (brought : Option ClipboardData) (plan : Plan) :
    Prop where
  pending : plan.pending = core.pending
  op : ∀ op, plan.op = some op → op.owns = false
  waiting : ∀ p, plan.waiting = some p → core.pendingPayload = some p ∨ p.data.len ≤ c.maxBytes.toNat
  given : ∀ p, plan.given = some p →
    core.pendingPayload = some p ∨ p.data.len ≤ c.maxBytes.toNat ∨ brought = some p.data
  calls : plan.contact.Calls plan.op

theorem Coordinator.sourceCaptured_fits {c c' : Coordinator} {id : HandoffId} {token : OwnershipToken}
    {session : ProcessSessionId} {snapshot : SnapshotMetadata} {commands : List CoordinatorCommand}
    (captured : c.sourceCaptured id token session snapshot = (.ok commands, c')) :
    snapshot.bytes ≤ c.maxBytes.toNat := by
  unfold sourceCaptured at captured
  split at captured
  · exact absurd captured nofun
  · omega

namespace RuntimeCore

section Answers

variable {links : Links} {core : RuntimeCore} {c : Coordinator}

def Answers (links : Links) (core : RuntimeCore) (c : Coordinator) (brought : Option ClipboardData)
    (contact : Contact) (turned : Turned) : Prop :=
  ∃ plan : Plan, plan.Mild core c brought ∧ plan.contact = contact ∧ core.Turns links c plan turned

theorem answers_rest (authority : core.role = .authority c) (brought : Option ClipboardData) :
    core.Answers links c brought .settled (core, []) :=
  ⟨core.resting none, ⟨rfl, nofun, fun _ => .inl, nofun, nofun⟩, rfl, resting_turns authority none⟩

theorem answers_turns (op : CoordinatorOp) (mild : op.owns = false) (keeps : op.sets = false)
    (turns : core.Turns links c (core.answering op) turned) : core.Answers links c none .settled turned := by
  refine ⟨core.answering op, ⟨rfl, ?_, fun _ => .inl, fun _ => .inl, ?_⟩, rfl, turns⟩
  · rintro _ ⟨⟩
    exact mild
  · rintro _ ⟨⟩
    exact keeps

section

variable (authority : core.role = .authority c) (id : HandoffId) (host : HostId)
include authority

theorem skip_answers (reason : ClipboardReason) :
    core.Answers links c none .settled (core.skip id reason, []) := by
  refine answers_turns (.skip id reason) rfl rfl (Passes.turns rfl ?_)
  simp only [skip, authority, answering, calls, perform]
  cases c.skip id reason with
  | mk result c' =>
    cases result with
    | error error => exact passes_refl rfl .nil (by simp)
    | ok => exact ⟨⟨c', rfl, .same⟩, rfl, .inr rfl, .nil, by simp⟩

theorem completed_answers (snapshotId : SnapshotId) :
    core.Answers links c none .settled (core.completed id snapshotId, []) := by
  refine answers_turns (.applied id snapshotId) rfl rfl
    (Passes.turns rfl ?_)
  simp only [completed, authority, answering, calls, perform]
  cases c.applied id snapshotId with
  | mk result c' => cases result <;> exact passes_refl rfl .nil (by simp)

theorem staged_answers : core.Answers links c none .settled (core.staged id, []) := by
  refine answers_turns (.snapshotStaged id) rfl rfl (Passes.turns rfl ?_)
  simp only [staged, authority, answering, calls, perform]
  cases c.snapshotStaged id with
  | mk result c' => cases result <;> exact passes_refl rfl .nil (by simp)

theorem targetPrepared_answers (token : OwnershipToken)
    (session : ProcessSessionId) (baseline : NativeGeneration) :
    core.Answers links c none .settled (core.targetPrepared links id token session baseline) :=
  answers_turns (.targetPrepared id token session baseline) rfl rfl (callCoordinator_turns authority _ rfl)

theorem acceptSnapshotOffer_answers (payload : ClipboardPayload) :
    core.Answers links c none .settled (core.acceptSnapshotOffer links host payload) := by
  unfold acceptSnapshotOffer
  split
  · exact answers_rest authority none
  split
  · exact answers_rest authority none
  rename_i kind known
  cases call : c.sourceCaptured payload.handoff.handoffId payload.handoff.sourceToken
      payload.handoff.sourceProcessSessionId ⟨payload.snapshotId, kind, payload.data.len⟩ with
  | mk result c' =>
    obtain ⟨op, mild, keeps, performs⟩ : ∃ op : CoordinatorOp,
        (∀ op', some op = some op' → op'.owns = false) ∧ (∀ op', some op = some op' → op'.sets = false) ∧
          c.perform op = (c', .ofResult result) := by
      refine ⟨.sourceCaptured payload.handoff.handoffId payload.handoff.sourceToken
        payload.handoff.sourceProcessSessionId ⟨payload.snapshotId, kind, payload.data.len⟩, ?_, ?_,
        by simp only [perform, call]⟩ <;>
      · rintro _ ⟨⟩
        rfl
    simp only [callCoordinator, authority, call, withCoordinator]
    cases result with
    | error error =>
      refine ⟨⟨some op, core.pending, none, none, .settled⟩, ⟨rfl, mild, by simp, by simp, keeps⟩, rfl,
        Passes.turns rfl ?_⟩
      simp only [calls, performs]
      exact passes_refl rfl .nil (by simp)
    | ok commands =>
      have fits : payload.data.len ≤ c.maxBytes.toNat := sourceCaptured_fits call
      refine ⟨⟨some op, core.pending, some payload, some payload, .settled⟩, ⟨rfl, mild, ?_, ?_, keeps⟩, rfl,
        Passes.turns rfl ?_⟩
      · rintro _ ⟨⟩
        exact .inr fits
      · rintro _ ⟨⟩
        exact .inr (.inl fits)
      · simp only [calls, performs]
        exact dispatch_passes rfl commands

theorem handleWireMessage_answers {message : WireMessage} (taken : message.fromPeer = true) :
    core.Answers links c none .settled (core.handleWireMessage links host message) := by
  cases message with
  | snapshotOffer payload => exact acceptSnapshotOffer_answers authority host payload
  | prepareResult result =>
    simp only [handleWireMessage]
    split
    · exact targetPrepared_answers authority _ _ _ _
    · exact answers_rest authority none
    · exact skip_answers authority _ _
  | applyResult result =>
    simp only [handleWireMessage]
    split
    · exact completed_answers authority _ _
    · exact skip_answers authority _ _
  | protocolError reason => exact answers_rest authority none
  | clipboardHello | authorityState | prepareTarget | ownershipActivated | snapshotDeliver | cancelHandoff =>
    simp [WireMessage.fromPeer] at taken

end

theorem Turns.join (turns : core.Turns links c plan turned)
    (settled : plan.contact = .settled) (peer : NegotiatedPeer) :
    core.Turns links c { plan with contact := .joined peer }
      ({ turned.1 with networkPeers := turned.1.networkPeers.insert peer.hostId peer }, turned.2) := by
  refine { turns with peers := ?_ }
  rw [turns.peers, settled]
  rfl

section

variable (authority : core.role = .authority c) (command : ActorCommand)
include authority

theorem connected_answers (peer : NegotiatedPeer) :
    core.Answers links c none (.joined peer) (core.connected links peer) := by
  simp only [connected]
  split
  · rename_i text
    let op := CoordinatorOp.setProcessSession peer.hostId peer.processSessionId
    have turns : core.Turns links c (core.answering op)
        (core.peerSessionChanged links peer.hostId peer.processSessionId) := by
      refine Passes.turns rfl ?_
      simp only [peerSessionChanged, authority, answering, calls, perform, op,
        withCoordinator]
      exact dispatch_passes rfl _
    refine ⟨{ core.answering op with contact := .joined peer },
      ⟨rfl, ?_, fun _ => .inl, fun _ => .inl, (if_pos text).symm⟩, rfl,
      (turns.join rfl peer).talk (publishAuthorityState_talk peer.hostId)⟩
    rintro _ ⟨⟩
    rfl
  · rename_i text
    exact ⟨{ core.resting none with contact := .joined peer },
      ⟨rfl, by rintro _ ⟨⟩, fun _ => .inl, by rintro _ ⟨⟩, (if_neg text).symm⟩, rfl,
      ((resting_turns authority none).join rfl peer).talk (publishAuthorityState_talk peer.hostId)⟩

theorem disconnected_answers (host : HostId)
    (session : ProcessSessionId) (connectionId : ConnectionId) : core.Answers links c none
      (if core.knows host session connectionId then .left host else .settled)
      (core.disconnected links host session connectionId) := by
  unfold disconnected
  split
  · refine ⟨{ core.answering (.removeProcessSession host) with contact := .left host },
      ⟨rfl, ?_, fun _ => .inl, fun _ => .inl, rfl⟩, rfl, Passes.turns_among nofun ?_⟩
    · rintro _ ⟨⟩
      rfl
    · simp only [authority, answering, calls, perform, withCoordinator]
      exact dispatch_passes rfl _
  · exact answers_rest authority none

theorem actorSkipped_answers (id : Option HandoffId) (reason : ClipboardReason) :
    core.Answers links c none .settled (core.actorSkipped links command id reason) := by
  have own : core.isAuthority = true := by simp [isAuthority, coordinator, authority]
  unfold actorSkipped
  split
  · exact answers_rest authority none
  · rw [if_pos own]
    exact skip_answers authority _ _

theorem handleActorEvent_answers
    (event : ActorEvent) : core.Answers links c none .settled (core.handleActorEvent links command event) := by
  have own : core.isAuthority = true := by simp [isAuthority, coordinator, authority]
  cases event with
  | prepared id token session baseline =>
    simp only [handleActorEvent, actorPrepared, authority]
    exact targetPrepared_answers authority id token session baseline
  | captured id token snapshotId kind bytes =>
    simp only [handleActorEvent, actorCaptured, own, if_true]
    exact answers_turns (.sourceCaptured id token core.processSessionId ⟨snapshotId, kind, bytes⟩) rfl rfl
      (callCoordinator_turns authority _ rfl)
  | staged id snapshotId => exact staged_answers authority id
  | applied identity =>
    simp only [handleActorEvent, actorApplied, own, if_true]
    exact completed_answers authority _ _
  | skipped id reason | backendUnavailable id reason =>
    exact actorSkipped_answers authority command id reason
  | authoritySynchronized | generation | provisionalCaptured | activated | published | canceled | shutdown =>
    exact answers_rest authority none

theorem handleActorPayload_answers (payload : ActorPayload) :
    core.Answers links c (some payload.data) .settled (core.handleActorPayload links payload) := by
  have peerless : core.peerHandoff payload.handoffId = none := by simp [peerHandoff, authority]
  simp only [handleActorPayload, peerless]
  split
  · rename_i handoff found
    split
    · refine ⟨core.resting (some ⟨handoff, payload.snapshotId, payload.data⟩),
      ⟨rfl, nofun, fun _ => .inl, ?_, nofun⟩, rfl,
        Passes.turns rfl ?_⟩
      · rintro _ ⟨⟩
        exact .inr (.inr rfl)
      · simp only [resting, calls, ← authority]
        exact publishPayload_passes authority _
    · exact answers_rest authority _
  · contradiction
  · exact answers_rest authority _

end

end Answers

end RuntimeCore

end DisplayMux.Clipboard
