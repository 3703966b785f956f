import DisplayMux.Clipboard.Export
import DisplayMux.Clipboard.Turn

/-! The authority's host: the runtime and the actor that it drives. Commands reach the actor
through a queue; its answers come back in any order, its payloads through a slot for one. The
peers and the service are free in what they send. -/
namespace DisplayMux.Clipboard

open RuntimeCore

/-- The runtime with its actor. `starting` is the token for an actor that is being started. -/
structure AuthorityHost (β : Type) where
  core : RuntimeCore
  starting : Option OwnershipToken
  thread : Option (ActorThread β)
  queue : List ActorCommand
  completions : List (ActorCommand × ActorEvent)
  slot : Option ActorPayload

inductive HostInput (β : Type) where
  | hook (links : Links) (hook : ServiceHook)
  | connected (links : Links) (connectionId : ConnectionId) (hello : ClipboardHello)
  | disconnected (links : Links) (host : HostId) (session : ProcessSessionId) (connectionId : ConnectionId)
  | message (links : Links) (peer : NegotiatedPeer) (message : WireMessage)
  | completion (links : Links) (index : Nat)
  | payload (links : Links)
  | work
  | lost
  | retry
  | installed (backend : β) (observed : NativeGeneration)

structure HostOutput where
  effects : List Effect
  reply : Option ActorReply

def HostInput.links? {β : Type} : HostInput β → Option Links
  | .hook links _ | .connected links _ _ | .disconnected links _ _ _ | .message links _ _
  | .completion links _
  | .payload links => some links
  | .work | .lost | .retry | .installed _ _ => none

namespace AuthorityHost

variable {β : Type}

def start (config : ClipboardConfig) (server : HostId) (session : ProcessSessionId)
    (authoritySession : AuthoritySessionId) : AuthorityHost β :=
  let core := authority config server session authoritySession
  ⟨core, core.startNativeActor, none, [], [], none⟩

def ready (config : ClipboardConfig) (server : HostId) (session : ProcessSessionId)
    (authoritySession : AuthoritySessionId) (backend : β) (observed : NativeGeneration) : AuthorityHost β :=
  ⟨(authority config server session authoritySession).installActor, none,
    some (.spawned backend session server ⟨authoritySession, 0, server⟩ observed), [], [], none⟩

def admits (s : AuthorityHost β) (peer : NegotiatedPeer) (message : WireMessage) : Bool :=
  s.core.coordinator.any fun c => s.core.localHost.any fun host =>
    match metadataValidator (.authority c.authoritySessionId)
      peer host s.core.processSessionId message.metadata with
    | .ok _ => true
    | .error _ => false

theorem fromPeer_of_admits {s : AuthorityHost β} {peer : NegotiatedPeer} {message : WireMessage}
    (admitted : s.admits peer message = true) : message.fromPeer = true := by
  obtain ⟨c, -, admitted⟩ := Option.any_eq_true _ _ |>.mp admitted
  obtain ⟨host, -, admitted⟩ := Option.any_eq_true _ _ |>.mp admitted
  split at admitted
  · rename_i valid
    exact fromPeer_of_valid valid
  · contradiction

def takes (s : AuthorityHost β) (turned : Turned) : AuthorityHost β × HostOutput :=
  ({ s with core := turned.1, queue := s.queue ++ commandsOf turned.2 }, ⟨turned.2, none⟩)

def slotAnswer (s : AuthorityHost β) : TrySend := if s.slot.isSome then .full else .sent

variable [ClipboardBackend β]

def works (s : AuthorityHost β) : Option (AuthorityHost β × HostOutput) :=
  match s.thread, s.queue with
  | some thread, command :: queue =>
    (thread.step ⟨command, s.slotAnswer⟩).map fun (thread, reply) =>
      ({ s with
        thread := some thread
        queue
        completions := s.completions ++ [(command, reply.event)]
        slot := s.slot.or (reply.acts.filterMap (·.payload?)).head? }, ⟨[], some reply⟩)
  | _, _ => none

def step (s : AuthorityHost β) : HostInput β → Option (AuthorityHost β × HostOutput)
  | .hook links hook => some (s.takes (s.core.handle links hook))
  | .connected links connectionId hello =>
    some (s.takes (s.core.handleTransportEvent links
      (.connected (hello.negotiated connectionId s.core.maxBytes))))
  | .disconnected links host session connectionId =>
    some (s.takes (s.core.handleTransportEvent links (.disconnected host session connectionId)))
  | .message links peer message =>
    if s.admits peer message then
      some (s.takes (s.core.handleTransportEvent links
        (.message peer.hostId peer.processSessionId peer.connectionId message)))
    else none
  | .completion links index =>
    s.completions[index]?.map fun (command, event) =>
      { s with completions := s.completions.eraseIdx index }.takes
        (s.core.handleActorEvent links command event)
  | .payload links =>
    s.slot.map fun payload => { s with slot := none }.takes (s.core.handleActorPayload links payload)
  | .work => s.works
  | .lost =>
    if s.thread.isSome then
      some ({ s with core := s.core.uninstallActor, thread := none, queue := [], slot := none }, ⟨[], none⟩)
    else none
  | .retry =>
    if s.thread.isNone then some ({ s with starting := s.core.startNativeActor }, ⟨[], none⟩) else none
  | .installed backend observed =>
    match s.starting, s.core.localHost with
    | some token, some host =>
      some ({ s with
        core := s.core.installActor
        starting := none
        thread := some (.spawned backend s.core.processSessionId host token observed)
        queue := []
        slot := none }, ⟨[], none⟩)
    | _, _ => none

/-- All that a step can do. -/
inductive Moves (s : AuthorityHost β) (c : Coordinator) (i : HostInput β) (o : HostOutput)
    (s' : AuthorityHost β) :
    Prop where
  | hooked (links : Links) (hook : ServiceHook) (call : i = .hook links hook)
    (is : (s', o) = s.takes (s.core.handle links hook))
  | answered (links : Links) (brought : Option ClipboardData) (contact : Contact) (turned : Turned)
    (linked : i.links? = some links) (answers : s.core.Answers links c brought contact turned)
    (brings : ∀ data, brought = some data → s.slot.map (·.data) = some data)
    (joins : ∀ peer, contact = .joined peer → ∃ connectionId hello, i = .connected links connectionId hello ∧
      peer = hello.negotiated connectionId s.core.maxBytes)
    (is : s' = { s with
      core := turned.1
      queue := s.queue ++ commandsOf turned.2
      completions := s'.completions
      slot := s'.slot })
    (slot : s'.slot = s.slot ∨ s'.slot = none) (output : o = ⟨turned.2, none⟩)
  | worked (t t' : ActorThread β) (command : ActorCommand) (reply : ActorReply) (call : i = .work)
    (was : s.thread = some t) (taken : s.queue = command :: s'.queue)
    (answer : t.step ⟨command, s.slotAnswer⟩ = some (t', reply))
    (is : s' = { s with
      thread := some t'
      queue := s'.queue
      completions := s.completions ++ [(command, reply.event)]
      slot := s.slot.or (reply.acts.filterMap (·.payload?)).head? }) (output : o = ⟨[], some reply⟩)
  | lost (call : i = .lost) (is : s' = { s with
      core := s.core.uninstallActor
      thread := none
      queue := []
      slot := none }) (output : o = ⟨[], none⟩)
  | retried (call : i = .retry) (gone : s.thread = none)
    (is : s' = { s with starting := s.core.startNativeActor })
    (output : o = ⟨[], none⟩)
  | installed (backend : β) (host : HostId) (token : OwnershipToken) (observed : NativeGeneration)
    (call : i = .installed backend observed) (started : s.starting = some token) (is : s' = { s with
      core := s.core.installActor
      starting := none
      thread := some (.spawned backend s.core.processSessionId host token observed)
      queue := []
      slot := none }) (output : o = ⟨[], none⟩)

theorem step_moves {s s' : AuthorityHost β} {c : Coordinator} {i : HostInput β} {o : HostOutput}
    (authority : s.core.role = .authority c) (step : s.step i = some (s', o)) : Moves s c i o s' := by
  cases i with
  | hook links hook => exact .hooked links hook rfl (Option.some.inj step).symm
  | connected links connectionId hello =>
    obtain ⟨rfl, rfl⟩ := Prod.mk.inj (Option.some.inj step)
    exact .answered links none _ _ rfl (connected_answers authority _) nofun
      (fun peer joins => ⟨connectionId, hello, rfl, (Contact.joined.inj joins).symm⟩) rfl (.inl rfl) rfl
  | disconnected links host session connectionId =>
    obtain ⟨rfl, rfl⟩ := Prod.mk.inj (Option.some.inj step)
    refine .answered links none _ _ rfl
      (disconnected_answers authority host session connectionId) nofun ?_ rfl (.inl rfl) rfl
    intro peer joins
    split at joins <;> contradiction
  | message links peer message =>
    simp only [AuthorityHost.step] at step
    split at step
    · rename_i admitted
      obtain ⟨rfl, rfl⟩ := Prod.mk.inj (Option.some.inj step)
      refine .answered links none .settled _ rfl ?_ nofun nofun rfl (.inl rfl) rfl
      simp only [handleTransportEvent]
      split
      · exact handleWireMessage_answers authority _ (fromPeer_of_admits admitted)
      · exact answers_rest authority none
    · contradiction
  | completion links index =>
    obtain ⟨⟨command, event⟩, -, taken⟩ := Option.map_eq_some_iff.mp step
    obtain ⟨rfl, rfl⟩ := Prod.mk.inj taken
    exact .answered links none .settled _ rfl (handleActorEvent_answers authority command event)
      nofun nofun
      rfl (.inl rfl) rfl
  | payload links =>
    obtain ⟨payload, waits, taken⟩ := Option.map_eq_some_iff.mp step
    obtain ⟨rfl, rfl⟩ := Prod.mk.inj taken
    refine .answered links (some payload.data) .settled _ rfl
      (handleActorPayload_answers authority payload)
      ?_ nofun rfl (.inr rfl) rfl
    rintro _ ⟨⟩
    rw [waits, Option.map_some]
  | work =>
    simp only [AuthorityHost.step, works] at step
    split at step
    · rename_i t command queue was taken
      obtain ⟨⟨t', reply⟩, answer, taken'⟩ := Option.map_eq_some_iff.mp step
      obtain ⟨rfl, rfl⟩ := Prod.mk.inj taken'
      exact .worked t t' command reply rfl was taken answer rfl rfl
    · contradiction
  | lost =>
    simp only [AuthorityHost.step] at step
    split at step
    · obtain ⟨rfl, rfl⟩ := Prod.mk.inj (Option.some.inj step)
      exact .lost rfl rfl rfl
    · contradiction
  | retry =>
    simp only [AuthorityHost.step] at step
    split at step
    · rename_i gone
      obtain ⟨rfl, rfl⟩ := Prod.mk.inj (Option.some.inj step)
      exact .retried rfl (Option.isNone_iff_eq_none.mp gone) rfl rfl
    · contradiction
  | installed backend observed =>
    simp only [AuthorityHost.step] at step
    split at step
    · rename_i token host started _
      obtain ⟨rfl, rfl⟩ := Prod.mk.inj (Option.some.inj step)
      exact .installed backend host token observed rfl started rfl rfl
    · contradiction

end AuthorityHost

def authorityHost {β : Type} [ClipboardBackend β] : Machine (AuthorityHost β) (HostInput β) HostOutput :=
  ⟨AuthorityHost.step⟩

abbrev HostEntry (β : Type) := Entry (AuthorityHost β) (HostInput β) HostOutput

end DisplayMux.Clipboard
