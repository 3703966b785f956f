import Mathlib.Data.List.AList
import DisplayMux.Lib.Machine
import DisplayMux.Lib.Saturating
import DisplayMux.Clipboard.Transport

/-! The connections of the clipboard transport: the registry that admits them, beside the table
of those that are served. -/
namespace DisplayMux.Clipboard

structure PeerRegistry where
  nextConnectionId : UInt64
  peers : AList fun _ : HostId => NegotiatedPeer

inductive RegistrationOutcome where
  | accepted (peer : NegotiatedPeer)
  | replaced (previousConnectionId : ConnectionId) (peer : NegotiatedPeer)
  | duplicateRejected (activeConnectionId : ConnectionId)
  deriving DecidableEq

structure ActiveConnection where
  processSessionId : ProcessSessionId
  connectionId : ConnectionId

structure Manager where
  registry : PeerRegistry
  active : AList fun _ : HostId => ActiveConnection

/-- A connection comes with the host that its certificate names, and `room` tells whether the
event queue takes what is sent. -/
inductive ManagerEvent where
  | connection (authenticated : HostId) (hello : ClipboardHello) (room : Bool)
  | ended (hostId : HostId) (connectionId : ConnectionId) (room : Bool)

inductive ManagerAct where
  | connected (peer : NegotiatedPeer)
  | disconnected (hostId : HostId) (processSessionId : ProcessSessionId) (connectionId : ConnectionId)
  | shutdown (connectionId : ConnectionId)

namespace PeerRegistry

def register (r : PeerRegistry) (authenticated : HostId) (hello : ClipboardHello) (localMaxBytes : UInt64) :
    Except TransportError RegistrationOutcome × PeerRegistry :=
  if authenticated ≠ hello.hostId then (.error .hostIdentityMismatch, r)
  else match (r.peers.lookup authenticated).filter (·.processSessionId = hello.processSessionId) with
    | some active => (.ok (.duplicateRejected active.connectionId), r)
    | none => match checkedAdd r.nextConnectionId.toNat 1 with
      | none => (.error .identityExhausted, r)
      | some connectionId =>
        let peer := hello.negotiated (.ofNat connectionId) localMaxBytes
        let registry := ⟨.ofNat connectionId, r.peers.insert peer.hostId peer⟩
        match r.peers.lookup peer.hostId with
        | some previous => (.ok (.replaced previous.connectionId peer), registry)
        | none => (.ok (.accepted peer), registry)

def unregister (r : PeerRegistry) (hostId : HostId) (connectionId : ConnectionId) : PeerRegistry :=
  if (r.peers.lookup hostId).any (·.connectionId = connectionId) then { r with peers := r.peers.erase hostId }
  else r

/-- The connection is of the host that it claims, in a process session that is not registered,
and there is a number left for it. -/
def admits (r : PeerRegistry) (authenticated : HostId) (hello : ClipboardHello) : Bool :=
  authenticated = hello.hostId ∧ r.nextConnectionId.toNat + 1 ≤ u64Max ∧
    (r.peers.lookup hello.hostId).all (·.processSessionId ≠ hello.processSessionId) = true

end PeerRegistry

namespace Manager

def new : Manager := ⟨⟨0, ∅⟩, ∅⟩

/-- A connection is served once its start is reported. -/
def start (m : Manager) (peer : NegotiatedPeer) (room : Bool) : Manager × List ManagerAct :=
  if room then
    ({ m with active := m.active.insert peer.hostId ⟨peer.processSessionId, peer.connectionId⟩ },
      [.connected peer])
  else (m, [.shutdown peer.connectionId])

def step (maxBytes : UInt64) (m : Manager) : ManagerEvent → Manager × List ManagerAct
  | .connection authenticated hello room =>
    match m.registry.register authenticated hello maxBytes with
    | (.ok (.accepted peer), registry) => start { m with registry } peer room
    | (.ok (.replaced _ peer), registry) =>
      let previous := (m.active.lookup peer.hostId).toList.map fun c => .shutdown c.connectionId
      let (m, acts) := start ⟨registry, m.active.erase peer.hostId⟩ peer room
      (m, previous ++ acts)
    | (.ok (.duplicateRejected _), registry) | (.error _, registry) => ({ m with registry }, [])
  | .ended hostId connectionId room =>
    match (m.active.lookup hostId).filter (·.connectionId = connectionId) with
    | some connection =>
      (⟨m.registry.unregister hostId connectionId, m.active.erase hostId⟩,
        if room then [.disconnected hostId connection.processSessionId connectionId] else [])
    | none => (m, [])

/-- The registry and the table have the same hosts, under the same numbers. -/
def Agrees (m : Manager) : Prop :=
  ∀ host, (m.registry.peers.lookup host).map (·.connectionId) = (m.active.lookup host).map (·.connectionId)

/-- The event queue has room for the start of a connection that is admitted. -/
def roomy (m : Manager) : ManagerEvent → Bool
  | .connection authenticated hello room => room || !m.registry.admits authenticated hello
  | .ended _ _ _ => true

end Manager

def runManager (maxBytes : UInt64) : Machine Manager ManagerEvent (List ManagerAct) :=
  ⟨fun m event => some (m.step maxBytes event)⟩

section Registration

variable {r : PeerRegistry} {authenticated : HostId} {hello : ClipboardHello} (maxBytes : UInt64)

theorem PeerRegistry.register_admitted (admits : r.admits authenticated hello = true) :
    ∃ id, r.register authenticated hello maxBytes =
      (.ok (match r.peers.lookup hello.hostId with
        | some previous => .replaced previous.connectionId (hello.negotiated id maxBytes)
        | none => .accepted (hello.negotiated id maxBytes)),
      ⟨id, r.peers.insert hello.hostId (hello.negotiated id maxBytes)⟩) := by
  obtain ⟨rfl, room, other⟩ := of_decide_eq_true admits
  have fresh : (r.peers.lookup hello.hostId).filter (·.processSessionId = hello.processSessionId) = none := by
    cases found : r.peers.lookup hello.hostId with
    | none => rfl
    | some peer => simpa [found] using other
  refine ⟨.ofNat (r.nextConnectionId.toNat + 1), ?_⟩
  simp only [register, fresh, checkedAdd, room, ne_eq, not_true, if_true, if_false, ClipboardHello.negotiated]
  cases r.peers.lookup hello.hostId <;> rfl

theorem PeerRegistry.register_refused (refused : r.admits authenticated hello = false) :
    (∃ error, r.register authenticated hello maxBytes = (.error error, r)) ∨
      ∃ id, r.register authenticated hello maxBytes = (.ok (.duplicateRejected id), r) := by
  unfold register
  split
  · exact .inl ⟨_, rfl⟩
  rename_i own
  split
  · exact .inr ⟨_, rfl⟩
  rename_i fresh
  split
  · exact .inl ⟨_, rfl⟩
  · rename_i id next
    have other : (r.peers.lookup hello.hostId).all (·.processSessionId ≠ hello.processSessionId) = true := by
      rw [not_ne_iff.mp own] at fresh
      cases found : r.peers.lookup hello.hostId <;> simp_all
    have allowed : r.admits authenticated hello = true :=
      decide_eq_true ⟨not_ne_iff.mp own, (checkedAdd_eq_some.mp next).1, other⟩
    rw [allowed] at refused
    contradiction

end Registration

namespace Manager

variable {m m' : Manager} {maxBytes : UInt64} {trace : List (Entry Manager ManagerEvent (List ManagerAct))}

theorem Agrees.started (agrees : m.Agrees) (peer : NegotiatedPeer) (id : UInt64) (room : Bool) {active}
    (others : ∀ host ≠ peer.hostId, active.lookup host = m.active.lookup host)
    (gone : active.lookup peer.hostId = none) :
    (start ⟨⟨id, m.registry.peers.insert peer.hostId peer⟩, active⟩ peer room).1.Agrees ↔ room = true := by
  cases room with
  | false =>
    refine iff_of_false (fun now => ?_) Bool.false_ne_true
    have here := now peer.hostId
    simp [start, gone] at here
  | true =>
    refine iff_of_true (fun host => ?_) rfl
    by_cases own : host = peer.hostId
    · subst own
      simp [start]
    · simp [start, AList.lookup_insert_ne own, others host own, agrees host]

theorem step_agrees_iff (agrees : m.Agrees) (event : ManagerEvent) :
    (m.step maxBytes event).1.Agrees ↔ m.roomy event = true := by
  cases event with
  | connection authenticated hello room =>
    cases admits : m.registry.admits authenticated hello with
    | true =>
      obtain ⟨id, registered⟩ := PeerRegistry.register_admitted maxBytes admits
      cases known : m.registry.peers.lookup hello.hostId with
      | none =>
        have idle : m.active.lookup hello.hostId = none := by simpa [known] using (agrees hello.hostId).symm
        have started := agrees.started (hello.negotiated id maxBytes) id room (fun _ _ => rfl) idle
        simpa [step, registered, known, roomy, admits, ClipboardHello.negotiated] using started
      | some previous =>
        have started := agrees.started (hello.negotiated id maxBytes) id room
          (fun host other => AList.lookup_erase_ne other) (AList.lookup_erase _ _)
        simpa [step, registered, known, roomy, admits, ClipboardHello.negotiated] using started
    | false =>
      refine iff_of_true ?_ (by simp [roomy, admits])
      rcases PeerRegistry.register_refused maxBytes admits with ⟨error, refused⟩ | ⟨id, refused⟩ <;>
        simpa [step, refused] using agrees
  | ended hostId connectionId room =>
    refine iff_of_true ?_ rfl
    unfold step
    dsimp only
    split
    · rename_i connection found
      obtain ⟨served, own⟩ := Option.filter_eq_some_iff.mp found
      obtain rfl : connection.connectionId = connectionId := by simpa using own
      intro host
      have known : (m.registry.peers.lookup hostId).any (·.connectionId = connection.connectionId) = true := by
        have same := agrees hostId
        rw [served, Option.map_some, Option.map_eq_some_iff] at same
        obtain ⟨peer, there, own⟩ := same
        simp [there, own]
      by_cases own : host = hostId
      · subst own
        simp [PeerRegistry.unregister, known]
      · simp [PeerRegistry.unregister, known, AList.lookup_erase_ne own, agrees host]
    · exact agrees

theorem agrees_iff_roomy (run : Run (runManager maxBytes) .new trace m) :
    ((∀ e ∈ trace, e.post.Agrees) ↔ ∀ e ∈ trace, e.pre.roomy e.input = true) ∧
      ((∀ e ∈ trace, e.post.Agrees) → m.Agrees) := by
  refine run.history (P := fun trace m =>
    ((∀ e ∈ trace, e.post.Agrees) ↔ ∀ e ∈ trace, e.pre.roomy e.input = true) ∧
      ((∀ e ∈ trace, e.post.Agrees) → m.Agrees)) ⟨by simp, fun _ _ => rfl⟩ ?_
  intro trace m event m' acts _ before stepped
  obtain rfl : (m.step maxBytes event).1 = m' := congrArg Prod.fst (Option.some.inj stepped)
  simp only [List.forall_mem_append, List.forall_mem_singleton, ← before.1]
  exact ⟨and_congr_right fun agree => step_agrees_iff (before.2 agree) event, fun agree => agree.2⟩

/-- The registry agrees with the connections that are served after every event exactly when the
event queue had room for the start of every admitted connection. A host without a connection is
then admitted again, under any process session. -/
theorem registry_agrees_iff (run : Run (runManager maxBytes) .new trace m) :
    ((∀ e ∈ trace, e.post.Agrees) ↔ ∀ e ∈ trace, e.pre.roomy e.input = true) ∧
      ((∀ e ∈ trace, e.post.Agrees) → ∀ hello : ClipboardHello, m.active.lookup hello.hostId = none →
        m.registry.nextConnectionId.toNat < u64Max →
        ∃ peer, (m.registry.register hello.hostId hello maxBytes).1 = .ok (.accepted peer)) := by
  refine ⟨(agrees_iff_roomy run).1, fun agree hello gone left => ?_⟩
  have absent : m.registry.peers.lookup hello.hostId = none := by
    simpa [gone] using (agrees_iff_roomy run).2 agree hello.hostId
  have admits : m.registry.admits hello.hostId hello = true := decide_eq_true ⟨rfl, left, by simp [absent]⟩
  obtain ⟨id, registered⟩ := PeerRegistry.register_admitted maxBytes admits
  exact ⟨hello.negotiated id maxBytes, by rw [registered, absent]⟩

def hello (session : ProcessSessionId) : ClipboardHello := ⟨"mac", session, clipboardTextV1, 64⟩

/-- The host restarts and connects anew, the end of its first connection comes late, and then its
second connection ends. -/
theorem restarted_host_admitted : ∃ trace m, Run (runManager 64) .new trace m ∧
    (∀ e ∈ trace, e.post.Agrees) ∧
    ∃ peer, (m.registry.register "mac" (hello 3) 64).1 = .ok (.accepted peer) := by
  obtain ⟨trace, m, run, room, count, gone⟩ := (runManager 64).exists_run .new
    [.connection "mac" (hello 2) true, .connection "mac" (hello 3) true, .ended "mac" 1 true,
      .ended "mac" 2 false]
    (fun trace m => (∀ e ∈ trace, e.pre.roomy e.input = true) ∧ m.registry.nextConnectionId = 2 ∧
      m.active.lookup "mac" = none) (by decide)
  have law := registry_agrees_iff run
  exact ⟨trace, m, run, law.1.mpr room, law.2 (law.1.mpr room) (hello 3) gone (by rw [count]; decide)⟩

/-- The start of a connection finds the event queue full. Its end changes nothing: no connection is
served, and the host is turned away as a duplicate. -/
theorem dropped_start_locks_host_out : ∃ trace m, Run (runManager 64) .new trace m ∧ ¬ m.Agrees ∧
    m.active.lookup "mac" = none ∧
    (m.registry.register "mac" (hello 2) 64).1 = .ok (.duplicateRejected 1) := by
  obtain ⟨trace, m, run, known, gone, refused⟩ := (runManager 64).exists_run .new
    [.connection "mac" (hello 2) false, .ended "mac" 1 true]
    (fun _ m => (m.registry.peers.lookup "mac").map (·.connectionId) = some 1 ∧ m.active.lookup "mac" = none ∧
      (m.registry.register "mac" (hello 2) 64).1 = .ok (.duplicateRejected 1)) (by decide)
  refine ⟨trace, m, run, fun agrees => ?_, gone, refused⟩
  simp [agrees "mac", gone] at known

end Manager

end DisplayMux.Clipboard
