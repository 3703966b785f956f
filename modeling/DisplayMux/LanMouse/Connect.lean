import Mathlib.Data.List.AList
import DisplayMux.Lib.Machine
import DisplayMux.LanMouse.Client

/-! The outgoing connections: the tasks that open, watch and read them, and `send`.
A step is what one task does between two points at which it waits for the network, for
a timer or to be started. The locks around `conns` and `connecting` are never held
across such a point, so taking one is not a step of its own. -/
namespace DisplayMux.LanMouse

structure Attempt where
  handle : ClientHandle
  owner : Nat
  addrs : List SocketAddr
  deriving DecidableEq, Repr

/-- An established connection with what its two tasks remember. Both know the client
by its handle only; `owner` is the client whose addresses were tried. -/
structure Connection where
  handle : ClientHandle
  addr : SocketAddr
  owner : Nat
  latestPeerSessionEpoch : Option UInt64
  receiving : Bool
  pinging : Bool
  deriving DecidableEq, Repr

/-- A `send` whose transport has not answered. -/
structure PendingSend where
  handle : ClientHandle
  addr : SocketAddr
  conn : Nat
  deriving DecidableEq, Repr

/-- Connections are numbered in the order in which they were established. -/
structure Network where
  clients : ClientManager
  conns : AList fun _ : SocketAddr => Nat
  connecting : List ClientHandle
  pingResponse : List SocketAddr
  spawned : List ClientHandle
  attempts : List Attempt
  links : List Connection
  sending : List PendingSend

inductive Signal where
  | deliver (handle : ClientHandle) (event : ProtoEvent)
  | transmit (conn : Nat) (event : ProtoEvent)
  deriving DecidableEq, Repr

/-- What the service, the network and the timers do next. A datagram is `none` when it
does not decode. -/
inductive Move where
  | create
  | delete (handle : ClientHandle)
  | reload (configs : List ConfigClient)
  | setActive (handle : ClientHandle) (active : Bool)
  | setFixIps (handle : ClientHandle) (ips : List IpAddr)
  | setDnsIps (handle : ClientHandle) (ips : List IpAddr)
  | setHostname (handle : ClientHandle) (hostname : Option String)
  | setPort (handle : ClientHandle) (port : UInt16)
  | setPos (handle : ClientHandle) (pos : Position)
  | request (handle : ClientHandle)
  | start (task : Nat)
  | attemptFailed (attempt : Nat)
  | established (attempt : Nat) (addr : SocketAddr)
  | datagram (conn : Nat) (event : Option ProtoEvent)
  | receiveFailed (conn : Nat)
  | pingFailed (conn : Nat)
  | pingRound (conn : Nat)
  | send (event : ProtoEvent) (handle : ClientHandle) (ok : Bool)
  | sendFailed (pending : Nat)
  deriving DecidableEq, Repr

def acceptReadinessEpoch (latest : Option UInt64) (keyboardReady pointerReady : Bool)
    (candidate : UInt64) : Option UInt64 × Bool :=
  if candidate = 0 then (latest, latest.isNone && !keyboardReady && !pointerReady)
  else if latest.any (candidate < ·) then (latest, false)
  else (some candidate, true)

namespace Network

def new (configs : List ConfigClient) : Network :=
  ⟨configs.foldl (fun m c => (m.addWithConfig c).1) .empty, ∅, [], [], [], [], [], []⟩

def client (n : Network) (handle : ClientHandle) : Option Client := n.clients.get handle

def withClients (n : Network) (clients : ClientManager) : Network := { n with clients }

def setLink (n : Network) (conn : Nat) (link : Connection) : Network :=
  { n with links := n.links.set conn link }

/-- `conns` holds this very connection at the address. -/
def current (n : Network) (addr : SocketAddr) (conn : Nat) : Bool := n.conns.lookup addr = some conn

/-- A task is spawned for a client that is active and has no address. -/
def requestConnection (n : Network) (handle : ClientHandle) : Network :=
  if (n.clients.activeAddr handle).isSome ∨ ¬ (n.client handle).any (·.state.active) then n
  else { n with spawned := n.spawned ++ [handle] }

/-- The spawned task runs until it waits for the handshakes. -/
def startTask (n : Network) (task : Nat) : Option Network := do
  let handle ← n.spawned[task]?
  let n := { n with spawned := n.spawned.eraseIdx task }
  if handle ∈ n.connecting then return n
  match n.client handle with
  | none => return n
  | some c => return { n with
      connecting := handle :: n.connecting
      attempts := n.attempts ++ [⟨handle, c.id, c.state.ips.map fun ip => ⟨ip, c.config.port⟩⟩] }

def attemptFailed (n : Network) (attempt : Nat) : Option Network := do
  let a ← n.attempts[attempt]?
  return { n with
    attempts := n.attempts.eraseIdx attempt
    connecting := n.connecting.erase a.handle }

def register (n : Network) (link : Connection) : Network :=
  { n with conns := n.conns.insert link.addr n.links.length, links := n.links ++ [link] }

def established (n : Network) (attempt : Nat) (addr : SocketAddr) : Option Network := do
  let a ← n.attempts[attempt]?
  if addr ∈ a.addrs then
    let n := n.withClients (n.clients.setActiveAddr a.handle (some addr))
    let n := n.register ⟨a.handle, addr, a.owner, none, true, true⟩
    return { n with
      connecting := n.connecting.erase a.handle
      attempts := n.attempts.eraseIdx attempt }
  else none

def disconnect (n : Network) (handle : ClientHandle) (addr : SocketAddr) (conn : Nat) :
    Network × Bool :=
  if n.current addr conn then
    ({ n with conns := n.conns.erase addr, clients := n.clients.forgetPeer handle }, true)
  else (n, false)

def forgetPing (n : Network) (addr : SocketAddr) : Network :=
  { n with pingResponse := n.pingResponse.erase addr }

def failConnection (n : Network) (handle : ClientHandle) (addr : SocketAddr) (conn : Nat) :
    Network × List Signal :=
  let ended := (n.forgetPing addr).disconnect handle addr conn
  (ended.1, if ended.2 then [.deliver handle (.readiness false false 0)] else [])

def recordPong (m : ClientManager) (handle : ClientHandle) (addr : SocketAddr) : ClientManager :=
  (m.setActiveAddr handle (some addr)).setAlive handle true

def receive (n : Network) (conn : Nat) (link : Connection) : ProtoEvent → Network × List Signal
  | .pong _ =>
    ({ n with
        clients := recordPong n.clients link.handle link.addr
        pingResponse := n.pingResponse.insert link.addr }, [])
  | .hello commit =>
    let (m, changed) := n.clients.setPeerCommit link.handle (some commit)
    (n.withClients m, if changed then [.deliver link.handle (.hello commit)] else [])
  | .readiness keyboardReady pointerReady sessionEpoch =>
    match acceptReadinessEpoch link.latestPeerSessionEpoch keyboardReady pointerReady sessionEpoch with
    | (_, false) => (n, [])
    | (latest, true) =>
      let n := n.setLink conn { link with latestPeerSessionEpoch := latest }
      (n.withClients (n.clients.setPeerReadiness link.handle keyboardReady pointerReady sessionEpoch),
        [.deliver link.handle (.readiness keyboardReady pointerReady sessionEpoch)])
  | event => (n, [.deliver link.handle event])

/-- The receive loop ends, on an error or because the connection was replaced. -/
def endReceive (n : Network) (conn : Nat) (link : Connection) : Network × List Signal :=
  (n.setLink conn { link with receiving := false }).failConnection link.handle link.addr conn

def endPing (n : Network) (conn : Nat) (link : Connection) : Network × List Signal :=
  (n.setLink conn { link with pinging := false }).failConnection link.handle link.addr conn

def datagram (n : Network) (conn : Nat) (event : Option ProtoEvent) :
    Option (Network × List Signal) := do
  let link ← n.links[conn]?
  if link.receiving = false then none
  else if n.current link.addr conn then
    match event with
    | none => return (n, [])
    | some event => return n.receive conn link event
  else return n.endReceive conn link

def receiveFailed (n : Network) (conn : Nat) : Option (Network × List Signal) := do
  let link ← n.links[conn]?
  if link.receiving then return n.endReceive conn link else none

def pingFailed (n : Network) (conn : Nat) : Option (Network × List Signal) := do
  let link ← n.links[conn]?
  if link.pinging then return n.endPing conn link else none

/-- After four pings at least one answer must have come. -/
def pingRound (n : Network) (conn : Nat) : Option (Network × List Signal) := do
  let link ← n.links[conn]?
  if link.pinging = false then none
  else if link.addr ∈ n.pingResponse then
    return (n.forgetPing link.addr, [])
  else return n.endPing conn link

/-- `LanMouseConnection::send` up to the answer of the transport. -/
def send (n : Network) (event : ProtoEvent) (handle : ClientHandle) (ok : Bool) :
    Network × List Signal :=
  match (n.clients.activeAddr handle).bind fun addr => (n.conns.lookup addr).map (addr, ·) with
  | none => (n.requestConnection handle, [])
  | some (addr, conn) =>
    if n.clients.alive handle = false then (n, [])
    else if ok then (n, [.transmit conn event])
    else ({ n with sending := n.sending ++ [⟨handle, addr, conn⟩] }, [.transmit conn event])

def sendFailed (n : Network) (pending : Nat) : Option (Network × List Signal) := do
  let p ← n.sending[pending]?
  return { n with sending := n.sending.eraseIdx pending }.failConnection p.handle p.addr p.conn

def manage (m : ClientManager) : Move → Option ClientManager
  | .create => some m.addClient.1
  | .delete handle => some (m.removeClient handle)
  | .reload configs => some (m.reload configs)
  | .setActive handle true => some (m.activateClient handle)
  | .setActive handle false => some (m.deactivateClient handle)
  | .setFixIps handle ips => some (m.setFixIps handle ips)
  | .setDnsIps handle ips => some (m.setDnsIps handle ips)
  | .setHostname handle hostname => some (m.setHostname handle hostname)
  | .setPort handle port => some (m.setPort handle port)
  | .setPos handle pos => some (m.setPos handle pos)
  | _ => none

def step (n : Network) : Move → Option (Network × List Signal)
  | .request handle => some (n.requestConnection handle, [])
  | .start task => (n.startTask task).map (·, [])
  | .attemptFailed attempt => (n.attemptFailed attempt).map (·, [])
  | .established attempt addr => (n.established attempt addr).map (·, [])
  | .datagram conn event => n.datagram conn event
  | .receiveFailed conn => n.receiveFailed conn
  | .pingFailed conn => n.pingFailed conn
  | .pingRound conn => n.pingRound conn
  | .send event handle ok => some (n.send event handle ok)
  | .sendFailed pending => n.sendFailed pending
  | move => (manage n.clients move).map fun m => (n.withClients m, [])

section Inversion

variable {n n' : Network} {conn : Nat} {out : List Signal}

theorem datagram_cases {event : Option ProtoEvent} (step : n.datagram conn event = some (n', out)) :
    ∃ link, n.links[conn]? = some link ∧
      ((n.current link.addr conn = true ∧
          ((event = none ∧ n' = n ∧ out = []) ∨
            ∃ e, event = some e ∧ n.receive conn link e = (n', out))) ∨
        (n.current link.addr conn = false ∧ n.endReceive conn link = (n', out))) := by
  simp only [datagram, Option.bind_eq_bind, Option.bind_eq_some_iff] at step
  obtain ⟨link, found, step⟩ := step
  refine ⟨link, found, ?_⟩
  split at step
  · cases step
  split at step
  · rename_i current
    refine .inl ⟨current, ?_⟩
    cases event with
    | none =>
      cases step
      exact .inl ⟨rfl, rfl, rfl⟩
    | some event => exact .inr ⟨event, rfl, Option.some.inj step⟩
  · rename_i stale
    exact .inr ⟨Bool.eq_false_iff.mpr stale, Option.some.inj step⟩

theorem receiveFailed_ends (step : n.receiveFailed conn = some (n', out)) :
    ∃ link, n.links[conn]? = some link ∧ n.endReceive conn link = (n', out) := by
  simp only [receiveFailed, Option.bind_eq_bind, Option.bind_eq_some_iff] at step
  obtain ⟨link, found, step⟩ := step
  split at step
  · exact ⟨link, found, Option.some.inj step⟩
  · cases step

theorem pingFailed_ends (step : n.pingFailed conn = some (n', out)) :
    ∃ link, n.links[conn]? = some link ∧ n.endPing conn link = (n', out) := by
  simp only [pingFailed, Option.bind_eq_bind, Option.bind_eq_some_iff] at step
  obtain ⟨link, found, step⟩ := step
  split at step
  · exact ⟨link, found, Option.some.inj step⟩
  · cases step

theorem pingRound_cases (step : n.pingRound conn = some (n', out)) :
    ∃ link, n.links[conn]? = some link ∧
      ((link.addr ∈ n.pingResponse ∧ n' = n.forgetPing link.addr ∧ out = []) ∨
        (link.addr ∉ n.pingResponse ∧ n.endPing conn link = (n', out))) := by
  simp only [pingRound, Option.bind_eq_bind, Option.bind_eq_some_iff] at step
  obtain ⟨link, found, step⟩ := step
  refine ⟨link, found, ?_⟩
  split at step
  · cases step
  split at step
  · rename_i answered
    cases step
    exact .inl ⟨answered, rfl, rfl⟩
  · rename_i unanswered
    exact .inr ⟨unanswered, Option.some.inj step⟩

end Inversion

end Network

def lanMouse : Machine Network Move (List Signal) := ⟨Network.step⟩

abbrev NetworkEntry := Entry Network Move (List Signal)

end DisplayMux.LanMouse
