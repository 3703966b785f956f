import DisplayMux.Lib.Slab
import DisplayMux.LanMouse.Event

/-! The clients that the service knows, stored under slab handles. Beside its data
each client carries the number of clients added before it. The program has no such
number: it tells a client apart from a later one under the same handle. -/
namespace DisplayMux.LanMouse

inductive IpAddr where
  | v4 (bits : UInt32)
  | v6 (bits : BitVec 128)
  deriving DecidableEq, Repr

structure SocketAddr where
  ip : IpAddr
  port : UInt16
  deriving DecidableEq, Repr

abbrev ClientHandle := Nat

def defaultPort : UInt16 := 4242

structure ClientConfig where
  hostname : Option String
  fixIps : List IpAddr
  port : UInt16
  pos : Position
  deriving DecidableEq, Repr

structure ClientState where
  active : Bool
  activeAddr : Option SocketAddr
  alive : Bool
  keyboardReady : Bool
  pointerReady : Bool
  peerSessionEpoch : UInt64
  dnsIps : List IpAddr
  ips : List IpAddr
  peerCommit : Option (Vector UInt8 8)
  deriving DecidableEq, Repr

def ClientConfig.default : ClientConfig := ⟨none, [], defaultPort, .left⟩

def ClientState.default : ClientState := ⟨false, none, false, false, false, 0, [], [], none⟩

structure ConfigClient where
  ips : List IpAddr
  hostname : Option String
  port : UInt16
  pos : Position
  active : Bool
  deriving DecidableEq, Repr

structure Client where
  id : Nat
  config : ClientConfig
  state : ClientState
  deriving DecidableEq, Repr

structure ClientManager where
  clients : Slab Client
  added : Nat

namespace ClientManager

def empty : ClientManager := ⟨.empty, 0⟩

def get (m : ClientManager) (handle : ClientHandle) : Option Client := m.clients.get handle

def edit (m : ClientManager) (handle : ClientHandle) (f : Client → Client) : ClientManager :=
  { m with clients := m.clients.modify handle f }

variable {m : ClientManager}

theorem get_edit (handle key : ClientHandle) (f : Client → Client) :
    (m.edit handle f).get key = if key = handle then (m.get key).map f else m.get key :=
  Slab.get_modify handle key

def setConfig (m : ClientManager) (handle : ClientHandle) (config : ClientConfig) : ClientManager :=
  m.edit handle fun c => { c with config }

def setState (m : ClientManager) (handle : ClientHandle) (f : ClientState → ClientState) : ClientManager :=
  m.edit handle fun c => { c with state := f c.state }

def addClient (m : ClientManager) : ClientManager × ClientHandle :=
  (⟨m.clients.insert ⟨m.added, .default, .default⟩, m.added + 1⟩, m.clients.nextKey)

def addWithConfig (m : ClientManager) (c : ConfigClient) : ClientManager × ClientHandle :=
  let (m, handle) := m.addClient
  let m := m.setConfig handle ⟨c.hostname, c.ips, c.port, c.pos⟩
  (m.setState handle fun _ => { ClientState.default with active := c.active, ips := c.ips }, handle)

@[simp] theorem addWithConfig_handle (m : ClientManager) (c : ConfigClient) :
    (m.addWithConfig c).2 = m.clients.nextKey := rfl

theorem get_addWithConfig (c : ConfigClient) (key : ClientHandle) :
    (m.addWithConfig c).1.get key = if key = m.clients.nextKey then
      some ⟨m.added, ⟨c.hostname, c.ips, c.port, c.pos⟩,
        { ClientState.default with active := c.active, ips := c.ips }⟩
    else m.get key := by
  change (((m.addClient.1.setConfig m.clients.nextKey _).setState m.clients.nextKey _).get key) = _
  rw [setState, get_edit, setConfig, get_edit]
  have added : m.addClient.1.get key = if key = m.clients.nextKey then _ else m.get key :=
    Slab.get_insert key
  rw [added]
  split <;> simp

def removeClient (m : ClientManager) (handle : ClientHandle) : ClientManager :=
  { m with clients := m.clients.remove handle }

theorem get_removeClient (handle key : ClientHandle) :
    (m.removeClient handle).get key = if key = handle then none else m.get key :=
  Slab.get_remove handle key

def registeredClients (m : ClientManager) : List ClientHandle := m.clients.keys

def clientAt (m : ClientManager) (pos : Position) : Option ClientHandle :=
  m.clients.keys.find? fun handle => (m.get handle).any fun c => c.state.active ∧ c.config.pos = pos

def deactivateClient (m : ClientManager) (handle : ClientHandle) : ClientManager :=
  m.setState handle fun s => { s with active := false }

/-- Activating a client deactivates the one that is active at its side. -/
def activateClient (m : ClientManager) (handle : ClientHandle) : ClientManager :=
  match m.get handle with
  | none => m
  | some c =>
    let m := match m.clientAt c.config.pos with
      | some other => if other ≠ handle then m.deactivateClient other else m
      | none => m
    m.setState handle fun s => { s with active := true }

def Client.updateIps (c : Client) : Client :=
  { c with state := { c.state with ips := (c.config.fixIps ++ c.state.dnsIps).dedup } }

def setFixIps (m : ClientManager) (handle : ClientHandle) (fixIps : List IpAddr) : ClientManager :=
  m.edit handle fun c => Client.updateIps { c with config := { c.config with fixIps } }

def setDnsIps (m : ClientManager) (handle : ClientHandle) (dnsIps : List IpAddr) : ClientManager :=
  m.edit handle fun c => Client.updateIps { c with state := { c.state with dnsIps } }

def setHostname (m : ClientManager) (handle : ClientHandle) (hostname : Option String) : ClientManager :=
  m.edit handle fun c =>
    if c.config.hostname = hostname then c
    else Client.updateIps { c with
      config := { c.config with hostname }
      state := { c.state with activeAddr := none, dnsIps := [] } }

/-- The active address follows the port. -/
def setPort (m : ClientManager) (handle : ClientHandle) (port : UInt16) : ClientManager :=
  m.edit handle fun c =>
    if c.config.port = port then c
    else { c with
      config := { c.config with port }
      state := { c.state with activeAddr := c.state.activeAddr.map fun addr => ⟨addr.ip, port⟩ } }

/-- A client that moves to another side while active is deactivated and activated. -/
def setPos (m : ClientManager) (handle : ClientHandle) (pos : Position) : ClientManager :=
  match m.get handle with
  | none => m
  | some c =>
    if c.config.pos = pos then m
    else
      let m := m.edit handle fun c => { c with config := { c.config with pos } }
      if c.state.active then (m.deactivateClient handle).activateClient handle else m

def setActiveAddr (m : ClientManager) (handle : ClientHandle) (addr : Option SocketAddr) : ClientManager :=
  m.setState handle fun s => { s with activeAddr := addr }

def setAlive (m : ClientManager) (handle : ClientHandle) (alive : Bool) : ClientManager :=
  m.setState handle fun s => { s with alive }

def setPeerCommit (m : ClientManager) (handle : ClientHandle) (commit : Option (Vector UInt8 8)) :
    ClientManager × Bool :=
  (m.setState handle fun s => { s with peerCommit := commit },
    (m.get handle).any fun c => c.state.peerCommit ≠ commit)

def setPeerReadiness (m : ClientManager) (handle : ClientHandle) (keyboardReady pointerReady : Bool)
    (sessionEpoch : UInt64) : ClientManager :=
  if sessionEpoch = 0 ∧ (keyboardReady = true ∨ pointerReady = true) then m
  else m.setState handle fun s =>
    { s with keyboardReady, pointerReady, peerSessionEpoch := sessionEpoch }

def clearPeerReadiness (m : ClientManager) (handle : ClientHandle) : ClientManager :=
  m.setState handle fun s =>
    { s with keyboardReady := false, pointerReady := false, peerSessionEpoch := 0 }

def forgetPeer (m : ClientManager) (handle : ClientHandle) : ClientManager :=
  let m := (m.setActiveAddr handle none).setAlive handle false
  (m.setPeerCommit handle none).1.clearPeerReadiness handle

def activeAddr (m : ClientManager) (handle : ClientHandle) : Option SocketAddr :=
  (m.get handle).bind (·.state.activeAddr)

def alive (m : ClientManager) (handle : ClientHandle) : Bool := (m.get handle).any (·.state.alive)

def addConfigured (m : ClientManager) (c : ConfigClient) : ClientManager :=
  let added := m.addWithConfig c
  if c.active then (added.1.deactivateClient added.2).activateClient added.2 else added.1

def removeAll (m : ClientManager) : ClientManager := m.registeredClients.foldl removeClient m

/-- A changed configuration file: every client is removed, and those of the file are added. -/
def reload (m : ClientManager) (configs : List ConfigClient) : ClientManager :=
  configs.foldl addConfigured m.removeAll

end ClientManager

end DisplayMux.LanMouse
