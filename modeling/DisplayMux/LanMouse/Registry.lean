import DisplayMux.LanMouse.Client
import DisplayMux.LanMouse.EdgeIntent

/-! The clients and the incoming connections of the service, and the captures that are
registered for them. A client has a capture while it is active; an incoming connection
has one that only watches for the pointer. The target of a client is kept beside its
other settings. -/
namespace DisplayMux.LanMouse

structure Incoming where
  fingerprint : String
  addr : SocketAddr
  pos : Position
  deriving DecidableEq, Repr

inductive RegistryAct where
  | create (handle : CaptureHandle) (pos : Position) (type : CaptureType)
  | destroy (handle : CaptureHandle)
  | resolve (handle : ClientHandle) (hostname : String)
  deriving DecidableEq, Repr

structure Registry where
  clients : ClientManager
  switchTargets : AList fun _ : ClientHandle => SwitchHost
  edgeIntentGate : Option EdgeIntentGate
  incomingConns : List SocketAddr
  incomingConnInfo : List (CaptureHandle × Incoming)
  nextTriggerHandle : Nat

abbrev Configured := ConfigClient × Option SwitchHost

inductive PeerChange where
  | activeAddr (addr : Option SocketAddr)
  | alive (alive : Bool)
  | commit (commit : Option (Vector UInt8 8))
  | readiness (keyboardReady pointerReady : Bool) (sessionEpoch : UInt64)
  | cleared
  deriving DecidableEq, Repr

structure RegistryScene where
  registry : Registry
  log : List RegistryAct

abbrev RegistryM := EStateM String RegistryScene

namespace RegistryScene

def record (s : RegistryScene) (act : RegistryAct) : RegistryScene := { s with log := s.log ++ [act] }

def withRegistry (s : RegistryScene) (registry : Registry) : RegistryScene := { s with registry }

@[simp] theorem withRegistry_registry (s : RegistryScene) (registry : Registry) :
    (s.withRegistry registry).registry = registry := rfl

end RegistryScene

namespace Registry

/-- The first handle for an incoming connection. The keys of the clients are smaller,
because no table has room for that many entries. -/
def enterHandleBegin : Nat := u64Max / 2 + 1

def new (gate : Option EdgeIntentGate) : Registry := ⟨.empty, ∅, gate, [], [], 0⟩

def isActive (r : Registry) (handle : ClientHandle) : Bool := (r.clients.get handle).any (·.state.active)

def switchTarget (r : Registry) (handle : ClientHandle) : Option SwitchHost := r.switchTargets.lookup handle

/-- The first active client that has the address. -/
def getClient (r : Registry) (addr : SocketAddr) : Option ClientHandle :=
  r.clients.registeredClients.find? fun handle =>
    (r.clients.get handle).any fun c => c.state.active ∧ addr.ip ∈ c.state.ips

def withClients (r : Registry) (clients : ClientManager) : Registry := { r with clients }

@[simp] theorem withClients_clients (r : Registry) (clients : ClientManager) :
    (r.withClients clients).clients = clients := rfl

@[simp] theorem withClients_incomingConnInfo (r : Registry) (clients : ClientManager) :
    (r.withClients clients).incomingConnInfo = r.incomingConnInfo := rfl

@[simp] theorem withClients_nextTriggerHandle (r : Registry) (clients : ClientManager) :
    (r.withClients clients).nextTriggerHandle = r.nextTriggerHandle := rfl

def forgetIntent (r : Registry) (handle : ClientHandle) : Registry :=
  { r with edgeIntentGate := r.edgeIntentGate.map (·.remove handle) }

def setSwitchTarget (r : Registry) (handle : ClientHandle) (target : Option SwitchHost) : Registry :=
  match target with
  | none => { r with switchTargets := r.switchTargets.erase handle }
  | some host => { r with switchTargets := r.switchTargets.insert handle host }

def changePeer (r : Registry) (handle : ClientHandle) : PeerChange → Registry
  | .activeAddr addr => r.withClients (r.clients.setActiveAddr handle addr)
  | .alive alive => r.withClients (r.clients.setAlive handle alive)
  | .commit commit => r.withClients (r.clients.setPeerCommit handle commit).1
  | .readiness keyboardReady pointerReady sessionEpoch =>
    r.withClients (r.clients.setPeerReadiness handle keyboardReady pointerReady sessionEpoch)
  | .cleared => r.withClients (r.clients.clearPeerReadiness handle)

def perform (act : RegistryAct) : RegistryM Unit := modify fun s => s.record act

def update (f : Registry → Registry) : RegistryM Unit := modify fun s => s.withRegistry (f s.registry)

def resolve (handle : ClientHandle) : RegistryM Unit := do
  match ((← get).registry.clients.get handle).bind (·.config.hostname) with
  | none => return
  | some hostname => perform (.resolve handle hostname)

def deactivateClient (handle : ClientHandle) : RegistryM Unit := do
  update (·.forgetIntent handle)
  if (← get).registry.isActive handle then
    update fun r => r.withClients (r.clients.deactivateClient handle)
    perform (.destroy handle)

def activateClient (handle : ClientHandle) : RegistryM Unit := do
  resolve handle
  match (← get).registry.clients.get handle with
  | none => return
  | some client =>
    match (← get).registry.clients.clientAt client.config.pos with
    | none => pure ()
    | some other => if other ≠ handle then deactivateClient other
    unless (← get).registry.isActive handle do
      update fun r => r.withClients (r.clients.setState handle fun s => { s with active := true })
      perform (.create handle client.config.pos .default)

def setClientActive (handle : ClientHandle) (active : Bool) : RegistryM Unit :=
  if active then activateClient handle else deactivateClient handle

/-- The table of clients cannot grow up to the handles of the incoming connections. -/
def reserveHandle : RegistryM Unit := do
  unless (← get).registry.clients.clients.nextKey < enterHandleBegin do
    throw "capacity overflow"

def addClient : RegistryM Unit := do
  reserveHandle
  update fun r => r.withClients r.clients.addClient.1

def addWithConfig (c : Configured) : RegistryM ClientHandle := do
  reserveHandle
  let (clients, handle) := (← get).registry.clients.addWithConfig c.1
  update fun r => (r.withClients clients).setSwitchTarget handle c.2
  return handle

def removeClient (handle : ClientHandle) : RegistryM Unit := do
  update (·.forgetIntent handle)
  let active := (← get).registry.isActive handle
  update fun r => (r.withClients (r.clients.removeClient handle)).setSwitchTarget handle none
  if active then perform (.destroy handle)

def updateFixIps (handle : ClientHandle) (fixIps : List IpAddr) : RegistryM Unit :=
  update fun r => r.withClients (r.clients.setFixIps handle fixIps)

def updateHostname (handle : ClientHandle) (hostname : Option String) : RegistryM Unit := do
  let changed := ((← get).registry.clients.get handle).any (·.config.hostname ≠ hostname)
  update fun r => r.withClients (r.clients.setHostname handle hostname)
  if changed then resolve handle

def updatePort (handle : ClientHandle) (port : UInt16) : RegistryM Unit :=
  update fun r => r.withClients (r.clients.setPort handle port)

def updatePos (handle : ClientHandle) (pos : Position) : RegistryM Unit := do
  update (·.forgetIntent handle)
  let required := ((← get).registry.clients.get handle).any fun c => c.config.pos ≠ pos ∧ c.state.active
  update fun r => r.withClients (r.clients.edit handle fun c => { c with config := { c.config with pos } })
  if required then
    deactivateClient handle
    activateClient handle

def updateSwitchTarget (handle : ClientHandle) (target : Option SwitchHost) : RegistryM Unit := do
  update (·.forgetIntent handle)
  if ((← get).registry.clients.get handle).isSome then
    update (·.setSwitchTarget handle target)

def addIncoming (addr : SocketAddr) (pos : Position) (fingerprint : String) : RegistryM Unit := do
  let r := (← get).registry
  match checkedAdd enterHandleBegin r.nextTriggerHandle with
  | none => throw "attempt to add with overflow"
  | some handle =>
    perform (.create handle pos .enterOnly)
    update fun r => { r with
      nextTriggerHandle := r.nextTriggerHandle + 1
      incomingConns := r.incomingConns.insert addr
      incomingConnInfo := r.incomingConnInfo ++ [(handle, ⟨fingerprint, addr, pos⟩)] }

def removeIncoming (addr : SocketAddr) : RegistryM Unit := do
  match (← get).registry.incomingConnInfo.find? (·.2.addr = addr) with
  | none => return
  | some (handle, _) =>
    perform (.destroy handle)
    update fun r => { r with
      incomingConns := r.incomingConns.erase addr
      incomingConnInfo := r.incomingConnInfo.filter (·.1 ≠ handle) }

/-- A changed connection is removed and added again under a new handle. -/
def updateIncoming (addr : SocketAddr) (pos : Position) (fingerprint : String) : RegistryM Unit := do
  match (← get).registry.incomingConnInfo.find? (·.2.addr = addr) with
  | none => throw "no such client"
  | some (_, incoming) =>
    if incoming.fingerprint ≠ fingerprint ∨ incoming.pos ≠ pos then
      removeIncoming addr
      addIncoming addr pos fingerprint

def entered (addr : SocketAddr) (pos : Position) (fingerprint : String) : RegistryM Unit := do
  if addr ∈ (← get).registry.incomingConns then updateIncoming addr pos fingerprint
  else addIncoming addr pos fingerprint

def addConfigured (c : Configured) : RegistryM Unit := do
  let handle ← addWithConfig c
  if (← get).registry.isActive handle then
    update fun r => r.withClients (r.clients.deactivateClient handle)
    activateClient handle

/-- A changed configuration file: every client is removed, and those of the file are added. -/
def reload (configs : List Configured) : RegistryM Unit := do
  (← get).registry.clients.registeredClients.forM removeClient
  configs.forM addConfigured

/-- Before the service handles events, it activates the clients that are to be active. -/
def start (configs : List Configured) : RegistryM Unit := do
  configs.forM fun c => discard (addWithConfig c)
  let clients := (← get).registry.clients
  let active := clients.registeredClients.filter fun handle => (clients.get handle).any (·.state.active)
  active.forM fun handle => update fun r => r.withClients (r.clients.deactivateClient handle)
  active.forM activateClient

end Registry

end DisplayMux.LanMouse
