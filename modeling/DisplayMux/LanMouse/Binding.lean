import DisplayMux.LanMouse.Connect

/-! A connection serves the client it was opened for and no other, as long as no handle
and no address is taken over from a client that still has one. -/
namespace DisplayMux.LanMouse

open ClientManager

/-- The part of a client that no peer decides. -/
def Client.settings (c : Client) := (c.id, c.config, c.state.active, c.state.dnsIps, c.state.ips)

namespace ClientManager

variable {m m' m'' : ClientManager}

def keysFor (m : ClientManager) : List ConfigClient → List ClientHandle
  | [] => []
  | c :: configs => m.clients.nextKey :: (m.addConfigured c).keysFor configs

/-- The clients of `m'` are clients of `m`, perhaps without their address, or were added
under one of the `keys` and have none. -/
def Grows (keys : List ClientHandle) (m m' : ClientManager) : Prop :=
  ∀ handle c', m'.get handle = some c' →
    (handle ∈ keys ∧ c'.state.activeAddr = none) ∨
    ∃ c, m.get handle = some c ∧ c'.id = c.id ∧
      (c'.state.activeAddr = c.state.activeAddr ∨ c'.state.activeAddr = none)

theorem Grows.refl : Grows [] m m := fun _ c' stored => .inr ⟨c', stored, rfl, .inl rfl⟩

theorem Grows.trans {keys keys' : List ClientHandle} (first : Grows keys m m')
    (second : Grows keys' m' m'') : Grows (keys ++ keys') m m'' := by
  intro handle c'' stored
  rcases second handle c'' stored with ⟨key, unset⟩ | ⟨c', stored', same', addr'⟩
  · exact .inl ⟨List.mem_append_right _ key, unset⟩
  rcases first handle c' stored' with ⟨key, unset⟩ | ⟨c, stored, same, addr⟩
  · refine .inl ⟨List.mem_append_left _ key, ?_⟩
    rcases addr' with kept | gone
    · rw [kept, unset]
    · exact gone
  · refine .inr ⟨c, stored, same'.trans same, ?_⟩
    rcases addr' with kept | gone
    · rwa [kept]
    · exact .inr gone

section

variable (handle : ClientHandle) (configs : List ConfigClient)

theorem grows_edit {f : Client → Client} (same : ∀ c, (f c).id = c.id)
    (addr : ∀ c, (f c).state.activeAddr = c.state.activeAddr ∨ (f c).state.activeAddr = none) :
    Grows [] m (m.edit handle f) := by
  intro key c' stored
  rw [get_edit] at stored
  split at stored
  · obtain ⟨c, found, rfl⟩ := Option.map_eq_some_iff.mp stored
    exact .inr ⟨c, found, same c, addr c⟩
  · exact .inr ⟨c', stored, rfl, .inl rfl⟩

theorem grows_setState {f : ClientState → ClientState}
    (addr : ∀ s, (f s).activeAddr = s.activeAddr ∨ (f s).activeAddr = none) :
    Grows [] m (m.setState handle f) :=
  grows_edit handle (fun _ => rfl) fun c => addr c.state

theorem grows_deactivate : Grows [] m (m.deactivateClient handle) :=
  grows_setState handle fun _ => .inl rfl

theorem grows_activate : Grows [] m (m.activateClient handle) := by
  unfold activateClient
  split
  · exact .refl
  split
  · split
    · exact (grows_deactivate _).trans (grows_setState handle fun _ => .inl rfl)
    · exact grows_setState handle fun _ => .inl rfl
  · exact grows_setState handle fun _ => .inl rfl

theorem grows_remove : Grows [] m (m.removeClient handle) := by
  intro key c' stored
  have found : (if key = handle then none else m.get key) = some c' :=
    (Slab.get_remove handle key).symm.trans stored
  split at found
  · contradiction
  · exact .inr ⟨c', found, rfl, .inl rfl⟩

theorem grows_removeAll : Grows [] m m.removeAll := by
  unfold removeAll
  generalize m.registeredClients = handles
  induction handles generalizing m with
  | nil => exact .refl
  | cons handle handles ih => exact (grows_remove handle).trans ih

theorem grows_add : Grows [m.clients.nextKey] m m.addClient.1 := by
  intro key c' stored
  have found : (if key = m.clients.nextKey then some ⟨m.added, .default, .default⟩ else m.get key)
      = some c' := (Slab.get_insert key).symm.trans stored
  split at found
  · rename_i new
    cases found
    exact .inl ⟨by simp [new], rfl⟩
  · exact .inr ⟨c', found, rfl, .inl rfl⟩

theorem grows_setConfig (config : ClientConfig) : Grows [] m (m.setConfig handle config) :=
  grows_edit handle (fun _ => rfl) fun _ => .inl rfl

theorem grows_addConfigured (c : ConfigClient) : Grows [m.clients.nextKey] m (m.addConfigured c) := by
  have added : Grows [m.clients.nextKey] m (m.addWithConfig c).1 :=
    grows_add.trans ((grows_setConfig _ _).trans (grows_setState _ fun _ => .inr rfl))
  unfold addConfigured
  split
  · exact added.trans ((grows_deactivate _).trans (grows_activate _))
  · exact added

theorem grows_addAll : Grows (m.keysFor configs) m (configs.foldl addConfigured m) := by
  induction configs generalizing m with
  | nil => exact .refl
  | cons c configs ih => exact (grows_addConfigured c).trans ih

theorem grows_reload : Grows (m.removeAll.keysFor configs) m (m.reload configs) :=
  grows_removeAll.trans (grows_addAll configs)

theorem grows_setPos (pos : Position) : Grows [] m (m.setPos handle pos) := by
  unfold setPos
  split
  · exact .refl
  split
  · exact .refl
  have moved : Grows [] m (m.edit handle fun c => { c with config := { c.config with pos } }) :=
    grows_edit handle (fun _ => rfl) fun _ => .inl rfl
  split
  · exact moved.trans ((grows_deactivate handle).trans (grows_activate handle))
  · exact moved

theorem grows_setHostname (hostname : Option String) : Grows [] m (m.setHostname handle hostname) := by
  refine grows_edit handle (fun c => ?_) fun c => ?_
  · split <;> rfl
  · split
    · exact .inl rfl
    · exact .inr rfl

theorem grows_setPeerReadiness (keyboardReady pointerReady : Bool) (sessionEpoch : UInt64) :
    Grows [] m (m.setPeerReadiness handle keyboardReady pointerReady sessionEpoch) := by
  unfold setPeerReadiness
  split
  · exact .refl
  · exact grows_setState handle fun _ => .inl rfl

theorem grows_forgetPeer : Grows [] m (m.forgetPeer handle) := by
  have unset : Grows [] m (m.setActiveAddr handle none) := grows_setState handle fun _ => .inr rfl
  have dead (m : ClientManager) : Grows [] m (m.setAlive handle false) :=
    grows_setState handle fun _ => .inl rfl
  have unnamed (m : ClientManager) : Grows [] m (m.setPeerCommit handle none).1 :=
    grows_setState handle fun _ => .inl rfl
  have unready (m : ClientManager) : Grows [] m (m.clearPeerReadiness handle) :=
    grows_setState handle fun _ => .inl rfl
  exact unset.trans ((dead _).trans ((unnamed _).trans (unready _)))

end

def Touches (handle : ClientHandle) (m m' : ClientManager) : Prop :=
  ∃ f : Client → Client, (∀ c, (f c).settings = c.settings) ∧
    ∀ key, m'.get key = if key = handle then (m.get key).map f else m.get key

theorem Touches.refl (handle : ClientHandle) : Touches handle m m :=
  ⟨id, fun _ => rfl, by simp⟩

theorem Touches.trans {handle : ClientHandle} (first : Touches handle m m')
    (second : Touches handle m' m'') : Touches handle m m'' := by
  obtain ⟨f, keepsF, gets⟩ := first
  obtain ⟨g, keepsG, gets'⟩ := second
  refine ⟨g ∘ f, fun c => (keepsG (f c)).trans (keepsF c), ?_⟩
  intro key
  rw [gets' key, gets key]
  split
  · simp
  · rfl

theorem touches_setState (handle : ClientHandle) {f : ClientState → ClientState}
    (keeps : ∀ s, (f s).active = s.active ∧ (f s).dnsIps = s.dnsIps ∧ (f s).ips = s.ips) :
    Touches handle m (m.setState handle f) := by
  refine ⟨fun c => { c with state := f c.state }, ?_, fun key => get_edit handle key _⟩
  intro c
  obtain ⟨active, dnsIps, ips⟩ := keeps c.state
  simp [Client.settings, active, dnsIps, ips]

end ClientManager

def Connection.ident (l : Connection) := (l.handle, l.addr, l.owner)

namespace Network

variable {n n' : Network}

def inUse (n : Network) (handle : ClientHandle) : Bool :=
  n.attempts.any (·.handle = handle) ||
    n.links.zipIdx.any fun (l, conn) => l.handle = handle && n.current l.addr conn

def serves (n : Network) (addr : SocketAddr) (id : Nat) : Bool :=
  (n.conns.lookup addr).all fun conn => n.links[conn]?.all (·.owner = id)

/-- The move gives a handle that is in use to a new client, or an address that another
client uses to this one. -/
def collides (n : Network) : Move → Bool
  | .create => n.inUse n.clients.clients.nextKey
  | .reload configs => (n.clients.removeAll.keysFor configs).any n.inUse
  | .established attempt addr =>
    n.attempts[attempt]?.any fun a =>
      n.clients.clients.values.any fun c => c.state.activeAddr = some addr && c.id ≠ a.owner
  | .setPort handle port =>
    (n.client handle).any fun c => c.config.port ≠ port &&
      c.state.activeAddr.any fun addr => !n.serves ⟨addr.ip, port⟩ c.id
  | _ => false

/-- Whatever is connecting or connected under the client's handle or at its address was
opened for it. -/
structure Fits (n : Network) (handle : ClientHandle) (c : Client) : Prop where
  attempted : ∀ a ∈ n.attempts, a.handle = handle → a.owner = c.id
  linked : ∀ conn l, n.links[conn]? = some l → n.conns.lookup l.addr = some conn →
    l.handle = handle → l.owner = c.id
  addressed : ∀ conn l, n.links[conn]? = some l → n.conns.lookup l.addr = some conn →
    c.state.activeAddr = some l.addr → l.owner = c.id

structure Bound (n : Network) : Prop where
  known : ∀ addr conn, n.conns.lookup addr = some conn →
    ∃ l, n.links[conn]? = some l ∧ l.addr = addr
  fits : ∀ handle c, n.client handle = some c → n.Fits handle c

variable {conn : Nat} {out : List Signal} {handle : ClientHandle} {l : Connection}
  {event : Option ProtoEvent} {l l' : Connection}

theorem Fits.edit {c c' : Client} (fits : n.Fits handle c) (same : c'.id = c.id)
    (addr : c'.state.activeAddr = c.state.activeAddr ∨ c'.state.activeAddr = none) :
    n.Fits handle c' := by
  refine ⟨?_, ?_, ?_⟩
  · intro a member here
    exact (fits.attempted a member here).trans same.symm
  · intro conn l found current here
    exact (fits.linked conn l found current here).trans same.symm
  · intro conn l found current here
    rcases addr with kept | gone
    · exact (fits.addressed conn l found current (kept.symm.trans here)).trans same.symm
    · simp [gone] at here

theorem fits_of_unused {c : Client} (unused : n.inUse handle = false)
    (unset : c.state.activeAddr = none) : n.Fits handle c := by
  simp only [inUse, Bool.or_eq_false_iff, List.any_eq_false, decide_eq_true_eq] at unused
  refine ⟨?_, ?_, ?_⟩
  · intro a member here
    exact absurd here (unused.1 a member)
  · intro conn l found current here
    have member : (l, conn) ∈ n.links.zipIdx := List.mem_zipIdx_iff_getElem?.mpr found
    exact absurd (unused.2 _ member) (by simp [Network.current, here, current])
  · intro conn l _ _ here
    simp [unset] at here

theorem Bound.grows (bound : n.Bound) {keys : List ClientHandle} {m : ClientManager}
    (grows : ClientManager.Grows keys n.clients m) (unused : ∀ key ∈ keys, n.inUse key = false) :
    (n.withClients m).Bound := by
  refine ⟨bound.known, ?_⟩
  intro handle c' stored
  have fits : n.Fits handle c' := by
    rcases grows handle c' stored with ⟨key, unset⟩ | ⟨c, found, same, addr⟩
    · exact fits_of_unused (unused handle key) unset
    · exact (bound.fits handle c found).edit same addr
  exact ⟨fits.attempted, fits.linked, fits.addressed⟩

theorem ident_of_links (links : n'.links.map Connection.ident = n.links.map Connection.ident)
    {l' : Connection} (found : n'.links[conn]? = some l') :
    ∃ l, n.links[conn]? = some l ∧ l.ident = l'.ident := by
  have same : (n.links.map Connection.ident)[conn]? = some l'.ident := by
    rw [← links, List.getElem?_map, found]
    rfl
  rw [List.getElem?_map, Option.map_eq_some_iff] at same
  exact same

theorem Bound.shrink (bound : n.Bound) (attempts : n'.attempts ⊆ n.attempts)
    (conns : ∀ addr conn, n'.conns.lookup addr = some conn → n.conns.lookup addr = some conn)
    (links : n'.links.map Connection.ident = n.links.map Connection.ident)
    (clients : ClientManager.Grows [] n.clients n'.clients) : n'.Bound := by
  refine ⟨?_, ?_⟩
  · intro addr conn current
    obtain ⟨l, found, here⟩ := bound.known addr conn (conns addr conn current)
    obtain ⟨l', found', same⟩ := ident_of_links links.symm found
    simp only [Connection.ident, Prod.mk.injEq] at same
    exact ⟨l', found', same.2.1.trans here⟩
  intro handle c' stored
  rcases clients handle c' stored with ⟨key, -⟩ | ⟨c, before, same, addr⟩
  · simp at key
  have fits := (bound.fits handle c before).edit same addr
  have registered {conn : Nat} {l' : Connection} (found' : n'.links[conn]? = some l')
      (current : n'.conns.lookup l'.addr = some conn) : ∃ l, n.links[conn]? = some l ∧
      n.conns.lookup l.addr = some conn ∧ l.handle = l'.handle ∧ l.addr = l'.addr ∧
      l.owner = l'.owner := by
    obtain ⟨l, found, ident⟩ := ident_of_links links found'
    simp only [Connection.ident, Prod.mk.injEq] at ident
    have old := conns _ _ current
    rw [← ident.2.1] at old
    exact ⟨l, found, old, ident⟩
  refine ⟨fun a member => fits.attempted a (attempts member), ?_, ?_⟩
  · intro conn l' found' current here
    obtain ⟨l, found, old, handle, -, owner⟩ := registered found' current
    exact owner ▸ fits.linked conn l found old (handle.trans here)
  · intro conn l' found' current here
    obtain ⟨l, found, old, -, addr, owner⟩ := registered found' current
    exact owner ▸ fits.addressed conn l found old (addr ▸ here)

theorem links_setLink (found : n.links[conn]? = some l) (same : l'.ident = l.ident) :
    (n.setLink conn l').links.map Connection.ident = n.links.map Connection.ident := by
  rw [setLink, List.map_set, same]
  refine List.ext_getElem? fun k => ?_
  by_cases here : conn = k
  · subst here
    obtain ⟨bound, rfl⟩ := List.getElem?_eq_some_iff.mp found
    simp [bound]
  · rw [List.getElem?_set_ne here]

section

variable (bound : n.Bound) (handle : ClientHandle) (addr : SocketAddr)
include bound

theorem Bound.setLink
    (found : n.links[conn]? = some l) (same : l'.ident = l.ident) : (n.setLink conn l').Bound :=
  bound.shrink (List.Subset.refl _) (fun _ _ current => current) (links_setLink found same) .refl

theorem Bound.disconnect (conn : Nat) : (n.disconnect handle addr conn).1.Bound := by
  unfold Network.disconnect
  split
  · refine bound.shrink (List.Subset.refl _) ?_ rfl ?_
    · intro addr' conn' current
      by_cases same : addr' = addr
      · subst same
        simp [AList.lookup_erase] at current
      · rwa [AList.lookup_erase_ne same] at current
    · exact grows_forgetPeer handle
  · exact bound

theorem Bound.failConnection (conn : Nat) : (n.failConnection handle addr conn).1.Bound := by
  have start : (n.forgetPing addr).Bound :=
    bound.shrink (List.Subset.refl _) (fun _ _ current => current) rfl .refl
  exact start.disconnect handle addr conn

theorem Bound.startTask {task : Nat} (started : n.startTask task = some n') : n'.Bound := by
  have idle (n' : Network) (rest : n' = { n with spawned := n.spawned.eraseIdx task }) : n'.Bound :=
    rest ▸ bound.shrink (List.Subset.refl _) (fun _ _ current => current) rfl .refl
  simp only [Network.startTask, Option.bind_eq_bind, Option.bind_eq_some_iff] at started
  obtain ⟨handle, -, started⟩ := started
  split at started
  · exact idle n' (Option.some.inj started).symm
  split at started
  · exact idle n' (Option.some.inj started).symm
  rename_i c stored
  cases started
  refine ⟨bound.known, ?_⟩
  intro key c' stored'
  have fits := bound.fits key c' stored'
  refine ⟨?_, fits.linked, fits.addressed⟩
  intro a member here
  rcases List.mem_append.mp member with old | new
  · exact fits.attempted a old here
  · obtain rfl := List.mem_singleton.mp new
    obtain rfl : handle = key := here
    exact congrArg Client.id (Option.some.inj (stored.symm.trans stored'))

theorem Bound.attemptFailed {attempt : Nat} (failed : n.attemptFailed attempt = some n') : n'.Bound := by
  simp only [Network.attemptFailed, Option.bind_eq_bind, Option.bind_eq_some_iff] at failed
  obtain ⟨a, -, failed⟩ := failed
  cases failed
  exact bound.shrink (List.eraseIdx_subset) (fun _ _ current => current) rfl .refl

end

theorem Bound.unique {conn conn' : Nat}
    (found : n.links[conn]? = some l) (current : n.conns.lookup l.addr = some conn)
    (found' : n.links[conn']? = some l') (current' : n.conns.lookup l'.addr = some conn')
    (same : l'.addr = l.addr) : l' = l := by
  rw [same, current] at current'
  obtain rfl := Option.some.inj current'
  exact Option.some.inj (found'.symm.trans found)

theorem Bound.address (bound : n.Bound)
    (found : n.links[conn]? = some l) (current : n.conns.lookup l.addr = some conn)
    (own : ∀ c, n.client handle = some c → l.owner = c.id) :
    (n.withClients (n.clients.setActiveAddr handle (some l.addr))).Bound := by
  refine ⟨bound.known, ?_⟩
  intro key c' stored
  have edited := (get_edit handle key _).symm.trans stored
  split at edited
  · rename_i here
    subst here
    obtain ⟨c, before, rfl⟩ := Option.map_eq_some_iff.mp edited
    have fits := bound.fits key c before
    refine ⟨fits.attempted, fits.linked, ?_⟩
    intro conn' l' found' current' addr
    have same := unique found current found' current' (Option.some.inj addr).symm
    exact same ▸ own c before
  · have fits := bound.fits key c' edited
    exact ⟨fits.attempted, fits.linked, fits.addressed⟩

theorem register_cases {link l : Connection} (found : (n.register link).links[conn]? = some l)
    (current : (n.register link).conns.lookup l.addr = some conn) :
    l = link ∨ (n.links[conn]? = some l ∧ n.conns.lookup l.addr = some conn) := by
  by_cases last : conn = n.links.length
  · subst last
    simp only [register, List.getElem?_concat_length, Option.some.injEq] at found
    exact .inl found.symm
  by_cases same : l.addr = link.addr
  · rw [same, register, AList.lookup_insert] at current
    exact absurd (Option.some.inj current).symm last
  rw [register, AList.lookup_insert_ne same] at current
  have bound : conn < n.links.length := by
    have total := (List.getElem?_eq_some_iff.mp found).1
    simp only [register, List.length_append, List.length_singleton] at total
    omega
  rw [register, List.getElem?_append_left bound] at found
  exact .inr ⟨found, current⟩

section

variable (bound : n.Bound)
include bound

theorem Bound.register {link : Connection} (handles : ∀ c, n.client link.handle = some c → link.owner = c.id)
    (addresses : ∀ handle c, n.client handle = some c → c.state.activeAddr = some link.addr →
      link.owner = c.id) : (n.register link).Bound := by
  refine ⟨?_, ?_⟩
  · intro addr conn current
    by_cases same : addr = link.addr
    · rw [same, Network.register, AList.lookup_insert] at current
      obtain rfl := Option.some.inj current
      exact ⟨link, by simp [Network.register], same.symm⟩
    · rw [Network.register, AList.lookup_insert_ne same] at current
      obtain ⟨l, found, here⟩ := bound.known addr conn current
      have inside := (List.getElem?_eq_some_iff.mp found).1
      exact ⟨l, by rw [Network.register, List.getElem?_append_left inside, found], here⟩
  intro handle c stored
  have fits := bound.fits handle c stored
  refine ⟨fits.attempted, ?_, ?_⟩
  · intro conn l found current here
    rcases register_cases found current with rfl | ⟨found, current⟩
    · subst here
      exact handles c stored
    · exact fits.linked conn l found current here
  · intro conn l found current here
    rcases register_cases found current with rfl | ⟨found, current⟩
    · exact addresses handle c stored here
    · exact fits.addressed conn l found current here

theorem Bound.established {attempt : Nat} {addr : SocketAddr}
    (apart : n.collides (.established attempt addr) = false)
    (done : n.established attempt addr = some n') : n'.Bound := by
  simp only [Network.established, Option.bind_eq_bind, Option.bind_eq_some_iff] at done
  obtain ⟨a, member, done⟩ := done
  split at done
  · cases done
    have others : ∀ c ∈ n.clients.clients.values, c.state.activeAddr = some addr → c.id = a.owner := by
      simpa [collides, member] using apart
    have own (c : Client) (stored : n.client a.handle = some c) : a.owner = c.id :=
      (bound.fits a.handle c stored).attempted a (List.mem_of_getElem? member) rfl
    let link : Connection := ⟨a.handle, addr, a.owner, none, true, true⟩
    have registered : (n.register link).Bound :=
      bound.register own fun _ c stored here => (others c (Slab.mem_values stored) here).symm
    have found : (n.register link).links[n.links.length]? = some link := by simp [Network.register]
    have current : (n.register link).conns.lookup link.addr = some n.links.length :=
      AList.lookup_insert n.conns
    have addressed := registered.address found current own
    exact addressed.shrink List.eraseIdx_subset (fun _ _ current => current) rfl .refl
  · contradiction

theorem Bound.setPort {port : UInt16} (apart : n.collides (.setPort handle port) = false) :
    (n.withClients (n.clients.setPort handle port)).Bound := by
  refine ⟨bound.known, ?_⟩
  intro key c' stored
  have edited := (get_edit handle key _).symm.trans stored
  split at edited
  · rename_i here
    subst here
    obtain ⟨c, before, rfl⟩ := Option.map_eq_some_iff.mp edited
    have fits := bound.fits key c before
    split
    · exact ⟨fits.attempted, fits.linked, fits.addressed⟩
    rename_i changed
    refine ⟨fits.attempted, fits.linked, ?_⟩
    intro conn l found current addr
    obtain ⟨old, had, moved⟩ := Option.map_eq_some_iff.mp addr
    have stored' : n.client key = some c := before
    have served : n.serves ⟨old.ip, port⟩ c.id = true := by
      simpa [collides, stored', changed, had] using apart
    have current' : n.conns.lookup l.addr = some conn := current
    have found' : n.links[conn]? = some l := found
    rw [moved] at served
    simpa [serves, current', found'] using served
  · have fits := bound.fits key c' edited
    exact ⟨fits.attempted, fits.linked, fits.addressed⟩

theorem Bound.receive
    (found : n.links[conn]? = some l) (current : n.current l.addr conn = true) (event : ProtoEvent) :
    (n.receive conn l event).1.Bound := by
  have here : n.conns.lookup l.addr = some conn := of_decide_eq_true current
  have own (c : Client) (stored : n.client l.handle = some c) : l.owner = c.id :=
    (bound.fits l.handle c stored).linked conn l found here rfl
  cases event with
  | pong _ =>
    have addressed := bound.address found here own
    refine addressed.shrink (List.Subset.refl _) (fun _ _ current => current) rfl ?_
    exact grows_setState l.handle fun _ => .inl rfl
  | hello commit =>
    exact bound.grows (grows_setState l.handle fun _ => .inl rfl) (by simp)
  | readiness keyboardReady pointerReady sessionEpoch =>
    simp only [Network.receive]
    split
    · exact bound
    · rename_i latest _
      have linked : (n.setLink conn { l with latestPeerSessionEpoch := latest }).Bound :=
        bound.setLink found rfl
      exact linked.grows (grows_setPeerReadiness _ _ _ _) (by simp)
  | enter _ | leave _ | ack _ | input _ | ping | releaseRequest _ | releaseAck _ => exact bound

theorem Bound.endReceive (found : n.links[conn]? = some l) : (n.endReceive conn l).1.Bound := by
  have stopped : (n.setLink conn { l with receiving := false }).Bound := bound.setLink found rfl
  exact stopped.failConnection l.handle l.addr conn

theorem Bound.endPing (found : n.links[conn]? = some l) : (n.endPing conn l).1.Bound := by
  have stopped : (n.setLink conn { l with pinging := false }).Bound := bound.setLink found rfl
  exact stopped.failConnection l.handle l.addr conn

theorem Bound.datagram (step : n.datagram conn event = some (n', out)) : n'.Bound := by
  obtain ⟨l, found, ⟨current, ⟨-, rfl, -⟩ | ⟨event, -, read⟩⟩ | ⟨-, closed⟩⟩ := datagram_cases step
  · exact bound
  · have received := bound.receive found current event
    rw [read] at received
    exact received
  · have ended := bound.endReceive found
    rw [closed] at ended
    exact ended

theorem Bound.receiveFailed (step : n.receiveFailed conn = some (n', out)) : n'.Bound := by
  obtain ⟨l, found, closed⟩ := receiveFailed_ends step
  have ended := bound.endReceive found
  rw [closed] at ended
  exact ended

theorem Bound.pingFailed (step : n.pingFailed conn = some (n', out)) : n'.Bound := by
  obtain ⟨l, found, closed⟩ := pingFailed_ends step
  have ended := bound.endPing found
  rw [closed] at ended
  exact ended

theorem Bound.frame (clients : n'.clients = n.clients) (conns : n'.conns = n.conns)
    (attempts : n'.attempts = n.attempts) (links : n'.links = n.links) : n'.Bound := by
  refine bound.shrink (fun _ member => attempts ▸ member) (by simp [conns]) (by rw [links]) ?_
  rw [clients]
  exact .refl

theorem Bound.pingRound (step : n.pingRound conn = some (n', out)) : n'.Bound := by
  obtain ⟨l, found, ⟨-, rfl, -⟩ | ⟨-, closed⟩⟩ := pingRound_cases step
  · exact bound.frame rfl rfl rfl rfl
  · have ended := bound.endPing found
    rw [closed] at ended
    exact ended

theorem Bound.requestConnection (handle : ClientHandle) : (n.requestConnection handle).Bound := by
  unfold Network.requestConnection
  split
  · exact bound
  · exact bound.frame rfl rfl rfl rfl

theorem Bound.send (event : ProtoEvent) (handle : ClientHandle) (ok : Bool) :
    (n.send event handle ok).1.Bound := by
  unfold Network.send
  split
  · exact bound.requestConnection handle
  split
  · exact bound
  · split
    · exact bound
    · exact bound.frame rfl rfl rfl rfl

theorem Bound.sendFailed {pending : Nat} (step : n.sendFailed pending = some (n', out)) : n'.Bound := by
  simp only [Network.sendFailed, Option.bind_eq_bind, Option.bind_eq_some_iff] at step
  obtain ⟨p, -, step⟩ := step
  have rest : ({ n with sending := n.sending.eraseIdx pending } : Network).Bound :=
    bound.frame rfl rfl rfl rfl
  have failed := rest.failConnection p.handle p.addr p.conn
  rw [Option.some.inj step] at failed
  exact failed

theorem Bound.manage {move : Move} {m : ClientManager}
    (apart : n.collides move = false) (managed : manage n.clients move = some m) :
    (n.withClients m).Bound := by
  cases move with
  | create =>
    cases managed
    exact bound.grows grows_add (by simpa [collides] using apart)
  | reload configs =>
    cases managed
    exact bound.grows (grows_reload configs) (by simpa [collides] using apart)
  | setPort handle port =>
    cases managed
    exact bound.setPort apart
  | setActive handle active =>
    cases active <;> cases managed
    · exact bound.grows (grows_deactivate handle) (by simp)
    · exact bound.grows (grows_activate handle) (by simp)
  | delete handle =>
    cases managed
    exact bound.grows (grows_remove handle) (by simp)
  | setHostname handle hostname =>
    cases managed
    exact bound.grows (grows_setHostname handle hostname) (by simp)
  | setPos handle pos =>
    cases managed
    exact bound.grows (grows_setPos handle pos) (by simp)
  | setFixIps handle ips | setDnsIps handle ips =>
    cases managed
    exact bound.grows (grows_edit handle (fun _ => rfl) fun _ => .inl rfl) (by simp)
  | request _ | start _ | attemptFailed _ | established _ _ | datagram _ _ | receiveFailed _
  | pingFailed _ | pingRound _ | send _ _ _ | sendFailed _ => contradiction

theorem Bound.step {move : Move}
    (apart : n.collides move = false) (step : n.step move = some (n', out)) : n'.Bound := by
  have alone {x : Option Network} (step : x.map (·, ([] : List Signal)) = some (n', out)) :
      x = some n' := by
    obtain ⟨_, found, same⟩ := Option.map_eq_some_iff.mp step
    rw [found, (Prod.mk.inj same).1]
  have managed (step : (Network.manage n.clients move).map (fun m => (n.withClients m, [])) =
      some (n', out)) : n'.Bound := by
    obtain ⟨m, managed, same⟩ := Option.map_eq_some_iff.mp step
    exact (Prod.mk.inj same).1 ▸ bound.manage apart managed
  cases move with
  | request handle =>
    cases step
    exact bound.requestConnection handle
  | start task => exact bound.startTask (alone step)
  | attemptFailed attempt => exact bound.attemptFailed (alone step)
  | established attempt addr => exact bound.established apart (alone step)
  | datagram conn event => exact bound.datagram step
  | receiveFailed conn => exact bound.receiveFailed step
  | pingFailed conn => exact bound.pingFailed step
  | pingRound conn => exact bound.pingRound step
  | send event handle ok =>
    have sent := bound.send event handle ok
    rw [Option.some.inj step] at sent
    exact sent
  | sendFailed pending => exact bound.sendFailed step
  | create | delete _ | reload _ | setActive _ _ | setFixIps _ _ | setDnsIps _ _ | setHostname _ _
  | setPort _ _ | setPos _ _ => exact managed step

end

theorem new_bound (configs : List ConfigClient) : (new configs).Bound :=
  ⟨by simp [new], fun _ _ _ => ⟨by simp [new], by simp [new], by simp [new]⟩⟩

theorem receive_touches (conn : Nat) (l : Connection) (event : ProtoEvent) :
    ClientManager.Touches l.handle n.clients (n.receive conn l event).1.clients := by
  cases event with
  | pong _ =>
    have addressed : ClientManager.Touches l.handle n.clients
        (n.clients.setActiveAddr l.handle (some l.addr)) :=
      touches_setState l.handle fun _ => ⟨rfl, rfl, rfl⟩
    exact addressed.trans (touches_setState l.handle fun _ => ⟨rfl, rfl, rfl⟩)
  | hello commit => exact touches_setState l.handle fun _ => ⟨rfl, rfl, rfl⟩
  | readiness keyboardReady pointerReady sessionEpoch =>
    simp only [Network.receive]
    split
    · exact .refl l.handle
    · simp only [withClients, setPeerReadiness]
      split
      · exact .refl l.handle
      · exact touches_setState l.handle fun _ => ⟨rfl, rfl, rfl⟩
  | enter _ | leave _ | ack _ | input _ | ping | releaseRequest _ | releaseAck _ =>
    exact .refl l.handle

theorem endReceive_stale (stale : n.current l.addr conn = false) :
    (n.endReceive conn l).1.clients = n.clients := by
  have apart : ((n.setLink conn { l with receiving := false }).forgetPing l.addr).current l.addr conn =
      false := stale
  simp only [endReceive, failConnection, disconnect, apart]
  rfl

theorem datagram_touches (step : n.datagram conn event = some (n', out)) :
    ∃ l, n.links[conn]? = some l ∧ ClientManager.Touches l.handle n.clients n'.clients ∧
      (n.current l.addr conn = false → n'.clients = n.clients) := by
  obtain ⟨l, found, ⟨current, read⟩ | ⟨stale, closed⟩⟩ := datagram_cases step
  · refine ⟨l, found, ?_, fun stale => absurd current (by simp [stale])⟩
    rcases read with ⟨-, rfl, -⟩ | ⟨event, -, read⟩
    · exact .refl l.handle
    · have touched := receive_touches (n := n) conn l event
      rw [read] at touched
      exact touched
  · have same := endReceive_stale (n := n) stale
    rw [closed] at same
    exact ⟨l, found, same ▸ .refl l.handle, fun _ => same⟩

theorem Bound.datagram_own (bound : n.Bound) (step : n.datagram conn event = some (n', out))
    (found : n.links[conn]? = some l) (handle : ClientHandle) :
    (n'.client handle).map Client.settings = (n.client handle).map Client.settings ∧
      ∀ c, n.client handle = some c → c.id ≠ l.owner → n'.client handle = some c := by
  obtain ⟨l', found', ⟨f, keeps, gets⟩, stale⟩ := datagram_touches step
  obtain rfl := Option.some.inj (found.symm.trans found')
  have got : n'.client handle = if handle = l.handle then (n.client handle).map f
    else n.client handle := gets handle
  refine ⟨?_, ?_⟩
  · rw [got]
    split
    · simp [Function.comp_def, keeps]
    · rfl
  intro c stored other
  by_cases here : handle = l.handle
  · cases current : n.current l.addr conn with
    | false => rw [← stored, client, client, stale current]
    | true =>
      have fits := bound.fits handle c stored
      have own := fits.linked conn l found (of_decide_eq_true current) here.symm
      exact absurd own.symm other
  · rw [got, if_neg here, stored]

theorem Bound.send_own (bound : n.Bound) {event : ProtoEvent} {ok : Bool} {message : ProtoEvent}
    (sent : .transmit conn message ∈ (n.send event handle ok).2) :
    ∃ c l, n.client handle = some c ∧ n.links[conn]? = some l ∧ l.owner = c.id := by
  unfold Network.send at sent
  split at sent
  · simp at sent
  rename_i addr conn' route
  have same : conn = conn' := by
    split at sent
    · simp at sent
    · split at sent <;> simp_all
  subst same
  obtain ⟨addr', active, rest⟩ := Option.bind_eq_some_iff.mp route
  obtain ⟨conn', current, pair⟩ := Option.map_eq_some_iff.mp rest
  cases pair
  obtain ⟨c, stored, address⟩ := Option.bind_eq_some_iff.mp active
  obtain ⟨l, found, rfl⟩ := bound.known addr conn current
  exact ⟨c, l, stored, found, (bound.fits handle c stored).addressed conn l found current address⟩

end Network

/-- A datagram changes no client but the one its connection was opened for, and of that
one nothing that the user decides; `send` transmits only on a connection that was opened
for the client now stored under the handle. -/
def StaysBound (e : Entry Network Move (List Signal)) : Prop :=
  match e.input with
  | .datagram conn _ => ∀ link, e.pre.links[conn]? = some link → ∀ handle,
      (e.post.client handle).map Client.settings = (e.pre.client handle).map Client.settings ∧
      ∀ c, e.pre.client handle = some c → c.id ≠ link.owner → e.post.client handle = some c
  | .send _ handle _ => ∀ conn event, .transmit conn event ∈ e.output →
      ∃ c link, e.pre.client handle = some c ∧ e.pre.links[conn]? = some link ∧ link.owner = c.id
  | _ => True

theorem run_bound {configs : List ConfigClient} {trace : List (Entry Network Move (List Signal))}
    {n : Network} (run : Run lanMouse (.new configs) trace n)
    (apart : ∀ e ∈ trace, e.pre.collides e.input = false) : n.Bound :=
  run.invariant_where (C := fun e => e.pre.collides e.input = false) (Network.new_bound configs)
    (fun _ bound step apart => bound.step apart step) apart

/-- As long as no handle and no address is taken over from a client that still uses it,
every connection serves the client it was opened for. -/
theorem connections_stay_bound {configs : List ConfigClient}
    {trace : List (Entry Network Move (List Signal))} {n : Network}
    (run : Run lanMouse (.new configs) trace n)
    (apart : ∀ e ∈ trace, e.pre.collides e.input = false) : ∀ e ∈ trace, StaysBound e := by
  intro e member
  obtain ⟨before, after, rfl⟩ := List.append_of_mem member
  obtain ⟨reached, step, -⟩ := run.split rfl
  have bound := run_bound reached fun e old => apart e (List.mem_append_left _ old)
  obtain ⟨pre, input, output, post⟩ := e
  cases input with
  | datagram conn event => exact fun l found handle => bound.datagram_own step found handle
  | send event handle ok =>
    intro conn message sent
    have out : (pre.send event handle ok).2 = output := congrArg Prod.snd (Option.some.inj step)
    exact bound.send_own (out ▸ sent)
  | create | delete _ | reload _ | setActive _ _ | setFixIps _ _ | setDnsIps _ _ | setHostname _ _
  | setPort _ _ | setPos _ _ | request _ | start _ | attemptFailed _ | established _ _
  | receiveFailed _ | pingFailed _ | pingRound _ | sendFailed _ => trivial

def laptop : ConfigClient := ⟨[.v4 1], none, defaultPort, .left, true⟩

def desktop : ConfigClient := ⟨[.v4 2], none, defaultPort, .left, true⟩

def connectMoves : List Move := [.request 0, .start 0, .established 0 ⟨.v4 1, defaultPort⟩]

theorem laptop_is_entered : ∃ trace n, Run lanMouse (.new [laptop]) trace n ∧
    (∀ e ∈ trace, e.pre.collides e.input = false) ∧
    (∃ e ∈ trace, .transmit 0 (.enter .right) ∈ e.output) ∧ ∀ e ∈ trace, StaysBound e := by
  obtain ⟨trace, n, run, apart, sent⟩ := lanMouse.exists_run (.new [laptop])
    (connectMoves ++ [.datagram 0 (some (.pong true)), .send (.enter .right) 0 true])
    (fun trace _ => (∀ e ∈ trace, e.pre.collides e.input = false) ∧
      ∃ e ∈ trace, .transmit 0 (.enter .right) ∈ e.output) (by decide)
  exact ⟨trace, n, run, apart, sent, connections_stay_bound run apart⟩

/-- The configuration is reloaded while the laptop is connected, and the desktop gets its
handle: an answer of the laptop makes the desktop alive at the laptop's address, and what
is sent to the desktop goes to the laptop. -/
theorem reload_takes_over_connection : ∃ trace n, Run lanMouse (.new [laptop]) trace n ∧
    (∃ e ∈ trace, e.input = .datagram 0 (some (.pong true)) ∧ ¬ StaysBound e) ∧
    (∃ e ∈ trace, e.input = .send (.enter .right) 0 true ∧ ¬ StaysBound e) := by
  obtain ⟨trace, n, run, ⟨e, member, input, answered⟩, e', member', input', sent, bound'⟩ :=
    lanMouse.exists_run (.new [laptop])
      (connectMoves ++ [.reload [desktop], .datagram 0 (some (.pong true)), .send (.enter .right) 0 true])
      (fun trace _ => (∃ e ∈ trace, e.input = .datagram 0 (some (.pong true)) ∧
        e.pre.links[0]?.any (fun l => (e.pre.client 0).any fun c =>
          c.id ≠ l.owner ∧ e.post.client 0 ≠ some c) = true) ∧
        ∃ e ∈ trace, e.input = .send (.enter .right) 0 true ∧ .transmit 0 (.enter .right) ∈ e.output ∧
          e.pre.links[0]?.any (fun l => (e.pre.client 0).any fun c => c.id ≠ l.owner) = true) (by decide)
  simp only [decide_eq_true_eq, Option.any_eq_true] at answered bound'
  obtain ⟨l, link, c, stored, other, changed⟩ := answered
  obtain ⟨l', link', c', stored', other'⟩ := bound'
  refine ⟨trace, n, run, ⟨e, member, input, ?_⟩, e', member', input', ?_⟩
  · intro bound
    rw [StaysBound, input] at bound
    exact changed ((bound l link 0).2 c stored other)
  intro bound
  rw [StaysBound, input'] at bound
  obtain ⟨d, k, client, found, own⟩ := bound 0 _ sent
  rw [stored'] at client
  rw [link'] at found
  cases client
  cases found
  exact other' own.symm

end DisplayMux.LanMouse
