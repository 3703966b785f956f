import DisplayMux.Lib.Roster
import DisplayMux.Lib.Triple
import DisplayMux.LanMouse.Capture
import DisplayMux.LanMouse.Registry

/-! What the registry asks of the capture task fits together: a capture is created when
there is none under its handle, and destroyed when there is one. At each side of the screen
at most one capture takes the input away, because activating a client first deactivates the
one at its side. Connections that come in only watch the edge, and there is one for each
address. -/
namespace DisplayMux.LanMouse

open ClientManager

abbrev Captures := List (CaptureHandle × Position × CaptureType)

def handlesOf (captures : Captures) : Set CaptureHandle := {handle | handle ∈ captures.map (·.1)}

def CaptureRequest.after (captures : Captures) : CaptureRequest → Captures
  | .create handle pos type => captures ++ [(handle, pos, type)]
  | .destroy handle => captures.filter (·.1 ≠ handle)
  | .release _ | .reenable | .setReleaseBind _ | .resumeIfFocused _ => captures

def CaptureRequest.order : CaptureRequest → Option (Order CaptureHandle)
  | .create handle _ _ => some (.enrol handle)
  | .destroy handle => some (.dismiss handle)
  | .resumeIfFocused handle => some (.call handle)
  | .release _ | .reenable | .setReleaseBind _ => none

section Handles

variable {captures : Captures} {handle : CaptureHandle} {request : CaptureRequest}

theorem handlesOf_add (pos : Position) (type : CaptureType) :
    handlesOf (captures ++ [(handle, pos, type)]) = insert handle (handlesOf captures) := by
  ext key
  simp [handlesOf, or_comm]

theorem handlesOf_remove : handlesOf (captures.filter (·.1 ≠ handle)) = handlesOf captures \
    {handle} := by
  ext key
  simp only [handlesOf, List.mem_map, List.mem_filter, decide_eq_true_eq, Set.mem_ofPred_eq, Set.mem_sdiff,
    Set.mem_singleton_iff]
  constructor
  · rintro ⟨capture, ⟨member, other⟩, rfl⟩
    exact ⟨⟨capture, member, rfl⟩, other⟩
  · rintro ⟨⟨capture, member, rfl⟩, other⟩
    exact ⟨capture, ⟨member, other⟩, rfl⟩

theorem handlesOf_after : handlesOf (request.after captures) =
    carryOut (handlesOf captures) request.order.toList := by
  cases request with
  | create handle pos type => exact handlesOf_add pos type
  | destroy handle => exact handlesOf_remove
  | release _ | reenable | setReleaseBind _ | resumeIfFocused _ => rfl

end Handles

def outstanding (captures : Captures) (requests : List CaptureRequest) : Captures :=
  requests.foldl CaptureRequest.after captures

def defaultsAt (pos : Position) (captures : Captures) : Captures :=
  captures.filter fun c => c.2.1 = pos ∧ c.2.2 = .default

def RegistryAct.request? : RegistryAct → Option CaptureRequest
  | .create handle pos type => some (.create handle pos type)
  | .destroy handle => some (.destroy handle)
  | .resolve _ _ => none

def requestsOf (log : List RegistryAct) : List CaptureRequest := log.filterMap (·.request?)

def ordersOf (requests : List CaptureRequest) : List (Order CaptureHandle) := requests.filterMap (·.order)

variable {request : CaptureRequest}

section Captures

variable {captures : Captures} {requests requests' : List CaptureRequest}

theorem outstanding_append : outstanding captures (requests ++ requests') =
    outstanding (outstanding captures requests) requests' := List.foldl_append

theorem defaultsAt_append (pos : Position) (captures captures' : Captures) :
    defaultsAt pos (captures ++ captures') = defaultsAt pos captures ++ defaultsAt pos captures' :=
  List.filter_append ..

theorem requestsOf_append (log log' : List RegistryAct) :
    requestsOf (log ++ log') = requestsOf log ++ requestsOf log' := List.filterMap_append

@[simp] theorem ordersOf_append (requests requests' : List CaptureRequest) :
    ordersOf (requests ++ requests') = ordersOf requests ++ ordersOf requests' := List.filterMap_append

theorem ordersOf_cons (request : CaptureRequest) :
    ordersOf (request :: requests) = request.order.toList ++ ordersOf requests := by
  cases order : request.order <;> simp [ordersOf, order]

theorem handlesOf_outstanding : handlesOf (outstanding captures requests) =
    carryOut (handlesOf captures) (ordersOf requests) := by
  induction requests generalizing captures with
  | nil => rfl
  | cons request requests ih =>
    rw [ordersOf_cons, carryOut_append, ← handlesOf_after]
    exact ih

/-- At any time while the requests are made, there is at most one default capture at each side. -/
def Apart (captures : Captures) (requests : List CaptureRequest) : Prop :=
  ∀ asked, asked <+: requests → ∀ pos, (defaultsAt pos (outstanding captures asked)).length ≤ 1

theorem apart_append : Apart captures (requests ++ requests') ↔
    Apart captures requests ∧ Apart (outstanding captures requests) requests' := by
  constructor
  · intro apart
    refine ⟨fun asked first => apart asked (first.trans (List.prefix_append _ _)), ?_⟩
    intro asked first
    rw [← outstanding_append]
    exact apart _ ((List.prefix_append_right_inj _).mpr first)
  rintro ⟨first, second⟩ asked before
  rcases List.prefix_or_prefix_of_prefix before (List.prefix_append requests requests') with here | ⟨rest, rfl⟩
  · exact first asked here
  · rw [outstanding_append]
    exact second rest ((List.prefix_append_right_inj requests).mp before)

theorem Apart.concat (apart : Apart captures requests)
    (after : ∀ pos, (defaultsAt pos (request.after (outstanding captures requests))).length ≤ 1) :
    Apart captures (requests ++ [request]) := by
  refine apart_append.mpr ⟨apart, ?_⟩
  intro asked first
  rcases List.prefix_cons_iff.mp first with rfl | ⟨rest, rfl, nil⟩
  · exact apart requests List.prefix_rfl
  · rw [List.prefix_nil.mp nil]
    exact after

end Captures

/-- What the registration of a client depends on. -/
def Client.side (c : Client) : Bool × Position := (c.state.active, c.config.pos)

namespace Registry

def registers (r : Registry) (handle : CaptureHandle) : Bool :=
  r.isActive handle || r.incomingConnInfo.any (·.1 = handle)

def registered (r : Registry) : Set CaptureHandle := {handle | r.registers handle = true}

def activeAt (r : Registry) (handle : CaptureHandle) (pos : Position) : Bool :=
  (r.clients.get handle).any fun c => c.state.active ∧ c.config.pos = pos

/-- The handles of clients are small, those of incoming connections large and used up. -/
structure Addressed (r : Registry) : Prop where
  low : ∀ handle, (r.clients.get handle).isSome = true → handle < enterHandleBegin
  high : ∀ p ∈ r.incomingConnInfo, enterHandleBegin ≤ p.1 ∧ p.1 < enterHandleBegin + r.nextTriggerHandle
  handles : (r.incomingConnInfo.map (·.1)).Nodup
  addrs : (r.incomingConnInfo.map (·.2.addr)).Nodup
  conns : r.incomingConns.Nodup
  agree : ∀ addr, addr ∈ r.incomingConns ↔ addr ∈ r.incomingConnInfo.map (·.2.addr)

/-- From the captures at the start, what was asked for leads to those registered now. The
default captures belong to active clients, of which there is at most one at each side. While a
client moves, it is left out. -/
structure Spaced (moving : Option ClientHandle) (captures : Captures) (s : RegistryScene) : Prop where
  accepted : Accepts (handlesOf captures) (ordersOf (requestsOf s.log))
  current : handlesOf (outstanding captures (requestsOf s.log)) = s.registry.registered
  apart : Apart captures (requestsOf s.log)
  placed : ∀ handle pos, some handle ≠ moving →
    (handle, pos, .default) ∈ outstanding captures (requestsOf s.log) → s.registry.activeAt handle pos = true
  single : ∀ handle handle' pos, some handle ≠ moving → some handle' ≠ moving →
    s.registry.activeAt handle pos = true → s.registry.activeAt handle' pos = true → handle = handle'
  addressed : Addressed s.registry

/-- Nothing changed that a registration depends on, but for the client that moves. A new client
may have been added. -/
structure Unmoved (moving : Option ClientHandle) (r r' : Registry) : Prop where
  active : ∀ handle pos, some handle ≠ moving → r'.activeAt handle pos = r.activeAt handle pos
  stored : ∀ handle, (r'.clients.get handle).isSome = true →
    (r.clients.get handle).isSome = true ∨ handle < enterHandleBegin
  conns : r'.incomingConns = r.incomingConns
  incoming : r'.incomingConnInfo = r.incomingConnInfo
  next : r'.nextTriggerHandle = r.nextTriggerHandle

variable {pos : Position}

section Changes

variable {r r' : Registry} {handle : CaptureHandle} {moving : Option ClientHandle}

theorem isActive_edit (f : Client → Client) (key : ClientHandle) :
    (r.withClients (r.clients.edit handle f)).isActive key =
      if key = handle then (r.clients.get key).any fun c => (f c).state.active else r.isActive key := by
  unfold isActive withClients
  rw [get_edit]
  split <;> simp [Option.any_map]

theorem stored_edit (f : Client → Client) (key : ClientHandle) :
    ((r.withClients (r.clients.edit handle f)).clients.get key).isSome = true ↔
      (r.clients.get key).isSome = true := by
  change ((r.clients.edit handle f).get key).isSome = true ↔ _
  rw [get_edit]
  split <;> simp

theorem activeAt_edit (f : Client → Client) (key : ClientHandle) (pos : Position) :
    (r.withClients (r.clients.edit handle f)).activeAt key pos =
      if key = handle then (r.clients.get key).any fun c => (f c).state.active ∧ (f c).config.pos = pos
      else r.activeAt key pos := by
  unfold activeAt
  rw [withClients_clients, get_edit]
  split
  · rw [Option.any_map]
  · rfl

theorem isActive_iff : r.isActive handle = true ↔ ∃ pos, r.activeAt handle pos = true := by
  cases stored : r.clients.get handle <;> simp [isActive, activeAt, stored]

theorem isActive_of_activeAt (active : r.activeAt handle pos = true) :
    r.isActive handle = true := isActive_iff.mpr ⟨pos, active⟩

section

variable (target : Option SwitchHost)

@[simp] theorem setSwitchTarget_clients :
    (r.setSwitchTarget handle target).clients = r.clients := by cases target <;> rfl

@[simp] theorem setSwitchTarget_incomingConnInfo :
    (r.setSwitchTarget handle target).incomingConnInfo = r.incomingConnInfo := by cases target <;> rfl

@[simp] theorem setSwitchTarget_nextTriggerHandle :
    (r.setSwitchTarget handle target).nextTriggerHandle = r.nextTriggerHandle := by cases target <;> rfl

theorem setSwitchTarget_incomingConns :
    (r.setSwitchTarget handle target).incomingConns = r.incomingConns := by cases target <;> rfl

end

theorem stored_of_active (active : r.isActive handle = true) :
    (r.clients.get handle).isSome = true := by
  unfold isActive at active
  cases found : r.clients.get handle with
  | none => simp [found] at active
  | some _ => rfl

theorem Addressed.apart (addressed : Addressed r) (stored : (r.clients.get handle).isSome = true) :
    r.incomingConnInfo.any (·.1 = handle) = false := by
  rw [List.any_eq_false]
  intro p member same
  have above := (addressed.high p member).1
  exact Nat.not_le.mpr (addressed.low handle stored) (of_decide_eq_true same ▸ above)

theorem mem_registered : handle ∈ r.registered ↔
    (∃ pos, r.activeAt handle pos = true) ∨ r.incomingConnInfo.any (·.1 = handle) = true := by
  rw [← isActive_iff, ← Bool.or_eq_true]
  rfl

theorem Addressed.mem_client (addressed : Addressed r) (stored : (r.clients.get handle).isSome = true) :
    handle ∈ r.registered ↔ r.isActive handle = true := by
  rw [mem_registered, addressed.apart stored, isActive_iff]
  simp

theorem Unmoved.registered (unmoved : Unmoved moving r r')
    (still : ∀ handle, some handle = moving → r'.isActive handle = r.isActive handle) :
    r'.registered = r.registered := by
  ext key
  simp only [mem_registered, unmoved.incoming, ← isActive_iff]
  by_cases moves : some key = moving
  · rw [still key moves]
  · simp only [isActive_iff, unmoved.active key _ moves]

theorem Unmoved.addressed (unmoved : Unmoved moving r r') (addressed : Addressed r) : Addressed r' := by
  obtain ⟨low, high, handles, addrs, conns, agree⟩ := addressed
  rw [← unmoved.incoming] at handles high addrs agree
  rw [← unmoved.next] at high
  rw [← unmoved.conns] at conns agree
  exact ⟨fun key stored => (unmoved.stored key stored).elim (low key) id, high, handles, addrs, conns, agree⟩

theorem Addressed.added (addressed : Addressed r) {addr : SocketAddr} (fresh : addr ∉ r.incomingConns)
    (fingerprint : String) (pos : Position) :
    Addressed { r with
      nextTriggerHandle := r.nextTriggerHandle + 1
      incomingConns := r.incomingConns.insert addr
      incomingConnInfo := r.incomingConnInfo ++
        [(enterHandleBegin + r.nextTriggerHandle, ⟨fingerprint, addr, pos⟩)] } where
  low := addressed.low
  high := by
    intro p member
    rcases List.mem_append.mp member with old | new
    · exact ⟨(addressed.high p old).1, Nat.lt_succ_of_lt (addressed.high p old).2⟩
    · rw [List.mem_singleton.mp new]
      exact ⟨Nat.le_add_right _ _, Nat.lt_succ_self _⟩
  handles := by
    rw [List.map_append, List.map_singleton, ← List.concat_eq_append]
    refine addressed.handles.concat ?_
    intro member
    obtain ⟨p, old, same⟩ := List.mem_map.mp member
    exact absurd (addressed.high p old).2 (Nat.not_lt.mpr (Nat.le_of_eq same.symm))
  addrs := by
    rw [List.map_append, List.map_singleton, ← List.concat_eq_append]
    exact addressed.addrs.concat (mt (addressed.agree addr).mpr fresh)
  conns := addressed.conns.insert
  agree := by
    simp [addressed.agree, or_comm]

theorem Addressed.removed (addressed : Addressed r) {addr : SocketAddr} {incoming : Incoming}
    (found : r.incomingConnInfo.find? (·.2.addr = addr) = some (handle, incoming)) :
    Addressed { r with
      incomingConns := r.incomingConns.erase addr
      incomingConnInfo := r.incomingConnInfo.filter (·.1 ≠ handle) } where
  low := addressed.low
  high p member := addressed.high p (List.mem_of_mem_filter member)
  handles := addressed.handles.sublist (List.filter_sublist.map _)
  addrs := addressed.addrs.sublist (List.filter_sublist.map _)
  conns := addressed.conns.erase addr
  agree := by
    have here := List.mem_of_find?_eq_some found
    have own : incoming.addr = addr := by simpa using List.find?_some found
    intro addr'
    rw [addressed.conns.mem_erase_iff, addressed.agree]
    simp only [List.mem_map, List.mem_filter, decide_eq_true_eq]
    constructor
    · rintro ⟨other, p, member, rfl⟩
      refine ⟨p, ⟨member, ?_⟩, rfl⟩
      intro same
      obtain rfl := List.inj_on_of_nodup_map addressed.handles member here same
      exact other own
    rintro ⟨p, ⟨member, other⟩, rfl⟩
    refine ⟨?_, p, member, rfl⟩
    intro same
    have entry := List.inj_on_of_nodup_map addressed.addrs member here (same.trans own.symm)
    exact other (congrArg Prod.fst entry)

end Changes

structure Untouched (r r' : Registry) : Prop where
  sides : ∀ handle, (r'.clients.get handle).map Client.side = (r.clients.get handle).map Client.side
  conns : r'.incomingConns = r.incomingConns
  incoming : r'.incomingConnInfo = r.incomingConnInfo
  next : r'.nextTriggerHandle = r.nextTriggerHandle

section Changes

variable {r r' : Registry} {handle : ClientHandle}

theorem untouched_edit {f : Client → Client} (inert : ∀ c, (f c).side = c.side) :
    Untouched r (r.withClients (r.clients.edit handle f)) where
  sides key := by
    rw [withClients_clients, get_edit]
    split
    · rw [Option.map_map]
      exact congrArg (Option.map · _) (funext inert)
    · rfl
  conns := rfl
  incoming := rfl
  next := rfl

theorem untouched_forgetIntent : Untouched r (r.forgetIntent handle) := ⟨fun _ => rfl, rfl, rfl, rfl⟩

theorem untouched_setSwitchTarget (target : Option SwitchHost) :
    Untouched r (r.setSwitchTarget handle target) := by
  cases target <;> exact ⟨fun _ => rfl, rfl, rfl, rfl⟩

theorem untouched_changePeer (change : PeerChange) : Untouched r (r.changePeer handle change) := by
  cases change with
  | activeAddr _ | alive _ | commit _ | cleared => exact untouched_edit fun _ => rfl
  | readiness keyboardReady pointerReady sessionEpoch =>
    unfold changePeer setPeerReadiness
    dsimp only
    split
    · exact ⟨fun _ => rfl, rfl, rfl, rfl⟩
    · exact untouched_edit fun _ => rfl

theorem Untouched.unmoved (untouched : Untouched r r') (moving : Option ClientHandle) :
    Unmoved moving r r' where
  active key pos _ := by
    have sides := congrArg (Option.any fun side => side.1 ∧ side.2 = pos) (untouched.sides key)
    simp only [Option.any_map] at sides
    exact sides
  stored key found := by
    have sides := congrArg Option.isSome (untouched.sides key)
    simp only [Option.isSome_map] at sides
    exact .inl (sides ▸ found)
  conns := untouched.conns
  incoming := untouched.incoming
  next := untouched.next

end Changes

section Scenes

variable {moving : Option ClientHandle} {captures : Captures} {s : RegistryScene} {r : Registry}
  {handle : CaptureHandle}

theorem Spaced.unmoved (spaced : Spaced moving captures s) (unmoved : Unmoved moving s.registry r)
    (still : ∀ handle, some handle = moving → r.isActive handle = s.registry.isActive handle) :
    Spaced moving captures (s.withRegistry r) where
  accepted := spaced.accepted
  current := spaced.current.trans (unmoved.registered still).symm
  apart := spaced.apart
  placed key pos other asked := (unmoved.active key pos other).trans (spaced.placed key pos other asked)
  single key key' pos other other' active active' :=
    spaced.single key key' pos other other' (unmoved.active key pos other ▸ active)
      (unmoved.active key' pos other' ▸ active')
  addressed := unmoved.addressed spaced.addressed

theorem Spaced.kept (spaced : Spaced none captures s) (unmoved : Unmoved none s.registry r) :
    Spaced none captures (s.withRegistry r) := spaced.unmoved unmoved nofun

/-- The registry and what it asks for change together. -/
theorem Spaced.asked (spaced : Spaced moving captures s) {act : RegistryAct}
    {order : Order CaptureHandle} (asks : act.request? = some request) (orders : request.order = some order)
    (allowed : order.Allowed s.registry.registered)
    (registered : r.registered = order.apply s.registry.registered)
    (after : ∀ pos, (defaultsAt pos (request.after (outstanding captures (requestsOf s.log)))).length ≤ 1)
    (placed : ∀ handle pos, (handle, pos, .default) ∈ request.after (outstanding captures (requestsOf s.log)) →
      r.activeAt handle pos = true)
    (single : ∀ handle handle' pos, r.activeAt handle pos = true → r.activeAt handle' pos = true →
      handle = handle')
    (addressed : Addressed r) : Spaced none captures ((s.withRegistry r).record act) := by
  have log : requestsOf (s.log ++ [act]) = requestsOf s.log ++ [request] := by simp [requestsOf, asks]
  have held : carryOut (handlesOf captures) (ordersOf (requestsOf s.log)) = s.registry.registered := by
    rw [← handlesOf_outstanding, spaced.current]
  have ordered : ordersOf [request] = [order] := by simp [ordersOf, orders]
  refine ⟨?_, ?_, ?_, ?_, fun key key' pos _ _ => single key key' pos, addressed⟩
  all_goals simp only [RegistryScene.record, RegistryScene.withRegistry, log]
  · rw [ordersOf_append, accepts_append, held, ordered]
    exact ⟨spaced.accepted, allowed, trivial⟩
  · rw [handlesOf_outstanding, ordersOf_append, carryOut_append, held, ordered]
    exact registered.symm
  · exact spaced.apart.concat after
  · intro key pos _ member
    rw [outstanding_append] at member
    exact placed key pos member

theorem Spaced.destroyed (spaced : Spaced moving captures s) (only : moving = none ∨ moving = some handle)
    (active : s.registry.isActive handle = true) (gone : ∀ pos, r.activeAt handle pos = false)
    (unmoved : Unmoved (some handle) s.registry r) :
    Spaced none captures ((s.withRegistry r).record (.destroy handle)) := by
  have stored := stored_of_active active
  have others : ∀ key, key ≠ handle → some key ≠ moving := by
    rintro key other rfl
    simp [other] at only
  have before : ∀ key pos, r.activeAt key pos = true → key ≠ handle ∧ s.registry.activeAt key pos = true := by
    intro key pos here
    have other : key ≠ handle := by
      rintro rfl
      simp [gone] at here
    exact ⟨other, unmoved.active key pos (by simpa using other) ▸ here⟩
  refine spaced.asked rfl rfl ((spaced.addressed.mem_client stored).mpr active) ?_ ?_ ?_ ?_
    (unmoved.addressed spaced.addressed)
  · ext key
    rw [Order.apply, Set.mem_sdiff, Set.mem_singleton_iff, mem_registered, mem_registered, unmoved.incoming]
    by_cases same : key = handle
    · simp [same, gone, spaced.addressed.apart stored]
    · simp [same, unmoved.active key _ (by simpa using same)]
  · intro pos
    have fewer : (defaultsAt pos ((CaptureRequest.destroy handle).after
        (outstanding captures (requestsOf s.log)))).Sublist
        (defaultsAt pos (outstanding captures (requestsOf s.log))) := List.filter_sublist.filter _
    exact fewer.length_le.trans (spaced.apart _ List.prefix_rfl pos)
  · intro key pos asked
    obtain ⟨asked, other⟩ := List.mem_filter.mp asked
    have other : key ≠ handle := of_decide_eq_true other
    rw [unmoved.active key pos (by simpa using other)]
    exact spaced.placed key pos (others key other) asked
  · intro key key' pos here here'
    obtain ⟨other, here⟩ := before key pos here
    obtain ⟨other', here'⟩ := before key' pos here'
    exact spaced.single key key' pos (others key other) (others key' other') here here'

theorem Spaced.created (spaced : Spaced none captures s)
    (stored : (s.registry.clients.get handle).isSome = true) (inactive : ¬ s.registry.isActive handle = true)
    (free : ∀ key, s.registry.activeAt key pos = true → key = handle)
    (active : ∀ pos', r.activeAt handle pos' = decide (pos' = pos))
    (unmoved : Unmoved (some handle) s.registry r) :
    Spaced none captures ((s.withRegistry r).record (.create handle pos .default)) := by
  have absent : ∀ pos, s.registry.activeAt handle pos = false :=
    fun pos => Bool.eq_false_iff.mpr fun here => inactive (isActive_of_activeAt here)
  have empty : ∀ key, s.registry.activeAt key pos = false := by
    intro key
    by_contra other
    have same := free key (Bool.eq_true_of_not_eq_false other)
    exact other (same ▸ absent pos)
  have vacant : defaultsAt pos (outstanding captures (requestsOf s.log)) = [] := by
    refine List.filter_eq_nil_iff.mpr ?_
    rintro ⟨key, pos', type⟩ asked here
    obtain ⟨rfl, rfl⟩ : pos' = pos ∧ type = .default := of_decide_eq_true here
    simpa [empty] using spaced.placed key pos' (by simp) asked
  have inhabited : ∀ key pos', r.activeAt key pos' = true →
      key = handle ∧ pos' = pos ∨ key ≠ handle ∧ pos' ≠ pos ∧ s.registry.activeAt key pos' = true := by
    intro key pos' here
    by_cases same : key = handle
    · subst same
      exact .inl ⟨rfl, by simpa [active] using here⟩
    · rw [unmoved.active key pos' (by simpa using same)] at here
      refine .inr ⟨same, ?_, here⟩
      rintro rfl
      simp [empty] at here
  refine spaced.asked rfl rfl (mt (spaced.addressed.mem_client stored).mp inactive) ?_ ?_ ?_ ?_
    (unmoved.addressed spaced.addressed)
  · ext key
    rw [Order.apply, Set.mem_insert_iff, mem_registered, mem_registered, unmoved.incoming]
    by_cases same : key = handle
    · simp [same, active]
    · simp [same, unmoved.active key _ (by simpa using same)]
  · intro pos'
    rw [CaptureRequest.after, defaultsAt_append]
    by_cases same : pos' = pos
    · rw [same, vacant]
      exact List.length_filter_le _ _
    · have before := spaced.apart _ List.prefix_rfl pos'
      simpa [defaultsAt, Ne.symm same] using before
  · intro key pos' asked
    rcases List.mem_append.mp asked with old | new
    · have here := spaced.placed key pos' (by simp) old
      have other : key ≠ handle := by
        rintro rfl
        simp [absent] at here
      rwa [unmoved.active key pos' (by simpa using other)]
    · cases List.mem_singleton.mp new
      simp [active]
  · intro key key' pos' here here'
    rcases inhabited key pos' here with ⟨rfl, at_⟩ | ⟨-, away, here⟩
    · rcases inhabited key' pos' here' with ⟨rfl, -⟩ | ⟨-, away, -⟩
      · rfl
      · exact absurd at_ away
    · rcases inhabited key' pos' here' with ⟨-, at_⟩ | ⟨-, -, here'⟩
      · exact absurd at_ away
      · exact spaced.single key key' pos' (by simp) (by simp) here here'

/-- Captures that only watch the edge come and go, and the clients stay. -/
theorem Spaced.watches (spaced : Spaced none captures s) {act : RegistryAct}
    {order : Order CaptureHandle} (asks : act.request? = some request) (orders : request.order = some order)
    (allowed : order.Allowed s.registry.registered)
    (registered : r.registered = order.apply s.registry.registered)
    (active : ∀ key pos, r.activeAt key pos = s.registry.activeAt key pos)
    (fewer : ∀ captures pos, (defaultsAt pos (request.after captures)).Sublist (defaultsAt pos captures))
    (addressed : Addressed r) : Spaced none captures ((s.withRegistry r).record act) := by
  refine spaced.asked asks orders allowed registered ?_ ?_ ?_ addressed
  · exact fun pos => (fewer _ pos).length_le.trans (spaced.apart _ List.prefix_rfl pos)
  · intro key pos member
    have default :
        (key, pos, .default) ∈ defaultsAt pos (request.after (outstanding captures (requestsOf s.log))) :=
      List.mem_filter.mpr ⟨member, by simp⟩
    have old := List.mem_of_mem_filter ((fewer _ pos).mem default)
    exact (active key pos).trans (spaced.placed key pos (by simp) old)
  · intro key key' pos here here'
    exact spaced.single key key' pos (by simp) (by simp) (active key pos ▸ here) (active key' pos ▸ here')

theorem Spaced.resolved (spaced : Spaced moving captures s) (key : ClientHandle) (hostname : String) :
    Spaced moving captures (s.record (.resolve key hostname)) := by
  have asks : requestsOf (s.log ++ [.resolve key hostname]) = requestsOf s.log :=
    (requestsOf_append s.log _).trans (List.append_nil _)
  exact ⟨asks ▸ spaced.accepted, asks ▸ spaced.current, asks ▸ spaced.apart, asks ▸ spaced.placed,
    spaced.single, spaced.addressed⟩

end Scenes

section Handlers

open Std.Do

set_option mvcgen.warning false

abbrev Post (α : Type) := PostCond α (.except String (.arg RegistryScene .pure))

@[spec]
theorem perform_spec (act : RegistryAct) (Q : Post Unit) :
    ⦃fun s => Q.1 () (s.record act)⦄ perform act ⦃Q⦄ := by
  mvcgen [perform]

@[spec]
theorem update_spec (f : Registry → Registry) (Q : Post Unit) :
    ⦃fun s => Q.1 () (s.withRegistry (f s.registry))⦄ update f ⦃Q⦄ := by
  mvcgen [update]

variable {moving : Option ClientHandle} {captures : Captures} {s : RegistryScene} {r r' : Registry}
  {handle : CaptureHandle}

theorem unmoved_edit (handle : ClientHandle) (f : Client → Client) :
    Unmoved (some handle) r (r.withClients (r.clients.edit handle f)) where
  active key pos other := by
    rw [activeAt_edit, if_neg (by simpa using other)]
  stored key found := .inl ((stored_edit f key).mp found)
  conns := rfl
  incoming := rfl
  next := rfl

theorem activeAt_deactivateClient (key : ClientHandle) (pos : Position) :
    (r.withClients (r.clients.deactivateClient handle)).activeAt key pos =
      if key = handle then false else r.activeAt key pos := by
  refine (activeAt_edit _ key pos).trans ?_
  split
  · simp
  · rfl

theorem resolve_spaced (captures : Captures) (handle : ClientHandle) :
    Yields (Spaced none captures) (Spaced none captures) (resolve handle) := by
  mvcgen [resolve]
  rename_i spaced hostname _
  exact spaced.resolved handle hostname

theorem Spaced.forgotten (spaced : Spaced none captures s) (handle : ClientHandle) :
    Spaced none captures (s.withRegistry (s.registry.forgetIntent handle)) :=
  spaced.kept (untouched_forgetIntent.unmoved none)

theorem Spaced.deactivated (spaced : Spaced moving captures s) (only : moving = none ∨ moving = some handle)
    (active : s.registry.isActive handle = true) :
    Spaced none captures ((s.withRegistry (s.registry.withClients
      (s.registry.clients.deactivateClient handle))).record (.destroy handle)) := by
  refine spaced.destroyed only active ?_ (unmoved_edit handle _)
  intro pos
  exact (activeAt_deactivateClient handle pos).trans (if_pos rfl)

theorem deactivateClient_settles (captures : Captures) (handle : ClientHandle) :
    Yields (fun s => Spaced (some handle) captures s ∧ s.registry.isActive handle = true)
      (Spaced none captures)
      (deactivateClient handle) := by
  mvcgen [deactivateClient]
  · rename_i spaced active
    exact (spaced.1.unmoved (untouched_forgetIntent.unmoved _) fun _ _ => rfl).deactivated (.inr rfl) active
  · rename_i spaced inactive
    exact absurd spaced.2 inactive

theorem deactivateClient_spaced (captures : Captures) (handle : ClientHandle) :
    Yields (Spaced none captures) (Spaced none captures) (deactivateClient handle) := by
  mvcgen [deactivateClient]
  · rename_i spaced active
    exact (spaced.forgotten handle).deactivated (.inl rfl) active
  · rename_i spaced inactive
    exact spaced.forgotten handle

theorem activeAt_of_clientAt (found : r.clients.clientAt pos = some handle) :
    r.activeAt handle pos = true :=
  List.find?_some (p := fun key => r.activeAt key pos) found

/-- The client is at this side, and no other client is active there. -/
structure Free (handle : ClientHandle) (pos : Position) (r : Registry) : Prop where
  here : (r.clients.get handle).any (·.config.pos = pos) = true
  alone : ∀ key, r.activeAt key pos = true → key = handle

theorem Spaced.free (spaced : Spaced none captures s) {client : Client}
    (stored : s.registry.clients.get handle = some client) (at_ : client.config.pos = pos)
    (first : s.registry.clients.clientAt pos = none ∨ s.registry.clients.clientAt pos = some handle) :
    Free handle pos s.registry where
  here := by simp [stored, at_]
  alone := by
    intro key active
    have member : key ∈ s.registry.clients.clients.keys :=
      Slab.mem_keys.mpr (stored_of_active (isActive_of_activeAt active))
    rcases first with nobody | own
    · exact absurd active (List.find?_eq_none.mp nobody key member)
    · exact spaced.single key handle pos (by simp) (by simp) active (activeAt_of_clientAt own)

theorem deactivateClient_frees (captures : Captures) (handle other : ClientHandle) (pos : Position) :
    Yields (fun s => Spaced none captures s ∧ (s.registry.clients.get handle).any (·.config.pos = pos) = true ∧
        s.registry.activeAt other pos = true ∧ other ≠ handle)
      (fun s => Spaced none captures s ∧ Free handle pos s.registry) (deactivateClient other) := by
  mvcgen [deactivateClient]
  · rename_i s spaced active
    obtain ⟨spaced, here, there, apart⟩ := spaced
    refine ⟨(spaced.forgotten other).deactivated (.inl rfl) active, ?_, ?_⟩
    · change (((s.registry.clients.deactivateClient other).get handle).any _) = true
      rwa [ClientManager.deactivateClient, ClientManager.setState, ClientManager.get_edit, if_neg apart.symm]
    intro key active
    have active := (activeAt_deactivateClient key pos).symm.trans active
    split at active
    · contradiction
    · rename_i different
      exact absurd (spaced.single key other pos (by simp) (by simp) active there) different
  · rename_i spaced inactive
    exact absurd (isActive_of_activeAt spaced.2.2.1) inactive

theorem Spaced.activated (spaced : Spaced none captures s) (free : Free handle pos s.registry)
    (inactive : ¬ s.registry.isActive handle = true) :
    Spaced none captures ((s.withRegistry (s.registry.withClients (s.registry.clients.setState handle
      fun state => { state with active := true }))).record (.create handle pos .default)) := by
  have here := free.here
  refine spaced.created ?_ inactive free.alone ?_ (unmoved_edit handle _)
  · exact Option.isSome_of_any here
  intro pos'
  refine (activeAt_edit _ handle pos').trans ?_
  cases stored : s.registry.clients.get handle with
  | none => simp [stored] at here
  | some c =>
    have at_ : c.config.pos = pos := by simpa [stored] using here
    simp [at_, eq_comm]

section

variable (captures : Captures)

theorem activateClient_spaced (handle : ClientHandle) :
    Yields (Spaced none captures) (Spaced none captures) (activateClient handle) := by
  have resolved := resolve_spaced captures handle
  have freed := fun other pos => deactivateClient_frees captures handle other pos
  mvcgen [activateClient, resolved, freed]
  -- the side that is freed is the one of the client before
  case vc5.pos =>
    rename_i client _ _ _ _ _
    exact client.config.pos
  · rename_i spaced client stored _ nobody inactive
    exact spaced.activated (spaced.free stored rfl (.inl nobody)) inactive
  · rename_i spaced client stored _ other found apart
    exact ⟨spaced, by simp [stored], activeAt_of_clientAt found, apart⟩
  · rename_i spaced active
    exact spaced.1
  · rename_i spaced inactive
    exact spaced.1.activated spaced.2 inactive
  · rename_i spaced client stored _ other found same inactive
    obtain rfl := not_not.mp same
    exact spaced.activated (spaced.free stored rfl (.inr found)) inactive

theorem setClientActive_spaced (handle : ClientHandle) (active : Bool) :
    Yields (Spaced none captures) (Spaced none captures) (setClientActive handle active) := by
  cases active with
  | true => exact activateClient_spaced captures handle
  | false => exact deactivateClient_spaced captures handle

theorem unmoved_added (room : r.clients.clients.nextKey < enterHandleBegin)
    (others : ∀ key, key ≠ r.clients.clients.nextKey → r'.clients.get key = r.clients.get key)
    (inactive : r'.isActive r.clients.clients.nextKey = false)
    (conns : r'.incomingConns = r.incomingConns) (incoming : r'.incomingConnInfo = r.incomingConnInfo)
    (next : r'.nextTriggerHandle = r.nextTriggerHandle) : Unmoved none r r' where
  active key pos _ := by
    by_cases new : key = r.clients.clients.nextKey
    · have unused : r.clients.get r.clients.clients.nextKey = none := Slab.get_nextKey
      have absent : r.activeAt key pos = false := by simp [activeAt, new, unused]
      rw [absent, new]
      exact Bool.eq_false_iff.mpr fun active => by simp [isActive_of_activeAt active] at inactive
    · simp [activeAt, others key new]
  stored key found := by
    by_cases new : key = r.clients.clients.nextKey
    · exact .inr (new ▸ room)
    · exact .inl (others key new ▸ found)
  conns := conns
  incoming := incoming
  next := next

theorem addClient_spaced : Yields (Spaced none captures) (Spaced none captures) addClient := by
  mvcgen [addClient, reserveHandle]
  rename_i s spaced room
  refine spaced.kept (unmoved_added room ?_ ?_ rfl rfl rfl)
  · intro key old
    exact (Slab.get_insert key).trans (if_neg old)
  have added : s.registry.clients.addClient.1.get s.registry.clients.clients.nextKey = some _ :=
    (Slab.get_insert _).trans (if_pos rfl)
  change (s.registry.clients.addClient.1.get s.registry.clients.clients.nextKey).any _ = false
  rw [added]
  rfl

theorem activeAt_removeClient (key : ClientHandle) (pos : Position) :
    ((r.withClients (r.clients.removeClient handle)).setSwitchTarget handle none).activeAt key pos =
      if key = handle then false else r.activeAt key pos := by
  unfold activeAt
  rw [setSwitchTarget_clients, withClients_clients, get_removeClient]
  split <;> rfl

theorem unmoved_removeClient (moving : Option ClientHandle) (still : ∀ pos, some handle ≠ moving →
      r.activeAt handle pos = false) :
    Unmoved moving r ((r.withClients (r.clients.removeClient handle)).setSwitchTarget handle none) where
  active key pos other := by
    refine (activeAt_removeClient key pos).trans ?_
    split
    · rename_i same
      subst same
      exact (still pos other).symm
    · rfl
  stored key found := by
    rw [setSwitchTarget_clients, withClients_clients, get_removeClient] at found
    split at found
    · contradiction
    · exact .inl found
  conns := rfl
  incoming := rfl
  next := rfl

theorem removeClient_spaced (handle : ClientHandle) :
    Yields (Spaced none captures) (Spaced none captures) (removeClient handle) := by
  mvcgen [removeClient]
  · rename_i s spaced _ active
    refine (spaced.forgotten handle).destroyed (.inl rfl) active ?_
      (unmoved_removeClient (some handle) fun _ other => absurd rfl other)
    intro pos
    exact (activeAt_removeClient handle pos).trans (if_pos rfl)
  rename_i s spaced _ inactive
  refine (spaced.forgotten handle).kept (unmoved_removeClient none fun pos _ => ?_)
  exact Bool.eq_false_iff.mpr fun active => inactive (isActive_of_activeAt active)

end

theorem Spaced.moves (spaced : Spaced none captures s) (handle : ClientHandle) :
    Spaced (some handle) captures s where
  accepted := spaced.accepted
  current := spaced.current
  apart := spaced.apart
  placed key pos _ := spaced.placed key pos (by simp)
  single key key' pos _ _ := spaced.single key key' pos (by simp) (by simp)
  addressed := spaced.addressed

section

variable (captures : Captures) (addr : SocketAddr)

theorem updatePos_spaced (handle : ClientHandle) (pos : Position) :
    Yields (Spaced none captures) (Spaced none captures) (updatePos handle pos) := by
  mvcgen [updatePos, deactivateClient_settles, activateClient_spaced]
  · rename_i s spaced _ required
    refine ⟨((spaced.forgotten handle).moves handle).unmoved (unmoved_edit handle _) fun key _ => ?_, ?_⟩
    · refine (isActive_edit _ key).trans ?_
      split <;> rfl
    obtain ⟨c, stored, moved⟩ := Option.any_eq_true _ _ |>.mp required
    refine (isActive_edit _ handle).trans ?_
    rw [if_pos rfl]
    exact Option.any_eq_true _ _ |>.mpr ⟨c, stored, (of_decide_eq_true moved).2⟩
  rename_i s spaced _ unneeded
  refine (spaced.forgotten handle).kept
    ⟨?_, fun key found => .inl ((stored_edit _ key).mp found), rfl, rfl, rfl⟩
  intro key pos' _
  refine (activeAt_edit _ key pos').trans ?_
  split
  · rename_i same
    subst same
    unfold activeAt
    cases stored : (s.withRegistry (s.registry.forgetIntent key)).registry.clients.get key with
    | none => rfl
    | some c =>
      -- an inactive client may move, and an active one stays where it is
      have stays : c.state.active = true → c.config.pos = pos := by
        intro active
        by_contra moves
        exact unneeded (Option.any_eq_true _ _ |>.mpr ⟨c, stored, by simp [active, moves]⟩)
      cases active : c.state.active with
      | false => simp [active]
      | true => simp [active, stays active]
  · rfl

theorem addConfigured_spaced (c : Configured) :
    Yields (Spaced none captures) (Spaced none captures) (addConfigured c) := by
  mvcgen [addConfigured, addWithConfig, reserveHandle, activateClient_spaced]
  · rename_i s spaced room active
    refine spaced.kept (unmoved_added room ?_ ?_ (setSwitchTarget_incomingConns c.2) (by simp) (by simp))
    · intro key old
      simp [ClientManager.deactivateClient, ClientManager.setState, ClientManager.get_edit,
        ClientManager.get_addWithConfig, old]
    · refine (isActive_edit _ _).trans ?_
      simp
  rename_i s spaced room inactive
  refine spaced.kept (unmoved_added room ?_ ?_ (setSwitchTarget_incomingConns c.2) (by simp) (by simp))
  · intro key old
    simp [get_addWithConfig, old]
  · simpa using inactive

theorem reload_spaced (configs : List Configured) :
    Yields (Spaced none captures) (Spaced none captures) (reload configs) := by
  have removed := fun handles => Yields.forM handles (removeClient_spaced captures)
  have added := Yields.forM configs (addConfigured_spaced captures)
  mvcgen [reload, removed, added]

theorem addIncoming_spaced (pos : Position) (fingerprint : String) :
    Yields (fun s => Spaced none captures s ∧ addr ∉ s.registry.incomingConns) (Spaced none captures)
      (addIncoming addr pos fingerprint) := by
  mvcgen [addIncoming]
  rename_i s spaced _ handle taken
  obtain ⟨spaced, fresh⟩ := spaced
  obtain ⟨-, rfl⟩ := checkedAdd_eq_some.mp taken
  refine spaced.watches rfl rfl ?_ ?_ (fun _ _ => rfl) ?_ (spaced.addressed.added fresh fingerprint pos)
  · -- a handle so large was never used, neither by a client nor by a connection
    rintro used
    rcases mem_registered.mp used with ⟨pos, active⟩ | incoming
    · have below := spaced.addressed.low _ (stored_of_active (isActive_of_activeAt active))
      exact absurd below (Nat.not_lt.mpr (Nat.le_add_right _ _))
    · obtain ⟨p, member, same⟩ := List.any_eq_true.mp incoming
      have below := (spaced.addressed.high p member).2
      exact absurd below (Nat.not_lt.mpr (Nat.le_of_eq (of_decide_eq_true same).symm))
  · ext key
    simp only [Order.apply, Set.mem_insert_iff, mem_registered, List.any_append, List.any_cons, List.any_nil,
      Bool.or_false, Bool.or_eq_true, decide_eq_true_eq]
    rw [← or_assoc, or_comm, @eq_comm _ _ key]
    rfl
  · intro captures pos'
    rw [CaptureRequest.after, defaultsAt_append]
    simp [defaultsAt]

theorem removeIncoming_spaced :
    Yields (Spaced none captures) (fun s => Spaced none captures s ∧ addr ∉ s.registry.incomingConns)
      (removeIncoming addr) := by
  mvcgen [removeIncoming]
  · rename_i s spaced absent
    refine ⟨spaced, ?_⟩
    rw [spaced.addressed.agree]
    intro member
    obtain ⟨p, old, same⟩ := List.mem_map.mp member
    exact List.find?_eq_none.mp absent p old (by simpa using same)
  rename_i s spaced handle incoming found
  have member := List.mem_of_find?_eq_some found
  refine ⟨spaced.watches rfl rfl ?_ ?_ (fun _ _ => rfl) ?_ (spaced.addressed.removed found), ?_⟩
  · exact mem_registered.mpr (.inr (List.any_eq_true.mpr ⟨_, member, by simp⟩))
  · have clients : ∀ key pos, s.registry.activeAt key pos = true → key ≠ handle := by
      rintro key pos active rfl
      have below := spaced.addressed.low key (stored_of_active (isActive_of_activeAt active))
      exact Nat.not_le.mpr below (spaced.addressed.high _ member).1
    ext key
    have kept : (s.registry.incomingConnInfo.filter (·.1 ≠ handle)).any (·.1 = key) = true ↔
        s.registry.incomingConnInfo.any (·.1 = key) = true ∧ key ≠ handle := by
      simp only [List.any_filter, List.any_eq_true, Bool.and_eq_true, decide_eq_true_eq]
      exact ⟨fun ⟨p, member, other, same⟩ => ⟨⟨p, member, same⟩, same ▸ other⟩,
        fun ⟨⟨p, member, same⟩, other⟩ => ⟨p, member, same ▸ other, same⟩⟩
    rw [Order.apply, Set.mem_sdiff, Set.mem_singleton_iff, mem_registered, mem_registered, or_and_right]
    refine or_congr ?_ kept
    exact ⟨fun active => ⟨active, active.elim (clients key)⟩, fun active => active.1⟩
  · intro captures pos
    exact List.filter_sublist.filter _
  · exact fun member => (spaced.addressed.conns.mem_erase_iff.mp member).1 rfl

theorem entered_spaced (pos : Position) (fingerprint : String) :
    Yields (Spaced none captures) (Spaced none captures) (entered addr pos fingerprint) := by
  mvcgen [entered, updateIncoming, addIncoming_spaced, removeIncoming_spaced]

end

structure Fresh (s : RegistryScene) : Prop where
  low : ∀ handle, (s.registry.clients.get handle).isSome = true → handle < enterHandleBegin
  log : s.log = []
  incoming : s.registry.incomingConnInfo = []
  conns : s.registry.incomingConns = []

theorem new_fresh (edgeIntentGate : Option EdgeIntentGate) : Fresh ⟨.new edgeIntentGate, []⟩ where
  low handle stored := by
    have unused : (Registry.new edgeIntentGate).clients.get handle = none := rfl
    simp [unused] at stored
  log := rfl
  incoming := rfl
  conns := rfl

theorem addWithConfig_fresh (c : Configured) : Yields Fresh Fresh (discard (addWithConfig c)) := by
  mvcgen [addWithConfig, reserveHandle]
  rename_i s fresh room
  refine ⟨?_, fresh.log, by simp [fresh.incoming], (setSwitchTarget_incomingConns c.2).trans fresh.conns⟩
  intro key found
  by_cases new : key = s.registry.clients.clients.nextKey
  · exact new ▸ room
  · refine fresh.low key ?_
    simpa [get_addWithConfig, new] using found

theorem Fresh.spaced (fresh : Fresh s) (inactive : ∀ key, s.registry.isActive key = false) :
    Spaced none [] s where
  accepted := by
    rw [fresh.log]
    trivial
  current := by
    rw [fresh.log]
    simp [requestsOf, outstanding, handlesOf, registered, registers, inactive, fresh.incoming]
  apart := by
    rw [fresh.log]
    intro asked first pos
    rw [List.prefix_nil.mp first]
    exact Nat.zero_le 1
  placed handle pos _ asked := by
    rw [fresh.log] at asked
    exact absurd asked List.not_mem_nil
  single handle handle' pos _ _ active :=
    absurd (isActive_of_activeAt active) (by simp [inactive])
  addressed := by
    refine ⟨fresh.low, ?_, ?_, ?_, ?_, ?_⟩ <;> simp [fresh.incoming, fresh.conns]

theorem deactivate_fresh (handles : List ClientHandle) :
    Yields (fun s => Fresh s ∧ ∀ key, s.registry.isActive key = true → key ∈ handles)
      (fun s => Fresh s ∧ ∀ key, s.registry.isActive key = false) (handles.forM fun handle =>
        update fun r => r.withClients (r.clients.deactivateClient handle)) := by
  induction handles with
  | nil =>
    change Yields _ _ (pure ())
    mvcgen
    rename_i s fresh
    exact ⟨fresh.1, fun key => Bool.eq_false_iff.mpr fun active => List.not_mem_nil (fresh.2 key active)⟩
  | cons handle handles ih =>
    change Yields _ _ (do
      update fun r => r.withClients (r.clients.deactivateClient handle)
      handles.forM fun handle => update fun r => r.withClients (r.clients.deactivateClient handle))
    mvcgen [ih]
    rename_i s fresh
    obtain ⟨fresh, among⟩ := fresh
    refine ⟨⟨?_, fresh.log, fresh.incoming, fresh.conns⟩, ?_⟩
    · exact fun key found => fresh.low key ((stored_edit _ key).mp found)
    intro key active
    have active := (isActive_edit _ key).symm.trans active
    split at active
    · simp at active
    · rename_i other
      exact (List.mem_cons.mp (among key active)).resolve_left other

theorem start_spaced (configs : List Configured) :
    Yields Fresh (Spaced none []) (Registry.start configs) := by
  have added := Yields.forM configs addWithConfig_fresh
  have activated := fun handles => Yields.forM handles (activateClient_spaced [])
  mvcgen [Registry.start, added, deactivate_fresh, activated]
  · rename_i fresh _ _
    refine ⟨fresh, ?_⟩
    intro key active
    exact List.mem_filter.mpr ⟨Slab.mem_keys.mpr (stored_of_active active), active⟩
  · rename_i fresh
    exact fresh.1.spaced fresh.2

end Handlers

end Registry

end DisplayMux.LanMouse
