import DisplayMux.LanMouse.Binding

/-! What a connection stores of its peer's readiness, in whatever order and however often
the peer's messages arrive. -/
namespace DisplayMux.LanMouse

/-- What is stored of a peer: keyboard, pointer, and the session they belong to. -/
def ClientState.readiness (s : ClientState) : Bool × Bool × UInt64 :=
  (s.keyboardReady, s.pointerReady, s.peerSessionEpoch)

def ProtoEvent.session : ProtoEvent → Option UInt64
  | .readiness _ _ sessionEpoch => some sessionEpoch
  | _ => none

def NetworkEntry.session (conn : Nat) (y : NetworkEntry) : Option UInt64 :=
  match y.input with
  | .datagram c (some event) => if c = conn then event.session else none
  | _ => none

def sessionsOn (conn : Nat) (trace : List NetworkEntry) : List UInt64 :=
  trace.filterMap (NetworkEntry.session conn)

theorem sessionsOn_snoc (conn : Nat) (trace : List NetworkEntry) (y : NetworkEntry) :
    sessionsOn conn (trace ++ [y]) = sessionsOn conn trace ++ (y.session conn).toList := by
  cases heard : y.session conn <;> simp [sessionsOn, heard]

structure Highest (sessions : List UInt64) (e : UInt64) : Prop where
  delivered : e = 0 ∨ e ∈ sessions
  above : ∀ d ∈ sessions, d ≤ e

namespace Highest

variable {sessions : List UInt64} {d e : UInt64}

theorem nil : Highest [] 0 := ⟨.inl rfl, by simp⟩

theorem older (highest : Highest sessions e) (below : d ≤ e) : Highest (sessions ++ [d]) e where
  delivered := highest.delivered.imp_right (List.mem_append_left _)
  above := by
    intro k member
    rcases List.mem_append.mp member with old | last
    · exact highest.above k old
    · rw [List.mem_singleton.mp last]
      exact below

theorem newer (highest : Highest sessions e) (higher : e ≤ d) : Highest (sessions ++ [d]) d where
  delivered := .inr (by simp)
  above := by
    intro k member
    rcases List.mem_append.mp member with old | last
    · exact UInt64.le_trans (highest.above k old) higher
    · rw [List.mem_singleton.mp last]
      exact UInt64.le_refl d

end Highest

/-- The connection is current, and what it remembers and stores is the pair of the
highest session delivered. -/
def Caught (pair : UInt64 → Bool × Bool) (conn : Nat) (link : Connection) (sessions : List UInt64)
    (n : Network) : Prop :=
  ∃ e, Highest sessions e ∧ n.conns.lookup link.addr = some conn ∧
    n.links[conn]? = some { link with latestPeerSessionEpoch := if e = 0 then none else some e } ∧
    (n.client link.handle).map (·.state.readiness) = some ((pair e).1, (pair e).2, e)

section Deliveries

variable {pair : UInt64 → Bool × Bool} {conn : Nat} {link : Connection} {sessions : List UInt64}
  {n n' : Network}

theorem readiness_setState (m : ClientManager) (handle : ClientHandle) (f : ClientState → ClientState) :
    ((m.setState handle f).get handle).map (·.state.readiness) =
      (m.get handle).map fun c => (f c.state).readiness := by
  rw [ClientManager.setState, ClientManager.get_edit, if_pos rfl, Option.map_map]
  rfl

theorem Caught.aside (caught : Caught pair conn link sessions n)
    (links : n'.links[conn]? = n.links[conn]?)
    (conns : n'.conns.lookup link.addr = n.conns.lookup link.addr)
    (stored : (n'.client link.handle).map (·.state.readiness) =
      (n.client link.handle).map (·.state.readiness)) : Caught pair conn link sessions n' := by
  obtain ⟨e, highest, current, found, readiness⟩ := caught
  exact ⟨e, highest, conns.trans current, links.trans found, stored.trans readiness⟩

section

variable (off : pair 0 = (false, false))
include off

theorem acceptReadinessEpoch_eq (e d : UInt64) :
    acceptReadinessEpoch (if e = 0 then none else some e) (pair d).1 (pair d).2 d =
      if d < e then (if e = 0 then none else some e, false)
      else (if d = 0 then none else some d, true) := by
  unfold acceptReadinessEpoch
  by_cases zero : d = 0
  · subst zero
    by_cases first : e = 0
    · simp [first, off]
    · have less : 0 < e := UInt64.pos_iff_ne_zero.mpr first
      simp [first, less]
  · by_cases first : e = 0
    · subst first
      simp [zero]
    · by_cases less : d < e <;> simp [zero, first, less]

section

variable {e : UInt64} (highest : Highest sessions e) (current : n.conns.lookup link.addr = some conn)
  (found : n.links[conn]? =
    some { link with latestPeerSessionEpoch := if e = 0 then none else some e })
  (stored : (n.client link.handle).map (·.state.readiness) = some ((pair e).1, (pair e).2, e))
include highest current found stored

theorem Caught.readiness (d : UInt64) : Caught pair conn link (sessions ++ [d])
      (n.receive conn { link with latestPeerSessionEpoch := if e = 0 then none else some e }
        (.readiness (pair d).1 (pair d).2 d)).1 := by
  simp only [Network.receive, acceptReadinessEpoch_eq off]
  by_cases less : d < e
  · simp only [if_pos less]
    exact ⟨e, highest.older (UInt64.le_of_lt less), current, found, stored⟩
  simp only [if_neg less]
  refine ⟨d, highest.newer (UInt64.not_lt.mp less), current, ?_, ?_⟩
  · have inside := (List.getElem?_eq_some_iff.mp found).1
    simp [Network.setLink, Network.withClients, inside]
  have fits : ¬ (d = 0 ∧ ((pair d).1 = true ∨ (pair d).2 = true)) := by
    rintro ⟨rfl, ready⟩
    simp [off] at ready
  have written : (n.clients.setPeerReadiness link.handle (pair d).1 (pair d).2 d) =
      n.clients.setState link.handle _ := if_neg fits
  simp only [Network.client, Network.withClients, Network.setLink, written, readiness_setState]
  obtain ⟨c, present, -⟩ := Option.map_eq_some_iff.mp stored
  have present : n.clients.get link.handle = some c := present
  rw [present]
  rfl

theorem Caught.receive (event : ProtoEvent) (honest : ∀ k p d, event = .readiness k p d → (k, p) = pair d) :
    Caught pair conn link (sessions ++ event.session.toList)
      (n.receive conn { link with latestPeerSessionEpoch := if e = 0 then none else some e } event).1 := by
  have same : Caught pair conn link sessions n := ⟨e, highest, current, found, stored⟩
  cases event with
  | readiness k p d =>
    obtain ⟨rfl, rfl⟩ := Prod.mk.inj (honest k p d rfl)
    exact Caught.readiness off highest current found stored d
  | pong ready =>
    show Caught pair conn link (sessions ++ []) _
    rw [List.append_nil]
    refine same.aside rfl rfl ?_
    exact (readiness_setState _ link.handle fun s => { s with alive := true }).trans
      (readiness_setState n.clients link.handle fun s => { s with activeAddr := some link.addr })
  | hello commit =>
    show Caught pair conn link (sessions ++ []) _
    rw [List.append_nil]
    exact same.aside rfl rfl
      (readiness_setState n.clients link.handle fun s => { s with peerCommit := some commit })
  | enter _ | leave _ | ack _ | input _ | ping | releaseRequest _ | releaseAck _ =>
    show Caught pair conn link (sessions ++ []) _
    rw [List.append_nil]
    exact same

end

theorem Caught.datagram
    (caught : Caught pair conn link sessions n) {event : Option ProtoEvent} {out : List Signal}
    (step : n.datagram conn event = some (n', out))
    (honest : ∀ k p d, event = some (.readiness k p d) → (k, p) = pair d) :
    Caught pair conn link (sessions ++ (event.bind ProtoEvent.session).toList) n' := by
  obtain ⟨e, highest, current, found, stored⟩ := caught
  have here : n.current link.addr conn = true := decide_eq_true current
  obtain ⟨l, found', ⟨-, read⟩ | ⟨stale, -⟩⟩ := Network.datagram_cases step
  · obtain rfl := Option.some.inj (found.symm.trans found')
    rcases read with ⟨rfl, rfl, -⟩ | ⟨event, rfl, read⟩
    · exact ⟨e, by simpa using highest, current, found, stored⟩
    · have received := Caught.receive off highest current found stored event fun k p d told =>
        honest k p d (by rw [told])
      rw [read] at received
      exact received
  · obtain rfl := Option.some.inj (found.symm.trans found')
    exact absurd here (by simp [stale])

end

/-- The step leaves the connection and what is stored of its peer's readiness alone. -/
def Aside (conn : Nat) (link : Connection) (y : NetworkEntry) : Prop :=
  y.post.links[conn]? = y.pre.links[conn]? ∧
  y.post.conns.lookup link.addr = y.pre.conns.lookup link.addr ∧
  (y.post.client link.handle).map (·.state.readiness) = (y.pre.client link.handle).map (·.state.readiness)

/-- Every message of the connection is the one pair of its session; between them
anything may happen that concerns other connections and clients. -/
structure Deliveries (pair : UInt64 → Bool × Bool) (conn : Nat) (link : Connection)
    (trace : List NetworkEntry) : Prop where
  steps : ∀ y ∈ trace, (∃ event, y.input = .datagram conn event) ∨ Aside conn link y
  honest : ∀ y ∈ trace, ∀ k p d, y.input = .datagram conn (some (.readiness k p d)) → (k, p) = pair d

variable {trace : List NetworkEntry}

theorem caught_run (off : pair 0 = (false, false))
    (start : Caught pair conn link [] n) (run : Run lanMouse n trace n')
    (deliveries : Deliveries pair conn link trace) : Caught pair conn link (sessionsOn conn trace) n' := by
  induction run with
  | nil => exact start
  | @snoc trace s s' move out _ step ih =>
    have before := ih ⟨fun y member => deliveries.steps y (List.mem_append_left _ member),
      fun y member => deliveries.honest y (List.mem_append_left _ member)⟩
    have last := List.mem_append_right trace (List.mem_singleton.mpr rfl :
      (⟨s, move, out, s'⟩ : NetworkEntry) ∈ [⟨s, move, out, s'⟩])
    rw [sessionsOn_snoc]
    by_cases own : ∃ event, move = .datagram conn event
    · obtain ⟨event, rfl⟩ := own
      have heard := before.datagram off step fun k p d told =>
        deliveries.honest _ last k p d (by rw [told])
      cases event <;> simpa [NetworkEntry.session] using heard
    rcases deliveries.steps _ last with delivery | ⟨links, conns, stored⟩
    · exact absurd delivery own
    have silent : NetworkEntry.session conn ⟨s, move, out, s'⟩ = none := by
      unfold NetworkEntry.session
      split
      · rename_i c event here
        rw [if_neg]
        rintro rfl
        exact own ⟨_, here⟩
      · rfl
    simpa [silent] using before.aside links conns stored

theorem caught_start (off : pair 0 = (false, false)) (found : n.links[conn]? = some link)
    (unheard : link.latestPeerSessionEpoch = none) (current : n.current link.addr conn = true)
    (cleared : (n.client link.handle).map (·.state.readiness) = some (false, false, 0)) :
    Caught pair conn link [] n := by
  refine ⟨0, .nil, of_decide_eq_true current, ?_, by rw [cleared, off]⟩
  rw [found, if_pos rfl, ← unheard]

/-- On a new connection with cleared readiness, whatever subset of the peer's messages
arrives in whatever order and however often, what is stored is the highest session
delivered with its pair. -/
theorem readiness_converges (pair : UInt64 → Bool × Bool) (off : pair 0 = (false, false))
    (found : n.links[conn]? = some link) (unheard : link.latestPeerSessionEpoch = none)
    (current : n.current link.addr conn = true)
    (cleared : (n.client link.handle).map (·.state.readiness) = some (false, false, 0))
    (run : Run lanMouse n trace n') (deliveries : Deliveries pair conn link trace) :
    ∃ e, Highest (sessionsOn conn trace) e ∧
      (n'.client link.handle).map (·.state.readiness) = some ((pair e).1, (pair e).2, e) := by
  have start := caught_start off found unheard current cleared
  obtain ⟨e, highest, -, -, stored⟩ := caught_run off start run deliveries
  exact ⟨e, highest, stored⟩

/-- The laptop's devices are ready in session 7 and gone in session 8, and the message of
session 7 arrives once more. -/
theorem late_ready_ignored : ∃ n trace n' e, Run lanMouse n trace n' ∧
    sessionsOn 0 trace = [7, 8, 7] ∧ Highest (sessionsOn 0 trace) e ∧
    (n'.client 0).map (·.state.readiness) = some (e == 7, e == 7, e) := by
  let link : Connection := ⟨0, ⟨.v4 1, defaultPort⟩, 0, none, true, true⟩
  have connected : ((lanMouse.replay (.new [laptop]) connectMoves).any fun r =>
      r.2.links[0]? = some link ∧ r.2.current link.addr 0 = true ∧
      (r.2.client 0).map (·.state.readiness) = some (false, false, 0) ∧
      ((lanMouse.replay r.2 [.datagram 0 (some (.readiness true true 7)),
        .datagram 0 (some (.readiness false false 8)), .datagram 0 (some (.readiness true true 7))]).any
        fun q => sessionsOn 0 q.1 = [7, 8, 7]) = true) = true := by decide +kernel
  obtain ⟨⟨connecting, n⟩, -, checked⟩ := Option.any_eq_true _ _ |>.mp connected
  obtain ⟨found, current, cleared, played⟩ := of_decide_eq_true checked
  obtain ⟨trace, n', run, inputs, sessions⟩ := lanMouse.exists_run_on n _
    (fun trace _ => sessionsOn 0 trace = [7, 8, 7]) played
  have told (y : NetworkEntry) (member : y ∈ trace) :
      y.input = .datagram 0 (some (.readiness true true 7)) ∨
        y.input = .datagram 0 (some (.readiness false false 8)) := by
    have listed := List.mem_map_of_mem (f := (·.input)) member
    rw [inputs] at listed
    simp only [List.mem_cons, List.not_mem_nil, or_false] at listed
    rcases listed with first | second | third
    · exact .inl first
    · exact .inr second
    · exact .inl third
  have deliveries : Deliveries (fun e => (e == 7, e == 7)) 0 link trace := by
    refine ⟨fun y member => ?_, fun y member k p d here => ?_⟩
    · rcases told y member with first | second
      · exact .inl ⟨_, first⟩
      · exact .inl ⟨_, second⟩
    rcases told y member with first | second
    · rw [first] at here
      cases here
      rfl
    · rw [second] at here
      cases here
      rfl
  obtain ⟨e, highest, stored⟩ := readiness_converges _ rfl found rfl current cleared run deliveries
  exact ⟨n, trace, n', e, run, sessions, highest, stored⟩

end Deliveries

end DisplayMux.LanMouse
