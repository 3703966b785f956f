import DisplayMux.LanMouse.Binding

/-! A connection that was replaced at its address by a later one: what its tasks still do,
and how often the end of a connection is announced. -/
namespace DisplayMux.LanMouse

variable {addr : SocketAddr}

namespace Network

variable {n n' : Network}

def addrs (n : Network) : List SocketAddr := n.links.map (·.addr)

/-- A later connection was put at the address of this one. -/
def superseded (n : Network) (conn : Nat) (addr : SocketAddr) : Prop :=
  ∃ later, conn < later ∧ n.addrs[later]? = some addr

def acts (n : Network) (conn : Nat) : Move → Bool
  | .datagram c _ | .receiveFailed c | .pingFailed c | .pingRound c => c = conn
  | .sendFailed pending => n.sending[pending]?.any (·.conn = conn)
  | _ => false

def isCurrent (n : Network) (conn : Nat) : Bool := n.addrs[conn]?.any (n.current · conn)

/-- In this step a task gives the connection up: it failed, was not answered, or was
replaced. -/
def fails (n : Network) (conn : Nat) : Move → Bool
  | .receiveFailed c | .pingFailed c => c = conn
  | .pingRound c => c = conn && n.addrs[c]?.any (· ∉ n.pingResponse)
  | .datagram c _ => c = conn && !n.isCurrent c
  | .sendFailed pending => n.sending[pending]?.any (·.conn = conn)
  | _ => false

/-- `conns` holds the latest connection of each address, if any; what is being sent knows
the address of its connection; no address is marked twice. -/
structure Wired (n : Network) : Prop where
  latest : ∀ addr conn, n.conns.lookup addr = some conn →
    n.addrs[conn]? = some addr ∧ ¬ n.superseded conn addr
  sent : ∀ p ∈ n.sending, n.addrs[p.conn]? = some p.addr
  marks : n.pingResponse.Nodup

/-- What a step does to the connections. -/
inductive Rewires (n n' : Network) : Prop where
  | kept (conns : ∀ addr conn, n'.conns.lookup addr = some conn → n.conns.lookup addr = some conn)
      (addrs : n'.addrs = n.addrs)
      (sending : ∀ p ∈ n'.sending, p ∈ n.sending ∨ n.conns.lookup p.addr = some p.conn)
      (marks : n.pingResponse.Nodup → n'.pingResponse.Nodup)
  | registered (addr : SocketAddr) (conns : n'.conns = n.conns.insert addr n.links.length)
      (addrs : n'.addrs = n.addrs ++ [addr]) (sending : n'.sending = n.sending)
      (marks : n'.pingResponse = n.pingResponse)

theorem addrs_length : n.addrs.length = n.links.length := List.length_map ..

variable {conn : Nat} {out : List Signal}

theorem addrs_of_link {l : Connection} (found : n.links[conn]? = some l) :
    n.addrs[conn]? = some l.addr := by
  rw [addrs, List.getElem?_map, found]
  rfl

theorem addrs_setLink {l l' : Connection} (found : n.links[conn]? = some l)
    (same : l'.ident = l.ident) : (n.setLink conn l').addrs = n.addrs := by
  have kept := congrArg (List.map fun ident : _ × SocketAddr × _ => ident.2.1) (links_setLink found same)
  simpa [addrs, Function.comp_def, Connection.ident] using kept

theorem Rewires.frame (conns : n'.conns = n.conns) (addrs : n'.addrs = n.addrs)
    (sending : n'.sending = n.sending) (marks : n'.pingResponse = n.pingResponse) : Rewires n n' :=
  .kept (by simp [conns]) addrs (fun _ member => .inl (sending ▸ member)) (by simp [marks])

theorem Wired.step (wired : n.Wired) (rewires : Rewires n n') : n'.Wired := by
  cases rewires with
  | kept conns addrs sending marks =>
    refine ⟨fun addr conn current => ?_, fun p member => ?_, marks wired.marks⟩
    · rw [superseded, addrs]
      exact wired.latest addr conn (conns addr conn current)
    · rw [addrs]
      rcases sending p member with old | current
      · exact wired.sent p old
      · exact (wired.latest _ _ current).1
  | registered addr conns addrs sending marks =>
    refine ⟨fun addr' conn current => ?_, fun p member => ?_, marks ▸ wired.marks⟩
    · rw [superseded, addrs]
      rw [conns] at current
      by_cases same : addr' = addr
      · subst same
        rw [AList.lookup_insert] at current
        obtain rfl := Option.some.inj current
        rw [← addrs_length]
        refine ⟨by simp, ?_⟩
        rintro ⟨later, after, found⟩
        have inside := (List.getElem?_eq_some_iff.mp found).1
        simp only [List.length_append, List.length_singleton] at inside
        omega
      rw [AList.lookup_insert_ne same] at current
      obtain ⟨found, newest⟩ := wired.latest addr' conn current
      have inside := (List.getElem?_eq_some_iff.mp found).1
      refine ⟨by rw [List.getElem?_append_left inside, found], ?_⟩
      rintro ⟨later, after, other⟩
      by_cases last : later < n.addrs.length
      · rw [List.getElem?_append_left last] at other
        exact newest ⟨later, after, other⟩
      · rw [List.getElem?_append_right (by omega), List.getElem?_singleton] at other
        split at other
        · exact same (Option.some.inj other).symm
        · cases other
    · rw [sending] at member
      have found := wired.sent p member
      have inside := (List.getElem?_eq_some_iff.mp found).1
      rw [addrs, List.getElem?_append_left inside, found]

theorem new_wired (configs : List ConfigClient) : (new configs).Wired :=
  ⟨by simp [new], by simp [new], by simp [new]⟩

theorem failConnection_current {handle : ClientHandle}
    (current : n.current addr conn = true) : n.failConnection handle addr conn =
      ({ n.forgetPing addr with conns := n.conns.erase addr, clients := n.clients.forgetPeer handle },
        [.deliver handle (.readiness false false 0)]) := by
  have still : (n.forgetPing addr).current addr conn = true := current
  simp only [failConnection, disconnect, still, if_true]
  rfl

theorem failConnection_stale {handle : ClientHandle} (stale : n.current addr conn = false) :
    n.failConnection handle addr conn = (n.forgetPing addr, []) := by
  have still : (n.forgetPing addr).current addr conn = false := stale
  simp [failConnection, disconnect, still]

structure Resumes (n base : Network) : Prop where
  clients : base.clients = n.clients
  conns : base.conns = n.conns
  addrs : base.addrs = n.addrs
  sending : ∀ p ∈ base.sending, p ∈ n.sending
  marks : base.pingResponse = n.pingResponse

theorem resumes_setLink {l l' : Connection} (found : n.links[conn]? = some l)
    (same : l'.ident = l.ident) : Resumes n (n.setLink conn l') :=
  ⟨rfl, rfl, addrs_setLink found same, fun _ member => member, rfl⟩

theorem Resumes.rewires {base : Network} (resumes : Resumes n base) (handle : ClientHandle)
    (addr : SocketAddr) (conn : Nat) : Rewires n (base.failConnection handle addr conn).1 := by
  have unmarked (distinct : n.pingResponse.Nodup) : (base.pingResponse.erase addr).Nodup := by
    rw [resumes.marks]
    exact distinct.erase addr
  have sent : ∀ p ∈ base.sending, p ∈ n.sending ∨ n.conns.lookup p.addr = some p.conn :=
    fun p member => .inl (resumes.sending p member)
  cases current : base.current addr conn with
  | true =>
    rw [failConnection_current current]
    refine .kept (fun addr' conn' found => ?_) resumes.addrs sent unmarked
    rw [← resumes.conns]
    by_cases same : addr' = addr
    · subst same
      simp [AList.lookup_erase] at found
    · rwa [AList.lookup_erase_ne same] at found
  | false =>
    rw [failConnection_stale current]
    refine .kept (fun addr' conn' found => ?_) resumes.addrs sent unmarked
    rw [← resumes.conns]
    exact found

def GivesUp (n : Network) (conn : Nat) (n' : Network) (out : List Signal) : Prop :=
  ∃ base handle addr, Resumes n base ∧ n.addrs[conn]? = some addr ∧
    base.failConnection handle addr conn = (n', out)

theorem givesUp_link {l : Connection} (found : n.links[conn]? = some l)
    (stopped : Connection) (same : stopped.ident = l.ident)
    (ended : (n.setLink conn stopped).failConnection l.handle l.addr conn = (n', out)) :
    GivesUp n conn n' out :=
  ⟨_, l.handle, l.addr, resumes_setLink found same, addrs_of_link found, ended⟩

theorem fails_step (wired : n.Wired) {move : Move}
    (failing : n.fails conn move = true) (step : n.step move = some (n', out)) :
    GivesUp n conn n' out := by
  cases move with
  | receiveFailed c =>
    obtain rfl : c = conn := by simpa [fails] using failing
    obtain ⟨l, found, closed⟩ := receiveFailed_ends step
    exact givesUp_link found { l with receiving := false } rfl closed
  | pingFailed c =>
    obtain rfl : c = conn := by simpa [fails] using failing
    obtain ⟨l, found, closed⟩ := pingFailed_ends step
    exact givesUp_link found { l with pinging := false } rfl closed
  | pingRound c =>
    simp only [fails, Bool.and_eq_true, decide_eq_true_eq] at failing
    obtain ⟨rfl, unanswered⟩ := failing
    obtain ⟨l, found, ⟨answered, -⟩ | ⟨-, closed⟩⟩ := pingRound_cases step
    · simp [addrs_of_link found, answered] at unanswered
    · exact givesUp_link found { l with pinging := false } rfl closed
  | datagram c event =>
    simp only [fails, Bool.and_eq_true, decide_eq_true_eq, Bool.not_eq_true'] at failing
    obtain ⟨rfl, replaced⟩ := failing
    obtain ⟨l, found, ⟨current, -⟩ | ⟨-, closed⟩⟩ := datagram_cases step
    · simp [isCurrent, addrs_of_link found, current] at replaced
    · exact givesUp_link found { l with receiving := false } rfl closed
  | sendFailed pending =>
    simp only [Network.step, Network.sendFailed, Option.bind_eq_bind, Option.bind_eq_some_iff] at step
    obtain ⟨p, waiting, step⟩ := step
    obtain rfl : p.conn = conn := by simpa [fails, waiting] using failing
    refine ⟨{ n with sending := n.sending.eraseIdx pending }, p.handle, p.addr,
      ⟨rfl, rfl, rfl, fun q member => List.mem_of_mem_eraseIdx member, rfl⟩,
      wired.sent p (List.mem_of_getElem? waiting), Option.some.inj step⟩
  | create | delete _ | reload _ | setActive _ _ | setFixIps _ _ | setDnsIps _ _ | setHostname _ _
  | setPort _ _ | setPos _ _ | request _ | start _ | attemptFailed _ | established _ _ | send _ _ _ =>
    cases failing

theorem GivesUp.rewires (gives : GivesUp n conn n' out) : Rewires n n' := by
  obtain ⟨base, handle, addr, resumes, -, ended⟩ := gives
  have wires := resumes.rewires handle addr conn
  rw [ended] at wires
  exact wires

theorem receive_rewires {l : Connection} (found : n.links[conn]? = some l)
    (event : ProtoEvent) : Rewires n (n.receive conn l event).1 := by
  cases event with
  | pong _ =>
    exact .kept (fun _ _ current => current) rfl (fun _ member => .inl member) (·.insert)
  | readiness keyboardReady pointerReady sessionEpoch =>
    simp only [Network.receive]
    split
    · exact .frame rfl rfl rfl rfl
    · rename_i latest _
      have same : ({ l with latestPeerSessionEpoch := latest } : Connection).ident = l.ident := rfl
      exact .frame rfl (addrs_setLink found same) rfl rfl
  | hello _ | enter _ | leave _ | ack _ | input _ | ping | releaseRequest _ | releaseAck _ =>
    exact .frame rfl rfl rfl rfl

theorem step_rewires (wired : n.Wired) {move : Move}
    (step : n.step move = some (n', out)) : Rewires n n' := by
  have given (conn : Nat) (failing : n.fails conn move = true) : Rewires n n' :=
    (fails_step wired failing step).rewires
  have managed (step : (Network.manage n.clients move).map (fun m => (n.withClients m, [])) =
      some (n', out)) : Rewires n n' := by
    obtain ⟨m, -, same⟩ := Option.map_eq_some_iff.mp step
    obtain ⟨rfl, -⟩ := Prod.mk.inj same
    exact .frame rfl rfl rfl rfl
  have alone {x : Option Network} (step : x.map (·, ([] : List Signal)) = some (n', out)) :
      x = some n' := by
    obtain ⟨_, found, same⟩ := Option.map_eq_some_iff.mp step
    rw [found, (Prod.mk.inj same).1]
  cases move with
  | receiveFailed conn | pingFailed conn => exact given conn (by simp [fails])
  | sendFailed pending =>
    have waits := step
    simp only [Network.step, Network.sendFailed, Option.bind_eq_bind, Option.bind_eq_some_iff] at waits
    obtain ⟨p, waiting, -⟩ := waits
    exact given p.conn (by simp [fails, waiting])
  | pingRound conn =>
    obtain ⟨l, found, ⟨-, rfl, -⟩ | ⟨unanswered, -⟩⟩ := pingRound_cases step
    · exact .kept (fun _ _ current => current) rfl (fun _ member => .inl member) (·.erase _)
    · exact given conn (by simp [fails, addrs_of_link found, unanswered])
  | datagram conn event =>
    obtain ⟨l, found, ⟨-, ⟨-, rfl, -⟩ | ⟨event, -, read⟩⟩ | ⟨stale, -⟩⟩ := datagram_cases step
    · exact .frame rfl rfl rfl rfl
    · have wires := receive_rewires found event
      rw [read] at wires
      exact wires
    · exact given conn (by simp [fails, isCurrent, addrs_of_link found, stale])
  | request handle =>
    cases step
    unfold requestConnection
    split <;> exact .frame rfl rfl rfl rfl
  | start task =>
    have started := alone step
    simp only [startTask, Option.bind_eq_bind, Option.bind_eq_some_iff] at started
    obtain ⟨handle, -, started⟩ := started
    split at started
    · cases started
      exact .frame rfl rfl rfl rfl
    · split at started <;> cases started <;> exact .frame rfl rfl rfl rfl
  | attemptFailed attempt =>
    have failed := alone step
    simp only [Network.attemptFailed, Option.bind_eq_bind, Option.bind_eq_some_iff] at failed
    obtain ⟨a, -, failed⟩ := failed
    cases failed
    exact .frame rfl rfl rfl rfl
  | established attempt addr =>
    have done := alone step
    simp only [Network.established, Option.bind_eq_bind, Option.bind_eq_some_iff] at done
    obtain ⟨a, -, done⟩ := done
    split at done
    · cases done
      exact .registered addr rfl (by simp [addrs, register, withClients]) rfl rfl
    · cases done
  | send event handle ok =>
    have sent := Option.some.inj step
    unfold Network.send at sent
    split at sent
    · cases sent
      unfold requestConnection
      split <;> exact .frame rfl rfl rfl rfl
    rename_i addr conn route
    obtain ⟨addr', -, rest⟩ := Option.bind_eq_some_iff.mp route
    obtain ⟨conn', current, pair⟩ := Option.map_eq_some_iff.mp rest
    cases pair
    split at sent
    · cases sent
      exact .frame rfl rfl rfl rfl
    split at sent
    · cases sent
      exact .frame rfl rfl rfl rfl
    cases sent
    refine .kept (fun _ _ current => current) rfl (fun p member => ?_) id
    rcases List.mem_append.mp member with old | new
    · exact .inl old
    · obtain rfl := List.mem_singleton.mp new
      exact .inr current
  | create | delete _ | reload _ | setActive _ _ | setFixIps _ _ | setDnsIps _ _ | setHostname _ _
  | setPort _ _ | setPos _ _ => exact managed step

section Tasks

variable {conn : Nat} {addr : SocketAddr} {move : Move} {out : List Signal}

theorem isCurrent_iff (found : n.addrs[conn]? = some addr) :
    n.isCurrent conn = true ↔ n.conns.lookup addr = some conn := by
  simp [isCurrent, found, current]

theorem stale_stays (rewires : Rewires n n') (known : conn < n.addrs.length)
    (stale : n.isCurrent conn = false) : conn < n'.addrs.length ∧ n'.isCurrent conn = false := by
  obtain ⟨addr, found⟩ : ∃ addr, n.addrs[conn]? = some addr := ⟨_, List.getElem?_eq_getElem known⟩
  have before : n.conns.lookup addr ≠ some conn := fun held => by
    simp [(isCurrent_iff found).mpr held] at stale
  cases rewires with
  | kept conns addrs _ _ =>
    rw [← addrs] at known found
    refine ⟨known, Bool.eq_false_iff.mpr fun current => ?_⟩
    exact before (conns addr conn ((isCurrent_iff found).mp current))
  | registered new conns addrs _ _ =>
    have kept : n'.addrs[conn]? = some addr := by rw [addrs, List.getElem?_append_left known, found]
    refine ⟨by rw [addrs, List.length_append]; omega, Bool.eq_false_iff.mpr fun current => ?_⟩
    have holds := (isCurrent_iff kept).mp current
    rw [conns] at holds
    by_cases same : addr = new
    · subst same
      rw [AList.lookup_insert, ← addrs_length] at holds
      have last := Option.some.inj holds
      omega
    · rw [AList.lookup_insert_ne same] at holds
      exact before holds

theorem Wired.superseded_stale (wired : n.Wired) (found : n.addrs[conn]? = some addr)
    (replaced : n.superseded conn addr) : n.isCurrent conn = false := by
  refine Bool.eq_false_iff.mpr fun current => ?_
  exact (wired.latest addr conn ((isCurrent_iff found).mp current)).2 replaced

theorem GivesUp.stale (gives : GivesUp n conn n' out) (found : n.addrs[conn]? = some addr)
    (stale : n.isCurrent conn = false) : n'.clients = n.clients ∧ n'.conns = n.conns ∧ out = [] ∧
      n'.pingResponse = n.pingResponse.erase addr := by
  obtain ⟨base, handle, addr', resumes, found', ended⟩ := gives
  obtain rfl := Option.some.inj (found.symm.trans found')
  have apart : base.current addr conn = false := by
    refine Bool.eq_false_iff.mpr fun current => ?_
    have held : base.conns.lookup addr = some conn := of_decide_eq_true current
    rw [resumes.conns] at held
    simp [(isCurrent_iff found).mpr held] at stale
  rw [failConnection_stale apart] at ended
  obtain ⟨rfl, rfl⟩ := Prod.mk.inj ended
  refine ⟨resumes.clients, resumes.conns, rfl, ?_⟩
  rw [← resumes.marks]
  rfl

theorem GivesUp.current (gives : GivesUp n conn n' out) (current : n.isCurrent conn = true) :
    (∃ handle, out = [.deliver handle (.readiness false false 0)]) ∧
      conn < n'.addrs.length ∧ n'.isCurrent conn = false := by
  obtain ⟨base, handle, addr, resumes, found, ended⟩ := gives
  have held : base.conns.lookup addr = some conn := by
    rw [resumes.conns]
    exact (isCurrent_iff found).mp current
  rw [failConnection_current (decide_eq_true held)] at ended
  obtain ⟨rfl, rfl⟩ := Prod.mk.inj ended
  have kept : base.addrs[conn]? = some addr := by rw [resumes.addrs, found]
  refine ⟨⟨handle, rfl⟩, (List.getElem?_eq_some_iff.mp kept).1, Bool.eq_false_iff.mpr fun again => ?_⟩
  have holds := (isCurrent_iff (n := { base.forgetPing addr with
    conns := base.conns.erase addr, clients := base.clients.forgetPeer handle }) kept).mp again
  simp [AList.lookup_erase] at holds

theorem superseded_step (wired : n.Wired) (found : n.addrs[conn]? = some addr)
    (replaced : n.superseded conn addr) (acting : n.acts conn move = true)
    (step : n.step move = some (n', out)) : n'.clients = n.clients ∧ n'.conns = n.conns ∧ out = [] ∧
      n'.pingResponse = n.pingResponse.erase addr := by
  have stale := wired.superseded_stale found replaced
  cases failing : n.fails conn move with
  | true => exact (fails_step wired failing step).stale found stale
  | false =>
    -- only a ping round that finds an answer is left, and the answer is not its own
    cases move with
    | pingRound c =>
      obtain rfl : c = conn := by simpa [acts] using acting
      obtain ⟨l, link, ⟨-, rfl, rfl⟩ | ⟨unanswered, -⟩⟩ := pingRound_cases step
      · obtain rfl := Option.some.inj ((addrs_of_link link).symm.trans found)
        exact ⟨rfl, rfl, rfl, rfl⟩
      · simp [fails, addrs_of_link link, unanswered] at failing
    | datagram c event =>
      obtain rfl : c = conn := by simpa [acts] using acting
      simp [fails, stale] at failing
    | receiveFailed c | pingFailed c | sendFailed pending =>
      exact absurd (failing.symm.trans acting) Bool.false_ne_true
    | create | delete _ | reload _ | setActive _ _ | setFixIps _ _ | setDnsIps _ _ | setHostname _ _
    | setPort _ _ | setPos _ _ | request _ | start _ | attemptFailed _ | established _ _ | send _ _ _ =>
      cases acting

end Tasks

end Network

open Network

/-- The step changes no client, no connection and not the mark of the address, and says
nothing. -/
structure Inert (addr : SocketAddr) (y : NetworkEntry) : Prop where
  clients : y.post.clients = y.pre.clients
  conns : y.post.conns = y.pre.conns
  mark : addr ∈ y.post.pingResponse ↔ addr ∈ y.pre.pingResponse
  silent : y.output = []

def failures (conn : Nat) (trace : List NetworkEntry) : List NetworkEntry :=
  trace.filter fun y => y.pre.fails conn y.input

section Runs

variable {configs : List ConfigClient} {trace : List NetworkEntry} {n : Network}

theorem run_wired (run : Run lanMouse (.new configs) trace n) : n.Wired :=
  run.invariant (new_wired configs) fun _ _ _ _ wired step => wired.step (step_rewires wired step)

theorem inert_iff {y : NetworkEntry} (wired : y.pre.Wired)
    (step : y.pre.step y.input = some (y.post, y.output)) {conn : Nat}
    (found : y.pre.addrs[conn]? = some addr) (replaced : y.pre.superseded conn addr)
    (acting : y.pre.acts conn y.input = true) : Inert addr y ↔ addr ∉ y.pre.pingResponse := by
  obtain ⟨clients, conns, silent, marks⟩ := superseded_step wired found replaced acting step
  have gone : addr ∉ y.post.pingResponse := by
    rw [marks]
    exact wired.marks.not_mem_erase
  constructor
  · intro inert marked
    exact gone (inert.mark.mpr marked)
  · intro unmarked
    exact ⟨clients, conns, iff_of_false gone unmarked, silent⟩

/-- Either no task found the connection current when it gave it up, and nothing was
announced, or one did, and announced it; after that it is not current. -/
def Announced (conn : Nat) (trace : List NetworkEntry) (n : Network) : Prop :=
  ((∀ y ∈ failures conn trace, y.pre.isCurrent conn = false) ∧
    (failures conn trace).flatMap (·.output) = []) ∨
  ((∃ y ∈ failures conn trace, y.pre.isCurrent conn = true) ∧
    (∃ handle, (failures conn trace).flatMap (·.output) = [.deliver handle (.readiness false false 0)]) ∧
    conn < n.addrs.length ∧ n.isCurrent conn = false)

theorem Announced.step {conn : Nat} {n' : Network} {move : Move} {out : List Signal}
    (announced : Announced conn trace n) (wired : n.Wired) (step : n.step move = some (n', out)) :
    Announced conn (trace ++ [⟨n, move, out, n'⟩]) n' := by
  have rewires := step_rewires wired step
  cases failing : n.fails conn move with
  | false =>
    have same : failures conn (trace ++ [⟨n, move, out, n'⟩]) = failures conn trace := by
      simp [failures, failing]
    unfold Announced
    rw [same]
    rcases announced with none | ⟨found, once, known, stale⟩
    · exact .inl none
    · exact .inr ⟨found, once, stale_stays rewires known stale⟩
  | true =>
    have more : failures conn (trace ++ [⟨n, move, out, n'⟩]) =
        failures conn trace ++ [⟨n, move, out, n'⟩] := by
      simp [failures, failing]
    have gives := fails_step wired failing step
    unfold Announced
    rw [more, List.flatMap_append, List.flatMap_singleton]
    cases current : n.isCurrent conn with
    | true =>
      rcases announced with ⟨-, silent⟩ | ⟨-, -, -, stale⟩
      · obtain ⟨⟨handle, rfl⟩, after⟩ := gives.current current
        refine .inr ⟨⟨_, List.mem_append_right _ (List.mem_singleton.mpr rfl), current⟩, ⟨handle, ?_⟩, after⟩
        rw [silent, List.nil_append]
      · simp [current] at stale
    | false =>
      obtain ⟨addr, found⟩ : ∃ addr, n.addrs[conn]? = some addr := by
        obtain ⟨-, -, addr, -, found, -⟩ := gives
        exact ⟨addr, found⟩
      obtain ⟨-, -, rfl, -⟩ := gives.stale found current
      rw [List.append_nil]
      rcases announced with ⟨all, silent⟩ | ⟨⟨y, member, held⟩, once, known, stale⟩
      · refine .inl ⟨fun y member => ?_, silent⟩
        rcases List.mem_append.mp member with old | new
        · exact all y old
        · rw [List.mem_singleton.mp new]
          exact current
      · exact .inr ⟨⟨y, List.mem_append_left _ member, held⟩, once, stale_stays rewires known stale⟩

/-- A step of a superseded connection's tasks is inert exactly when the address is not
marked as answering; and a connection that its tasks give up while it is current is
announced once, however many of them do. -/
theorem superseded_inert_iff (run : Run lanMouse (.new configs) trace n) :
    (∀ y ∈ trace, ∀ conn addr, y.pre.addrs[conn]? = some addr → y.pre.superseded conn addr →
      y.pre.acts conn y.input = true → (Inert addr y ↔ addr ∉ y.pre.pingResponse)) ∧
    ∀ conn, (∃ y ∈ failures conn trace, y.pre.isCurrent conn = true) →
      ∃ handle, (failures conn trace).flatMap (·.output) =
        [.deliver handle (.readiness false false 0)] := by
  refine ⟨fun y member conn addr found replaced acting => ?_, fun conn failed => ?_⟩
  · obtain ⟨before, reached, step⟩ := run.entry_step member
    exact inert_iff (run_wired reached) step found replaced acting
  have announced : Announced conn trace n := by
    refine run.history (P := Announced conn) (.inl ⟨by simp [failures], rfl⟩) ?_
    intro trace s move s' out reached before step
    exact before.step (run_wired reached) step
  rcases announced with ⟨all, -⟩ | ⟨-, once, -⟩
  · obtain ⟨y, member, current⟩ := failed
    simp [all y member] at current
  · exact once

end Runs

/-- Two tasks were started for the laptop before one of them connected, so that the
second connection replaces the first. -/
def replaceMoves : List Move :=
  .request 0 :: connectMoves ++ [.start 0, .established 0 ⟨.v4 1, defaultPort⟩]

/-- The first connection is found broken before the second was answered: nothing happens. -/
theorem replaced_connection_inert : ∃ trace n y, Run lanMouse (.new [laptop]) trace n ∧ y ∈ trace ∧
    y.input = .receiveFailed 0 ∧ y.pre.superseded 0 ⟨.v4 1, defaultPort⟩ ∧
    Inert ⟨.v4 1, defaultPort⟩ y := by
  obtain ⟨trace, n, run, y, member, move, addrs, unmarked⟩ := lanMouse.exists_run (.new [laptop])
    (replaceMoves ++ [.receiveFailed 0])
    (fun trace _ => ∃ y ∈ trace, y.input = .receiveFailed 0 ∧
      y.pre.addrs = [⟨.v4 1, defaultPort⟩, ⟨.v4 1, defaultPort⟩] ∧ y.pre.pingResponse = [])
    (by decide +kernel)
  have replaced : y.pre.superseded 0 ⟨.v4 1, defaultPort⟩ := ⟨1, by decide, by rw [addrs]; rfl⟩
  have inert := ((superseded_inert_iff run).1 y member 0 _ (by rw [addrs]; rfl) replaced
    (by rw [move]; rfl)).mpr (by simp [unmarked])
  exact ⟨trace, n, y, run, member, move, replaced, inert⟩

/-- The second connection was answered when the first is found broken: the answer is
forgotten, and the second is given up for not answering. -/
theorem replaced_connection_takes_mark : ∃ trace n y z, Run lanMouse (.new [laptop]) trace n ∧
    y ∈ trace ∧ y.input = .receiveFailed 0 ∧ y.pre.superseded 0 ⟨.v4 1, defaultPort⟩ ∧
    ¬ Inert ⟨.v4 1, defaultPort⟩ y ∧
    z ∈ trace ∧ z.input = .pingRound 1 ∧ z.output = [.deliver 0 (.readiness false false 0)] := by
  obtain ⟨trace, n, run, ⟨y, member, move, addrs, marked, unmarked⟩, z, member', round, reset⟩ :=
    lanMouse.exists_run (.new [laptop])
      (replaceMoves ++ [.datagram 1 (some (.pong true)), .receiveFailed 0, .pingRound 1])
      (fun trace _ => (∃ y ∈ trace, y.input = .receiveFailed 0 ∧
        y.pre.addrs = [⟨.v4 1, defaultPort⟩, ⟨.v4 1, defaultPort⟩] ∧
        y.pre.pingResponse = [⟨.v4 1, defaultPort⟩] ∧ y.post.pingResponse = []) ∧
        ∃ z ∈ trace, z.input = .pingRound 1 ∧ z.output = [.deliver 0 (.readiness false false 0)])
      (by decide +kernel)
  refine ⟨trace, n, y, z, run, member, move, ⟨1, by decide, by rw [addrs]; rfl⟩, ?_, member', round, reset⟩
  intro inert
  have kept := inert.mark
  simp [marked, unmarked] at kept

end DisplayMux.LanMouse
