import DisplayMux.Tv.Reach

/-! What one step can do to the things that the history of a run is about: the
input owners, the active request, the owed fallback and the TV commands. Every
handler is taken apart here once; the properties of runs use the fields. -/
namespace DisplayMux.Tv

inductive RequestMove (s : ProtocolState) (event : Event) (t : Transition) (r : EnterRequest) :
    Prop where
  | kept (active : s.activeRequest = some r)
  | waking (source : s.activeRequest.isSome = true ∨ s.ready = true) (status : r.status = .waking)
      (fresh : r.switchEpoch = none)
  | switched (source : s.activeRequest.isSome = true ∨ s.ready = true) (e : Nat)
      (status : r.status = .switching) (epoch : r.switchEpoch = some e)
      (commanded : .setInput r.target e false ∈ t.effects)
  | unrouted (source : s.activeRequest.isSome = true ∨ s.ready = true) (status : r.status = .grant)
      (route : s.hasDisplayRoute r.target = false)
  | verified (old : EnterRequest) (e : Nat) (signals : HostMap Bool)
      (status : r.status = .grant) (active : s.activeRequest = some old)
      (target : old.target = r.target) (before : old.switchEpoch = some e)
      (epoch : r.switchEpoch = some e)
      (observed : event = .observation e .fullscreen (some r.target) signals)
      (display : targetDisplayVerified t.next r.target e = true)

inductive OwnersMove (s : ProtocolState) (event : Event) (nowMs : Nat) (t : Transition) : Prop where
  | kept (keyboard : t.next.keyboardOwner = s.keyboardOwner)
      (pointer : t.next.pointerOwner = s.pointerOwner)
  | released (keyboard : t.next.keyboardOwner = s.serverHost)
      (pointer : t.next.pointerOwner = s.serverHost)
  | committed (r : EnterRequest) (commits : Commits s event nowMs r)
      (keyboard : t.next.keyboardOwner = r.target) (pointer : t.next.pointerOwner = r.target)

/-- What counts as evidence that an owed fallback is over. -/
inductive Recovered (s : ProtocolState) (event : Event) (t : Transition) : Prop where
  | observed (mode : TvMode) (input : Option Host) (signals : HostMap Bool)
      (seen : event = .observation s.switchEpoch mode input signals)
      (display : serverDisplayVerified t.next s.switchEpoch = true)
  | synchronized (mode : TvMode) (input : Option Host) (signals : HostMap Bool)
      (seen : event = .transportSynchronized mode input signals)
  | selected (mode : TvMode) (input : Option Host) (seen : event = .subscriptionObserved mode input)
      (elsewhere : ¬ (mode = .fullscreen ∧ input = some s.serverHost))
      (keyboard : s.keyboardOwner = s.serverHost) (pointer : s.pointerOwner = s.serverHost)
      (request : s.activeRequest = none) (session : s.activeSession = none)

/-- At most one effect, and no TV command. -/
def Quiet (effects : List Effect) : Prop :=
  effects.length ≤ 1 ∧ ∀ target e fallback, .setInput target e fallback ∉ effects

/-- The TV command that a step sends, if any, under the epoch it opens. -/
inductive CommandMove (s : ProtocolState) (nowMs : Nat) (timing : ProtocolTiming) (t : Transition) :
    Prop where
  | none (quiet : Quiet t.effects)
      (epoch : t.next.switchEpoch = s.switchEpoch ∨
        t.next.switchEpoch = saturatingAdd s.switchEpoch 1)
  | switch (r : EnterRequest) (epoch : t.next.switchEpoch = saturatingAdd s.switchEpoch 1)
      (sent : t.effects = [.setInput r.target t.next.switchEpoch false])
      (active : t.next.activeRequest = some r) (opened : r.switchEpoch = some t.next.switchEpoch)
      (status : r.status = .switching) (phase : t.next.phase = .switching)
  | fallback (epoch : t.next.switchEpoch = saturatingAdd s.switchEpoch 1)
      (sent : t.effects = [.setInput s.serverHost t.next.switchEpoch true])
      (owed : t.next.fallbackRequired = true)
  -- a tick whose first command is overdue as soon as it is sent repeats it
  | fallbackTwice (overdue : saturatingAdd nowMs timing.commandMs ≤ nowMs) (e : Nat)
      (first : e = saturatingAdd s.switchEpoch 1)
      (epoch : t.next.switchEpoch = saturatingAdd e 1)
      (sent : t.effects =
        [.setInput s.serverHost e true, .setInput s.serverHost t.next.switchEpoch true])
      (owed : t.next.fallbackRequired = true)

structure Moves (s : ProtocolState) (event : Event) (nowMs : Nat) (timing : ProtocolTiming)
    (t : Transition) : Prop where
  server : t.next.serverHost = s.serverHost
  routes : t.next.displayHosts = s.displayHosts
  owners : OwnersMove s event nowMs t
  request : ∀ r, t.next.activeRequest = some r → RequestMove s event t r
  recovery : s.fallbackRequired = true → t.next.fallbackRequired = true ∨ Recovered s event t
  command : CommandMove s nowMs timing t
  link : event.movesLink = true ∨ t.next.link = s.link

variable {timing : ProtocolTiming}

theorem Moves.route {s : ProtocolState} {event : Event} {nowMs : Nat} {t : Transition}
    (moves : Moves s event nowMs timing t) (h : Host) : t.next.hasDisplayRoute h = s.hasDisplayRoute h := by
  rw [ProtocolState.hasDisplayRoute, moves.routes]
  rfl

section Outcomes

variable {s n : ProtocolState} {event : Event} {t : Transition} {nowMs : Nat}

theorem quiet_nil : Quiet [] := by simp [Quiet]

theorem quiet_observe (e : Nat) : Quiet [.observe e] := by simp [Quiet]

theorem SameBooks.owners (same : SameBooks event s t.next) : OwnersMove s event nowMs t :=
  .kept same.keyboard same.pointer

theorem moves_same {effects : List Effect} (same : SameBooks event s n) (quiet : Quiet effects) :
    Moves s event nowMs timing ⟨n, effects⟩ :=
  ⟨same.server, same.routes, same.owners, fun _ active => .kept (same.request ▸ active),
    fun owed => .inl (same.owed.trans owed), .none quiet (.inl same.switchEpoch), same.link⟩

theorem moves_fallback {reason : String} {b : Bool} (same : n.serverHost = s.serverHost ∧
      n.displayHosts = s.displayHosts ∧ n.switchEpoch = s.switchEpoch)
    (owed : s.fallbackRequired = true → b = true) (link : event.movesLink = true ∨ n.link = s.link) :
    Moves s event nowMs timing (beginFallbackWithRestore ⟨n, []⟩ nowMs timing reason b) := by
  obtain ⟨server, routes, epoch⟩ := same
  refine ⟨by simp [server], by simp [routes], .released (by simp [server]) (by simp [server]),
    by simp, fun h => .inl (by simpa using owed h), ?_, by simpa [ProtocolState.link] using link⟩
  rcases fallback_cases ⟨n, []⟩ nowMs timing reason b with
    ⟨rfl, -, -, -, opened, sent⟩ | ⟨-, -, -, kept, sent⟩ | ⟨-, -, -, -, kept, sent⟩
  · exact .fallback (by rw [opened, ← epoch]) (by simpa [server] using sent) (by simp)
  · exact .none (by simp [sent, Quiet]) (.inl (kept.trans epoch))
  · exact .none (by simp [sent, Quiet]) (.inl (kept.trans epoch))

theorem moves_switch (h : beginSwitch ⟨n, []⟩ nowMs timing = .ok t)
    (server : n.serverHost = s.serverHost) (routes : n.displayHosts = s.displayHosts)
    (epoch : n.switchEpoch = s.switchEpoch) (settled : s.fallbackRequired = false)
    (link : event.movesLink = true ∨ n.link = s.link)
    (source : s.activeRequest.isSome = true ∨ s.ready = true)
    (owners : (n.keyboardOwner = s.keyboardOwner ∧ n.pointerOwner = s.pointerOwner) ∨
      (n.keyboardOwner = s.serverHost ∧ n.pointerOwner = s.serverHost)) :
    Moves s event nowMs timing t := by
  obtain ⟨r, -, ⟨routed, rfl⟩ | ⟨unrouted, counts, rfl, -⟩⟩ := beginSwitch_ok h
  · refine ⟨server, routes, ?_, ?_, by simp [settled], ?_, link⟩
    · rcases owners with ⟨keyboard, pointer⟩ | ⟨keyboard, pointer⟩
      · exact .kept keyboard pointer
      · exact .released keyboard pointer
    · rintro r' ⟨⟩
      exact .switched source (saturatingAdd n.switchEpoch 1) rfl rfl (by simp)
    · exact .switch _ (by simp [epoch]) (by simp) rfl (by simp) rfl rfl
  refine ⟨by simpa using server, by simpa using routes, ?_, ?_, by simp [settled],
    .none quiet_nil (.inr (by simp [epoch])), by simpa [ProtocolState.link] using link⟩
  · rcases owners with ⟨keyboard, pointer⟩ | ⟨keyboard, pointer⟩
    · exact .kept (by simpa using keyboard) (by simpa using pointer)
    · exact .released (by simpa using keyboard) (by simpa using pointer)
  · rintro r' ⟨⟩
    refine .unrouted source rfl ?_
    rw [ProtocolState.hasDisplayRoute, ← routes]
    exact unrouted

theorem Outcome.moves (outcome : Outcome s event nowMs timing t) (shape : Shape s) :
    Moves s event nowMs timing t := by
  cases outcome with
  | kept same => exact moves_same same.toSameBooks quiet_nil
  | asked same => exact moves_same same (quiet_observe _)
  | polled => exact moves_same (.of_eq rfl) (quiet_observe _)
  | answered same | reverified same | completed same =>
    exact ⟨same.server, same.routes, .kept same.keyboard same.pointer,
      fun _ active => .kept (same.request ▸ active), fun owed => .inl (same.owed.trans owed),
      .none quiet_nil (.inl same.switchEpoch), same.link⟩
  | denied | renewed =>
    exact ⟨rfl, rfl, .kept rfl rfl, fun _ active => .kept active, fun owed => .inl owed,
      .none quiet_nil (.inl rfl), .inr rfl⟩
  | fellBack same restore =>
    refine moves_fallback ⟨same.server, same.routes, same.switchEpoch⟩ (fun owed => ?_) same.link
    simp [restore, displayRestoreRequired, owed]
  | calledOff =>
    refine moves_fallback ⟨rfl, rfl, rfl⟩ (fun owed => ?_) (.inr rfl)
    simp [displayRestoreRequired, owed]
  | closed closes same =>
    have settled := shape.not_owed_of_request closes.active
    exact moves_fallback ⟨same.server, same.routes, same.switchEpoch⟩ (by simp [settled]) same.link
  | @closedTwice r r' reason b closes overdue restore healthy =>
    have settled := shape.not_owed_of_request closes.active
    have first : Moves s event nowMs timing (beginFallbackWithRestore
        ⟨(takeActive s r).archiveRequest r', []⟩ nowMs timing reason b) :=
      moves_fallback ⟨rfl, rfl, rfl⟩ (by simp [settled]) (.inr rfl)
    refine ⟨first.server, first.routes, .released (by simp) (by simp), by simp, by simp [settled], ?_,
      first.link⟩
    rcases fallback_cases ⟨(takeActive s r).archiveRequest r', []⟩ nowMs timing reason b with
      ⟨-, -, -, -, opened, sent⟩ | ⟨unhealthy, -⟩ | ⟨unasked, -⟩
    · exact .fallbackTwice overdue (saturatingAdd s.switchEpoch 1) rfl (by simp [opened])
        (by simp [sent, opened]) (by simpa using restore)
    · exact absurd (healthy.symm.trans unhealthy) (by simp)
    · simp [restore] at unasked
  | settled =>
    exact ⟨rfl, rfl, .kept rfl rfl, by simp, fun owed => .inl owed, .none quiet_nil (.inl rfl), .inr rfl⟩
  | finished same cause =>
    refine ⟨same.server, same.routes, .released same.server same.server,
      fun _ active => .kept (same.request ▸ active), fun _ => .inr ?_,
      .none quiet_nil (.inl same.switchEpoch), same.link⟩
    rcases cause with ⟨-, verified, _, _, _, seen⟩ | ⟨_, _, _, seen, -⟩
    · exact .observed _ _ _ seen verified
    · exact .synchronized _ _ _ seen
  | accepted same free ended cause =>
    refine ⟨same.server, same.routes, .released same.server same.server,
      fun _ active => .kept (same.request ▸ active), fun _ => .inr ?_,
      .none quiet_nil (.inl same.switchEpoch), same.link⟩
    rcases cause with ⟨_, _, _, seen⟩ | ⟨_, _, seen, elsewhere, keyboard, pointer⟩
    · exact .synchronized _ _ _ seen
    · exact .selected _ _ seen elsewhere keyboard pointer free ended
  | granted same active epoch verified seen =>
    have settled := shape.not_owed_of_request active
    refine ⟨same.server, same.routes, .kept same.keyboard same.pointer, ?_, by simp [settled],
      .none quiet_nil (.inl same.switchEpoch), same.link⟩
    rintro _ ⟨⟩
    exact .verified _ _ _ rfl active rfl epoch epoch seen verified
  | restarted same active began =>
    exact moves_switch began same.server same.routes same.switchEpoch (shape.not_owed_of_request active)
      same.link (.inl (by simp [active])) (.inl ⟨same.keyboard, same.pointer⟩)
  | opened admits start began =>
    have settled := ready_settled admits.ready
    rcases start with ⟨-, rfl⟩ | ⟨-, rfl⟩
    · exact moves_switch began rfl rfl rfl settled (.inr rfl) (.inr admits.ready) (.inr ⟨rfl, rfl⟩)
    · exact moves_switch began rfl rfl rfl settled (.inr rfl) (.inr admits.ready) (.inl ⟨rfl, rfl⟩)
  | woken admits =>
    refine ⟨rfl, rfl, .kept rfl rfl, ?_, by simp [ready_settled admits.ready],
      .none (by simp [Quiet]) (.inl rfl), .inr rfl⟩
    rintro _ ⟨⟩
    exact .waking (.inr admits.ready) rfl admits.unswitched
  | committed commits =>
    exact ⟨rfl, rfl, .committed _ commits rfl rfl, by simp,
      by simp [shape.not_owed_of_request commits.active], .none quiet_nil (.inl rfl), .inr rfl⟩
  | changed =>
    exact ⟨rfl, rfl, .kept rfl rfl, fun _ active => .kept active, fun owed => .inl owed,
      .none (by simp [Quiet]) (.inr rfl), .inr rfl⟩
  | commandedAgain phase =>
    exact ⟨rfl, rfl, .kept rfl rfl, fun _ active => .kept active, fun owed => .inl owed,
      .fallback (by simp) (by simp) (shape.owing phase), .inr rfl⟩
  | stopped shut =>
    exact ⟨rfl, rfl, .released rfl rfl, by simp, by simp, .none quiet_nil (.inl rfl), .inl (by rw [shut]; rfl)⟩

end Outcomes

theorem apply_moves {s : ProtocolState} (shape : Shape s) {past : Nat} (valid : Valid s past)
    {event : Event} {nowMs : Nat} {t : Transition}
    (h : apply s event nowMs timing = .ok t) : Moves s event nowMs timing t :=
  (apply_outcome shape valid h).moves shape

theorem Sound.moves {c c' : Clocked} {i : Event × Nat} {reply : Reply}
    (sound : Sound c) (h : (reducer timing).step c i = some (c', reply)) :
    (∃ effects, reply = .accepted effects ∧ Moves c.state i.1 i.2 timing ⟨c'.state, effects⟩) ∨
      (∃ error, reply = .rejected error ∧ c'.state = c.state) :=
  (sound.outcome h).imp_left fun ⟨effects, answer, outcome⟩ =>
    ⟨effects, answer, outcome.moves sound.shape⟩

end DisplayMux.Tv
