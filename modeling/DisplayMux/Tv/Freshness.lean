import DisplayMux.Tv.Ledger
import DisplayMux.Tv.Progress

/-! Epochs as freshness. Every command to the TV opens a switch epoch of its own,
every request a request epoch and every grant a grant epoch, so along a run each of
them is newer than all of its kind before it. -/
namespace DisplayMux.Tv

def Effect.orders : Effect → Option Nat
  | .setInput _ switchEpoch _ => some switchEpoch
  | .setMultiView _ switchEpoch => some switchEpoch
  | _ => none

def orderEpochs (effects : List Effect) : List Nat := effects.filterMap Effect.orders

inductive Sends (s : ProtocolState) (t : Transition) : Prop where
  | nothing (epoch : t.next.switchEpoch = s.switchEpoch ∨
      t.next.switchEpoch = saturatingAdd s.switchEpoch 1) (sent : t.effects = [])
  | question (epoch : t.next.switchEpoch = s.switchEpoch) (sent : t.effects = [.observe s.switchEpoch])
  | call (epoch : t.next.switchEpoch = s.switchEpoch) {target : Host} {e : Nat}
      (sent : t.effects = [.wake target e])
  | order (epoch : t.next.switchEpoch = saturatingAdd s.switchEpoch 1) {effect : Effect}
      (sent : t.effects = [effect]) (carries : effect.orders = some t.next.switchEpoch)

inductive Grants (s n : ProtocolState) : Prop where
  | kept (epoch : n.grantEpoch = s.grantEpoch)
      (grant : ∀ g, n.activeRequest.bind (·.grant) = some g → s.activeRequest.bind (·.grant) = some g)
  | issued (epoch : n.grantEpoch = saturatingAdd s.grantEpoch 1)
      (grant : ∀ g, n.activeRequest.bind (·.grant) = some g → g.grantEpoch = n.grantEpoch)

section Steps

variable {s n : ProtocolState} {t : Transition} {event : Event} {nowMs : Nat}
  {timing : ProtocolTiming}

theorem fallback_sends {reason : String} {b : Bool} (epoch : n.switchEpoch = s.switchEpoch) :
    Sends s (beginFallbackWithRestore ⟨n, []⟩ nowMs timing reason b) := by
  rcases fallback_cases ⟨n, []⟩ nowMs timing reason b with
    ⟨-, -, -, -, opened, sent⟩ | ⟨-, -, -, stays, sent⟩ | ⟨-, -, -, -, stays, sent⟩
  · exact .order (epoch ▸ opened) sent rfl
  · exact .nothing (.inl (stays.trans epoch)) sent
  · exact .nothing (.inl (stays.trans epoch)) sent

theorem switch_sends (began : beginSwitch ⟨n, []⟩ nowMs timing = .ok t)
    (epoch : n.switchEpoch = s.switchEpoch) : Sends s t := by
  obtain ⟨r, -, ⟨-, rfl⟩ | ⟨-, counts, rfl, -⟩⟩ := beginSwitch_ok began
  · exact .order (by simp [epoch]) rfl rfl
  · exact .nothing (.inr (by simp [epoch])) rfl

/-- A step sends one thing, or it sends a fallback command that is overdue at once
and repeats it. -/
theorem Outcome.sends_or_repeats (outcome : Outcome s event nowMs timing t) (timed : Timed s) :
    Sends s t ∨ (saturatingAdd nowMs timing.commandMs ≤ nowMs ∧
      ∀ effect ∈ t.effects, ∃ e, effect = .setInput s.serverHost e true) := by
  cases outcome with
  | kept same | finished same | accepted same | answered same | reverified same | granted same
  | completed same => exact .inl (.nothing (.inl same.switchEpoch) rfl)
  | settled | denied | committed | renewed | stopped => exact .inl (.nothing (.inl rfl) rfl)
  | fellBack same => exact .inl (fallback_sends same.switchEpoch)
  | calledOff => exact .inl (fallback_sends rfl)
  | closed _ same => exact .inl (fallback_sends same.switchEpoch)
  | @closedTwice r r' reason b closes overdue =>
    refine .inr ⟨overdue, fun effect member => ?_⟩
    rcases List.mem_append.mp member with first | again
    · rcases fallback_cases ⟨(takeActive s r).archiveRequest r', []⟩ nowMs timing reason b with
        ⟨-, -, -, -, -, sent⟩ | ⟨-, -, -, -, sent⟩ | ⟨-, -, -, -, -, sent⟩
      all_goals
        rw [sent] at first
        simp at first
      exact ⟨_, first⟩
    · exact ⟨_, by simpa using again⟩
  | asked same => exact .inl (.question same.switchEpoch rfl)
  | @polled a running owned =>
    refine .inl (.question rfl ?_)
    rw [← timed.owned owned a running]
    rfl
  | restarted same _ began => exact .inl (switch_sends began same.switchEpoch)
  | opened _ start began =>
    rcases start with ⟨-, rfl⟩ | ⟨-, rfl⟩
    · exact .inl (switch_sends began rfl)
    · exact .inl (switch_sends began rfl)
  | woken => exact .inl (.call rfl rfl)
  | changed | commandedAgain => exact .inl (.order rfl rfl rfl)

theorem Outcome.sends (outcome : Outcome s event nowMs timing t) (timed : Timed s)
    (later : nowMs < saturatingAdd nowMs timing.commandMs) : Sends s t := by
  rcases outcome.sends_or_repeats timed with sends | ⟨overdue, -⟩
  · exact sends
  · omega

theorem switch_grants (began : beginSwitch ⟨n, []⟩ nowMs timing = .ok t)
    (epoch : n.grantEpoch = s.grantEpoch)
    (old : ∀ g, n.activeRequest.bind (·.grant) = some g → s.activeRequest.bind (·.grant) = some g) :
    Grants s t.next := by
  obtain ⟨r, active, ⟨-, rfl⟩ | ⟨-, counts, rfl, -⟩⟩ := beginSwitch_ok began
  · have active : n.activeRequest = some r := active
    refine .kept epoch fun g granted => old g ?_
    simpa [active] using granted
  · refine .issued (by simp [epoch]) fun g granted => ?_
    obtain rfl : _ = g := by simpa using granted
    rfl

theorem Outcome.grants (outcome : Outcome s event nowMs timing t) : Grants s t.next := by
  cases outcome with
  | kept same | asked same | finished same | accepted same | answered same | reverified same
  | completed same => exact .kept same.grantEpoch (by simp [same.request])
  | fellBack same | closed _ same => exact .kept (by simp [same.grantEpoch]) (by simp)
  | calledOff | closedTwice => exact .kept (by simp [beginFallback]) (by simp [beginFallback])
  | settled | denied | committed | stopped => exact .kept rfl (by simp)
  | polled | renewed | changed | commandedAgain => exact .kept rfl (fun g => id)
  | woken admits => exact .kept rfl (by simp [admits.ungranted])
  | granted same active =>
    refine .issued (by simp [same.grantEpoch]) fun g granted => ?_
    obtain rfl : _ = g := by simpa using granted
    rfl
  | restarted same _ began => exact switch_grants began same.grantEpoch (by simp [same.request])
  | opened admits start began =>
    rcases start with ⟨-, rfl⟩ | ⟨-, rfl⟩
    · exact switch_grants began rfl (by simp [admits.ungranted])
    · exact switch_grants began rfl (by simp [admits.ungranted])

theorem Sends.current (sends : Sends s t) : t.effects.length ≤ 1 ∧
    (∀ e ∈ orderEpochs t.effects, e = t.next.switchEpoch) ∧
    (∀ e, .observe e ∈ t.effects → e = t.next.switchEpoch) := by
  cases sends with
  | nothing _ sent => simp [sent, orderEpochs]
  | question epoch sent => simp [sent, orderEpochs, Effect.orders, epoch]
  | call _ sent => simp [sent, orderEpochs, Effect.orders]
  | order _ sent carries =>
    refine ⟨by simp [sent], by simp [sent, orderEpochs, carries], fun e asked => ?_⟩
    obtain rfl : _ = _ := by simpa [sent] using asked
    contradiction

theorem Filed.accepted (filed : Filed s event nowMs n) {r : EnterRequest} (member : r ∈ n.retained)
    (fresh : r.requestId ∉ s.retainedIds) :
    r.requestEpoch = n.requestEpoch ∧ n.requestEpoch = saturatingAdd s.requestEpoch 1 := by
  have listed : r.identity ∈ n.identities := List.mem_map_of_mem member
  have unknown : r.identity ∉ s.identities := by
    intro known
    refine fresh ?_
    rw [retainedIds_eq]
    exact List.mem_map_of_mem (f := Prod.fst) known
  rcases filed.sublist with ⟨-, sublist⟩ | ⟨new, admits, epoch, sublist⟩
  · exact absurd (sublist.subset listed) unknown
  rcases List.mem_append.mp (sublist.subset listed) with old | made
  · exact absurd old unknown
  · have same := List.mem_singleton.mp made
    simp only [EnterRequest.identity, Prod.mk.injEq] at same
    exact ⟨same.2.2.2.1.trans epoch.symm, epoch.trans admits.epoch⟩

theorem Filed.requestEpoch (filed : Filed s event nowMs n) :
    n.requestEpoch = s.requestEpoch ∨ n.requestEpoch = saturatingAdd s.requestEpoch 1 := by
  rcases filed.sublist with ⟨epoch, -⟩ | ⟨r, admits, epoch, -⟩
  · exact .inl epoch
  · exact .inr (epoch.trans admits.epoch)

end Steps

def Accepts (y : Step) (r : EnterRequest) : Prop :=
  r ∈ y.post.state.retained ∧ r.requestId ∉ y.pre.state.retainedIds

def IssuesGrant (y : Step) (g : GrantIdentity) : Prop :=
  y.post.state.activeRequest.bind (·.grant) = some g ∧
    y.pre.state.activeRequest.bind (·.grant) ≠ some g

/-- No epoch counter has reached the end of its range. -/
structure EpochsLeft (s : ProtocolState) : Prop where
  request : s.requestEpoch < u64Max
  switch : s.switchEpoch < u64Max
  grant : s.grantEpoch < u64Max

instance (s : ProtocolState) : Decidable (EpochsLeft s) :=
  decidable_of_iff (_ ∧ _ ∧ _) ⟨fun ⟨x, y, z⟩ => ⟨x, y, z⟩, fun ⟨x, y, z⟩ => ⟨x, y, z⟩⟩

/-- What a step sends, lets in and grants is newer than all of its kind before. -/
structure FreshStep (earlier : List Step) (y : Step) : Prop where
  single : y.output.effects.length ≤ 1
  ordered : ∀ e ∈ orderEpochs y.output.effects, e = y.post.state.switchEpoch ∧
    ∀ x ∈ earlier, ∀ e' ∈ orderEpochs x.output.effects, e' < e
  observed : ∀ e, .observe e ∈ y.output.effects → e = y.post.state.switchEpoch
  accepted : ∀ r, Accepts y r → ∀ x ∈ earlier, ∀ r', Accepts x r' → r'.requestEpoch < r.requestEpoch
  issued : ∀ g, IssuesGrant y g → ∀ x ∈ earlier, ∀ g', IssuesGrant x g' → g'.grantEpoch < g.grantEpoch

section Runs

variable {timing : ProtocolTiming} {start c : Clocked} {trace : List Step} {y : Step}

theorem advances_of_incremented {counter : Clocked → Nat} {stamps : Step → Nat → Prop}
    (moved : counter y.post = counter y.pre ∨ counter y.post = saturatingAdd (counter y.pre) 1)
    (room : counter y.post < u64Max)
    (stamped : ∀ k, stamps y k → k = counter y.post ∧ counter y.post = saturatingAdd (counter y.pre) 1) :
    y.Advances counter stamps := by
  constructor
  · rcases moved with same | opened
    · exact Nat.le_of_eq same.symm
    · exact Nat.le_of_lt (lt_of_incremented opened room)
  · intro k stamp
    obtain ⟨rfl, opened⟩ := stamped k stamp
    exact ⟨lt_of_incremented opened room, Nat.le_refl _⟩

theorem entry_epochs (started : Started start) (run : Run (reducer timing) start trace c)
    (member : y ∈ trace) (later : y.input.2 < saturatingAdd y.input.2 timing.commandMs) :
    Sends y.pre.state ⟨y.post.state, y.output.effects⟩ ∧
      Filed y.pre.state y.input.1 y.input.2 y.post.state ∧ Grants y.pre.state y.post.state := by
  obtain ⟨before, run', step⟩ := run.entry_step member
  have reachable : Reachable timing y.pre := ⟨start, before, started, run'⟩
  obtain ⟨effects, answer, outcome⟩ | ⟨error, answer, same⟩ := reachable.sound.outcome step
  · rw [answer]
    exact ⟨outcome.sends reachable.timed later, outcome.filed reachable.booked.toTidy, outcome.grants⟩
  · rw [answer, same]
    exact ⟨.nothing (.inl rfl) rfl, .kept rfl rfl rfl, .kept rfl fun _ => id⟩

theorem Sends.advances (sends : Sends y.pre.state ⟨y.post.state, y.output.effects⟩)
    (room : y.post.state.switchEpoch < u64Max) :
    y.Advances (fun c => c.state.switchEpoch) (fun y e => e ∈ orderEpochs y.output.effects) := by
  cases sends with
  | nothing epoch sent =>
    have sent : y.output.effects = [] := sent
    exact advances_of_incremented epoch room (by simp [orderEpochs, sent])
  | question epoch sent =>
    have sent : y.output.effects = [.observe y.pre.state.switchEpoch] := sent
    exact advances_of_incremented (.inl epoch) room (by simp [orderEpochs, sent, Effect.orders])
  | @call epoch target e sent =>
    have sent : y.output.effects = [.wake target e] := sent
    exact advances_of_incremented (.inl epoch) room (by simp [orderEpochs, sent, Effect.orders])
  | @order epoch effect sent carries =>
    have sent : y.output.effects = [effect] := sent
    refine advances_of_incremented (.inr epoch) room fun k stamped => ⟨?_, epoch⟩
    simpa [orderEpochs, sent, carries] using stamped

theorem Filed.advances (filed : Filed y.pre.state y.input.1 y.input.2 y.post.state)
    (room : y.post.state.requestEpoch < u64Max) :
    y.Advances (fun c => c.state.requestEpoch) (fun y k => ∃ r, Accepts y r ∧ k = r.requestEpoch) := by
  refine advances_of_incremented filed.requestEpoch room ?_
  rintro k ⟨r, ⟨member, fresh⟩, rfl⟩
  exact filed.accepted member fresh

theorem Grants.advances (grants : Grants y.pre.state y.post.state)
    (room : y.post.state.grantEpoch < u64Max) :
    y.Advances (fun c => c.state.grantEpoch) (fun y k => ∃ g, IssuesGrant y g ∧ k = g.grantEpoch) := by
  cases grants with
  | kept epoch grant =>
    refine advances_of_incremented (.inl epoch) room ?_
    rintro k ⟨g, ⟨given, new⟩, rfl⟩
    exact absurd (grant g given) new
  | issued epoch grant =>
    refine advances_of_incremented (.inr epoch) room ?_
    rintro k ⟨g, ⟨given, -⟩, rfl⟩
    exact ⟨grant g given, epoch⟩

/-- In every run that stays inside the epochs' range and whose command deadlines lie
in the future, each step sends at most one effect, under a new epoch, and requests
and grants are numbered upwards. -/
theorem commands_are_fresh (started : Started start) (run : Run (reducer timing) start trace c)
    (room : ∀ y ∈ trace, EpochsLeft y.post.state)
    (later : ∀ y ∈ trace, y.input.2 < saturatingAdd y.input.2 timing.commandMs)
    {before after : List Step} {y : Step} (here : trace = before ++ y :: after) :
    FreshStep before y := by
  have member : y ∈ trace := by simp [here]
  have epochs (x : Step) (member : x ∈ trace) := entry_epochs started run member (later x member)
  have orders := fun x member => (epochs x member).1.advances (room x member).switch
  have requests := fun x member => (epochs x member).2.1.advances (room x member).request
  have grants := fun x member => (epochs x member).2.2.advances (room x member).grant
  obtain ⟨single, ordered, observed⟩ := (epochs y member).1.current
  refine ⟨single, fun e sent => ⟨ordered e sent, ?_⟩, observed, ?_, ?_⟩
  · intro x earlier e' sent'
    exact run.stamps_lt orders here earlier sent' sent
  · intro r accepted x earlier r' accepted'
    exact run.stamps_lt requests here earlier ⟨r', accepted', rfl⟩ ⟨r, accepted, rfl⟩
  · intro g issued x earlier g' issued'
    exact run.stamps_lt grants here earlier ⟨g', issued', rfl⟩ ⟨g, issued, rfl⟩

/-- The switch to the right host and the restoration after it, each under its epoch. -/
theorem expired_switch_commands_fresh : ∃ start before y c, Started start ∧
    Run (reducer sampleTiming) start (before ++ [y]) c ∧
    y.output.effects = [.setInput .controller 2 true] ∧
    (∃ x ∈ before, x.output.effects = [.setInput .right 1 false]) ∧ FreshStep before y := by
  obtain ⟨start, trace, c, started, run, left, timely, ⟨y, last, sent⟩, first⟩ := play_run sampleTiming
    Host.all (enterRight ++ [(.tick, 210)]) (fun trace _ => (∀ y ∈ trace, EpochsLeft y.post.state) ∧
      (∀ y ∈ trace, y.input.2 < saturatingAdd y.input.2 sampleTiming.commandMs) ∧
      (∃ y, trace.getLast? = some y ∧ y.output.effects = [.setInput .controller 2 true]) ∧
      ∃ x ∈ trace.dropLast, x.output.effects = [.setInput .right 1 false]) (by decide)
  have here : trace = trace.dropLast ++ y :: [] := (List.dropLast_append_getLast? y last).symm
  exact ⟨start, trace.dropLast, y, c, started, here ▸ run, sent, first,
    commands_are_fresh started run left timely here⟩

/-- A configuration that the daemon refuses to start with: commands have no time at all. -/
def hurriedTiming : ProtocolTiming := { sampleTiming with commandMs := 0 }

/-- The request expires, and one tick sends the command that restores the display twice. -/
theorem hurried_tick_sends_twice : ∃ start trace c y, Started start ∧
    Run (reducer hurriedTiming) start trace c ∧ (∀ x ∈ trace, EpochsLeft x.post.state) ∧ y ∈ trace ∧
    y.output = .accepted [.setInput .controller 2 true, .setInput .controller 3 true] := by
  obtain ⟨start, trace, c, started, run, left, y, member, sent⟩ := play_run hurriedTiming Host.all
    (enterRight ++ [(.tick, 110)]) (fun trace _ => (∀ x ∈ trace, EpochsLeft x.post.state) ∧ ∃ y ∈ trace,
      y.output = .accepted [.setInput .controller 2 true, .setInput .controller 3 true]) (by decide)
  exact ⟨start, trace, c, y, started, run, left, member, sent⟩

end Runs

end DisplayMux.Tv
