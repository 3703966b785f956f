import DisplayMux.Lib.Channel
import DisplayMux.Tv.Moves

/-! How the coordinator hands the effects of a step to the transport. TV commands
of a fallback go to the safety queue, everything else to the ordinary one. A full
or closed ordinary queue counts as a failed command: the reducer is stepped again,
and what it asks for joins the effects that are still pending. -/
namespace DisplayMux.Tv

def Effect.isSafety : Effect → Bool
  | .setInput _ _ fallback => fallback
  | _ => false

def Effect.switchEpoch : Effect → Option Nat
  | .setInput _ switchEpoch _ => some switchEpoch
  | .observe switchEpoch => some switchEpoch
  | .wake _ _ => none
  | .setMultiView _ switchEpoch => some switchEpoch

def Effect.command : Effect → Option Nat
  | .setInput _ switchEpoch _ => some switchEpoch
  | _ => none

def commandEpochs (effects : List Effect) : List Nat := effects.filterMap Effect.command

/-- The loop variables of `dispatch_effects`. The pending effects are popped from
the end of a vector, so the next one stands first here. -/
structure Dispatch where
  state : ProtocolState
  pending : List Effect
  ordinary : Channel Effect
  safety : Channel Effect
  deriving DecidableEq, Repr

/-- The ordinary queue did not take the effect. -/
def dispatchFailed (d : Dispatch) (effect : Effect) (sendError : TrySendError) (nowMs : Nat)
    (timing : ProtocolTiming) : Dispatch :=
  match effect.switchEpoch with
  | none => d
  | some switchEpoch =>
    let reason := "effect queue unavailable: " ++ sendError.message
    match apply d.state (.commandFailed switchEpoch reason) nowMs timing with
    | .ok t => { d with state := t.next, pending := t.effects.reverse ++ d.pending }
    | .error _ => d

def dispatchOne (d : Dispatch) (effect : Effect) (nowMs : Nat) (timing : ProtocolTiming) : Dispatch :=
  if effect.isSafety then
    match d.safety.trySend effect with
    | .ok safety => { d with safety }
    | .error _ => d
  else
    match d.ordinary.trySend effect with
    | .ok ordinary => { d with ordinary }
    | .error sendError => dispatchFailed d effect sendError nowMs timing

def drain (nowMs : Nat) (timing : ProtocolTiming) : Nat → Dispatch → Dispatch
  | 0, d => d
  | fuel + 1, d =>
    match d.pending with
    | [] => d
    | effect :: pending => drain nowMs timing fuel (dispatchOne { d with pending } effect nowMs timing)

/-- A failed effect asks for at most one more, which goes to the safety queue and
asks for none, so two rounds for each effect are enough. -/
def dispatchEffects (state : ProtocolState) (effects : List Effect) (nowMs : Nat)
    (timing : ProtocolTiming) (ordinary safety : Channel Effect) : Dispatch :=
  drain nowMs timing (2 * effects.length) ⟨state, effects.reverse, ordinary, safety⟩

structure Queues where
  ordinary : Channel Effect
  safety : Channel Effect
  deriving DecidableEq, Repr

/-- What became of an effect: a queue took it, it was given up, or it failed its
command, with the answer of the reducer. -/
inductive Handout where
  | queued (effect : Effect)
  | dropped (effect : Effect)
  | failed (effect : Effect) (recovery : Except Halt Transition)

def handout (d : Dispatch) (effect : Effect) (nowMs : Nat) (timing : ProtocolTiming) : Handout :=
  if effect.isSafety then
    match d.safety.trySend effect with
    | .ok _ => .queued effect
    | .error _ => .dropped effect
  else
    match d.ordinary.trySend effect, effect.switchEpoch with
    | .ok _, _ => .queued effect
    | .error _, none => .dropped effect
    | .error sendError, some switchEpoch =>
      .failed effect (apply d.state (.commandFailed switchEpoch
        ("effect queue unavailable: " ++ sendError.message)) nowMs timing)

/-- The loop beside a transport that takes effects out of the queues, or closes them,
at any time: each round finds the queues as the schedule says. -/
def rounds (nowMs : Nat) (timing : ProtocolTiming) : List Queues → Dispatch → List Handout × Dispatch
  | [], d => ([], d)
  | q :: schedule, d =>
    match d.pending with
    | [] => ([], d)
    | effect :: pending =>
      let here : Dispatch := ⟨d.state, pending, q.ordinary, q.safety⟩
      let rest := rounds nowMs timing schedule (dispatchOne here effect nowMs timing)
      (handout here effect nowMs timing :: rest.1, rest.2)

section Failed

variable {s : ProtocolState} {e nowMs : Nat} {reason : String} {timing : ProtocolTiming}
  {t : Transition}

theorem commandFailed_cases (h : apply s (.commandFailed e reason) nowMs timing = .ok t) :
    t = ⟨s, []⟩ ∨
    (t.effects = [] ∧ t.next.switchEpoch = s.switchEpoch) ∨
    (t.effects = [.setInput s.serverHost t.next.switchEpoch true] ∧
      t.next.switchEpoch = saturatingAdd s.switchEpoch 1) := by
  rcases apply_ok.mp h with reacted | ⟨reacted, -⟩
  · cases reacted
  cases reacted
  unfold applyCommandFailed
  split
  · refine .inr ?_
    rcases fallback_cases ⟨setLastError s reason, []⟩ nowMs timing reason
        (displayRestoreRequired (setLastError s reason)) with
      ⟨-, -, -, -, opened, sent⟩ | ⟨-, -, -, kept, sent⟩ | ⟨-, -, -, -, kept, sent⟩
    · exact .inr ⟨sent, opened⟩
    · exact .inl ⟨sent, kept⟩
    · exact .inl ⟨sent, kept⟩
  · exact .inl rfl

theorem commandFailed_effects (h : apply s (.commandFailed e reason) nowMs timing = .ok t) :
    t.effects = [] ∨ ∃ effect, t.effects = [effect] ∧ effect.isSafety = true := by
  rcases commandFailed_cases h with rfl | ⟨none, -⟩ | ⟨sent, -⟩
  · exact .inl rfl
  · exact .inl none
  · exact .inr ⟨_, sent, rfl⟩

end Failed

section Drain

variable {d : Dispatch} {nowMs : Nat} {timing : ProtocolTiming}

def Effect.weight (effect : Effect) : Nat := if effect.isSafety then 1 else 2

def weight : List Effect → Nat
  | [] => 0
  | effect :: rest => effect.weight + weight rest

theorem dispatchOne_weight (d : Dispatch) (effect : Effect) (nowMs : Nat) (timing : ProtocolTiming) :
    weight (dispatchOne d effect nowMs timing).pending < effect.weight + weight d.pending := by
  unfold dispatchOne
  split
  · rename_i safety
    split <;> simp [Effect.weight, safety]
  rename_i ordinary
  split
  · simp [Effect.weight, ordinary]
  unfold dispatchFailed
  split
  · simp [Effect.weight, ordinary]
  dsimp only
  split
  · rename_i t failed
    rcases commandFailed_effects failed with none | ⟨next, sent, safe⟩
    · simp [none, Effect.weight, ordinary]
    · simp [sent, weight, Effect.weight, ordinary, safe]
  · simp [Effect.weight, ordinary]

theorem Effect.weight_pos (effect : Effect) : 0 < effect.weight := by
  unfold Effect.weight
  split <;> omega

/-- The loop ends with nothing pending once it has a round for each unit of weight,
however it finds the queues. -/
theorem rounds_complete (schedule : List Queues) (d : Dispatch)
    (enough : weight d.pending ≤ schedule.length) :
    (rounds nowMs timing schedule d).2.pending = [] := by
  induction schedule generalizing d with
  | nil =>
    cases pending : d.pending with
    | nil => exact pending
    | cons effect rest =>
      have positive := effect.weight_pos
      simp only [pending, weight, List.length_nil] at enough
      omega
  | cons q schedule ih =>
    unfold rounds
    split
    · assumption
    rename_i effect rest pending
    refine ih _ ?_
    have less := dispatchOne_weight ⟨d.state, rest, q.ordinary, q.safety⟩ effect nowMs timing
    have total : weight d.pending = effect.weight + weight rest := by simp [pending, weight]
    simp only [List.length_cons] at enough
    dsimp only at less
    omega

theorem drain_rounds (nowMs : Nat) (timing : ProtocolTiming) (fuel : Nat) (d : Dispatch) :
    ∃ schedule : List Queues, schedule.length = fuel ∧
      drain nowMs timing fuel d = (rounds nowMs timing schedule d).2 := by
  induction fuel generalizing d with
  | zero => exact ⟨[], rfl, rfl⟩
  | succ fuel ih =>
    cases pending : d.pending with
    | nil =>
      refine ⟨List.replicate (fuel + 1) ⟨d.ordinary, d.safety⟩, by simp, ?_⟩
      simp [drain, rounds, pending, List.replicate_succ]
    | cons effect rest =>
      obtain ⟨schedule, long, same⟩ := ih (dispatchOne { d with pending := rest } effect nowMs timing)
      refine ⟨⟨d.ordinary, d.safety⟩ :: schedule, by simp [long], ?_⟩
      simp only [drain, rounds, pending]
      exact same

theorem drain_complete (fuel : Nat) (d : Dispatch) (enough : weight d.pending ≤ fuel) :
    (drain nowMs timing fuel d).pending = [] := by
  obtain ⟨schedule, long, same⟩ := drain_rounds nowMs timing fuel d
  rw [same]
  exact rounds_complete schedule d (by omega)

theorem weight_le (effects : List Effect) : weight effects ≤ 2 * effects.length := by
  induction effects with
  | nil => simp [weight]
  | cons effect rest ih =>
    have small : effect.weight ≤ 2 := by unfold Effect.weight; split <;> omega
    simp only [weight, List.length_cons] at ih ⊢
    omega

theorem dispatchEffects_complete (state : ProtocolState) (effects : List Effect)
    (ordinary safety : Channel Effect) :
    (dispatchEffects state effects nowMs timing ordinary safety).pending = [] := by
  refine drain_complete _ _ ?_
  simpa using weight_le effects.reverse

theorem drain_keeps (nowMs : Nat) (timing : ProtocolTiming) {P : ProtocolState → Prop}
    (keep : ∀ s e reason t, P s → apply s (.commandFailed e reason) nowMs timing = .ok t → P t.next)
    (fuel : Nat) (d : Dispatch) (start : P d.state) : P (drain nowMs timing fuel d).state := by
  induction fuel generalizing d with
  | zero => exact start
  | succ fuel ih =>
    unfold drain
    split
    · exact start
    refine ih _ ?_
    unfold dispatchOne
    split
    · split <;> exact start
    split
    · exact start
    unfold dispatchFailed
    split
    · exact start
    dsimp only
    split
    · rename_i t failed
      exact keep _ _ _ _ start failed
    · exact start

end Drain

/-- The commands that the two queues gain until `d`: `plain` in the ordinary one and
`safe` in the safety one. -/
structure Gains (ordinary safety : Channel Effect) (d : Dispatch) (plain safe : List Nat) : Prop where
  inOrdinary : commandEpochs d.ordinary.items = commandEpochs ordinary.items ++ plain
  inSafety : commandEpochs d.safety.items = commandEpochs safety.items ++ safe
  fallbacks : (∀ x ∈ safety.items, x.isSafety = true) → ∀ x ∈ d.safety.items, x.isSafety = true

section Single

variable {d : Dispatch} {effect : Effect}

theorem gains_nothing {s : ProtocolState} {pending : List Effect} {ordinary safety : Channel Effect} :
    Gains ordinary safety ⟨s, pending, ordinary, safety⟩ [] [] :=
  ⟨by simp, by simp, id⟩

theorem drain_empty (nowMs : Nat) (timing : ProtocolTiming) (fuel : Nat) (none : d.pending = []) :
    drain nowMs timing fuel d = d := by
  cases fuel with
  | zero => rfl
  | succ fuel => simp [drain, none]

theorem drain_safety (nowMs : Nat) (timing : ProtocolTiming) (fuel : Nat) {e : Nat} {target : Host}
    (pending : d.pending = [.setInput target e true]) :
    let r := drain nowMs timing (fuel + 1) d
    r.state = d.state ∧ (Gains d.ordinary d.safety r [] [] ∨ Gains d.ordinary d.safety r [] [e]) := by
  simp only [drain, pending, dispatchOne, Effect.isSafety, if_true]
  split
  · rename_i safety sent
    rw [drain_empty _ _ _ rfl]
    refine ⟨rfl, .inr ⟨by simp, ?_, ?_⟩⟩
    · simp [Channel.trySend_items sent, commandEpochs, Effect.command]
    intro all x member
    rcases List.mem_append.mp (Channel.trySend_items sent ▸ member) with old | new
    · exact all x old
    · rw [List.mem_singleton.mp new]
      rfl
  · rw [drain_empty _ _ _ rfl]
    exact ⟨rfl, .inl (gains_nothing)⟩

theorem drain_plain (nowMs : Nat) (timing : ProtocolTiming) (fuel : Nat) (pending : d.pending = [effect])
    (plain : effect.isSafety = false) :
    let r := drain nowMs timing (fuel + 1) d
    (r.state = d.state ∧ (Gains d.ordinary d.safety r (commandEpochs [effect]) [] ∨
      Gains d.ordinary d.safety r [] [])) ∨
    ∃ e reason t, apply d.state (.commandFailed e reason) nowMs timing = .ok t ∧
      r = drain nowMs timing fuel { d with state := t.next, pending := t.effects.reverse } := by
  simp only [drain, pending, dispatchOne, plain, Bool.false_eq_true, if_false]
  split
  · rename_i ordinary sent
    rw [drain_empty _ _ _ rfl]
    refine .inl ⟨rfl, .inl ⟨?_, by simp, id⟩⟩
    simp [Channel.trySend_items sent, commandEpochs]
  unfold dispatchFailed
  split
  · rw [drain_empty _ _ _ rfl]
    exact .inl ⟨rfl, .inr (gains_nothing)⟩
  dsimp only
  split
  · rename_i t failed
    exact .inr ⟨_, _, t, failed, by simp⟩
  · rw [drain_empty _ _ _ rfl]
    exact .inl ⟨rfl, .inr (gains_nothing)⟩

end Single

/-- The active request waits for its command, which goes out under this epoch. -/
def ProtocolState.Commands (s : ProtocolState) (e : Nat) : Prop :=
  ∃ r, s.activeRequest = some r ∧ r.switchEpoch = some e ∧ r.status = .switching ∧ s.phase = .switching

/-- How the epochs of the commands in `plain` and `safe` stand to the step from `s`
to `n` that issued them. -/
inductive Issues (s n : ProtocolState) : List Nat → List Nat → Prop where
  | none (later : s.switchEpoch ≤ n.switchEpoch) : Issues s n [] []
  | switch (opened : s.switchEpoch < n.switchEpoch) (current : n.Commands n.switchEpoch) :
      Issues s n [n.switchEpoch] []
  | fallback (opened : s.switchEpoch < n.switchEpoch) : Issues s n [] [n.switchEpoch]

section Issues

variable {s : ProtocolState} {t : Transition} {nowMs : Nat} {timing : ProtocolTiming}
  {ordinary safety : Channel Effect}

theorem failed_issues {d r : Dispatch} {e : Nat} {reason : String} {fuel : Nat}
    (failed : apply d.state (.commandFailed e reason) nowMs timing = .ok t)
    (later : s.switchEpoch ≤ d.state.switchEpoch)
    (drained : r = drain nowMs timing (fuel + 1) { d with state := t.next, pending := t.effects.reverse })
    (room : r.state.switchEpoch < u64Max) :
    ∃ safe, Gains d.ordinary d.safety r [] safe ∧ Issues s r.state [] safe := by
  subst drained
  rcases commandFailed_cases failed with rfl | ⟨quiet, kept⟩ | ⟨sent, opened⟩
  · rw [drain_empty _ _ _ rfl]
    exact ⟨[], gains_nothing, .none later⟩
  · rw [drain_empty _ _ _ (by simp [quiet])]
    exact ⟨[], gains_nothing, .none (by simpa [kept] using later)⟩
  have pending : t.effects.reverse = [.setInput d.state.serverHost t.next.switchEpoch true] := by
    simp [sent]
  obtain ⟨same, gains⟩ := drain_safety nowMs timing fuel
    (d := { d with state := t.next, pending := t.effects.reverse }) pending
  rw [same] at room ⊢
  have opened := Nat.lt_of_le_of_lt later (lt_of_incremented opened room)
  rcases gains with dropped | queued
  · exact ⟨[], dropped, .none (Nat.le_of_lt opened)⟩
  · exact ⟨_, queued, .fallback opened⟩

theorem plain_issues {n : ProtocolState} {effect : Effect} {r : Dispatch}
    (dispatched : r = dispatchEffects n [effect] nowMs timing ordinary safety)
    (plain : effect.isSafety = false) (later : s.switchEpoch ≤ n.switchEpoch)
    (accepted : Issues s n (commandEpochs [effect]) []) (room : r.state.switchEpoch < u64Max) :
    ∃ plain safe, Gains ordinary safety r plain safe ∧ Issues s r.state plain safe := by
  subst dispatched
  rcases drain_plain nowMs timing 1 (d := ⟨n, [effect], ordinary, safety⟩) rfl plain with
    ⟨same, queued | dropped⟩ | ⟨e, reason, t, failed, drained⟩
  · exact ⟨_, _, queued, same ▸ accepted⟩
  · exact ⟨_, _, dropped, same ▸ .none later⟩
  · exact ⟨[], failed_issues failed later drained room⟩

/-- What the queues gain from one accepted event, and under which epochs. -/
theorem dispatch_issues {r : Dispatch} (moves : CommandMove s nowMs timing t)
    (punctual : nowMs < saturatingAdd nowMs timing.commandMs)
    (dispatched : r = dispatchEffects t.next t.effects nowMs timing ordinary safety)
    (grown : t.next.switchEpoch ≤ r.state.switchEpoch) (room : r.state.switchEpoch < u64Max) :
    ∃ plain safe, Gains ordinary safety r plain safe ∧ Issues s r.state plain safe := by
  have inRange : t.next.switchEpoch < u64Max := by omega
  cases moves with
  | none quiet epoch =>
    have later : s.switchEpoch ≤ t.next.switchEpoch := by
      rcases epoch with same | opened
      · omega
      · exact Nat.le_of_lt (lt_of_incremented opened inRange)
    obtain ⟨short, quiet⟩ := quiet
    match effects : t.effects with
    | [] =>
      rw [effects] at dispatched
      subst dispatched
      exact ⟨[], [], gains_nothing, .none later⟩
    | [effect] =>
      rw [effects] at dispatched quiet
      have none : effect.isSafety = false ∧ commandEpochs [effect] = [] := by
        cases effect with
        | setInput target e fallback => exact absurd (List.mem_singleton_self _) (quiet target e fallback)
        | _ => exact ⟨rfl, rfl⟩
      exact plain_issues dispatched none.1 later (none.2 ▸ .none later) room
    | _ :: _ :: _ => simp [effects] at short
  | switch request opened sent active epoch status phase =>
    have opened := lt_of_incremented opened inRange
    rw [sent] at dispatched
    refine plain_issues dispatched rfl (Nat.le_of_lt opened) (.switch opened ?_) room
    exact ⟨request, active, epoch, status, phase⟩
  | fallback opened sent =>
    have opened := lt_of_incremented opened inRange
    rw [sent] at dispatched
    subst dispatched
    obtain ⟨same, dropped | queued⟩ := drain_safety nowMs timing 1
      (d := ⟨t.next, [.setInput s.serverHost t.next.switchEpoch true], ordinary, safety⟩) rfl
    · exact ⟨_, _, dropped, same ▸ .none (Nat.le_of_lt opened)⟩
    · exact ⟨_, _, queued, same ▸ .fallback opened⟩
  | fallbackTwice overdue => omega

end Issues

end DisplayMux.Tv
