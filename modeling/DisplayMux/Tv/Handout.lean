import DisplayMux.Tv.CommandOrder
import DisplayMux.Tv.FailLocal
import DisplayMux.Tv.Freshness

/-! What a queue that does not take an effect leads to. The transport empties and
closes the queues while the coordinator fills them, so every round of the loop may
find them in another state. -/
namespace DisplayMux.Tv

section Rounds

variable {d : Dispatch} {nowMs : Nat} {timing : ProtocolTiming}

theorem handout_cases (d : Dispatch) (effect : Effect) (nowMs : Nat) (timing : ProtocolTiming) :
    (dispatchOne d effect nowMs timing).state = d.state ∧
      (dispatchOne d effect nowMs timing).pending = d.pending ∧
      (handout d effect nowMs timing = .queued effect ∨
        handout d effect nowMs timing = .dropped effect ∧
          (effect.isSafety = true ∨ effect.switchEpoch = none)) ∨
    ∃ e reason, effect.isSafety = false ∧ effect.switchEpoch = some e ∧
      handout d effect nowMs timing =
        .failed effect (apply d.state (.commandFailed e reason) nowMs timing) ∧
      ∀ t, apply d.state (.commandFailed e reason) nowMs timing = .ok t →
        (dispatchOne d effect nowMs timing).state = t.next ∧
        (dispatchOne d effect nowMs timing).pending = t.effects.reverse ++ d.pending := by
  unfold dispatchOne handout
  cases safe : effect.isSafety with
  | true =>
    refine .inl ?_
    simp only [if_true]
    cases d.safety.trySend effect with
    | ok safety => exact ⟨rfl, rfl, .inl rfl⟩
    | error _ => exact ⟨rfl, rfl, .inr ⟨rfl, .inl trivial⟩⟩
  | false =>
    simp only [Bool.false_eq_true, if_false]
    cases d.ordinary.trySend effect with
    | ok ordinary => exact .inl ⟨rfl, rfl, .inl rfl⟩
    | error sendError =>
      unfold dispatchFailed
      cases epoch : effect.switchEpoch with
      | none => exact .inl ⟨rfl, rfl, .inr ⟨rfl, .inr rfl⟩⟩
      | some e =>
        refine .inr ⟨e, _, trivial, rfl, rfl, fun t recovered => ?_⟩
        dsimp only
        rw [recovered]
        exact ⟨rfl, rfl⟩

theorem rounds_safe (schedule : List Queues) (d : Dispatch)
    (safe : ∀ effect ∈ d.pending, effect.isSafety = true) :
    (rounds nowMs timing schedule d).2.state = d.state ∧
      ∀ handout ∈ (rounds nowMs timing schedule d).1,
        ∃ effect, effect.isSafety = true ∧ (handout = .queued effect ∨ handout = .dropped effect) := by
  induction schedule generalizing d with
  | nil => exact ⟨rfl, by simp [rounds]⟩
  | cons q schedule ih =>
    unfold rounds
    split
    · exact ⟨rfl, by simp⟩
    rename_i effect pending here
    have first : effect.isSafety = true := safe effect (by simp [here])
    rcases handout_cases ⟨d.state, pending, q.ordinary, q.safety⟩ effect nowMs timing with
      ⟨state, rest, became⟩ | ⟨_, _, plain, -⟩
    · have left : ∀ x ∈ pending, x.isSafety = true := fun x member => safe x (by simp [here, member])
      obtain ⟨stays, handed⟩ := ih _ (by rw [rest]; exact left)
      refine ⟨stays.trans state, ?_⟩
      intro handout member
      rcases List.mem_cons.mp member with rfl | later
      · exact ⟨effect, first, became.imp_right (·.1)⟩
      · exact handed handout later
    · simp [first] at plain

end Rounds

section Local

variable {timing : ProtocolTiming} {c : Clocked}

theorem Sends.alone {s : ProtocolState} {t : Transition} (sends : Sends s t) :
    t.effects = [] ∨ ∃ effect, t.effects = [effect] ∧
      ∀ e, effect.switchEpoch = some e → e = t.next.switchEpoch := by
  cases sends with
  | nothing _ sent => exact .inl sent
  | question epoch sent =>
    refine .inr ⟨_, sent, fun e carries => ?_⟩
    rw [epoch]
    exact (Option.some.inj carries).symm
  | call _ sent => exact .inr ⟨_, sent, fun e carries => absurd carries (by simp [Effect.switchEpoch])⟩
  | @order epoch effect sent carries =>
    refine .inr ⟨effect, sent, fun e named => ?_⟩
    cases effect with
    | setInput | setMultiView => exact Option.some.inj (named.symm.trans carries)
    | observe | wake => exact absurd carries (by simp [Effect.orders])

/-- The answer of the reducer to a hand-out that failed, and where it leads. -/
def FailsHome (final : ProtocolState) (handout : Handout) : Prop :=
  match handout with
  | .queued _ => True
  | .dropped effect => effect.isSafety = true ∨ effect.switchEpoch = none
  | .failed _ recovery => (∃ t, recovery = .ok t) ∧ Local final

theorem failsHome_of_safe {nowMs : Nat} (schedule : List Queues) (d : Dispatch)
    (safe : ∀ effect ∈ d.pending, effect.isSafety = true) :
    ∀ handout ∈ (rounds nowMs timing schedule d).1,
      FailsHome (rounds nowMs timing schedule d).2.state handout := by
  intro handout member
  obtain ⟨effect, safe, rfl | rfl⟩ := (rounds_safe schedule d safe).2 handout member
  · trivial
  · exact .inl safe

/-- An effect of the current epoch: where it fails, the reducer falls back, and what that
asks for never fails again. -/
theorem failsHome_single {s : ProtocolState} {past nowMs : Nat} (valid : Valid s past) {effect : Effect}
    (carries : ∀ e, effect.switchEpoch = some e → e = s.switchEpoch) (schedule : List Queues)
    (ordinary safety : Channel Effect) :
    ∀ handout ∈ (rounds nowMs timing schedule ⟨s, [effect], ordinary, safety⟩).1,
      FailsHome (rounds nowMs timing schedule ⟨s, [effect], ordinary, safety⟩).2.state handout := by
  cases schedule with
  | nil => simp [rounds]
  | cons q schedule =>
    intro handout member
    simp only [rounds] at member ⊢
    rcases handout_cases ⟨s, [], q.ordinary, q.safety⟩ effect nowMs timing with
      ⟨-, rest, became⟩ | ⟨e, reason, -, epoch, failed, recovers⟩
    · rcases List.mem_cons.mp member with rfl | later
      · rcases became with queued | ⟨dropped, why⟩
        · rw [queued]
          trivial
        · rw [dropped]
          exact why
      · exact failsHome_of_safe schedule _ (by simp [rest]) handout later
    obtain rfl := carries e epoch
    obtain ⟨t, accepted, home⟩ :
        ∃ t, apply s (.commandFailed s.switchEpoch reason) nowMs timing = .ok t ∧ _ :=
      (FailsLocal.commandFailed reason).exit valid
    obtain ⟨state, rest⟩ := recovers t accepted
    have safe : ∀ x ∈ (dispatchOne ⟨s, [], q.ordinary, q.safety⟩ effect nowMs timing).pending,
        x.isSafety = true := by
      rw [rest]
      rcases commandFailed_effects accepted with none | ⟨x, sent, safe⟩
      · simp [none]
      · simp [sent, safe]
    rcases List.mem_cons.mp member with rfl | later
    · rw [failed]
      refine ⟨⟨t, accepted⟩, ?_⟩
      rw [(rounds_safe schedule _ safe).1, state]
      exact home
    · exact failsHome_of_safe schedule _ safe handout later

/-- Whatever the queues take and refuse, the loop comes to an end. Only a command of a
fallback or a wake-up call is dropped; any other effect that is refused fails its
command, which the reducer accepts and which leaves everything local. -/
theorem undelivered_effects_fail_local (reachable : Reachable timing c) {event : Event} {nowMs : Nat}
    {t : Transition} (applied : apply c.state event nowMs timing = .ok t) (schedule : List Queues)
    (enough : 2 * t.effects.length ≤ schedule.length) (ordinary safety : Channel Effect) :
    let r := rounds nowMs timing schedule ⟨t.next, t.effects.reverse, ordinary, safety⟩
    r.2.pending = [] ∧ ∀ handout ∈ r.1, FailsHome r.2.state handout := by
  obtain ⟨past, -, valid⟩ := reachable.sound.valid
  have outcome := apply_outcome reachable.sound.shape valid applied
  have after : ∃ k, Valid t.next k := by
    rcases (reachable.sound.shape.apply valid applied).2 with checked | same
    · exact ⟨nowMs, checked⟩
    · rw [same]
      exact ⟨past, valid⟩
  refine ⟨rounds_complete schedule _ ?_, ?_⟩
  · have light := weight_le t.effects.reverse
    rw [List.length_reverse] at light
    exact Nat.le_trans light enough
  rcases outcome.sends_or_repeats reachable.timed with sends | ⟨-, repeats⟩
  · rcases sends.alone with none | ⟨effect, alone, carries⟩
    · exact failsHome_of_safe schedule _ (by simp [none])
    · obtain ⟨k, valid⟩ := after
      rw [alone]
      exact failsHome_single valid carries schedule ordinary safety
  · refine failsHome_of_safe schedule _ fun effect member => ?_
    obtain ⟨e, rfl⟩ := repeats effect (by simpa using member)
    rfl

/-- The transport is gone when the command of a switch is handed out: the switch is
given up and the command of the fallback is dropped. -/
theorem closed_queues_fail_switch : ∃ c t, Reachable sampleTiming c ∧
    apply c.state (.createEnter "r1" "user" .right ⟨"lease", 1, 11, 1000⟩) 10 sampleTiming = .ok t ∧
    t.next.activeRequest.isSome = true ∧
    let gone : Channel Effect := ⟨16, true, []⟩
    let r := rounds 10 sampleTiming [⟨gone, gone⟩, ⟨gone, gone⟩] ⟨t.next, t.effects.reverse, gone, gone⟩
    r.2.pending = [] ∧ (∃ effect recovery, .failed effect recovery ∈ r.1) ∧ Local r.2.state := by
  obtain ⟨c, reachable, t, applied, asked, sent⟩ := play_reachable Host.all (enterRight.take 2)
    (fun c => ∃ t, apply c.state (.createEnter "r1" "user" .right ⟨"lease", 1, 11, 1000⟩) 10 sampleTiming =
      .ok t ∧ t.next.activeRequest.isSome = true ∧ t.effects = [.setInput .right 1 false]) (by decide)
  obtain ⟨ended, homes⟩ := undelivered_effects_fail_local reachable applied
    [⟨⟨16, true, []⟩, ⟨16, true, []⟩⟩, ⟨⟨16, true, []⟩, ⟨16, true, []⟩⟩] (by simp [sent])
    ⟨16, true, []⟩ ⟨16, true, []⟩
  have first : (rounds 10 sampleTiming
      [⟨⟨16, true, []⟩, ⟨16, true, []⟩⟩, ⟨⟨16, true, []⟩, ⟨16, true, []⟩⟩]
      ⟨t.next, t.effects.reverse, ⟨16, true, []⟩, ⟨16, true, []⟩⟩).1.head? =
      some (.failed (.setInput .right 1 false) (apply t.next
        (.commandFailed 1 "effect queue unavailable: channel closed") 10 sampleTiming)) := by
    rw [sent]
    rfl
  have member := List.mem_of_head? first
  exact ⟨c, t, reachable, applied, asked, ended, ⟨_, _, member⟩, (homes _ member).2⟩

end Local

end DisplayMux.Tv
