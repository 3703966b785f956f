import DisplayMux.Tv.Progress

/-! From the command to the grant: the acknowledgement that starts the verification,
and how long the grant at the end of it can be used. -/
namespace DisplayMux.Tv

section Acknowledgement

variable {timing : ProtocolTiming} {c : Clocked} {nowMs : Nat} {target : Host}

/-- The acknowledgement is answered with an observation of its epoch. -/
def StartsVerification (s : ProtocolState) (t : Transition) : Prop :=
  t.next.phase = (if s.fallbackRequired then .fallbackVerifying else .verifying) ∧
    .observe s.switchEpoch ∈ t.effects

theorem Valid.unexpired {s : ProtocolState} (shape : Shape s) (valid : Valid s nowMs) :
    sessionExpired s nowMs = false := by
  cases running : s.activeSession with
  | none => simp [sessionExpired, running]
  | some a =>
    have held := shape.session a running
    obtain ⟨a', running', checked⟩ := valid.remote (by rw [held.keyboard]; exact held.remote)
    cases running.symm.trans running'
    have renewed := checked.renewed
    have leased := checked.leased
    simp only [sessionExpired, running, Option.any_some, Bool.or_eq_false_iff,
      decide_eq_false_iff_not, Nat.not_le]
    exact ⟨renewed, leased⟩

/-- While a command is outstanding, its acknowledgement starts the verification exactly
when no observation is in flight and no running session has expired. The fallback is
owed in the one phase and not in the other. -/
theorem acknowledgement_starts_verification_iff (reachable : Reachable timing c)
    (phase : c.state.phase = .switching ∨ c.state.phase = .fallbackCommandPending)
    (commanded : c.state.commandedInput = some target) :
    (c.state.fallbackRequired = true ↔ c.state.phase = .fallbackCommandPending) ∧
    ((∃ t, apply c.state (.commandAcknowledged c.state.switchEpoch target) nowMs timing = .ok t ∧
        StartsVerification c.state t) ↔
      c.state.observationInFlight = none ∧ sessionExpired c.state nowMs = false) := by
  obtain ⟨shape, past, -, valid⟩ := reachable.sound
  refine ⟨⟨fun owed => ?_, fun pending => shape.owing (.inl pending)⟩, ?_⟩
  · obtain ⟨-, -, -, late | late | late⟩ := shape.owed owed
    · exact late
    · simp [late] at phase
    · simp [late] at phase
  have current : ¬ (c.state.switchEpoch ≠ c.state.switchEpoch ∨ c.state.commandedInput ≠ some target) := by
    simp [commanded]
  constructor
  · rintro ⟨t, applied, -, asked⟩
    rcases apply_ok.mp applied with reacted | ⟨reacted, checked⟩
    all_goals simp only [react, applyCommandAcknowledged, if_neg current, Except.ok.injEq] at reacted
    · split at reacted <;> contradiction
    split at reacted
    · rename_i starts
      cases reacted
      have same : Valid c.state nowMs := checked.frame rfl
      exact ⟨by simpa using starts.1, same.unexpired shape⟩
    · cases reacted
      simp at asked
  rintro ⟨landed, running⟩
  have starts : c.state.observationInFlight.isNone = true ∧
      (c.state.phase = .switching ∨ c.state.phase = .fallbackCommandPending) :=
    ⟨by simp [landed], phase⟩
  refine ⟨requestObservation ⟨setPhase c.state (if c.state.fallbackRequired then .fallbackVerifying
    else .verifying), []⟩ nowMs timing c.state.switchEpoch, ?_, rfl, by simp⟩
  refine apply_ok.mpr (.inr ⟨?_, (valid.until_expired running).frame rfl⟩)
  simp only [react, applyCommandAcknowledged, if_neg current, if_pos starts]

/-- The right host's display is verified once its command is acknowledged. -/
theorem right_acknowledgement_verifies : ∃ c t, Reachable sampleTiming c ∧
    c.state.phase = .switching ∧ c.state.commandedInput = some .right ∧
    apply c.state (.commandAcknowledged c.state.switchEpoch .right) 20 sampleTiming = .ok t ∧
    StartsVerification c.state t := by
  obtain ⟨c, reachable, phase, commanded, landed, running⟩ := play_reachable Host.all enterRight
    (fun c => c.state.phase = .switching ∧ c.state.commandedInput = some .right ∧
      c.state.observationInFlight = none ∧ sessionExpired c.state 20 = false) (by decide)
  obtain ⟨t, applied, verifies⟩ :=
    (acknowledgement_starts_verification_iff reachable (.inl phase) commanded).2.mpr ⟨landed, running⟩
  exact ⟨c, t, reachable, phase, commanded, applied, verifies⟩

/-- The right host owns the input, and its display is being looked at, when the left one
is entered. The look fails, which concerns an old epoch and is ignored; then the
acknowledgement of the new command is ignored as well. -/
theorem failed_poll_blocks_acknowledgement : ∃ c, Reachable sampleTiming c ∧
    c.state.phase = .switching ∧ c.state.commandedInput = some .left ∧ c.state.switchEpoch = 2 ∧
    apply c.state (.commandAcknowledged 2 .left) 160 sampleTiming = .ok ⟨c.state, []⟩ :=
  play_reachable Host.all (takeRight ++ [(.tick, 140),
      (.peerReadinessUpdated .left ⟨true, true, true, 12, 141⟩, 141),
      (.createEnter "r2" "user" .left ⟨"lease2", 1, 12, 1000⟩, 150),
      (.commandFailed 1 "ssap_command_failed", 155)]) _ (by decide +kernel)

end Acknowledgement

section Grants

variable {timing : ProtocolTiming} {s n : ProtocolState} {t : Transition} {event : Event} {nowMs : Nat}

/-- A grant is pending after the step, for a request that it has changed or let in. -/
def StartsGrant (s n : ProtocolState) : Prop :=
  n.phase = .grantPending ∧ n.activeRequest ≠ s.activeRequest

instance (s n : ProtocolState) : Decidable (StartsGrant s n) := inferInstanceAs (Decidable (_ ∧ _))

structure Granted (n : ProtocolState) (nowMs : Nat) (timing : ProtocolTiming) (r : EnterRequest)
    (g : GrantIdentity) : Prop where
  active : n.activeRequest = some r
  status : r.status = .grant
  grant : r.grant = some g
  expires : g.expiresAtMs = min (saturatingAdd nowMs timing.grantMs) r.lease.expiresAtMs

theorem fallback_ungranted {reason : String} {b : Bool} :
    (beginFallbackWithRestore t nowMs timing reason b).next.phase ≠ .grantPending := by
  rcases fallback_phase t nowMs timing reason b with phase | phase | phase <;> simp [phase]

theorem switch_granted (began : beginSwitch ⟨n, []⟩ nowMs timing = .ok t)
    (granted : t.next.phase = .grantPending) : ∃ r g, Granted t.next nowMs timing r g := by
  obtain ⟨r, -, ⟨-, rfl⟩ | ⟨-, counts, rfl, -⟩⟩ := beginSwitch_ok began
  · simp at granted
  · exact ⟨_, _, rfl, rfl, rfl, rfl⟩

theorem Outcome.granted_request (outcome : Outcome s event nowMs timing t)
    (issues : StartsGrant s t.next) : ∃ r g, Granted t.next nowMs timing r g := by
  obtain ⟨after, changed⟩ := issues
  cases outcome with
  | kept same | answered same | asked same | reverified same => exact absurd same.request changed
  | polled | renewed | denied | changed | commandedAgain => exact absurd rfl changed
  | granted => exact ⟨_, _, rfl, rfl, rfl, rfl⟩
  | restarted _ _ began | opened _ _ began => exact switch_granted began after
  | fellBack | calledOff | closed => exact absurd after fallback_ungranted
  | closedTwice | settled | finished | accepted | woken | completed | stopped =>
    exact absurd after (by simp)
  | @committed r =>
    by_cases here : r.target = s.serverHost
    · exact absurd after (by simp [here])
    · exact absurd after (by simp [here])

/-- The lease of an enter request is a 64-bit time, as the request carries it. -/
def Event.leaseInRange : Event → Bool
  | .createEnter _ _ _ lease => decide (lease.expiresAtMs ≤ u64Max)
  | _ => true

def LeaseInRange (s : ProtocolState) : Prop :=
  ∀ r, s.activeRequest = some r → r.lease.expiresAtMs ≤ u64Max

theorem switch_leaseInRange (began : beginSwitch ⟨n, []⟩ nowMs timing = .ok t)
    (inRange : LeaseInRange n) : LeaseInRange t.next := by
  obtain ⟨r, active, ⟨-, rfl⟩ | ⟨-, counts, rfl, -⟩⟩ := beginSwitch_ok began
  · rintro _ ⟨⟩
    exact inRange r active
  · rintro _ ⟨⟩
    exact inRange r active

theorem Admits.leaseInRange {r : EnterRequest} (admits : Admits s event nowMs r)
    (word : event.leaseInRange = true) : r.lease.expiresAtMs ≤ u64Max := by
  rw [admits.asked] at word
  exact of_decide_eq_true word

theorem LeaseInRange.step (inRange : LeaseInRange s) (word : event.leaseInRange = true)
    (outcome : Outcome s event nowMs timing t) : LeaseInRange t.next := by
  cases outcome with
  | kept same | answered same | reverified same | completed same | asked same | finished same
  | accepted same =>
    intro r active
    exact inRange r (same.request ▸ active)
  | fellBack | calledOff | closed | closedTwice | settled | committed | stopped =>
    intro r active
    exact absurd active (by simp [beginFallback])
  | polled | renewed | changed | commandedAgain | denied => exact inRange
  | @granted n r e counts _ same active =>
    rintro _ ⟨⟩
    exact inRange r active
  | restarted same _ began =>
    refine switch_leaseInRange began fun r active => ?_
    exact inRange r (same.request ▸ active)
  | opened admits start began =>
    refine switch_leaseInRange began ?_
    rcases start with ⟨-, rfl⟩ | ⟨-, rfl⟩
    all_goals
      rintro _ ⟨⟩
      exact admits.leaseInRange word
  | woken admits =>
    rintro _ ⟨⟩
    exact admits.leaseInRange word

/-- A grant can be used for some time and not longer than the lease exactly when the
lease has not expired at the moment it is issued. -/
theorem grant_usable_iff {start c : Clocked} {trace : List Step} (positive : 0 < timing.grantMs)
    (started : Started start) (run : Run (reducer timing) start trace c)
    (words : ∀ y ∈ trace, y.input.1.leaseInRange = true) :
    ∀ y ∈ trace, StartsGrant y.pre.state y.post.state →
      ∃ r g, Granted y.post.state y.input.2 timing r g ∧
        (y.input.2 < g.expiresAtMs ∧ g.expiresAtMs ≤ r.lease.expiresAtMs ↔
          y.input.2 < r.lease.expiresAtMs) := by
  intro y member issues
  obtain ⟨before, after, rfl⟩ := List.append_of_mem member
  obtain ⟨reached, step, -⟩ := run.split rfl
  have sound := run_sound started reached
  obtain ⟨effects, answer, outcome⟩ | ⟨error, answer, same⟩ := sound.outcome step
  · have inRange : LeaseInRange y.post.state := by
      have old : LeaseInRange y.pre.state := run_keeps (C := fun _ event _ => event.leaseInRange = true)
        (P := LeaseInRange) (by simp [LeaseInRange, (started_fresh started).request])
        (fun s event nowMs t _ _ word outcome inRange => inRange.step word outcome) started reached
        fun z old => words z (List.mem_append_left _ old)
      exact old.step (words y member) outcome
    obtain ⟨r, g, granted⟩ := outcome.granted_request issues
    refine ⟨r, g, granted, ?_⟩
    have word := inRange r granted.active
    rw [granted.expires]
    constructor
    · rintro ⟨usable, -⟩
      exact Nat.lt_of_lt_of_le usable (Nat.min_le_right _ _)
    intro leased
    have later : y.input.2 < saturatingAdd y.input.2 timing.grantMs := by
      unfold saturatingAdd
      omega
    exact ⟨Nat.lt_min.mpr ⟨later, leased⟩, Nat.min_le_right _ _⟩
  · exact absurd (congrArg ProtocolState.activeRequest same) issues.2

/-- The right host's grant after the verification of its display. -/
theorem right_grant_usable : ∃ start trace c y r g, Started start ∧
    Run (reducer sampleTiming) start trace c ∧ y ∈ trace ∧ StartsGrant y.pre.state y.post.state ∧
    Granted y.post.state y.input.2 sampleTiming r g ∧
    y.input.2 < g.expiresAtMs ∧ g.expiresAtMs ≤ r.lease.expiresAtMs := by
  obtain ⟨start, trace, c, started, run, words, y, member, issues, leased⟩ := play_run sampleTiming
    Host.all takeRight (fun trace _ => (∀ y ∈ trace, y.input.1.leaseInRange = true) ∧
      ∃ y ∈ trace, StartsGrant y.pre.state y.post.state ∧
        (y.post.state.activeRequest.all fun r => decide (y.input.2 < r.lease.expiresAtMs)) = true)
    (by decide +kernel)
  obtain ⟨r, g, granted, usable⟩ := grant_usable_iff (by decide) started run words y member issues
  rw [granted.active] at leased
  obtain ⟨lasts, bounded⟩ := usable.mpr (of_decide_eq_true leased)
  exact ⟨start, trace, c, y, r, g, started, run, member, issues, granted, lasts, bounded⟩

/-- The lease of the request runs out at 50 while the host without a display route wakes
up until 100: the grant has expired when it is issued. -/
theorem woken_after_lease_granted : ∃ start trace c y r g, Started start ∧
    Run (reducer sampleTiming) start trace c ∧ y ∈ trace ∧ StartsGrant y.pre.state y.post.state ∧
    y.input.2 = 100 ∧ y.post.state.activeRequest = some r ∧ r.status = .grant ∧ r.grant = some g ∧
    g.expiresAtMs = 50 := by
  obtain ⟨start, trace, c, started, run, y, member, issues, late, r, active, status, g, grant, expired⟩ :=
    play_run sampleTiming [.controller]
    [(.transportSynchronized .fullscreen (some .controller) (signalAt .controller), 1),
      (.createEnter "r1" "user" .right ⟨"lease", 1, 11, 50⟩, 10),
      (.peerReadinessUpdated .right ⟨true, true, true, 11, 100⟩, 100)]
    (fun trace _ => ∃ y ∈ trace, StartsGrant y.pre.state y.post.state ∧ y.input.2 = 100 ∧
      ∃ r, y.post.state.activeRequest = some r ∧ r.status = .grant ∧
        ∃ g, r.grant = some g ∧ g.expiresAtMs = 50) (by decide +kernel)
  exact ⟨start, trace, c, y, r, g, started, run, member, issues, late, active, status, grant, expired⟩

end Grants

end DisplayMux.Tv
