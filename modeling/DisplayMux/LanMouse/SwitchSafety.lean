import DisplayMux.Lib.Triple
import DisplayMux.LanMouse.Switching

/-! The switching part of the service fails closed: while a peer may hold the capture,
the lease on it stands or its release has been requested, and a lease never stands
without its timer. -/
namespace DisplayMux.LanMouse

open GateContext BundleLeaseManager

/-- The peer of `handle` owns the bundle under this epoch. -/
def BundleLeaseManager.Owns (m : BundleLeaseManager) (handle : CaptureHandle) (leaseEpoch : UInt64) :
    Prop :=
  ∃ context grant renewedUntilMs, m.state = .remoteOwned context grant renewedUntilMs ∧
    context.handle = handle ∧ context.lease.leaseEpoch = leaseEpoch

/-- A release of the capture was requested after the commit was authorized. -/
def ReleasedSince (log : List SwitchAct) (handle : CaptureHandle) (leaseEpoch : UInt64) : Prop :=
  ∃ before after completion, log = before ++ .decided handle leaseEpoch true :: after ∧
    .release completion ∈ after

/-- The cleanup of this switch waits for the release of its capture. -/
def AwaitsRelease (log : List SwitchAct) (s : Switch) (handle : CaptureHandle) (leaseEpoch : UInt64) :
    Prop :=
  ∃ context reason, s.pendingSwitchCleanup = some (context, reason) ∧ context.handle = handle ∧
    context.lease.leaseEpoch = leaseEpoch ∧ ReleasedSince log handle leaseEpoch

variable {controller : SwitchController}

namespace Switch

def nowMs (s : Switch) (clock : Nat) : Nat := s.switchController.elim u64Max (·.nowMs clock)

theorem nowMs_of_none {s : Switch} (missing : s.switchController = none) (clock : Nat) :
    s.nowMs clock = u64Max := by simp [nowMs, missing]

theorem nowMs_of_some {s : Switch} (present : s.switchController = some controller) (clock : Nat) :
    s.nowMs clock = controller.nowMs clock := by simp [nowMs, present]

/-- The timer sleeps from its start until the deadline. -/
def Scheduled (s : Switch) (deadlineMs : Nat) : Prop :=
  ∃ timer, s.switchDeadline = some timer ∧ timer.sleepMs = deadlineMs - s.nowMs timer.setAt

end Switch

structure FailClosed (log : List SwitchAct) (s : Switch) : Prop where
  captured : ∀ handle leaseEpoch, s.activeSwitchCapture = some (handle, leaseEpoch) →
    s.bundleLease.Owns handle leaseEpoch ∨ AwaitsRelease log s handle leaseEpoch
  timed : s.bundleLease.state ≠ .localState →
    ∃ deadlineMs, s.bundleLease.deadlineMs = some deadlineMs ∧ s.Scheduled deadlineMs

/-- The invariant without the timer. A lease is only taken for a host other than the
one that serves the display. -/
structure Sheltered (log : List SwitchAct) (s : Switch) : Prop where
  captured : ∀ handle leaseEpoch, s.activeSwitchCapture = some (handle, leaseEpoch) →
    s.bundleLease.Owns handle leaseEpoch ∨ AwaitsRelease log s handle leaseEpoch
  decided : ∀ handle leaseEpoch, s.activeSwitchCapture = some (handle, leaseEpoch) →
    .decided handle leaseEpoch true ∈ log
  aimed : ∀ context, s.bundleLease.context = some context →
    ∃ controller, s.switchController = some controller ∧ context.target ≠ controller.config.serverHost

structure Secure (log : List SwitchAct) (s : Switch) : Prop extends Sheltered log s where
  timed : ∀ deadlineMs, s.bundleLease.deadlineMs = some deadlineMs → s.Scheduled deadlineMs

/-- The switch for `context` is failing: its lease may already be gone. -/
structure Failing (log : List SwitchAct) (context : GateContext) (s : Switch) : Prop where
  captured : ∀ handle leaseEpoch, s.activeSwitchCapture = some (handle, leaseEpoch) →
    (handle, leaseEpoch) = (context.handle, context.lease.leaseEpoch) ∨
      AwaitsRelease log s handle leaseEpoch
  decided : ∀ handle leaseEpoch, s.activeSwitchCapture = some (handle, leaseEpoch) →
    .decided handle leaseEpoch true ∈ log
  held : ∀ current, s.bundleLease.context = some current → current.sameIdentity context = true

section Logs

variable {log : List SwitchAct} {s : Switch} {handle : CaptureHandle} {leaseEpoch : UInt64}
  {context : GateContext}

theorem AwaitsRelease.append (awaits : AwaitsRelease log s handle leaseEpoch) (acts : List SwitchAct) :
    AwaitsRelease (log ++ acts) s handle leaseEpoch := by
  obtain ⟨context, reason, pending, own, epoch, before, after, completion, rfl, released⟩ := awaits
  exact ⟨context, reason, pending, own, epoch, before, after ++ acts, completion, by simp,
    List.mem_append_left _ released⟩

theorem Sheltered.append (sheltered : Sheltered log s) (acts : List SwitchAct) :
    Sheltered (log ++ acts) s where
  captured handle leaseEpoch active :=
    (sheltered.captured handle leaseEpoch active).imp_right (·.append acts)
  decided handle leaseEpoch active := List.mem_append_left _ (sheltered.decided handle leaseEpoch active)
  aimed := sheltered.aimed

theorem Secure.append (secure : Secure log s) (acts : List SwitchAct) : Secure (log ++ acts) s :=
  ⟨secure.toSheltered.append acts, secure.timed⟩

theorem Secure.retask (secure : Secure log s) (switchTask : Option Nat) (nextSwitchTaskEpoch : Nat) :
    Secure log { s with switchTask, nextSwitchTaskEpoch } :=
  ⟨⟨secure.captured, secure.decided, secure.aimed⟩, secure.timed⟩

theorem Failing.append (failing : Failing log context s) (acts : List SwitchAct) :
    Failing (log ++ acts) context s where
  captured handle leaseEpoch active :=
    (failing.captured handle leaseEpoch active).imp_right (·.append acts)
  decided handle leaseEpoch active := List.mem_append_left _ (failing.decided handle leaseEpoch active)
  held := failing.held

theorem Failing.retask (failing : Failing log context s) (switchTask : Option Nat) :
    Failing log context { s with switchTask } :=
  ⟨failing.captured, failing.decided, failing.held⟩

theorem releasedSince_of_mem (decided : .decided handle leaseEpoch true ∈ log) :
    ReleasedSince (log ++ [.release false]) handle leaseEpoch := by
  obtain ⟨before, after, rfl⟩ := List.append_of_mem decided
  exact ⟨before, after ++ [.release false], false, by simp, by simp⟩

theorem BundleLeaseManager.Owns.stands {m : BundleLeaseManager} (owns : m.Owns handle leaseEpoch) :
    ∃ context, m.context = some context ∧ context.handle = handle ∧
      context.lease.leaseEpoch = leaseEpoch := by
  obtain ⟨context, grant, renewedUntilMs, state, own, epoch⟩ := owns
  exact ⟨context, by simp [BundleLeaseManager.context, state], own, epoch⟩

theorem GateContext.sameIdentity_self (c : GateContext) : c.sameIdentity c = true := by
  simp [sameIdentity]

theorem GateContext.sameIdentity_target {c other : GateContext} (same : c.sameIdentity other = true) :
    c.target = other.target := by
  simp only [sameIdentity, decide_eq_true_eq] at same
  exact same.2.1

theorem GateContext.sameIdentity_identity {c other : GateContext} (same : c.sameIdentity other = true) :
    (c.handle, c.lease.leaseEpoch) = (other.handle, other.lease.leaseEpoch) := by
  simp only [sameIdentity, decide_eq_true_eq] at same
  simp [same]

theorem Sheltered.failing (sheltered : Sheltered log s)
    (same : ∀ current, s.bundleLease.context = some current → current.sameIdentity context = true)
    {bundleLease : BundleLeaseManager}
    (lease : bundleLease = s.bundleLease ∨ bundleLease = s.bundleLease.dropped) :
    Failing log context { s with bundleLease } where
  captured handle leaseEpoch active := by
    refine (sheltered.captured handle leaseEpoch active).imp_left fun owns => ?_
    obtain ⟨current, stands, rfl, rfl⟩ := owns.stands
    exact sameIdentity_identity (same current stands)
  decided := sheltered.decided
  held current stands := by
    rcases lease with rfl | rfl
    · exact same current stands
    · simp [BundleLeaseManager.context] at stands

theorem Sheltered.relet (sheltered : Sheltered log s) {bundleLease : BundleLeaseManager}
    (owns : ∀ handle leaseEpoch, s.bundleLease.Owns handle leaseEpoch →
      bundleLease.Owns handle leaseEpoch)
    (target : ∀ context, bundleLease.context = some context →
      ∃ before, s.bundleLease.context = some before ∧ before.target = context.target) :
    Sheltered log { s with bundleLease } where
  captured handle leaseEpoch active := (sheltered.captured handle leaseEpoch active).imp_left (owns _ _)
  decided := sheltered.decided
  aimed context stands := by
    obtain ⟨before, stood, same⟩ := target context stands
    exact same ▸ sheltered.aimed before stood

theorem Failing.secure (failing : Failing log context s) (free : s.bundleLease.state = .localState)
    (apart : s.activeSwitchCapture ≠ some (context.handle, context.lease.leaseEpoch)) :
    Secure log s where
  captured handle leaseEpoch active := by
    rcases failing.captured handle leaseEpoch active with same | awaits
    · exact absurd (same ▸ active) apart
    · exact .inr awaits
  decided := failing.decided
  aimed current stands := by simp [BundleLeaseManager.context, free] at stands
  timed deadlineMs due := by simp [BundleLeaseManager.deadlineMs, free] at due

theorem secure_of_idle (idle : s.activeSwitchCapture = none)
    (aimed : ∀ context, s.bundleLease.context = some context → ∃ controller,
      s.switchController = some controller ∧ context.target ≠ controller.config.serverHost)
    (timed : ∀ deadlineMs, s.bundleLease.deadlineMs = some deadlineMs → s.Scheduled deadlineMs) :
    Secure log s :=
  ⟨⟨by simp [idle], by simp [idle], aimed⟩, timed⟩

end Logs

section Handlers

open Std.Do

set_option mvcgen.warning false

namespace Switch

abbrev Post (α : Type) := PostCond α (.except String (.arg SwitchScene .pure))

abbrev Safe (past : List SwitchAct) (s : SwitchScene) : Prop := Secure (past ++ s.log) s.switch

abbrev Fails (past : List SwitchAct) (context : GateContext) (s : SwitchScene) : Prop :=
  Failing (past ++ s.log) context s.switch

@[spec]
theorem perform_spec (act : SwitchAct) (Q : Post Unit) :
    ⦃fun s => Q.1 () (s.record act)⦄ perform act ⦃Q⦄ := by
  mvcgen [perform]

@[spec]
theorem update_spec (f : Switch → Switch) (Q : Post Unit) :
    ⦃fun s => Q.1 () (s.withSwitch (f s.switch))⦄ update f ⦃Q⦄ := by
  mvcgen [update]

@[spec]
theorem readClock_spec (Q : Post Nat) : ⦃fun s => Q.1 s.waited.clock s.waited⦄ readClock ⦃Q⦄ := by
  mvcgen [readClock]

@[spec]
theorem onLease_spec {α : Type} (call : BundleLeaseManager → α × BundleLeaseManager) (Q : Post α) :
    ⦃fun s => Q.1 (call s.switch.bundleLease).1
      (s.withSwitch { s.switch with bundleLease := (call s.switch.bundleLease).2 })⦄
    onLease call ⦃Q⦄ := by
  mvcgen [onLease]

variable {past : List SwitchAct} {s : SwitchScene} {context : GateContext}

theorem Safe.record (safe : Safe past s) (act : SwitchAct) : Safe past (s.record act) := by
  simpa [Safe, SwitchScene.record] using Secure.append safe [act]

abbrev Covered (past : List SwitchAct) (s : SwitchScene) : Prop := Sheltered (past ++ s.log) s.switch

theorem Covered.record (covered : Covered past s) (act : SwitchAct) : Covered past (s.record act) := by
  simpa [Covered, SwitchScene.record] using Sheltered.append covered [act]

theorem Fails.record (fails : Fails past context s) (act : SwitchAct) :
    Fails past context (s.record act) := by
  simpa [Fails, SwitchScene.record] using Failing.append fails [act]

variable {bundleLease : BundleLeaseManager} {P : SwitchScene → Prop} {handle : CaptureHandle}
  {target : SwitchHost}

theorem cancelSwitchTask_keeps
    (idle : ∀ s, P s → P (s.withSwitch { s.switch with switchTask := none }))
    (told : ∀ s epoch, P s → P (s.record (.abort epoch))) : Yields P P cancelSwitchTask := by
  mvcgen [cancelSwitchTask]
  rename_i holds _ _
  exact told _ _ (idle _ holds)

section

variable (past : List SwitchAct)

theorem cancelSwitchTask_safe : Yields (Safe past) (Safe past) cancelSwitchTask :=
  cancelSwitchTask_keeps (fun _ safe => Secure.retask safe none _) fun _ _ safe => Safe.record safe _

theorem finishSwitchTask_safe (taskEpoch : Nat) :
    Yields (Safe past) (Safe past) (finishSwitchTask taskEpoch) := by
  mvcgen [finishSwitchTask]
  rename_i safe _
  exact Secure.retask safe none _

theorem startTask_keeps (retasked : ∀ s switchTask nextSwitchTaskEpoch, P s →
      P (s.withSwitch { s.switch with switchTask, nextSwitchTaskEpoch }))
    (told : ∀ s epoch job, P s → P (s.record (.spawn epoch job))) (job : SwitchJob) :
    Yields P P (startTask job) := by
  mvcgen [startTask, beginSwitchTask]
  rename_i holds _ _ _ epoch _
  exact retasked _ (some epoch) epoch (told _ epoch job (retasked _ _ epoch holds))

theorem startTask_safe (job : SwitchJob) : Yields (Safe past) (Safe past) (startTask job) :=
  startTask_keeps (P := Safe past) (fun _ _ _ safe => Secure.retask safe _ _)
    (fun _ _ _ safe => Safe.record safe _) job

theorem startCleanupTask_safe (peers : Peers) (context : GateContext) (reason : String) :
    Yields (Safe past) (Safe past) (startCleanupTask peers context reason) := by
  mvcgen [startCleanupTask, startTask_safe]

theorem armManualRecoveryThenNotify_safe (target : SwitchHost) (reason detail : String) :
    Yields (Safe past) (Safe past) (armManualRecoveryThenNotify target reason detail) := by
  mvcgen [armManualRecoveryThenNotify, startTask_safe]
  rename_i safe
  exact Safe.record safe _

theorem controllerNowMs_keeps (waited : ∀ s, P s → P s.waited) : Yields P P controllerNowMs := by
  mvcgen [controllerNowMs]
  rename_i holds _ _
  exact waited _ holds

theorem resetSwitchDeadline_safe :
    Yields (fun s => Sheltered (past ++ s.log) s.switch) (Safe past) resetSwitchDeadline := by
  mvcgen [resetSwitchDeadline, controllerNowMs]
  · rename_i sheltered free
    refine ⟨⟨sheltered.captured, sheltered.decided, sheltered.aimed⟩, ?_⟩
    intro deadlineMs due
    simp [free] at due
  · rename_i sheltered deadline due missing _
    refine ⟨⟨sheltered.captured, sheltered.decided, sheltered.aimed⟩, ?_⟩
    intro deadlineMs stands
    obtain rfl : deadline = deadlineMs := Option.some.inj (due.symm.trans stands)
    exact ⟨_, rfl, congrArg (deadline - ·) (nowMs_of_none missing _).symm⟩
  rename_i sheltered deadline due controller present _
  refine ⟨⟨sheltered.captured, sheltered.decided, sheltered.aimed⟩, ?_⟩
  intro deadlineMs stands
  obtain rfl : deadline = deadlineMs := Option.some.inj (due.symm.trans stands)
  exact ⟨_, rfl, congrArg (deadline - ·) (nowMs_of_some present _).symm⟩

end

structure Closed (past : List SwitchAct) (context : GateContext) (s : SwitchScene) : Prop where
  fails : Fails past context s
  free : s.switch.bundleLease.state = .localState

theorem Closed.record (closed : Closed past context s) (act : SwitchAct) :
    Closed past context (s.record act) := ⟨Fails.record closed.fails act, closed.free⟩

theorem Closed.released (closed : Closed past context s) {reason : String}
    (own : s.switch.activeSwitchCapture = some (context.handle, context.lease.leaseEpoch)) :
    Safe past ((s.withSwitch { s.switch with pendingSwitchCleanup := some (context, reason) }).record
      (.release false)) where
  captured handle leaseEpoch active := by
    obtain ⟨rfl, rfl⟩ := Prod.mk.inj (Option.some.inj (own.symm.trans active))
    have decided := closed.fails.decided _ _ own
    have released := releasedSince_of_mem decided
    exact .inr ⟨context, reason, rfl, rfl, rfl, by simpa using released⟩
  decided handle leaseEpoch active := by
    have decided := closed.fails.decided handle leaseEpoch active
    exact (List.append_assoc past s.log _) ▸ List.mem_append_left _ decided
  aimed current stands := by simp [BundleLeaseManager.context, closed.free] at stands
  timed deadlineMs due := by simp [BundleLeaseManager.deadlineMs, closed.free] at due

section

variable (past : List SwitchAct) (peers : Peers) (context : GateContext)

theorem closeContext_spec (active : Option (CaptureHandle × UInt64)) :
    Yields (fun s => Fails past context s ∧ s.switch.activeSwitchCapture = active)
      (fun s => Closed past context s ∧ s.switch.activeSwitchCapture = active)
      (closeContext context) := by
  have cancelled : Yields (fun s => Closed past context s ∧ s.switch.activeSwitchCapture = active)
      (fun s => Closed past context s ∧ s.switch.activeSwitchCapture = active) cancelSwitchTask := by
    refine cancelSwitchTask_keeps ?_ fun _ _ closed => ⟨closed.1.record _, closed.2⟩
    rintro s ⟨closed, same⟩
    exact ⟨⟨⟨closed.fails.captured, closed.fails.decided, closed.fails.held⟩, closed.free⟩, same⟩
  have silenced : Yields (fun s => Fails past context s ∧ s.switch.activeSwitchCapture = active)
      (fun s => Fails past context s ∧ s.switch.activeSwitchCapture = active)
      (cancelClipboard context) := by
    mvcgen [cancelClipboard]
    rename_i fails
    exact ⟨Fails.record fails.1 _, fails.2⟩
  mvcgen [closeContext, silenced, cancelled]
  · rename_i fails _ _
    obtain ⟨fails, same⟩ := fails
    refine ⟨Closed.record ⟨?_, rfl⟩ _, same⟩
    exact ⟨fails.captured, fails.decided, by simp [BundleLeaseManager.context,
      BundleLeaseManager.invalidate]⟩
  · rename_i closed
    obtain ⟨closed, same⟩ := closed
    exact ⟨⟨⟨closed.fails.captured, closed.fails.decided, closed.fails.held⟩, closed.free⟩, same⟩
  · rename_i fails _ other
    refine ⟨Closed.record ⟨fails.1, ?_⟩ _, fails.2⟩
    by_contra stands
    obtain ⟨current, present⟩ := Option.ne_none_iff_exists'.mp
      (fun missing => stands (context_eq_none.mp missing))
    have same := fails.1.held current present
    simp [present, same] at other
  · rename_i closed
    obtain ⟨closed, same⟩ := closed
    exact ⟨⟨⟨closed.fails.captured, closed.fails.decided, closed.fails.held⟩, closed.free⟩, same⟩

theorem closeContext_closed : Yields (Fails past context) (Closed past context) (closeContext context) := by
  rw [yields_iff]
  intro s a s' fails ran
  exact ((closeContext_spec past context s.switch.activeSwitchCapture).ok ⟨fails, rfl⟩ ran).1

theorem failContextInner_safe (reason : String) (detail : Option String) :
    Yields (Fails past context) (Safe past) (failContextInner peers context reason detail) := by
  have closed := closeContext_closed past context
  mvcgen [failContextInner, closed, startCleanupTask_safe]
  · rename_i closed own
    exact (closed.record _).released own
  · rename_i closed apart
    exact (closed.record _).fails.secure closed.free apart

theorem failContext_safe (reason : String) :
    Yields (Fails past context) (Safe past) (failContext peers context reason) :=
  failContextInner_safe past peers context reason none

theorem failContextWithDetail_safe (reason detail : String) :
    Yields (Fails past context) (Safe past) (failContextWithDetail peers context reason detail) :=
  failContextInner_safe past peers context reason (some detail)

end

theorem Covered.fails (covered : Covered past s)
    (current : s.switch.bundleLease.context.any (·.sameIdentity context) = true)
    (lease : bundleLease = s.switch.bundleLease ∨ bundleLease = s.switch.bundleLease.dropped) :
    Fails past context (s.withSwitch { s.switch with bundleLease }) := by
  refine Sheltered.failing covered ?_ lease
  intro other stands
  simpa [stands] using current

theorem Covered.fails_own (covered : Covered past s)
    (stands : s.switch.bundleLease.context = some context)
    (lease : bundleLease = s.switch.bundleLease ∨ bundleLease = s.switch.bundleLease.dropped) :
    Fails past context (s.withSwitch { s.switch with bundleLease }) :=
  covered.fails (by simp [stands, sameIdentity_self]) lease

theorem Safe.lapsed (safe : Safe past s) (free : s.switch.bundleLease.context = none) :
    Safe past (s.withSwitch { s.switch with bundleLease := s.switch.bundleLease.dropped }) := by
  rw [dropped_of_local (context_eq_none.mp free)]
  exact safe

theorem failGate_safe (past : List SwitchAct) (peers : Peers) (reason : String) :
    Yields (Safe past) (Safe past) (failGate peers reason) := by
  mvcgen [failGate, failContext_safe]
  · rename_i safe free
    exact safe.lapsed free
  · rename_i safe context stands
    exact Covered.fails_own safe.toSheltered stands (.inr rfl)

theorem failGateWithDetail_safe (past : List SwitchAct) (peers : Peers) (reason detail : String) :
    Yields (Safe past) (Safe past) (failGateWithDetail peers reason detail) := by
  mvcgen [failGateWithDetail, failContextWithDetail_safe]
  · rename_i safe free
    exact safe.lapsed free
  · rename_i safe context stands
    exact Covered.fails_own safe.toSheltered stands (.inr rfl)

theorem failContext_free (peers : Peers) (context : GateContext) (reason : String) :
    Yields (fun s => s.switch.bundleLease.state = .localState)
      (fun s => s.switch.bundleLease.state = .localState) (failContext peers context reason) := by
  have started := fun job => startTask_keeps
    (P := fun s => s.switch.bundleLease.state = .localState) (fun _ _ _ => id) (fun _ _ _ => id) job
  have cancelled := cancelSwitchTask_keeps
    (P := fun s => s.switch.bundleLease.state = .localState) (fun _ => id) (fun _ _ => id)
  mvcgen [failContext, failContextInner, closeContext, cancelClipboard, startCleanupTask, started,
    cancelled]

theorem failGate_free (past : List SwitchAct) (peers : Peers) (reason : String) :
    Yields (Safe past) (fun s => Safe past s ∧ s.switch.bundleLease.state = .localState)
      (failGate peers reason) := by
  have free : Yields (Safe past) (fun s => s.switch.bundleLease.state = .localState)
      (failGate peers reason) := by
    mvcgen [failGate, failContext_free]
  rw [yields_iff]
  intro s a s' safe ran
  exact ⟨(failGate_safe past peers reason).ok safe ran, free.ok safe ran⟩

structure Spent (s : SwitchScene) : Prop where
  idle : s.switch.activeSwitchCapture = none
  free : s.switch.bundleLease.state = .localState

theorem Spent.safe (spent : Spent s) : Safe past s := by
  refine secure_of_idle spent.idle ?_ ?_
  · simp [context, spent.free]
  · simp [deadlineMs, spent.free]

section

variable (past : List SwitchAct) (peers : Peers)

theorem deferFailure_safe (context : GateContext) (reason : String) :
    Yields (fun s => Fails past context s ∧ s.switch.activeSwitchCapture = none) (Safe past)
      (deferFailureUntilCaptureRelease context reason) := by
  have closed := closeContext_spec past context none
  mvcgen [deferFailureUntilCaptureRelease, closed]
  rename_i closed
  obtain ⟨closed, idle⟩ := closed
  exact Spent.safe ⟨idle, closed.free⟩

theorem releaseGateAfterCapture_safe (reason : String) (notifyFailure : Bool) :
    Yields (fun s => Safe past s ∧ s.switch.activeSwitchCapture = none) (Safe past)
      (releaseGateAfterCapture peers reason notifyFailure) := by
  have cancelled : Yields Spent Spent cancelSwitchTask :=
    cancelSwitchTask_keeps (fun _ spent => ⟨spent.idle, spent.free⟩)
      fun _ _ spent => ⟨spent.idle, spent.free⟩
  mvcgen [releaseGateAfterCapture, cancelClipboard, cancelled, startCleanupTask_safe]
  · rename_i safe free
    exact safe.1.lapsed free
  · rename_i safe _ _
    exact ⟨safe.2, rfl⟩
  all_goals
    rename_i spent _ _
    exact Spent.safe ⟨spent.idle, spent.free⟩

theorem completePendingSwitchCleanup_safe :
    Yields (fun s => Safe past s ∧ ∀ active, s.switch.activeSwitchCapture = some active →
        s.switch.bundleLease.Owns active.1 active.2) (Safe past)
      (completePendingSwitchCleanup peers) := by
  mvcgen [completePendingSwitchCleanup, startCleanupTask_safe]
  · rename_i safe _
    exact safe.1
  · rename_i safe _ _ _
    obtain ⟨safe, owned⟩ := safe
    exact ⟨⟨fun _ _ held => .inl (owned _ held), safe.decided, safe.aimed⟩, safe.timed⟩

theorem captureEnded_safe (reason : String) (notifyFailure : Bool) :
    Yields (fun s => Safe past s ∧ s.switch.activeSwitchCapture = none) (Safe past)
      (captureEnded peers reason notifyFailure) := by
  mvcgen [captureEnded, completePendingSwitchCleanup_safe, releaseGateAfterCapture_safe]
  rename_i safe _
  exact ⟨safe.1, by simp [safe.2]⟩

theorem handleCaptureDisabled_safe : Yields (Safe past) (Safe past) (handleCaptureDisabled peers) := by
  mvcgen [handleCaptureDisabled, captureEnded_safe]
  rename_i safe
  exact ⟨secure_of_idle rfl safe.aimed safe.timed, rfl⟩

theorem handleClientReleased_safe (reason : CaptureReleaseReason) :
    Yields (Safe past) (Safe past) (handleClientReleased peers reason) := by
  mvcgen [handleClientReleased, captureEnded_safe]
  rename_i safe
  exact ⟨secure_of_idle rfl safe.aimed safe.timed, rfl⟩

/-- The release of a refused commit ends no cleanup that another capture waits for. -/
def spares (s : Switch) (handle : CaptureHandle) (leaseEpoch : UInt64) : Bool :=
  s.activeSwitchCapture.all fun active => active = (handle, leaseEpoch) ∨
    s.pendingSwitchCleanup.all fun pending => (pending.1.handle, pending.1.lease.leaseEpoch) ≠ active

theorem forgetCapture_safe (handle : CaptureHandle) (leaseEpoch : UInt64) :
    Yields (fun s => Safe past s ∧ s.switch.spares handle leaseEpoch = true)
      (fun s => Safe past s ∧ ∀ active, s.switch.activeSwitchCapture = some active →
        active ≠ (handle, leaseEpoch) ∧ s.switch.bundleLease.Owns active.1 active.2)
      (forgetCapture handle leaseEpoch) := by
  mvcgen [forgetCapture]
  · rename_i safe _
    exact ⟨secure_of_idle rfl safe.1.aimed safe.1.timed, by simp⟩
  · rename_i safe unlike
    obtain ⟨safe, spares⟩ := safe
    refine ⟨safe, ?_⟩
    intro active held
    have other : active ≠ (handle, leaseEpoch) := fun same => unlike (same ▸ held)
    refine ⟨other, (safe.captured _ _ held).resolve_right ?_⟩
    rintro ⟨context, reason, pending, own, epoch, -⟩
    simp [Switch.spares, held, other, pending, own, epoch] at spares

theorem handleCommitDeniedReleased_safe (handle : CaptureHandle) (leaseEpoch : UInt64) :
    Yields (fun s => Safe past s ∧ s.switch.spares handle leaseEpoch = true) (Safe past)
      (handleCommitDeniedReleased peers handle leaseEpoch) := by
  mvcgen [handleCommitDeniedReleased, forgetCapture_safe, completePendingSwitchCleanup_safe,
    releaseGateAfterCapture_safe]
  · rename_i safe _
    exact ⟨safe.1, fun active held => (safe.2 active held).2⟩
  · rename_i safe _ stands
    refine ⟨safe.1, Option.eq_none_iff_forall_not_mem.mpr ?_⟩
    -- a capture that still owns its lease is not the one whose lease is given up here
    intro active held
    obtain ⟨other, context, grant, renewed, owned, own, epoch⟩ := safe.2 active held
    obtain ⟨rfl, rfl⟩ : active.1 = handle ∧ active.2 = leaseEpoch := by
      simpa [BundleLeaseManager.context, owned, own, epoch] using stands
    exact other rfl
  · rename_i safe _ _
    exact safe.1

theorem handlePeerReadinessChange_safe (handle : ClientHandle) :
    Yields (Safe past) (Safe past) (handlePeerReadinessChange peers handle) := by
  mvcgen [handlePeerReadinessChange, failContext_safe]
  · rename_i safe context own _
    have stands := (Option.filter_eq_some_iff.mp own).1
    exact Covered.fails_own safe.toSheltered stands (.inl rfl)
  · rename_i safe context own _ _ _
    have stands := (Option.filter_eq_some_iff.mp own).1
    exact Covered.fails_own safe.toSheltered stands (.inl rfl)

theorem handleSwitchDeadline_safe : Yields (Safe past) (Safe past) (handleSwitchDeadline peers) := by
  have now : Yields (Covered past) (Covered past) controllerNowMs :=
    controllerNowMs_keeps fun _ covered => covered
  mvcgen [handleSwitchDeadline, now, failContext_safe, resetSwitchDeadline_safe]
  · rename_i safe
    exact ⟨safe.captured, safe.decided, safe.aimed⟩
  · rename_i covered context expired
    obtain ⟨stands, dropped⟩ := expire_some expired
    exact covered.fails_own stands (.inr dropped)
  · rename_i covered stands
    simp only [SwitchScene.withSwitch_log, SwitchScene.withSwitch_switch,
      expire_none stands]
    exact covered

end

structure Holding (past : List SwitchAct) (P : Switch → Prop) (s : SwitchScene) : Prop where
  safe : Safe past s
  holds : P s.switch

section Holding

variable {P : Switch → Prop}

theorem startTask_holding (past : List SwitchAct) (job : SwitchJob)
    (frame : ∀ s switchTask nextSwitchTaskEpoch, P s → P { s with switchTask, nextSwitchTaskEpoch }) :
    Yields (Holding past P) (Holding past P) (startTask job) :=
  startTask_keeps (fun _ _ _ holding => ⟨Secure.retask holding.safe _ _, frame _ _ _ holding.holds⟩)
    (fun _ _ _ holding => ⟨Safe.record holding.safe _, holding.holds⟩) job

theorem resetSwitchDeadline_holding (past : List SwitchAct)
    (frame : ∀ s switchDeadline, P s → P { s with switchDeadline }) :
    Yields (fun s => Covered past s ∧ P s.switch) (Holding past P) resetSwitchDeadline := by
  rw [yields_iff]
  intro s a s' covered ran
  refine ⟨(resetSwitchDeadline_safe past).ok covered.1 ran, ?_⟩
  have kept : Yields (fun s => P s.switch) (fun s => P s.switch) resetSwitchDeadline := by
    mvcgen [resetSwitchDeadline, controllerNowMs] <;> exact frame _ _ ‹_›
  exact kept.ok covered.2 ran

end Holding

abbrev Standing (past : List SwitchAct) (context : GateContext) : SwitchScene → Prop :=
  Holding past fun s => s.bundleLease.context = some context

theorem Holding.fails (standing : Standing past context s) : Fails past context s :=
  Covered.fails_own standing.safe.toSheltered standing.holds (.inl rfl)

theorem startTask_standing (past : List SwitchAct) (context : GateContext) (job : SwitchJob) :
    Yields (Standing past context) (Standing past context) (startTask job) :=
  startTask_holding past job fun _ _ _ stands => stands

theorem resetSwitchDeadline_standing (past : List SwitchAct) (context : GateContext) :
    Yields (fun s => Covered past s ∧ s.switch.bundleLease.context = some context)
      (Standing past context) resetSwitchDeadline :=
  resetSwitchDeadline_holding past (P := fun s => s.bundleLease.context = some context)
    fun _ _ stands => stands

theorem startSwitch_safe (past : List SwitchAct) (peers : Peers) (context : GateContext)
    (readiness : PeerBundleReadiness) :
    Yields (fun s => Covered past s ∧ s.switch.bundleLease.context = some context) (Safe past)
      (startSwitch peers context readiness) := by
  mvcgen [startSwitch, startPrepareTask, failContext_safe, resetSwitchDeadline_standing, startTask_standing]
  · rename_i covered
    exact ⟨Covered.record covered.1 _, covered.2⟩
  · rename_i standing
    exact standing.safe
  · rename_i standing
    exact standing.fails

section Lease

variable {bundleLease : BundleLeaseManager}

variable {peerSessionEpoch : UInt64} {peerBundleReady : Bool}

theorem Safe.unreserved (safe : Safe past s) {requestId leaseId : String}
    {nowMs leaseTtlMs : Nat} {error : GateError}
    (refused : s.switch.bundleLease.reserve handle target requestId leaseId peerSessionEpoch
      peerBundleReady nowMs leaseTtlMs = (.error error, bundleLease)) :
    Safe past (s.withSwitch { s.switch with bundleLease }) := by
  obtain rfl := reserve_refused refused
  exact safe

section

variable (covered : Covered past s)
include covered

theorem Covered.reserved {requestId leaseId : String}
    {nowMs leaseTtlMs : Nat} (present : s.switch.switchController = some controller)
    (other : target ≠ controller.config.serverHost)
    (reserved : s.switch.bundleLease.reserve handle target requestId leaseId peerSessionEpoch
      peerBundleReady nowMs leaseTtlMs = (.ok context, bundleLease)) :
    Covered past (s.withSwitch { s.switch with bundleLease }) ∧ bundleLease.context = some context := by
  obtain ⟨free, rfl, made, -⟩ := reserve_ok reserved
  refine ⟨⟨?_, covered.decided, ?_⟩, rfl⟩
  · intro handle leaseEpoch active
    refine .inr ((covered.captured handle leaseEpoch active).resolve_left ?_)
    rintro ⟨_, _, _, owned, -⟩
    simp [free] at owned
  · rintro _ ⟨⟩
    exact ⟨controller, present, by rw [made]; exact other⟩

theorem Covered.armed {prepared armed : GateContext}
    {requestEpoch grantEpoch : UInt64} {leaseExpiresAtMs grantExpiresAtMs : Nat} {nowMs : Nat}
    {grant : GrantIdentity}
    (accepted : s.switch.bundleLease.armGrant prepared requestEpoch grantEpoch leaseExpiresAtMs
      grantExpiresAtMs peerBundleReady peerSessionEpoch nowMs = (.ok (armed, grant), bundleLease)) :
    Covered past (s.withSwitch { s.switch with bundleLease }) ∧ bundleLease.context = some armed := by
  obtain ⟨preparing, rfl, rfl, -⟩ := armGrant_ok accepted
  refine ⟨Sheltered.relet covered ?_ ?_, rfl⟩
  · rintro _ _ ⟨_, _, _, owned, -⟩
    simp [preparing] at owned
  · rintro _ ⟨⟩
    exact ⟨prepared, by simp [context, preparing], rfl⟩

theorem Covered.committed {leaseEpoch : UInt64} {nowMs : Nat} {grant : GrantIdentity}
    (committed : s.switch.bundleLease.commit handle leaseEpoch peerBundleReady peerSessionEpoch nowMs =
      (.ok (context, grant), bundleLease)) :
    Covered past (s.withSwitch { s.switch with bundleLease }) ∧ bundleLease.context = some context ∧
      bundleLease.Owns handle leaseEpoch := by
  obtain ⟨armed, rfl, own, epoch, -⟩ := commit_ok committed
  refine ⟨Sheltered.relet covered ?_ ?_, rfl, ⟨_, _, _, rfl, own, epoch⟩⟩
  · rintro _ _ ⟨_, _, _, owned, -⟩
    simp [armed] at owned
  · rintro _ ⟨⟩
    exact ⟨context, by simp [BundleLeaseManager.context, armed], rfl⟩

theorem Covered.renewed {requestId : String} {renewedUntilMs : Nat} {nowMs : Nat}
    (renewed : s.switch.bundleLease.renew requestId renewedUntilMs peerBundleReady peerSessionEpoch
      nowMs = (.ok (), bundleLease)) :
    Covered past (s.withSwitch { s.switch with bundleLease }) := by
  obtain ⟨context, grant, previous, owned, rfl, -⟩ := renew_ok renewed
  refine Sheltered.relet covered ?_ ?_
  · rintro handle leaseEpoch ⟨current, _, _, same, own, epoch⟩
    obtain ⟨rfl, -⟩ := BundleGateState.remoteOwned.inj (owned.symm.trans same)
    exact ⟨_, _, _, rfl, own, epoch⟩
  · rintro _ ⟨⟩
    exact ⟨context, by simp [BundleLeaseManager.context, owned], rfl⟩

end

end Lease

theorem requestSwitch_safe (past : List SwitchAct) (peers : Peers) (handle : ClientHandle)
    (other : target ≠ controller.config.serverHost)
    (readiness : Option PeerBundleReadiness) (requestNonce leaseNonce : BitVec 128) :
    Yields (fun s => Safe past s ∧ s.switch.switchController = some controller) (Safe past)
      (requestSwitch peers controller handle target readiness requestNonce leaseNonce) := by
  mvcgen [requestSwitch, startSwitch_safe, armManualRecoveryThenNotify_safe]
  · rename_i safe
    exact safe.1
  · rename_i safe _ refused
    exact Safe.unreserved safe.1 (Prod.ext refused rfl)
  · rename_i safe _ refused
    exact (Safe.unreserved safe.1 (Prod.ext refused rfl)).record _
  · rename_i safe _ refused
    exact (Safe.unreserved safe.1 (Prod.ext refused rfl)).record _
  · rename_i safe _ _ _ _ _ refused
    exact (Safe.unreserved safe.1 (Prod.ext refused rfl)).record _
  · rename_i safe _ _ reserved
    exact Covered.reserved safe.1.toSheltered safe.2 other (Prod.ext reserved rfl)

theorem armCapture_safe (past : List SwitchAct) (peers : Peers) (context : GateContext)
    (grant : GrantIdentity) :
    Yields (fun s => Covered past s ∧ s.switch.bundleLease.context = some context) (Safe past)
      (armCapture peers context grant) := by
  mvcgen [armCapture, startCommitTask, failContext_safe, resetSwitchDeadline_standing, startTask_standing]
  · rename_i standing _
    exact standing.fails
  · rename_i standing
    exact standing.safe
  · rename_i standing
    exact standing.fails
  · rename_i standing _ _ _ _ _
    exact standing.fails
  · rename_i standing _ _ _ _ _ _ _
    exact standing.fails
  · rename_i standing _ _ _ _ _ _ _
    exact Safe.record standing.safe _

@[spec]
theorem current_spec (context : GateContext) (Q : Post Bool) :
    ⦃fun s => Q.1 (s.switch.bundleLease.context.any (·.sameIdentity context)) s⦄
    current context ⦃Q⦄ := by
  mvcgen [current]

structure Current (past : List SwitchAct) (context : GateContext) (s : SwitchScene) : Prop where
  safe : Safe past s
  same : s.switch.bundleLease.context.any (·.sameIdentity context) = true

open Current

theorem Current.own (safe : Safe past s) (stands : s.switch.bundleLease.context = some context) :
    Current past context s := ⟨safe, by simp [stands, sameIdentity_self]⟩

section

variable (now : Current past context s)
include now

theorem Current.fails : Fails past context s :=
  Covered.fails now.safe.toSheltered now.same (.inl rfl)

theorem Current.refused {error : GateError} (refused : bundleLease = s.switch.bundleLease.afterError error) :
    Fails past context (s.withSwitch { s.switch with bundleLease }) :=
  Covered.fails now.safe.toSheltered now.same
    (refused ▸ afterError_cases s.switch.bundleLease error)

theorem Current.elsewhere (present : s.switch.switchController = some controller) :
    context.target ≠ controller.config.serverHost := by
  obtain ⟨current, stands, same⟩ := Option.any_eq_true _ _ |>.mp now.same
  obtain ⟨_, found, other⟩ := now.safe.aimed current stands
  obtain rfl := Option.some.inj (present.symm.trans found)
  exact sameIdentity_target same ▸ other

end

section

variable (past : List SwitchAct) (peers : Peers)

theorem handlePrepared_safe (context : GateContext) (result : Except SwitchFailure PreparedGrant) :
    Yields (Safe past) (Safe past) (handlePrepared peers context result) := by
  have now : Yields (Current past context) (Current past context) controllerNowMs :=
    controllerNowMs_keeps fun _ now => ⟨now.safe, now.same⟩
  mvcgen [handlePrepared, now, failContext_safe, failContextWithDetail_safe, failGateWithDetail_safe,
    armCapture_safe]
  · rename_i safe same _ _ _
    exact fails ⟨safe, same⟩
  · rename_i safe same _ _ _ _
    exact ⟨safe, same⟩
  · rename_i now _ refused
    exact now.refused (armGrant_error (Prod.ext refused rfl))
  · rename_i now _ _ accepted
    exact Covered.armed now.safe.toSheltered (Prod.ext accepted rfl)

theorem startRenewing_safe (context : GateContext) :
    Yields (Standing past context) (Safe past) (startRenewing peers context) := by
  mvcgen [startRenewing, startRenewalTask, failContext_safe, startTask_standing]
  · rename_i standing
    exact standing.safe
  · rename_i standing
    exact standing.fails

theorem handleCommitted_safe (context : GateContext) (result : Except SwitchFailure Nat) :
    Yields (Safe past) (Safe past) (handleCommitted peers context result) := by
  mvcgen [handleCommitted, failContext_safe, failGateWithDetail_safe, startRenewing_safe,
    resetSwitchDeadline_safe]
  · rename_i safe same _ _ _
    exact fails ⟨safe, same⟩
  · rename_i safe same _ _ _ present here
    exact absurd here (elsewhere ⟨safe, same⟩ present)
  · rename_i safe same _ _ _ _ _ _
    exact fails ⟨safe, same⟩
  · rename_i s safe same _ _ _ _ _ _ _ _ _ refused
    have now : Current past context s.waited := ⟨safe, same⟩
    exact now.refused (renew_error (Prod.ext refused rfl))
  · rename_i s safe same _ _ _ _ _ _ _ _ _ renewed
    have covered : Covered past s.waited := safe.toSheltered
    exact covered.renewed (Prod.ext renewed rfl)
  · rename_i safe _ stands
    exact ⟨safe, stands⟩

theorem handleRenewed_safe (taskEpoch : Nat) (context : GateContext) (result : Except SwitchFailure Nat) :
    Yields (Safe past) (Safe past) (handleRenewed peers taskEpoch context result) := by
  have now : Yields (Current past context) (Current past context) controllerNowMs :=
    controllerNowMs_keeps fun _ now => ⟨now.safe, now.same⟩
  mvcgen [handleRenewed, now, failContext_safe, failGateWithDetail_safe, cancelSwitchTask_safe,
    resetSwitchDeadline_safe, finishSwitchTask]
  · rename_i safe _ _ _ _
    exact Secure.retask safe none _
  · rename_i safe same _ _ _ _
    exact fails ⟨safe, same⟩
  · rename_i safe same _ _ _ _
    exact Failing.retask (fails ⟨safe, same⟩) none
  · rename_i safe same _ _ _ _
    exact ⟨safe, same⟩
  · rename_i now _ refused _
    exact now.refused (renew_error (Prod.ext refused rfl))
  · rename_i now _ refused _
    have failing := now.refused (renew_error (Prod.ext refused rfl))
    exact Failing.retask failing none
  · rename_i now _ renewed
    exact Covered.renewed now.safe.toSheltered (Prod.ext renewed rfl)

theorem handleSwitchTaskEvent_safe (event : SwitchTaskEvent) :
    Yields (Safe past) (Safe past) (handleSwitchTaskEvent peers event) := by
  cases event with
  | prepared taskEpoch context result =>
    have handled := handlePrepared_safe past peers context result
    mvcgen [handleSwitchTaskEvent, finishSwitchTask_safe, handled]
  | committed taskEpoch context _ result =>
    have handled := handleCommitted_safe past peers context result
    mvcgen [handleSwitchTaskEvent, finishSwitchTask_safe, handled]
  | renewed taskEpoch context result =>
    have handled := handleRenewed_safe past peers taskEpoch context result
    mvcgen [handleSwitchTaskEvent, handled]
  | cleanupFinished taskEpoch _ _ => mvcgen [handleSwitchTaskEvent, finishSwitchTask_safe]
  | manualRecoveryArmed taskEpoch _ _ _ _ =>
    mvcgen [handleSwitchTaskEvent, finishSwitchTask_safe]
    rename_i safe
    exact Safe.record safe _

end

/-- Whether a commit passes all checks: there is an armed grant for it, its peer is ready
in the same session, there is time left and no other task of the controller. -/
def admits (s : Switch) (peers : Peers) (clock : Nat) (handle : CaptureHandle)
    (leaseEpoch peerSessionEpoch : UInt64) : Bool :=
  match s.bundleLease.state, s.switchController with
  | .grantArmed context grant, some controller =>
    s.switchTask = none ∧ context.handle = handle ∧ context.lease.leaseEpoch = leaseEpoch ∧
      context.lease.peerSessionEpoch = peerSessionEpoch ∧
      (peers.readiness handle).any (fun r => r.bundleReady ∧ r.sessionEpoch = peerSessionEpoch) ∧
      controller.nowMs clock < context.lease.expiresAtMs ∧ controller.nowMs clock < grant.expiresAtMs
  | _, _ => false

/-- A commit harms no capture: there is none, or no lease to be lost, or the commit passes. -/
def harmless (s : Switch) (peers : Peers) (clock : Nat) (handle : CaptureHandle)
    (leaseEpoch peerSessionEpoch : UInt64) : Bool :=
  s.activeSwitchCapture.isNone || s.bundleLease.context.isNone ||
    s.admits peers clock handle leaseEpoch peerSessionEpoch

theorem passes_of_harmless {switch : Switch} {peers : Peers} {clock : Nat}
    {leaseEpoch peerSessionEpoch : UInt64}
    (harmless : switch.harmless peers clock handle leaseEpoch peerSessionEpoch = true)
    (stands : switch.bundleLease.context = some context) :
    switch.activeSwitchCapture = none ∨ ∃ grant controller readiness,
      switch.bundleLease.state = .grantArmed context grant ∧
      switch.switchController = some controller ∧ switch.switchTask = none ∧
      context.handle = handle ∧ context.lease.leaseEpoch = leaseEpoch ∧
      context.lease.peerSessionEpoch = peerSessionEpoch ∧ peers.readiness handle = some readiness ∧
      readiness.bundleReady = true ∧ readiness.sessionEpoch = peerSessionEpoch ∧
      controller.nowMs clock < context.lease.expiresAtMs ∧ controller.nowMs clock < grant.expiresAtMs := by
  simp only [Switch.harmless, stands, Bool.or_eq_true, Option.isNone_iff_eq_none, reduceCtorEq,
    or_false] at harmless
  refine harmless.imp_right fun admitted => ?_
  unfold Switch.admits at admitted
  split at admitted
  · rename_i armed grant controller state present
    obtain rfl : armed = context := by simpa [BundleLeaseManager.context, state] using stands
    obtain ⟨free, own, epoch, session, ready, early, early'⟩ := of_decide_eq_true admitted
    obtain ⟨readiness, known, ready⟩ := Option.any_eq_true _ _ |>.mp ready
    obtain ⟨ready, same⟩ := of_decide_eq_true ready
    exact ⟨grant, controller, readiness, state, present, free, own, epoch, session, known, ready, same,
      early, early'⟩
  · cases admitted

/-- After a commit was decided. -/
def Decided (past : List SwitchAct) (handle : CaptureHandle) (leaseEpoch : UInt64) (s : SwitchScene) :
    Bool → Prop
  | true => Safe past s ∧ s.switch.bundleLease.Owns handle leaseEpoch
  | false => Safe past s

theorem commitSwitch_spec (past : List SwitchAct) (context : GateContext) (grant : GrantIdentity)
    (handle : CaptureHandle) (leaseEpoch : UInt64) :
    ⦃fun s => ⌜Covered past s ∧ s.switch.bundleLease.context = some context ∧
      s.switch.bundleLease.Owns handle leaseEpoch ∧
      (s.switch.activeSwitchCapture = none ∨ s.switch.switchTask = none)⌝⦄
    commitSwitch context grant
    ⦃post⟨fun authorized s => ⌜Decided past handle leaseEpoch s authorized⌝, fun _ _ => ⌜True⌝⟩⦄ := by
  have reset := resetSwitchDeadline_holding past (P := fun s => s.bundleLease.context = some context ∧
    s.bundleLease.Owns handle leaseEpoch ∧ (s.activeSwitchCapture = none ∨ s.switchTask = none))
    fun _ _ holds => holds
  mvcgen [commitSwitch, startCommitTask, startTask, beginSwitchTask, deferFailure_safe, reset]
  · rename_i covered
    exact ⟨Covered.record covered.1 _, covered.2⟩
  · rename_i holding missing _
    obtain ⟨controller, present, -⟩ := holding.safe.aimed _ holding.holds.1
    simp [present] at missing
  · rename_i s holding _ _ busy _
    have standing : Standing past context s := ⟨holding.safe, holding.holds.1⟩
    refine ⟨standing.fails, holding.holds.2.2.resolve_right ?_⟩
    exact Option.isSome_iff_ne_none.mp busy
  · rename_i holding _ _ _ epoch _ _
    have retasked := Secure.append (Secure.retask holding.safe none epoch)
      [.spawn epoch (.commit context grant)]
    exact ⟨by simpa [Safe] using Secure.retask retasked _ epoch, holding.holds.2.1⟩

theorem authorizeClientEnter_spec (past : List SwitchAct) (peers : Peers) (handle : CaptureHandle)
    (leaseEpoch peerSessionEpoch : UInt64) :
    ⦃fun s => ⌜Safe past s ∧
      s.switch.harmless peers s.waited.clock handle leaseEpoch peerSessionEpoch = true⌝⦄
    authorizeClientEnter peers handle leaseEpoch peerSessionEpoch
    ⦃post⟨fun authorized s => ⌜Decided past handle leaseEpoch s authorized⌝, fun _ _ => ⌜True⌝⟩⦄ := by
  mvcgen [authorizeClientEnter, controllerNowMs, deferFailure_safe, commitSwitch_spec]
  · rename_i safe _
    exact safe.1
  · rename_i safe context stands stale
    refine ⟨(own safe.1 stands).fails, (passes_of_harmless safe.2 stands).resolve_right ?_⟩
    rintro ⟨-, -, -, -, -, -, same, epoch, session, -⟩
    simp [same, epoch, session] at stale
  · rename_i safe context stands _ missing
    refine ⟨(own safe.1 stands).fails, (passes_of_harmless safe.2 stands).resolve_right ?_⟩
    rintro ⟨-, -, _, -, -, -, -, -, -, known, -⟩
    cases missing.symm.trans known
  · rename_i safe context stands _ _ _ missing _ _
    obtain ⟨controller, present, -⟩ := safe.1.aimed _ stands
    cases missing.symm.trans present
  · rename_i safe context stands _ _ _ missing _ _ _
    obtain ⟨controller, present, -⟩ := safe.1.aimed _ stands
    cases missing.symm.trans present
  · rename_i s safe context stands _ readiness known controller present _ refused
    have now : Current past context s.waited := own safe.1 stands
    have failing := now.refused (commit_error (Prod.ext refused rfl))
    refine ⟨failing, (passes_of_harmless safe.2 stands).resolve_right ?_⟩
    rintro ⟨grant, _, _, armed, found, -, same, epoch, session, reported, ready, fresh, early, early'⟩
    obtain rfl := Option.some.inj (present.symm.trans found)
    obtain rfl := Option.some.inj (known.symm.trans reported)
    simp [commit, armed, same, epoch, session, ready, fresh, early.not_ge,
      early'.not_ge] at refused
  · rename_i s safe _ stands _ _ _ _ _ _ _ accepted
    have covered : Covered past s.waited := safe.1.toSheltered
    obtain ⟨covered, stands', owns⟩ := covered.committed (Prod.ext accepted rfl)
    refine ⟨covered, stands', owns, ?_⟩
    refine (passes_of_harmless safe.2 stands).imp_right ?_
    rintro ⟨-, -, -, -, -, free, -⟩
    exact free

theorem Decided.taken {leaseEpoch : UInt64} (decided : Decided past handle leaseEpoch s true) :
    Safe past ((s.withSwitch { s.switch with activeSwitchCapture := some (handle, leaseEpoch) }).record
      (.decided handle leaseEpoch true)) where
  captured _ _ taken := by
    obtain ⟨rfl, rfl⟩ := Prod.mk.inj (Option.some.inj taken)
    exact .inl decided.2
  decided _ _ taken := by
    obtain ⟨rfl, rfl⟩ := Prod.mk.inj (Option.some.inj taken)
    simp
  aimed := decided.1.aimed
  timed := decided.1.timed

theorem handleCommitRequested_safe (past : List SwitchAct) (peers : Peers) (handle : CaptureHandle)
    (leaseEpoch peerSessionEpoch : UInt64) (decisionOpen : Bool) :
    Yields (fun s => Safe past s ∧
        s.switch.harmless peers s.waited.clock handle leaseEpoch peerSessionEpoch = true) (Safe past)
      (handleCommitRequested peers handle leaseEpoch peerSessionEpoch decisionOpen) := by
  have decided := authorizeClientEnter_spec past peers handle leaseEpoch peerSessionEpoch
  mvcgen [handleCommitRequested, decided, failContext_safe]
  · rename_i authorized _ decided _ _
    subst authorized
    exact decided.taken
  · rename_i authorized _ decided _ _ stands
    subst authorized
    exact (own decided.taken stands).fails
  · rename_i authorized _ decided _
    subst authorized
    exact decided.taken
  · rename_i refused _ _ authorized _
    exact absurd authorized.2 refused
  · rename_i refused _ _ authorized _ _
    exact absurd authorized.2 refused
  rename_i refused _ decided _
  rw [Bool.not_eq_true] at refused
  subst refused
  exact Safe.record decided _

end Switch

end Handlers

end DisplayMux.LanMouse
