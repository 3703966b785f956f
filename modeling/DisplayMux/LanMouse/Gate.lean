import DisplayMux.LanMouse.Capture

/-! The capture gate over a whole history of calls. What it holds is decided by the last
call that armed it and by what came after that call. -/
namespace DisplayMux.LanMouse

open CaptureGate

inductive GateCall where
  | arm (handle : CaptureHandle) (leaseEpoch peerSessionEpoch : UInt64) (validFor : Nat)
  | consume (handle : CaptureHandle)
  | disarm (leaseEpoch : UInt64)
  | remove (handle : CaptureHandle)
  | clear
  deriving DecidableEq, Repr

inductive GateReply where
  | armed (ok : Bool)
  | permit (permit : Option CapturePermit)
  | done
  deriving DecidableEq, Repr

def CaptureGate.call (g : CaptureGate) (now : Nat) : GateCall → CaptureGate × GateReply
  | .arm handle leaseEpoch peerSessionEpoch validFor =>
    let (g, ok) := g.arm handle leaseEpoch peerSessionEpoch validFor now
    (g, .armed ok)
  | .consume handle =>
    let (permit, g) := g.consume handle now
    (g, .permit permit)
  | .disarm leaseEpoch => (g.disarm leaseEpoch, .done)
  | .remove handle => (g.remove handle, .done)
  | .clear => (g.clear, .done)

structure TimedGate where
  clock : Nat
  gate : CaptureGate
  deriving DecidableEq, Repr

/-- Each call comes with the time at which it is made, and time does not go back. -/
def captureGate : Machine TimedGate (Nat × GateCall) GateReply where
  step s i :=
    if s.clock ≤ i.1 then
      let (gate, reply) := s.gate.call i.1 i.2
      some (⟨i.1, gate⟩, reply)
    else none

abbrev GateEntry := Entry TimedGate (Nat × GateCall) GateReply

def Arms (permit : CapturePermit) (e : GateEntry) : Prop :=
  ∃ validFor, e.input.2 = .arm permit.handle permit.leaseEpoch permit.peerSessionEpoch validFor ∧
    permit.expiresAt = e.input.1 + validFor ∧ e.output = .armed true

/-- The call leaves a permit armed: it neither arms the gate, nor takes a permit out of it,
nor finds this one expired, nor withdraws it. -/
def Spares (permit : CapturePermit) (e : GateEntry) : Prop :=
  match e.input.2 with
  | .arm .. => e.output = .armed false
  | .consume _ => e.output = .permit none ∧ e.input.1 < permit.expiresAt
  | .disarm leaseEpoch => leaseEpoch ≠ permit.leaseEpoch
  | .remove handle => handle ≠ permit.handle
  | .clear => False

def GateReply.permit? : GateReply → Option CapturePermit
  | .permit taken => taken
  | .armed _ | .done => none

def returned (trace : List GateEntry) : List CapturePermit := trace.filterMap (·.output.permit?)

structure PermitLaw (trace : List GateEntry) : Prop where
  permit_iff : ∀ before e after handle, trace = before ++ e :: after → e.input.2 = .consume handle →
    ∀ permit, e.output = .permit (some permit) ↔
      permit.handle = handle ∧ e.input.1 < permit.expiresAt ∧
        Since (fun _ x => Arms permit x) (Spares permit) before
  increasing : (returned trace).Pairwise (·.leaseEpoch < ·.leaseEpoch)
  stale : ∀ before e after handle leaseEpoch peerSessionEpoch validFor, trace = before ++ e :: after →
    e.input.2 = .arm handle leaseEpoch peerSessionEpoch validFor →
    (∃ x ∈ before, ∃ earlier, Arms earlier x ∧ leaseEpoch ≤ earlier.leaseEpoch) →
      e.output = .armed false ∧ e.post.gate = e.pre.gate

namespace CaptureGate

variable {g : CaptureGate} {permit : CapturePermit}

section

variable (handle : CaptureHandle)

theorem arm_armed (leaseEpoch peerSessionEpoch : UInt64) (validFor now : Nat) :
    (g.arm handle leaseEpoch peerSessionEpoch validFor now).1.armed = some permit ↔
      (g.arm handle leaseEpoch peerSessionEpoch validFor now).2 = true ∧
          permit = ⟨handle, leaseEpoch, peerSessionEpoch, now + validFor⟩ ∨
        g.armed = some permit ∧ (g.arm handle leaseEpoch peerSessionEpoch validFor now).2 = false := by
  unfold arm
  split
  · simp [eq_comm]
  · simp

theorem consume_eq_some (now : Nat) : (g.consume handle now).1 = some permit ↔
      g.armed = some permit ∧ permit.handle = handle ∧ now < permit.expiresAt := by
  unfold consume
  split
  · rename_i empty
    simp [empty]
  rename_i held is
  split
  · rename_i expired
    simp only [is, Option.some.injEq, reduceCtorEq, false_iff]
    rintro ⟨rfl, -, unexpired⟩
    omega
  rename_i unexpired
  split
  · rename_i other
    simp only [is, Option.some.injEq, reduceCtorEq, false_iff]
    rintro ⟨rfl, same, -⟩
    exact other same
  rename_i same
  simp only [is, Option.some.injEq]
  constructor
  · rintro rfl
    exact ⟨rfl, not_ne_iff.mp same, not_le.mp unexpired⟩
  · exact fun taken => taken.1

theorem consume_armed (now : Nat) : (g.consume handle now).2.armed = some permit ↔
      g.armed = some permit ∧ (g.consume handle now).1 = none ∧ now < permit.expiresAt := by
  unfold consume
  split
  · rename_i empty
    simp [empty]
  rename_i held is
  split
  · rename_i expired
    simp only [clear, is, Option.some.injEq, reduceCtorEq, false_iff]
    rintro ⟨rfl, -, unexpired⟩
    omega
  rename_i unexpired
  split
  · simp only [is, Option.some.injEq, true_and, iff_self_and]
    rintro rfl
    exact not_le.mp unexpired
  · simp [clear]

theorem clear_armed {α : Type} [DecidableEq α] (key : CapturePermit → α) (value : α) :
    (if g.armed.any (key · = value) then g.clear else g).armed = some permit ↔
      g.armed = some permit ∧ value ≠ key permit := by
  cases held : g.armed with
  | none => simp [held]
  | some held' =>
    by_cases same : key held' = value
    · simp only [Option.any_some, same, decide_true, if_true, clear, reduceCtorEq, false_iff,
        Option.some.injEq]
      rintro ⟨rfl, other⟩
      exact other same.symm
    · simp only [Option.any_some, same, decide_false, Bool.false_eq_true, if_false, held,
        Option.some.injEq, iff_self_and]
      rintro rfl
      exact Ne.symm same

theorem disarm_armed (leaseEpoch : UInt64) :
    (g.disarm leaseEpoch).armed = some permit ↔ g.armed = some permit ∧ leaseEpoch ≠ permit.leaseEpoch :=
  clear_armed CapturePermit.leaseEpoch leaseEpoch

theorem remove_armed :
    (g.remove handle).armed = some permit ↔ g.armed = some permit ∧ handle ≠ permit.handle :=
  clear_armed CapturePermit.handle handle

end

end CaptureGate

section Step

variable {s s' : TimedGate} {now : Nat} {call : GateCall} {reply : GateReply} {permit : CapturePermit}

section

variable (step : captureGate.step s (now, call) = some (s', reply))
include step

theorem captureGate_step : s'.gate = (s.gate.call now call).1 ∧ reply = (s.gate.call now call).2 := by
  simp only [captureGate] at step
  split at step
  · cases step
    exact ⟨rfl, rfl⟩
  · cases step

theorem armed_step : s'.gate.armed = some permit ↔ Arms permit ⟨s, (now, call), reply, s'⟩ ∨
        s.gate.armed = some permit ∧ Spares permit ⟨s, (now, call), reply, s'⟩ := by
  obtain ⟨after, rfl⟩ := captureGate_step step
  simp only [Arms, Spares, after]
  cases call with
  | arm handle leaseEpoch peerSessionEpoch validFor =>
    simp only [call, arm_armed, GateReply.armed.injEq, GateCall.arm.injEq]
    refine or_congr_left ?_
    constructor
    · rintro ⟨ok, rfl⟩
      exact ⟨validFor, ⟨rfl, rfl, rfl, rfl⟩, rfl, ok⟩
    · rintro ⟨_, ⟨rfl, rfl, rfl, rfl⟩, expires, ok⟩
      exact ⟨ok, by rw [← expires]⟩
  | consume handle => simp [call, consume_armed]
  | disarm leaseEpoch => simp [call, disarm_armed]
  | remove handle => simp [call, remove_armed]
  | clear => simp [call, clear]

theorem lastEpoch_step :
    (∃ permit, Arms permit ⟨s, (now, call), reply, s'⟩ ∧ s.gate.lastEpoch < permit.leaseEpoch ∧
        s'.gate.lastEpoch = permit.leaseEpoch) ∨
      (∀ permit, ¬ Arms permit ⟨s, (now, call), reply, s'⟩) ∧ s'.gate.lastEpoch = s.gate.lastEpoch := by
  obtain ⟨after, rfl⟩ := captureGate_step step
  simp only [Arms, after]
  cases call with
  | arm handle leaseEpoch peerSessionEpoch validFor =>
    simp only [call, arm]
    split
    · rename_i fresh
      exact .inl ⟨⟨handle, leaseEpoch, peerSessionEpoch, now + validFor⟩, ⟨validFor, rfl, rfl, rfl⟩,
        fresh.1, rfl⟩
    · exact .inr ⟨by simp, rfl⟩
  | consume handle =>
    refine .inr ⟨by simp, ?_⟩
    simp only [call, consume]
    (repeat' split) <;> rfl
  | disarm leaseEpoch =>
    refine .inr ⟨by simp, ?_⟩
    simp only [call, disarm]
    split <;> rfl
  | remove handle =>
    refine .inr ⟨by simp, ?_⟩
    simp only [call, remove]
    split <;> rfl
  | clear => exact .inr ⟨by simp, rfl⟩

end

theorem stale_arm_step {handle : CaptureHandle} {leaseEpoch peerSessionEpoch : UInt64} {validFor : Nat}
    (step : captureGate.step s (now, .arm handle leaseEpoch peerSessionEpoch validFor) = some (s', reply))
    (stale : leaseEpoch ≤ s.gate.lastEpoch) : reply = .armed false ∧ s'.gate = s.gate := by
  obtain ⟨after, rfl⟩ := captureGate_step step
  have old : ¬(s.gate.lastEpoch < leaseEpoch ∧ now + validFor ≤ instantMax) :=
    fun fresh => UInt64.not_lt.mpr stale fresh.1
  simp [after, call, arm, old]

theorem permit_step {handle : CaptureHandle}
    (step : captureGate.step s (now, .consume handle) = some (s', reply)) :
    reply = .permit (some permit) ↔
      s.gate.armed = some permit ∧ permit.handle = handle ∧ now < permit.expiresAt := by
  obtain ⟨-, rfl⟩ := captureGate_step step
  simp [call, consume_eq_some]

end Step

structure GateHistory (trace : List GateEntry) (g : CaptureGate) : Prop where
  armed_iff : ∀ permit, g.armed = some permit ↔ Since (fun _ x => Arms permit x) (Spares permit) trace
  armed_le : ∀ permit, g.armed = some permit → permit.leaseEpoch ≤ g.lastEpoch
  earlier_le : ∀ x ∈ trace, ∀ permit, Arms permit x → permit.leaseEpoch ≤ g.lastEpoch
  returned_le : ∀ permit ∈ returned trace, permit.leaseEpoch ≤ g.lastEpoch
  returned_lt : ∀ permit ∈ returned trace, ∀ held, g.armed = some held → permit.leaseEpoch < held.leaseEpoch
  increasing : (returned trace).Pairwise (·.leaseEpoch < ·.leaseEpoch)

section History

variable {trace : List GateEntry} {s s' : TimedGate} {now : Nat} {call : GateCall} {reply : GateReply}

theorem taken_step {permit : CapturePermit} (step : captureGate.step s (now, call) = some (s', reply))
    (taken : reply.permit? = some permit) : s.gate.armed = some permit ∧ s'.gate.armed = none := by
  cases call with
  | consume handle =>
    obtain ⟨after, rfl⟩ := captureGate_step step
    have taken : (s.gate.consume handle now).1 = some permit := taken
    refine ⟨((consume_eq_some handle now).mp taken).1, ?_⟩
    refine Option.eq_none_iff_forall_ne_some.mpr fun other kept => ?_
    rw [after] at kept
    have refused := ((consume_armed handle now).mp kept).2.1
    rw [taken] at refused
    cases refused
  | arm | disarm | remove | clear =>
    obtain ⟨-, rfl⟩ := captureGate_step step
    cases taken

theorem returned_snoc (e : GateEntry) :
    returned (trace ++ [e]) = returned trace ++ e.output.permit?.toList := by
  rw [returned, List.filterMap_append, List.filterMap_cons, List.filterMap_nil]
  cases e.output.permit? <;> rfl

section

variable (history : GateHistory trace s.gate) (step : captureGate.step s (now, call) = some (s', reply))
include history step

theorem GateHistory.armed_iff_step (permit : CapturePermit) : s'.gate.armed = some permit ↔
      Since (fun _ x => Arms permit x) (Spares permit) (trace ++ [⟨s, (now, call), reply, s'⟩]) := by
  rw [armed_step step, history.armed_iff]
  constructor
  · rintro (armed | ⟨since, spared⟩)
    · exact .now armed
    · exact since.later spared
  · exact Since.of_snoc

theorem GateHistory.arms {permit : CapturePermit}
    (arms : Arms permit ⟨s, (now, call), reply, s'⟩) (fresh : s.gate.lastEpoch < permit.leaseEpoch)
    (last : s'.gate.lastEpoch = permit.leaseEpoch) :
    GateHistory (trace ++ [⟨s, (now, call), reply, s'⟩]) s'.gate := by
  have armed : s'.gate.armed = some permit := (armed_step step).mpr (.inl arms)
  have quiet : returned (trace ++ [⟨s, (now, call), reply, s'⟩]) = returned trace := by
    obtain ⟨_, -, -, rfl⟩ := arms
    rw [returned_snoc]
    exact List.append_nil _
  refine ⟨history.armed_iff_step step, ?_, ?_, ?_, ?_, quiet ▸ history.increasing⟩
  · intro held is
    rw [Option.some.inj (is.symm.trans armed), last]
    exact UInt64.le_refl _
  · intro x member earlier arms'
    rw [last]
    rcases List.mem_append.mp member with old | new
    · exact UInt64.le_of_lt (UInt64.lt_of_le_of_lt (history.earlier_le x old earlier arms') fresh)
    · rw [List.mem_singleton.mp new] at arms'
      have same : s'.gate.armed = some earlier := (armed_step step).mpr (.inl arms')
      rw [Option.some.inj (same.symm.trans armed)]
      exact UInt64.le_refl _
  · intro earlier member
    rw [quiet] at member
    rw [last]
    exact UInt64.le_of_lt (UInt64.lt_of_le_of_lt (history.returned_le earlier member) fresh)
  · intro earlier member held is
    rw [quiet] at member
    rw [Option.some.inj (is.symm.trans armed)]
    exact UInt64.lt_of_le_of_lt (history.returned_le earlier member) fresh

theorem GateHistory.keeps (quiet : ∀ permit, ¬ Arms permit ⟨s, (now, call), reply, s'⟩)
    (last : s'.gate.lastEpoch = s.gate.lastEpoch) :
    GateHistory (trace ++ [⟨s, (now, call), reply, s'⟩]) s'.gate := by
  have held (permit : CapturePermit) (is : s'.gate.armed = some permit) : s.gate.armed = some permit :=
    (((armed_step step).mp is).resolve_left (quiet permit)).1
  have member_returned (permit : CapturePermit)
      (member : permit ∈ returned (trace ++ [⟨s, (now, call), reply, s'⟩])) :
      permit ∈ returned trace ∨ s.gate.armed = some permit ∧ s'.gate.armed = none := by
    rw [returned_snoc] at member
    rcases List.mem_append.mp member with old | new
    · exact .inl old
    · exact .inr (taken_step step (Option.mem_toList.mp new))
  refine ⟨history.armed_iff_step step, ?_, ?_, ?_, ?_, ?_⟩
  · intro permit is
    rw [last]
    exact history.armed_le permit (held permit is)
  · intro x member permit arms
    rw [last]
    rcases List.mem_append.mp member with old | new
    · exact history.earlier_le x old permit arms
    · exact absurd (List.mem_singleton.mp new ▸ arms) (quiet permit)
  · intro permit member
    rw [last]
    rcases member_returned permit member with old | ⟨was, -⟩
    · exact history.returned_le permit old
    · exact history.armed_le permit was
  · intro permit member other is
    rcases member_returned permit member with old | ⟨-, gone⟩
    · exact history.returned_lt permit old other (held other is)
    · exact absurd (gone.symm.trans is) nofun
  rw [returned_snoc]
  refine List.pairwise_append.mpr ⟨history.increasing, ?_, ?_⟩
  · cases reply.permit? <;> simp
  · intro earlier old permit new
    exact history.returned_lt earlier old permit (taken_step step (Option.mem_toList.mp new)).1

end

theorem gateHistory_of_run {start : Nat} (run : Run captureGate ⟨start, .new⟩ trace s) :
    GateHistory trace s.gate := by
  refine run.history (P := fun trace s => GateHistory trace s.gate) ?_ ?_
  · refine ⟨?_, nofun, nofun, nofun, nofun, .nil⟩
    simp [new, Since]
  · rintro trace s ⟨now, call⟩ s' reply - history step
    rcases lastEpoch_step step with ⟨permit, arms, fresh, last⟩ | ⟨quiet, last⟩
    · exact history.arms step arms fresh last
    · exact history.keeps step quiet last

end History

/-- A permit is returned exactly to the handle that the gate was last armed for, while it is
unexpired and nothing has used or withdrawn it; epochs are returned in ascending order, and an
old epoch cannot arm the gate again. -/
theorem capture_permits_one_shot {start : Nat} {trace : List GateEntry} {s : TimedGate}
    (run : Run captureGate ⟨start, .new⟩ trace s) : PermitLaw trace where
  permit_iff := by
    rintro before ⟨s, ⟨now, call⟩, reply, s'⟩ after handle here rfl permit
    obtain ⟨earlier, step, -⟩ := run.split here
    rw [permit_step step, (gateHistory_of_run earlier).armed_iff]
    exact ⟨fun ⟨since, same, unexpired⟩ => ⟨same, unexpired, since⟩,
      fun ⟨same, unexpired, since⟩ => ⟨since, same, unexpired⟩⟩
  increasing := (gateHistory_of_run run).increasing
  stale := by
    rintro before ⟨s, ⟨now, call⟩, reply, s'⟩ after handle leaseEpoch peerSessionEpoch validFor here rfl
      ⟨x, member, permit, arms, old⟩
    obtain ⟨earlier, step, -⟩ := run.split here
    exact stale_arm_step step
      (UInt64.le_trans old ((gateHistory_of_run earlier).earlier_le x member permit arms))

/-- An arm that comes too late changes nothing, and each permit is returned once. -/
theorem capture_permits_returned_once : ∃ trace s, Run captureGate ⟨0, .new⟩ trace s ∧ PermitLaw trace ∧
    (returned trace).map (·.leaseEpoch) = [8, 9] :=
  captureGate.exists_lawful ⟨0, .new⟩
    [(1, .arm 4 8 22 10), (2, .arm 5 7 31 10), (2, .disarm 7), (3, .consume 5), (3, .consume 4),
      (4, .consume 4), (5, .arm 4 9 22 10), (6, .consume 4)] _
    capture_permits_one_shot (by decide)

end DisplayMux.LanMouse
