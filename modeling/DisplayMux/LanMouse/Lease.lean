import Mathlib.Order.MinMax
import DisplayMux.Lib.Machine
import DisplayMux.Lib.Saturating
import DisplayMux.LanMouse.Event

/-! The hub's lease on the input bundle. A switch reserves the bundle, arms the grant
of the controller, commits, and is renewed until it expires or is invalidated. Times
are milliseconds of the hub's clock. -/
namespace DisplayMux.LanMouse

inductive SwitchHost where
  | controller | right | left
  deriving DecidableEq, Repr

structure LeaseIdentity where
  requestId : String
  leaseId : String
  leaseEpoch : UInt64
  peerSessionEpoch : UInt64
  expiresAtMs : Nat
  deriving DecidableEq, Repr

structure GrantIdentity where
  requestEpoch : UInt64
  grantEpoch : UInt64
  expiresAtMs : Nat
  deriving DecidableEq, Repr

structure GateContext where
  handle : CaptureHandle
  target : SwitchHost
  lease : LeaseIdentity
  deriving DecidableEq, Repr

namespace GateContext

def expiringAt (c : GateContext) (expiresAtMs : Nat) : GateContext :=
  { c with lease := { c.lease with expiresAtMs } }

/-- Everything but the expiry. -/
def sameIdentity (c other : GateContext) : Bool :=
  c.handle = other.handle ∧ c.target = other.target ∧
    c.lease.requestId = other.lease.requestId ∧ c.lease.leaseId = other.lease.leaseId ∧
    c.lease.leaseEpoch = other.lease.leaseEpoch ∧
    c.lease.peerSessionEpoch = other.lease.peerSessionEpoch

section

variable (c : GateContext) (t : Nat)

@[simp] theorem expiringAt_handle : (c.expiringAt t).handle = c.handle := rfl

@[simp] theorem expiringAt_leaseEpoch : (c.expiringAt t).lease.leaseEpoch = c.lease.leaseEpoch := rfl

@[simp] theorem expiringAt_peerSessionEpoch :
    (c.expiringAt t).lease.peerSessionEpoch = c.lease.peerSessionEpoch := rfl

@[simp] theorem expiringAt_expiresAtMs : (c.expiringAt t).lease.expiresAtMs = t := rfl

theorem expiringAt_sameIdentity : (c.expiringAt t).sameIdentity c = true := by
  simp [sameIdentity, expiringAt]

end

end GateContext

inductive BundleGateState where
  | localState
  | preparing (context : GateContext)
  | grantArmed (context : GateContext) (grant : GrantIdentity)
  | remoteOwned (context : GateContext) (grant : GrantIdentity) (renewedUntilMs : Nat)
  deriving DecidableEq, Repr

inductive GateError where
  | busy | peerNotReady | invalidIdentity | staleIdentity | expired | invalidState
  deriving DecidableEq, Repr

def BundleGateState.isRemoteOwned : BundleGateState → Bool
  | .remoteOwned _ _ _ => true
  | _ => false

structure BundleLeaseManager where
  state : BundleGateState
  nextLeaseEpoch : UInt64
  deriving DecidableEq, Repr

variable {grant : GrantIdentity}

namespace BundleLeaseManager

def new : BundleLeaseManager := ⟨.localState, 0⟩

def context (m : BundleLeaseManager) : Option GateContext :=
  match m.state with
  | .localState => none
  | .preparing context | .grantArmed context _ | .remoteOwned context _ _ => some context

def dropped (m : BundleLeaseManager) : BundleLeaseManager := { m with state := .localState }

@[simp] theorem dropped_state (m : BundleLeaseManager) : m.dropped.state = .localState := rfl

@[simp] theorem dropped_nextLeaseEpoch (m : BundleLeaseManager) :
    m.dropped.nextLeaseEpoch = m.nextLeaseEpoch := rfl

def reserve (m : BundleLeaseManager) (handle : CaptureHandle) (target : SwitchHost)
    (requestId leaseId : String) (peerSessionEpoch : UInt64) (peerBundleReady : Bool)
    (nowMs leaseTtlMs : Nat) : Except GateError GateContext × BundleLeaseManager :=
  if m.state ≠ .localState then (.error .busy, m)
  else if peerBundleReady = false ∨ peerSessionEpoch = 0 then (.error .peerNotReady, m)
  else if requestId = "" ∨ leaseId = "" ∨ leaseTtlMs = 0 then (.error .invalidIdentity, m)
  else match checkedAdd nowMs leaseTtlMs, checkedAdd m.nextLeaseEpoch.toNat 1 with
    | some expiresAtMs, some epoch =>
      let leaseEpoch := UInt64.ofNat epoch
      let context := ⟨handle, target, requestId, leaseId, leaseEpoch, peerSessionEpoch, expiresAtMs⟩
      (.ok context, ⟨.preparing context, leaseEpoch⟩)
    | _, _ => (.error .invalidIdentity, m)

def armGrant (m : BundleLeaseManager) (context : GateContext) (requestEpoch grantEpoch : UInt64)
    (leaseExpiresAtMs grantExpiresAtMs : Nat) (peerBundleReady : Bool) (peerSessionEpoch : UInt64)
    (nowMs : Nat) : Except GateError (GateContext × GrantIdentity) × BundleLeaseManager :=
  match m.state with
  | .preparing current =>
    if current ≠ context then (.error .staleIdentity, m)
    else if peerBundleReady = false ∨ current.lease.peerSessionEpoch ≠ peerSessionEpoch then
      (.error .peerNotReady, m.dropped)
    else if current.lease.expiresAtMs ≤ nowMs ∨ leaseExpiresAtMs ≤ nowMs ∨
        grantExpiresAtMs ≤ nowMs then (.error .expired, m.dropped)
    else if requestEpoch = 0 ∨ grantEpoch = 0 then (.error .invalidIdentity, m)
    else
      let grant := ⟨requestEpoch, grantEpoch, grantExpiresAtMs⟩
      let context := current.expiringAt (min current.lease.expiresAtMs leaseExpiresAtMs)
      (.ok (context, grant), { m with state := .grantArmed context grant })
  | _ => (.error .invalidState, m)

def commit (m : BundleLeaseManager) (handle : CaptureHandle) (leaseEpoch : UInt64)
    (peerBundleReady : Bool) (peerSessionEpoch : UInt64) (nowMs : Nat) :
    Except GateError (GateContext × GrantIdentity) × BundleLeaseManager :=
  match m.state with
  | .grantArmed context grant =>
    if context.handle ≠ handle ∨ context.lease.leaseEpoch ≠ leaseEpoch then
      (.error .staleIdentity, m)
    else if peerBundleReady = false ∨ context.lease.peerSessionEpoch ≠ peerSessionEpoch then
      (.error .peerNotReady, m.dropped)
    else if context.lease.expiresAtMs ≤ nowMs ∨ grant.expiresAtMs ≤ nowMs then
      (.error .expired, m.dropped)
    else
      (.ok (context, grant), { m with
        state := .remoteOwned context grant (min context.lease.expiresAtMs grant.expiresAtMs) })
  | _ => (.error .invalidState, m)

def renew (m : BundleLeaseManager) (requestId : String) (renewedUntilMs : Nat)
    (peerBundleReady : Bool) (peerSessionEpoch : UInt64) (nowMs : Nat) :
    Except GateError Unit × BundleLeaseManager :=
  match m.state with
  | .remoteOwned context grant _ =>
    if context.lease.requestId ≠ requestId then (.error .staleIdentity, m)
    else if peerBundleReady = false ∨ context.lease.peerSessionEpoch ≠ peerSessionEpoch then
      (.error .peerNotReady, m.dropped)
    else if context.lease.expiresAtMs ≤ nowMs ∨ renewedUntilMs ≤ nowMs then
      (.error .expired, m.dropped)
    else
      (.ok (), { m with
        state := .remoteOwned (context.expiringAt renewedUntilMs) grant renewedUntilMs })
  | _ => (.error .invalidState, m)

def invalidate (m : BundleLeaseManager) : Option GateContext × BundleLeaseManager :=
  (m.context, m.dropped)

def expire (m : BundleLeaseManager) (nowMs : Nat) : Option GateContext × BundleLeaseManager :=
  let expired : Bool := match m.state with
    | .localState => false
    | .preparing context => context.lease.expiresAtMs ≤ nowMs
    | .grantArmed context grant => context.lease.expiresAtMs ≤ nowMs ∨ grant.expiresAtMs ≤ nowMs
    | .remoteOwned context _ renewedUntilMs =>
      context.lease.expiresAtMs ≤ nowMs ∨ renewedUntilMs ≤ nowMs
  if expired then m.invalidate else (none, m)

def deadlineMs (m : BundleLeaseManager) : Option Nat :=
  match m.state with
  | .localState => none
  | .preparing context => some context.lease.expiresAtMs
  | .grantArmed context grant => some (min context.lease.expiresAtMs grant.expiresAtMs)
  | .remoteOwned context _ renewedUntilMs => some (min context.lease.expiresAtMs renewedUntilMs)

variable {m m' : BundleLeaseManager} {error : GateError}

theorem context_eq_none : m.context = none ↔ m.state = .localState := by
  unfold context
  cases m.state <;> simp

theorem deadlineMs_eq_none : m.deadlineMs = none ↔ m.state = .localState := by
  unfold deadlineMs
  cases m.state <;> simp

variable {peerSessionEpoch : UInt64} {peerBundleReady : Bool} {handle : CaptureHandle} {nowMs : Nat}
  {context : GateContext} {requestId leaseId : String} {nowMs leaseTtlMs : Nat}
  {target : SwitchHost}

theorem reserve_ok
    (reserved : m.reserve handle target requestId leaseId peerSessionEpoch peerBundleReady nowMs
      leaseTtlMs = (.ok context, m')) :
    m.state = .localState ∧ m' = ⟨.preparing context, context.lease.leaseEpoch⟩ ∧
      context = ⟨handle, target, requestId, leaseId, context.lease.leaseEpoch, peerSessionEpoch,
        nowMs + leaseTtlMs⟩ ∧
      context.lease.leaseEpoch.toNat = m.nextLeaseEpoch.toNat + 1 ∧ peerBundleReady = true ∧
      0 < leaseTtlMs := by
  unfold reserve at reserved
  split at reserved
  · simp at reserved
  rename_i free
  split at reserved
  · simp at reserved
  rename_i ready
  split at reserved
  · simp at reserved
  rename_i named
  split at reserved
  · rename_i expiresAtMs epoch expiry next
    obtain ⟨-, rfl⟩ := checkedAdd_eq_some.mp expiry
    obtain ⟨fits, rfl⟩ := checkedAdd_eq_some.mp next
    obtain ⟨rfl, rfl⟩ := reserved
    have small : m.nextLeaseEpoch.toNat + 1 < UInt64.size := by
      simp only [u64Max] at fits
      simp only [UInt64.size]
      omega
    refine ⟨not_not.mp free, rfl, rfl, UInt64.toNat_ofNat_of_lt' small, ?_, ?_⟩
    · simpa using fun h => ready (.inl h)
    · exact Nat.pos_of_ne_zero fun h => named (.inr (.inr h))
  · simp at reserved

/-- What a call that fails with this error makes of the manager. -/
def afterError (m : BundleLeaseManager) : GateError → BundleLeaseManager
  | .peerNotReady | .expired => m.dropped
  | .busy | .staleIdentity | .invalidState | .invalidIdentity => m

theorem afterError_cases (m : BundleLeaseManager) (error : GateError) :
    m.afterError error = m ∨ m.afterError error = m.dropped := by
  cases error <;> simp [afterError]

theorem dropped_of_local (free : m.state = .localState) : m.dropped = m := by
  cases m
  simp_all [dropped]

theorem reserve_error
    (refused : m.reserve handle target requestId leaseId peerSessionEpoch peerBundleReady nowMs
      leaseTtlMs = (.error error, m')) :
    m' = m.afterError error := by
  unfold reserve at refused
  split at refused
  · cases refused; rfl
  rename_i free
  split at refused
  · cases refused
    exact (dropped_of_local (not_not.mp free)).symm
  split at refused
  · cases refused; rfl
  split at refused <;> cases refused
  rfl

theorem reserve_refused
    (refused : m.reserve handle target requestId leaseId peerSessionEpoch peerBundleReady nowMs
      leaseTtlMs = (.error error, m')) : m' = m := by
  unfold reserve at refused
  repeat' split at refused
  all_goals cases refused <;> rfl

theorem armGrant_ok {context armed : GateContext} {requestEpoch grantEpoch : UInt64}
    {leaseExpiresAtMs grantExpiresAtMs : Nat}
    (accepted : m.armGrant context requestEpoch grantEpoch leaseExpiresAtMs grantExpiresAtMs
      peerBundleReady peerSessionEpoch nowMs = (.ok (armed, grant), m')) :
    m.state = .preparing context ∧ m' = { m with state := .grantArmed armed grant } ∧
      armed = context.expiringAt (min context.lease.expiresAtMs leaseExpiresAtMs) ∧
      grant = ⟨requestEpoch, grantEpoch, grantExpiresAtMs⟩ ∧ peerBundleReady = true ∧
      context.lease.peerSessionEpoch = peerSessionEpoch ∧
      nowMs < context.lease.expiresAtMs ∧ nowMs < leaseExpiresAtMs ∧ nowMs < grantExpiresAtMs := by
  unfold armGrant at accepted
  split at accepted
  · rename_i current preparing
    split at accepted
    · simp at accepted
    rename_i same
    obtain rfl := not_not.mp same
    split at accepted
    · simp at accepted
    rename_i ready
    split at accepted
    · simp at accepted
    rename_i early
    split at accepted
    · simp at accepted
    cases accepted
    simp only [not_or, Bool.not_eq_false, not_not, Nat.not_le] at ready early
    exact ⟨preparing, rfl, rfl, rfl, ready.1, ready.2, early⟩
  · simp at accepted

theorem armGrant_error {requestEpoch grantEpoch : UInt64} {leaseExpiresAtMs grantExpiresAtMs : Nat}
    (refused : m.armGrant context requestEpoch grantEpoch leaseExpiresAtMs grantExpiresAtMs
      peerBundleReady peerSessionEpoch nowMs = (.error error, m')) :
    m' = m.afterError error := by
  unfold armGrant at refused
  repeat' split at refused
  all_goals cases refused <;> rfl

theorem commit_ok {leaseEpoch : UInt64}
    (committed : m.commit handle leaseEpoch peerBundleReady peerSessionEpoch nowMs =
      (.ok (context, grant), m')) :
    m.state = .grantArmed context grant ∧
      m' = { m with
        state := .remoteOwned context grant (min context.lease.expiresAtMs grant.expiresAtMs) } ∧
      context.handle = handle ∧ context.lease.leaseEpoch = leaseEpoch ∧ peerBundleReady = true ∧
      context.lease.peerSessionEpoch = peerSessionEpoch ∧
      nowMs < context.lease.expiresAtMs ∧ nowMs < grant.expiresAtMs := by
  unfold commit at committed
  split at committed
  · rename_i current currentGrant armed
    split at committed
    · simp at committed
    rename_i same
    split at committed
    · simp at committed
    rename_i ready
    split at committed
    · simp at committed
    rename_i early
    cases committed
    simp only [not_or, Bool.not_eq_false, not_not, Nat.not_le] at same ready early
    exact ⟨armed, rfl, same.1, same.2, ready.1, ready.2, early⟩
  · simp at committed

theorem commit_error {leaseEpoch : UInt64}
    (refused : m.commit handle leaseEpoch peerBundleReady peerSessionEpoch nowMs =
      (.error error, m')) :
    m' = m.afterError error := by
  unfold commit at refused
  repeat' split at refused
  all_goals cases refused <;> rfl

theorem renew_ok {requestId : String} {renewedUntilMs : Nat}
    (renewed : m.renew requestId renewedUntilMs peerBundleReady peerSessionEpoch nowMs =
      (.ok (), m')) :
    ∃ context grant previous, m.state = .remoteOwned context grant previous ∧
      m' = { m with
        state := .remoteOwned (context.expiringAt renewedUntilMs) grant renewedUntilMs } ∧
      context.lease.requestId = requestId ∧ nowMs < context.lease.expiresAtMs ∧
      nowMs < renewedUntilMs := by
  unfold renew at renewed
  split at renewed
  · rename_i context grant previous owned
    split at renewed
    · simp at renewed
    rename_i same
    split at renewed
    · simp at renewed
    split at renewed
    · simp at renewed
    rename_i early
    cases renewed
    simp only [not_or, not_not, Nat.not_le] at same early
    exact ⟨context, grant, previous, owned, rfl, same, early⟩
  · simp at renewed

theorem renew_error {requestId : String} {renewedUntilMs : Nat}
    (refused : m.renew requestId renewedUntilMs peerBundleReady peerSessionEpoch nowMs =
      (.error error, m')) :
    m' = m.afterError error := by
  unfold renew at refused
  repeat' split at refused
  all_goals cases refused <;> rfl

theorem expire_eq (m : BundleLeaseManager) (nowMs : Nat) : m.expire nowMs =
      if m.deadlineMs.any (· ≤ nowMs) then (m.context, m.dropped) else (none, m) := by
  unfold expire deadlineMs invalidate
  cases m.state <;> simp

theorem expire_some (expired : (m.expire nowMs).1 = some context) :
    m.context = some context ∧ (m.expire nowMs).2 = m.dropped := by
  rw [expire_eq] at expired ⊢
  split at expired
  · rename_i due
    exact ⟨expired, by simp [due]⟩
  · contradiction

theorem expire_none (stands : (m.expire nowMs).1 = none) : (m.expire nowMs).2 = m := by
  rw [expire_eq] at stands ⊢
  split at stands
  · rename_i due
    simp only [due, if_true]
    exact dropped_of_local (context_eq_none.mp stands)
  · rename_i early
    simp [early]

end BundleLeaseManager

inductive LeaseCall where
  | reserve (handle : CaptureHandle) (target : SwitchHost) (requestId leaseId : String)
      (peerSessionEpoch : UInt64) (peerBundleReady : Bool) (nowMs leaseTtlMs : Nat)
  | armGrant (context : GateContext) (requestEpoch grantEpoch : UInt64)
      (leaseExpiresAtMs grantExpiresAtMs : Nat) (peerBundleReady : Bool) (peerSessionEpoch : UInt64)
      (nowMs : Nat)
  | commit (handle : CaptureHandle) (leaseEpoch : UInt64) (peerBundleReady : Bool)
      (peerSessionEpoch : UInt64) (nowMs : Nat)
  | renew (requestId : String) (renewedUntilMs : Nat) (peerBundleReady : Bool)
      (peerSessionEpoch : UInt64) (nowMs : Nat)
  | expire (nowMs : Nat)
  | invalidate
  deriving DecidableEq, Repr

inductive LeaseReply where
  | reserved (result : Except GateError GateContext)
  | armed (result : Except GateError (GateContext × GrantIdentity))
  | committed (result : Except GateError (GateContext × GrantIdentity))
  | renewed (result : Except GateError Unit)
  | ended (context : Option GateContext)
  deriving DecidableEq, Repr

def LeaseReply.error? : LeaseReply → Option GateError
  | .reserved (.error e) | .armed (.error e) | .committed (.error e) | .renewed (.error e) => some e
  | _ => none

def LeaseReply.succeeded : LeaseReply → Bool
  | .reserved (.ok _) | .armed (.ok _) | .committed (.ok _) | .renewed (.ok _) => true
  | _ => false

def BundleLeaseManager.answer (m : BundleLeaseManager) : LeaseCall → BundleLeaseManager × LeaseReply
  | .reserve handle target requestId leaseId peerSessionEpoch peerBundleReady nowMs leaseTtlMs =>
    let (result, m') :=
      m.reserve handle target requestId leaseId peerSessionEpoch peerBundleReady nowMs leaseTtlMs
    (m', .reserved result)
  | .armGrant context requestEpoch grantEpoch leaseExpiresAtMs grantExpiresAtMs peerBundleReady
      peerSessionEpoch nowMs =>
    let (result, m') := m.armGrant context requestEpoch grantEpoch leaseExpiresAtMs
      grantExpiresAtMs peerBundleReady peerSessionEpoch nowMs
    (m', .armed result)
  | .commit handle leaseEpoch peerBundleReady peerSessionEpoch nowMs =>
    let (result, m') := m.commit handle leaseEpoch peerBundleReady peerSessionEpoch nowMs
    (m', .committed result)
  | .renew requestId renewedUntilMs peerBundleReady peerSessionEpoch nowMs =>
    let (result, m') := m.renew requestId renewedUntilMs peerBundleReady peerSessionEpoch nowMs
    (m', .renewed result)
  | .expire nowMs =>
    let (ended, m') := m.expire nowMs
    (m', .ended ended)
  | .invalidate =>
    let (ended, m') := m.invalidate
    (m', .ended ended)

def leaseManager : Machine BundleLeaseManager LeaseCall LeaseReply where
  step m call := some (m.answer call)

abbrev LeaseEntry := Entry BundleLeaseManager LeaseCall LeaseReply

open BundleLeaseManager

namespace LeaseEntry

/-- The call reserves the bundle for a ready peer, before the reservation's expiry. -/
def Reserves (e : LeaseEntry) (context : GateContext) : Prop :=
  e.pre.state = .localState ∧ e.post.state = .preparing context ∧
    e.output = .reserved (.ok context) ∧
    ∃ nowMs leaseTtlMs, e.input = .reserve context.handle context.target context.lease.requestId
      context.lease.leaseId context.lease.peerSessionEpoch true nowMs leaseTtlMs ∧
      context.lease.expiresAtMs = nowMs + leaseTtlMs ∧ nowMs < context.lease.expiresAtMs

/-- The call arms a grant for the reservation: the peer is still ready in its session,
and neither the reservation nor the lease and the grant of the controller are over. -/
def Arms (e : LeaseEntry) (context : GateContext) (leaseExpiresAtMs : Nat) (armed : GateContext)
    (grant : GrantIdentity) : Prop :=
  e.pre.state = .preparing context ∧ e.post.state = .grantArmed armed grant ∧
    e.output = .armed (.ok (armed, grant)) ∧
    armed = context.expiringAt (min context.lease.expiresAtMs leaseExpiresAtMs) ∧
    ∃ nowMs, e.input = .armGrant context grant.requestEpoch grant.grantEpoch leaseExpiresAtMs
      grant.expiresAtMs true context.lease.peerSessionEpoch nowMs ∧
      nowMs < context.lease.expiresAtMs ∧ nowMs < leaseExpiresAtMs ∧ nowMs < grant.expiresAtMs

/-- The call commits the armed grant: the peer is still ready in its session, and
neither the lease nor the grant is over. -/
def Commits (e : LeaseEntry) (armed : GateContext) (grant : GrantIdentity) : Prop :=
  e.pre.state = .grantArmed armed grant ∧
    e.post.state = .remoteOwned armed grant (min armed.lease.expiresAtMs grant.expiresAtMs) ∧
    e.output = .committed (.ok (armed, grant)) ∧
    ∃ nowMs, e.input = .commit armed.handle armed.lease.leaseEpoch true armed.lease.peerSessionEpoch
      nowMs ∧ nowMs < armed.lease.expiresAtMs ∧ nowMs < grant.expiresAtMs

inductive Moves (e : LeaseEntry) : Prop where
  | quiet (unmade : e.output.succeeded = false)
      (failed : ∀ error, e.output.error? = some error → e.post = e.pre.afterError error)
      (left : e.post = e.pre ∨ e.post = e.pre.dropped)
  | reserve (context : GateContext) (reserves : e.Reserves context)
      (next : e.post.nextLeaseEpoch = context.lease.leaseEpoch)
      (fresh : context.lease.leaseEpoch.toNat = e.pre.nextLeaseEpoch.toNat + 1)
  | arm (context : GateContext) (leaseExpiresAtMs : Nat) (armed : GateContext)
      (grant : GrantIdentity) (arms : e.Arms context leaseExpiresAtMs armed grant)
      (same : e.post.nextLeaseEpoch = e.pre.nextLeaseEpoch)
  | commit (armed : GateContext) (grant : GrantIdentity) (commits : e.Commits armed grant)
      (same : e.post.nextLeaseEpoch = e.pre.nextLeaseEpoch)
  | renew (context : GateContext) (grant : GrantIdentity) (previous renewedUntilMs : Nat)
      (owned : e.pre.state = .remoteOwned context grant previous)
      (renewed : e.post.state =
        .remoteOwned (context.expiringAt renewedUntilMs) grant renewedUntilMs)
      (replied : e.output = .renewed (.ok ()))
      (same : e.post.nextLeaseEpoch = e.pre.nextLeaseEpoch)

variable {e : LeaseEntry} {armed : GateContext}

theorem Moves.afterError {error : GateError} (unmade : e.output.succeeded = false)
    (failed : e.output.error? = some error) (left : e.post = e.pre.afterError error) : Moves e := by
  refine .quiet unmade ?_ ?_
  · intro error' failed'
    obtain rfl := Option.some.inj (failed.symm.trans failed')
    exact left
  · rw [left]
    exact e.pre.afterError_cases error

theorem moves {m m' : BundleLeaseManager} {call : LeaseCall} {reply : LeaseReply}
    (answered : m.answer call = (m', reply)) : Moves ⟨m, call, reply, m'⟩ := by
  cases call with
  | reserve handle target requestId leaseId peerSessionEpoch peerBundleReady nowMs leaseTtlMs =>
    rcases result : m.reserve handle target requestId leaseId peerSessionEpoch peerBundleReady nowMs
      leaseTtlMs with ⟨error | context, after⟩ <;>
      simp only [answer, result, Prod.mk.injEq] at answered <;>
      obtain ⟨rfl, rfl⟩ := answered
    · exact .afterError rfl rfl (reserve_error result)
    · obtain ⟨free, rfl, shape, fresh, rfl, positive⟩ := reserve_ok result
      refine .reserve context ⟨free, rfl, rfl, nowMs, leaseTtlMs, ?_, ?_, ?_⟩ rfl fresh
      all_goals rw [shape]
      simp
      omega
  | armGrant context requestEpoch grantEpoch leaseExpiresAtMs grantExpiresAtMs peerBundleReady
      peerSessionEpoch nowMs =>
    rcases result : m.armGrant context requestEpoch grantEpoch leaseExpiresAtMs grantExpiresAtMs
      peerBundleReady peerSessionEpoch nowMs with
      ⟨error | ⟨armed, grant⟩, after⟩ <;>
      simp only [answer, result, Prod.mk.injEq] at answered <;>
      obtain ⟨rfl, rfl⟩ := answered
    · exact .afterError rfl rfl (armGrant_error result)
    · obtain ⟨preparing, rfl, shape, rfl, rfl, rfl, early⟩ := armGrant_ok result
      exact .arm context leaseExpiresAtMs armed _ ⟨preparing, rfl, rfl, shape, nowMs, rfl, early⟩ rfl
  | commit handle leaseEpoch peerBundleReady peerSessionEpoch nowMs =>
    rcases result : m.commit handle leaseEpoch peerBundleReady peerSessionEpoch nowMs with
      ⟨error | ⟨armed, grant⟩, after⟩ <;>
      simp only [answer, result, Prod.mk.injEq] at answered <;>
      obtain ⟨rfl, rfl⟩ := answered
    · exact .afterError rfl rfl (commit_error result)
    · obtain ⟨granted, rfl, rfl, rfl, rfl, rfl, early⟩ := commit_ok result
      exact .commit armed grant ⟨granted, rfl, rfl, nowMs, rfl, early⟩ rfl
  | renew requestId renewedUntilMs peerBundleReady peerSessionEpoch nowMs =>
    rcases result : m.renew requestId renewedUntilMs peerBundleReady peerSessionEpoch nowMs with
      ⟨error | ⟨⟩, after⟩ <;>
      simp only [answer, result, Prod.mk.injEq] at answered <;>
      obtain ⟨rfl, rfl⟩ := answered
    · exact .afterError rfl rfl (renew_error result)
    · obtain ⟨context, grant, previous, owned, rfl, -⟩ := renew_ok result
      exact .renew context grant previous renewedUntilMs owned rfl rfl rfl
  | expire nowMs =>
    simp only [answer, expire_eq, Prod.mk.injEq] at answered
    obtain ⟨rfl, rfl⟩ := answered
    refine .quiet rfl (by simp [LeaseReply.error?]) ?_
    split
    · exact .inr rfl
    · exact .inl rfl
  | invalidate =>
    obtain ⟨rfl, rfl⟩ := answered
    exact .quiet rfl (by simp [LeaseReply.error?]) (.inr rfl)

theorem Moves.error_leaves (moves : Moves e) {error : GateError}
    (failed : e.output.error? = some error) : e.post = e.pre.afterError error := by
  cases moves with
  | quiet _ left => exact left error failed
  | renew _ _ _ _ _ _ replied =>
    rw [replied] at failed
    simp [LeaseReply.error?] at failed
  | reserve _ did | arm _ _ _ _ did | commit _ _ did =>
    rw [did.2.2.1] at failed
    simp [LeaseReply.error?] at failed

/-- The manager has been preparing `context` since a reservation. -/
def Prepared (context : GateContext) : List LeaseEntry → Prop :=
  Since (fun _ e => e.Reserves context) fun x => x.post.state = .preparing context

/-- The grant has been armed since a call made while `context` was prepared. -/
def Granted (context : GateContext) (leaseExpiresAtMs : Nat) (armed : GateContext)
    (grant : GrantIdentity) : List LeaseEntry → Prop :=
  Since (fun before e => Prepared context before ∧ e.Arms context leaseExpiresAtMs armed grant)
    fun x => x.post.state = .grantArmed armed grant

def Traced (trace : List LeaseEntry) : BundleGateState → Prop
  | .localState | .remoteOwned _ _ _ => True
  | .preparing context => Prepared context trace
  | .grantArmed armed grant => ∃ context leaseExpiresAtMs, Granted context leaseExpiresAtMs armed grant trace

theorem Traced.keep {trace : List LeaseEntry} (traced : Traced trace e.post.state) :
    Traced (trace ++ [e]) e.post.state := by
  cases here : e.post.state with
  | localState | remoteOwned => trivial
  | preparing context =>
    rw [here] at traced
    exact Since.later traced here
  | grantArmed armed grant =>
    rw [here] at traced
    obtain ⟨context, leaseExpiresAtMs, granted⟩ := traced
    exact ⟨context, leaseExpiresAtMs, Since.later granted here⟩

theorem Moves.traced {trace : List LeaseEntry} (moves : Moves e)
    (traced : Traced trace e.pre.state) : Traced (trace ++ [e]) e.post.state := by
  cases moves with
  | quiet _ _ left =>
    rcases left with same | dropped
    · exact Traced.keep (same ▸ traced)
    · rw [dropped]
      trivial
  | reserve context reserves =>
    rw [reserves.2.1]
    exact Since.now reserves
  | arm context leaseExpiresAtMs armed grant arms =>
    rw [arms.1] at traced
    rw [arms.2.1]
    exact ⟨context, leaseExpiresAtMs, Since.now ⟨traced, arms⟩⟩
  | commit armed grant commits =>
    rw [commits.2.1]
    trivial
  | renew context grant previous renewedUntilMs _ renewed =>
    rw [renewed]
    trivial

theorem Moves.commits (moves : Moves e) (owned : e.post.state.isRemoteOwned = true)
    (before : e.pre.state.isRemoteOwned = false) : ∃ armed grant, e.Commits armed grant := by
  cases moves with
  | quiet _ _ left =>
    rcases left with same | dropped
    · rw [same, before] at owned
      contradiction
    · rw [dropped] at owned
      contradiction
  | reserve _ did | arm _ _ _ _ did =>
    rw [did.2.1] at owned
    contradiction
  | commit armed grant commits => exact ⟨armed, grant, commits⟩
  | renew _ _ _ _ owned' =>
    rw [owned'] at before
    contradiction

def stamps (e : LeaseEntry) (epoch : Nat) : Prop :=
  ∃ context, e.output = .reserved (.ok context) ∧ epoch = context.lease.leaseEpoch.toNat

theorem Moves.advances (moves : Moves e) : e.Advances (·.nextLeaseEpoch.toNat) stamps := by
  cases moves with
  | quiet unmade _ left =>
    refine ⟨?_, ?_⟩
    · rcases left with same | dropped <;> simp [*]
    · rintro k ⟨context, reserved, -⟩
      simp [reserved, LeaseReply.succeeded] at unmade
  | reserve context reserves next fresh =>
    refine ⟨by simp only [next]; omega, ?_⟩
    rintro k ⟨context', reserved, rfl⟩
    have same : context = context' := by
      simpa [reserves.2.2.1] using reserved
    subst same
    exact ⟨by simp only [fresh]; omega, by simp only [next]; omega⟩
  | arm _ _ _ _ did same | commit _ _ did same =>
    refine ⟨by simp [same], ?_⟩
    rintro k ⟨context', reserved, -⟩
    simp [did.2.2.1] at reserved
  | renew _ _ _ _ _ _ replied same =>
    refine ⟨by simp [same], ?_⟩
    rintro k ⟨context', reserved, -⟩
    simp [replied] at reserved

def Newest (m : BundleLeaseManager) : Prop :=
  ∀ context, m.context = some context → context.lease.leaseEpoch = m.nextLeaseEpoch

theorem Moves.newest (moves : Moves e) (newest : Newest e.pre) : Newest e.post := by
  intro context held
  cases moves with
  | quiet _ _ left =>
    rcases left with same | dropped
    · rw [same] at held ⊢
      exact newest context held
    · rw [dropped] at held
      contradiction
  | reserve reserved reserves next =>
    obtain rfl : reserved = context := by simpa [BundleLeaseManager.context, reserves.2.1] using held
    exact next.symm
  | arm reserved _ armed grant arms same =>
    obtain rfl : armed = context := by simpa [BundleLeaseManager.context, arms.2.1] using held
    have before := newest reserved (by simp [BundleLeaseManager.context, arms.1])
    rw [same, ← before, arms.2.2.2.1, GateContext.expiringAt_leaseEpoch]
  | commit armed grant commits same =>
    obtain rfl : armed = context := by simpa [BundleLeaseManager.context, commits.2.1] using held
    rw [same]
    exact newest armed (by simp [BundleLeaseManager.context, commits.1])
  | renew owned grant previous renewedUntilMs state renewed _ same =>
    obtain rfl : owned.expiringAt renewedUntilMs = context := by
      simpa [BundleLeaseManager.context, renewed] using held
    rw [same]
    exact newest owned (by simp [BundleLeaseManager.context, state])

/-- The epoch of `armed` is over, or nothing but `armed` is armed under it. -/
def Settled (armed : GateContext) (grant : GrantIdentity) (m : BundleLeaseManager) : Prop :=
  armed.lease.leaseEpoch.toNat ≤ m.nextLeaseEpoch.toNat ∧
    (armed.lease.leaseEpoch = m.nextLeaseEpoch → (∀ context, m.state ≠ .preparing context) ∧
      ∀ context grant', m.state = .grantArmed context grant' → context = armed ∧ grant' = grant)

theorem Settled.dropped {m : BundleLeaseManager}
    (settled : Settled armed grant m) : Settled armed grant m.dropped :=
  ⟨settled.1, fun _ => ⟨by simp, by simp⟩⟩

theorem Moves.settled (moves : Moves e)
    (settled : Settled armed grant e.pre) : Settled armed grant e.post := by
  cases moves with
  | quiet _ _ left =>
    rcases left with same | dropped
    · rw [same]
      exact settled
    · rw [dropped]
      exact settled.dropped
  | reserve context _ next fresh =>
    have below := settled.1
    refine ⟨by rw [next]; omega, ?_⟩
    intro current
    rw [current, next] at below
    omega
  | arm context _ _ _ arms same =>
    refine ⟨same ▸ settled.1, ?_⟩
    intro current
    exact absurd arms.1 ((settled.2 (current.trans same)).1 context)
  | commit _ _ commits same =>
    exact ⟨same ▸ settled.1, fun _ => by simp [commits.2.1]⟩
  | renew _ _ _ _ _ renewed _ same =>
    exact ⟨same ▸ settled.1, fun _ => by simp [renewed]⟩

theorem Moves.settles (moves : Moves e) (newest : Newest e.pre)
    (replied : e.output = .armed (.ok (armed, grant))) :
    Settled armed grant e.post := by
  have after := moves.newest newest
  cases moves with
  | arm context _ armed' grant' arms same =>
    obtain ⟨rfl, rfl⟩ : armed' = armed ∧ grant' = grant := by simpa [arms.2.2.1] using replied
    have current := after armed' (by simp [BundleLeaseManager.context, arms.2.1])
    exact ⟨by rw [current], fun _ => by simp [arms.2.1]⟩
  | quiet unmade =>
    simp [replied, LeaseReply.succeeded] at unmade
  | renew _ _ _ _ _ _ replied' =>
    simp [replied] at replied'
  | reserve _ did | commit _ _ did =>
    have other := did.2.2.1
    simp [replied] at other

end LeaseEntry

section Runs

variable {trace before after : List LeaseEntry} {m : BundleLeaseManager} {e : LeaseEntry}

section

variable (run : Run leaseManager .new trace m)
include run

theorem lease_moves (here : e ∈ trace) : e.Moves := by
  obtain ⟨_, -, step⟩ := run.entry_step here
  exact LeaseEntry.moves (Option.some.inj step)

theorem lease_traced : LeaseEntry.Traced trace m.state := by
  refine run.history (P := fun trace m => LeaseEntry.Traced trace m.state) ?_ ?_
  · trivial
  · intro trace m call m' reply _ traced step
    exact (LeaseEntry.moves (Option.some.inj step)).traced traced

theorem remote_owned_by_commit
    (here : trace = before ++ e :: after) (owned : e.post.state.isRemoteOwned = true)
    (first : e.pre.state.isRemoteOwned = false) :
    ∃ context leaseExpiresAtMs armed grant,
      LeaseEntry.Granted context leaseExpiresAtMs armed grant before ∧ e.Commits armed grant := by
  obtain ⟨run', -, -⟩ := run.split here
  have moves := lease_moves run (e := e) (by simp [here])
  obtain ⟨armed, grant, commits⟩ := moves.commits owned first
  have traced := lease_traced run'
  rw [commits.1] at traced
  obtain ⟨context, leaseExpiresAtMs, granted⟩ := traced
  exact ⟨context, leaseExpiresAtMs, armed, grant, granted, commits⟩

theorem lease_epoch_newest : LeaseEntry.Newest m := by
  refine run.invariant (P := LeaseEntry.Newest) (by intro context held; contradiction) ?_
  intro m call m' reply newest step
  exact (LeaseEntry.moves (Option.some.inj step)).newest newest

theorem armed_once {a : LeaseEntry} (member : a ∈ trace)
    {armed context : GateContext} {grant grant' : GrantIdentity}
    (arms : a.output = .armed (.ok (armed, grant))) (state : m.state = .grantArmed context grant')
    (same : context.lease.leaseEpoch = armed.lease.leaseEpoch) : context = armed ∧ grant' = grant := by
  have settled := run.history (P := fun trace m => ∀ a ∈ trace, ∀ armed grant,
    a.output = .armed (.ok (armed, grant)) → LeaseEntry.Settled armed grant m) (by simp) ?_
  · have newest := lease_epoch_newest run context (by simp [BundleLeaseManager.context, state])
    exact ((settled a member armed grant arms).2 (same.symm.trans newest)).2 context grant' state
  intro trace m call m' reply run settled step x member armed grant arms
  have moves := LeaseEntry.moves (Option.some.inj step)
  rcases List.mem_append.mp member with old | new
  · exact moves.settled (settled x old armed grant arms)
  · obtain rfl := List.mem_singleton.mp new
    exact moves.settles (lease_epoch_newest run) arms

end

theorem lease_lifecycle (run : Run leaseManager .new trace m) :
    (∀ before e after, trace = before ++ e :: after → e.post.state.isRemoteOwned = true →
      e.pre.state.isRemoteOwned = false →
      ∃ context leaseExpiresAtMs armed grant deadline,
        LeaseEntry.Granted context leaseExpiresAtMs armed grant before ∧ e.Commits armed grant ∧
        armed.sameIdentity context = true ∧ e.post.deadlineMs = some deadline ∧
        deadline ≤ context.lease.expiresAtMs ∧ deadline ≤ leaseExpiresAtMs ∧
        deadline ≤ grant.expiresAtMs) ∧
    (∀ before y after, trace = before ++ y :: after → ∀ x ∈ before, ∀ first second,
      x.output = .reserved (.ok first) → y.output = .reserved (.ok second) →
      first.lease.leaseEpoch < second.lease.leaseEpoch) ∧
    (∀ e ∈ trace, ∀ error, e.output.error? = some error →
      (error = .peerNotReady ∨ error = .expired → e.post.state = .localState) ∧
      (error = .busy ∨ error = .staleIdentity ∨ error = .invalidState →
        e.post.state = e.pre.state)) := by
  refine ⟨?_, ?_, ?_⟩
  · intro before e after here owned first
    obtain ⟨context, leaseExpiresAtMs, armed, grant, granted, commits⟩ :=
      remote_owned_by_commit run here owned first
    have shape : armed = context.expiringAt (min context.lease.expiresAtMs leaseExpiresAtMs) := by
      obtain ⟨_, arm, _, -, ⟨-, arms⟩, -⟩ := granted
      exact arms.2.2.2.1
    refine ⟨context, leaseExpiresAtMs, armed, grant,
      min armed.lease.expiresAtMs grant.expiresAtMs, granted, commits, ?_, ?_, ?_⟩
    · rw [shape]
      exact context.expiringAt_sameIdentity _
    · simp [deadlineMs, commits.2.1]
    · have clamped : armed.lease.expiresAtMs = min context.lease.expiresAtMs leaseExpiresAtMs := by
        rw [shape, GateContext.expiringAt_expiresAtMs]
      omega
  · intro before y after here x earlier first second reserved reserved'
    have grows : ∀ e ∈ trace, e.Advances (·.nextLeaseEpoch.toNat) LeaseEntry.stamps :=
      fun e member => (lease_moves run member).advances
    exact run.stamps_lt grows here earlier ⟨first, reserved, rfl⟩ ⟨second, reserved', rfl⟩
  · intro e member error failed
    rw [(lease_moves run member).error_leaves failed]
    exact ⟨by rintro (rfl | rfl) <;> rfl, by rintro (rfl | rfl | rfl) <;> rfl⟩

def switchCalls : List LeaseCall :=
  let context : GateContext := ⟨4, .left, "request-1", "lease-1", 1, 22, 150⟩
  [.reserve 4 .left "request-1" "lease-1" 22 true 100 50,
    .armGrant context 7 9 150 140 true 22 110, .commit 4 1 true 22 115]

theorem switch_lifecycle : ∃ before e m, Run leaseManager .new (before ++ [e]) m ∧
    e.input = .commit 4 1 true 22 115 ∧ m.deadlineMs = some 140 ∧
    ∃ context leaseExpiresAtMs armed grant,
      LeaseEntry.Granted context leaseExpiresAtMs armed grant before ∧ e.Commits armed grant := by
  obtain ⟨before, e, m, run, input, deadline, owned, free⟩ := leaseManager.exists_last .new
    switchCalls.dropLast (.commit 4 1 true 22 115) (fun _ e => e.input = .commit 4 1 true 22 115 ∧
      e.post.deadlineMs = some 140 ∧ e.post.state.isRemoteOwned = true ∧
        e.pre.state.isRemoteOwned = false) (by decide)
  rw [run.last_post (by simp)] at deadline
  obtain ⟨context, leaseExpiresAtMs, armed, grant, -, granted, commits, -⟩ :=
    (lease_lifecycle run).1 before e [] rfl owned free
  exact ⟨before, e, m, run, input, deadline, context, leaseExpiresAtMs, armed, grant, granted, commits⟩

end Runs

namespace BundleLeaseManager

/-- No call made at `nowMs` takes the lease any further. -/
def StuckAt (m : BundleLeaseManager) (nowMs : Nat) : Prop :=
  (∀ context requestEpoch grantEpoch leaseExpiresAtMs grantExpiresAtMs peerBundleReady
    peerSessionEpoch, ∃ error, (m.armGrant context requestEpoch grantEpoch leaseExpiresAtMs
      grantExpiresAtMs peerBundleReady peerSessionEpoch nowMs).1 = .error error) ∧
  (∀ handle leaseEpoch peerBundleReady peerSessionEpoch, ∃ error,
    (m.commit handle leaseEpoch peerBundleReady peerSessionEpoch nowMs).1 = .error error) ∧
  (∀ requestId renewedUntilMs peerBundleReady peerSessionEpoch, ∃ error,
    (m.renew requestId renewedUntilMs peerBundleReady peerSessionEpoch nowMs).1 = .error error)

variable {m : BundleLeaseManager} {nowMs : Nat}

theorem error_of_not_ok {α : Type} {r : Except GateError α × BundleLeaseManager}
    (unmade : ∀ a after, r ≠ (.ok a, after)) : ∃ error, r.1 = .error error := by
  obtain ⟨error | a, after⟩ := r
  · exact ⟨error, rfl⟩
  · exact absurd rfl (unmade a after)

/-- A lease that is over is stuck, except that a renewal looks only at the lease's own
expiry and not at the renewal that is running. -/
theorem stuck_iff_lease_over (ended : m.deadlineMs.any (· ≤ nowMs) = true) :
    m.expire nowMs = (m.context, m.dropped) ∧
      (m.StuckAt nowMs ↔ ∀ context grant renewedUntilMs,
        m.state = .remoteOwned context grant renewedUntilMs → context.lease.expiresAtMs ≤ nowMs) := by
  refine ⟨by rw [expire_eq, if_pos ended], ?_, ?_⟩
  · intro stuck context grant renewedUntilMs owned
    obtain ⟨error, refused⟩ := stuck.2.2 context.lease.requestId context.lease.expiresAtMs true
      context.lease.peerSessionEpoch
    simp only [renew, owned] at refused
    by_contra early
    simp [early] at refused
  intro late
  refine ⟨fun _ _ _ _ _ _ _ => error_of_not_ok ?_, fun _ _ _ _ => error_of_not_ok ?_,
    fun _ _ _ _ => error_of_not_ok ?_⟩
  · intro (armed, grant) after result
    obtain ⟨preparing, -, -, -, -, -, early, -, -⟩ := armGrant_ok result
    simp only [deadlineMs, preparing, Option.any_some, decide_eq_true_eq] at ended
    omega
  · intro (context, grant) after result
    obtain ⟨armed, -, -, -, -, -, early, early'⟩ := commit_ok result
    simp only [deadlineMs, armed, Option.any_some, decide_eq_true_eq] at ended
    omega
  · intro () after result
    obtain ⟨context, grant, previous, owned, -, -, early, -⟩ := renew_ok result
    have passed := late context grant previous owned
    omega

theorem armed_lease_stuck :
    StuckAt ⟨.grantArmed ⟨4, .left, "request-1", "lease-1", 1, 22, 150⟩ ⟨7, 9, 140⟩, 1⟩ 140 :=
  (stuck_iff_lease_over (by decide)).2.mpr (by simp)

end BundleLeaseManager

/-- The grant of the committed switch ended at 140, yet at 145 the lease is renewed. -/
theorem ended_lease_is_renewed : ∃ trace m, Run leaseManager .new trace m ∧
    m.deadlineMs = some 140 ∧ (m.renew "request-1" 200 true 22 145).1 = .ok () := by
  exact leaseManager.exists_run .new switchCalls _ (by decide)

end DisplayMux.LanMouse
