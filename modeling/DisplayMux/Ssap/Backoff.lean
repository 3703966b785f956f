import DisplayMux.Ssap.Transport
import Mathlib.Algebra.Group.Nat.Defs
import Mathlib.Data.List.Induction

/-! The delays between the attempts to reach the display. -/
namespace DisplayMux.Ssap

namespace ReconnectBackoff

inductive Call where
  | failed | synchronized
  deriving DecidableEq, Repr

def call (b : ReconnectBackoff) : Call → ReconnectBackoff
  | .failed => b.failed.2
  | .synchronized => b.synchronized

/-- The failures since the start or since the last synchronization. -/
def streak (calls : List Call) : Nat :=
  calls.foldl (fun k call => if call = .failed then k + 1 else 0) 0

/-- Where a sequence of calls leaves the backoff, `k` of them failures since the last reset. -/
structure Follows (initialMs maxMs k : Nat) (b : ReconnectBackoff) : Prop where
  initial : b.initialMs = initialMs
  max : b.maxMs = maxMs
  next : b.nextMs = if k = 0 then initialMs else min (initialMs * 2 ^ k) maxMs
  failures : b.consecutiveFailures = min k u64Max

variable {initialMs maxMs k : Nat} {b : ReconnectBackoff}

theorem follows_new : Follows initialMs maxMs 0 (.new initialMs maxMs) := ⟨rfl, rfl, rfl, rfl⟩

theorem doubled_min (a m k : Nat) (fits : m ≤ u64Max) :
    min (saturatingMul (min (a * 2 ^ k) m) 2) m = min (a * 2 ^ (k + 1)) m := by
  have power : a * 2 ^ (k + 1) = a * 2 ^ k * 2 := by rw [pow_succ, Nat.mul_assoc]
  unfold saturatingMul
  omega

theorem Follows.failed (follows : Follows initialMs maxMs k b) (fits : maxMs ≤ u64Max) :
    Follows initialMs maxMs (k + 1) b.failed.2 where
  initial := follows.initial
  max := follows.max
  next := by
    simp only [ReconnectBackoff.failed, follows.next, follows.max, if_neg (Nat.succ_ne_zero k)]
    split
    · rename_i zero
      subst zero
      have once := doubled_min initialMs maxMs 0 fits
      unfold saturatingMul at once ⊢
      omega
    · exact doubled_min initialMs maxMs k fits
  failures := by
    simp only [ReconnectBackoff.failed, follows.failures, saturatingAdd]
    omega

theorem Follows.synchronized (follows : Follows initialMs maxMs k b) :
    Follows initialMs maxMs 0 b.synchronized :=
  ⟨follows.initial, follows.max, follows.initial, rfl⟩

theorem streak_append (calls : List Call) (call : Call) :
    streak (calls ++ [call]) = if call = .failed then streak calls + 1 else 0 := by
  simp [streak]

theorem follows_calls (fits : maxMs ≤ u64Max) (calls : List Call) :
    Follows initialMs maxMs (streak calls) (calls.foldl call (.new initialMs maxMs)) := by
  induction calls using List.reverseRecOn with
  | nil => exact follows_new
  | append_singleton calls last ih =>
    rw [streak_append, List.foldl_concat]
    cases last with
    | failed => exact ih.failed fits
    | synchronized => exact ih.synchronized

end ReconnectBackoff

open ReconnectBackoff

def Loaded.backoff (config : Loaded) : ReconnectBackoff :=
  .new config.timeouts.reconnectInitialMs.toNat config.timeouts.reconnectMaxMs.toNat

theorem Loaded.follows (config : Loaded) (calls : List Call) :
    Follows config.timeouts.reconnectInitialMs.toNat config.timeouts.reconnectMaxMs.toNat
      (streak calls) (calls.foldl call config.backoff) :=
  follows_calls (toNat_le_u64Max _) calls

/-- After any calls, `k` of them failures since the last reset, the next failure is
answered with the doubled delay and the right count exactly when it is not the first with
an initial delay above the limit, and the count has not reached the end of its range. -/
theorem backoff_doubles_iff (config : Loaded) (calls : List Call) :
    (calls.foldl call config.backoff).failed.1 =
      (min (config.timeouts.reconnectInitialMs.toNat * 2 ^ streak calls)
        config.timeouts.reconnectMaxMs.toNat, streak calls + 1) ↔
    (streak calls = 0 → config.timeouts.reconnectInitialMs ≤ config.timeouts.reconnectMaxMs) ∧
      streak calls + 1 ≤ u64Max := by
  have follows := config.follows calls
  simp only [ReconnectBackoff.failed, follows.next, follows.failures, Prod.mk.injEq, saturatingAdd,
    UInt64.le_iff_toNat_le]
  refine and_congr ?_ (by omega)
  split
  · rename_i zero
    simp only [zero, pow_zero, Nat.mul_one, true_imp_iff]
    omega
  · rename_i later
    exact ⟨fun _ zero => absurd zero later, fun _ => rfl⟩

/-- A limit below the initial delay is accepted, and the first delay exceeds it. -/
theorem first_delay_exceeds_limit : ∃ config : Loaded,
    config.timeouts.reconnectInitialMs = 90000 ∧ config.timeouts.reconnectMaxMs = 60000 ∧
    config.backoff.failed.1 = (90000, 1) :=
  ⟨⟨⟨.controller, "token", ⟨some "HDMI_4", none, none⟩, .empty, { reconnectInitialMs := 90000 }, {}⟩,
    by decide⟩, rfl, rfl, rfl⟩

end DisplayMux.Ssap
