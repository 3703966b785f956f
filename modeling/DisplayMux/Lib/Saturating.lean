import Mathlib.Order.Basic

/-! Unsigned 64-bit values are natural numbers here. The arithmetic of the modelled
code that can leave the range is written with a saturating or a checked addition. -/
namespace DisplayMux

def u64Max : Nat := 18446744073709551615

def saturatingAdd (a b : Nat) : Nat := min (a + b) u64Max

def saturatingMul (a b : Nat) : Nat := min (a * b) u64Max

def checkedAdd (a b : Nat) : Option Nat := if a + b ≤ u64Max then some (a + b) else none

theorem checkedAdd_eq_some {a b c : Nat} :
    checkedAdd a b = some c ↔ a + b ≤ u64Max ∧ a + b = c := by
  simp [checkedAdd]

theorem saturatingAdd_le_max (a b : Nat) : saturatingAdd a b ≤ u64Max := Nat.min_le_right _ _

theorem toNat_le_u64Max (n : UInt64) : n.toNat ≤ u64Max := by
  have below := n.toNat_lt
  unfold u64Max
  omega

theorem lt_saturatingAdd {a b : Nat} (positive : 0 < b) (room : a < u64Max) :
    a < saturatingAdd a b := by
  unfold saturatingAdd
  omega

theorem lt_of_incremented {a b : Nat} (incremented : b = saturatingAdd a 1) (room : b < u64Max) :
    a < b := by
  unfold saturatingAdd at incremented
  omega

theorem toNat_ofNat_succ {n : UInt64} {k : Nat} (next : checkedAdd n.toNat 1 = some k) :
    (UInt64.ofNat k).toNat = n.toNat + 1 := by
  obtain ⟨fits, rfl⟩ := checkedAdd_eq_some.mp next
  refine UInt64.toNat_ofNat_of_lt' ?_
  exact Nat.lt_of_le_of_lt fits (by decide)

end DisplayMux
