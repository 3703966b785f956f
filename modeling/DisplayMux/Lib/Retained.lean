import Mathlib.Data.List.Nodup

/-! A log that keeps a bounded number of entries. A new entry goes to the end. It
replaces an older one under its key, and then the oldest entries make room. -/
namespace DisplayMux.Retained

section Newest

variable {α β : Type} {limit : Nat} {log : List α}

def newest (limit : Nat) (log : List α) : List α := log.drop (log.length - limit)

theorem newest_of_length_le (short : log.length ≤ limit) : newest limit log = log := by
  rw [newest, Nat.sub_eq_zero_of_le short, List.drop_zero]

theorem length_newest_le : (newest limit log).length ≤ limit := by
  rw [newest, List.length_drop]
  omega

theorem newest_newest : newest limit (newest limit log) = newest limit log :=
  newest_of_length_le length_newest_le

theorem newest_sublist : (newest limit log).Sublist log := List.drop_sublist _ _

theorem map_newest (g : α → β) : (newest limit log).map g = newest limit (log.map g) := by
  simp [newest]

end Newest

variable {α β κ : Type} [DecidableEq κ] (key : α → κ)

def push (limit : Nat) (log : List α) (a : α) : List α :=
  let others := log.eraseP fun old => key old == key a
  others.drop (others.length + 1 - limit) ++ [a]

def amend (k : κ) (f : α → α) : List α → List α
  | [] => []
  | a :: rest =>
    if rest.any fun later => key later == k then a :: amend k f rest
    else if key a == k then f a :: rest
    else a :: rest

variable {key} {limit : Nat} {log : List α} {a b : α} {k : κ} {f : α → α}

theorem getLast?_push : (push key limit log a).getLast? = some a := by simp [push]

theorem mem_push (member : b ∈ push key limit log a) : b = a ∨ b ∈ log := by
  rcases List.mem_append.mp member with old | new
  · exact .inr (List.mem_of_mem_eraseP (List.mem_of_mem_drop old))
  · exact .inl (by simpa using new)

theorem push_one : push key 1 log a = [a] := by simp [push]

theorem length_push_le (positive : 0 < limit) : (push key limit log a).length ≤ limit := by
  simp only [push, List.length_append, List.length_drop, List.length_singleton]
  omega

theorem push_of_fresh (positive : 0 < limit) (fresh : key a ∉ log.map key) :
    push key limit log a = newest limit (log ++ [a]) := by
  have others : (log.eraseP fun old => key old == key a) = log := by
    refine List.eraseP_of_forall_not fun old member same => fresh ?_
    exact List.mem_map.mpr ⟨old, member, by simpa using same⟩
  have short : log.length + 1 - limit ≤ log.length := by omega
  simp only [push, newest, others, List.length_append, List.length_singleton]
  rw [List.drop_append_of_le_length short]

theorem amend_map (g : α → β) (keeps : ∀ a, g (f a) = g a) :
    (amend key k f log).map g = log.map g := by
  induction log with
  | nil => rfl
  | cons a rest ih =>
    simp only [amend]
    split
    · simp [ih]
    · split <;> simp [keeps]

theorem mem_amend (distinct : (log.map key).Nodup) (member : b ∈ amend key k f log) :
    (b ∈ log ∧ key b ≠ k) ∨ ∃ a ∈ log, key a = k ∧ b = f a := by
  induction log with
  | nil => simp [amend] at member
  | cons a rest ih =>
    obtain ⟨alone, distinct⟩ := List.nodup_cons.mp distinct
    simp only [amend] at member
    split at member
    · rename_i below
      obtain ⟨later, there, same⟩ := List.any_eq_true.mp below
      have same : key later = k := by simpa using same
      rcases List.mem_cons.mp member with rfl | member
      · refine .inl ⟨List.mem_cons_self, fun here => alone ?_⟩
        exact List.mem_map.mpr ⟨later, there, same.trans here.symm⟩
      · rcases ih distinct member with ⟨old, other⟩ | ⟨a', old, at', edited⟩
        · exact .inl ⟨List.mem_cons_of_mem _ old, other⟩
        · exact .inr ⟨a', List.mem_cons_of_mem _ old, at', edited⟩
    rename_i last
    simp only [Bool.not_eq_true, List.any_eq_false, beq_iff_eq] at last
    split at member
    · rename_i here
      rcases List.mem_cons.mp member with rfl | old
      · exact .inr ⟨a, List.mem_cons_self, by simpa using here, rfl⟩
      · exact .inl ⟨List.mem_cons_of_mem _ old, last b old⟩
    · rename_i elsewhere
      rcases List.mem_cons.mp member with rfl | old
      · exact .inl ⟨List.mem_cons_self, by simpa using elsewhere⟩
      · exact .inl ⟨List.mem_cons_of_mem _ old, last b old⟩

end DisplayMux.Retained
