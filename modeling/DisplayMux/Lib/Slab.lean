import Mathlib.Data.List.Nodup

/-! A table that hands out small keys. A freed key is handed out again before a new
one, the key freed last first. -/
namespace DisplayMux

structure Slab (α : Type) where
  entries : List (Option α)
  free : List Nat
  nodup : free.Nodup
  vacant : ∀ key ∈ free, entries[key]? = some none

namespace Slab

variable {α : Type} {s : Slab α} {a : α} {f : α → α}

def empty : Slab α := ⟨[], [], .nil, by simp⟩

def get (s : Slab α) (key : Nat) : Option α := s.entries[key]?.join

def nextKey (s : Slab α) : Nat := s.free.headD s.entries.length

def keys (s : Slab α) : List Nat := (List.range s.entries.length).filter fun key => (s.get key).isSome

def values (s : Slab α) : List α := s.entries.filterMap id

def insert (s : Slab α) (a : α) : Slab α where
  entries := match s.free with
    | [] => s.entries ++ [some a]
    | key :: _ => s.entries.set key (some a)
  free := s.free.tail
  nodup := s.nodup.tail
  vacant := by
    intro key member
    have fresh := s.nodup
    have empty := s.vacant key (List.mem_of_mem_tail member)
    cases used : s.free with
    | nil => simp [used] at member
    | cons first rest =>
      rw [used] at member fresh
      have other : first ≠ key := by
        rintro rfl
        exact (List.nodup_cons.mp fresh).1 member
      simpa [List.getElem?_set_ne other] using empty

def remove (s : Slab α) (key : Nat) : Slab α :=
  if taken : (s.get key).isSome then
    { entries := s.entries.set key none
      free := key :: s.free
      nodup := by
        refine List.nodup_cons.mpr ⟨fun member => ?_, s.nodup⟩
        simp [get, s.vacant key member] at taken
      vacant := by
        intro k member
        have bound : key < s.entries.length := by
          by_contra outside
          simp [get, List.getElem?_eq_none (Nat.not_lt.mp outside)] at taken
        by_cases same : key = k
        · subst same
          simp [bound]
        · rw [List.getElem?_set_ne same]
          rcases List.mem_cons.mp member with rfl | old
          · exact absurd rfl same
          · exact s.vacant k old }
  else s

def modify (s : Slab α) (key : Nat) (f : α → α) : Slab α where
  entries := s.entries.modify key (Option.map f)
  free := s.free
  nodup := s.nodup
  vacant := by
    intro k member
    have empty := s.vacant k member
    by_cases same : key = k <;> simp [empty, same]

theorem get_insert (key : Nat) :
    (s.insert a).get key = if key = s.nextKey then some a else s.get key := by
  have entries : (s.insert a).entries = match s.free with
    | [] => s.entries ++ [some a]
    | first :: _ => s.entries.set first (some a) := rfl
  rw [get, entries, get, nextKey]
  cases used : s.free with
  | nil =>
    by_cases same : key = s.entries.length
    · simp [same]
    by_cases less : key < s.entries.length
    · simp [List.getElem?_append_left less, same]
    · have outside : (s.entries ++ [some a]).length ≤ key := by
        simp only [List.length_append, List.length_singleton]
        omega
      simp [List.getElem?_eq_none outside, List.getElem?_eq_none (Nat.not_lt.mp less), same]
  | cons first rest =>
    have bound : first < s.entries.length := by
      have empty := s.vacant first (by simp [used])
      exact (List.getElem?_eq_some_iff.mp empty).1
    by_cases same : key = first
    · subst same
      simp [bound]
    · simp [List.getElem?_set_ne (Ne.symm same), same]

theorem get_nextKey : s.get s.nextKey = none := by
  unfold get nextKey
  cases used : s.free with
  | nil => simp
  | cons first rest => simp [s.vacant first (by simp [used])]

theorem mem_keys {key : Nat} : key ∈ s.keys ↔ (s.get key).isSome = true := by
  unfold keys
  simp only [List.mem_filter, List.mem_range, and_iff_right_iff_imp]
  intro stored
  by_contra outside
  simp [get, List.getElem?_eq_none (Nat.not_lt.mp outside)] at stored

theorem get_remove (key k : Nat) :
    (s.remove key).get k = if k = key then none else s.get k := by
  unfold remove
  split
  · unfold get
    by_cases same : k = key
    · subst same
      by_cases bound : k < s.entries.length <;> simp [bound]
    · simp [List.getElem?_set_ne (Ne.symm same), same]
  rename_i untaken
  by_cases same : k = key
  · subst same
    simpa using untaken
  · simp [same]

theorem get_modify (key k : Nat) :
    (s.modify key f).get k = if k = key then (s.get k).map f else s.get k := by
  unfold get modify
  by_cases same : k = key
  · subst same
    cases entry : s.entries[k]? <;> simp [entry]
  · simp [same, Ne.symm same]

theorem mem_values {key : Nat} (stored : s.get key = some a) : a ∈ s.values := by
  unfold get at stored
  rw [Option.join_eq_some_iff] at stored
  exact List.mem_filterMap.mpr ⟨some a, List.mem_of_getElem? stored, rfl⟩

end Slab

end DisplayMux
