import Mathlib.Data.List.Induction

/-! Lists in which each run of consecutive values of one kind counts as its last value. -/
namespace DisplayMux

variable {α : Type} {p : α → Bool} {a : α} {l rest : List α}

/-- Each run of values that `p` accepts becomes its last value. -/
def coalesce (p : α → Bool) : List α → List α
  | [] => []
  | a :: rest => if p a && rest.head?.any p then coalesce p rest else a :: coalesce p rest

/-- The first run of such values, or the first value when it is of another kind, and what
follows. -/
def firstRun (p : α → Bool) : List α → List α × List α
  | [] => ([], [])
  | a :: rest =>
    if p a && rest.head?.any p then (a :: (firstRun p rest).1, (firstRun p rest).2) else ([a], rest)

theorem firstRun_append (p : α → Bool) (l : List α) : (firstRun p l).1 ++ (firstRun p l).2 = l := by
  induction l with
  | nil => rfl
  | cons a rest ih =>
    simp only [firstRun]
    split
    · rw [List.cons_append, ih]
    · rfl

theorem firstRun_eq_nil : (firstRun p l).1 = [] ↔ l = [] := by
  cases l with
  | nil => simp [firstRun]
  | cons a rest =>
    simp only [firstRun]
    split <;> simp

theorem firstRun_cases (p : α → Bool) (l : List α) (some : l ≠ []) :
    (∃ a, (firstRun p l).1 = [a] ∧ p a = false) ∨
      (∀ a ∈ (firstRun p l).1, p a = true) ∧ (firstRun p l).2.head?.any p = false := by
  induction l with
  | nil => exact absurd rfl some
  | cons a rest ih =>
    simp only [firstRun]
    split
    · rename_i joined
      simp only [Bool.and_eq_true] at joined
      obtain ⟨here, next⟩ := joined
      have filled : rest ≠ [] := by
        rintro rfl
        cases next
      rcases ih filled with ⟨b, single, other⟩ | ⟨all, ends⟩
      · -- the run of the rest starts with its first value, which `p` accepts
        have whole := firstRun_append p rest
        rw [single] at whole
        rw [← whole] at next
        simp [other] at next
      · exact .inr ⟨List.forall_mem_cons.mpr ⟨here, all⟩, ends⟩
    · rename_i apart
      cases kind : p a with
      | false => exact .inl ⟨a, rfl, kind⟩
      | true => exact .inr ⟨by simpa using kind, by simpa [kind] using apart⟩

theorem coalesce_firstRun (p : α → Bool) (l : List α) :
    coalesce p l = (firstRun p l).1.getLast?.toList ++ coalesce p (firstRun p l).2 := by
  induction l with
  | nil => rfl
  | cons a rest ih =>
    simp only [coalesce, firstRun]
    split
    · rename_i joined
      have filled : (firstRun p rest).1 ≠ [] := by
        intro empty
        rw [firstRun_eq_nil.mp empty] at joined
        simp at joined
      rw [ih, List.getLast?_cons_of_ne_nil filled]
    · rfl

theorem coalesce_eq_nil : coalesce p l = [] ↔ l = [] := by
  induction l with
  | nil => simp [coalesce]
  | cons a rest ih =>
    simp only [coalesce]
    split
    · rename_i joined
      rw [ih]
      constructor
      · rintro rfl
        simp at joined
      · intro empty
        cases empty
    · simp

section

variable (p : α → Bool) (l : List α)

theorem getLast?_coalesce : (coalesce p l).getLast? = l.getLast? := by
  induction l with
  | nil => rfl
  | cons a rest ih =>
    simp only [coalesce]
    split
    · rename_i joined
      cases rest with
      | nil => simp at joined
      | cons b rest => rw [ih, List.getLast?_cons_cons]
    cases rest with
    | nil => rfl
    | cons b rest =>
      have filled : coalesce p (b :: rest) ≠ [] := mt coalesce_eq_nil.mp (List.cons_ne_nil b rest)
      rw [List.getLast?_cons_of_ne_nil filled, ih, List.getLast?_cons_cons]

theorem coalesce_concat (a : α) : coalesce p (l ++ [a]) =
      if p a && l.getLast?.any p then (coalesce p l).dropLast ++ [a] else coalesce p l ++ [a] := by
  induction l with
  | nil => simp [coalesce]
  | cons b rest ih =>
    cases rest with
    | nil =>
      by_cases here : p a = true <;> by_cases before : p b = true <;> simp [coalesce, here, before]
    | cons c rest =>
      rw [List.cons_append, List.getLast?_cons_cons]
      have filled : coalesce p (c :: rest) ≠ [] := mt coalesce_eq_nil.mp (List.cons_ne_nil c rest)
      have same : ((c :: rest) ++ [a]).head?.any p = (c :: rest).head?.any p := rfl
      rw [coalesce, same, ih]
      conv_rhs => rw [coalesce]
      split <;> split
      · rfl
      · rfl
      · rw [List.dropLast_cons_of_ne_nil filled, List.cons_append]
      · rfl

theorem filter_coalesce : (coalesce p l).filter (fun a => !p a) = l.filter (fun a => !p a) := by
  induction l with
  | nil => rfl
  | cons a rest ih =>
    simp only [coalesce]
    split
    · rename_i joined
      rw [ih, List.filter_cons_of_neg (by simp [(Bool.and_eq_true _ _ ▸ joined).1])]
    · simp only [List.filter_cons, ih]

theorem length_coalesce_le : (coalesce p l).length ≤ 2 * l.countP (fun a => !p a) + 1 ∧
      (l.head?.any p = false → (coalesce p l).length ≤ 2 * l.countP (fun a => !p a)) := by
  induction l with
  | nil => simp [coalesce]
  | cons a rest ih =>
    obtain ⟨bound, tight⟩ := ih
    simp only [coalesce, List.countP_cons, List.head?_cons, Option.any_some]
    cases kind : p a with
    | false =>
      simp
      omega
    | true =>
      split
      · simp
        omega
      · rename_i apart
        have tight := tight (Bool.eq_false_iff.mpr apart)
        simp
        omega

end

end DisplayMux
