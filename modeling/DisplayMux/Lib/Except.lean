import Mathlib.Tactic.TypeStar

/-! When a computation that may fail succeeds, read back from its parts. -/
namespace DisplayMux

variable {ε α β : Type} {x : Except ε α} {b : β}

instance decidableOk (x : Except ε α) (P : α → Prop) [DecidablePred P] : Decidable (∃ a, x = .ok a ∧ P a) :=
  match x with
  | .ok a => decidable_of_iff (P a) (by simp)
  | .error _ => .isFalse (by simp)

theorem map_ok {f : α → β} : x.map f = .ok b ↔ ∃ a, x = .ok a ∧ f a = b := by
  cases x <;> simp [Except.map]

theorem map_error {f : α → β} {e : ε} : x.map f = .error e ↔ x = .error e := by
  cases x <;> simp [Except.map]

theorem pure_ok {a b : α} : (pure a : Except ε α) = .ok b ↔ a = b := by
  simp [pure, Except.pure]

variable {f : α → Except ε β}

theorem bind_ok : (x >>= f) = .ok b ↔ ∃ a, x = .ok a ∧ f a = .ok b := by
  cases x <;> simp [bind, Except.bind]

theorem bind_error {e : ε} :
    (x >>= f) = .error e ↔ x = .error e ∨ ∃ a, x = .ok a ∧ f a = .error e := by
  cases x <;> simp [bind, Except.bind]

theorem guarded_ok {c : Prop} [Decidable c] {e : ε} {y : Except ε β} :
    (if c then throw e >>= f else y) = .ok b ↔ ¬ c ∧ y = .ok b := by
  split <;> simp_all [bind, Except.bind, throw, throwThe, MonadExceptOf.throw]

theorem run_bind_ok {σ : Type} {x : EStateM ε σ α} {f : α → EStateM ε σ β} {s s' : σ} :
    (x >>= f) s = .ok b s' ↔ ∃ a t, x s = .ok a t ∧ f a t = .ok b s' := by
  simp only [bind, EStateM.bind]
  cases x s with
  | error e t => simp
  | ok a t =>
    constructor
    · exact fun done => ⟨a, t, rfl, done⟩
    · rintro ⟨_, _, ⟨⟩, done⟩
      exact done

theorem run_guarded_ok {σ : Type} {c : Prop} [Decidable c] {e : ε} {f : α → EStateM ε σ β}
    {y : EStateM ε σ β} {s s' : σ} :
    (if c then throw e >>= f else y) s = .ok b s' ↔ ¬ c ∧ y s = .ok b s' := by
  have failed : (throw e >>= f) s = (.error e s : EStateM.Result ε σ β) := rfl
  split <;> simp_all

end DisplayMux
