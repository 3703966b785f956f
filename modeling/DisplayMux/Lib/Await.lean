import DisplayMux.Lib.Triple

/-! Tasks that await other parties. A task ends with a value or with an error, or it
still waits for something that has not come; a time limit turns waiting into an error. -/
namespace DisplayMux

/-- Why a task has no value: it failed, or it is still waiting. -/
inductive Stop (ε : Type) where
  | failed (e : ε)
  | pending
  deriving DecidableEq, Repr

abbrev Await (ε σ α : Type) := EStateM (Stop ε) σ α

inductive Wait where
  | done | broken | pending
  deriving DecidableEq, Repr

namespace Await

variable {ε σ α β : Type}

def fail (e : ε) : Await ε σ α := throw (.failed e)

def ofResult : Except ε α → Await ε σ α
  | .ok a => pure a
  | .error e => fail e

def attempt (x : Await ε σ α) : Await ε σ (Except ε α) := fun s =>
  match x s with
  | .ok a s => .ok (.ok a) s
  | .error (.failed e) s => .ok (.error e) s
  | .error .pending s => .error .pending s

def timeout (e : ε) (x : Await ε σ α) : Await ε σ α := fun s =>
  match x s with
  | .error .pending s => .error (.failed e) s
  | ended => ended

/-- A loop whose body returns a value to end it, over at most `bound` rounds. -/
def loop (body : Await ε σ (Option α)) : Nat → Await ε σ α
  | 0 => throw .pending
  | bound + 1 => do
    match ← body with
    | some a => pure a
    | none => loop body bound

def result (x : Await ε σ α) (s : σ) : Option (Except ε α) :=
  match x s with
  | .ok a _ => some (.ok a)
  | .error (.failed e) _ => some (.error e)
  | .error .pending _ => none

section Rules

variable {x : Await ε σ α} {f : α → Await ε σ β} {s t : σ} {a : α} {e : ε} {stop : Stop ε}

theorem bind_of_ok (ran : x s = .ok a t) : (x >>= f) s = f a t := by
  simp only [bind, EStateM.bind, ran]

theorem bind_of_error (ran : x s = .error stop t) : (x >>= f) s = .error stop t := by
  simp only [bind, EStateM.bind, ran]

theorem error_of_bind (ran : (x >>= f) s = .error stop t) :
    x s = .error stop t ∨ ∃ a u, x s = .ok a u ∧ f a u = .error stop t := by
  cases first : x s with
  | ok a u =>
    rw [bind_of_ok first] at ran
    exact .inr ⟨a, u, rfl, ran⟩
  | error e u =>
    rw [bind_of_error first] at ran
    cases ran
    exact .inl rfl

theorem error_of_discard (ran : (discard x) s = .error stop t) : x s = .error stop t := by
  simp only [discard, Functor.discard, Functor.mapConst, EStateM.map, Function.comp, Function.const] at ran
  cases first : x s with
  | ok a u =>
    rw [first] at ran
    cases ran
  | error e u =>
    rw [first] at ran
    cases ran
    rfl

theorem attempt_of_ok (ran : x s = .ok a t) : attempt x s = .ok (.ok a) t := by
  simp only [attempt, ran]

theorem attempt_of_failed (ran : x s = .error (.failed e) t) : attempt x s = .ok (.error e) t := by
  simp only [attempt, ran]

theorem attempt_of_pending (ran : x s = .error .pending t) : attempt x s = .error .pending t := by
  simp only [attempt, ran]

theorem timeout_of_ok (ran : x s = .ok a t) : timeout e x s = .ok a t := by
  simp only [timeout, ran]

theorem result_congr {y : Await ε σ α} (same : x s = y t) : result x s = result y t := by
  simp only [result, same]

theorem result_ne_ok (ran : x s = .error stop t) : result x s ≠ some (.ok a) := by
  cases stop <;> simp [result, ran]

variable {body : Await ε σ (Option α)} {bound : Nat}

theorem loop_ends (ran : body s = .ok (some a) t) : loop body (bound + 1) s = .ok a t := by
  rw [loop, bind_of_ok ran]
  rfl

theorem loop_again (ran : body s = .ok none t) : loop body (bound + 1) s = loop body bound t := by
  rw [loop, bind_of_ok ran]

theorem loop_stops (ran : body s = .error stop t) : loop body (bound + 1) s = .error stop t := by
  rw [loop, bind_of_error ran]

end Rules

end Await

end DisplayMux
