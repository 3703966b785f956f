import Mathlib.Data.List.Basic

/-! Orders that wait in a queue. Each changes the state it finds, and may be in place in some
states only. -/
namespace DisplayMux

variable {σ κ : Type} {step : σ → κ → σ} {allowed : σ → κ → Prop} {relevant : κ → Bool} {s : σ}
  {orders more : List κ}

/-- Every order is in place when its turn comes. -/
def InTurn (step : σ → κ → σ) (allowed : σ → κ → Prop) (s : σ) : List κ → Prop
  | [] => True
  | k :: orders => allowed s k ∧ InTurn step allowed (step s k) orders

theorem inTurn_append : InTurn step allowed s (orders ++ more) ↔
    InTurn step allowed s orders ∧ InTurn step allowed (orders.foldl step s) more := by
  induction orders generalizing s with
  | nil => simp [InTurn]
  | cons k orders ih => simp [InTurn, ih, and_assoc]

section Relevant

variable (idle : ∀ s k, relevant k = false → step s k = s)

include idle in
theorem foldl_relevant : (orders.filter relevant).foldl step s = orders.foldl step s := by
  induction orders generalizing s with
  | nil => rfl
  | cons k orders ih =>
    cases matters : relevant k with
    | false => simp [matters, ih, idle s k matters]
    | true => simp [matters, ih]

include idle in
theorem inTurn_relevant (free : ∀ s k, relevant k = false → allowed s k) :
    InTurn step allowed s (orders.filter relevant) ↔ InTurn step allowed s orders := by
  induction orders generalizing s with
  | nil => rfl
  | cons k orders ih =>
    cases matters : relevant k with
    | false => simp [matters, InTurn, ih, idle s k matters, free s k matters]
    | true => simp [matters, InTurn, ih]

end Relevant

end DisplayMux
