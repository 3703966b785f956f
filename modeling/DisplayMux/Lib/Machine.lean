import Mathlib.Data.List.Basic

/-! Executable transition systems and their runs.
A machine answers one input with a new state and an output, or refuses it. The
trace of a run keeps the state before and after each step, so a property of the
past can be stated on the trace alone. -/
namespace DisplayMux

structure Machine (σ ι ο : Type) where
  step : σ → ι → Option (σ × ο)

structure Entry (σ ι ο : Type) where
  pre : σ
  input : ι
  output : ο
  post : σ

/-- The step moves a counter forward, and the numbers it stamps are new ones of that
counter. -/
def Entry.Advances {σ ι ο : Type} (counter : σ → Nat) (stamps : Entry σ ι ο → Nat → Prop)
    (e : Entry σ ι ο) : Prop :=
  counter e.pre ≤ counter e.post ∧ ∀ k, stamps e k → counter e.pre < k ∧ k ≤ counter e.post

/-- The runs of a machine, with the oldest entry of the trace first. -/
inductive Run {σ ι ο : Type} (m : Machine σ ι ο) (start : σ) : List (Entry σ ι ο) → σ → Prop where
  | nil : Run m start [] start
  | snoc {trace : List (Entry σ ι ο)} {s s' : σ} {i : ι} {o : ο} :
      Run m start trace s → m.step s i = some (s', o) → Run m start (trace ++ [⟨s, i, o, s'⟩]) s'

namespace Run

variable {σ ι ο : Type} {m : Machine σ ι ο} {start s : σ} {trace : List (Entry σ ι ο)}
  {e : Entry σ ι ο}

/-- A property of states kept by every step that meets `C` holds at the end of
every run whose steps all meet `C`. -/
theorem invariant_where {P : σ → Prop} {C : Entry σ ι ο → Prop} (initial : P start)
    (keep : ∀ e : Entry σ ι ο, P e.pre → m.step e.pre e.input = some (e.post, e.output) →
      C e → P e.post)
    (run : Run m start trace s) (meets : ∀ e ∈ trace, C e) : P s := by
  induction run with
  | nil => exact initial
  | @snoc trace s s' i o _ step ih =>
    have before := ih (fun e he => meets e (List.mem_append_left _ he))
    exact keep ⟨s, i, o, s'⟩ before step (meets _ (by simp))

theorem invariant {P : σ → Prop} (initial : P start)
    (keep : ∀ s i s' o, P s → m.step s i = some (s', o) → P s')
    (run : Run m start trace s) : P s :=
  run.invariant_where (C := fun _ => True) initial
    (fun e h step _ => keep e.pre e.input e.post e.output h step) (fun _ _ => trivial)

/-- The same for a property of the state and of the trace that led to it. -/
theorem history {P : List (Entry σ ι ο) → σ → Prop} (initial : P [] start)
    (keep : ∀ trace s i s' o, Run m start trace s → P trace s → m.step s i = some (s', o) →
      P (trace ++ [⟨s, i, o, s'⟩]) s')
    (run : Run m start trace s) : P trace s := by
  induction run with
  | nil => exact initial
  | snoc run step ih => exact keep _ _ _ _ _ run ih step

/-- Every entry of a trace is a step taken from the end of the run before it. -/
theorem split (run : Run m start trace s) {before after : List (Entry σ ι ο)}
    (here : trace = before ++ e :: after) :
    Run m start before e.pre ∧ m.step e.pre e.input = some (e.post, e.output) ∧
      Run m e.post after s := by
  induction run generalizing after with
  | nil => simp at here
  | @snoc trace s s' i o run step ih =>
    rcases List.eq_nil_or_concat after with rfl | ⟨rest, last, rfl⟩
    · obtain ⟨rfl, he⟩ := List.append_inj' here rfl
      obtain rfl := (List.cons.inj he).1
      exact ⟨run, step, .nil⟩
    have at' : trace ++ [⟨s, i, o, s'⟩] = (before ++ e :: rest) ++ [last] := by
      simpa using here
    obtain ⟨hrest, he⟩ := List.append_inj' at' rfl
    obtain rfl := (List.cons.inj he).1
    obtain ⟨h₁, h₂, h₃⟩ := ih hrest
    exact ⟨h₁, h₂, by simpa using Run.snoc h₃ step⟩

theorem entry_step (run : Run m start trace s) (member : e ∈ trace) :
    ∃ before, Run m start before e.pre ∧ m.step e.pre e.input = some (e.post, e.output) := by
  obtain ⟨before, after, here⟩ := List.append_of_mem member
  obtain ⟨h₁, h₂, _⟩ := run.split here
  exact ⟨before, h₁, h₂⟩

theorem append {middle : σ} {trace' : List (Entry σ ι ο)} (run : Run m start trace middle)
    (rest : Run m middle trace' s) : Run m start (trace ++ trace') s := by
  induction rest with
  | nil => simpa using run
  | snoc _ step ih => rw [← List.append_assoc]; exact .snoc ih step

theorem of_append {trace' : List (Entry σ ι ο)} (run : Run m start (trace ++ trace') s) :
    ∃ middle, Run m start trace middle ∧ Run m middle trace' s := by
  cases trace' with
  | nil => exact ⟨s, by simpa using run, .nil⟩
  | cons e rest =>
    obtain ⟨before, step, after⟩ := run.split rfl
    exact ⟨e.pre, before, append (.snoc .nil step) after⟩

theorem last_post (run : Run m start trace s) (last : trace.getLast? = some e) :
    e.post = s := by
  cases run with
  | nil => cases last
  | snoc _ _ =>
    rw [List.getLast?_concat] at last
    rw [← Option.some.inj last]

section Stamps

variable {counter : σ → Nat} {stamps : Entry σ ι ο → Nat → Prop}

theorem stamps_le (run : Run m start trace s) (advances : ∀ e ∈ trace, e.Advances counter stamps)
    (member : e ∈ trace) {k : Nat} (stamped : stamps e k) : k ≤ counter s := by
  induction run with
  | nil => simp at member
  | @snoc trace s s' i o _ _ ih =>
    rcases List.mem_append.mp member with old | new
    · have below := ih (fun e he => advances e (List.mem_append_left _ he)) old
      have grows := (advances ⟨s, i, o, s'⟩ (by simp)).1
      exact Nat.le_trans below grows
    · obtain rfl := List.mem_singleton.mp new
      exact ((advances _ (by simp)).2 k stamped).2

theorem stamps_lt (run : Run m start trace s) (advances : ∀ e ∈ trace, e.Advances counter stamps)
    {before after : List (Entry σ ι ο)} {x y : Entry σ ι ο} (here : trace = before ++ y :: after)
    (earlier : x ∈ before) {j k : Nat} (first : stamps x j) (second : stamps y k) : j < k := by
  obtain ⟨run', -, -⟩ := run.split here
  have below : j ≤ counter y.pre :=
    run'.stamps_le (fun e he => advances e (by simp [here, he])) earlier first
  have above := ((advances y (by simp [here])).2 k second).1
  exact Nat.lt_of_le_of_lt below above

end Stamps

end Run

/-- Something happened that `P` accepts together with its past, and `Q` held of every
entry after it. -/
def Since {α : Type} (P : List α → α → Prop) (Q : α → Prop) (trace : List α) : Prop :=
  ∃ before e after, trace = before ++ e :: after ∧ P before e ∧ ∀ x ∈ after, Q x

namespace Since

variable {α : Type} {P : List α → α → Prop} {Q : α → Prop} {trace : List α} {e : α}

theorem now (happened : P trace e) : Since P Q (trace ++ [e]) :=
  ⟨trace, e, [], rfl, happened, by simp⟩

theorem later (since : Since P Q trace) (holds : Q e) : Since P Q (trace ++ [e]) := by
  obtain ⟨before, x, after, rfl, happened, kept⟩ := since
  refine ⟨before, x, after ++ [e], by simp, happened, ?_⟩
  intro y member
  rcases List.mem_append.mp member with old | new
  · exact kept y old
  · rw [List.mem_singleton.mp new]
    exact holds

theorem of_snoc (since : Since P Q (trace ++ [e])) : P trace e ∨ Since P Q trace ∧ Q e := by
  obtain ⟨before, x, after, split, happened, kept⟩ := since
  rcases List.eq_nil_or_concat after with rfl | ⟨rest, last, rfl⟩
  · obtain ⟨rfl, same⟩ := List.append_inj' split rfl
    obtain rfl := (List.cons.inj same).1
    exact .inl happened
  · have split : trace ++ [e] = (before ++ x :: rest) ++ [last] := by simpa using split
    obtain ⟨rfl, same⟩ := List.append_inj' split rfl
    obtain rfl := (List.cons.inj same).1
    exact .inr ⟨⟨before, x, rest, rfl, happened, fun y hy => kept y (by simp [hy])⟩, kept _ (by simp)⟩

theorem cons_iff {P : α → Prop} {x : α} :
    Since (fun _ => P) Q (x :: trace) ↔ P x ∧ (∀ y ∈ trace, Q y) ∨ Since (fun _ => P) Q trace := by
  constructor
  · rintro ⟨before, e, after, split, happened, kept⟩
    cases before with
    | nil =>
      cases split
      exact .inl ⟨happened, kept⟩
    | cons y before =>
      cases split
      exact .inr ⟨before, e, after, rfl, happened, kept⟩
  · rintro (⟨happened, kept⟩ | ⟨before, e, after, rfl, happened, kept⟩)
    · exact ⟨[], x, trace, rfl, happened, kept⟩
    · exact ⟨x :: before, e, after, rfl, happened, kept⟩

instance decidable {P : α → Prop} [DecidablePred P] [DecidablePred Q] :
    ∀ trace, Decidable (Since (fun _ => P) Q trace)
  | [] => isFalse fun ⟨_, _, _, split, _⟩ => by simp at split
  | _ :: trace =>
    have : Decidable (Since (fun _ => P) Q trace) := decidable trace
    decidable_of_iff _ cons_iff.symm

end Since

/-- Each entry passes the check together with its past. -/
def allWithPast {α : Type} (check : List α → α → Bool) (past : List α) : List α → Bool
  | [] => true
  | x :: rest => check past x && allWithPast check (past ++ [x]) rest

theorem allWithPast_append {α : Type} (check : List α → α → Bool) (past trace rest : List α) :
    allWithPast check past (trace ++ rest) =
      (allWithPast check past trace && allWithPast check (past ++ trace) rest) := by
  induction trace generalizing past with
  | nil => simp [allWithPast]
  | cons x trace ih => simp [allWithPast, ih, Bool.and_assoc]

theorem allWithPast_snoc {α : Type} (check : List α → α → Bool) (past trace : List α) (e : α) :
    allWithPast check past (trace ++ [e]) =
      (allWithPast check past trace && check (past ++ trace) e) := by
  simp [allWithPast_append, allWithPast]

/-- Feed a list of inputs to a machine; `none` when one of them is refused. -/
def Machine.replay {σ ι ο : Type} (m : Machine σ ι ο) (s : σ) :
    List ι → Option (List (Entry σ ι ο) × σ)
  | [] => some ([], s)
  | i :: is =>
    match m.step s i with
    | none => none
    | some (s', o) => (m.replay s' is).map fun r => (⟨s, i, o, s'⟩ :: r.1, r.2)

variable {σ ι ο : Type}

theorem Machine.replay_cons {m : Machine σ ι ο} {s s' : σ} {i : ι} {is : List ι}
    {trace : List (Entry σ ι ο)} (played : m.replay s (i :: is) = some (trace, s')) :
    ∃ s₁ o rest, m.step s i = some (s₁, o) ∧ m.replay s₁ is = some (rest, s') ∧
      trace = ⟨s, i, o, s₁⟩ :: rest := by
  simp only [replay] at played
  split at played
  · contradiction
  · rename_i s₁ o step
    simp only [Option.map_eq_some_iff, Prod.mk.injEq] at played
    obtain ⟨⟨rest, _⟩, later, rfl, rfl⟩ := played
    exact ⟨s₁, o, rest, step, later, rfl⟩

theorem Machine.replay_run (m : Machine σ ι ο) (s s' : σ) (is : List ι)
    (trace : List (Entry σ ι ο)) (played : m.replay s is = some (trace, s')) :
    Run m s trace s' ∧ trace.map (·.input) = is := by
  induction is generalizing s trace with
  | nil =>
    obtain ⟨rfl, rfl⟩ := played
    exact ⟨.nil, rfl⟩
  | cons i is ih =>
    obtain ⟨s₁, o, rest, step, later, rfl⟩ := replay_cons played
    obtain ⟨run, inputs⟩ := ih s₁ rest later
    exact ⟨Run.append (.snoc .nil step) run, congrArg (i :: ·) inputs⟩

section Replays

variable {σ ι ο : Type} (m : Machine σ ι ο) (s : σ) (is : List ι)
  (P : List (Entry σ ι ο) → σ → Prop) [∀ trace s', Decidable (P trace s')]

/-- A replay that ends as `P` says gives a run that does. -/
theorem Machine.exists_run_on (passed : ((m.replay s is).any fun r => P r.1 r.2) = true) :
    ∃ trace s', Run m s trace s' ∧ trace.map (·.input) = is ∧ P trace s' := by
  obtain ⟨⟨trace, s'⟩, replayed, holds⟩ := Option.any_eq_true _ _ |>.mp passed
  obtain ⟨run, inputs⟩ := m.replay_run s s' is trace replayed
  exact ⟨trace, s', run, inputs, of_decide_eq_true holds⟩

theorem Machine.exists_run (passed : ((m.replay s is).any fun r => P r.1 r.2) = true) :
    ∃ trace s', Run m s trace s' ∧ P trace s' := by
  obtain ⟨trace, s', run, -, holds⟩ := m.exists_run_on s is P passed
  exact ⟨trace, s', run, holds⟩

theorem Machine.exists_lawful {Q : List (Entry σ ι ο) → σ → Prop}
    (law : ∀ {trace s'}, Run m s trace s' → Q trace s')
    (passed : ((m.replay s is).any fun r => P r.1 r.2) = true) :
    ∃ trace s', Run m s trace s' ∧ Q trace s' ∧ P trace s' := by
  obtain ⟨trace, s', run, holds⟩ := m.exists_run s is P passed
  exact ⟨trace, s', run, law run, holds⟩

theorem Machine.exists_run_from (start : Option σ)
    (passed : (start.any fun s => (m.replay s is).any fun r => P r.1 r.2) = true) :
    ∃ s trace s', start = some s ∧ Run m s trace s' ∧ P trace s' := by
  obtain ⟨s, started, passed⟩ := Option.any_eq_true _ _ |>.mp passed
  obtain ⟨trace, s', run, holds⟩ := m.exists_run s is P passed
  exact ⟨s, trace, s', started, run, holds⟩

theorem Machine.exists_last (last : ι) (P : List (Entry σ ι ο) → Entry σ ι ο → Prop)
    [∀ before e, Decidable (P before e)]
    (passed : ((m.replay s is).any fun r =>
      (m.step r.2 last).any fun q => P r.1 ⟨r.2, last, q.2, q.1⟩) = true) :
    ∃ before e s', Run m s (before ++ [e]) s' ∧ P before e := by
  obtain ⟨⟨before, t⟩, replayed, stepped⟩ := Option.any_eq_true _ _ |>.mp passed
  obtain ⟨⟨s', o⟩, step, holds⟩ := Option.any_eq_true _ _ |>.mp stepped
  exact ⟨before, ⟨t, last, o, s'⟩, s', .snoc (m.replay_run s t is before replayed).1 step,
    of_decide_eq_true holds⟩

end Replays

end DisplayMux
