import Mathlib.Data.List.Basic

/-! Rules for programs that change a state and may stop with an exception. -/
namespace DisplayMux

open Std.Do

set_option mvcgen.warning false

variable {ε σ α : Type} {P Q : σ → Prop} {x : EStateM ε σ α} {s s' : σ}

theorem get_bind (f : σ → EStateM ε σ α) : (get >>= f) s = f s s := rfl

theorem modify_bind (g : σ → σ) (f : PUnit → EStateM ε σ α) : (modify g >>= f) s = f ⟨⟩ (g s) := rfl

theorem ok_of_triple {post : PostCond α (.except ε (.arg σ .pure))} (triple : ⦃fun s => ⌜P s⌝⦄ x ⦃post⦄)
    {a : α} (holds : P s) (ran : x s = .ok a s') : (post.1 a s').down := by
  have after := triple s holds
  simp only [WP.wp, PredTrans.apply, EStateM.run, ran] at after
  exact after

theorem error_of_triple {post : PostCond α (.except ε (.arg σ .pure))}
    (triple : ⦃fun s => ⌜P s⌝⦄ x ⦃post⦄) {e : ε} (holds : P s) (ran : x s = .error e s') :
    (post.2.1 e s').down := by
  have after := triple s holds
  simp only [WP.wp, PredTrans.apply, EStateM.run, ran] at after
  exact after

/-- The program ends in `Q` when it starts in `P`, whether it succeeds or not. -/
abbrev Ensures (P Q : σ → Prop) (x : EStateM ε σ α) : Prop :=
  ⦃fun s => ⌜P s⌝⦄ x ⦃post⟨fun _ s => ⌜Q s⌝, fun _ s => ⌜Q s⌝⟩⦄

theorem Ensures.ok (ensures : Ensures P Q x) {a : α} (holds : P s) (ran : x s = .ok a s') : Q s' :=
  ok_of_triple ensures holds ran

theorem Ensures.error (ensures : Ensures P Q x) {e : ε} (holds : P s) (ran : x s = .error e s') :
    Q s' :=
  error_of_triple ensures holds ran

theorem Ensures.of_start {R : σ → σ → Prop} (ensures : ∀ s, Ensures (· = s) (R s) x)
    (leads : ∀ s s', P s → R s s' → Q s') : Ensures P Q x := by
  intro s holds
  simp only [WP.wp, PredTrans.apply, EStateM.run]
  cases ran : x s with
  | ok a s' => exact leads s s' holds ((ensures s).ok rfl ran)
  | error e s' => exact leads s s' holds ((ensures s).error rfl ran)

/-- The program ends in `Q` when it starts in `P` and succeeds. -/
abbrev Yields (P Q : σ → Prop) (x : EStateM ε σ α) : Prop :=
  ⦃fun s => ⌜P s⌝⦄ x ⦃post⟨fun _ s => ⌜Q s⌝, fun _ _ => ⌜True⌝⟩⦄

theorem Yields.ok (yields : Yields P Q x) {a : α} (holds : P s) (ran : x s = .ok a s') : Q s' :=
  ok_of_triple yields holds ran

theorem yields_iff : Yields P Q x ↔ ∀ s a s', P s → x s = .ok a s' → Q s' := by
  constructor
  · intro yields s a s' holds ran
    exact yields.ok holds ran
  intro runs s holds
  simp only [WP.wp, PredTrans.apply, EStateM.run]
  cases ran : x s with
  | ok a s' => exact runs s a s' holds ran
  | error e s' => trivial

@[spec]
theorem discard_spec (x : EStateM ε σ α) (Q : PostCond PUnit (.except ε (.arg σ .pure))) :
    ⦃wp⟦x⟧ (fun _ => Q.1 ⟨⟩, Q.2)⦄ discard x ⦃Q⦄ := by
  intro s
  simp only [WP.wp, PredTrans.apply, EStateM.run, discard, Functor.discard, Functor.mapConst,
    EStateM.map, Function.comp, Function.const]
  cases x s <;> exact id

theorem Yields.forM {β : Type} {f : β → EStateM ε σ PUnit} (items : List β)
    (keep : ∀ b, Yields P P (f b)) : Yields P P (items.forM f) := by
  induction items with
  | nil => mvcgen [List.forM_nil]
  | cons b items ih =>
    have first := keep b
    change Yields P P (do f b; items.forM f)
    mvcgen [first, ih]

end DisplayMux
