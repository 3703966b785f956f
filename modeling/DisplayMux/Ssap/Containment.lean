import DisplayMux.Ssap.Transport

/-! Which failures of an effect end the session, and what the coordinator hears of an
effect that was executed. -/
namespace DisplayMux.Ssap

open Tv (Host HostMap TvMode Event Effect Daemon Answer)
open Await

def command (config : DaemonConfig) : Effect → SsapTask Unit
  | .setInput target _ _ =>
    match config.inputFor target with
    | none => pure ()
    | some inputId =>
      discard <| requestPayload setInput (.object [("inputId", .string inputId)]) config.inputs
  | .observe _ => do
    discard snapshot
    discard <| observe config.inputs
  | .setMultiView enabled _ => setMultiview enabled config.inputs
  | .wake target _ =>
    match config.wakeOnLan.get target with
    | none => fail (.missingWakeAddress target)
    | some mac => sendWakePacket mac

/-- The epoch under which the failure of an effect is reported. -/
def failureEpoch : Effect → Option Nat
  | .setInput _ switchEpoch _ | .observe switchEpoch | .setMultiView _ switchEpoch => some switchEpoch
  | .wake _ _ => none

/-- The failure of a command is told to the coordinator, and then the session goes on
from either queue of effects. -/
def Survives (config : DaemonConfig) (effect : Effect) (s : Link) (e : SsapError) (t : Link) : Prop :=
  ∃ switchEpoch, failureEpoch effect = some switchEpoch ∧
    executeEffect config effect s = notifySafety (.commandFailed switchEpoch e.publicReason) t ∧
    ∀ pinged rest, ∀ next ∈ [Selected.safety (some effect), .ordinary (some effect)],
      serve config pinged (next :: rest) s =
        (do notifySafety (.commandFailed switchEpoch e.publicReason); serve config false rest) t

/-- Only a failure of the connection ends the session. -/
structure Contained (config : DaemonConfig) (effect : Effect) (s : Link) : Prop where
  passes : ∀ e t, executeEffect config effect s = .error (.failed e) t →
    e.recoverableCommandError = false
  survives : ∀ e t, command config effect s = .error (.failed e) t →
    e.recoverableCommandError = true → Survives config effect s e t

section Reports

variable {α : Type} {x : SsapTask α} {s t : Link} {switchEpoch : Nat} {answer : α → Event} {e : SsapError}

theorem notifySafety_failed {event : Event} (ran : notifySafety event s = .error (.failed e) t) :
    e = .coordinatorClosed := by
  unfold notifySafety at ran
  split at ran <;> cases ran
  rfl

variable (switchEpoch answer) in
theorem report_recoverable (failed : x s = .error (.failed e) t)
    (recoverable : e.recoverableCommandError = true) :
    report switchEpoch answer x s = notifySafety (.commandFailed switchEpoch e.publicReason) t := by
  unfold report
  rw [bind_of_ok (attempt_of_failed failed)]
  simp only [recoverable, if_true]

variable (x s switchEpoch answer) in
theorem report_cases :
    (∃ a u, x s = .ok a u ∧ report switchEpoch answer x s = notifySafety (answer a) u) ∨
    (∃ e u, x s = .error (.failed e) u ∧ e.recoverableCommandError = true ∧
      report switchEpoch answer x s = notifySafety (.commandFailed switchEpoch e.publicReason) u) ∨
    ∃ stop u, report switchEpoch answer x s = .error stop u ∧
      ∀ e, stop = .failed e → e.recoverableCommandError = false := by
  cases ended : x s with
  | ok a u =>
    refine .inl ⟨a, u, rfl, ?_⟩
    unfold report
    rw [bind_of_ok (attempt_of_ok ended)]
  | error stop u =>
    cases stop with
    | pending =>
      refine .inr (.inr ⟨.pending, u, ?_, fun e stopped => by cases stopped⟩)
      unfold report
      rw [bind_of_error (attempt_of_pending ended)]
    | failed e =>
      cases recoverable : e.recoverableCommandError with
      | true => exact .inr (.inl ⟨e, u, rfl, recoverable, report_recoverable _ _ ended recoverable⟩)
      | false =>
        refine .inr (.inr ⟨.failed e, u, ?_, fun lost stopped => by cases stopped; exact recoverable⟩)
        unfold report
        rw [bind_of_ok (attempt_of_failed ended)]
        simp only [recoverable, Bool.false_eq_true, if_false]
        rfl

theorem report_failed (ran : report switchEpoch answer x s = .error (.failed e) t) :
    e.recoverableCommandError = false := by
  rcases report_cases x s switchEpoch answer with
    ⟨a, u, -, told⟩ | ⟨lost, u, -, -, told⟩ | ⟨stop, u, passed, connection⟩
  · rw [notifySafety_failed (told.symm.trans ran)]
    rfl
  · rw [notifySafety_failed (told.symm.trans ran)]
    rfl
  · cases passed.symm.trans ran
    exact connection e rfl

end Reports

section Effects

variable {config : DaemonConfig} {effect : Effect} {s t : Link} {e : SsapError}

theorem survives_of_told {switchEpoch : Nat} (epoch : failureEpoch effect = some switchEpoch)
    (told : executeEffect config effect s =
      notifySafety (.commandFailed switchEpoch e.publicReason) t) : Survives config effect s e t := by
  refine ⟨switchEpoch, epoch, told, fun pinged rest next member => ?_⟩
  have serves : serve config pinged (next :: rest) s =
      (do executeEffect config effect; serve config false rest) s := by
    simp only [List.mem_cons, List.not_mem_nil, or_false] at member
    rcases member with rfl | rfl <;> rfl
  rw [serves]
  simp only [bind, EStateM.bind, told]

theorem udpCall_failed (ran : udpCall s = .error (.failed e) t) : e = .io := by
  unfold udpCall at ran
  split at ran <;> cases ran
  rfl

theorem sendWakePacket_failed {mac : String} {bytes : List Nat} (parsed : parseMac mac = .ok bytes)
    (ran : sendWakePacket mac s = .error (.failed e) t) : e = .io := by
  unfold sendWakePacket at ran
  rw [parsed, bind_of_ok (show ofResult (.ok bytes) s = .ok bytes s from rfl)] at ran
  rcases error_of_bind ran with failed | ⟨-, u, -, ran⟩
  · exact udpCall_failed failed
  rcases error_of_bind ran with failed | ⟨-, u, -, ran⟩
  · exact udpCall_failed failed
  · rcases error_of_bind ran with failed | ⟨-, u, -, ran⟩
    · exact udpCall_failed failed
    · cases ran

theorem parseMac_error {mac : String} (failed : parseMac mac = .error e) : e = .invalidMacAddress := by
  unfold parseMac at failed
  dsimp only at failed
  split at failed
  · cases failed
    rfl
  · split at failed <;> cases failed
    rfl

theorem executeEffect_failed (ran : executeEffect config effect s = .error (.failed e) t)
    (told : (failureEpoch effect).isSome = true) : e.recoverableCommandError = false := by
  cases effect with
  | setInput target switchEpoch fallback =>
    simp only [executeEffect] at ran
    cases route : config.inputFor target with
    | none =>
      rw [route] at ran
      rw [notifySafety_failed ran]
      rfl
    | some inputId =>
      rw [route] at ran
      exact report_failed ran
  | observe switchEpoch =>
    simp only [executeEffect] at ran
    exact report_failed ran
  | setMultiView enabled switchEpoch => exact report_failed ran
  | wake target requestEpoch => cases told

theorem command_survives (failed : command config effect s = .error (.failed e) t)
    (recoverable : e.recoverableCommandError = true) (told : (failureEpoch effect).isSome = true) :
    Survives config effect s e t := by
  cases effect with
  | setInput target switchEpoch fallback =>
    refine survives_of_told rfl ?_
    simp only [command, executeEffect] at failed ⊢
    cases route : config.inputFor target with
    | none =>
      rw [route] at failed
      cases failed
    | some inputId =>
      rw [route] at failed
      exact report_recoverable _ _ (error_of_discard failed) recoverable
  | observe switchEpoch =>
    refine survives_of_told rfl ?_
    simp only [command, executeEffect] at failed ⊢
    exact report_recoverable _ _ (error_of_discard failed) recoverable
  | setMultiView enabled switchEpoch =>
    exact survives_of_told rfl (report_recoverable _ _ failed recoverable)
  | wake target requestEpoch => cases told

end Effects

/-- Only a failure of the connection ends the session, exactly when the effect does not
wake a host whose address is missing or malformed. -/
theorem effect_contained_iff (config : DaemonConfig) (effect : Effect) (s : Link) :
    Contained config effect s ↔ ∀ target requestEpoch, effect = .wake target requestEpoch →
      ∃ mac bytes, config.wakeOnLan.get target = some mac ∧ parseMac mac = .ok bytes := by
  constructor
  · rintro contained target requestEpoch rfl
    cases address : config.wakeOnLan.get target with
    | none =>
      have lost := contained.passes (.missingWakeAddress target) s (by
        simp only [executeEffect, address]
        rfl)
      cases lost
    | some mac =>
      cases parsed : parseMac mac with
      | ok bytes => exact ⟨mac, bytes, rfl, parsed⟩
      | error e =>
        obtain rfl := parseMac_error parsed
        have lost := contained.passes .invalidMacAddress s (by
          simp only [executeEffect, address, sendWakePacket, parsed]
          rfl)
        cases lost
  intro addressed
  cases told : failureEpoch effect with
  | some switchEpoch =>
    have told : (failureEpoch effect).isSome = true := by rw [told]; rfl
    exact ⟨fun e t ran => executeEffect_failed ran told,
      fun e t failed recoverable => command_survives failed recoverable told⟩
  | none =>
    cases effect <;> cases told
    rename_i target requestEpoch
    obtain ⟨mac, bytes, address, parsed⟩ := addressed target requestEpoch rfl
    constructor
    · intro e t ran
      simp only [executeEffect, address] at ran
      rw [sendWakePacket_failed parsed ran]
      rfl
    · intro e t failed recoverable
      simp only [command, address] at failed
      rw [sendWakePacket_failed parsed failed] at recoverable
      cases recoverable

/-- An accepted configuration without an address for the right host: the wake that
entering it asks for ends the session, and the connection is given up. -/
theorem missing_wake_address_ends_session : ∃ (config : Loaded) (t : Link),
    serve config.toDaemonConfig false [.ordinary (some (.wake .right 1))]
      { arrivals := [] } = .error (.failed (.missingWakeAddress .right)) t ∧
    SsapError.recoverableCommandError (.missingWakeAddress .right) = true ∧ t.told = [] :=
  ⟨⟨⟨.controller, "token", ⟨some "HDMI_4", some "HDMI_3", none⟩, .empty, {}, {}⟩, by decide⟩, _,
    rfl, rfl, rfl⟩

end DisplayMux.Ssap
