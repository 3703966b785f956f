import DisplayMux.LanMouse.Bookkeeping

/-! What the service asks of the capture task in a run of the host. -/
namespace DisplayMux.LanMouse

theorem apart_of_registers {captures : Captures} {requests : List CaptureRequest}
    (apart : Apart captures (requests.filter (·.registers))) : Apart captures requests := by
  intro asked first
  rw [← outstanding_registers]
  exact apart _ (first.filter _)

def askedSince (start : Hub) (trace : List HubEntry) : List CaptureRequest :=
  start.requests ++ trace.flatMap (·.output)

structure Hub.Recorded (asked : List CaptureRequest) (h : Hub) (log : List RegistryAct) : Prop where
  asked : asked.filter (·.registers) = requestsOf log
  spaced : Registry.Spaced none [] ⟨h.service.registry, log⟩

structure RegistrationLaw (asked : List CaptureRequest) (r : Registry) : Prop where
  alternates : ∀ handle, Alternating (turns handle (ordersOf asked))
  current : ∀ handle, handle ∈ handlesOf (outstanding [] asked) ↔
    r.isActive handle = true ∨ ∃ incoming, (handle, incoming) ∈ r.incomingConnInfo
  addresses : (r.incomingConnInfo.map (·.2.addr)).Nodup
  sides : ∀ asked', asked' <+: asked → ∀ pos, (defaultsAt pos (outstanding [] asked')).length ≤ 1

section Runs

variable {localCommit : Vector UInt8 8} {clock : Nat} {config : ServiceConfig} {start h h' : Hub}
  {trace : List HubEntry} {asked output : List CaptureRequest} {log : List RegistryAct}

theorem recorded_start (opened : Hub.opened localCommit clock config = some start) :
    ∃ log, start.Recorded (askedSince start []) log := by
  obtain ⟨t, started, rfl⟩ := Option.map_eq_some_iff.mp opened
  obtain ⟨t', ran, rfl⟩ := Service.onRegistry_ok (Service.started_ok started)
  refine ⟨t'.log, ?_, (Registry.start_spaced config.clients).ok (Registry.new_fresh _) ran⟩
  have asks := deliver_registers clock (Process.new clock config.releaseBind).task.gate (t'.log.map .registry)
  simpa [askedSince, Hub.deliver, ServiceScene.afterRegistry] using asks

theorem recorded_step {move : HubMove} (recorded : h.Recorded asked log)
    (step : hub.step h move = some (h', output)) : ∃ log', h'.Recorded (asked ++ output) log' := by
  cases move with
  | connection handle change =>
    obtain ⟨rfl, rfl⟩ : _ = h' ∧ [] = output := by simpa [hub, Hub.step] using step
    exact ⟨log, by simpa using recorded.asked,
      Registry.spaced_conserved.untouched recorded.spaced (Registry.untouched_changePeer change)⟩
  | event event outside =>
    obtain ⟨t, done, delivered⟩ := Option.map_eq_some_iff.mp step
    obtain ⟨rfl, rfl⟩ : (Hub.deliver h.requests h.process t).1 = h' ∧
        (Hub.deliver h.requests h.process t).2 = output := Prod.mk.inj delivered
    refine ⟨log ++ registryActs t.log, ?_, ?_⟩
    · rw [List.filter_append, recorded.asked, requestsOf_append]
      exact congrArg (requestsOf log ++ ·) (deliver_registers t.clock h.process.task.gate t.log)
    · exact Service.turn_conserved Registry.spaced_conserved [] recorded.spaced done
  | answer answers =>
    have answered : Hub.step h (.answer answers) = some (h', output) := step
    unfold Hub.step at answered
    dsimp only at answered
    split at answered
    · contradiction
    · obtain ⟨p, -, same⟩ := Option.map_eq_some_iff.mp answered
      cases same
      exact ⟨log, by simpa using recorded.asked, recorded.spaced⟩
  | task turn =>
    have chosen : Hub.step h (.task turn) = some (h', output) := step
    unfold Hub.step at chosen
    dsimp only at chosen
    split at chosen
    · obtain ⟨p, -, same⟩ := Option.map_eq_some_iff.mp chosen
      cases same
      exact ⟨log, by simpa using recorded.asked, recorded.spaced⟩
    · contradiction

theorem recorded_run (opened : Hub.opened localCommit clock config = some start)
    (run : Run hub start trace h) :
    ∃ log, h.Recorded (askedSince start trace) log := by
  induction run with
  | nil => exact recorded_start opened
  | @snoc trace h h' move output run step ih =>
    obtain ⟨log, recorded⟩ := ih
    have asked : askedSince start (trace ++ [⟨h, move, output, h'⟩]) = askedSince start trace ++ output := by
      simp [askedSince]
    rw [asked]
    exact recorded_step recorded step

/-- The captures that the service asks for fit together, and there is at most one default
capture at each side of the screen, in every run of the host. -/
theorem registrations_consistent (opened : Hub.opened localCommit clock config = some start)
    (run : Run hub start trace h) : RegistrationLaw (askedSince start trace) h.service.registry := by
  obtain ⟨log, recorded⟩ := recorded_run opened run
  have asked := recorded.asked
  refine ⟨?_, ?_, recorded.spaced.addressed.addrs, ?_⟩
  · intro handle
    rw [← turns_uncalled, ← ordersOf_registers, asked]
    refine alternating_of_accepts ?_ handle
    simpa [handlesOf] using recorded.spaced.accepted
  · intro handle
    rw [← outstanding_registers, asked, recorded.spaced.current]
    simp [Registry.registered, Registry.registers]
  · exact apart_of_registers (asked ▸ recorded.spaced.apart)

end Runs

def twoClients : ServiceConfig :=
  { Hub.oneClient with clients := Hub.oneClient.clients ++ [(⟨[.v4 2], none, 4242, .left, false⟩, none)] }

/-- The second client is activated at the side of the first, whose capture is destroyed before. -/
theorem replaced_client_consistent : ∃ start trace h, Hub.opened (.replicate 8 0) 0 twoClients = some start ∧
    Run hub start trace h ∧ RegistrationLaw (askedSince start trace) h.service.registry ∧
    askedSince start trace = [.create 0 .left .default, .destroy 0, .create 1 .left .default] := by
  have passed : ((Hub.opened (.replicate 8 0) 0 twoClients).any fun start =>
      (hub.replay start [.event (.frontend (.activate 1 true)) Hub.calm]).any fun r =>
        askedSince start r.1 = [.create 0 .left .default, .destroy 0, .create 1 .left .default]) = true := by
    decide +kernel
  obtain ⟨start, opened, replayed⟩ := Option.any_eq_true _ _ |>.mp passed
  obtain ⟨trace, h, run, asked⟩ := hub.exists_run start _ (fun trace _ => askedSince start trace = _) replayed
  exact ⟨start, trace, h, opened, run, registrations_consistent opened run, asked⟩

end DisplayMux.LanMouse
