import DisplayMux.LanMouse.Upkeep

/-! A host's service and its capture task. The service asks for captures over a channel
while the task handles events of its own, and the two keep the same books. -/
namespace DisplayMux.LanMouse

/-- A call of the capture front end. The gate is shared, everything else is asked for. -/
def ServiceAct.deliver (clock : Nat) (gate : CaptureGate) :
    ServiceAct → CaptureGate × List CaptureRequest
  | .registry (.create handle pos type) => (gate, [.create handle pos type])
  | .registry (.destroy handle) => (gate, [.destroy handle])
  | .switch (.arm handle leaseEpoch peerSessionEpoch validForMs) =>
    let (gate, armed) := gate.arm handle leaseEpoch peerSessionEpoch (validForMs * nsPerMs) clock
    (gate, if armed then [.resumeIfFocused handle] else [])
  | .switch (.disarm leaseEpoch) => (gate.disarm leaseEpoch, [])
  | .switch (.release completion) => (gate.clear, [.release completion])
  | .reenable => (gate, [.reenable])
  | .setReleaseBind releaseBind => (gate, [.setReleaseBind releaseBind])
  | .registry (.resolve _ _) | .requestCaptureRelease _ _ | .switch (.decided _ _ _)
  | .switch (.spawn _ _) | .switch (.abort _) | .switch (.clipboard _)
  | .switch (.failed _ _ _) => (gate, [])

def deliver (clock : Nat) (gate : CaptureGate) : List ServiceAct → CaptureGate × List CaptureRequest
  | [] => (gate, [])
  | act :: acts =>
    let (gate, asked) := act.deliver clock gate
    let (gate, later) := deliver clock gate acts
    (gate, asked ++ later)

/-- The requests are those that the task has not taken yet. -/
structure Hub where
  service : Service
  requests : List CaptureRequest
  process : Process

inductive HubMove where
  | connection (handle : ClientHandle) (change : PeerChange)
  | event (event : ServiceEvent) (outside : Outside)
  | answer (answers : Answers)
  | task (turn : Turn)

def Turn.own : Turn → Bool
  | .elapse _ | .opened _ | .openFailed | .poll _ _ | .receive _ _ _ | .cancel => true
  | .arm _ _ _ _ | .disarm _ | .clear | .request _ _ => false

namespace Hub

def deliver (requests : List CaptureRequest) (process : Process) (t : ServiceScene) :
    Hub × List CaptureRequest :=
  let (gate, asked) := LanMouse.deliver t.clock process.task.gate t.log
  (⟨t.service, requests ++ asked, { process.withGate gate with clock := t.clock }⟩, asked)

def opened (localCommit : Vector UInt8 8) (clock : Nat) (config : ServiceConfig) : Option Hub :=
  (Service.started localCommit clock config).map fun t =>
    (deliver [] (.new clock config.releaseBind) t).1

def step (h : Hub) : HubMove → Option (Hub × List CaptureRequest)
  | .connection handle change =>
    let registry := h.service.registry.changePeer handle change
    some ({ h with service := { h.service with registry } }, [])
  | .event event outside =>
    (h.service.turn h.process.clock event outside).map (deliver h.requests h.process)
  | .answer answers =>
    match h.requests with
    | [] => none
    | request :: requests =>
      (h.process.step (.request request answers)).map fun p => (⟨h.service, requests, p.1⟩, [])
  | .task turn =>
    if turn.own then (h.process.step turn).map fun p => ({ h with process := p.1 }, []) else none

end Hub

/-- The service together with the capture task; the output is what the task is asked for. -/
def hub : Machine Hub HubMove (List CaptureRequest) := ⟨Hub.step⟩

abbrev HubEntry := Entry Hub HubMove (List CaptureRequest)

namespace Registry

theorem Spaced.resumed {captures : Captures} {r : Registry} {log : List RegistryAct}
    (spaced : Spaced none captures ⟨r, log⟩) : Spaced none (outstanding captures (requestsOf log)) ⟨r, []⟩ :=
  ⟨trivial, spaced.current, (apart_append.mp (by simpa [requestsOf] using spaced.apart)).2, spaced.placed,
    spaced.single, spaced.addressed⟩

theorem spaced_conserved : Conserved (Spaced none) where
  resumes {captures r log} spaced := by
    refine ⟨outstanding captures (requestsOf log), spaced.resumed, ?_⟩
    intro r' log' further
    have asks := requestsOf_append log log'
    have held : handlesOf (outstanding captures (requestsOf log)) = _ := handlesOf_outstanding
    refine ⟨?_, ?_, ?_, ?_, further.single, further.addressed⟩
    all_goals simp only [asks, outstanding_append]
    · rw [ordersOf_append, accepts_append, ← held]
      exact ⟨spaced.accepted, further.accepted⟩
    · exact further.current
    · exact apart_append.mpr ⟨spaced.apart, further.apart⟩
    · exact further.placed
  untouched spaced untouched := spaced.kept (untouched.unmoved none)
  resolve := resolve_spaced
  setClientActive := setClientActive_spaced
  addClient := addClient_spaced
  removeClient := removeClient_spaced
  updatePos := updatePos_spaced
  entered := entered_spaced
  removeIncoming captures addr := by
    rw [yields_iff]
    intro s a s' spaced ran
    exact ((removeIncoming_spaced captures addr).ok spaced ran).1
  reload := reload_spaced

end Registry

def CaptureRequest.registers : CaptureRequest → Bool
  | .create _ _ _ | .destroy _ => true
  | .release _ | .reenable | .setReleaseBind _ | .resumeIfFocused _ => false

section Delivery

variable {captures : Captures} {requests : List CaptureRequest}

theorem outstanding_registers : outstanding captures (requests.filter (·.registers)) =
    outstanding captures requests := by
  induction requests generalizing captures with
  | nil => rfl
  | cons request requests ih => cases request <;> exact ih

theorem ordersOf_registers :
    ordersOf (requests.filter (·.registers)) = (ordersOf requests).filter (!·.isCall) := by
  induction requests with
  | nil => rfl
  | cons request requests ih =>
    cases request <;>
      simpa [ordersOf, CaptureRequest.registers, CaptureRequest.order, Order.isCall] using ih

theorem deliver_act_registers (clock : Nat) (gate : CaptureGate) (act : ServiceAct) :
    (act.deliver clock gate).2.filter (·.registers) = requestsOf (registryActs [act]) := by
  rcases act with ⟨_ | _ | _⟩ | ⟨_ | _ | _ | _ | _ | _ | _ | _⟩ | _ | _ | _ <;> try rfl
  -- what is left is a permit, which the gate takes or not
  simp only [ServiceAct.deliver]
  split <;> rfl

theorem deliver_registers (clock : Nat) (gate : CaptureGate) (acts : List ServiceAct) :
    (deliver clock gate acts).2.filter (·.registers) = requestsOf (registryActs acts) := by
  induction acts generalizing gate with
  | nil => rfl
  | cons act acts ih =>
    have first := deliver_act_registers clock gate act
    have split : registryActs (act :: acts) = registryActs [act] ++ registryActs acts :=
      registryActs_append [act] acts
    rw [split, requestsOf_append, deliver, List.filter_append, first, ih]

end Delivery

namespace Hub

def oneClient : ServiceConfig where
  port := 4242
  switchController := some ⟨true, .controller, .controller, 1000, 10000, 500⟩
  clients := [(⟨[.v4 1], none, 4242, .left, true⟩, some .left)]
  releaseBind := [29, 42, 125, 56]

def calm : Outside := ⟨[], 0, 0, true, false⟩

end Hub

end DisplayMux.LanMouse
