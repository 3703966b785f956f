import DisplayMux.Lib.Await
import DisplayMux.Ssap.Config
import DisplayMux.Tv.Daemon

/-! The task that talks to the display: requests and their answers, the effects of the
coordinator, and the loop of a synchronized session. What the display sends, how far each
write, notice and packet gets, and what the coordinator shows when it is looked at is free;
the lengths of the time limits are left out. -/
namespace DisplayMux.Ssap

open Tv (Host HostMap TvMode Event Effect)

inductive SsapError where
  | tls | webSocket | json
  | codec (e : CodecError)
  | timeout (what : String)
  | closed | coordinatorClosed
  | missingWakeAddress (host : Host)
  | invalidMacAddress | io
  deriving DecidableEq, Repr

namespace SsapError

def recoverableCommandError : SsapError → Bool
  | .codec _ | .missingWakeAddress _ | .invalidMacAddress => true
  | _ => false

def publicReason : SsapError → String
  | .tls => "tls_configuration"
  | .webSocket => "websocket_transport"
  | .json => "invalid_ssap_json"
  | .codec _ => "ssap_command_failed"
  | .timeout _ => "ssap_timeout"
  | .closed => "ssap_closed"
  | .coordinatorClosed => "coordinator_closed"
  | .missingWakeAddress _ => "wake_address_missing"
  | .invalidMacAddress => "wake_address_invalid"
  | .io => "wake_io_failed"

end SsapError

structure ReconnectBackoff where
  initialMs : Nat
  maxMs : Nat
  nextMs : Nat
  consecutiveFailures : Nat
  deriving DecidableEq, Repr

namespace ReconnectBackoff

def new (initialMs maxMs : Nat) : ReconnectBackoff := ⟨initialMs, maxMs, initialMs, 0⟩

/-- The delay before the next attempt and the number of failures so far. -/
def failed (b : ReconnectBackoff) : (Nat × Nat) × ReconnectBackoff :=
  let failures := saturatingAdd b.consecutiveFailures 1
  ((b.nextMs, failures),
    { b with consecutiveFailures := failures, nextMs := min (saturatingMul b.nextMs 2) b.maxMs })

def synchronized (b : ReconnectBackoff) : ReconnectBackoff :=
  { b with nextMs := b.initialMs, consecutiveFailures := 0 }

end ReconnectBackoff

/-- A text or binary message is what its JSON decodes to, if it does. -/
inductive Message where
  | text (json : Option Value)
  | binary (json : Option Value)
  | ping (payload : List UInt8)
  | pong (payload : List UInt8)
  | close
  | frame
  deriving Repr

inductive Arrival where
  | message (message : Message)
  | broken | ended | pending
  deriving Repr

structure Snapshot where
  tvMode : TvMode := .unknown
  pendingMultiview : Option Bool := none
  deriving DecidableEq, Repr

/-- The task's side of everything it talks to: what is still to come, and what it has
sent, told and waited so far. A write, notice or packet that is not listed succeeds. -/
structure Link where
  arrivals : List Arrival
  writes : List Wait := []
  notices : List Wait := []
  udp : List Wait := []
  snapshots : List Snapshot := []
  nextId : Nat := 1
  sent : List Message := []
  told : List Event := []
  packets : List (List Nat) := []

abbrev SsapTask := Await SsapError Link

open Await

def codec {α : Type} (x : Except CodecError α) : SsapTask α := ofResult (x.mapError .codec)

def writeMessage (message : Message) : SsapTask Unit := fun s =>
  let after := { s with writes := s.writes.tail }
  match s.writes.headD .done with
  | .done => .ok () { after with sent := s.sent ++ [message] }
  | .broken => .error (.failed .webSocket) after
  | .pending => .error .pending after

theorem writeMessage_done {message : Message} {s : Link} (written : s.writes.headD .done = .done) :
    writeMessage message s = .ok () { s with writes := s.writes.tail, sent := s.sent ++ [message] } := by
  simp only [writeMessage, written]

theorem writeMessage_failed {message : Message} {s : Link} (failed : s.writes.headD .done ≠ .done) :
    ∃ stop, (stop = .pending ∨ stop = .failed .webSocket) ∧
      writeMessage message s = .error stop { s with writes := s.writes.tail } := by
  unfold writeMessage
  cases written : s.writes.headD .done with
  | done => exact absurd written failed
  | broken => exact ⟨_, .inr rfl, rfl⟩
  | pending => exact ⟨_, .inl rfl, rfl⟩

def readMessage : SsapTask Message := fun s =>
  match s.arrivals with
  | [] => .error .pending s
  | arrival :: rest =>
    let after := { s with arrivals := rest }
    match arrival with
    | .message message => .ok message after
    | .broken => .error (.failed .webSocket) after
    | .ended => .error (.failed .closed) after
    | .pending => .error .pending after

/-- The coordinator is told through a bounded queue: the task waits for a free place. -/
def notifySafety (event : Event) : SsapTask Unit := fun s =>
  let after := { s with notices := s.notices.tail }
  match s.notices.headD .done with
  | .done => .ok () { after with told := s.told ++ [event] }
  | .broken => .error (.failed .coordinatorClosed) after
  | .pending => .error .pending after

theorem notifySafety_done {event : Event} {s : Link} (taken : s.notices.headD .done = .done) :
    notifySafety event s = .ok () { s with notices := s.notices.tail, told := s.told ++ [event] } := by
  simp only [notifySafety, taken]

theorem notifySafety_refused {event : Event} {s : Link} (refused : s.notices.headD .done ≠ .done) :
    ∃ stop, (stop = .pending ∨ stop = .failed .coordinatorClosed) ∧
      notifySafety event s = .error stop { s with notices := s.notices.tail } := by
  unfold notifySafety
  cases taken : s.notices.headD .done with
  | done => exact absurd taken refused
  | broken => exact ⟨_, .inr rfl, rfl⟩
  | pending => exact ⟨_, .inl rfl, rfl⟩

def snapshot : SsapTask Snapshot := fun s =>
  .ok (s.snapshots.headD {}) { s with snapshots := s.snapshots.tail }

def sendJson (value : Value) : SsapTask Unit := writeMessage (.text (some value))

def decodeMessage : Message → SsapTask (Option Value)
  | .text (some value) | .binary (some value) => pure (some value)
  | .text none | .binary none => fail .json
  | .ping payload => do
    writeMessage (.pong payload)
    pure none
  | .pong _ | .frame => pure none
  | .close => fail .closed

def receiveJson : SsapTask Value := fun s =>
  loop (readMessage >>= decodeMessage) (s.arrivals.length + 1) s

def handleUnsolicited (value : Value) (inputs : HostMap String) : SsapTask Unit :=
  if responseId value = some currentAppSubscriptionId then do
    let payload ← codec (successfulPayload value)
    let mode := (← snapshot).tvMode
    let input ← codec (parseCurrentInput payload inputs)
    notifySafety (.subscriptionObserved mode input)
  else pure ()

/-- Rounds of waiting under one time limit, each of which takes a message. -/
def rounds {α : Type} (what : String) (body : SsapTask (Option α)) : SsapTask α := fun s =>
  timeout (.timeout what) (loop body (s.arrivals.length + 1)) s

/-- One round of waiting: the awaited answer ends it, anything else is handled. -/
def awaitId (expectedId : String) (inputs : HostMap String) : SsapTask (Option Value) := do
  let value ← receiveJson
  if responseId value = some expectedId then pure (some value)
  else do
    handleUnsolicited value inputs
    pure none

def waitForId (expectedId : String) (inputs : HostMap String) : SsapTask Value :=
  rounds "response" (awaitId expectedId inputs)

def requestId (n : Nat) : String := "request-" ++ toString n

def takeId : SsapTask String := fun s =>
  .ok (requestId s.nextId) { s with nextId := saturatingAdd s.nextId 1 }

def requestPayload (uri : String) (payload : Value) (inputs : HostMap String) : SsapTask Value := do
  let id ← takeId
  sendJson (request id uri payload)
  let response ← waitForId id inputs
  codec (successfulPayload response)

def observe (inputs : HostMap String) : SsapTask (Option Host × HostMap Bool) := do
  let currentApp ← requestPayload getCurrentApp (.object []) inputs
  let listed ← requestPayload getInputs (.object []) inputs
  let input ← codec (parseCurrentInput currentApp inputs)
  let signals ← codec (parseSignals listed inputs)
  pure (input, signals)

/-- The setting is changed by an alert whose every end changes it. -/
def setMultiview (enabled : Bool) (inputs : HostMap String) : SsapTask Unit := do
  let lunaUri := "luna://com.webos.settingsservice/setSystemSettings"
  let params := Value.object [("category", .string "commercial"),
    ("settings", .object [("splitscreenEnable", .string (if enabled then "on" else "off"))])]
  let action := Value.object [("params", params), ("uri", .string lunaUri)]
  let created ← requestPayload createAlert (.object [
    ("buttons", .array [.object [("label", .string ""), ("onClick", .string lunaUri), ("params", params)]]),
    ("message", .string " "), ("onclose", action), ("onfail", action)]) inputs
  let alertId ← codec (match created.get "alertId" with
    | some alertId => .ok alertId
    | none => .error (.missingField "alertId"))
  discard <| requestPayload closeAlert (.object [("alertId", alertId)]) inputs

def hexDigitValue (c : Char) : Option Nat :=
  if '0' ≤ c ∧ c ≤ '9' then some (c.toNat - 48)
  else if 'a' ≤ c ∧ c ≤ 'f' then some (c.toNat - 87)
  else if 'A' ≤ c ∧ c ≤ 'F' then some (c.toNat - 55)
  else none

/-- A byte in hexadecimal digits; one plus sign may stand before them. -/
def fromStrRadix16 (text : List Char) : Option Nat :=
  let digits := if text.head? = some '+' then text.tail else text
  if digits = [] then none
  else digits.foldlM (fun byte c => do
    let digit ← hexDigitValue c
    if byte * 16 + digit ≤ 255 then some (byte * 16 + digit) else none) 0

def parseMac (mac : String) : Except SsapError (List Nat) :=
  let parts := mac.toList.splitOn ':'
  if parts.length ≠ 6 then .error .invalidMacAddress
  else match parts.mapM fromStrRadix16 with
    | some bytes => .ok bytes
    | none => .error .invalidMacAddress

def udpCall : SsapTask Unit := fun s =>
  let after := { s with udp := s.udp.tail }
  match s.udp.headD .done with
  | .done => .ok () after
  | .broken => .error (.failed .io) after
  | .pending => .error .pending after

def sendWakePacket (mac : String) : SsapTask Unit := do
  let bytes ← ofResult (parseMac mac)
  let packet := List.replicate 6 255 ++ (List.replicate 16 bytes).flatten
  udpCall -- bind
  udpCall -- set_broadcast
  udpCall -- send_to
  modify fun s => { s with packets := s.packets ++ [packet] }

/-- A command whose outcome is told: its own error as a failure, an error of the
connection not at all. -/
def report {α : Type} (switchEpoch : Nat) (answer : α → Event) (command : SsapTask α) : SsapTask Unit := do
  match ← attempt command with
  | .ok a => notifySafety (answer a)
  | .error e =>
    if e.recoverableCommandError then notifySafety (.commandFailed switchEpoch e.publicReason)
    else fail e

def observedMode (view : Snapshot) : TvMode :=
  match view.pendingMultiview with
  | some true => .multiview
  | some false => .fullscreen
  | none => view.tvMode

def executeEffect (config : DaemonConfig) : Effect → SsapTask Unit
  | .setInput target switchEpoch _ =>
    match config.inputFor target with
    | none => notifySafety (.commandFailed switchEpoch ("display_route_missing:" ++ target.asStr))
    | some inputId =>
      report switchEpoch (fun _ => .commandAcknowledged switchEpoch target)
        (requestPayload setInput (.object [("inputId", .string inputId)]) config.inputs)
  | .observe switchEpoch => do
    let mode := observedMode (← snapshot)
    report switchEpoch (fun seen => .observation switchEpoch mode seen.1 seen.2) (observe config.inputs)
  | .setMultiView enabled switchEpoch =>
    report switchEpoch (fun _ => .multiViewAcknowledged switchEpoch enabled)
      (setMultiview enabled config.inputs)
  | .wake target _ =>
    match config.wakeOnLan.get target with
    | none => fail (.missingWakeAddress target)
    | some mac => sendWakePacket mac

/-- What the loop of a session turns to next. A queue of effects that is closed and
empty gives no effect; a keepalive tick knows whether the last ping is overdue. -/
inductive Selected where
  | safety (effect : Option Effect)
  | message
  | ordinary (effect : Option Effect)
  | keepalive (overdue : Bool)
  deriving DecidableEq, Repr

def serve (config : DaemonConfig) : (pinged : Bool) → List Selected → SsapTask Unit
  | _, [] => throw .pending
  | pinged, next :: rest =>
    match next with
    | .safety none | .ordinary none => pure ()
    | .safety (some effect) | .ordinary (some effect) => do
      executeEffect config effect
      serve config false rest
    | .message => do
      let message ← readMessage
      if let some value ← decodeMessage message then
        handleUnsolicited value config.inputs
      serve config false rest
    | .keepalive overdue =>
      if pinged then
        if overdue then fail (.timeout "keepalive") else serve config true rest
      else do
        writeMessage (.ping [])
        serve config true rest

end DisplayMux.Ssap
