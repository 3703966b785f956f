import DisplayMux.Lib.Except
import DisplayMux.Ssap.Codec

/-! The configuration of the display daemon and its validation. -/
namespace DisplayMux.Ssap

open Tv (Host HostMap)

structure Timeouts where
  commandMs : UInt64 := 10000
  observationMs : UInt64 := 5000
  grantMs : UInt64 := 5000
  wakeMs : UInt64 := 60000
  leaseMs : UInt64 := 15000
  signalPollMs : UInt64 := 10000
  reconnectInitialMs : UInt64 := 1000
  reconnectMaxMs : UInt64 := 60000
  keepaliveMs : UInt64 := 10000
  keepaliveTimeoutMs : UInt64 := 30000
  deriving DecidableEq, Repr

def Timeouts.named (t : Timeouts) : List (String × Nat) :=
  [("command_ms", t.commandMs.toNat), ("observation_ms", t.observationMs.toNat),
    ("grant_ms", t.grantMs.toNat), ("wake_ms", t.wakeMs.toNat), ("lease_ms", t.leaseMs.toNat),
    ("signal_poll_ms", t.signalPollMs.toNat), ("reconnect_initial_ms", t.reconnectInitialMs.toNat),
    ("reconnect_max_ms", t.reconnectMaxMs.toNat), ("keepalive_ms", t.keepaliveMs.toNat),
    ("keepalive_timeout_ms", t.keepaliveTimeoutMs.toNat)]

structure Limits where
  commandQueue : Nat := 64
  safetyQueue : Nat := 16
  retainedRequests : Nat := 32
  reconnectAlertAfter : Nat := 10
  deriving DecidableEq, Repr

def Limits.named (l : Limits) : List (String × Nat) :=
  [("command_queue", l.commandQueue), ("safety_queue", l.safetyQueue),
    ("retained_requests", l.retainedRequests), ("reconnect_alert_after", l.reconnectAlertAfter)]

/-- The addresses and the path of the key are left out: they only say where to connect. -/
structure DaemonConfig where
  serverHost : Host
  controllerToken : String
  inputs : HostMap String
  wakeOnLan : HostMap String := .empty
  timeouts : Timeouts := {}
  limits : Limits := {}
  deriving DecidableEq, Repr

inductive ConfigError where
  | emptyControllerToken
  | missingInput (host : Host)
  | emptyInput (host : Host)
  | zeroTimeout (name : String)
  | zeroLimit (name : String)
  deriving DecidableEq, Repr

/-- The characters with the Unicode property `White_Space`, which trimming removes. -/
def isWhitespace (c : Char) : Bool :=
  let n := c.toNat
  (9 ≤ n && n ≤ 13) || n == 0x20 || n == 0x85 || n == 0xa0 || n == 0x1680 ||
    (0x2000 ≤ n && n ≤ 0x200a) || n == 0x2028 || n == 0x2029 || n == 0x202f || n == 0x205f || n == 0x3000

def isBlank (s : String) : Bool := s.toList.all isWhitespace

def checkEach {α : Type} (bad : α → Bool) (error : α → ConfigError) :
    List α → Except ConfigError Unit
  | [] => .ok ()
  | a :: rest => if bad a then .error (error a) else checkEach bad error rest

namespace DaemonConfig

def validate (config : DaemonConfig) : Except ConfigError Unit :=
  if config.controllerToken = "" then .error .emptyControllerToken
  else match config.inputs.get config.serverHost with
    | none => .error (.missingInput config.serverHost)
    | some serverInput =>
      if isBlank serverInput then .error (.emptyInput config.serverHost)
      else do
        checkEach (fun entry => isBlank entry.2) (fun entry => .emptyInput entry.1) (entries config.inputs)
        checkEach (fun field => field.2 == 0) (fun field => .zeroTimeout field.1) config.timeouts.named
        checkEach (fun field => field.2 == 0) (fun field => .zeroLimit field.1) config.limits.named

def inputFor (config : DaemonConfig) (host : Host) : Option String := config.inputs.get host

end DaemonConfig

/-- A configuration that was read from a file: it passed its validation. -/
structure Loaded extends DaemonConfig where
  accepted : toDaemonConfig.validate = .ok ()

/-- Every host is recognised by each name of its input exactly when no two hosts have
inputs that share a name. -/
theorem input_identified_iff (config : Loaded) :
    (∀ host inputId appId payload, config.inputs.get host = some inputId →
      (eqIgnoreAsciiCase appId inputId = true ∨ eqIgnoreAsciiCase appId (expectedApp inputId) = true) →
      payload.get "appId" = some (.string appId) →
      parseCurrentInput payload config.inputs = .ok (some host)) ↔
    ∀ first second a b, first ≠ second → config.inputs.get first = some a →
      config.inputs.get second = some b → confusable a b = false := by
  constructor
  · intro faithful first second a b different routed other
    by_contra shared
    obtain ⟨appId, isFirst, isSecond⟩ := confusable_iff.mp (by simpa using shared)
    let payload := Value.object [("appId", .string appId)]
    have reads : payload.get "appId" = some (.string appId) := rfl
    have one := faithful first a appId payload routed (by simpa [names] using isFirst) reads
    have two := faithful second b appId payload other (by simpa [names] using isSecond) reads
    rw [one] at two
    cases two
    exact different rfl
  intro separate host inputId appId payload routed named reads
  have told : (payload.get "appId").bind Value.asStr = some appId := by rw [reads]; rfl
  have known : (names inputId).any (eqIgnoreAsciiCase appId) = true := by simpa [names] using named
  obtain ⟨other, reported⟩ := named_reported told routed known
  obtain ⟨otherId, otherRouted, otherKnown⟩ := reported_named told reported
  by_cases same : other = host
  · rw [reported, same]
  · have apart := separate other host otherId inputId same otherRouted routed
    have shared := confusable_iff.mpr ⟨appId, otherKnown, known⟩
    simp [apart] at shared

/-- The inputs of controller and right host differ as texts, but the display reports
both under one name: the right host's display is taken for the controller's. -/
theorem shared_name_misattributed : ∃ config : Loaded,
    config.inputs.get .controller = some "HDMI_4" ∧ config.inputs.get .right = some "HDMI4" ∧
    eqIgnoreAsciiCase "com.webos.app.hdmi4" (expectedApp "HDMI4") = true ∧
    parseCurrentInput (.object [("appId", .string "com.webos.app.hdmi4")]) config.inputs =
      .ok (some .controller) :=
  ⟨⟨⟨.controller, "token", ⟨some "HDMI_4", some "HDMI4", none⟩, .empty, {}, {}⟩, by decide⟩,
    rfl, rfl, by decide, by rfl⟩

end DisplayMux.Ssap
