import DisplayMux.Lib.Except
import DisplayMux.LanMouse.Lease

/-! The hub's client of the display controller. The controller's deadlines are times of
its own clock; the client turns them into times of the hub's clock, counted from the
moment the request was sent. How an exchange goes and what the clock reads is free. -/
namespace DisplayMux.LanMouse

def protocolVersion : UInt16 := 2

def maxResponseBytes : Nat := 64 * 1024

inductive RemoteRequestStatus where
  | waking | switching | grant | committed | denied | cancelled | fallback | expired
  deriving DecidableEq, Repr

def RemoteRequestStatus.asStr : RemoteRequestStatus → String
  | .waking => "waking"
  | .switching => "switching"
  | .grant => "grant"
  | .committed => "committed"
  | .denied => "denied"
  | .cancelled => "cancelled"
  | .fallback => "fallback"
  | .expired => "expired"

/-- The errors of the HTTP client and of the JSON reader are not looked into. -/
inductive SwitchClientError where
  | cancelled | timeout | responseTooLarge
  | protocolVersion (version : UInt16)
  | staleIdentity
  | denied (status reason : String)
  | http (status : Nat) (code message : String)
  | invalidBaseUrl | request | json
  deriving DecidableEq, Repr

structure PeerBundleReadiness where
  online : Bool
  keyboardReady : Bool
  pointerReady : Bool
  sessionEpoch : UInt64
  deriving DecidableEq, Repr

structure PreparedGrant where
  requestEpoch : UInt64
  grantEpoch : UInt64
  leaseExpiresAtMs : Nat
  grantExpiresAtMs : Nat
  deriving DecidableEq, Repr

structure RemoteLeaseIdentity where
  leaseId : String
  leaseEpoch : UInt64
  peerSessionEpoch : UInt64
  expiresAtMs : Nat
  deriving DecidableEq, Repr

structure RemoteGrantIdentity where
  grantEpoch : UInt64
  expiresAtMs : Nat
  deriving DecidableEq, Repr

structure RemoteEnterRequest where
  requestId : String
  target : SwitchHost
  requestEpoch : UInt64
  lease : RemoteLeaseIdentity
  status : RemoteRequestStatus
  grant : Option RemoteGrantIdentity
  reason : Option String
  deriving DecidableEq, Repr

structure ReadinessResponse where
  host : SwitchHost
  readiness : PeerBundleReadiness
  deriving DecidableEq, Repr

structure ApiEnvelope (α : Type) where
  protocolVersion : UInt16
  serverNowMs : Nat
  data : α
  deriving DecidableEq, Repr

structure TimedEnvelope (α : Type) where
  envelope : ApiEnvelope α
  requestStartedMs : Nat
  deriving DecidableEq, Repr

inductive Body (α : Type) where
  | envelope (envelope : ApiEnvelope α)
  | apiError (protocolVersion : UInt16) (code message : String)
  | unreadable
  deriving DecidableEq, Repr

/-- A response: its status, the sizes of the chunks it arrives in (`none` where the
stream breaks), and what the bytes say. -/
structure Response (α : Type) where
  status : Nat
  chunks : List (Option Nat)
  body : Body α
  deriving DecidableEq, Repr

inductive Sent (α : Type) where
  | cancelled
  | failed
  | answered (response : Response α)
  deriving DecidableEq, Repr

structure Exchange (α : Type) where
  startedMs : Nat
  sent : Sent α
  deriving DecidableEq, Repr

structure SwitchControllerConfig where
  urlIsBase : Bool
  localHost : SwitchHost
  serverHost : SwitchHost
  requestTimeoutMs : Nat
  leaseTtlMs : Nat
  edgeDoubleTapMs : Nat
  deriving DecidableEq, Repr

def localDeadline (requestStartedMs serverNowMs remoteDeadlineMs : Nat) :
    Except SwitchClientError Nat :=
  if remoteDeadlineMs ≤ serverNowMs then .error .timeout
  else match checkedAdd requestStartedMs (remoteDeadlineMs - serverNowMs) with
    | some deadline => .ok deadline
    | none => .error .timeout

namespace SwitchController

section Requests

variable {α : Type}

def send : Sent α → Except SwitchClientError (Response α)
  | .cancelled => .error .cancelled
  | .failed => .error .request
  | .answered response => .ok response

def collect (size : Nat) : List (Option Nat) → Except SwitchClientError Unit
  | [] => .ok ()
  | none :: _ => .error .request
  | some chunk :: rest =>
    if maxResponseBytes < size + chunk then .error .responseTooLarge else collect (size + chunk) rest

def decode (response : Response α) : Except SwitchClientError (ApiEnvelope α) := do
  collect 0 response.chunks
  match response.body with
  | .envelope envelope =>
    if envelope.protocolVersion ≠ protocolVersion then
      throw (.protocolVersion envelope.protocolVersion)
    return envelope
  | .apiError version code message =>
    if version ≠ protocolVersion then throw (.protocolVersion version)
    throw (.http response.status code message)
  | .unreadable =>
    if response.status < 200 ∨ 300 ≤ response.status then
      throw (.http response.status "invalid_error_response"
        "controller returned an unparseable error body")
    throw .json

def endpoint (config : SwitchControllerConfig) : Except SwitchClientError Unit :=
  if config.urlIsBase then .ok () else .error .invalidBaseUrl

def requestEnter (config : SwitchControllerConfig) (x : Exchange α) :
    Except SwitchClientError (TimedEnvelope α) := do
  endpoint config
  let response ← send x.sent
  let envelope ← decode response
  return ⟨envelope, x.startedMs⟩

end Requests

def publishReadiness (config : SwitchControllerConfig) (host : SwitchHost)
    (readiness : PeerBundleReadiness) (sent : Sent ReadinessResponse) :
    Except SwitchClientError Unit := do
  endpoint config
  let response ← send sent
  let envelope ← decode response
  if envelope.data.host ≠ host ∨ envelope.data.readiness ≠ readiness then throw .staleIdentity

def validateRequest (context : GateContext) (request : RemoteEnterRequest) :
    Except SwitchClientError Unit :=
  if request.requestId ≠ context.lease.requestId ∨ request.target ≠ context.target ∨
      request.lease.leaseId ≠ context.lease.leaseId ∨
      request.lease.leaseEpoch ≠ context.lease.leaseEpoch ∨
      request.lease.peerSessionEpoch ≠ context.lease.peerSessionEpoch ∨
      request.requestEpoch = 0 then .error .staleIdentity
  else .ok ()

/-- What the client makes of one answer while it prepares: the grant, or nothing yet. -/
def examine (context : GateContext) (result : TimedEnvelope RemoteEnterRequest) :
    Except SwitchClientError (Option PreparedGrant) := do
  let data := result.envelope.data
  validateRequest context data
  match data.status with
  | .grant =>
    match data.grant with
    | none => throw .staleIdentity
    | some grant =>
      let leaseExpiresAtMs ← localDeadline result.requestStartedMs result.envelope.serverNowMs
        data.lease.expiresAtMs
      let grantExpiresAtMs ← localDeadline result.requestStartedMs result.envelope.serverNowMs
        grant.expiresAtMs
      return some ⟨data.requestEpoch, grant.grantEpoch, leaseExpiresAtMs, grantExpiresAtMs⟩
  | .waking | .switching => return none
  | status => throw (.denied status.asStr (data.reason.getD "no reason supplied"))

/-- One round of polling: the clock, the sleep and whether it was cancelled, the clock
after it, and the next request. -/
structure Poll where
  nowMs : Nat
  cancelled : Bool
  wokeMs : Nat
  exchange : Exchange RemoteEnterRequest
  deriving DecidableEq, Repr

/-- The polling loop, over the rounds it has had; `none` while it is still running. -/
def pollRequest (config : SwitchControllerConfig) (context : GateContext) (deadlineMs : Nat) :
    List Poll → TimedEnvelope RemoteEnterRequest → Option (Except SwitchClientError PreparedGrant)
  | polls, result =>
    match examine context result with
    | .error error => some (.error error)
    | .ok (some grant) => some (.ok grant)
    | .ok none =>
      match polls with
      | [] => none
      | poll :: rest =>
        if deadlineMs ≤ poll.nowMs then some (.error .timeout)
        else if poll.cancelled then some (.error .cancelled)
        else if deadlineMs ≤ poll.wokeMs then some (.error .timeout)
        else match requestEnter config poll.exchange with
          | .error error => some (.error error)
          | .ok next => pollRequest config context deadlineMs rest next

/-- What the clock and the controller do while a switch is prepared. -/
structure Preparation where
  startMs : Nat
  published : Sent ReadinessResponse
  readyMs : Nat
  create : Exchange RemoteEnterRequest
  polls : List Poll
  deriving DecidableEq, Repr

def Preparation.exchanges (p : Preparation) : List (Exchange RemoteEnterRequest) :=
  p.create :: p.polls.map (·.exchange)

def prepare (config : SwitchControllerConfig) (context : GateContext)
    (readiness : PeerBundleReadiness) (p : Preparation) :
    Option (Except SwitchClientError PreparedGrant) :=
  match checkedAdd p.startMs config.requestTimeoutMs with
  | none => some (.error .timeout)
  | some deadlineMs =>
    match publishReadiness config context.target readiness p.published with
    | .error error => some (.error error)
    | .ok () =>
      if deadlineMs ≤ p.readyMs then some (.error .timeout)
      else match requestEnter config p.create with
        | .error error => some (.error error)
        | .ok result => pollRequest config context deadlineMs p.polls result

end SwitchController

/-- A clock that runs at the rate of real time, ahead of it by an unknown offset. -/
structure Clock where
  offset : Int

/-- The real instant at which the clock shows this reading. -/
def Clock.instant (c : Clock) (reading : Nat) : Int := reading - c.offset

theorem Clock.instant_lt (c : Clock) {a b : Nat} (before : a < b) : c.instant a < c.instant b := by
  unfold instant
  omega

section Deadlines

variable {requestStartedMs serverNowMs remoteDeadlineMs deadline : Nat}

theorem localDeadline_ok
    (mapped : localDeadline requestStartedMs serverNowMs remoteDeadlineMs = .ok deadline) :
    serverNowMs < remoteDeadlineMs ∧
      deadline = requestStartedMs + (remoteDeadlineMs - serverNowMs) := by
  unfold localDeadline at mapped
  split at mapped
  · contradiction
  split at mapped
  · rename_i sum added
    obtain ⟨-, rfl⟩ := checkedAdd_eq_some.mp added
    cases mapped
    exact ⟨by omega, rfl⟩
  · contradiction

theorem localDeadline_error
    (unusable : remoteDeadlineMs ≤ serverNowMs ∨
      u64Max < requestStartedMs + (remoteDeadlineMs - serverNowMs)) :
    localDeadline requestStartedMs serverNowMs remoteDeadlineMs = .error .timeout := by
  unfold localDeadline
  split
  · rfl
  · rw [checkedAdd, if_neg (by omega)]

theorem localDeadline_instant_le {hub daemon : Clock}
    (answered : hub.instant requestStartedMs ≤ daemon.instant serverNowMs)
    (mapped : localDeadline requestStartedMs serverNowMs remoteDeadlineMs = .ok deadline) :
    hub.instant deadline ≤ daemon.instant remoteDeadlineMs := by
  obtain ⟨later, rfl⟩ := localDeadline_ok mapped
  unfold Clock.instant at *
  omega

end Deadlines

namespace SwitchController

variable {config : SwitchControllerConfig} {context : GateContext}
  {result : TimedEnvelope RemoteEnterRequest} {prepared : PreparedGrant} {deadlineMs : Nat}

theorem examine_grant (granted : examine context result = .ok (some prepared)) :
    ∃ grant, result.envelope.data.grant = some grant ∧
      localDeadline result.requestStartedMs result.envelope.serverNowMs
        result.envelope.data.lease.expiresAtMs = .ok prepared.leaseExpiresAtMs ∧
      localDeadline result.requestStartedMs result.envelope.serverNowMs
        grant.expiresAtMs = .ok prepared.grantExpiresAtMs := by
  simp only [examine, bind_ok] at granted
  obtain ⟨-, -, granted⟩ := granted
  split at granted
  · split at granted
    · contradiction
    rename_i grant reported
    simp only [bind_ok] at granted
    obtain ⟨leaseExpiresAtMs, lease, grantExpiresAtMs, ends, made⟩ := granted
    cases made
    exact ⟨grant, reported, lease, ends⟩
  all_goals cases granted

theorem pollRequest_granted {polls : List Poll}
    (returned : pollRequest config context deadlineMs polls result = some (.ok prepared)) :
    examine context result = .ok (some prepared) ∨ ∃ poll ∈ polls, ∃ result',
      requestEnter config poll.exchange = .ok result' ∧ examine context result' = .ok (some prepared) := by
  induction polls generalizing result with
  | nil =>
    unfold pollRequest at returned
    split at returned
    · simp at returned
    · rename_i granted
      simp only [Option.some.injEq, Except.ok.injEq] at returned
      exact .inl (returned ▸ granted)
    · simp at returned
  | cons poll rest ih =>
    unfold pollRequest at returned
    split at returned
    · simp at returned
    · rename_i granted
      simp only [Option.some.injEq, Except.ok.injEq] at returned
      exact .inl (returned ▸ granted)
    dsimp only at returned
    repeat' split at returned
    all_goals try (simp at returned)
    rename_i next asked
    rcases ih returned with granted | ⟨poll', member, later⟩
    · exact .inr ⟨poll, by simp, next, asked, granted⟩
    · exact .inr ⟨poll', by simp [member], later⟩

theorem prepare_granted {readiness : PeerBundleReadiness} {p : Preparation}
    (returned : prepare config context readiness p = some (.ok prepared)) :
    ∃ x ∈ p.exchanges, ∃ result, requestEnter config x = .ok result ∧
      examine context result = .ok (some prepared) := by
  unfold prepare at returned
  repeat' split at returned
  all_goals try (simp at returned)
  rename_i first asked
  rcases pollRequest_granted returned with granted | ⟨poll, member, next, asked', granted⟩
  · exact ⟨p.create, by simp [Preparation.exchanges], first, asked, granted⟩
  · exact ⟨poll.exchange, by simpa [Preparation.exchanges] using .inr ⟨poll, member, rfl⟩, next, asked',
      granted⟩

end SwitchController

open SwitchController

theorem committed_before_armed_deadlines {trace : List LeaseEntry} {m : BundleLeaseManager}
    (run : Run leaseManager .new trace m) {a : LeaseEntry} (member : a ∈ trace)
    {context armed committed : GateContext} {grant grant' : GrantIdentity} {prepared : PreparedGrant}
    {ready ready' : Bool} {session session' leaseEpoch : UInt64} {armedMs nowMs : Nat}
    {handle : CaptureHandle}
    (arm : a.input = .armGrant context prepared.requestEpoch prepared.grantEpoch
      prepared.leaseExpiresAtMs prepared.grantExpiresAtMs ready session armedMs)
    (arms : a.output = .armed (.ok (armed, grant)))
    (commits : (m.commit handle leaseEpoch ready' session' nowMs).1 = .ok (committed, grant'))
    (same : committed.lease.leaseEpoch = context.lease.leaseEpoch) :
    nowMs < prepared.leaseExpiresAtMs ∧ nowMs < prepared.grantExpiresAtMs := by
  obtain ⟨_, -, step⟩ := run.entry_step member
  have answered : a.pre.answer a.input = (a.post, a.output) := Option.some.inj step
  rw [arm, arms] at answered
  simp only [BundleLeaseManager.answer, Prod.mk.injEq, LeaseReply.armed.injEq] at answered
  obtain ⟨-, -, shape, granted, -⟩ := BundleLeaseManager.armGrant_ok (Prod.ext answered.2 rfl)
  obtain ⟨state, -, -, -, -, -, early, early'⟩ := BundleLeaseManager.commit_ok (Prod.ext commits rfl)
  have epoch : committed.lease.leaseEpoch = armed.lease.leaseEpoch := by
    rw [shape, GateContext.expiringAt_leaseEpoch, same]
  obtain ⟨rfl, rfl⟩ := armed_once run member arms state epoch
  rw [shape, GateContext.expiringAt_expiresAtMs] at early
  have ends : grant'.expiresAtMs = prepared.grantExpiresAtMs := by rw [granted]
  omega

/-- The mapping of deadlines is conservative. So a commit under a prepared and armed
grant happens before both deadlines that the controller reported with it. -/
theorem clock_mapping_conservative :
    (∀ (hub daemon : Clock) requestStartedMs serverNowMs remoteDeadlineMs deadline,
      hub.instant requestStartedMs ≤ daemon.instant serverNowMs →
      localDeadline requestStartedMs serverNowMs remoteDeadlineMs = .ok deadline →
      hub.instant deadline ≤ daemon.instant remoteDeadlineMs) ∧
    (∀ requestStartedMs serverNowMs remoteDeadlineMs,
      remoteDeadlineMs ≤ serverNowMs ∨
        u64Max < requestStartedMs + (remoteDeadlineMs - serverNowMs) →
      ∃ error, localDeadline requestStartedMs serverNowMs remoteDeadlineMs = .error error) ∧
    (∀ config context readiness p prepared,
      prepare config context readiness p = some (.ok prepared) →
      ∃ x ∈ p.exchanges, ∃ result grant, requestEnter config x = .ok result ∧
        examine context result = .ok (some prepared) ∧ result.envelope.data.grant = some grant ∧
        ∀ (hub daemon : Clock) trace m a ready session armedMs armed granted,
          hub.instant result.requestStartedMs ≤ daemon.instant result.envelope.serverNowMs →
          Run leaseManager .new trace m → a ∈ trace →
          a.input = .armGrant context prepared.requestEpoch prepared.grantEpoch
            prepared.leaseExpiresAtMs prepared.grantExpiresAtMs ready session armedMs →
          a.output = .armed (.ok (armed, granted)) →
          ∀ handle leaseEpoch ready' session' nowMs committed grant',
            (m.commit handle leaseEpoch ready' session' nowMs).1 = .ok (committed, grant') →
            committed.lease.leaseEpoch = context.lease.leaseEpoch →
            hub.instant nowMs < daemon.instant result.envelope.data.lease.expiresAtMs ∧
              hub.instant nowMs < daemon.instant grant.expiresAtMs) := by
  refine ⟨?_, ?_, ?_⟩
  · intro hub daemon _ _ _ _ answered mapped
    exact localDeadline_instant_le answered mapped
  · intro _ _ _ unusable
    exact ⟨.timeout, localDeadline_error unusable⟩
  intro config context readiness p prepared returned
  obtain ⟨x, member, result, asked, granted⟩ := prepare_granted returned
  obtain ⟨grant, reported, lease, ends⟩ := examine_grant granted
  refine ⟨x, member, result, grant, asked, granted, reported, ?_⟩
  intro hub daemon trace m a ready session armedMs armed granted answered run here arm arms
    handle leaseEpoch ready' session' nowMs committed grant' commits same
  have early := committed_before_armed_deadlines run here arm arms commits same
  exact ⟨Int.lt_of_lt_of_le (hub.instant_lt early.1) (localDeadline_instant_le answered lease),
    Int.lt_of_lt_of_le (hub.instant_lt early.2) (localDeadline_instant_le answered ends)⟩

def sampleConfig : SwitchControllerConfig := ⟨true, .controller, .controller, 1000, 50, 500⟩

def grantAnswer : TimedEnvelope RemoteEnterRequest :=
  ⟨⟨2, 1010, "request-1", .left, 7, ⟨"lease-1", 1, 22, 1060⟩, .grant, some ⟨9, 1050⟩, none⟩, 102⟩

def grantedAtOnce : Preparation :=
  ⟨100, .answered ⟨200, [some 80], .envelope ⟨2, 1000, .left, ⟨true, true, true, 22⟩⟩⟩, 101,
    ⟨102, .answered ⟨200, [some 300], .envelope grantAnswer.envelope⟩⟩, []⟩

/-- The controller's clock is 905 ms ahead of the hub's, so it showed 1007 when the
request was sent; the commit at 115 comes when it shows 1020. -/
theorem granted_commit_in_time : ∃ trace m, Run leaseManager .new trace m ∧
    (∃ committed, (m.commit 4 1 true 22 115).1 = .ok committed) ∧
    (⟨0⟩ : Clock).instant 115 < (⟨905⟩ : Clock).instant 1060 ∧
    (⟨0⟩ : Clock).instant 115 < (⟨905⟩ : Clock).instant 1050 := by
  let context : GateContext := ⟨4, .left, "request-1", "lease-1", 1, 22, 150⟩
  let arm : LeaseCall := .armGrant context 7 9 152 142 true 22 110
  obtain ⟨trace, m, run, commits, a, here, input, output⟩ := leaseManager.exists_run .new
    [.reserve 4 .left "request-1" "lease-1" 22 true 100 50, arm] (fun trace m =>
      (m.commit 4 1 true 22 115).1 = .ok (context, ⟨7, 9, 142⟩) ∧ ∃ e ∈ trace,
        e.input = arm ∧ e.output = .armed (.ok (context, ⟨7, 9, 142⟩))) (by decide)
  obtain ⟨x, member, result, grant, asked, -, reported, inTime⟩ :=
    clock_mapping_conservative.2.2 sampleConfig context ⟨true, true, true, 22⟩ grantedAtOnce
      ⟨7, 9, 152, 142⟩ (by decide)
  obtain rfl := List.mem_singleton.mp member
  obtain rfl : grantAnswer = result := Except.ok.inj asked
  obtain rfl : ⟨9, 1050⟩ = grant := Option.some.inj reported
  refine ⟨trace, m, run, ⟨_, commits⟩, ?_⟩
  exact inTime ⟨0⟩ ⟨905⟩ trace m a true 22 110 context ⟨7, 9, 142⟩ (by decide) run here input output
    4 1 true 22 115 context ⟨7, 9, 142⟩ commits rfl

end DisplayMux.LanMouse
