import DisplayMux.Lib.Retained
import DisplayMux.Tv.Reach

/-! The books of the daemon: the active request and the bounded history behind it.
A request keeps its identity from the moment it is let in, and each identity stands
in the books once. -/
namespace DisplayMux.Tv

open Retained ProtocolState EnterRequest

namespace ProtocolState

def retained (s : ProtocolState) : List EnterRequest := s.requestHistory ++ s.activeRequest.toList

def identities (s : ProtocolState) := s.retained.map EnterRequest.identity

def retainedIds (s : ProtocolState) : List String := s.retained.map (·.requestId)

theorem modifyArchived_eq (requestId : String) (f : EnterRequest → EnterRequest)
    (history : List EnterRequest) :
    modifyArchived requestId f history = amend (·.requestId) requestId f history := by
  induction history with
  | nil => rfl
  | cons r rest ih => simp [modifyArchived, amend, ih]

theorem archiveInto_eq (history : List EnterRequest) (limit : Nat) (r : EnterRequest) :
    archiveInto history limit r = push (·.requestId) limit history r := rfl

end ProtocolState

/-- The history once a fallback has marked the request of the running session. -/
def demoted (s : ProtocolState) (reason : String) : List EnterRequest :=
  match s.activeSession with
  | none => s.requestHistory
  | some a => modifyArchived a.requestId
      (fun r => if r.status = .committed then { r with status := .fallback, reason := some reason } else r)
      s.requestHistory

theorem fallenHistory_eq (s : ProtocolState) (reason : String) :
    fallenHistory s reason = match s.activeRequest with
      | none => demoted s reason
      | some r => ProtocolState.archiveInto (demoted s reason) s.retainedRequestLimit
          { r with status := .fallback, reason := some reason } := rfl

/-- The session `a` was opened by the commit of `r`. -/
structure Entered (a : ActiveSession) (r : EnterRequest) : Prop where
  requestId : r.requestId = a.requestId
  requestEpoch : r.requestEpoch = a.requestEpoch
  target : r.target = a.target
  switchEpoch : r.switchEpoch = some a.switchEpoch
  leaseId : r.lease.leaseId = a.lease.leaseId
  leaseEpoch : r.lease.leaseEpoch = a.lease.leaseEpoch
  status : r.status = .committed

/-- The books are short enough and name each request once. -/
structure Tidy (s : ProtocolState) : Prop where
  room : 0 < s.retainedRequestLimit
  bounded : s.requestHistory.length ≤ s.retainedRequestLimit
  distinct : s.retainedIds.Nodup

/-- The newest entry is the request of the running session. -/
structure Booked (s : ProtocolState) : Prop extends Tidy s where
  entered : ∀ a, s.activeSession = some a → ∃ r, s.requestHistory.getLast? = some r ∧ Entered a r

/-- What a step can write into the books, up to what does not belong to a
request's identity. -/
inductive Filed (s : ProtocolState) (event : Event) (nowMs : Nat) (n : ProtocolState) : Prop where
  | kept (epoch : n.requestEpoch = s.requestEpoch)
      (history : n.requestHistory.map EnterRequest.identity = s.requestHistory.map EnterRequest.identity)
      (request : n.activeRequest.map EnterRequest.identity = s.activeRequest.map EnterRequest.identity)
  | opened (r : EnterRequest) (admits : Admits s event nowMs r) (epoch : n.requestEpoch = r.requestEpoch)
      (history : n.requestHistory = s.requestHistory)
      (request : n.activeRequest.map EnterRequest.identity = some r.identity)
  | archived (epoch : n.requestEpoch = s.requestEpoch) (free : n.activeRequest = none)
      (history : n.requestHistory.map EnterRequest.identity =
        newest s.retainedRequestLimit s.identities)
  -- a shutdown drops the active request without a trace
  | forgotten (epoch : n.requestEpoch = s.requestEpoch) (free : n.activeRequest = none)
      (history : n.requestHistory = s.requestHistory)
  | denied (r : EnterRequest) (admits : Admits s event nowMs r) (epoch : n.requestEpoch = r.requestEpoch)
      (free : n.activeRequest = none)
      (history : n.requestHistory.map EnterRequest.identity =
        newest s.retainedRequestLimit (s.identities ++ [r.identity]))

section Steps

variable {s n : ProtocolState} {t : Transition} {event : Event} {nowMs : Nat}
  {timing : ProtocolTiming} {r r' : EnterRequest} {requestId : String}

theorem retainedIds_eq (s : ProtocolState) : s.retainedIds = s.identities.map Prod.fst := by
  simp [retainedIds, identities, Function.comp_def, identity]

theorem identities_eq (s : ProtocolState) : s.identities =
    s.requestHistory.map EnterRequest.identity ++
      (s.activeRequest.map EnterRequest.identity).toList := by
  cases active : s.activeRequest <;>
    simp [identities, retained, active]

theorem unknown_fresh (unknown : s.request requestId = none) :
    requestId ∉ s.retainedIds := by
  intro member
  obtain ⟨r, there, rfl⟩ := List.mem_map.mp member
  simp only [request, Option.or_eq_none_iff, Option.filter_eq_none_iff,
    List.find?_eq_none] at unknown
  rcases List.mem_append.mp there with archived | active
  · exact unknown.2 r (by simpa using archived) (by simp)
  · exact unknown.1 r (by simpa using active) (by simp)

theorem ids_of_identities {log log' : List EnterRequest}
    (same : log'.map EnterRequest.identity = log.map EnterRequest.identity) :
    log'.map (·.requestId) = log.map (·.requestId) := by
  have first := congrArg (List.map Prod.fst) same
  simpa [Function.comp_def, identity] using first

theorem amend_identities {f : EnterRequest → EnterRequest}
    (keeps : ∀ r, (f r).identity = r.identity) (history : List EnterRequest) :
    (ProtocolState.modifyArchived requestId f history).map EnterRequest.identity =
      history.map EnterRequest.identity := by
  rw [ProtocolState.modifyArchived_eq, amend_map _ keeps]

theorem SameBooks.identities (same : SameBooks event s n) : n.identities = s.identities := by
  simp [ProtocolState.identities, ProtocolState.retained, same.history, same.request]

theorem archive_identities {history : List EnterRequest} {limit : Nat} (room : 0 < limit)
    (fresh : r.requestId ∉ history.map (·.requestId)) :
    (ProtocolState.archiveInto history limit r).map EnterRequest.identity =
      newest limit (history.map EnterRequest.identity ++ [r.identity]) := by
  rw [archiveInto_eq, push_of_fresh room fresh, map_newest]
  simp

theorem Tidy.history_distinct (tidy : Tidy s) : (s.requestHistory.map (·.requestId)).Nodup := by
  have distinct := tidy.distinct
  rw [retainedIds, retained, List.map_append] at distinct
  exact distinct.of_append_left

theorem Tidy.archive (tidy : Tidy s) (active : s.activeRequest = some r)
    (identity : r'.identity = r.identity) {history : List EnterRequest}
    (same : history.map EnterRequest.identity = s.requestHistory.map EnterRequest.identity) :
    (ProtocolState.archiveInto history s.retainedRequestLimit r').map EnterRequest.identity =
      newest s.retainedRequestLimit s.identities := by
  have named : r'.requestId = r.requestId := congrArg Prod.fst identity
  have fresh : r'.requestId ∉ history.map (·.requestId) := by
    have distinct := tidy.distinct
    rw [retainedIds, retained, active, List.map_append,
      List.nodup_append] at distinct
    rw [ids_of_identities same, named]
    exact fun member => distinct.2.2 _ member _ (by simp) rfl
  rw [archive_identities tidy.room fresh, same]
  simp [identities, retained, active, identity]

theorem demoted_identities (s : ProtocolState) (reason : String) :
    (demoted s reason).map EnterRequest.identity = s.requestHistory.map EnterRequest.identity := by
  unfold demoted
  split
  · rfl
  · refine amend_identities (fun r => ?_) _
    split <;> rfl

theorem Tidy.fallen (tidy : Tidy s) (reason : String) :
    (fallenHistory s reason).map EnterRequest.identity = newest s.retainedRequestLimit s.identities := by
  have same := demoted_identities s reason
  rw [fallenHistory_eq]
  cases active : s.activeRequest with
  | none =>
    have short : s.identities.length ≤ s.retainedRequestLimit := by
      simpa [identities, retained, active] using tidy.bounded
    rw [newest_of_length_le short]
    simpa [identities, retained, active] using same
  | some r =>
    refine tidy.archive active ?_ same
    rfl

theorem Tidy.cancelled (tidy : Tidy s) (requestId reason : String) :
    Tidy (cancelCommitted s requestId reason) ∧
      (cancelCommitted s requestId reason).identities = s.identities := by
  have history : (cancelCommitted s requestId reason).requestHistory.map identity =
      s.requestHistory.map identity := by
    refine amend_identities ?_ _
    exact fun _ => rfl
  have length := congrArg List.length history
  simp only [List.length_map] at length
  have listed : (cancelCommitted s requestId reason).identities = s.identities := by
    simpa [identities, retained] using history
  refine ⟨⟨tidy.room, length ▸ tidy.bounded, ?_⟩, listed⟩
  rw [retainedIds_eq, listed, ← retainedIds_eq]
  exact tidy.distinct

theorem Tidy.closed (tidy : Tidy s) (closes : Closes s r r')
    (same : SameBooks event ((takeActive s r).archiveRequest r') n) :
    Tidy n ∧ n.identities = newest s.retainedRequestLimit s.identities := by
  have archived := tidy.archive closes.active closes.identity rfl
  have listed : n.identities = newest s.retainedRequestLimit s.identities := by
    rw [same.identities]
    simpa [identities, retained] using archived
  refine ⟨⟨same.limit ▸ tidy.room, ?_, ?_⟩, listed⟩
  · rw [same.limit, same.history]
    exact length_push_le tidy.room
  · rw [retainedIds_eq, listed]
    exact (newest_sublist.map _).nodup (retainedIds_eq s ▸ tidy.distinct)

theorem filed_fallback {reason : String} {b : Bool} (tidy : Tidy n)
    (epoch : n.requestEpoch = s.requestEpoch) (limit : n.retainedRequestLimit = s.retainedRequestLimit)
    (listed : newest s.retainedRequestLimit n.identities = newest s.retainedRequestLimit s.identities) :
    Filed s event nowMs (beginFallbackWithRestore ⟨n, []⟩ nowMs timing reason b).next := by
  have fallen := tidy.fallen reason
  rw [limit, listed] at fallen
  exact .archived (by simpa using epoch) (by simp) (by simpa using fallen)

theorem SameBooks.tidy (same : SameBooks event s n) (tidy : Tidy s) : Tidy n := by
  refine ⟨same.limit ▸ tidy.room, by rw [same.limit, same.history]; exact tidy.bounded, ?_⟩
  rw [retainedIds_eq, same.identities, ← retainedIds_eq]
  exact tidy.distinct

theorem SameBooks.filed (same : SameBooks event s n) : Filed s event nowMs n :=
  .kept same.requestEpoch (by rw [same.history]) (by rw [same.request])

theorem switch_books (began : beginSwitch ⟨n, []⟩ nowMs timing = .ok t) :
    t.next.requestEpoch = n.requestEpoch ∧ t.next.requestHistory = n.requestHistory ∧
      t.next.retainedRequestLimit = n.retainedRequestLimit ∧ t.next.activeSession = n.activeSession ∧
      t.next.activeRequest.map EnterRequest.identity = n.activeRequest.map EnterRequest.identity := by
  obtain ⟨r, active, ⟨-, rfl⟩ | ⟨-, counts, rfl, -⟩⟩ := beginSwitch_ok began
  all_goals
    have active : n.activeRequest = some r := active
    simp [active, identity]

theorem switch_server (began : beginSwitch ⟨n, []⟩ nowMs timing = .ok t) :
    t.next.serverHost = n.serverHost := by
  obtain ⟨r, -, ⟨-, rfl⟩ | ⟨-, counts, rfl, -⟩⟩ := beginSwitch_ok began
  · rfl
  · rfl

theorem Outcome.filed (outcome : Outcome s event nowMs timing t) (tidy : Tidy s) :
    Filed s event nowMs t.next := by
  cases outcome with
  | kept same => exact same.toSameBooks.filed
  | asked same => exact same.filed
  | finished same | accepted same | answered same | reverified same | completed same =>
    exact .kept same.requestEpoch (by simp [same.history]) (by simp [same.request])
  | polled | renewed | changed | commandedAgain => exact .kept rfl rfl rfl
  | fellBack same =>
    exact filed_fallback (same.tidy tidy) same.requestEpoch same.limit (by rw [same.identities])
  | @calledOff a reason =>
    obtain ⟨tidy', listed⟩ := tidy.cancelled a.requestId reason
    exact filed_fallback tidy' rfl rfl (by rw [listed])
  | closed closes same =>
    obtain ⟨tidy', listed⟩ := tidy.closed closes same
    exact filed_fallback tidy' same.requestEpoch same.limit (by rw [listed, newest_newest])
  | @closedTwice r r' reason b closes =>
    obtain ⟨tidy', listed⟩ := tidy.closed closes (.of_eq rfl : SameBooks event _ _)
    have fallen := tidy'.fallen reason
    rw [listed] at fallen
    refine .archived (by simp) (by simp) ?_
    simpa [newest_newest] using fallen
  | settled closes => exact .archived rfl rfl (tidy.archive closes.active closes.identity rfl)
  | granted same active =>
    refine .kept same.requestEpoch (by simp [same.history]) ?_
    rw [active]
    rfl
  | restarted same active began =>
    obtain ⟨epoch, history, -, -, request⟩ := switch_books began
    exact .kept (epoch.trans same.requestEpoch) (by rw [history, same.history])
      (by rw [request, same.request])
  | opened admits start began =>
    obtain ⟨epoch, history, -, -, request⟩ := switch_books began
    rcases start with ⟨-, rfl⟩ | ⟨-, rfl⟩
    · exact .opened _ admits (epoch.trans admits.epoch.symm) history request
    · exact .opened _ admits (epoch.trans admits.epoch.symm) history request
  | woken admits => exact .opened _ admits admits.epoch.symm rfl rfl
  | @denied r r' admits identity =>
    have named : r'.requestId = r.requestId := congrArg Prod.fst identity
    have listed : s.identities = s.requestHistory.map EnterRequest.identity := by
      simp [identities, retained, admits.free]
    have fresh : r'.requestId ∉ s.requestHistory.map (·.requestId) := by
      have fresh := unknown_fresh admits.unknown
      simpa [retainedIds, retained, admits.free, named] using fresh
    refine .denied _ admits admits.epoch.symm admits.free ?_
    rw [listed, ← identity]
    exact archive_identities tidy.room fresh
  | @committed r e commits =>
    have identity : (committedRequest r nowMs timing).identity = r.identity := rfl
    exact .archived rfl rfl (tidy.archive commits.active identity rfl)
  | stopped => exact .forgotten rfl rfl rfl

theorem Outcome.limit (outcome : Outcome s event nowMs timing t) :
    t.next.retainedRequestLimit = s.retainedRequestLimit := by
  cases outcome with
  | kept same | fellBack same | finished same | accepted same | asked same | answered same
  | reverified same | granted same | completed same | closed _ same => simp [same.limit]
  | restarted same _ began => exact (switch_books began).2.2.1.trans same.limit
  | opened _ start began =>
    have limit := (switch_books began).2.2.1
    rcases start with ⟨-, rfl⟩ | ⟨-, rfl⟩
    · exact limit
    · exact limit
  | calledOff | closedTwice | settled | polled | woken | denied | committed | renewed | changed
  | commandedAgain | stopped => simp [beginFallback]

theorem Filed.sublist (filed : Filed s event nowMs n) :
    (n.requestEpoch = s.requestEpoch ∧ n.identities.Sublist s.identities) ∨
      ∃ r, Admits s event nowMs r ∧ n.requestEpoch = r.requestEpoch ∧
        n.identities.Sublist (s.identities ++ [r.identity]) := by
  cases filed with
  | kept epoch history request =>
    exact .inl ⟨epoch, by rw [identities_eq, history, request, ← identities_eq]⟩
  | opened r admits epoch history request =>
    refine .inr ⟨r, admits, epoch, ?_⟩
    simp [identities_eq, history, request, admits.free]
  | archived epoch free history =>
    refine .inl ⟨epoch, ?_⟩
    simpa [identities_eq n, history, free] using newest_sublist
  | forgotten epoch free history =>
    refine .inl ⟨epoch, ?_⟩
    simp [identities_eq, history, free]
  | denied r admits epoch free history =>
    refine .inr ⟨r, admits, epoch, ?_⟩
    simpa [identities_eq n, history, free] using newest_sublist

/-- The history drops its oldest entries first, and only past the limit. -/
theorem Filed.oldest_first (filed : Filed s event nowMs n) (tidy : Tidy s) :
    ∃ added : List String, added.length ≤ 1 ∧ n.requestHistory.map (·.requestId) =
      newest s.retainedRequestLimit (s.requestHistory.map (·.requestId) ++ added) := by
  have short : newest s.retainedRequestLimit (s.requestHistory.map (·.requestId)) =
      s.requestHistory.map (·.requestId) := newest_of_length_le (by simpa using tidy.bounded)
  cases filed with
  | kept _ history => exact ⟨[], by simp, by simp [ids_of_identities history, short]⟩
  | opened _ _ _ history | forgotten _ _ history => exact ⟨[], by simp, by simp [history, short]⟩
  | archived _ _ history =>
    have ids := congrArg (List.map Prod.fst) history
    refine ⟨s.activeRequest.toList.map (·.requestId), by cases s.activeRequest <;> simp, ?_⟩
    rw [map_newest, ← retainedIds_eq] at ids
    simpa [retainedIds, retained, Function.comp_def, identity]
      using ids
  | denied r admits _ _ history =>
    have ids := congrArg (List.map Prod.fst) history
    refine ⟨[r.requestId], by simp, ?_⟩
    rw [map_newest, List.map_append, ← retainedIds_eq] at ids
    simpa [retainedIds, retained, admits.free, Function.comp_def,
      identity] using ids

theorem Tidy.step (tidy : Tidy s) (outcome : Outcome s event nowMs timing t) : Tidy t.next := by
  have filed := outcome.filed tidy
  refine ⟨outcome.limit ▸ tidy.room, ?_, ?_⟩
  · obtain ⟨added, -, ids⟩ := filed.oldest_first tidy
    have length := congrArg List.length ids
    rw [List.length_map] at length
    rw [length, outcome.limit]
    exact length_newest_le
  rw [retainedIds_eq]
  rcases filed.sublist with ⟨-, sublist⟩ | ⟨r, admits, -, sublist⟩
  · exact (sublist.map _).nodup (retainedIds_eq s ▸ tidy.distinct)
  refine (sublist.map _).nodup ?_
  rw [List.map_append, ← retainedIds_eq, List.nodup_append]
  refine ⟨tidy.distinct, by simp, ?_⟩
  rintro _ member _ new rfl
  refine unknown_fresh admits.unknown ?_
  simp_all [identity]

theorem request_mem (known : s.request requestId = some r) :
    r ∈ s.retained ∧ r.requestId = requestId := by
  rcases Option.or_eq_some_iff.mp known with active | ⟨-, archived⟩
  · obtain ⟨active, named⟩ := Option.filter_eq_some_iff.mp active
    exact ⟨List.mem_append_right _ (by simp [active]), by simpa using named⟩
  · have member := List.mem_of_find?_eq_some archived
    exact ⟨List.mem_append_left _ (by simpa using member), by simpa using List.find?_some archived⟩

theorem Tidy.eq_of_id (tidy : Tidy s) (member : r ∈ s.retained) (member' : r' ∈ s.retained)
    (same : r'.requestId = r.requestId) : r' = r :=
  List.inj_on_of_nodup_map tidy.distinct member' member same

theorem Tidy.request_eq (tidy : Tidy s) (member : r ∈ s.retained) : s.request r.requestId = some r := by
  cases known : s.request r.requestId with
  | none => exact absurd (List.mem_map_of_mem member) (unknown_fresh known)
  | some r' =>
    obtain ⟨member', named⟩ := request_mem known
    rw [tidy.eq_of_id member member' named]

/-- A request that is in the books is answered from the books. -/
theorem Tidy.repeated (tidy : Tidy s) (member : r ∈ s.retained) (clientId : String) (target : Host)
    (lease : LeaseIdentity) (nowMs : Nat) (timing : ProtocolTiming) :
    apply s (.createEnter r.requestId clientId target lease) nowMs timing =
      if r.clientId = clientId ∧ r.target = target ∧ r.lease.leaseId = lease.leaseId ∧
          r.lease.leaseEpoch = lease.leaseEpoch then .ok ⟨s, []⟩
      else refuse .requestIdentityConflict := by
  simp only [apply, react, applyCreateEnter, tidy.request_eq member]
  split <;> rfl

theorem Filed.identity_kept (filed : Filed s event nowMs n) (tidy : Tidy s) (member : r ∈ s.retained)
    (member' : r' ∈ n.retained) (same : r'.requestId = r.requestId) : r'.identity = r.identity := by
  have listed : r'.identity ∈ n.identities := List.mem_map_of_mem member'
  have old : r'.identity ∈ s.identities := by
    rcases filed.sublist with ⟨-, sublist⟩ | ⟨new, admits, -, sublist⟩
    · exact sublist.subset listed
    rcases List.mem_append.mp (sublist.subset listed) with old | new'
    · exact old
    · have named : r'.requestId = new.requestId := congrArg Prod.fst (List.mem_singleton.mp new')
      refine absurd (List.mem_map_of_mem member) (unknown_fresh ?_)
      rw [← same, named]
      exact admits.unknown
  obtain ⟨r₀, there, identity⟩ := List.mem_map.mp old
  have named : r₀.requestId = r'.requestId := congrArg Prod.fst identity
  rw [← identity, tidy.eq_of_id member there (named.trans same)]

theorem Booked.step (booked : Booked s) (checked : Valid t.next nowMs)
    (outcome : Outcome s event nowMs timing t) : Booked t.next := by
  have tidy := booked.toTidy.step outcome
  refine ⟨tidy, ?_⟩
  -- beside a target that is armed for manual recovery no session can be running
  have disarmed (armed : t.next.manualRecoveryTarget.isSome = true) :
      ∀ a, t.next.activeSession = some a → ∃ r, t.next.requestHistory.getLast? = some r ∧ Entered a r := by
    have ended := (checked.recoveryQuiet armed).2.1
    simp [ended]
  have carried (history : t.next.requestHistory = s.requestHistory)
      (session : t.next.activeSession = s.activeSession) :
      ∀ a, t.next.activeSession = some a → ∃ r, t.next.requestHistory.getLast? = some r ∧ Entered a r := by
    rw [history, session]
    exact booked.entered
  cases outcome with
  | kept same | asked same | answered same | reverified same | granted same | completed same =>
    exact carried same.history same.session
  | polled | woken | changed | commandedAgain => exact carried rfl rfl
  | restarted same _ began =>
    obtain ⟨-, history, -, session, -⟩ := switch_books began
    exact carried (history.trans same.history) (session.trans same.session)
  | opened _ start began =>
    obtain ⟨-, history, -, session, -⟩ := switch_books began
    rcases start with ⟨-, rfl⟩ | ⟨-, rfl⟩
    · simp [session]
    · exact carried history session
  | fellBack | calledOff | closed | closedTwice => simp [beginFallback]
  | finished | accepted | stopped => simp
  | settled closes remote => exact disarmed (by simp [remote])
  | denied => exact disarmed rfl
  | @committed r e commits epoch =>
    by_cases here : r.target = s.serverHost
    · simp [here]
    · intro a running
      obtain rfl : openSession r r.requestEpoch e nowMs timing = a := by simpa [here] using running
      exact ⟨committedRequest r nowMs timing, getLast?_push, rfl, rfl, rfl, epoch, rfl, rfl, rfl⟩
  | @renewed a running =>
    rintro _ ⟨⟩
    obtain ⟨r, newest, entered⟩ := booked.entered a running
    exact ⟨r, newest, entered.requestId, entered.requestEpoch, entered.target, entered.switchEpoch,
      entered.leaseId, entered.leaseEpoch, entered.status⟩

end Steps

variable {timing : ProtocolTiming} {start c : Clocked} {trace : List Step}

theorem started_booked (started : Started start) : Booked start.state := by
  have fresh := started_fresh started
  refine ⟨⟨fresh.room, by simp [fresh.history], ?_⟩, by simp [fresh.session]⟩
  simp [retainedIds, retained, fresh.history, fresh.request]

theorem Reachable.booked (reachable : Reachable timing c) : Booked c.state :=
  reachable.keeps (fun _ => started_booked)
    fun _ _ _ _ _ checked outcome booked => booked.step checked outcome

structure Retains (s n : ProtocolState) : Prop where
  limit : n.retainedRequestLimit = s.retainedRequestLimit
  oldestFirst : ∃ added : List String, added.length ≤ 1 ∧ n.requestHistory.map (·.requestId) =
    newest s.retainedRequestLimit (s.requestHistory.map (·.requestId) ++ added)
  identity : ∀ r ∈ s.retained, ∀ r' ∈ n.retained, r'.requestId = r.requestId → r'.identity = r.identity

theorem Tidy.retains_self {s : ProtocolState} (tidy : Tidy s) : Retains s s := by
  refine ⟨rfl, ⟨[], by simp, ?_⟩, fun r member r' member' same => ?_⟩
  · rw [List.append_nil, newest_of_length_le (by simpa using tidy.bounded)]
  · rw [tidy.eq_of_id member member' same]

theorem entry_retains (started : Started start) (run : Run (reducer timing) start trace c) {y : Step}
    (member : y ∈ trace) : Retains y.pre.state y.post.state := by
  obtain ⟨before, run', step⟩ := run.entry_step member
  have tidy := Reachable.booked ⟨start, before, started, run'⟩ |>.toTidy
  obtain ⟨effects, -, outcome⟩ | ⟨error, -, same⟩ := (run_sound started run').outcome step
  · have filed := outcome.filed tidy
    exact ⟨outcome.limit, filed.oldest_first tidy, fun r member r' => filed.identity_kept tidy member⟩
  · exact same ▸ tidy.retains_self

/-- The books of every run: each id once, never more entries than the limit, the
oldest dropped first and never the running session's, and an id in the books
answered from the books. -/
theorem request_identity_idempotent (started : Started start)
    (run : Run (reducer timing) start trace c) :
    c.state.retainedIds.Nodup ∧
      c.state.requestHistory.length ≤ c.state.retainedRequestLimit ∧
      (∀ a, c.state.activeSession = some a → ∃ r ∈ c.state.requestHistory, Entered a r) ∧
      (∀ y ∈ trace, Retains y.pre.state y.post.state) ∧
      (∀ r ∈ c.state.retained, ∀ clientId target lease nowMs,
        apply c.state (.createEnter r.requestId clientId target lease) nowMs timing =
          if r.clientId = clientId ∧ r.target = target ∧ r.lease.leaseId = lease.leaseId ∧
              r.lease.leaseEpoch = lease.leaseEpoch then .ok ⟨c.state, []⟩
          else refuse .requestIdentityConflict) := by
  have booked := Reachable.booked ⟨start, trace, started, run⟩
  refine ⟨booked.distinct, booked.bounded, ?_, fun y member => entry_retains started run member, ?_⟩
  · intro a running
    obtain ⟨r, newest, entered⟩ := booked.entered a running
    exact ⟨r, List.mem_of_getLast? newest, entered⟩
  · intro r member clientId target lease nowMs
    exact booked.repeated member clientId target lease nowMs timing

/-- The committed request of the right host is still known: asked again it changes
nothing, and under another client it is turned down. -/
theorem committed_request_known : ∃ start trace c, Started start ∧
    Run (reducer sampleTiming) start trace c ∧
    apply c.state (.createEnter "r1" "user" .right ⟨"lease", 1, 12, 0⟩) 50 sampleTiming =
      .ok ⟨c.state, []⟩ ∧
    apply c.state (.createEnter "r1" "guest" .right ⟨"lease", 1, 12, 0⟩) 50 sampleTiming =
      refuse .requestIdentityConflict := by
  obtain ⟨start, trace, c, started, run, r, member, named, client, target, leaseId, leaseEpoch⟩ :=
    play_run sampleTiming Host.all takeRight (fun _ c => ∃ r ∈ c.state.requestHistory, r.requestId = "r1" ∧
      r.clientId = "user" ∧ r.target = .right ∧ r.lease.leaseId = "lease" ∧ r.lease.leaseEpoch = 1) (by decide)
  obtain ⟨-, -, -, -, repeated⟩ := request_identity_idempotent started run
  have answered := repeated r (List.mem_append_left _ member)
  rw [named, client, target, leaseId, leaseEpoch] at answered
  exact ⟨start, trace, c, started, run, answered _ _ _ _, answered _ _ _ _⟩

end DisplayMux.Tv
