import DisplayMux.Ssap.Transport

/-! How a request finds its answer among the messages that the display sends on its
own account. -/
namespace DisplayMux.Ssap

open Tv (HostMap)
open Await

def Message.json : Message → Option Value
  | .text json | .binary json => json
  | _ => none

def isUpdate (value : Value) : Bool := responseId value = some currentAppSubscriptionId

/-- The update succeeds and names the foreground application. -/
def readable (update : Value) : Bool :=
  match successfulPayload update with
  | .ok payload => ((payload.get "appId").bind Value.asStr).isSome
  | .error _ => false

section Steps

variable {s : Link} (inputs : HostMap String) {id : String} {message : Message} {value : Value}
  {rest : List Arrival} {bound : Nat}

theorem codec_ok {α : Type} {x : Except CodecError α} {a : α} (ok : x = .ok a) : codec x s = .ok a s := by
  rw [ok]
  rfl

theorem codec_error {α : Type} {x : Except CodecError α} {e : CodecError} (failed : x = .error e) :
    codec x s = .error (.failed (.codec e)) s := by
  rw [failed]
  rfl

theorem readMessage_message (arrivals : s.arrivals = .message message :: rest) :
    readMessage s = .ok message { s with arrivals := rest } := by
  simp only [readMessage, arrivals]

theorem receiveJson_message (arrivals : s.arrivals = .message message :: rest)
    (decoded : message.json = some value) : receiveJson s = .ok value { s with arrivals := rest } := by
  refine loop_ends ?_
  rw [bind_of_ok (readMessage_message arrivals)]
  cases message <;> simp only [Message.json, reduceCtorEq] at decoded
  all_goals
    subst decoded
    rfl

theorem handleUnsolicited_other (other : isUpdate value = false) :
    handleUnsolicited value inputs s = .ok () s := by
  have foreign : responseId value ≠ some currentAppSubscriptionId := by simpa [isUpdate] using other
  simp only [handleUnsolicited, if_neg foreign]
  rfl

theorem handleUnsolicited_readable (update : isUpdate value = true) (reads : readable value = true) :
    ∃ event snapshots, handleUnsolicited value inputs s =
      notifySafety event { s with snapshots } := by
  have own : responseId value = some currentAppSubscriptionId := by simpa [isUpdate] using update
  unfold readable at reads
  split at reads
  · rename_i payload succeeded
    obtain ⟨appId, named⟩ := Option.isSome_iff_exists.mp reads
    obtain ⟨input, parsed⟩ : ∃ input, parseCurrentInput payload inputs = .ok input := by
      simp [parseCurrentInput, named]
    refine ⟨.subscriptionObserved (s.snapshots.headD {}).tvMode input, s.snapshots.tail, ?_⟩
    simp only [handleUnsolicited, if_pos own]
    rw [bind_of_ok (codec_ok succeeded), bind_of_ok (show snapshot s = .ok _ _ from rfl),
      bind_of_ok (codec_ok parsed)]
  · cases reads

theorem handleUnsolicited_unreadable (update : isUpdate value = true) (unread : readable value = false) :
    ∃ e t, handleUnsolicited value inputs s = .error (.failed (.codec e)) t := by
  have own : responseId value = some currentAppSubscriptionId := by simpa [isUpdate] using update
  simp only [handleUnsolicited, if_pos own]
  unfold readable at unread
  split at unread
  · rename_i payload succeeded
    have unnamed : (payload.get "appId").bind Value.asStr = none := by simpa using unread
    have failed : parseCurrentInput payload inputs = .error (.missingField "appId") := by
      simp [parseCurrentInput, unnamed]
    refine ⟨.missingField "appId", { s with snapshots := s.snapshots.tail }, ?_⟩
    rw [bind_of_ok (codec_ok succeeded), bind_of_ok (show snapshot s = .ok _ _ from rfl),
      bind_of_error (codec_error failed)]
  · rename_i e failed
    exact ⟨e, s, by rw [bind_of_error (codec_error failed)]⟩

/-- What is left of the coordinator's answers when a foreign message was handled; none
when it stops the waiting. -/
def hear (notices : List Wait) (value : Value) : Option (List Wait) :=
  if isUpdate value then
    if readable value ∧ notices.headD .done = .done then some notices.tail else none
  else some notices

theorem handleUnsolicited_heard {left : List Wait} (passed : hear s.notices value = some left) :
    ∃ t, handleUnsolicited value inputs s = .ok () t ∧ t.arrivals = s.arrivals ∧ t.notices = left := by
  unfold hear at passed
  split at passed
  · rename_i update
    split at passed <;> cases passed
    rename_i takes
    obtain ⟨event, snapshots, handled⟩ := handleUnsolicited_readable inputs update takes.1
    exact ⟨_, handled.trans (notifySafety_done takes.2), rfl, rfl⟩
  · rename_i other
    cases passed
    exact ⟨s, handleUnsolicited_other inputs (by simpa using other), rfl, rfl⟩

theorem handleUnsolicited_unheard (stopped : hear s.notices value = none) :
    ∃ stop t, handleUnsolicited value inputs s = .error stop t := by
  unfold hear at stopped
  split at stopped
  · rename_i update
    split at stopped <;> cases stopped
    rename_i refuses
    by_cases reads : readable value = true
    · obtain ⟨event, snapshots, handled⟩ := handleUnsolicited_readable inputs update reads
      have refused : s.notices.headD .done ≠ .done := fun taken => refuses ⟨reads, taken⟩
      obtain ⟨stop, -, failed⟩ := notifySafety_refused (s := { s with snapshots }) refused
      exact ⟨stop, _, handled.trans failed⟩
    · obtain ⟨e, t, failed⟩ := handleUnsolicited_unreadable inputs update (by simpa using reads)
      exact ⟨_, t, failed⟩
  · cases stopped

theorem heard_iff {notices : List Wait} {values : List Value} :
    (values.foldlM hear notices).isSome = true ↔
    (∀ value ∈ values, isUpdate value = true → readable value = true) ∧
    ∀ outcome ∈ notices.take (values.countP isUpdate), outcome = .done := by
  induction values generalizing notices with
  | nil => simp
  | cons value rest ih =>
    by_cases update : isUpdate value = true
    · by_cases takes : readable value = true ∧ notices.headD .done = .done
      · cases notices <;> simp_all [hear]
      have stopped : hear notices value = none := by simp only [hear, if_pos update, if_neg takes]
      rw [List.foldlM_cons, stopped]
      refine iff_of_false (by simp) ?_
      rintro ⟨reads, taken⟩
      refine takes ⟨reads value List.mem_cons_self update, ?_⟩
      cases notices with
      | nil => rfl
      | cons first later => exact taken first (by simp [update])
    · simp [hear, update, ih]

variable (arrivals : s.arrivals = .message message :: rest) (decoded : message.json = some value)

include arrivals decoded

theorem awaitId_own (own : responseId value = some id) :
    awaitId id inputs s = .ok (some value) { s with arrivals := rest } := by
  unfold awaitId
  rw [bind_of_ok (receiveJson_message arrivals decoded), if_pos own]
  rfl

theorem awaitId_foreign (foreign : responseId value ≠ some id) : awaitId id inputs s =
    (do handleUnsolicited value inputs; pure none) { s with arrivals := rest } := by
  unfold awaitId
  rw [bind_of_ok (receiveJson_message arrivals decoded), if_neg foreign]

end Steps

section Waiting

variable {inputs : HostMap String} {id : String} {answer : Message} {value : Value}
  {rest : List Arrival}

/-- Waiting goes past the foreign messages that are heard, up to the answer, and stops
at the first that is not. -/
theorem waiting {foreign : List Message} {values : List Value}
    (decoded : List.Forall₂ (fun message value => message.json = some value) foreign values)
    (others : ∀ v ∈ values, responseId v ≠ some id) (answered : answer.json = some value)
    (own : responseId value = some id) (s : Link) (bound : Nat) (enough : foreign.length < bound)
    (arrivals : s.arrivals = foreign.map .message ++ .message answer :: rest) :
    ((values.foldlM hear s.notices).isSome = true →
      ∃ t, loop (awaitId id inputs) bound s = .ok value t) ∧
    (values.foldlM hear s.notices = none →
      ∃ stop t, loop (awaitId id inputs) bound s = .error stop t) := by
  induction decoded generalizing s bound with
  | nil =>
    obtain ⟨bound, rfl⟩ : ∃ n, bound = n + 1 := ⟨bound - 1, by omega⟩
    refine ⟨fun _ => ⟨_, loop_ends (awaitId_own inputs arrivals answered own)⟩, fun stopped => ?_⟩
    cases stopped
  | @cons message first foreign values decoded later ih =>
    obtain ⟨bound, rfl⟩ : ∃ n, bound = n + 1 := ⟨bound - 1, by omega⟩
    have turn := awaitId_foreign inputs arrivals decoded (others first List.mem_cons_self)
    have others : ∀ v ∈ values, responseId v ≠ some id := fun v member =>
      others v (List.mem_cons_of_mem _ member)
    rw [List.foldlM_cons]
    cases passed : hear s.notices first with
    | none =>
      obtain ⟨stop, t, stopped⟩ := handleUnsolicited_unheard inputs
        (s := { s with arrivals := foreign.map .message ++ .message answer :: rest }) passed
      refine ⟨fun goes => by simp at goes, fun _ => ⟨stop, t, loop_stops ?_⟩⟩
      exact turn.trans (bind_of_error stopped)
    | some left =>
      obtain ⟨t, handled, rest, notices⟩ := handleUnsolicited_heard inputs
        (s := { s with arrivals := foreign.map .message ++ .message answer :: rest }) passed
      have again : awaitId id inputs s = .ok none t := turn.trans (bind_of_ok handled)
      rw [loop_again again]
      have goes := ih others t bound (by simpa using enough) rest
      rw [notices] at goes
      exact goes

end Waiting

section Requests

variable {s : Link} (uri : String) (payload : Value) (inputs : HostMap String)

theorem requestPayload_written (written : s.writes.headD .done = .done) : ∃ sent,
    requestPayload uri payload inputs s =
      (do codec (successfulPayload (← waitForId (requestId s.nextId) inputs)))
        { s with nextId := saturatingAdd s.nextId 1, writes := s.writes.tail, sent } := by
  refine ⟨s.sent ++ [.text (some (request (requestId s.nextId) uri payload))], ?_⟩
  unfold requestPayload
  rw [bind_of_ok (show takeId s = .ok _ _ from rfl)]
  exact bind_of_ok (writeMessage_done written)

theorem requestPayload_unwritten (unwritten : s.writes.headD .done ≠ .done) :
    ∃ stop t, requestPayload uri payload inputs s = .error stop t := by
  unfold requestPayload
  rw [bind_of_ok (show takeId s = .ok _ _ from rfl)]
  obtain ⟨stop, -, failed⟩ :=
    writeMessage_failed (s := { s with nextId := saturatingAdd s.nextId 1 }) unwritten
  exact ⟨stop, _, bind_of_error failed⟩

theorem waitForId_ok {id : String} {value : Value} {t : Link}
    (answered : loop (awaitId id inputs) (s.arrivals.length + 1) s = .ok value t) :
    waitForId id inputs s = .ok value t :=
  timeout_of_ok answered

theorem waitForId_error {id : String} {stop : Stop SsapError} {t : Link}
    (stopped : loop (awaitId id inputs) (s.arrivals.length + 1) s = .error stop t) :
    ∃ e, waitForId id inputs s = .error (.failed e) t := by
  unfold waitForId rounds timeout
  rw [stopped]
  cases stop with
  | failed e => exact ⟨e, rfl⟩
  | pending => exact ⟨_, rfl⟩

variable {foreign : List Message} {values : List Value} {answer : Message} {value : Value}
  {rest : List Arrival}
  (decoded : List.Forall₂ (fun message value => message.json = some value) foreign values)
  (others : ∀ value ∈ values, responseId value ≠ some (requestId s.nextId))
  (arrivals : s.arrivals = foreign.map .message ++ .message answer :: rest)
  (answered : answer.json = some value) (own : responseId value = some (requestId s.nextId))

include decoded others arrivals answered own

theorem requestPayload_heard (written : s.writes.headD .done = .done)
    (goes : (values.foldlM hear s.notices).isSome = true) :
    result (requestPayload uri payload inputs) s = some ((successfulPayload value).mapError .codec) := by
  obtain ⟨sent, waits⟩ := requestPayload_written uri payload inputs written
  have enough : foreign.length < s.arrivals.length + 1 := by
    simp only [arrivals, List.length_append, List.length_map, List.length_cons]
    omega
  obtain ⟨t, found⟩ := (waiting decoded others answered own
    { s with nextId := saturatingAdd s.nextId 1, writes := s.writes.tail, sent } _ enough arrivals).1 goes
  rw [result_congr (waits.trans (bind_of_ok (waitForId_ok inputs found)))]
  cases successfulPayload value <;> rfl

theorem requestPayload_unheard
    (stops : ¬ (s.writes.headD .done = .done ∧ (values.foldlM hear s.notices).isSome = true)) (v : Value) :
    result (requestPayload uri payload inputs) s ≠ some (.ok v) := by
  by_cases written : s.writes.headD .done = .done
  · obtain ⟨sent, waits⟩ := requestPayload_written uri payload inputs written
    have stopped : values.foldlM hear s.notices = none := by
      simpa using fun goes => stops ⟨written, goes⟩
    have enough : foreign.length < s.arrivals.length + 1 := by
      simp only [arrivals, List.length_append, List.length_map, List.length_cons]
      omega
    obtain ⟨stop, t, lost⟩ := (waiting decoded others answered own
      { s with nextId := saturatingAdd s.nextId 1, writes := s.writes.tail, sent } _
      enough arrivals).2 stopped
    obtain ⟨e, failed⟩ := waitForId_error inputs lost
    exact result_ne_ok (waits.trans (bind_of_error failed))
  · obtain ⟨stop, t, failed⟩ := requestPayload_unwritten uri payload inputs written
    exact result_ne_ok failed

end Requests

def plainAnswer (id : String) : Value := .object [("id", .string id), ("payload", .object [])]

/-- A request gets what its own answer says, whatever the answer is and whatever comes
after it, exactly when the request is written, every update before the answer can be
read, and the coordinator takes them all. -/
theorem response_matched_iff (s : Link) (uri : String) (payload : Value) (inputs : HostMap String)
    (foreign : List Message) (values : List Value)
    (decoded : List.Forall₂ (fun message value => message.json = some value) foreign values)
    (others : ∀ value ∈ values, responseId value ≠ some (requestId s.nextId)) :
    (∀ answer value rest, answer.json = some value → responseId value = some (requestId s.nextId) →
      result (requestPayload uri payload inputs)
          { s with arrivals := foreign.map .message ++ .message answer :: rest } =
        some ((successfulPayload value).mapError .codec)) ↔
    s.writes.headD .done = .done ∧
    (∀ value ∈ values, isUpdate value = true → readable value = true) ∧
    ∀ outcome ∈ s.notices.take (values.countP isUpdate), outcome = .done := by
  rw [← heard_iff]
  constructor
  · intro matched
    by_contra stops
    have own : responseId (plainAnswer (requestId s.nextId)) = some (requestId s.nextId) := rfl
    have carried : (Message.text (some (plainAnswer (requestId s.nextId)))).json = some _ := rfl
    have got := matched _ _ [] carried own
    let arrivals := foreign.map Arrival.message ++
      [.message (.text (some (plainAnswer (requestId s.nextId))))]
    have lost := requestPayload_unheard (s := { s with arrivals })
      uri payload inputs decoded others rfl carried own stops (.object [])
    exact lost got
  · rintro ⟨written, goes⟩ answer value rest answered own
    exact requestPayload_heard uri payload inputs decoded others rfl answered own written goes

/-- A current foreground update and a stray response stand before the answer. -/
theorem updates_before_answer :
    result (requestPayload setInput .null .empty)
      { arrivals := [
          .message (.text (some (.object [("id", .string currentAppSubscriptionId),
            ("payload", .object [("appId", .string "com.webos.app.hdmi4")])]))),
          .message (.binary (some (.object [("id", .string "request-0")]))),
          .message (.text (some (plainAnswer "request-1")))] } = some (.ok (.object [])) := by
  have matched := (response_matched_iff { arrivals := [] } setInput .null .empty
    [.text (some (.object [("id", .string currentAppSubscriptionId),
        ("payload", .object [("appId", .string "com.webos.app.hdmi4")])])),
      .binary (some (.object [("id", .string "request-0")]))] _
    (.cons rfl (.cons rfl .nil)) (by decide)).mpr ⟨rfl, by decide, by decide⟩
  exact matched (.text (some (plainAnswer "request-1"))) _ [] rfl rfl

/-- An update without an application stands before the answer: the request fails with
the update's error, although its answer succeeds. -/
theorem unreadable_update_fails_request :
    result (requestPayload setInput .null .empty)
      { arrivals := [
          .message (.text (some (.object [("id", .string currentAppSubscriptionId),
            ("payload", .object [("returnValue", .bool true)])]))),
          .message (.text (some (plainAnswer "request-1")))] } =
      some (.error (.codec (.missingField "appId"))) ∧
    result (requestPayload setInput .null .empty)
      { arrivals := [.message (.text (some (plainAnswer "request-1")))] } = some (.ok (.object [])) :=
  ⟨rfl, rfl⟩

end DisplayMux.Ssap
