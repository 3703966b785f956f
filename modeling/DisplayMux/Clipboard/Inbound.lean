import DisplayMux.Lib.Channel
import DisplayMux.Lib.Machine
import DisplayMux.Clipboard.Transport

/-! A peer's end of its connection to the authority. One task reads the frames, checks each against
the authority session that is known at the time, and queues it. The other takes what is queued,
and gets to know the session from it. -/
namespace DisplayMux.Clipboard

structure PeerEnd where
  localHost : HostId
  localProcessSessionId : ProcessSessionId
  peerProcessSessionId : ProcessSessionId

/-- The authority session may be known from an earlier connection. -/
structure Inbound where
  authoritySession : Option AuthoritySessionId
  control : Channel WireMessage
  payload : Channel ClipboardPayload
  reading : Bool
  serving : Bool

/-- `room` tells whether the event queue takes the message that is passed on. The connection task
leaves when it is cancelled or sees that the reader or the writer has ended. -/
inductive InboundMove where
  | read (message : WireMessage)
  | takeControl (room : Bool)
  | takePayload (room : Bool)
  | leave
  deriving DecidableEq

namespace Inbound

/-- The session that is known after the message; `none` ends the connection. -/
def acceptAuthorityState (peerProcessSessionId : ProcessSessionId) (known : Option AuthoritySessionId) :
    WireMessage → Option (Option AuthoritySessionId)
  | .authorityState state =>
    let session := state.currentToken.authoritySessionId
    if state.authorityProcessSessionId ≠ peerProcessSessionId then none
    else if (state.activeHandoff.any fun handoff => handoff.handoffId.authoritySessionId ≠ session ∨
        handoff.sourceToken.authoritySessionId ≠ session ∨
        handoff.targetToken.authoritySessionId ≠ session) = true then none
    else some (some session)
  | _ => some known

def new (known : Option AuthoritySessionId) : Inbound := ⟨known, ⟨8, false, []⟩, ⟨1, false, []⟩, true, true⟩

def sendError : TrySendError → TransportError
  | .full => .queueFull
  | .closed => .channelClosed

/-- `try_send` of the reader, which ends at the first error. -/
def enqueue (s : Inbound) : WireMessage → Except TransportError Inbound
  | .snapshotOffer payload | .snapshotDeliver payload =>
    match s.payload.trySend payload with
    | .ok payload => .ok { s with payload }
    | .error error => .error (sendError error)
  | message =>
    match s.control.trySend message with
    | .ok control => .ok { s with control }
    | .error error => .error (sendError error)

def read (e : PeerEnd) (s : Inbound) (message : WireMessage) : Except TransportError Inbound :=
  match validateAuthorityMetadata message.metadata s.authoritySession e.localHost e.localProcessSessionId with
  | .ok () => s.enqueue message
  | .error error => .error error

def stop (s : Inbound) : Inbound := { s with reading := false, serving := false }

def step (e : PeerEnd) (s : Inbound) : InboundMove → Option (Inbound × Option TransportError)
  | .read message =>
    if s.reading then match s.read e message with
      | .ok s => some (s, none)
      | .error error => some ({ s with reading := false }, some error)
    else none
  | .takeControl room =>
    if s.serving then match s.control.receive with
      | none => none
      | some (message, control) =>
        match acceptAuthorityState e.peerProcessSessionId s.authoritySession message with
        | none => some (stop { s with control }, none)
        | some authoritySession =>
          let s := { s with control, authoritySession }
          some (if room then s else s.stop, none)
    else none
  | .takePayload room =>
    if s.serving then s.payload.receive.map fun (_, payload) =>
      (if room then { s with payload } else stop { s with payload }, none)
    else none
  | .leave => if s.serving then some (s.stop, none) else none

end Inbound

def inbound (e : PeerEnd) : Machine Inbound InboundMove (Option TransportError) := ⟨Inbound.step e⟩

abbrev InboundEntry := Entry Inbound InboundMove (Option TransportError)

/-- The message is of the authority session, for this host in this process session. -/
def WireMessage.follows (session : AuthoritySessionId) (e : PeerEnd) : WireMessage → Bool
  | .prepareTarget handoff | .ownershipActivated handoff | .snapshotDeliver ⟨handoff, _, _⟩ =>
    handoff.handoffId.authoritySessionId = session ∧ handoff.targetToken.ownerHostId = e.localHost ∧
      handoff.targetProcessSessionId = e.localProcessSessionId
  | .cancelHandoff handoffId => handoffId.authoritySessionId = session
  | _ => false

def WireMessage.isState : WireMessage → Bool
  | .authorityState _ => true
  | _ => false

section Reads

variable {e : PeerEnd} {s s' : Inbound} {session : AuthoritySessionId} {state : AuthorityState}
  {message : WireMessage} {move : InboundMove} {answer : Option TransportError}

theorem follows_validated (follows : message.follows session e = true) (known : Option AuthoritySessionId) :
    validateAuthorityMetadata message.metadata known e.localHost e.localProcessSessionId =
      if known = some session then .ok () else .error .staleAuthoritySession := by
  cases message with
  | prepareTarget | ownershipActivated | snapshotDeliver | cancelHandoff =>
    simp only [WireMessage.follows, decide_eq_true_eq] at follows
    cases known <;> simp [validateAuthorityMetadata, WireMessage.metadata, WireMessage.messageType,
      FrameMetadata.setEnvelope, follows, eq_comm (a := session)]
  | _ => simp [WireMessage.follows] at follows

theorem enqueue_not_stale (s : Inbound) (message : WireMessage) :
    s.enqueue message ≠ .error .staleAuthoritySession := by
  unfold Inbound.enqueue
  split <;> split <;> simp
  all_goals
    rename_i error _
    cases error <;> simp [Inbound.sendError]

theorem read_stale_iff (follows : message.follows session e = true) :
    s.read e message = .error .staleAuthoritySession ↔ s.authoritySession ≠ some session := by
  unfold Inbound.read
  rw [follows_validated follows]
  by_cases known : s.authoritySession = some session
  · simp [known, enqueue_not_stale]
  · simp [known]

theorem read_known (taken : s.read e message = .ok s') : s'.authoritySession = s.authoritySession ∧
    (s'.control.items = s.control.items ∧ message.isState = false ∨
      s'.control.items = s.control.items ++ [message]) := by
  unfold Inbound.read Inbound.enqueue at taken
  split at taken <;> try contradiction
  split at taken <;> split at taken <;> cases taken
  · exact ⟨rfl, .inl ⟨rfl, rfl⟩⟩
  · exact ⟨rfl, .inl ⟨rfl, rfl⟩⟩
  · rename_i sent
    exact ⟨rfl, .inr (Channel.trySend_items sent)⟩

theorem read_step (step : s.step e (.read message) = some (s', answer)) :
    (s.read e message = .ok s' ∧ answer = none) ∨
      ∃ error, s.read e message = .error error ∧ answer = some error ∧ s' = { s with reading := false } := by
  simp only [Inbound.step] at step
  split at step <;> try contradiction
  split at step <;> cases step
  · exact .inl ⟨‹_›, rfl⟩
  · exact .inr ⟨_, ‹_›, rfl, rfl⟩

theorem step_known (step : s.step e move = some (s', answer)) :
    (s'.authoritySession = s.authoritySession ∧ (s'.control.items = s.control.items ∨
      ∃ message, move = .read message ∧ s'.control.items = s.control.items ++ [message])) ∨
    ∃ message, s.control.items = message :: s'.control.items ∧ s'.authoritySession =
      (Inbound.acceptAuthorityState e.peerProcessSessionId s.authoritySession message).getD
        s.authoritySession := by
  cases move with
  | read message =>
    obtain ⟨taken, -⟩ | ⟨error, -, -, rfl⟩ := read_step step
    · obtain ⟨known, items⟩ := read_known taken
      exact .inl ⟨known, items.imp (·.1) fun items => ⟨message, rfl, items⟩⟩
    · exact .inl ⟨rfl, .inl rfl⟩
  | takeControl room =>
    simp only [Inbound.step] at step
    split at step <;> try contradiction
    split at step <;> try contradiction
    rename_i message control received
    have items := Channel.receive_items received
    split at step
    · rename_i refused
      cases step
      exact .inr ⟨message, items, by simp [refused, Inbound.stop]⟩
    · rename_i known accepted
      cases step
      cases room <;> exact .inr ⟨message, items, by simp [accepted, Inbound.stop]⟩
  | takePayload room =>
    simp only [Inbound.step] at step
    split at step <;> try contradiction
    obtain ⟨⟨_, payload⟩, -, same⟩ := Option.map_eq_some_iff.mp step
    cases same
    cases room <;> exact .inl ⟨rfl, .inl rfl⟩
  | leave =>
    simp only [Inbound.step] at step
    split at step <;> cases step
    exact .inl ⟨rfl, .inl rfl⟩

/-- The authority's state waits for the connection task, or its session is known; no other state
comes after it. -/
def Inbound.Informed (state : AuthorityState) (s : Inbound) : Prop :=
  (∃ ahead behind, s.control.items = ahead ++ .authorityState state :: behind ∧
    ∀ message ∈ behind, message.isState = false) ∨
  s.authoritySession = some state.currentToken.authoritySessionId ∧
    ∀ message ∈ s.control.items, message.isState = false

/-- The connection task records the state's session when it takes the state. -/
def AuthorityState.accepted (state : AuthorityState) (e : PeerEnd) : Bool :=
  (Inbound.acceptAuthorityState e.peerProcessSessionId none (.authorityState state)).isSome

theorem accepted_recorded (valid : state.accepted e = true) (known : Option AuthoritySessionId) :
    Inbound.acceptAuthorityState e.peerProcessSessionId known (.authorityState state) =
      some (some state.currentToken.authoritySessionId) := by
  unfold AuthorityState.accepted at valid
  simp only [Inbound.acceptAuthorityState] at valid ⊢
  split at valid <;> try contradiction
  split at valid <;> try contradiction
  rw [if_neg ‹_›, if_neg ‹_›]

theorem Inbound.Informed.step (informed : s.Informed state) (valid : state.accepted e = true)
    (step : s.step e move = some (s', answer))
    (quiet : ∀ message, move = .read message → message.isState = false) : s'.Informed state := by
  obtain ⟨known, same | ⟨message, rfl, items⟩⟩ | ⟨message, items, known⟩ := step_known step
  · simpa only [Inbound.Informed, known, same] using informed
  · have plain := quiet message rfl
    obtain ⟨ahead, behind, waits, after⟩ | ⟨recorded, after⟩ := informed
    · refine .inl ⟨ahead, behind ++ [message], by simp [items, waits], ?_⟩
      simpa [or_imp, forall_and, plain] using after
    · refine .inr ⟨known.trans recorded, ?_⟩
      simpa [items, or_imp, forall_and, plain] using after
  · obtain ⟨ahead, behind, waits, after⟩ | ⟨recorded, after⟩ := informed
    · rw [items] at waits
      cases ahead with
      | nil =>
        obtain ⟨rfl, rest⟩ := List.cons.inj waits
        rw [accepted_recorded valid] at known
        exact .inr ⟨known, rest ▸ after⟩
      | cons first ahead => exact .inl ⟨ahead, behind, (List.cons.inj waits).2, after⟩
    · rw [items] at after
      have plain := after message (by simp)
      refine .inr ⟨?_, fun later member => after later (List.mem_cons_of_mem _ member)⟩
      cases message with
      | authorityState => cases plain
      | _ => exact known.trans recorded

theorem follows_plain (follows : message.follows session e = true) : message.isState = false := by
  cases message with
  | authorityState => cases follows
  | _ => rfl

theorem Inbound.Informed.of_read (step : s.step e (.read (.authorityState state)) = some (s', none)) :
    s'.Informed state := by
  obtain ⟨taken, -⟩ | ⟨_, -, failed, -⟩ := read_step step
  · obtain ⟨-, ⟨-, plain⟩ | items⟩ := read_known taken
    · cases plain
    · exact .inl ⟨s.control.items, [], items, by simp⟩
  · cases failed

end Reads

/-- After the authority's state, the reader turns away a message of its session exactly when the
state still waits for the connection task and the session is not known from before. -/
theorem follower_stale_iff {e : PeerEnd} {known : Option AuthoritySessionId} {trace : List InboundEntry}
    {s : Inbound} (run : Run (inbound e) (.new known) trace s) {state : AuthorityState}
    (valid : state.accepted e = true) {before after : List InboundEntry} {first : InboundEntry}
    (here : trace = before ++ first :: after) (sent : first.input = .read (.authorityState state))
    (queued : first.output = none)
    (follow : ∀ later ∈ after, ∀ message, later.input = .read message →
      message.follows state.currentToken.authoritySessionId e = true) :
    ∀ later ∈ after, ∀ message, later.input = .read message →
      (later.output = some .staleAuthoritySession ↔ .authorityState state ∈ later.pre.control.items ∧
        later.pre.authoritySession ≠ some state.currentToken.authoritySessionId) := by
  intro later member message reads
  obtain ⟨-, told, rest⟩ := run.split here
  obtain ⟨between, final, split⟩ := List.append_of_mem member
  obtain ⟨upto, step, -⟩ := rest.split split
  rw [sent, queued] at told
  have informed : later.pre.Informed state := by
    refine upto.invariant_where (C := fun entry => entry ∈ after) (Inbound.Informed.of_read told) ?_
      fun entry earlier => by simp [split, earlier]
    intro entry informed step mine
    exact informed.step valid step fun message reads => follows_plain (follow entry mine message reads)
  have follows := follow later member message reads
  rw [reads] at step
  have stale : later.output = some .staleAuthoritySession ↔
      later.pre.read e message = .error .staleAuthoritySession := by
    obtain ⟨taken, answer⟩ | ⟨error, failed, answer, -⟩ := read_step step
    · simp [taken, answer]
    · simp [failed, answer]
  rw [stale, read_stale_iff follows]
  refine ⟨fun other => ⟨?_, other⟩, And.right⟩
  obtain ⟨ahead, behind, waits, -⟩ | ⟨recorded, -⟩ := informed
  · simp [waits]
  · exact absurd recorded other

def macEnd : PeerEnd := ⟨"mac", 2, 1⟩
def serverState : AuthorityState := ⟨1, ⟨7, 1, "server"⟩, none⟩
def prepareMac : WireMessage := .prepareTarget ⟨⟨7, 1⟩, ⟨7, 1, "server"⟩, 1, ⟨7, 2, "mac"⟩, 2⟩

theorem taken_state_lets_follower_in : ∃ first taken later s,
    Run (inbound macEnd) (.new none) [first, taken, later] s ∧
    first.input = .read (.authorityState serverState) ∧ taken.input = .takeControl true ∧
    later.input = .read prepareMac ∧ later.output ≠ some .staleAuthoritySession := by
  have run : Run (inbound macEnd) (.new none) ([] ++ [⟨_, .read (.authorityState serverState), none, _⟩] ++
    [⟨_, .takeControl true, none, _⟩] ++ [⟨_, .read prepareMac, none, _⟩]) _ :=
    .snoc (.snoc (.snoc .nil rfl) rfl) rfl
  refine ⟨_, _, _, _, run, rfl, rfl, rfl, fun stale => ?_⟩
  have waits := (follower_stale_iff run (by decide) (show _ = [] ++ _ :: [_, _] from rfl) rfl rfl (by
    intro later member message reads
    simp only [List.mem_cons, List.not_mem_nil, or_false] at member
    obtain rfl | rfl := member <;> cases reads
    decide) _ (by simp) prepareMac rfl).mp stale
  exact waits.2 rfl

/-- The reader is ahead of the connection task. -/
theorem follower_read_ahead_refused : ∃ first later s,
    Run (inbound macEnd) (.new none) [first, later] s ∧ serverState.accepted macEnd = true ∧
    first.input = .read (.authorityState serverState) ∧ first.output = none ∧
    later.input = .read prepareMac ∧ prepareMac.follows 7 macEnd = true ∧
    later.output = some .staleAuthoritySession ∧ s.reading = false := by
  have run : Run (inbound macEnd) (.new none) ([] ++ [⟨_, .read (.authorityState serverState), none, _⟩] ++
    [⟨_, .read prepareMac, some .staleAuthoritySession, _⟩]) _ := .snoc (.snoc .nil rfl) rfl
  exact ⟨_, _, _, run, by decide, rfl, rfl, rfl, by decide, rfl, rfl⟩

end DisplayMux.Clipboard
