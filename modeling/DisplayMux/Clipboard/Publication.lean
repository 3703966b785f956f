import DisplayMux.Clipboard.Ownership

/-! A handoff's snapshot is published once, and the handoff ends once. -/
namespace DisplayMux.Clipboard

open CoordinatorCommand CoordinatorReply

def Coordinator.isActive (c : Coordinator) (id : HandoffId) : Bool := c.active.any (·.id = id)

/-- The handoff that the call accepts as prepared, with the token and session it came with. -/
def preparation (op : CoordinatorOp) (reply : CoordinatorReply) :
    Option (HandoffId × OwnershipToken × ProcessSessionId) :=
  match op, reply with
  | .targetPrepared id token session _, .done _ => some (id, token, session)
  | _, _ => none

/-- The handoff that the call accepts a snapshot for. -/
def capture (op : CoordinatorOp) (reply : CoordinatorReply) :
    Option (HandoffId × OwnershipToken × ProcessSessionId × SnapshotId) :=
  match op, reply with
  | .sourceCaptured id token session snapshot, .done _ => some (id, token, session, snapshot.snapshotId)
  | _, _ => none

def CoordinatorCommand.publication? : CoordinatorCommand → Option (HandoffId × SnapshotId)
  | .publishSnapshot id snapshotId => some (id, snapshotId)
  | .prepareTarget .. | .captureSource .. | .activateTarget .. | .cancelHandoff .. => none

namespace ActiveHandoff

structure SameParties (h h' : ActiveHandoff) : Prop where
  id : h'.id = h.id
  sourceToken : h'.sourceToken = h.sourceToken
  sourceSession : h'.sourceProcessSessionId = h.sourceProcessSessionId
  targetToken : h'.targetToken = h.targetToken
  targetSession : h'.targetProcessSessionId = h.targetProcessSessionId

/-- The snapshot is published as soon as it can be. -/
def Prompt (h : ActiveHandoff) : Prop :=
  h.snapshotPublished = (h.snapshot.isSome && h.targetPreparation.isSome)

theorem publishIfReady_cases (h : ActiveHandoff) : (h.publishIfReady = (h, []) ∧
      (h.snapshotPublished = true ∨ h.snapshot = none ∨ h.targetPreparation = none)) ∨
    ∃ snapshot preparation, h.snapshotPublished = false ∧ h.snapshot = some snapshot ∧
      h.targetPreparation = some preparation ∧
      h.publishIfReady = ({ h with snapshotPublished := true, phase := .inFlight },
        [.publishSnapshot h.id snapshot.snapshotId]) := by
  unfold publishIfReady
  split
  · rename_i snapshot preparation unpublished captured prepared
    exact .inr ⟨snapshot, preparation, unpublished, captured, prepared, rfl⟩
  rename_i other
  cases published : h.snapshotPublished
  · cases captured : h.snapshot
    · simp
    · cases prepared : h.targetPreparation
      · simp
      · exact (other _ _ published captured prepared).elim
  · simp

theorem publishIfReady_prompt {h : ActiveHandoff} (prompt : h.Prompt) : h.publishIfReady = (h, []) := by
  rcases h.publishIfReady_cases with ⟨same, -⟩ | ⟨_, _, unpublished, captured, prepared, -⟩
  · exact same
  · simp [Prompt, unpublished, captured, prepared] at prompt

theorem publishIfReady_parties (h : ActiveHandoff) : SameParties h h.publishIfReady.1 := by
  rcases h.publishIfReady_cases with ⟨same, -⟩ | ⟨_, _, -, -, -, same⟩ <;> rw [same] <;>
    exact ⟨rfl, rfl, rfl, rfl, rfl⟩

theorem SameParties.trans {h h' h'' : ActiveHandoff} (first : SameParties h h')
    (second : SameParties h' h'') :
    SameParties h h'' :=
  ⟨second.id.trans first.id, second.sourceToken.trans first.sourceToken,
    second.sourceSession.trans first.sourceSession, second.targetToken.trans first.targetToken,
    second.targetSession.trans first.targetSession⟩

end ActiveHandoff

open ActiveHandoff

namespace Coordinator

structure SameCounters (c c' : Coordinator) : Prop where
  session : c'.authoritySessionId = c.authoritySessionId
  handoff : c'.nextHandoffEpoch = c.nextHandoffEpoch

/-- The handoff `h` goes on as `h'`, before its snapshot is published if it can be. -/
structure Progress (c : Coordinator) (op : CoordinatorOp) (reply : CoordinatorReply) (c' : Coordinator)
    (h h' : ActiveHandoff) (activation : List CoordinatorCommand) : Prop where
  was : c.active = some h
  is : c'.active = some h'.publishIfReady.1
  parties : SameParties h h'
  flag : h'.snapshotPublished = h.snapshotPublished
  activates : ∀ k ∈ activation, k = .activateTarget h.id h.targetToken h.targetProcessSessionId
  commands : reply.commands = activation ++ h'.publishIfReady.2
  prepared : preparation op reply = none ∧ h'.targetPreparation = h.targetPreparation ∨
    preparation op reply = some (h.id, h.targetToken, h.targetProcessSessionId) ∧
      h'.targetPreparation.isSome = true
  captured : capture op reply = none ∧ h'.snapshot = h.snapshot ∨
    ∃ snapshot, h'.snapshot = some snapshot ∧ capture op reply =
      some (h.id, h.sourceToken, h.sourceProcessSessionId, snapshot.snapshotId)

/-- All that a call can do to the active handoff. -/
inductive Handles (c : Coordinator) (op : CoordinatorOp) (reply : CoordinatorReply) (c' : Coordinator) :
    Prop where
  | began (targetHost : HostId) (b : BeginHandoff) (call : op = .beginHandoff targetHost)
    (answer : reply = .begun b) (begins : Begins c targetHost b c')
  | idle (quiet : reply.begun? = none) (unprepared : preparation op reply = none)
    (uncaptured : capture op reply = none) (silent : reply.commands = []) (same : c'.active = c.active)
    (terminal : c'.lastTerminal = c.lastTerminal) (counters : SameCounters c c')
  | progressed (h h' : ActiveHandoff) (activation : List CoordinatorCommand) (quiet : reply.begun? = none)
    (progress : Progress c op reply c' h h' activation) (terminal : c'.lastTerminal = c.lastTerminal)
    (counters : SameCounters c c')
  | ended (h : ActiveHandoff) (result : Except ClipboardReason Unit) (quiet : reply.begun? = none)
    (unprepared : preparation op reply = none) (uncaptured : capture op reply = none)
    (cancels : ∀ k ∈ reply.commands, k = .cancelHandoff h.id) (was : c.active = some h)
    (is : c'.active = none) (terminal : c'.lastTerminal = some (h.id, result)) (counters : SameCounters c c')

variable {c c' : Coordinator} {op : CoordinatorOp} {reply : CoordinatorReply}

theorem Handles.refused {error : CoordinatorError} (same : c'.active = c.active)
    (terminal : c'.lastTerminal = c.lastTerminal) (counters : SameCounters c c') :
    Handles c op (.failed error) c' :=
  .idle rfl (by cases op <;> rfl) (by cases op <;> rfl) rfl same terminal counters

theorem Handles.cancel (silent : ∀ commands, preparation op (.done commands) = none ∧
      capture op (.done commands) = none) (reason : ClipboardReason)
    (same : c'.active = c.active) (terminal : c'.lastTerminal = c.lastTerminal)
    (counters : SameCounters c c') :
    Handles c op (.done (c'.cancel reason).1) (c'.cancel reason).2 := by
  rw [cancel_eq]
  cases was : c'.active with
  | none =>
    refine .idle rfl (silent _).1 (silent _).2 rfl ?_ ?_ ⟨counters.session, counters.handoff⟩
    · exact was ▸ same
    · exact terminal
  | some h =>
    refine .ended h (.error reason) rfl (silent _).1 (silent _).2 ?_ (same ▸ was) rfl rfl
      ⟨counters.session, counters.handoff⟩
    simp [commands]

theorem silent_of_sets (sets : op.sets = true) (commands : List CoordinatorCommand) :
    preparation op (.done commands) = none ∧ capture op (.done commands) = none := by
  cases op <;> first | contradiction | exact ⟨rfl, rfl⟩

theorem Performs.handles (performs : Performs c op reply c')
    (prompt : ∀ h, c.active = some h → h.Prompt) : Handles c op reply c' := by
  cases performs with
  | began begins => exact .began _ _ rfl rfl begins
  | refused => exact .refused rfl rfl ⟨rfl, rfl⟩
  | set enabled processSessions sets =>
    exact .idle rfl (silent_of_sets sets _).1 (silent_of_sets sets _).2 rfl rfl rfl ⟨rfl, rfl⟩
  | cancelled enabled processSessions reason sets => exact .cancel (silent_of_sets sets) _ rfl rfl ⟨rfl, rfl⟩
  | aborted => exact .cancel (fun _ => ⟨rfl, rfl⟩) _ rfl rfl ⟨rfl, rfl⟩
  | misled => exact .refused rfl rfl ⟨rfl, rfl⟩
  | adopted => exact .idle rfl rfl rfl rfl rfl rfl ⟨rfl, rfl⟩
  | @activated h h' waits was is =>
    subst is
    refine .progressed h { h with targetActivated := true }
      [.activateTarget h.id h.targetToken h.targetProcessSessionId] rfl ?_ rfl ⟨rfl, rfl⟩
    exact ⟨was, rfl, ⟨rfl, rfl, rfl, rfl, rfl⟩, rfl, fun _ => List.mem_singleton.mp, rfl, .inl ⟨rfl, rfl⟩,
      .inl ⟨rfl, rfl⟩⟩
  | @prepared h h' baseline was is =>
    subst is
    refine .progressed h { h with targetPreparation := some ⟨h.targetProcessSessionId, baseline⟩ } []
      rfl ?_ rfl ⟨rfl, rfl⟩
    exact ⟨was, rfl, ⟨rfl, rfl, rfl, rfl, rfl⟩, rfl, by simp, rfl, .inr ⟨rfl, rfl⟩, .inl ⟨rfl, rfl⟩⟩
  | @captured h h' snapshot was is =>
    subst is
    refine .progressed h { h with snapshot := some snapshot, phase := .ready } [] rfl ?_ rfl ⟨rfl, rfl⟩
    exact ⟨was, rfl, ⟨rfl, rfl, rfl, rfl, rfl⟩, rfl, by simp, rfl, .inl ⟨rfl, rfl⟩,
      .inr ⟨snapshot, rfl, rfl⟩⟩
  | @staged h was =>
    have staged : ActiveHandoff.Prompt { h with phase := .staged } := prompt h was
    refine .progressed h { h with phase := .staged } [] rfl ⟨was, ?_, ⟨rfl, rfl, rfl, rfl, rfl⟩, rfl, by simp,
      ?_, .inl ⟨rfl, rfl⟩, .inl ⟨rfl, rfl⟩⟩ rfl ⟨rfl, rfl⟩
    · rw [publishIfReady_prompt staged]
    · rw [publishIfReady_prompt staged]
      rfl
  | applied was | skipped was =>
    exact .ended _ _ rfl rfl rfl (fun _ issued => absurd issued List.not_mem_nil) was rfl rfl ⟨rfl, rfl⟩

theorem perform_handles (prompt : ∀ h, c.active = some h → h.Prompt) :
    Handles c op (c.perform op).2 (c.perform op).1 := (c.perform_performs op).handles prompt

theorem Handles.command_active (handles : Handles c op reply c')
    {k : CoordinatorCommand} (issued : k ∈ reply.commands) :
    k = .cancelHandoff k.handoffId ∨ c'.isActive k.handoffId = true := by
  cases handles with
  | began targetHost b call answer begins =>
    subst answer
    have canceled (old : k ∈ (c.cancel .canceled).1) : k = .cancelHandoff k.handoffId := by
      simp only [cancel_eq, Option.mem_toList, Option.map_eq_some_iff] at old
      obtain ⟨h, -, rfl⟩ := old
      rfl
    simp only [commands] at issued
    rcases begins.outcome with ⟨_, _, -, -, -, active, commands, -⟩ | ⟨-, commands, -⟩
    · rw [commands] at issued
      rcases List.mem_append.mp issued with old | new
      · exact .inl (canceled old)
      · refine .inr ?_
        simp only [List.mem_cons, List.not_mem_nil, or_false] at new
        rcases new with rfl | rfl <;> simp [isActive, active, handoffId]
    · exact .inl (canceled (commands ▸ issued))
  | idle quiet unprepared uncaptured silent => simp [silent] at issued
  | progressed h h' activation quiet progress =>
    refine .inr ?_
    have active (same : k.handoffId = h'.id) : c'.isActive k.handoffId = true := by
      simp [isActive, progress.is, (publishIfReady_parties h').id, same]
    rw [progress.commands] at issued
    rcases List.mem_append.mp issued with activation | publication
    · refine active ?_
      rw [progress.activates k activation, progress.parties.id]
      rfl
    refine active ?_
    rcases h'.publishIfReady_cases with ⟨same, -⟩ | ⟨_, _, -, -, -, same⟩
    · simp [same] at publication
    · simp only [same, List.mem_singleton] at publication
      rw [publication]
      rfl
  | ended h result quiet unprepared uncaptured cancels =>
    have cancel := cancels k issued
    exact .inl (by rw [cancel]; rfl)

theorem Handles.active_from (handles : Handles c op reply c')
    {h' : ActiveHandoff} (is : c'.active = some h') :
    (∃ h, c.active = some h ∧ h'.id = h.id) ∨ ∃ b, reply = .begun b ∧ h'.id = b.handoffId := by
  cases handles with
  | began targetHost b call answer begins =>
    refine .inr ⟨b, answer, ?_⟩
    rcases begins.outcome with ⟨_, _, -, -, -, active, -⟩ | ⟨inactive, -⟩
    · rw [active] at is
      rw [← Option.some.inj is]
    · simp [inactive] at is
  | idle quiet unprepared uncaptured silent same => exact .inl ⟨h', same ▸ is, rfl⟩
  | progressed h h₁ activation quiet progress =>
    refine .inl ⟨h, progress.was, ?_⟩
    rw [← Option.some.inj (progress.is.symm.trans is), (publishIfReady_parties h₁).id, progress.parties.id]
  | ended h result quiet unprepared uncaptured cancels was inactive => simp [inactive] at is

end Coordinator

open Coordinator

def begunIds (trace : List CoordinatorEntry) : List HandoffId := (begun trace).map (·.handoffId)

def preparations (trace : List CoordinatorEntry) : List (HandoffId × OwnershipToken × ProcessSessionId) :=
  trace.filterMap fun e => preparation e.input e.output

def captures (trace : List CoordinatorEntry) :
    List (HandoffId × OwnershipToken × ProcessSessionId × SnapshotId) :=
  trace.filterMap fun e => capture e.input e.output

def published (trace : List CoordinatorEntry) : List (HandoffId × SnapshotId) :=
  trace.flatMap fun e => e.output.commands.filterMap (·.publication?)

def CoordinatorEntry.ended (e : CoordinatorEntry) : List HandoffId :=
  ((e.pre.active.map (·.id)).toList ++ (e.output.begun?.map (·.handoffId)).toList).filter
    fun id => !e.post.isActive id

def ended (trace : List CoordinatorEntry) : List HandoffId := trace.flatMap CoordinatorEntry.ended

structure Lives (trace : List CoordinatorEntry) (c : Coordinator) : Prop where
  active : ∀ h, c.active = some h → h.id ∈ begunIds trace ∧ h.id ∉ ended trace
  past : ∀ id ∈ ended trace, id ∈ begunIds trace
  once : (ended trace).Nodup

variable {trace : List CoordinatorEntry} {c c' : Coordinator} {op : CoordinatorOp} {reply : CoordinatorReply}

variable {e : CoordinatorEntry} {id : HandoffId} {b : BeginHandoff}

theorem begunIds_snoc :
    begunIds (trace ++ [e]) = begunIds trace ++ (e.output.begun?.map (·.handoffId)).toList := by
  cases answer : e.output.begun? <;> simp [begunIds, begun, answer]

theorem ended_snoc : ended (trace ++ [e]) = ended trace ++ CoordinatorEntry.ended e := by
  simp [ended]

theorem mem_entry_ended : id ∈ CoordinatorEntry.ended ⟨c, op, reply, c'⟩ ↔
    ((∃ h, c.active = some h ∧ h.id = id) ∨ ∃ b, reply.begun? = some b ∧ b.handoffId = id) ∧
      c'.isActive id = false := by
  simp [CoordinatorEntry.ended, or_and_right]

theorem Lives.step (lives : Lives trace c) (handles : Handles c op reply c')
    (fresh : ∀ b, reply.begun? = some b → b.handoffId ∉ begunIds trace) :
    Lives (trace ++ [⟨c, op, reply, c'⟩]) c' := by
  have new (b : BeginHandoff) (answer : reply.begun? = some b) : b.handoffId ∉ ended trace :=
    fun old => fresh b answer (lives.past _ old)
  refine ⟨?_, ?_, ?_⟩
  · intro h' is
    have alive : h'.id ∉ CoordinatorEntry.ended ⟨c, op, reply, c'⟩ := by
      intro finished
      have := (mem_entry_ended.mp finished).2
      simp [isActive, is] at this
    rw [begunIds_snoc, ended_snoc]
    rcases handles.active_from is with ⟨h, was, same⟩ | ⟨b, rfl, same⟩
    · rw [same] at alive ⊢
      have before := lives.active h was
      exact ⟨List.mem_append_left _ before.1, by simp [before.2, alive]⟩
    · rw [same] at alive ⊢
      exact ⟨by simp [begun?], by simp [new b rfl, alive]⟩
  · intro id finished
    rw [begunIds_snoc]
    rw [ended_snoc, List.mem_append] at finished
    rcases finished with before | now
    · exact List.mem_append_left _ (lives.past id before)
    · rcases (mem_entry_ended.mp now).1 with ⟨h, was, rfl⟩ | ⟨b, answer, rfl⟩
      · exact List.mem_append_left _ (lives.active h was).1
      · simp [answer]
  rw [ended_snoc]
  refine List.nodup_append.mpr ⟨lives.once, ?_, ?_⟩
  · refine List.Nodup.filter _ ?_
    cases was : c.active <;> cases answer : reply.begun? <;> simp
    rename_i h b
    intro same
    exact fresh b answer (same ▸ (lives.active h was).1)
  intro id before id' now same
  subst same
  rcases (mem_entry_ended.mp now).1 with ⟨h, was, rfl⟩ | ⟨b, answer, rfl⟩
  · exact (lives.active h was).2 before
  · exact new b answer before

theorem Coordinator.Handles.terminal_moves (handles : Handles c op reply c')
    (fresh : ∀ h b, c.active = some h → reply.begun? = some b → b.handoffId ≠ h.id) :
    c'.lastTerminal = c.lastTerminal ∨ ∃ id ∈ CoordinatorEntry.ended ⟨c, op, reply, c'⟩, ∃ result,
      c'.lastTerminal = some (id, result) := by
  cases handles with
  | began targetHost b call answer begins =>
    rcases begins.outcome with ⟨_, _, -, -, -, active, -, terminal⟩ | ⟨inactive, -, reason, terminal⟩
    · cases was : c.active with
      | none => exact .inl (by simp [terminal, cancel_eq, was])
      | some h =>
        refine .inr ⟨h.id, ?_, .error .canceled, by simp [terminal, cancel_eq, was]⟩
        have other := fresh h b was (by simp [answer, begun?])
        exact mem_entry_ended.mpr ⟨.inl ⟨h, was, rfl⟩, by simp [isActive, active, other]⟩
    · refine .inr ⟨b.handoffId, ?_, .error reason, terminal⟩
      exact mem_entry_ended.mpr
        ⟨.inr ⟨b, by simp [answer, begun?], rfl⟩, by simp [isActive, inactive]⟩
  | idle quiet unprepared uncaptured silent same terminal
  | progressed h h' activation quiet progress terminal => exact .inl terminal
  | ended h result quiet unprepared uncaptured cancels was inactive terminal =>
    refine .inr ⟨h.id, ?_, result, terminal⟩
    exact mem_entry_ended.mpr ⟨.inl ⟨h, was, rfl⟩, by simp [isActive, inactive]⟩

/-- Every result that was seen is of a handoff that ended, and there is one for each. -/
structure Verdicts (trace : List CoordinatorEntry) (c : Coordinator) : Prop where
  last : c.lastTerminal = none ∨ ∃ e ∈ trace, e.post.lastTerminal = c.lastTerminal
  ended : ∀ e ∈ trace, ∀ id result, e.post.lastTerminal = some (id, result) → id ∈ ended trace
  agree : ∀ x ∈ trace, ∀ y ∈ trace, ∀ id result result', x.post.lastTerminal = some (id, result) →
    y.post.lastTerminal = some (id, result') → result = result'

theorem Verdicts.step (verdicts : Verdicts trace c)
    (once : (Clipboard.ended (trace ++ [⟨c, op, reply, c'⟩])).Nodup)
    (moves : c'.lastTerminal = c.lastTerminal ∨
      ∃ id ∈ CoordinatorEntry.ended ⟨c, op, reply, c'⟩, ∃ result, c'.lastTerminal = some (id, result)) :
    Verdicts (trace ++ [⟨c, op, reply, c'⟩]) c' := by
  rw [ended_snoc] at once
  have apart := (List.nodup_append.mp once).2.2
  refine ⟨.inr ⟨⟨c, op, reply, c'⟩, by simp, rfl⟩, ?_, ?_⟩
  · intro e member id result seen
    rw [ended_snoc]
    rcases List.mem_append.mp member with old | new
    · exact List.mem_append_left _ (verdicts.ended e old id result seen)
    obtain rfl := List.mem_singleton.mp new
    rcases moves with same | ⟨id', now, result', is⟩
    · rcases verdicts.last with none | ⟨x, old, last⟩
      · simp [same, none] at seen
      · exact List.mem_append_left _ (verdicts.ended x old id result (last.trans (same ▸ seen)))
    · rw [is] at seen
      cases seen
      exact List.mem_append_right _ now
  -- an old result is not that of a handoff that ends now
  have known (x : CoordinatorEntry) (old : x ∈ trace) (id : HandoffId) (r r' : Except ClipboardReason Unit)
      (first : x.post.lastTerminal = some (id, r)) (now : c'.lastTerminal = some (id, r')) : r = r' := by
    rcases moves with same | ⟨id', finished, result', is⟩
    · rcases verdicts.last with none | ⟨y, earlier, last⟩
      · simp [same, none] at now
      · exact verdicts.agree x old y earlier id r r' first (last.trans (same ▸ now))
    · rw [is] at now
      cases now
      exact absurd rfl (apart id (verdicts.ended x old id r first) id finished)
  intro x hx y hy id r r' first second
  rcases List.mem_append.mp hx with oldX | newX <;> rcases List.mem_append.mp hy with oldY | newY
  · exact verdicts.agree x oldX y oldY id r r' first second
  · obtain rfl := List.mem_singleton.mp newY
    exact known x oldX id r r' first second
  · obtain rfl := List.mem_singleton.mp newX
    exact (known y oldY id r' r second first).symm
  obtain rfl := List.mem_singleton.mp newX
  obtain rfl := List.mem_singleton.mp newY
  rw [first] at second
  cases second
  rfl

structure BeginHandoff.Opens (b : BeginHandoff) (id : HandoffId)
    (sourceToken : OwnershipToken) (sourceSession : ProcessSessionId)
    (targetToken : OwnershipToken) (targetSession : ProcessSessionId) : Prop where
  handoff : b.handoffId = id
  source : b.sourceToken = sourceToken
  target : b.targetToken = targetToken
  prepares : .prepareTarget id targetToken targetSession ∈ b.commands
  captures : ∃ maxBytes, .captureSource id sourceToken sourceSession maxBytes ∈ b.commands

/-- What the trace says about the active handoff is what the handoff says itself. -/
structure Recorded (trace : List CoordinatorEntry) (h : ActiveHandoff) : Prop where
  begun : ∃ b ∈ begun trace,
    b.Opens h.id h.sourceToken h.sourceProcessSessionId h.targetToken h.targetProcessSessionId
  prepared : h.targetPreparation.isSome = true →
    (h.id, h.targetToken, h.targetProcessSessionId) ∈ preparations trace
  preparedAll : h.id ∈ (preparations trace).map (·.1) → h.targetPreparation.isSome = true
  captured : ∀ snapshot, h.snapshot = some snapshot →
    (h.id, h.sourceToken, h.sourceProcessSessionId, snapshot.snapshotId) ∈ captures trace
  capturedAll : h.id ∈ (captures trace).map (·.1) → h.snapshot.isSome = true

structure Publishing (trace : List CoordinatorEntry) (c : Coordinator) : Prop where
  recorded : ∀ h, c.active = some h → Recorded trace h
  prompt : ∀ h, c.active = some h → h.Prompt
  flagged : ∀ h, c.active = some h → (h.id ∈ (published trace).map (·.1) ↔ h.snapshotPublished = true)
  preparedKnown : ∀ id ∈ (preparations trace).map (·.1), id ∈ begunIds trace
  capturedKnown : ∀ id ∈ (captures trace).map (·.1), id ∈ begunIds trace
  publishedKnown : ∀ id ∈ (published trace).map (·.1), id ∈ begunIds trace
  both : ∀ id, id ∈ (preparations trace).map (·.1) → id ∈ (captures trace).map (·.1) →
    id ∈ (published trace).map (·.1)
  once : ((published trace).map (·.1)).Nodup

theorem preparations_snoc :
    preparations (trace ++ [e]) = preparations trace ++ (preparation e.input e.output).toList := by
  cases prepares : preparation e.input e.output <;> simp [preparations, prepares]

theorem captures_snoc :
    captures (trace ++ [e]) = captures trace ++ (capture e.input e.output).toList := by
  cases taken : capture e.input e.output <;> simp [captures, taken]

theorem published_snoc :
    published (trace ++ [e]) = published trace ++ e.output.commands.filterMap (·.publication?) := by
  simp [published]

theorem begun_subset (member : b ∈ begun trace) : b ∈ begun (trace ++ [e]) := by
  simp only [begun, List.filterMap_append]
  exact List.mem_append_left _ member

theorem begunIds_subset (member : id ∈ begunIds trace) :
    id ∈ begunIds (trace ++ [e]) := by
  rw [begunIds_snoc]
  exact List.mem_append_left _ member

theorem Publishing.quiet (publishing : Publishing trace c) (unprepared : preparation op reply = none)
    (uncaptured : capture op reply = none)
    (unpublished : reply.commands.filterMap (·.publication?) = [])
    (active : ∀ h, c'.active = some h → c.active = some h ∨
      Recorded (trace ++ [⟨c, op, reply, c'⟩]) h ∧ h.Prompt ∧ h.snapshotPublished = false ∧
        h.id ∉ begunIds trace) : Publishing (trace ++ [⟨c, op, reply, c'⟩]) c' := by
  have prepared := @preparations_snoc trace ⟨c, op, reply, c'⟩
  have captured := @captures_snoc trace ⟨c, op, reply, c'⟩
  have published := @published_snoc trace ⟨c, op, reply, c'⟩
  simp only [unprepared, uncaptured, unpublished, Option.toList_none, List.append_nil]
    at prepared captured published
  refine ⟨?_, ?_, ?_, ?_, ?_, ?_, ?_, ?_⟩
  · intro h is
    rcases active h is with was | ⟨recorded, -⟩
    · obtain ⟨⟨b, member, opens⟩, prepares, preparesAll, taken, takenAll⟩ := publishing.recorded h was
      rw [← prepared] at prepares preparesAll
      rw [← captured] at taken takenAll
      exact ⟨⟨b, begun_subset member, opens⟩, prepares, preparesAll, taken, takenAll⟩
    · exact recorded
  · intro h is
    rcases active h is with was | ⟨-, prompt, -⟩
    · exact publishing.prompt h was
    · exact prompt
  · intro h is
    rw [published]
    rcases active h is with was | ⟨-, -, unflagged, fresh⟩
    · exact publishing.flagged h was
    · exact ⟨fun old => absurd (publishing.publishedKnown _ old) fresh,
      fun flag => by simp [unflagged] at flag⟩
  · rw [prepared]
    exact fun id member => begunIds_subset (publishing.preparedKnown id member)
  · rw [captured]
    exact fun id member => begunIds_subset (publishing.capturedKnown id member)
  · rw [published]
    exact fun id member => begunIds_subset (publishing.publishedKnown id member)
  · rw [prepared, captured, published]
    exact publishing.both
  · rw [published]
    exact publishing.once

theorem Recorded.step {h h' : ActiveHandoff} {activation : List CoordinatorCommand}
    (recorded : Recorded trace h) (progress : Progress c op reply c' h h' activation) :
    Recorded (trace ++ [⟨c, op, reply, c'⟩]) h' := by
  obtain ⟨id, sourceToken, sourceSession, targetToken, targetSession⟩ := progress.parties
  refine ⟨?_, ?_, ?_, ?_, ?_⟩
  · obtain ⟨b, member, opens⟩ := recorded.begun
    rw [id, sourceToken, sourceSession, targetToken, targetSession]
    exact ⟨b, begun_subset member, opens⟩
  · intro has
    rw [preparations_snoc, id, targetToken, targetSession]
    rcases progress.prepared with ⟨none, same⟩ | ⟨now, -⟩
    · exact List.mem_append_left _ (recorded.prepared (same ▸ has))
    · simp [now]
  · intro member
    rw [preparations_snoc, id] at member
    rcases progress.prepared with ⟨none, same⟩ | ⟨-, has⟩
    · rw [none] at member
      rw [same]
      exact recorded.preparedAll (by simpa using member)
    · exact has
  · intro snapshot has
    rw [captures_snoc, id, sourceToken, sourceSession]
    rcases progress.captured with ⟨none, same⟩ | ⟨taken, is, now⟩
    · exact List.mem_append_left _ (recorded.captured snapshot (same ▸ has))
    · rw [is] at has
      cases has
      simp [now]
  intro member
  rw [captures_snoc, id] at member
  rcases progress.captured with ⟨none, same⟩ | ⟨taken, is, -⟩
  · rw [none] at member
    rw [same]
    exact recorded.capturedAll (by simpa using member)
  · simp [is]

theorem Recorded.publishIfReady {h : ActiveHandoff} (recorded : Recorded trace h) :
    Recorded trace h.publishIfReady.1 := by
  rcases h.publishIfReady_cases with ⟨same, -⟩ | ⟨_, _, -, -, -, same⟩ <;> rw [same]
  · exact recorded
  · exact ⟨recorded.begun, recorded.prepared, recorded.preparedAll, recorded.captured, recorded.capturedAll⟩

theorem prompt_publishIfReady {h h' : ActiveHandoff} (prompt : h.Prompt)
    (flag : h'.snapshotPublished = h.snapshotPublished)
    (prepared : h.targetPreparation.isSome = true → h'.targetPreparation.isSome = true)
    (captured : h.snapshot.isSome = true → h'.snapshot.isSome = true) : h'.publishIfReady.1.Prompt := by
  rcases h'.publishIfReady_cases with ⟨same, stays⟩ | ⟨_, _, -, has, prepares, same⟩
  · unfold Prompt at prompt ⊢
    cases taken : h.snapshot.isSome <;> cases ready : h.targetPreparation.isSome <;>
      rcases stays with published | none | none <;> simp_all
  · simp [same, Prompt, has, prepares]

section Progress

variable {h h' : ActiveHandoff} {activation : List CoordinatorCommand}

theorem Coordinator.Progress.prompt (progress : Progress c op reply c' h h' activation) (prompt : h.Prompt) :
    h'.publishIfReady.1.Prompt := by
  refine prompt_publishIfReady prompt progress.flag ?_ ?_
  · exact progress.prepared.elim (fun same has => same.2 ▸ has) (fun now _ => now.2)
  · exact progress.captured.elim (fun same has => same.2 ▸ has) (fun ⟨_, is, _⟩ _ => by rw [is]; rfl)

theorem Coordinator.Progress.preparations (progress : Progress c op reply c' h h' activation) :
    (preparations (trace ++ [⟨c, op, reply, c'⟩])).map (·.1) ⊆ h.id :: (preparations trace).map (·.1) := by
  rw [preparations_snoc]
  rcases progress.prepared with ⟨none, -⟩ | ⟨now, -⟩
  · simp [none]
  · simp [now, List.subset_def, or_comm]

theorem Coordinator.Progress.captures (progress : Progress c op reply c' h h' activation) :
    (captures (trace ++ [⟨c, op, reply, c'⟩])).map (·.1) ⊆ h.id :: (captures trace).map (·.1) := by
  rw [captures_snoc]
  rcases progress.captured with ⟨none, -⟩ | ⟨_, -, now⟩
  · simp [none]
  · simp [now, List.subset_def, or_comm]

/-- A call that moves a handoff on publishes its snapshot, or nothing. -/
theorem Coordinator.Progress.published (progress : Progress c op reply c' h h' activation)
    (trace : List CoordinatorEntry) :
    ∃ new, (published (trace ++ [⟨c, op, reply, c'⟩])).map (·.1) = (published trace).map (·.1) ++ new ∧
      (new = [] ∧ h'.publishIfReady.1.snapshotPublished = h.snapshotPublished ∨
        new = [h.id] ∧ h.snapshotPublished = false ∧ h'.publishIfReady.1.snapshotPublished = true) := by
  have quiet : activation.filterMap (·.publication?) = [] := by
    refine List.filterMap_eq_nil_iff.mpr (fun k member => ?_)
    rw [progress.activates k member]
    rfl
  refine ⟨(h'.publishIfReady.2.filterMap (·.publication?)).map (·.1), ?_, ?_⟩
  · rw [published_snoc, List.map_append, progress.commands, List.filterMap_append, quiet, List.nil_append]
  rcases h'.publishIfReady_cases with ⟨same, -⟩ | ⟨_, _, unflagged, -, -, same⟩
  · exact .inl ⟨by simp [same], by rw [same, progress.flag]⟩
  · exact .inr ⟨by simp [same, publication?, progress.parties.id], progress.flag ▸ unflagged, by rw [same]⟩

theorem Publishing.flags (publishing : Publishing trace c)
    (progress : Progress c op reply c' h h' activation) :
    h.id ∈ (published (trace ++ [⟨c, op, reply, c'⟩])).map (·.1) ↔
      h'.publishIfReady.1.snapshotPublished = true := by
  obtain ⟨new, is, ⟨rfl, flag⟩ | ⟨rfl, -, flag⟩⟩ := progress.published trace
  · rw [is, List.append_nil, publishing.flagged h progress.was, flag]
  · simp [is, flag]

theorem Publishing.stays_once (publishing : Publishing trace c)
    (progress : Progress c op reply c' h h' activation) :
    ((published (trace ++ [⟨c, op, reply, c'⟩])).map (·.1)).Nodup := by
  obtain ⟨new, is, ⟨rfl, -⟩ | ⟨rfl, unflagged, -⟩⟩ := progress.published trace
  · rw [is, List.append_nil]
    exact publishing.once
  · rw [is]
    refine List.nodup_append.mpr ⟨publishing.once, List.nodup_singleton _, ?_⟩
    intro i old j new equal
    rw [equal, List.mem_singleton.mp new, publishing.flagged h progress.was, unflagged] at old
    contradiction

theorem Publishing.progress (publishing : Publishing trace c)
    (progress : Progress c op reply c' h h' activation) : Publishing (trace ++ [⟨c, op, reply, c'⟩]) c' := by
  have was := publishing.recorded h progress.was
  have stepped : Recorded (trace ++ [⟨c, op, reply, c'⟩]) h' := was.step progress
  have recorded := stepped.publishIfReady
  have prompt := progress.prompt (publishing.prompt h progress.was)
  have flags := publishing.flags progress
  have id : h'.publishIfReady.1.id = h.id := by rw [(publishIfReady_parties h').id, progress.parties.id]
  have only (h'' : ActiveHandoff) (is : c'.active = some h'') : h'.publishIfReady.1 = h'' :=
    Option.some.inj (progress.is.symm.trans is)
  have known (ids : List HandoffId) (old : ∀ i ∈ ids, i ∈ begunIds trace) (i : HandoffId)
      (member : i ∈ h.id :: ids) : i ∈ begunIds (trace ++ [⟨c, op, reply, c'⟩]) := by
    refine begunIds_subset ?_
    rcases List.mem_cons.mp member with rfl | before
    · obtain ⟨b, member, opens⟩ := was.begun
      exact List.mem_map.mpr ⟨b, member, opens.handoff⟩
    · exact old i before
  obtain ⟨new, is, news⟩ := progress.published trace
  refine ⟨fun h'' is => only h'' is ▸ recorded, fun h'' is => only h'' is ▸ prompt, ?_,
    fun i member => known _ publishing.preparedKnown i (progress.preparations member),
    fun i member => known _ publishing.capturedKnown i (progress.captures member), ?_, ?_,
    publishing.stays_once progress⟩
  · intro h'' is
    rw [← only h'' is, id]
    exact flags
  · intro i member
    refine known _ publishing.publishedKnown i ?_
    rw [is] at member
    rcases news with ⟨rfl, -⟩ | ⟨rfl, -⟩ <;> simp at member ⊢ <;> tauto
  · intro i first second
    by_cases own : i = h.id
    · rw [← id] at own
      subst own
      rw [id, flags, prompt, recorded.preparedAll first, recorded.capturedAll second]
      rfl
    · have before := publishing.both i ((List.mem_cons.mp (progress.preparations first)).resolve_left own)
        ((List.mem_cons.mp (progress.captures second)).resolve_left own)
      rw [is]
      exact List.mem_append_left _ before

end Progress

theorem Coordinator.Begins.unpublished {targetHost : HostId}
    (begins : Begins c targetHost b c') : b.commands.filterMap (·.publication?) = [] := by
  have canceled : (c.cancel .canceled).1.filterMap (·.publication?) = [] := by
    rw [cancel_eq]
    cases c.active <;> rfl
  rcases begins.outcome with ⟨_, _, -, -, -, -, commands, -⟩ | ⟨-, commands, -⟩
  · rw [commands, List.filterMap_append, canceled]
    rfl
  · rw [commands, canceled]

theorem Publishing.begins (publishing : Publishing trace c) {targetHost : HostId}
    (begins : Begins c targetHost b c') (fresh : b.handoffId ∉ begunIds trace) :
    Publishing (trace ++ [⟨c, .beginHandoff targetHost, .begun b, c'⟩]) c' := by
  refine publishing.quiet rfl rfl begins.unpublished ?_
  intro h is
  rcases begins.outcome with ⟨sourceSession, targetSession, -, -, -, active, commands, -⟩ | ⟨inactive, -⟩
  · rw [active] at is
    obtain rfl := Option.some.inj is
    refine .inr ⟨⟨⟨b, ?_, rfl, begins.sourceToken, rfl, ?_, c.maxBytes, ?_⟩, nofun, ?_, nofun, ?_⟩, rfl,
      rfl, fresh⟩
    · rw [begun_snoc rfl]
      exact List.mem_append_right _ List.mem_cons_self
    · simp [commands]
    · simp [commands]
    · intro old
      rw [preparations_snoc] at old
      exact absurd (publishing.preparedKnown _ (by simpa [preparation] using old)) fresh
    · intro old
      rw [captures_snoc] at old
      exact absurd (publishing.capturedKnown _ (by simpa [capture] using old)) fresh
  · simp [inactive] at is

theorem Publishing.step (publishing : Publishing trace c) (handles : Handles c op reply c')
    (fresh : ∀ b, reply.begun? = some b → b.handoffId ∉ begunIds trace) :
    Publishing (trace ++ [⟨c, op, reply, c'⟩]) c' := by
  cases handles with
  | began targetHost b call answer begins =>
    subst call answer
    exact publishing.begins begins (fresh b rfl)
  | idle quiet unprepared uncaptured silent same =>
    refine publishing.quiet unprepared uncaptured (by simp [silent]) ?_
    exact fun h is => .inl (same ▸ is)
  | progressed h h' activation quiet progress => exact publishing.progress progress
  | ended h result quiet unprepared uncaptured cancels was is =>
    refine publishing.quiet unprepared uncaptured ?_ (by simp [is])
    refine List.filterMap_eq_nil_iff.mpr (fun k issued => ?_)
    rw [cancels k issued]
    rfl

theorem fresh_of_ledger (ledger : Ledger trace c) (handles : Handles c op reply c') (b : BeginHandoff)
    (answer : reply.begun? = some b) : b.handoffId ∉ begunIds trace := by
  cases handles with
  | began targetHost b' call is begins =>
    obtain rfl : b' = b := by simpa [is, begun?] using answer
    intro old
    obtain ⟨a, member, same⟩ := List.mem_map.mp old
    have below := UInt64.le_iff_toNat_le.mp (ledger.handoffs a member)
    rw [same, begins.handoffId, begins.handoff] at below
    exact absurd below (Nat.not_succ_le_self _)
  | idle quiet | progressed _ _ _ quiet | ended _ _ quiet => simp [quiet] at answer

structure Chronicle (trace : List CoordinatorEntry) (c : Coordinator) : Prop where
  lives : Lives trace c
  verdicts : Verdicts trace c
  publishing : Publishing trace c

theorem Chronicle.step (chronicle : Chronicle trace c) (ledger : Ledger trace c)
    (step : coordinator.step c op = some (c', reply)) :
    Handles c op reply c' ∧ Chronicle (trace ++ [⟨c, op, reply, c'⟩]) c' ∧
      (c'.lastTerminal = c.lastTerminal ∨ ∃ id ∈ CoordinatorEntry.ended ⟨c, op, reply, c'⟩,
        ∃ result, c'.lastTerminal = some (id, result)) := by
  have handles : Handles c op _ _ := perform_handles chronicle.publishing.prompt
  obtain ⟨rfl, rfl⟩ := coordinator_step.mp step
  have fresh := fresh_of_ledger ledger handles
  have lives := chronicle.lives.step handles fresh
  have moves := handles.terminal_moves fun h b was answer same =>
    fresh b answer (same ▸ (chronicle.lives.active h was).1)
  exact ⟨handles, ⟨lives, chronicle.verdicts.step lives.once moves, chronicle.publishing.step handles fresh⟩,
    moves⟩

theorem chronicle_of_run {enabled : Bool} {authority : AuthoritySessionId} {server : HostId}
    {session : ProcessSessionId} {maxBytes : UInt64}
    (run : Run coordinator (.new enabled authority server session maxBytes) trace c) :
    Chronicle trace c := by
  refine run.history (P := Chronicle) ?_ ?_
  · refine ⟨⟨?_, ?_, .nil⟩, ⟨.inl rfl, ?_, ?_⟩, ⟨?_, ?_, ?_, ?_, ?_, ?_, ?_, .nil⟩⟩ <;>
      simp [Coordinator.new, ended, preparations, captures, published]
  · intro trace c op c' reply run chronicle step
    exact (chronicle.step (ledger_of_run run) step).2.1

/-- The result that an accepted call gives to a handoff. -/
def Coordinator.verdict (c : Coordinator) :
    CoordinatorOp → Option (HandoffId × Except ClipboardReason Unit)
  | .applied handoffId _ => some (handoffId, .ok ())
  | .skip handoffId reason => some (handoffId, .error reason)
  | .abort _ => c.active.map fun h => (h.id, .error .canceled)
  | _ => none

theorem Coordinator.Performs.ends {commands : List CoordinatorCommand}
    (performs : Performs c op (.done commands) c') {result : Except ClipboardReason Unit}
    (verdict : c.verdict op = some (id, result)) :
    (∃ h, c.active = some h ∧ h.id = id) ∧ c'.active = none ∧ c'.lastTerminal = some (id, result) := by
  cases performs with
  | applied was | skipped was =>
    cases verdict
    exact ⟨⟨_, was, rfl⟩, rfl, rfl⟩
  | aborted waits =>
    obtain ⟨h, was, ⟨⟩⟩ := Option.map_eq_some_iff.mp verdict
    exact ⟨⟨h, was, rfl⟩, by simp [cancel_eq], by simp [cancel_eq, was]⟩
  | set _ _ sets | cancelled _ _ _ sets => cases op <;> contradiction
  | _ => cases verdict

structure PublicationLaw (trace : List CoordinatorEntry) : Prop where
  publishedOnce : ((published trace).map (·.1)).Nodup
  endedOnce : (ended trace).Nodup
  oneResult : ∀ x ∈ trace, ∀ y ∈ trace, ∀ id result result', x.post.lastTerminal = some (id, result) →
    y.post.lastTerminal = some (id, result') → result = result'
  resultEnds : ∀ e ∈ trace, e.post.lastTerminal = e.pre.lastTerminal ∨
    ∃ id ∈ CoordinatorEntry.ended e, ∃ result, e.post.lastTerminal = some (id, result)
  verdict : ∀ e ∈ trace, ∀ id result commands, e.pre.verdict e.input = some (id, result) →
    e.output = .done commands →
    id ∈ CoordinatorEntry.ended e ∧ e.post.lastTerminal = some (id, result)
  publishes : ∀ before e after id snapshotId, trace = before ++ e :: after →
    .publishSnapshot id snapshotId ∈ e.output.commands →
    e.pre.isActive id = true ∧ e.post.isActive id = true ∧
      ∃ b ∈ begun before, ∃ sourceToken sourceSession targetToken targetSession,
        b.Opens id sourceToken sourceSession targetToken targetSession ∧
        (id, targetToken, targetSession) ∈ preparations (before ++ [e]) ∧
        (id, sourceToken, sourceSession, snapshotId) ∈ captures (before ++ [e])
  prompt : ∀ id ∈ (preparations trace).map (·.1), id ∈ (captures trace).map (·.1) →
    id ∈ (published trace).map (·.1)
  finished : ∀ before e after, trace = before ++ e :: after → ∀ id ∈ CoordinatorEntry.ended e,
    ∀ x ∈ e :: after, ∀ k ∈ x.output.commands, k.handoffId = id → k = .cancelHandoff id

theorem Coordinator.Handles.publishes (handles : Handles c op reply c') {snapshotId : SnapshotId}
    (issued : .publishSnapshot id snapshotId ∈ reply.commands) :
    ∃ h h', c.active = some h ∧ SameParties h h' ∧ c'.active = some h' ∧ h'.id = id ∧
      h'.targetPreparation.isSome = true ∧ (h'.snapshot.map (·.snapshotId)) = some snapshotId := by
  cases handles with
  | began targetHost b call answer begins =>
    have none := List.filterMap_eq_nil_iff.mp begins.unpublished _ (answer ▸ issued)
    simp [publication?] at none
  | idle quiet unprepared uncaptured silent => simp [silent] at issued
  | progressed h h' activation quiet progress =>
    rw [progress.commands, List.mem_append] at issued
    rcases issued with old | new
    · have := progress.activates _ old
      contradiction
    have parties := progress.parties.trans (publishIfReady_parties h')
    have is := progress.is
    rcases h'.publishIfReady_cases with ⟨same, -⟩ | ⟨snapshot, preparation, -, has, prepares, same⟩
    · simp [same] at new
    simp only [same, List.mem_singleton, publishSnapshot.injEq] at new
    obtain ⟨rfl, rfl⟩ := new
    rw [same] at is parties
    exact ⟨h, _, progress.was, parties, is, rfl, by simp [prepares], by simp [has]⟩
  | ended h result quiet unprepared uncaptured cancels =>
    have := cancels _ issued
    contradiction

theorem snapshots_published_once {enabled : Bool} {authority : AuthoritySessionId} {server : HostId}
    {session : ProcessSessionId} {maxBytes : UInt64}
    (run : Run coordinator (.new enabled authority server session maxBytes) trace c) :
    PublicationLaw trace := by
  have chronicle := chronicle_of_run run
  refine ⟨chronicle.publishing.once, chronicle.lives.once, chronicle.verdicts.agree, ?_, ?_, ?_,
    chronicle.publishing.both, ?_⟩
  · intro e member
    obtain ⟨before, earlier, step⟩ := run.entry_step member
    exact ((chronicle_of_run earlier).step (ledger_of_run earlier) step).2.2
  · intro e member id result commands verdict accepted
    obtain ⟨before, earlier, step⟩ := run.entry_step member
    obtain ⟨post, answer⟩ := coordinator_step.mp step
    have performs := e.pre.perform_performs e.input
    rw [post, answer, accepted] at performs
    obtain ⟨was, none, terminal⟩ := performs.ends verdict
    exact ⟨mem_entry_ended.mpr ⟨.inl was, by simp [isActive, none]⟩, terminal⟩
  · intro before e after id snapshotId here issued
    obtain ⟨earlier, step, -⟩ := run.split here
    obtain ⟨handles, next, -⟩ := (chronicle_of_run earlier).step (ledger_of_run earlier) step
    obtain ⟨h, h', was, parties, is, rfl, prepared, captured⟩ := handles.publishes issued
    obtain ⟨b, member, opens⟩ := ((chronicle_of_run earlier).publishing.recorded h was).begun
    obtain ⟨snapshot, has, rfl⟩ := Option.map_eq_some_iff.mp captured
    have recorded := next.publishing.recorded h' is
    refine ⟨by simp [isActive, was, parties.id], by simp [isActive, is], b, member, h'.sourceToken,
      h'.sourceProcessSessionId, h'.targetToken, h'.targetProcessSessionId, ?_, recorded.prepared prepared,
      recorded.captured snapshot has⟩
    rw [parties.id, parties.sourceToken, parties.sourceSession, parties.targetToken, parties.targetSession]
    exact opens
  intro before e after here id finished x later k issued own
  subst own
  -- the command comes with or after the end, so its handoff is not active
  obtain ⟨between, rest, split⟩ := List.append_of_mem later
  have here : trace = (before ++ between) ++ x :: rest := by rw [here, split, List.append_assoc]
  obtain ⟨earlier, step, -⟩ := run.split here
  obtain ⟨handles, next, -⟩ := (chronicle_of_run earlier).step (ledger_of_run earlier) step
  refine (handles.command_active issued).resolve_right ?_
  intro active
  obtain ⟨h, is, own⟩ := Option.any_eq_true _ _ |>.mp active
  refine (next.lives.active h is).2 ?_
  rw [of_decide_eq_true own]
  refine List.mem_flatMap.mpr ⟨e, ?_, finished⟩
  cases between with
  | nil | cons y ys => simp [(List.cons.inj split).1]

/-- The snapshot comes before the preparation and before the new owner; it is published
once. -/
theorem snapshot_published_before_activation : ∃ trace c,
    Run coordinator (.new true 7 "server" 1 64) trace c ∧ PublicationLaw trace ∧
      published trace = [(⟨7, 1⟩, ⟨1, 5⟩)] ∧ ended trace = [⟨7, 1⟩] :=
  coordinator.exists_lawful (.new true 7 "server" 1 64)
    [.setProcessSession "mac" 2, .beginHandoff "mac",
      .sourceCaptured ⟨7, 1⟩ ⟨7, 0, "server"⟩ 1 ⟨⟨1, 5⟩, .text, 8⟩,
      .targetPrepared ⟨7, 1⟩ ⟨7, 1, "mac"⟩ 2 9,
      .skip ⟨7, 1⟩ .canceled, .beginHandoff "server"]
    _ snapshots_published_once (by decide +kernel)

end DisplayMux.Clipboard
