import DisplayMux.Clipboard.Coordinator

/-! The ownership of the clipboard moves along the tokens that were handed out, each a new
one, and only to the latest. -/
namespace DisplayMux.Clipboard

namespace Coordinator

structure SameOwnership (c c' : Coordinator) : Prop where
  session : c'.authoritySessionId = c.authoritySessionId
  current : c'.currentToken = c.currentToken
  ownership : c'.nextOwnershipEpoch = c.nextOwnershipEpoch
  handoff : c'.nextHandoffEpoch = c.nextHandoffEpoch
  pending : c'.pendingOwnership = c.pendingOwnership

/-- All that a call can do to the ownership. -/
inductive Transfers (c : Coordinator) (op : CoordinatorOp) (reply : CoordinatorReply) (c' : Coordinator) :
    Prop where
  | began (targetHost : HostId) (b : BeginHandoff) (call : op = .beginHandoff targetHost)
    (answer : reply = .begun b) (begins : Begins c targetHost b c')
  | activated (id : HandoffId) (session : ProcessSessionId)
    (call : op = .ownershipActivated id c'.currentToken session) (quiet : reply.begun? = none)
    (was : c.pendingOwnership = some ⟨id, c'.currentToken⟩)
    (same : SameOwnership { c with currentToken := c'.currentToken, pendingOwnership := none } c')
  | aborted (id : HandoffId) (call : op = .abort id) (quiet : reply.begun? = none)
    (same : SameOwnership { c with pendingOwnership := none } c')
  | kept (quiet : reply.begun? = none) (refused : ∀ id, op = .abort id → reply.isDone = false)
    (same : SameOwnership c c')

variable {c c' : Coordinator}

theorem SameOwnership.refl : SameOwnership c c := ⟨rfl, rfl, rfl, rfl, rfl⟩

theorem SameOwnership.cancel (same : SameOwnership c c') (reason : ClipboardReason) :
    SameOwnership c (c'.cancel reason).2 := by
  rw [cancel_eq]
  exact ⟨same.session, same.current, same.ownership, same.handoff, same.pending⟩

theorem Performs.transfers {op : CoordinatorOp} {reply : CoordinatorReply}
    (performs : Performs c op reply c') :
    Transfers c op reply c' := by
  cases performs with
  | began begins => exact .began _ _ rfl rfl begins
  | refused => exact .kept rfl (fun _ _ => rfl) .refl
  | set enabled processSessions sets =>
    exact .kept rfl (fun id call => absurd (call ▸ sets) nofun) ⟨rfl, rfl, rfl, rfl, rfl⟩
  | cancelled enabled processSessions reason sets =>
    exact .kept rfl (fun id call => absurd (call ▸ sets) nofun) (.cancel (by constructor <;> rfl) _)
  | aborted => exact .aborted _ rfl rfl (SameOwnership.refl.cancel _)
  | misled waits | adopted waits | activated waits =>
    exact .activated _ _ rfl rfl waits ⟨rfl, rfl, rfl, rfl, rfl⟩
  | prepared | captured | staged | applied | skipped =>
    exact .kept rfl (by simp) ⟨rfl, rfl, rfl, rfl, rfl⟩

theorem perform_transfers (c : Coordinator) (op : CoordinatorOp) :
    Transfers c op (c.perform op).2 (c.perform op).1 := (c.perform_performs op).transfers

end Coordinator

open Coordinator

def begun (trace : List CoordinatorEntry) : List BeginHandoff := trace.filterMap (·.output.begun?)

def CoordinatorEntry.Closes (b : BeginHandoff) (e : CoordinatorEntry) : Prop :=
  e.input = .abort b.handoffId ∧ e.output.isDone = true ∨ e.output.begun?.isSome = true

/-- The handoff is the latest one, and was neither activated nor aborted. -/
def Waiting (b : BeginHandoff) (trace : List CoordinatorEntry) : Prop :=
  Since (fun _ e => e.output = .begun b)
    (fun e => ¬CoordinatorEntry.Closes b e ∧ e.post.currentToken ≠ b.targetToken) trace

def Closed (b : BeginHandoff) (trace : List CoordinatorEntry) : Prop :=
  Since (fun before e => b ∈ begun before ∧ CoordinatorEntry.Closes b e) (fun _ => True) trace

def BeginHandoff.Precedes (a b : BeginHandoff) : Prop :=
  a.handoffId.handoffEpoch < b.handoffId.handoffEpoch ∧
    a.targetToken.ownershipEpoch < b.targetToken.ownershipEpoch

/-- What the run so far says about the tokens that are still in play. -/
structure Ledger (trace : List CoordinatorEntry) (c : Coordinator) : Prop where
  handoffs : ∀ b ∈ begun trace, b.handoffId.handoffEpoch ≤ c.nextHandoffEpoch
  tokens : ∀ b ∈ begun trace, b.targetToken.ownershipEpoch ≤ c.nextOwnershipEpoch
  current : c.currentToken.ownershipEpoch ≤ c.nextOwnershipEpoch
  increasing : (begun trace).Pairwise BeginHandoff.Precedes
  pending : ∀ id token, c.pendingOwnership = some ⟨id, token⟩ →
    c.currentToken ≠ token ∧ ∃ b, b.handoffId = id ∧ b.targetToken = token ∧ Waiting b trace
  closed : ∀ b id, Closed b trace → c.pendingOwnership ≠ some ⟨id, b.targetToken⟩

variable {trace : List CoordinatorEntry} {c c' : Coordinator} {op : CoordinatorOp} {reply : CoordinatorReply}

theorem begun_quiet (quiet : reply.begun? = none) :
    begun (trace ++ [⟨c, op, reply, c'⟩]) = begun trace := by
  simp [begun, quiet]

theorem begun_snoc {b : BeginHandoff} (answer : reply = .begun b) :
    begun (trace ++ [⟨c, op, reply, c'⟩]) = begun trace ++ [b] := by
  simp [begun, answer, CoordinatorReply.begun?]

theorem Ledger.quiet (ledger : Ledger trace c) (quiet : reply.begun? = none)
    (handoff : c'.nextHandoffEpoch = c.nextHandoffEpoch)
    (ownership : c'.nextOwnershipEpoch = c.nextOwnershipEpoch)
    (current : c'.currentToken.ownershipEpoch ≤ c.nextOwnershipEpoch)
    (pending : ∀ id token, c'.pendingOwnership = some ⟨id, token⟩ →
      c'.currentToken = c.currentToken ∧ c.pendingOwnership = some ⟨id, token⟩ ∧
        ∀ id, op = .abort id → reply.isDone = false) :
    Ledger (trace ++ [⟨c, op, reply, c'⟩]) c' := by
  have same := @begun_quiet trace c c' op reply quiet
  have open_ (b : BeginHandoff) (refused : ∀ id, op = .abort id → reply.isDone = false) :
      ¬CoordinatorEntry.Closes b ⟨c, op, reply, c'⟩ := by
    rintro (⟨call, done⟩ | later)
    · exact absurd done (by simp [refused _ call])
    · simp [quiet] at later
  refine ⟨?_, ?_, ?_, ?_, ?_, ?_⟩
  · rw [same, handoff]
    exact ledger.handoffs
  · rw [same, ownership]
    exact ledger.tokens
  · rw [ownership]
    exact current
  · rw [same]
    exact ledger.increasing
  · intro id token waits
    obtain ⟨stays, was, refused⟩ := pending id token waits
    obtain ⟨other, b, rfl, rfl, waiting⟩ := ledger.pending id token was
    rw [← stays] at other
    exact ⟨other, b, rfl, rfl, waiting.later ⟨open_ b refused, other⟩⟩
  intro b id closed waits
  obtain ⟨-, was, refused⟩ := pending id _ waits
  rcases closed.of_snoc with ⟨-, closes⟩ | ⟨earlier, -⟩
  · exact open_ b refused closes
  · exact ledger.closed b id earlier was

theorem Ledger.begins (ledger : Ledger trace c) {targetHost : HostId} {b : BeginHandoff}
    (answer : reply = .begun b) (begins : Begins c targetHost b c') :
    Ledger (trace ++ [⟨c, op, reply, c'⟩]) c' := by
  have snoc := @begun_snoc trace c c' op reply b answer
  have id : b.handoffId.handoffEpoch = c'.nextHandoffEpoch := by rw [begins.handoffId]
  have token : b.targetToken.ownershipEpoch = c'.nextOwnershipEpoch := by rw [begins.targetToken]
  have older (a : BeginHandoff) (member : a ∈ begun trace) :
      a.handoffId.handoffEpoch < c'.nextHandoffEpoch ∧ a.targetToken.ownershipEpoch < c'.nextOwnershipEpoch :=
    ⟨UInt64.lt_of_le_of_lt (ledger.handoffs a member) begins.nextHandoff_lt,
      UInt64.lt_of_le_of_lt (ledger.tokens a member) begins.nextOwnership_lt⟩
  refine ⟨?_, ?_, ?_, ?_, ?_, ?_⟩
  · simp only [snoc, List.mem_append, List.mem_singleton]
    rintro a (old | rfl)
    · exact UInt64.le_of_lt (older a old).1
    · exact UInt64.le_of_eq id
  · simp only [snoc, List.mem_append, List.mem_singleton]
    rintro a (old | rfl)
    · exact UInt64.le_of_lt (older a old).2
    · exact UInt64.le_of_eq token
  · rw [begins.current]
    exact UInt64.le_of_lt (UInt64.lt_of_le_of_lt ledger.current begins.nextOwnership_lt)
  · rw [snoc]
    refine List.pairwise_append.mpr ⟨ledger.increasing, List.pairwise_singleton _ _, ?_⟩
    intro a old b' new
    obtain rfl := List.mem_singleton.mp new
    unfold BeginHandoff.Precedes
    rw [id, token]
    exact older a old
  · intro id' token' waits
    rw [begins.pending, Option.some.injEq, PendingOwnership.mk.injEq] at waits
    obtain ⟨rfl, rfl⟩ := waits
    refine ⟨?_, b, rfl, rfl, .now answer⟩
    -- its epoch is a new one, so it is not the owner's
    intro same
    have below := UInt64.lt_of_le_of_lt ledger.current begins.nextOwnership_lt
    rw [← token, ← same, begins.current] at below
    exact UInt64.lt_irrefl _ below
  intro a id' closed waits
  rw [begins.pending, Option.some.injEq, PendingOwnership.mk.injEq] at waits
  have old : a ∈ begun trace := by
    rcases closed.of_snoc with ⟨old, -⟩ | ⟨⟨before, e, after, rfl, ⟨old, -⟩, -⟩, -⟩
    · exact old
    · simp only [begun, List.filterMap_append]
      exact List.mem_append_left _ old
  have below := (older a old).2
  rw [← token, waits.2] at below
  exact UInt64.lt_irrefl _ below

theorem Ledger.step (ledger : Ledger trace c) :
    Ledger (trace ++ [⟨c, op, (c.perform op).2, (c.perform op).1⟩]) (c.perform op).1 := by
  have transfers := perform_transfers c op
  generalize c.perform op = result at transfers
  obtain ⟨c', reply⟩ := result
  cases transfers with
  | began targetHost b call answer begins => exact ledger.begins answer begins
  | activated id session call quiet was same =>
    refine ledger.quiet quiet same.handoff same.ownership ?_ ?_
    · obtain ⟨-, b, rfl, token, since⟩ := ledger.pending id _ was
      obtain ⟨before, e, after, rfl, answer, -⟩ := since
      rw [← token]
      refine ledger.tokens b ?_
      simp only [begun, List.filterMap_append, List.filterMap_cons, answer, CoordinatorReply.begun?]
      exact List.mem_append_right _ List.mem_cons_self
    · intro id' token' waits
      rw [same.pending] at waits
      contradiction
  | aborted id call quiet same =>
    refine ledger.quiet quiet same.handoff same.ownership ?_ ?_
    · rw [same.current]
      exact ledger.current
    · intro id' token' waits
      rw [same.pending] at waits
      contradiction
  | kept quiet refused same =>
    refine ledger.quiet quiet same.handoff same.ownership ?_ ?_
    · rw [same.current]
      exact ledger.current
    · intro id' token' waits
      exact ⟨same.current, same.pending ▸ waits, refused⟩

theorem coordinator_step : coordinator.step c op = some (c', reply) ↔
    (c.perform op).1 = c' ∧ (c.perform op).2 = reply := by
  simp [coordinator, Prod.ext_iff]

theorem adopts (step : coordinator.step c op = some (c', reply)) (moves : c'.currentToken ≠ c.currentToken) :
    ∃ id session, op = .ownershipActivated id c'.currentToken session ∧
      c.pendingOwnership = some ⟨id, c'.currentToken⟩ := by
  have transfers := perform_transfers c op
  obtain ⟨rfl, rfl⟩ := coordinator_step.mp step
  cases transfers with
  | began targetHost b call answer begins => exact absurd begins.current moves
  | activated id session call quiet was same => exact ⟨id, session, call, was⟩
  | aborted id call quiet same | kept quiet refused same => exact absurd same.current moves

theorem ledger_of_run {enabled : Bool} {authority : AuthoritySessionId} {server : HostId}
    {session : ProcessSessionId} {maxBytes : UInt64}
    (run : Run coordinator (.new enabled authority server session maxBytes) trace c) : Ledger trace c := by
  refine run.history (P := Ledger) ?_ ?_
  · refine ⟨by simp [begun], by simp [begun], UInt64.le_refl _, .nil, ?_, ?_⟩
    · intro id token waits
      simp [Coordinator.new] at waits
    · intro b id closed waits
      simp [Coordinator.new] at waits
  · intro trace c op c' reply _ ledger step
    obtain ⟨rfl, rfl⟩ := coordinator_step.mp step
    exact ledger.step

structure OwnershipLaw (trace : List CoordinatorEntry) : Prop where
  increasing : (begun trace).Pairwise BeginHandoff.Precedes
  handoffsFresh : ((begun trace).map (·.handoffId)).Nodup
  tokensFresh : ((begun trace).map (·.targetToken)).Nodup
  exhausted : ∀ e ∈ trace, e.output = .failed .identityExhausted → e.post = e.pre
  moved : ∀ before e after, trace = before ++ e :: after → e.post.currentToken ≠ e.pre.currentToken →
    ∃ b session, Waiting b before ∧ e.input = .ownershipActivated b.handoffId b.targetToken session ∧
      e.post.currentToken = b.targetToken
  gone : ∀ before e after b, trace = before ++ e :: after → Closed b before →
    e.pre.currentToken ≠ b.targetToken → e.post.currentToken ≠ b.targetToken

theorem Coordinator.Performs.exhausted (performs : Performs c op (.failed .identityExhausted) c') :
    c' = c := by
  cases performs with
  | refused => rfl
  | misled _ _ _ stale => contradiction

theorem ownership_moves_forward {enabled : Bool} {authority : AuthoritySessionId} {server : HostId}
    {session : ProcessSessionId} {maxBytes : UInt64}
    (run : Run coordinator (.new enabled authority server session maxBytes) trace c) :
    OwnershipLaw trace := by
  have increasing := (ledger_of_run run).increasing
  refine ⟨increasing, ?_, ?_, ?_, ?_, ?_⟩
  · refine List.pairwise_map.mpr (increasing.imp ?_)
    intro a b precedes same
    exact UInt64.lt_irrefl _ (same ▸ precedes.1)
  · refine List.pairwise_map.mpr (increasing.imp ?_)
    intro a b precedes same
    exact UInt64.lt_irrefl _ (same ▸ precedes.2)
  · intro e member exhausted
    obtain ⟨-, -, step⟩ := run.entry_step member
    have performs := e.pre.perform_performs e.input
    obtain ⟨post, output⟩ := coordinator_step.mp step
    rw [post, output, exhausted] at performs
    exact performs.exhausted
  · rintro before ⟨c, op, reply, c'⟩ after here moves
    obtain ⟨earlier, step, -⟩ := run.split here
    obtain ⟨id, session, call, was⟩ := adopts step moves
    obtain ⟨-, b, rfl, token, waiting⟩ := (ledger_of_run earlier).pending id _ was
    exact ⟨b, session, waiting, token ▸ call, token.symm⟩
  · rintro before ⟨c, op, reply, c'⟩ after b here closed other same
    obtain ⟨earlier, step, -⟩ := run.split here
    obtain ⟨id, -, -, was⟩ := adopts step (same ▸ other.symm)
    exact (ledger_of_run earlier).closed b id closed (same ▸ was)

/-- Two handoffs of which the first is activated and the second aborted, then a third. -/
theorem ownership_moves_past_an_abort : ∃ trace c,
    Run coordinator (.new true 7 "server" 1 64) trace c ∧ OwnershipLaw trace ∧
      (begun trace).map (·.targetToken.ownershipEpoch) = [1, 2, 3] ∧
      c.currentToken = ⟨7, 3, "server"⟩ :=
  coordinator.exists_lawful (.new true 7 "server" 1 64)
    [.setProcessSession "mac" 2, .beginHandoff "mac",
      .ownershipActivated ⟨7, 1⟩ ⟨7, 1, "mac"⟩ 2, .beginHandoff "server", .abort ⟨7, 2⟩,
      .beginHandoff "server", .ownershipActivated ⟨7, 3⟩ ⟨7, 3, "server"⟩ 1]
    _ ownership_moves_forward (by decide +kernel)

end DisplayMux.Clipboard
