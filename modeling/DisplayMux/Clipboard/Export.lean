import DisplayMux.Clipboard.Actor

/-! What an actor gives out of the native clipboard, and for whom. -/
namespace DisplayMux.Clipboard

def NativeAct.payload? : NativeAct → Option ActorPayload
  | .publish payload => some payload
  | .generation _ | .capture _ _ | .apply _ _ _ _ => none

def captureCommand (id : Option HandoffId) (token : OwnershipToken) (maxBytes : Nat) : ActorCommand :=
  match id with
  | some id => .captureSource id token maxBytes
  | none => .captureProvisional token maxBytes

def captureEvent (id : Option HandoffId) (token : OwnershipToken) (snapshotId : SnapshotId)
    (data : Transferable) : ActorEvent :=
  match id with
  | some id => .captured id token snapshotId data.kind data.data.len
  | none => .provisionalCaptured token snapshotId data.kind data.data.len

namespace Actor

variable {β : Type}

/-- A bind is refused, and a cancelled handoff has no snapshot here. -/
structure Unconcerned (a : Actor β) (command : ActorCommand) (event : ActorEvent) : Prop where
  unbound : ∀ id token, command = .bindProvisional id token → ∃ reason, event = .skipped (some id) reason
  other : ∀ id, command = .cancelHandoff id → ∀ snapshot, a.sourceSnapshot = some snapshot →
    snapshot.handoffId ≠ some id

/-- All that a command can do to the source's side, and what it gives out. -/
inductive SourceMove (a : Actor β) (command : ActorCommand) (r : Handled β) : Prop where
  | kept (unconcerned : Unconcerned a command r.event) (silent : r.acts.filterMap (·.payload?) = [])
    (source : r.actor.source = a.source)
  | dropped (silent : r.acts.filterMap (·.payload?) = [])
    (source : r.actor.source = { a.source with sourceSnapshot := none })
  | captured (id : Option HandoffId) (maxBytes : Nat) (data : Transferable) (sequence : SnapshotSequence)
    (call : command = captureCommand id a.currentToken maxBytes)
    (event : r.event = captureEvent id a.currentToken ⟨a.processSessionId, sequence⟩ data)
    (valid : checkCaptured data.data maxBytes = .ok data)
    (stable : ∃ g, [.generation (.ok g), .capture maxBytes (.ok data.data), .generation (.ok g)] <:+ r.acts)
    (next : sequence.toNat = a.nextSnapshotSequence.toNat + 1)
    (silent : r.acts.filterMap (·.payload?) = [])
    (source : r.actor.source =
      ⟨a.host, sequence, some ⟨id, a.currentToken, ⟨a.processSessionId, sequence⟩, data⟩⟩)
  | bound (id : HandoffId) (snapshot : StoredSnapshot) (was : a.sourceSnapshot = some snapshot)
    (free : snapshot.handoffId = none) (call : command = .bindProvisional id snapshot.sourceToken)
    (event : r.event = captureEvent (some id) snapshot.sourceToken snapshot.snapshotId snapshot.data)
    (silent : r.acts.filterMap (·.payload?) = [])
    (source : r.actor.source =
      { a.source with sourceSnapshot := some { snapshot with handoffId := some id } })
  | sent (id : HandoffId) (snapshot : StoredSnapshot) (was : a.sourceSnapshot = some snapshot)
    (own : snapshot.handoffId = some id) (call : command = .publishSnapshot id snapshot.snapshotId)
    (gives : r.acts.filterMap (·.payload?) =
      [⟨id, snapshot.snapshotId, snapshot.sourceToken, snapshot.data.data⟩])
    (source : r.actor.source = { a.source with sourceSnapshot := none })

theorem filterMap_payload_of_reads {acts : List NativeAct} (reads : ∀ act ∈ acts, act.isRead = true) :
    acts.filterMap (·.payload?) = [] := by
  refine List.filterMap_eq_nil_iff.mpr (fun act member => ?_)
  have read := reads act member
  cases act <;> simp_all [NativeAct.isRead, NativeAct.payload?]

theorem SourceMove.skip {a : Actor β} {command : ActorCommand} (id : HandoffId) (reason : ClipboardReason)
    (same : ∀ id' token, command = .bindProvisional id' token → id' = id)
    (calm : ∀ id, command ≠ .cancelHandoff id) : SourceMove a command (a.skip id reason) := by
  refine .kept ⟨fun id' token call => ⟨reason, ?_⟩, fun id call => absurd call (calm id)⟩ rfl rfl
  rw [same id' token call]
  rfl

theorem SourceMove.still {a : Actor β} {command : ActorCommand} {r : Handled β}
    (unbound : ∀ id token, command ≠ .bindProvisional id token) (calm : ∀ id, command ≠ .cancelHandoff id)
    (silent : r.acts.filterMap (·.payload?) = []) (source : r.actor.source = a.source) :
    SourceMove a command r :=
  .kept ⟨fun id token call => absurd call (unbound id token), fun id call => absurd call (calm id)⟩
    silent source

variable [ClipboardBackend β]

theorem captureSource_move (a : Actor β) (id : Option HandoffId) (token : OwnershipToken) (maxBytes : Nat) :
    SourceMove a (captureCommand id token maxBytes) (a.captureSource id token maxBytes) := by
  have unconcerned (event : ActorEvent) : Unconcerned a (captureCommand id token maxBytes) event := by
    cases id <;> exact ⟨nofun, nofun⟩
  unfold captureSource
  split
  · exact .kept (unconcerned _) rfl rfl
  rename_i current
  obtain rfl := not_ne_iff.mp current
  split
  · exact .kept (unconcerned _) rfl rfl
  have spec := a.stableCapture_spec maxBytes sourceChangeRetries
  generalize a.stableCapture maxBytes sourceChangeRetries = result at spec
  obtain ⟨result, a', acts⟩ := result
  have silent := filterMap_payload_of_reads spec.reads
  obtain ⟨_, _, rfl⟩ := spec.looked
  rcases result with (reason | reason) | data
  · exact .kept (unconcerned _) silent rfl
  · exact .kept (unconcerned _) silent rfl
  dsimp only
  cases next : checkedAdd a.nextSnapshotSequence.toNat 1 with
  | none => exact .kept (unconcerned _) silent rfl
  | some sequence =>
    obtain ⟨valid, stable⟩ := spec.stable data rfl
    have advances := toNat_ofNat_succ next
    cases id with
    | none => exact .captured none maxBytes data _ rfl rfl valid stable advances silent rfl
    | some id => exact .captured (some id) maxBytes data _ rfl rfl valid stable advances silent rfl

theorem applyStage_payload (a : Actor β) : a.applyStage.acts.filterMap (·.payload?) = [] := by
  simp only [applyStage]
  (repeat' split) <;> rfl

theorem handle_sourceMove (a : Actor β) (slot : TrySend) (command : ActorCommand) :
    SourceMove a command (a.handle slot command) := by
  cases command with
  | synchronizeAuthority token =>
    simp only [handle, synchronizeAuthority]
    split
    · split
      · exact .still (by simp) (by simp) rfl rfl
      · exact .dropped rfl rfl
    · exact .still (by simp) (by simp) rfl rfl
  | observeGeneration =>
    refine .still (by simp) (by simp) ?_ a.observeGeneration_looked.source
    simp only [handle, observeGeneration]
    split <;> rfl
  | prepareTarget id token =>
    simp only [handle, prepareTarget]
    (repeat' split) <;> exact .still (by simp) (by simp) rfl rfl
  | captureSource id token maxBytes => exact a.captureSource_move (some id) token maxBytes
  | captureProvisional token maxBytes => exact a.captureSource_move none token maxBytes
  | bindProvisional id token =>
    have same (id' : HandoffId) (token' : OwnershipToken)
        (call : ActorCommand.bindProvisional id token = .bindProvisional id' token') : id' = id := by
      cases call
      rfl
    simp only [handle, bindProvisional]
    split
    · exact .skip _ _ same (by simp)
    rename_i snapshot was
    split
    · exact .skip _ _ same (by simp)
    rename_i free
    obtain ⟨unbound, own⟩ := not_or.mp free
    split
    · exact .skip _ _ same (by simp)
    · obtain rfl := not_ne_iff.mp own
      refine .bound id snapshot was ?_ rfl rfl rfl rfl
      simpa using unbound
  | publishSnapshot id snapshotId =>
    simp only [handle, publishSnapshot]
    split
    · exact .skip _ _ (by simp) (by simp)
    rename_i snapshot was
    split
    · exact .skip _ _ (by simp) (by simp)
    rename_i matching
    obtain ⟨own, same⟩ := not_or.mp matching
    obtain rfl := not_ne_iff.mp same
    split
    · exact .dropped rfl rfl
    · exact .dropped rfl rfl
    · exact .sent id snapshot was (not_ne_iff.mp own) rfl rfl rfl
  | activateTarget id token | stageSnapshot stage =>
    simp only [handle, activateTarget, stageSnapshot]
    (repeat' split) <;> first
      | exact .still (by simp) (by simp) rfl rfl
      | exact .still (by simp) (by simp) (applyStage_payload _) (applyStage_source _)
  | cancelHandoff id =>
    cases was : a.sourceSnapshot with
    | none => exact .dropped rfl (by simp [handle, cancelHandoff, source, host, was])
    | some snapshot =>
      by_cases own : snapshot.handoffId = some id
      · exact .dropped rfl (by simp [handle, cancelHandoff, source, host, was, own])
      refine .kept ⟨by simp, ?_⟩ rfl (by simp [handle, cancelHandoff, source, host, was, own])
      intro id' call snapshot' is same
      cases call
      rw [was] at is
      exact own (Option.some.inj is ▸ same)
  | shutdown => exact .still (by simp) (by simp) rfl rfl

end Actor

open Actor

variable {β : Type}

structure ActorEntry.Captures (id : Option HandoffId) (token : OwnershipToken) (snapshotId : SnapshotId)
    (data : ClipboardData) (maxBytes : Nat) (e : ActorEntry β) : Prop where
  call : e.input.command = captureCommand id token maxBytes
  current : e.pre.actor.currentToken = token
  event : ∃ t : Transferable, t.data = data ∧ e.output.event = captureEvent id token snapshotId t
  stable : ∃ g, [.generation (.ok g), .capture maxBytes (.ok data), .generation (.ok g)] <:+ e.output.acts
  valid : data = .empty ∨ ∃ bytes, data = .text bytes ∧ (fromUtf8 bytes).isSome = true
  fits : data.len ≤ maxBytes

def ActorEntry.Binds (id : HandoffId) (token : OwnershipToken) (snapshotId : SnapshotId) (e : ActorEntry β) :
    Prop :=
  e.input.command = .bindProvisional id token ∧
    ∃ kind bytes, e.output.event = .captured id token snapshotId kind bytes

def ActorEntry.BindsNothing (e : ActorEntry β) : Prop :=
  ∀ id token snapshotId, ¬ActorEntry.Binds id token snapshotId e

def Provisional (token : OwnershipToken) (snapshotId : SnapshotId) (data : ClipboardData)
    (trace : List (ActorEntry β)) : Prop :=
  Since (fun _ e => ∃ maxBytes, ActorEntry.Captures none token snapshotId data maxBytes e)
    ActorEntry.BindsNothing trace

/-- The snapshot was captured for the handoff, or bound to it once, and the handoff was not
cancelled since. -/
def Exportable (id : HandoffId) (token : OwnershipToken) (snapshotId : SnapshotId) (data : ClipboardData)
    (trace : List (ActorEntry β)) : Prop :=
  Since (fun before e => (∃ maxBytes, ActorEntry.Captures (some id) token snapshotId data maxBytes e) ∨
      Provisional token snapshotId data before ∧ ActorEntry.Binds id token snapshotId e)
    (fun e => e.input.command ≠ .cancelHandoff id ∧ ActorEntry.BindsNothing e) trace

def StoredSnapshot.History (snapshot : StoredSnapshot) (trace : List (ActorEntry β)) : Prop :=
  match snapshot.handoffId with
  | some id => Exportable id snapshot.sourceToken snapshot.snapshotId snapshot.data.data trace
  | none => Provisional snapshot.sourceToken snapshot.snapshotId snapshot.data.data trace

def payloads (trace : List (ActorEntry β)) : List ActorPayload :=
  trace.flatMap fun e => e.output.acts.filterMap (·.payload?)

/-- The snapshot at hand has a past, and is younger than all that was given out. -/
structure Exports (trace : List (ActorEntry β)) (t : ActorThread β) : Prop where
  history : ∀ snapshot, t.actor.sourceSnapshot = some snapshot → snapshot.History trace
  stored : ∀ snapshot, t.actor.sourceSnapshot = some snapshot →
    snapshot.snapshotId.sequence ≤ t.actor.nextSnapshotSequence
  given : ∀ p ∈ payloads trace, p.snapshotId.sequence ≤ t.actor.nextSnapshotSequence
  younger : ∀ snapshot, t.actor.sourceSnapshot = some snapshot → ∀ p ∈ payloads trace,
    p.snapshotId.sequence < snapshot.snapshotId.sequence
  increasing : (payloads trace).Pairwise fun p q => p.snapshotId.sequence < q.snapshotId.sequence

variable {trace : List (ActorEntry β)} {t t' : ActorThread β} {request : ActorRequest} {reply : ActorReply}

theorem history_kept {snapshot : StoredSnapshot} (history : snapshot.History trace)
    (was : t.actor.sourceSnapshot = some snapshot)
    (unconcerned : Unconcerned t.actor request.command reply.event) :
    snapshot.History (trace ++ [⟨t, request, reply, t'⟩]) := by
  have unbound : ActorEntry.BindsNothing (⟨t, request, reply, t'⟩ : ActorEntry β) := by
    rintro id token snapshotId ⟨call, kind, bytes, event⟩
    obtain ⟨reason, skipped⟩ := unconcerned.unbound id token call
    exact absurd (event.symm.trans skipped) nofun
  unfold StoredSnapshot.History at history ⊢
  cases own : snapshot.handoffId with
  | none =>
    rw [own] at history
    exact history.later unbound
  | some id =>
    rw [own] at history
    exact history.later ⟨fun call => unconcerned.other id call snapshot was own, unbound⟩

theorem Exports.quiet (exports : Exports trace t) (silent : reply.acts.filterMap (·.payload?) = [])
    (grows : t.actor.nextSnapshotSequence ≤ t'.actor.nextSnapshotSequence)
    (snapshot : ∀ s, t'.actor.sourceSnapshot = some s → s.History (trace ++ [⟨t, request, reply, t'⟩]) ∧
      s.snapshotId.sequence ≤ t'.actor.nextSnapshotSequence ∧
      ∀ p ∈ payloads trace, p.snapshotId.sequence < s.snapshotId.sequence) :
    Exports (trace ++ [⟨t, request, reply, t'⟩]) t' := by
  have same : payloads (trace ++ [⟨t, request, reply, t'⟩]) = payloads trace := by simp [payloads, silent]
  refine ⟨fun s is => (snapshot s is).1, fun s is => (snapshot s is).2.1, ?_, ?_, ?_⟩
  · rw [same]
    exact fun p member => UInt64.le_trans (exports.given p member) grows
  · rw [same]
    exact fun s is => (snapshot s is).2.2
  · rw [same]
    exact exports.increasing

theorem Exports.step [ClipboardBackend β] (exports : Exports trace t) {r : Handled β}
    (steps : t.Steps request t' reply r) : Exports (trace ++ [⟨t, request, reply, t'⟩]) t' := by
  have move := t.actor.handle_sourceMove request.slot request.command
  rw [← steps.handled] at move
  have counts {side : SourceSide} (source : r.actor.source = side) :=
    steps.sequence.trans (congrArg SourceSide.nextSnapshotSequence source)
  have left {side : SourceSide} (source : r.actor.source = side) {s : StoredSnapshot}
      (is : t'.actor.sourceSnapshot = some s) :=
    (congrArg SourceSide.sourceSnapshot source).symm.trans (steps.snapshot s is)
  cases move with
  | kept unconcerned silent source =>
    have next := counts source
    refine exports.quiet (steps.acts ▸ silent) (UInt64.le_of_eq next.symm) fun s is => ?_
    have was := left source is
    refine ⟨history_kept (exports.history s was) was (steps.event ▸ unconcerned), ?_, exports.younger s was⟩
    exact next ▸ exports.stored s was
  | dropped silent source =>
    refine exports.quiet (steps.acts ▸ silent) (UInt64.le_of_eq (counts source).symm) fun s is => ?_
    exact absurd (left source is) nofun
  | captured id maxBytes data sequence call event valid stable advances silent source =>
    have next := counts source
    have above : t.actor.nextSnapshotSequence < sequence := by
      rw [UInt64.lt_iff_toNat_lt, advances]
      exact Nat.lt_succ_self _
    refine exports.quiet (steps.acts ▸ silent) (next ▸ UInt64.le_of_lt above) fun s is => ?_
    obtain rfl := Option.some.inj (left source is)
    refine ⟨?_, UInt64.le_of_eq next.symm, fun p member =>
      UInt64.lt_of_le_of_lt (exports.given p member) above⟩
    obtain ⟨-, whole, fits⟩ := checkCaptured_ok valid
    have captures : ActorEntry.Captures id t.actor.currentToken ⟨t.actor.processSessionId, sequence⟩
        data.data maxBytes (⟨t, request, reply, t'⟩ : ActorEntry β) :=
      ⟨call, rfl, ⟨data, rfl, steps.event.trans event⟩, steps.acts ▸ stable, whole, fits⟩
    cases id with
    | none => exact Since.now ⟨maxBytes, captures⟩
    | some id => exact Since.now (.inl ⟨maxBytes, captures⟩)
  | bound id snapshot was free call event silent source =>
    have next := counts source
    refine exports.quiet (steps.acts ▸ silent) (UInt64.le_of_eq next.symm) fun s is => ?_
    obtain rfl := Option.some.inj (left source is)
    refine ⟨?_, next ▸ exports.stored snapshot was, exports.younger snapshot was⟩
    have provisional := exports.history snapshot was
    simp only [StoredSnapshot.History, free] at provisional
    exact Since.now (.inr ⟨provisional, call, _, _, steps.event.trans event⟩)
  | sent id snapshot was own call gives source =>
    have next := counts source
    have snoc : payloads (trace ++ [⟨t, request, reply, t'⟩]) =
        payloads trace ++ [⟨id, snapshot.snapshotId, snapshot.sourceToken, snapshot.data.data⟩] := by
      simp [payloads, steps.acts, gives]
    have gone (s : StoredSnapshot) (is : t'.actor.sourceSnapshot = some s) : False :=
      absurd (left source is) nofun
    refine ⟨fun s is => (gone s is).elim, fun s is => (gone s is).elim, ?_, fun s is => (gone s is).elim, ?_⟩
    · intro p member
      rw [next]
      rcases List.mem_append.mp (snoc ▸ member) with old | new
      · exact exports.given p old
      · rw [List.mem_singleton.mp new]
        exact exports.stored snapshot was
    rw [snoc]
    refine List.pairwise_append.mpr ⟨exports.increasing, List.pairwise_singleton _ _, ?_⟩
    intro p old q new
    rw [List.mem_singleton.mp new]
    exact exports.younger snapshot was p old

theorem exports_of_run [ClipboardBackend β] {backend : β} {session : ProcessSessionId} {localHost : HostId}
    {initialToken : OwnershipToken} {observed : NativeGeneration}
    (run : Run actorThread (.spawned backend session localHost initialToken observed) trace t) :
    Exports trace t := by
  refine run.history (P := Exports) ?_ ?_
  · refine ⟨?_, ?_, ?_, ?_, .nil⟩ <;> simp [ActorThread.spawned, Actor.new, payloads]
  · intro trace t request t' reply _ exports step
    obtain ⟨r, steps⟩ := ActorThread.step_cases step
    exact exports.step steps

structure ExportLaw (trace : List (ActorEntry β)) : Prop where
  fenced : ∀ before e after p, trace = before ++ e :: after → .publish p ∈ e.output.acts →
    Exportable p.handoffId p.sourceToken p.snapshotId p.data before
  increasing : (payloads trace).Pairwise fun p q => p.snapshotId.sequence < q.snapshotId.sequence
  once : ((payloads trace).map (·.snapshotId)).Nodup

theorem payload_from [ClipboardBackend β] (exports : Exports trace t) {r : Handled β}
    (steps : t.Steps request t' reply r) {p : ActorPayload} (gives : .publish p ∈ reply.acts) :
    Exportable p.handoffId p.sourceToken p.snapshotId p.data trace := by
  have move := t.actor.handle_sourceMove request.slot request.command
  rw [← steps.handled] at move
  have given : p ∈ r.acts.filterMap (·.payload?) :=
    List.mem_filterMap.mpr ⟨.publish p, steps.acts ▸ gives, rfl⟩
  cases move with
  | kept unconcerned silent source | dropped silent source => simp [silent] at given
  | captured id maxBytes data sequence call event valid stable advances silent source =>
    simp [silent] at given
  | bound id snapshot was free call event silent source => simp [silent] at given
  | sent id snapshot was own call gives source =>
    rw [gives, List.mem_singleton] at given
    subst given
    have history := exports.history snapshot was
    simpa only [StoredSnapshot.History, own] using history

theorem exports_are_fenced [ClipboardBackend β] {backend : β} {session : ProcessSessionId}
    {localHost : HostId}
    {initialToken : OwnershipToken} {observed : NativeGeneration}
    (run : Run actorThread (.spawned backend session localHost initialToken observed) trace t) :
    ExportLaw trace := by
  have increasing := (exports_of_run run).increasing
  refine ⟨?_, increasing, ?_⟩
  · intro before e after p here gives
    obtain ⟨earlier, step, -⟩ := run.split here
    obtain ⟨r, steps⟩ := ActorThread.step_cases step
    exact payload_from (exports_of_run earlier) steps gives
  · refine List.pairwise_map.mpr (increasing.imp ?_)
    intro p q below same
    exact UInt64.lt_irrefl _ (same ▸ below)

/-- A provisional snapshot that is bound and given out, and one that is captured for the next
handoff. -/
theorem bound_snapshot_exported : ∃ trace t,
    Run (actorThread (β := Pasteboard)) (.spawned ⟨3, .text [104, 105]⟩ 1 "mac" ⟨7, 0, "mac"⟩ 3)
      trace t ∧
      ExportLaw trace ∧ payloads trace =
        [⟨⟨7, 1⟩, ⟨1, 1⟩, ⟨7, 0, "mac"⟩, .text [104, 105]⟩,
          ⟨⟨7, 2⟩, ⟨1, 2⟩, ⟨7, 0, "mac"⟩, .text [104, 105]⟩] :=
  (actorThread (β := Pasteboard)).exists_lawful
    (.spawned ⟨3, .text [104, 105]⟩ 1 "mac" ⟨7, 0, "mac"⟩ 3)
    [⟨.captureProvisional ⟨7, 0, "mac"⟩ 8, .sent⟩, ⟨.bindProvisional ⟨7, 1⟩ ⟨7, 0, "mac"⟩, .sent⟩,
      ⟨.publishSnapshot ⟨7, 1⟩ ⟨1, 1⟩, .sent⟩, ⟨.publishSnapshot ⟨7, 1⟩ ⟨1, 1⟩, .sent⟩,
      ⟨.captureSource ⟨7, 2⟩ ⟨7, 0, "mac"⟩ 8, .sent⟩,
      ⟨.publishSnapshot ⟨7, 2⟩ ⟨1, 2⟩, .sent⟩]
    _ exports_are_fenced (by decide +kernel)

end DisplayMux.Clipboard
