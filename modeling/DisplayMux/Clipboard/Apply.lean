import DisplayMux.Clipboard.Actor

/-! What an actor writes to the native clipboard, and when. -/
namespace DisplayMux.Clipboard

open NativeAct

structure TargetSide where
  currentToken : OwnershipToken
  preparation : Option Preparation
  stage : Option StagedSnapshot
  applied : Option AppliedIdentity

variable {act : NativeAct}

namespace NativeAct

def isApply : NativeAct → Bool
  | .apply _ _ _ _ => true
  | .generation _ | .capture _ _ | .publish _ => false

theorem isApply_of_isRead (read : act.isRead = true) : act.isApply = false := by
  cases act <;> simp_all [isRead, isApply]

end NativeAct

def StagedSnapshot.identity (stage : StagedSnapshot) : AppliedIdentity := ⟨stage.handoffId, stage.snapshotId⟩

def StagedSnapshot.write (stage : StagedSnapshot) (answer : Except ClipboardReason NativeGeneration) :
    NativeAct :=
  .apply stage.identity stage.baselineGeneration stage.data answer

variable {stage : StagedSnapshot}

namespace Actor

variable {β : Type}

def target (a : Actor β) : TargetSide := ⟨a.currentToken, a.preparation, a.stage, a.applied⟩

structure Fits (a : Actor β) (prepared : Preparation) (stage : StagedSnapshot) : Prop where
  was : a.preparation = some prepared
  handoff : prepared.handoffId = stage.handoffId
  token : prepared.targetToken = stage.targetToken
  baseline : prepared.baselineGeneration = stage.baselineGeneration
  session : stage.targetProcessSessionId = a.processSessionId
  owner : stage.targetToken.ownerHostId = a.localHostId

/-- What becomes of a staged snapshot whose time has come, with this preparation and after
this write. -/
inductive Consumes (preparation : Option Preparation) (applied : Option AppliedIdentity)
    (stage : StagedSnapshot) (r : Handled β) : Prop where
  | duplicate (known : applied = some stage.identity) (silent : r.acts.filter isApply = [])
    (target : r.actor.target = ⟨stage.targetToken, preparation, none, applied⟩)
  | failed (reason : ClipboardReason)
    (wrote : r.acts.filter isApply = [stage.write (.error reason)])
    (target : r.actor.target = ⟨stage.targetToken, preparation, none, applied⟩)
  | written (generation : NativeGeneration) (fresh : applied ≠ some stage.identity)
    (wrote : r.acts.filter isApply = [stage.write (.ok generation)])
    (target : r.actor.target = ⟨stage.targetToken, none, none, some stage.identity⟩)

/-- All that a command can do to the target's side, and what it writes. -/
inductive TargetMove (a : Actor β) (command : ActorCommand) (r : Handled β) : Prop where
  | kept (stays : ∀ token, command = .synchronizeAuthority token → token = a.currentToken)
    (calm : ∀ id, command ≠ .cancelHandoff id) (silent : r.acts.filter isApply = [])
    (target : r.actor.target = a.target)
  | synchronized (token : OwnershipToken) (call : command = .synchronizeAuthority token)
    (silent : r.acts.filter isApply = []) (target : r.actor.target = ⟨token, none, none, none⟩)
  | prepared (id : HandoffId) (token : OwnershipToken) (call : command = .prepareTarget id token)
    (event : r.event = .prepared id token a.processSessionId a.observedGeneration)
    (silent : r.acts.filter isApply = [])
    (target : r.actor.target = { a.target with preparation := some ⟨id, token, a.observedGeneration⟩ })
  | activated (id : HandoffId) (token : OwnershipToken) (call : command = .activateTarget id token)
    (silent : r.acts.filter isApply = [])
    (target : r.actor.target = { a.target with currentToken := token })
  | staged (stage : StagedSnapshot) (prepared : Preparation) (call : command = .stageSnapshot stage)
    (fits : Fits a prepared stage) (silent : r.acts.filter isApply = [])
    (target : r.actor.target = { a.target with stage := some stage })
  | canceled (id : HandoffId) (call : command = .cancelHandoff id)
    (silent : r.acts.filter isApply = [])
    (target : r.actor.target = { a.target with
      preparation := a.preparation.filter (·.handoffId ≠ id)
      stage := a.stage.filter (·.handoffId ≠ id) })
  | applied (stage : StagedSnapshot) (prepared : Preparation) (call : command = .stageSnapshot stage)
    (fits : Fits a prepared stage) (consumes : Consumes a.preparation a.applied stage r)
  | appliedLate (stage : StagedSnapshot) (prepared : Preparation)
    (call : command = .activateTarget stage.handoffId stage.targetToken) (was : a.stage = some stage)
    (ready : a.preparation = some prepared) (handoff : prepared.handoffId = stage.handoffId)
    (consumes : Consumes a.preparation a.applied stage r)

theorem Looked.target {a a' : Actor β} (looked : Looked a a') : a'.target = a.target := by
  obtain ⟨_, _, rfl⟩ := looked
  rfl

theorem TargetMove.skip {a : Actor β} {command : ActorCommand} (id : Option HandoffId)
    (reason : ClipboardReason) (stays : ∀ token, command ≠ .synchronizeAuthority token)
    (calm : ∀ id, command ≠ .cancelHandoff id) : TargetMove a command (a.skip id reason) :=
  .kept (fun token call => absurd call (stays token)) calm rfl rfl

def Calm (a : Actor β) (command : ActorCommand) (id : HandoffId) : Prop :=
  command ≠ .cancelHandoff id ∧ ∀ token, command = .synchronizeAuthority token → token = a.currentToken

section Moves

variable {a : Actor β} {command : ActorCommand} {r : Handled β} {preparation : Option Preparation}
  {applied : Option AppliedIdentity} {stage : StagedSnapshot}

theorem calm_of_activate {id : HandoffId} {token : OwnershipToken} (call : command = .activateTarget id token)
    (other : HandoffId) : Calm a command other := by
  subst call
  exact ⟨nofun, nofun⟩

theorem calm_of_stage (call : command = .stageSnapshot stage) (other : HandoffId) :
    Calm a command other := by
  subst call
  exact ⟨nofun, nofun⟩

theorem calm_of_cancel {α : Type} {key : α → HandoffId} {id : HandoffId} {had : Option α} {item : α}
    (call : command = .cancelHandoff id) (left : had.filter (key · ≠ id) = some item) :
    had = some item ∧ Calm a command (key item) := by
  obtain ⟨was, other⟩ := Option.filter_eq_some_iff.mp left
  subst call
  refine ⟨was, fun same => ?_, nofun⟩
  cases same
  simp at other

theorem Consumes.unstages (consumes : Consumes preparation applied stage r) : r.actor.stage = none := by
  cases consumes with
  | duplicate known silent target | failed reason wrote target
  | written generation fresh wrote target => exact congrArg TargetSide.stage target

theorem Consumes.token (consumes : Consumes preparation applied stage r) :
    r.actor.currentToken = stage.targetToken := by
  cases consumes with
  | duplicate known silent target | failed reason wrote target
  | written generation fresh wrote target => exact congrArg TargetSide.currentToken target

theorem Consumes.preparation_from (consumes : Consumes preparation applied stage r) {p : Preparation}
    (is : r.actor.preparation = some p) : preparation = some p := by
  have left {side : TargetSide} (target : r.actor.target = side) : side.preparation = some p := target ▸ is
  cases consumes with
  | duplicate known silent target | failed reason wrote target => exact left target
  | written generation fresh wrote target => exact absurd (left target) nofun

theorem TargetMove.preparation_from (move : TargetMove a command r) {p : Preparation}
    (is : r.actor.preparation = some p) :
    a.preparation = some p ∧ Calm a command p.handoffId ∨
      command = .prepareTarget p.handoffId p.targetToken ∧
        r.event = .prepared p.handoffId p.targetToken a.processSessionId p.baselineGeneration := by
  have left {side : TargetSide} (target : r.actor.target = side) : side.preparation = some p := target ▸ is
  cases move with
  | kept stays calm silent target => exact .inl ⟨left target, calm _, stays⟩
  | synchronized token call silent target => exact absurd (left target) nofun
  | prepared id token call event silent target =>
    obtain rfl := Option.some.inj (left target)
    exact .inr ⟨call, event⟩
  | activated id token call silent target => exact .inl ⟨left target, calm_of_activate call _⟩
  | staged stage prepared call fits silent target => exact .inl ⟨left target, calm_of_stage call _⟩
  | canceled id call silent target => exact .inl (calm_of_cancel call (left target))
  | applied stage prepared call fits consumes =>
    exact .inl ⟨consumes.preparation_from is, calm_of_stage call _⟩
  | appliedLate stage prepared call was ready handoff consumes =>
    exact .inl ⟨consumes.preparation_from is, calm_of_activate call _⟩

theorem TargetMove.stage_from (move : TargetMove a command r) (is : r.actor.stage = some stage) :
    a.stage = some stage ∧ Calm a command stage.handoffId ∨
      command = .stageSnapshot stage ∧ ∃ prepared, Fits a prepared stage := by
  have left {side : TargetSide} (target : r.actor.target = side) : side.stage = some stage := target ▸ is
  cases move with
  | kept stays calm silent target => exact .inl ⟨left target, calm _, stays⟩
  | synchronized token call silent target => exact absurd (left target) nofun
  | prepared id token call event silent target =>
    subst call
    exact .inl ⟨left target, nofun, nofun⟩
  | activated id token call silent target => exact .inl ⟨left target, calm_of_activate call _⟩
  | staged stage' prepared call fits silent target =>
    obtain rfl := Option.some.inj (left target)
    exact .inr ⟨call, prepared, fits⟩
  | canceled id call silent target => exact .inl (calm_of_cancel call (left target))
  | applied stage' prepared call fits consumes
  | appliedLate stage' prepared call was ready handoff consumes =>
    exact absurd (consumes.unstages.symm.trans is) nofun

theorem Consumes.wrote (consumes : Consumes preparation applied stage r)
    (member : act ∈ r.acts.filter isApply) : ∃ answer, act = stage.write answer := by
  cases consumes with
  | duplicate known silent target => simp [silent] at member
  | failed reason wrote target | written generation fresh wrote target =>
    exact ⟨_, List.mem_singleton.mp (wrote ▸ member)⟩

theorem TargetMove.write_from (move : TargetMove a command r) (member : act ∈ r.acts)
    (writes : act.isApply = true) : ∃ stage answer, act = stage.write answer ∧
      r.actor.currentToken = stage.targetToken ∧
      (a.stage = some stage ∧ Calm a command stage.handoffId ∨
        command = .stageSnapshot stage ∧ ∃ prepared, Fits a prepared stage) := by
  have member := List.mem_filter.mpr ⟨member, writes⟩
  cases move with
  | applied stage prepared call fits consumes =>
    obtain ⟨answer, rfl⟩ := consumes.wrote member
    exact ⟨stage, answer, rfl, consumes.token, .inr ⟨call, prepared, fits⟩⟩
  | appliedLate stage prepared call was ready handoff consumes =>
    obtain ⟨answer, rfl⟩ := consumes.wrote member
    exact ⟨stage, answer, rfl, consumes.token, .inl ⟨was, calm_of_activate call _⟩⟩
  | kept stays calm silent target | synchronized token call silent target
  | prepared id token call event silent target | activated id token call silent target
  | staged stage prepared call fits silent target | canceled id call silent target =>
    simp [silent] at member

end Moves

variable [ClipboardBackend β]

theorem applyStage_consumes {a : Actor β} (was : a.stage = some stage)
    (current : stage.targetToken = a.currentToken) : Consumes a.preparation a.applied stage a.applyStage := by
  unfold applyStage
  rw [was]
  simp only [current, ne_eq, not_true_eq_false, if_false]
  split
  · rename_i known
    exact .duplicate known rfl (by simp [skip, target, current])
  rename_i fresh
  split
  · rename_i generation a' asked
    obtain ⟨_, _, rfl⟩ := apply_looked asked
    exact .written generation fresh rfl (by simp [target, current, StagedSnapshot.identity])
  rename_i reason a' asked
  obtain ⟨_, _, rfl⟩ := apply_looked asked
  split
  · split
    · rename_i generation a'' again
      obtain ⟨_, _, rfl⟩ := generation_looked again
      exact .failed reason rfl (by simp [target, current])
    · rename_i failure a'' again
      obtain ⟨_, _, rfl⟩ := generation_looked again
      exact .failed reason rfl (by simp [target, current])
  · exact .failed reason rfl (by simp [target, current])

theorem captureSource_frame (a : Actor β) (id : Option HandoffId) (token : OwnershipToken) (maxBytes : Nat) :
    (a.captureSource id token maxBytes).actor.target = a.target ∧
      ∀ act ∈ (a.captureSource id token maxBytes).acts, act.isRead = true := by
  unfold captureSource
  split
  · exact ⟨rfl, fun _ member => absurd member List.not_mem_nil⟩
  split
  · exact ⟨rfl, fun _ member => absurd member List.not_mem_nil⟩
  have spec := a.stableCapture_spec maxBytes sourceChangeRetries
  generalize a.stableCapture maxBytes sourceChangeRetries = result at spec
  obtain ⟨result, a', acts⟩ := result
  have same := spec.looked.target
  have reads := spec.reads
  rcases result with (reason | reason) | data
  · exact ⟨same, reads⟩
  · exact ⟨same, reads⟩
  · dsimp only
    cases checkedAdd a'.nextSnapshotSequence.toNat 1 with
    | none => exact ⟨same, reads⟩
    | some sequence => cases id <;> exact ⟨same, reads⟩

theorem filter_isApply_of_reads {acts : List NativeAct} (reads : ∀ act ∈ acts, act.isRead = true) :
    acts.filter isApply = [] := by
  refine List.filter_eq_nil_iff.mpr (fun act member => ?_)
  simp [isApply_of_isRead (reads act member)]

theorem activateTarget_move (a : Actor β) (id : HandoffId) (token : OwnershipToken) :
    TargetMove a (.activateTarget id token) (a.activateTarget id token) := by
  unfold activateTarget
  split
  · exact .skip _ _ nofun nofun
  split
  · exact .skip _ _ nofun nofun
  split
  · exact .skip _ _ nofun nofun
  rename_i prepared ready
  split
  · exact .skip _ _ nofun nofun
  rename_i fits
  obtain ⟨handoff, token'⟩ := not_or.mp fits
  dsimp only
  split
  · rename_i staged
    obtain ⟨stage, was, own⟩ := Option.any_eq_true _ _ |>.mp staged
    obtain rfl := of_decide_eq_true own
    by_cases current : stage.targetToken = token
    · subst current
      have consumes := applyStage_consumes (a := { a with currentToken := stage.targetToken }) was rfl
      exact .appliedLate stage prepared rfl was ready (not_ne_iff.mp handoff) consumes
    -- the snapshot that is staged waits for another token
    have refused : applyStage { a with currentToken := token } =
        skip { a with currentToken := token } none .staleOwnerToken := by
      simp [applyStage, was, current]
    rw [refused]
    exact .activated _ token rfl rfl rfl
  · exact .activated id token rfl rfl rfl

theorem stageSnapshot_move (a : Actor β) (stage : StagedSnapshot) :
    TargetMove a (.stageSnapshot stage) (a.stageSnapshot stage) := by
  unfold stageSnapshot
  split
  · exact .skip _ _ nofun nofun
  split
  · exact .skip _ _ nofun nofun
  split
  · exact .skip _ _ nofun nofun
  rename_i owner
  split
  · exact .skip _ _ nofun nofun
  split
  · exact .skip _ _ nofun nofun
  rename_i prepared was
  split
  · exact .skip _ _ nofun nofun
  rename_i matching
  simp only [not_or, not_not, ne_eq] at matching owner
  obtain ⟨handoff, token, baseline, session⟩ := matching
  have fits : Fits a prepared stage := ⟨was, handoff, token, baseline, session, owner⟩
  dsimp only
  split
  · rename_i current
    have consumes := applyStage_consumes (a := { a with stage := some stage }) rfl current.symm
    exact .applied stage prepared rfl fits consumes
  · exact .staged stage prepared rfl fits rfl rfl

theorem handle_targetMove (a : Actor β) (slot : TrySend) (command : ActorCommand) :
    TargetMove a command (a.handle slot command) := by
  cases command with
  | synchronizeAuthority token =>
    by_cases same : token = a.currentToken
    · subst same
      refine .kept (fun token call => ?_) (by simp) rfl (by simp [handle, synchronizeAuthority])
      cases call
      rfl
    · exact .synchronized token rfl rfl (by simp [handle, synchronizeAuthority, target, same])
  | observeGeneration =>
    simp only [handle, observeGeneration]
    split
    · rename_i generation a' asked
      exact .kept (by simp) (by simp) rfl (generation_looked asked).target
    · rename_i reason a' asked
      exact .kept (by simp) (by simp) rfl (generation_looked asked).target
  | prepareTarget id token =>
    simp only [handle, prepareTarget]
    split
    · exact .skip _ _ (by simp) (by simp)
    · split
      · exact .prepared id token rfl rfl rfl rfl
      · exact .skip _ _ (by simp) (by simp)
  | captureSource id token maxBytes | captureProvisional token maxBytes =>
    have frame := fun id => a.captureSource_frame id token maxBytes
    exact .kept (by simp) (by simp) (filter_isApply_of_reads (frame _).2) (frame _).1
  | bindProvisional id token | publishSnapshot id snapshotId =>
    simp only [handle, bindProvisional, publishSnapshot]
    (repeat' split) <;> exact .kept (by simp) (by simp) rfl rfl
  | activateTarget id token => exact a.activateTarget_move id token
  | stageSnapshot stage => exact a.stageSnapshot_move stage
  | cancelHandoff id => exact .canceled id rfl rfl rfl
  | shutdown => exact .kept (by simp) (by simp) rfl rfl

end Actor

open Actor

section Runs

variable {β : Type}

def ActorEntry.Undisturbed (id : HandoffId) (e : ActorEntry β) : Prop :=
  Calm e.pre.actor e.input.command id

/-- The handoff was prepared with this baseline, and not disturbed since. -/
def Prepared (id : HandoffId) (token : OwnershipToken) (baseline : NativeGeneration)
    (trace : List (ActorEntry β)) : Prop :=
  Since (fun _ e => e.input.command = .prepareTarget id token ∧
      ∃ session, e.output.event = .prepared id token session baseline)
    (ActorEntry.Undisturbed id) trace

/-- The snapshot came for a prepared handoff, and the handoff was not disturbed since. -/
def Staged (stage : StagedSnapshot) (trace : List (ActorEntry β)) : Prop :=
  Since (fun before e => e.input.command = .stageSnapshot stage ∧
      Prepared stage.handoffId stage.targetToken stage.baselineGeneration before)
    (ActorEntry.Undisturbed stage.handoffId) trace

structure Traced (host : ProcessSessionId × HostId) (trace : List (ActorEntry β)) (t : ActorThread β) :
    Prop where
  own : t.actor.host = host
  prepared : ∀ p, t.actor.preparation = some p → Prepared p.handoffId p.targetToken p.baselineGeneration trace
  staged : ∀ stage, t.actor.stage = some stage →
    Staged stage trace ∧ (stage.targetProcessSessionId, stage.targetToken.ownerHostId) = host

variable {host : ProcessSessionId × HostId} {trace : List (ActorEntry β)}
  {t t' : ActorThread β} {request : ActorRequest} {reply : ActorReply}

theorem Traced.stage_step (traced : Traced host trace t)
    (origin : t.actor.stage = some stage ∧ Calm t.actor request.command stage.handoffId ∨
      request.command = .stageSnapshot stage ∧ ∃ prepared, Fits t.actor prepared stage) :
    Staged stage (trace ++ [⟨t, request, reply, t'⟩]) ∧
      (stage.targetProcessSessionId, stage.targetToken.ownerHostId) = host := by
  rcases origin with ⟨was, calm⟩ | ⟨call, prepared, fits⟩
  · obtain ⟨since, own⟩ := traced.staged stage was
    exact ⟨since.later calm, own⟩
  have ready := traced.prepared prepared fits.was
  rw [fits.handoff, fits.token, fits.baseline] at ready
  refine ⟨.now ⟨call, ready⟩, ?_⟩
  rw [fits.session, fits.owner]
  exact traced.own

variable [ClipboardBackend β]

theorem Traced.step (traced : Traced host trace t) {r : Handled β} (steps : t.Steps request t' reply r) :
    Traced host (trace ++ [⟨t, request, reply, t'⟩]) t' := by
  have move := t.actor.handle_targetMove request.slot request.command
  rw [← steps.handled] at move
  refine ⟨steps.host.trans traced.own, fun p is => ?_, fun stage is => ?_⟩
  · rcases move.preparation_from (steps.preparation p is) with ⟨was, calm⟩ | ⟨call, event⟩
    · exact (traced.prepared p was).later calm
    · exact .now ⟨call, _, steps.event.trans event⟩
  · exact traced.stage_step (move.stage_from (steps.stage stage is))

theorem traced_of_run {backend : β} {session : ProcessSessionId} {localHost : HostId}
    {initialToken : OwnershipToken} {observed : NativeGeneration}
    (run : Run actorThread (.spawned backend session localHost initialToken observed) trace t) :
    Traced (session, localHost) trace t := by
  refine run.history (P := Traced (session, localHost)) ?_ ?_
  · exact ⟨rfl, by simp [ActorThread.spawned, Actor.new], by simp [ActorThread.spawned, Actor.new]⟩
  intro trace t request t' reply _ traced step
  obtain ⟨r, steps⟩ := ActorThread.step_cases step
  exact traced.step steps

/-- Every native write is of a snapshot that was staged for a handoff of this host, prepared
with the same baseline and disturbed by nothing since, and its token is the current one. -/
theorem writes_are_current {backend : β} {session : ProcessSessionId} {localHost : HostId}
    {initialToken : OwnershipToken} {observed : NativeGeneration}
    (run : Run actorThread (.spawned backend session localHost initialToken observed) trace t)
    {before after : List (ActorEntry β)} {e : ActorEntry β} (here : trace = before ++ e :: after)
    {identity : AppliedIdentity} {expected : NativeGeneration} {data : ClipboardData}
    {answer : Except ClipboardReason NativeGeneration}
    (wrote : .apply identity expected data answer ∈ e.output.acts) :
    ∃ stage : StagedSnapshot, stage.identity = identity ∧ stage.baselineGeneration = expected ∧
      stage.data = data ∧ stage.targetToken.ownerHostId = localHost ∧
      stage.targetProcessSessionId = session ∧ e.post.actor.currentToken = stage.targetToken ∧
      Staged stage (before ++ [e]) := by
  obtain ⟨earlier, step, -⟩ := run.split here
  obtain ⟨r, steps⟩ := ActorThread.step_cases step
  have move := e.pre.actor.handle_targetMove e.input.slot e.input.command
  rw [← steps.handled] at move
  obtain ⟨stage, answer', is, current, origin⟩ := move.write_from (steps.acts ▸ wrote) rfl
  have staged : Staged stage (before ++ [e]) ∧ _ := (traced_of_run earlier).stage_step origin
  obtain ⟨staged, own⟩ := staged
  obtain ⟨rfl, rfl, rfl, -⟩ := is
  exact ⟨stage, rfl, rfl, rfl, congrArg Prod.snd own, congrArg Prod.fst own, steps.token.trans current,
    staged⟩

/-- A snapshot that comes before its token is written with the activation. -/
theorem late_activation_writes : ∃ before e t,
    Run (actorThread (β := Pasteboard)) (.spawned ⟨3, .empty⟩ 1 "mac" ⟨7, 0, "server"⟩ 3)
        (before ++ [e]) t ∧
      e.output.event = .applied ⟨⟨7, 1⟩, ⟨2, 1⟩⟩ ∧
      ∃ stage : StagedSnapshot, stage.data = .text [104] ∧ e.post.actor.currentToken = stage.targetToken ∧
        Staged stage (before ++ [e]) := by
  obtain ⟨before, e, t, run, output⟩ := (actorThread (β := Pasteboard)).exists_last
    (.spawned ⟨3, .empty⟩ 1 "mac" ⟨7, 0, "server"⟩ 3)
    [⟨.prepareTarget ⟨7, 1⟩ ⟨7, 1, "mac"⟩, .sent⟩,
      ⟨.stageSnapshot ⟨⟨7, 1⟩, ⟨2, 1⟩, ⟨7, 1, "mac"⟩, 1, 3, .text [104]⟩, .sent⟩]
    ⟨.activateTarget ⟨7, 1⟩ ⟨7, 1, "mac"⟩, .sent⟩
    (fun _ e => e.output = ⟨.applied ⟨⟨7, 1⟩, ⟨2, 1⟩⟩,
      [.apply ⟨⟨7, 1⟩, ⟨2, 1⟩⟩ 3 (.text [104]) (.ok 4)]⟩)
    (by decide +kernel)
  have wrote : .apply ⟨⟨7, 1⟩, ⟨2, 1⟩⟩ 3 (.text [104]) (.ok 4) ∈ e.output.acts := by
    rw [output]
    exact List.mem_singleton_self _
  obtain ⟨stage, -, -, data, -, -, current, staged⟩ := writes_are_current run rfl wrote
  exact ⟨before, e, t, run, by rw [output], stage, data, current, staged⟩

end Runs

section Once

variable {β : Type}

def NativeAct.written? : NativeAct → Option AppliedIdentity
  | .apply identity _ _ (.ok _) => some identity
  | .apply _ _ _ (.error _) | .generation _ | .capture _ _ | .publish _ => none

def ActorReply.written (reply : ActorReply) : List AppliedIdentity := reply.acts.filterMap (·.written?)

def written (trace : List (ActorEntry β)) : List AppliedIdentity := trace.flatMap (·.output.written)

/-- The checks of `prepare_target`. -/
def Actor.prepares (a : Actor β) (id : HandoffId) (token : OwnershipToken) : Bool :=
  id.authoritySessionId = token.authoritySessionId ∧
    token.authoritySessionId = a.currentToken.authoritySessionId ∧
    token.ownerHostId = a.localHostId ∧ token ≠ a.currentToken

theorem Actor.prepares_of_event {a : Actor β} {id id' : HandoffId} {token token' : OwnershipToken}
    {session : ProcessSessionId} {baseline : NativeGeneration}
    (event : (a.prepareTarget id token).event = .prepared id' token' session baseline) :
    a.prepares id token = true := by
  unfold prepareTarget at event
  split at event
  · cases event
  rename_i known
  split at event
  · rename_i own
    simp only [not_or, not_not] at known
    exact decide_eq_true ⟨known.1, known.2, own.1, own.2⟩
  · cases event

/-- A handoff that is prepared was not written before, or its only snapshot that was is still
known as the last one. -/
def ActorEntry.remembers (past : List (ActorEntry β)) (e : ActorEntry β) : Bool :=
  match e.input.command with
  | .prepareTarget id token => e.pre.actor.prepares id token = true →
    ∀ identity ∈ written past, identity.handoffId = id → e.pre.actor.applied = some identity
  | _ => true

theorem filterMap_written (acts : List NativeAct) :
    acts.filterMap (·.written?) = (acts.filter isApply).filterMap (·.written?) := by
  rw [List.filterMap_filter]
  refine List.filterMap_congr fun act _ => ?_
  cases act <;> rfl

theorem Actor.Consumes.written_cases {preparation : Option Preparation}
    {applied : Option AppliedIdentity} {r : Handled β} (consumes : Consumes preparation applied stage r) :
    (r.acts.filterMap (·.written?) = [] ∧ r.actor.applied = applied) ∨
      (r.acts.filterMap (·.written?) = [stage.identity] ∧ applied ≠ some stage.identity ∧
        r.actor.preparation = none) := by
  rw [filterMap_written]
  cases consumes with
  | duplicate known silent target =>
    rw [silent]
    exact .inl ⟨rfl, congrArg TargetSide.applied target⟩
  | failed reason wrote target =>
    rw [wrote]
    exact .inl ⟨rfl, congrArg TargetSide.applied target⟩
  | written generation fresh wrote target =>
    rw [wrote]
    exact .inr ⟨rfl, fresh, congrArg TargetSide.preparation target⟩

theorem Actor.TargetMove.written_cases {a : Actor β} {command : ActorCommand} {r : Handled β}
    (move : TargetMove a command r) :
    (r.acts.filterMap (·.written?) = [] ∧ (r.actor.preparation ≠ none → r.actor.applied = a.applied)) ∨
      ∃ identity p, r.acts.filterMap (·.written?) = [identity] ∧ a.applied ≠ some identity ∧
        a.preparation = some p ∧ p.handoffId = identity.handoffId ∧ r.actor.preparation = none := by
  cases move with
  | synchronized token call silent target =>
    rw [filterMap_written, silent]
    exact .inl ⟨rfl, fun has => absurd (congrArg TargetSide.preparation target) has⟩
  | kept stays calm silent target
  | prepared id token call event silent target | activated id token call silent target
  | staged stage prepared call fits silent target | canceled id call silent target =>
    rw [filterMap_written, silent]
    exact .inl ⟨rfl, fun _ => congrArg TargetSide.applied target⟩
  | applied stage prepared call fits consumes =>
    rcases consumes.written_cases with ⟨none, same⟩ | ⟨wrote, fresh, done⟩
    · exact .inl ⟨none, fun _ => same⟩
    · exact .inr ⟨_, prepared, wrote, fresh, fits.was, fits.handoff, done⟩
  | appliedLate stage prepared call was ready handoff consumes =>
    rcases consumes.written_cases with ⟨none, same⟩ | ⟨wrote, fresh, done⟩
    · exact .inl ⟨none, fun _ => same⟩
    · exact .inr ⟨_, prepared, wrote, fresh, ready, handoff, done⟩

/-- Nothing was written twice, and what was written of the prepared handoff is known. -/
structure WrittenOnce (trace : List (ActorEntry β)) (t : ActorThread β) : Prop where
  once : (written trace).Nodup
  known : ∀ p, t.actor.preparation = some p → ∀ identity ∈ written trace,
    identity.handoffId = p.handoffId → t.actor.applied = some identity

variable [ClipboardBackend β] {trace : List (ActorEntry β)} {t t' : ActorThread β} {request : ActorRequest}
  {reply : ActorReply}

theorem WrittenOnce.step (once : WrittenOnce trace t) {r : Handled β} (steps : t.Steps request t' reply r)
    (remembers : ActorEntry.remembers trace ⟨t, request, reply, t'⟩ = true) :
    WrittenOnce (trace ++ [⟨t, request, reply, t'⟩]) t' := by
  have move := t.actor.handle_targetMove request.slot request.command
  rw [← steps.handled] at move
  have snoc : written (trace ++ [⟨t, request, reply, t'⟩]) =
      written trace ++ r.acts.filterMap (·.written?) := by
    simp [written, ActorReply.written, steps.acts]
  rcases move.written_cases with ⟨none, applied⟩ | ⟨identity, p, wrote, fresh, was, own, done⟩
  · rw [none, List.append_nil] at snoc
    refine ⟨snoc ▸ once.once, fun p is identity old same => ?_⟩
    have is := steps.preparation p is
    rw [snoc] at old
    rw [steps.applied, applied (by simp [is])]
    rcases move.preparation_from is with ⟨was, -⟩ | ⟨call, event⟩
    · exact once.known p was identity old same
    · rw [steps.handled, call] at event
      simp only [ActorEntry.remembers, call, decide_eq_true_eq] at remembers
      exact remembers (Actor.prepares_of_event event) identity old same
  rw [wrote] at snoc
  refine ⟨?_, fun p is => absurd (done.symm.trans (steps.preparation p is)) nofun⟩
  rw [snoc]
  refine List.nodup_append.mpr ⟨once.once, List.pairwise_singleton _ _, ?_⟩
  intro x old y new equal
  obtain rfl := List.mem_singleton.mp new
  subst equal
  exact fresh (once.known p was x old own.symm)

theorem written_at_most_once {backend : β} {session : ProcessSessionId} {localHost : HostId}
    {initialToken : OwnershipToken} {observed : NativeGeneration}
    (run : Run actorThread (.spawned backend session localHost initialToken observed) trace t)
    (remembers : allWithPast ActorEntry.remembers [] trace = true) : (written trace).Nodup := by
  suffices once : allWithPast ActorEntry.remembers [] trace = true → WrittenOnce trace t from
    (once remembers).once
  refine run.history (P := fun trace t => allWithPast ActorEntry.remembers [] trace = true →
    WrittenOnce trace t)
    ?_ ?_
  · exact fun _ => ⟨.nil, by simp [ActorThread.spawned, Actor.new]⟩
  · intro trace t request t' reply _ ih step remembers
    rw [allWithPast_snoc, Bool.and_eq_true] at remembers
    obtain ⟨r, steps⟩ := ActorThread.step_cases step
    exact (ih remembers.1).step steps remembers.2

/-- A handoff is prepared and activated, and its snapshot comes. -/
def arrival (epoch sequence : UInt64) (baseline : NativeGeneration) (data : ClipboardData) :
    List ActorRequest :=
  [⟨.prepareTarget ⟨7, epoch⟩ ⟨7, epoch, "mac"⟩, .sent⟩,
    ⟨.activateTarget ⟨7, epoch⟩ ⟨7, epoch, "mac"⟩, .sent⟩,
    ⟨.stageSnapshot ⟨⟨7, epoch⟩, ⟨2, sequence⟩, ⟨7, epoch, "mac"⟩, 1, baseline, data⟩, .sent⟩]

/-- Snapshots of two handoffs. -/
theorem repeated_snapshot_written_once : ∃ trace t,
    Run (actorThread (β := Pasteboard)) (.spawned ⟨3, .empty⟩ 1 "mac" ⟨7, 0, "server"⟩ 3) trace t ∧
      allWithPast ActorEntry.remembers [] trace = true ∧ (written trace).Nodup ∧
      written trace = [⟨⟨7, 1⟩, ⟨2, 1⟩⟩, ⟨⟨7, 3⟩, ⟨2, 2⟩⟩] := by
  obtain ⟨trace, t, run, remembers, wrote⟩ := (actorThread (β := Pasteboard)).exists_run
    (.spawned ⟨3, .empty⟩ 1 "mac" ⟨7, 0, "server"⟩ 3)
    (arrival 1 1 3 (.text [104]) ++ arrival 3 2 4 .empty)
    (fun trace _ => allWithPast ActorEntry.remembers [] trace = true ∧
      written trace = [⟨⟨7, 1⟩, ⟨2, 1⟩⟩, ⟨⟨7, 3⟩, ⟨2, 2⟩⟩])
    (by decide +kernel)
  exact ⟨trace, t, run, remembers, written_at_most_once run remembers, wrote⟩

/-- The authority's token moves on and the written handoff is prepared once more: its
snapshot is written twice. -/
theorem prepared_again_written_twice : ∃ trace t,
    Run (actorThread (β := Pasteboard)) (.spawned ⟨3, .empty⟩ 1 "mac" ⟨7, 0, "server"⟩ 3) trace t ∧
      written trace = [⟨⟨7, 1⟩, ⟨2, 1⟩⟩, ⟨⟨7, 1⟩, ⟨2, 1⟩⟩] ∧ ¬(written trace).Nodup :=
  (actorThread (β := Pasteboard)).exists_run (.spawned ⟨3, .empty⟩ 1 "mac" ⟨7, 0, "server"⟩ 3)
    (arrival 1 1 3 (.text [104]) ++ ⟨.synchronizeAuthority ⟨7, 2, "server"⟩, .sent⟩ ::
      arrival 1 1 4 (.text [104])) _ (by decide +kernel)

end Once

end DisplayMux.Clipboard
