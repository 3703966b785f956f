import DisplayMux.Lib.Machine
import DisplayMux.Lib.Saturating
import DisplayMux.Clipboard.Frame

/-! The actor of one host's clipboard. It runs one command at a time against the native
clipboard, which answers as it likes. What it asks of the native clipboard, and what it puts
into the payload slot, is kept beside the event that it reports. -/
namespace DisplayMux.Clipboard

def sourceChangeRetries : Nat := 1

class ClipboardBackend (β : Type) where
  generation : β → Except ClipboardReason NativeGeneration × β
  capture : β → Nat → Except ClipboardReason ClipboardData × β
  apply : β → NativeGeneration → ClipboardData → Except ClipboardReason NativeGeneration × β

namespace ClipboardData

def kind : ClipboardData → Except ClipboardReason ClipboardKind
  | .text _ => .ok .text
  | .empty => .ok .empty
  | .unavailable reason => .error reason

def len : ClipboardData → Nat
  | .text bytes => bytes.length
  | .empty | .unavailable _ => 0

end ClipboardData

structure Transferable where
  data : ClipboardData
  kind : ClipboardKind
  known : data.kind = .ok kind
  deriving DecidableEq

structure AppliedIdentity where
  handoffId : HandoffId
  snapshotId : SnapshotId
  deriving DecidableEq, Repr

structure StagedSnapshot where
  handoffId : HandoffId
  snapshotId : SnapshotId
  targetToken : OwnershipToken
  targetProcessSessionId : ProcessSessionId
  baselineGeneration : NativeGeneration
  data : ClipboardData
  deriving DecidableEq, Repr

inductive ActorCommand where
  | synchronizeAuthority (currentToken : OwnershipToken)
  | observeGeneration
  | prepareTarget (handoffId : HandoffId) (targetToken : OwnershipToken)
  | captureSource (handoffId : HandoffId) (sourceToken : OwnershipToken) (maxBytes : Nat)
  | captureProvisional (sourceToken : OwnershipToken) (maxBytes : Nat)
  | bindProvisional (handoffId : HandoffId) (sourceToken : OwnershipToken)
  | publishSnapshot (handoffId : HandoffId) (snapshotId : SnapshotId)
  | activateTarget (handoffId : HandoffId) (targetToken : OwnershipToken)
  | stageSnapshot (stage : StagedSnapshot)
  | cancelHandoff (handoffId : HandoffId)
  | shutdown
  deriving DecidableEq, Repr

inductive ActorEvent where
  | authoritySynchronized (currentToken : OwnershipToken)
  | generation (generation : NativeGeneration)
  | prepared (handoffId : HandoffId) (targetToken : OwnershipToken) (processSessionId : ProcessSessionId)
    (baselineGeneration : NativeGeneration)
  | captured (handoffId : HandoffId) (sourceToken : OwnershipToken) (snapshotId : SnapshotId)
    (kind : ClipboardKind) (bytes : Nat)
  | provisionalCaptured (sourceToken : OwnershipToken) (snapshotId : SnapshotId) (kind : ClipboardKind)
    (bytes : Nat)
  | activated (handoffId : HandoffId) (targetToken : OwnershipToken)
  | staged (handoffId : HandoffId) (snapshotId : SnapshotId)
  | applied (identity : AppliedIdentity)
  | published (handoffId : HandoffId) (snapshotId : SnapshotId)
  | skipped (handoffId : Option HandoffId) (reason : ClipboardReason)
  | backendUnavailable (handoffId : Option HandoffId) (reason : ClipboardReason)
  | canceled (handoffId : HandoffId)
  | shutdown
  deriving DecidableEq, Repr

structure ActorPayload where
  handoffId : HandoffId
  snapshotId : SnapshotId
  sourceToken : OwnershipToken
  data : ClipboardData
  deriving DecidableEq, Repr

structure StoredSnapshot where
  handoffId : Option HandoffId
  sourceToken : OwnershipToken
  snapshotId : SnapshotId
  data : Transferable
  deriving DecidableEq

structure Preparation where
  handoffId : HandoffId
  targetToken : OwnershipToken
  baselineGeneration : NativeGeneration
  deriving DecidableEq, Repr

inductive ActorFailure where
  | native (reason : ClipboardReason)
  | handoff (reason : ClipboardReason)
  deriving DecidableEq, Repr

inductive TrySend where
  | sent | full | closed
  deriving DecidableEq, Repr

/-- A call to the native clipboard with its answer, or a payload that was sent. -/
inductive NativeAct where
  | generation (answer : Except ClipboardReason NativeGeneration)
  | capture (maxBytes : Nat) (answer : Except ClipboardReason ClipboardData)
  | apply (identity : AppliedIdentity) (expectedGeneration : NativeGeneration) (data : ClipboardData)
    (answer : Except ClipboardReason NativeGeneration)
  | publish (payload : ActorPayload)
  deriving DecidableEq

def NativeAct.isRead : NativeAct → Bool
  | .generation _ | .capture _ _ => true
  | .apply _ _ _ _ | .publish _ => false

structure Actor (β : Type) where
  backend : β
  processSessionId : ProcessSessionId
  localHostId : HostId
  currentToken : OwnershipToken
  observedGeneration : NativeGeneration
  nextSnapshotSequence : SnapshotSequence
  preparation : Option Preparation
  sourceSnapshot : Option StoredSnapshot
  stage : Option StagedSnapshot
  applied : Option AppliedIdentity

structure Handled (β : Type) where
  event : ActorEvent
  actor : Actor β
  acts : List NativeAct

def skipped (handoffId : Option HandoffId) (reason : ClipboardReason) : ActorEvent :=
  .skipped handoffId reason

def nativeFailure (handoffId : Option HandoffId) : ClipboardReason → ActorEvent
  | .backendUnavailable => .backendUnavailable handoffId .backendUnavailable
  | .permissionDenied => .backendUnavailable handoffId .permissionDenied
  | .identityExhausted => .backendUnavailable handoffId .identityExhausted
  | reason => skipped handoffId reason

def checkCaptured (data : ClipboardData) (maxBytes : Nat) : Except ClipboardReason Transferable :=
  let check (t : Transferable) := if maxBytes < t.data.len then .error .oversize else .ok t
  match data with
  | .text bytes => if (fromUtf8 bytes).isSome then check ⟨.text bytes, .text, rfl⟩ else .error .invalidUtf8
  | .empty => check ⟨.empty, .empty, rfl⟩
  | .unavailable reason => .error reason

structure SourceSide where
  host : ProcessSessionId × HostId
  nextSnapshotSequence : SnapshotSequence
  sourceSnapshot : Option StoredSnapshot

namespace Actor

variable {β : Type} {a a' : Actor β}

def host (a : Actor β) : ProcessSessionId × HostId := (a.processSessionId, a.localHostId)

def source (a : Actor β) : SourceSide := ⟨a.host, a.nextSnapshotSequence, a.sourceSnapshot⟩

def new (backend : β) (processSessionId : ProcessSessionId) (localHostId : HostId)
    (currentToken : OwnershipToken) (observedGeneration : NativeGeneration) : Actor β where
  backend
  processSessionId
  localHostId
  currentToken
  observedGeneration
  nextSnapshotSequence := 0
  preparation := none
  sourceSnapshot := none
  stage := none
  applied := none

def skip (a : Actor β) (handoffId : Option HandoffId) (reason : ClipboardReason) : Handled β :=
  ⟨skipped handoffId reason, a, []⟩

def synchronizeAuthority (a : Actor β) (currentToken : OwnershipToken) : Handled β :=
  let authorityChanged := currentToken.authoritySessionId ≠ a.currentToken.authoritySessionId
  let tokenChanged := currentToken ≠ a.currentToken
  let preserveBoundSource := ¬authorityChanged ∧
    (a.sourceSnapshot.any fun snapshot =>
      snapshot.handoffId.isSome ∧ snapshot.sourceToken = a.currentToken) = true
  ⟨.authoritySynchronized currentToken,
    if authorityChanged ∨ tokenChanged then
      { a with
        sourceSnapshot := if preserveBoundSource then a.sourceSnapshot else none
        stage := none
        preparation := none
        applied := none
        currentToken }
    else a, []⟩

def prepareTarget (a : Actor β) (handoffId : HandoffId) (targetToken : OwnershipToken) : Handled β :=
  if handoffId.authoritySessionId ≠ targetToken.authoritySessionId ∨
      targetToken.authoritySessionId ≠ a.currentToken.authoritySessionId then
    a.skip handoffId .staleAuthoritySession
  else if targetToken.ownerHostId = a.localHostId ∧ targetToken ≠ a.currentToken then
    ⟨.prepared handoffId targetToken a.processSessionId a.observedGeneration,
      { a with preparation := some ⟨handoffId, targetToken, a.observedGeneration⟩ }, []⟩
  else a.skip handoffId .staleOwnerToken

def bindProvisional (a : Actor β) (handoffId : HandoffId) (sourceToken : OwnershipToken) : Handled β :=
  match a.sourceSnapshot with
  | none => a.skip handoffId .sourceChanged
  | some snapshot =>
    if snapshot.handoffId.isSome ∨ snapshot.sourceToken ≠ sourceToken then
      a.skip handoffId .staleOwnerToken
    else if handoffId.authoritySessionId ≠ sourceToken.authoritySessionId then
      a.skip handoffId .staleAuthoritySession
    else
      ⟨.captured handoffId sourceToken snapshot.snapshotId snapshot.data.kind snapshot.data.data.len,
        { a with sourceSnapshot := some { snapshot with handoffId := some handoffId } }, []⟩

/-- A snapshot that matches leaves the actor, also when the slot refuses it. -/
def publishSnapshot (a : Actor β) (slot : TrySend) (handoffId : HandoffId) (snapshotId : SnapshotId) :
    Handled β :=
  match a.sourceSnapshot with
  | none => a.skip handoffId .staleHandoff
  | some snapshot =>
    if snapshot.handoffId ≠ some handoffId ∨ snapshot.snapshotId ≠ snapshotId then
      a.skip handoffId .staleHandoff
    else
      let a := { a with sourceSnapshot := none }
      match slot with
      | .full => a.skip handoffId .queueFull
      | .closed => a.skip handoffId .channelUnavailable
      | .sent => ⟨.published handoffId snapshotId, a,
          [.publish ⟨handoffId, snapshotId, snapshot.sourceToken, snapshot.data.data⟩]⟩

def cancelHandoff (a : Actor β) (handoffId : HandoffId) : Handled β :=
  ⟨.canceled handoffId,
    { a with
      preparation := a.preparation.filter (·.handoffId ≠ handoffId)
      sourceSnapshot := a.sourceSnapshot.filter (·.handoffId ≠ some handoffId)
      stage := a.stage.filter (·.handoffId ≠ handoffId) }, []⟩

def Looked (a a' : Actor β) : Prop :=
  ∃ backend observedGeneration, a' = { a with backend, observedGeneration }

theorem Looked.trans {a b c : Actor β} (first : Looked a b) (second : Looked b c) : Looked a c := by
  obtain ⟨_, _, rfl⟩ := first
  obtain ⟨backend, observed, rfl⟩ := second
  exact ⟨backend, observed, rfl⟩

theorem Looked.observe (looked : Looked a a') (observedGeneration : NativeGeneration) :
    Looked a { a' with observedGeneration } := by
  obtain ⟨backend, _, rfl⟩ := looked
  exact ⟨backend, observedGeneration, rfl⟩

theorem Looked.source (looked : Looked a a') : a'.source = a.source := by
  obtain ⟨_, _, rfl⟩ := looked
  rfl

section Native

variable [ClipboardBackend β]

def generation (a : Actor β) : Except ClipboardReason NativeGeneration × Actor β :=
  let (answer, backend) := ClipboardBackend.generation a.backend
  (answer, { a with backend })

def capture (a : Actor β) (maxBytes : Nat) : Except ClipboardReason ClipboardData × Actor β :=
  let (answer, backend) := ClipboardBackend.capture a.backend maxBytes
  (answer, { a with backend })

def apply (a : Actor β) (expected : NativeGeneration) (data : ClipboardData) :
    Except ClipboardReason NativeGeneration × Actor β :=
  let (answer, backend) := ClipboardBackend.apply a.backend expected data
  (answer, { a with backend })

def observeGeneration (a : Actor β) : Handled β :=
  match a.generation with
  | (.ok generation, a) =>
    ⟨.generation generation, { a with observedGeneration := generation }, [.generation (.ok generation)]⟩
  | (.error reason, a) => ⟨nativeFailure none reason, a, [.generation (.error reason)]⟩

def stableCapture (maxBytes : Nat) (retries : Nat) (a : Actor β) :
    Except ActorFailure Transferable × Actor β × List NativeAct :=
  match a.generation with
  | (.error reason, a) => (.error (.native reason), a, [.generation (.error reason)])
  | (.ok before, a) =>
    match a.capture maxBytes with
    | (.error reason, a) =>
      (.error (.native reason), a, [.generation (.ok before), .capture maxBytes (.error reason)])
    | (.ok data, a) =>
      match checkCaptured data maxBytes with
      | .error reason =>
        (.error (.handoff reason), a, [.generation (.ok before), .capture maxBytes (.ok data)])
      | .ok captured =>
        match a.generation with
        | (.error reason, a) => (.error (.native reason), a,
            [.generation (.ok before), .capture maxBytes (.ok data), .generation (.error reason)])
        | (.ok after, a) =>
          let a := { a with observedGeneration := after }
          let acts := [.generation (.ok before), .capture maxBytes (.ok data), .generation (.ok after)]
          if before = after then (.ok captured, a, acts)
          else match retries with
            | 0 => (.error (.handoff .sourceChanged), a, acts)
            | retries + 1 =>
              let (result, a, more) := stableCapture maxBytes retries a
              (result, a, acts ++ more)

def captureSource (a : Actor β) (handoffId : Option HandoffId) (sourceToken : OwnershipToken)
    (maxBytes : Nat) : Handled β :=
  if sourceToken ≠ a.currentToken then a.skip handoffId .staleOwnerToken
  else if handoffId.any (·.authoritySessionId ≠ sourceToken.authoritySessionId) then
    a.skip handoffId .staleAuthoritySession
  else match a.stableCapture maxBytes sourceChangeRetries with
    | (.error (.native reason), a, acts) => ⟨nativeFailure handoffId reason, a, acts⟩
    | (.error (.handoff reason), a, acts) => ⟨skipped handoffId reason, a, acts⟩
    | (.ok data, a, acts) =>
      match checkedAdd a.nextSnapshotSequence.toNat 1 with
      | none => ⟨nativeFailure handoffId .identityExhausted, a, acts⟩
      | some sequence =>
        let snapshotId : SnapshotId := ⟨a.processSessionId, .ofNat sequence⟩
        let a := { a with
          nextSnapshotSequence := .ofNat sequence
          sourceSnapshot := some ⟨handoffId, sourceToken, snapshotId, data⟩ }
        match handoffId with
        | some handoffId => ⟨.captured handoffId sourceToken snapshotId data.kind data.data.len, a, acts⟩
        | none => ⟨.provisionalCaptured sourceToken snapshotId data.kind data.data.len, a, acts⟩

def applyStage (a : Actor β) : Handled β :=
  match a.stage with
  | none => a.skip none .staleHandoff
  | some stage =>
    if stage.targetToken ≠ a.currentToken then a.skip none .staleOwnerToken
    else
      let a := { a with stage := none }
      let identity : AppliedIdentity := ⟨stage.handoffId, stage.snapshotId⟩
      if a.applied = some identity then a.skip stage.handoffId .duplicate
      else match a.apply stage.baselineGeneration stage.data with
        | (.ok generation, a) => ⟨.applied identity,
            { a with observedGeneration := generation, applied := some identity, preparation := none },
            [.apply identity stage.baselineGeneration stage.data (.ok generation)]⟩
        | (.error reason, a) =>
          let event := nativeFailure stage.handoffId reason
          let act := NativeAct.apply identity stage.baselineGeneration stage.data (.error reason)
          if reason = .destinationChanged then
            match a.generation with
            | (.ok generation, a) =>
              ⟨event, { a with observedGeneration := generation }, [act, .generation (.ok generation)]⟩
            | (.error failure, a) => ⟨event, a, [act, .generation (.error failure)]⟩
          else ⟨event, a, [act]⟩

def activateTarget (a : Actor β) (handoffId : HandoffId) (targetToken : OwnershipToken) : Handled β :=
  if handoffId.authoritySessionId ≠ targetToken.authoritySessionId then
    a.skip handoffId .staleAuthoritySession
  else if targetToken.ownerHostId ≠ a.localHostId then a.skip handoffId .staleOwnerToken
  else match a.preparation with
    | none => a.skip handoffId .targetNotPrepared
    | some prepared =>
      if prepared.handoffId ≠ handoffId ∨ prepared.targetToken ≠ targetToken then
        a.skip handoffId .staleHandoff
      else
        let a := { a with currentToken := targetToken }
        if a.stage.any (·.handoffId = handoffId) then a.applyStage
        else ⟨.activated handoffId targetToken, a, []⟩

def stageSnapshot (a : Actor β) (stage : StagedSnapshot) : Handled β :=
  match stage.data with
  | .unavailable reason => a.skip stage.handoffId reason
  | _ =>
    if stage.handoffId.authoritySessionId ≠ stage.targetToken.authoritySessionId then
      a.skip stage.handoffId .staleAuthoritySession
    else if stage.targetToken.ownerHostId ≠ a.localHostId then a.skip stage.handoffId .staleOwnerToken
    else if a.applied = some ⟨stage.handoffId, stage.snapshotId⟩ then a.skip stage.handoffId .duplicate
    else match a.preparation with
      | none => a.skip stage.handoffId .targetNotPrepared
      | some prepared =>
        if prepared.handoffId ≠ stage.handoffId ∨ prepared.targetToken ≠ stage.targetToken ∨
            prepared.baselineGeneration ≠ stage.baselineGeneration ∨
            stage.targetProcessSessionId ≠ a.processSessionId then
          a.skip stage.handoffId .staleHandoff
        else
          let a := { a with stage := some stage }
          if a.currentToken = stage.targetToken then a.applyStage
          else ⟨.staged stage.handoffId stage.snapshotId, a, []⟩

def handle (a : Actor β) (slot : TrySend) : ActorCommand → Handled β
  | .synchronizeAuthority currentToken => a.synchronizeAuthority currentToken
  | .observeGeneration => a.observeGeneration
  | .prepareTarget handoffId targetToken => a.prepareTarget handoffId targetToken
  | .captureSource handoffId sourceToken maxBytes => a.captureSource (some handoffId) sourceToken maxBytes
  | .captureProvisional sourceToken maxBytes => a.captureSource none sourceToken maxBytes
  | .bindProvisional handoffId sourceToken => a.bindProvisional handoffId sourceToken
  | .publishSnapshot handoffId snapshotId => a.publishSnapshot slot handoffId snapshotId
  | .activateTarget handoffId targetToken => a.activateTarget handoffId targetToken
  | .stageSnapshot stage => a.stageSnapshot stage
  | .cancelHandoff handoffId => a.cancelHandoff handoffId
  | .shutdown => ⟨.shutdown, a, []⟩

section Lemmas

theorem checkCaptured_ok {data : ClipboardData} {maxBytes : Nat} {t : Transferable}
    (checked : checkCaptured data maxBytes = .ok t) :
    t.data = data ∧ (data = .empty ∨ ∃ bytes, data = .text bytes ∧ (fromUtf8 bytes).isSome = true) ∧
      data.len ≤ maxBytes := by
  unfold checkCaptured at checked
  cases data with
  | text bytes =>
    dsimp only at checked
    split at checked
    · rename_i valid
      split at checked
      · contradiction
      · rename_i fits
        cases checked
        exact ⟨rfl, .inr ⟨bytes, rfl, valid⟩, Nat.le_of_not_lt fits⟩
    · contradiction
  | empty =>
    dsimp only at checked
    split at checked
    · contradiction
    · cases checked
      exact ⟨rfl, .inl rfl, Nat.zero_le _⟩
  | unavailable reason => contradiction

theorem generation_looked {answer : Except ClipboardReason NativeGeneration}
    (asked : a.generation = (answer, a')) : Looked a a' :=
  ⟨_, _, (congrArg Prod.snd asked).symm⟩

theorem capture_looked {maxBytes : Nat} {answer : Except ClipboardReason ClipboardData}
    (asked : a.capture maxBytes = (answer, a')) : Looked a a' :=
  ⟨_, _, (congrArg Prod.snd asked).symm⟩

theorem apply_looked {expected : NativeGeneration} {data : ClipboardData}
    {answer : Except ClipboardReason NativeGeneration}
    (asked : a.apply expected data = (answer, a')) : Looked a a' :=
  ⟨_, _, (congrArg Prod.snd asked).symm⟩

/-- The clipboard is only read, and what is returned was there at one generation. -/
structure StableCapture (a : Actor β) (maxBytes : Nat) (result : Except ActorFailure Transferable)
    (a' : Actor β) (acts : List NativeAct) : Prop where
  looked : Looked a a'
  reads : ∀ act ∈ acts, act.isRead = true
  stable : ∀ t, result = .ok t → checkCaptured t.data maxBytes = .ok t ∧
    ∃ g, [.generation (.ok g), .capture maxBytes (.ok t.data), .generation (.ok g)] <:+ acts

theorem stableCapture_spec (maxBytes retries : Nat) (a : Actor β) :
    StableCapture a maxBytes (a.stableCapture maxBytes retries).1 (a.stableCapture maxBytes retries).2.1
      (a.stableCapture maxBytes retries).2.2 := by
  fun_induction stableCapture maxBytes retries a with
  | case1 retries a reason a₁ first =>
    exact ⟨generation_looked first, by simp [NativeAct.isRead], nofun⟩
  | case2 retries a before a₁ first reason a₂ second
  | case3 retries a before a₁ first data a₂ second reason checked =>
    exact ⟨(generation_looked first).trans (capture_looked second), by simp [NativeAct.isRead], nofun⟩
  | case4 retries a before a₁ first data a₂ second captured checked reason a₃ third =>
    refine ⟨?_, by simp [NativeAct.isRead], nofun⟩
    exact ((generation_looked first).trans (capture_looked second)).trans (generation_looked third)
  | case5 retries a a₁ data a₂ second captured checked after a₃ third a₄ first acts =>
    refine ⟨?_, by simp [acts, NativeAct.isRead], ?_⟩
    · exact (((generation_looked first).trans (capture_looked second)).trans
        (generation_looked third)).observe after
    · rintro t ⟨⟩
      have same := (checkCaptured_ok checked).1
      exact ⟨same.symm ▸ checked, after, same ▸ List.suffix_rfl⟩
  | case6 a before a₁ first data a₂ second captured checked after a₃ third a₄ acts changed =>
    refine ⟨?_, by simp [acts, NativeAct.isRead], nofun⟩
    exact (((generation_looked first).trans (capture_looked second)).trans
      (generation_looked third)).observe after
  | case7 a before a₁ first data a₂ second captured checked after a₃ third a₄ acts changed retries result a₅
      more again ih =>
    rw [again] at ih
    refine ⟨?_, ?_, ?_⟩
    · exact ((((generation_looked first).trans (capture_looked second)).trans
        (generation_looked third)).observe after).trans ih.looked
    · intro act member
      rcases List.mem_append.mp member with here | later
      · simp only [acts, List.mem_cons, List.not_mem_nil, or_false] at here
        rcases here with rfl | rfl | rfl <;> rfl
      · exact ih.reads act later
    · intro t is
      obtain ⟨valid, g, suffix⟩ := ih.stable t is
      exact ⟨valid, g, suffix.trans (List.suffix_append _ _)⟩

theorem observeGeneration_looked (a : Actor β) : Looked a a.observeGeneration.actor := by
  unfold observeGeneration
  split
  · rename_i generation a' asked
    exact (generation_looked asked).observe generation
  · rename_i reason a' asked
    exact generation_looked asked

theorem applyStage_source (a : Actor β) : a.applyStage.actor.source = a.source := by
  unfold applyStage
  split
  · rfl
  split
  · rfl
  dsimp only
  split
  · rfl
  split
  · rename_i generation a' asked
    exact (apply_looked asked).source
  rename_i reason a' asked
  have first := apply_looked asked
  split
  · split
    · rename_i generation a'' again
      exact (first.trans (generation_looked again)).source
    · rename_i failure a'' again
      exact (first.trans (generation_looked again)).source
  · exact first.source

theorem captureSource_host (a : Actor β) (id : Option HandoffId) (token : OwnershipToken) (maxBytes : Nat) :
    (a.captureSource id token maxBytes).actor.host = a.host := by
  unfold captureSource
  split
  · rfl
  split
  · rfl
  have same := (a.stableCapture_spec maxBytes sourceChangeRetries).looked.source
  generalize a.stableCapture maxBytes sourceChangeRetries = result at same
  obtain ⟨(reason | reason) | data, a', acts⟩ := result
  · exact congrArg SourceSide.host same
  · exact congrArg SourceSide.host same
  · dsimp only
    cases checkedAdd a'.nextSnapshotSequence.toNat 1 with
    | none => exact congrArg SourceSide.host same
    | some sequence => cases id <;> exact congrArg SourceSide.host same

theorem handle_host (a : Actor β) (slot : TrySend) (command : ActorCommand) :
    (a.handle slot command).actor.host = a.host := by
  cases command with
  | observeGeneration => exact congrArg SourceSide.host a.observeGeneration_looked.source
  | captureSource id token maxBytes | captureProvisional token maxBytes =>
    exact a.captureSource_host _ token maxBytes
  | synchronizeAuthority | prepareTarget | bindProvisional | publishSnapshot =>
    simp only [handle, synchronizeAuthority, prepareTarget, bindProvisional, publishSnapshot]
    (repeat' split) <;> rfl
  | activateTarget | stageSnapshot =>
    simp only [handle, activateTarget, stageSnapshot]
    (repeat' split) <;> first | rfl | exact congrArg SourceSide.host (applyStage_source _)
  | cancelHandoff | shutdown => rfl

end Lemmas

end Native

end Actor

def ActorEvent.backendLost : ActorEvent → Bool
  | .backendUnavailable _ _ => true
  | _ => false

/-- The actor's thread, which ends with a shutdown or with its backend. -/
structure ActorThread (β : Type) where
  actor : Actor β
  running : Bool

structure ActorRequest where
  command : ActorCommand
  slot : TrySend
  deriving DecidableEq, Repr

structure ActorReply where
  event : ActorEvent
  acts : List NativeAct
  deriving DecidableEq

section Thread

variable {β : Type} [ClipboardBackend β]

def ActorThread.step (t : ActorThread β) (request : ActorRequest) : Option (ActorThread β × ActorReply) :=
  if t.running then
    let handled := t.actor.handle request.slot request.command
    let ends := request.command = .shutdown ∨ handled.event.backendLost
    some (⟨if ends then { handled.actor with sourceSnapshot := none, stage := none, preparation := none }
      else handled.actor, !ends⟩, ⟨handled.event, handled.acts⟩)
  else none

structure ActorThread.Steps (t : ActorThread β) (request : ActorRequest) (t' : ActorThread β)
    (reply : ActorReply) (r : Handled β) : Prop where
  handled : r = t.actor.handle request.slot request.command
  running : t.running = true
  event : reply.event = r.event
  acts : reply.acts = r.acts
  token : t'.actor.currentToken = r.actor.currentToken
  host : t'.actor.host = t.actor.host
  sequence : t'.actor.nextSnapshotSequence = r.actor.nextSnapshotSequence
  applied : t'.actor.applied = r.actor.applied
  preparation : ∀ p, t'.actor.preparation = some p → r.actor.preparation = some p
  stage : ∀ stage, t'.actor.stage = some stage → r.actor.stage = some stage
  snapshot : ∀ snapshot, t'.actor.sourceSnapshot = some snapshot → r.actor.sourceSnapshot = some snapshot

theorem ActorThread.step_cases {t t' : ActorThread β} {request : ActorRequest} {reply : ActorReply}
    (step : t.step request = some (t', reply)) : ∃ r, Steps t request t' reply r := by
  unfold ActorThread.step at step
  split at step
  · rename_i running
    have host := t.actor.handle_host request.slot request.command
    obtain ⟨rfl, rfl⟩ := step
    refine ⟨t.actor.handle request.slot request.command, ?_⟩
    split
    · exact ⟨rfl, running, rfl, rfl, rfl, host, rfl, rfl, nofun, nofun, nofun⟩
    · exact ⟨rfl, running, rfl, rfl, rfl, host, rfl, rfl, fun _ is => is, fun _ is => is, fun _ is => is⟩
  · contradiction

theorem ActorThread.step_running {t t' : ActorThread β} {request : ActorRequest} {reply : ActorReply}
    (step : t.step request = some (t', reply)) (running : t'.running = true) :
    t.running = true ∧ t'.actor = (t.actor.handle request.slot request.command).actor := by
  unfold ActorThread.step at step
  split at step
  · rename_i was
    obtain ⟨rfl, -⟩ := step
    simp only [Bool.not_eq_true', decide_eq_false_iff_not] at running
    exact ⟨was, if_neg running⟩
  · contradiction

def actorThread : Machine (ActorThread β) ActorRequest ActorReply := ⟨ActorThread.step⟩

end Thread

def ActorThread.spawned {β : Type} (backend : β) (processSessionId : ProcessSessionId) (localHostId : HostId)
    (initialToken : OwnershipToken) (observedGeneration : NativeGeneration) : ActorThread β :=
  ⟨.new backend processSessionId localHostId initialToken observedGeneration, true⟩

abbrev ActorEntry (β : Type) := Entry (ActorThread β) ActorRequest ActorReply

structure Pasteboard where
  count : NativeGeneration
  content : ClipboardData

instance : ClipboardBackend Pasteboard where
  generation b := (.ok b.count, b)
  capture b _ := (.ok b.content, b)
  apply b expected data :=
    if b.count = expected then (.ok (b.count + 1), ⟨b.count + 1, data⟩) else (.error .destinationChanged, b)

end DisplayMux.Clipboard
