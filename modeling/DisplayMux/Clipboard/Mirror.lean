import DisplayMux.Clipboard.Apply
import DisplayMux.Clipboard.Authority
import DisplayMux.Lib.Backlog

/-! The token of the authority's own actor. The actor learns of a new owner only by the commands
in its queue, so the two agree when the queue has been worked off. -/
namespace DisplayMux.Clipboard

open Coordinator CoordinatorCommand RuntimeCore

open ActiveHandoff (SameParties)
open Coordinator (Begins Relaxed SameOwnership Transfers)

/-- What an actor believes about the ownership: the current token, and the one that it is
prepared to take over. -/
structure Mirror where
  token : OwnershipToken
  prepared : Option (HandoffId × OwnershipToken)
  deriving DecidableEq

open Mirror

namespace Mirror

def takes (localHost : HostId) (m : Mirror) : ActorCommand → Mirror
  | .synchronizeAuthority token => if token = m.token then m else ⟨token, none⟩
  | .prepareTarget id token =>
    if id.authoritySessionId = token.authoritySessionId ∧
      token.authoritySessionId = m.token.authoritySessionId ∧
        token.ownerHostId = localHost ∧ token ≠ m.token then { m with prepared := some (id, token) }
    else m
  | .activateTarget id token =>
    if id.authoritySessionId = token.authoritySessionId ∧ token.ownerHostId = localHost ∧
        m.prepared = some (id, token) then ⟨token, none⟩
    else m
  | .cancelHandoff id => { m with prepared := m.prepared.filter (·.1 ≠ id) }
  | .observeGeneration | .captureSource _ _ _ | .captureProvisional _ _ | .bindProvisional _ _
  | .publishSnapshot _ _ | .stageSnapshot _ | .shutdown => m

/-- A capture is asked for under the current token. -/
def Allows (m : Mirror) (command : ActorCommand) : Prop :=
  ∀ id token maxBytes, command = .captureSource id token maxBytes → m.token = token

end Mirror

/-- A preparation counts as long as its token is still to come. -/
def TargetSide.mirror (t : TargetSide) : Mirror :=
  ⟨t.currentToken, (t.preparation.map fun p => (p.handoffId, p.targetToken)).filter (·.2 ≠ t.currentToken)⟩

namespace Actor

variable {β : Type}

theorem mirror_of_current {t : TargetSide}
    (current : ∀ p, t.preparation = some p → p.targetToken = t.currentToken) :
    t.mirror = ⟨t.currentToken, none⟩ := by
  unfold TargetSide.mirror
  cases prepared : t.preparation with
  | none => rfl
  | some p => simp [Option.filter, current p prepared]

theorem Consumes.mirror {preparation : Option Preparation} {applied : Option AppliedIdentity}
    {stage : StagedSnapshot} {r : Handled β} (consumes : Consumes preparation applied stage r)
    (current : ∀ p, preparation = some p → p.targetToken = stage.targetToken) :
    r.actor.target.mirror = ⟨stage.targetToken, none⟩ := by
  have token : r.actor.target.currentToken = stage.targetToken := consumes.token
  rw [← token]
  refine mirror_of_current fun p is => ?_
  rw [token]
  exact current p (consumes.preparation_from is)

theorem prepareTarget_mirror (a : Actor β) (id : HandoffId) (token : OwnershipToken) :
    (a.prepareTarget id token).actor.target.mirror = a.target.mirror.takes a.localHostId
      (.prepareTarget id token) := by
  simp only [prepareTarget, takes]
  split
  · rename_i stale
    rw [if_neg fun fits => stale.elim (absurd fits.1) (absurd fits.2.1)]
    rfl
  rename_i current
  obtain ⟨own, fresh⟩ := not_or.mp current
  split
  · rename_i accepted
    rw [if_pos ⟨not_ne_iff.mp own, not_ne_iff.mp fresh, accepted⟩]
    simp [target, TargetSide.mirror, Option.filter, accepted.2]
  · rename_i refused
    rw [if_neg fun fits => refused fits.2.2]
    rfl

theorem mirror_prepared_eq (a : Actor β) : a.target.mirror.prepared =
    (a.preparation.map fun p => (p.handoffId, p.targetToken)).filter (·.2 ≠ a.currentToken) := rfl

theorem takes_activateTarget {a : Actor β} {prepared : Preparation} (was : a.preparation = some prepared)
    (session : prepared.handoffId.authoritySessionId = prepared.targetToken.authoritySessionId)
    (own : prepared.targetToken.ownerHostId = a.localHostId) :
    a.target.mirror.takes a.localHostId (.activateTarget prepared.handoffId prepared.targetToken) =
      ⟨prepared.targetToken, none⟩ := by
  simp only [takes]
  by_cases current : prepared.targetToken = a.currentToken
  · have nothing : a.target.mirror = ⟨a.currentToken, none⟩ :=
      mirror_of_current fun p is => Option.some.inj (was.symm.trans is) ▸ current
    rw [nothing, if_neg (by simp), current]
  · have ready : a.target.mirror.prepared = some (prepared.handoffId, prepared.targetToken) := by
      simp [mirror_prepared_eq, was, Option.filter, current]
    exact if_pos ⟨session, own, ready⟩

theorem cancelHandoff_mirror (a : Actor β) (id : HandoffId) :
    (a.cancelHandoff id).actor.target.mirror = a.target.mirror.takes a.localHostId (.cancelHandoff id) := by
  simp only [cancelHandoff, takes, target, TargetSide.mirror]
  cases a.preparation with
  | none => rfl
  | some p =>
    by_cases own : p.handoffId = id <;> by_cases current : p.targetToken = a.currentToken <;>
      simp [Option.filter, own, current]

theorem synchronizeAuthority_mirror (a : Actor β) (token : OwnershipToken) :
    (a.synchronizeAuthority token).actor.target.mirror =
      a.target.mirror.takes a.localHostId (.synchronizeAuthority token) := by
  simp only [synchronizeAuthority, takes]
  by_cases same : token = a.currentToken
  · have now : token = a.target.mirror.token := same
    rw [if_pos now, if_neg (by simp [same])]
  · have other : token ≠ a.target.mirror.token := same
    rw [if_neg other, if_pos (.inr same)]
    rfl

variable [ClipboardBackend β]

theorem applyStage_mirror {a : Actor β}
    (current : ∀ p, a.preparation = some p → p.targetToken = a.currentToken) :
    a.applyStage.actor.target.mirror = ⟨a.currentToken, none⟩ := by
  cases staged : a.stage with
  | none =>
    simp only [applyStage, staged]
    exact mirror_of_current current
  | some stage =>
    by_cases due : stage.targetToken = a.currentToken
    · rw [← due] at current ⊢
      exact (applyStage_consumes staged due).mirror current
    · simp only [applyStage, staged, ne_eq, due, not_false_eq_true, if_true]
      exact mirror_of_current current

theorem activateTarget_mirror (a : Actor β) (id : HandoffId) (token : OwnershipToken) :
    (a.activateTarget id token).actor.target.mirror =
      a.target.mirror.takes a.localHostId (.activateTarget id token) := by
  have refused (missing : a.target.mirror.prepared ≠ some (id, token)) :
      a.target.mirror.takes a.localHostId (.activateTarget id token) = a.target.mirror :=
    if_neg fun fits => missing fits.2.2
  unfold activateTarget
  split
  · rename_i stale
    exact (if_neg fun fits => stale fits.1).symm
  rename_i session
  split
  · rename_i foreign
    exact (if_neg fun fits => foreign fits.2.1).symm
  rename_i own
  split
  · rename_i missing
    exact (refused (by simp [mirror_prepared_eq, missing])).symm
  rename_i prepared was
  split
  · rename_i other
    refine (refused fun is => ?_).symm
    obtain ⟨found, -⟩ := Option.filter_eq_some_iff.mp (a.mirror_prepared_eq ▸ is)
    simp only [was, Option.map_some, Option.some.injEq, Prod.mk.injEq] at found
    exact other.elim (absurd found.1) (absurd found.2)
  rename_i fits
  obtain ⟨handoff, taken⟩ := not_or.mp fits
  obtain rfl := not_ne_iff.mp handoff
  obtain rfl := not_ne_iff.mp taken
  rw [takes_activateTarget was (not_ne_iff.mp session) (not_ne_iff.mp own)]
  have current (p : Preparation) (is : a.preparation = some p) :
    p.targetToken = prepared.targetToken :=
    Option.some.inj (was.symm.trans is) ▸ rfl
  dsimp only
  split
  · exact applyStage_mirror current
  · exact mirror_of_current current

theorem stageSnapshot_mirror (a : Actor β) (stage : StagedSnapshot) :
    (a.stageSnapshot stage).actor.target.mirror = a.target.mirror := by
  unfold stageSnapshot
  split
  · rfl
  split
  · rfl
  split
  · rfl
  split
  · rfl
  split
  · rfl
  rename_i prepared was
  split
  · rfl
  rename_i fits
  have token : prepared.targetToken = stage.targetToken :=
    not_ne_iff.mp (not_or.mp (not_or.mp fits).2).1
  dsimp only
  split
  · -- the snapshot is due, so its preparation is no longer a claim on the future
    rename_i due
    have current (p : Preparation) (is : a.preparation = some p) :
      p.targetToken = a.currentToken := by
      rw [← Option.some.inj (was.symm.trans is), token]
      exact due.symm
    have now : a.target.mirror = ⟨a.currentToken, none⟩ := mirror_of_current current
    rw [now]
    exact applyStage_mirror current
  · rfl

theorem handle_mirror (a : Actor β) (slot : TrySend) (command : ActorCommand) :
    (a.handle slot command).actor.target.mirror = a.target.mirror.takes a.localHostId command := by
  cases command with
  | prepareTarget id token => exact a.prepareTarget_mirror id token
  | activateTarget id token => exact a.activateTarget_mirror id token
  | stageSnapshot stage => exact a.stageSnapshot_mirror stage
  | cancelHandoff id => exact a.cancelHandoff_mirror id
  | synchronizeAuthority token => exact a.synchronizeAuthority_mirror token
  | captureSource id token maxBytes | captureProvisional token maxBytes =>
    exact congrArg TargetSide.mirror (a.captureSource_frame _ token maxBytes).1
  | observeGeneration => exact congrArg TargetSide.mirror a.observeGeneration_looked.target
  | bindProvisional id token | publishSnapshot id snapshotId =>
    simp only [handle, bindProvisional, publishSnapshot]
    (repeat' split) <;> rfl
  | shutdown => rfl

end Actor

section Aligned

variable {server : HostId} {c c' : Coordinator} {pending pending' : Option PendingTransition} {m : Mirror}

/-- The coordinator and an actor that has worked off its queue. While the clipboard is this
host's, both have the same token; while it is to come here, the actor is prepared for it. -/
structure Aligned (server : HostId) (c : Coordinator) (pending : Option PendingTransition)
    (m : Mirror) : Prop where
  session : m.token.authoritySessionId = c.authoritySessionId
  epoch : m.token.ownershipEpoch ≤ c.nextOwnershipEpoch
  current : c.currentToken.ownerHostId = server → m.token = c.currentToken
  waits : ∀ p, c.pendingOwnership = some p → p.handoffId.authoritySessionId = c.authoritySessionId ∧
    p.targetToken.authoritySessionId = c.authoritySessionId ∧
      p.targetToken.ownershipEpoch ≤ c.nextOwnershipEpoch
  agrees : ∀ h p, c.active = some h → c.pendingOwnership = some p → p = ⟨h.id, h.targetToken⟩
  sessions : ∀ h p q, c.active = some h → c.pendingOwnership = some p → pending = some q →
    q.handoffId = h.id → q.targetProcessSessionId = h.targetProcessSessionId
  prepared : ∀ h p, c.active = some h → c.pendingOwnership = some p → h.targetToken.ownerHostId = server →
    m.prepared = some (h.id, h.targetToken)

theorem aligned_new (enabled : Bool) (authoritySession : AuthoritySessionId) (server : HostId)
    (session : ProcessSessionId) (maxBytes : UInt64) :
    Aligned server (.new enabled authoritySession server session maxBytes) none
      ⟨⟨authoritySession, 0, server⟩, none⟩ where
  session := rfl
  epoch := by simp [new]
  current := fun _ => rfl
  waits := by simp [new]
  agrees := by simp [new]
  sessions := by simp
  prepared := by simp [new]

theorem Aligned.relaxed (aligned : Aligned server c pending m) (relaxed : c.Relaxed c') :
    Aligned server c' pending m := by
  cases relaxed with
  | same => exact aligned
  | ended terminal =>
    obtain ⟨session, epoch, current, waits, -, -, -⟩ := aligned
    exact ⟨session, epoch, current, waits, by simp, by simp, by simp⟩

theorem takes_cancels (server : HostId) (m : Mirror) {orders : List ActorCommand}
    (cancels : ∀ k ∈ orders, ∃ id, k = .cancelHandoff id) :
    (orders.foldl (takes server) m).token = m.token ∧
      InTurn (takes server) Mirror.Allows m orders := by
  induction orders generalizing m with
  | nil => exact ⟨rfl, trivial⟩
  | cons k orders ih =>
    obtain ⟨id, rfl⟩ := cancels k (by simp)
    obtain ⟨token, inTurn⟩ := ih (m := m.takes server (.cancelHandoff id))
      fun k member => cancels k (List.mem_cons_of_mem _ member)
    exact ⟨token, nofun, inTurn⟩

theorem orders_of_eases {commands : List CoordinatorCommand} (eases : Coordinator.Eases c c' commands)
    (localHost : Option HostId) :
    (∀ k ∈ commands.flatMap (CoordinatorCommand.orders localHost), ∃ id, k = .cancelHandoff id) ∧
      ∀ h, c'.active = some h → commands.flatMap (CoordinatorCommand.orders localHost) = [] := by
  refine ⟨fun k member => ?_, fun h is => List.flatMap_eq_nil_iff.mpr fun k issued => ?_⟩
  · obtain ⟨command, issued, member⟩ := List.mem_flatMap.mp member
    rcases eases.commands command issued with ⟨id, snapshotId, rfl⟩ | ⟨⟨id, rfl⟩, -⟩
    · contradiction
    · exact ⟨id, List.mem_singleton.mp member⟩
  · rcases eases.commands k issued with ⟨id, snapshotId, rfl⟩ | ⟨-, ended⟩
    · rfl
    · exact absurd (ended.symm.trans is) nofun

theorem Aligned.eases (aligned : Aligned server c pending m) {commands : List CoordinatorCommand}
    (eases : Coordinator.Eases c c' commands) (session : c'.authoritySessionId = c.authoritySessionId)
    (current : c'.currentToken = c.currentToken) (epoch : c'.nextOwnershipEpoch = c.nextOwnershipEpoch)
    (ownership : ∀ p, c'.pendingOwnership = some p → c.pendingOwnership = some p)
    (withdrawn : ∀ q, pending' = some q → pending = some q) (localHost : Option HostId) :
    InTurn (takes server) Mirror.Allows m (commands.flatMap (CoordinatorCommand.orders localHost)) ∧
      Aligned server c' pending'
        ((commands.flatMap (CoordinatorCommand.orders localHost)).foldl (takes server) m) := by
  obtain ⟨cancels, silent⟩ := orders_of_eases eases localHost
  obtain ⟨token, inTurn⟩ := takes_cancels server m cancels
  refine ⟨inTurn, ?_, ?_, ?_, ?_, ?_, ?_, ?_⟩
  · rw [token, session]
    exact aligned.session
  · rw [token, epoch]
    exact aligned.epoch
  · rw [token, current]
    exact aligned.current
  · intro p is
    rw [session, epoch]
    exact aligned.waits p (ownership p is)
  · intro h' p is waits
    obtain ⟨h, was, parties⟩ := eases.active h' is
    rw [parties.id, parties.targetToken]
    exact aligned.agrees h p was (ownership p waits)
  · intro h' p q is waits pends own
    obtain ⟨h, was, parties⟩ := eases.active h' is
    rw [parties.targetSession]
    exact aligned.sessions h p q was (ownership p waits) (withdrawn q pends) (own.trans parties.id)
  · intro h' p is waits here
    obtain ⟨h, was, parties⟩ := eases.active h' is
    rw [silent h' is, parties.id, parties.targetToken]
    exact aligned.prepared h p was (ownership p waits) (parties.targetToken ▸ here)

section Begins

variable {target : HostId} {b : BeginHandoff} {q : PendingTransition}

section

variable (aligned : Aligned server c pending m) (begins : c.Begins target b c')
include aligned begins

theorem Aligned.of_begins
    (session : ∀ h, c'.active = some h → q.targetProcessSessionId = h.targetProcessSessionId)
    {m' : Mirror} (token : m'.token = m.token) (prepared : ∀ h, c'.active = some h → target = server →
      m'.prepared = some (b.handoffId, b.targetToken)) : Aligned server c' (some q) m' := by
  have session' := begins.session
  have current := begins.current
  have grows := begins.nextOwnership_lt
  refine ⟨?_, ?_, ?_, ?_, ?_, ?_, ?_⟩
  · rw [token, session']
    exact aligned.session
  · rw [token]
    exact UInt64.le_trans aligned.epoch (UInt64.le_of_lt grows)
  · rw [token, current]
    exact aligned.current
  · intro p is
    obtain rfl := Option.some.inj (begins.pending.symm.trans is)
    rw [begins.handoffId, begins.targetToken, session']
    exact ⟨rfl, rfl, UInt64.le_refl _⟩
  · intro h p is waits
    obtain ⟨id, target⟩ := begins.active_eq is
    rw [id, target]
    exact Option.some.inj (waits.symm.trans begins.pending)
  · intro h p q' is _ pends _
    obtain rfl := Option.some.inj pends
    exact session h is
  intro h p is _ here
  obtain ⟨id, taken⟩ := begins.active_eq is
  rw [taken, begins.targetToken] at here
  rw [id, taken]
  exact prepared h is here

theorem Aligned.prepares (here : target = server) {m' : Mirror} (token : m'.token = m.token) :
    m'.takes server (.prepareTarget b.handoffId b.targetToken) =
      { m' with prepared := some (b.handoffId, b.targetToken) } := by
  have grows := begins.nextOwnership_lt
  have fresh : b.targetToken ≠ m'.token := by
    intro same
    have old := aligned.epoch
    rw [← token, ← same, begins.targetToken] at old
    exact absurd (UInt64.lt_of_lt_of_le grows old) (UInt64.lt_irrefl _)
  refine if_pos ⟨?_, ?_, ?_, fresh⟩
  · rw [begins.handoffId, begins.targetToken]
  · rw [begins.targetToken, token]
    exact aligned.session.symm
  · rw [begins.targetToken]
    exact here

theorem Aligned.begun
    (session : ∀ h, c'.active = some h → q.targetProcessSessionId = h.targetProcessSessionId) :
    InTurn (takes server) Mirror.Allows m
      (b.commands.flatMap (CoordinatorCommand.orders (some server))) ∧
      Aligned server c' (some q)
        ((b.commands.flatMap (CoordinatorCommand.orders (some server))).foldl (takes server) m) := by
  obtain ⟨cancels, -⟩ := orders_of_eases (Coordinator.Eases.cancel c c .canceled) (some server)
  obtain ⟨token, inTurn⟩ := takes_cancels server m cancels
  rcases begins.outcome with ⟨_, _, -, -, -, active, commands, -⟩ | ⟨inactive, commands, -⟩
  · rw [commands, List.flatMap_append, inTurn_append, List.foldl_append]
    generalize ((c.cancel .canceled).1.flatMap (orders (some server))).foldl
      (takes server) m = m' at token
    have owner : b.targetToken.ownerHostId = target := by rw [begins.targetToken]
    simp only [List.flatMap_cons, List.flatMap_nil, List.append_nil, orders,
      Option.some.injEq,
      owner, inTurn_append, List.foldl_append]
    by_cases here : target = server
    · have foreign : server ≠ c.currentToken.ownerHostId := here ▸ begins.other
      have prepares := aligned.prepares begins here token
      rw [if_pos here.symm, if_neg foreign]
      simp only [List.foldl_cons, List.foldl_nil, prepares]
      exact ⟨⟨inTurn, ⟨fun _ _ _ is => absurd is (by simp), trivial⟩, trivial⟩,
        aligned.of_begins begins session token fun _ _ _ => rfl⟩
    rw [if_neg (Ne.symm here)]
    have after (m'' : Mirror) (same : m''.token = m.token) : Aligned server c' (some q) m'' :=
      aligned.of_begins begins session same fun _ _ here' => absurd here' here
    by_cases owned : server = c.currentToken.ownerHostId
    · rw [if_pos owned]
      refine ⟨⟨inTurn, trivial, ?_, trivial⟩, after _ token⟩
      rintro _ _ _ ⟨⟩
      exact token.trans (aligned.current owned.symm)
    · rw [if_neg owned]
      exact ⟨⟨inTurn, trivial, trivial⟩, after _ token⟩
  · rw [commands]
    exact ⟨inTurn,
      aligned.of_begins begins session token fun h is => absurd (inactive.symm.trans is) (by simp)⟩

end

end Begins

open Coordinator (Activates ownershipActivated_activates)

theorem Aligned.activates {q : PendingTransition} (aligned : Aligned server c (some q) m)
    (kept : ∀ p, pending' = some p → ∃ activated, p = { q with activated })
      {r : Coordinator × List CoordinatorCommand}
    (activates : Activates c q.handoffId q.targetToken q.targetProcessSessionId r)
    (arrives : c.pendingOwnership = some ⟨q.handoffId, q.targetToken⟩ → q.targetToken ≠ c.currentToken →
      q.targetToken.ownerHostId = server → c.active.isSome = true) :
    InTurn (takes server) Mirror.Allows m (r.2.flatMap (CoordinatorCommand.orders (some server))) ∧
      Aligned server r.1 pending' ((r.2.flatMap (CoordinatorCommand.orders (some server))).foldl
        (takes server) m) := by
  cases activates with
  | refused =>
    refine ⟨trivial, aligned.session, aligned.epoch, aligned.current, aligned.waits, aligned.agrees, ?_,
      aligned.prepared⟩
    intro h p q' is waits pends own
    obtain ⟨activated, rfl⟩ := kept q' pends
    exact aligned.sessions h p q is waits rfl own
  | silent waited other =>
    refine ⟨trivial, aligned.session, aligned.epoch, ?_, by simp, by simp, by simp, by simp⟩
    intro here
    by_cases same : q.targetToken = c.currentToken
    · exact same ▸ aligned.current (same ▸ here)
    obtain ⟨h, is⟩ := Option.isSome_iff_exists.mp (arrives waited same here)
    have agrees := aligned.agrees h _ is waited
    simp only [PendingOwnership.mk.injEq] at agrees
    have session := aligned.sessions h _ q is waited rfl agrees.1
    exact absurd ⟨agrees.1.symm, agrees.2.symm, session.symm⟩ (other h is)
  | told h commands waited was handoff active publishes =>
    obtain ⟨handoffSession, tokenSession, epoch⟩ := aligned.waits _ waited
    have quiet : commands.flatMap (orders (some server)) = [] := by
      refine List.flatMap_eq_nil_iff.mpr fun k issued => ?_
      obtain ⟨id, snapshotId, rfl⟩ := publishes k issued
      rfl
    simp only [List.flatMap_cons, quiet, List.append_nil, orders, Option.some.injEq]
    by_cases here : server = q.targetToken.ownerHostId
    · have agrees := aligned.agrees h _ was waited
      simp only [PendingOwnership.mk.injEq] at agrees
      have prepared : m.prepared = some (q.handoffId, q.targetToken) := by
        rw [agrees.1, agrees.2]
        exact aligned.prepared h _ was waited (agrees.2 ▸ here.symm)
      have takes : m.takes server (.activateTarget q.handoffId q.targetToken) = ⟨q.targetToken, none⟩ :=
        if_pos ⟨handoffSession.trans tokenSession.symm, here.symm, prepared⟩
      rw [if_pos here]
      simp only [List.foldl_cons, List.foldl_nil, takes]
      exact ⟨⟨fun _ _ _ is => absurd is (by simp), trivial⟩,
        tokenSession, epoch, fun _ => rfl, by simp, by simp, by simp, by simp⟩
    · rw [if_neg here]
      exact ⟨trivial, aligned.session, aligned.epoch,
        fun here' => absurd here'.symm here, by simp, by simp, by simp,
        by simp⟩

end Aligned

variable {turned : Turned}

section Follows

variable {server : HostId} {links : Links} {core : RuntimeCore} {m : Mirror}

/-- The authority's runtime, with an actor that takes every command and has worked off its
queue. -/
structure Follows (server : HostId) (core : RuntimeCore) (c : Coordinator) (m : Mirror) : Prop where
  authority : core.role = .authority c
  localHost : core.localHost = some server
  installed : core.actor = true
  aligned : Aligned server c core.pending m

def Leads (server : HostId) (m : Mirror) (turned : Turned) : Prop :=
  InTurn (takes server) Mirror.Allows m (commandsOf turned.2) ∧
    ∃ c, Follows server turned.1 c ((commandsOf turned.2).foldl (takes server) m)

theorem takes_unsteered (m : Mirror) (k : ActorCommand) (quiet : k.steers = false) :
    m.takes server k = m := by
  cases k <;> first | rfl | contradiction

theorem allows_unsteered (m : Mirror) (k : ActorCommand) (quiet : k.steers = false) : m.Allows k := by
  rintro _ _ _ rfl
  contradiction

variable {c : Coordinator}

section

variable (follows : Follows server core c m) (attended : ∀ command, links.actor command = .sent)
include follows attended

theorem leads_of_turns {plan : Plan} (turns : core.Turns links c plan turned)
    (ahead : InTurn (takes server) Mirror.Allows m
        ((c.calls plan.op).2.flatMap (CoordinatorCommand.orders (some server))) ∧
      Aligned server (c.calls plan.op).1 plan.pending
        (((c.calls plan.op).2.flatMap (CoordinatorCommand.orders (some server))).foldl
          (takes server) m)) :
    Leads server m turned := by
  have orders :
    ordersOf turned.2 = (c.calls plan.op).2.flatMap (orders (some server)) := by
    rw [turns.carries.all ⟨follows.installed, attended⟩, follows.localHost]
  rw [← orders] at ahead
  obtain ⟨inTurn, aligned⟩ := ahead
  refine ⟨(inTurn_relevant takes_unsteered allows_unsteered).mp inTurn, ?_⟩
  obtain ⟨c', authority, relaxed⟩ := turns.relaxed
  refine ⟨c', authority, turns.localHost.trans follows.localHost, turns.actor.trans follows.installed, ?_⟩
  rw [← foldl_relevant takes_unsteered, turns.pending]
  exact aligned.relaxed relaxed

theorem Follows.answers {brought : Option ClipboardData} {contact : Contact}
    (answers : core.Answers links c brought contact turned) : Leads server m turned := by
  obtain ⟨plan, mild, -, turns⟩ := answers
  obtain ⟨same, eases⟩ := c.calls_mild mild.op
  refine leads_of_turns follows attended turns ?_
  exact follows.aligned.eases eases same.session same.current same.ownership (fun p is => same.pending ▸ is)
    (fun q is => mild.pending ▸ is) _

theorem Follows.rests (turns : core.Turns links c (core.resting none) turned) :
    Leads server m turned :=
  leads_of_turns follows attended turns ⟨trivial, follows.aligned⟩

theorem Follows.withdraws : Leads server m (core.cancelCurrent links) := by
  rcases @cancelCurrent_turns links core c follows.authority with ⟨-, turns⟩ | ⟨p, -, turns⟩
  · exact follows.rests attended turns
  refine leads_of_turns follows attended turns ?_
  have withdrawn (q : PendingTransition) (is : (core.withdrawing p).pending = some q) :
    core.pending = some q := by
    simp [withdrawing] at is
  obtain ⟨same | same, eases⟩ := c.calls_abort p.handoffId
  · exact follows.aligned.eases eases same.session same.current same.ownership
      (fun p is => same.pending ▸ is)
      withdrawn _
  · exact follows.aligned.eases eases same.session same.current same.ownership
      (fun p is => absurd (same.pending.symm.trans is) (by simp)) withdrawn _

end

/-- When the pending transition is activated and takes the clipboard back to this host, there
is an active handoff. -/
def RuntimeCore.returnsAlong (core : RuntimeCore) (transition : LanMouse.ClipboardTransitionId) : Bool :=
  match core.coordinator, core.pending with
  | some c, some p => p.id = transition → c.pendingOwnership = some ⟨p.handoffId, p.targetToken⟩ →
      p.targetToken ≠ c.currentToken → core.localHost = some p.targetToken.ownerHostId →
      c.active.isSome = true
  | _, _ => true

theorem Follows.handle (follows : Follows server core c m)
    (attended : ∀ command, links.actor command = .sent) (hook : ServiceHook)
    (along : ∀ transition, hook = .activate transition → core.returnsAlong transition = true) :
    Leads server m (core.handle links hook) := by
  cases hook with
  | begin transition target =>
    rcases @begin_turns links core c follows.authority transition target with
      ⟨-, turns⟩ | ⟨b, c', begun, begins, turns⟩
    · exact follows.rests attended turns
    refine leads_of_turns follows attended turns ?_
    have calls : c.calls (some (.beginHandoff target)) = (c', b.commands) := by
      simp only [calls, perform, begun, CoordinatorReply.commands]
    simp only [answering, calls]
    exact follows.aligned.begun begins fun h is => by simp [is]
  | activate transition =>
    rcases @activate_turns links core c follows.authority transition with
      ⟨-, turns⟩ | ⟨q, pending, was, own, kept, turns⟩
    · exact follows.rests attended turns
    refine leads_of_turns follows attended turns ?_
    have aligned := follows.aligned
    rw [was] at aligned
    refine aligned.activates kept (c.ownershipActivated_activates _ _ _) fun waits moves here => ?_
    have along := along transition rfl
    simp only [RuntimeCore.returnsAlong, RuntimeCore.coordinator, follows.authority, was, follows.localHost,
      decide_eq_true_eq] at along
    exact along own waits moves (congrArg some here.symm)
  | cancel transition reason =>
    simp only [RuntimeCore.handle, RuntimeCore.cancel]
    split
    · exact follows.withdraws attended
    · exact follows.rests attended (RuntimeCore.resting_turns follows.authority none)
  | cancelCurrent reason => exact follows.withdraws attended
  | captureProvisional =>
    simp only [RuntimeCore.handle, RuntimeCore.captureProvisional, follows.authority]
    exact follows.rests attended (RuntimeCore.resting_turns follows.authority none)
  | shutdown => exact follows.withdraws attended

end Follows

section Runs

variable {β : Type} {server : HostId} {s s' : AuthorityHost β} {i : HostInput β} {o : HostOutput}

/-- The actor is not lost, and takes what is queued in this step. -/
structure HostEntry.Attended (e : HostEntry β) : Prop where
  kept : e.input ≠ .lost
  accepts : ∀ links, e.input.links? = some links → ∀ command, links.actor command = .sent

def HostEntry.returnsAlong (e : HostEntry β) : Bool :=
  match e.input with
  | .hook _ (.activate transition) => e.pre.core.returnsAlong transition
  | _ => true

/-- As long as the actor's thread runs, what waits in its queue is in line with the runtime. -/
structure Mirrored (server : HostId) (s : AuthorityHost β) : Prop where
  authority : ∃ c, s.core.role = .authority c
  localHost : s.core.localHost = some server
  installed : s.core.actor = true
  started : s.thread.isSome = true ∧ s.starting = none
  follows : ∀ t, s.thread = some t → t.running = true → t.actor.localHostId = server ∧
    InTurn (takes server) Mirror.Allows t.actor.target.mirror s.queue ∧
      ∃ c, Follows server s.core c (s.queue.foldl (takes server) t.actor.target.mirror)

theorem mirrored_ready (config : ClipboardConfig) (server : HostId) (session : ProcessSessionId)
    (authoritySession : AuthoritySessionId) (backend : β) (observed : NativeGeneration) :
    Mirrored server (.ready config server session authoritySession backend observed) := by
  refine ⟨⟨_, rfl⟩, rfl, rfl, ⟨rfl, rfl⟩, ?_⟩
  rintro _ ⟨⟩ -
  exact ⟨rfl, trivial, _, rfl, rfl, rfl, aligned_new _ _ _ _ _⟩

theorem Mirrored.leads (mirrored : Mirrored server s) {links : Links} {c : Coordinator} {plan : Plan}
    (turns : s.core.Turns links c plan turned)
    (leads : ∀ c m, Follows server s.core c m → Leads server m turned)
    (core : s'.core = turned.1) (queue : s'.queue = s.queue ++ commandsOf turned.2)
    (thread : s'.thread = s.thread) (starting : s'.starting = s.starting) : Mirrored server s' := by
  obtain ⟨c', authority, -⟩ := turns.relaxed
  refine ⟨⟨c', core ▸ authority⟩, core ▸ turns.localHost.trans mirrored.localHost,
    core ▸ turns.actor.trans mirrored.installed, by rw [thread, starting]; exact mirrored.started, ?_⟩
  intro t is running
  obtain ⟨host, inTurn, c, follows⟩ := mirrored.follows t (thread ▸ is) running
  obtain ⟨inTurn', c', follows'⟩ := leads c _ follows
  refine ⟨host, ?_, c', ?_⟩
  · rw [queue, inTurn_append]
    exact ⟨inTurn, inTurn'⟩
  · rw [core, queue, List.foldl_append]
    exact follows'

variable [ClipboardBackend β]

theorem Mirrored.works (mirrored : Mirrored server s) {t t' : ActorThread β} {command : ActorCommand}
    {reply : ActorReply} {slot : TrySend} (was : s.thread = some t) (taken : s.queue = command :: s'.queue)
    (answer : t.step ⟨command, slot⟩ = some (t', reply)) (core : s'.core = s.core)
    (thread : s'.thread = some t') (starting : s'.starting = s.starting) : Mirrored server s' := by
  refine ⟨core ▸ mirrored.authority, core ▸ mirrored.localHost, core ▸ mirrored.installed,
    ⟨by rw [thread]; rfl, starting.trans mirrored.started.2⟩, ?_⟩
  intro t'' is running
  obtain rfl := Option.some.inj (thread.symm.trans is)
  obtain ⟨ran, answered⟩ := ActorThread.step_running answer running
  obtain ⟨host, inTurn, c, follows⟩ := mirrored.follows t was ran
  have mirror : t'.actor.target.mirror = t.actor.target.mirror.takes server command := by
    rw [answered, Actor.handle_mirror, host]
  rw [taken] at inTurn follows
  rw [core, mirror]
  refine ⟨?_, inTurn.2, c, follows⟩
  rw [answered, ← host]
  exact congrArg Prod.snd (t.actor.handle_host slot command)

theorem Mirrored.step (mirrored : Mirrored server s) (step : s.step i = some (s', o))
    (attended : HostEntry.Attended ⟨s, i, o, s'⟩) (along : HostEntry.returnsAlong ⟨s, i, o, s'⟩ = true) :
    Mirrored server s' := by
  obtain ⟨c, authority⟩ := mirrored.authority
  cases AuthorityHost.step_moves authority step with
  | hooked links hook call is =>
    obtain ⟨rfl, rfl⟩ := Prod.mk.inj is
    subst call
    obtain ⟨plan, turns, -⟩ := @handle_hooked links s.core c authority hook
    refine mirrored.leads turns (fun c m follows => ?_) rfl rfl rfl rfl
    refine follows.handle (attended.accepts links rfl) hook fun transition activates => ?_
    subst activates
    exact along
  | answered links brought contact turned linked answers brings joins is slot output =>
    obtain ⟨plan, mild, same, turns⟩ := answers
    refine mirrored.leads turns (fun c' m follows => ?_) ?_ ?_ ?_ ?_
    · obtain rfl : c' = c := RuntimeRole.authority.inj (follows.authority.symm.trans authority)
      exact follows.answers (attended.accepts links linked) ⟨plan, mild, same, turns⟩
    all_goals rw [is]
  | worked t t' command reply call was taken answer is output =>
    exact mirrored.works was taken answer (by rw [is]) (by rw [is]) (by rw [is])
  | lost call is output => exact absurd call attended.kept
  | retried call gone is output => exact absurd mirrored.started.1 (by simp [gone])
  | installed backend host token observed call started is output =>
    exact absurd (mirrored.started.2.symm.trans started) nofun

theorem mirrored_of_run {start : AuthorityHost β} {trace : List (HostEntry β)}
    (initial : Mirrored server start)
    (run : Run authorityHost start trace s) (attended : ∀ e ∈ trace, e.Attended)
    (along : ∀ e ∈ trace, e.returnsAlong = true) : Mirrored server s :=
  run.invariant_where (C := fun e => HostEntry.Attended e ∧ HostEntry.returnsAlong e = true) initial
    (fun _ mirrored step meets => mirrored.step step meets.1 meets.2) fun e member =>
      ⟨attended e member, along e member⟩

theorem stableCapture_acts (a : Actor β) (maxBytes retries : Nat) :
    (a.stableCapture maxBytes retries).2.2 ≠ [] := by
  unfold Actor.stableCapture
  (repeat' split) <;> exact List.cons_ne_nil _ _

theorem captureSource_reads (a : Actor β) (id : Option HandoffId) (maxBytes : Nat) :
    (a.captureSource id a.currentToken maxBytes).event = .skipped id .staleAuthoritySession ∨
      (a.captureSource id a.currentToken maxBytes).acts ≠ [] := by
  have acts := stableCapture_acts a maxBytes sourceChangeRetries
  unfold Actor.captureSource
  rw [if_neg (by simp)]
  split
  · exact .inl rfl
  generalize a.stableCapture maxBytes sourceChangeRetries = captured at acts
  obtain ⟨result, a', acts'⟩ := captured
  refine .inr ?_
  rcases result with (reason | reason) | data
  · exact acts
  · exact acts
  · dsimp only
    split
    · exact acts
    · cases id <;> exact acts

structure CaptureLaw (server : HostId) (trace : List (HostEntry β)) : Prop where
  asked : ∀ e ∈ trace, ∀ links transition target c b c', e.input = .hook links (.begin transition target) →
    e.pre.core.coordinator = some c → c.beginHandoff target = (.ok b, c') → c'.active.isSome = true →
    c.currentToken.ownerHostId = server →
    .captureSource b.handoffId b.sourceToken c.maxBytes.toNat ∈ commandsOf e.output.effects
  current : ∀ e ∈ trace, ∀ id token maxBytes queue, e.input = .work →
    e.pre.queue = .captureSource id token maxBytes :: queue → ∃ t reply, e.pre.thread = some t ∧
      e.output.reply = some reply ∧ t.actor.currentToken = token ∧
      (reply.event = .skipped (some id) .staleOwnerToken → reply.acts ≠ [])

theorem server_captures_are_current {config : ClipboardConfig} {server : HostId} {session : ProcessSessionId}
    {authoritySession : AuthoritySessionId} {backend : β} {observed : NativeGeneration}
      {trace : List (HostEntry β)}
    (run : Run authorityHost (.ready config server session authoritySession backend observed) trace s)
    (attended : ∀ e ∈ trace, e.Attended) (along : ∀ e ∈ trace, e.returnsAlong = true) :
    CaptureLaw server trace := by
  have mirrored {e : HostEntry β} (member : e ∈ trace) :
      Mirrored server e.pre ∧ e.pre.step e.input = some (e.post, e.output) := by
    obtain ⟨before, after, here⟩ := List.append_of_mem member
    obtain ⟨earlier, step, -⟩ := run.split here
    refine ⟨mirrored_of_run (mirrored_ready _ _ _ _ _ _) earlier (fun e' member' => attended e' ?_)
      (fun e' member' => along e' ?_), step⟩ <;> simp [here, member']
  refine ⟨?_, ?_⟩
  · intro e member links transition target c b c' input own begun active owned
    obtain ⟨mirrored, step⟩ := mirrored member
    rw [input] at step
    obtain ⟨-, output⟩ := Prod.mk.inj (Option.some.inj step)
    have authority := coordinator_eq_some.mp own
    rcases @begin_turns links e.pre.core c authority transition target with
      ⟨⟨error, refused⟩, -⟩ | ⟨b', c'', begun', begins, turns⟩
    · exact absurd (begun.symm.trans refused) (by simp)
    obtain ⟨rfl, rfl⟩ : b' = b ∧ c'' = c' := by simpa using begun'.symm.trans begun
    have orders := turns.carries.all ⟨mirrored.installed, (attended e member).accepts links
      (by rw [input]; rfl)⟩
    have calls : c.calls (some (.beginHandoff target)) = (c'', b'.commands) := by
      simp only [calls, perform, begun, CoordinatorReply.commands]
    simp only [answering, calls, mirrored.localHost] at orders
    have asked : .captureSource b'.handoffId b'.sourceToken c.maxBytes.toNat ∈
        ordersOf (e.pre.core.begin links transition target).2 := by
      rcases begins.outcome with ⟨_, _, -, -, -, -, commands, -⟩ | ⟨inactive, -⟩
      · rw [orders, commands, begins.sourceToken]
        simp [CoordinatorCommand.orders, owned]
      · simp [inactive] at active
    rw [← output]
    exact (List.mem_filter.mp asked).1
  intro e member id token maxBytes queue input next
  obtain ⟨mirrored, step⟩ := mirrored member
  obtain ⟨c, authority⟩ := mirrored.authority
  rw [input] at step
  cases AuthorityHost.step_moves authority step with
  | worked t t' command reply call was taken answer is output =>
    obtain ⟨rfl, -⟩ := List.cons.inj (taken.symm.trans next)
    obtain ⟨r, steps⟩ := ActorThread.step_cases answer
    obtain ⟨-, inTurn, -⟩ := mirrored.follows t was steps.running
    rw [next] at inTurn
    have current : t.actor.currentToken = token := inTurn.1 id token maxBytes rfl
    refine ⟨t, reply, was, by rw [output], current, ?_⟩
    rw [steps.event, steps.acts, steps.handled]
    intro skips
    subst current
    rcases captureSource_reads t.actor (some id) maxBytes with other | reads
    · exact absurd (skips.symm.trans other) (by simp)
    · exact reads
  | hooked links hook call | answered links brought contact turned linked | lost call | retried call
  | installed backend host token observed call => contradiction

end Runs

section Fixed

def soloHost : AuthorityHost Pasteboard := .ready ⟨true, 64⟩ "server" 1 7 ⟨3, .text [104]⟩ 3

def HostEntry.captures {β : Type} (answer : HandoffId → ActorReply → Bool) (e : HostEntry β) : Bool :=
  match e.input, e.pre.queue with
  | .work, .captureSource id _ _ :: _ => e.output.reply.any (answer id)
  | _, _ => false

theorem attended_of_free {β : Type} {trace : List (HostEntry β)}
    (free : ∀ i ∈ trace.map (·.input), i ≠ .lost ∧ (i.links? = none ∨ i.links? = some .free)) :
    ∀ e ∈ trace, HostEntry.Attended e := by
  intro e member
  obtain ⟨kept, linked⟩ := free e.input (List.mem_map_of_mem member)
  refine ⟨kept, fun links is command => ?_⟩
  rcases linked with none | some
  · exact absurd (none.symm.trans is) nofun
  · obtain rfl := Option.some.inj (some.symm.trans is)
    rfl

theorem return_captured_again : ∃ trace s, Run authorityHost soloHost trace s ∧ CaptureLaw "server" trace ∧
    trace.any (HostEntry.captures fun id reply =>
      reply.event = .captured id ⟨7, 2, "server"⟩ ⟨1, 2⟩ .text 1) = true := by
  obtain ⟨trace, s, run, inputs, along, captured⟩ := authorityHost.exists_run_on soloHost
    [.connected .free 1 ⟨"mac", 2, 1, 64⟩, .hook .free (.begin (.outgoing 1) "mac"), .work,
      .hook .free (.activate (.outgoing 1)), .hook .free (.begin (.fallback 1) "server"), .work, .work,
      .hook .free (.activate (.fallback 1)), .hook .free (.begin (.outgoing 2) "mac"), .work, .work, .work]
    (fun trace _ => (∀ e ∈ trace, HostEntry.returnsAlong e = true) ∧
      trace.any (HostEntry.captures fun id reply =>
        reply.event = .captured id ⟨7, 2, "server"⟩ ⟨1, 2⟩ .text 1) = true)
    (by decide +kernel)
  refine ⟨trace, s, run, server_captures_are_current run (attended_of_free ?_) along, captured⟩
  rw [inputs]
  simp [HostInput.links?]

/-- The clipboard comes back while its owner is away: the coordinator takes the token, the actor
is not told, and the next capture on this host is refused. -/
theorem return_without_peer_refused : ∃ trace s, Run authorityHost soloHost trace s ∧
    (∀ e ∈ trace, HostEntry.Attended e) ∧ ¬CaptureLaw "server" trace ∧
    trace.any (HostEntry.captures fun id reply =>
      reply = ⟨.skipped (some id) .staleOwnerToken, []⟩) = true := by
  obtain ⟨trace, s, run, inputs, refused⟩ := authorityHost.exists_run_on soloHost
    [.connected .free 1 ⟨"mac", 2, 1, 64⟩, .hook .free (.begin (.outgoing 1) "mac"), .work,
      .hook .free (.activate (.outgoing 1)), .disconnected .free "mac" 2 1,
      .hook .free (.begin (.fallback 1) "server"), .hook .free (.activate (.fallback 1)),
      .connected .free 2 ⟨"mac", 2, 1, 64⟩, .hook .free (.begin (.outgoing 2) "mac"), .work, .work]
    (fun trace _ => trace.any (HostEntry.captures fun id reply =>
      reply = ⟨.skipped (some id) .staleOwnerToken, []⟩) = true)
    (by decide +kernel)
  refine ⟨trace, s, run, attended_of_free ?_, fun law => ?_, refused⟩
  · rw [inputs]
    simp [HostInput.links?]
  obtain ⟨e, member, captures⟩ := List.any_eq_true.mp refused
  unfold HostEntry.captures at captures
  split at captures
  · rename_i id token maxBytes queue input next
    obtain ⟨reply, given, is⟩ := Option.any_eq_true _ _ |>.mp captures
    obtain ⟨t, reply', -, given', -, reads⟩ := law.current e member id token maxBytes queue input next
    obtain rfl := Option.some.inj (given.symm.trans given')
    rw [of_decide_eq_true is] at reads
    exact reads rfl rfl
  · contradiction

end Fixed

end DisplayMux.Clipboard
