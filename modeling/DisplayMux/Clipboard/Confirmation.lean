import DisplayMux.Clipboard.Publication

/-! When a published snapshot can still be confirmed. -/
namespace DisplayMux.Clipboard

open ActiveHandoff Coordinator

/-- The snapshot of the last capture that was accepted for the handoff. -/
def lastCaptured (trace : List CoordinatorEntry) (id : HandoffId) : Option SnapshotId :=
  ((captures trace).filter (·.1 = id)).getLast?.map (·.2.2.2)

variable {trace before after : List CoordinatorEntry} {e : CoordinatorEntry} {c c' : Coordinator}
  {op : CoordinatorOp} {reply : CoordinatorReply} {id : HandoffId}

theorem lastCaptured_append :
    lastCaptured (before ++ after) id = (lastCaptured after id).or (lastCaptured before id) := by
  simp only [lastCaptured, captures, List.filterMap_append, List.filter_append, List.getLast?_append]
  generalize (List.filter _ (after.filterMap _)).getLast? = late
  cases late <;> rfl

theorem lastCaptured_uncaptured (uncaptured : capture e.input e.output = none) :
    lastCaptured (trace ++ [e]) id = lastCaptured trace id := by
  simp [lastCaptured, captures, uncaptured]

/-- The active handoff holds the snapshot that was captured last for it. -/
def Latest (trace : List CoordinatorEntry) (c : Coordinator) : Prop :=
  ∀ h, c.active = some h → h.snapshot.map (·.snapshotId) = lastCaptured trace h.id

theorem publishIfReady_snapshot (h : ActiveHandoff) : h.publishIfReady.1.snapshot = h.snapshot := by
  rcases h.publishIfReady_cases with ⟨same, -⟩ | ⟨_, _, -, -, -, same⟩ <;> rw [same]

theorem Latest.step (latest : Latest trace c) (publishing : Publishing trace c)
    (handles : Handles c op reply c') (fresh : ∀ b, reply.begun? = some b → b.handoffId ∉ begunIds trace) :
    Latest (trace ++ [⟨c, op, reply, c'⟩]) c' := by
  intro h' is
  cases handles with
  | began targetHost b call answer begins =>
    subst call answer
    rcases begins.outcome with ⟨_, _, -, -, -, active, -⟩ | ⟨inactive, -⟩
    · rw [active] at is
      obtain rfl := Option.some.inj is
      have uncaptured : (captures trace).filter (·.1 = b.handoffId) = [] := by
        refine List.filter_eq_nil_iff.mpr (fun taken member own => fresh b rfl ?_)
        exact publishing.capturedKnown _ (List.mem_map.mpr ⟨taken, member, of_decide_eq_true own⟩)
      rw [lastCaptured_uncaptured rfl]
      simp [lastCaptured, uncaptured]
    · simp [inactive] at is
  | idle quiet unprepared uncaptured silent same =>
    rw [lastCaptured_uncaptured uncaptured]
    exact latest h' (same ▸ is)
  | progressed h h₁ activation quiet progress =>
    obtain rfl := Option.some.inj (progress.is.symm.trans is)
    rw [publishIfReady_snapshot, (publishIfReady_parties h₁).id, progress.parties.id]
    rcases progress.captured with ⟨uncaptured, same⟩ | ⟨snapshot, taken, captured⟩
    · rw [lastCaptured_uncaptured uncaptured, same]
      exact latest h progress.was
    · simp [taken, lastCaptured, captures, captured]
  | ended h result quiet unprepared uncaptured cancels was inactive => simp [inactive] at is

section Runs

variable {enabled : Bool} {authority : AuthoritySessionId} {server : HostId} {session : ProcessSessionId}
  {maxBytes : UInt64}

theorem latest_of_run (run : Run coordinator (.new enabled authority server session maxBytes) trace c) :
    Latest trace c := by
  refine run.history (P := Latest) (by simp [Latest, Coordinator.new]) ?_
  intro trace c op c' reply run latest step
  have chronicle := chronicle_of_run run
  have handles := (chronicle.step (ledger_of_run run) step).1
  exact latest.step chronicle.publishing handles (fresh_of_ledger (ledger_of_run run) handles)

/-- A published snapshot can be confirmed exactly if no other snapshot was captured for its handoff
after it was published. -/
theorem published_confirmed_iff {h : ActiveHandoff} {snapshotId : SnapshotId}
    (run : Run coordinator (.new enabled authority server session maxBytes) trace c)
    (here : trace = before ++ e :: after) (emitted : .publishSnapshot h.id snapshotId ∈ e.output.commands)
    (active : c.active = some h) (activated : h.targetActivated = true) :
    c.perform (.applied h.id snapshotId) =
        ({ c with active := none, lastTerminal := some (h.id, .ok ()) }, .done []) ↔
      ∀ other, lastCaptured after h.id = some other → other = snapshotId := by
  obtain ⟨earlier, step, -⟩ := run.split here
  obtain ⟨handles, -⟩ := (chronicle_of_run earlier).step (ledger_of_run earlier) step
  obtain ⟨_, h₁, -, -, is, own, -, sent⟩ := handles.publishes emitted
  have since : lastCaptured (before ++ [e]) h.id = some snapshotId := by
    rw [← sent, ← own]
    exact (latest_of_run (earlier.snoc step) h₁ is).symm
  have now : h.snapshot.map (·.snapshotId) = (lastCaptured after h.id).or (some snapshotId) := by
    rw [latest_of_run run h active, here, List.append_cons, lastCaptured_append, since]
  have done : c.perform (.applied h.id snapshotId) =
        ({ c with active := none, lastTerminal := some (h.id, .ok ()) }, .done []) ↔
      h.snapshot.map (·.snapshotId) = some snapshotId := by
    have found : c.matchActive h.id = some h := matchActive_eq_some.mpr ⟨active, rfl⟩
    by_cases same : h.snapshot.map (·.snapshotId) = some snapshotId
    · simp [perform, applied, found, activated, same]
      rfl
    · simp [perform, applied, found, activated, same, CoordinatorReply.ofResult, Except.map]
  rw [done, now]
  cases lastCaptured after h.id <;> simp

end Runs

def publishedOnce : List CoordinatorOp :=
  [.setProcessSession "mac" 2, .beginHandoff "mac",
    .targetPrepared ⟨7, 1⟩ ⟨7, 1, "mac"⟩ 2 9,
    .sourceCaptured ⟨7, 1⟩ ⟨7, 0, "server"⟩ 1 ⟨⟨1, 5⟩, .text, 8⟩,
    .ownershipActivated ⟨7, 1⟩ ⟨7, 1, "mac"⟩ 2]

theorem published_confirmed_after_activation : ∃ before e after c h,
    Run coordinator (.new true 7 "server" 1 64) (before ++ e :: after) c ∧
      .publishSnapshot h.id ⟨1, 5⟩ ∈ e.output.commands ∧ c.active = some h ∧ h.targetActivated = true ∧
      c.perform (.applied h.id ⟨1, 5⟩) =
        ({ c with active := none, lastTerminal := some (h.id, .ok ()) }, .done []) := by
  obtain ⟨trace, c, run, checked⟩ := coordinator.exists_run (.new true 7 "server" 1 64) publishedOnce
    (fun trace c => c.active.any fun h => h.targetActivated ∧ (h.id, ⟨1, 5⟩) ∈ published trace ∧
      captures trace = [(h.id, ⟨7, 0, "server"⟩, 1, ⟨1, 5⟩)]) (by decide +kernel)
  obtain ⟨h, active, held⟩ := Option.any_eq_true _ _ |>.mp checked
  obtain ⟨activated, emitted, once⟩ := of_decide_eq_true held
  obtain ⟨e, member, emitted⟩ := List.mem_flatMap.mp emitted
  obtain ⟨command, issued, publishes⟩ := List.mem_filterMap.mp emitted
  obtain ⟨before, after, rfl⟩ := List.append_of_mem member
  have command : command = .publishSnapshot h.id ⟨1, 5⟩ := by
    cases command <;> simp_all [CoordinatorCommand.publication?]
  refine ⟨before, e, after, c, h, run, command ▸ issued, active, activated, ?_⟩
  refine (published_confirmed_iff run rfl (command ▸ issued) active activated).mpr (fun other late => ?_)
  obtain ⟨taken, last, rfl⟩ := Option.map_eq_some_iff.mp late
  have among : taken ∈ captures (before ++ e :: after) := by
    rw [captures, List.append_cons, List.filterMap_append]
    exact List.mem_append_right _ (List.mem_filter.mp (List.mem_of_getLast? last)).1
  simp only [once, List.mem_singleton] at among
  rw [among]

/-- A second capture is accepted after the first one was published and takes its place. -/
theorem recaptured_snapshot_unconfirmed : ∃ trace c,
    Run coordinator (.new true 7 "server" 1 64) trace c ∧
      (⟨7, 1⟩, ⟨1, 5⟩) ∈ published trace ∧
      (c.active.any fun h => h.id = ⟨7, 1⟩ ∧ h.targetActivated) = true ∧
      (c.perform (.applied ⟨7, 1⟩ ⟨1, 5⟩)).2 = .failed .invalidSnapshot :=
  coordinator.exists_run (.new true 7 "server" 1 64) (publishedOnce ++
    [.sourceCaptured ⟨7, 1⟩ ⟨7, 0, "server"⟩ 1 ⟨⟨1, 6⟩, .text, 8⟩]) _ (by decide +kernel)

end DisplayMux.Clipboard
