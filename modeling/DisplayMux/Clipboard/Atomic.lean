import DisplayMux.Clipboard.Publication

/-! What a failed call of the coordinator leaves behind. Only an activation can fail after
it has changed something. -/
namespace DisplayMux.Clipboard

namespace Coordinator

def Matched (c : Coordinator) : Prop :=
  ∀ p h, c.pendingOwnership = some p → c.active = some h → h.id = p.handoffId ∧ h.targetToken = p.targetToken

/-- The pending handoff is activated with a session that is not the one of its target. -/
def Misdirected (c : Coordinator) (op : CoordinatorOp) : Prop :=
  ∃ id token session h, op = .ownershipActivated id token session ∧
    c.pendingOwnership = some ⟨id, token⟩ ∧ c.active = some h ∧ h.targetProcessSessionId ≠ session

variable {c c' : Coordinator} {op : CoordinatorOp} {reply : CoordinatorReply} {error : CoordinatorError}

theorem Matched.step (matched : c.Matched) (transfers : Transfers c op reply c')
    (handles : Handles c op reply c') : c'.Matched := by
  intro p h' waits is
  cases transfers with
  | began targetHost b call answer begins =>
    obtain rfl := Option.some.inj (begins.pending.symm.trans waits)
    exact begins.active_eq is
  | activated id session call quiet was same | aborted id call quiet same =>
    exact absurd (same.pending.symm.trans waits) nofun
  | kept quiet refused same =>
    have waits := same.pending.symm.trans waits
    cases handles with
    | began targetHost b call answer begins =>
      rw [answer] at quiet
      contradiction
    | idle _ _ _ _ active => exact matched p h' waits (active ▸ is)
    | progressed h h₁ _ _ progress =>
      obtain rfl := Option.some.inj (progress.is.symm.trans is)
      have parties := progress.parties.trans (ActiveHandoff.publishIfReady_parties h₁)
      rw [parties.id, parties.targetToken]
      exact matched p h waits progress.was
    | ended h result _ _ _ _ _ inactive => exact absurd (inactive.symm.trans is) nofun

theorem matched_of_run {enabled : Bool} {authority : AuthoritySessionId} {server : HostId}
    {session : ProcessSessionId} {maxBytes : UInt64} {trace : List CoordinatorEntry}
    (run : Run coordinator (.new enabled authority server session maxBytes) trace c) : c.Matched := by
  refine run.history (P := fun _ c => c.Matched) (by intro p h waits; cases waits) ?_
  intro trace c op c' reply earlier matched step
  obtain ⟨rfl, rfl⟩ := coordinator_step.mp step
  exact matched.step (perform_transfers c op) (perform_handles (chronicle_of_run earlier).publishing.prompt)

theorem ownershipActivated_takes {id : HandoffId} {token : OwnershipToken} (session : ProcessSessionId)
    (waits : c.pendingOwnership = some ⟨id, token⟩) :
    (c.ownershipActivated id token session).2.pendingOwnership = none := by
  simp only [ownershipActivated, waits, ne_eq, not_true_eq_false, if_false]
  (repeat' split) <;> rfl

theorem failed_cases (matched : c.Matched) (performs : Performs c op (.failed error) c') :
    c' = c ∨ c.Misdirected op := by
  cases performs with
  | refused => exact .inl rfl
  | misled waits was other =>
    -- the pending handoff is the active one, so neither its id nor its token is stale
    obtain ⟨sameId, sameToken⟩ := matched _ _ waits was
    exact .inr ⟨_, _, _, _, rfl, waits, was, fun session => other ⟨sameId, sameToken, session⟩⟩

end Coordinator

/-- A call that fails leaves the coordinator as it was, unless it activates the pending
handoff for another session than the one its target had when it was begun. -/
theorem failed_call_keeps_state_iff {enabled : Bool} {authority : AuthoritySessionId} {server : HostId}
    {session : ProcessSessionId} {maxBytes : UInt64} {trace : List CoordinatorEntry} {c c' : Coordinator}
    {op : CoordinatorOp} {error : CoordinatorError}
    (run : Run coordinator (.new enabled authority server session maxBytes) trace c)
    (failed : c.perform op = (c', .failed error)) : c' = c ↔ ¬ c.Misdirected op := by
  constructor
  · rintro rfl ⟨id, token, session, h, rfl, waits, -⟩
    have taken := Coordinator.ownershipActivated_takes session waits
    have same : (c'.ownershipActivated id token session).2 = c' := congrArg Prod.fst failed
    rw [same, waits] at taken
    cases taken
  · intro directed
    have performs := c.perform_performs op
    rw [failed] at performs
    exact (Coordinator.failed_cases (Coordinator.matched_of_run run) performs).resolve_right directed

/-- An activation under the id of another handoff fails, and the handoff that is under way
stays active and pending. -/
theorem stale_activation_keeps_state : ∃ trace c,
    Run coordinator (.new true 7 "server" 1 64) trace c ∧ c.active ≠ none ∧
      c.pendingOwnership = some ⟨⟨7, 1⟩, ⟨7, 1, "mac"⟩⟩ ∧
      c.perform (.ownershipActivated ⟨7, 2⟩ ⟨7, 1, "mac"⟩ 2) = (c, .failed .staleHandoff) := by
  obtain ⟨trace, c, run, active, waits, failed⟩ := coordinator.exists_run (.new true 7 "server" 1 64)
    [.setProcessSession "mac" 2, .beginHandoff "mac"]
    (fun _ c => c.active ≠ none ∧ c.pendingOwnership = some ⟨⟨7, 1⟩, ⟨7, 1, "mac"⟩⟩ ∧
      (c.perform (.ownershipActivated ⟨7, 2⟩ ⟨7, 1, "mac"⟩ 2)).2 = .failed .staleHandoff)
    (by decide +kernel)
  have directed : ¬ c.Misdirected (.ownershipActivated ⟨7, 2⟩ ⟨7, 1, "mac"⟩ 2) := by
    rintro ⟨_, _, _, _, ⟨⟩, other, -⟩
    cases waits.symm.trans other
  have same := (failed_call_keeps_state_iff run (Prod.ext rfl failed)).mpr directed
  exact ⟨trace, c, run, active, waits, Prod.ext same failed⟩

/-- The target's session is not the one that the activation names: the call fails, and yet
the clipboard has a new owner and nothing is pending. -/
theorem failed_activation_moves_ownership : ∃ trace c c',
    Run coordinator (.new true 7 "server" 1 64) trace c ∧
      c.perform (.ownershipActivated ⟨7, 1⟩ ⟨7, 1, "mac"⟩ 3) =
        (c', .failed .staleProcessSession) ∧
      c.currentToken.ownerHostId = "server" ∧ c'.currentToken.ownerHostId = "mac" ∧
      c.pendingOwnership ≠ none ∧ c'.pendingOwnership = none := by
  obtain ⟨trace, c, run, failed, moved⟩ := coordinator.exists_run (.new true 7 "server" 1 64)
    [.setProcessSession "mac" 2, .beginHandoff "mac"]
    (fun _ c => let after := c.perform (.ownershipActivated ⟨7, 1⟩ ⟨7, 1, "mac"⟩ 3)
      after.2 = .failed .staleProcessSession ∧ c.currentToken.ownerHostId = "server" ∧
      after.1.currentToken.ownerHostId = "mac" ∧ c.pendingOwnership ≠ none ∧
      after.1.pendingOwnership = none) (by decide +kernel)
  exact ⟨trace, c, _, run, Prod.ext rfl failed, moved⟩

end DisplayMux.Clipboard
