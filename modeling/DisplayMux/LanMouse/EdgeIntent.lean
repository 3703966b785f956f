import Mathlib.Data.List.Induction
import DisplayMux.LanMouse.Capture
import DisplayMux.LanMouse.Lease

/-! A switch needs two contacts with the edge. The first contact primes an intent, the
pointer retreats, and only the second contact confirms. -/
namespace DisplayMux.LanMouse

structure EdgeIntentKey where
  handle : CaptureHandle
  target : SwitchHost
  peerSessionEpoch : UInt64
  deriving DecidableEq, Repr

inductive EdgeIntentDecision where
  | primed | awaitingRetreat | confirmed
  deriving DecidableEq, Repr

structure EdgeIntent where
  key : EdgeIntentKey
  rearmed : Bool
  expiresAt : Nat
  deriving DecidableEq, Repr

open EdgeIntent

structure EdgeIntentGate where
  validFor : Nat
  intent : Option EdgeIntent
  deriving DecidableEq, Repr

open EdgeIntentGate

namespace EdgeIntentGate

def new (validFor : Nat) : EdgeIntentGate := ⟨validFor, none⟩

def clear (g : EdgeIntentGate) : EdgeIntentGate := { g with intent := none }

def expire (g : EdgeIntentGate) (now : Nat) : EdgeIntentGate :=
  if g.intent.any (·.expiresAt ≤ now) then g.clear else g

/-- The end of a window that opens now, unless no instant is that late. -/
def expiry (g : EdgeIntentGate) (now : Nat) : Option Nat :=
  if now + g.validFor ≤ instantMax then some (now + g.validFor) else none

def prime (g : EdgeIntentGate) (key : EdgeIntentKey) (now : Nat) : EdgeIntentGate :=
  { g with intent := (g.expiry now).map (⟨key, false, ·⟩) }

def candidate (g : EdgeIntentGate) (key : EdgeIntentKey) (now : Nat) :
    EdgeIntentDecision × EdgeIntentGate :=
  let g := g.expire now
  match g.intent with
  | some intent =>
    if intent.key = key then
      if intent.rearmed then (.confirmed, g.clear) else (.awaitingRetreat, g)
    else (.primed, g.prime key now)
  | none => (.primed, g.prime key now)

def retreat (g : EdgeIntentGate) (handle : CaptureHandle) (now : Nat) : Bool × EdgeIntentGate :=
  let g := g.expire now
  match g.expiry now with
  | none => (false, g.clear)
  | some expiresAt =>
    match g.intent with
    | none => (false, g)
    | some intent =>
      if intent.key.handle ≠ handle then (false, g)
      else (true, { g with intent := some { intent with rearmed := true, expiresAt } })

def remove (g : EdgeIntentGate) (handle : CaptureHandle) : EdgeIntentGate :=
  if g.intent.any (·.key.handle = handle) then g.clear else g

end EdgeIntentGate

inductive EdgeIntentCall where
  | candidate (key : EdgeIntentKey) (now : Nat)
  | retreat (handle : CaptureHandle) (now : Nat)
  | remove (handle : CaptureHandle)
  | clear
  deriving DecidableEq, Repr

inductive EdgeIntentReply where
  | decided (decision : EdgeIntentDecision)
  | rearmed (accepted : Bool)
  | done
  deriving DecidableEq, Repr

def EdgeIntentCall.time? : EdgeIntentCall → Option Nat
  | .candidate _ now | .retreat _ now => some now
  | .remove _ | .clear => none

def EdgeIntentGate.answer (g : EdgeIntentGate) : EdgeIntentCall → EdgeIntentGate × EdgeIntentReply
  | .candidate key now =>
    let (decision, g') := g.candidate key now
    (g', .decided decision)
  | .retreat handle now =>
    let (accepted, g') := g.retreat handle now
    (g', .rearmed accepted)
  | .remove handle => (g.remove handle, .done)
  | .clear => (g.clear, .done)

def edgeIntentGate : Machine EdgeIntentGate EdgeIntentCall EdgeIntentReply where
  step g call := some (g.answer call)

abbrev EdgeIntentEntry := Entry EdgeIntentGate EdgeIntentCall EdgeIntentReply

def callTimes (trace : List EdgeIntentEntry) : List Nat := trace.filterMap (·.input.time?)

/-- The retreats of `handle` that each came before the expiry current at that point. The
contact at `opened` sets the first expiry, and every such retreat sets a new one. -/
def retreats (validFor : Nat) (handle : CaptureHandle) (opened : Nat)
    (between : List EdgeIntentEntry) : List Nat :=
  between.foldl (fun accepted e =>
    match e.input with
    | .retreat other now =>
      if other = handle ∧ now < accepted.getLastD opened + validFor then accepted ++ [now]
      else accepted
    | _ => accepted) []

def EdgeIntentEntry.Breaks (e : EdgeIntentEntry) (key : EdgeIntentKey) : Prop :=
  e.output = .decided .confirmed ∨ e.input = .clear ∨ e.input = .remove key.handle ∨
    ∃ other now, e.input = .candidate other now ∧ other ≠ key

/-- The contact `p` at `opened` is answered by a retreat in time, and nothing has ended
its intent at `now`. -/
structure Answered (validFor : Nat) (key : EdgeIntentKey) (opened now : Nat) (p : EdgeIntentEntry)
    (between : List EdgeIntentEntry) : Prop where
  contact : p.input = .candidate key opened
  primed : p.output = .decided .primed
  retreated : ∃ first last, (retreats validFor key.handle opened between).head? = some first ∧
    (retreats validFor key.handle opened between).getLast? = some last ∧
    first < opened + validFor ∧ now < last + validFor
  unbroken : ∀ x ∈ between, ¬ x.Breaks key

section Calls

variable {g g' : EdgeIntentGate} {call : EdgeIntentCall} {reply : EdgeIntentReply} {now : Nat}
  {i j : EdgeIntent}

namespace EdgeIntentGate

@[simp] theorem expire_intent (g : EdgeIntentGate) (now : Nat) :
    (g.expire now).intent = g.intent.filter (now < ·.expiresAt) := by
  unfold expire
  cases pending : g.intent with
  | none => simp [pending]
  | some intent =>
    by_cases late : intent.expiresAt ≤ now
    · simp [late, clear, Option.filter]
    · simp [pending, late, Option.filter]

@[simp] theorem expire_validFor (g : EdgeIntentGate) (now : Nat) :
    (g.expire now).validFor = g.validFor := by
  unfold expire clear
  split <;> rfl

theorem expire_of_lt (pending : g.intent = some j) (early : now < j.expiresAt) :
    g.expire now = g := by
  simp [expire, pending, Nat.not_le.mpr early]

theorem candidate_cases (g : EdgeIntentGate) (key : EdgeIntentKey) (now : Nat) :
    (∃ j, g.intent = some j ∧ now < j.expiresAt ∧ j.key = key ∧ j.rearmed = true ∧
      g.candidate key now = (.confirmed, g.clear)) ∨
    (∃ j, g.intent = some j ∧ now < j.expiresAt ∧ j.key = key ∧ j.rearmed = false ∧
      g.candidate key now = (.awaitingRetreat, g)) ∨
    ((∀ j, g.intent = some j → j.key = key → j.expiresAt ≤ now) ∧
      g.candidate key now = (.primed, (g.expire now).prime key now)) := by
  cases pending : g.intent with
  | none => simp [candidate, pending]
  | some j =>
    by_cases early : now < j.expiresAt
    · have live := expire_of_lt pending early
      by_cases same : j.key = key
      · cases rearmed : j.rearmed with
        | true => exact .inl ⟨j, rfl, early, same, rearmed, by simp [candidate, live, pending, same, rearmed]⟩
        | false =>
          exact .inr (.inl ⟨j, rfl, early, same, rearmed, by simp [candidate, live, pending, same, rearmed]⟩)
      · refine .inr (.inr ⟨?_, by simp [candidate, live, pending, same]⟩)
        rintro _ ⟨⟩ same'
        exact absurd same' same
    · refine .inr (.inr ⟨?_, by simp [candidate, pending, early, Option.filter]⟩)
      rintro _ ⟨⟩ -
      exact Nat.le_of_not_lt early

theorem candidate_confirmed {key : EdgeIntentKey} :
    (g.candidate key now).1 = .confirmed ↔
      ∃ j, g.intent = some j ∧ j.key = key ∧ j.rearmed = true ∧ now < j.expiresAt := by
  constructor
  · intro confirmed
    rcases g.candidate_cases key now with ⟨j, pending, early, same, rearmed, -⟩ | ⟨_, _, _, _, _, result⟩ |
      ⟨-, result⟩
    · exact ⟨j, pending, same, rearmed, early⟩
    · simp [result] at confirmed
    · simp [result] at confirmed
  · rintro ⟨j, pending, same, rearmed, early⟩
    simp [candidate, expire_of_lt pending early, pending, same, rearmed]

theorem retreat_cases (g : EdgeIntentGate) (handle : CaptureHandle) (now : Nat) :
    (∃ j, g.intent = some j ∧ now < j.expiresAt ∧ j.key.handle = handle ∧
      now + g.validFor ≤ instantMax ∧ g.retreat handle now =
        (true, { g with intent := some { j with rearmed := true, expiresAt := now + g.validFor } })) ∨
    (∃ j, g.intent = some j ∧ now < j.expiresAt ∧ j.key.handle ≠ handle ∧
      g.retreat handle now = (false, g)) ∨
    (g.retreat handle now).2.intent = none := by
  cases pending : g.intent with
  | none => 
    simp only [retreat, expire_intent, pending, Option.filter]
    split <;> simp [clear, pending]
  | some j =>
    by_cases early : now < j.expiresAt
    · have live := expire_of_lt pending early
      by_cases fits : now + g.validFor ≤ instantMax
      · by_cases same : j.key.handle = handle
        · exact .inl ⟨j, rfl, early, same, fits, by simp [retreat, live, expiry, fits, pending, same]⟩
        · exact .inr (.inl ⟨j, rfl, early, same, by simp [retreat, live, expiry, fits, pending, same]⟩)
      · exact .inr (.inr (by simp [retreat, live, expiry, fits, clear]))
    · refine .inr (.inr ?_)
      simp only [retreat, expire_intent, pending, Option.filter, early]
      split <;> simp [clear, pending, Option.filter, early]

theorem answer_candidate (g : EdgeIntentGate) (key : EdgeIntentKey) (now : Nat) :
    g.answer (.candidate key now) = ((g.candidate key now).2, .decided (g.candidate key now).1) := rfl

theorem answer_validFor (answered : g.answer call = (g', reply)) : g'.validFor = g.validFor := by
  obtain rfl : (g.answer call).1 = g' := by rw [answered]
  cases call with
  | candidate key now =>
    simp only [answer, candidate, prime, clear]
    repeat' split
    all_goals simp
  | retreat handle now =>
    simp only [answer, retreat, clear]
    repeat' split
    all_goals simp
  | remove handle =>
    simp only [answer, remove, clear]
    split <;> rfl
  | clear => rfl

end EdgeIntentGate

def EdgeIntent.after (i : EdgeIntent) (validFor : Nat) : EdgeIntentCall → EdgeIntent
  | .retreat handle now =>
    if handle = i.key.handle ∧ now < i.expiresAt then
      { i with rearmed := true, expiresAt := now + validFor }
    else i
  | _ => i

theorem EdgeIntent.after_late {validFor : Nat} (late : ∀ now ∈ call.time?, i.expiresAt ≤ now) :
    i.after validFor call = i := by
  cases call with
  | candidate | remove | clear => rfl
  | retreat handle now =>
    have passed := late now rfl
    rw [after, if_neg (by omega)]

@[simp] theorem EdgeIntent.after_key (i : EdgeIntent) (validFor : Nat) (call : EdgeIntentCall) :
    (i.after validFor call).key = i.key := by
  unfold after
  repeat' split
  all_goals rfl

theorem intent_left (answered : g.answer call = (g', reply)) (left : g'.intent = some i) :
    (∃ now, call = .candidate i.key now ∧ reply = .decided .primed ∧
      i = ⟨i.key, false, now + g.validFor⟩) ∨
    ∃ j, g.intent = some j ∧ i = j.after g.validFor call ∧
      ¬ EdgeIntentEntry.Breaks ⟨g, call, reply, g'⟩ j.key := by
  cases call with
  | candidate key now =>
    rcases g.candidate_cases key now with ⟨j, pending, early, rfl, rearmed, result⟩ |
      ⟨j, pending, early, rfl, rearmed, result⟩ | ⟨-, result⟩
    all_goals
      simp only [answer, result, Prod.mk.injEq] at answered
      obtain ⟨rfl, rfl⟩ := answered
    · simp [clear] at left
    · obtain rfl := Option.some.inj (pending.symm.trans left)
      exact .inr ⟨j, pending, rfl, by simp [EdgeIntentEntry.Breaks]⟩
    · simp only [prime, expiry, Option.map_eq_some_iff] at left
      obtain ⟨_, fits, rfl⟩ := left
      exact .inl ⟨now, rfl, rfl, by simp at fits; simp [fits.2]⟩
  | retreat handle now =>
    rcases g.retreat_cases handle now with ⟨j, pending, early, rfl, fits, result⟩ |
      ⟨j, pending, early, other, result⟩ | gone
    · simp only [answer, result, Prod.mk.injEq] at answered
      obtain ⟨rfl, rfl⟩ := answered
      obtain rfl := Option.some.inj left
      exact .inr ⟨j, pending, by simp [after, early], by simp [EdgeIntentEntry.Breaks]⟩
    · simp only [answer, result, Prod.mk.injEq] at answered
      obtain ⟨rfl, rfl⟩ := answered
      obtain rfl := Option.some.inj (pending.symm.trans left)
      refine .inr ⟨j, pending, ?_, by simp [EdgeIntentEntry.Breaks]⟩
      simp [after, Ne.symm other]
    · simp only [answer, Prod.mk.injEq] at answered
      rw [← answered.1, gone] at left
      contradiction
  | remove handle =>
    simp only [answer, remove, Prod.mk.injEq] at answered
    obtain ⟨rfl, rfl⟩ := answered
    split at left
    · simp [clear] at left
    · rename_i other
      refine .inr ⟨i, left, rfl, ?_⟩
      simpa [EdgeIntentEntry.Breaks, left, eq_comm] using other
  | clear =>
    cases answered
    simp [clear] at left

theorem intent_kept (answered : g.answer call = (g', reply)) (pending : g.intent = some j)
    (early : ∀ now ∈ call.time?, now < j.expiresAt ∧ now + g.validFor ≤ instantMax)
    (unbroken : ¬ EdgeIntentEntry.Breaks ⟨g, call, reply, g'⟩ j.key) :
    g'.intent = some (j.after g.validFor call) := by
  simp only [EdgeIntentEntry.Breaks, not_or, not_exists, not_and, not_not] at unbroken
  obtain ⟨unconfirmed, uncleared, unremoved, own⟩ := unbroken
  cases call with
  | candidate key now =>
    obtain ⟨inside, -⟩ := early now rfl
    have same := own key now rfl
    simp only [answer, candidate,
      expire_of_lt pending inside, pending, if_pos same.symm] at answered
    split at answered <;> cases answered
    · simp at unconfirmed
    · exact pending
  | retreat handle now =>
    obtain ⟨inside, fits⟩ := early now rfl
    simp only [answer, retreat, expiry,
      expire_of_lt pending inside, pending, if_pos fits] at answered
    split at answered <;> cases answered
    · rename_i other
      simp [after, Ne.symm other, pending]
    · rename_i same
      simp [after, not_not.mp same, inside]
  | remove handle =>
    have other : j.key.handle ≠ handle := by
      rintro rfl
      exact unremoved rfl
    simp only [answer, remove, pending] at answered
    cases answered
    simp [other, pending, after]
  | clear => exact absurd rfl uncleared

end Calls

section Runs

variable {validFor opened now : Nat} {key : EdgeIntentKey} {g : EdgeIntentGate}
  {trace before between rest : List EdgeIntentEntry} {e p : EdgeIntentEntry}

def intentAfter (validFor : Nat) (key : EdgeIntentKey) (opened : Nat)
    (between : List EdgeIntentEntry) : EdgeIntent :=
  let accepted := retreats validFor key.handle opened between
  ⟨key, !accepted.isEmpty, accepted.getLastD opened + validFor⟩

theorem intentAfter_nil : intentAfter validFor key opened [] = ⟨key, false, opened + validFor⟩ := rfl

theorem retreats_snoc {handle : CaptureHandle} : retreats validFor handle opened (between ++ [e]) =
    match e.input with
    | .retreat other now =>
      if other = handle ∧ now < (retreats validFor handle opened between).getLastD opened + validFor then
        retreats validFor handle opened between ++ [now]
      else retreats validFor handle opened between
    | _ => retreats validFor handle opened between := by
  simp only [retreats, List.foldl_append, List.foldl_cons, List.foldl_nil]
  rfl

theorem intentAfter_snoc : intentAfter validFor key opened (between ++ [e]) =
    (intentAfter validFor key opened between).after validFor e.input := by
  simp only [intentAfter, retreats_snoc]
  cases e.input with
  | candidate | remove | clear => rfl
  | retreat handle now =>
    simp only [after]
    split <;> simp

structure Opens (validFor : Nat) (key : EdgeIntentKey) (opened : Nat) (p : EdgeIntentEntry)
    (between : List EdgeIntentEntry) (i : EdgeIntent) : Prop where
  contact : p.input = .candidate key opened
  primed : p.output = .decided .primed
  unbroken : ∀ x ∈ between, ¬ x.Breaks key
  made : i = intentAfter validFor key opened between

theorem intent_opened (run : Run edgeIntentGate (.new validFor) trace g) :
    g.validFor = validFor ∧ ∀ i, g.intent = some i → ∃ before p between opened,
      trace = before ++ p :: between ∧ Opens validFor i.key opened p between i := by
  refine run.history (P := fun trace g => g.validFor = validFor ∧ ∀ i, g.intent = some i →
    ∃ before p between opened, trace = before ++ p :: between ∧
      Opens validFor i.key opened p between i) ⟨rfl, by simp [new]⟩ ?_
  rintro trace g call g' reply - ⟨rfl, opened⟩ step
  have answered : g.answer call = (g', reply) := Option.some.inj step
  refine ⟨answer_validFor answered, ?_⟩
  intro i left
  rcases intent_left answered left with ⟨now, rfl, rfl, shape⟩ | ⟨j, pending, rfl, unbroken⟩
  · exact ⟨trace, _, [], now, rfl, rfl, rfl, by simp, shape⟩
  obtain ⟨before, p, between, at', rfl, contact, primed, kept, made⟩ := opened j pending
  refine ⟨before, p, between ++ [⟨g, call, reply, g'⟩], at', by simp, ?_⟩
  rw [after_key]
  refine ⟨contact, primed, ?_, ?_⟩
  · intro x member
    rcases List.mem_append.mp member with old | new
    · exact kept x old
    · rw [List.mem_singleton.mp new]
      exact unbroken
  · rw [intentAfter_snoc, ← made]

theorem callTimes_append (xs ys : List EdgeIntentEntry) :
    callTimes (xs ++ ys) = callTimes xs ++ callTimes ys := by
  simp [callTimes]

theorem intent_held {start : EdgeIntentGate} (run : Run edgeIntentGate start between g)
    (primed : start.intent = some (intentAfter start.validFor key opened []))
    (ordered : (callTimes between).Pairwise (· ≤ ·))
    (inside : ∀ t ∈ callTimes between, t + start.validFor ≤ instantMax)
    (unbroken : ∀ x ∈ between, ¬ x.Breaks key) (now : Nat) (past : ∀ t ∈ callTimes between, t ≤ now)
    (early : now < (intentAfter start.validFor key opened between).expiresAt) :
    g.validFor = start.validFor ∧
      g.intent = some (intentAfter start.validFor key opened between) := by
  induction run generalizing now with
  | nil => exact ⟨rfl, primed⟩
  | @snoc between g g' call reply run step ih =>
    have answered : g.answer call = (g', reply) := Option.some.inj step
    rw [callTimes_append] at ordered inside past
    have ordered' := List.pairwise_append.mp ordered
    have held := ih ordered'.1 (fun t member => inside t (List.mem_append_left _ member))
      (fun x member => unbroken x (List.mem_append_left _ member))
    have whole := unbroken ⟨g, call, reply, g'⟩ (by simp)
    rw [intentAfter_snoc] at early ⊢
    -- the gate still holds the intent just before this call, unless the call came too late
    have inTime : (∀ t ∈ call.time?,
        t < (intentAfter start.validFor key opened between).expiresAt) ∧
        g.validFor = start.validFor ∧
        g.intent = some (intentAfter start.validFor key opened between) := by
      cases time : call.time? with
      | none =>
        rw [after_late (by simp [time])] at early
        exact ⟨by simp, held now (fun t member => past t (List.mem_append_left _ member)) early⟩
      | some t =>
        have last : callTimes [(⟨g, call, reply, g'⟩ : EdgeIntentEntry)] = [t] := by
          simp [callTimes, time]
        rw [last] at past ordered'
        by_cases before : t < (intentAfter start.validFor key opened between).expiresAt
        · refine ⟨by simpa using before, held t (fun u member => ?_) before⟩
          exact ordered'.2.2 u member t (by simp)
        · rw [after_late (by simpa [time] using before)] at early
          have passed := past t (by simp)
          omega
    obtain ⟨soon, same, pending⟩ := inTime
    refine ⟨(answer_validFor answered).trans same, ?_⟩
    rw [← same] at pending ⊢
    refine intent_kept answered pending (fun t timed => ⟨same ▸ soon t timed, ?_⟩) whole
    rw [same]
    exact inside t (List.mem_append_right _ (by simpa [callTimes] using timed))

theorem primed_intent (step : edgeIntentGate.step p.pre p.input = some (p.post, p.output))
    (contact : p.input = .candidate key opened) (primed : p.output = .decided .primed)
    (fits : opened + p.pre.validFor ≤ instantMax) :
    p.post.validFor = p.pre.validFor ∧
      p.post.intent = some (intentAfter p.pre.validFor key opened []) := by
  have answered : p.pre.answer p.input = (p.post, p.output) := Option.some.inj step
  rw [contact, primed] at answered
  rcases p.pre.candidate_cases key opened with ⟨_, _, _, _, _, result⟩ | ⟨_, _, _, _, _, result⟩ |
    ⟨-, result⟩
  all_goals simp only [answer, result, Prod.mk.injEq] at answered
  · simp at answered
  · simp at answered
  · rw [← answered.1]
    simp [prime, expiry, fits, intentAfter_nil]

theorem retreats_head (first : Nat)
    (counted : (retreats validFor key.handle opened between).head? = some first) :
    first < opened + validFor := by
  induction between using List.reverseRecOn generalizing first with
  | nil => simp [retreats] at counted
  | append_singleton between e ih =>
    rw [retreats_snoc] at counted
    cases call : e.input with
    | candidate | remove | clear => exact ih first (by simpa only [call] using counted)
    | retreat handle now =>
      simp only [call] at counted
      split at counted
      · rename_i soon
        cases earlier : retreats validFor key.handle opened between with
        | nil =>
          rw [earlier] at counted soon
          obtain rfl : now = first := by simpa using counted
          exact soon.2
        | cons t accepted =>
          exact ih first (by simpa [earlier] using counted)
      · exact ih first counted

theorem intentAfter_rearmed : (intentAfter validFor key opened between).rearmed = true ∧
      now < (intentAfter validFor key opened between).expiresAt ↔
    ∃ first last, (retreats validFor key.handle opened between).head? = some first ∧
      (retreats validFor key.handle opened between).getLast? = some last ∧
      first < opened + validFor ∧ now < last + validFor := by
  have head : ∀ first, (retreats validFor key.handle opened between).head? = some first →
      first < opened + validFor := fun first => retreats_head first
  simp only [intentAfter]
  cases accepted : retreats validFor key.handle opened between with
  | nil => simp
  | cons t accepted =>
    have soon := head t (by rw [accepted]; rfl)
    simp [List.getLast?_cons, soon]

theorem confirmed_iff_answered (run : Run edgeIntentGate (.new validFor) trace g)
    (ordered : (callTimes trace).Pairwise (· ≤ ·))
    (inside : ∀ t ∈ callTimes trace, t + validFor ≤ instantMax)
    {past : List EdgeIntentEntry} (here : trace = past ++ e :: rest)
    (contact : e.input = .candidate key now) :
    e.output = .decided .confirmed ↔ ∃ before p between opened,
      past = before ++ p :: between ∧ Answered validFor key opened now p between := by
  obtain ⟨run', step, -⟩ := run.split here
  have answered : e.pre.answer e.input = (e.post, e.output) := Option.some.inj step
  have decided : e.output = .decided .confirmed ↔ (e.pre.candidate key now).1 = .confirmed := by
    rw [contact, answer_candidate, Prod.mk.injEq] at answered
    rw [← answered.2, EdgeIntentReply.decided.injEq]
  rw [decided, candidate_confirmed]
  constructor
  · rintro ⟨i, pending, rfl, rearmed, early⟩
    obtain ⟨-, opened⟩ := intent_opened run'
    obtain ⟨before, p, between, t, rfl, opens⟩ := opened i pending
    rw [opens.made] at rearmed early
    exact ⟨before, p, between, t, rfl, opens.contact, opens.primed,
      intentAfter_rearmed.mp ⟨rearmed, early⟩, opens.unbroken⟩
  rintro ⟨before, p, between, opened, rfl, contact', primed, retreated, unbroken⟩
  obtain ⟨before_run, step', between_run⟩ := run'.split rfl
  obtain rfl := (intent_opened before_run).1
  have pastTimes : callTimes trace =
      callTimes before ++ opened :: (callTimes between ++ now :: callTimes rest) := by
    simp [here, callTimes, contact, contact', EdgeIntentCall.time?]
  rw [pastTimes] at ordered inside
  have fits := inside opened (by simp)
  obtain ⟨same, pending⟩ := primed_intent step' contact' primed fits
  obtain ⟨rearmed, early⟩ := intentAfter_rearmed.mpr retreated
  have later := (List.pairwise_cons.mp (List.pairwise_append.mp ordered).2.1).2
  have upToNow := List.pairwise_append.mp later
  rw [← same] at pending early inside
  have held := intent_held between_run pending upToNow.1
    (fun t member => inside t (by simp [member])) unbroken now
    (fun t member => upToNow.2.2 t member now (by simp)) early
  exact ⟨_, held.2, rfl, same ▸ rearmed, early⟩

theorem answered_once {key' : EdgeIntentKey} {opened' now' : Nat}
    {between' rest' : List EdgeIntentEntry} {e' : EdgeIntentEntry}
    (same : between ++ e :: rest = between' ++ e' :: rest')
    (confirmed : e.output = .decided .confirmed) (confirmed' : e'.output = .decided .confirmed)
    (answered : Answered validFor key opened now p between)
    (answered' : Answered validFor key' opened' now' p between') : between = between' := by
  rcases List.append_eq_append_iff.mp same with ⟨middle, rfl, tail⟩ | ⟨middle, rfl, tail⟩
  · cases middle with
    | nil => simp
    | cons x middle =>
      obtain rfl := (List.cons.inj tail).1
      exact absurd (.inl confirmed) (answered'.unbroken e (by simp))
  cases middle with
  | nil => simp
  | cons x middle =>
    obtain rfl := (List.cons.inj tail).1
    exact absurd (.inl confirmed') (answered.unbroken e' (by simp))

theorem two_contact_intent (run : Run edgeIntentGate (.new validFor) trace g)
    (ordered : (callTimes trace).Pairwise (· ≤ ·))
    (inside : ∀ t ∈ callTimes trace, t + validFor ≤ instantMax) :
    (∀ past e rest key now, trace = past ++ e :: rest → e.input = .candidate key now →
      (e.output = .decided .confirmed ↔ ∃ before p between opened,
        past = before ++ p :: between ∧ Answered validFor key opened now p between)) ∧
    (∀ before p between e rest between' e' rest' key opened now key' opened' now',
      trace = before ++ p :: (between ++ e :: rest) → trace = before ++ p :: (between' ++ e' :: rest') →
      e.output = .decided .confirmed → e'.output = .decided .confirmed →
      Answered validFor key opened now p between → Answered validFor key' opened' now' p between' →
      between = between') := by
  refine ⟨?_, ?_⟩
  · intro past e rest key now here contact
    exact confirmed_iff_answered run ordered inside here contact
  · intro before p between e rest between' e' rest' key opened now key' opened' now' here here'
      confirmed confirmed' answered answered'
    have same := (List.cons.inj (List.append_cancel_left (here.symm.trans here'))).2
    exact answered_once same confirmed confirmed' answered answered'

theorem second_contact_answered : ∃ past e g, Run edgeIntentGate (.new 500) (past ++ [e]) g ∧
    e.output = .decided .confirmed ∧ ∃ before p between opened, past = before ++ p :: between ∧
      Answered 500 ⟨4, .right, 22⟩ opened 998 p between := by
  obtain ⟨past, e, g, run, times, input, confirmed⟩ := edgeIntentGate.exists_last (.new 500)
    [.candidate ⟨4, .right, 22⟩ 0, .retreat 4 499] (.candidate ⟨4, .right, 22⟩ 998) (fun past e =>
      callTimes (past ++ [e]) = [0, 499, 998] ∧ e.input = .candidate ⟨4, .right, 22⟩ 998 ∧
        e.output = .decided .confirmed) (by decide)
  have intent := two_contact_intent run (by simp [times]) (by simp [times, instantMax])
  exact ⟨past, e, g, run, confirmed, (intent.1 past e [] _ _ rfl input).mp confirmed⟩

end Runs

end DisplayMux.LanMouse
