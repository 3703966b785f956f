import Mathlib.Data.Finset.Basic
import DisplayMux.Lib.Machine
import DisplayMux.LanMouse.InputCapture

/-! The capture front end as a stream, over every order of its calls: where the captures are
listed, which of them gets an event of the backend, and when a poll leaves its caller waiting. -/
namespace DisplayMux.LanMouse

open InputCapture

/-- The front end with the barriers that its backend was asked for. -/
structure Front where
  capture : InputCapture
  barriers : Finset Position

inductive FrontCall where
  | create (id : CaptureHandle) (pos : Position)
  | destroy (id : CaptureHandle)
  | poll (backend : Poll (Item (Position × CaptureEvent)))
  deriving DecidableEq

abbrev FrontAnswer := Option (Poll (Item (CaptureHandle × CaptureEvent)))

namespace Front

def new : Front := ⟨.new, ∅⟩

/-- `none` when the call panics. Barriers are made and removed without an error. -/
def step (f : Front) : FrontCall → Option (Front × FrontAnswer)
  | .create id pos => do
    let (capture, asked) ← f.capture.create id pos
    some (⟨capture, if asked then insert pos f.barriers else f.barriers⟩, none)
  | .destroy id => do
    let pos ← f.capture.idMap.lookup id
    let (capture, asked) ← f.capture.destroy id
    some (⟨capture, if asked then f.barriers.erase pos else f.barriers⟩, none)
  | .poll backend =>
    let (capture, answer) := f.capture.pollNext backend
    some (⟨capture, f.barriers⟩, some answer)

end Front

def front : Machine Front FrontCall FrontAnswer := ⟨Front.step⟩

abbrev FrontEntry := Entry Front FrontCall FrontAnswer

def InputCapture.idsAt (c : InputCapture) (pos : Position) : List CaptureHandle :=
  (c.positionMap.lookup pos).getD []

namespace Front

/-- Each capture is listed once and at its own side only, and a barrier stands exactly at the
sides that have a capture. -/
structure Placed (f : Front) : Prop where
  listed : ∀ id pos, f.capture.idMap.lookup id = some pos ↔ id ∈ f.capture.idsAt pos
  once : ∀ pos, (f.capture.idsAt pos).Nodup
  barrier : ∀ pos, pos ∈ f.barriers ↔ ∃ id, f.capture.idMap.lookup id = some pos

/-- What a poll takes from the backend, for each capture at the side of the event. The backend is
not polled while older events wait. -/
def owed (f : Front) : FrontCall → List (CaptureHandle × CaptureEvent)
  | .poll (.ready (.value (pos, event))) =>
    if f.capture.pending = [] then (f.capture.idsAt pos).map fun id => (id, event) else []
  | _ => []

/-- An event that the backend has for the poll is at a side with a capture. -/
def attended (f : Front) : FrontCall → Bool
  | .poll (.ready (.value (pos, _))) => f.capture.pending ≠ [] ∨ f.capture.idsAt pos ≠ []
  | _ => true

/-- No capture is removed while an event waits for it. -/
def awaits (f : Front) : FrontCall → Bool
  | .destroy id => f.capture.pending.all (·.1 ≠ id)
  | _ => true

end Front

def FrontAnswer.delivered : FrontAnswer → List (CaptureHandle × CaptureEvent)
  | some (.ready (.value item)) => [item]
  | _ => []

/-- The events of the backend reach the captures that were at their side, in order. -/
def Orderly (trace : List FrontEntry) (f : Front) : Prop :=
  trace.flatMap (·.output.delivered) ++ f.capture.pending = trace.flatMap fun e => e.pre.owed e.input

/-- All of one event is delivered before the next is taken. -/
structure Delivers (trace : List FrontEntry) (f : Front) : Prop where
  inOrder : Orderly trace f
  first : ∀ before e after, trace = before ++ e :: after → e.pre.owed e.input ≠ [] →
    before.flatMap (·.output.delivered) = before.flatMap fun e => e.pre.owed e.input

section Maps

variable {c c' : InputCapture} {id : CaptureHandle} {pos : Position} {asked : Bool}

namespace InputCapture

theorem create_eq (created : c.create id pos = some (c', asked)) :
    id ∉ c.idMap ∧ asked = decide (pos ∉ c.positionMap) ∧ c'.idMap = c.idMap.insert id pos ∧
      c'.pending = c.pending ∧ (∀ p, p ∈ c'.positionMap ↔ p = pos ∨ p ∈ c.positionMap) ∧
      ∀ p, c'.idsAt p = c.idsAt p ++ if p = pos then [id] else [] := by
  unfold create at created
  split at created
  · contradiction
  rename_i fresh
  dsimp only at created
  split at created <;> rename_i listed <;> cases created
  · have known : pos ∈ c.positionMap := AList.lookup_isSome.mp (by simp [listed])
    refine ⟨fresh, by simp [known], rfl, rfl, fun p => AList.mem_insert _, fun p => ?_⟩
    obtain rfl | own := eq_or_ne p pos <;> simp_all [idsAt]
  · have unknown : pos ∉ c.positionMap := AList.lookup_eq_none.mp listed
    refine ⟨fresh, by simp [unknown], rfl, rfl, fun p => AList.mem_insert _, fun p => ?_⟩
    obtain rfl | own := eq_or_ne p pos <;> simp_all [idsAt]

theorem destroy_eq (there : c.idMap.lookup id = some pos) (destroyed : c.destroy id = some (c', asked)) :
    (asked = true ↔ c'.idsAt pos = []) ∧ c'.idMap = c.idMap.erase id ∧ c'.pending = c.pending ∧
      (∀ p, p ∈ c'.positionMap ↔ p ∈ c.positionMap ∧ (p = pos → asked = false)) ∧
      ∀ p, c'.idsAt p = if p = pos then (c.idsAt pos).filter (· ≠ id) else c.idsAt p := by
  unfold destroy at destroyed
  simp only [there, Option.bind_eq_bind, Option.bind_some, Option.bind_eq_some_iff] at destroyed
  obtain ⟨ids, listed, destroyed⟩ := destroyed
  have known : pos ∈ c.positionMap := AList.lookup_isSome.mp (by simp [listed])
  split at destroyed <;> rename_i gone <;> cases destroyed <;> rw [List.isEmpty_iff] at gone
  · refine ⟨by simp [idsAt], rfl, rfl, fun p => by simp [and_comm], fun p => ?_⟩
    obtain rfl | own := eq_or_ne p pos
    · simpa [idsAt, listed] using gone
    · simp [idsAt, own]
  · refine ⟨by simpa [idsAt] using gone, rfl, rfl, fun p => ?_, fun p => ?_⟩
    · by_cases own : p = pos <;> simp [own, known]
    · obtain rfl | own := eq_or_ne p pos <;> simp_all [idsAt]

end InputCapture

namespace Front

/-- A list stands, like a barrier, exactly at the sides that have a capture. -/
structure Kept (f : Front) : Prop where
  listed : ∀ id pos, f.capture.idMap.lookup id = some pos ↔ id ∈ f.capture.idsAt pos
  once : ∀ pos, (f.capture.idsAt pos).Nodup
  filled : ∀ pos, pos ∈ f.capture.positionMap ↔ f.capture.idsAt pos ≠ []
  stands : ∀ pos, pos ∈ f.barriers ↔ f.capture.idsAt pos ≠ []

variable {f : Front}

theorem Kept.placed (kept : f.Kept) : f.Placed := by
  refine ⟨kept.listed, kept.once, fun pos => ?_⟩
  simp [kept.stands, kept.listed, List.eq_nil_iff_forall_not_mem]

theorem Kept.create (kept : f.Kept) (created : f.capture.create id pos = some (c, asked)) :
    Kept ⟨c, if asked then insert pos f.barriers else f.barriers⟩ := by
  obtain ⟨fresh, asks, idMap, -, known, ids⟩ := create_eq created
  have nowhere : f.capture.idMap.lookup id = none := AList.lookup_eq_none.mpr fresh
  constructor <;> simp only [ids, idMap, known]
  · intro key p
    rw [List.mem_append, ← kept.listed]
    by_cases own : key = id
    · subst own
      simp [nowhere, eq_comm]
    · simp [AList.lookup_insert_ne own, own]
  · intro p
    by_cases own : p = pos
    · have absent : id ∉ f.capture.idsAt p := by simp [← kept.listed, nowhere]
      simpa [own] using (kept.once p).concat absent
    · simpa [own] using kept.once p
  · intro p
    by_cases own : p = pos <;> simp [own, kept.filled]
  · intro p
    by_cases own : p = pos <;> by_cases here : pos ∈ f.capture.positionMap <;>
      simp_all [kept.filled, kept.stands]

theorem Kept.destroy (kept : f.Kept) (there : f.capture.idMap.lookup id = some pos)
    (destroyed : f.capture.destroy id = some (c, asked)) :
    Kept ⟨c, if asked then f.barriers.erase pos else f.barriers⟩ := by
  obtain ⟨last, idMap, -, known, ids⟩ := destroy_eq there destroyed
  have left (p : Position) : c.idsAt p = (f.capture.idsAt p).filter (· ≠ id) := by
    rw [ids]
    split
    · subst_vars
      rfl
    · rename_i other
      refine (List.filter_eq_self.mpr fun key member => decide_eq_true ?_).symm
      rintro rfl
      have elsewhere := (kept.listed key p).mpr member
      exact other (Option.some.inj (elsewhere.symm.trans there))
  have stays (p : Position) : c.idsAt p ≠ [] ↔ f.capture.idsAt p ≠ [] ∧ (p = pos → asked = false) := by
    obtain rfl | own := eq_or_ne p pos
    · have filled : f.capture.idsAt p ≠ [] := List.ne_nil_of_mem ((kept.listed id p).mp there)
      simp [filled, ← last]
    · simp [ids, own]
  constructor
  · intro key p
    rw [left, List.mem_filter, ← kept.listed, idMap]
    by_cases own : key = id
    · subst own
      simp
    · simp [AList.lookup_erase_ne own, own]
  · intro p
    rw [left]
    exact (kept.once p).filter _
  · intro p
    rw [stays, known, kept.filled]
  · intro p
    rw [stays]
    cases asked <;> simp [kept.stands, and_comm]

end Front

end Maps

namespace Front

variable {f f' : Front} {call : FrontCall} {answer : FrontAnswer} {trace : List FrontEntry}

theorem step_cases (stepped : f.step call = some (f', answer)) :
    (∃ id pos c asked, call = .create id pos ∧ f.capture.create id pos = some (c, asked) ∧
      f' = ⟨c, if asked then insert pos f.barriers else f.barriers⟩ ∧ answer = none) ∨
    (∃ id pos c asked, call = .destroy id ∧ f.capture.idMap.lookup id = some pos ∧
      f.capture.destroy id = some (c, asked) ∧
      f' = ⟨c, if asked then f.barriers.erase pos else f.barriers⟩ ∧ answer = none) ∨
    ∃ backend, call = .poll backend ∧ f' = ⟨(f.capture.pollNext backend).1, f.barriers⟩ ∧
      answer = some (f.capture.pollNext backend).2 := by
  cases call with
  | create id pos =>
    simp only [step, Option.bind_eq_bind, Option.bind_eq_some_iff] at stepped
    obtain ⟨⟨c, asked⟩, created, result⟩ := stepped
    cases result
    exact .inl ⟨id, pos, c, asked, rfl, created, rfl, rfl⟩
  | destroy id =>
    simp only [step, Option.bind_eq_bind, Option.bind_eq_some_iff] at stepped
    obtain ⟨pos, there, ⟨c, asked⟩, destroyed, result⟩ := stepped
    cases result
    exact .inr (.inl ⟨id, pos, c, asked, rfl, there, destroyed, rfl, rfl⟩)
  | poll backend =>
    cases stepped
    exact .inr (.inr ⟨backend, rfl, rfl, rfl⟩)

theorem poll_spec (f : Front) (backend : Poll (Item (Position × CaptureEvent))) :
    (f.capture.pollNext backend).1.idMap = f.capture.idMap ∧
      (f.capture.pollNext backend).1.positionMap = f.capture.positionMap ∧
      FrontAnswer.delivered (some (f.capture.pollNext backend).2) ++ (f.capture.pollNext backend).1.pending =
        f.capture.pending ++ f.owed (.poll backend) ∧
      (((f.capture.pollNext backend).2 = .pending → backend = .pending) ↔
        f.attended (.poll backend) = true) := by
  unfold pollNext
  cases waiting : f.capture.pending with
  | cons event rest =>
    match backend with
    | .pending | .ready .closed | .ready .error | .ready (.value _) =>
      simp [FrontAnswer.delivered, owed, attended, waiting]
  | nil =>
    match backend with
    | .pending | .ready .closed | .ready .error =>
      simp [FrontAnswer.delivered, owed, attended, waiting]
    | .ready (.value (pos, event)) =>
      obtain ⟨idMap, positionMap, pending⟩ := f.capture.track_idMap event
      cases here : f.capture.idsAt pos <;>
        simp_all [FrontAnswer.delivered, owed, attended, idsAt]

theorem Kept.step (kept : f.Kept) (stepped : f.step call = some (f', answer)) : f'.Kept := by
  obtain ⟨id, pos, c, asked, -, created, rfl, -⟩ | ⟨id, pos, c, asked, -, there, destroyed, rfl, -⟩ |
    ⟨backend, -, rfl, -⟩ := step_cases stepped
  · exact kept.create created
  · exact kept.destroy there destroyed
  · obtain ⟨idMap, positionMap, -, -⟩ := f.poll_spec backend
    obtain ⟨listed, once, filled, stands⟩ := kept
    constructor <;> simpa only [idsAt, idMap, positionMap]

theorem step_delivers (stepped : f.step call = some (f', answer)) :
    answer.delivered ++ f'.capture.pending = f.capture.pending ++ f.owed call := by
  obtain ⟨id, pos, c, asked, rfl, created, rfl, rfl⟩ |
    ⟨id, pos, c, asked, rfl, there, destroyed, rfl, rfl⟩ | ⟨backend, rfl, rfl, rfl⟩ := step_cases stepped
  · simp [FrontAnswer.delivered, owed, (create_eq created).2.2.2.1]
  · simp [FrontAnswer.delivered, owed, (destroy_eq there destroyed).2.2.1]
  · exact (f.poll_spec backend).2.2.1

theorem step_waits (stepped : f.step call = some (f', answer)) :
    (answer = some .pending → call = .poll .pending) ↔ f.attended call = true := by
  obtain ⟨id, pos, c, asked, rfl, -, -, rfl⟩ | ⟨id, pos, c, asked, rfl, -, -, -, rfl⟩ |
    ⟨backend, rfl, -, rfl⟩ := step_cases stepped
  · simp [attended]
  · simp [attended]
  · simpa using (f.poll_spec backend).2.2.2

theorem front_kept (run : Run front .new trace f) : f.Kept := by
  refine run.invariant ?_ fun f call f' answer kept stepped => kept.step stepped
  constructor <;> simp [new, InputCapture.new, InputCapture.idsAt]

theorem front_orderly (run : Run front .new trace f) : Orderly trace f := by
  refine run.history (P := Orderly) (by rfl) ?_
  intro trace f call f' answer _ before stepped
  unfold Orderly at *
  simp only [List.flatMap_append, List.flatMap_singleton, List.append_assoc, step_delivers stepped]
  rw [← List.append_assoc, before]

theorem front_delivers (run : Run front .new trace f) : Delivers trace f := by
  refine ⟨front_orderly run, fun before e after here takes => ?_⟩
  have done : e.pre.capture.pending = [] := by
    by_contra waiting
    apply takes
    unfold owed
    split
    · exact if_neg waiting
    · rfl
  simpa [Orderly, done] using front_orderly (run.split here).1

/-- What waits is for captures that are there. -/
def Live (f : Front) : Prop := ∀ item ∈ f.capture.pending, item.1 ∈ f.capture.idMap

theorem Kept.taken_live (kept : f.Kept) (live : f.Live) (stepped : f.step call = some (f', answer)) :
    ∀ item ∈ answer.delivered ++ f'.capture.pending, item.1 ∈ f.capture.idMap := by
  intro item member
  rw [step_delivers stepped, List.mem_append] at member
  obtain old | new := member
  · exact live item old
  unfold owed at new
  split at new
  · split at new
    · obtain ⟨id, here, rfl⟩ := List.mem_map.mp new
      exact AList.lookup_isSome.mp (by simp [(kept.listed id _).mpr here])
    · simp at new
  · simp at new

theorem Live.step (live : f.Live) (kept : f.Kept) (stepped : f.step call = some (f', answer))
    (awaits : f.awaits call = true) : f'.Live := by
  intro item waits
  have known := kept.taken_live live stepped item (List.mem_append_right _ waits)
  obtain ⟨id, pos, c, asked, -, created, rfl, -⟩ | ⟨id, pos, c, asked, rfl, there, destroyed, rfl, -⟩ |
    ⟨backend, -, rfl, -⟩ := step_cases stepped
  · rw [(create_eq created).2.2.1]
    simp [known]
  · obtain ⟨-, idMap, pending, -⟩ := destroy_eq there destroyed
    rw [pending] at waits
    have other : item.1 ≠ id := by simpa using List.all_eq_true.mp awaits item waits
    rw [idMap]
    exact AList.mem_erase.mpr ⟨other, known⟩
  · rw [(f.poll_spec backend).1]
    exact known

theorem delivered_live (run : Run front .new trace f)
    (awaits : ∀ e ∈ trace, e.pre.awaits e.input = true) {e : FrontEntry} (member : e ∈ trace) :
    ∀ item ∈ e.output.delivered, item.1 ∈ e.pre.capture.idMap := by
  obtain ⟨before, after, here⟩ := List.append_of_mem member
  obtain ⟨earlier, stepped, -⟩ := run.split here
  have live : e.pre.Kept ∧ e.pre.Live := by
    refine earlier.invariant_where (P := fun f => f.Kept ∧ f.Live)
      (C := fun e => e.pre.awaits e.input = true)
        ⟨front_kept .nil, by simp [Live, new, InputCapture.new]⟩ ?_ ?_
    · intro e ⟨kept, live⟩ stepped awaits
      exact ⟨kept.step stepped, live.step kept stepped awaits⟩
    · exact fun x past => awaits x (by simp [here, past])
  exact fun item given => live.1.taken_live live.2 stepped item (List.mem_append_left _ given)

end Front

/-- The lists, the barriers and the order of the events are right in every run. A poll is left
without a wake-up exactly when the backend has an event at a side without a capture, and events
go to captures that are still there as long as none is removed while one waits for it. -/
theorem stream_contract {trace : List FrontEntry} {f : Front} (run : Run front .new trace f) :
    f.Placed ∧ Delivers trace f ∧
      (∀ e ∈ trace, (e.output = some .pending → e.input = .poll .pending) ↔
        e.pre.attended e.input = true) ∧
      ((∀ e ∈ trace, e.pre.awaits e.input = true) →
        ∀ e ∈ trace, ∀ item ∈ e.output.delivered, item.1 ∈ e.pre.capture.idMap) := by
  refine ⟨(Front.front_kept run).placed, Front.front_delivers run, ?_, fun awaits e member => ?_⟩
  · intro e member
    obtain ⟨before, -, stepped⟩ := run.entry_step member
    exact Front.step_waits stepped
  · exact Front.delivered_live run awaits member

/-- Two captures at one side, and an event there. -/
def sharedSide : List FrontCall :=
  [.create 1 .left, .create 2 .left, .poll (.ready (.value (.left, .begin)))]

theorem shared_side_served : ∃ trace f, Run front .new trace f ∧
    trace.map (·.input) = sharedSide ++ [.poll .pending, .destroy 2, .poll .pending] ∧
    trace.flatMap (·.output.delivered) = [(1, .begin), (2, .begin)] ∧ .left ∈ f.barriers ∧
    (∀ e ∈ trace, e.output = some .pending → e.input = .poll .pending) ∧
    ∀ e ∈ trace, ∀ item ∈ e.output.delivered, item.1 ∈ e.pre.capture.idMap := by
  obtain ⟨trace, f, run, inputs, calm, there, delivered⟩ := front.exists_run_on .new
    (sharedSide ++ [.poll .pending, .destroy 2, .poll .pending])
    (fun trace f => (∀ e ∈ trace, e.pre.attended e.input = true ∧ e.pre.awaits e.input = true) ∧
      f.capture.idMap.lookup 1 = some .left ∧
      trace.flatMap (·.output.delivered) = [(1, .begin), (2, .begin)]) (by decide)
  obtain ⟨placed, -, waits, live⟩ := stream_contract run
  exact ⟨trace, f, run, inputs, delivered, (placed.barrier .left).mpr ⟨1, there⟩,
    fun e member => (waits e member).mpr (calm e member).1, live fun e member => (calm e member).2⟩

/-- The second capture is removed while its event waits, and the backend then has an event at a
side without a capture. -/
theorem removed_capture_gets_event : ∃ trace f, Run front .new trace f ∧
    trace.map (·.input) =
      sharedSide ++ [.destroy 2, .poll .pending, .poll (.ready (.value (.right, .begin)))] ∧
    (∃ e ∈ trace, ∃ item ∈ e.output.delivered, item.1 ∉ e.pre.capture.idMap) ∧
    ∃ e ∈ trace, e.output = some .pending ∧ e.input ≠ .poll .pending := by
  obtain ⟨trace, f, run, inputs, served⟩ := front.exists_run_on .new
    (sharedSide ++ [.destroy 2, .poll .pending, .poll (.ready (.value (.right, .begin)))])
    (fun trace _ => (trace.any fun e => e.output.delivered.any (·.1 ∉ e.pre.capture.idMap)) ∧
      trace.any fun e => e.output = some .pending ∧ e.input ≠ .poll .pending) (by decide)
  exact ⟨trace, f, run, inputs, by simpa using served⟩

end DisplayMux.LanMouse
