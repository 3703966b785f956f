import Mathlib.Data.Set.Insert

/-! A set of members that is changed from afar. Orders wait in a queue, and each must
make sense for the members at the moment it is carried out. -/
namespace DisplayMux

inductive Order (α : Type) where
  | enrol (a : α)
  | dismiss (a : α)
  | call (a : α)
  deriving DecidableEq, Repr

variable {α : Type} {members : Set α} {orders orders' : List (Order α)}

namespace Order

def Allowed (members : Set α) : Order α → Prop
  | .enrol a => a ∉ members
  | .dismiss a | .call a => a ∈ members

def apply (members : Set α) : Order α → Set α
  | .enrol a => insert a members
  | .dismiss a => members \ {a}
  | .call _ => members

def isCall : Order α → Bool
  | .call _ => true
  | .enrol _ | .dismiss _ => false

end Order

def carryOut (members : Set α) (orders : List (Order α)) : Set α := orders.foldl Order.apply members

def Accepts (members : Set α) : List (Order α) → Prop
  | [] => True
  | order :: orders => order.Allowed members ∧ Accepts (order.apply members) orders

@[simp] theorem carryOut_nil : carryOut members [] = members := rfl

@[simp] theorem carryOut_cons (order : Order α) :
    carryOut members (order :: orders) = carryOut (order.apply members) orders := rfl

theorem carryOut_append : carryOut members (orders ++ orders') =
    carryOut (carryOut members orders) orders' := List.foldl_append

theorem accepts_append : Accepts members (orders ++ orders') ↔
    Accepts members orders ∧ Accepts (carryOut members orders) orders' := by
  induction orders generalizing members with
  | nil => simp [Accepts]
  | cons order orders ih => simp [Accepts, ih, and_assoc]

theorem accepts_calls (called : List α) (here : ∀ a ∈ called, a ∈ members) :
    Accepts members (called.map .call) ∧ carryOut members (called.map .call) = members := by
  induction called with
  | nil => exact ⟨trivial, rfl⟩
  | cons a called ih =>
    obtain ⟨accepted, same⟩ := ih fun b member => here b (List.mem_cons_of_mem a member)
    exact ⟨⟨here a List.mem_cons_self, accepted⟩, same⟩

theorem accepts_dismissals (dismissed : List α) (once : dismissed.Nodup)
    (here : ∀ a ∈ dismissed, a ∈ members) :
    Accepts members (dismissed.map .dismiss) ∧
      carryOut members (dismissed.map .dismiss) = members \ { a | a ∈ dismissed } := by
  induction dismissed generalizing members with
  | nil => exact ⟨trivial, by ext; simp⟩
  | cons a dismissed ih =>
    obtain ⟨fresh, once⟩ := List.nodup_cons.mp once
    have left (b : α) (member : b ∈ dismissed) : b ∈ members \ {a} :=
      ⟨here b (List.mem_cons_of_mem a member), fun same => fresh (same ▸ member)⟩
    obtain ⟨accepted, rest⟩ := ih once left
    refine ⟨⟨here a List.mem_cons_self, accepted⟩, rest.trans ?_⟩
    ext b
    simp [and_assoc, not_or]

section Turns

variable [DecidableEq α]

def Order.turn? (a : α) : Order α → Option Bool
  | .enrol b => if b = a then some true else none
  | .dismiss b => if b = a then some false else none
  | .call _ => none

def turns (a : α) (orders : List (Order α)) : List Bool := orders.filterMap (Order.turn? a)

/-- Coming and going in turn, and coming first. -/
def Alternating (turns : List Bool) : Prop := ∀ i b, turns[i]? = some b → b = decide (i % 2 = 0)

theorem turns_uncalled (a : α) : turns a (orders.filter (!·.isCall)) = turns a orders := by
  rw [turns, List.filterMap_filter]
  refine congrArg (List.filterMap · orders) (funext fun order => ?_)
  cases order <;> rfl

theorem mem_carryOut_of_turns_nil {a : α} (still : turns a orders = []) :
    a ∈ carryOut members orders ↔ a ∈ members := by
  induction orders generalizing members with
  | nil => rfl
  | cons order orders ih =>
    obtain ⟨here, later⟩ := List.forall_mem_cons.mp (List.filterMap_eq_nil_iff.mp still)
    rw [carryOut_cons, ih (List.filterMap_eq_nil_iff.mpr later)]
    cases order with
    | call b => rfl
    | enrol b =>
      have other : b ≠ a := by simpa [Order.turn?] using here
      simp [Order.apply, other.symm]
    | dismiss b =>
      have other : b ≠ a := by simpa [Order.turn?] using here
      simp [Order.apply, other.symm]

theorem turn_succ (i : Nat) (b : Bool) : b = decide ((i + 1) % 2 = 1) ↔ ¬ (b = decide (i % 2 = 1)) := by
  rcases Nat.mod_two_eq_zero_or_one i with even | odd
  · have next : (i + 1) % 2 = 1 := by omega
    simp [even, next]
  · have next : (i + 1) % 2 = 0 := by omega
    simp [odd, next]

theorem accepts_turns (accepted : Accepts members orders) (a : α) (i : Nat) (b : Bool)
    (turn : (turns a orders)[i]? = some b) : a ∈ members ↔ b = decide (i % 2 = 1) := by
  induction orders generalizing members i with
  | nil => cases turn
  | cons order orders ih =>
    obtain ⟨allowed, accepted⟩ := accepted
    cases order with
    | call c => exact ih accepted i turn
    | enrol c =>
      by_cases same : c = a
      · subst same
        rw [turns, List.filterMap_cons_some (by exact if_pos rfl)] at turn
        refine iff_of_false allowed ?_
        cases i with
        | zero => simp [← Option.some.inj turn]
        | succ i =>
          exact (turn_succ i b).not.mpr (not_not.mpr ((ih accepted i turn).mp (Set.mem_insert c members)))
      · rw [turns, List.filterMap_cons_none (by exact if_neg same)] at turn
        rw [← ih accepted i turn]
        simp [Order.apply, Ne.symm same]
    | dismiss c =>
      by_cases same : c = a
      · subst same
        rw [turns, List.filterMap_cons_some (by exact if_pos rfl)] at turn
        refine iff_of_true allowed ?_
        cases i with
        | zero => simp [← Option.some.inj turn]
        | succ i => exact (turn_succ i b).mpr (mt (ih accepted i turn).mpr fun gone => gone.2 rfl)
      · rw [turns, List.filterMap_cons_none (by exact if_neg same)] at turn
        rw [← ih accepted i turn]
        simp [Order.apply, Ne.symm same]

theorem alternating_of_accepts (accepted : Accepts ∅ orders) (a : α) : Alternating (turns a orders) := by
  intro i b turn
  have comes := mt (accepts_turns accepted a i b turn).mpr (Set.notMem_empty a)
  rcases Nat.mod_two_eq_zero_or_one i with even | odd
  · simpa [even] using comes
  · simpa [odd] using comes

end Turns

end DisplayMux
