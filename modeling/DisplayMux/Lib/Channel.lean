import Mathlib.Data.List.Basic

/-! A bounded queue between two tasks. Sending never waits: it fails when the queue
is full or when the receiver is gone. -/
namespace DisplayMux

structure Channel (α : Type) where
  capacity : Nat
  closed : Bool
  items : List α
  deriving DecidableEq, Repr

inductive TrySendError where
  | full | closed
  deriving DecidableEq, Repr

def TrySendError.message : TrySendError → String
  | full => "no available capacity"
  | closed => "channel closed"

namespace Channel

variable {α : Type} {c c' : Channel α} {a : α}

def trySend (c : Channel α) (a : α) : Except TrySendError (Channel α) :=
  if c.closed then .error .closed
  else if c.items.length < c.capacity then .ok { c with items := c.items ++ [a] }
  else .error .full

def receive (c : Channel α) : Option (α × Channel α) :=
  match c.items with
  | [] => none
  | a :: rest => some (a, { c with items := rest })

theorem trySend_items (h : c.trySend a = .ok c') : c'.items = c.items ++ [a] := by
  unfold trySend at h
  split at h
  · contradiction
  · split at h <;> cases h
    rfl

theorem receive_items (h : c.receive = some (a, c')) : c.items = a :: c'.items := by
  unfold receive at h
  split at h
  · contradiction
  · rename_i oldest rest items
    cases h
    exact items

theorem receive_none (h : c.receive = none) : c.items = [] := by
  unfold receive at h
  split at h
  · assumption
  · contradiction

end Channel

end DisplayMux
