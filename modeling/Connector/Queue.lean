/-! Bounded queues: first in, first out, with an end that may close.

- `Queue.offer`: a new item at the back. A closed queue refuses it, and so does a full one.
- `Queue.take`: items from the front. They stay readable after the close. -/

namespace Connector

structure Queue (α : Type) where
  capacity : Nat
  items : List α
  closed : Bool
  deriving DecidableEq, Repr

inductive Refusal where
  | full | closed
  deriving DecidableEq, Repr

namespace Queue

variable {α : Type}

def empty (capacity : Nat) : Queue α := ⟨capacity, [], false⟩

def offer (q : Queue α) (a : α) : Except Refusal (Queue α) :=
  if q.closed then .error .closed
  else if q.items.length < q.capacity then .ok { q with items := q.items ++ [a] }
  else .error .full

def take (q : Queue α) (n : Nat) : List α × Queue α :=
  (q.items.take n, { q with items := q.items.drop n })

/-- Nothing more comes in. What is queued can still be taken. -/
def close (q : Queue α) : Queue α := { q with closed := true }

/-- The reader goes away: nothing more comes in, and what is queued is lost. -/
def abandon (q : Queue α) : Queue α := { q with closed := true, items := [] }

/-- An offer that is taken goes to the back. -/
theorem items_offer {q r : Queue α} {a : α} (h : q.offer a = .ok r) : r.items = q.items ++ [a] := by
  unfold offer at h
  repeat' split at h
  all_goals simp at h
  subst h; rfl

theorem offer_closed_iff {q : Queue α} {a : α} : q.offer a = .error .closed ↔ q.closed = true := by
  unfold offer
  split
  · simp [*]
  · split <;> simp [*]

end Queue

end Connector
