import LiveAISIP.Rtp.Sequence

/-!
# Bounded queues

The fixed-capacity queue of `rtp/queue.rs` with its counters.  What a full queue
drops is returned to the caller.
-/

namespace LiveAISIP
namespace Rtp

/-- Largest capacity of a realtime queue. -/
def maxRealtimeQueueCapacity : Nat := 65536

/-- What a full queue drops. -/
inductive OverflowPolicy
  | dropNewest
  | dropOldest

/-- Result of one push. -/
inductive PushOutcome (α : Type)
  | accepted
  | droppedNewest (item : α)
  | droppedOldest (item : α)

/-- Why a queue is not created. -/
inductive QueueError
  | invalidCapacity (value maximum : Nat)
  | allocationFailed
  deriving DecidableEq

/-- A queue of fixed capacity, its oldest item first. -/
structure BoundedQueue (α : Type) where
  items : List α
  capacity : Nat
  policy : OverflowPolicy
  highWaterMark : Nat
  accepted : Nat
  delivered : Nat
  overflows : Nat
  drops : Nat
  underflows : Nat

namespace BoundedQueue

variable {queue : BoundedQueue α}

/-- An empty queue. -/
def new (grants : Nat → Bool) (capacity : Nat) (policy : OverflowPolicy) :
    Except QueueError (BoundedQueue α) :=
  if capacity = 0 ∨ maxRealtimeQueueCapacity < capacity then
    .error (.invalidCapacity capacity maxRealtimeQueueCapacity)
  else if ¬grants capacity then .error .allocationFailed
  else .ok {
    items := []
    capacity := capacity
    policy := policy
    highWaterMark := 0
    accepted := 0
    delivered := 0
    overflows := 0
    drops := 0
    underflows := 0 }

/-- Append an item, or drop one when the queue is full. -/
def push (queue : BoundedQueue α) (item : α) : BoundedQueue α × PushOutcome α :=
  if queue.items.length = queue.capacity then
    let full := { queue with
      overflows := saturatingAdd queue.overflows 1
      drops := saturatingAdd queue.drops 1 }
    match queue.policy, queue.items with
    | .dropNewest, _ => (full, .droppedNewest item)
    | .dropOldest, [] => (full, .droppedNewest item)
    | .dropOldest, dropped :: rest =>
      ({ full with
          items := rest ++ [item]
          accepted := saturatingAdd queue.accepted 1 }, .droppedOldest dropped)
  else
    ({ queue with
        items := queue.items ++ [item]
        accepted := saturatingAdd queue.accepted 1
        highWaterMark := max queue.highWaterMark (queue.items.length + 1) }, .accepted)

/-- A full queue that drops the newest item stays as it is. -/
theorem push_of_full (full : queue.items.length = queue.capacity)
    (newest : queue.policy = .dropNewest) (item : α) :
    queue.push item =
      ({ queue with
          overflows := saturatingAdd queue.overflows 1
          drops := saturatingAdd queue.drops 1 }, .droppedNewest item) := by
  rw [push, if_pos full]
  split
  · rfl
  · rfl
  · rename_i oldest _
    rw [newest] at oldest
    cases oldest

/-- A queue with room takes an item. -/
theorem push_of_room (room : queue.items.length ≠ queue.capacity) (item : α) : queue.push item =
      ({ queue with
          items := queue.items ++ [item]
          accepted := saturatingAdd queue.accepted 1
          highWaterMark := max queue.highWaterMark (queue.items.length + 1) },
        .accepted) := by
  rw [push, if_neg room]

/-- Remove the oldest item. -/
def pop (queue : BoundedQueue α) : BoundedQueue α × Option α :=
  match queue.items with
  | [] => ({ queue with underflows := saturatingAdd queue.underflows 1 }, none)
  | item :: rest =>
    ({ queue with
        items := rest
        delivered := saturatingAdd queue.delivered 1 }, some item)

theorem pop_of_nil (empty : queue.items = []) : queue.pop =
      ({ queue with underflows := saturatingAdd queue.underflows 1 }, none) := by
  rw [pop]
  split
  · rfl
  · simp_all

theorem pop_of_cons {item : α} {rest : List α}
    (stands : queue.items = item :: rest) :
    queue.pop =
      ({ queue with
          items := rest
          delivered := saturatingAdd queue.delivered 1 }, some item) := by
  rw [pop]
  split
  · simp_all
  · simp_all

/-- Remove all items and hand them back, the oldest first. -/
def clearWith (queue : BoundedQueue α) : BoundedQueue α × List α :=
  ({ queue with
      items := []
      drops := saturatingAdd queue.drops queue.items.length }, queue.items)

end BoundedQueue
end Rtp
end LiveAISIP
