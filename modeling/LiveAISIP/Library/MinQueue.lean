import Mathlib.Data.List.Sort

/-!
# Priority queues

A priority queue holds its items in the order in which it yields them, the
least key first.  Items of equal keys are yielded in an unspecified order, so
nothing here depends on it.
-/

namespace LiveAISIP

open List

/-- Items in the order of their keys. -/
structure MinQueue [LinearOrder κ] (key : α → κ) where
  items : List α
  sorted : items.Pairwise fun first second => key first ≤ key second

namespace MinQueue

variable [LinearOrder κ] {key : α → κ}

variable {queue : MinQueue key}

/-- The queue without items. -/
def empty : MinQueue key := ⟨[], .nil⟩

/-- Add an item. -/
def push (queue : MinQueue key) (item : α) : MinQueue key where
  items := queue.items.orderedInsert (fun first second => key first ≤ key second) item
  sorted := by
    have total : Std.Total fun first second => key first ≤ key second :=
      ⟨fun first second => le_total (key first) (key second)⟩
    have transitive : IsTrans α fun first second => key first ≤ key second :=
      ⟨fun _ _ _ => le_trans⟩
    exact queue.sorted.orderedInsert item queue.items

/-- The item of the least key. -/
def peek (queue : MinQueue key) : Option α := queue.items.head?

/-- The queue without the item of the least key. -/
def pop (queue : MinQueue key) : MinQueue key where
  items := queue.items.tail
  sorted := queue.sorted.tail

/-- The items that pass a test. -/
def retain (queue : MinQueue key) (keep : α → Bool) : MinQueue key where
  items := queue.items.filter keep
  sorted := queue.sorted.filter keep

/-- The number of items. -/
def length (queue : MinQueue key) : Nat := queue.items.length

@[simp] theorem length_empty : (empty : MinQueue key).length = 0 := rfl

@[simp] theorem items_empty : (empty : MinQueue key).items = [] := rfl

/-- Adding an item permutes it into the others. -/
theorem perm_push (queue : MinQueue key) (item : α) :
    (queue.push item).items.Perm (item :: queue.items) :=
  perm_orderedInsert _ item queue.items

@[simp] theorem mem_push {item other : α} :
    other ∈ (queue.push item).items ↔ other = item ∨ other ∈ queue.items := by
  rw [(queue.perm_push item).mem_iff, mem_cons]

@[simp] theorem length_push (queue : MinQueue key) (item : α) :
    (queue.push item).length = queue.length + 1 :=
  (queue.perm_push item).length_eq

@[simp] theorem mem_retain {keep : α → Bool} {item : α} :
    item ∈ (queue.retain keep).items ↔ item ∈ queue.items ∧ keep item = true :=
  mem_filter

theorem length_retain_le (queue : MinQueue key) (keep : α → Bool) :
    (queue.retain keep).length ≤ queue.length :=
  length_filter_le keep queue.items

/-- Only the queue without items yields none. -/
theorem items_of_peek_eq_none (unyielding : queue.peek = none) : queue.items = [] :=
  head?_eq_none_iff.mp unyielding

/-- The yielded item stands before the remaining ones. -/
theorem items_of_peek {first : α} (yields : queue.peek = some first) :
    queue.items = first :: queue.pop.items := by
  obtain ⟨rest, split⟩ := head?_eq_some_iff.mp yields
  simp [pop, split]

/-- The yielded item has the least key. -/
theorem key_le_of_peek {first item : α} (yields : queue.peek = some first)
    (member : item ∈ queue.items) :
    key first ≤ key item := by
  have sorted := queue.sorted
  rw [items_of_peek yields] at sorted member
  rcases mem_cons.mp member with rfl | later
  · exact le_refl _
  · exact rel_of_pairwise_cons sorted later

/-- Taking the yielded item leaves one less. -/
theorem length_pop {first : α} (yields : queue.peek = some first) :
    queue.length = queue.pop.length + 1 := by
  simp [length, items_of_peek yields]

end MinQueue
end LiveAISIP
