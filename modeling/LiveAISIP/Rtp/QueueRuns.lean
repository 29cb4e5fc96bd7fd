import LiveAISIP.Rtp.Queue

/-!
# Runs of a bounded queue

Every item that a queue accepts leaves it at the front, popped, evicted or released, or is
still queued.  So the accepted items are, in the order of their pushes, those that left
followed by those that wait.
-/

namespace LiveAISIP
namespace Rtp

open List

/-- Stable queue telemetry snapshot. -/
structure QueueDiagnostics where
  capacity : Nat
  depth : Nat
  highWaterMark : Nat
  accepted : Nat
  delivered : Nat
  overflows : Nat
  drops : Nat
  underflows : Nat

/-- A call on a queue.  Items that `clear` drops are released like those that
`clear_with` hands to its caller. -/
inductive QueueCall (α : Type)
  | push (item : α)
  | pop
  | clear

/-- What a call returned. -/
inductive QueueResult (α : Type)
  | push (outcome : PushOutcome α)
  | pop (item : Option α)
  | clear (released : List α)

/-- How an accepted item left the queue. -/
inductive Departure
  | popped
  | evicted
  | released
  deriving DecidableEq

namespace QueueResult

/-- The items that a call took out of the queue, the oldest first. -/
def departed : QueueResult α → List (Departure × α)
  | push (.droppedOldest item) => [(.evicted, item)]
  | pop (some item) => [(.popped, item)]
  | clear released => released.map fun item => (.released, item)
  | _ => []

/-- The item that a pop returned. -/
def popped : QueueResult α → List α
  | pop item => item.toList
  | _ => []

end QueueResult

namespace QueueCall

/-- The item that a call offered. -/
def pushed : QueueCall α → List α
  | push item => [item]
  | _ => []

/-- The item that a call got into the queue. -/
def accepted : QueueCall α → QueueResult α → List α
  | push item, .push .accepted => [item]
  | push item, .push (.droppedOldest _) => [item]
  | _, _ => []

/-- The item that a call gave back to the one who pushed it. -/
def refused : QueueCall α → QueueResult α → List α
  | push _, .push (.droppedNewest item) => [item]
  | _, _ => []

end QueueCall

namespace BoundedQueue

variable {queue : BoundedQueue α}

/-- Current telemetry. -/
def diagnostics (queue : BoundedQueue α) : QueueDiagnostics where
  capacity := queue.capacity
  depth := queue.items.length
  highWaterMark := queue.highWaterMark
  accepted := queue.accepted
  delivered := queue.delivered
  overflows := queue.overflows
  drops := queue.drops
  underflows := queue.underflows

/-- One call. -/
def step (queue : BoundedQueue α) : QueueCall α → BoundedQueue α × QueueResult α
  | .push item => ((queue.push item).1, .push (queue.push item).2)
  | .pop => (queue.pop.1, .pop queue.pop.2)
  | .clear => (queue.clearWith.1, .clear queue.clearWith.2)

/-- The calls of a run with what they returned. -/
def history (queue : BoundedQueue α) (calls : List (QueueCall α)) :
    List (QueueCall α × QueueResult α) :=
  calls.zip (Run.outputs step queue calls)

theorem history_concat
    (queue : BoundedQueue α) (calls : List (QueueCall α)) (last : QueueCall α) :
    queue.history (calls ++ [last]) =
      queue.history calls ++ [(last, ((Run.after step queue calls).step last).2)] :=
  Run.history_concat step queue calls last

/-- The items that a run accepted, in the order of their pushes. -/
def acceptedItems (queue : BoundedQueue α) (calls : List (QueueCall α)) : List α :=
  (queue.history calls).flatMap fun entry => entry.1.accepted entry.2

/-- The items that left the queue in a run, in order. -/
def departures (queue : BoundedQueue α) (calls : List (QueueCall α)) : List (Departure × α) :=
  (queue.history calls).flatMap fun entry => entry.2.departed

/-- The items that a run popped, in order. -/
def poppedItems (queue : BoundedQueue α) (calls : List (QueueCall α)) : List α :=
  (queue.history calls).flatMap fun entry => entry.2.popped

/-- The items that a run gave back to the ones who pushed them. -/
def refusedItems (queue : BoundedQueue α) (calls : List (QueueCall α)) : List α :=
  (queue.history calls).flatMap fun entry => entry.1.refused entry.2

/-- The accepted items with what became of them; an item without a departure is queued. -/
def fates (queue : BoundedQueue α) (calls : List (QueueCall α)) : List (Option Departure × α) :=
  (queue.departures calls).map (fun entry => (some entry.1, entry.2)) ++
    (Run.after step queue calls).items.map fun item => (none, item)

/-- An item that is neither evicted nor released. -/
def kept (entry : Option Departure × α) : Bool := entry.1 = none ∨ entry.1 = some .popped

/-- The number of accepted items that were evicted or released. -/
def discarded (queue : BoundedQueue α) (calls : List (QueueCall α)) : Nat :=
  (queue.departures calls).countP fun entry => entry.1 ≠ .popped

/-- A queue within its capacity. -/
structure Fits (queue : BoundedQueue α) : Prop where
  bounded : queue.items.length ≤ queue.capacity
  positive : 0 < queue.capacity

/-- What a call does to the items. -/
structure StepSpec
    (queue : BoundedQueue α) (call : QueueCall α) (after : BoundedQueue α)
    (result : QueueResult α) : Prop where
  fits : after.Fits
  items : queue.items ++ call.accepted result = result.departed.map Prod.snd ++ after.items
  pushed : call.pushed = call.accepted result ++ call.refused result
  popped : (result.departed.filter fun entry => entry.1 = .popped).map Prod.snd = result.popped
  accepted : after.accepted = saturatingAdd queue.accepted (call.accepted result).length
  delivered : after.delivered = saturatingAdd queue.delivered result.popped.length
  highWater : after.highWaterMark = max queue.highWaterMark after.items.length ∨
    after.highWaterMark = queue.highWaterMark ∧ after.items.length ≤ queue.items.length

theorem saturatingAdd_zero {value : Nat} (counter : value ≤ 2 ^ 64 - 1) :
    saturatingAdd value 0 = value := by
  unfold saturatingAdd
  omega

theorem stepSpec (fits : queue.Fits) (counted : queue.accepted ≤ 2 ^ 64 - 1)
    (delivered : queue.delivered ≤ 2 ^ 64 - 1) (call : QueueCall α) :
    StepSpec queue call (queue.step call).1 (queue.step call).2 := by
  have noneAccepted := (saturatingAdd_zero counted).symm
  have noneDelivered := (saturatingAdd_zero delivered).symm
  cases call with
  | push item =>
    by_cases full : queue.items.length = queue.capacity
    · rcases policy : queue.policy with _ | _
      · simp only [step, push_of_full full policy]
        exact ⟨⟨fits.bounded, fits.positive⟩, by simp [QueueCall.accepted, QueueResult.departed],
          rfl, rfl, noneAccepted, noneDelivered, .inr ⟨rfl, Nat.le_refl _⟩⟩
      · rcases stands : queue.items with _ | ⟨oldest, rest⟩
        · have positive := fits.positive
          rw [stands] at full
          simp only [length_nil] at full
          omega
        · have pushed : queue.push item =
              ({ queue with
                  overflows := saturatingAdd queue.overflows 1
                  drops := saturatingAdd queue.drops 1
                  items := rest ++ [item]
                  accepted := saturatingAdd queue.accepted 1 }, .droppedOldest oldest) := by
            rw [push, if_pos full]
            simp only [policy, stands]
          simp only [step, pushed]
          refine ⟨⟨?_, fits.positive⟩, ?_, rfl, rfl, rfl, noneDelivered, .inr ⟨rfl, ?_⟩⟩
          · rw [← full, stands]
            simp
          · simp [stands, QueueCall.accepted, QueueResult.departed]
          · simp [stands]
    · simp only [step, push_of_room full]
      refine ⟨⟨?_, fits.positive⟩, ?_, rfl, rfl, rfl, noneDelivered, .inl ?_⟩
      · have bounded := fits.bounded
        simp only [length_append, length_singleton]
        omega
      · simp [QueueCall.accepted, QueueResult.departed]
      · simp
  | pop =>
    rcases stands : queue.items with _ | ⟨oldest, rest⟩
    · simp only [step, pop_of_nil stands]
      exact ⟨⟨fits.bounded, fits.positive⟩, by simp [QueueCall.accepted, QueueResult.departed],
        rfl, rfl, noneAccepted, noneDelivered, .inr ⟨rfl, Nat.le_refl _⟩⟩
    · simp only [step, pop_of_cons stands]
      have bounded := fits.bounded
      rw [stands, length_cons] at bounded
      refine ⟨⟨Nat.le_of_succ_le bounded, fits.positive⟩, ?_, rfl, rfl, noneAccepted, rfl,
        .inr ⟨rfl, ?_⟩⟩
      · simp [stands, QueueCall.accepted, QueueResult.departed]
      · simp [stands]
  | clear =>
    refine ⟨⟨Nat.zero_le _, fits.positive⟩, ?_, rfl, ?_, noneAccepted, noneDelivered,
      .inr ⟨rfl, Nat.zero_le _⟩⟩
    · simp [step, clearWith, QueueCall.accepted, QueueResult.departed, Function.comp_def]
    · simp [step, clearWith, QueueResult.departed, QueueResult.popped, filter_map,
        Function.comp_def]

/-- What holds of a queue after a run of calls. -/
structure Conserves (queue : BoundedQueue α) (calls : List (QueueCall α)) : Prop where
  bounded : (Run.after step queue calls).items.length ≤ queue.capacity
  /-- Every accepted item has left the queue or waits in it. -/
  fates : queue.acceptedItems calls = (queue.fates calls).map Prod.snd
  /-- The popped items and the queued ones are the accepted ones that were kept. -/
  order : queue.poppedItems calls ++ (Run.after step queue calls).items =
    ((queue.fates calls).filter kept).map Prod.snd
  /-- Every pushed item was accepted or given back. -/
  pushed : (calls.flatMap QueueCall.pushed).Perm
    (queue.acceptedItems calls ++ queue.refusedItems calls)
  counters : (queue.acceptedItems calls).length ≤ 2 ^ 64 - 1 →
    (Run.after step queue calls).diagnostics.accepted =
      (Run.after step queue calls).diagnostics.delivered +
        (Run.after step queue calls).diagnostics.depth + queue.discarded calls
  highWater : (∀ earlier later, calls = earlier ++ later →
      (Run.after step queue earlier).diagnostics.depth ≤
        (Run.after step queue calls).diagnostics.highWaterMark) ∧
    ∃ earlier later, calls = earlier ++ later ∧ (Run.after step queue earlier).diagnostics.depth =
        (Run.after step queue calls).diagnostics.highWaterMark

/-- The same facts in the form in which one call carries them on. -/
structure Ledger (queue : BoundedQueue α) (calls : List (QueueCall α)) : Prop where
  fits : (Run.after step queue calls).Fits
  capacity : (Run.after step queue calls).capacity = queue.capacity
  order : queue.acceptedItems calls =
    (queue.departures calls).map Prod.snd ++ (Run.after step queue calls).items
  popped : queue.poppedItems calls =
    ((queue.departures calls).filter fun entry => entry.1 = .popped).map Prod.snd
  pushed : (calls.flatMap QueueCall.pushed).Perm
    (queue.acceptedItems calls ++ queue.refusedItems calls)
  accepted : (Run.after step queue calls).accepted =
    min (queue.acceptedItems calls).length (2 ^ 64 - 1)
  delivered : (Run.after step queue calls).delivered =
    min (queue.poppedItems calls).length (2 ^ 64 - 1)
  highWater : (∀ earlier later, calls = earlier ++ later →
      (Run.after step queue earlier).items.length ≤ (Run.after step queue calls).highWaterMark) ∧
    ∃ earlier later, calls = earlier ++ later ∧
      (Run.after step queue earlier).items.length = (Run.after step queue calls).highWaterMark

theorem capacity_step (queue : BoundedQueue α) (call : QueueCall α) :
    (queue.step call).1.capacity = queue.capacity := by
  cases call with
  | push item =>
    simp only [step, push]
    split
    · split <;> rfl
    · rfl
  | pop =>
    simp only [step, pop]
    split <;> rfl
  | clear => rfl

theorem ledger_step {calls : List (QueueCall α)} (ledger : Ledger queue calls)
    (call : QueueCall α) : Ledger queue (calls ++ [call]) := by
  have spec := stepSpec ledger.fits (by rw [ledger.accepted]; omega)
    (by rw [ledger.delivered]; omega) call
  have after : Run.after step queue (calls ++ [call]) =
      ((Run.after step queue calls).step call).1 := Run.after_append _ _ _ _
  have accepted : queue.acceptedItems (calls ++ [call]) = queue.acceptedItems calls ++
      call.accepted ((Run.after step queue calls).step call).2 := by
    simp [acceptedItems, history_concat]
  have departed : queue.departures (calls ++ [call]) = queue.departures calls ++
      ((Run.after step queue calls).step call).2.departed := by
    simp [departures, history_concat]
  have popped : queue.poppedItems (calls ++ [call]) = queue.poppedItems calls ++
      ((Run.after step queue calls).step call).2.popped := by
    simp [poppedItems, history_concat]
  have refused : queue.refusedItems (calls ++ [call]) = queue.refusedItems calls ++
      call.refused ((Run.after step queue calls).step call).2 := by
    simp [refusedItems, history_concat]
  refine ⟨?_, ?_, ?_, ?_, ?_, ?_, ?_, ?_⟩
  · rw [after]
    exact spec.fits
  · rw [after, capacity_step]
    exact ledger.capacity
  · rw [after, accepted, departed, ledger.order, append_assoc, spec.items]
    simp
  · rw [popped, departed, ledger.popped, filter_append, map_append, spec.popped]
  · rw [accepted, refused, flatMap_append, flatMap_singleton, spec.pushed]
    refine (ledger.pushed.append_right _).trans ?_
    simp only [append_assoc]
    apply Perm.append_left
    rw [← append_assoc, ← append_assoc]
    exact perm_append_comm.append_right _
  · rw [after, spec.accepted, accepted, ledger.accepted, length_append]
    unfold saturatingAdd
    omega
  · rw [after, spec.delivered, popped, ledger.delivered, length_append]
    unfold saturatingAdd
    omega
  · obtain ⟨above, earlier, later, split, reached⟩ := ledger.highWater
    rw [after]
    have here := above calls [] (append_nil _).symm
    constructor
    · intro first second split
      rcases eq_nil_or_concat second with rfl | ⟨shorter, last, rfl⟩
      · rw [append_nil] at split
        rw [← split, after]
        rcases spec.highWater with raised | ⟨same, shorter⟩
        · rw [raised]
          exact Nat.le_max_right _ _
        · rw [same]
          exact Nat.le_trans shorter here
      · rw [concat_eq_append, ← append_assoc] at split
        obtain ⟨same, -⟩ := append_inj' split rfl
        have bound := above first shorter same
        rcases spec.highWater with raised | ⟨same, -⟩
        · rw [raised]
          exact Nat.le_trans bound (Nat.le_max_left _ _)
        · rw [same]
          exact bound
    · rcases spec.highWater with raised | ⟨same, -⟩
      · rw [raised]
        rcases Nat.le_total (Run.after step queue calls).highWaterMark
            ((Run.after step queue calls).step call).1.items.length with higher | lower
        · exact ⟨calls ++ [call], [], by simp, by rw [after, Nat.max_eq_right higher]⟩
        · exact ⟨earlier, later ++ [call], by simp [split], by rw [reached, Nat.max_eq_left lower]⟩
      · rw [same]
        exact ⟨earlier, later ++ [call], by simp [split], reached⟩

theorem ledger_of_new
    {grants : Nat → Bool} {capacity : Nat} {policy : OverflowPolicy}
    (created : new grants capacity policy = .ok queue) (calls : List (QueueCall α)) :
    Ledger queue calls := by
  induction calls using reverseRecOn with
  | nil =>
    unfold new at created
    split_ifs at created with invalid granted
    cases created
    exact ⟨⟨Nat.zero_le _, by simp only [Run.after_nil]; omega⟩, rfl, rfl, rfl, .refl _, rfl, rfl,
      fun earlier later split => by
        obtain ⟨rfl, rfl⟩ := append_eq_nil_iff.mp split.symm
        exact Nat.le_refl _, [], [], rfl, rfl⟩
  | append_singleton calls call ih =>
    exact ledger_step ih call

/-- First in, first out, nothing lost and nothing twice. -/
theorem queue_conserves
    {grants : Nat → Bool} {capacity : Nat} {policy : OverflowPolicy} {queue : BoundedQueue α}
    (created : new grants capacity policy = .ok queue) (calls : List (QueueCall α)) :
    Conserves queue calls := by
  have ledger := ledger_of_new created calls
  have fates : queue.acceptedItems calls = (queue.fates calls).map Prod.snd := by
    rw [ledger.order, BoundedQueue.fates]
    simp [Function.comp_def]
  refine ⟨ledger.capacity ▸ ledger.fits.bounded, fates, ?_, ledger.pushed, ?_, ledger.highWater⟩
  · rw [ledger.popped, BoundedQueue.fates, filter_append, map_append]
    congr 1
    · simp [kept, filter_map, Function.comp_def]
    · have all : ((Run.after step queue calls).items.map fun item =>
          ((none : Option Departure), item)).filter kept =
          (Run.after step queue calls).items.map fun item => (none, item) := by
        apply filter_eq_self.mpr
        simp [kept]
      rw [all]
      simp [Function.comp_def]
  · intro unsaturated
    have total : (queue.acceptedItems calls).length =
        (queue.departures calls).length + (Run.after step queue calls).items.length := by
      rw [ledger.order]
      simp
    have parts : (queue.departures calls).length =
        (queue.poppedItems calls).length + queue.discarded calls := by
      rw [ledger.popped, length_map, ← countP_eq_length_filter, discarded,
        length_eq_countP_add_countP (fun entry => entry.1 = Departure.popped)]
      simp
    simp only [diagnostics, ledger.accepted, ledger.delivered]
    omega

/-- A queue of two places. -/
theorem queue_conserves_two :
    ∃ queue : BoundedQueue Nat, new (fun _ => true) 2 .dropOldest = .ok queue ∧
      Conserves queue [.push 1, .push 2, .push 3, .pop, .clear] :=
  ⟨_, rfl, queue_conserves (show new (fun _ => true) 2 .dropOldest = .ok _ from rfl) _⟩

end BoundedQueue
end Rtp
end LiveAISIP
