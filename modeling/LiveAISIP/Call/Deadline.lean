import LiveAISIP.Library.MinQueue
import LiveAISIP.Library.Run
import Mathlib.Algebra.Group.Nat.Defs
import Mathlib.Data.Finset.Card
import Mathlib.Data.Prod.Lex

/-!
# Deadline scheduler

The bounded monotonic deadline scheduler of `call/execution/deadline.rs`.
Canceling a deadline only removes its identity from the active set; its heap
entry stays behind as a tombstone until a poll meets it or a full heap is
compacted.  The scheduler represents the set of the deadlines that were
scheduled and neither canceled nor returned.
-/

namespace LiveAISIP
namespace Call

open MinQueue Finset Run

/-- Hard ceiling for one runtime scheduler. -/
def maxDeadlines : Nat := 1048576

/-- Subsystem owning a scheduled deadline. -/
inductive DeadlineOwner
  | transaction
  | dialog
  | call
  | media
  | transport
  deriving DecidableEq

/-- Unique cancellation handle. -/
structure DeadlineId where
  get : Nat
  deriving DecidableEq

/-- Due deadline carrying owner generation and a low-cardinality event kind;
its time is a number of nanoseconds. -/
structure DueDeadline where
  id : DeadlineId
  owner : DeadlineOwner
  generation : UInt64
  kind : UInt16
  at_ : Nat
  deriving DecidableEq

/-- Deadlines are ordered by their time, then by their identity. -/
def DueDeadline.key (deadline : DueDeadline) : Nat ×ₗ Nat := toLex (deadline.at_, deadline.id.get)

theorem DueDeadline.at_le_of_key_le
    {first second : DueDeadline} (ordered : first.key ≤ second.key) :
    first.at_ ≤ second.at_ := by
  rcases Prod.Lex.toLex_le_toLex.mp ordered with earlier | ⟨same, -⟩
  · exact Nat.le_of_lt earlier
  · exact Nat.le_of_eq same

/-- Deadline scheduler failure. -/
inductive DeadlineError
  | invalidCapacity (value maximum : Nat)
  | capacity (maximum : Nat)
  | zeroGeneration
  | idExhausted
  | allocationFailed

/-- Actor-owned scheduler with bounded active occupancy. -/
structure DeadlineScheduler where
  maximum : Nat
  nextId : Nat
  heap : MinQueue DueDeadline.key
  active : Finset DeadlineId

namespace DeadlineScheduler

variable {scheduler : DeadlineScheduler}

/-- Create an empty scheduler. -/
def new (maximum : Nat) : Except DeadlineError DeadlineScheduler :=
  if maximum = 0 ∨ maxDeadlines < maximum then .error (.invalidCapacity maximum maxDeadlines)
  else .ok ⟨maximum, 1, .empty, ∅⟩

/-- The tombstones leave a full heap. -/
def compact (scheduler : DeadlineScheduler) : DeadlineScheduler :=
  if scheduler.maximum ≤ scheduler.heap.length then
    { scheduler with
        heap := scheduler.heap.retain fun entry =>
          decide (entry.id ∈ scheduler.active) }
  else
    scheduler

/-- Schedule one absolute monotonic deadline; `heapReserved` and
`activeReserved` tell whether the storage for it could be reserved. -/
def schedule
    (scheduler : DeadlineScheduler) (at_ : Nat) (owner : DeadlineOwner)
    (generation : UInt64) (kind : UInt16) (heapReserved activeReserved : Bool) :
    DeadlineScheduler × Except DeadlineError DeadlineId :=
  if generation = 0 then
    (scheduler, .error .zeroGeneration)
  else if scheduler.maximum ≤ scheduler.active.card then
    (scheduler, .error (.capacity scheduler.maximum))
  else
    let scheduler := scheduler.compact
    if ¬heapReserved ∨ ¬activeReserved then
      (scheduler, .error .allocationFailed)
    else if scheduler.nextId + 1 < 2 ^ 64 then
      let id := DeadlineId.mk scheduler.nextId
      ({ scheduler with
          nextId := scheduler.nextId + 1
          heap := scheduler.heap.push ⟨id, owner, generation, kind, at_⟩
          active := insert id scheduler.active }, .ok id)
    else
      (scheduler, .error .idExhausted)

/-- Cancel one active deadline. -/
def cancel
    (scheduler : DeadlineScheduler) (id : DeadlineId) : DeadlineScheduler × Bool :=
  ({ scheduler with active := scheduler.active.erase id }, decide (id ∈ scheduler.active))

/-- Return the next active deadline at or before `now`. -/
def poll
    (scheduler : DeadlineScheduler) (now : Nat) : DeadlineScheduler × Option DueDeadline :=
  match _yielded : scheduler.heap.peek with
  | none => (scheduler, none)
  | some entry =>
    if now < entry.at_ then
      (scheduler, none)
    else if entry.id ∈ scheduler.active then
      ({ scheduler with
          heap := scheduler.heap.pop
          active := scheduler.active.erase entry.id }, some entry)
    else
      poll { scheduler with heap := scheduler.heap.pop } now
termination_by scheduler.heap.length
decreasing_by
  rw [length_pop _yielded]
  exact Nat.lt_succ_self _

/-- Return the earliest active absolute deadline, without the tombstones
before it. -/
def nextDeadline
    (scheduler : DeadlineScheduler) : DeadlineScheduler × Option Nat :=
  match _yielded : scheduler.heap.peek with
  | none => (scheduler, none)
  | some entry =>
    if entry.id ∈ scheduler.active then (scheduler, some entry.at_)
    else nextDeadline { scheduler with heap := scheduler.heap.pop }
termination_by scheduler.heap.length
decreasing_by
  rw [length_pop _yielded]
  exact Nat.lt_succ_self _

/-- The number of active deadlines. -/
def len (scheduler : DeadlineScheduler) : Nat := scheduler.active.card

/-- The heap entries that are no tombstones. -/
def live (scheduler : DeadlineScheduler) : Finset DueDeadline :=
  (scheduler.heap.items.filter fun entry =>
    decide (entry.id ∈ scheduler.active)).toFinset

@[simp] theorem mem_live {deadline : DueDeadline} :
    deadline ∈ scheduler.live ↔
      deadline ∈ scheduler.heap.items ∧ deadline.id ∈ scheduler.active := by
  simp [live]

/-- Every active identity has one heap entry, identities are handed out once,
and the heap is bounded. -/
structure WellFormed (scheduler : DeadlineScheduler) : Prop where
  distinct : (scheduler.heap.items.map DueDeadline.id).Nodup
  issued : ∀ entry ∈ scheduler.heap.items, entry.id.get < scheduler.nextId
  held : ∀ id ∈ scheduler.active, ∃ entry ∈ scheduler.heap.items, entry.id = id
  bounded : scheduler.heap.length ≤ scheduler.maximum

theorem wellFormed_new
    {maximum : Nat} (created : new maximum = .ok scheduler) :
    scheduler.WellFormed ∧ scheduler.live = ∅ ∧ scheduler.maximum = maximum := by
  unfold new at created
  split_ifs at created
  cases created
  exact ⟨⟨by simp, by simp, by simp, by simp⟩, by simp [live], rfl⟩

section WellFormed

variable {entry : DueDeadline}

/-- Two entries of one identity are the same. -/
theorem WellFormed.eq_of_id
    (wellFormed : scheduler.WellFormed) {first second : DueDeadline}
    (firstHeld : first ∈ scheduler.heap.items)
    (secondHeld : second ∈ scheduler.heap.items) (same : first.id = second.id) :
    first = second :=
  List.inj_on_of_nodup_map wellFormed.distinct firstHeld secondHeld same

/-- The active identities are those of the represented set. -/
theorem WellFormed.image_live (wellFormed : scheduler.WellFormed) :
    scheduler.live.image DueDeadline.id = scheduler.active := by
  ext id
  simp only [mem_image, mem_live]
  constructor
  · rintro ⟨entry, ⟨-, active⟩, rfl⟩
    exact active
  · intro active
    obtain ⟨entry, held, rfl⟩ := wellFormed.held id active
    exact ⟨entry, ⟨held, active⟩, rfl⟩

/-- The active deadlines are counted once each. -/
theorem WellFormed.card_live (wellFormed : scheduler.WellFormed) :
    scheduler.live.card = scheduler.len := by
  rw [len, ← wellFormed.image_live, card_image_of_injOn]
  intro first firstLive second secondLive same
  exact wellFormed.eq_of_id (mem_live.mp firstLive).1 (mem_live.mp secondLive).1 same

/-- A compacted heap keeps the active identities and the represented set, and
leaves room for one more entry where one more may be active. -/
theorem WellFormed.compact
    (wellFormed : scheduler.WellFormed) (room : scheduler.active.card < scheduler.maximum) :
    scheduler.compact.WellFormed ∧ scheduler.compact.live = scheduler.live ∧
      scheduler.compact.active = scheduler.active ∧
      scheduler.compact.nextId = scheduler.nextId ∧
      scheduler.compact.maximum = scheduler.maximum ∧
      scheduler.compact.heap.length < scheduler.maximum := by
  unfold DeadlineScheduler.compact
  split_ifs with full
  · have unique : (scheduler.heap.items.filter fun entry =>
        decide (entry.id ∈ scheduler.active)).Nodup :=
      (List.Nodup.of_map _ wellFormed.distinct).filter _
    have length : (scheduler.heap.retain fun entry =>
        decide (entry.id ∈ scheduler.active)).length = scheduler.active.card := by
      have counted := wellFormed.card_live
      rw [live, List.toFinset_card_of_nodup unique] at counted
      exact counted
    refine ⟨⟨?_, ?_, ?_, ?_⟩, ?_, rfl, rfl, rfl, ?_⟩
    · exact wellFormed.distinct.sublist (List.filter_sublist.map _)
    · intro entry retained
      exact wellFormed.issued entry (mem_retain.mp retained).1
    · intro id active
      obtain ⟨entry, held, rfl⟩ := wellFormed.held id active
      exact ⟨entry, mem_retain.mpr ⟨held, by simpa using active⟩, rfl⟩
    · exact Nat.le_trans (scheduler.heap.length_retain_le _) wellFormed.bounded
    · ext deadline
      simp only [mem_live, mem_retain, decide_eq_true_eq]
      tauto
    · simp only [length]
      exact room
  · exact ⟨wellFormed, rfl, rfl, rfl, rfl, Nat.lt_of_not_le full⟩

/-- The scheduler reached by an operation is well formed, its capacity stays,
and each of its active identities was active before or is handed out anew. -/
structure Advances (before after : DeadlineScheduler) : Prop where
  wellFormed : after.WellFormed
  maximum : after.maximum = before.maximum
  nextId : before.nextId ≤ after.nextId
  active : ∀ id ∈ after.active, id ∈ before.active ∨ before.nextId ≤ id.get

theorem WellFormed.advances (wellFormed : scheduler.WellFormed) : scheduler.Advances scheduler :=
  ⟨wellFormed, rfl, Nat.le_refl _, fun _ active => .inl active⟩

/-- A scheduled deadline joins the represented set under a fresh identity; a
refused one changes nothing. -/
theorem WellFormed.schedule
    (wellFormed : scheduler.WellFormed) (at_ : Nat) (owner : DeadlineOwner)
    (generation : UInt64) (kind : UInt16) (heapReserved activeReserved : Bool) :
    ∃ next outcome, scheduler.schedule at_ owner generation kind heapReserved activeReserved =
        (next, outcome) ∧
      scheduler.Advances next ∧
      match outcome with
      | .error _ => next.live = scheduler.live
      | .ok id => next.live = insert ⟨id, owner, generation, kind, at_⟩ scheduler.live := by
  unfold DeadlineScheduler.schedule
  by_cases zero : generation = 0
  · rw [if_pos zero]
    exact ⟨_, _, rfl, wellFormed.advances, rfl⟩
  rw [if_neg zero]
  by_cases full : scheduler.maximum ≤ scheduler.active.card
  · rw [if_pos full]
    exact ⟨_, _, rfl, wellFormed.advances, rfl⟩
  rw [if_neg full]
  obtain ⟨compacted, sameLive, sameActive, sameNext, sameMaximum, room⟩ :=
    wellFormed.compact (Nat.lt_of_not_le full)
  have advances : scheduler.Advances scheduler.compact :=
    ⟨compacted, sameMaximum, Nat.le_of_eq sameNext.symm,
      fun id active => .inl (sameActive ▸ active)⟩
  simp only
  split_ifs with unreserved available
  · exact ⟨_, _, rfl, advances, sameLive⟩
  · refine ⟨_, _, rfl, ⟨⟨?_, ?_, ?_, ?_⟩, sameMaximum, ?_, ?_⟩, ?_⟩
    · rw [((scheduler.compact.heap.perm_push _).map DueDeadline.id).nodup_iff,
        List.map_cons, List.nodup_cons]
      refine ⟨?_, compacted.distinct⟩
      intro reused
      obtain ⟨entry, held, same⟩ := List.mem_map.mp reused
      have issued := compacted.issued entry held
      simp [same] at issued
    · intro entry held
      rcases mem_push.mp held with rfl | old
      · exact Nat.lt_succ_self _
      · exact Nat.lt_succ_of_lt (compacted.issued entry old)
    · intro id active
      rcases mem_insert.mp active with rfl | old
      · exact ⟨_, mem_push.mpr (.inl rfl), rfl⟩
      · obtain ⟨entry, held, same⟩ := compacted.held id old
        exact ⟨entry, mem_push.mpr (.inr held), same⟩
    · rw [length_push, sameMaximum]
      exact room
    · exact Nat.le_trans advances.nextId (Nat.le_succ _)
    · intro id active
      rcases mem_insert.mp active with rfl | old
      · exact .inr advances.nextId
      · exact advances.active id old
    · ext deadline
      rw [← sameLive, mem_insert, mem_live, mem_live, mem_push, mem_insert]
      constructor
      · rintro ⟨rfl | held, fresh | active⟩
        · exact .inl rfl
        · exact .inl rfl
        · have issued := compacted.issued deadline held
          simp [fresh] at issued
        · exact .inr ⟨held, active⟩
      · rintro (rfl | ⟨held, active⟩)
        · exact ⟨.inl rfl, .inl rfl⟩
        · exact ⟨.inr held, .inr active⟩
  · exact ⟨_, _, rfl, advances, sameLive⟩

/-- A canceled deadline leaves the represented set. -/
theorem WellFormed.cancel
    (wellFormed : scheduler.WellFormed) (id : DeadlineId) :
    scheduler.Advances (scheduler.cancel id).1 ∧ (scheduler.cancel id).1.live =
        scheduler.live.filter (fun deadline => deadline.id ≠ id) ∧
      ((scheduler.cancel id).2 = true ↔ ∃ deadline ∈ scheduler.live, deadline.id = id) := by
  refine ⟨⟨⟨wellFormed.distinct, wellFormed.issued, ?_, wellFormed.bounded⟩, rfl,
    Nat.le_refl _, ?_⟩, ?_, ?_⟩
  · intro other active
    exact wellFormed.held other (mem_of_mem_erase active)
  · intro other active
    exact .inl (mem_of_mem_erase active)
  · ext deadline
    simp only [DeadlineScheduler.cancel, mem_live, mem_filter, mem_erase]
    tauto
  · have image := Finset.ext_iff.mp wellFormed.image_live id
    rw [mem_image] at image
    simp [DeadlineScheduler.cancel, ← image]

/-- A deadline of the set that no other one precedes. -/
def Earliest (pending : Finset DueDeadline) (deadline : DueDeadline) : Prop :=
  deadline ∈ pending ∧ ∀ other ∈ pending, deadline.key ≤ other.key

/-- Without its first entry, a heap stays well formed when that entry is a
tombstone. -/
theorem WellFormed.pop
    (wellFormed : scheduler.WellFormed)
    (yielded : scheduler.heap.peek = some entry) {active : Finset DeadlineId}
    (remaining : ∀ id ∈ active, id ∈ scheduler.active ∧ id ≠ entry.id) :
    scheduler.Advances { scheduler with heap := scheduler.heap.pop, active := active } := by
  have items := items_of_peek yielded
  have distinct := wellFormed.distinct
  have issued := wellFormed.issued
  rw [items] at distinct issued
  refine ⟨⟨(List.nodup_cons.mp distinct).2, ?_, ?_, ?_⟩, rfl, Nat.le_refl _, ?_⟩
  · intro other held
    exact issued other (List.mem_cons_of_mem _ held)
  · intro id isActive
    obtain ⟨wasActive, different⟩ := remaining id isActive
    obtain ⟨other, held, rfl⟩ := wellFormed.held id wasActive
    rw [items] at held
    rcases List.mem_cons.mp held with rfl | later
    · exact absurd rfl different
    · exact ⟨other, later, rfl⟩
  · have length := length_pop yielded
    have bounded := wellFormed.bounded
    simp only
    omega
  · intro id isActive
    exact .inl (remaining id isActive).1

theorem Advances.trans
    {before between after : DeadlineScheduler} (first : before.Advances between)
    (second : between.Advances after) :
    before.Advances after := by
  refine ⟨second.wellFormed, second.maximum.trans first.maximum,
    Nat.le_trans first.nextId second.nextId, fun id active => ?_⟩
  rcases second.active id active with old | fresh
  · exact first.active id old
  · exact .inr (Nat.le_trans first.nextId fresh)

/-- A tombstone at the front leaves without changing the represented set. -/
theorem WellFormed.pop_tombstone
    (wellFormed : scheduler.WellFormed)
    (yielded : scheduler.heap.peek = some entry) (canceled : entry.id ∉ scheduler.active) :
    scheduler.Advances { scheduler with heap := scheduler.heap.pop } ∧
      ({ scheduler with heap := scheduler.heap.pop } : DeadlineScheduler).live =
        scheduler.live := by
  refine ⟨wellFormed.pop yielded fun id active => ⟨active, ?_⟩, ?_⟩
  · rintro rfl
    exact canceled active
  · ext deadline
    simp only [mem_live, items_of_peek yielded, List.mem_cons]
    constructor
    · rintro ⟨held, active⟩
      exact ⟨.inr held, active⟩
    · rintro ⟨rfl | held, active⟩
      · exact absurd active canceled
      · exact ⟨held, active⟩

/-- An active entry at the front is the earliest deadline. -/
theorem earliest_of_peek (yielded : scheduler.heap.peek = some entry)
    (active : entry.id ∈ scheduler.active) :
    Earliest scheduler.live entry := by
  have held : entry ∈ scheduler.heap.items := by
    simp [items_of_peek yielded]
  refine ⟨mem_live.mpr ⟨held, active⟩, fun other isLive => ?_⟩
  exact key_le_of_peek yielded (mem_live.mp isLive).1

/-- A heap without entries represents the empty set. -/
theorem live_of_peek_eq_none (unyielding : scheduler.heap.peek = none) :
    scheduler.live = ∅ := by
  simp [live, items_of_peek_eq_none unyielding]

/-- A poll returns the earliest deadline when it is due, which then leaves the
represented set; otherwise no deadline is due and the set stays. -/
theorem WellFormed.poll (wellFormed : scheduler.WellFormed) (now : Nat) :
    ∃ next due, scheduler.poll now = (next, due) ∧ scheduler.Advances next ∧
      match due with
      | none => next.live = scheduler.live ∧ ∀ deadline ∈ scheduler.live, now < deadline.at_
      | some deadline => next.live = scheduler.live.erase deadline ∧
          Earliest scheduler.live deadline ∧ deadline.at_ ≤ now := by
  fun_induction DeadlineScheduler.poll scheduler now with
  | case1 scheduler unyielding =>
    exact ⟨_, _, rfl, wellFormed.advances, rfl, by simp [live_of_peek_eq_none unyielding]⟩
  | case2 scheduler entry yielded early =>
    refine ⟨_, _, rfl, wellFormed.advances, rfl, fun deadline isLive => ?_⟩
    exact Nat.lt_of_lt_of_le early (DueDeadline.at_le_of_key_le
      (key_le_of_peek yielded (mem_live.mp isLive).1))
  | case3 scheduler entry yielded due active =>
    refine ⟨_, _, rfl, wellFormed.pop yielded ?_, ?_,
      earliest_of_peek yielded active, Nat.le_of_not_lt due⟩
    · intro id remaining
      exact ⟨mem_of_mem_erase remaining, ne_of_mem_erase remaining⟩
    · have items := items_of_peek yielded
      have isHead : entry ∈ scheduler.heap.items := by simp [items]
      ext deadline
      simp only [mem_live, mem_erase, items, List.mem_cons]
      constructor
      · rintro ⟨held, different, isActive⟩
        refine ⟨?_, .inr held, isActive⟩
        rintro rfl
        exact different rfl
      · rintro ⟨different, rfl | held, isActive⟩
        · exact absurd rfl different
        · refine ⟨held, fun same => different ?_, isActive⟩
          exact wellFormed.eq_of_id (by simp [items, held]) isHead same
  | case4 scheduler entry yielded due canceled ih =>
    obtain ⟨advances, sameLive⟩ := wellFormed.pop_tombstone yielded canceled
    obtain ⟨next, outcome, polled, further, meaning⟩ := ih advances.wellFormed
    rw [sameLive] at meaning
    exact ⟨next, outcome, polled, advances.trans further, meaning⟩

/-- The next deadline is the time of the earliest deadline. -/
theorem WellFormed.nextDeadline (wellFormed : scheduler.WellFormed) :
    ∃ next at_, scheduler.nextDeadline = (next, at_) ∧
      scheduler.Advances next ∧ next.live = scheduler.live ∧
      match at_ with
      | none => scheduler.live = ∅
      | some at_ => ∃ deadline, Earliest scheduler.live deadline ∧ deadline.at_ = at_ := by
  fun_induction DeadlineScheduler.nextDeadline scheduler with
  | case1 scheduler unyielding =>
    exact ⟨_, _, rfl, wellFormed.advances, rfl, live_of_peek_eq_none unyielding⟩
  | case2 scheduler entry yielded active =>
    exact ⟨_, _, rfl, wellFormed.advances, rfl, entry, earliest_of_peek yielded active, rfl⟩
  | case3 scheduler entry yielded canceled ih =>
    obtain ⟨advances, sameLive⟩ := wellFormed.pop_tombstone yielded canceled
    obtain ⟨next, outcome, found, further, kept, meaning⟩ := ih advances.wellFormed
    rw [sameLive] at meaning kept
    exact ⟨next, outcome, found, advances.trans further, kept, meaning⟩

/-- The earliest deadline is unique. -/
theorem WellFormed.earliest_unique
    (wellFormed : scheduler.WellFormed) {first second : DueDeadline}
    (firstEarliest : Earliest scheduler.live first)
    (secondEarliest : Earliest scheduler.live second) :
    first = second := by
  have same : first.key = second.key := le_antisymm (firstEarliest.2 second secondEarliest.1)
      (secondEarliest.2 first firstEarliest.1)
  have sameId : first.id.get = second.id.get := (Prod.mk.inj (toLex.injective same)).2
  refine wellFormed.eq_of_id (mem_live.mp firstEarliest.1).1 (mem_live.mp secondEarliest.1).1 ?_
  cases first with
  | mk firstId => cases firstId; cases second with
    | mk secondId => cases secondId; simpa using sameId

/-- The scheduler answers as the ordered set of pending deadlines. -/
structure Serves
    (scheduler : DeadlineScheduler) (pending : Finset DueDeadline) : Prop where
  due : ∀ now deadline, (scheduler.poll now).2 = some deadline ↔
    Earliest pending deadline ∧ deadline.at_ ≤ now
  early : ∀ now, (scheduler.poll now).2 = none ↔ ∀ deadline ∈ pending, now < deadline.at_
  next : ∀ at_, scheduler.nextDeadline.2 = some at_ ↔
    ∃ deadline, Earliest pending deadline ∧ deadline.at_ = at_
  empty : scheduler.nextDeadline.2 = none ↔ pending = ∅
  len : scheduler.len = pending.card

/-- A well-formed scheduler serves the set that it represents. -/
theorem WellFormed.serves (wellFormed : scheduler.WellFormed) :
    scheduler.Serves scheduler.live := by
  have notEarly {now : Nat} {deadline : DueDeadline}
      (early : ∀ deadline ∈ scheduler.live, now < deadline.at_)
      (earliest : Earliest scheduler.live deadline) :
      ¬deadline.at_ ≤ now :=
    Nat.not_le_of_lt (early deadline earliest.1)
  refine ⟨fun now deadline => ?_, fun now => ?_, fun at_ => ?_, ?_, wellFormed.card_live.symm⟩
  · obtain ⟨next, outcome, polled, -, meaning⟩ := wellFormed.poll now
    rw [polled]
    cases outcome with
    | none =>
      simp only [reduceCtorEq, false_iff, not_and]
      exact fun earliest => notEarly meaning.2 earliest
    | some returned =>
      simp only [Option.some.injEq]
      constructor
      · rintro rfl
        exact meaning.2
      · rintro ⟨earliest, -⟩
        exact wellFormed.earliest_unique meaning.2.1 earliest
  · obtain ⟨next, outcome, polled, -, meaning⟩ := wellFormed.poll now
    rw [polled]
    cases outcome with
    | none => simpa using meaning.2
    | some returned =>
      simp only [reduceCtorEq, false_iff]
      exact fun early => notEarly early meaning.2.1 meaning.2.2
  · obtain ⟨next, outcome, found, -, -, meaning⟩ := wellFormed.nextDeadline
    rw [found]
    cases outcome with
    | none =>
      have empty : scheduler.live = ∅ := meaning
      simp [empty, Earliest]
    | some first =>
      obtain ⟨deadline, earliest, rfl⟩ := meaning
      simp only [Option.some.injEq]
      constructor
      · rintro rfl
        exact ⟨deadline, earliest, rfl⟩
      · rintro ⟨other, otherEarliest, rfl⟩
        rw [wellFormed.earliest_unique earliest otherEarliest]
  · obtain ⟨next, outcome, found, -, -, meaning⟩ := wellFormed.nextDeadline
    rw [found]
    cases outcome with
    | none => simpa using meaning
    | some first =>
      obtain ⟨deadline, earliest, -⟩ := meaning
      simp only [reduceCtorEq, false_iff]
      exact ne_empty_of_mem earliest.1

end WellFormed

/-- One call of the scheduler by its owner. -/
inductive Operation
  | schedule
      (at_ : Nat)
      (owner : DeadlineOwner)
      (generation : UInt64)
      (kind : UInt16)
      (heapReserved activeReserved : Bool)
  | cancel (id : DeadlineId)
  | poll (now : Nat)
  | nextDeadline

/-- What a call returns. -/
inductive Answer
  | scheduled (outcome : Except DeadlineError DeadlineId)
  | canceled (removed : Bool)
  | polled (due : Option DueDeadline)
  | next (at_ : Option Nat)

/-- Perform one call. -/
def step
    (scheduler : DeadlineScheduler) : Operation → DeadlineScheduler × Answer
  | .schedule at_ owner generation kind heapReserved activeReserved =>
    let result := scheduler.schedule at_ owner generation kind heapReserved activeReserved
    (result.1, .scheduled result.2)
  | .cancel id => ((scheduler.cancel id).1, .canceled (scheduler.cancel id).2)
  | .poll now => ((scheduler.poll now).1, .polled (scheduler.poll now).2)
  | .nextDeadline =>
    (scheduler.nextDeadline.1, .next scheduler.nextDeadline.2)

/-- What a call and its answer make of the set of the deadlines that were
scheduled and neither canceled nor returned. -/
def observe
    (pending : Finset DueDeadline) : Operation → Answer → Finset DueDeadline
  | .schedule at_ owner generation kind _ _, .scheduled (.ok id) =>
    insert ⟨id, owner, generation, kind, at_⟩ pending
  | .cancel id, _ => pending.filter fun deadline => deadline.id ≠ id
  | .poll _, .polled (some deadline) => pending.erase deadline
  | _, _ => pending

/-- The deadlines scheduled and neither canceled nor returned in a run. -/
def pendingAfter
    (start : DeadlineScheduler) (operations : List Operation) : Finset DueDeadline :=
  (operations.zip (outputs step start operations)).foldl
    (fun pending call => observe pending call.1 call.2) ∅

theorem pendingAfter_concat
    (start : DeadlineScheduler) (operations : List Operation) (last : Operation) :
    pendingAfter start (operations ++ [last]) = observe (pendingAfter start operations) last
        (output step start operations last) := by
  rw [pendingAfter, outputs_concat, List.zip_append (length_outputs _ _ _).symm]
  simp [pendingAfter]

/-- Every call keeps the scheduler well formed, and the represented set
changes as the call and its answer say. -/
theorem WellFormed.step (wellFormed : scheduler.WellFormed) (operation : Operation) :
    scheduler.Advances (scheduler.step operation).1 ∧ (scheduler.step operation).1.live =
        observe scheduler.live operation (scheduler.step operation).2 := by
  cases operation with
  | schedule at_ owner generation kind heapReserved activeReserved =>
    obtain ⟨next, outcome, scheduled, advances, meaning⟩ :=
      wellFormed.schedule at_ owner generation kind heapReserved activeReserved
    simp only [DeadlineScheduler.step, scheduled]
    cases outcome with
    | error error => exact ⟨advances, meaning⟩
    | ok id => exact ⟨advances, meaning⟩
  | cancel id =>
    obtain ⟨advances, meaning, -⟩ := wellFormed.cancel id
    exact ⟨advances, meaning⟩
  | poll now =>
    obtain ⟨next, due, polled, advances, meaning⟩ := wellFormed.poll now
    simp only [DeadlineScheduler.step, polled]
    cases due with
    | none => exact ⟨advances, meaning.1⟩
    | some deadline => exact ⟨advances, meaning.1⟩
  | nextDeadline =>
    obtain ⟨next, at_, found, advances, kept, -⟩ := wellFormed.nextDeadline
    simp only [DeadlineScheduler.step, found]
    exact ⟨advances, kept⟩

/-- A poll returns the deadline of this identity, or it is canceled. -/
def Retires
    (scheduler : DeadlineScheduler) (operation : Operation) (id : DeadlineId) : Prop :=
  (∃ now deadline, operation = .poll now ∧
      (scheduler.poll now).2 = some deadline ∧ deadline.id = id) ∨
    (operation = .cancel id ∧ (scheduler.cancel id).2 = true)

/-- The retired identity was active and is active no more. -/
theorem WellFormed.retires (wellFormed : scheduler.WellFormed)
    {operation : Operation} {id : DeadlineId} (retires : scheduler.Retires operation id) :
    id ∈ scheduler.active ∧ id ∉ (scheduler.step operation).1.active := by
  rcases retires with ⟨now, deadline, rfl, returned, rfl⟩ | ⟨rfl, removed⟩
  · obtain ⟨next, due, polled, advances, meaning⟩ := wellFormed.poll now
    obtain rfl : due = some deadline := by simpa [polled] using returned
    obtain ⟨kept, earliest, -⟩ := meaning
    refine ⟨(mem_live.mp earliest.1).2, fun active => ?_⟩
    simp only [DeadlineScheduler.step, polled] at active
    rw [← advances.wellFormed.image_live, kept] at active
    obtain ⟨other, remaining, same⟩ := mem_image.mp active
    obtain ⟨different, isLive⟩ := mem_erase.mp remaining
    exact different (wellFormed.eq_of_id (mem_live.mp isLive).1 (mem_live.mp earliest.1).1 same)
  · refine ⟨by simpa [DeadlineScheduler.cancel] using removed, ?_⟩
    simp [DeadlineScheduler.step, DeadlineScheduler.cancel]

section Run

variable {maximum : Nat} {start : DeadlineScheduler}

/-- The scheduler of every run is well formed, keeps its capacity and
represents the pending deadlines of the run. -/
theorem represents_pending
    (created : new maximum = .ok start) (operations : List Operation) :
    (after step start operations).WellFormed ∧
      (after step start operations).maximum = maximum ∧
      (after step start operations).live = pendingAfter start operations := by
  induction operations using List.reverseRecOn with
  | nil =>
    obtain ⟨wellFormed, empty, capacity⟩ := wellFormed_new created
    exact ⟨wellFormed, capacity, empty⟩
  | append_singleton earlier last ih =>
    obtain ⟨wellFormed, capacity, represented⟩ := ih
    obtain ⟨advances, meaning⟩ := wellFormed.step last
    rw [after_append, pendingAfter_concat, ← represented]
    exact ⟨advances.wellFormed, advances.maximum.trans capacity, meaning⟩

/-- A retired identity is never active again. -/
theorem retired_inactive
    (created : new maximum = .ok start) (operations : List Operation) {id : DeadlineId}
    (retired : SomeStep (fun earlier operation =>
      (after step start earlier).Retires operation id) operations) :
    id.get < (after step start operations).nextId ∧ id ∉ (after step start operations).active := by
  induction operations using List.reverseRecOn with
  | nil => exact absurd retired (not_someStep_nil _)
  | append_singleton earlier last ih =>
    have wellFormed := (represents_pending created earlier).1
    have advances := (wellFormed.step last).1
    rw [after_append]
    rcases (someStep_concat _ _ _).mp retired with before | now
    · obtain ⟨issued, inactive⟩ := ih before
      refine ⟨Nat.lt_of_lt_of_le issued advances.nextId, fun active => ?_⟩
      rcases advances.active id active with old | fresh
      · exact inactive old
      · exact Nat.not_lt_of_le fresh issued
    · obtain ⟨wasActive, inactive⟩ := wellFormed.retires now
      obtain ⟨entry, held, rfl⟩ := wellFormed.held id wasActive
      exact ⟨Nat.lt_of_lt_of_le (wellFormed.issued entry held) advances.nextId, inactive⟩

/-- In every run, the scheduler serves the ordered set of the deadlines that
were scheduled and neither canceled nor returned, its heap stays within the
capacity, and no identity is returned after it was returned or canceled. -/
theorem refines_ordered_set
    (created : new maximum = .ok start) (operations : List Operation) :
    (after step start operations).Serves (pendingAfter start operations) ∧
      (after step start operations).heap.length ≤ maximum ∧
      AllSteps
        (fun earlier operation => ∀ now deadline, operation = .poll now →
          ((after step start earlier).poll now).2 = some deadline →
          ¬SomeStep (fun prior retirement =>
            (after step start prior).Retires retirement deadline.id) earlier)
        operations := by
  obtain ⟨wellFormed, capacity, represented⟩ := represents_pending created operations
  refine ⟨represented ▸ wellFormed.serves, capacity ▸ wellFormed.bounded, ?_⟩
  rintro earlier operation later - now deadline rfl returned retired
  have wellFormedThen := (represents_pending created earlier).1
  have active := (wellFormedThen.retires (.inl ⟨now, deadline, rfl, returned, rfl⟩)).1
  exact (retired_inactive created earlier retired).2 active

end Run

/-- Two deadlines scheduled in a scheduler of two, the earlier one canceled. -/
def cancelEarlier : List Operation :=
  [.schedule 9 .call 1 0 true true, .schedule 5 .media 1 0 true true, .cancel ⟨2⟩, .poll 9]

/-- A scheduler of two deadlines serves a run that cancels one of them. -/
theorem refines_ordered_set_cancelEarlier :
    (after step ⟨2, 1, .empty, ∅⟩ cancelEarlier).Serves
        (pendingAfter ⟨2, 1, .empty, ∅⟩ cancelEarlier) ∧
      (after step ⟨2, 1, .empty, ∅⟩ cancelEarlier).heap.length ≤ 2 := by
  have created : new 2 = .ok ⟨2, 1, .empty, ∅⟩ := by simp [new, maxDeadlines]
  obtain ⟨serves, bounded, -⟩ := refines_ordered_set created cancelEarlier
  exact ⟨serves, bounded⟩

end DeadlineScheduler

end Call
end LiveAISIP
