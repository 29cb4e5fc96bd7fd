import LiveAISIP.Library.ReorderWindow
import LiveAISIP.Library.Slots
import LiveAISIP.Rtp.SequenceReports
import LiveAISIP.Rtp.Statistics
import Mathlib.Data.Finset.Image
import Mathlib.Algebra.Order.Group.Nat

/-!
# Exactness of the delayed loss counts

The tracker of `rtp/stats/reorder.rs` over a stream of true packet indices, of
which it reads the low 16 bits.  The first packet puts its numbers at the start
of the 64-bit range, so an index of an earlier 16-bit cycle has no candidate
below the highest number and is taken for one far above it.
-/

namespace LiveAISIP
namespace Rtp
namespace DelayedLossTracker

open ReorderWindow (missing recovered lost waiting)
open Reception (saturatingAdd_of_le)
open Slots (held)
open Finset Run

/-- Counts for one instant. -/
structure Snapshot where
  pending : Nat
  finalizedLost : Nat
  recoveredLate : Nat

/-- The current counts. -/
def snapshot (tracker : DelayedLossTracker) : Snapshot where
  pending := min (tracker.pending.countP Option.isSome) (2 ^ 8 - 1)
  finalizedLost := tracker.finalizedLost
  recoveredLate := tracker.recoveredLate

/-- The tracker after a stream of packets. -/
def fed (stream : List Nat) : DelayedLossTracker :=
  stream.foldl (fun tracker index => tracker.observe (.ofNat index)) new

/-- The packets that the sequence tracker admits after earlier ones. -/
def Admitted (earlier : List Nat) (index : Nat) : Prop := earlier = [] ∨
    ReorderWindow.highest earlier ≤ index + maxMisorder.toNat ∧
      index < ReorderWindow.highest earlier + maxDropout.toNat

/-- The counts after a stream are those of its gaps, and a packet from before
the start changes nothing. -/
structure Accounts (start : Nat) (earlier : List Nat) (index : Nat) : Prop where
  pending : (fed (earlier ++ [index])).snapshot.pending =
    (missing reorderWindowPackets start (earlier ++ [index])).card
  recovered : (fed (earlier ++ [index])).snapshot.recoveredLate =
    (recovered reorderWindowPackets start (earlier ++ [index])).card
  lost : (fed (earlier ++ [index])).snapshot.finalizedLost =
    (lost reorderWindowPackets start (earlier ++ [index])).card
  bounded : (fed (earlier ++ [index])).snapshot.finalizedLost ≤
    ReorderWindow.highest (earlier ++ [index]) - start
  unmoved : index < start → fed (earlier ++ [index]) = fed earlier

/-- The first index of the 16-bit cycle of the first packet. -/
def cycleStart (start : Nat) : Nat := start / 2 ^ 16 * 2 ^ 16

theorem cycleStart_le (start : Nat) : cycleStart start ≤ start := Nat.div_mul_le_self start _

theorem fed_concat (stream : List Nat) (index : Nat) :
    fed (stream ++ [index]) = (fed stream).observe (.ofNat index) := by
  simp [fed]

theorem ofNat_sub_cycleStart
    {start index : Nat} (low : cycleStart start ≤ index) :
    (UInt16.ofNat index).toNat = (index - cycleStart start) % 2 ^ 16 := by
  rw [UInt16.toNat_ofNat']
  unfold cycleStart at low ⊢
  omega

/-- The nearer of two candidates, the first one on a tie. -/
def nearer (highest nearest candidate : Nat) : Nat :=
  if absDiff candidate highest < absDiff nearest highest then candidate else nearest

theorem nearer_eq_left
    {highest nearest candidate : Nat} (far : absDiff nearest highest ≤ absDiff candidate highest) :
    nearer highest nearest candidate = nearest :=
  if_neg (Nat.not_lt.2 far)

theorem nearer_eq_right
    {highest nearest candidate : Nat} (near : absDiff candidate highest < absDiff nearest highest) :
    nearer highest nearest candidate = candidate :=
  if_pos near

/-- The candidates of a number: in the cycle of the highest one, in the next and
in the previous cycle. -/
theorem extendNear_eq_nearer
    {highest base next : Nat} {sequence : UInt16}
    (based : highest / 2 ^ 16 * 2 ^ 16 + sequence.toNat = base)
    (above : saturatingAdd base (2 ^ 16) = next) :
    extendNear sequence highest =
      if 2 ^ 16 ≤ base then nearer highest (nearer highest base next) (base - 2 ^ 16)
      else nearer highest base next := by
  subst based above
  rw [extendNear]
  by_cases second : 2 ^ 16 ≤ highest / 2 ^ 16 * 2 ^ 16 + sequence.toNat
  · rw [if_pos second, if_pos second, List.foldl_cons, List.foldl_cons, List.foldl_nil]
    rw [nearer, nearer]
  · rw [if_neg second, if_neg second, List.foldl_cons, List.foldl_nil, nearer]

/-- A number within the windows of the highest one is extended to itself. -/
theorem extendNear_eq
    {highest index : Nat} {sequence : UInt16} (wire : sequence.toNat = index % 2 ^ 16)
    (lower : highest ≤ index + 100) (upper : index < highest + 3000)
    (highestFits : highest + 100 < 2 ^ 64) (fits : index + 100 < 2 ^ 64) :
    extendNear sequence highest = index := by
  obtain ⟨base, based⟩ : ∃ base, highest / 2 ^ 16 * 2 ^ 16 + sequence.toNat = base := ⟨_, rfl⟩
  obtain ⟨next, above⟩ : ∃ next, saturatingAdd base (2 ^ 16) = next := ⟨_, rfl⟩
  have ahead : next = base + 2 ^ 16 ∨ next = 2 ^ 64 - 1 ∧ 2 ^ 64 - 1 < base + 2 ^ 16 := by
    rw [← above]
    rcases Nat.lt_or_ge (2 ^ 64 - 1) (base + 2 ^ 16) with saturated | small
    · exact Or.inr ⟨Nat.min_eq_right saturated.le, saturated⟩
    · exact Or.inl (saturatingAdd_of_le small)
  have near : index / 2 ^ 16 = highest / 2 ^ 16 ∨ index / 2 ^ 16 = highest / 2 ^ 16 + 1 ∨
      index / 2 ^ 16 + 1 = highest / 2 ^ 16 := by omega
  rw [extendNear_eq_nearer based above]
  rcases near with same | later | earlier
  · -- Both candidates beside the base are at least as far away.
    have here : base = index := by omega
    have notNext : nearer highest base next = base := nearer_eq_left (by unfold absDiff; omega)
    rw [notNext]
    split
    · rw [nearer_eq_left (by unfold absDiff; omega), here]
    · exact here
  · have there : next = index := by omega
    have isNext : nearer highest base next = next := nearer_eq_right (by unfold absDiff; omega)
    rw [isNext]
    split
    · rw [nearer_eq_left (by unfold absDiff; omega), there]
    · exact there
  · -- A late packet of the previous cycle is the candidate below.
    have notNext : nearer highest base next = base := nearer_eq_left (by unfold absDiff; omega)
    rw [notNext, if_pos (by omega), nearer_eq_right (by unfold absDiff; omega)]
    omega

/-- The tracker waits for the indices of a set. -/
structure Holds (tracker : DelayedLossTracker) (gaps : Finset Nat) : Prop where
  capacity : tracker.pending.length = reorderWindowPackets
  slots : held tracker.pending = gaps.val

section Holds

variable {tracker : DelayedLossTracker} {gaps : Finset Nat} {index : Nat}

theorem Holds.mem_iff (holds : Holds tracker gaps) (gap : Nat) :
    some gap ∈ tracker.pending ↔ gap ∈ gaps := by
  rw [← Slots.mem_held, holds.slots, mem_val]

/-- The pending count is that of the set. -/
theorem Holds.pending_eq (holds : Holds tracker gaps) :
    tracker.snapshot.pending = gaps.card := by
  have few : tracker.pending.countP Option.isSome ≤ 2 ^ 8 - 1 := by
    apply List.countP_le_length.trans
    rw [holds.capacity]
    decide
  simp only [snapshot]
  rw [min_eq_left few, Slots.countP_isSome, holds.slots, card_val]

/-- A packet that was waited for. -/
theorem Holds.replaceFirst (holds : Holds tracker gaps) (waited : index ∈ gaps) :
    Holds { tracker with
        pending := DelayedLossTracker.replaceFirst tracker.pending (some index) none }
      (gaps.erase index) := by
  have stands := (holds.mem_iff index).2 waited
  have inside := List.idxOf_lt_length_of_mem stands
  refine ⟨by simpa [DelayedLossTracker.replaceFirst] using holds.capacity, ?_⟩
  have taken := Slots.cons_held_set_none inside (List.getElem_idxOf inside)
  rw [DelayedLossTracker.replaceFirst, erase_val, ← holds.slots, ← taken, Multiset.erase_cons_head]

/-- The least of some numbers and a larger one. -/
theorem foldl_min (keys : List Nat) (cap : Nat) :
    keys.foldl min cap ≤ cap ∧ (∀ key ∈ keys, keys.foldl min cap ≤ key) ∧
      (keys.foldl min cap = cap ∨ keys.foldl min cap ∈ keys) := by
  induction keys generalizing cap with
  | nil => simp
  | cons key keys ih =>
    obtain ⟨capped, least, attained⟩ := ih (min cap key)
    rw [List.foldl_cons]
    refine ⟨capped.trans (min_le_left _ _), ?_, ?_⟩
    · intro other stands
      rcases List.mem_cons.1 stands with rfl | later
      · exact capped.trans (min_le_right _ _)
      · exact least other later
    · rcases attained with start | later
      · rcases le_total cap key with below | above
        · left
          rw [start, min_eq_left below]
        · right
          rw [start, min_eq_right above]
          exact List.mem_cons_self
      · right
        exact List.mem_cons_of_mem _ later

/-- Of full slots the oldest is given up, and it is a whole window old. -/
theorem Holds.oldestSlot
    (holds : Holds tracker gaps) (full : none ∉ tracker.pending)
    (below : ∀ gap ∈ gaps, gap < index) (counter : index < 2 ^ 64) :
    ∃ oldest ∈ gaps, oldest + reorderWindowPackets ≤ index ∧
      ∃ inside : DelayedLossTracker.oldestSlot tracker.pending < tracker.pending.length,
        tracker.pending[DelayedLossTracker.oldestSlot tracker.pending] = some oldest := by
  have count : gaps.card = reorderWindowPackets := by
    rw [← holds.capacity, ← Slots.card_held_of_full full, holds.slots, card_val]
  have some_ : gaps.Nonempty := by
    rw [← card_pos, count]
    decide
  generalize keysEq : (tracker.pending.map fun slot => slot.getD (2 ^ 64 - 1)) = keys
  have keys_mem (key : Nat) : key ∈ keys ↔ key ∈ gaps := by
    rw [← keysEq, List.mem_map, ← holds.mem_iff]
    constructor
    · rintro ⟨slot, stands, rfl⟩
      cases slot with
      | none => exact absurd stands full
      | some gap => exact stands
    · intro stands
      exact ⟨some key, stands, rfl⟩
  obtain ⟨-, least, attained⟩ := foldl_min keys (2 ^ 64 - 1)
  have oldest : keys.foldl min (2 ^ 64 - 1) ∈ keys := by
    rcases attained with cap | stands
    · obtain ⟨gap, stands⟩ := some_
      have young := below gap stands
      have capped := least gap ((keys_mem gap).2 stands)
      omega
    · exact stands
  have position : DelayedLossTracker.oldestSlot tracker.pending =
      keys.idxOf (keys.foldl min (2 ^ 64 - 1)) := by
    rw [DelayedLossTracker.oldestSlot, keysEq]
  have inKeys := List.idxOf_lt_length_of_mem oldest
  have inside : DelayedLossTracker.oldestSlot tracker.pending < tracker.pending.length := by
    rw [position]
    rwa [← keysEq, List.length_map, keysEq] at inKeys
  refine ⟨keys.foldl min (2 ^ 64 - 1), (keys_mem _).1 oldest, ?_, inside, ?_⟩
  · -- The waiting packets are distinct and lie between the oldest and the new one.
    have span : gaps ⊆ Ico (keys.foldl min (2 ^ 64 - 1)) index := by
      intro gap stands
      exact mem_Ico.2 ⟨least gap ((keys_mem gap).2 stands), below gap stands⟩
    have wide := card_le_card span
    rw [count, Nat.card_Ico] at wide
    have early := below _ ((keys_mem _).1 oldest)
    omega
  · have value : (tracker.pending[DelayedLossTracker.oldestSlot tracker.pending]).getD
        (2 ^ 64 - 1) = keys.foldl min (2 ^ 64 - 1) := by
      have read := List.getElem_idxOf inKeys
      simp only [← keysEq, List.getElem_map] at read
      simpa only [position, ← keysEq] using read
    cases slot : tracker.pending[DelayedLossTracker.oldestSlot tracker.pending] with
    | none => exact absurd (slot ▸ List.getElem_mem inside) full
    | some gap =>
      rw [slot] at value
      exact congrArg some value

/-- Waiting for one more packet. -/
theorem Holds.insertPending
    (holds : Holds tracker gaps) (below : ∀ gap ∈ gaps, gap < index) (counter : index < 2 ^ 64)
    (small : tracker.finalizedLost + gaps.card + 1 ≤ 2 ^ 64 - 1) :
    ∃ after, Holds (tracker.insertPending index) after ∧ after ⊆ insert index gaps ∧
      (∀ gap ∈ insert index gaps, index < gap + reorderWindowPackets → gap ∈ after) ∧
      (tracker.insertPending index).finalizedLost + after.card =
        tracker.finalizedLost + gaps.card + 1 ∧
      (tracker.insertPending index).recoveredLate = tracker.recoveredLate := by
  have fresh : index ∉ gaps := fun stands => (below index stands).false
  unfold DelayedLossTracker.insertPending
  rw [if_neg (by rwa [holds.mem_iff])]
  by_cases free : none ∈ tracker.pending
  · have inside := List.idxOf_lt_length_of_mem free
    rw [if_pos free]
    refine ⟨insert index gaps, ⟨?_, ?_⟩, subset_rfl, fun gap stands _ => stands, ?_, rfl⟩
    · simpa [DelayedLossTracker.replaceFirst] using holds.capacity
    · rw [insert_val_of_notMem fresh, ← holds.slots]
      exact Slots.held_set_of_none inside (List.getElem_idxOf inside) index
    · rw [card_insert_of_notMem fresh, add_assoc]
  · rw [if_neg free]
    obtain ⟨oldest, stands, old, inside, slot⟩ := holds.oldestSlot free below counter
    have apart : index ≠ oldest := (below oldest stands).ne'
    refine ⟨(insert index gaps).erase oldest, ⟨?_, ?_⟩, erase_subset _ _, ?_, ?_, rfl⟩
    · simpa using holds.capacity
    · have overwritten := Slots.cons_held_set_some inside slot index
      rw [holds.slots, ← insert_val_of_notMem fresh] at overwritten
      rw [erase_val, ← overwritten, Multiset.erase_cons_head]
    · intro gap either young
      rw [mem_erase]
      refine ⟨?_, either⟩
      rintro rfl
      omega
    · rw [card_erase_of_mem (mem_insert_of_mem stands),
        card_insert_of_notMem fresh, saturatingAdd_of_le (by omega)]
      exact Nat.add_right_comm _ _ _

/-- Waiting for a row of packets. -/
theorem Holds.insertRange
    (count : Nat) (holds : Holds tracker gaps)
    (below : ∀ gap ∈ gaps, gap < index) (counter : index + count ≤ 2 ^ 64)
    (small : tracker.finalizedLost + gaps.card + count ≤ 2 ^ 64 - 1) :
    ∃ after, Holds ((List.range' index count).foldl DelayedLossTracker.insertPending tracker)
        after ∧
      after ⊆ gaps ∪ Ico index (index + count) ∧
      (∀ gap ∈ gaps ∪ Ico index (index + count),
        index + count < gap + reorderWindowPackets → gap ∈ after) ∧
      ((List.range' index count).foldl DelayedLossTracker.insertPending
          tracker).finalizedLost + after.card =
        tracker.finalizedLost + gaps.card + count ∧
      ((List.range' index count).foldl DelayedLossTracker.insertPending
          tracker).recoveredLate = tracker.recoveredLate := by
  induction count generalizing tracker gaps index with
  | zero =>
    refine ⟨gaps, holds, by simp, ?_, rfl, rfl⟩
    intro gap stands _
    simpa using stands
  | succ count ih =>
    obtain ⟨first, firstHolds, firstSubset, firstYoung, firstCount, firstRecovered⟩ :=
      holds.insertPending below (by omega) (by omega)
    have firstBelow : ∀ gap ∈ first, gap < index + 1 := by
      intro gap stands
      rcases mem_insert.1 (firstSubset stands) with rfl | earlier
      · omega
      · exact (below gap earlier).trans (Nat.lt_succ_self _)
    obtain ⟨after, afterHolds, afterSubset, afterYoung, afterCount, afterRecovered⟩ :=
      ih firstHolds firstBelow (by omega) (by omega)
    rw [List.range'_succ, List.foldl_cons]
    refine ⟨after, afterHolds, ?_, ?_, by omega, afterRecovered.trans firstRecovered⟩
    · intro gap stands
      rcases mem_union.1 (afterSubset stands) with earlier | row
      · rcases mem_insert.1 (firstSubset earlier) with rfl | before
        · simp
        · exact mem_union_left _ before
      · rw [mem_Ico] at row
        rw [mem_union, mem_Ico]
        right
        omega
    · intro gap either young
      apply afterYoung gap _ (by omega)
      rw [mem_union, mem_Ico] at either ⊢
      rcases either with earlier | row
      · left
        exact firstYoung gap (mem_insert_of_mem earlier) (by omega)
      · rcases Nat.eq_or_lt_of_le row.1 with same | later
        · left
          rw [← same] at young ⊢
          exact firstYoung index (mem_insert_self _ _) (by omega)
        · right
          omega

/-- Giving up what left the window. -/
theorem Holds.finalizeOld
    (holds : Holds tracker gaps) (small : tracker.finalizedLost + gaps.card ≤ 2 ^ 64 - 1) :
    Holds (tracker.finalizeOld index) (gaps.filter (index < · + reorderWindowPackets)) ∧
      (tracker.finalizeOld index).finalizedLost +
          (gaps.filter (index < · + reorderWindowPackets)).card =
        tracker.finalizedLost + gaps.card := by
  have young (gap : Nat) : decide (reorderWindowPackets ≤ index - gap) = false ↔
        index < gap + reorderWindowPackets := by
    have positive : 0 < reorderWindowPackets := by decide
    rw [decide_eq_false_iff_not]
    omega
  have old (gap : Nat) : decide (reorderWindowPackets ≤ index - gap) = true ↔
        ¬index < gap + reorderWindowPackets := by
    rw [← young, Bool.not_eq_false]
  have counted : tracker.pending.countP (isOld index) =
      (gaps.filter (¬index < · + reorderWindowPackets)).card := by
    have taken := Slots.countP_any (fun gap => decide (reorderWindowPackets ≤ index - gap))
      tracker.pending
    simp only [holds.slots, old] at taken
    exact taken
  refine ⟨⟨?_, ?_⟩, ?_⟩
  · rw [DelayedLossTracker.finalizeOld, List.length_map]
    exact holds.capacity
  · have cleared := Slots.held_map_clear
      (fun gap => decide (reorderWindowPackets ≤ index - gap)) tracker.pending
    simp only [holds.slots, young] at cleared
    exact cleared
  · have parts := card_filter_add_card_filter_not (s := gaps) (index < · + reorderWindowPackets)
    rw [DelayedLossTracker.finalizeOld, counted, saturatingAdd_of_le (by omega), ← parts]
    exact (Nat.add_assoc _ _ _).trans (congrArg _ (Nat.add_comm _ _))

/-- A packet above the highest one waits for those it passed. -/
theorem Holds.observe_ahead
    {sequence : UInt16} {top : Nat} (holds : Holds tracker gaps)
    (stands : tracker.highest = some top)
    (extended : extendNear sequence top = index) (ahead : top < index)
    (below : ∀ gap ∈ gaps, gap < top) (counter : index < 2 ^ 64)
    (small : tracker.finalizedLost + gaps.card + (index - top - 1) ≤ 2 ^ 64 - 1) :
    (tracker.observe sequence).highest = some index ∧ Holds (tracker.observe sequence)
        ((gaps ∪ Ioo top index).filter (index < · + reorderWindowPackets)) ∧
      (tracker.observe sequence).finalizedLost + ((gaps ∪ Ioo top index).filter
            (index < · + reorderWindowPackets)).card =
        tracker.finalizedLost + gaps.card + (index - top - 1) ∧
      (tracker.observe sequence).recoveredLate = tracker.recoveredLate := by
  have positive : 0 < reorderWindowPackets := by decide
  generalize gapEq : index - top - 1 = gap at small ⊢
  generalize recentEq : min gap reorderWindowPackets = recent
  have passed : (if reorderWindowPackets < gap then
      { tracker with
        finalizedLost := saturatingAdd tracker.finalizedLost (gap - reorderWindowPackets) }
      else tracker) =
      { tracker with finalizedLost := tracker.finalizedLost + (gap - recent) } := by
    split
    · rw [saturatingAdd_of_le (by omega), ← recentEq, min_eq_right (by omega)]
    · rw [← recentEq, min_eq_left (by omega), Nat.sub_self, Nat.add_zero]
  have passedHolds : Holds
      { tracker with finalizedLost := tracker.finalizedLost + (gap - recent) } gaps :=
    ⟨holds.capacity, holds.slots⟩
  obtain ⟨after, afterHolds, afterSubset, afterYoung, afterCount, afterRecovered⟩ :=
    passedHolds.insertRange recent (fun gap stands => (below gap stands).trans_le (by omega))
      (show index - recent + recent ≤ 2 ^ 64 by omega) (by simp only; omega)
  have row : index - recent + recent = index := by omega
  rw [row] at afterSubset afterYoung
  have observed : tracker.observe sequence = DelayedLossTracker.finalizeOld
        { (List.range' (index - recent) recent).foldl DelayedLossTracker.insertPending
            { tracker with finalizedLost := tracker.finalizedLost + (gap - recent) } with
          highest := some index } index := by
    simp only [DelayedLossTracker.observe, stands, extended, if_neg (Nat.not_le.2 ahead),
      gapEq, recentEq]
    rw [stands] at passed
    rw [passed]
  have young : after.filter (index < · + reorderWindowPackets) =
      (gaps ∪ Ioo top index).filter (index < · + reorderWindowPackets) := by
    ext other
    rw [mem_filter, mem_filter, mem_union, mem_Ioo]
    apply and_congr_left
    intro fresh
    constructor
    · intro kept
      have either := afterSubset kept
      rw [mem_union, mem_Ico] at either
      exact either.imp id fun row => ⟨by omega, row.2⟩
    · intro either
      apply afterYoung other _ fresh
      rw [mem_union, mem_Ico]
      exact either.imp id fun row => ⟨by omega, row.2⟩
  simp only at afterCount afterRecovered
  have afterTop : Holds
      { (List.range' (index - recent) recent).foldl DelayedLossTracker.insertPending
          { tracker with finalizedLost := tracker.finalizedLost + (gap - recent) } with
        highest := some index } after :=
    ⟨afterHolds.capacity, afterHolds.slots⟩
  have settled := @Holds.finalizeOld _ _ index afterTop (by simp only; omega)
  rw [observed, ← young]
  refine ⟨rfl, settled.1, ?_, afterRecovered⟩
  rw [settled.2]
  simp only
  omega

end Holds

/-- The tracker counts the gaps of a stream, below the start of its cycle. -/
structure Tracks (start : Nat) (stream : List Nat) (tracker : DelayedLossTracker) :
    Prop where
  highest : tracker.highest = some (ReorderWindow.highest stream - cycleStart start)
  waits : ∃ gaps, Holds tracker gaps ∧ gaps.map (addRightEmbedding (cycleStart start)) =
      missing reorderWindowPackets start stream
  lost : tracker.finalizedLost = (lost reorderWindowPackets start stream).card
  recovered : tracker.recoveredLate = (recovered reorderWindowPackets start stream).card

/-- The first packet starts the counts. -/
theorem tracks_first (start : Nat) :
    Tracks start [start] (new.observe (.ofNat start)) where
  highest := by
    change some (UInt16.ofNat start).toNat = _
    rw [UInt16.toNat_ofNat', ReorderWindow.highest_singleton, cycleStart]
    congr 1
    omega
  waits := by
    refine ⟨∅, ⟨List.length_replicate, Slots.held_replicate_none _⟩, ?_⟩
    symm
    rw [map_empty, missing, ReorderWindow.highest_singleton, Ioo_eq_empty (by omega), filter_empty]
  lost := by
    rw [lost, ReorderWindow.highest_singleton, Ioc_eq_empty (by omega), filter_empty]
    rfl
  recovered := by
    rw [recovered, ReorderWindow.highest_singleton, Ioo_self, filter_empty]
    rfl

/-- A number at or below the highest one ends at most one gap. -/
theorem observe_of_le
    {tracker : DelayedLossTracker} {sequence : UInt16} {top : Nat}
    (stands : tracker.highest = some top) (late : extendNear sequence top ≤ top) :
    tracker.observe sequence =
      if some (extendNear sequence top) ∈ tracker.pending then
        { tracker with
          pending := replaceFirst tracker.pending (some (extendNear sequence top)) none
          recoveredLate := saturatingAdd tracker.recoveredLate 1 }
      else tracker := by
  simp only [observe, stands]
  rw [if_pos late]

section Tracks

variable {start index : Nat} {stream : List Nat} {tracker : DelayedLossTracker}

/-- Which indices a tracker waits for. -/
theorem mem_missing_iff
    {gaps : Finset Nat}
    (waits : gaps.map (addRightEmbedding (cycleStart start)) =
      missing reorderWindowPackets start stream)
    (low : cycleStart start ≤ index) :
    index ∈ missing reorderWindowPackets start stream ↔ index - cycleStart start ∈ gaps := by
  rw [← waits, mem_map]
  constructor
  · rintro ⟨gap, stands, rfl⟩
    rwa [addRightEmbedding_apply, Nat.add_sub_cancel]
  · intro stands
    exact ⟨_, stands, Nat.sub_add_cancel low⟩

/-- A packet at or below the highest one. -/
theorem Tracks.late
    (tracks : Tracks start stream tracker) (started : start ≤ ReorderWindow.highest stream)
    (low : cycleStart start ≤ index) (late : index ≤ ReorderWindow.highest stream)
    (extended : extendNear (.ofNat index)
        (ReorderWindow.highest stream - cycleStart start) = index - cycleStart start)
    (counter : ReorderWindow.highest stream - start < 2 ^ 64) :
    Tracks start (stream ++ [index]) (tracker.observe (.ofNat index)) ∧
      (index < start → tracker.observe (.ofNat index) = tracker) := by
  obtain ⟨highest, ⟨gaps, holds, waits⟩, losses, recoveries⟩ := tracks
  have member := mem_missing_iff waits low
  have observed : tracker.observe (.ofNat index) =
      if some (index - cycleStart start) ∈ tracker.pending then
        { tracker with
          pending := DelayedLossTracker.replaceFirst tracker.pending
            (some (index - cycleStart start)) none
          recoveredLate := saturatingAdd tracker.recoveredLate 1 }
      else tracker := by
    rw [observe_of_le highest (by omega), extended]
  have top : ReorderWindow.highest (stream ++ [index]) = ReorderWindow.highest stream := by
    rw [ReorderWindow.highest_concat, max_eq_left late]
  rw [observed]
  by_cases waited : index ∈ missing reorderWindowPackets start stream
  · have fresh : index ∉ ReorderWindow.recovered reorderWindowPackets start stream := fun arrived =>
      (mem_filter.1 waited).2 (ReorderWindow.mem_of_mem_recovered arrived)
    have few := @ReorderWindow.card_recovered_le reorderWindowPackets start (stream ++ [index])
    have counts : (ReorderWindow.recovered reorderWindowPackets start (stream ++ [index])).card =
        (ReorderWindow.recovered reorderWindowPackets start stream).card + 1 := by
      rw [ReorderWindow.recovered_concat_of_le late, if_pos waited, card_insert_of_notMem fresh]
    rw [if_pos ((holds.mem_iff _).2 (member.1 waited))]
    refine ⟨⟨?_, ?_, ?_, ?_⟩, ?_⟩
    · rw [top]
      exact highest
    · have stands := holds.replaceFirst (member.1 waited)
      refine ⟨_, ⟨stands.capacity, stands.slots⟩, ?_⟩
      rw [ReorderWindow.missing_concat_of_le late, ← waits, map_erase]
      congr 1
      exact Nat.sub_add_cancel low
    · rw [ReorderWindow.lost_concat_of_le late]
      exact losses
    · simp only
      rw [counts] at few ⊢
      rw [top] at few
      rw [recoveries, saturatingAdd_of_le (by omega)]
    · intro before
      simp only [missing, mem_filter, mem_Ioo] at waited
      omega
  · rw [if_neg (by rwa [holds.mem_iff, ← member])]
    refine ⟨⟨?_, ⟨gaps, holds, ?_⟩, ?_, ?_⟩, fun _ => rfl⟩
    · rw [top]
      exact highest
    · rw [ReorderWindow.missing_concat_of_le late, erase_eq_of_notMem waited]
      exact waits
    · rw [ReorderWindow.lost_concat_of_le late]
      exact losses
    · rw [ReorderWindow.recovered_concat_of_le late, if_neg waited]
      exact recoveries

/-- A packet above the highest one. -/
theorem Tracks.ahead
    (tracks : Tracks start stream tracker) (nonempty : stream ≠ [])
    (started : start ≤ ReorderWindow.highest stream) (ahead : ReorderWindow.highest stream < index)
    (extended : extendNear (.ofNat index)
        (ReorderWindow.highest stream - cycleStart start) = index - cycleStart start)
    (counter : index - cycleStart start < 2 ^ 64) :
    Tracks start (stream ++ [index]) (tracker.observe (.ofNat index)) := by
  obtain ⟨highest, ⟨gaps, holds, waits⟩, losses, recoveries⟩ := tracks
  have cycle := cycleStart_le start
  have positive : 0 < reorderWindowPackets := by decide
  have total := ReorderWindow.card_lost_add_card_missing_concat positive nonempty started ahead
  have few := @ReorderWindow.card_lost_add_card_missing_le
    reorderWindowPackets start (stream ++ [index])
  have top : ReorderWindow.highest (stream ++ [index]) = index := by
    rw [ReorderWindow.highest_concat, max_eq_right ahead.le]
  have count : gaps.card = (missing reorderWindowPackets start stream).card := by
    rw [← waits, card_map]
  have below : ∀ gap ∈ gaps, gap < ReorderWindow.highest stream - cycleStart start := by
    intro gap stands
    have inside : gap + cycleStart start ∈ missing reorderWindowPackets start stream := by
      rw [← waits]
      exact mem_map_of_mem _ stands
    simp only [missing, mem_filter, mem_Ioo] at inside
    omega
  rw [top] at few
  obtain ⟨newHighest, newHolds, newCount, newRecovered⟩ :=
    holds.observe_ahead highest extended (by omega) below counter (by omega)
  have newWaits : ((gaps ∪ Ioo (ReorderWindow.highest stream - cycleStart start)
        (index - cycleStart start)).filter
          (index - cycleStart start < · + reorderWindowPackets)).map
        (addRightEmbedding (cycleStart start)) =
      missing reorderWindowPackets start (stream ++ [index]) := by
    rw [ReorderWindow.missing_concat_of_lt nonempty started ahead, waiting, ← waits]
    ext other
    simp only [mem_map, mem_filter, mem_union, mem_Ioo, addRightEmbedding_apply]
    constructor
    · rintro ⟨gap, ⟨either, young⟩, rfl⟩
      refine ⟨?_, by omega⟩
      rcases either with stands | passed
      · exact Or.inl ⟨gap, stands, rfl⟩
      · right
        omega
    · rintro ⟨⟨gap, stands, rfl⟩ | passed, young⟩
      · exact ⟨gap, ⟨Or.inl stands, by omega⟩, rfl⟩
      · exact ⟨other - cycleStart start, ⟨Or.inr (by omega), by omega⟩, by omega⟩
  refine ⟨?_, ⟨_, newHolds, newWaits⟩, ?_, ?_⟩
  · rw [top]
    exact newHighest
  · rw [← card_map (addRightEmbedding (cycleStart start)), newWaits] at newCount
    omega
  · rw [newRecovered, recoveries, ReorderWindow.recovered_concat_of_lt nonempty ahead]

/-- Every admitted packet of the stream's cycle or a later one is counted. -/
theorem Tracks.observe
    (tracks : Tracks start stream tracker) (member : start ∈ stream)
    (admitted : Admitted stream index)
    (counted : ReorderWindow.highest stream + 100 < cycleStart start + 2 ^ 64)
    (fits : index + 100 < cycleStart start + 2 ^ 64) (low : cycleStart start ≤ index) :
    Tracks start (stream ++ [index]) (tracker.observe (.ofNat index)) ∧
      (index < start → tracker.observe (.ofNat index) = tracker) := by
  have nonempty : stream ≠ [] := List.ne_nil_of_mem member
  have started : start ≤ ReorderWindow.highest stream := ReorderWindow.le_highest member
  have cycle := cycleStart_le start
  have windows := admitted.resolve_left nonempty
  have misorder : maxMisorder.toNat = 100 := rfl
  have dropout : maxDropout.toNat = 3000 := rfl
  have extended := @extendNear_eq (ReorderWindow.highest stream - cycleStart start) _ _
    (ofNat_sub_cycleStart low) (by omega) (by omega) (by omega) (by omega)
  rcases Nat.lt_or_ge (ReorderWindow.highest stream) index with ahead | late
  · refine ⟨tracks.ahead nonempty started ahead extended (by omega), ?_⟩
    intro before
    omega
  · exact tracks.late started low late extended (by omega)

/-- The counts are those of the gaps. -/
theorem Tracks.accounts
    (tracks : Tracks start (stream ++ [index]) (fed (stream ++ [index])))
    (unmoved : index < start → fed (stream ++ [index]) = fed stream) :
    Accounts start stream index := by
  obtain ⟨-, ⟨gaps, holds, waits⟩, losses, recoveries⟩ := tracks
  have within := @ReorderWindow.card_lost_add_card_missing_le
    reorderWindowPackets start (stream ++ [index])
  refine ⟨?_, recoveries, losses, ?_, unmoved⟩
  · have few : (fed (stream ++ [index])).pending.countP Option.isSome ≤ 2 ^ 8 - 1 := by
      apply List.countP_le_length.trans
      rw [holds.capacity]
      decide
    simp only [snapshot]
    rw [min_eq_left few, Slots.countP_isSome, holds.slots, card_val, ← waits, card_map]
  · simp only [snapshot]
    rw [losses]
    omega

end Tracks

/-- A stream within the windows of the 64-bit numbers, from its cycle on. -/
theorem tracks_run
    {start : Nat} {later : List Nat} (admitted : AllSteps Admitted (start :: later))
    (counted : ∀ index ∈ later, index + 100 < cycleStart start + 2 ^ 64)
    (low : ∀ index ∈ later, cycleStart start ≤ index) :
    Tracks start (start :: later) (fed (start :: later)) ∧
      AllSteps (Accounts start) (start :: later) := by
  induction later using List.reverseRecOn with
  | nil =>
    have first := tracks_first start
    refine ⟨first, ?_⟩
    rw [← List.nil_append [start], allSteps_concat]
    exact ⟨allSteps_nil _, Tracks.accounts first fun before => absurd before (by omega)⟩
  | append_singleton later index ih =>
    rw [← List.cons_append, allSteps_concat] at admitted
    have cycle : start < cycleStart start + 2 ^ 16 := by
      unfold cycleStart
      omega
    have top : ReorderWindow.highest (start :: later) + 100 < cycleStart start + 2 ^ 64 := by
      rcases List.mem_cons.1 (ReorderWindow.highest_mem (List.cons_ne_nil start later))
        with first | observed
      · rw [first]
        omega
      · exact counted _ (List.mem_append_left _ observed)
    obtain ⟨tracks, accounts⟩ := ih admitted.1
      (fun other observed => counted other (List.mem_append_left _ observed))
      (fun other observed => low other (List.mem_append_left _ observed))
    obtain ⟨after, unmoved⟩ := tracks.observe List.mem_cons_self admitted.2 top
      (counted index (by simp)) (low index (by simp))
    rw [← fed_concat] at after unmoved
    rw [← List.cons_append, allSteps_concat]
    exact ⟨after, accounts, after.accounts unmoved⟩

/-- A packet above the highest one becomes the highest. -/
theorem highest_observe_of_ahead
    {tracker : DelayedLossTracker} {sequence : UInt16} {top : Nat}
    (stands : tracker.highest = some top) (ahead : top < extendNear sequence top) :
    (tracker.observe sequence).highest = some (extendNear sequence top) := by
  simp only [DelayedLossTracker.observe, stands]
  rw [if_neg (Nat.not_le.2 ahead)]
  rfl

/-- A packet of an earlier cycle is taken for one that is far ahead. -/
theorem extendNear_of_before_cycle
    {start index top : Nat} (before : index < cycleStart start)
    (near : top + cycleStart start ≤ index + 100) :
    top < extendNear (.ofNat index) top := by
  have wire : (UInt16.ofNat index).toNat = index % 2 ^ 16 := UInt16.toNat_ofNat'
  have far : 65436 ≤ (UInt16.ofNat index).toNat := by
    rw [wire]
    unfold cycleStart at before near
    omega
  have short := (UInt16.ofNat index).toNat_lt
  have first : top / 2 ^ 16 * 2 ^ 16 + (UInt16.ofNat index).toNat =
      (UInt16.ofNat index).toNat := by omega
  rw [extendNear_eq_nearer first (saturatingAdd_of_le (by omega)),
    if_neg (Nat.not_le.2 short), nearer_eq_left (by unfold absDiff; omega)]
  omega

/-- Over streams within the windows the counts are exact, and packets from
before the start change nothing, exactly when no packet is of a 16-bit cycle
before that of the first one. -/
theorem delayedLoss_exact_iff
    (start : Nat) (later : List Nat) (admitted : AllSteps Admitted (start :: later))
    (counted : ∀ index ∈ later, index + 100 < cycleStart start + 2 ^ 64) :
    AllSteps (Accounts start) (start :: later) ↔ ∀ index ∈ later, cycleStart start ≤ index := by
  constructor
  · intro accounts
    induction later using List.reverseRecOn with
    | nil => simp
    | append_singleton later index ih =>
      rw [← List.cons_append, allSteps_concat] at accounts admitted
      have prior := fun other observed => counted other (List.mem_append_left _ observed)
      have low := ih admitted.1 prior accounts.1
      have tracks := (tracks_run admitted.1 prior low).1
      intro other observed
      rcases List.mem_append.1 observed with earlier | final
      · exact low other earlier
      · rw [List.mem_singleton.1 final]
        -- An earlier cycle would move the highest number.
        by_contra before
        have start_le := ReorderWindow.le_highest (List.mem_cons_self (a := start) (l := later))
        have cycle := cycleStart_le start
        have misorder : maxMisorder.toNat = 100 := rfl
        have windows := (admitted.2.resolve_left (List.cons_ne_nil _ _)).1
        have ahead := @extendNear_of_before_cycle start index
          (ReorderWindow.highest (start :: later) - cycleStart start) (by omega) (by omega)
        have moved := highest_observe_of_ahead tracks.highest ahead
        rw [← fed_concat, accounts.2.unmoved (by omega), tracks.highest] at moved
        exact absurd (Option.some.inj moved) ahead.ne
  · intro low
    exact (tracks_run admitted counted low).2

theorem admitted_of_near
    {start index : Nat}
    (near : start ≤ index + maxMisorder.toNat ∧ index < start + maxDropout.toNat) :
    AllSteps Admitted [start, index] := by
  rw [show [start, index] = ([] ++ [start]) ++ [index] from rfl, allSteps_concat, allSteps_concat]
  refine ⟨⟨allSteps_nil _, Or.inl rfl⟩, Or.inr ?_⟩
  rwa [List.nil_append, ReorderWindow.highest_singleton]

theorem delayedLoss_exact_iff_gap :
    AllSteps (Accounts 10) [10, 12] :=
  (delayedLoss_exact_iff 10 [12] (admitted_of_near (by decide)) (by decide)).2 (by decide)

/-- Packet 65535 after the first packet 65541: a whole cycle counts as lost,
although no packet was passed. -/
theorem delayedLoss_inexact_before_cycle :
    AllSteps Admitted [65541, 65535] ∧
      (lost reorderWindowPackets 65541 [65541, 65535]).card = 0 ∧
      (fed [65541, 65535]).snapshot.finalizedLost = 65466 ∧
      ¬AllSteps (Accounts 65541) [65541, 65535] := by
  have admitted : AllSteps Admitted [65541, 65535] := admitted_of_near (by decide)
  have none_ : (lost reorderWindowPackets 65541 [65541, 65535]).card = 0 := by
    decide +kernel
  have whole : (fed [65541, 65535]).snapshot.finalizedLost = 65466 := by
    decide +kernel
  refine ⟨admitted, none_, whole, ?_⟩
  intro accounts
  have last := (accounts [65541] 65535 [] rfl).lost
  rw [List.singleton_append, whole, none_] at last
  exact absurd last (by decide)

/-- The packets given up or waited for. -/
def counted (tracker : DelayedLossTracker) : Nat :=
  tracker.snapshot.finalizedLost + tracker.snapshot.pending

/-- The tracker waits only for numbers that it passed. -/
inductive Waits (tracker : DelayedLossTracker) : Prop
  | empty (fresh : tracker = new)
  | passed (top : Nat) (gaps : Finset Nat)
      (stands : tracker.highest = some top)
      (holds : Holds tracker gaps)
      (below : ∀ gap ∈ gaps, gap < top)
      (few : tracker.finalizedLost + gaps.card ≤ top)
      (counter : top < 2 ^ 64)

theorem nearer_lt
    {highest nearest candidate bound : Nat} (first : nearest < bound) (second : candidate < bound) :
    nearer highest nearest candidate < bound := by
  unfold nearer
  split
  · exact second
  · exact first

/-- An extended number stays within the 64-bit range. -/
theorem extendNear_lt
    {top : Nat} (counter : top < 2 ^ 64) (sequence : UInt16) :
    extendNear sequence top < 2 ^ 64 := by
  have small := sequence.toNat_lt
  have base : top / 2 ^ 16 * 2 ^ 16 + sequence.toNat < 2 ^ 64 := by omega
  have above : saturatingAdd (top / 2 ^ 16 * 2 ^ 16 + sequence.toNat) (2 ^ 16) < 2 ^ 64 :=
    (Nat.min_le_right _ _).trans_lt (by decide)
  rw [extendNear_eq_nearer rfl rfl]
  split
  · exact nearer_lt (nearer_lt base above) ((Nat.sub_le _ _).trans_lt base)
  · exact nearer_lt base above

/-- One observation keeps the order of the numbers, and counts the numbers that it
passes. -/
theorem Waits.observe
    {tracker : DelayedLossTracker} (waits : Waits tracker) (sequence : UInt16) :
    Waits (tracker.observe sequence) ∧ ((tracker.observe sequence).counted ≤ tracker.counted ↔
        ∀ top, tracker.highest = some top → extendNear sequence top ≤ top + 1) := by
  cases waits with
  | empty fresh =>
    subst fresh
    have small := sequence.toNat_lt
    have holds : Holds (new.observe sequence) ∅ :=
      ⟨List.length_replicate, Slots.held_replicate_none _⟩
    refine ⟨.passed sequence.toNat ∅ rfl holds (by simp) (Nat.zero_le _) (by omega), ?_⟩
    apply iff_of_true
    · rw [counted, holds.pending_eq]
      exact Nat.zero_le _
    · intro top stands
      cases stands
  | passed top gaps stands holds below few counter =>
    have bound := extendNear_lt counter sequence
    have before : tracker.counted = tracker.finalizedLost + gaps.card := by
      rw [counted, holds.pending_eq]
      rfl
    rcases Nat.lt_or_ge top (extendNear sequence top) with ahead | late
    · obtain ⟨highest, after, count, -⟩ :=
        holds.observe_ahead stands rfl ahead below bound (by omega)
      have passed : (tracker.observe sequence).counted =
          tracker.finalizedLost + gaps.card + (extendNear sequence top - top - 1) := by
        rw [counted, after.pending_eq]
        exact count
      refine ⟨.passed _ _ highest after ?_ (by omega) bound, ?_⟩
      · intro gap stays
        simp only [mem_filter, mem_union, mem_Ioo] at stays
        rcases stays.1 with earlier | row
        · exact (below gap earlier).trans ahead
        · exact row.2
      · rw [passed, before, stands]
        constructor
        · rintro enough other ⟨⟩
          omega
        · intro near
          have close := near top rfl
          omega
    · rw [observe_of_le stands late]
      split
      next waited =>
        have gone := holds.replaceFirst ((holds.mem_iff _).1 waited)
        have cleared : Holds
            { tracker with
              pending := replaceFirst tracker.pending (some (extendNear sequence top)) none
              recoveredLate := saturatingAdd tracker.recoveredLate 1 }
            (gaps.erase (extendNear sequence top)) := ⟨gone.capacity, gone.slots⟩
        have fewer := card_erase_le (s := gaps) (a := extendNear sequence top)
        refine ⟨.passed top _ stands cleared ?_ ?_ counter, ?_⟩
        · intro gap stays
          exact below gap (mem_of_mem_erase stays)
        · exact (Nat.add_le_add_left fewer _).trans few
        · apply iff_of_true
          · rw [before, counted, cleared.pending_eq]
            exact Nat.add_le_add_left fewer _
          · rintro other same
            rw [stands] at same
            cases same
            omega
      next =>
        refine ⟨.passed top gaps stands holds below few counter, ?_⟩
        apply iff_of_true le_rfl
        rintro other same
        rw [stands] at same
        cases same
        omega

end DelayedLossTracker
end Rtp
end LiveAISIP
