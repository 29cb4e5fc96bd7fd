import LiveAISIP.Library.Bitmap
import LiveAISIP.Library.Run
import Mathlib.Data.Finset.Image
import Mathlib.Data.Fintype.Card

/-!
# Port pairs

The allocator of `rtp/transport/allocator.rs`.  The pairs of a range are the bits of
a packed set; a search for a free pair begins at a cursor and goes around.

In every run the packed set is the multiset of the pairs that were handed out or
reserved and not released since.
-/

namespace LiveAISIP
namespace Rtp

open Finset Run

/-- An even port for media and the odd port after it for control. -/
structure PortPair where
  rtp : UInt16
  rtcp : UInt16
  rtp_ne : rtp ≠ 0
  rtp_even : rtp.toNat % 2 = 0
  rtcp_eq : rtcp = rtp + 1
  deriving DecidableEq

/-- Failure of a range or of a request. -/
inductive PortAllocationError
  | rtpPortZero
  | rtpPortMustBeEven (port : UInt16)
  | rangeReversed (first last : UInt16)
  | outsideRange (pair : PortPair)
  | alreadyAllocated (pair : PortPair)
  | notAllocated (pair : PortPair)
  | allocationFailed

/-- The pair of an even port. -/
def PortPair.new (rtp : UInt16) : Except PortAllocationError PortPair :=
  if zero : rtp = 0 then .error .rtpPortZero
  else if even : rtp.toNat % 2 = 0 then
    if last : rtp = 65534 then .ok ⟨rtp, 65535, zero, even, by rw [last]; rfl⟩
    else .ok ⟨rtp, rtp + 1, zero, even, rfl⟩
  else .error (.rtpPortMustBeEven rtp)

/-- A pair is known by its media port. -/
theorem PortPair.ext_rtp {pair other : PortPair} (same : pair.rtp = other.rtp) :
    pair = other := by
  have controls : pair.rtcp = other.rtcp := by
    rw [pair.rtcp_eq, other.rtcp_eq, same]
  cases pair
  cases other
  cases same
  cases controls
  rfl

/-- The even port of a pair has a pair. -/
theorem PortPair.new_rtp (pair : PortPair) : PortPair.new pair.rtp = .ok pair := by
  rw [PortPair.new, dif_neg pair.rtp_ne, dif_pos pair.rtp_even]
  split_ifs with last
  · exact congrArg Except.ok (PortPair.ext_rtp rfl)
  · exact congrArg Except.ok (PortPair.ext_rtp rfl)

/-- The pairs of a range and the set of those that are taken. -/
structure PortAllocator where
  firstRtp : UInt16
  lastRtp : UInt16
  capacity : Nat
  allocated : Bitmap capacity
  inUse : Nat
  cursor : Fin capacity
  first_ne : firstRtp ≠ 0
  first_even : firstRtp.toNat % 2 = 0
  last_even : lastRtp.toNat % 2 = 0
  ordered : firstRtp.toNat ≤ lastRtp.toNat
  capacity_eq : capacity = ((lastRtp - firstRtp) / 2).toNat + 1

namespace PortAllocator

variable {pair : PortPair}

variable {allocator : PortAllocator}

/-- An allocator without taken pairs.  `grants` tells whether a reservation of that
size is granted. -/
def new (grants : Nat → Bool) (firstRtp lastRtp : UInt16) :
    Except PortAllocationError PortAllocator :=
  if ordered : firstRtp.toNat ≤ lastRtp.toNat then
    if zero : firstRtp = 0 then .error .rtpPortZero
    else if firstEven : firstRtp.toNat % 2 = 0 then
      if lastEven : lastRtp.toNat % 2 = 0 then
        let capacity := ((lastRtp - firstRtp) / 2).toNat + 1
        let allocated := Bitmap.empty capacity
        if grants allocated.words.length then
          .ok ⟨firstRtp, lastRtp, capacity, allocated, 0, ⟨0, Nat.succ_pos _⟩, zero,
            firstEven, lastEven, ordered, rfl⟩
        else .error .allocationFailed
      else .error (.rtpPortMustBeEven lastRtp)
    else .error (.rtpPortMustBeEven firstRtp)
  else .error (.rangeReversed firstRtp lastRtp)

theorem capacity_pos (allocator : PortAllocator) : 0 < allocator.capacity := by
  rw [allocator.capacity_eq]
  exact Nat.succ_pos _

/-- The index at a distance from the cursor. -/
def position (allocator : PortAllocator) (distance : Nat) : Fin allocator.capacity where
  val := (allocator.cursor.val + distance) % allocator.capacity
  isLt := Nat.mod_lt _ allocator.capacity_pos

/-- The pair of an index. -/
def pairAt (allocator : PortAllocator) (index : Nat) : Option PortPair :=
  if 2 ^ 64 ≤ index * 2 then none
  else if 2 ^ 16 ≤ index * 2 then none
  else if 2 ^ 16 ≤ allocator.firstRtp.toNat + index * 2 then none
  else (PortPair.new (allocator.firstRtp + (index * 2).toUInt16)).toOption

theorem capacity_eq_toNat (allocator : PortAllocator) : allocator.capacity =
      (allocator.lastRtp.toNat - allocator.firstRtp.toNat) / 2 + 1 := by
  rw [allocator.capacity_eq, UInt16.toNat_div,
    UInt16.toNat_sub_of_le _ _ (UInt16.le_iff_toNat_le.mpr allocator.ordered)]
  rfl

/-- The index of a pair of the range. -/
def indexOf (allocator : PortAllocator) (pair : PortPair) :
    Except PortAllocationError (Fin allocator.capacity) :=
  if outside : pair.rtp < allocator.firstRtp ∨ allocator.lastRtp < pair.rtp ∨
      pair.rtcp ≠ pair.rtp + 1 then .error (.outsideRange pair)
  else .ok ⟨((pair.rtp - allocator.firstRtp) / 2).toNat, by
    simp only [UInt16.lt_iff_toNat_lt, not_or, Nat.not_lt] at outside
    rw [allocator.capacity_eq_toNat, UInt16.toNat_div,
      UInt16.toNat_sub_of_le _ _ (UInt16.le_iff_toNat_le.mpr outside.1)]
    exact Nat.lt_succ_of_le (Nat.div_le_div_right (Nat.sub_le_sub_right outside.2.1 _))⟩

/-- Take the first free pair from the cursor on. -/
def allocate (allocator : PortAllocator) : PortAllocator × Option PortPair :=
  if allocator.inUse = allocator.capacity then (allocator, none)
  else
    match ((List.range allocator.capacity).map allocator.position).find? fun index =>
        !allocator.allocated.bit index with
    | none => (allocator, none)
    | some index =>
      ({ allocator with
          allocated := allocator.allocated.setBit index true
          inUse := allocator.inUse + 1
          cursor := ⟨(index.val + 1) % allocator.capacity,
            Nat.mod_lt _ allocator.capacity_pos⟩ }, allocator.pairAt index)

/-- Take one pair. -/
def reserve (allocator : PortAllocator) (pair : PortPair) :
    PortAllocator × Except PortAllocationError Unit :=
  match allocator.indexOf pair with
  | .error error => (allocator, .error error)
  | .ok index =>
    if allocator.allocated.bit index then (allocator, .error (.alreadyAllocated pair))
    else
      ({ allocator with
          allocated := allocator.allocated.setBit index true
          inUse := allocator.inUse + 1 }, .ok ())

/-- Give a pair back. -/
def release (allocator : PortAllocator) (pair : PortPair) :
    PortAllocator × Except PortAllocationError Unit :=
  match allocator.indexOf pair with
  | .error error => (allocator, .error error)
  | .ok index =>
    if ¬allocator.allocated.bit index then (allocator, .error (.notAllocated pair))
    else
      ({ allocator with
          allocated := allocator.allocated.setBit index false
          inUse := allocator.inUse - 1 }, .ok ())

/-- The pair is in the range. -/
def InRange (allocator : PortAllocator) (pair : PortPair) : Prop :=
  allocator.firstRtp.toNat ≤ pair.rtp.toNat ∧ pair.rtp.toNat ≤ allocator.lastRtp.toNat

/-- The index of a pair, counted from the first one. -/
def indexIn (allocator : PortAllocator) (pair : PortPair) : Nat :=
  (pair.rtp.toNat - allocator.firstRtp.toNat) / 2

theorem port_toNat (allocator : PortAllocator) (index : Fin allocator.capacity) :
    (allocator.firstRtp + (index.val * 2).toUInt16).toNat =
      allocator.firstRtp.toNat + index.val * 2 := by
  have inside := index.isLt.trans_eq allocator.capacity_eq_toNat
  have first := allocator.first_even
  have last := allocator.last_even
  have ordered := allocator.ordered
  have bound := allocator.lastRtp.toNat_lt
  rw [UInt16.toNat_add, Nat.toUInt16_eq, UInt16.toNat_ofNat']
  omega

/-- The pair of an index. -/
def pairOf (allocator : PortAllocator) (index : Fin allocator.capacity) : PortPair where
  rtp := allocator.firstRtp + (index.val * 2).toUInt16
  rtcp := allocator.firstRtp + (index.val * 2).toUInt16 + 1
  rtp_ne := by
    intro zero
    have port := allocator.port_toNat index
    have positive : allocator.firstRtp.toNat ≠ 0 := fun none =>
      allocator.first_ne (UInt16.toNat_inj.mp none)
    rw [zero, UInt16.toNat_zero] at port
    omega
  rtp_even := by
    have first := allocator.first_even
    rw [allocator.port_toNat index]
    omega
  rtcp_eq := rfl

/-- The source's computation of a pair does not fail inside the range. -/
theorem pairAt_eq (allocator : PortAllocator) (index : Fin allocator.capacity) :
    allocator.pairAt index.val = some (allocator.pairOf index) := by
  have port := allocator.port_toNat index
  have bound := (allocator.firstRtp + (index.val * 2).toUInt16).toNat_lt
  have pair := PortPair.new_rtp (allocator.pairOf index)
  rw [pairAt, if_neg (by omega), if_neg (by omega), if_neg (by omega)]
  rw [show (allocator.pairOf index).rtp =
    allocator.firstRtp + (index.val * 2).toUInt16 from rfl] at pair
  rw [pair]
  rfl

theorem indexIn_pairOf (allocator : PortAllocator) (index : Fin allocator.capacity) :
    allocator.indexIn (allocator.pairOf index) = index.val := by
  rw [indexIn, pairOf, allocator.port_toNat]
  omega

theorem inRange_pairOf (allocator : PortAllocator) (index : Fin allocator.capacity) :
    allocator.InRange (allocator.pairOf index) := by
  have inside := index.isLt.trans_eq allocator.capacity_eq_toNat
  have ordered := allocator.ordered
  rw [InRange, pairOf, allocator.port_toNat]
  omega

theorem pairOf_injective (allocator : PortAllocator) :
    Function.Injective allocator.pairOf := by
  intro first second same
  apply Fin.ext
  rw [← allocator.indexIn_pairOf first, ← allocator.indexIn_pairOf second, same]

/-- A pair of the range has an index. -/
theorem exists_index (inside : allocator.InRange pair) :
    ∃ index, allocator.pairOf index = pair := by
  have small : allocator.indexIn pair < allocator.capacity := by
    obtain ⟨lower, upper⟩ := inside
    rw [allocator.capacity_eq_toNat, indexIn]
    omega
  refine ⟨⟨allocator.indexIn pair, small⟩, PortPair.ext_rtp ?_⟩
  apply UInt16.toNat_inj.mp
  have first := allocator.first_even
  have even := pair.rtp_even
  have lower := inside.1
  rw [pairOf, allocator.port_toNat]
  simp only [indexIn]
  omega

/-- Exactly the pairs of the range have an index. -/
theorem indexOf_pairOf (allocator : PortAllocator) (index : Fin allocator.capacity) :
    allocator.indexOf (allocator.pairOf index) = .ok index := by
  obtain ⟨lower, upper⟩ := allocator.inRange_pairOf index
  have inside : ¬((allocator.pairOf index).rtp < allocator.firstRtp ∨
      allocator.lastRtp < (allocator.pairOf index).rtp ∨
      (allocator.pairOf index).rtcp ≠ (allocator.pairOf index).rtp + 1) := by
    simp only [UInt16.lt_iff_toNat_lt, not_or, Nat.not_lt, ne_eq, not_not]
    exact ⟨lower, upper, rfl⟩
  rw [indexOf, dif_neg inside]
  congr 1
  apply Fin.ext
  rw [← allocator.indexIn_pairOf index, indexIn]
  simp only [UInt16.toNat_div, UInt16.toNat_sub_of_le _ _ (UInt16.le_iff_toNat_le.mpr lower)]
  rfl

theorem indexOf_of_not_inRange (outside : ¬allocator.InRange pair) :
    allocator.indexOf pair = .error (.outsideRange pair) := by
  rw [indexOf, dif_pos]
  simp only [UInt16.lt_iff_toNat_lt]
  simp only [InRange, not_and_or, Nat.not_le] at outside
  exact outside.imp id .inl

/-- The pairs whose bits are set. -/
def allocatedPairs (allocator : PortAllocator) : Finset PortPair :=
  allocator.allocated.members.map ⟨allocator.pairOf, allocator.pairOf_injective⟩

theorem mem_allocatedPairs {index : Fin allocator.capacity} :
    allocator.pairOf index ∈ allocator.allocatedPairs ↔ allocator.allocated.bit index = true := by
  simp [allocatedPairs]

theorem inRange_of_mem_allocatedPairs
    (taken : pair ∈ allocator.allocatedPairs) : allocator.InRange pair := by
  obtain ⟨index, -, rfl⟩ := mem_map.mp taken
  exact allocator.inRange_pairOf index

/-- The counter is the number of taken pairs. -/
def Counted (allocator : PortAllocator) : Prop := allocator.inUse = allocator.allocatedPairs.card

/-- Steps from the cursor to a pair, going around. -/
def cyclicDistance (allocator : PortAllocator) (pair : PortPair) : Nat :=
  (allocator.indexIn pair + allocator.capacity - allocator.cursor.val) % allocator.capacity

/-- A position is as far from the cursor as it was sought. -/
theorem cyclicDistance_position
    (allocator : PortAllocator) {distance : Nat} (small : distance < allocator.capacity) :
    allocator.cyclicDistance (allocator.pairOf (allocator.position distance)) = distance := by
  have cursor := allocator.cursor.isLt
  have stands : (allocator.position distance).val =
      (allocator.cursor.val + distance) % allocator.capacity := rfl
  rw [cyclicDistance, allocator.indexIn_pairOf, stands]
  by_cases around : allocator.cursor.val + distance < allocator.capacity
  · rw [Nat.mod_eq_of_lt around, show allocator.cursor.val + distance + allocator.capacity -
        allocator.cursor.val = distance + allocator.capacity by omega,
      Nat.add_mod_right, Nat.mod_eq_of_lt small]
  · have once : (allocator.cursor.val + distance) % allocator.capacity =
        allocator.cursor.val + distance - allocator.capacity := by
      rw [Nat.mod_eq_sub_mod (by omega), Nat.mod_eq_of_lt (by omega)]
    rw [once, show allocator.cursor.val + distance - allocator.capacity +
      allocator.capacity - allocator.cursor.val = distance by omega, Nat.mod_eq_of_lt small]

/-- Every index is at some distance. -/
theorem exists_position
    (allocator : PortAllocator) (index : Fin allocator.capacity) :
    ∃ distance < allocator.capacity, allocator.position distance = index := by
  have cursor := allocator.cursor.isLt
  have inside := index.isLt
  by_cases ahead : allocator.cursor.val ≤ index.val
  · refine ⟨index.val - allocator.cursor.val, by omega, Fin.ext ?_⟩
    rw [position]
    simp only [Nat.add_sub_cancel' ahead, Nat.mod_eq_of_lt inside]
  · refine ⟨index.val + allocator.capacity - allocator.cursor.val, by omega, Fin.ext ?_⟩
    rw [position]
    simp only [show allocator.cursor.val + (index.val + allocator.capacity - allocator.cursor.val) =
        index.val + allocator.capacity by omega, Nat.add_mod_right, Nat.mod_eq_of_lt inside]

/-- The pair is the first free one from the cursor on. -/
structure FirstFree (allocator : PortAllocator) (pair : PortPair) : Prop where
  inRange : allocator.InRange pair
  free : pair ∉ allocator.allocatedPairs
  first : ∀ other, allocator.InRange other → other ∉ allocator.allocatedPairs →
    allocator.cyclicDistance pair ≤ allocator.cyclicDistance other

/-- The allocator with a bit set. -/
def marked (allocator : PortAllocator) (index cursor : Fin allocator.capacity) : PortAllocator :=
  { allocator with
    allocated := allocator.allocated.setBit index true
    inUse := allocator.inUse + 1
    cursor := cursor }

/-- The allocator with a bit cleared. -/
def cleared (allocator : PortAllocator) (index : Fin allocator.capacity) : PortAllocator :=
  { allocator with
    allocated := allocator.allocated.setBit index false
    inUse := allocator.inUse - 1 }

theorem allocatedPairs_marked
    (allocator : PortAllocator) (index cursor : Fin allocator.capacity) :
    (allocator.marked index cursor).allocatedPairs =
      insert (allocator.pairOf index) allocator.allocatedPairs := by
  rw [allocatedPairs, marked, Bitmap.members_setBit_true, map_insert]
  rfl

theorem allocatedPairs_cleared
    (allocator : PortAllocator) (index : Fin allocator.capacity) :
    (allocator.cleared index).allocatedPairs =
      allocator.allocatedPairs.erase (allocator.pairOf index) := by
  rw [allocatedPairs, cleared, Bitmap.members_setBit_false, map_erase]
  rfl

theorem counted_marked (counted : allocator.Counted)
    {index : Fin allocator.capacity} (cursor : Fin allocator.capacity)
    (free : allocator.pairOf index ∉ allocator.allocatedPairs) :
    (allocator.marked index cursor).Counted := by
  rw [Counted, allocatedPairs_marked, card_insert_of_notMem free, ← counted]
  rfl

theorem counted_cleared (counted : allocator.Counted) {index : Fin allocator.capacity}
    (taken : allocator.pairOf index ∈ allocator.allocatedPairs) :
    (allocator.cleared index).Counted := by
  rw [Counted, allocatedPairs_cleared, card_erase_of_mem taken, ← counted]
  rfl

/-- As many taken pairs as the range has are all of its pairs. -/
theorem full_of_inUse (counted : allocator.Counted)
    (full : allocator.inUse = allocator.capacity) (inside : allocator.InRange pair) :
    pair ∈ allocator.allocatedPairs := by
  obtain ⟨index, rfl⟩ := exists_index inside
  rw [counted, allocatedPairs, card_map] at full
  have everything : allocator.allocated.members = univ := by
    apply (card_eq_iff_eq_univ _).mp
    rw [full, Fintype.card_fin]
  rw [allocatedPairs, everything]
  exact mem_map_of_mem _ (mem_univ index)

/-- Where no position is free, every pair is taken. -/
theorem full_of_find
    (none : ((List.range allocator.capacity).map allocator.position).find?
      (fun index => !allocator.allocated.bit index) = none) (inside : allocator.InRange pair) :
    pair ∈ allocator.allocatedPairs := by
  obtain ⟨index, rfl⟩ := exists_index inside
  obtain ⟨distance, small, rfl⟩ := allocator.exists_position index
  rw [List.find?_map, Option.map_eq_none_iff, List.find?_range_eq_none] at none
  have taken := none distance small
  rw [mem_allocatedPairs]
  simpa using taken

/-- The first free position has the first free pair. -/
theorem firstFree_of_find {index : Fin allocator.capacity}
    (found : ((List.range allocator.capacity).map allocator.position).find?
      (fun index => !allocator.allocated.bit index) = some index) :
    allocator.FirstFree (allocator.pairOf index) := by
  rw [List.find?_map, Option.map_eq_some_iff] at found
  obtain ⟨distance, sought, rfl⟩ := found
  obtain ⟨free, inside, before⟩ := List.find?_range_eq_some.mp sought
  have small := List.mem_range.mp inside
  refine ⟨allocator.inRange_pairOf _, ?_, ?_⟩
  · rw [mem_allocatedPairs]
    simpa using free
  · intro other otherInside otherFree
    obtain ⟨position, rfl⟩ := exists_index otherInside
    obtain ⟨further, bounded, rfl⟩ := allocator.exists_position position
    rw [cyclicDistance_position allocator small, cyclicDistance_position allocator bounded]
    by_contra nearer
    have taken := before further (Nat.not_le.mp nearer)
    rw [mem_allocatedPairs] at otherFree
    exact otherFree (by simpa using taken)

/-- A grant is the first free pair, and there is none exactly where the range is
taken. -/
theorem allocate_cases (counted : allocator.Counted) :
    (allocator.allocate = (allocator, none) ∧
        ∀ pair, allocator.InRange pair → pair ∈ allocator.allocatedPairs) ∨
      ∃ index cursor, allocator.FirstFree (allocator.pairOf index) ∧
        cursor.val = (index.val + 1) % allocator.capacity ∧
        allocator.allocate = (allocator.marked index cursor, some (allocator.pairOf index)) := by
  by_cases full : allocator.inUse = allocator.capacity
  · left
    rw [allocate, if_pos full]
    exact ⟨rfl, fun pair => full_of_inUse counted full⟩
  · cases found : ((List.range allocator.capacity).map allocator.position).find?
        fun index => !allocator.allocated.bit index with
    | none =>
      left
      rw [allocate, if_neg full, found]
      exact ⟨rfl, fun pair => full_of_find found⟩
    | some index =>
      right
      refine ⟨index, ⟨(index.val + 1) % allocator.capacity,
        Nat.mod_lt _ allocator.capacity_pos⟩, firstFree_of_find found, rfl, ?_⟩
      rw [allocate, if_neg full, found]
      simp only [allocator.pairAt_eq]
      rfl

/-- A free pair of the range is reserved, and no other one. -/
theorem reserve_cases (allocator : PortAllocator) (pair : PortPair) :
    (∃ error, allocator.reserve pair = (allocator, .error error) ∧
        (allocator.InRange pair → pair ∈ allocator.allocatedPairs)) ∨
      ∃ index, allocator.pairOf index = pair ∧ pair ∉ allocator.allocatedPairs ∧
        allocator.reserve pair = (allocator.marked index allocator.cursor, .ok ()) := by
  by_cases inside : allocator.InRange pair
  · obtain ⟨index, rfl⟩ := exists_index inside
    by_cases taken : allocator.allocated.bit index = true
    · left
      refine ⟨.alreadyAllocated (allocator.pairOf index), ?_, fun _ =>
        mem_allocatedPairs.mpr taken⟩
      rw [reserve, allocator.indexOf_pairOf]
      simp only [if_pos taken]
    · right
      refine ⟨index, rfl, fun member => taken (mem_allocatedPairs.mp member), ?_⟩
      rw [reserve, allocator.indexOf_pairOf]
      simp only [if_neg taken]
      rfl
  · left
    refine ⟨.outsideRange pair, ?_, fun within => absurd within inside⟩
    rw [reserve, indexOf_of_not_inRange inside]

/-- A taken pair is released, and no other one. -/
theorem release_cases (allocator : PortAllocator) (pair : PortPair) :
    (∃ error, allocator.release pair = (allocator, .error error) ∧
        pair ∉ allocator.allocatedPairs) ∨
      ∃ index, allocator.pairOf index = pair ∧ pair ∈ allocator.allocatedPairs ∧
        allocator.release pair = (allocator.cleared index, .ok ()) := by
  by_cases inside : allocator.InRange pair
  · obtain ⟨index, rfl⟩ := exists_index inside
    by_cases taken : allocator.allocated.bit index = true
    · right
      refine ⟨index, rfl, mem_allocatedPairs.mpr taken, ?_⟩
      rw [release, allocator.indexOf_pairOf]
      simp only [if_neg (not_not.mpr taken)]
      rfl
    · left
      refine ⟨.notAllocated (allocator.pairOf index), ?_, fun member =>
        taken (mem_allocatedPairs.mp member)⟩
      rw [release, allocator.indexOf_pairOf]
      simp only [if_pos taken]
  · left
    refine ⟨.outsideRange pair, ?_, fun member =>
      inside (inRange_of_mem_allocatedPairs member)⟩
    rw [release, indexOf_of_not_inRange inside]

/-- A call of the allocator. -/
inductive PortCall
  | allocate
  | reserve (pair : PortPair)
  | release (pair : PortPair)

/-- What a call returns. -/
inductive PortReply
  | granted (pair : Option PortPair)
  | done (outcome : Except PortAllocationError Unit)

/-- One call. -/
def step (allocator : PortAllocator) : PortCall → PortAllocator × PortReply
  | .allocate => (allocator.allocate.1, .granted allocator.allocate.2)
  | .reserve pair => ((allocator.reserve pair).1, .done (allocator.reserve pair).2)
  | .release pair => ((allocator.release pair).1, .done (allocator.release pair).2)

/-- The pairs held after a call: what was granted is held once more and what was
released is held once less. -/
def account (held : Multiset PortPair) : PortCall × PortReply → Multiset PortPair
  | (.allocate, .granted (some pair)) => pair ::ₘ held
  | (.reserve pair, .done (.ok ())) => pair ::ₘ held
  | (.release pair, .done (.ok ())) => held.erase pair
  | _ => held

/-- The pairs that the callers hold after a run. -/
def heldBy (history : List (PortCall × PortReply)) : Multiset PortPair := history.foldl account 0

/-- The allocator of a range knows what its callers hold. -/
structure Accounts (firstRtp lastRtp : UInt16) (held : Multiset PortPair)
    (allocator : PortAllocator) : Prop where
  held_eq : held = allocator.allocatedPairs.val
  counted : allocator.Counted
  first_eq : allocator.firstRtp = firstRtp
  last_eq : allocator.lastRtp = lastRtp

section Accounts

variable {firstRtp lastRtp : UInt16} {held : Multiset PortPair}
theorem Accounts.marked
    (accounts : Accounts firstRtp lastRtp held allocator)
    {index : Fin allocator.capacity} (cursor : Fin allocator.capacity)
    (free : allocator.pairOf index ∉ allocator.allocatedPairs) :
    Accounts firstRtp lastRtp (allocator.pairOf index ::ₘ held)
      (allocator.marked index cursor) where
  held_eq := by
    rw [accounts.held_eq, allocatedPairs_marked, insert_val_of_notMem free]
  counted := counted_marked accounts.counted cursor free
  first_eq := accounts.first_eq
  last_eq := accounts.last_eq

theorem Accounts.cleared
    (accounts : Accounts firstRtp lastRtp held allocator) {index : Fin allocator.capacity}
    (taken : allocator.pairOf index ∈ allocator.allocatedPairs) :
    Accounts firstRtp lastRtp (held.erase (allocator.pairOf index)) (allocator.cleared index) where
  held_eq := by
    rw [accounts.held_eq, allocatedPairs_cleared, erase_val]
  counted := counted_cleared accounts.counted taken
  first_eq := accounts.first_eq
  last_eq := accounts.last_eq

/-- Every call is accounted for. -/
theorem Accounts.step
    (accounts : Accounts firstRtp lastRtp held allocator) (call : PortCall) :
    Accounts firstRtp lastRtp (account held (call, (allocator.step call).2))
      (allocator.step call).1 := by
  cases call with
  | allocate =>
    rw [PortAllocator.step]
    rcases allocate_cases accounts.counted with
      ⟨unchanged, -⟩ | ⟨index, cursor, first, -, granted⟩
    · rw [unchanged]
      exact accounts
    · rw [granted]
      exact accounts.marked cursor first.free
  | reserve pair =>
    rw [PortAllocator.step]
    rcases reserve_cases allocator pair with
      ⟨error, refused, -⟩ | ⟨index, rfl, free, reserved⟩
    · rw [refused]
      exact accounts
    · rw [reserved]
      exact accounts.marked allocator.cursor free
  | release pair =>
    rw [PortAllocator.step]
    rcases release_cases allocator pair with
      ⟨error, refused, -⟩ | ⟨index, rfl, taken, released⟩
    · rw [refused]
      exact accounts
    · rw [released]
      exact accounts.cleared taken

end Accounts

/-- A new allocator holds nothing. -/
theorem accounts_new
    {grants : Nat → Bool} {firstRtp lastRtp : UInt16} {fresh : PortAllocator}
    (created : new grants firstRtp lastRtp = .ok fresh) :
    Accounts firstRtp lastRtp 0 fresh := by
  rw [new] at created
  dsimp only at created
  split_ifs at created
  cases created
  have nothing : ∀ allocator : PortAllocator,
      allocator.allocated = Bitmap.empty allocator.capacity → allocator.allocatedPairs = ∅ := by
    intro allocator empty
    rw [allocatedPairs, empty, Bitmap.members_empty, map_empty]
  exact {
    held_eq := by rw [nothing _ rfl]; rfl
    counted := by rw [Counted, nothing _ rfl]; rfl
    first_eq := rfl
    last_eq := rfl }

/-- Every run is accounted for. -/
theorem accounts_after
    {grants : Nat → Bool} {firstRtp lastRtp : UInt16} {fresh : PortAllocator}
    (created : new grants firstRtp lastRtp = .ok fresh) (calls : List PortCall) :
    Accounts firstRtp lastRtp (heldBy (history step fresh calls)) (after step fresh calls) := by
  refine @history_invariant _ _ _ _ _ (fun calls allocator => Accounts firstRtp lastRtp
      (heldBy (history step fresh calls)) allocator)
    (accounts_new created) ?_ calls
  intro earlier call accounts
  rw [history_concat, heldBy, List.foldl_concat]
  exact accounts.step call

/-- The allocator is a finite set of pairs.  In every run its set bits are what the
callers hold, each pair once; it grants the first free pair from its cursor while
there is one; and a refused call changes nothing. -/
theorem portAllocator_refines_set
    (grants : Nat → Bool) (firstRtp lastRtp : UInt16) (fresh : PortAllocator)
    (created : new grants firstRtp lastRtp = .ok fresh) (calls : List PortCall) :
    let allocator := after step fresh calls
    heldBy (history step fresh calls) = allocator.allocatedPairs.val ∧
      (heldBy (history step fresh calls)).Nodup ∧
      allocator.inUse = allocator.allocatedPairs.card ∧
      (∀ pair, allocator.InRange pair ↔
        firstRtp.toNat ≤ pair.rtp.toNat ∧ pair.rtp.toNat ≤ lastRtp.toNat) ∧
      (allocator.allocate.2 = none ↔
        ∀ pair, allocator.InRange pair → pair ∈ allocator.allocatedPairs) ∧
      (∀ pair, allocator.allocate.2 = some pair → allocator.FirstFree pair ∧
        allocator.allocate.1.cursor.val = (allocator.indexIn pair + 1) % allocator.capacity) ∧
      (∀ pair, (allocator.reserve pair).2 = .ok () ↔
        allocator.InRange pair ∧ pair ∉ allocator.allocatedPairs) ∧
      (∀ pair, (allocator.release pair).2 = .ok () ↔ pair ∈ allocator.allocatedPairs) ∧
      (∀ pair, (allocator.reserve pair).2 ≠ .ok () → (allocator.reserve pair).1 = allocator) ∧
      ∀ pair, (allocator.release pair).2 ≠ .ok () → (allocator.release pair).1 = allocator := by
  intro allocator
  have accounts := accounts_after created calls
  refine ⟨accounts.held_eq, ?_, accounts.counted, ?_, ?_, ?_, ?_, ?_, ?_, ?_⟩
  · rw [accounts.held_eq]
    exact nodup _
  · intro pair
    rw [InRange, accounts.first_eq, accounts.last_eq]
  · rcases allocate_cases accounts.counted with
      ⟨unchanged, full⟩ | ⟨index, cursor, first, -, granted⟩
    · simp only [allocator, unchanged, true_iff]
      exact full
    · simp only [allocator, granted, reduceCtorEq, false_iff]
      exact fun full => first.free (full _ first.inRange)
  · intro pair returned
    rcases allocate_cases accounts.counted with
      ⟨unchanged, full⟩ | ⟨index, cursor, first, moved, granted⟩
    · simp only [allocator, unchanged, reduceCtorEq] at returned
    · simp only [allocator, granted, Option.some.injEq] at returned
      subst returned
      refine ⟨first, ?_⟩
      rw [indexIn_pairOf, ← moved]
      exact congrArg (fun next => next.1.cursor.val) granted
  · intro pair
    rcases reserve_cases allocator pair with
      ⟨error, refused, taken⟩ | ⟨index, rfl, free, reserved⟩
    · simp only [refused, reduceCtorEq, false_iff]
      exact fun holds => holds.2 (taken holds.1)
    · simp only [reserved, true_iff]
      exact ⟨allocator.inRange_pairOf index, free⟩
  · intro pair
    rcases release_cases allocator pair with
      ⟨error, refused, free⟩ | ⟨index, rfl, taken, released⟩
    · simp only [refused, reduceCtorEq, false_iff]
      exact free
    · simp only [released, true_iff]
      exact taken
  · intro pair failed
    rcases reserve_cases allocator pair with
      ⟨error, refused, taken⟩ | ⟨index, rfl, free, reserved⟩
    · rw [refused]
    · exact absurd (by rw [reserved]) failed
  · intro pair failed
    rcases release_cases allocator pair with
      ⟨error, refused, free⟩ | ⟨index, rfl, taken, released⟩
    · rw [refused]
    · exact absurd (by rw [released]) failed

/-- The last two pairs of all ports. -/
def lastPairs : PortAllocator where
  firstRtp := 65532
  lastRtp := 65534
  capacity := 2
  allocated := Bitmap.empty 2
  inUse := 0
  cursor := 0
  first_ne := by decide
  first_even := by decide
  last_even := by decide
  ordered := by decide
  capacity_eq := by decide

theorem portAllocator_refines_set_lastPairs :
    let allocator := after step lastPairs [.allocate, .allocate]
    heldBy (history step lastPairs [.allocate, .allocate]) = allocator.allocatedPairs.val ∧
      allocator.inUse = allocator.allocatedPairs.card ∧
      ∀ pair, allocator.InRange pair ↔ 65532 ≤ pair.rtp.toNat ∧ pair.rtp.toNat ≤ 65534 := by
  obtain ⟨held, -, counted, range, -⟩ :=
    portAllocator_refines_set (fun _ => true) 65532 65534 lastPairs rfl [.allocate, .allocate]
  exact ⟨held, counted, range⟩

end PortAllocator
end Rtp
end LiveAISIP
