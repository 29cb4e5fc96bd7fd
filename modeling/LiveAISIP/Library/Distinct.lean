import Mathlib.Data.List.MinMax
import Mathlib.Data.List.Sort

/-!
# First occurrences

Lists kept to the first occurrence of each value, with and without a bound on
their length, and the order of the values of items that are sorted by a key.
-/

namespace LiveAISIP
namespace Distinct

open List

variable {α : Type*} [DecidableEq α]

theorem eraseDups_concat (values : List α) (value : α) : (values ++ [value]).eraseDups =
      if value ∈ values then values.eraseDups else values.eraseDups ++ [value] := by
  rw [eraseDups_append]
  by_cases old : value ∈ values
  · simp [removeAll, old]
  · simp [removeAll, old, eraseDups_cons]

theorem nodup_eraseDups (values : List α) : values.eraseDups.Nodup := by
  induction values using reverseRecOn with
  | nil => exact nodup_nil
  | append_singleton values value ih =>
    rw [eraseDups_concat]
    split_ifs with old
    · exact ih
    · apply Nodup.append ih (nodup_singleton value)
      intro repeated kept last
      rw [mem_singleton.mp last, mem_eraseDups] at kept
      exact old kept

theorem perm_eraseDups {first second : List α} (perm : first.Perm second) :
    first.eraseDups.Perm second.eraseDups := by
  rw [perm_ext_iff_of_nodup (nodup_eraseDups first) (nodup_eraseDups second)]
  intro value
  rw [mem_eraseDups, mem_eraseDups]
  exact perm.mem_iff

/-- Keep a value that is new, while there is room. -/
def keepNew (limit : Nat) (kept : List α) (value : α) : List α :=
  if value ∈ kept then kept
  else if kept.length = limit then kept
  else kept ++ [value]

theorem foldl_keepNew_of_full
    {limit : Nat} {kept : List α} (full : kept.length = limit) (values : List α) :
    values.foldl (keepNew limit) kept = kept := by
  induction values with
  | nil => rfl
  | cons value values ih =>
    have unchanged : keepNew limit kept value = kept := by
      rw [keepNew, if_pos full, ite_self]
    rw [foldl_cons, unchanged]
    exact ih

theorem keepNew_take (limit : Nat) (values : List α) (value : α) :
    keepNew limit (values.eraseDups.take limit) value =
      (values ++ [value]).eraseDups.take limit := by
  rw [eraseDups_concat]
  by_cases room : values.eraseDups.length < limit
  · rw [take_of_length_le room.le, keepNew, if_neg room.ne]
    simp only [mem_eraseDups]
    split_ifs with old
    · exact (take_of_length_le room.le).symm
    · apply (take_of_length_le _).symm
      rw [length_append]
      exact room
  · have full : (values.eraseDups.take limit).length = limit :=
      length_take_of_le (Nat.le_of_not_lt room)
    have unchanged : keepNew limit (values.eraseDups.take limit) value =
        values.eraseDups.take limit := by
      rw [keepNew, if_pos full, ite_self]
    rw [unchanged]
    split_ifs with old
    · rfl
    · exact (take_append_of_le_length (Nat.le_of_not_lt room)).symm

/-- Keeping new values within a bound takes the first distinct ones. -/
theorem foldl_keepNew (limit : Nat) (earlier values : List α) :
    values.foldl (keepNew limit) (earlier.eraseDups.take limit) =
      (earlier ++ values).eraseDups.take limit := by
  induction values generalizing earlier with
  | nil => rw [append_nil, foldl_nil]
  | cons value values ih =>
    rw [foldl_cons, keepNew_take, ih, append_assoc, singleton_append]

section

variable {ι κ : Type*} [LinearOrder κ] (key : ι → κ) (values : ι → List α)

/-- The least key of the items that a value comes from. -/
def firstKey (items : List ι) (value : α) : WithTop κ :=
  ((items.filter fun item => value ∈ values item).map key).minimum

variable {key values} {items : List ι} {value : α}

theorem firstKey_le {item : ι} (member : item ∈ items) (comes : value ∈ values item) :
    firstKey key values items value ≤ key item := by
  apply minimum_le_of_mem'
  apply mem_map_of_mem
  exact mem_filter.mpr ⟨member, decide_eq_true comes⟩

theorem le_firstKey
    {bound : WithTop κ} (below : ∀ item ∈ items, value ∈ values item → bound ≤ key item) :
    bound ≤ firstKey key values items value := by
  apply le_minimum_of_forall_le
  intro found member
  obtain ⟨item, kept, rfl⟩ := mem_map.mp member
  obtain ⟨member, comes⟩ := mem_filter.mp kept
  exact below item member (of_decide_eq_true comes)

theorem firstKey_perm {other : List ι} (perm : items.Perm other) :
    firstKey key values items value = firstKey key values other value := by
  apply le_antisymm
  · exact le_firstKey fun item member comes => firstKey_le (perm.mem_iff.mpr member) comes
  · exact le_firstKey fun item member comes => firstKey_le (perm.mem_iff.mp member) comes

/-- Before a distinct value of sorted items stand values of items that come no later. -/
theorem pairwise_preceded
    {items : List ι} (sorted : items.Pairwise fun first second => key first ≤ key second) :
    (items.flatMap values).eraseDups.Pairwise fun first second =>
      ∀ item ∈ items, second ∈ values item →
        ∃ earlier ∈ items, first ∈ values earlier ∧ key earlier ≤ key item := by
  induction items using reverseRecOn with
  | nil => exact List.Pairwise.nil
  | append_singleton items last ih =>
    obtain ⟨sorted, -, before⟩ := pairwise_append.mp sorted
    have lifted {first : α} {item : ι}
        (preceded : ∃ earlier ∈ items, first ∈ values earlier ∧ key earlier ≤ key item) :
        ∃ earlier ∈ items ++ [last], first ∈ values earlier ∧ key earlier ≤ key item := by
      obtain ⟨earlier, member, comes, below⟩ := preceded
      exact ⟨earlier, mem_append_left _ member, comes, below⟩
    have beforeLast {first : α} (old : first ∈ (items.flatMap values).eraseDups) :
        ∃ earlier ∈ items, first ∈ values earlier ∧ key earlier ≤ key last := by
      obtain ⟨item, member, comes⟩ := mem_flatMap.mp (mem_eraseDups.mp old)
      exact ⟨item, member, comes, before item member last (mem_singleton_self last)⟩
    -- A new value comes from the last item only.
    have fresh {second : α}
        (new : second ∈ ((values last).removeAll (items.flatMap values)).eraseDups) :
        second ∈ values last ∧ ∀ item ∈ items ++ [last], second ∈ values item → item = last := by
      rw [mem_eraseDups, removeAll, mem_filter, Bool.not_eq_true',
        ← Bool.not_eq_true, elem_iff] at new
      refine ⟨new.1, ?_⟩
      intro item member comes
      rcases mem_append.mp member with member | member
      · exact absurd (mem_flatMap.mpr ⟨item, member, comes⟩) new.2
      · exact mem_singleton.mp member
    rw [flatMap_append, flatMap_singleton, eraseDups_append, pairwise_append]
    refine ⟨(ih sorted).imp_of_mem ?_, ?_, ?_⟩
    · intro first second old _ preceded item member comes
      rcases mem_append.mp member with member | member
      · exact lifted (preceded item member comes)
      · rw [mem_singleton.mp member]
        exact lifted (beforeLast old)
    · apply pairwise_of_forall_mem_list
      intro first firstNew second secondNew item member comes
      rw [(fresh secondNew).2 item member comes]
      exact ⟨last, mem_append_right _ (mem_singleton_self last), (fresh firstNew).1, le_refl _⟩
    · intro first old second new item member comes
      rw [(fresh new).2 item member comes]
      exact lifted (beforeLast old)

/-- The distinct values of sorted items stand in the order of their least keys. -/
theorem pairwise_firstKey (sorted : items.Pairwise fun first second => key first ≤ key second) :
    (items.flatMap values).eraseDups.Pairwise fun first second =>
      firstKey key values items first ≤ firstKey key values items second := by
  apply (pairwise_preceded sorted).imp
  intro first second preceded
  apply le_firstKey
  intro item member comes
  obtain ⟨earlier, found, comes, below⟩ := preceded item member comes
  exact (firstKey_le found comes).trans (WithTop.coe_le_coe.mpr below)

/-- Two sorted orders of the same items give the same least keys, one by one. -/
theorem map_firstKey_perm
    {other : List ι} (perm : items.Perm other)
    (sorted : items.Pairwise fun first second => key first ≤ key second)
    (otherSorted : other.Pairwise fun first second => key first ≤ key second) :
    (items.flatMap values).eraseDups.map (firstKey key values items) =
      (other.flatMap values).eraseDups.map (firstKey key values items) := by
  have same : firstKey key values items = firstKey key values other :=
    funext fun _ => firstKey_perm perm
  have antisymmetric : ∀ first second, first ∈ (items.flatMap values).eraseDups.map
      (firstKey key values items) → second ∈ (other.flatMap values).eraseDups.map
        (firstKey key values other) → first ≤ second → second ≤ first → first = second :=
    fun _ _ _ _ below above => le_antisymm below above
  rw [← same] at antisymmetric
  apply Perm.eq_of_pairwise antisymmetric
  · exact pairwise_map.mpr (pairwise_firstKey sorted)
  · rw [same]
    exact pairwise_map.mpr (pairwise_firstKey otherSorted)
  · exact (perm_eraseDups (perm.flatMap_right values)).map _

end

end Distinct
end LiveAISIP
