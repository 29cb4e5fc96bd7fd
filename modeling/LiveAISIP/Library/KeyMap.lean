import Mathlib.Data.List.AList

/-!
# Finite maps

Maps with finitely many keys and one type of values, over Mathlib's
association lists: their size under insertion, and the restriction to the
values that satisfy a test.
-/

namespace LiveAISIP

open AList

/-- A finite map. -/
abbrev KeyMap (κ : Type u) (β : Type v) := AList fun _ : κ => β

namespace KeyMap

variable {κ : Type u} {β : Type v}

variable {map : KeyMap κ β}

/-- The number of keys. -/
def size (map : KeyMap κ β) : Nat := map.keys.length

/-- Keep the entries whose value passes a test. -/
def keepIf (test : β → Bool) (map : KeyMap κ β) : KeyMap κ β where
  entries := map.entries.filter fun entry => test entry.2
  nodupKeys := map.nodupKeys.sublist List.filter_sublist

/-- Change every value. -/
def mapValues (change : β → β) (map : KeyMap κ β) : KeyMap κ β where
  entries := map.entries.map fun entry => ⟨entry.1, change entry.2⟩
  nodupKeys := by
    have keys : (map.entries.map fun entry =>
        (⟨entry.1, change entry.2⟩ : Sigma fun _ : κ => β)).keys = map.entries.keys := by
      simp [List.keys]
    rw [List.NodupKeys, keys]
    exact map.nodupKeys

theorem size_mapValues (change : β → β) (map : KeyMap κ β) :
    size (map.mapValues change) = size map := by
  simp [size, keys, mapValues, List.keys]

theorem size_keepIf_le (test : β → Bool) (map : KeyMap κ β) :
    size (map.keepIf test) ≤ size map := by
  simp only [size, keys, keepIf, List.keys, List.length_map]
  exact List.length_filter_le _ _

/-- Where as many entries are kept, all of them are. -/
theorem keepIf_of_size_le
    {test : β → Bool} (kept : size map ≤ size (map.keepIf test)) :
    map.keepIf test = map ∧ ∀ entry ∈ map.entries, test entry.2 = true := by
  simp only [size, keys, keepIf, List.keys, List.length_map] at kept
  have all := List.length_filter_eq_length_iff.mp (Nat.le_antisymm (List.length_filter_le _ _) kept)
  exact ⟨ext (List.filter_eq_self.mpr all), all⟩

variable [DecidableEq κ]

/-- Overwriting a value keeps the size. -/
theorem size_insert_of_mem {key : κ} (known : key ∈ map) (value : β) :
    size (map.insert key value) = size map := by
  have member : key ∈ map.keys := mem_keys.mp known
  have positive := List.length_pos_of_mem member
  simp only [size, keys_insert, List.length_cons, List.length_erase_of_mem member]
  omega

/-- A new key adds one to the size. -/
theorem size_insert_of_not_mem {key : κ} (unknown : key ∉ map) (value : β) :
    size (map.insert key value) = size map + 1 := by
  have absent : key ∉ map.keys := fun member =>
    unknown (mem_keys.mpr member)
  simp [size, keys_insert, List.erase_of_not_mem absent]

theorem size_erase_le (map : KeyMap κ β) (key : κ) :
    size (map.erase key) ≤ size map := by
  rw [size, keys_erase]
  exact List.length_erase_le

/-- What is found after an insertion was inserted, or was there before. -/
theorem lookup_insert_cases {key other : κ} {value found : β}
    (stands : (map.insert key value).lookup other = some found) :
    (other = key ∧ found = value) ∨ (other ≠ key ∧ map.lookup other = some found) := by
  by_cases same : other = key
  · subst same
    rw [lookup_insert, Option.some.injEq] at stands
    exact .inl ⟨rfl, stands.symm⟩
  · rw [lookup_insert_ne same] at stands
    exact .inr ⟨same, stands⟩

/-- What is found after a removal was there before, under another key. -/
theorem lookup_of_erase {key other : κ} {found : β}
    (stands : (map.erase key).lookup other = some found) :
    other ≠ key ∧ map.lookup other = some found := by
  by_cases same : other = key
  · subst same
    rw [lookup_erase] at stands
    cases stands
  · rw [lookup_erase_ne same] at stands
    exact ⟨same, stands⟩

/-- A value is kept exactly when it passes the test. -/
theorem lookup_keepIf
    (test : β → Bool) (map : KeyMap κ β) (key : κ) (value : β) :
    (map.keepIf test).lookup key = some value ↔
      map.lookup key = some value ∧ test value = true := by
  have left := mem_lookup_iff (a := key) (b := value) (s := map.keepIf test)
  have right := mem_lookup_iff (a := key) (b := value) (s := map)
  rw [Option.mem_def] at left right
  rw [left, right]
  simp [keepIf]

/-- A changed value is the change of a value. -/
theorem lookup_mapValues
    (change : β → β) (map : KeyMap κ β) (key : κ) (value : β) :
    (map.mapValues change).lookup key = some value ↔
      ∃ before, map.lookup key = some before ∧ change before = value := by
  have left := mem_lookup_iff (a := key) (b := value) (s := map.mapValues change)
  rw [Option.mem_def] at left
  rw [left]
  simp only [mapValues, List.mem_map, Sigma.mk.injEq, heq_eq_eq]
  constructor
  · rintro ⟨⟨found, before⟩, member, rfl, rfl⟩
    exact ⟨before, mem_lookup_iff.mpr member, rfl⟩
  · rintro ⟨before, found, rfl⟩
    exact ⟨⟨key, before⟩, mem_lookup_iff.mp found, rfl, rfl⟩

end KeyMap

end LiveAISIP
