import Mathlib.Data.List.Perm.Basic
import Mathlib.Data.Multiset.Filter
import Mathlib.Data.Multiset.Count

/-!
# Slots without an order

A list of optional values used as a bag.  Only what is held matters; which slot
holds it does not.
-/

namespace LiveAISIP
namespace Slots

open List

variable {slots : List (Option α)}

/-- The values that the slots hold. -/
def held (slots : List (Option α)) : Multiset α :=
  Multiset.filterMap id (slots : Multiset (Option α))

@[simp] theorem mem_held {value : α} :
    value ∈ held slots ↔ some value ∈ slots := by
  simp [held]

@[simp] theorem held_nil : held ([] : List (Option α)) = 0 := rfl

@[simp] theorem held_none_cons (slots : List (Option α)) :
    held (none :: slots) = held slots := by
  simp only [held, ← Multiset.cons_coe]
  exact Multiset.filterMap_cons_none _ _ rfl

@[simp] theorem held_some_cons (value : α) (slots : List (Option α)) :
    held (some value :: slots) = value ::ₘ held slots := by
  simp only [held, ← Multiset.cons_coe]
  exact Multiset.filterMap_cons_some _ _ _ rfl

@[simp] theorem held_replicate_none (count : Nat) :
    held (replicate count (none : Option α)) = 0 := by
  induction count with
  | zero => rfl
  | succ count ih =>
    rw [replicate_succ, held_none_cons, ih]

theorem held_perm {first second : List (Option α)} (perm : first.Perm second) :
    held first = held second := by
  rw [held, held, Multiset.coe_eq_coe.2 perm]

/-- Slots without a free one hold as many values as there are slots. -/
theorem card_held_of_full (full : none ∉ slots) :
    (held slots).card = slots.length := by
  induction slots with
  | nil => rfl
  | cons slot slots ih =>
    rw [mem_cons, not_or] at full
    cases slot with
    | none => exact absurd rfl full.1
    | some value => simp [ih full.2]

/-- A free slot takes a value. -/
theorem held_set_of_none {position : Nat}
    (inside : position < slots.length) (free : slots[position] = none) (value : α) :
    held (slots.set position (some value)) = value ::ₘ held slots := by
  have rest := getElem_cons_eraseIdx_perm inside
  rw [free] at rest
  rw [held_perm (set_perm_cons_eraseIdx inside _), held_some_cons,
    ← held_none_cons (slots.eraseIdx position), held_perm rest]

/-- A slot is cleared. -/
theorem cons_held_set_none {position : Nat} {value : α}
    (inside : position < slots.length) (stands : slots[position] = some value) :
    value ::ₘ held (slots.set position none) = held slots := by
  have rest := getElem_cons_eraseIdx_perm inside
  rw [stands] at rest
  rw [held_perm (set_perm_cons_eraseIdx inside _), held_none_cons, ← held_some_cons, held_perm rest]

/-- A slot is overwritten. -/
theorem cons_held_set_some {position : Nat} {old : α}
    (inside : position < slots.length) (stands : slots[position] = some old) (value : α) :
    old ::ₘ held (slots.set position (some value)) = value ::ₘ held slots := by
  have rest := getElem_cons_eraseIdx_perm inside
  rw [stands] at rest
  rw [held_perm (set_perm_cons_eraseIdx inside _), held_some_cons,
    Multiset.cons_swap, ← held_some_cons old, held_perm rest]

/-- Every slot with a value of some kind is cleared. -/
theorem held_map_clear (gone : α → Bool) (slots : List (Option α)) :
    held (slots.map fun slot => if slot.any gone then none else slot) =
      (held slots).filter fun value => gone value = false := by
  induction slots with
  | nil => rfl
  | cons slot slots ih =>
    cases slot with
    | none => simpa using ih
    | some value =>
      cases kind : gone value
      all_goals simp [kind, ih]

/-- The slots with a value of some kind are counted among the values. -/
theorem countP_any (gone : α → Bool) (slots : List (Option α)) :
    slots.countP (fun slot => slot.any gone) =
      ((held slots).filter fun value => gone value = true).card := by
  induction slots with
  | nil => rfl
  | cons slot slots ih =>
    cases slot with
    | none => simpa using ih
    | some value =>
      cases kind : gone value
      all_goals simp [kind, ih]

/-- The taken slots are as many as the values. -/
theorem countP_isSome (slots : List (Option α)) :
    slots.countP Option.isSome = (held slots).card := by
  induction slots with
  | nil => rfl
  | cons slot slots ih =>
    cases slot with
    | none => simpa using ih
    | some value => simp [ih]

end Slots
end LiveAISIP
