import Mathlib.Data.List.Basic

/-!
# Unordered removal

Removing an element of a list by moving the last one into its place, as
growable arrays do when their order does not matter.
-/

namespace LiveAISIP
namespace SwapRemove

/-- The list without the element at an index, whose place the last one takes. -/
def swapRemove (items : List α) (index : Nat) : List α :=
  match items.getLast? with
  | none => []
  | some last => (items.set index last).dropLast

/-- The first element that passes a test, and the list without it. -/
def takeFirst (test : α → Bool) (items : List α) : Option (α × List α) :=
  match items.find? test with
  | none => none
  | some item => some (item, swapRemove items (items.findIdx test))

/-- One element is removed. -/
theorem length_swapRemove (items : List α) (index : Nat) :
    (swapRemove items index).length = items.length - 1 := by
  unfold swapRemove
  cases last : items.getLast? with
  | none => simp [List.getLast?_eq_none_iff.mp last]
  | some last => simp

/-- The element taken is a member that passes the test. -/
theorem mem_of_takeFirst
    {test : α → Bool} {items rest : List α} {item : α}
    (taken : takeFirst test items = some (item, rest)) :
    item ∈ items ∧ test item = true := by
  unfold takeFirst at taken
  cases found : items.find? test with
  | none => simp [found] at taken
  | some first =>
    simp only [found, Option.some.injEq, Prod.mk.injEq] at taken
    obtain ⟨rfl, -⟩ := taken
    exact ⟨List.mem_of_find?_eq_some found, List.find?_some found⟩

end SwapRemove
end LiveAISIP
